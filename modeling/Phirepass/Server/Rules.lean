/-
# `Phirepass.Server.Rules` — the rules of every task, and that the server follows them

The remaining tasks are short, so their rules are exact: an HTTP request runs
once, and the history in front of each of its commands is known entirely.
`VerifyMay.encode` is the one place where a node token is issued; everything
the login of a node rests on can be read off its history.

`server_follows` puts the tasks together.  With it, an invariant of the whole
server is a single induction over runs (`server_inv`) in which every step
comes with the rule it obeyed.
-/
import Phirepass.Server.NodeRules

namespace Phirepass.Server

open Rust Interleave Prog

/-! ## HTTP requests -/

/-- The answers of `create_auth_challenge`, each with the whole history in front of it. -/
inductive CreateAnswers (payload : ChallengeRequest) : Hist Resp → Response → Prop
  | lookupFailed {challenge err : String} :
      CreateAnswers payload
        [⟨.db (.getNodeClaimByIdOptional payload.nodeId), .error err⟩,
          ⟨.generateChallenge, challenge⟩]
        ⟨INTERNAL_SERVER_ERROR,
          .failure (some "CHALLENGE_LOOKUP_FAILED") "failed to create challenge"⟩
  | unusable {challenge : String} {found : Option NodeClaimRecord}
      (hfound : ∀ node, found = some node → node.revoked = true) :
      CreateAnswers payload
        [⟨.db (.getNodeClaimByIdOptional payload.nodeId), .ok found⟩,
          ⟨.generateChallenge, challenge⟩]
        ⟨OK, .challenge challenge⟩
  | writeFailed {challenge err : String} {node : NodeClaimRecord} {now expiresAt : Time} :
      CreateAnswers payload
        [⟨.db (.upsertAuthChallenge node.id challenge expiresAt), .error err⟩, ⟨.now, now⟩,
          ⟨.db (.getNodeClaimByIdOptional payload.nodeId), .ok (some node)⟩,
          ⟨.generateChallenge, challenge⟩]
        ⟨INTERNAL_SERVER_ERROR,
          .failure (some "CHALLENGE_WRITE_FAILED") "failed to create challenge"⟩
  | stored {challenge : String} {node : NodeClaimRecord} {now expiresAt : Time} :
      CreateAnswers payload
        [⟨.db (.upsertAuthChallenge node.id challenge expiresAt), .ok ()⟩, ⟨.now, now⟩,
          ⟨.db (.getNodeClaimByIdOptional payload.nodeId), .ok (some node)⟩,
          ⟨.generateChallenge, challenge⟩]
        ⟨OK, .challenge challenge⟩

/-- `create_auth_challenge`. -/
inductive CreateMay (S : Setup) (payload : ChallengeRequest) : Hist Resp → Cmd → Prop
  | generate : CreateMay S payload [] .generateChallenge
  | node {challenge : String} :
      CreateMay S payload [⟨.generateChallenge, challenge⟩]
        (.db (.getNodeClaimByIdOptional payload.nodeId))
  | now {h : Hist Resp} : CreateMay S payload h .now
  | upsert {challenge : String} {node : NodeClaimRecord} {now : Time}
      (hrevoked : node.revoked = false) :
      CreateMay S payload
        [⟨.now, now⟩, ⟨.db (.getNodeClaimByIdOptional payload.nodeId), .ok (some node)⟩,
          ⟨.generateChallenge, challenge⟩]
        (.db (.upsertAuthChallenge node.id challenge (now + S.challengeTtlSecs * 1000)))
  | respond {h : Hist Resp} {response : Response} (ha : CreateAnswers payload h response) :
      CreateMay S payload h (.respond response)

/-- The challenge a verify request carries. -/
def VerifyRequest.text (payload : VerifyRequest) : String := trim payload.challenge

/-- The history of a verify request that found and consumed its challenge. -/
abbrev consumed (payload : VerifyRequest) (node : NodeClaimRecord) (row : AuthChallengeRecord) :
    Hist Resp :=
  [⟨.db (.consumeAuthChallenge payload.nodeId payload.text), .ok ()⟩,
    ⟨.db (.getAuthChallenge payload.nodeId payload.text), .ok (some row)⟩,
    ⟨.db (.getNodeClaimById payload.nodeId), .ok node⟩]

/-- The request has found its challenge and not yet consumed it. -/
def Pending (payload : VerifyRequest) (h : Hist Resp) : Prop :=
  ∃ row h', h = ⟨.db (.getAuthChallenge payload.nodeId payload.text), .ok (some row)⟩ :: h'

/-- The answers of `verify_auth_challenge`, likewise. -/
inductive VerifyAnswers (S : Setup) (payload : VerifyRequest) : Hist Resp → Response → Prop
  | missing {err : String} :
      VerifyAnswers S payload [⟨.db (.getNodeClaimById payload.nodeId), .error err⟩]
        unauthorizedVerify
  | revoked {node : NodeClaimRecord} (hrevoked : node.revoked = true) :
      VerifyAnswers S payload [⟨.db (.getNodeClaimById payload.nodeId), .ok node⟩]
        unauthorizedVerify
  | lookupFailed {node : NodeClaimRecord} {err : String} :
      VerifyAnswers S payload
        [⟨.db (.getAuthChallenge payload.nodeId payload.text), .error err⟩,
          ⟨.db (.getNodeClaimById payload.nodeId), .ok node⟩]
        ⟨INTERNAL_SERVER_ERROR, .failure (some "AUTH_CHALLENGE_LOOKUP_FAILED") err⟩
  | unknown {node : NodeClaimRecord} :
      VerifyAnswers S payload
        [⟨.db (.getAuthChallenge payload.nodeId payload.text), .ok none⟩,
          ⟨.db (.getNodeClaimById payload.nodeId), .ok node⟩]
        unauthorizedVerify
  | consumeFailed {node : NodeClaimRecord} {row : AuthChallengeRecord} {err : String} :
      VerifyAnswers S payload
        [⟨.db (.consumeAuthChallenge payload.nodeId payload.text), .error err⟩,
          ⟨.db (.getAuthChallenge payload.nodeId payload.text), .ok (some row)⟩,
          ⟨.db (.getNodeClaimById payload.nodeId), .ok node⟩]
        ⟨INTERNAL_SERVER_ERROR, .failure (some "AUTH_CHALLENGE_CONSUME_FAILED") err⟩
  | expired {node : NodeClaimRecord} {row : AuthChallengeRecord} {now : Time}
      (hexpiry : row.expiresAt ≤ now) :
      VerifyAnswers S payload (⟨.now, now⟩ :: consumed payload node row) unauthorizedVerify
  | unsigned {node : NodeClaimRecord} {row : AuthChallengeRecord} {now : Time}
      (hsig : verifySignature S.crates node.publicKey payload.text (trim payload.signature)
        ≠ .ok ()) :
      VerifyAnswers S payload (⟨.now, now⟩ :: consumed payload node row) unauthorizedVerify
  | issueFailed {node : NodeClaimRecord} {row : AuthChallengeRecord} {now iat : Time}
      {claims : NodeJwtClaims} {err : String}
      (hsig : verifySignature S.crates node.publicKey payload.text (trim payload.signature)
        = .ok ()) :
      VerifyAnswers S payload
        (⟨.encodeNodeJwt claims, .error err⟩ :: ⟨.now, iat⟩ :: ⟨.now, now⟩ ::
          consumed payload node row)
        ⟨INTERNAL_SERVER_ERROR, .failure (some "AUTH_JWT_ISSUE_FAILED") err⟩
  | verified {node : NodeClaimRecord} {row : AuthChallengeRecord} {now iat expiresAt : Time}
      {claims : NodeJwtClaims} {accessToken : String}
      (hsig : verifySignature S.crates node.publicKey payload.text (trim payload.signature)
        = .ok ()) :
      VerifyAnswers S payload
        (⟨.encodeNodeJwt claims, .ok accessToken⟩ :: ⟨.now, iat⟩ :: ⟨.now, now⟩ ::
          consumed payload node row)
        ⟨OK, .verified accessToken expiresAt⟩

/-- A request that answers has consumed what it found. -/
theorem VerifyAnswers.not_pending {S : Setup} {payload : VerifyRequest} {h : Hist Resp}
    {response : Response} (ha : VerifyAnswers S payload h response) : ¬ Pending payload h := by
  rintro ⟨row, h', hp⟩
  cases ha <;> cases hp

/-- `verify_auth_challenge`. -/
inductive VerifyMay (S : Setup) (payload : VerifyRequest) : Hist Resp → Cmd → Prop
  | node : VerifyMay S payload [] (.db (.getNodeClaimById payload.nodeId))
  | lookup {node : NodeClaimRecord} (hrevoked : node.revoked = false) :
      VerifyMay S payload [⟨.db (.getNodeClaimById payload.nodeId), .ok node⟩]
        (.db (.getAuthChallenge payload.nodeId payload.text))
  | consume {node : NodeClaimRecord} {row : AuthChallengeRecord} :
      VerifyMay S payload
        [⟨.db (.getAuthChallenge payload.nodeId payload.text), .ok (some row)⟩,
          ⟨.db (.getNodeClaimById payload.nodeId), .ok node⟩]
        (.db (.consumeAuthChallenge payload.nodeId payload.text))
  | now {node : NodeClaimRecord} {row : AuthChallengeRecord} :
      VerifyMay S payload (consumed payload node row) .now
  | iat {node : NodeClaimRecord} {row : AuthChallengeRecord} {now : Time} :
      VerifyMay S payload (⟨.now, now⟩ :: consumed payload node row) .now
  | encode {node : NodeClaimRecord} {row : AuthChallengeRecord} {now iat : Time}
      (hrevoked : node.revoked = false) (hexpiry : now < row.expiresAt)
      (hsig : verifySignature S.crates node.publicKey payload.text (trim payload.signature)
        = .ok ()) :
      VerifyMay S payload (⟨.now, iat⟩ :: ⟨.now, now⟩ :: consumed payload node row)
        (.encodeNodeJwt (nodeJwtClaims S payload.nodeId iat))
  | respond {h : Hist Resp} {response : Response} (ha : VerifyAnswers S payload h response) :
      VerifyMay S payload h (.respond response)

/-- `heartbeat` behind `require_node_jwt`. -/
inductive HeartbeatMay : Cmd → Prop
  | decode {token : String} : HeartbeatMay (.decodeNodeJwt token)
  | node {n : Uuid} : HeartbeatMay (.db (.getNodeClaimById n))
  | touch {n : Uuid} : HeartbeatMay (.db (.touchNodeLastSeen n))
  | now : HeartbeatMay .now
  | respond {response : Response} : HeartbeatMay (.respond response)

/-- What the request `r` may issue after the history `h`. -/
inductive RequestMay (S : Setup) (r : Nat) (h : Hist Resp) (c : Cmd) : Prop
  | create {payload : ChallengeRequest} (hp : S.requests r = .createAuthChallenge payload)
      (hc : CreateMay S payload h c)
  | verify {payload : VerifyRequest} (hp : S.requests r = .verifyAuthChallenge payload)
      (hc : VerifyMay S payload h c)
  | heartbeat {authorization : Option (Option String)}
      (hp : S.requests r = .heartbeat authorization) (hc : HeartbeatMay c)

section Requests

variable {S : Setup} {h : Hist Resp}

theorem createAuthChallenge_conforms {payload : ChallengeRequest} :
    (createAuthChallenge S payload).Conforms (Issues (CreateMay S payload))
      (fun response h => CreateAnswers payload h response) [] := by
  refine conforms_call.2 ⟨.generate, fun challenge => ?_⟩
  refine conforms_call.2 ⟨.node, fun found => ?_⟩
  match found with
  | .error _ => exact CreateAnswers.lookupFailed
  | .ok none => exact CreateAnswers.unusable fun _ hnode => nomatch hnode
  | .ok (some node) =>
      cases hrevoked : node.revoked with
      | true =>
          simp only [hrevoked, if_true]
          refine CreateAnswers.unusable fun node' hnode => ?_
          cases hnode
          exact hrevoked
      | false =>
          simp only [hrevoked, Bool.false_eq_true, if_false]
          refine conforms_call.2 ⟨.now, fun now => ?_⟩
          refine conforms_call.2 ⟨.upsert hrevoked, fun stored => ?_⟩
          match stored with
          | .error _ => exact CreateAnswers.writeFailed
          | .ok () => exact CreateAnswers.stored

theorem verifyAuthChallenge_conforms {payload : VerifyRequest} :
    (verifyAuthChallenge S payload).Conforms (Issues (VerifyMay S payload))
      (fun response h => VerifyAnswers S payload h response) [] := by
  refine conforms_call.2 ⟨.node, fun found => ?_⟩
  match found with
  | .error _ => exact VerifyAnswers.missing
  | .ok node =>
      cases hrevoked : node.revoked with
      | true =>
          simp only [hrevoked, if_true]
          exact VerifyAnswers.revoked hrevoked
      | false =>
          simp only [hrevoked, Bool.false_eq_true, if_false]
          refine conforms_call.2 ⟨.lookup hrevoked, fun found => ?_⟩
          match found with
          | .error _ => exact VerifyAnswers.lookupFailed
          | .ok none => exact VerifyAnswers.unknown
          | .ok (some row) =>
              refine conforms_call.2 ⟨.consume, fun deleted => ?_⟩
              match deleted with
              | .error _ => exact VerifyAnswers.consumeFailed
              | .ok () =>
                  refine conforms_call.2 ⟨.now, fun now => ?_⟩
                  by_cases hexpiry : row.expiresAt ≤ now
                  · simp only [hexpiry, if_true]
                    exact VerifyAnswers.expired hexpiry
                  · simp only [hexpiry, if_false]
                    split
                    · next err hsig =>
                        refine VerifyAnswers.unsigned fun hok => ?_
                        rw [VerifyRequest.text, hsig] at hok
                        cases hok
                    · next hsig =>
                        refine conforms_bind.2 (conforms_call.2 ⟨.iat, fun iat => ?_⟩)
                        refine conforms_call.2
                          ⟨.encode hrevoked (Int.not_le.1 hexpiry) hsig, fun issued => ?_⟩
                        match issued with
                        | .error _ => exact VerifyAnswers.issueFailed hsig
                        | .ok _ => exact VerifyAnswers.verified hsig

theorem heartbeat_conforms {authorization : Option (Option String)} :
    (heartbeat authorization).Conforms (Issues fun _ => HeartbeatMay) (fun _ _ => True) h := by
  unfold heartbeat
  split
  · trivial
  · refine conforms_bind.2 (conforms_call.2 ⟨.decode, fun decoded => ?_⟩)
    match decoded with
    | .error _ => trivial
    | .ok claims =>
        refine conforms_call.2 ⟨.node, fun found => ?_⟩
        match found with
        | .error _ => trivial
        | .ok node =>
            cases hrevoked : node.revoked with
            | true =>
                simp only [hrevoked, if_true]
                trivial
            | false =>
                simp only [hrevoked, Bool.false_eq_true, if_false]
                refine conforms_call.2 ⟨.touch, fun touched => ?_⟩
                match touched with
                | .error _ => trivial
                | .ok () => exact conforms_call.2 ⟨.now, fun _ => trivial⟩

/-- What a request's task knows of its history. -/
def RequestAt (r : Nat) : Label → Hist Resp → Prop
  | .request r', h => r' = r ∧ h = []
  | .done, h => ∃ response h', h = ⟨.respond response, ()⟩ :: h'
  | _, _ => False

/-- A request ends by answering. -/
theorem serve_conforms {r : Nat} :
    (serve S r).Conforms (Issues (RequestMay S r))
      (fun l h => l = .done ∧ ∃ response h', h = ⟨.respond response, ()⟩ :: h') [] := by
  refine conforms_bind.2 ?_
  cases hp : S.requests r with
  | createAuthChallenge payload =>
      refine (conforms_weaken (fun h c hc => .create hp hc) createAuthChallenge_conforms).mono
        fun response h hanswer => ?_
      exact conforms_call.2 ⟨.create hp (.respond hanswer), fun _ => ⟨rfl, response, h, rfl⟩⟩
  | verifyAuthChallenge payload =>
      refine (conforms_weaken (fun h c hc => .verify hp hc) verifyAuthChallenge_conforms).mono
        fun response h hanswer => ?_
      exact conforms_call.2 ⟨.verify hp (.respond hanswer), fun _ => ⟨rfl, response, h, rfl⟩⟩
  | heartbeat authorization =>
      refine (conforms_weaken (fun h c hc => .heartbeat hp hc) heartbeat_conforms).mono
        fun response h _ => ?_
      exact conforms_call.2 ⟨.heartbeat hp .respond, fun _ => ⟨rfl, response, h, rfl⟩⟩

theorem request_follows {r : Nat} (l : Label) (h : Hist Resp) (hat : RequestAt r l h) :
    (body S l).Conforms (Issues (RequestMay S r)) (RequestAt r) h := by
  cases l with
  | request r' =>
      obtain ⟨rfl, rfl⟩ := hat
      refine serve_conforms.mono fun l h hdone => ?_
      obtain ⟨rfl, hanswer⟩ := hdone
      exact hanswer
  | done => exact hat
  | _ => exact hat.elim

end Requests

/-! ## The cleanup, the writers and the environment -/

inductive RefreshMay : Cmd → Prop
  | now : RefreshMay .now
  | connectionsKeys : RefreshMay (.connections .keys)
  | connectionsNext {start visited : List Uuid} : RefreshMay (.connections (.next start visited))
  | evictConnection {cid : Uuid} {now : Time} :
      RefreshMay (.connections (.removeIf cid fun conn => isStale now conn.lastHeartbeat))
  | nodesKeys : RefreshMay (.nodes .keys)
  | nodesNext {start visited : List Uuid} : RefreshMay (.nodes (.next start visited))
  | evictNode {n : Uuid} {now : Time} :
      RefreshMay (.nodes (.removeIf n fun conn => isStale now conn.node.lastHeartbeat))
  | memoryDb {op : MemoryOp} : RefreshMay (.memoryDb op)

def RefreshAt : Label → Hist Resp → Prop
  | .refresh, _ | .evictConnections _ _ _, _ | .evictNodes _ _ _, _ | .refreshConnections _ _, _ =>
      True
  | _, _ => False

inductive WebWriterMay (i : Nat) : Hist Resp → Cmd → Prop
  | start {h : Hist Resp} : WebWriterMay i h (.webWriter (.start i))
  | recv {h : Hist Resp} : WebWriterMay i h (.web (.recv i))
  | send {h : Hist Resp} {frame : WebFrameData} :
      WebWriterMay i (⟨.web (.recv i), some frame⟩ :: h) (.ws (.send (Frame.ofWeb frame)))
  | close {h : Hist Resp} : WebWriterMay i h (.web (.close i))
  | finish {h : Hist Resp} : WebWriterMay i h .finish

def WebWriterAt (i : Nat) : Label → Hist Resp → Prop
  | .webWriter j, _ | .webWriting j, _ => j = i
  | .done, _ => True
  | _, _ => False

/-- The frame the writer of a node socket has taken from the queue and not sent. -/
def inHand : Hist Resp → Option NodeFrameData
  | [] => none
  | ⟨.node (.recv _), received⟩ :: _ => received
  | ⟨.ws (.send _), true⟩ :: _ => none
  | _ :: h => inHand h

inductive NodeWriterMay (k : Nat) : Hist Resp → Cmd → Prop
  | start {h : Hist Resp} : NodeWriterMay k h (.nodeWriter (.start k))
  | recv {h : Hist Resp} (hidle : inHand h = none) : NodeWriterMay k h (.node (.recv k))
  | send {h : Hist Resp} {frame : NodeFrameData} :
      NodeWriterMay k (⟨.node (.recv k), some frame⟩ :: h) (.ws (.send (Frame.ofNode frame)))
  | close {h : Hist Resp} : NodeWriterMay k h (.node (.close k))
  | finish {h : Hist Resp} : NodeWriterMay k h .finish

def NodeWriterAt (k : Nat) : Label → Hist Resp → Prop
  | .nodeWriter j, h | .nodeWriting j, h => j = k ∧ inHand h = none
  | .done, _ => True
  | _, _ => False

def EnvironmentAt : Label → Hist Resp → Prop
  | .environment, _ => True
  | _, _ => False

section Tasks

variable {S : Setup}

theorem refresh_follows (l : Label) (h : Hist Resp) (hat : RefreshAt l h) :
    (body S l).Conforms (Issues fun _ => RefreshMay) RefreshAt h := by
  cases l with
  | refresh =>
      refine conforms_call.2 ⟨.now, fun now => ?_⟩
      exact conforms_call.2 ⟨.connectionsKeys, fun _ => trivial⟩
  | evictConnections now start visited =>
      refine conforms_call.2 ⟨.connectionsNext, fun met => ?_⟩
      match met with
      | some (cid, _) => exact conforms_call.2 ⟨.evictConnection, fun _ => trivial⟩
      | none => exact conforms_call.2 ⟨.nodesKeys, fun _ => trivial⟩
  | evictNodes now start visited =>
      refine conforms_call.2 ⟨.nodesNext, fun met => ?_⟩
      match met with
      | some (n, _) => exact conforms_call.2 ⟨.evictNode, fun _ => trivial⟩
      | none => exact conforms_call.2 ⟨.connectionsKeys, fun _ => trivial⟩
  | refreshConnections start visited =>
      refine conforms_call.2 ⟨.connectionsNext, fun met => ?_⟩
      match met with
      | some (cid, conn) => exact conforms_call.2 ⟨.memoryDb, fun _ => trivial⟩
      | none => trivial
  | _ => exact hat.elim

theorem webWriter_follows {i : Nat} (l : Label) (h : Hist Resp) (hat : WebWriterAt i l h) :
    (body S l).Conforms (Issues (WebWriterMay i)) (WebWriterAt i) h := by
  cases l with
  | webWriter j =>
      obtain rfl := hat
      refine conforms_call.2 ⟨.start, fun started => ?_⟩
      cases started
      · refine conforms_call.2 ⟨.close, fun _ => ?_⟩
        exact conforms_call.2 ⟨.finish, fun _ => trivial⟩
      · exact rfl
  | webWriting j =>
      obtain rfl := hat
      refine conforms_call.2 ⟨.recv, fun received => ?_⟩
      match received with
      | some frame =>
          refine conforms_call.2 ⟨.send, fun sent => ?_⟩
          cases sent
          · refine conforms_call.2 ⟨.close, fun _ => ?_⟩
            exact conforms_call.2 ⟨.finish, fun _ => trivial⟩
          · exact rfl
      | none =>
          refine conforms_call.2 ⟨.close, fun _ => ?_⟩
          exact conforms_call.2 ⟨.finish, fun _ => trivial⟩
  | done => trivial
  | _ => exact hat.elim

theorem nodeWriter_follows {k : Nat} (l : Label) (h : Hist Resp) (hat : NodeWriterAt k l h) :
    (body S l).Conforms (Issues (NodeWriterMay k)) (NodeWriterAt k) h := by
  cases l with
  | nodeWriter j =>
      obtain ⟨rfl, hidle⟩ := hat
      refine conforms_call.2 ⟨.start, fun started => ?_⟩
      cases started
      · refine conforms_call.2 ⟨.close, fun _ => ?_⟩
        exact conforms_call.2 ⟨.finish, fun _ => trivial⟩
      · exact ⟨rfl, hidle⟩
  | nodeWriting j =>
      obtain ⟨rfl, hidle⟩ := hat
      refine conforms_call.2 ⟨.recv hidle, fun received => ?_⟩
      match received with
      | some frame =>
          refine conforms_call.2 ⟨.send, fun sent => ?_⟩
          cases sent
          · refine conforms_call.2 ⟨.close, fun _ => ?_⟩
            exact conforms_call.2 ⟨.finish, fun _ => trivial⟩
          · exact ⟨rfl, rfl⟩
      | none =>
          refine conforms_call.2 ⟨.close, fun _ => ?_⟩
          exact conforms_call.2 ⟨.finish, fun _ => trivial⟩
  | done => trivial
  | _ => exact hat.elim

theorem environment_follows (l : Label) (h : Hist Resp) (hat : EnvironmentAt l h) :
    (body S l).Conforms (Issues fun _ c => c = .environment) EnvironmentAt h := by
  cases l with
  | environment => exact conforms_call.2 ⟨rfl, fun _ => trivial⟩
  | _ => exact hat.elim

end Tasks

/-! ## The whole server -/

/-- What task `i` may issue after its own history `h`. -/
def May (S : Setup) : Tid → Hist Resp → Cmd → Prop
  | .web i => WebMay S i
  | .webWriter i => WebWriterMay i
  | .node k => NodeMay S k
  | .nodeWriter k => NodeWriterMay k
  | .request r => RequestMay S r
  | .refresh => fun _ => RefreshMay
  | .environment => fun _ c => c = .environment

section Inversion

variable {S : Setup} {i : Tid} {h : Hist Resp}

/-! ### Commands of one kind of task

Most of the commands an invariant is about are issued by one kind of task: HTTP requests write
challenges and issue tokens, node sockets keep `nodes` and bind sessions, web sockets keep
`connections` and tell the nodes of a client.  What several kinds issue is looked at by itself. -/

/-- Only HTTP requests issue the command. -/
def Cmd.isRequests : Cmd → Bool
  | .db (.upsertAuthChallenge _ _ _) | .db (.getAuthChallenge _ _)
  | .db (.consumeAuthChallenge _ _) | .encodeNodeJwt _ => true
  | _ => false

/-- Only node sockets issue the command. -/
def Cmd.isNodes : Cmd → Bool
  | .nodes (.insert _ _) | .nodes (.remove _) | .nodes (.modify _ _)
  | .tunnelSessions (.insert _ _) | .tunnelSessions (.modify _ _)
  | .tunnelSessions (.removeIf _ _) => true
  | _ => false

/-- Only web sockets issue the command. -/
def Cmd.isWebs : Cmd → Bool
  | .newV4 | .connections (.insert _ _) | .connections (.modify _ _) | .connections (.remove _)
  | .node (.send _ (.openTunnel ..)) | .node (.send _ (.connectionDisconnect _)) => true
  | _ => false

theorem May.byRequest {c : Cmd} (hm : May S i h c) (hc : c.isRequests = true) :
    ∃ r, i = .request r ∧ RequestMay S r h c := by
  cases i with
  | request r => exact ⟨r, rfl, hm⟩
  | web j => rcases hm with hm | ⟨_, -, hm⟩ <;> cases hm <;> cases hc
  | node k => cases hm with | login _ hm | loop _ _ hm | close _ _ hm => cases hm <;> cases hc
  | _ => cases hm <;> cases hc

theorem May.byNode {c : Cmd} (hm : May S i h c) (hc : c.isNodes = true) :
    ∃ k, i = .node k ∧ NodeMay S k h c := by
  cases i with
  | node k => exact ⟨k, rfl, hm⟩
  | web j => rcases hm with hm | ⟨_, -, hm⟩ <;> cases hm <;> cases hc
  | request r =>
      cases hm with | create _ hm | verify _ hm | heartbeat _ hm => cases hm <;> cases hc
  | _ => cases hm <;> cases hc

theorem May.byWeb {c : Cmd} (hm : May S i h c) (hc : c.isWebs = true) :
    ∃ j, i = .web j ∧ WebMay S j h c := by
  cases i with
  | web j => exact ⟨j, rfl, hm⟩
  | node k => cases hm with | login _ hm | loop _ _ hm | close _ _ hm => cases hm <;> cases hc
  | request r =>
      cases hm with | create _ hm | verify _ hm | heartbeat _ hm => cases hm <;> cases hc
  | _ => cases hm <;> cases hc

/-! ### Where a command comes from -/

/-- Challenges are stored by `create_auth_challenge`, right after generating them. -/
theorem May.upsert {n : Uuid} {challenge : String} {expiresAt : Time}
    (hm : May S i h (.db (.upsertAuthChallenge n challenge expiresAt))) :
    ∃ r payload node now, i = .request r ∧ S.requests r = .createAuthChallenge payload ∧
      h = [⟨.now, now⟩, ⟨.db (.getNodeClaimByIdOptional payload.nodeId), .ok (some node)⟩,
        ⟨.generateChallenge, challenge⟩] ∧ node.id = n := by
  obtain ⟨r, rfl, hm⟩ := hm.byRequest rfl
  cases hm with
  | create hp hc =>
      cases hc
      exact ⟨r, _, _, _, rfl, hp, rfl, rfl⟩
  | verify _ hc | heartbeat _ hc => cases hc

/-- Challenges are looked up by verify requests, right after the node. -/
theorem May.lookup {n : Uuid} {challenge : String}
    (hm : May S i h (.db (.getAuthChallenge n challenge))) :
    ∃ r payload node, i = .request r ∧ S.requests r = .verifyAuthChallenge payload ∧
      n = payload.nodeId ∧ challenge = payload.text ∧
      h = [⟨.db (.getNodeClaimById payload.nodeId), .ok node⟩] := by
  obtain ⟨r, rfl, hm⟩ := hm.byRequest rfl
  cases hm with
  | verify hp hc =>
      cases hc
      exact ⟨r, _, _, rfl, hp, rfl, rfl, rfl⟩
  | create _ hc | heartbeat _ hc => cases hc

/-- Challenges are consumed by the verify requests that found them. -/
theorem May.consume {n : Uuid} {challenge : String}
    (hm : May S i h (.db (.consumeAuthChallenge n challenge))) :
    ∃ r payload node row, i = .request r ∧ S.requests r = .verifyAuthChallenge payload ∧
      n = payload.nodeId ∧ challenge = payload.text ∧
      h = [⟨.db (.getAuthChallenge payload.nodeId payload.text), .ok (some row)⟩,
        ⟨.db (.getNodeClaimById payload.nodeId), .ok node⟩] := by
  obtain ⟨r, rfl, hm⟩ := hm.byRequest rfl
  cases hm with
  | verify hp hc =>
      cases hc
      exact ⟨r, _, _, _, rfl, hp, rfl, rfl, rfl⟩
  | create _ hc | heartbeat _ hc => cases hc

/-- Node tokens are issued by `verify_auth_challenge`, at its end. -/
theorem May.encode {claims : NodeJwtClaims} (hm : May S i h (.encodeNodeJwt claims)) :
    ∃ r payload node row now iat, i = .request r ∧ S.requests r = .verifyAuthChallenge payload ∧
      h = ⟨.now, iat⟩ :: ⟨.now, now⟩ :: consumed payload node row ∧
      claims = nodeJwtClaims S payload.nodeId iat ∧ node.revoked = false ∧ now < row.expiresAt ∧
      verifySignature S.crates node.publicKey payload.text (trim payload.signature) = .ok () := by
  obtain ⟨r, rfl, hm⟩ := hm.byRequest rfl
  cases hm with
  | verify hp hc =>
      cases hc with
      | encode hrevoked hexpiry hsig =>
          exact ⟨r, _, _, _, _, _, rfl, hp, rfl, rfl, hrevoked, hexpiry, hsig⟩
  | create _ hc | heartbeat _ hc => cases hc

/-- An entry of `nodes` is inserted by the login of a node socket, for the socket itself. -/
theorem May.register {n : Uuid} {conn : NodeConnection} (hm : May S i h (.nodes (.insert n conn))) :
    ∃ k, i = .node k ∧ Joining h ∧ Accepted h n ∧ conn.tx = k := by
  obtain ⟨k, rfl, hm⟩ := hm.byNode rfl
  cases hm with
  | login hj hc =>
      cases hc with
      | insert ha => exact ⟨k, rfl, hj, ha, rfl⟩
  | loop _ _ hc | close _ _ hc => cases hc

/-- An entry of `nodes` is removed by the cleanup of a socket of that node. -/
theorem May.unregister {n : Uuid} (hm : May S i h (.nodes (.remove n))) :
    ∃ k, i = .node k ∧ Serving k n h ∧ Closing k n h := by
  obtain ⟨k, rfl, hm⟩ := hm.byNode rfl
  cases hm with
  | close hs hcl hc =>
      cases hc
      exact ⟨k, rfl, hs, hcl⟩
  | login _ hc | loop _ _ hc => cases hc

/-- A heartbeat keeps the socket an entry of `nodes` belongs to. -/
theorem May.beatNode {n : Uuid} {f : NodeConnection → NodeConnection}
    (hm : May S i h (.nodes (.modify n f))) (conn : NodeConnection) : (f conn).tx = conn.tx := by
  obtain ⟨k, rfl, hm⟩ := hm.byNode rfl
  cases hm with
  | loop _ _ hc =>
      cases hc
      rfl
  | login _ hc | close _ _ hc => cases hc

/-- Connection ids are drawn by web sockets, right after their first message. -/
theorem May.draw (hm : May S i h .newV4) : ∃ j m, i = .web j ∧ h = [⟨.ws .next, m⟩] := by
  obtain ⟨j, rfl, hm | ⟨_, -, hm⟩⟩ := hm.byWeb rfl
  · cases hm
    exact ⟨j, _, rfl, rfl⟩
  · cases hm

/-- An entry of `connections` is inserted by a web socket that logged in, for itself. -/
theorem May.connect {cid : Uuid} {conn : WebConnection}
    (hm : May S i h (.connections (.insert cid conn))) :
    ∃ j, i = .web j ∧ LoggedIn S h cid ∧ conn.tx = j := by
  obtain ⟨j, rfl, hm | ⟨_, hl, hm⟩⟩ := hm.byWeb rfl
  · cases hm
  · cases hm
    exact ⟨j, rfl, hl, rfl⟩

/-- A heartbeat keeps the socket an entry of `connections` belongs to. -/
theorem May.beatWeb {cid : Uuid} {f : WebConnection → WebConnection}
    (hm : May S i h (.connections (.modify cid f))) (conn : WebConnection) :
    (f conn).tx = conn.tx := by
  obtain ⟨j, rfl, hm | ⟨_, -, hm⟩⟩ := hm.byWeb rfl
  · cases hm
  · cases hm
    rfl

/-- A tunnel session is entered when a node reports it open, as the node's. -/
theorem May.bind {key : TunnelSessionKey} {v : Uuid × Uuid}
    (hm : May S i h (.tunnelSessions (.insert key v))) :
    ∃ k n m protocol cid sid msgId h', i = .node k ∧ Serving k n h ∧ key = ⟨n, sid⟩ ∧
      v = (cid, n) ∧ h = ⟨.ws .next, m⟩ :: h' ∧
      m.nodeFrame? = some (.tunnelOpened protocol cid sid msgId) := by
  obtain ⟨k, rfl, hm⟩ := hm.byNode rfl
  cases hm with
  | loop hs _ hc =>
      cases hc with
      | bind hread => exact ⟨k, _, _, _, _, _, _, _, rfl, hs, rfl, rfl, rfl, hread⟩
  | login _ hc | close _ _ hc => cases hc

/-- A frame for a tunnel is sent by a web socket that has just read it, found the tunnel under
the session id it carries and its own connection id, and then the tunnel's node. -/
theorem May.forwards {k : Nat} {g : NodeFrameData} {key : Uuid × UInt32}
    (hm : May S i h (.node (.send k g))) (hg : g.addressee = some key) :
    ∃ w m f target t n info h', i = .web w ∧ LoggedIn S h key.1 ∧
      h = ⟨.nodes (.get n), some info⟩ :: ⟨.tunnelSessions (.get ⟨t, key.2⟩), some (key.1, n)⟩ ::
        ⟨.ws .next, m⟩ :: h' ∧
      info.tx = k ∧ m.webFrame? = some f ∧ relayed key.1 f = some (target, key.2, g) := by
  cases i with
  | web w =>
      rcases hm with hm | ⟨cid, hl, hm⟩
      · cases hm
      · cases hm with
        | forward hm hf ht =>
            obtain rfl := Option.some_inj.1 ((addressee_of_relayed hf).symm.trans hg)
            exact ⟨w, _, _, _, _, _, _, _, rfl, hl, rfl, rfl, hm, hf⟩
        | openTunnel | disconnect => cases hg
  | node j =>
      cases hm with
      | login _ hc | loop _ _ hc =>
          cases hc
          cases hg
      | close _ _ hc => cases hc
  | request r =>
      cases hm with
      | create _ hc | verify _ hc | heartbeat _ hc => cases hc
  | _ => cases hm

/-- Tunnel sessions are never changed in place. -/
theorem May.not_modify {key : TunnelSessionKey} {f : Uuid × Uuid → Uuid × Uuid} :
    ¬ May S i h (.tunnelSessions (.modify key f)) := by
  intro hm
  obtain ⟨k, rfl, hm⟩ := hm.byNode rfl
  cases hm with | login _ hc | loop _ _ hc | close _ _ hc => cases hc

/-- Nor are they removed on a condition. -/
theorem May.not_removeIf {key : TunnelSessionKey} {p : Uuid × Uuid → Bool} :
    ¬ May S i h (.tunnelSessions (.removeIf key p)) := by
  intro hm
  obtain ⟨k, rfl, hm⟩ := hm.byNode rfl
  cases hm with | login _ hc | loop _ _ hc | close _ _ hc => cases hc

end Inversion

/-- What task `i` knows at its labels. -/
def At (S : Setup) : Tid → Label → Hist Resp → Prop
  | .web i => WebAt S i
  | .webWriter i => WebWriterAt i
  | .node k => NodeAt k
  | .nodeWriter k => NodeWriterAt k
  | .request r => RequestAt r
  | .refresh => RefreshAt
  | .environment => EnvironmentAt

section Server

variable {S : Setup} {rows : DashMap Uuid NodeRow} {users : List Uuid} {clock : Time}

/-- **The server follows its rules.** -/
theorem server_follows :
    (machine S).Follows (fun i => Issues (May S i)) (At S) (start rows users clock) where
  body i l h hat := by
    cases i with
    | web i => exact web_follows l h hat
    | webWriter i => exact webWriter_follows l h hat
    | node k => exact node_follows l h hat
    | nodeWriter k => exact nodeWriter_follows l h hat
    | request r => exact request_follows l h hat
    | refresh => exact refresh_follows l h hat
    | environment => exact environment_follows l h hat
  start i := by
    cases i with
    | web i => exact ⟨rfl, rfl⟩
    | node k => exact ⟨rfl, rfl⟩
    | request r => exact ⟨rfl, rfl⟩
    | webWriter i => exact rfl
    | nodeWriter k => exact ⟨rfl, rfl⟩
    | refresh => trivial
    | environment => trivial

/-- So it does from any other state. -/
theorem server_follows_on (s : State) :
    (machine S).Follows (fun i => Issues (May S i)) (At S) (startOn s) :=
  ⟨(@server_follows S ∅ [] 0).body, (@server_follows S ∅ [] 0).start⟩

/-- A restriction on the steps of a run: an assumption, or the condition of a result. -/
abbrev Restriction : Type := World State Tid Resp → Tid → (c : Cmd) → Resp c → Prop

/-- **Invariants of the server.**  What the empty server satisfies and every step keeps that
obeys the rules and the restriction. -/
theorem server_inv {A : Restriction} {cfg : Config State Tid Resp Label}
    (I : World State Tid Resp → Prop) (h0 : I ⟨State.start rows users clock, []⟩)
    (hstep : ∀ (cfg : Config State Tid Resp Label) (i : Tid) (c : Cmd) (o : Choice) (r : Resp c)
      (s : State), (machine S).Reach A (start rows users clock) cfg → I cfg.world →
      May S i (own i cfg.world.trace) c → A cfg.world i c r →
      exec S i c o cfg.world.state = some (r, s) → I (cfg.world.push i c r s))
    (hr : (machine S).Reach A (start rows users clock) cfg) : I cfg.world :=
  hr.inv server_follows (fun _ _ _ _ _ => trivial) I h0 hstep

/-- The same from any state. -/
theorem server_inv_on {A : Restriction} {s₀ : State} {cfg : Config State Tid Resp Label}
    (I : World State Tid Resp → Prop) (h0 : I ⟨s₀, []⟩)
    (hstep : ∀ (cfg : Config State Tid Resp Label) (i : Tid) (c : Cmd) (o : Choice) (r : Resp c)
      (s : State), (machine S).Reach A (startOn s₀) cfg → I cfg.world →
      May S i (own i cfg.world.trace) c → A cfg.world i c r →
      exec S i c o cfg.world.state = some (r, s) → I (cfg.world.push i c r s))
    (hr : (machine S).Reach A (startOn s₀) cfg) : I cfg.world :=
  hr.inv (server_follows_on s₀) (fun _ _ _ _ _ => trivial) I h0 hstep

theorem server_events_on {A : Restriction} {s₀ : State} {cfg : Config State Tid Resp Label}
    (P : List (Ev Tid Resp) → Ev Tid Resp → Prop)
    (hstep : ∀ (cfg : Config State Tid Resp Label) (i : Tid) (c : Cmd) (o : Choice) (r : Resp c)
      (s : State), (machine S).Reach A (startOn s₀) cfg →
      May S i (own i cfg.world.trace) c → A cfg.world i c r →
      exec S i c o cfg.world.state = some (r, s) → P cfg.world.trace ⟨i, c, r⟩)
    (hr : (machine S).Reach A (startOn s₀) cfg) :
    ∀ e past, e :: past <:+ cfg.world.trace → P past e :=
  hr.events (server_follows_on s₀) (fun _ _ _ _ _ => trivial) P rfl hstep

/-- **Events of the server.** -/
theorem server_events {A : Restriction} {cfg : Config State Tid Resp Label}
    (P : List (Ev Tid Resp) → Ev Tid Resp → Prop)
    (hstep : ∀ (cfg : Config State Tid Resp Label) (i : Tid) (c : Cmd) (o : Choice) (r : Resp c)
      (s : State), (machine S).Reach A (start rows users clock) cfg →
      May S i (own i cfg.world.trace) c → A cfg.world i c r →
      exec S i c o cfg.world.state = some (r, s) → P cfg.world.trace ⟨i, c, r⟩)
    (hr : (machine S).Reach A (start rows users clock) cfg) :
    ∀ e past, e :: past <:+ cfg.world.trace → P past e :=
  hr.events server_follows (fun _ _ _ _ _ => trivial) P rfl hstep

/-- What was issued was allowed. -/
theorem may_of_event {A : Restriction} {cfg : Config State Tid Resp Label} {i : Tid} {c : Cmd}
    {r : Resp c} {past : List (Ev Tid Resp)} (hr : (machine S).Reach A (start rows users clock) cfg)
    (hs : ⟨i, c, r⟩ :: past <:+ cfg.world.trace) : May S i (own i past) c :=
  server_events (fun past e => May S e.tid (own e.tid past) e.cmd)
    (fun _ _ _ _ _ _ _ hmay _ _ => hmay) hr _ past hs

end Server

end Phirepass.Server
