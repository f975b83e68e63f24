/-
# `Phirepass.System.Login` — an agent that has logged in gets its session token

The agent's `fetch_session_jwt` and the server's `create_auth_challenge` and
`verify_auth_challenge`, with everything else the server does in between:

    agent                                       server
    the key it has stored                       the public key of the node's row
    asks for a challenge                        draws one and stores it
    signs it, encodes the signature             finds it, deletes it, decodes, verifies
    has a token                                 signs a token for the node

As long as the challenge is left alone (`Server.LeftAlone`) the agent ends
with a token, whatever logins and logouts its key has been through
(`agent_gets_token`).
-/
import Phirepass.Agent.Login
import Phirepass.Server.Strangers

namespace Phirepass.System

open Rust Interleave Server Creds

/-! ## Requests and responses on the wire -/

/-- The request of the server that a `post_json` makes. -/
def postRequest : Post → Request
  | .challenge _ nodeId => .createAuthChallenge ⟨nodeId⟩
  | .verify _ nodeId challenge signature => .verifyAuthChallenge ⟨nodeId, challenge, signature⟩

/-- A status as `StatusCode` is printed. -/
def statusText (status : Nat) : String :=
  if status = OK then "200 OK"
  else if status = UNAUTHORIZED then "401 Unauthorized"
  else if status = INTERNAL_SERVER_ERROR then "500 Internal Server Error"
  else toString status ++ " <unknown status code>"

/-- The field that is read from the body. -/
def postField : Post → Body → Except String String
  | .challenge _ _, .challenge challenge => .ok challenge
  | .verify _ _ _ _, .verified accessToken _ => .ok accessToken
  | .challenge _ _, _ => .error "missing field challenge"
  | .verify _ _ _ _, _ => .error "missing field access_token"

/-- The response, as the agent reads it. -/
def httpReply (post : Post) (response : Response) : Reply where
  status := response.status
  statusText := statusText response.status
  error := match response.body with
    | .failure _ error => some error
    | _ => none
  field := postField post response.body

/-- The program ends with `result` when its requests, which are the `rs` in this order, are
answered as they were. -/
inductive Talks (S : Setup) (tr : List (Ev Tid Resp)) :
    List Nat → Fetch (Except String String) → Except String String → Prop
  | ends {result : Except String String} : Talks S tr [] (.ret result) result
  | post {r : Nat} {rs : List Nat} {post : Post} {response : Response}
      {next : Answer post → Fetch (Except String String)} {result : Except String String}
      (hreq : S.requests r = postRequest post)
      (hresp : (⟨.request r, .respond response, ()⟩ : Ev Tid Resp) ∈ tr)
      (hrest : Talks S tr rs (next (.ok (httpReply post response))) result) :
      Talks S tr (r :: rs) (.op post next) result

/-! ## Keys and signatures -/

/-- What the agent's crates encode and sign, the server's decode and verify. -/
structure Agree (C : SigningCrates) (D : Server.Crates) : Prop where
  base64 : ∀ bytes, D.base64Decode (C.encode bytes) = some bytes
  /-- No character of the encoding is white space. -/
  trimmed : ∀ bytes, trim (C.encode bytes) = C.encode bytes
  publicKey : ∀ key, D.ed25519Key (C.verifyingKey key).1 = true
  signature : ∀ key message, D.ed25519Signature (C.sign key message) = true
  verifies : ∀ key message,
    D.ed25519Verify (C.verifyingKey key).1 message (C.sign key message) = true

/-- The signature passes. -/
theorem verifySignature_signChallenge {C : SigningCrates} {D : Server.Crates} (hD : Agree C D)
    {key : Key} {privateKey publicKey : String} (hown : OwnKeys C.toCrates key privateKey publicKey)
    (challenge : String) :
    verifySignature D publicKey challenge (trim (signChallenge C key challenge)) = .ok () := by
  have hlength : (C.verifyingKey key).1.length = 32 := (C.verifyingKey key).2
  rw [hown.2, signChallenge, hD.trimmed]
  simp [verifySignature, hD.base64, hlength, hD.publicKey, hD.signature, hD.verifies, pure,
    Except.pure]

/-! ## The agent's two requests -/

section Login

variable {S : Setup} {rows : DashMap Uuid NodeRow} {users : List Uuid} {clock : Time}
  {cfg : Config State Tid Resp Label} {n : Uuid} {pk : String} {a b : Nat}
  {payload : VerifyRequest} {A : Restriction}

/-- What a request answers, it answers by its rules. -/
theorem answered_by_rules (hr : (machine S).Reach A (start rows users clock) cfg) {r : Nat}
    {response : Response}
    (hmem : (⟨.request r, .respond response, ()⟩ : Ev Tid Resp) ∈ cfg.world.trace) :
    ∃ past, past <:+ cfg.world.trace ∧
      RequestMay S r (own (.request r) past) (.respond response) := by
  obtain ⟨past, hsuf⟩ := exists_past hmem
  refine ⟨past, (List.suffix_cons _ _).trans hsuf, ?_⟩
  refine server_events (fun past e => ∀ response, e = ⟨.request r, .respond response, ()⟩ →
    RequestMay S r (own (.request r) past) (.respond response)) ?_ hr _ past hsuf response rfl
  intro cfg j c o r' s _ hmay _ _ response heq
  cases heq
  exact hmay

/-- The agent is given the challenge. -/
theorem challenge_of_answer (hcreate : S.requests a = .createAuthChallenge ⟨n⟩)
    (hA : ∀ w i c r, A w i c r → Orderly S n pk a b payload w i c r)
    (hr : (machine S).Reach A (start rows users clock) cfg) {response : Response}
    (hmem : (⟨.request a, .respond response, ()⟩ : Ev Tid Resp) ∈ cfg.world.trace) :
    response = ⟨OK, .challenge payload.text⟩ := by
  obtain ⟨past, hpast, hmay⟩ := answered_by_rules hr hmem
  have hin {c : Cmd} {r : Resp c} (h : (⟨c, r⟩ : Sigma Resp) ∈ own (.request a) past) :
      (⟨.request a, c, r⟩ : Ev Tid Resp) ∈ cfg.world.trace := hpast.subset (mem_own.1 h)
  generalize own (.request a) past = h at hmay hin
  cases hmay with
  | create hp hc =>
      rw [hcreate] at hp
      cases hp
      cases hc with
      | respond ha =>
          cases ha with
          | lookupFailed =>
              obtain ⟨db, -, hans⟩ := answered_active hA hr (hin List.mem_cons_self) (.inl rfl)
              cases hans
          | @writeFailed challenge =>
              have hdrew : (⟨.request a, .generateChallenge, challenge⟩ : Ev Tid Resp) ∈
                  cfg.world.trace := hin (by simp)
              obtain ⟨db, -, hans⟩ := answered_active hA hr (hin List.mem_cons_self) (.inl rfl)
              simp [DbOp.answer, hasNul_of_drawn hr hdrew] at hans
          | @unusable challenge found hfound =>
              have hdrew : (⟨.request a, .generateChallenge, challenge⟩ : Ev Tid Resp) ∈
                  cfg.world.trace := hin (by simp)
              rw [drew_given hA hr hdrew]
          | @stored challenge node now expiresAt =>
              have hdrew : (⟨.request a, .generateChallenge, challenge⟩ : Ev Tid Resp) ∈
                  cfg.world.trace := hin (by simp)
              rw [drew_given hA hr hdrew]
  | verify hp _ =>
      rw [hcreate] at hp
      cases hp
  | heartbeat hp _ =>
      rw [hcreate] at hp
      cases hp

/-- A token of a verify request is for its node. -/
theorem claims_of_encode (hr : (machine S).Reach A (start rows users clock) cfg)
    (hverify : S.requests b = .verifyAuthChallenge payload) {claims : NodeJwtClaims}
    {r : Except String String}
    (hmem : (⟨.request b, .encodeNodeJwt claims, r⟩ : Ev Tid Resp) ∈ cfg.world.trace) :
    claims.nodeId = payload.nodeId := by
  obtain ⟨past, hsuf⟩ := exists_past hmem
  refine server_events (fun _ e => ∀ claims r, e = ⟨.request b, .encodeNodeJwt claims, r⟩ →
    claims.nodeId = payload.nodeId) ?_ hr _ past hsuf claims r rfl
  intro cfg j c o r s _ hmay _ _ claims r' heq
  cases heq
  obtain ⟨q, payload', node, row, now, iat, heq, hreq, -, rfl, -⟩ := hmay.encode
  cases heq
  rw [hverify] at hreq
  cases hreq
  rfl

/-- And the token. -/
theorem token_of_answer (hlogin : LoginOf S n pk a b payload)
    (hr : (machine S).Reach (fun w i c r => Orderly S n pk a b payload w i c r ∧
      LeftAlone n a b payload w i c) (start rows users clock) cfg) {response : Response}
    (hmem : (⟨.request b, .respond response, ()⟩ : Ev Tid Resp) ∈ cfg.world.trace) :
    ∃ token expiresAt claims, response = ⟨OK, .verified token expiresAt⟩ ∧ claims.nodeId = n ∧
      (⟨.request b, .encodeNodeJwt claims, .ok token⟩ : Ev Tid Resp) ∈ cfg.world.trace := by
  obtain ⟨past, hpast, hmay⟩ := answered_by_rules hr hmem
  cases hmay with
  | verify hp hc =>
      rw [hlogin.verify] at hp
      cases hp
      generalize hown : own (.request b) past = h at hc
      cases hc with
      | respond ha =>
          have ha' := ha
          rw [← hown] at ha'
          obtain ⟨token, expiresAt, rfl⟩ := verified_response hlogin hr hpast ha'
          have hin {c : Cmd} {r : Resp c} (hc : (⟨c, r⟩ : Sigma Resp) ∈ h) :
              (⟨.request b, c, r⟩ : Ev Tid Resp) ∈ cfg.world.trace := by
            rw [← hown] at hc
            exact hpast.subset (mem_own.1 hc)
          cases ha with
          | verified hsig =>
              have hencoded := hin List.mem_cons_self
              have hclaims := claims_of_encode hr hlogin.verify hencoded
              exact ⟨token, expiresAt, _, rfl, hclaims.trans hlogin.node, hencoded⟩
  | create hp _ =>
      rw [hlogin.verify] at hp
      cases hp
  | heartbeat hp _ =>
      rw [hlogin.verify] at hp
      cases hp

/-- **An agent that has logged in gets its session token.**  After whatever logins and logouts,
the agent loads an identity and fetches a token for it.  If the node's row has the public key
of the identity, and nothing fails, expires or disturbs the challenge, then however the server
serves others meanwhile, `fetch_session_jwt` ends with a token that was signed for the node. -/
theorem agent_gets_token {C : SigningCrates} {ops : List (Op × Creds.Choice)}
    {host bound serverHost : String} {serverPort : UInt16} {o : Creds.Choice}
    {state : StoredState} {rs : List Nat} {result : Except String String}
    (hC : C.toCrates.Lawful) (hD : Agree C S.crates) (ho : o.Opens)
    (hload : startLoad C.toCrates host o (perform C.toCrates ops none).2 = some (bound, state))
    (hverify : S.requests b = .verifyAuthChallenge payload)
    (hstrangers : ∀ q payload', q ≠ b → S.requests q = .verifyAuthChallenge payload' →
      payload'.nodeId = state.nodeId →
        verifySignature S.crates state.publicKey payload'.text (trim payload'.signature) ≠ .ok ())
    (hr : (machine S).Reach (fun w i c r =>
      Orderly S state.nodeId state.publicKey a b payload w i c r ∧
        LeftAlone state.nodeId a b payload w i c) (start rows users clock) cfg)
    (htalks : Talks S cfg.world.trace rs (fetchSessionJwt C serverHost serverPort state) result)
    (hrs : rs <+: [a, b]) :
    ∃ token claims, result = .ok token ∧ claims.nodeId = state.nodeId ∧
      (⟨.request b, .encodeNodeJwt claims, .ok token⟩ : Ev Tid Resp) ∈ cfg.world.trace := by
  obtain ⟨key, hown⟩ := own_perform hC ops ho hload
  rw [fetchSessionJwt_eq (signingKey_of_own hC hown)] at htalks
  cases htalks with
  | @post r rs post response next result hreq hresp hrest =>
      obtain ⟨rfl, hrs'⟩ := List.cons_prefix_cons.1 hrs
      -- the first answer is the challenge
      obtain rfl := challenge_of_answer hreq (fun _ _ _ _ h => h.1) hr hresp
      cases hrest with
      | @post r' rs post response next result hreq' hresp' hrest' =>
          obtain ⟨rfl, hnil⟩ := List.cons_prefix_cons.1 hrs'
          have hpayload : payload = ⟨state.nodeId, payload.text,
              signChallenge C key payload.text⟩ :=
            Request.verifyAuthChallenge.inj (hverify.symm.trans hreq')
          have hsignature : payload.signature = signChallenge C key payload.text :=
            congrArg VerifyRequest.signature hpayload
          have hlogin : LoginOf S state.nodeId state.publicKey r r' payload := {
            create := hreq
            verify := hverify
            node := congrArg VerifyRequest.nodeId hpayload
            signed := by
              rw [hsignature]
              exact verifySignature_signChallenge hD hown payload.text
            strangers := hstrangers }
          obtain ⟨token, expiresAt, claims, rfl, hclaims, hencoded⟩ :=
            token_of_answer hlogin hr hresp'
          cases hrest' with
          | ends => exact ⟨token, claims, rfl, hclaims, hencoded⟩

end Login

/-! ## One login -/

/-- The seed whose public key the row of node `10` has. -/
def sampleSeed : Key :=
  ⟨[157, 97, 177, 157, 239, 253, 90, 96, 186, 132, 74, 244, 146, 236, 44, 196, 68, 73, 197, 105,
    123, 50, 105, 25, 112, 59, 172, 3, 28, 174, 127, 96], rfl⟩

/-- What the agent stores when it has claimed node `10` at host `a`. -/
def claimedState : StoredState :=
  ⟨10, "nWGxne_9WmC6hEr0kuwsxERJxWl7MmkZcDusAxyuf2A", Server.sampleKey 10, "a"⟩

/-- Its public key; other keys do not occur. -/
def samplePublicKey (key : Key) : Key := if key = sampleSeed then ⟨sampleKeyBytes, rfl⟩ else key

/-- Its signature of the challenge; other signatures do not occur. -/
def signatureFor (publicKey message : Bytes) : Bytes :=
  if publicKey = sampleKeyBytes ∧ message = sampleChallenge.toUTF8.data.toList then
    sampleSignatureBytes
  else List.replicate 64 0

/-- Base64 is what it is; JSON is that of the state. -/
def sampleSigner : SigningCrates where
  toVecPretty state :=
    if state = claimedState then some (textBytes (prettyState claimedState)) else none
  fromSlice bytes :=
    if bytes = textBytes (prettyState claimedState) then some claimedState else none
  encode := Base64.encode
  decode := Base64.decode
  verifyingKey := samplePublicKey
  sign key := signatureFor (samplePublicKey key).1

def sampleVerifier : Server.Crates :=
  { Server.sampleCrates with
    base64Decode := Base64.decode
    ed25519Key := fun key => key.length == 32
    ed25519Verify := fun key message sig => sig == signatureFor key message }

theorem sampleSigner_lawful : sampleSigner.toCrates.Lawful where
  json state bytes h := by
    have h' : (if state = claimedState then some (textBytes (prettyState claimedState)) else none) =
      some bytes := h
    show (if bytes = textBytes (prettyState claimedState) then some claimedState else none) =
      some state
    split at h'
    · next heq => rw [heq, if_pos (Option.some.inj h').symm]
    · cases h'
  base64 := Base64.decode_encode

theorem sample_agree : Agree sampleSigner sampleVerifier where
  base64 := Base64.decode_encode
  trimmed := Base64.trim_encode
  publicKey key := beq_iff_eq.2 (samplePublicKey key).2
  signature key message := by
    show ((signatureFor _ _).length == 64) = true
    unfold signatureFor
    split <;> rfl
  verifies key message := beq_self_eq_true (signatureFor _ message)

/-- The server of the sample, with these crates. -/
def loginSetup : Setup := { sample strangerRequests with crates := sampleVerifier }

/-- The two requests are answered with the challenge and with the token. -/
def answersLogin (tr : List (Ev Tid Resp)) : Bool :=
  (tr.any fun
    | ⟨.request 0, .respond response, _⟩ => response == ⟨OK, .challenge sampleChallenge⟩
    | _ => false) &&
  tr.any fun
    | ⟨.request 1, .respond ⟨status, .verified token _⟩, _⟩ =>
        status == OK && token == nodeToken 10
    | _ => false

/-- The agent logs in at `a` once. -/
def sampleLogins : List (Op × Creds.Choice) :=
  [(.login "a", { claim := some 10, signingKey := sampleSeed })]

theorem encode_sampleSignatureBytes : Base64.encode sampleSignatureBytes = sampleSignature := by
  decide +kernel

/-- The stranger who presents another challenge has no signature for it. -/
theorem unsigned_stranger : verifySignature sampleVerifier claimedState.publicKey
    (VerifyRequest.text ⟨10, "", sampleSignature⟩) (trim sampleSignature) ≠ .ok () := by
  intro hok
  obtain ⟨pk, sig, -, -, -, hsig, -, hverify⟩ := signs_of_verifySignature hok
  -- the signature decodes to the one of the sample's challenge, which the text is not
  rw [← encode_sampleSignatureBytes, Base64.trim_encode] at hsig
  obtain rfl := Option.some.inj ((Base64.decode_encode _).symm.trans hsig)
  have hother : (VerifyRequest.text ⟨10, "", sampleSignature⟩).toUTF8.data.toList ≠
      sampleChallenge.toUTF8.data.toList := by decide +kernel
  have hzeros : signatureFor pk (VerifyRequest.text ⟨10, "", sampleSignature⟩).toUTF8.data.toList =
      List.replicate 64 0 := if_neg fun h => hother h.2
  have heq := (beq_iff_eq.1 hverify).trans hzeros
  revert heq
  decide +kernel

theorem agent_gets_token_of_login :
    ∃ cfg token claims, (machine loginSetup).Reach (fun w i c r =>
        Orderly loginSetup claimedState.nodeId claimedState.publicKey 0 1 sampleLogin w i c r ∧
          LeftAlone claimedState.nodeId 0 1 sampleLogin w i c) sampleStart cfg ∧
      Talks loginSetup cfg.world.trace [0, 1] (fetchSessionJwt sampleSigner "a" 443 claimedState)
        (.ok token) ∧
      claims.nodeId = 10 ∧
      (⟨.request 1, .encodeNodeJwt claims, .ok token⟩ : Ev Tid Resp) ∈ cfg.world.trace := by
  have hload : startLoad sampleSigner.toCrates "a" (answering 10)
      (perform sampleSigner.toCrates sampleLogins none).2 = some ("a", claimedState) := by
    decide +kernel
  have hrun : ((machine loginSetup).run (fun w i c r => orderly w i c r && spares w c)
      (agentLogin harmless) sampleStart).any (fun cfg => answersLogin cfg.world.trace) = true := by
    decide +kernel
  obtain ⟨cfg, hr, hend⟩ := Machine.reach_of_run (A := fun w i c r =>
    Orderly loginSetup claimedState.nodeId claimedState.publicKey 0 1 sampleLogin w i c r ∧
      LeftAlone claimedState.nodeId 0 1 sampleLogin w i c) (fun w i c r h => by
    rw [Bool.and_eq_true] at h
    have horderly := orderly_sound w i c r h.1
    exact ⟨⟨horderly.runs, horderly.signs, horderly.active, horderly.given, horderly.after,
      horderly.inTime⟩, spares_sound h.2⟩) hrun
  rw [answersLogin, Bool.and_eq_true, List.any_eq_true, List.any_eq_true] at hend
  obtain ⟨⟨e₀, hmem₀, he₀⟩, ⟨e₁, hmem₁, he₁⟩⟩ := hend
  split at he₀
  · next response =>
      obtain rfl := beq_iff_eq.1 he₀
      split at he₁
      · next status token expiresAt =>
          rw [Bool.and_eq_true, beq_iff_eq, beq_iff_eq] at he₁
          obtain ⟨rfl, rfl⟩ := he₁
          have hkey : signingKey sampleSigner.toCrates claimedState = .ok sampleSeed := by
            decide +kernel
          have hsign : sampleSigner.sign sampleSeed sampleChallenge.toUTF8.data.toList =
              sampleSignatureBytes := by decide +kernel
          have hsigned : signChallenge sampleSigner sampleSeed sampleChallenge = sampleSignature :=
            (congrArg Base64.encode hsign).trans encode_sampleSignatureBytes
          have htalks : Talks loginSetup cfg.world.trace [0, 1]
              (fetchSessionJwt sampleSigner "a" 443 claimedState) (.ok (nodeToken 10)) := by
            rw [fetchSessionJwt_eq hkey]
            refine .post rfl hmem₀ (.post ?_ hmem₁ .ends)
            rw [hsigned]
            rfl
          obtain ⟨token, claims, htoken, hclaims, hencoded⟩ :=
            agent_gets_token sampleSigner_lawful sample_agree (answering_opens 10) hload rfl
              (fun q payload' hq hreq => by
                rcases q with _ | _ | _ | _ | q
                · cases hreq
                · exact absurd rfl hq
                · cases hreq
                  exact fun _ => unsigned_stranger
                · cases hreq
                · cases hreq) hr htalks (List.prefix_refl _)
          cases htoken
          exact ⟨cfg, _, claims, hr, htalks, hclaims, hencoded⟩
      · cases he₁
  · cases he₀

end Phirepass.System
