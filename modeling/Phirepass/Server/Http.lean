/-
# `Phirepass.Server.Http` — `AppState`'s lookups, the HTTP requests and the cleanup task

`get_node_id_by_cid_and_sid` is where a web client's claim to a tunnel is
checked, `get_connection_id_by_sid` where a node's is, and
`notify_client_by_cid` the one way a frame reaches a browser after login.

The two endpoints of the node login are several statements each, with other
tasks between any two of them: `verify_auth_challenge` reads the challenge
row, deletes it, and only then looks at expiry and signature.
-/
import Phirepass.Server.State

namespace Phirepass.Server

open Rust Interleave

/-! ## `AppState` -/

/-- `AppState::get_node_id_by_cid_and_sid`. -/
def getNodeIdByCidAndSid (S : Setup) (cid : Uuid) (nodeId : String) (sid : UInt32) :
    Action (Except String Uuid) := do
  match S.crates.parseUuid nodeId with
  | .error err => return .error s!"failed to decode uuid {nodeId}: {err}"
  | .ok nodeUuid =>
      match ← call (.tunnelSessions (.get ⟨nodeUuid, sid⟩)) with
      | none => return .error s!"node not found for session id {sid.toNat}"
      | some (clientId, nodeId) =>
          if clientId ≠ cid then return .error s!"correct cid was not found for sid {sid.toNat}"
          else return .ok nodeId

/-- `AppState::get_connection_id_by_sid`. -/
def getConnectionIdBySid (sid : UInt32) (target : Uuid) : Action (Except String Uuid) := do
  match ← call (.tunnelSessions (.get ⟨target, sid⟩)) with
  | none => return .error s!"node not found for session id {sid.toNat}"
  | some (clientId, nodeId) =>
      if nodeId ≠ target then
        return .error s!"correct node_id was not found for sid {sid.toNat}"
      else return .ok clientId

/-- `AppState::notify_client_by_cid`. -/
def notifyClientByCid (cid : Uuid) (frame : WebFrameData) : Action (Except String Unit) := do
  match ← call (.connections (.get cid)) with
  | none => return .error s!"connection {cid.display} not found"
  | some connection =>
      if ← call (.web (.send connection.tx frame)) then return .ok ()
      else return .error s!"failed to send frame to client {cid.display}: channel closed"

/-! ## Node login -/

def OK : Nat := 200
def UNAUTHORIZED : Nat := 401
def INTERNAL_SERVER_ERROR : Nat := 500

/-- `create_auth_challenge`. -/
def createAuthChallenge (S : Setup) (payload : ChallengeRequest) : Action Response := do
  let challenge ← call .generateChallenge
  match ← call (.db (.getNodeClaimByIdOptional payload.nodeId)) with
  | .error _ =>
      return ⟨INTERNAL_SERVER_ERROR,
        .failure (some "CHALLENGE_LOOKUP_FAILED") "failed to create challenge"⟩
  | .ok none => return ⟨OK, .challenge challenge⟩
  | .ok (some node) =>
      if node.revoked then return ⟨OK, .challenge challenge⟩
      else
        let now ← call .now
        let expiresAt := now + S.challengeTtlSecs * 1000
        match ← call (.db (.upsertAuthChallenge node.id challenge expiresAt)) with
        | .error _ =>
            return ⟨INTERNAL_SERVER_ERROR,
              .failure (some "CHALLENGE_WRITE_FAILED") "failed to create challenge"⟩
        | .ok () => return ⟨OK, .challenge challenge⟩

/-- `verify_signature`. -/
def verifySignature (C : Crates) (publicKey challenge signature : String) :
    Except String Unit := do
  let some pk := C.base64Decode publicKey | throw "invalid public key encoding"
  let some sig := C.base64Decode signature | throw "invalid signature encoding"
  if pk.length ≠ 32 then throw "public key must decode to 32 bytes"
  if !C.ed25519Key pk then throw "invalid ed25519 public key"
  if !C.ed25519Signature sig then throw "invalid ed25519 signature"
  if !C.ed25519Verify pk challenge.toUTF8.data.toList sig then
    throw "signature verification failed"

/-- `signature` encodes a signature over the challenge that Ed25519 accepts under the key that
`publicKey` encodes. -/
def Signs (C : Crates) (publicKey challenge signature : String) : Prop :=
  ∃ pk sig, C.base64Decode publicKey = some pk ∧ pk.length = 32 ∧ C.ed25519Key pk = true ∧
    C.base64Decode signature = some sig ∧ C.ed25519Signature sig = true ∧
      C.ed25519Verify pk challenge.toUTF8.data.toList sig = true

theorem signs_of_verifySignature {C : Crates} {publicKey challenge signature : String}
    (h : verifySignature C publicKey challenge signature = .ok ()) :
    Signs C publicKey challenge signature := by
  unfold verifySignature at h
  split at h
  · next pk hpk =>
      split at h
      · next sig hsig =>
          dsimp only at h
          split at h
          · cases h
          · next hlength =>
              split at h
              · cases h
              · next hkey =>
                  split at h
                  · cases h
                  · next hsound =>
                      split at h
                      · cases h
                      · next hverify =>
                          exact ⟨pk, sig, hpk, not_not.1 hlength, by simpa using hkey, hsig,
                            by simpa using hsound, by simpa using hverify⟩
      · cases h
  · cases h

/-- `DateTime::timestamp`: whole seconds, rounded down. -/
def timestamp (t : Time) : Int := t / 1000

/-- The claims `issue_node_jwt` signs at the time `iat`. -/
def nodeJwtClaims (S : Setup) (nodeId : Uuid) (iat : Time) : NodeJwtClaims :=
  ⟨nodeId, timestamp (iat + S.jwtTtlSecs * 1000), timestamp iat⟩

/-- `issue_node_jwt`. -/
def issueNodeJwt (S : Setup) (nodeId : Uuid) : Action (Except String (String × Time)) := do
  let iat ← call .now
  match ← call (.encodeNodeJwt (nodeJwtClaims S nodeId iat)) with
  | .error err => return .error err
  | .ok token => return .ok (token, iat + S.jwtTtlSecs * 1000)

/-- The response `unauthorized_verify` of `verify_auth_challenge`. -/
def unauthorizedVerify : Response :=
  ⟨UNAUTHORIZED, .failure (some "AUTH_VERIFY_FAILED") "authentication failed"⟩

/-- `verify_auth_challenge`. -/
def verifyAuthChallenge (S : Setup) (payload : VerifyRequest) : Action Response := do
  match ← call (.db (.getNodeClaimById payload.nodeId)) with
  | .error _ => return unauthorizedVerify
  | .ok node =>
  if node.revoked then return unauthorizedVerify
  else
  match ← call (.db (.getAuthChallenge payload.nodeId (trim payload.challenge))) with
  | .error err =>
      return ⟨INTERNAL_SERVER_ERROR, .failure (some "AUTH_CHALLENGE_LOOKUP_FAILED") err⟩
  | .ok none => return unauthorizedVerify
  | .ok (some challengeRecord) =>
  -- Challenges are one-time: consumed before the signature is looked at.
  match ← call (.db (.consumeAuthChallenge payload.nodeId (trim payload.challenge))) with
  | .error err =>
      return ⟨INTERNAL_SERVER_ERROR, .failure (some "AUTH_CHALLENGE_CONSUME_FAILED") err⟩
  | .ok () =>
  let now ← call .now
  if challengeRecord.expiresAt ≤ now then return unauthorizedVerify
  else
  match verifySignature S.crates node.publicKey (trim payload.challenge)
      (trim payload.signature) with
  | .error _ => return unauthorizedVerify
  | .ok () =>
  match ← issueNodeJwt S payload.nodeId with
  | .error err => return ⟨INTERNAL_SERVER_ERROR, .failure (some "AUTH_JWT_ISSUE_FAILED") err⟩
  | .ok (accessToken, expiresAt) => return ⟨OK, .verified accessToken expiresAt⟩

/-- `authenticate_node_jwt`; the answer is the `node_id` of `AuthenticatedNode`. -/
def authenticateNodeJwt (token : String) : Action (Except String Uuid) := do
  match ← call (.decodeNodeJwt token) with
  | .error err => return .error err
  | .ok claims =>
      match ← call (.db (.getNodeClaimById claims.nodeId)) with
      | .error err => return .error err
      | .ok node =>
          if node.revoked then return .error "node is revoked"
          else return .ok claims.nodeId

/-- `extract_bearer_token`. -/
def extractBearerToken : Option (Option String) → Except String String
  | none => .error "missing authorization header"
  | some none => .error "invalid authorization header"
  | some (some header) =>
      match stripPrefix "Bearer " header with
      | none => .error "expected Bearer token"
      | some rest =>
          if (trim rest).isEmpty then .error "bearer token is empty" else .ok (trim rest)

/-- `heartbeat` behind the middleware `require_node_jwt`. -/
def heartbeat (authorization : Option (Option String)) : Action Response := do
  match extractBearerToken authorization with
  | .error err => return ⟨UNAUTHORIZED, .failure none err⟩
  | .ok token =>
      match ← authenticateNodeJwt token with
      | .error err => return ⟨UNAUTHORIZED, .failure none err⟩
      | .ok nodeId =>
          match ← call (.db (.touchNodeLastSeen nodeId)) with
          | .error err => return ⟨INTERNAL_SERVER_ERROR, .failure none err⟩
          | .ok () =>
              let now ← call .now
              return ⟨OK, .alive nodeId now⟩

/-- The route a request takes. -/
def route (S : Setup) : Request → Action Response
  | .createAuthChallenge payload => createAuthChallenge S payload
  | .verifyAuthChallenge payload => verifyAuthChallenge S payload
  | .heartbeat authorization => heartbeat authorization

/-- One HTTP request. -/
def serve (S : Setup) (r : Nat) : Action Label := do
  let response ← route S (S.requests r)
  call (.respond response)
  return .done

/-! ## Cleanup -/

/-- `CONNECTION_TIMEOUT`, in milliseconds. -/
def CONNECTION_TIMEOUT : Int := 120000

/-- `now.duration_since(earlier)` in milliseconds; an error if the clock went back. -/
def durationSince (now earlier : Time) : Except String Int :=
  if earlier ≤ now then .ok (now - earlier)
  else .error "second time provided was later than self"

/-- Silent for longer than the timeout; kept if the clock went back. -/
def isStale (now lastHeartbeat : Time) : Bool :=
  match durationSince now lastHeartbeat with
  | .ok elapsed => decide (CONNECTION_TIMEOUT < elapsed)
  | .error _ => false

/-- `refresh_connections_task`, up to the first turn of `connections.retain`. -/
def refreshConnectionsTask : Action Label := do
  let now ← call .now
  let start ← call (.connections .keys)
  return .evictConnections now start []

/-- One turn of `state.connections.retain` in `cleanup_dangling_connections`. -/
def evictConnections (now : Time) (start visited : List Uuid) : Action Label := do
  match ← call (.connections (.next start visited)) with
  | some (cid, _) =>
      let _ ← call (.connections (.removeIf cid fun conn => isStale now conn.lastHeartbeat))
      return .evictConnections now start (cid :: visited)
  | none =>
      let start ← call (.nodes .keys)
      return .evictNodes now start []

/-- One turn of `state.nodes.retain`. -/
def evictNodes (now : Time) (start visited : List Uuid) : Action Label := do
  match ← call (.nodes (.next start visited)) with
  | some (id, _) =>
      let _ ← call (.nodes (.removeIf id fun conn => isStale now conn.node.lastHeartbeat))
      return .evictNodes now start (id :: visited)
  | none =>
      let start ← call (.connections .keys)
      return .refreshConnections start []

/-- One turn of the loop at the end of `refresh_connections_task`. -/
def refreshConnections (start visited : List Uuid) : Action Label := do
  match ← call (.connections (.next start visited)) with
  | some (cid, conn) =>
      let _ ← call (.memoryDb (.refreshConnection cid conn.ip))
      return .refreshConnections start (cid :: visited)
  | none => return .refresh

end Phirepass.Server
