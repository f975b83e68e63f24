/-
# `Phirepass.Agent.Login` — `fetch_session_jwt`: a key is shown, a token is had

Before it connects, the agent asks the server for a challenge, signs it with
the key it has stored, and sends the signature back:

    POST /api/nodes/auth/challenge    node_id                          challenge
    POST /api/nodes/auth/verify       node_id, challenge, signature    access_token

What goes wrong is an error with the text that is logged.  The requests are
the commands of a program (`Interleave.Prog`), which the server answers.

The keys it has stored belong together, whatever logins and logouts there
have been (`own_perform`): a login keeps the pair it finds for its host, or
generates one.
-/
import Phirepass.Agent.Endpoint
import Phirepass.Agent.IdentityStore
import Phirepass.Interleave.Prog

namespace Phirepass.Creds

open Interleave

/-! ## Requests and responses -/

/-- A request with a JSON body. -/
inductive Post where
  | challenge (url : String) (nodeId : Uuid)
  | verify (url : String) (nodeId : Uuid) (challenge signature : String)
  deriving DecidableEq, Repr

/-- A response, as `parse_json_response` reads it. -/
structure Reply where
  status : Nat
  /-- The status as it is printed. -/
  statusText : String
  /-- The text `error` of the JSON object, if there is one. -/
  error : Option String
  /-- The field that was asked for, or why there is none. -/
  field : Except String String

/-- `parse_json_response`. -/
def parseJsonResponse (reply : Reply) : Except String String :=
  if ¬ (200 ≤ reply.status ∧ reply.status < 300) then
    let error := reply.error.getD "request failed"
    .error s!"request failed ({reply.statusText}): {error}"
  else
    match reply.field with
    | .ok field => .ok field
    | .error err => .error s!"failed to decode response json: {err}"

/-- The answer to a request, or the error of `send`. -/
abbrev Answer (_ : Post) : Type := Except String Reply

abbrev Fetch (α : Type) : Type := Prog Post Answer α

/-- `post_json`. -/
def postJson (post : Post) : Fetch (Except String String) := do
  match ← Prog.perform post with
  | .ok reply => return parseJsonResponse reply
  | .error err => return .error err

/-! ## `fetch_session_jwt` -/

/-- The crates, with Ed25519's `sign`. -/
structure SigningCrates extends Crates where
  sign : Key → Bytes → Bytes

/-- `SigningKey::from_bytes` of the stored private key. -/
def signingKey (C : Crates) (state : StoredState) : Except String Key :=
  match C.decode state.privateKey with
  | none => .error "invalid private key encoding"
  | some bytes =>
      if h : bytes.length = 32 then .ok ⟨bytes, h⟩
      else .error "private key must decode to 32 bytes"

/-- The signature of the challenge, as it is sent. -/
def signChallenge (C : SigningCrates) (key : Key) (challenge : String) : String :=
  C.encode (C.sign key challenge.toUTF8.data.toList)

/-- `fetch_session_jwt`. -/
def fetchSessionJwt (C : SigningCrates) (serverHost : String) (serverPort : UInt16)
    (state : StoredState) : Fetch (Except String String) := do
  let baseUrl := Endpoint.generateHttpEndpoint serverHost serverPort
  match ← postJson (.challenge (baseUrl ++ "/api/nodes/auth/challenge") state.nodeId) with
  | .error _ => return .error "failed to request auth challenge"
  | .ok challenge =>
      match signingKey C.toCrates state with
      | .error err => return .error err
      | .ok key =>
          match ← postJson (.verify (baseUrl ++ "/api/nodes/auth/verify") state.nodeId challenge
              (signChallenge C key challenge)) with
          | .error _ => return .error "failed to verify auth challenge"
          | .ok accessToken => return .ok accessToken

/-- The text of `fetch_session_jwt` with the key it reads. -/
theorem fetchSessionJwt_eq {C : SigningCrates} {serverHost : String} {serverPort : UInt16}
    {state : StoredState} {key : Key} (hkey : signingKey C.toCrates state = .ok key) :
    fetchSessionJwt C serverHost serverPort state =
      .op (.challenge (Endpoint.generateHttpEndpoint serverHost serverPort ++
          "/api/nodes/auth/challenge") state.nodeId) fun answer =>
        match answer.bind parseJsonResponse with
        | .error _ => .ret (.error "failed to request auth challenge")
        | .ok challenge =>
            .op (.verify (Endpoint.generateHttpEndpoint serverHost serverPort ++
                "/api/nodes/auth/verify") state.nodeId challenge
                (signChallenge C key challenge)) fun answer =>
              match answer.bind parseJsonResponse with
              | .error _ => .ret (.error "failed to verify auth challenge")
              | .ok accessToken => .ret (.ok accessToken) := by
  have hpost (post : Post) (f : Except String String → Fetch (Except String String)) :
      (postJson post >>= f) = .op post fun answer => f (answer.bind parseJsonResponse) := by
    refine congrArg (Prog.op post) (funext fun answer => ?_)
    cases answer <;> rfl
  unfold fetchSessionJwt
  dsimp only
  rw [hpost]
  refine congrArg (Prog.op _) (funext fun answer => ?_)
  cases answer.bind parseJsonResponse with
  | error err => rfl
  | ok challenge =>
      dsimp only
      rw [hkey]
      dsimp only
      rw [hpost]
      refine congrArg (Prog.op _) (funext fun answer => ?_)
      cases answer.bind parseJsonResponse with
      | error err => rfl
      | ok accessToken => rfl

/-! ## The keys that are stored -/

section Own

variable {C : Crates}

/-- The private key and its public key. -/
def OwnKeys (C : Crates) (key : Key) (privateKey publicKey : String) : Prop :=
  privateKey = C.encode key.1 ∧ publicKey = C.encode (C.verifyingKey key).1

/-- The keys of the store belong together. -/
def Store.Own (store : Store C) : Prop :=
  ∀ host identity, store = some (host, identity) →
    ∃ key, OwnKeys C key identity.keypair.privateKey.1 identity.keypair.publicKey.1

theorem Store.Own.of_find {store : Store C} (hown : store.Own) {host : String}
    {identity : Identity C} (hfind : store.find host = some identity) :
    ∃ key, OwnKeys C key identity.keypair.privateKey.1 identity.keypair.publicKey.1 := by
  cases store with
  | none => cases hfind
  | some held =>
      obtain ⟨bound, identity'⟩ := held
      simp only [Store.find] at hfind
      split at hfind
      · cases hfind
        exact hown bound identity rfl
      · cases hfind

/-- A login claims the node with keys that belong together. -/
theorem Store.Own.keysFor (hC : C.Lawful) {store : Store C} (hown : store.Own) (host : String)
    (o : Choice) : ∃ key, OwnKeys C key (store.keysFor hC host o).privateKey.1
      (store.keysFor hC host o).publicKey.1 := by
  unfold Store.keysFor
  split
  · next identity hfound =>
      split at hfound
      · exact hown.of_find hfound
      · cases hfound
  · exact ⟨o.signingKey, rfl, rfl⟩

theorem Store.Own.bind (hC : C.Lawful) {store : Store C} (hown : store.Own) (host : String)
    (o : Choice) : (store.bind hC host o).Own := by
  intro bound identity hbound
  unfold Store.bind at hbound
  split at hbound
  · split at hbound
    · cases hbound
      exact hown.keysFor hC host o
    · cases hbound
  · exact hown bound identity hbound

/-- One operation. -/
theorem Store.Own.after (hC : C.Lawful) {store : Store C} (hown : store.Own)
    (step : Op × Choice × Bool) : (store.after hC step).Own := by
  obtain ⟨op, o, done⟩ := step
  cases op with
  | login host =>
      cases done with
      | false => exact hown
      | true => exact hown.bind hC (stripScheme host) o
  | saveToken host =>
      cases done with
      | false => exact hown
      | true => exact hown.bind hC (stripScheme host) o
  | load host => cases done <;> exact hown
  | logout host =>
      cases done with
      | false => exact hown
      | true =>
          intro bound identity hbound
          cases hbound

theorem Store.Own.afterAll (hC : C.Lawful) {store : Store C} (hown : store.Own)
    (history : List (Op × Choice × Bool)) : (store.afterAll hC history).Own := by
  induction history generalizing store with
  | nil => exact hown
  | cons step history ih => exact ih (hown.after hC step)

/-- What the agent loads, after whatever logins and logouts. -/
theorem own_perform (hC : C.Lawful) (ops : List (Op × Choice)) {host bound : String} {o : Choice}
    (ho : o.Opens) {state : StoredState}
    (hload : startLoad C host o (perform C ops none).2 = some (bound, state)) :
    ∃ key, OwnKeys C key state.privateKey state.publicKey := by
  have hown : Store.Own (storeOf C (perform C ops none).2) := by
    rw [storeOf_perform hC]
    refine Store.Own.afterAll hC ?_ _
    intro bound identity hbound
    cases hbound
  have hcredentials : (startLoad C host o (perform C ops none).2).map
      (fun loaded => (loaded.1, loaded.2.credentials)) =
        ((storeOf C (perform C ops none).2).find (stripScheme host)).map
          fun identity => (stripScheme host, identity.credentials) :=
    startLoad_credentials ho host _
  rw [hload] at hcredentials
  obtain ⟨identity, hfind, heq⟩ := Option.map_eq_some_iff.1 hcredentials.symm
  obtain ⟨key, hprivate, hpublic⟩ := hown.of_find hfind
  have hsame : identity.credentials = state.credentials := (Prod.mk.inj heq).2
  rw [Identity.credentials, StoredState.credentials, Prod.mk.injEq, Prod.mk.injEq] at hsame
  exact ⟨key, hsame.2.1.symm.trans hprivate, hsame.2.2.symm.trans hpublic⟩

/-- The key that is signed with. -/
theorem signingKey_of_own (hC : C.Lawful) {key : Key} {state : StoredState}
    (hown : OwnKeys C key state.privateKey state.publicKey) : signingKey C state = .ok key := by
  rw [signingKey, hown.1, hC.base64]
  exact dif_pos key.2

end Own

end Phirepass.Creds
