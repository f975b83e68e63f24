/-
# `Phirepass.Server.Claim` — `claim_node`: who owns a node

`POST /api/nodes/claim` binds a public key to the user of a personal access
token.  It looks the key up, refuses if the row has another owner, and then
upserts; the upsert's conflict branch rewrites hostname and metadata and
never looks at the owner.  Between the two statements any other request may
run.

A node row keeps its id and its owner for good, so the check of a request
still holds at its upsert unless a request of another user has written the
same key in between.  If none has, a success names a row of the user it is
returned to and only owners change a row (`claims_owned`).  Otherwise the
second of two users who claim a new key at the same time is told the id of
the first one's node, and has rewritten it (`claim_race`).

The requests are a machine of their own: they share the tables `nodes` and
`pat_tokens` with nothing but each other and the service that issues tokens.
-/
import Phirepass.Server.Http

namespace Phirepass.Server.Claim

open Rust Interleave Prog

/-! ## Personal access tokens -/

/-- `extract_creds` of `common/src/token.rs`. -/
def extractCreds (token : String) : Except String (String × String) :=
  let token := trim token
  if token.isEmpty then .error "token is required"
  else
    -- `starts_with` and `strip_prefix` ask the same, so the second error never arises
    match stripPrefix "pat_" token with
    | none => .error "invalid token format"
    | some patBody =>
        match splitOnce patBody '.' with
        | none => .error "failed to extract required token part"
        | some (tokenId, secret) => .ok (tokenId, secret)

structure TokenRecord where
  id : Uuid
  tokenId : String
  tokenHash : String
  userId : Uuid
  expiresAt : Option Time
  scopes : List String
  deriving DecidableEq, Repr

/-! ## The tables -/

/-- A row of `nodes`, as `NodeClaimRecord` reads it; `metadata` is the JSON text. -/
structure NodeClaimRecord where
  id : Uuid
  userId : Uuid
  publicKey : String
  hostname : String
  metadata : String
  createdAt : Time
  lastSeen : Option Time
  revoked : Bool
  deriving DecidableEq, Repr

/-- `nodes` by its unique column `public_key`, and `pat_tokens` by `token_id`. -/
structure State where
  nodes : DashMap String NodeClaimRecord
  patTokens : DashMap String TokenRecord
  clock : Time

/-- The clock and the table that another service writes. -/
structure Surroundings where
  clock : Time
  patTokens : DashMap String TokenRecord

structure ClaimNodeRequest where
  publicKey : String
  hostname : String
  metadata : String
  deriving DecidableEq, Repr

/-- The JSON bodies of the responses. -/
inductive Body where
  | claimed (nodeId : Uuid)
  | failure (code error : String)
  deriving DecidableEq, Repr

structure Response where
  status : Nat
  body : Body
  deriving DecidableEq, Repr

/-- The requests, with their `Authorization` header, and the crate `argon2`. -/
structure Setup where
  requests : Nat → Option (Option String) × ClaimNodeRequest
  /-- `PasswordHash::new` accepts the stored text. -/
  parsesHash : String → Bool
  /-- `verify_password`, of a secret against a stored hash. -/
  verifyPassword : String → String → Bool

/-! ## Commands -/

inductive Cmd where
  | getTokenById (tokenId : String)
  | getNodeByPublicKey (publicKey : String)
  | claimNodeByPublicKey (userId : Uuid) (publicKey hostname metadata : String)
  | now
  | respond (response : Response)
  /-- Time passes and tokens are issued and withdrawn. -/
  | environment

@[reducible] def Resp : Cmd → Type
  | .getTokenById _ => Except String TokenRecord
  | .getNodeByPublicKey _ => Except String (Option NodeClaimRecord)
  | .claimNodeByPublicKey _ _ _ _ => Except String NodeClaimRecord
  | .now => Time
  | .respond _ => Unit
  | .environment => Surroundings

abbrev Action (α : Type) : Type := Prog Cmd Resp α

abbrev call (c : Cmd) : Action (Resp c) := Prog.perform c

inductive Tid where
  | request (r : Nat)
  | environment
  deriving DecidableEq, Repr

inductive Label where
  | request (r : Nat)
  | environment
  | done

/-- What the environment decides at one step. -/
structure Choice where
  /-- The database fails. -/
  fail : Bool := false
  /-- The failed statement took effect all the same. -/
  lost : Bool := false
  /-- What `gen_random_uuid()` draws. -/
  uuid : Uuid := 0
  around : Surroundings := ⟨0, ∅⟩

/-- An id no node has. -/
def State.Fresh (s : State) (id : Uuid) : Prop := ∀ e ∈ s.nodes.entries, e.2.id ≠ id

instance (s : State) (id : Uuid) : Decidable (s.Fresh id) := inferInstanceAs (Decidable (∀ _ ∈ _, _))

/-- The row `INSERT … ON CONFLICT (public_key) DO UPDATE …` writes, or none if it would have to
insert and the id it drew is taken. -/
def State.claim (s : State) (id userId : Uuid) (publicKey hostname metadata : String) :
    Option NodeClaimRecord :=
  match s.nodes.lookup publicKey with
  | some row => some { row with hostname := hostname, metadata := metadata }
  | none =>
      if s.Fresh id then
        some ⟨id, userId, publicKey, hostname, metadata, s.clock, none, false⟩
      else none

/-- One command. -/
def exec (_ : Tid) : (c : Cmd) → Choice → State → Option (Resp c × State)
  | .getTokenById tokenId, o, s =>
      if o.fail then some (.error "failed to retrieve token by id", s)
      else
        match s.patTokens.lookup tokenId with
        | some token => some (.ok token, s)
        | none => some (.error "failed to retrieve token by id", s)
  | .getNodeByPublicKey publicKey, o, s =>
      if o.fail then some (.error "failed to retrieve node by public key", s)
      else some (.ok (s.nodes.lookup publicKey), s)
  | .claimNodeByPublicKey userId publicKey hostname metadata, o, s =>
      if o.fail && !o.lost then some (.error "failed to claim node by public key", s)
      else
        (s.claim o.uuid userId publicKey hostname metadata).map fun row =>
          (if o.fail then .error "failed to claim node by public key" else .ok row,
            { s with nodes := s.nodes.insert publicKey row })
  | .now, _, s => some (s.clock, s)
  | .respond _, _, s => some ((), s)
  | .environment, o, s =>
      some (o.around, { s with clock := o.around.clock, patTokens := o.around.patTokens })

/-! ## The handler -/

def BAD_REQUEST : Nat := 400

/-- `bad_request`, `unauthorized` and `internal_error`, with the code and the text. -/
def badRequest (code error : String) : Response := ⟨BAD_REQUEST, .failure code error⟩
def unauthorized (code error : String) : Response := ⟨UNAUTHORIZED, .failure code error⟩
def internalError (code error : String) : Response := ⟨INTERNAL_SERVER_ERROR, .failure code error⟩

inductive CredentialValidationError where
  | unauthorized (message : String)
  | internal (message : String)

/-- The part of `validate_creds` after the expiry check. -/
def verifyCreds (S : Setup) (token : TokenRecord) (tokenSecret : String) :
    Except CredentialValidationError TokenRecord :=
  if !S.parsesHash token.tokenHash then .error (.internal "failed to parse stored password hash")
  else if !S.verifyPassword tokenSecret token.tokenHash then
    .error (.unauthorized "failed to verify token")
  else .ok token

/-- `validate_creds`. -/
def validateCreds (S : Setup) (tokenId tokenSecret : String) :
    Action (Except CredentialValidationError TokenRecord) := do
  match ← call (.getTokenById tokenId) with
  | .error _ => return .error (.internal "failed to validate token")
  | .ok token =>
      match token.expiresAt with
      | none => return verifyCreds S token tokenSecret
      | some expiresAt =>
          let now ← call .now
          if expiresAt < now then return .error (.unauthorized "token has expired")
          else return verifyCreds S token tokenSecret

/-- The statements of `claim_node` once the user is known. -/
def claimForUser (payload : ClaimNodeRequest) (token : TokenRecord) : Action Response := do
  if "server:register" ∉ token.scopes then
    return unauthorized "AUTH_SCOPE_MISSING" "missing required scope: server:register"
  else
  match ← call (.getNodeByPublicKey (trim payload.publicKey)) with
  | .error _ => return internalError "CLAIM_LOOKUP_FAILED" "failed to check node claim"
  | .ok found =>
  if found.any fun existing => existing.userId ≠ token.userId then
    return unauthorized "CLAIM_PUBLIC_KEY_OWNERSHIP_CONFLICT"
      "public key already claimed by another user"
  else
  match ← call (.claimNodeByPublicKey token.userId (trim payload.publicKey) (trim payload.hostname)
      payload.metadata) with
  | .error _ => return internalError "CLAIM_WRITE_FAILED" "failed to claim node"
  | .ok node => return ⟨OK, .claimed node.id⟩

/-- The credentials of a request: the bearer token of the header, taken apart. -/
def credentials (authorization : Option (Option String)) : Except Response (String × String) :=
  match extractBearerToken authorization with
  | .error err => .error (unauthorized "AUTH_HEADER_INVALID" err)
  | .ok bearer =>
      match extractCreds bearer with
      | .error err => .error (unauthorized "AUTH_TOKEN_FORMAT_INVALID" err)
      | .ok creds => .ok creds

/-- `claim_node`. -/
def claimNode (S : Setup) (authorization : Option (Option String)) (payload : ClaimNodeRequest) :
    Action Response := do
  if (trim payload.publicKey).isEmpty then
    return badRequest "BAD_REQUEST_PUBLIC_KEY_REQUIRED" "public_key is required"
  else if (trim payload.hostname).isEmpty then
    return badRequest "BAD_REQUEST_HOSTNAME_REQUIRED" "hostname is required"
  else
  match credentials authorization with
  | .error response => return response
  | .ok (tokenId, tokenSecret) =>
  match ← validateCreds S tokenId tokenSecret with
  | .error (.unauthorized err) => return unauthorized "AUTH_TOKEN_UNAUTHORIZED" err
  | .error (.internal err) => return internalError "AUTH_TOKEN_VALIDATION_FAILED" err
  | .ok token => claimForUser payload token

/-- One request. -/
def serve (S : Setup) (r : Nat) : Action Label := do
  let response ← claimNode S (S.requests r).1 (S.requests r).2
  call (.respond response)
  return .done

def body (S : Setup) : Label → Action Label
  | .request r => serve S r
  | .environment => do
      let _ ← call .environment
      return .environment
  | .done => return .done

def machine (S : Setup) : Machine State Tid Choice Resp Label where
  exec := exec
  body := body S

/-- Any tables, and no request begun. -/
def start (nodes : DashMap String NodeClaimRecord) (patTokens : DashMap String TokenRecord)
    (clock : Time) : Config State Tid Resp Label where
  threads
    | .request r => .ret (.request r)
    | .environment => .ret .environment
  world := ⟨⟨nodes, patTokens, clock⟩, []⟩

/-! ## What a request can do -/

/-- The request's credentials were found to be those of the token's user. -/
structure Validated (S : Setup) (authorization : Option (Option String)) (token : TokenRecord)
    (h : Hist Resp) : Prop where
  fetched : ∃ tokenId tokenSecret, credentials authorization = .ok (tokenId, tokenSecret) ∧
    S.verifyPassword tokenSecret token.tokenHash = true ∧
      (h = [⟨.getTokenById tokenId, .ok token⟩] ∨
        ∃ now, h = [⟨.now, now⟩, ⟨.getTokenById tokenId, .ok token⟩])

/-- The commands of a request after the history `h`. -/
inductive ClaimMay (S : Setup) (authorization : Option (Option String))
    (payload : ClaimNodeRequest) : Hist Resp → Cmd → Prop
  | token {tokenId : String} : ClaimMay S authorization payload [] (.getTokenById tokenId)
  | now {h : Hist Resp} : ClaimMay S authorization payload h .now
  | lookup {h : Hist Resp} {token : TokenRecord} (hv : Validated S authorization token h) :
      ClaimMay S authorization payload h (.getNodeByPublicKey (trim payload.publicKey))
  | claim {h : Hist Resp} {token : TokenRecord} {found : Option NodeClaimRecord}
      (hv : Validated S authorization token h)
      (hown : ∀ row, found = some row → row.userId = token.userId) :
      ClaimMay S authorization payload
        (⟨.getNodeByPublicKey (trim payload.publicKey), .ok found⟩ :: h)
        (.claimNodeByPublicKey token.userId (trim payload.publicKey) (trim payload.hostname)
          payload.metadata)
  | success {h : Hist Resp} {token : TokenRecord} {found : Option NodeClaimRecord}
      {node : NodeClaimRecord} (hv : Validated S authorization token h) :
      ClaimMay S authorization payload
        (⟨.claimNodeByPublicKey token.userId (trim payload.publicKey) (trim payload.hostname)
            payload.metadata, .ok node⟩ ::
          ⟨.getNodeByPublicKey (trim payload.publicKey), .ok found⟩ :: h)
        (.respond ⟨OK, .claimed node.id⟩)
  | failure {h : Hist Resp} {status : Nat} {code error : String} :
      ClaimMay S authorization payload h (.respond ⟨status, .failure code error⟩)

/-- What task `i` may issue. -/
def May (S : Setup) : Tid → Hist Resp → Cmd → Prop
  | .request r => ClaimMay S (S.requests r).1 (S.requests r).2
  | .environment => fun _ c => c = .environment

def At : Tid → Label → Hist Resp → Prop
  | .request r, .request r', h => r' = r ∧ h = []
  | .request _, .done, _ => True
  | .environment, .environment, _ => True
  | _, _, _ => False

section Conform

variable {S : Setup} {authorization : Option (Option String)} {payload : ClaimNodeRequest}

/-- A token that `verify_creds` returns belongs to the request's secret. -/
theorem verifyCreds_eq_ok {token token' : TokenRecord} {tokenSecret : String}
    (h : verifyCreds S token tokenSecret = .ok token') :
    token' = token ∧ S.verifyPassword tokenSecret token.tokenHash = true := by
  unfold verifyCreds at h
  split at h
  · cases h
  · split at h
    · cases h
    · next hverify =>
        cases h
        refine ⟨rfl, ?_⟩
        simpa using hverify

theorem validateCreds_conforms {tokenId tokenSecret : String}
    (hcreds : credentials authorization = .ok (tokenId, tokenSecret)) :
    (validateCreds S tokenId tokenSecret).Conforms (Issues (ClaimMay S authorization payload))
      (fun res h => ∀ token, res = .ok token → Validated S authorization token h) [] := by
  refine conforms_call.2 ⟨.token, fun found => ?_⟩
  match found with
  | .error _ =>
      intro token hres
      cases hres
  | .ok token =>
      simp only []
      split
      · intro token' hres
        obtain ⟨rfl, hverify⟩ := verifyCreds_eq_ok hres
        exact ⟨tokenId, tokenSecret, hcreds, hverify, .inl rfl⟩
      · refine conforms_call.2 ⟨.now, fun now => ?_⟩
        split
        · intro token' hres
          cases hres
        · intro token' hres
          obtain ⟨rfl, hverify⟩ := verifyCreds_eq_ok hres
          exact ⟨tokenId, tokenSecret, hcreds, hverify, .inr ⟨now, rfl⟩⟩

/-- The handler answers with a failure, or with a node it has just claimed. -/
def Answers (S : Setup) (authorization : Option (Option String)) (payload : ClaimNodeRequest)
    (response : Response) (h : Hist Resp) : Prop :=
  ClaimMay S authorization payload h (.respond response)

theorem claimForUser_conforms {token : TokenRecord} {h : Hist Resp}
    (hv : Validated S authorization token h) :
    (claimForUser payload token).Conforms (Issues (ClaimMay S authorization payload))
      (Answers S authorization payload) h := by
  unfold claimForUser
  split
  · exact .failure
  · refine conforms_call.2 ⟨.lookup hv, fun found => ?_⟩
    match found with
    | .error _ => exact ClaimMay.failure
    | .ok found =>
        simp only []
        split
        · exact ClaimMay.failure
        · next hany =>
            have hown : ∀ row, found = some row → row.userId = token.userId := by
              rintro row rfl
              simpa using hany
            refine conforms_call.2 ⟨.claim hv hown, fun claimed => ?_⟩
            match claimed with
            | .error _ => exact ClaimMay.failure
            | .ok node => exact ClaimMay.success hv

theorem claimNode_conforms :
    (claimNode S authorization payload).Conforms (Issues (ClaimMay S authorization payload))
      (Answers S authorization payload) [] := by
  unfold claimNode
  split
  · exact ClaimMay.failure
  · split
    · exact ClaimMay.failure
    · split
      · next response hcreds =>
          -- the two ways in which the header is refused
          unfold credentials at hcreds
          split at hcreds
          · cases hcreds
            exact ClaimMay.failure
          · split at hcreds
            · cases hcreds
              exact ClaimMay.failure
            · cases hcreds
      · next tokenId tokenSecret hcreds =>
          refine conforms_bind.2 ((validateCreds_conforms hcreds).mono fun res h hres => ?_)
          match res with
          | .error (.unauthorized _) | .error (.internal _) => exact ClaimMay.failure
          | .ok token => exact claimForUser_conforms (hres token rfl)

/-- Whatever a handler answers is sent. -/
theorem respond_conforms {r : Nat} {p : Action Response}
    (hp : p.Conforms (Issues (ClaimMay S (S.requests r).1 (S.requests r).2))
      (Answers S (S.requests r).1 (S.requests r).2) []) :
    (p >>= fun response => call (.respond response) >>= fun _ => pure .done).Conforms
      (Issues (May S (.request r))) (At (.request r)) [] := by
  refine conforms_bind.2 (hp.mono fun response h hanswer => ?_)
  exact conforms_call.2 ⟨hanswer, fun _ => trivial⟩

theorem serve_conforms {r : Nat} :
    (serve S r).Conforms (Issues (May S (.request r))) (At (.request r)) [] :=
  respond_conforms claimNode_conforms

/-- **The requests follow their rules.** -/
theorem claim_follows {nodes : DashMap String NodeClaimRecord}
    {patTokens : DashMap String TokenRecord} {clock : Time} :
    (machine S).Follows (fun i => Issues (May S i)) At (start nodes patTokens clock) where
  body i l h hat := by
    cases i with
    | request r =>
        cases l with
        | request r' =>
            obtain ⟨rfl, rfl⟩ := hat
            exact serve_conforms
        | done => trivial
        | environment => exact hat.elim
    | environment =>
        cases l with
        | environment => exact conforms_call.2 ⟨rfl, fun _ => trivial⟩
        | request | done => exact hat.elim
  start i := by
    cases i with
    | request r => exact ⟨rfl, rfl⟩
    | environment => trivial

end Conform

/-! ## Whose row a request writes -/

/-- Request `r`, with the own history `h`, acts for the user `u`. -/
def ActsFor (S : Setup) (r : Nat) (h : Hist Resp) (u : Uuid) : Prop :=
  ∃ tokenId tokenSecret token, credentials (S.requests r).1 = .ok (tokenId, tokenSecret) ∧
    (⟨.getTokenById tokenId, .ok token⟩ : Sigma Resp) ∈ h ∧
      S.verifyPassword tokenSecret token.tokenHash = true ∧ token.userId = u

/-- Every success is returned to a user, and names a row of that user. -/
def SuccessNamesOwn (S : Setup) (w : World State Tid Resp) : Prop :=
  ∀ r id past, (⟨.request r, .respond ⟨OK, .claimed id⟩, ()⟩ : Ev Tid Resp) :: past <:+ w.trace →
    (∃ u, ActsFor S r (own (.request r) past) u) ∧
      ∀ u, ActsFor S r (own (.request r) past) u →
        ∃ publicKey row, w.state.nodes.lookup publicKey = some row ∧ row.id = id ∧ row.userId = u

abbrev Restriction : Type := World State Tid Resp → Tid → (c : Cmd) → Resp c → Prop

/-- The next step, if it is one that `A` allows, changes hostname or metadata of a row only
for the row's owner. -/
def OwnersWrite (S : Setup) (A : Restriction) (cfg : Config State Tid Resp Label) : Prop :=
  ∀ i c next o r s, cfg.threads i = .op c next → exec i c o cfg.world.state = some (r, s) →
    A cfg.world i c r → ∀ publicKey row row', cfg.world.state.nodes.lookup publicKey = some row →
      s.nodes.lookup publicKey = some row' →
      (row'.hostname ≠ row.hostname ∨ row'.metadata ≠ row.metadata) →
        ∃ q, i = .request q ∧ ActsFor S q (own i cfg.world.trace) row.userId

/-- No request of another user has written the key since the request looked it up. -/
def Unraced : Restriction := fun w i c _ =>
  ∀ u publicKey hostname metadata found between past,
    c = .claimNodeByPublicKey u publicKey hostname metadata →
    w.trace = between ++ ⟨i, .getNodeByPublicKey publicKey, .ok found⟩ :: past →
    ∀ j u' hostname' metadata' r,
      (⟨j, .claimNodeByPublicKey u' publicKey hostname' metadata', r⟩ : Ev Tid Resp) ∈ between →
        u' = u

/-! ## Rows keep their owners -/

section Rows

variable {i : Tid} {o : Choice} {s s' : State}

/-- A command leaves the rows alone, or is an upsert that wrote one. -/
theorem exec_nodes {c : Cmd} {r : Resp c} (h : exec i c o s = some (r, s')) :
    s'.nodes = s.nodes ∨ ∃ u publicKey hostname metadata row,
      c = .claimNodeByPublicKey u publicKey hostname metadata ∧
        s.claim o.uuid u publicKey hostname metadata = some row ∧
        s'.nodes = s.nodes.insert publicKey row := by
  cases c with
  | getTokenById tokenId =>
      left
      simp only [exec] at h
      split at h
      · cases h
        rfl
      · split at h
        · cases h
          rfl
        · cases h
          rfl
  | getNodeByPublicKey publicKey =>
      left
      simp only [exec] at h
      split at h
      · cases h
        rfl
      · cases h
        rfl
  | claimNodeByPublicKey u publicKey hostname metadata =>
      simp only [exec] at h
      split at h
      · cases h
        exact .inl rfl
      · obtain ⟨row, hrow, hx⟩ := Option.map_eq_some_iff.1 h
        cases hx
        exact .inr ⟨u, publicKey, hostname, metadata, row, rfl, hrow, rfl⟩
  | now | respond | environment =>
      cases h
      exact .inl rfl

/-- An upsert keeps the id and the owner of a row that is there, and gives a new one to the
user it is for. -/
theorem claim_row {id u : Uuid} {publicKey hostname metadata : String} {row : NodeClaimRecord}
    (h : s.claim id u publicKey hostname metadata = some row) :
    (∃ old, s.nodes.lookup publicKey = some old ∧ row.id = old.id ∧ row.userId = old.userId) ∨
      s.nodes.lookup publicKey = none ∧ row.userId = u := by
  unfold State.claim at h
  split at h
  · next old hold =>
      cases h
      exact .inl ⟨old, hold, rfl, rfl⟩
  · next hnone =>
      split at h
      · cases h
        exact .inr ⟨hnone, rfl⟩
      · cases h

/-- No row goes away, and none changes its id or its owner. -/
theorem row_kept {c : Cmd} {r : Resp c} (h : exec i c o s = some (r, s')) {publicKey : String}
    {row : NodeClaimRecord} (hrow : s.nodes.lookup publicKey = some row) :
    ∃ row', s'.nodes.lookup publicKey = some row' ∧ row'.id = row.id ∧
      row'.userId = row.userId := by
  rcases exec_nodes h with hsame | ⟨u, publicKey', hostname, metadata, new, -, hnew, hins⟩
  · rw [hsame]
    exact ⟨row, hrow, rfl, rfl⟩
  · rw [hins]
    by_cases hkey : publicKey = publicKey'
    · subst hkey
      refine ⟨new, AList.lookup_insert _, ?_⟩
      rcases claim_row hnew with ⟨old, hold, hid, howner⟩ | ⟨hnone, -⟩
      · rw [hrow] at hold
        cases hold
        exact ⟨hid, howner⟩
      · rw [hrow] at hnone
        cases hnone
    · rw [AList.lookup_insert_ne hkey]
      exact ⟨row, hrow, rfl, rfl⟩

/-- A row was there with its owner, or has just been inserted for that owner. -/
theorem row_origin {c : Cmd} {r : Resp c} (h : exec i c o s = some (r, s')) {publicKey : String}
    {row : NodeClaimRecord} (hrow : s'.nodes.lookup publicKey = some row) :
    (∃ old, s.nodes.lookup publicKey = some old ∧ old.userId = row.userId) ∨
      ∃ hostname metadata, c = .claimNodeByPublicKey row.userId publicKey hostname metadata := by
  rcases exec_nodes h with hsame | ⟨u, publicKey', hostname, metadata, new, rfl, hnew, hins⟩
  · rw [hsame] at hrow
    exact .inl ⟨row, hrow, rfl⟩
  · rw [hins] at hrow
    by_cases hkey : publicKey = publicKey'
    · subst hkey
      rw [AList.lookup_insert] at hrow
      cases hrow
      rcases claim_row hnew with ⟨old, hold, -, howner⟩ | ⟨-, howner⟩
      · exact .inl ⟨old, hold, howner.symm⟩
      · rw [← howner]
        exact .inr ⟨hostname, metadata, rfl⟩
    · rw [AList.lookup_insert_ne hkey] at hrow
      exact .inl ⟨row, hrow, rfl⟩

/-- A successful lookup found what is there. -/
theorem exec_getNodeByPublicKey {publicKey : String} {found : Option NodeClaimRecord}
    (h : exec i (.getNodeByPublicKey publicKey) o s = some (.ok found, s')) :
    found = s.nodes.lookup publicKey ∧ s' = s := by
  simp only [exec] at h
  split at h
  · cases h
  · cases h
    exact ⟨rfl, rfl⟩

/-- A successful upsert returned the row it wrote. -/
theorem exec_claimed {u : Uuid} {publicKey hostname metadata : String} {row : NodeClaimRecord}
    (h : exec i (.claimNodeByPublicKey u publicKey hostname metadata) o s = some (.ok row, s')) :
    s.claim o.uuid u publicKey hostname metadata = some row ∧
      s'.nodes.lookup publicKey = some row := by
  simp only [exec] at h
  split at h
  · cases h
  · obtain ⟨new, hnew, hx⟩ := Option.map_eq_some_iff.1 h
    split at hx
    · cases hx
    · cases hx
      exact ⟨hnew, AList.lookup_insert _⟩

end Rows

/-! ## Over whole runs -/

section Runs

variable {S : Setup} {nodes : DashMap String NodeClaimRecord}
  {patTokens : DashMap String TokenRecord} {clock : Time} {cfg : Config State Tid Resp Label}
  {A : Restriction} {i : Tid} {h : Hist Resp}

/-- An upsert comes right after the request's own lookup, which found no other owner. -/
theorem May.claims {u : Uuid} {publicKey hostname metadata : String}
    (hm : May S i h (.claimNodeByPublicKey u publicKey hostname metadata)) :
    ∃ q token found h', i = .request q ∧
      h = ⟨.getNodeByPublicKey publicKey, .ok found⟩ :: h' ∧
      Validated S (S.requests q).1 token h' ∧ token.userId = u ∧
      ∀ row, found = some row → row.userId = u := by
  cases i with
  | request q =>
      cases hm with
      | claim hv hown => exact ⟨q, _, _, _, rfl, rfl, hv, rfl, hown⟩
  | environment => cases hm

/-- A success comes right after the upsert that returned the node. -/
theorem May.succeeds {id : Uuid} (hm : May S i h (.respond ⟨OK, .claimed id⟩)) :
    ∃ q token found node publicKey hostname metadata h', i = .request q ∧
      h = ⟨.claimNodeByPublicKey token.userId publicKey hostname metadata, .ok node⟩ ::
        ⟨.getNodeByPublicKey publicKey, .ok found⟩ :: h' ∧
      Validated S (S.requests q).1 token h' ∧ node.id = id := by
  cases i with
  | request q =>
      cases hm with
      | success hv => exact ⟨q, _, _, _, _, _, _, _, rfl, rfl, hv, rfl⟩
  | environment => cases hm

theorem Validated.actsFor {q : Nat} {token : TokenRecord} {h' : Hist Resp}
    (hv : Validated S (S.requests q).1 token h) (hs : h <:+ h') : ActsFor S q h' token.userId := by
  obtain ⟨tokenId, tokenSecret, hcreds, hverify, hh⟩ := hv.fetched
  refine ⟨tokenId, tokenSecret, token, hcreds, hs.subset ?_, hverify, rfl⟩
  rcases hh with rfl | ⟨now, rfl⟩
  · exact List.mem_cons_self
  · exact List.mem_cons_of_mem _ List.mem_cons_self

/-- A request fetches one token. -/
theorem Validated.unique {q : Nat} {token token' : TokenRecord} {tokenId : String}
    (hv : Validated S (S.requests q).1 token h)
    (hmem : (⟨.getTokenById tokenId, .ok token'⟩ : Sigma Resp) ∈ h) : token' = token := by
  obtain ⟨tokenId', tokenSecret, -, -, hh⟩ := hv.fetched
  rcases hh with rfl | ⟨now, rfl⟩
  · simp only [List.mem_singleton] at hmem
    cases hmem
    rfl
  · simp only [List.mem_cons, List.not_mem_nil, or_false] at hmem
    rcases hmem with heq | heq
    · cases heq
    · cases heq
      rfl

/-- Invariants of the requests. -/
theorem claim_inv (I : World State Tid Resp → Prop) (h0 : I ⟨⟨nodes, patTokens, clock⟩, []⟩)
    (hstep : ∀ (cfg : Config State Tid Resp Label) (i : Tid) (c : Cmd) (o : Choice) (r : Resp c)
      (s : State), (machine S).Reach A (start nodes patTokens clock) cfg → I cfg.world →
      May S i (own i cfg.world.trace) c → A cfg.world i c r →
      exec i c o cfg.world.state = some (r, s) → I (cfg.world.push i c r s))
    (hr : (machine S).Reach A (start nodes patTokens clock) cfg) : I cfg.world :=
  hr.inv claim_follows (fun _ _ _ _ _ => trivial) I h0 hstep

/-- Events of the requests. -/
theorem claim_events (P : List (Ev Tid Resp) → Ev Tid Resp → Prop)
    (hstep : ∀ (cfg : Config State Tid Resp Label) (i : Tid) (c : Cmd) (o : Choice) (r : Resp c)
      (s : State), (machine S).Reach A (start nodes patTokens clock) cfg →
      May S i (own i cfg.world.trace) c → A cfg.world i c r →
      exec i c o cfg.world.state = some (r, s) → P cfg.world.trace ⟨i, c, r⟩)
    (hr : (machine S).Reach A (start nodes patTokens clock) cfg) :
    ∀ e past, e :: past <:+ cfg.world.trace → P past e :=
  hr.events claim_follows (fun _ _ _ _ _ => trivial) P rfl hstep

/-- What a lookup found is still the owner, unless a request of the new owner has written the
key since. -/
theorem owner_since_lookup (hr : (machine S).Reach A (start nodes patTokens clock) cfg) :
    ∀ i publicKey found between past row,
      cfg.world.trace = between ++ ⟨i, .getNodeByPublicKey publicKey, .ok found⟩ :: past →
      cfg.world.state.nodes.lookup publicKey = some row →
      (∃ old, found = some old ∧ old.userId = row.userId) ∨ ∃ j hostname metadata r,
        (⟨j, .claimNodeByPublicKey row.userId publicKey hostname metadata, r⟩ : Ev Tid Resp)
          ∈ between := by
  refine claim_inv (fun w =>
    ∀ i publicKey found between past row,
      w.trace = between ++ ⟨i, .getNodeByPublicKey publicKey, .ok found⟩ :: past →
      w.state.nodes.lookup publicKey = some row →
      (∃ old, found = some old ∧ old.userId = row.userId) ∨ ∃ j hostname metadata r,
        (⟨j, .claimNodeByPublicKey row.userId publicKey hostname metadata, r⟩ : Ev Tid Resp)
          ∈ between) ?_ ?_ hr
  · intro i publicKey found between past row htrace
    simp at htrace
  · intro cfg j c o r s _ hI _ _ hexec i publicKey found between past row htrace hrow
    rw [World.push_trace] at htrace
    rw [World.push_state] at hrow
    cases between with
    | nil =>
        -- the lookup itself
        cases htrace
        obtain ⟨rfl, rfl⟩ := exec_getNodeByPublicKey (i := j) hexec
        exact .inl ⟨row, hrow, rfl⟩
    | cons e between =>
        obtain ⟨rfl, hrest⟩ := List.cons.inj htrace
        rcases row_origin (i := j) hexec hrow with ⟨old, hold, howner⟩ | ⟨hostname, metadata, rfl⟩
        · rcases hI i publicKey found between past old hrest hold with
            ⟨old', hfound, howner'⟩ | ⟨j', hostname, metadata, r', hmem⟩
          · exact .inl ⟨old', hfound, howner'.trans howner⟩
          · rw [howner] at hmem
            exact .inr ⟨j', hostname, metadata, r', List.mem_cons_of_mem _ hmem⟩
        · exact .inr ⟨j, hostname, metadata, r, List.mem_cons_self⟩

/-- An upsert that nobody raced finds no row of another user. -/
theorem owner_of_unraced (hr : (machine S).Reach A (start nodes patTokens clock) cfg) {u : Uuid}
    {publicKey hostname metadata : String} {r : Except String NodeClaimRecord}
    (hmay : May S i (own i cfg.world.trace)
      (.claimNodeByPublicKey u publicKey hostname metadata))
    (hA : Unraced cfg.world i (.claimNodeByPublicKey u publicKey hostname metadata) r)
    {row : NodeClaimRecord} (hrow : cfg.world.state.nodes.lookup publicKey = some row) :
    row.userId = u := by
  obtain ⟨q, token, found, h', rfl, hown, -, -, hsame⟩ := hmay.claims
  have hsuf : ⟨.getNodeByPublicKey publicKey, .ok found⟩ :: h'
      <:+ own (.request q) cfg.world.trace := by
    rw [hown]
  obtain ⟨past, ⟨between, htrace⟩, -⟩ := exists_past_of_own hsuf
  rcases owner_since_lookup hr _ publicKey found between past row htrace.symm hrow with
    ⟨old, hfound, howner⟩ | ⟨j, hostname', metadata', r', hmem⟩
  · exact howner.symm.trans (hsame old hfound)
  · exact hA u publicKey hostname metadata found between past rfl htrace.symm j _ hostname'
      metadata' r' hmem

/-- A row that was returned stays, with its id and its owner. -/
theorem claimed_kept (hr : (machine S).Reach A (start nodes patTokens clock) cfg) :
    ∀ i u publicKey hostname metadata row,
      (⟨i, .claimNodeByPublicKey u publicKey hostname metadata, .ok row⟩ : Ev Tid Resp)
        ∈ cfg.world.trace →
      ∃ row', cfg.world.state.nodes.lookup publicKey = some row' ∧ row'.id = row.id ∧
        row'.userId = row.userId := by
  refine claim_inv (fun w => ∀ i u publicKey hostname metadata row,
      (⟨i, .claimNodeByPublicKey u publicKey hostname metadata, .ok row⟩ : Ev Tid Resp) ∈ w.trace →
      ∃ row', w.state.nodes.lookup publicKey = some row' ∧ row'.id = row.id ∧
        row'.userId = row.userId) ?_ ?_ hr
  · intro i u publicKey hostname metadata row hmem
    cases hmem
  · intro cfg j c o r s _ hI _ _ hexec i u publicKey hostname metadata row hmem
    rw [World.push_trace, List.mem_cons] at hmem
    rcases hmem with heq | hmem
    · cases heq
      exact ⟨row, (exec_claimed (i := j) hexec).2, rfl, rfl⟩
    · obtain ⟨row', hrow', hid', howner'⟩ := hI i u publicKey hostname metadata row hmem
      obtain ⟨row'', hrow'', hid'', howner''⟩ := row_kept (i := j) hexec hrow'
      exact ⟨row'', hrow'', hid''.trans hid', howner''.trans howner'⟩

/-- An upsert that nobody raced returns a row of the user it is for. -/
theorem claimed_owner (hr : (machine S).Reach Unraced (start nodes patTokens clock) cfg) {u : Uuid}
    {publicKey hostname metadata : String} {row : NodeClaimRecord}
    (hmem : (⟨i, .claimNodeByPublicKey u publicKey hostname metadata, .ok row⟩ : Ev Tid Resp)
      ∈ cfg.world.trace) : row.userId = u := by
  obtain ⟨past, hsuf⟩ := exists_past hmem
  refine claim_events (fun _ e => ∀ i u publicKey hostname metadata row,
      e = ⟨i, .claimNodeByPublicKey u publicKey hostname metadata, .ok row⟩ → row.userId = u)
    ?_ hr _ past hsuf i u publicKey hostname metadata row rfl
  intro cfg j c o r s hr hmay hA hexec i u publicKey hostname metadata row heq
  cases heq
  rcases claim_row (exec_claimed (i := j) hexec).1 with ⟨old, hold, -, howner⟩ | ⟨-, howner⟩
  · exact howner.trans (owner_of_unraced hr hmay hA hold)
  · exact howner

/-- A success comes after the upsert of a request whose credentials were checked. -/
theorem claimed_of_success (hr : (machine S).Reach A (start nodes patTokens clock) cfg) {q : Nat}
    {id : Uuid} {past : List (Ev Tid Resp)}
    (hsuf : (⟨.request q, .respond ⟨OK, .claimed id⟩, ()⟩ : Ev Tid Resp) :: past
      <:+ cfg.world.trace) :
    ∃ token found node publicKey hostname metadata h', own (.request q) past
      = ⟨.claimNodeByPublicKey token.userId publicKey hostname metadata, .ok node⟩ ::
        ⟨.getNodeByPublicKey publicKey, .ok found⟩ :: h' ∧
      Validated S (S.requests q).1 token h' ∧ node.id = id := by
  refine claim_events (fun past e =>
    ∀ q id, e = ⟨.request q, .respond ⟨OK, .claimed id⟩, ()⟩ →
      ∃ token found node publicKey hostname metadata h', own (.request q) past
        = ⟨.claimNodeByPublicKey token.userId publicKey hostname metadata, .ok node⟩ ::
          ⟨.getNodeByPublicKey publicKey, .ok found⟩ :: h' ∧
        Validated S (S.requests q).1 token h' ∧ node.id = id) ?_ hr _ past hsuf q id rfl
  intro cfg j c o r s _ hmay _ _ q id heq
  cases heq
  obtain ⟨q', token, found, node, publicKey, hostname, metadata, h', hq, hown, hv, hid⟩ :=
    hmay.succeeds
  cases hq
  exact ⟨token, found, node, publicKey, hostname, metadata, h', hown, hv, hid⟩

theorem successNamesOwn (hr : (machine S).Reach Unraced (start nodes patTokens clock) cfg) :
    SuccessNamesOwn S cfg.world := by
  intro q id past hsuf
  obtain ⟨token, found, node, publicKey, hostname, metadata, h', hown, hv, hid⟩ :=
    claimed_of_success hr hsuf
  rw [hown]
  refine ⟨⟨token.userId, ?_⟩, ?_⟩
  · exact hv.actsFor ((List.suffix_cons _ _).trans (List.suffix_cons _ _))
  · rintro u ⟨tokenId, tokenSecret, token', hcreds, hmem, hverify, rfl⟩
    have htoken : token' = token := by
      apply hv.unique
      rcases List.mem_cons.1 hmem with heq | hmem
      · cases heq
      · rcases List.mem_cons.1 hmem with heq | hmem
        · cases heq
        · exact hmem
    subst htoken
    have hclaimed : (⟨.request q, .claimNodeByPublicKey token'.userId publicKey hostname metadata,
        .ok node⟩ : Ev Tid Resp) ∈ cfg.world.trace := by
      refine ((List.suffix_cons _ _).trans hsuf).subset (mem_own.1 ?_)
      rw [hown]
      exact List.mem_cons_self
    obtain ⟨row, hrow, hid', howner⟩ := claimed_kept hr _ _ _ _ _ _ hclaimed
    exact ⟨publicKey, row, hrow, hid'.trans hid, howner.trans (claimed_owner hr hclaimed)⟩

theorem ownersWrite (hr : (machine S).Reach Unraced (start nodes patTokens clock) cfg) :
    OwnersWrite S Unraced cfg := by
  intro i c next o r s hop hexec hA publicKey row row' hrow hrow' hchanged
  have hmay : May S i (own i cfg.world.trace) c :=
    hr.may claim_follows (fun _ _ _ _ _ => trivial) hop
  rcases exec_nodes hexec with hsame | ⟨u, publicKey', hostname, metadata, new, rfl, -, hins⟩
  · -- nothing was written
    rw [hsame, hrow] at hrow'
    cases hrow'
    simp at hchanged
  · by_cases hkey : publicKey = publicKey'
    · subst hkey
      obtain rfl := owner_of_unraced hr hmay hA hrow
      obtain ⟨q, token, found, h', rfl, hown, hv, hu, -⟩ := hmay.claims
      refine ⟨q, rfl, ?_⟩
      rw [hown, ← hu]
      exact hv.actsFor (List.suffix_cons _ _)
    · rw [hins, AList.lookup_insert_ne hkey, hrow] at hrow'
      cases hrow'
      simp at hchanged

/-- **A claimed node belongs to its claimant.**  In every run in which no request of another
user writes a key between a request's lookup of it and its upsert, every success names a row
of the user it is returned to, and hostname and metadata of a row are only ever changed for
its owner. -/
theorem claims_owned (hr : (machine S).Reach Unraced (start nodes patTokens clock) cfg) :
    SuccessNamesOwn S cfg.world ∧ OwnersWrite S Unraced cfg :=
  ⟨successNamesOwn hr, ownersWrite hr⟩

end Runs

/-! ## A claim, and a race -/

def sampleHash (u : Uuid) : String :=
  if u = 1 then "$argon2id$v=19$m=8,t=1,p=1$c2FsdHNhbHQwMDAwMDAwMQ$eeKKsy7I0JxPeaXpB4Cg1abj5s/Bgscc+BocaMmjHi0"
  else "$argon2id$v=19$m=8,t=1,p=1$c2FsdHNhbHQwMDAwMDAwMg$N389SzbSzR2jlYbyVVjuSvd1L+Ls+858ll/vIL5Atfc"

/-- The tokens of the users `1` and `2`. -/
def sampleTokens : DashMap String TokenRecord :=
  ((∅ : DashMap String TokenRecord).insert "one"
      ⟨21, "one", sampleHash 1, 1, none, ["server:register"]⟩).insert
    "two" ⟨22, "two", sampleHash 2, 2, none, ["server:register"]⟩

def sampleKey : String := "11qYAYKxCrfVS_7TyWQHOg7hcvPapiMlrwIaaPcHURo"

/-- Request 0 is of user `1`, the others of user `2`; all are for the same key. -/
def sample : Setup where
  requests
    | 0 => (some (some "Bearer pat_one.secret-one"), ⟨sampleKey, "host-a", "null"⟩)
    | _ => (some (some "Bearer pat_two.secret-two"), ⟨sampleKey, "host-b", "null"⟩)
  parsesHash hash := hash == sampleHash 1 || hash == sampleHash 2
  verifyPassword secret hash :=
    secret == "secret-one" && hash == sampleHash 1 || secret == "secret-two" && hash == sampleHash 2

def sampleStart : Config State Tid Resp Label := start ∅ sampleTokens 1000000

/-- The request takes `n` steps, and draws the id `10` where it draws one. -/
def steps (r n : Nat) : List (Tid × Choice) := List.replicate n (.request r, { uuid := 10 })

/-- Whether the key was only ever written for the user who writes it now. -/
def unraced (w : World State Tid Resp) (_ : Tid) (c : Cmd) (_ : Resp c) : Bool :=
  match c with
  | .claimNodeByPublicKey u publicKey _ _ => w.trace.all fun
      | ⟨_, .claimNodeByPublicKey u' publicKey' _ _, _⟩ => publicKey' != publicKey || u' == u
      | _ => true
  | _ => true

theorem unraced_sound (w : World State Tid Resp) (i : Tid) (c : Cmd) (r : Resp c)
    (h : unraced w i c r = true) : Unraced w i c r := by
  rintro u publicKey hostname metadata found between past rfl htrace j u' hostname' metadata' r' hmem
  have hall := List.all_eq_true.1 h ⟨j, .claimNodeByPublicKey u' publicKey hostname' metadata', r'⟩
    (by
      rw [htrace]
      exact List.mem_append_left _ hmem)
  simpa using hall

/-- User `1` claims the key; then user `2` is refused. -/
def orderlySchedule : List (Tid × Choice) := steps 0 5 ++ steps 1 4

/-- Request 0 is told of node `10`. -/
def isFirstClaim : Ev Tid Resp → Bool
  | ⟨.request 0, .respond ⟨200, .claimed 10⟩, _⟩ => true
  | _ => false

theorem claims_owned_of_orderly :
    ∃ cfg, (machine sample).Reach Unraced sampleStart cfg ∧
      (⟨.request 0, .respond ⟨OK, .claimed 10⟩, ()⟩ : Ev Tid Resp) ∈ cfg.world.trace ∧
      SuccessNamesOwn sample cfg.world ∧ OwnersWrite sample Unraced cfg := by
  have hrun : ((machine sample).run unraced orderlySchedule sampleStart).any
      (fun cfg => cfg.world.trace.any isFirstClaim) = true := by
    decide +kernel
  obtain ⟨cfg, hr, hend⟩ := Machine.reach_of_run unraced_sound hrun
  obtain ⟨e, hmem, he⟩ := List.any_eq_true.1 hend
  unfold isFirstClaim at he
  split at he
  · exact ⟨cfg, hr, hmem, claims_owned hr⟩
  · cases he

/-- Both users look the key up before either writes it. -/
def raceSchedule : List (Tid × Choice) := steps 0 3 ++ steps 1 3 ++ steps 0 2 ++ steps 1 2

/-- The token of user `2` was read. -/
def readsTwo : Sigma Resp → Bool
  | ⟨.getTokenById tokenId, .ok token⟩ =>
      tokenId == "two" && token.tokenHash == sampleHash 2 && token.userId == 2
  | _ => false

/-- Request 1, of user `2`, has just been told of node `10`. -/
def secondClaims : List (Ev Tid Resp) → Bool
  | ⟨.request 1, .respond ⟨200, .claimed 10⟩, _⟩ :: past => (own (.request 1) past).any readsTwo
  | _ => false

/-- **Two users race for a key.**  The second is told that the first one's node is its own. -/
theorem claim_race :
    ¬ ∀ cfg, (machine sample).Reach Free sampleStart cfg →
      SuccessNamesOwn sample cfg.world ∧ OwnersWrite sample Free cfg := by
  have hrun : ((machine sample).run (fun _ _ _ _ => true) raceSchedule sampleStart).any
      (fun cfg => secondClaims cfg.world.trace &&
        cfg.world.state.nodes.entries.all fun e => e.2.userId != 2) = true := by
    decide +kernel
  obtain ⟨cfg, hr, hend⟩ := Machine.reach_of_run (fun _ _ _ _ _ => trivial) hrun
  intro hall
  rw [Bool.and_eq_true] at hend
  obtain ⟨hsuccess, hrows⟩ := hend
  unfold secondClaims at hsuccess
  split at hsuccess
  · next past htrace =>
      obtain ⟨e, hmem, he⟩ := List.any_eq_true.1 hsuccess
      unfold readsTwo at he
      split at he
      · next tokenId token =>
          rw [Bool.and_eq_true, Bool.and_eq_true, beq_iff_eq, beq_iff_eq, beq_iff_eq] at he
          obtain ⟨⟨rfl, hhash⟩, huser⟩ := he
          have hcreds : credentials (sample.requests 1).1 = .ok ("two", "secret-two") := by
            decide +kernel
          have hverify : sample.verifyPassword "secret-two" token.tokenHash = true := by
            rw [hhash]
            decide +kernel
          obtain ⟨-, hnames⟩ := (hall cfg hr).1 1 10 past (by rw [htrace]; exact List.suffix_rfl)
          obtain ⟨publicKey, row, hrow, -, howner⟩ :=
            hnames 2 ⟨"two", "secret-two", token, hcreds, hmem, hverify, huser⟩
          have hne := List.all_eq_true.1 hrows _ (AList.mem_lookup_iff.1 hrow)
          simp [howner] at hne
      · cases he
  · cases hsuccess

end Phirepass.Server.Claim
