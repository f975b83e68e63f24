/-
# `Phirepass.Server.Enumeration` — the login endpoints do not tell which nodes exist

Two runs on two databases, one in which a node exists and one in which it
does not, or is revoked, or has other challenges stored.  The hidden states
drift apart: one stores and deletes challenges, the other never does.  The
responses do not, because every response is a function of the request alone
once no statement fails and no signature is valid:

    create_auth_challenge    200 and the challenge just generated
    verify_auth_challenge    401 and the same body, at each of its exits

There is one exit besides.  A challenge that contains the null character is
no parameter for Postgres, and what `get_auth_challenge` reports of it is
answered with 500, but only where the node is there and not revoked, since
the others are refused before it is looked up (`null_character_tells`).  So
two runs that answer the same requests in the same order, in any interleaving
of their statements, answer them alike exactly if no verify request carries
one (`anti_enumeration`); and no run can be brought to a halt, since every
request can be run to its answer.
-/
import Phirepass.Server.Identity

namespace Phirepass.Server

open Rust Interleave

/-! ## Two runs, and what they answer -/

/-- The responses of a run, latest first, each with the request it answers. -/
def responses : List (Ev Tid Resp) → List (Nat × Response)
  | [] => []
  | ⟨.request r, .respond response, _⟩ :: tr => (r, response) :: responses tr
  | _ :: tr => responses tr

/-- The requests answered, latest first. -/
def served (tr : List (Ev Tid Resp)) : List Nat := (responses tr).map Prod.fst

/-- No verify request carries a signature that is valid under the key of the node it names. -/
def Unsigned (S : Setup) (key : Uuid → String) : Prop :=
  ∀ q payload, S.requests q = .verifyAuthChallenge payload →
    verifySignature S.crates (key payload.nodeId) payload.text (trim payload.signature) ≠ .ok ()

/-- No statement fails, the generator follows the given stream, and whatever other services do
to the table of nodes, the public key of a node is its own. -/
structure Undisrupted (stream : Nat → ChallengeBytes) (key : Uuid → String) (w : World State Tid Resp)
    (i : Tid) (c : Cmd) (r : Resp c) : Prop where
  runs : ∀ op r', (⟨c, r⟩ : Sigma Resp) = ⟨.db op, r'⟩ → r' = op.answer w.state.database
  draws : ∀ q challenge, i = .request q →
    (⟨c, r⟩ : Sigma Resp) = ⟨.generateChallenge, challenge⟩ →
      challenge = Base64.encode (stream q).1
  kept : ∀ around, (⟨c, r⟩ : Sigma Resp) = ⟨.environment, around⟩ → KeysAre key around.rows

/-- No verify request carries a challenge with the null character in it. -/
def Unmarked (S : Setup) : Prop :=
  ∀ q payload, S.requests q = .verifyAuthChallenge payload → hasNul payload.text = false

/-- Whatever two databases there are whose nodes have the same public keys, and which may differ
in which nodes exist, which are revoked and which challenges are stored: two runs on them, under
the same stream of challenges, that have answered the same requests in the same order have
answered them alike. -/
def Indistinguishable (S : Setup) (key : Uuid → String) : Prop :=
  ∀ stream s₁ s₂ cfg₁ cfg₂, KeysAre key s₁.database.nodes → KeysAre key s₂.database.nodes →
    (machine S).Reach (Undisrupted stream key) (startOn s₁) cfg₁ →
    (machine S).Reach (Undisrupted stream key) (startOn s₂) cfg₂ →
    served cfg₁.world.trace = served cfg₂.world.trace →
      responses cfg₁.world.trace = responses cfg₂.world.trace

section Enumeration

variable {S : Setup} {stream : Nat → ChallengeBytes} {key : Uuid → String} {s₀ : State}
  {cfg : Config State Tid Resp Label}

/-! ## What a request is told -/

/-- The rows keep their keys. -/
theorem keysAre_on (hkeys : KeysAre key s₀.database.nodes)
    (hr : (machine S).Reach (Undisrupted stream key) (startOn s₀) cfg) :
    KeysAre key cfg.world.state.database.nodes := by
  refine server_inv_on (fun w => KeysAre key w.state.database.nodes) hkeys ?_ hr
  intro cfg i c o r s _ hI _ hA hexec n row hrow
  rw [World.push_state, (exec_effect hexec).rows] at hrow
  rcases rows_lookup hrow with ⟨old, hold, hkey, -⟩ | ⟨around, heq, hnew⟩
  · exact hkey.trans (hI n old hold)
  · exact hA.kept around heq n row hnew

/-- Every statement was answered from a table of nodes with their own keys. -/
theorem answered_from (hkeys : KeysAre key s₀.database.nodes)
    (hr : (machine S).Reach (Undisrupted stream key) (startOn s₀) cfg) {i : Tid} {op : DbOp}
    {r : op.Resp} (hmem : (⟨i, .db op, r⟩ : Ev Tid Resp) ∈ cfg.world.trace) :
    ∃ db : Database, KeysAre key db.nodes ∧ r = op.answer db := by
  obtain ⟨past, hsuf⟩ := exists_past hmem
  refine server_events_on (fun _ e => ∀ i op r, e = ⟨i, .db op, r⟩ →
    ∃ db : Database, KeysAre key db.nodes ∧ r = op.answer db) ?_ hr _ past hsuf i op r rfl
  intro cfg j c o r s hr _ hA _ i op r' heq
  cases heq
  exact ⟨cfg.world.state.database, keysAre_on hkeys hr, hA.runs op r' rfl⟩

/-- The generator followed the stream. -/
theorem drawn_from (hr : (machine S).Reach (Undisrupted stream key) (startOn s₀) cfg) {q : Nat}
    {challenge : String}
    (hmem : (⟨.request q, .generateChallenge, challenge⟩ : Ev Tid Resp) ∈ cfg.world.trace) :
    challenge = Base64.encode (stream q).1 := by
  obtain ⟨past, hsuf⟩ := exists_past hmem
  refine server_events_on (fun _ e => ∀ q challenge,
    e = ⟨.request q, .generateChallenge, challenge⟩ → challenge = Base64.encode (stream q).1)
    ?_ hr _ past hsuf q challenge rfl
  intro cfg j c o r s _ _ hA _ q challenge heq
  cases heq
  exact hA.draws q challenge rfl rfl

/-- The node a verify request read has the key of the node it names. -/
theorem publicKey_of_read (hkeys : KeysAre key s₀.database.nodes)
    (hr : (machine S).Reach (Undisrupted stream key) (startOn s₀) cfg) {i : Tid} {n : Uuid}
    {node : NodeClaimRecord}
    (hmem : (⟨i, .db (.getNodeClaimById n), .ok node⟩ : Ev Tid Resp) ∈ cfg.world.trace) :
    node.publicKey = key n := by
  obtain ⟨db, hdb, hans⟩ := answered_from hkeys hr hmem
  simp only [DbOp.answer] at hans
  split at hans
  · next row hrow =>
      cases hans
      exact hdb n row hrow
  · cases hans

/-- A create request is told the challenge it drew. -/
theorem create_response (hkeys : KeysAre key s₀.database.nodes)
    (hr : (machine S).Reach (Undisrupted stream key) (startOn s₀) cfg) {q : Nat}
    {payload : ChallengeRequest} {past : List (Ev Tid Resp)} {response : Response}
    (hpast : past <:+ cfg.world.trace)
    (ha : CreateAnswers payload (own (.request q) past) response) :
    response = ⟨OK, .challenge (Base64.encode (stream q).1)⟩ := by
  have hmem {c : Cmd} {r : Resp c} (h : (⟨c, r⟩ : Sigma Resp) ∈ own (.request q) past) :
      (⟨.request q, c, r⟩ : Ev Tid Resp) ∈ cfg.world.trace := hpast.subset (mem_own.1 h)
  generalize own (.request q) past = h at ha hmem
  cases ha with
  | lookupFailed =>
      obtain ⟨db, -, hans⟩ := answered_from hkeys hr (hmem List.mem_cons_self)
      cases hans
  | @writeFailed challenge =>
      have hdrawn : (⟨.request q, .generateChallenge, challenge⟩ : Ev Tid Resp) ∈
          cfg.world.trace := hmem (by simp)
      obtain ⟨db, -, hans⟩ := answered_from hkeys hr (hmem List.mem_cons_self)
      rw [drawn_from hr hdrawn] at hans
      simp [DbOp.answer, hasNul_encode] at hans
  | @unusable challenge | @stored challenge =>
      have hdrawn : (⟨.request q, .generateChallenge, challenge⟩ : Ev Tid Resp) ∈
          cfg.world.trace := hmem (by simp)
      rw [drawn_from hr hdrawn]

/-- A verify request without a valid signature is told that authentication failed. -/
theorem verify_response (hkeys : KeysAre key s₀.database.nodes) (hun : Unsigned S key)
    (hnul : Unmarked S) (hr : (machine S).Reach (Undisrupted stream key) (startOn s₀) cfg)
    {q : Nat} {payload : VerifyRequest} (hq : S.requests q = .verifyAuthChallenge payload)
    {past : List (Ev Tid Resp)} {response : Response} (hpast : past <:+ cfg.world.trace)
    (ha : VerifyAnswers S payload (own (.request q) past) response) :
    response = unauthorizedVerify := by
  have hmem {c : Cmd} {r : Resp c} (h : (⟨c, r⟩ : Sigma Resp) ∈ own (.request q) past) :
      (⟨.request q, c, r⟩ : Ev Tid Resp) ∈ cfg.world.trace := hpast.subset (mem_own.1 h)
  generalize own (.request q) past = h at ha hmem
  cases ha with
  | missing | revoked | unknown | expired | unsigned => rfl
  | lookupFailed | consumeFailed =>
      obtain ⟨db, -, hans⟩ := answered_from hkeys hr (hmem List.mem_cons_self)
      simp [DbOp.answer, hnul q payload hq] at hans
  | @issueFailed node _ _ _ _ _ hsig | @verified node _ _ _ _ _ _ hsig =>
      have hread : (⟨.request q, .db (.getNodeClaimById payload.nodeId), .ok node⟩ : Ev Tid Resp) ∈
          cfg.world.trace := hmem (by simp)
      rw [publicKey_of_read hkeys hr hread] at hsig
      exact absurd hsig (hun q payload hq)

/-- What the requests of the stream are told. -/
def told (S : Setup) (stream : Nat → ChallengeBytes) (q : Nat) : Response :=
  match S.requests q with
  | .createAuthChallenge _ => ⟨OK, .challenge (Base64.encode (stream q).1)⟩
  | _ => unauthorizedVerify

theorem response_eq_told (hkeys : KeysAre key s₀.database.nodes) (hun : Unsigned S key)
    (hnul : Unmarked S) (hlogin : ∀ q a, S.requests q ≠ .heartbeat a)
    (hr : (machine S).Reach (Undisrupted stream key) (startOn s₀) cfg) {q : Nat}
    {response : Response} {past : List (Ev Tid Resp)}
    (hsuf : (⟨.request q, .respond response, ()⟩ : Ev Tid Resp) :: past <:+ cfg.world.trace) :
    response = told S stream q := by
  have hmay := server_events_on (fun past e => ∀ q response,
    e = ⟨.request q, .respond response, ()⟩ →
      RequestMay S q (own (.request q) past) (.respond response)) ?_ hr _ past hsuf q response rfl
  · have hpast := (List.suffix_cons _ _).trans hsuf
    cases hmay with
    | create hp hc =>
        rw [told, hp]
        generalize hown : own (.request q) past = h at hc
        cases hc with
        | respond ha =>
            subst hown
            exact create_response hkeys hr hpast ha
    | verify hp hc =>
        rw [told, hp]
        generalize hown : own (.request q) past = h at hc
        cases hc with
        | respond ha =>
            subst hown
            exact verify_response hkeys hun hnul hr hp hpast ha
    | heartbeat hp _ => exact absurd hp (hlogin q _)
  · intro cfg j c o r s _ hmay _ _ q response heq
    cases heq
    exact hmay

/-- The responses of a run are those of the requests it served. -/
theorem responses_eq (hkeys : KeysAre key s₀.database.nodes) (hun : Unsigned S key)
    (hnul : Unmarked S) (hlogin : ∀ q a, S.requests q ≠ .heartbeat a)
    (hr : (machine S).Reach (Undisrupted stream key) (startOn s₀) cfg) :
    responses cfg.world.trace
      = (served cfg.world.trace).map fun q => (q, told S stream q) := by
  have htold : ∀ tr, tr <:+ cfg.world.trace →
      responses tr = (served tr).map fun q => (q, told S stream q) := by
    intro tr
    induction tr with
    | nil => exact fun _ => rfl
    | cons e tr ih =>
        intro hsuf
        have hrest := ih ((List.suffix_cons _ _).trans hsuf)
        unfold served responses
        split
        · next heq => cases heq
        · next q response r tr' heq =>
            cases heq
            rw [List.map_cons, List.map_cons, ← response_eq_told hkeys hun hnul hlogin hr hsuf]
            exact congrArg _ hrest
        · next heq =>
            cases heq
            exact hrest
  exact htold _ List.suffix_rfl

/-! ## Every request can be answered -/

theorem mem_served {tr : List (Ev Tid Resp)} {q : Nat} {response : Response}
    (hmem : (⟨.request q, .respond response, ()⟩ : Ev Tid Resp) ∈ tr) : q ∈ served tr := by
  induction tr with
  | nil => cases hmem
  | cons e tr ih =>
      rcases List.mem_cons.1 hmem with rfl | hmem
      · exact List.mem_cons_self
      · have hrest := ih hmem
        unfold served responses
        split
        · next heq => cases heq
        · next heq =>
            cases heq
            exact List.mem_cons_of_mem _ hrest
        · next heq =>
            cases heq
            exact hrest

theorem undisrupted_db {w : World State Tid Resp} {i : Tid} {op : DbOp} {r : op.Resp}
    (hr : r = op.answer w.state.database) : Undisrupted stream key w i (.db op) r := by
  refine ⟨fun op' r' heq => ?_, fun _ _ _ heq => ?_, fun _ heq => ?_⟩
  · cases heq
    exact hr
  · cases heq
  · cases heq

theorem undisrupted_of_plain {w : World State Tid Resp} {i : Tid} {c : Cmd} {r : Resp c}
    (hc : ∀ op, c ≠ .db op) (hg : c ≠ .generateChallenge) (he : c ≠ .environment) :
    Undisrupted stream key w i c r := by
  refine ⟨fun op r' heq => ?_, fun _ _ _ heq => ?_, fun _ heq => ?_⟩
  · cases heq
    exact absurd rfl (hc op)
  · cases heq
    exact absurd rfl hg
  · cases heq
    exact absurd rfl he

/-- The commands of a login request never wait. -/
theorem request_ready {q : Nat} (hlogin : ∀ a, S.requests q ≠ .heartbeat a)
    {w : World State Tid Resp} {h : Hist Resp} {c : Cmd} (hmay : RequestMay S q h c) :
    ∃ o r s, exec S (.request q) c o w.state = some (r, s) ∧
      Undisrupted stream key w (.request q) c r := by
  have hdb (op : DbOp) : ∃ o r s, exec S (.request q) (.db op) o w.state = some (r, s) ∧
      Undisrupted stream key w (.request q) (.db op) r :=
    ⟨{}, _, _, rfl, undisrupted_db rfl⟩
  have hrest {c : Cmd} {r : Resp c} {s : State} (hc : ∀ op, c ≠ .db op)
      (hg : c ≠ .generateChallenge) (he : c ≠ .environment)
      (hexec : exec S (.request q) c {} w.state = some (r, s)) :
      ∃ o r s, exec S (.request q) c o w.state = some (r, s) ∧
        Undisrupted stream key w (.request q) c r := 
    ⟨{}, r, s, hexec, undisrupted_of_plain hc hg he⟩
  cases hmay with
  | create hp hc =>
      cases hc with
      | generate =>
          refine ⟨{ random := stream q }, _, _, rfl, fun _ _ heq => ?_, fun q' challenge heq hgen => ?_,
            fun _ heq => ?_⟩
          · cases heq
          · cases heq
            cases hgen
            rfl
          · cases heq
      | node | upsert => exact hdb _
      | now | respond => exact hrest (by simp) (by simp) (by simp) rfl
  | verify hp hc =>
      cases hc with
      | node | lookup | consume => exact hdb _
      | now | iat | encode | respond => exact hrest (by simp) (by simp) (by simp) rfl
  | heartbeat hp _ => exact absurd hp (hlogin _)

/-- Whatever has happened, a request can be run to its answer. -/
theorem always_answered (hlogin : ∀ q a, S.requests q ≠ .heartbeat a)
    (hr : (machine S).Reach (Undisrupted stream key) (startOn s₀) cfg) (q : Nat) :
    ∃ cfg', (machine S).Reach (Undisrupted stream key) (startOn s₀) cfg' ∧
      cfg.world.trace <:+ cfg'.world.trace ∧ q ∈ served cfg'.world.trace := by
  have hready : ∀ (cfg : Config State Tid Resp Label) (c : Cmd),
      (machine S).Reach (Undisrupted stream key) (startOn s₀) cfg →
      (Issues (May S (.request q))).may (own (.request q) cfg.world.trace) c →
      ∃ o r s, (machine S).exec (.request q) c o cfg.world.state = some (r, s) ∧
        Undisrupted stream key cfg.world (.request q) c r ∧
        (Issues (May S (.request q))).hears (own (.request q) cfg.world.trace) c r := by
    intro cfg c _ hmay
    obtain ⟨o, r, s, hexec, hA⟩ := request_ready (hlogin q) (w := cfg.world) hmay
    exact ⟨o, r, s, hexec, hA, trivial⟩
  have hmem {cfg' : Config State Tid Resp Label} {response : Response} {h' : Hist Resp}
      (hown : own (.request q) cfg'.world.trace = ⟨.respond response, ()⟩ :: h') :
      q ∈ served cfg'.world.trace := by
    have hlast : (⟨.respond response, ()⟩ : Sigma Resp) ∈ own (.request q) cfg'.world.trace := by
      rw [hown]
      exact List.mem_cons_self
    exact mem_served (mem_own.1 hlast)
  have hconf := hr.conforms (server_follows_on s₀) (fun _ _ _ _ _ => trivial) (.request q)
  obtain ⟨cfg₁, l, hr₁, hl, hsuf₁, hat⟩ := Machine.Reach.completes
    (ρ := fun i => Issues (May S i)) hready hr rfl hconf
  cases l with
  | request r =>
      -- the request has not begun
      obtain ⟨rfl, hown⟩ := hat
      have hr₂ := hr₁.tail (.turn hl)
      obtain ⟨cfg₃, l, hr₃, -, hsuf₃, -, response, h', hown₃⟩ := Machine.Reach.completes
        (ρ := fun i => Issues (May S i)) hready hr₂ (Function.update_self _ _ _) (by
          change (body S (.request r)).Conforms _ _ (own (.request r) cfg₁.world.trace)
          rw [hown]
          exact serve_conforms)
      exact ⟨cfg₃, hr₃, hsuf₁.trans hsuf₃, hmem hown₃⟩
  | done =>
      obtain ⟨response, h', hown⟩ := hat
      exact ⟨cfg₁, hr₁, hsuf₁, hmem hown⟩
  | _ => exact hat.elim

/-! ## What the null character tells -/

/-- A request may begin first. -/
theorem begins_request (S : Setup) (stream : Nat → ChallengeBytes) (key : Uuid → String)
    (s : State) (q : Nat) :
    (machine S).Reach (Undisrupted stream key) (startOn s)
      { startOn s with
        threads := Function.update (startOn s).threads (.request q) (body S (.request q)) } :=
  .tail .refl (.turn (M := machine S) (i := .request q) (l := .request q) rfl)

/-- A challenge with the null character, presented for a node that is there, is answered with
what the database reports. -/
theorem marked_response {q : Nat} {payload : VerifyRequest} {row : NodeRow} {s : State}
    (hq : S.requests q = .verifyAuthChallenge payload) (hnul : hasNul payload.text = true)
    (hrow : s.database.nodes.lookup payload.nodeId = some row) (hactive : row.revoked = false) :
    ∃ cfg, (machine S).Reach (Undisrupted stream key) (startOn s) cfg ∧
      responses cfg.world.trace = [(q, ⟨INTERNAL_SERVER_ERROR,
        .failure (some "AUTH_CHALLENGE_LOOKUP_FAILED") "failed to get auth challenge"⟩)] := by
  obtain ⟨k₁, k₂, hbody, hfound, hrefused⟩ : ∃ k₁ k₂,
      body S (.request q) = .op (.db (.getNodeClaimById payload.nodeId)) k₁ ∧
        k₁ (.ok row.toClaim) = .op (.db (.getAuthChallenge payload.nodeId payload.text)) k₂ ∧
        ∀ err, k₂ (.error err) = .op (.respond ⟨INTERNAL_SERVER_ERROR,
          .failure (some "AUTH_CHALLENGE_LOOKUP_FAILED") err⟩) fun _ => .ret .done := by
    obtain ⟨_, _, _, _, _, _, _, revoked⟩ := row
    obtain rfl : revoked = false := hactive
    refine ⟨?first, ?second, ?node, ?lookup, ?failed⟩
    case node =>
      rw [body, serve, hq]
      rfl
    case lookup => rfl
    case failed =>
      intro err
      rfl
  have hread : (DbOp.getNodeClaimById payload.nodeId).answer s.database = .ok row.toClaim := by
    simp [DbOp.answer, hrow]
  have hlooked : (DbOp.getAuthChallenge payload.nodeId payload.text).answer s.database =
      .error "failed to get auth challenge" := by
    simp [DbOp.answer, hnul, DbOp.context]
  have hstart := begins_request S stream key s q
  have hnode := hstart.tail (.act (o := {}) ((Function.update_self ..).trans hbody) rfl
    (undisrupted_db rfl))
  have hlookup := hnode.tail (.act (o := {})
    ((Function.update_self ..).trans ((congrArg k₁ hread).trans hfound)) rfl (undisrupted_db rfl))
  have hrespond := hlookup.tail (.act (o := {})
    ((Function.update_self ..).trans ((congrArg k₂ hlooked).trans (hrefused _))) rfl
    (undisrupted_of_plain (by simp) (by simp) (by simp)))
  exact ⟨_, hrespond, rfl⟩

/-- Presented for a node that is not, it is refused as any other. -/
theorem missing_response {q : Nat} {payload : VerifyRequest} {s : State}
    (hq : S.requests q = .verifyAuthChallenge payload)
    (hrow : s.database.nodes.lookup payload.nodeId = none) :
    ∃ cfg, (machine S).Reach (Undisrupted stream key) (startOn s) cfg ∧
      responses cfg.world.trace = [(q, unauthorizedVerify)] := by
  obtain ⟨k, hbody, hmissing⟩ : ∃ k,
      body S (.request q) = .op (.db (.getNodeClaimById payload.nodeId)) k ∧
        ∀ err, k (.error err) = .op (.respond unauthorizedVerify) fun _ => .ret .done := by
    refine ⟨?first, ?node, ?failed⟩
    case node =>
      rw [body, serve, hq]
      rfl
    case failed =>
      intro err
      rfl
  have hread : (DbOp.getNodeClaimById payload.nodeId).answer s.database =
      .error "failed to retrieve node claim by id" := by
    simp [DbOp.answer, hrow, DbOp.context]
  have hstart := begins_request S stream key s q
  have hnode := hstart.tail (.act (o := {}) ((Function.update_self ..).trans hbody) rfl
    (undisrupted_db rfl))
  have hrespond := hnode.tail (.act (o := {})
    ((Function.update_self ..).trans ((congrArg k hread).trans (hmissing _))) rfl
    (undisrupted_of_plain (by simp) (by simp) (by simp)))
  exact ⟨_, hrespond, rfl⟩

/-- So one request tells a node that is there from one that is not. -/
theorem not_indistinguishable {q : Nat} {payload : VerifyRequest}
    (hq : S.requests q = .verifyAuthChallenge payload) (hnul : hasNul payload.text = true) :
    ¬ Indistinguishable S key := by
  intro halike
  let row : NodeRow := ⟨payload.nodeId, 0, key payload.nodeId, none, "", 0, none, false⟩
  let there : State := .start ((∅ : DashMap Uuid NodeRow).insert payload.nodeId row) [] 0
  let gone : State := .start ∅ [] 0
  have hthere : KeysAre key there.database.nodes := by
    intro n row' hrow'
    by_cases hn : n = payload.nodeId
    · subst hn
      cases (AList.lookup_insert _).symm.trans hrow'
      rfl
    · cases (AList.lookup_insert_ne hn).symm.trans hrow'
  have hgone : KeysAre key gone.database.nodes := fun n row hrow => nomatch hrow
  obtain ⟨cfg₁, hr₁, hanswer₁⟩ : ∃ cfg,
      (machine S).Reach (Undisrupted (fun _ => sampleRandom) key) (startOn there) cfg ∧ _ :=
    marked_response hq hnul (AList.lookup_insert _) rfl
  obtain ⟨cfg₂, hr₂, hanswer₂⟩ : ∃ cfg,
      (machine S).Reach (Undisrupted (fun _ => sampleRandom) key) (startOn gone) cfg ∧ _ :=
    missing_response hq rfl
  have heq := halike _ _ _ _ _ hthere hgone hr₁ hr₂ (by
    rw [served, served, hanswer₁, hanswer₂]
    rfl)
  rw [hanswer₁, hanswer₂] at heq
  cases heq

/-- **Anti-enumeration.**  Of login requests of which no verify carries a valid signature, the
responses do not tell the databases apart exactly if none carries a challenge with the null
character; and whatever has happened, every request can still be run to its answer. -/
theorem anti_enumeration (hlogin : ∀ q a, S.requests q ≠ .heartbeat a) (hun : Unsigned S key) :
    (Indistinguishable S key ↔ Unmarked S) ∧
      ∀ stream s cfg, (machine S).Reach (Undisrupted stream key) (startOn s) cfg →
        ∀ q, ∃ cfg', (machine S).Reach (Undisrupted stream key) (startOn s) cfg' ∧
          cfg.world.trace <:+ cfg'.world.trace ∧ q ∈ served cfg'.world.trace := by
  refine ⟨⟨fun halike q payload hq => ?_, fun hnul => ?_⟩,
    fun stream s cfg hr q => always_answered hlogin hr q⟩
  · cases hmarked : hasNul payload.text with
    | false => rfl
    | true => exact absurd halike (not_indistinguishable hq hmarked)
  · intro stream s₁ s₂ cfg₁ cfg₂ hkeys₁ hkeys₂ hr₁ hr₂ hserved
    rw [responses_eq hkeys₁ hun hnul hlogin hr₁, responses_eq hkeys₂ hun hnul hlogin hr₂, hserved]

end Enumeration

/-! ## A node that exists, and one that does not -/

/-- A challenge for node `10`, and an answer to it without a signature. -/
def probeRequests : Nat → Request
  | 0 => .createAuthChallenge ⟨10⟩
  | _ => .verifyAuthChallenge ⟨10, sampleChallenge, ""⟩

instance : (op : DbOp) → DecidableEq op.Resp
  | .getNodeById _ => inferInstanceAs (DecidableEq (Except String NodeRecord))
  | .getNodeClaimById _ => inferInstanceAs (DecidableEq (Except String NodeClaimRecord))
  | .getNodeClaimByIdOptional _ =>
      inferInstanceAs (DecidableEq (Except String (Option NodeClaimRecord)))
  | .userExists _ => inferInstanceAs (DecidableEq (Except String Bool))
  | .upsertAuthChallenge _ _ _ | .consumeAuthChallenge _ _ | .touchNodeLastSeen _ =>
      inferInstanceAs (DecidableEq (Except String Unit))
  | .getAuthChallenge _ _ =>
      inferInstanceAs (DecidableEq (Except String (Option AuthChallengeRecord)))

/-- Whether the step is undisrupted, with the sample challenge at every draw. -/
def undisrupted (w : World State Tid Resp) (_ : Tid) : (c : Cmd) → Resp c → Bool
  | .db op, r => decide (r = op.answer w.state.database)
  | .generateChallenge, challenge => challenge == Base64.encode sampleRandom.1
  | .environment, _ => false
  | _, _ => true

theorem undisrupted_sound (w : World State Tid Resp) (i : Tid) (c : Cmd) (r : Resp c)
    (h : undisrupted w i c r = true) : Undisrupted (fun _ => sampleRandom) sampleKey w i c r := by
  refine ⟨fun op r' heq => ?_, fun q challenge _ heq => ?_, fun around heq => ?_⟩
  · cases heq
    exact of_decide_eq_true h
  · cases heq
    exact beq_iff_eq.1 h
  · cases heq
    cases h

/-- The two requests, one after the other; each is given as many steps as it needs. -/
def probeSchedule (create verify : Nat) : List (Tid × Choice) :=
  List.replicate create (.request 0, { random := sampleRandom }) ++ idle (.request 1) verify

theorem probe_unsigned : Unsigned (sample probeRequests) sampleKey := by
  intro q payload hq
  have hpayload : payload = ⟨10, sampleChallenge, ""⟩ := by
    cases q with
    | zero => cases hq
    | succ q =>
        cases hq
        rfl
  subst hpayload
  decide +kernel

theorem probe_unmarked : Unmarked (sample probeRequests) := by
  intro q payload hq
  cases q with
  | zero => cases hq
  | succ q =>
      cases hq
      decide +kernel

theorem anti_enumeration_of_probe :
    ∃ cfg₁ cfg₂,
      (machine (sample probeRequests)).Reach (Undisrupted (fun _ => sampleRandom) sampleKey)
        (startOn (.start sampleRows [1, 2] 1000000)) cfg₁ ∧
      (machine (sample probeRequests)).Reach (Undisrupted (fun _ => sampleRandom) sampleKey)
        (startOn (.start ∅ [1, 2] 1000000)) cfg₂ ∧
      served cfg₁.world.trace = [1, 0] ∧
      responses cfg₁.world.trace = responses cfg₂.world.trace := by
  have hrun₁ : ((machine (sample probeRequests)).run undisrupted (probeSchedule 6 6)
      (startOn (.start sampleRows [1, 2] 1000000))).any
      (fun cfg => decide (served cfg.world.trace = [1, 0])) = true := by
    decide +kernel
  have hrun₂ : ((machine (sample probeRequests)).run undisrupted (probeSchedule 4 3)
      (startOn (.start ∅ [1, 2] 1000000))).any
      (fun cfg => decide (served cfg.world.trace = [1, 0])) = true := by
    decide +kernel
  obtain ⟨cfg₁, hr₁, hend₁⟩ := Machine.reach_of_run undisrupted_sound hrun₁
  obtain ⟨cfg₂, hr₂, hend₂⟩ := Machine.reach_of_run undisrupted_sound hrun₂
  have hserved₁ := of_decide_eq_true hend₁
  have hserved₂ := of_decide_eq_true hend₂
  have hlogin : ∀ q a, (sample probeRequests).requests q ≠ .heartbeat a := by
    intro q a hq
    cases q with
    | zero => cases hq
    | succ q => cases hq
  have hkeys₂ : KeysAre sampleKey (∅ : DashMap Uuid NodeRow) := by
    intro n row hrow
    cases hrow
  refine ⟨cfg₁, cfg₂, hr₁, hr₂, hserved₁, ?_⟩
  exact (anti_enumeration hlogin probe_unsigned).1.2 probe_unmarked _ _ _ _ _
    sampleRows_keysAre hkeys₂ hr₁ hr₂ (hserved₁.trans hserved₂.symm)

/-- A challenge of one null character, presented for node `10`. -/
def markedRequests : Nat → Request := fun _ => .verifyAuthChallenge ⟨10, "\x00", ""⟩

/-- **The null character tells** which nodes exist: where node `10` is there, the request is
answered with an error of the database, and where it is not, with the refusal. -/
theorem null_character_tells :
    ¬ ∀ S key, (∀ q a, S.requests q ≠ .heartbeat a) → Unsigned S key →
      Indistinguishable S key := by
  intro hall
  have hlogin : ∀ q a, (sample markedRequests).requests q ≠ .heartbeat a :=
    fun q a hq => nomatch hq
  have hun : Unsigned (sample markedRequests) sampleKey := by
    intro q payload hq
    cases hq
    decide +kernel
  have hnul : hasNul (VerifyRequest.text ⟨10, "\x00", ""⟩) = true := by decide +kernel
  exact not_indistinguishable (S := sample markedRequests) (q := 0) rfl hnul
    (hall (sample markedRequests) sampleKey hlogin hun)

end Phirepass.Server
