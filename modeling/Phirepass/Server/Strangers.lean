/-
# `Phirepass.Server.Strangers` — who can disturb the login of a node

Both login endpoints are open to anybody and share one row per node.  By
design the row holds the latest challenge only, and the first verify request
that presents the challenge consumes it, whatever its signature.  So a
stranger who asks for a challenge of the node, between the agent's create and
its verify, makes the agent's challenge unknown (`stranger_disturbs`).

Nothing else disturbs it.  If between the two no other request stores a
challenge for the node and none presents the agent's, the agent's verify is
answered with a token in every interleaving with whatever else the server
does (`login_undisturbed`).
-/
import Phirepass.Server.Enumeration

namespace Phirepass.Server

open Rust Interleave

/-! ## The agent's two requests -/

/-- An agent's login: request `a` asks for a challenge of node `n`, request `b` presents it
with a signature valid under the node's key `pk`.  Nobody else signs for the node. -/
structure LoginOf (S : Setup) (n : Uuid) (pk : String) (a b : Nat) (payload : VerifyRequest) :
    Prop where
  create : S.requests a = .createAuthChallenge ⟨n⟩
  verify : S.requests b = .verifyAuthChallenge payload
  node : payload.nodeId = n
  signed : verifySignature S.crates pk payload.text (trim payload.signature) = .ok ()
  strangers : ∀ q payload', q ≠ b → S.requests q = .verifyAuthChallenge payload' →
    payload'.nodeId = n →
      verifySignature S.crates pk payload'.text (trim payload'.signature) ≠ .ok ()

/-- The row of node `n` is there, not revoked, and has the key `pk`. -/
def Database.Active (db : Database) (n : Uuid) (pk : String) : Prop :=
  ∃ row, db.nodes.lookup n = some row ∧ row.id = n ∧ row.revoked = false ∧ row.publicKey = pk

/-- Request `a` has stored a challenge. -/
def HasStored (tr : List (Ev Tid Resp)) (a : Nat) : Prop :=
  ∃ n challenge expiresAt r,
    (⟨.request a, .db (.upsertAuthChallenge n challenge expiresAt), r⟩ : Ev Tid Resp) ∈ tr

/-- Request `b` has looked its challenge up. -/
def HasLooked (tr : List (Ev Tid Resp)) (b : Nat) : Prop :=
  ∃ n challenge r,
    (⟨.request b, .db (.getAuthChallenge n challenge), r⟩ : Ev Tid Resp) ∈ tr

/-- What is assumed of the login: no statement of the agent's two requests and no signing of
their token fails, the node is active, and the agent presents the challenge it was given, once it
has it and before it expires. -/
structure Orderly (S : Setup) (n : Uuid) (pk : String) (a b : Nat) (payload : VerifyRequest)
    (w : World State Tid Resp) (i : Tid) (c : Cmd) (r : Resp c) : Prop where
  runs : ∀ op r', i = .request a ∨ i = .request b → (⟨c, r⟩ : Sigma Resp) = ⟨.db op, r'⟩ →
    r' = op.answer w.state.database
  signs : ∀ claims r', i = .request b → (⟨c, r⟩ : Sigma Resp) = ⟨.encodeNodeJwt claims, r'⟩ →
    ∃ token, r' = .ok token
  active : w.state.database.Active n pk
  given : ∀ challenge, i = .request a → (⟨c, r⟩ : Sigma Resp) = ⟨.generateChallenge, challenge⟩ →
    challenge = payload.text
  after : i = .request b →
    ∃ response, (⟨.request a, .respond response, ()⟩ : Ev Tid Resp) ∈ w.trace
  inTime : ∀ now issued, i = .request b → (⟨c, r⟩ : Sigma Resp) = ⟨.now, now⟩ →
    (∀ t, (⟨.request b, .now, t⟩ : Ev Tid Resp) ∉ w.trace) →
    (⟨.request a, .now, issued⟩ : Ev Tid Resp) ∈ w.trace →
      now < issued + S.challengeTtlSecs * 1000

/-- Between the two, the challenge stays the node's latest and is presented by nobody else. -/
structure LeftAlone (n : Uuid) (a b : Nat) (payload : VerifyRequest) (w : World State Tid Resp)
    (i : Tid) (c : Cmd) : Prop where
  latest : ∀ challenge expiresAt, c = .db (.upsertAuthChallenge n challenge expiresAt) →
    HasStored w.trace a → HasLooked w.trace b
  unspent : c = .db (.consumeAuthChallenge n payload.text) → HasStored w.trace a →
    HasLooked w.trace b

/-- The verify request was answered with a token, if it was answered; and it is never kept
waiting. -/
def LoginSucceeds (S : Setup) (b : Nat) (cfg : Config State Tid Resp Label) : Prop :=
  (∀ response, (⟨.request b, .respond response, ()⟩ : Ev Tid Resp) ∈ cfg.world.trace →
      ∃ token expiresAt, response = ⟨OK, .verified token expiresAt⟩) ∧
    ∀ c next, cfg.threads (.request b) = .op c next →
      ∃ o r s, exec S (.request b) c o cfg.world.state = some (r, s)

/-! ## The challenge is still there -/

section Strangers

variable {S : Setup} {rows : DashMap Uuid NodeRow} {users : List Uuid} {clock : Time}
  {cfg : Config State Tid Resp Label} {n : Uuid} {pk : String} {a b : Nat}
  {payload : VerifyRequest} {A : Restriction}

/-- A challenge is stored until its time to live has passed. -/
theorem May.stores {i : Tid} {h : Hist Resp} {n' : Uuid} {challenge : String} {expiresAt : Time}
    (hm : May S i h (.db (.upsertAuthChallenge n' challenge expiresAt))) :
    ∃ now, (⟨.now, now⟩ : Sigma Resp) ∈ h ∧ expiresAt = now + S.challengeTtlSecs * 1000 := by
  obtain ⟨r, rfl, hm⟩ := hm.byRequest rfl
  cases hm with
  | create hp hc =>
      cases hc
      exact ⟨_, List.mem_cons_self, rfl⟩
  | verify _ hc | heartbeat _ hc => cases hc

/-- The agent's statements were answered by a database in which the node was active. -/
theorem answered_active
    (hA : ∀ w i c r, A w i c r → Orderly S n pk a b payload w i c r)
    (hr : (machine S).Reach A (start rows users clock) cfg) {i : Tid} {op : DbOp} {r : op.Resp}
    (hmem : (⟨i, .db op, r⟩ : Ev Tid Resp) ∈ cfg.world.trace)
    (hi : i = .request a ∨ i = .request b) :
    ∃ db : Database, db.Active n pk ∧ r = op.answer db := by
  obtain ⟨past, hsuf⟩ := exists_past hmem
  refine server_events (fun _ e => ∀ op r, e = ⟨i, .db op, r⟩ →
    ∃ db : Database, db.Active n pk ∧ r = op.answer db) ?_ hr _ past hsuf op r rfl
  intro cfg j c o r s _ _ hAi _ op r' heq
  cases heq
  exact ⟨cfg.world.state.database, (hA _ _ _ _ hAi).active, (hA _ _ _ _ hAi).runs op r' hi rfl⟩

/-- A challenge that was drawn is a parameter the database takes. -/
theorem hasNul_of_drawn (hr : (machine S).Reach A (start rows users clock) cfg) {i : Tid}
    {challenge : String}
    (hmem : (⟨i, .generateChallenge, challenge⟩ : Ev Tid Resp) ∈ cfg.world.trace) :
    hasNul challenge = false := by
  obtain ⟨past, hsuf⟩ := exists_past hmem
  refine server_events (fun _ e => ∀ challenge, e = ⟨i, .generateChallenge, challenge⟩ →
    hasNul challenge = false) ?_ hr _ past hsuf challenge rfl
  intro cfg j c o r s _ _ _ hexec challenge heq
  cases heq
  obtain ⟨random, rfl⟩ := exec_generateChallenge hexec
  exact hasNul_encode random.1

/-- The agent's create request drew the challenge that is presented. -/
theorem drew_given (hA : ∀ w i c r, A w i c r → Orderly S n pk a b payload w i c r)
    (hr : (machine S).Reach A (start rows users clock) cfg) {challenge : String}
    (hmem : (⟨.request a, .generateChallenge, challenge⟩ : Ev Tid Resp) ∈ cfg.world.trace) :
    challenge = payload.text := by
  obtain ⟨past, hsuf⟩ := exists_past hmem
  refine server_events (fun _ e => ∀ challenge, e = ⟨.request a, .generateChallenge, challenge⟩ →
    challenge = payload.text) ?_ hr _ past hsuf challenge rfl
  intro cfg j c o r s _ _ hAi _ challenge heq
  cases heq
  exact (hA _ _ _ _ hAi).given challenge rfl rfl

/-- The agent's create request stores for the node, what it drew. -/
theorem stores_given (hlogin : LoginOf S n pk a b payload)
    (hA : ∀ w i c r, A w i c r → Orderly S n pk a b payload w i c r)
    (hr : (machine S).Reach A (start rows users clock) cfg) {n' : Uuid} {challenge : String}
    {expiresAt : Time} (hmay : May S (.request a) (own (.request a) cfg.world.trace)
      (.db (.upsertAuthChallenge n' challenge expiresAt))) :
    n' = n ∧ challenge = payload.text ∧ hasNul payload.text = false := by
  obtain ⟨r, payload', node, now, heq, hreq, hown, rfl⟩ := hmay.upsert
  cases heq
  rw [hlogin.create] at hreq
  cases hreq
  have hmem {c : Cmd} {r : Resp c} (h : (⟨c, r⟩ : Sigma Resp) ∈ own (.request a) cfg.world.trace) :
      (⟨.request a, c, r⟩ : Ev Tid Resp) ∈ cfg.world.trace := mem_own.1 h
  rw [hown] at hmem
  have hdrew : (⟨.request a, .generateChallenge, challenge⟩ : Ev Tid Resp) ∈ cfg.world.trace :=
    hmem (by simp)
  have hgiven := drew_given hA hr hdrew
  refine ⟨?_, hgiven, hgiven ▸ hasNul_of_drawn hr hdrew⟩
  have hread : (⟨.request a, .db (.getNodeClaimByIdOptional n), .ok (some node)⟩ : Ev Tid Resp) ∈
      cfg.world.trace := hmem (by simp)
  obtain ⟨db, ⟨row, hrow, hid, -, -⟩, hans⟩ := answered_active hA hr hread (.inl rfl)
  simp only [DbOp.answer, hrow, Option.map_some, Except.ok.injEq, Option.some.injEq] at hans
  rw [hans]
  exact hid

/-- From its store to the agent's lookup, the challenge is the node's row. -/
theorem challenge_kept (hlogin : LoginOf S n pk a b payload)
    (hr : (machine S).Reach (fun w i c r => Orderly S n pk a b payload w i c r ∧
      LeftAlone n a b payload w i c) (start rows users clock) cfg) :
    HasStored cfg.world.trace a → ¬ HasLooked cfg.world.trace b →
      ∃ issued, (⟨.request a, .now, issued⟩ : Ev Tid Resp) ∈ cfg.world.trace ∧
        cfg.world.state.database.authChallenges.lookup n
          = some ⟨n, payload.text, issued + S.challengeTtlSecs * 1000⟩ := by
  refine server_inv (fun w => HasStored w.trace a → ¬ HasLooked w.trace b →
    ∃ issued, (⟨.request a, .now, issued⟩ : Ev Tid Resp) ∈ w.trace ∧
      w.state.database.authChallenges.lookup n
        = some ⟨n, payload.text, issued + S.challengeTtlSecs * 1000⟩) ?_ ?_ hr
  · rintro ⟨n', challenge, expiresAt, r, hmem⟩
    cases hmem
  · intro cfg i c o r s hr hI hmay hA hexec hstored hnot
    have hnot' : ¬ HasLooked cfg.world.trace b := by
      rintro ⟨n', challenge, r', hmem⟩
      exact hnot ⟨n', challenge, r', List.mem_cons_of_mem _ hmem⟩
    rw [World.push_state, World.push_trace, (exec_effect hexec).challenges]
    obtain ⟨n', challenge, expiresAt, r', hmem⟩ := hstored
    rw [World.push_trace, List.mem_cons] at hmem
    rcases hmem with heq | hmem
    · -- the store itself
      cases heq
      obtain ⟨rfl, rfl, hnul⟩ := stores_given hlogin (fun _ _ _ _ h => h.1) hr hmay
      obtain ⟨issued, hnow, rfl⟩ := hmay.stores
      refine ⟨issued, List.mem_cons_of_mem _ (mem_own.1 hnow), ?_⟩
      have hran := hA.1.runs _ _ (.inl rfl) rfl
      cases hf : o.fail with
      | false =>
          simp only [Cmd.challengesAfter, DbOp.exec, hf, DbOp.apply, hnul, Bool.false_eq_true,
            if_false, AList.lookup_insert]
      | true =>
          simp [exec, DbOp.exec, hf, DbOp.failed, hran, DbOp.answer, hnul] at hexec
    · -- any other step leaves the row
      have hstored' : HasStored cfg.world.trace a := ⟨n', challenge, expiresAt, r', hmem⟩
      obtain ⟨issued, hnow, hrow⟩ := hI hstored' hnot'
      refine ⟨issued, List.mem_cons_of_mem _ hnow, challenges_kept hrow ?_ ?_⟩
      · rintro challenge' expiresAt' rfl
        exact hnot' (hA.2.latest challenge' expiresAt' rfl hstored')
      · rintro rfl
        exact hnot' (hA.2.unspent rfl hstored')

/-- Once the agent has its challenge, it is stored. -/
theorem stored_of_response (hlogin : LoginOf S n pk a b payload)
    (hA : ∀ w i c r, A w i c r → Orderly S n pk a b payload w i c r)
    (hr : (machine S).Reach A (start rows users clock) cfg) {response : Response}
    (hmem : (⟨.request a, .respond response, ()⟩ : Ev Tid Resp) ∈ cfg.world.trace) :
    HasStored cfg.world.trace a := by
  obtain ⟨past, hsuf⟩ := exists_past hmem
  have hmay := server_events (fun past e => ∀ response, e = ⟨.request a, .respond response, ()⟩ →
    RequestMay S a (own (.request a) past) (.respond response)) ?_ hr _ past hsuf response rfl
  · have hpast := (List.suffix_cons _ _).trans hsuf
    have hin {c : Cmd} {r : Resp c} (h : (⟨c, r⟩ : Sigma Resp) ∈ own (.request a) past) :
        (⟨.request a, c, r⟩ : Ev Tid Resp) ∈ cfg.world.trace := hpast.subset (mem_own.1 h)
    generalize own (.request a) past = h at hmay hin
    cases hmay with
    | create hp hc =>
        rw [hlogin.create] at hp
        cases hp
        cases hc with
        | respond ha =>
            cases ha with
            | lookupFailed =>
                obtain ⟨db, -, hans⟩ := answered_active hA hr (hin List.mem_cons_self) (.inl rfl)
                cases hans
            | writeFailed => exact ⟨_, _, _, _, hin List.mem_cons_self⟩
            | unusable hfound =>
                obtain ⟨db, ⟨row, hrow, -, hrev, -⟩, hans⟩ :=
                  answered_active hA hr (hin List.mem_cons_self) (.inl rfl)
                simp only [DbOp.answer, hrow, Option.map_some, Except.ok.injEq] at hans
                have hrevoked := hfound _ hans
                simp [NodeRow.toClaim, hrev] at hrevoked
            | stored => exact ⟨_, _, _, _, hin List.mem_cons_self⟩
    | verify hp _ =>
        rw [hlogin.create] at hp
        cases hp
    | heartbeat hp _ =>
        rw [hlogin.create] at hp
        cases hp
  · intro cfg j c o r s _ hmay _ _ response heq
    cases heq
    exact hmay

/-- And the agent presents it: a parameter the database takes. -/
theorem text_of_response (hlogin : LoginOf S n pk a b payload)
    (hA : ∀ w i c r, A w i c r → Orderly S n pk a b payload w i c r)
    (hr : (machine S).Reach A (start rows users clock) cfg) {response : Response}
    (hmem : (⟨.request a, .respond response, ()⟩ : Ev Tid Resp) ∈ cfg.world.trace) :
    hasNul payload.text = false := by
  obtain ⟨n', challenge, expiresAt, r, hstored⟩ := stored_of_response hlogin hA hr hmem
  obtain ⟨past, hsuf⟩ := exists_past hstored
  refine server_events (fun _ e => ∀ n' challenge expiresAt r,
    e = ⟨.request a, .db (.upsertAuthChallenge n' challenge expiresAt), r⟩ →
      hasNul payload.text = false) ?_ hr _ past hsuf n' challenge expiresAt r rfl
  intro cfg j c o r s hr hmay _ _ n' challenge expiresAt r' heq
  cases heq
  exact (stores_given hlogin hA hr hmay).2.2

/-- So the agent's lookup finds it. -/
theorem looked_up (hlogin : LoginOf S n pk a b payload)
    (hr : (machine S).Reach (fun w i c r => Orderly S n pk a b payload w i c r ∧
      LeftAlone n a b payload w i c) (start rows users clock) cfg) {challenge : String}
    {found : Except String (Option AuthChallengeRecord)} {past : List (Ev Tid Resp)}
    (hsuf : (⟨.request b, .db (.getAuthChallenge n challenge), found⟩ : Ev Tid Resp) :: past
      <:+ cfg.world.trace) :
    ∃ issued, (⟨.request a, .now, issued⟩ : Ev Tid Resp) ∈ past ∧
      found = .ok (some ⟨n, payload.text, issued + S.challengeTtlSecs * 1000⟩) := by
  refine server_events (fun past e => ∀ challenge found,
    e = ⟨.request b, .db (.getAuthChallenge n challenge), found⟩ →
      ∃ issued, (⟨.request a, .now, issued⟩ : Ev Tid Resp) ∈ past ∧
        found = .ok (some ⟨n, payload.text, issued + S.challengeTtlSecs * 1000⟩))
    ?_ hr _ past hsuf challenge found rfl
  intro cfg j c o r s hr hmay hA _ challenge found heq
  cases heq
  obtain ⟨q, payload', node, heq, hreq, -, rfl, hown⟩ := hmay.lookup
  cases heq
  rw [hlogin.verify] at hreq
  cases hreq
  obtain ⟨response, hresp⟩ := hA.1.after rfl
  have hnot : ¬ HasLooked cfg.world.trace b := by
    rintro ⟨n', challenge', r', hmem⟩
    have hmem' := mem_own.2 hmem
    rw [hown] at hmem'
    simp at hmem'
  obtain ⟨issued, hnow, hrow⟩ := challenge_kept hlogin hr
    (stored_of_response hlogin (fun _ _ _ _ h => h.1) hr hresp) hnot
  have hnul := text_of_response hlogin (fun _ _ _ _ h => h.1) hr hresp
  refine ⟨issued, hnow, ?_⟩
  rw [hA.1.runs _ _ (.inr rfl) rfl]
  simp [DbOp.answer, hrow, hnul]

/-- Nor is its deletion refused. -/
theorem consumed_text (hlogin : LoginOf S n pk a b payload)
    (hA : ∀ w i c r, A w i c r → Orderly S n pk a b payload w i c r)
    (hr : (machine S).Reach A (start rows users clock) cfg) {c : Cmd} {r : Resp c}
    (hmem : (⟨.request b, c, r⟩ : Ev Tid Resp) ∈ cfg.world.trace) :
    hasNul payload.text = false := by
  obtain ⟨past, hsuf⟩ := exists_past hmem
  refine server_events (fun _ e => ∀ c r, e = ⟨.request b, c, r⟩ →
    hasNul payload.text = false) ?_ hr _ past hsuf c r rfl
  intro cfg j c o r s hr _ hAi _ c' r' heq
  cases heq
  obtain ⟨response, hresp⟩ := (hA _ _ _ _ hAi).after rfl
  exact text_of_response hlogin hA hr hresp

/-- The agent's first look at the clock is before the expiry. -/
theorem read_in_time (hA : ∀ w i c r, A w i c r → Orderly S n pk a b payload w i c r)
    (hr : (machine S).Reach A (start rows users clock) cfg) {now issued : Time}
    {past : List (Ev Tid Resp)}
    (hsuf : (⟨.request b, .now, now⟩ : Ev Tid Resp) :: past <:+ cfg.world.trace)
    (hfirst : ∀ t, (⟨.request b, .now, t⟩ : Ev Tid Resp) ∉ past)
    (hissued : (⟨.request a, .now, issued⟩ : Ev Tid Resp) ∈ past) :
    now < issued + S.challengeTtlSecs * 1000 := by
  refine server_events (fun past e => ∀ now issued, e = ⟨.request b, .now, now⟩ →
    (∀ t, (⟨.request b, .now, t⟩ : Ev Tid Resp) ∉ past) →
    (⟨.request a, .now, issued⟩ : Ev Tid Resp) ∈ past → now < issued + S.challengeTtlSecs * 1000)
    ?_ hr _ past hsuf now issued rfl hfirst hissued
  intro cfg j c o r s _ _ hAi _ now issued heq hfirst hissued
  cases heq
  exact (hA _ _ _ _ hAi).inTime now issued rfl rfl hfirst hissued

theorem signed_ok (hA : ∀ w i c r, A w i c r → Orderly S n pk a b payload w i c r)
    (hr : (machine S).Reach A (start rows users clock) cfg) {claims : NodeJwtClaims}
    {r : Except String String}
    (hmem : (⟨.request b, .encodeNodeJwt claims, r⟩ : Ev Tid Resp) ∈ cfg.world.trace) :
    ∃ token, r = .ok token := by
  obtain ⟨past, hsuf⟩ := exists_past hmem
  refine server_events (fun _ e => ∀ claims r, e = ⟨.request b, .encodeNodeJwt claims, r⟩ →
    ∃ token, r = .ok token) ?_ hr _ past hsuf claims r rfl
  intro cfg j c o r s _ _ hAi _ claims r' heq
  cases heq
  exact (hA _ _ _ _ hAi).signs claims r' rfl rfl

/-- Of all the answers of `verify_auth_challenge`, the agent gets the token. -/
theorem verified_response (hlogin : LoginOf S n pk a b payload)
    (hr : (machine S).Reach (fun w i c r => Orderly S n pk a b payload w i c r ∧
      LeftAlone n a b payload w i c) (start rows users clock) cfg) {past : List (Ev Tid Resp)}
    {response : Response} (hpast : past <:+ cfg.world.trace)
    (ha : VerifyAnswers S payload (own (.request b) past) response) :
    ∃ token expiresAt, response = ⟨OK, .verified token expiresAt⟩ := by
  obtain rfl := hlogin.node
  have hA : ∀ w i c r, Orderly S payload.nodeId pk a b payload w i c r ∧
      LeftAlone payload.nodeId a b payload w i c →
      Orderly S payload.nodeId pk a b payload w i c r := fun _ _ _ _ h => h.1
  have hin {c : Cmd} {r : Resp c} (h : (⟨c, r⟩ : Sigma Resp) ∈ own (.request b) past) :
      (⟨.request b, c, r⟩ : Ev Tid Resp) ∈ cfg.world.trace := hpast.subset (mem_own.1 h)
  have hnode {node : NodeClaimRecord}
      (h : (⟨.db (.getNodeClaimById payload.nodeId), .ok node⟩ : Sigma Resp)
        ∈ own (.request b) past) : node.revoked = false ∧ node.publicKey = pk := by
    obtain ⟨db, ⟨row, hrow, -, hrev, hkey⟩, hans⟩ := answered_active hA hr (hin h) (.inr rfl)
    simp only [DbOp.answer, hrow, Except.ok.injEq] at hans
    rw [hans]
    exact ⟨hrev, hkey⟩
  generalize hown : own (.request b) past = h at ha hin hnode
  cases ha with
  | missing =>
      obtain ⟨db, ⟨row, hrow, -, -, -⟩, hans⟩ :=
        answered_active hA hr (hin List.mem_cons_self) (.inr rfl)
      simp [DbOp.answer, hrow] at hans
  | revoked hrevoked =>
      rw [(hnode List.mem_cons_self).1] at hrevoked
      cases hrevoked
  | @lookupFailed node err =>
      have hlast : (⟨.db (.getAuthChallenge payload.nodeId payload.text), .error err⟩ :
          Sigma Resp) :: [⟨.db (.getNodeClaimById payload.nodeId), .ok node⟩]
          <:+ own (.request b) past := by
        rw [hown]
      obtain ⟨past', hsuf, -⟩ := exists_past_of_own hlast
      obtain ⟨issued, -, hfound⟩ := looked_up hlogin hr (hsuf.trans hpast)
      cases hfound
  | consumeFailed =>
      obtain ⟨db, -, hans⟩ := answered_active hA hr (hin List.mem_cons_self) (.inr rfl)
      have hnul := consumed_text hlogin hA hr (hin List.mem_cons_self)
      simp [DbOp.answer, hnul] at hans
  | @unknown node =>
      have hlast : (⟨.db (.getAuthChallenge payload.nodeId payload.text), .ok none⟩ : Sigma Resp) ::
          [⟨.db (.getNodeClaimById payload.nodeId), .ok node⟩] <:+ own (.request b) past := by
        rw [hown]
      obtain ⟨past', hsuf, -⟩ := exists_past_of_own hlast
      obtain ⟨issued, -, hfound⟩ := looked_up hlogin hr (hsuf.trans hpast)
      cases hfound
  | @expired node row now hexpiry =>
      -- the row is the one the agent stored, and the clock was read in time
      have hlast : (⟨.now, now⟩ : Sigma Resp) :: consumed payload node row
          <:+ own (.request b) past := by
        rw [hown]
      obtain ⟨past₁, hsuf₁, hown₁⟩ := exists_past_of_own hlast
      have hlook : (⟨.db (.getAuthChallenge payload.nodeId payload.text), .ok (some row)⟩ :
          Sigma Resp) :: [⟨.db (.getNodeClaimById payload.nodeId), .ok node⟩]
          <:+ own (.request b) past₁ := by
        rw [hown₁]
        exact List.suffix_cons _ _
      obtain ⟨past₂, hsuf₂, -⟩ := exists_past_of_own hlook
      have hpast₁ := hsuf₁.trans hpast
      obtain ⟨issued, hissued, hfound⟩ := looked_up hlogin hr
        (hsuf₂.trans ((List.suffix_cons _ _).trans hpast₁))
      cases hfound
      have hfirst : ∀ t, (⟨.request b, .now, t⟩ : Ev Tid Resp) ∉ past₁ := by
        intro t hmem
        have hmem' := mem_own.2 hmem
        rw [hown₁] at hmem'
        simp [consumed] at hmem'
      have hlt := read_in_time hA hr hpast₁ hfirst
        (((List.suffix_cons _ _).trans hsuf₂).subset hissued)
      exact absurd hexpiry (Int.not_le.2 hlt)
  | @unsigned node row now hsig =>
      rw [(@hnode node (by simp [consumed])).2] at hsig
      exact absurd hlogin.signed hsig
  | issueFailed =>
      obtain ⟨token, heq⟩ := signed_ok hA hr (hin List.mem_cons_self)
      cases heq
  | verified => exact ⟨_, _, rfl⟩

/-- **The login is not disturbed** by anything the server does for others, as long as between
the agent's two requests no other challenge is stored for the node and nobody else presents
this one. -/
theorem login_undisturbed (hlogin : LoginOf S n pk a b payload)
    (hr : (machine S).Reach (fun w i c r => Orderly S n pk a b payload w i c r ∧
      LeftAlone n a b payload w i c) (start rows users clock) cfg) : LoginSucceeds S b cfg := by
  refine ⟨fun response hmem => ?_, fun c next hop => ?_⟩
  · obtain ⟨past, hsuf⟩ := exists_past hmem
    have hmay := server_events (fun past e => ∀ response,
      e = ⟨.request b, .respond response, ()⟩ →
        RequestMay S b (own (.request b) past) (.respond response)) ?_ hr _ past hsuf response rfl
    · have hpast := (List.suffix_cons _ _).trans hsuf
      cases hmay with
      | verify hp hc =>
          rw [hlogin.verify] at hp
          cases hp
          generalize hown : own (.request b) past = h at hc
          cases hc with
          | respond ha =>
              subst hown
              exact verified_response hlogin hr hpast ha
      | create hp _ | heartbeat hp _ =>
          rw [hlogin.verify] at hp
          cases hp
    · intro cfg j c o r s _ hmay _ _ response heq
      cases heq
      exact hmay
  · have hmay : RequestMay S b (own (.request b) cfg.world.trace) c :=
      hr.may server_follows (fun _ _ _ _ _ => trivial) hop
    obtain ⟨o, r, s, hexec, -⟩ := @request_ready S (fun _ => sampleRandom) (fun _ => "") b
      (fun authorization hb => by
        rw [hlogin.verify] at hb
        cases hb) cfg.world _ _ hmay
    exact ⟨o, r, s, hexec⟩

end Strangers

/-! ## A login, and a stranger -/

/-- The agent of node `10` asks for a challenge and presents it.  Of the strangers, `2` presents
another one for the node, `3` asks for a challenge of node `11`, and the rest for one of node
`10`. -/
def strangerRequests : Nat → Request
  | 1 => .verifyAuthChallenge ⟨10, sampleChallenge, sampleSignature⟩
  | 2 => .verifyAuthChallenge ⟨10, "", sampleSignature⟩
  | 3 => .createAuthChallenge ⟨11⟩
  | _ => .createAuthChallenge ⟨10⟩

def sampleLogin : VerifyRequest := ⟨10, sampleChallenge, sampleSignature⟩

theorem sample_loginOf :
    LoginOf (sample strangerRequests) 10 (sampleKey 10) 0 1 sampleLogin where
  create := rfl
  verify := rfl
  node := rfl
  signed := by decide +kernel
  strangers := by
    intro q payload hq hreq
    match q with
    | 0 => cases hreq
    | 1 => exact absurd rfl hq
    | 2 =>
        cases hreq
        decide +kernel
    | 3 => cases hreq
    | q + 4 => cases hreq

/-- Whether node `10` is active. -/
def active (db : Database) : Bool :=
  match db.nodes.lookup 10 with
  | some row => row.id == 10 && !row.revoked && row.publicKey == sampleKey 10
  | none => false

theorem active_sound {db : Database} (h : active db = true) : db.Active 10 (sampleKey 10) := by
  unfold active at h
  split at h
  · next row hrow =>
      rw [Bool.and_eq_true, Bool.and_eq_true, beq_iff_eq, beq_iff_eq] at h
      obtain ⟨⟨hid, hrev⟩, hkey⟩ := h
      exact ⟨row, hrow, hid, by simpa using hrev, hkey⟩
  · cases h

/-- Whether request `r` has been answered. -/
def responded (r : Nat) (tr : List (Ev Tid Resp)) : Bool :=
  tr.any fun
    | ⟨.request q, .respond _, _⟩ => q == r
    | _ => false

theorem responded_sound {r : Nat} {tr : List (Ev Tid Resp)} (h : responded r tr = true) :
    ∃ response, (⟨.request r, .respond response, ()⟩ : Ev Tid Resp) ∈ tr := by
  obtain ⟨e, hmem, he⟩ := List.any_eq_true.1 h
  split at he
  · next q response _ =>
      obtain rfl := beq_iff_eq.1 he
      exact ⟨response, hmem⟩
  · cases he

/-- Whether the answer is one an orderly login counts on. -/
def answersOrderly (w : World State Tid Resp) (i : Tid) : (c : Cmd) → Resp c → Bool
  | .db op, r => i != .request 0 && i != .request 1 || decide (r = op.answer w.state.database)
  | .encodeNodeJwt _, r => r.isOk
  | .generateChallenge, challenge => i != .request 0 || challenge == sampleChallenge
  | .now, now => w.trace.all fun
      | ⟨_, .now, issued⟩ => decide (now < issued + 60 * 1000)
      | _ => true
  | _, _ => true

/-- Whether the step is one of an orderly login. -/
def orderly (w : World State Tid Resp) (i : Tid) (c : Cmd) (r : Resp c) : Bool :=
  active w.state.database && (i != .request 1 || responded 0 w.trace) && answersOrderly w i c r

theorem orderly_sound (w : World State Tid Resp) (i : Tid) (c : Cmd) (r : Resp c)
    (h : orderly w i c r = true) :
    Orderly (sample strangerRequests) 10 (sampleKey 10) 0 1 sampleLogin w i c r := by
  rw [orderly, Bool.and_eq_true, Bool.and_eq_true] at h
  obtain ⟨⟨hactive, hafter⟩, h⟩ := h
  refine ⟨?_, ?_, active_sound hactive, ?_, ?_, ?_⟩
  · intro op r' hi heq
    cases heq
    rcases hi with rfl | rfl
    · exact of_decide_eq_true h
    · exact of_decide_eq_true h
  · intro claims r' _ heq
    cases heq
    cases r' with
    | error => cases h
    | ok token => exact ⟨token, rfl⟩
  · intro challenge hi heq
    cases heq
    subst hi
    have htext : sampleLogin.text = sampleChallenge := by decide +kernel
    rw [htext]
    simpa [answersOrderly] using h
  · intro hi
    rw [hi] at hafter
    exact responded_sound (by simpa using hafter)
  · intro now issued _ heq _ hmem
    cases heq
    exact of_decide_eq_true (List.all_eq_true.1 h _ hmem)

def stored (tr : List (Ev Tid Resp)) : Bool :=
  tr.any fun
    | ⟨.request 0, .db (.upsertAuthChallenge _ _ _), _⟩ => true
    | _ => false

theorem stored_of_hasStored {tr : List (Ev Tid Resp)} (h : HasStored tr 0) : stored tr = true := by
  obtain ⟨n, challenge, expiresAt, r, hmem⟩ := h
  exact List.any_eq_true.2 ⟨_, hmem, rfl⟩

def looked (tr : List (Ev Tid Resp)) : Bool :=
  tr.any fun
    | ⟨.request 1, .db (.getAuthChallenge _ _), _⟩ => true
    | _ => false

theorem looked_sound {tr : List (Ev Tid Resp)} (h : looked tr = true) : HasLooked tr 1 := by
  obtain ⟨e, hmem, he⟩ := List.any_eq_true.1 h
  split at he
  · exact ⟨_, _, _, hmem⟩
  · cases he

/-- Whether the step leaves the agent's challenge alone. -/
def spares (w : World State Tid Resp) (c : Cmd) : Bool :=
  match c with
  | .db (.upsertAuthChallenge n _ _) | .db (.consumeAuthChallenge n _) =>
      n != 10 || !stored w.trace || looked w.trace
  | _ => true

theorem spares_sound {w : World State Tid Resp} {i : Tid} {c : Cmd} (h : spares w c = true) :
    LeftAlone 10 0 1 sampleLogin w i c := by
  have hlooked (h : ((10 : Uuid) != 10 || !stored w.trace || looked w.trace) = true) (hs : HasStored w.trace 0) :
      HasLooked w.trace 1 := by
    rw [stored_of_hasStored hs] at h
    exact looked_sound (by simpa using h)
  constructor
  · rintro challenge expiresAt rfl
    exact hlooked h
  · rintro rfl
    exact hlooked h

/-- The agent's two requests, with `between` in between. -/
def agentLogin (between : List (Tid × Choice)) : List (Tid × Choice) :=
  List.replicate 6 (.request 0, { random := sampleRandom }) ++ between ++ idle (.request 1) 9

/-- Stranger `2` is refused, and stranger `3` is given a challenge. -/
def harmless : List (Tid × Choice) := idle (.request 2) 4 ++ idle (.request 3) 6

theorem login_undisturbed_of_quiet :
    ∃ cfg token expiresAt, (machine (sample strangerRequests)).Reach
        (fun w i c r => Orderly (sample strangerRequests) 10 (sampleKey 10) 0 1 sampleLogin w i c r ∧
          LeftAlone 10 0 1 sampleLogin w i c) sampleStart cfg ∧
      (∀ q ∈ [2, 3], ∃ response,
        (⟨.request q, .respond response, ()⟩ : Ev Tid Resp) ∈ cfg.world.trace) ∧
      (⟨.request 1, .respond ⟨OK, .verified token expiresAt⟩, ()⟩ : Ev Tid Resp)
        ∈ cfg.world.trace := by
  have hrun : ((machine (sample strangerRequests)).run
      (fun w i c r => orderly w i c r && spares w c) (agentLogin harmless) sampleStart).any
      (fun cfg => [1, 2, 3].all fun q => responded q cfg.world.trace) = true := by
    decide +kernel
  obtain ⟨cfg, hr, hend⟩ := Machine.reach_of_run (A := fun w i c r =>
    Orderly (sample strangerRequests) 10 (sampleKey 10) 0 1 sampleLogin w i c r ∧
      LeftAlone 10 0 1 sampleLogin w i c) (fun w i c r h => by
    rw [Bool.and_eq_true] at h
    exact ⟨orderly_sound w i c r h.1, spares_sound h.2⟩) hrun
  have hanswered : ∀ q ∈ [1, 2, 3], ∃ response,
      (⟨.request q, .respond response, ()⟩ : Ev Tid Resp) ∈ cfg.world.trace :=
    fun q hq => responded_sound (List.all_eq_true.1 hend q hq)
  obtain ⟨response, hmem⟩ := hanswered 1 (by simp)
  obtain ⟨token, expiresAt, rfl⟩ := (login_undisturbed sample_loginOf hr).1 response hmem
  exact ⟨cfg, token, expiresAt, hr, fun q hq => hanswered q (List.mem_cons_of_mem _ hq), hmem⟩

/-- Request 1 is refused. -/
def isRefusal : Ev Tid Resp → Bool
  | ⟨.request 1, .respond ⟨401, _⟩, _⟩ => true
  | _ => false

/-- **A stranger disturbs the login.**  A challenge asked for by somebody else replaces the
agent's, and the agent is refused. -/
theorem stranger_disturbs :
    ¬ ∀ n pk a b payload cfg, LoginOf (sample strangerRequests) n pk a b payload →
      (machine (sample strangerRequests)).Reach
        (Orderly (sample strangerRequests) n pk a b payload) sampleStart cfg →
      LoginSucceeds (sample strangerRequests) b cfg := by
  have hrun : ((machine (sample strangerRequests)).run orderly
      (agentLogin (idle (.request 4) 6)) sampleStart).any
      (fun cfg => cfg.world.trace.any isRefusal) = true := by
    decide +kernel
  obtain ⟨cfg, hr, hend⟩ := Machine.reach_of_run orderly_sound hrun
  intro hall
  obtain ⟨e, hmem, he⟩ := List.any_eq_true.1 hend
  unfold isRefusal at he
  split at he
  · next body _ =>
      obtain ⟨token, expiresAt, heq⟩ :=
        (hall 10 (sampleKey 10) 0 1 sampleLogin cfg sample_loginOf hr).1 _ hmem
      cases heq
  · cases he

end Phirepass.Server
