/-
# `Phirepass.Server.OneTime` — when a challenge is good for one token

`verify_auth_challenge` consumes a challenge before it looks at the signature,
so that a challenge is good for one attempt.  But it *reads* the row in one
statement and *deletes* it in another, and does not ask the delete whether
there was anything left to delete.  Two requests that both read the row
before either deletes it both go on to a token (`replay_issues_twice`).

That is the only way.  If no two requests with a valid signature hold the
same challenge between their two statements, every challenge leads to at most
one token in every run (`challenge_one_time`): the first request either
deleted the row, and a deleted challenge never comes back because challenges
are distinct, or its delete failed, and then it issues nothing.
-/
import Phirepass.Server.Identity

namespace Phirepass.Server

open Rust Interleave

/-! ## One use of a challenge, and its condition -/

/-- The event issues a node token to a verify request for node `n` carrying `challenge`. -/
def issuedFor (S : Setup) (n : Uuid) (challenge : String) : Ev Tid Resp → Bool
  | ⟨.request r, .encodeNodeJwt _, .ok _⟩ =>
      match S.requests r with
      | .verifyAuthChallenge payload => payload.nodeId == n && payload.text == challenge
      | _ => false
  | _ => false

/-- Generated challenges are pairwise distinct. -/
def ChallengesDistinct : Restriction := fun w _ c r =>
  ∀ challenge, (⟨c, r⟩ : Sigma Resp) = ⟨.generateChallenge, challenge⟩ →
    ∀ j, (⟨j, .generateChallenge, challenge⟩ : Ev Tid Resp) ∉ w.trace

/-- A verify request whose signature is valid under the key it read. -/
def Signed (S : Setup) (payload : VerifyRequest) (h : Hist Resp) : Prop :=
  ∃ node, (⟨.db (.getNodeClaimById payload.nodeId), .ok node⟩ : Sigma Resp) ∈ h ∧
    verifySignature S.crates node.publicKey payload.text (trim payload.signature) = .ok ()

/-- No request with a valid signature finds a challenge while another one that found it has
yet to consume it. -/
def NoOverlap (S : Setup) : Restriction := fun w i c r =>
  ∀ r₁ r₂ payload₁ payload₂ row, i = .request r₂ → r₁ ≠ r₂ →
    S.requests r₁ = .verifyAuthChallenge payload₁ → S.requests r₂ = .verifyAuthChallenge payload₂ →
    payload₁.nodeId = payload₂.nodeId → payload₁.text = payload₂.text →
    Signed S payload₁ (own (.request r₁) w.trace) → Signed S payload₂ (own (.request r₂) w.trace) →
    (⟨c, r⟩ : Sigma Resp) =
      ⟨.db (.getAuthChallenge payload₂.nodeId payload₂.text), .ok (some row)⟩ →
    ¬ Pending payload₁ (own (.request r₁) w.trace)

def OneAtATime (S : Setup) : Restriction := fun w i c r =>
  ChallengesDistinct w i c r ∧ NoOverlap S w i c r

section OneTime

variable {S : Setup} {A : Restriction} {rows : DashMap Uuid NodeRow} {users : List Uuid}
  {clock : Time} {cfg : Config State Tid Resp Label}

/-! ## A consumed challenge does not come back -/

/-- A challenge has one generator. -/
theorem generator_unique (hA : ∀ w i c r, A w i c r → ChallengesDistinct w i c r)
    (hr : (machine S).Reach A (start rows users clock) cfg) :
    ∀ i j challenge, (⟨i, .generateChallenge, challenge⟩ : Ev Tid Resp) ∈ cfg.world.trace →
      (⟨j, .generateChallenge, challenge⟩ : Ev Tid Resp) ∈ cfg.world.trace → i = j := by
  refine server_inv (fun w => ∀ i j challenge,
    (⟨i, .generateChallenge, challenge⟩ : Ev Tid Resp) ∈ w.trace →
      (⟨j, .generateChallenge, challenge⟩ : Ev Tid Resp) ∈ w.trace → i = j) ?_ ?_ hr
  · intro i j challenge hi
    cases hi
  · intro cfg k c o r s _ hI _ hAk _ i j challenge hi hj
    have hnew := hA _ _ _ _ hAk
    rw [World.push_trace, List.mem_cons] at hi hj
    rcases hi with hi | hi <;> rcases hj with hj | hj
    · cases hi
      cases hj
      rfl
    · cases hi
      exact absurd hj (hnew challenge rfl j)
    · cases hj
      exact absurd hi (hnew challenge rfl i)
    · exact hI i j challenge hi hj

/-- A challenge that a request goes to consume was stored. -/
theorem stored_of_consume (hr : (machine S).Reach A (start rows users clock) cfg) {i : Tid}
    {n : Uuid} {challenge : String} {res : Except String Unit}
    (hmem : (⟨i, .db (.consumeAuthChallenge n challenge), res⟩ : Ev Tid Resp)
      ∈ cfg.world.trace) : ∃ expiresAt, Stored S cfg.world.trace n challenge expiresAt := by
  obtain ⟨past, hsuf⟩ := exists_past hmem
  have hev := server_events (fun past e => ∀ i n challenge res,
    e = ⟨i, .db (.consumeAuthChallenge n challenge), res⟩ →
      ∃ expiresAt, Stored S past n challenge expiresAt) ?_ hr _ past hsuf i n challenge res rfl
  · obtain ⟨expiresAt, hstored⟩ := hev
    exact ⟨expiresAt, hstored.mono ((List.suffix_cons _ _).trans hsuf)⟩
  · intro cfg j c o r s hr hmay _ _ i n challenge res heq
    cases heq
    obtain ⟨r', payload, node, row, rfl, -, rfl, rfl, hown⟩ := hmay.consume
    refine ⟨row.expiresAt, stored_of_found hr (i := .request r') ?_⟩
    rw [← mem_own, hown]
    simp

/-- A challenge that was consumed is not in the table, and is not stored again: its generator
stores it once. -/
theorem not_row_of_consumed (hA : ∀ w i c r, A w i c r → ChallengesDistinct w i c r)
    (hr : (machine S).Reach A (start rows users clock) cfg) :
    ∀ i n challenge,
      (⟨i, .db (.consumeAuthChallenge n challenge), .ok ()⟩ : Ev Tid Resp) ∈ cfg.world.trace →
        ∀ row, cfg.world.state.database.authChallenges.lookup n = some row →
          row.challenge ≠ challenge := by
  refine server_inv (fun w => ∀ i n challenge,
    (⟨i, .db (.consumeAuthChallenge n challenge), .ok ()⟩ : Ev Tid Resp) ∈ w.trace →
      ∀ row, w.state.database.authChallenges.lookup n = some row → row.challenge ≠ challenge)
    ?_ ?_ hr
  · intro i n challenge hmem
    cases hmem
  · intro cfg k c o r s hr hI hmay _ hexec i n challenge hmem row hrow
    rw [World.push_trace, List.mem_cons] at hmem
    rcases hmem with heq | hmem
    · cases heq
      exact exec_consume hexec hrow
    · rw [World.push_state, (exec_effect hexec).challenges] at hrow
      rcases challenges_lookup hrow with hold | ⟨text, expiresAt, rfl, rfl⟩
      · exact hI i n challenge hmem row hold
      · rintro rfl
        obtain ⟨r₁, payload, node, now, rfl, -, hown, -⟩ := hmay.upsert
        obtain ⟨t, r₀, -, res, -, hgen₀, hup₀⟩ := stored_of_consume hr hmem
        have hgen₁ : (⟨.request r₁, .generateChallenge, text⟩ : Ev Tid Resp) ∈ cfg.world.trace := by
          rw [← mem_own, hown]
          simp
        have hsame := generator_unique hA hr _ _ _ hgen₀ hgen₁
        rw [hsame, ← mem_own, hown] at hup₀
        simp at hup₀

/-! ## One request per challenge -/

/-- After finding its challenge a request consumes it, and does nothing before. -/
theorem pending_or_consumed (hr : (machine S).Reach A (start rows users clock) cfg) :
    ∀ r payload row, S.requests r = .verifyAuthChallenge payload →
      (⟨.db (.getAuthChallenge payload.nodeId payload.text), .ok (some row)⟩ : Sigma Resp)
        ∈ own (.request r) cfg.world.trace →
      Pending payload (own (.request r) cfg.world.trace) ∨
        ∃ res, (⟨.db (.consumeAuthChallenge payload.nodeId payload.text), res⟩ : Sigma Resp)
          ∈ own (.request r) cfg.world.trace := by
  refine server_inv (fun w => ∀ r payload row, S.requests r = .verifyAuthChallenge payload →
      (⟨.db (.getAuthChallenge payload.nodeId payload.text), .ok (some row)⟩ : Sigma Resp)
        ∈ own (.request r) w.trace →
      Pending payload (own (.request r) w.trace) ∨
        ∃ res, (⟨.db (.consumeAuthChallenge payload.nodeId payload.text), res⟩ : Sigma Resp)
          ∈ own (.request r) w.trace) ?_ ?_ hr
  · intro r payload row _ hmem
    cases hmem
  · intro cfg i c o res s _ hI hmay _ _ r payload row hreq hmem
    rw [World.push_trace] at hmem ⊢
    by_cases hi : i = .request r
    · subst hi
      rw [own_cons_self] at hmem ⊢
      rcases List.mem_cons.1 hmem with heq | hmem
      · cases heq
        exact .inl ⟨row, _, rfl⟩
      · rcases hI r payload row hreq hmem with hpend | ⟨res', hcons⟩
        · cases hmay with
          | verify hp hc =>
              rw [hreq] at hp
              cases hp
              obtain ⟨row', h', hown⟩ := hpend
              rw [hown] at hc
              cases hc with
              | consume => exact .inr ⟨res, List.mem_cons_self⟩
              | respond ha => exact absurd ⟨row', h', rfl⟩ ha.not_pending
          | create hp _ | heartbeat hp _ =>
              rw [hreq] at hp
              cases hp
        · exact .inr ⟨res', List.mem_cons_of_mem _ hcons⟩
    · rw [own_cons_of_ne hi] at hmem ⊢
      exact hI r payload row hreq hmem

/-- The delete of the request failed. -/
def ConsumeFailed (payload : VerifyRequest) (h : Hist Resp) : Prop :=
  ∃ err, (⟨.db (.consumeAuthChallenge payload.nodeId payload.text), .error err⟩ : Sigma Resp) ∈ h

theorem ConsumeFailed.mono {payload : VerifyRequest} {h h' : Hist Resp} (hs : h <:+ h')
    (hf : ConsumeFailed payload h) : ConsumeFailed payload h' := by
  obtain ⟨err, hmem⟩ := hf
  exact ⟨err, hs.subset hmem⟩

/-- The request found its challenge, and its signature is valid. -/
def Entitled (S : Setup) (payload : VerifyRequest) (h : Hist Resp) : Prop :=
  Signed S payload h ∧ ∃ row,
    (⟨.db (.getAuthChallenge payload.nodeId payload.text), .ok (some row)⟩ : Sigma Resp) ∈ h

/-- A request that finds a challenge another one found before it: that one's delete failed. -/
theorem consumeFailed_of_found {i : Tid} {c : Cmd} {o : Choice} {res : Resp c} {s : State}
    (hr : (machine S).Reach (OneAtATime S) (start rows users clock) cfg)
    (hA : OneAtATime S cfg.world i c res)
    (hexec : exec S i c o cfg.world.state = some (res, s)) {r₁ r₂ : Nat}
    {payload₁ payload₂ : VerifyRequest} {row : AuthChallengeRecord} (hi : i = .request r₂)
    (hne : r₁ ≠ r₂) (hreq₁ : S.requests r₁ = .verifyAuthChallenge payload₁)
    (hreq₂ : S.requests r₂ = .verifyAuthChallenge payload₂)
    (hn : payload₁.nodeId = payload₂.nodeId) (ht : payload₁.text = payload₂.text)
    (h₁ : Entitled S payload₁ (own (.request r₁) cfg.world.trace))
    (h₂ : Signed S payload₂ (own (.request r₂) cfg.world.trace))
    (heq : (⟨c, res⟩ : Sigma Resp) =
      ⟨.db (.getAuthChallenge payload₂.nodeId payload₂.text), .ok (some row)⟩) :
    ConsumeFailed payload₁ (own (.request r₁) cfg.world.trace) := by
  obtain ⟨hsigned, row₁, hfound⟩ := h₁
  rcases pending_or_consumed hr r₁ payload₁ row₁ hreq₁ hfound with hpend | ⟨res₁, hcons⟩
  · exact absurd hpend (hA.2 r₁ r₂ payload₁ payload₂ row hi hne hreq₁ hreq₂ hn ht hsigned h₂ heq)
  · cases res₁ with
    | error err => exact ⟨err, hcons⟩
    | ok _ =>
        cases heq
        obtain ⟨hrow, htext⟩ := exec_getAuthChallenge hexec
        rw [mem_own] at hcons
        have hgone := not_row_of_consumed (fun _ _ _ _ hA => hA.1) hr _ _ _ hcons row
        exact absurd (htext.trans ht.symm) (hgone (hn ▸ hrow))

theorem Entitled.mono {payload : VerifyRequest} {h h' : Hist Resp} (hs : h <:+ h')
    (he : Entitled S payload h) : Entitled S payload h' := by
  obtain ⟨⟨node, hnode, hsig⟩, row, hfound⟩ := he
  exact ⟨⟨node, hs.subset hnode, hsig⟩, row, hs.subset hfound⟩

/-- A request becomes entitled by the step in which it finds its challenge. -/
theorem entitled_cons {tr : List (Ev Tid Resp)} {i : Tid} {c : Cmd} {res : Resp c} {r : Nat}
    {payload : VerifyRequest} (hmay : May S i (own i tr) c)
    (hreq : S.requests r = .verifyAuthChallenge payload)
    (h : Entitled S payload (own (.request r) (⟨i, c, res⟩ :: tr))) :
    Entitled S payload (own (.request r) tr) ∨
      i = .request r ∧ Signed S payload (own (.request r) tr) ∧
        ∃ row, (⟨c, res⟩ : Sigma Resp) =
          ⟨.db (.getAuthChallenge payload.nodeId payload.text), .ok (some row)⟩ := by
  by_cases hi : i = .request r
  · subst hi
    rw [own_cons_self] at h
    obtain ⟨⟨node, hnode, hsig⟩, row, hfound⟩ := h
    rw [List.mem_cons] at hnode hfound
    rcases hfound with heq | hfound
    · rcases hnode with heq' | hnode
      · rw [← heq] at heq'
        cases heq'
      · exact .inr ⟨rfl, ⟨node, hnode, hsig⟩, row, heq.symm⟩
    · rcases hnode with heq' | hnode
      · -- the node is read first of all
        cases heq'
        cases hmay with
        | verify hp hc =>
            rw [hreq] at hp
            cases hp
            generalize own (.request r) tr = h at hc hfound
            cases hc
            exact absurd hfound List.not_mem_nil
        | create hp _ | heartbeat hp _ =>
            rw [hreq] at hp
            cases hp
      · exact .inl ⟨⟨node, hnode, hsig⟩, row, hfound⟩
  · rw [own_cons_of_ne hi] at h
    exact .inl h

/-- Of two requests that found the same challenge and could both use it, the delete of one
failed. -/
theorem consumeFailed_of_entitled
    (hr : (machine S).Reach (OneAtATime S) (start rows users clock) cfg) :
    ∀ r₁ r₂ payload₁ payload₂, r₁ ≠ r₂ → S.requests r₁ = .verifyAuthChallenge payload₁ →
      S.requests r₂ = .verifyAuthChallenge payload₂ → payload₁.nodeId = payload₂.nodeId →
      payload₁.text = payload₂.text → Entitled S payload₁ (own (.request r₁) cfg.world.trace) →
      Entitled S payload₂ (own (.request r₂) cfg.world.trace) →
      ConsumeFailed payload₁ (own (.request r₁) cfg.world.trace) ∨
        ConsumeFailed payload₂ (own (.request r₂) cfg.world.trace) := by
  refine server_inv (fun w => ∀ r₁ r₂ payload₁ payload₂, r₁ ≠ r₂ →
      S.requests r₁ = .verifyAuthChallenge payload₁ →
      S.requests r₂ = .verifyAuthChallenge payload₂ → payload₁.nodeId = payload₂.nodeId →
      payload₁.text = payload₂.text → Entitled S payload₁ (own (.request r₁) w.trace) →
      Entitled S payload₂ (own (.request r₂) w.trace) →
      ConsumeFailed payload₁ (own (.request r₁) w.trace) ∨
        ConsumeFailed payload₂ (own (.request r₂) w.trace)) ?_ ?_ hr
  · rintro r₁ r₂ payload₁ payload₂ - - - - - ⟨-, row, hmem⟩
    cases hmem
  · intro cfg i c o res s hr hI hmay hA hexec r₁ r₂ payload₁ payload₂ hne hreq₁ hreq₂ hn ht h₁ h₂
    rw [World.push_trace] at h₁ h₂ ⊢
    have hsuf (r : Nat) := own_suffix_cons (.request r) ⟨i, c, res⟩ cfg.world.trace
    rcases entitled_cons hmay hreq₁ h₁ with h₁ | ⟨hi₁, hs₁, row₁, heq₁⟩ <;>
      rcases entitled_cons hmay hreq₂ h₂ with h₂ | ⟨hi₂, hs₂, row₂, heq₂⟩
    · rcases hI r₁ r₂ payload₁ payload₂ hne hreq₁ hreq₂ hn ht h₁ h₂ with hf | hf
      · exact .inl (hf.mono (hsuf r₁))
      · exact .inr (hf.mono (hsuf r₂))
    · have hf := consumeFailed_of_found hr hA hexec hi₂ hne hreq₁ hreq₂ hn ht h₁ hs₂ heq₂
      exact .inl (hf.mono (hsuf r₁))
    · have hf := consumeFailed_of_found hr hA hexec hi₁ hne.symm hreq₂ hreq₁ hn.symm ht.symm h₂ hs₁
        heq₁
      exact .inr (hf.mono (hsuf r₂))
    · rw [hi₁] at hi₂
      cases hi₂
      exact absurd rfl hne

/-- A request that issued a token had deleted its challenge. -/
theorem not_consumeFailed_of_issued (hr : (machine S).Reach A (start rows users clock) cfg) :
    ∀ r payload claims res, S.requests r = .verifyAuthChallenge payload →
      (⟨.encodeNodeJwt claims, res⟩ : Sigma Resp) ∈ own (.request r) cfg.world.trace →
      ¬ ConsumeFailed payload (own (.request r) cfg.world.trace) ∧
        Entitled S payload (own (.request r) cfg.world.trace) := by
  refine server_inv (fun w => ∀ r payload claims res, S.requests r = .verifyAuthChallenge payload →
      (⟨.encodeNodeJwt claims, res⟩ : Sigma Resp) ∈ own (.request r) w.trace →
      ¬ ConsumeFailed payload (own (.request r) w.trace) ∧
        Entitled S payload (own (.request r) w.trace)) ?_ ?_ hr
  · intro r payload claims res _ hmem
    cases hmem
  · intro cfg i c o res s _ hI hmay _ _ r payload claims res' hreq hmem
    rw [World.push_trace] at hmem ⊢
    by_cases hi : i = .request r
    · subst hi
      rw [own_cons_self] at hmem ⊢
      rcases List.mem_cons.1 hmem with heq | hmem
      · cases heq
        obtain ⟨r', payload', node, row, now, iat, heq, hreq', hown, -, -, -, hsig⟩ := hmay.encode
        cases heq
        rw [hreq] at hreq'
        cases hreq'
        rw [hown]
        refine ⟨?_, ⟨node, by simp, hsig⟩, row, by simp⟩
        rintro ⟨err, hmem⟩
        simp at hmem
      · obtain ⟨hok, hent⟩ := hI r payload claims res' hreq hmem
        refine ⟨?_, hent.mono (List.suffix_cons _ _)⟩
        rintro ⟨err, hfail⟩
        rcases List.mem_cons.1 hfail with heq | hfail
        · cases heq
          obtain ⟨r', payload', node, row, heq, -, -, -, hown⟩ := hmay.consume
          rw [hown] at hmem
          simp at hmem
        · exact hok ⟨err, hfail⟩
    · rw [own_cons_of_ne hi] at hmem ⊢
      exact hI r payload claims res' hreq hmem

/-- What an issuing event is. -/
theorem issuedFor_iff {n : Uuid} {challenge : String} {e : Ev Tid Resp} :
    issuedFor S n challenge e = true ↔ ∃ r payload claims token,
      e = ⟨.request r, .encodeNodeJwt claims, .ok token⟩ ∧
      S.requests r = .verifyAuthChallenge payload ∧ payload.nodeId = n ∧
      payload.text = challenge := by
  constructor
  · intro h
    unfold issuedFor at h
    split at h
    · next r claims token =>
        split at h
        · next payload hreq =>
            rw [Bool.and_eq_true, beq_iff_eq, beq_iff_eq] at h
            exact ⟨r, payload, claims, token, rfl, hreq, h.1, h.2⟩
        · cases h
    · cases h
  · rintro ⟨r, payload, claims, token, rfl, hreq, rfl, rfl⟩
    simp [issuedFor, hreq]

/-- **One token per challenge.**  In every run in which no two requests with valid signatures
hold a challenge at once, a challenge leads to at most one issued node token. -/
theorem challenge_one_time (n : Uuid) (challenge : String)
    (hr : (machine S).Reach (OneAtATime S) (start rows users clock) cfg) :
    cfg.world.trace.countP (issuedFor S n challenge) ≤ 1 := by
  refine server_inv (fun w => w.trace.countP (issuedFor S n challenge) ≤ 1) (Nat.zero_le 1) ?_ hr
  intro cfg i c o res s hr hI hmay _ _
  rw [World.push_trace, List.countP_cons]
  by_cases hissue : issuedFor S n challenge ⟨i, c, res⟩ = true
  · -- a second event: by another request, or by the same one
    rw [if_pos hissue]
    suffices hnone : cfg.world.trace.countP (issuedFor S n challenge) = 0 by omega
    rw [List.countP_eq_zero]
    intro e hmem he
    obtain ⟨r₂, payload₂, claims₂, token₂, heq, hreq₂, hn₂, ht₂⟩ := issuedFor_iff.1 hissue
    obtain ⟨r₁, payload₁, claims₁, token₁, rfl, hreq₁, hn₁, ht₁⟩ := issuedFor_iff.1 he
    cases heq
    rw [← mem_own] at hmem
    obtain ⟨hok₁, hent₁⟩ := not_consumeFailed_of_issued hr r₁ payload₁ _ _ hreq₁ hmem
    obtain ⟨r, payload, node, row, now, iat, heq, hreq, hown, -, -, -, hsig⟩ := hmay.encode
    cases heq
    rw [hreq] at hreq₂
    cases hreq₂
    by_cases hsame : r₁ = r₂
    · subst hsame
      rw [hown] at hmem
      simp at hmem
    · have hent₂ : Entitled S payload₂ (own (.request r₂) cfg.world.trace) := by
        rw [hown]
        exact ⟨⟨node, by simp, hsig⟩, row, by simp⟩
      rcases consumeFailed_of_entitled hr r₁ r₂ payload₁ payload₂ hsame hreq₁ hreq
        (hn₁.trans hn₂.symm) (ht₁.trans ht₂.symm) hent₁ hent₂ with hf | ⟨err, hf⟩
      · exact hok₁ hf
      · rw [hown] at hf
        simp at hf
  · rw [if_neg hissue]
    exact hI

end OneTime

/-! ## A login, and a replay -/

/-- Whether a generated challenge is a new one. -/
def unrepeated (w : World State Tid Resp) (_ : Tid) : (c : Cmd) → Resp c → Bool
  | .generateChallenge, challenge => w.trace.all fun
      | ⟨_, .generateChallenge, old⟩ => old != challenge
      | _ => true
  | _, _ => true

theorem unrepeated_sound (w : World State Tid Resp) (i : Tid) (c : Cmd) (r : Resp c)
    (h : unrepeated w i c r = true) : ChallengesDistinct w i c r := by
  intro challenge heq j hmem
  cases heq
  have hne := List.all_eq_true.1 h _ hmem
  simp at hne

/-- The command looks a challenge up. -/
def Cmd.looksUp : Cmd → Bool
  | .db (.getAuthChallenge _ _) => true
  | _ => false

/-- Whether, besides, no challenge is looked up twice. -/
def undisturbed (w : World State Tid Resp) (i : Tid) (c : Cmd) (r : Resp c) : Bool :=
  unrepeated w i c r && !(c.looksUp && w.trace.any fun e => e.cmd.looksUp)

theorem undisturbed_sound (S : Setup) (w : World State Tid Resp) (i : Tid) (c : Cmd) (r : Resp c)
    (h : undisturbed w i c r = true) : OneAtATime S w i c r := by
  rw [undisturbed, Bool.and_eq_true, Bool.not_eq_true', Bool.and_eq_false_imp] at h
  refine ⟨unrepeated_sound w i c r h.1, ?_⟩
  rintro r₁ r₂ payload₁ payload₂ row - - - - - - - - heq ⟨row₁, h', hown⟩
  cases heq
  have hmem : (⟨.db (.getAuthChallenge payload₁.nodeId payload₁.text), .ok (some row₁)⟩ : Sigma Resp)
      ∈ own (.request r₁) w.trace := by
    rw [hown]
    exact List.mem_cons_self
  have hnone := List.any_eq_false.1 (h.2 rfl) _ (mem_own.1 hmem)
  exact hnone rfl

theorem challenge_one_time_of_login :
    ∃ cfg, (machine (sample loginRequests)).Reach (OneAtATime (sample loginRequests))
        sampleStart cfg ∧
      cfg.world.trace.countP (issuedFor (sample loginRequests) 10 sampleChallenge) = 1 := by
  have hrun : ((machine (sample loginRequests)).run undisturbed loginSchedule sampleStart).any
      (fun cfg => decide
        (1 ≤ cfg.world.trace.countP (issuedFor (sample loginRequests) 10 sampleChallenge)))
      = true := by
    decide +kernel
  obtain ⟨cfg, hr, hcount⟩ := Machine.reach_of_run (undisturbed_sound _) hrun
  exact ⟨cfg, hr, le_antisymm (challenge_one_time 10 sampleChallenge hr) (of_decide_eq_true hcount)⟩

/-- Two requests carry the same answer; both read the challenge, then both delete it. -/
def replaySchedule : List (Tid × Choice) :=
  idle (.request 0) 1 ++ [(.request 0, { random := sampleRandom })] ++ idle (.request 0) 4 ++
    idle (.request 1) 3 ++ idle (.request 2) 3 ++ idle (.request 1) 5 ++ idle (.request 2) 5

/-- **A replay.**  Without that condition one challenge leads to two tokens. -/
theorem replay_issues_twice :
    ¬ ∀ cfg, (machine (sample loginRequests)).Reach ChallengesDistinct sampleStart cfg →
      cfg.world.trace.countP (issuedFor (sample loginRequests) 10 sampleChallenge) ≤ 1 := by
  have hrun : ((machine (sample loginRequests)).run unrepeated replaySchedule sampleStart).any
      (fun cfg => decide
        (2 ≤ cfg.world.trace.countP (issuedFor (sample loginRequests) 10 sampleChallenge)))
      = true := by
    decide +kernel
  obtain ⟨cfg, hr, hcount⟩ := Machine.reach_of_run unrepeated_sound hrun
  intro hall
  exact absurd (hall cfg hr) (Nat.not_le.2 (of_decide_eq_true hcount))

end Phirepass.Server
