/-
# `Interleave.Answers` — what is given answers what was taken

A stage that translates its elements and may drop some does not relay
(`Interleave.Stream`), but it can still answer:

    every element it gives is related to one it took,
    a later one to a later one, and none to two

which is `List.SublistForall₂` of the two streams.  `Answers` says so of a
stage with elements in hand, and what one step does with the hand is `Spends`:

    take      it takes an element and has it in hand; what it had, it drops
    answer    it gives an element for the one in hand
    drop      it drops what it has in hand
    idle      nothing

Answers compose (`answers_trans`), so the stages of a pipeline chain, and
readings of both ends keep them (`answers_filterMap`).
-/
import Phirepass.Interleave.Stream
import Mathlib.Data.List.Forall2

namespace Interleave

open List (SublistForall₂)

variable {ι C α β γ δ : Type} {R : C → Type}

/-! ## Answers -/

section Lists

variable {Q : γ → β → Prop}

theorem answers_cons_right {l₁ : List γ} {l₂ l₂' : List β} (hs : l₂.Sublist l₂')
    (h : SublistForall₂ Q l₁ l₂) : SublistForall₂ Q l₁ l₂' := by
  obtain ⟨l, hl, hsub⟩ := List.sublistForall₂_iff.1 h
  exact List.sublistForall₂_iff.2 ⟨l, hl, hsub.trans hs⟩

/-- What answers in two parts answers as a whole. -/
theorem answers_append {l₁ l₁' : List γ} {l₂ l₂' : List β} (h : SublistForall₂ Q l₁ l₂)
    (h' : SublistForall₂ Q l₁' l₂') : SublistForall₂ Q (l₁ ++ l₁') (l₂ ++ l₂') := by
  obtain ⟨l, hl, hsub⟩ := List.sublistForall₂_iff.1 h
  obtain ⟨l', hl', hsub'⟩ := List.sublistForall₂_iff.1 h'
  exact List.sublistForall₂_iff.2 ⟨l ++ l', List.rel_append hl hl', hsub.append hsub'⟩

/-- **Answers compose.** -/
theorem answers_trans {P : β → α → Prop} {l₁ : List γ} {l₂ : List β} {l₃ : List α}
    (h : SublistForall₂ Q l₁ l₂) (h' : SublistForall₂ P l₂ l₃) :
    SublistForall₂ (fun g a => ∃ b, Q g b ∧ P b a) l₁ l₃ := by
  induction h' generalizing l₁ with
  | nil =>
      cases h
      exact .nil
  | cons hba _ ih =>
      cases h with
      | nil => exact .nil
      | cons hgb h => exact .cons ⟨_, hgb, hba⟩ (ih h)
      | cons_right h => exact .cons_right (ih h)
  | cons_right _ ih => exact .cons_right (ih h)

/-- **Readings of both ends** that follow each other keep the answers. -/
theorem answers_filterMap {P : δ → α → Prop} {p : γ → Option δ} {q : β → Option α}
    (hpq : ∀ g b d, Q g b → p g = some d → ∃ a, q b = some a ∧ P d a)
    {l₁ : List γ} {l₂ : List β} (h : SublistForall₂ Q l₁ l₂) :
    SublistForall₂ P (l₁.filterMap p) (l₂.filterMap q) := by
  induction h with
  | nil => exact .nil
  | cons hgb _ ih =>
      rename_i g b l₁ l₂ _
      cases hg : p g with
      | none =>
          rw [List.filterMap_cons_none hg]
          refine answers_cons_right ?_ ih
          rw [List.filterMap_cons]
          split
          · exact List.Sublist.refl _
          · exact List.sublist_cons_self _ _
      | some d =>
          obtain ⟨a, hb, hda⟩ := hpq g b d hgb hg
          rw [List.filterMap_cons_some hg, List.filterMap_cons_some hb]
          exact .cons hda ih
  | cons_right _ ih =>
      refine answers_cons_right ?_ ih
      rw [List.filterMap_cons]
      split
      · exact List.Sublist.refl _
      · exact List.sublist_cons_self _ _

/-- Weaker answers. -/
theorem answers_imp {P : γ → β → Prop} (himp : ∀ g b, Q g b → P g b) {l₁ : List γ}
    {l₂ : List β} (h : SublistForall₂ Q l₁ l₂) : SublistForall₂ P l₁ l₂ := by
  have hall := answers_filterMap (P := P) (p := some) (q := some)
    (fun g b d hgb hd => ⟨b, rfl, by cases hd; exact himp g b hgb⟩) h
  rwa [List.filterMap_some, List.filterMap_some] at hall

/-- Fewer answers, still in order. -/
theorem answers_of_sublist {l l' : List γ} {l₂ : List β} (hs : l.Sublist l')
    (h : SublistForall₂ Q l' l₂) : SublistForall₂ Q l l₂ := by
  have heq : SublistForall₂ Eq l l' := hs.sublistForall₂
  exact answers_imp (fun _ _ ⟨_, hgg, hrel⟩ => hgg ▸ hrel) (answers_trans heq h)

/-- What is answered by itself is passed on. -/
theorem sublist_of_answers {l l' : List β} (h : SublistForall₂ Eq l l') : l.Sublist l' := by
  obtain ⟨l'', hl, hsub⟩ := List.sublistForall₂_iff.1 h
  rw [List.forall₂_eq_eq_eq] at hl
  exact hl ▸ hsub

end Lists

/-- What is taken in at every event is taken in of all. -/
theorem stream_sublist {f g : List (Ev ι R) → Ev ι R → List β} {tr : List (Ev ι R)}
    (h : ∀ e past, e :: past <:+ tr → (f past e).Sublist (g past e)) :
    (stream f tr).Sublist (stream g tr) := by
  induction tr with
  | nil => exact List.nil_sublist _
  | cons e tr ih =>
      rw [stream_cons, stream_cons]
      exact (ih fun e' past hs => h e' past (hs.trans (List.suffix_cons _ _))).append
        (h e tr List.suffix_rfl)

/-- A relation holds between what was said before and what is said after, if it does across any two
events, and no event says two things. -/
theorem pairwise_stream {f : List (Ev ι R) → Ev ι R → List β} {ρ : β → β → Prop}
    {tr : List (Ev ι R)} (hone : ∀ past e, (f past e).Pairwise ρ)
    (h : ∀ e past, e :: past <:+ tr → ∀ b' ∈ f past e, ∀ e' past', e' :: past' <:+ past →
      ∀ b ∈ f past' e', ρ b b') : (stream f tr).Pairwise ρ := by
  induction tr with
  | nil => exact .nil
  | cons e tr ih =>
      rw [stream_cons]
      have hbefore := ih fun e' past hs => h e' past (hs.trans (List.suffix_cons _ _))
      refine List.pairwise_append.2 ⟨hbefore, hone tr e, fun b hb b' hb' => ?_⟩
      obtain ⟨e', past', hs', hb⟩ := mem_stream.1 hb
      exact h e tr List.suffix_rfl b' hb' e' past' hs' b hb

/-! ## Stages -/

/-- What a stage has given answers what it has taken, but for what it has in hand. -/
def Answers (Q : γ → β → Prop) (taken : List β) (given : List γ) (hand : List β) : Prop :=
  ∃ done, taken = done ++ hand ∧ SublistForall₂ Q given done

/-- One step of a stage: what it had in hand and took is used up, in order, or in hand now, and
what it gave answers what was used up. -/
def Spends (Q : γ → β → Prop) (hand hand' took : List β) (gave : List γ) : Prop :=
  ∃ used, hand ++ took = used ++ hand' ∧ SublistForall₂ Q gave used

section Stage

variable {Q : γ → β → Prop} {taken hand hand' took : List β} {given gave : List γ} {b : β} {g : γ}

theorem Spends.idle : Spends Q hand hand [] [] := ⟨[], List.append_nil _, .nil⟩

theorem Spends.take : Spends Q hand took took [] := ⟨hand, rfl, .nil⟩

theorem Spends.drop : Spends Q hand [] [] [] := ⟨hand, rfl, .nil⟩

theorem Spends.answer (h : Q g b) : Spends Q [b] [] [] [g] := ⟨[b], rfl, .cons h .nil⟩

/-- It may keep nothing. -/
theorem Spends.pass (h : SublistForall₂ Q gave took) : Spends Q hand [] took gave :=
  ⟨hand ++ took, (List.append_nil _).symm,
    answers_cons_right (List.sublist_append_right _ _) h⟩

theorem Answers.start : Answers Q [] [] [] := ⟨[], rfl, .nil⟩

theorem Answers.step (h : Answers Q taken given hand) (hstep : Spends Q hand hand' took gave) :
    Answers Q (taken ++ took) (given ++ gave) hand' := by
  obtain ⟨done, rfl, hdone⟩ := h
  obtain ⟨used, hused, hgave⟩ := hstep
  refine ⟨done ++ used, ?_, answers_append hdone hgave⟩
  rw [List.append_assoc, hused, List.append_assoc]

/-- **What is given answers what was taken.** -/
theorem Answers.chosen (h : Answers Q taken given hand) : SublistForall₂ Q given taken := by
  obtain ⟨done, rfl, hdone⟩ := h
  exact answers_cons_right (List.sublist_append_left _ _) hdone

variable {σ ω L : Type} [DecidableEq ι] {M : Machine σ ι ω R L}
  {A : World σ ι R → ι → (c : C) → R c → Prop} {init cfg : Config σ ι R L} {ρ : ι → Rules R}
  {At : ι → L → Hist R → Prop}

/-- **A stage of a machine** answers in every world a run reaches, if every command that obeys
its rules does with the hand what it may. -/
theorem Machine.Reach.answers (hM : M.Follows ρ At init)
    (hA : ∀ w i c r, A w i c r → (ρ i).hears (own i w.trace) c r)
    (taken : List (Ev ι R) → Ev ι R → List β) (given : List (Ev ι R) → Ev ι R → List γ)
    (hand : World σ ι R → List β) (h0 : init.world.trace = []) (hhand : hand init.world = [])
    (hstep : ∀ (cfg : Config σ ι R L) (i : ι) (c : C) (o : ω) (r : R c) (s : σ),
      M.Reach A init cfg → (ρ i).may (own i cfg.world.trace) c → A cfg.world i c r →
      M.exec i c o cfg.world.state = some (r, s) →
      Spends Q (hand cfg.world) (hand (cfg.world.push i c r s))
        (taken cfg.world.trace ⟨i, c, r⟩) (given cfg.world.trace ⟨i, c, r⟩))
    (h : M.Reach A init cfg) :
    Answers Q (stream taken cfg.world.trace) (stream given cfg.world.trace)
      (hand cfg.world) := by
  refine h.inv hM hA (fun w => Answers Q (stream taken w.trace) (stream given w.trace) (hand w))
    ?_ ?_
  · rw [h0, hhand]
    exact .start
  · intro cfg i c o r s hr hI hmay hAi hexec
    rw [World.push_trace, stream_cons, stream_cons]
    exact hI.step (hstep cfg i c o r s hr hmay hAi hexec)

end Stage

end Interleave
