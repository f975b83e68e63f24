/-
# `Interleave.Reactive` — programs that handle one event at a time

A page in a browser has one thread.  An event comes, its handler runs to the
end and puts something out, and the next event comes; so a run is the list of
its events, and nothing interleaves.

    inv         what the start satisfies and every handler keeps
    tracks      the same of a state and the events that led to it
    simulate    two runs on events that correspond, from states that
                correspond, look alike, event by event
    Last        the last event of a kind that depends on the state

`simulate` is how one says that something is not given away: two runs that
differ in the secret alone look alike.
-/
import Mathlib.Data.List.Induction

namespace Interleave

/-- Handlers of events `ε` on a state `σ` that put out `ο`. -/
structure Reactive (σ ε ο : Type) where
  handle : σ → ε → σ × List ο

namespace Reactive

variable {σ ε ο : Type} (M : Reactive σ ε ο)

/-- The state after some events. -/
def after (s : σ) (evs : List ε) : σ := evs.foldl (fun s e => (M.handle s e).1) s

/-- What is put out, event by event. -/
def outputs : σ → List ε → List (List ο)
  | _, [] => []
  | s, e :: evs => (M.handle s e).2 :: outputs (M.handle s e).1 evs

section Runs

variable {M} {s : σ} {e : ε} {evs evs' : List ε}

@[simp] theorem after_nil : M.after s [] = s := rfl

@[simp] theorem after_cons : M.after s (e :: evs) = M.after (M.handle s e).1 evs := rfl

theorem after_append : M.after s (evs ++ evs') = M.after (M.after s evs) evs' :=
  List.foldl_append

theorem after_concat : M.after s (evs ++ [e]) = (M.handle (M.after s evs) e).1 := after_append

/-- **Invariants.** -/
theorem inv (I : σ → Prop) (h0 : I s) (hstep : ∀ s e, I s → I (M.handle s e).1) :
    I (M.after s evs) := by
  induction evs generalizing s with
  | nil => exact h0
  | cons e evs ih => exact ih (hstep s e h0)

/-- **Invariants of a state and its past.** -/
theorem tracks (I : List ε → σ → Prop) (h0 : I [] s)
    (hstep : ∀ evs e, I evs (M.after s evs) → I (evs ++ [e]) (M.handle (M.after s evs) e).1) :
    I evs (M.after s evs) := by
  induction evs using List.reverseRecOn with
  | nil => exact h0
  | append_singleton evs e ih =>
      rw [after_concat]
      exact hstep evs e ih

end Runs

/-! ## Two runs -/

/-- The events of two runs correspond, each where the first run stands. -/
inductive Similar (E : σ → ε → ε → Prop) : σ → List ε → List ε → Prop
  | nil {s : σ} : Similar E s [] []
  | cons {s : σ} {e e' : ε} {evs evs' : List ε} (he : E s e e')
      (h : Similar E (M.handle s e).1 evs evs') : Similar E s (e :: evs) (e' :: evs')

variable {M} {ω : Type}

/-- **Two runs on events that correspond look alike** to whoever sees the outputs through
`view`. -/
theorem simulate {E : σ → ε → ε → Prop} {Q : σ → σ → Prop} {view : ο → ω}
    (hstep : ∀ s s' e e', Q s s' → E s e e' →
      Q (M.handle s e).1 (M.handle s' e').1 ∧
        (M.handle s e).2.map view = (M.handle s' e').2.map view)
    {s s' : σ} {evs evs' : List ε} (h : M.Similar E s evs evs') (hs : Q s s') :
    (M.outputs s evs).map (·.map view) = (M.outputs s' evs').map (·.map view) := by
  induction h generalizing s' with
  | nil => rfl
  | cons he _ ih =>
      obtain ⟨hstate, hsaid⟩ := hstep _ _ _ _ hs he
      simp only [outputs, List.map_cons, hsaid, ih hstate]

/-! ## The last event of a kind -/

/-- `e` is the last of the events that `sel` picks where the run stands. -/
structure Last (M : Reactive σ ε ο) (sel : σ → ε → Prop) (s : σ) (evs pre : List ε) (e : ε)
    (post : List ε) : Prop where
  split : evs = pre ++ e :: post
  picked : sel (M.after s pre) e
  later : ∀ post₁ e' post₂, post = post₁ ++ e' :: post₂ →
    ¬ sel (M.after s (pre ++ e :: post₁)) e'

section Last

variable {sel : σ → ε → Prop} {s : σ} {evs pre post : List ε} {e e' : ε}

/-- An event that is picked is the last one so far. -/
theorem Last.self (h : sel (M.after s evs) e) : M.Last sel s (evs ++ [e]) evs e [] :=
  ⟨rfl, h, fun post₁ e' post₂ hnil => by simp at hnil⟩

/-- An event that is not picked changes nothing. -/
theorem Last.concat (h : M.Last sel s evs pre e post) (hnot : ¬ sel (M.after s evs) e') :
    M.Last sel s (evs ++ [e']) pre e (post ++ [e']) := by
  refine ⟨by simp [h.split], h.picked, fun post₁ e'' post₂ hsplit => ?_⟩
  rcases List.eq_nil_or_concat post₂ with rfl | ⟨post₃, last, rfl⟩
  · obtain ⟨rfl, heq⟩ := List.append_inj' hsplit rfl
    cases heq
    rw [← h.split]
    exact hnot
  · rw [List.concat_eq_append, ← List.cons_append, ← List.append_assoc] at hsplit
    exact h.later post₁ e'' post₃ (List.append_inj' hsplit rfl).1

end Last

end Reactive

end Interleave
