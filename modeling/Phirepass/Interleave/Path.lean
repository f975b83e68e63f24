/-
# `Interleave.Path` — what a thread has done, as a path through its code

`Prog.Does p h a h'` says that the program `p`, started with own history `h`,
has returned `a` with own history `h'`, whatever the answers were.  A thread
only ever does what its code does (`conforms_does`), and what every command
of a program keeps holds at its end (`Conforms.along`).  The histories are
the thread's own, so other threads do not come in.

The shared state is a function of the trace where each command's effect on it
is (`Machine.Reach.replay`).
-/
import Phirepass.Interleave.Pool

namespace Interleave

namespace Prog

variable {C : Type} {R : C → Type} {α β : Type}

/-- From the own history `h` the program comes to return `a` with the own history `h'`. -/
inductive Does : Prog C R α → Hist R → α → Hist R → Prop
  | ret (a : α) (h : Hist R) : Does (.ret a) h a h
  | op {c : C} {k : R c → Prog C R α} {h h' : Hist R} {a : α} (r : R c)
      (hrest : Does (k r) (⟨c, r⟩ :: h) a h') : Does (.op c k) h a h'

variable {a b : α} {h h' : Hist R} {p : Prog C R α} {may may' : Hist R → C → Prop}
  {Q Q' : α → Hist R → Prop}

@[simp] theorem does_ret : (.ret b : Prog C R α).Does h a h' ↔ a = b ∧ h' = h := by
  constructor
  · intro hd
    cases hd
    exact ⟨rfl, rfl⟩
  · rintro ⟨rfl, rfl⟩
    exact .ret _ _

/-- A program that was gone through kept its rules, and ends as they say. -/
theorem Does.post (hd : p.Does h a h') (hp : p.Conforms (Issues may) Q h) : Q a h' := by
  induction hd with
  | ret a h => exact hp
  | op r _ ih => exact ih (hp.2 r trivial)

/-- **A thread does what its code does.** -/
theorem conforms_does : ∀ {p : Prog C R α} {h : Hist R},
    p.Conforms (Issues fun _ _ => True) (fun a h' => p.Does h a h') h
  | .ret a, _ => .ret a _
  | .op _ k, _ => ⟨trivial, fun r _ => (conforms_does (p := k r)).mono fun _ _ hd => .op r hd⟩

/-- Two judgements on one program. -/
theorem Conforms.and : ∀ {p : Prog C R α} {h : Hist R}, p.Conforms (Issues may) Q h →
    p.Conforms (Issues may') Q' h →
    p.Conforms (Issues fun h c => may h c ∧ may' h c) (fun a h' => Q a h' ∧ Q' a h') h
  | .ret _, _, hp, hp' => ⟨hp, hp'⟩
  | .op _ _, _, ⟨hmay, hk⟩, ⟨hmay', hk'⟩ =>
      ⟨⟨hmay, hmay'⟩, fun r hr => (hk r hr).and (hk' r hr)⟩

/-- A judgement together with the program's own path. -/
theorem Conforms.does (hp : p.Conforms (Issues may) Q h) :
    p.Conforms (Issues may) (fun a h' => Q a h' ∧ p.Does h a h') h :=
  conforms_weaken (fun _ _ hmay => hmay.1) (hp.and conforms_does)

/-- What every allowed command keeps holds in front of each command and at the end. -/
theorem Conforms.along {I : Hist R → Prop} (hI : ∀ h c r, may h c → I h → I (⟨c, r⟩ :: h)) :
    ∀ {p : Prog C R α} {h : Hist R}, p.Conforms (Issues may) Q h → I h →
      p.Conforms (Issues fun h c => may h c ∧ I h) (fun a h' => Q a h' ∧ I h') h
  | .ret _, _, hp, h0 => ⟨hp, h0⟩
  | .op c _, h, ⟨hmay, hk⟩, h0 =>
      ⟨⟨hmay, h0⟩, fun r hr => (hk r hr).along hI (hI h c r hmay h0)⟩

/-- What a longer history keeps holds along any program. -/
theorem conforms_keeps {I : Hist R → Prop} (hI : ∀ e h, I h → I (e :: h)) (h0 : I h) :
    p.Conforms (Issues fun h _ => I h) (fun _ => I) h :=
  conforms_weaken (fun _ _ hc => hc.2) (((conforms_any (Q := fun _ _ => True)
    fun _ _ => trivial).along (fun h c r _ => hI ⟨c, r⟩ h) h0).mono fun _ _ hpost => hpost.2)

/-- A program only adds to its history, whatever its rules. -/
theorem conforms_suffix : p.Conforms (Issues fun _ _ => True) (fun _ h' => h <:+ h') h :=
  (conforms_does.suffix).mono fun _ _ hpost => hpost.2

end Prog

variable {σ ι ω C L β : Type} {R : C → Type} [DecidableEq ι] {M : Machine σ ι ω R L}
  {A : World σ ι R → ι → (c : C) → R c → Prop} {init cfg : Config σ ι R L}

/-- **Replay.**  A part of the state that each command changes in its own way is what the
commands of the trace make of it. -/
theorem Machine.Reach.replay (part : σ → β) (after : (c : C) → β → β)
    (hstep : ∀ i c o s r s', M.exec i c o s = some (r, s') → part s' = after c (part s))
    (h0 : init.world.trace = []) (h : M.Reach A init cfg) :
    part cfg.world.state =
      cfg.world.trace.foldr (fun e m => after e.cmd m) (part init.world.state) := by
  induction h with
  | refl => rw [h0, List.foldr_nil]
  | tail _ hs ih =>
      cases hs with
      | turn hl => exact ih
      | act hop hexec hAi =>
          rw [World.push_trace, List.foldr_cons, ← ih]
          exact hstep _ _ _ _ _ _ hexec

/-- A run can be continued. -/
theorem Machine.Reach.trans {cfg' : Config σ ι R L} (h : M.Reach A init cfg)
    (h' : M.Reach A cfg cfg') : M.Reach A init cfg' := by
  induction h' with
  | refl => exact h
  | tail _ hs ih => exact ih.tail hs

/-- It only adds to the trace. -/
theorem Machine.Reach.trace_suffix (h : M.Reach A init cfg) :
    init.world.trace <:+ cfg.world.trace := by
  induction h with
  | refl => exact List.suffix_rfl
  | tail _ hs ih =>
      cases hs with
      | turn hl => exact ih
      | act hop hexec hAi => exact ih.trans (List.suffix_cons _ _)

/-- What was executed met the restriction, in a world with the same past. -/
theorem Machine.Reach.allowed (h : M.Reach A init cfg) (h0 : init.world.trace = []) {e : Ev ι R}
    {past : List (Ev ι R)} (hs : e :: past <:+ cfg.world.trace) :
    ∃ w, w.trace = past ∧ A w e.tid e.cmd e.resp := by
  induction h with
  | refl =>
      rw [h0] at hs
      exact absurd (List.suffix_nil.1 hs) (List.cons_ne_nil _ _)
  | tail _ hstep ih =>
      cases hstep with
      | turn hl => exact ih hs
      | act hop hexec hAi =>
          rw [World.push_trace, List.suffix_cons_iff] at hs
          rcases hs with heq | hs
          · cases heq
            exact ⟨_, rfl, hAi⟩
          · exact ih hs

end Interleave
