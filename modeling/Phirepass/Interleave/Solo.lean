/-
# `Interleave.Solo` — one thread while the others stand still

`Prog.Runs` is the sequential meaning of a program: from a state, under some
choices of the environment, to a value and a state.  `Machine.Alone` puts the
bodies of a thread's labels one after the other.  Both are about a state in
isolation; `reach_of_alone` says that they are runs of the machine in which
only that thread is scheduled.
-/
import Phirepass.Interleave.Pool

namespace Interleave

variable {σ ι ω C L α β : Type} {R : C → Type}

namespace Prog

/-- Run alone from `s`, the program ends in `s'` with the value `a`. -/
inductive Runs (exec : (c : C) → ω → σ → Option (R c × σ)) : Prog C R α → σ → α → σ → Prop
  | ret (a : α) (s : σ) : Runs exec (.ret a) s a s
  | op {c : C} {k : R c → Prog C R α} {o : ω} {s s₁ s' : σ} {r : R c} {a : α}
      (hexec : exec c o s = some (r, s₁)) (hrest : Runs exec (k r) s₁ a s') :
      Runs exec (.op c k) s a s'

variable {exec : (c : C) → ω → σ → Option (R c × σ)} {s s' : σ} {a a' : α} {b : β}
  {P : α → σ → Prop}

@[simp] theorem runs_ret : (.ret a : Prog C R α).Runs exec s a' s' ↔ a' = a ∧ s' = s := by
  constructor
  · intro h
    cases h
    exact ⟨rfl, rfl⟩
  · rintro ⟨rfl, rfl⟩
    exact .ret _ _

theorem runs_op {c : C} {k : R c → Prog C R α} :
    (Prog.op c k).Runs exec s a s' ↔
      ∃ o r s₁, exec c o s = some (r, s₁) ∧ (k r).Runs exec s₁ a s' := by
  constructor
  · intro h
    cases h with
    | op hexec hrest => exact ⟨_, _, _, hexec, hrest⟩
  · rintro ⟨o, r, s₁, hexec, hrest⟩
    exact .op hexec hrest

/-- One command, and what follows it. -/
theorem runs_perform {c : C} {f : R c → Prog C R α} :
    (perform c >>= f).Runs exec s a s' ↔
      ∃ o r s₁, exec c o s = some (r, s₁) ∧ (f r).Runs exec s₁ a s' := runs_op

/-- A command that can be executed, and a run of what follows it. -/
theorem exists_runs {c : C} {o : ω} {r : R c} {s₁ : σ} {f : R c → Prog C R α}
    (hexec : exec c o s = some (r, s₁)) (h : ∃ a s', (f r).Runs exec s₁ a s' ∧ P a s') :
    ∃ a s', (perform c >>= f).Runs exec s a s' ∧ P a s' := by
  obtain ⟨a, s', hrest, hP⟩ := h
  exact ⟨a, s', .op hexec hrest, hP⟩

/-- Sequencing. -/
theorem runs_bind {f : α → Prog C R β} :
    ∀ {p : Prog C R α} {s : σ},
      (p >>= f).Runs exec s b s' ↔ ∃ a s₁, p.Runs exec s a s₁ ∧ (f a).Runs exec s₁ b s'
  | .ret a, s => by simp
  | .op c k, s => by
      rw [op_bind, runs_op]
      simp only [runs_op]
      constructor
      · rintro ⟨o, r, s₁, hexec, hrest⟩
        obtain ⟨a, s₂, hk, hf⟩ := runs_bind.1 hrest
        exact ⟨a, s₂, ⟨o, r, s₁, hexec, hk⟩, hf⟩
      · rintro ⟨a, s₂, ⟨o, r, s₁, hexec, hk⟩, hf⟩
        exact ⟨o, r, s₁, hexec, runs_bind.2 ⟨a, s₂, hk, hf⟩⟩

/-! ## Where every command has one outcome -/

/-- How far the program comes: its value if it gets to its end, and the state that it leaves or
stands still in. -/
def advance (exec : (c : C) → σ → Option (R c × σ)) : Prog C R α → σ → Option α × σ
  | .ret a, s => (some a, s)
  | .op c k, s =>
      match exec c s with
      | some (r, s') => (k r).advance exec s'
      | none => (none, s)

/-- What the program returns and leaves; `none` is that it never gets to its end. -/
def run (exec : (c : C) → σ → Option (R c × σ)) : Prog C R α → σ → Option (α × σ)
  | .ret a, s => some (a, s)
  | .op c k, s =>
      match exec c s with
      | some (r, s') => (k r).run exec s'
      | none => none

section Run

variable {exec : (c : C) → σ → Option (R c × σ)} {s s' : σ} {a : α}

@[simp] theorem run_ret : (.ret a : Prog C R α).run exec s = some (a, s) := rfl

/-- One command that can be executed. -/
theorem run_perform {c : C} {f : R c → Prog C R α} {r : R c} (h : exec c s = some (r, s')) :
    (perform c >>= f).run exec s = (f r).run exec s' := by
  show (Prog.op c f).run exec s = _
  rw [run, h]

/-- One that cannot. -/
theorem run_perform_none {c : C} {f : R c → Prog C R α} (h : exec c s = none) :
    (perform c >>= f).run exec s = none := by
  show (Prog.op c f).run exec s = _
  rw [run, h]

/-- Sequencing. -/
theorem run_bind {f : α → Prog C R β} :
    ∀ {p : Prog C R α} {s : σ},
      (p >>= f).run exec s = (p.run exec s).bind fun x => (f x.1).run exec x.2
  | .ret a, s => rfl
  | .op c k, s => by
      rw [op_bind, run, run]
      cases exec c s with
      | none => rfl
      | some x => exact run_bind

/-- A program that gets to its end comes as far as that. -/
theorem advance_of_run : ∀ {p : Prog C R α} {s : σ}, p.run exec s = some (a, s') →
    p.advance exec s = (some a, s')
  | .ret b, s, hrun => by
      cases hrun
      rfl
  | .op c k, s, hrun => by
      rw [run] at hrun
      rw [advance]
      cases hexec : exec c s with
      | none =>
          rw [hexec] at hrun
          cases hrun
      | some x =>
          rw [hexec] at hrun
          exact advance_of_run hrun

/-- What follows a program that gets to its end goes on from there. -/
theorem advance_bind {f : α → Prog C R β} :
    ∀ {p : Prog C R α} {s : σ}, p.run exec s = some (a, s') →
      (p >>= f).advance exec s = (f a).advance exec s'
  | .ret b, s, hrun => by
      cases hrun
      rfl
  | .op c k, s, hrun => by
      rw [run] at hrun
      rw [op_bind, advance]
      cases hexec : exec c s with
      | none =>
          rw [hexec] at hrun
          cases hrun
      | some x =>
          rw [hexec] at hrun
          exact advance_bind hrun

/-- One command that can be executed. -/
theorem advance_perform {c : C} {f : R c → Prog C R α} {r : R c} (h : exec c s = some (r, s')) :
    (perform c >>= f).advance exec s = (f r).advance exec s' := by
  show (Prog.op c f).advance exec s = _
  rw [advance, h]

/-- At one that cannot, it stands still. -/
theorem advance_perform_none {c : C} {f : R c → Prog C R α} (h : exec c s = none) :
    (perform c >>= f).advance exec s = (none, s) := by
  show (Prog.op c f).advance exec s = _
  rw [advance, h]

/-- What every command undoes, a program undoes. -/
theorem run_back {Ok : σ → Prop} (hback : ∀ c s r s', exec c s = some (r, s') → Ok s' → Ok s) :
    ∀ {p : Prog C R α} {s : σ}, p.run exec s = some (a, s') → Ok s' → Ok s
  | .ret b, s, hrun, hok => by
      rw [run_ret, Option.some.injEq, Prod.mk.injEq] at hrun
      rw [hrun.2]
      exact hok
  | .op c k, s, hrun, hok => by
      rw [run] at hrun
      cases hexec : exec c s with
      | none =>
          rw [hexec] at hrun
          cases hrun
      | some x =>
          rw [hexec] at hrun
          exact hback c s x.1 x.2 hexec (run_back hback hrun hok)

/-- **One meaning inside another**: where every command keeps `Sim`, a run here is a run there.
The command may count on what holds at the end of the run and cannot have come about. -/
theorem runs_of_run {τ : Type} {exec' : (c : C) → ω → τ → Option (R c × τ)} (Ok : σ → Prop)
    (Sim : σ → τ → Prop) (hback : ∀ c s r s', exec c s = some (r, s') → Ok s' → Ok s)
    (hstep : ∀ c s r s' t, exec c s = some (r, s') → Ok s' → Sim s t →
      ∃ o t', exec' c o t = some (r, t') ∧ Sim s' t') :
    ∀ {p : Prog C R α} {s : σ} {t : τ}, p.run exec s = some (a, s') → Ok s' → Sim s t →
      ∃ t', p.Runs exec' t a t' ∧ Sim s' t'
  | .ret b, s, t, hrun, _, hsim => by
      rw [run_ret, Option.some.injEq, Prod.mk.injEq] at hrun
      obtain ⟨rfl, rfl⟩ := hrun
      exact ⟨t, .ret _ _, hsim⟩
  | .op c k, s, t, hrun, hok, hsim => by
      rw [run] at hrun
      cases hexec : exec c s with
      | none =>
          rw [hexec] at hrun
          cases hrun
      | some x =>
          obtain ⟨r, s₁⟩ := x
          rw [hexec] at hrun
          obtain ⟨o, t₁, hexec', hsim₁⟩ := hstep c s r s₁ t hexec (run_back hback hrun hok) hsim
          obtain ⟨t', hrest, hsim'⟩ := runs_of_run Ok Sim hback hstep (p := k r) hrun hok hsim₁
          exact ⟨t', .op hexec' hrest, hsim'⟩

end Run

end Prog

namespace Machine

/-- From the label `l` in the state `s`, thread `i` alone comes to `l'` in `s'`. -/
inductive Alone (M : Machine σ ι ω R L) (i : ι) (l : L) (s : σ) : L → σ → Prop
  | refl : Alone M i l s l s
  | tail {l₁ l₂ : L} {s₁ s₂ : σ} (hbefore : Alone M i l s l₁ s₁)
      (hlast : (M.body l₁).Runs (M.exec i) s₁ l₂ s₂) : Alone M i l s l₂ s₂

variable {M : Machine σ ι ω R L} {i : ι} {l l' : L} {s s' : σ}

/-- What every body keeps, a thread that runs alone keeps. -/
theorem Alone.inv {I : L → σ → Prop}
    (hstep : ∀ l s l' s', I l s → (M.body l).Runs (M.exec i) s l' s' → I l' s')
    (h : M.Alone i l s l' s') (h0 : I l s) : I l' s' := by
  induction h with
  | refl => exact h0
  | tail _ hlast ih => exact hstep _ _ _ _ ih hlast

/-- Only thread `i` executes commands. -/
def Only (i : ι) (_ : World σ ι R) (j : ι) (c : C) (_ : R c) : Prop := j = i

variable [DecidableEq ι] {cfg : Config σ ι R L} {init : Config σ ι R L}

/-- The thread begins with the body of its label. -/
theorem exists_turn (hl : cfg.threads i = .ret l) :
    ∃ cfg', M.Reach (Only i) cfg cfg' ∧ cfg'.threads i = M.body l ∧ cfg'.world = cfg.world :=
  ⟨_, Reach.refl.tail (.turn hl), Function.update_self .., rfl⟩

/-- It executes a command that can be executed. -/
theorem exists_act {c : C} {k : R c → Prog C R L} {o : ω} {r : R c}
    (hop : cfg.threads i = .op c k) (hexec : M.exec i c o cfg.world.state = some (r, s)) :
    ∃ cfg', M.Reach (Only i) cfg cfg' ∧ cfg'.threads i = k r ∧
      cfg'.world = cfg.world.push i c r s :=
  ⟨_, Reach.refl.tail (.act hop hexec rfl), Function.update_self .., rfl⟩

/-- A program that runs alone can be run there by a schedule. -/
theorem reach_of_runs {p : Prog C R L} (hp : p.Runs (M.exec i) s l s') :
    ∀ {cfg : Config σ ι R L}, M.Reach (Only i) init cfg → cfg.threads i = p →
      cfg.world.state = s →
      ∃ cfg', M.Reach (Only i) init cfg' ∧ cfg'.threads i = .ret l ∧ cfg'.world.state = s' := by
  induction hp with
  | ret l s =>
      intro cfg hr hp hs
      exact ⟨cfg, hr, hp, hs⟩
  | op hexec _ ih =>
      intro cfg hr hp hs
      subst hs
      exact ih (hr.tail (.act hp hexec rfl)) (Function.update_self ..) rfl

/-- **A thread that runs alone** is a run of the machine. -/
theorem reach_of_alone (h : M.Alone i l s l' s') (hl : init.threads i = .ret l)
    (hs : init.world.state = s) :
    ∃ cfg, M.Reach (Only i) init cfg ∧ cfg.threads i = .ret l' ∧ cfg.world.state = s' := by
  induction h with
  | refl => exact ⟨init, .refl, hl, hs⟩
  | tail _ hlast ih =>
      obtain ⟨cfg, hr, hl₁, hs₁⟩ := ih
      exact reach_of_runs hlast (hr.tail (.turn hl₁)) (Function.update_self ..) hs₁

end Machine

end Interleave
