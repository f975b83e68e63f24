/-
# `Interleave.Amid` — a program among others, step by step

`p.Amid exec l q` says that the program `p` may take the steps `l` and have `q`
left to run.  A step is the state it met and the state it left, with its
command and the answer.  Other threads run between two steps, so the state a
step meets need not be the one left by the step before it; whatever is
proved about a path holds under any interference.

In a run of a machine every thread takes such a path through its code, and the
run has been in every state the path met (`Machine.Reach.strides`).
-/
import Phirepass.Interleave.Path

namespace Interleave

/-- One step of a thread. -/
structure Stride (σ : Type) {C : Type} (R : C → Type) where
  before : σ
  cmd : C
  resp : R cmd
  after : σ

variable {σ ι ω C L α β : Type} {R : C → Type}

def Stride.event (x : Stride σ R) : Sigma R := ⟨x.cmd, x.resp⟩

namespace Prog

/-- The program may take the steps `l` and have `q` left. -/
inductive Amid (exec : (c : C) → ω → σ → Option (R c × σ)) :
    Prog C R α → List (Stride σ R) → Prog C R α → Prop
  | refl (p : Prog C R α) : Amid exec p [] p
  | op {c : C} {k : R c → Prog C R α} {o : ω} {r : R c} {s s' : σ} {l : List (Stride σ R)}
      {q : Prog C R α} (hexec : exec c o s = some (r, s')) (hrest : Amid exec (k r) l q) :
      Amid exec (.op c k) (⟨s, c, r, s'⟩ :: l) q

variable {exec : (c : C) → ω → σ → Option (R c × σ)} {a a' : α} {b : β} {p q q' : Prog C R α}
  {l l' : List (Stride σ R)}

@[simp] theorem amid_ret : (.ret a : Prog C R α).Amid exec l (.ret a') ↔ l = [] ∧ a' = a := by
  constructor
  · intro h
    cases h
    exact ⟨rfl, rfl⟩
  · rintro ⟨rfl, rfl⟩
    exact .refl _

/-- One command, and what follows it. -/
theorem amid_perform {c : C} {f : R c → Prog C R α} :
    (perform c >>= f).Amid exec l (.ret a) ↔ ∃ o r s s' l', exec c o s = some (r, s') ∧
      l = ⟨s, c, r, s'⟩ :: l' ∧ (f r).Amid exec l' (.ret a) := by
  constructor
  · intro h
    cases h with
    | op hexec hrest => exact ⟨_, _, _, _, _, hexec, rfl, hrest⟩
  · rintro ⟨o, r, s, s', l', hexec, rfl, hrest⟩
    exact .op hexec hrest

/-- Sequencing. -/
theorem amid_bind {f : α → Prog C R β} : ∀ {p : Prog C R α} {l : List (Stride σ R)},
    (p >>= f).Amid exec l (.ret b) ↔ ∃ a l₁ l₂, l = l₁ ++ l₂ ∧ p.Amid exec l₁ (.ret a) ∧
      (f a).Amid exec l₂ (.ret b)
  | .ret a, l => by simp
  | .op c k, l => by
      rw [op_bind]
      constructor
      · intro h
        cases h with
        | op hexec hrest =>
            obtain ⟨a, l₁, l₂, rfl, hk, hf⟩ := amid_bind.1 hrest
            exact ⟨a, _ :: l₁, l₂, rfl, .op hexec hk, hf⟩
      · rintro ⟨a, l₁, l₂, rfl, hp, hf⟩
        cases hp with
        | op hexec hrest => exact .op hexec (amid_bind.2 ⟨a, _, l₂, rfl, hrest, hf⟩)

/-- One more step at the end. -/
theorem Amid.snoc {c : C} {k : R c → Prog C R α} {o : ω} {r : R c} {s s' : σ}
    (h : p.Amid exec l (.op c k)) (hexec : exec c o s = some (r, s')) :
    p.Amid exec (l ++ [⟨s, c, r, s'⟩]) (k r) := by
  generalize hq : Prog.op c k = q at h
  induction h with
  | refl p =>
      subst hq
      exact .op hexec (.refl _)
  | op hexec' _ ih => exact .op hexec' (ih hq)

/-- Forgetting the states leaves the path of the own history. -/
theorem Amid.does (h : p.Amid exec l (.ret a)) (h₀ : Hist R) :
    p.Does h₀ a ((l.map Stride.event).reverse ++ h₀) := by
  generalize hq : (Prog.ret a : Prog C R α) = q at h
  induction h generalizing h₀ with
  | refl p =>
      subst hq
      exact .ret a h₀
  | @op c k o r s s' l q hexec _ ih =>
      have hrest := ih (⟨c, r⟩ :: h₀) hq
      rw [List.map_cons, List.reverse_cons, List.append_assoc]
      exact .op r hrest

end Prog

section Runs

variable [DecidableEq ι] {M : Machine σ ι ω R L} {A : World σ ι R → ι → (c : C) → R c → Prop}
  {init cfg : Config σ ι R L} {i : ι}

/-- In the run from `init` to `cfg`, thread `i` has gone on with its code by the steps `l`. -/
structure Machine.Strides (M : Machine σ ι ω R L) (A : World σ ι R → ι → (c : C) → R c → Prop)
    (i : ι) (init cfg : Config σ ι R L) (l : List (Stride σ R)) : Prop where
  reach : M.Reach A init cfg
  path : (init.threads i).Amid (M.exec i) l (cfg.threads i)
  own : own i cfg.world.trace = (l.map Stride.event).reverse ++ own i init.world.trace
  met : ∀ y ∈ l, ∃ cfg', M.Reach A init cfg' ∧ cfg'.world.state = y.before

/-- A step of the thread is one more stride, and a step of another thread is none. -/
theorem Machine.Strides.act {l : List (Stride σ R)} (h : M.Strides A i init cfg l) {j : ι} {c : C}
    {k : R c → Prog C R L} {o : ω} {r : R c} {s : σ} (hop : cfg.threads j = .op c k)
    (hexec : M.exec j c o cfg.world.state = some (r, s)) (hA : A cfg.world j c r) :
    ∃ l', M.Strides A i init ⟨Function.update cfg.threads j (k r), cfg.world.push j c r s⟩ l' := by
  have hreach := h.reach.tail (.act hop hexec hA)
  rcases eq_or_ne i j with rfl | hij
  · have hpath := h.path
    rw [hop] at hpath
    refine ⟨l ++ [⟨cfg.world.state, c, r, s⟩], hreach, ?_, ?_, ?_⟩
    · show (init.threads i).Amid (M.exec i) _ (Function.update cfg.threads i (k r) i)
      rw [Function.update_self]
      exact hpath.snoc hexec
    · rw [World.push_trace, own_cons_self, h.own]
      simp [Stride.event]
    · intro y hy
      rcases List.mem_append.1 hy with hy | hy
      · exact h.met y hy
      · obtain rfl := List.mem_singleton.1 hy
        exact ⟨cfg, h.reach, rfl⟩
  · refine ⟨l, hreach, ?_, ?_, h.met⟩
    · show (init.threads i).Amid (M.exec i) l (Function.update cfg.threads j (k r) i)
      rw [Function.update_of_ne hij]
      exact h.path
    · rw [World.push_trace, own_cons_of_ne hij.symm]
      exact h.own

/-- **A thread follows its code, whoever else runs**: it is on its way to the end of it, or has
been there. -/
theorem Machine.Reach.strides (hr : M.Reach A init cfg) :
    (∃ l, M.Strides A i init cfg l) ∨ ∃ cfg' l m, M.Strides A i init cfg' l ∧
      cfg'.threads i = .ret m ∧ M.Reach A cfg' cfg := by
  induction hr with
  | refl => exact .inl ⟨[], .refl, .refl _, rfl, fun _ hmem => nomatch hmem⟩
  | @tail cfg cfg' hr hstep ih =>
      rcases ih with ⟨l, h⟩ | ⟨cfg₁, l, m, h, hret, hlater⟩
      · cases hstep with
        | @turn j m hl =>
            rcases eq_or_ne i j with rfl | hij
            · exact .inr ⟨cfg, l, m, h, hl, .tail .refl (.turn hl)⟩
            · refine .inl ⟨l, hr.tail (.turn hl), ?_, h.own, h.met⟩
              show (init.threads i).Amid (M.exec i) l (Function.update cfg.threads j (M.body m) i)
              rw [Function.update_of_ne hij]
              exact h.path
        | act hop hexec hA => exact .inl (h.act hop hexec hA)
      · exact .inr ⟨cfg₁, l, m, h, hret, hlater.tail hstep⟩

/-- When it is at a label, it has been through its code once. -/
theorem Machine.Reach.turn_done (hr : M.Reach A init cfg) {m : L} (hm : cfg.threads i = .ret m) :
    ∃ cfg' l m', M.Strides A i init cfg' l ∧ cfg'.threads i = .ret m' ∧ M.Reach A cfg' cfg := by
  rcases hr.strides with ⟨l, h⟩ | hdone
  · exact ⟨cfg, l, m, h, hm, .refl⟩
  · exact hdone

end Runs

end Interleave
