/-
# `Interleave.Prog` — programs over a signature of atomic commands

A program is a tree: it either returns, or it issues one command `c` and
continues with whatever answer of type `R c` it gets.  Nothing is said here
about what a command does; that is the business of a machine
(`Interleave.Pool`).  What can be said already is what a program *issues*:
its own history of commands and answers decides the next command, and no
other thread can change that history.

`Conforms ρ Q p h` is the resulting judgement.  Started with own history `h`,
every command `p` issues is one that `ρ.may` allows after the history so far,
and every value it returns satisfies `Q`, as long as the answers are ones
`ρ.hears` counts on.  It is a weakest precondition by recursion on the
program, so sequencing is an equation (`conforms_bind`) and a function of the
modelled code is checked against its rules once, by walking its text.
-/
import Mathlib.Data.List.Basic

namespace Interleave

/-- A program issuing commands from `C`, a command `c` being answered in `R c`. -/
inductive Prog (C : Type) (R : C → Type) (α : Type) : Type where
  | ret (a : α)
  | op (c : C) (k : R c → Prog C R α)

namespace Prog

variable {C : Type} {R : C → Type} {α β γ : Type}

/-- Sequencing: graft `f` onto the returns. -/
def bind : Prog C R α → (α → Prog C R β) → Prog C R β
  | .ret a, f => f a
  | .op c k, f => .op c fun r => (k r).bind f

instance : Monad (Prog C R) where
  pure := .ret
  bind := .bind

@[simp] theorem pure_eq (a : α) : (pure a : Prog C R α) = .ret a := rfl

@[simp] theorem ret_bind (a : α) (f : α → Prog C R β) :
    ((.ret a : Prog C R α) >>= f) = f a := rfl

@[simp] theorem op_bind (c : C) (k : R c → Prog C R α) (f : α → Prog C R β) :
    (.op c k >>= f) = .op c fun r => k r >>= f := rfl

/-- Issue one command and return its answer. -/
def perform (c : C) : Prog C R (R c) := .op c .ret

end Prog

/-- A thread's own history: the commands it issued with their answers, latest first. -/
abbrev Hist {C : Type} (R : C → Type) : Type := List (Sigma R)

/-- What a thread may issue after a given own history, and which answers it counts on. -/
structure Rules {C : Type} (R : C → Type) where
  may : Hist R → C → Prop
  hears : Hist R → (c : C) → R c → Prop

/-- Rules that count on no particular answers. -/
def Issues {C : Type} {R : C → Type} (may : Hist R → C → Prop) : Rules R :=
  ⟨may, fun _ _ _ => True⟩

namespace Prog

variable {C : Type} {R : C → Type} {α β : Type}

/-- Every command of the program is allowed by the history in front of it, and every
return satisfies `Q`. -/
def Conforms (ρ : Rules R) (Q : α → Hist R → Prop) : Prog C R α → Hist R → Prop
  | .ret a, h => Q a h
  | .op c k, h => ρ.may h c ∧ ∀ r, ρ.hears h c r → (k r).Conforms ρ Q (⟨c, r⟩ :: h)

variable {ρ : Rules R}

@[simp] theorem conforms_ret {Q : α → Hist R → Prop} {a : α} {h : Hist R} :
    (Prog.ret a : Prog C R α).Conforms ρ Q h ↔ Q a h := Iff.rfl

theorem conforms_op {Q : α → Hist R → Prop} {c : C} {k : R c → Prog C R α} {h : Hist R} :
    (Prog.op c k).Conforms ρ Q h ↔
      ρ.may h c ∧ ∀ r, ρ.hears h c r → (k r).Conforms ρ Q (⟨c, r⟩ :: h) := Iff.rfl

theorem conforms_perform {Q : α → Hist R → Prop} {c : C} {f : R c → Prog C R α} {h : Hist R} :
    (perform c >>= f).Conforms ρ Q h ↔
      ρ.may h c ∧ ∀ r, ρ.hears h c r → (f r).Conforms ρ Q (⟨c, r⟩ :: h) := Iff.rfl

/-- Sequencing is composition of the two judgements. -/
theorem conforms_bind {Q : β → Hist R → Prop} {f : α → Prog C R β} :
    ∀ {p : Prog C R α} {h : Hist R},
      (p >>= f).Conforms ρ Q h ↔ p.Conforms ρ (fun a h' => (f a).Conforms ρ Q h') h
  | .ret _, _ => Iff.rfl
  | .op _ k, _ => and_congr_right' (forall_congr' fun r =>
      imp_congr_right fun _ => conforms_bind (p := k r))

/-- One command, under rules that count on no particular answer. -/
theorem conforms_call {may : Hist R → C → Prop} {Q : α → Hist R → Prop} {c : C}
    {f : R c → Prog C R α} {h : Hist R} :
    (perform c >>= f).Conforms (Issues may) Q h ↔
      may h c ∧ ∀ r, (f r).Conforms (Issues may) Q (⟨c, r⟩ :: h) := by
  refine conforms_perform.trans (and_congr_right fun _ => forall_congr' fun r => ?_)
  exact ⟨fun hr => hr trivial, fun hr _ => hr⟩

/-- Rules that ask nothing are followed. -/
theorem conforms_any {Q : α → Hist R → Prop} (hQ : ∀ a h, Q a h) :
    ∀ {p : Prog C R α} {h : Hist R}, p.Conforms (Issues fun _ _ => True) Q h
  | .ret a, h => hQ a h
  | .op _ _, _ => ⟨trivial, fun _ _ => conforms_any hQ⟩

/-- Weaker rules. -/
theorem conforms_weaken {may may' : Hist R → C → Prop} {Q : α → Hist R → Prop}
    (hm : ∀ h c, may h c → may' h c) :
    ∀ {p : Prog C R α} {h : Hist R}, p.Conforms (Issues may) Q h → p.Conforms (Issues may') Q h
  | .ret _, _, hp => hp
  | .op _ _, _, ⟨hmay, hk⟩ => ⟨hm _ _ hmay, fun r hr => conforms_weaken hm (hk r hr)⟩

/-- A weaker postcondition. -/
theorem Conforms.mono {Q Q' : α → Hist R → Prop} (hQ : ∀ a h, Q a h → Q' a h) :
    ∀ {p : Prog C R α} {h : Hist R}, p.Conforms ρ Q h → p.Conforms ρ Q' h
  | .ret _, _, hp => hQ _ _ hp
  | .op _ _, _, ⟨hmay, hk⟩ => ⟨hmay, fun r hr => (hk r hr).mono hQ⟩

/-- A program only adds to its history. -/
theorem Conforms.suffix {Q : α → Hist R → Prop} :
    ∀ {p : Prog C R α} {h : Hist R}, p.Conforms ρ Q h →
      p.Conforms ρ (fun a h' => Q a h' ∧ h <:+ h') h
  | .ret _, _, hp => ⟨hp, List.suffix_rfl⟩
  | .op _ _, _, ⟨hmay, hk⟩ => ⟨hmay, fun r hr => (Conforms.suffix (hk r hr)).mono
      fun _ _ hpost => ⟨hpost.1, (List.suffix_cons _ _).trans hpost.2⟩⟩

/-- What a program issues, its history holds: besides what was there, only commands that the
rules allow. -/
theorem Conforms.issued {may : Hist R → C → Prop} {P : C → Prop} (hP : ∀ h c, may h c → P c)
    {Q : α → Hist R → Prop} :
    ∀ {p : Prog C R α} {h : Hist R}, p.Conforms (Issues may) Q h →
      p.Conforms (Issues may) (fun a h' => Q a h' ∧ ∀ e ∈ h', P e.1 ∨ e ∈ h) h
  | .ret _, _, hp => ⟨hp, fun _ hmem => .inr hmem⟩
  | .op c _, h, ⟨hmay, hk⟩ => by
      refine ⟨hmay, fun r hr => (Conforms.issued hP (hk r hr)).mono fun a h' hpost => ?_⟩
      refine ⟨hpost.1, fun e hmem => ?_⟩
      rcases hpost.2 e hmem with he | he
      · exact .inl he
      · rcases List.mem_cons.1 he with rfl | he
        · exact .inl (hP h c hmay)
        · exact .inr he

end Prog

end Interleave
