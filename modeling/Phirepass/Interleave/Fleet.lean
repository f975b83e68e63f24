/-
# `Interleave.Fleet` — many processes of one kind over one state

A fleet runs the code `body j` for every process `j`.  A thread of the fleet
is a thread of a process, and carries the number of its process from label to
label; what its commands do to the common state is `exec`'s business.

What the code of a process was shown to follow, it follows in a fleet
(`Follows.fleet`): rules speak of a thread's own history, and no other
process comes into that.
-/
import Phirepass.Interleave.Pool

namespace Interleave

variable {κ σ ι ω C L : Type} {R : C → Type}

/-- The processes `κ`, each with its own code, over the state `σ`. -/
def fleet (exec : κ → ι → (c : C) → ω → σ → Option (R c × σ)) (body : κ → L → Prog C R L) :
    Machine σ (κ × ι) ω R (κ × L) where
  exec i := exec i.1 i.2
  body l := body l.1 l.2 >>= fun l' => .ret (l.1, l')

/-- All threads of all processes at their beginning. -/
def fleetStart (entry : ι → L) (s : σ) : Config σ (κ × ι) R (κ × L) where
  threads i := .ret (i.1, entry i.2)
  world := ⟨s, []⟩

variable [DecidableEq κ] [DecidableEq ι]

/-- **A fleet follows the rules of its processes.** -/
theorem Machine.Follows.fleet {exec : κ → ι → (c : C) → ω → σ → Option (R c × σ)}
    {body : κ → L → Prog C R L} {entry : ι → L} (ρ : κ → ι → Rules R)
    (At : κ → ι → L → Hist R → Prop)
    (hbody : ∀ j i l h, At j i l h → (body j l).Conforms (ρ j i) (At j i) h)
    (hentry : ∀ j i, At j i (entry i) []) (s : σ) :
    (Interleave.fleet exec body).Follows (fun i => ρ i.1 i.2)
      (fun i l h => l.1 = i.1 ∧ At i.1 i.2 l.2 h) (fleetStart entry s) where
  body i l h hat := by
    obtain ⟨j, i⟩ := i
    obtain ⟨j', l⟩ := l
    obtain ⟨hj, hat⟩ := hat
    cases hj
    exact Prog.conforms_bind.2 ((hbody j i l h hat).mono fun l' h' hat' => ⟨rfl, hat'⟩)
  start i := ⟨rfl, hentry i.1 i.2⟩

end Interleave
