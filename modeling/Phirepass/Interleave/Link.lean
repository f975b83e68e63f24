/-
# `Interleave.Link` — two machines and the wires between them

Two machines run side by side and share nothing but wires.  An executed
command of either side may need the wires to be in a certain state and may
change them: `leftWire i c r w` is what the command `c` of thread `i`,
answered `r`, makes of the wires `w`, and `none` that it cannot be answered
so.  A message can then only be received if the other side has sent it.

Each side of a linked run is a run of its machine alone (`Reach.left`,
`Reach.right`), so whatever is known of one machine holds of it here.  What
is left to prove about the pair is what the wires carry (`Reach.inv`).
-/
import Phirepass.Interleave.Pool

namespace Interleave

/-- Two configurations and the wires. -/
structure Linked (σ₁ ι₁ : Type) {C₁ : Type} (R₁ : C₁ → Type) (L₁ : Type) (σ₂ ι₂ : Type) {C₂ : Type}
    (R₂ : C₂ → Type) (L₂ : Type) (W : Type) where
  left : Config σ₁ ι₁ R₁ L₁
  right : Config σ₂ ι₂ R₂ L₂
  wire : W

/-- Two machines and what their commands do to the wires. -/
structure Link (σ₁ ι₁ ω₁ : Type) {C₁ : Type} (R₁ : C₁ → Type) (L₁ : Type) (σ₂ ι₂ ω₂ : Type)
    {C₂ : Type} (R₂ : C₂ → Type) (L₂ : Type) (W : Type) where
  left : Machine σ₁ ι₁ ω₁ R₁ L₁
  right : Machine σ₂ ι₂ ω₂ R₂ L₂
  leftWire : ι₁ → (c : C₁) → R₁ c → W → Option W
  rightWire : ι₂ → (c : C₂) → R₂ c → W → Option W

variable {σ₁ ι₁ ω₁ C₁ L₁ σ₂ ι₂ ω₂ C₂ L₂ W : Type} {R₁ : C₁ → Type} {R₂ : C₂ → Type}
  [DecidableEq ι₁] [DecidableEq ι₂]

namespace Link

section Step

variable (N : Link σ₁ ι₁ ω₁ R₁ L₁ σ₂ ι₂ ω₂ R₂ L₂ W)

/-- Let a thread of the left side take its next step. -/
def stepLeft (ok : World σ₁ ι₁ R₁ → ι₁ → (c : C₁) → R₁ c → Bool) (i : ι₁) (o : ω₁)
    (cfg : Linked σ₁ ι₁ R₁ L₁ σ₂ ι₂ R₂ L₂ W) : Option (Linked σ₁ ι₁ R₁ L₁ σ₂ ι₂ R₂ L₂ W) :=
  match cfg.left.threads i with
  | .ret l =>
      some { cfg with left :=
        { cfg.left with threads := Function.update cfg.left.threads i (N.left.body l) } }
  | .op c k =>
      match N.left.exec i c o cfg.left.world.state with
      | some (r, s) =>
          if ok cfg.left.world i c r then
            (N.leftWire i c r cfg.wire).map fun w =>
              ⟨⟨Function.update cfg.left.threads i (k r), cfg.left.world.push i c r s⟩, cfg.right, w⟩
          else none
      | none => none

/-- Let a thread of the right side take its next step. -/
def stepRight (ok : World σ₂ ι₂ R₂ → ι₂ → (c : C₂) → R₂ c → Bool) (i : ι₂) (o : ω₂)
    (cfg : Linked σ₁ ι₁ R₁ L₁ σ₂ ι₂ R₂ L₂ W) : Option (Linked σ₁ ι₁ R₁ L₁ σ₂ ι₂ R₂ L₂ W) :=
  match cfg.right.threads i with
  | .ret l =>
      some { cfg with right :=
        { cfg.right with threads := Function.update cfg.right.threads i (N.right.body l) } }
  | .op c k =>
      match N.right.exec i c o cfg.right.world.state with
      | some (r, s) =>
          if ok cfg.right.world i c r then
            (N.rightWire i c r cfg.wire).map fun w =>
              ⟨cfg.left, ⟨Function.update cfg.right.threads i (k r), cfg.right.world.push i c r s⟩, w⟩
          else none
      | none => none

/-- Follow a schedule. -/
def run (ok₁ : World σ₁ ι₁ R₁ → ι₁ → (c : C₁) → R₁ c → Bool)
    (ok₂ : World σ₂ ι₂ R₂ → ι₂ → (c : C₂) → R₂ c → Bool) :
    List ((ι₁ × ω₁) ⊕ (ι₂ × ω₂)) → Linked σ₁ ι₁ R₁ L₁ σ₂ ι₂ R₂ L₂ W →
      Option (Linked σ₁ ι₁ R₁ L₁ σ₂ ι₂ R₂ L₂ W)
  | [], cfg => some cfg
  | .inl (i, o) :: sched, cfg => (N.stepLeft ok₁ i o cfg).bind (run ok₁ ok₂ sched)
  | .inr (i, o) :: sched, cfg => (N.stepRight ok₂ i o cfg).bind (run ok₁ ok₂ sched)

/-- One step, of a run in which the commands of the two sides meet `A₁` and `A₂`. -/
inductive Step (A₁ : World σ₁ ι₁ R₁ → ι₁ → (c : C₁) → R₁ c → Prop)
    (A₂ : World σ₂ ι₂ R₂ → ι₂ → (c : C₂) → R₂ c → Prop) :
    Linked σ₁ ι₁ R₁ L₁ σ₂ ι₂ R₂ L₂ W → Linked σ₁ ι₁ R₁ L₁ σ₂ ι₂ R₂ L₂ W → Prop
  | leftTurn {cfg : Linked σ₁ ι₁ R₁ L₁ σ₂ ι₂ R₂ L₂ W} {i : ι₁} {l : L₁}
      (hl : cfg.left.threads i = .ret l) :
      Step A₁ A₂ cfg { cfg with left :=
        { cfg.left with threads := Function.update cfg.left.threads i (N.left.body l) } }
  | leftAct {cfg : Linked σ₁ ι₁ R₁ L₁ σ₂ ι₂ R₂ L₂ W} {i : ι₁} {c : C₁} {k : R₁ c → Prog C₁ R₁ L₁}
      {o : ω₁} {r : R₁ c} {s : σ₁} {w : W} (hop : cfg.left.threads i = .op c k)
      (hexec : N.left.exec i c o cfg.left.world.state = some (r, s))
      (hA : A₁ cfg.left.world i c r) (hw : N.leftWire i c r cfg.wire = some w) :
      Step A₁ A₂ cfg
        ⟨⟨Function.update cfg.left.threads i (k r), cfg.left.world.push i c r s⟩, cfg.right, w⟩
  | rightTurn {cfg : Linked σ₁ ι₁ R₁ L₁ σ₂ ι₂ R₂ L₂ W} {i : ι₂} {l : L₂}
      (hl : cfg.right.threads i = .ret l) :
      Step A₁ A₂ cfg { cfg with right :=
        { cfg.right with threads := Function.update cfg.right.threads i (N.right.body l) } }
  | rightAct {cfg : Linked σ₁ ι₁ R₁ L₁ σ₂ ι₂ R₂ L₂ W} {i : ι₂} {c : C₂} {k : R₂ c → Prog C₂ R₂ L₂}
      {o : ω₂} {r : R₂ c} {s : σ₂} {w : W} (hop : cfg.right.threads i = .op c k)
      (hexec : N.right.exec i c o cfg.right.world.state = some (r, s))
      (hA : A₂ cfg.right.world i c r) (hw : N.rightWire i c r cfg.wire = some w) :
      Step A₁ A₂ cfg
        ⟨cfg.left, ⟨Function.update cfg.right.threads i (k r), cfg.right.world.push i c r s⟩, w⟩

/-- What a linked run from `init` reaches. -/
inductive Reach (A₁ : World σ₁ ι₁ R₁ → ι₁ → (c : C₁) → R₁ c → Prop)
    (A₂ : World σ₂ ι₂ R₂ → ι₂ → (c : C₂) → R₂ c → Prop)
    (init : Linked σ₁ ι₁ R₁ L₁ σ₂ ι₂ R₂ L₂ W) : Linked σ₁ ι₁ R₁ L₁ σ₂ ι₂ R₂ L₂ W → Prop
  | refl : Reach A₁ A₂ init init
  | tail {cfg cfg' : Linked σ₁ ι₁ R₁ L₁ σ₂ ι₂ R₂ L₂ W} :
      Reach A₁ A₂ init cfg → N.Step A₁ A₂ cfg cfg' → Reach A₁ A₂ init cfg'

end Step

variable {N : Link σ₁ ι₁ ω₁ R₁ L₁ σ₂ ι₂ ω₂ R₂ L₂ W}
  {A₁ : World σ₁ ι₁ R₁ → ι₁ → (c : C₁) → R₁ c → Prop}
  {A₂ : World σ₂ ι₂ R₂ → ι₂ → (c : C₂) → R₂ c → Prop}
  {init cfg cfg' : Linked σ₁ ι₁ R₁ L₁ σ₂ ι₂ R₂ L₂ W}

/-- The left side runs as if alone. -/
theorem Reach.left (h : N.Reach A₁ A₂ init cfg) : N.left.Reach A₁ init.left cfg.left := by
  induction h with
  | refl => exact .refl
  | tail _ hstep ih =>
      cases hstep with
      | leftTurn hl => exact ih.tail (.turn hl)
      | leftAct hop hexec hA _ => exact ih.tail (.act hop hexec hA)
      | rightTurn | rightAct => exact ih

/-- So does the right side. -/
theorem Reach.right (h : N.Reach A₁ A₂ init cfg) : N.right.Reach A₂ init.right cfg.right := by
  induction h with
  | refl => exact .refl
  | tail _ hstep ih =>
      cases hstep with
      | rightTurn hl => exact ih.tail (.turn hl)
      | rightAct hop hexec hA _ => exact ih.tail (.act hop hexec hA)
      | leftTurn | leftAct => exact ih

/-- **Invariants of the pair.**  What holds at the start and is kept by every executed
command of either side, with what it does to the wires. -/
theorem Reach.inv (I : World σ₁ ι₁ R₁ → World σ₂ ι₂ R₂ → W → Prop)
    (h0 : I init.left.world init.right.world init.wire)
    (hleft : ∀ (cfg : Linked σ₁ ι₁ R₁ L₁ σ₂ ι₂ R₂ L₂ W) (i : ι₁) (c : C₁) (r : R₁ c) (s : σ₁) (w : W),
      I cfg.left.world cfg.right.world cfg.wire → N.leftWire i c r cfg.wire = some w →
      I (cfg.left.world.push i c r s) cfg.right.world w)
    (hright : ∀ (cfg : Linked σ₁ ι₁ R₁ L₁ σ₂ ι₂ R₂ L₂ W) (i : ι₂) (c : C₂) (r : R₂ c) (s : σ₂) (w : W),
      I cfg.left.world cfg.right.world cfg.wire → N.rightWire i c r cfg.wire = some w →
      I cfg.left.world (cfg.right.world.push i c r s) w)
    (h : N.Reach A₁ A₂ init cfg) : I cfg.left.world cfg.right.world cfg.wire := by
  induction h with
  | refl => exact h0
  | tail _ hstep ih =>
      cases hstep with
      | leftTurn | rightTurn => exact ih
      | leftAct _ _ _ hw => exact hleft _ _ _ _ _ _ ih hw
      | rightAct _ _ _ hw => exact hright _ _ _ _ _ _ ih hw

/-- Every past of the left side's trace was its trace in a run, and the right side has done no
less since. -/
theorem Reach.left_past {past : List (Ev ι₁ R₁)} (h0 : init.left.world.trace = [])
    (h : N.Reach A₁ A₂ init cfg) (hs : past <:+ cfg.left.world.trace) :
    ∃ cfg', N.Reach A₁ A₂ init cfg' ∧ cfg'.left.world.trace = past ∧
      cfg'.right.world.trace <:+ cfg.right.world.trace := by
  induction h with
  | refl =>
      rw [h0] at hs
      exact ⟨init, .refl, h0.trans (List.suffix_nil.1 hs).symm, List.suffix_rfl⟩
  | tail hr hstep ih =>
      cases hstep with
      | leftTurn | rightTurn => exact ih hs
      | rightAct =>
          obtain ⟨cfg', hr', heq, hright⟩ := ih hs
          exact ⟨cfg', hr', heq, hright.trans (List.suffix_cons _ _)⟩
      | leftAct hop hexec hA hw =>
          rcases List.suffix_cons_iff.1 hs with rfl | hs
          · exact ⟨_, hr.tail (.leftAct hop hexec hA hw), rfl, List.suffix_rfl⟩
          · exact ih hs

/-- So was every past of the right side's. -/
theorem Reach.right_past {past : List (Ev ι₂ R₂)} (h0 : init.right.world.trace = [])
    (h : N.Reach A₁ A₂ init cfg) (hs : past <:+ cfg.right.world.trace) :
    ∃ cfg', N.Reach A₁ A₂ init cfg' ∧ cfg'.right.world.trace = past ∧
      cfg'.left.world.trace <:+ cfg.left.world.trace := by
  induction h with
  | refl =>
      rw [h0] at hs
      exact ⟨init, .refl, h0.trans (List.suffix_nil.1 hs).symm, List.suffix_rfl⟩
  | tail hr hstep ih =>
      cases hstep with
      | leftTurn | rightTurn => exact ih hs
      | leftAct =>
          obtain ⟨cfg', hr', heq, hleft⟩ := ih hs
          exact ⟨cfg', hr', heq, hleft.trans (List.suffix_cons _ _)⟩
      | rightAct hop hexec hA hw =>
          rcases List.suffix_cons_iff.1 hs with rfl | hs
          · exact ⟨_, hr.tail (.rightAct hop hexec hA hw), rfl, List.suffix_rfl⟩
          · exact ih hs

/-! ## One turn of a loop -/

/-- Run by thread `i`, the program returns `a`, and makes of the world and the wires what it
does. -/
inductive Turns {σ ι ω C L α : Type} {R : C → Type} (M : Machine σ ι ω R L)
    (wires : ι → (c : C) → R c → W → Option W) (A : World σ ι R → ι → (c : C) → R c → Prop) (i : ι) :
    Prog C R α → World σ ι R → W → α → World σ ι R → W → Prop
  | ret (a : α) (w : World σ ι R) (x : W) : Turns M wires A i (.ret a) w x a w x
  | op {c : C} {k : R c → Prog C R α} {o : ω} {r : R c} {s : σ} {w w' : World σ ι R} {x x₁ x' : W}
      {a : α} (hexec : M.exec i c o w.state = some (r, s)) (hA : A w i c r)
      (hw : wires i c r x = some x₁) (hrest : Turns M wires A i (k r) (w.push i c r s) x₁ a w' x') :
      Turns M wires A i (.op c k) w x a w' x'

/-- One program after another. -/
theorem Turns.bind {σ ι ω C L α β : Type} {R : C → Type} {M : Machine σ ι ω R L}
    {wires : ι → (c : C) → R c → W → Option W} {A : World σ ι R → ι → (c : C) → R c → Prop} {i : ι}
    {p : Prog C R α} {f : α → Prog C R β} {w w₁ w' : World σ ι R} {x x₁ x' : W} {a : α} {b : β}
    (hp : Turns M wires A i p w x a w₁ x₁) (hf : Turns M wires A i (f a) w₁ x₁ b w' x') :
    Turns M wires A i (p >>= f) w x b w' x' := by
  induction hp with
  | ret a w x => exact hf
  | op hexec hA hw _ ih => exact .op hexec hA hw (ih hf)

theorem Reach.program_left {p : Prog C₁ R₁ L₁} {i : ι₁} {l : L₁} {w w' : World σ₁ ι₁ R₁} {x x' : W}
    (hp : Turns N.left N.leftWire A₁ i p w x l w' x') :
    ∀ {cfg : Linked σ₁ ι₁ R₁ L₁ σ₂ ι₂ R₂ L₂ W}, N.Reach A₁ A₂ init cfg → cfg.left.threads i = p →
      cfg.left.world = w → cfg.wire = x →
      N.Reach A₁ A₂ init ⟨⟨Function.update cfg.left.threads i (.ret l), w'⟩, cfg.right, x'⟩ := by
  induction hp with
  | ret l w x =>
      intro cfg hr hp hw hx
      subst hw hx
      rw [← hp, Function.update_eq_self]
      exact hr
  | op hexec hA hw _ ih =>
      intro cfg hr hp hworld hx
      subst hworld hx
      have hnext := ih (hr.tail (.leftAct hp hexec hA hw)) (Function.update_self ..) rfl rfl
      rwa [Function.update_idem] at hnext

theorem Reach.program_right {p : Prog C₂ R₂ L₂} {i : ι₂} {l : L₂} {w w' : World σ₂ ι₂ R₂} {x x' : W}
    (hp : Turns N.right N.rightWire A₂ i p w x l w' x') :
    ∀ {cfg : Linked σ₁ ι₁ R₁ L₁ σ₂ ι₂ R₂ L₂ W}, N.Reach A₁ A₂ init cfg → cfg.right.threads i = p →
      cfg.right.world = w → cfg.wire = x →
      N.Reach A₁ A₂ init ⟨cfg.left, ⟨Function.update cfg.right.threads i (.ret l), w'⟩, x'⟩ := by
  induction hp with
  | ret l w x =>
      intro cfg hr hp hw hx
      subst hw hx
      rw [← hp, Function.update_eq_self]
      exact hr
  | op hexec hA hw _ ih =>
      intro cfg hr hp hworld hx
      subst hworld hx
      have hnext := ih (hr.tail (.rightAct hp hexec hA hw)) (Function.update_self ..) rfl rfl
      rwa [Function.update_idem] at hnext

/-- **A turn of a loop** of the left side leaves its thread where it was. -/
theorem Reach.turn_left {i : ι₁} {l : L₁} {w : World σ₁ ι₁ R₁} {x : W} (h : N.Reach A₁ A₂ init cfg)
    (hl : cfg.left.threads i = .ret l)
    (ht : Turns N.left N.leftWire A₁ i (N.left.body l) cfg.left.world cfg.wire l w x) :
    N.Reach A₁ A₂ init ⟨⟨cfg.left.threads, w⟩, cfg.right, x⟩ := by
  have hnext := (h.tail (.leftTurn hl)).program_left ht (Function.update_self ..) rfl rfl
  rwa [Function.update_idem, ← hl, Function.update_eq_self] at hnext

/-- So does one of the right side. -/
theorem Reach.turn_right {i : ι₂} {l : L₂} {w : World σ₂ ι₂ R₂} {x : W} (h : N.Reach A₁ A₂ init cfg)
    (hl : cfg.right.threads i = .ret l)
    (ht : Turns N.right N.rightWire A₂ i (N.right.body l) cfg.right.world cfg.wire l w x) :
    N.Reach A₁ A₂ init ⟨cfg.left, ⟨cfg.right.threads, w⟩, x⟩ := by
  have hnext := (h.tail (.rightTurn hl)).program_right ht (Function.update_self ..) rfl rfl
  rwa [Function.update_idem, ← hl, Function.update_eq_self] at hnext

/-! ## Executed schedules are runs -/

variable {ok₁ : World σ₁ ι₁ R₁ → ι₁ → (c : C₁) → R₁ c → Bool}
  {ok₂ : World σ₂ ι₂ R₂ → ι₂ → (c : C₂) → R₂ c → Bool}

theorem stepLeft_sound (hok : ∀ w i c r, ok₁ w i c r = true → A₁ w i c r) {i : ι₁} {o : ω₁}
    (h : N.stepLeft ok₁ i o cfg = some cfg') : N.Step A₁ A₂ cfg cfg' := by
  unfold stepLeft at h
  split at h
  · next l hl =>
      cases h
      exact .leftTurn hl
  · next c k hop =>
      split at h
      · next r s hexec =>
          split at h
          · next haccept =>
              obtain ⟨w, hw, heq⟩ := Option.map_eq_some_iff.1 h
              cases heq
              exact .leftAct hop hexec (hok _ _ _ _ haccept) hw
          · cases h
      · cases h

theorem stepRight_sound (hok : ∀ w i c r, ok₂ w i c r = true → A₂ w i c r) {i : ι₂} {o : ω₂}
    (h : N.stepRight ok₂ i o cfg = some cfg') : N.Step A₁ A₂ cfg cfg' := by
  unfold stepRight at h
  split at h
  · next l hl =>
      cases h
      exact .rightTurn hl
  · next c k hop =>
      split at h
      · next r s hexec =>
          split at h
          · next haccept =>
              obtain ⟨w, hw, heq⟩ := Option.map_eq_some_iff.1 h
              cases heq
              exact .rightAct hop hexec (hok _ _ _ _ haccept) hw
          · cases h
      · cases h

theorem run_sound (hok₁ : ∀ w i c r, ok₁ w i c r = true → A₁ w i c r)
    (hok₂ : ∀ w i c r, ok₂ w i c r = true → A₂ w i c r) :
    ∀ {sched : List ((ι₁ × ω₁) ⊕ (ι₂ × ω₂))} {cfg : Linked σ₁ ι₁ R₁ L₁ σ₂ ι₂ R₂ L₂ W},
      N.Reach A₁ A₂ init cfg → N.run ok₁ ok₂ sched cfg = some cfg' → N.Reach A₁ A₂ init cfg'
  | [], _, hr, h => by cases h; exact hr
  | .inl (i, o) :: sched, cfg, hr, h => by
      rw [run, Option.bind_eq_some_iff] at h
      obtain ⟨cfg₁, hstep, hrest⟩ := h
      exact run_sound hok₁ hok₂ (hr.tail (stepLeft_sound hok₁ hstep)) hrest
  | .inr (i, o) :: sched, cfg, hr, h => by
      rw [run, Option.bind_eq_some_iff] at h
      obtain ⟨cfg₁, hstep, hrest⟩ := h
      exact run_sound hok₁ hok₂ (hr.tail (stepRight_sound hok₂ hstep)) hrest

/-- A schedule that ends where `p` holds shows that `p` is reached. -/
theorem reach_of_run (hok₁ : ∀ w i c r, ok₁ w i c r = true → A₁ w i c r)
    (hok₂ : ∀ w i c r, ok₂ w i c r = true → A₂ w i c r)
    {sched : List ((ι₁ × ω₁) ⊕ (ι₂ × ω₂))} {p : Linked σ₁ ι₁ R₁ L₁ σ₂ ι₂ R₂ L₂ W → Bool}
    (h : (N.run ok₁ ok₂ sched init).any p = true) :
    ∃ cfg, N.Reach A₁ A₂ init cfg ∧ p cfg = true := by
  cases hrun : N.run ok₁ ok₂ sched init with
  | none => simp [hrun] at h
  | some cfg =>
      refine ⟨cfg, run_sound hok₁ hok₂ .refl hrun, ?_⟩
      simpa [hrun] using h

end Link

end Interleave
