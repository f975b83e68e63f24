/-
# `Interleave.Pool` — threads interleaved over one shared state

A machine gives commands their meaning: `exec i c o s` runs command `c` of
thread `i` atomically on the shared state `s`.  The oracle value `o` is the
environment's choice (a failing store, a fresh identifier, the next message
of a socket), and `none` means the command cannot run now.  A thread that
returns a label continues with that label's body, which is how the loops of
the modelled code are written.

A run interleaves the threads in any order, one command at a time, and keeps
the trace of what was executed.  The trace is a history variable: no command
reads it.  Two facts make it worth carrying.

    every thread conforms to its rules, from its own history          (`Reach.conforms`)
    an invariant kept by every *conforming* command holds in every
    world a run reaches, and a property every conforming command has
    when it is executed is true of all events     (`Reach.inv`, `Reach.events`)

So what a function of the code can do is said once, as rules on its own
history, and every invariant of the whole system is an induction over runs in
which each step comes with the rule it obeyed.

`A w i c r` restricts the runs considered: an assumption on the environment,
or the condition under which a property is claimed.  `Free` is no restriction.
-/
import Phirepass.Interleave.Prog
import Mathlib.Logic.Function.Basic
import Mathlib.Data.List.Infix

namespace Interleave

/-- One executed command. -/
structure Ev (ι : Type) {C : Type} (R : C → Type) where
  tid : ι
  cmd : C
  resp : R cmd

/-- The shared state and the trace that led to it, latest event first. -/
structure World (σ ι : Type) {C : Type} (R : C → Type) where
  state : σ
  trace : List (Ev ι R)

/-- A world together with what every thread has left to do. -/
structure Config (σ ι : Type) {C : Type} (R : C → Type) (L : Type) where
  threads : ι → Prog C R L
  world : World σ ι R

/-- The meaning of commands, and the code behind each label. -/
structure Machine (σ ι ω : Type) {C : Type} (R : C → Type) (L : Type) where
  exec : ι → (c : C) → ω → σ → Option (R c × σ)
  body : L → Prog C R L

variable {σ ι ω C L : Type} {R : C → Type}

/-- The world after thread `i` ran `c`, was answered `r` and left the state `s`. -/
def World.push (w : World σ ι R) (i : ι) (c : C) (r : R c) (s : σ) : World σ ι R :=
  ⟨s, ⟨i, c, r⟩ :: w.trace⟩

@[simp] theorem World.push_state (w : World σ ι R) (i : ι) (c : C) (r : R c) (s : σ) :
    (w.push i c r s).state = s := rfl

@[simp] theorem World.push_trace (w : World σ ι R) (i : ι) (c : C) (r : R c) (s : σ) :
    (w.push i c r s).trace = ⟨i, c, r⟩ :: w.trace := rfl

section Own

variable [DecidableEq ι]

/-- The part of a trace that thread `i` executed. -/
def own (i : ι) : List (Ev ι R) → Hist R
  | [] => []
  | e :: tr => if e.tid = i then ⟨e.cmd, e.resp⟩ :: own i tr else own i tr

@[simp] theorem own_nil (i : ι) : own (R := R) i [] = [] := rfl

@[simp] theorem own_cons_self (i : ι) (c : C) (r : R c) (tr : List (Ev ι R)) :
    own i (⟨i, c, r⟩ :: tr) = ⟨c, r⟩ :: own i tr := if_pos rfl

theorem own_cons_of_ne {i j : ι} (hij : j ≠ i) (c : C) (r : R c) (tr : List (Ev ι R)) :
    own i (⟨j, c, r⟩ :: tr) = own i tr := if_neg hij

/-- Membership in the own history is membership in the trace. -/
theorem mem_own {i : ι} {c : C} {r : R c} {tr : List (Ev ι R)} :
    (⟨c, r⟩ : Sigma R) ∈ own i tr ↔ (⟨i, c, r⟩ : Ev ι R) ∈ tr := by
  induction tr with
  | nil => simp
  | cons e tr ih =>
      obtain ⟨j, d, t⟩ := e
      by_cases hj : j = i
      · subst hj
        simp only [own_cons_self, List.mem_cons, ih]
        refine or_congr_left ⟨fun heq => ?_, fun heq => ?_⟩
        · cases heq; rfl
        · cases heq; rfl
      · rw [own_cons_of_ne hj, ih, List.mem_cons, or_iff_right]
        intro heq
        cases heq
        exact hj rfl

/-- One more event extends at most one own history. -/
theorem own_suffix_cons (i : ι) (e : Ev ι R) (tr : List (Ev ι R)) :
    own i tr <:+ own i (e :: tr) := by
  obtain ⟨j, c, r⟩ := e
  by_cases hj : j = i
  · subst hj
    rw [own_cons_self]
    exact List.suffix_cons _ _
  · rw [own_cons_of_ne hj]

/-- A longer trace has longer own histories. -/
theorem own_suffix (i : ι) {tr tr' : List (Ev ι R)} (h : tr <:+ tr') : own i tr <:+ own i tr' := by
  obtain ⟨pre, rfl⟩ := h
  induction pre with
  | nil => exact List.suffix_rfl
  | cons e pre ih => exact ih.trans (own_suffix_cons i e _)

/-- What stands in an own history stands in the trace, behind the same past. -/
theorem exists_past_of_own {i : ι} {c : C} {r : R c} {h : Hist R} {tr : List (Ev ι R)}
    (hsuf : ⟨c, r⟩ :: h <:+ own i tr) : ∃ past, ⟨i, c, r⟩ :: past <:+ tr ∧ own i past = h := by
  induction tr with
  | nil => exact absurd (List.suffix_nil.1 hsuf) (List.cons_ne_nil _ _)
  | cons e tr ih =>
      obtain ⟨j, d, t⟩ := e
      by_cases hj : j = i
      · subst hj
        rw [own_cons_self, List.suffix_cons_iff] at hsuf
        rcases hsuf with heq | hsuf
        · cases heq
          exact ⟨tr, List.suffix_rfl, rfl⟩
        · obtain ⟨past, hpast, hown⟩ := ih hsuf
          exact ⟨past, hpast.trans (List.suffix_cons _ _), hown⟩
      · rw [own_cons_of_ne hj] at hsuf
        obtain ⟨past, hpast, hown⟩ := ih hsuf
        exact ⟨past, hpast.trans (List.suffix_cons _ _), hown⟩

/-- Of two pasts of one trace, one event of a thread is in the other if it is in its own history. -/
theorem suffix_of_own {i : ι} {c : C} {r : R c} {past past' tr : List (Ev ι R)}
    (hs : ⟨i, c, r⟩ :: past <:+ tr) (hs' : past' <:+ tr)
    (hown : ⟨c, r⟩ :: own i past <:+ own i past') : ⟨i, c, r⟩ :: past <:+ past' := by
  rcases List.suffix_or_suffix_of_suffix hs hs' with hsuf | hsuf
  · exact hsuf
  · rcases List.suffix_cons_iff.1 hsuf with rfl | hsuf
    · exact List.suffix_rfl
    · have hle := hown.length_le.trans (own_suffix i hsuf).length_le
      rw [List.length_cons] at hle
      omega

/-- Two events of one thread with equally long own pasts are the same event. -/
theorem eq_of_own_length {i : ι} {c c' : C} {r : R c} {r' : R c'} {past past' tr : List (Ev ι R)}
    (hs : ⟨i, c, r⟩ :: past <:+ tr) (hs' : ⟨i, c', r'⟩ :: past' <:+ tr)
    (hlen : (own i past).length = (own i past').length) :
    (⟨i, c, r⟩ :: past : List (Ev ι R)) = ⟨i, c', r'⟩ :: past' := by
  have hnot {past past' : List (Ev ι R)} {c : C} {r : R c}
      (hlen : (own i past).length = (own i past').length)
      (hlater : ⟨i, c, r⟩ :: past <:+ past') : False := by
    have hle := (own_suffix i hlater).length_le
    rw [own_cons_self, List.length_cons, hlen] at hle
    omega
  rcases List.suffix_or_suffix_of_suffix hs hs' with hsuf | hsuf
  · rcases List.suffix_cons_iff.1 hsuf with heq | hlater
    · exact heq
    · exact (hnot hlen hlater).elim
  · rcases List.suffix_cons_iff.1 hsuf with heq | hlater
    · exact heq.symm
    · exact (hnot hlen.symm hlater).elim

end Own

/-- An event of a trace has a past. -/
theorem exists_past {e : Ev ι R} {tr : List (Ev ι R)} (h : e ∈ tr) :
    ∃ past, e :: past <:+ tr := by
  obtain ⟨pre, past, rfl⟩ := List.append_of_mem h
  exact ⟨past, List.suffix_append pre _⟩

namespace Machine

variable [DecidableEq ι] (M : Machine σ ι ω R L)

/-- Let thread `i` take its next step under the oracle `o`, if `ok` accepts the command. -/
def step (ok : World σ ι R → ι → (c : C) → R c → Bool) (i : ι) (o : ω) (cfg : Config σ ι R L) :
    Option (Config σ ι R L) :=
  match cfg.threads i with
  | .ret l => some { cfg with threads := Function.update cfg.threads i (M.body l) }
  | .op c k =>
      match M.exec i c o cfg.world.state with
      | some (r, s) =>
          if ok cfg.world i c r then
            some ⟨Function.update cfg.threads i (k r), cfg.world.push i c r s⟩
          else none
      | none => none

/-- Follow a schedule. -/
def run (ok : World σ ι R → ι → (c : C) → R c → Bool) :
    List (ι × ω) → Config σ ι R L → Option (Config σ ι R L)
  | [], cfg => some cfg
  | (i, o) :: sched, cfg => (M.step ok i o cfg).bind (run ok sched)

/-- One step, of a run in which every executed command meets `A`. -/
inductive Step (A : World σ ι R → ι → (c : C) → R c → Prop) :
    Config σ ι R L → Config σ ι R L → Prop
  | turn {cfg : Config σ ι R L} {i : ι} {l : L} (hl : cfg.threads i = .ret l) :
      Step A cfg { cfg with threads := Function.update cfg.threads i (M.body l) }
  | act {cfg : Config σ ι R L} {i : ι} {c : C} {k : R c → Prog C R L} {o : ω} {r : R c} {s : σ}
      (hop : cfg.threads i = .op c k) (hexec : M.exec i c o cfg.world.state = some (r, s))
      (hA : A cfg.world i c r) :
      Step A cfg ⟨Function.update cfg.threads i (k r), cfg.world.push i c r s⟩

/-- The configurations a run from `init` reaches. -/
inductive Reach (A : World σ ι R → ι → (c : C) → R c → Prop) (init : Config σ ι R L) :
    Config σ ι R L → Prop
  | refl : Reach A init init
  | tail {cfg cfg' : Config σ ι R L} : Reach A init cfg → M.Step A cfg cfg' → Reach A init cfg'

end Machine

/-- Every step is allowed. -/
def Free (_ : World σ ι R) (_ : ι) (c : C) (_ : R c) : Prop := True

section Runs

variable [DecidableEq ι] {M : Machine σ ι ω R L} {A : World σ ι R → ι → (c : C) → R c → Prop}
  {init cfg cfg' : Config σ ι R L}

variable {ok : World σ ι R → ι → (c : C) → R c → Bool}

/-- An executed step is a step, where what `ok` accepts meets `A`. -/
theorem Machine.step_sound (hok : ∀ w i c r, ok w i c r = true → A w i c r) {i : ι} {o : ω}
    (h : M.step ok i o cfg = some cfg') : M.Step A cfg cfg' := by
  unfold Machine.step at h
  split at h
  · next l hl =>
      cases h
      exact .turn hl
  · next c k hop =>
      split at h
      · next r s hexec =>
          split at h
          · next haccept =>
              cases h
              exact .act hop hexec (hok _ _ _ _ haccept)
          · cases h
      · cases h

/-- An executed schedule is a run. -/
theorem Machine.run_sound (hok : ∀ w i c r, ok w i c r = true → A w i c r) :
    ∀ {sched : List (ι × ω)} {cfg : Config σ ι R L},
      M.Reach A init cfg → M.run ok sched cfg = some cfg' → M.Reach A init cfg'
  | [], _, hr, h => by cases h; exact hr
  | (i, o) :: sched, cfg, hr, h => by
      rw [Machine.run, Option.bind_eq_some_iff] at h
      obtain ⟨cfg₁, hstep, hrest⟩ := h
      exact Machine.run_sound hok (hr.tail (Machine.step_sound hok hstep)) hrest

/-- A schedule that ends where `p` holds shows that `p` is reached. -/
theorem Machine.reach_of_run (hok : ∀ w i c r, ok w i c r = true → A w i c r)
    {sched : List (ι × ω)} {p : Config σ ι R L → Bool}
    (h : (M.run ok sched init).any p = true) : ∃ cfg, M.Reach A init cfg ∧ p cfg = true := by
  cases hrun : M.run ok sched init with
  | none => simp [hrun] at h
  | some cfg =>
      refine ⟨cfg, Machine.run_sound hok .refl hrun, ?_⟩
      simpa [hrun] using h

/-- What is known of every step of a run may be asked of it. -/
theorem Machine.Reach.strengthen {B : World σ ι R → ι → (c : C) → R c → Prop}
    (hB : ∀ (cfg : Config σ ι R L) (i : ι) (c : C) (o : ω) (r : R c) (s : σ), M.Reach A init cfg →
      A cfg.world i c r → M.exec i c o cfg.world.state = some (r, s) → B cfg.world i c r)
    (h : M.Reach A init cfg) : M.Reach B init cfg := by
  induction h with
  | refl => exact .refl
  | tail hr hstep ih =>
      cases hstep with
      | turn hl => exact ih.tail (.turn hl)
      | act hop hexec hA => exact ih.tail (.act hop hexec (hB _ _ _ _ _ _ hr hA hexec))

/-- Fewer restrictions, more runs. -/
theorem Machine.Reach.mono {B : World σ ι R → ι → (c : C) → R c → Prop}
    (hAB : ∀ w i c r, A w i c r → B w i c r) (h : M.Reach A init cfg) : M.Reach B init cfg :=
  h.strengthen fun _ _ _ _ _ _ _ hA _ => hAB _ _ _ _ hA

/-- **Origins.**  What the state holds and did not hold at the start was put there by an
event. -/
theorem Machine.Reach.origin {β : Type} (holds : σ → β → Prop) (puts : Ev ι R → β → Prop)
    (h0 : ∀ b, ¬ holds init.world.state b)
    (hstep : ∀ (i : ι) (c : C) (o : ω) (s : σ) (r : R c) (s' : σ) (b : β),
      M.exec i c o s = some (r, s') → holds s' b → holds s b ∨ puts ⟨i, c, r⟩ b)
    (h : M.Reach A init cfg) {b : β} (hb : holds cfg.world.state b) :
    ∃ e ∈ cfg.world.trace, puts e b := by
  induction h with
  | refl => exact absurd hb (h0 b)
  | tail _ hs ih =>
      cases hs with
      | turn hl => exact ih hb
      | act hop hexec hAi =>
          rcases hstep _ _ _ _ _ _ b hexec hb with hold | hnew
          · obtain ⟨e, hmem, he⟩ := ih hold
            exact ⟨e, List.mem_cons_of_mem _ hmem, he⟩
          · exact ⟨_, List.mem_cons_self, hnew⟩

variable {ρ : ι → Rules R} {At : ι → L → Hist R → Prop}

/-- The code of every thread, started where it starts, follows that thread's rules.
`At i l` is what thread `i` knows of its own history when it is about to run label `l`. -/
structure Machine.Follows (M : Machine σ ι ω R L) (ρ : ι → Rules R)
    (At : ι → L → Hist R → Prop) (init : Config σ ι R L) : Prop where
  body : ∀ i l h, At i l h → (M.body l).Conforms (ρ i) (At i) h
  start : ∀ i, (init.threads i).Conforms (ρ i) (At i) (own i init.world.trace)

/-- Along every run, what a thread has left to do conforms to its rules. -/
theorem Machine.Reach.conforms (hM : M.Follows ρ At init)
    (hA : ∀ w i c r, A w i c r → (ρ i).hears (own i w.trace) c r) (h : M.Reach A init cfg) :
    ∀ i, (cfg.threads i).Conforms (ρ i) (At i) (own i cfg.world.trace) := by
  induction h with
  | refl => exact hM.start
  | @tail cfg _ _ hstep ih =>
      cases hstep with
      | @turn i l hl =>
          intro j
          by_cases hj : j = i
          · subst hj
            have hat : At j l (own j cfg.world.trace) := by
              have := ih j
              rwa [hl] at this
            simpa using hM.body j l _ hat
          · simpa [hj] using ih j
      | @act i c k o r s hop hexec hAi =>
          intro j
          by_cases hj : j = i
          · subst hj
            have hrest := ih j
            rw [hop, Prog.conforms_op] at hrest
            simpa using hrest.2 r (hA _ _ _ _ hAi)
          · have hne : own j (⟨i, c, r⟩ :: cfg.world.trace) = own j cfg.world.trace :=
              own_cons_of_ne (fun h => hj h.symm) c r _
            simpa [hj, hne] using ih j

/-- The command a thread is about to issue is one its rules allow. -/
theorem Machine.Reach.may (hM : M.Follows ρ At init)
    (hA : ∀ w i c r, A w i c r → (ρ i).hears (own i w.trace) c r) (h : M.Reach A init cfg)
    {i : ι} {c : C} {k : R c → Prog C R L} (hop : cfg.threads i = .op c k) :
    (ρ i).may (own i cfg.world.trace) c := by
  have hc := h.conforms hM hA i
  rw [hop] at hc
  exact hc.1

/-- **Progress.**  A thread whose allowed commands can always be executed can be run to its
next label, and returns what its code is known to return. -/
theorem Machine.Reach.completes {i : ι} {Q : L → Hist R → Prop}
    (hready : ∀ (cfg : Config σ ι R L) (c : C), M.Reach A init cfg →
      (ρ i).may (own i cfg.world.trace) c → ∃ o r s, M.exec i c o cfg.world.state = some (r, s) ∧
        A cfg.world i c r ∧ (ρ i).hears (own i cfg.world.trace) c r) :
    ∀ {p : Prog C R L} {cfg : Config σ ι R L}, M.Reach A init cfg → cfg.threads i = p →
      p.Conforms (ρ i) Q (own i cfg.world.trace) →
      ∃ cfg' l, M.Reach A init cfg' ∧ cfg'.threads i = .ret l ∧
        cfg.world.trace <:+ cfg'.world.trace ∧ Q l (own i cfg'.world.trace) := by
  intro p
  induction p with
  | ret l =>
      intro cfg hr hp hQ
      exact ⟨cfg, l, hr, hp, List.suffix_rfl, hQ⟩
  | op c k ih =>
      intro cfg hr hp hconf
      obtain ⟨hmay, hrest⟩ := hconf
      obtain ⟨o, r, s, hexec, hA, hears⟩ := hready cfg c hr hmay
      have hnext := hr.tail (.act hp hexec hA)
      obtain ⟨cfg', l, hr', hl, hsuf, hQ⟩ := ih r hnext (by simp) (by
        rw [World.push_trace, own_cons_self]
        exact hrest r hears)
      exact ⟨cfg', l, hr', hl, (List.suffix_cons _ _).trans hsuf, hQ⟩

/-- **Invariants over runs.**  What holds at the start and is kept by every command that
obeys its thread's rules and the restriction `A` holds in every world a run reaches.  The
step may use what is already known of reachable configurations. -/
theorem Machine.Reach.inv (hM : M.Follows ρ At init)
    (hA : ∀ w i c r, A w i c r → (ρ i).hears (own i w.trace) c r)
    (I : World σ ι R → Prop) (h0 : I init.world)
    (hstep : ∀ (cfg : Config σ ι R L) (i : ι) (c : C) (o : ω) (r : R c) (s : σ),
      M.Reach A init cfg → I cfg.world → (ρ i).may (own i cfg.world.trace) c →
      A cfg.world i c r → M.exec i c o cfg.world.state = some (r, s) →
      I (cfg.world.push i c r s))
    (h : M.Reach A init cfg) : I cfg.world := by
  induction h with
  | refl => exact h0
  | tail hr hs ih =>
      cases hs with
      | turn hl => exact ih
      | act hop hexec hAi => exact hstep _ _ _ _ _ _ hr ih (hr.may hM hA hop) hAi hexec

/-- **Events of runs.**  What every command that obeys its rules satisfies when it is
executed, with respect to the trace in front of it, is true of all events of a run. -/
theorem Machine.Reach.events (hM : M.Follows ρ At init)
    (hA : ∀ w i c r, A w i c r → (ρ i).hears (own i w.trace) c r)
    (P : List (Ev ι R) → Ev ι R → Prop) (h0 : init.world.trace = [])
    (hstep : ∀ (cfg : Config σ ι R L) (i : ι) (c : C) (o : ω) (r : R c) (s : σ),
      M.Reach A init cfg → (ρ i).may (own i cfg.world.trace) c →
      A cfg.world i c r → M.exec i c o cfg.world.state = some (r, s) →
      P cfg.world.trace ⟨i, c, r⟩)
    (h : M.Reach A init cfg) :
    ∀ (e : Ev ι R) (past : List (Ev ι R)), e :: past <:+ cfg.world.trace → P past e := by
  refine h.inv hM hA (fun w => ∀ e past, e :: past <:+ w.trace → P past e) ?_ ?_
  · intro e past hsuf
    rw [h0] at hsuf
    exact absurd (List.suffix_nil.1 hsuf) (List.cons_ne_nil _ _)
  · intro cfg i c o r s hr hI hmay hAi hexec e past hsuf
    rw [World.push_trace, List.suffix_cons_iff] at hsuf
    rcases hsuf with heq | hsuf
    · cases heq
      exact hstep cfg i c o r s hr hmay hAi hexec
    · exact hI e past hsuf

end Runs

end Interleave
