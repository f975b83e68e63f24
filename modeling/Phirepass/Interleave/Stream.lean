/-
# `Interleave.Stream` — what passes through a stage of a pipeline, and in which order

`stream f tr` reads off a trace what its events say, oldest first.  A stage
of a pipeline takes elements in one stream and gives them out in another:

    a queue or a wire     taken = given ++ waiting
    a task in between     taken = given ++ hand, or it has stopped for good
                          and given is a beginning of taken

`Relays` is the second line.  It is kept by an event that takes and gives in
step (`Relays.step`) and by the end of the stage (`Relays.stop`), and either
way nothing is lost in the middle, duplicated or reordered: what was given is
a beginning of what was taken (`Relays.isPrefix`).  For a machine, a stage is
checked one command at a time (`Passes`, `Machine.Reach.relays`).
-/
import Phirepass.Interleave.Link

namespace Interleave

variable {ι C β γ : Type} {R : C → Type}

/-- What the events of a trace say, each behind its own past, oldest first. -/
def stream (f : List (Ev ι R) → Ev ι R → List β) : List (Ev ι R) → List β
  | [] => []
  | e :: tr => stream f tr ++ f tr e

section Stream

variable {f : List (Ev ι R) → Ev ι R → List β} {e : Ev ι R} {tr tr' : List (Ev ι R)}

@[simp] theorem stream_nil : stream f [] = [] := rfl

theorem stream_cons : stream f (e :: tr) = stream f tr ++ f tr e := rfl

/-- A longer trace says more, at the end. -/
theorem stream_of_suffix (h : tr <:+ tr') : stream f tr <+: stream f tr' := by
  obtain ⟨pre, rfl⟩ := h
  induction pre with
  | nil => exact List.prefix_rfl
  | cons e pre ih => exact ih.trans (List.prefix_append _ _)

theorem mem_stream {b : β} : b ∈ stream f tr ↔ ∃ e past, e :: past <:+ tr ∧ b ∈ f past e := by
  induction tr with
  | nil => simp
  | cons e tr ih =>
      rw [stream_cons, List.mem_append, ih]
      constructor
      · rintro (⟨e', past, hs, hb⟩ | hb)
        · exact ⟨e', past, hs.trans (List.suffix_cons _ _), hb⟩
        · exact ⟨e, tr, List.suffix_rfl, hb⟩
      · rintro ⟨e', past, hs, hb⟩
        rcases List.suffix_cons_iff.1 hs with heq | hs
        · cases heq
          exact .inr hb
        · exact .inl ⟨e', past, hs, hb⟩

/-- Reading a stream off a stream. -/
theorem filterMap_stream (g : β → Option γ) :
    (stream f tr).filterMap g = stream (fun past e => (f past e).filterMap g) tr := by
  induction tr with
  | nil => rfl
  | cons e tr ih => rw [stream_cons, stream_cons, List.filterMap_append, ih]

/-- Likewise off one value. -/
theorem filterMap_toList (g : β → Option γ) (o : Option β) :
    o.toList.filterMap g = (o.bind g).toList := by
  rw [List.filterMap_eq_flatMap_toList, Option.toList_bind]
  rfl

/-- Two readings that agree on every event of the trace. -/
theorem stream_congr {g : List (Ev ι R) → Ev ι R → List β}
    (h : ∀ e past, e :: past <:+ tr → f past e = g past e) : stream f tr = stream g tr := by
  induction tr with
  | nil => rfl
  | cons e tr ih =>
      rw [stream_cons, stream_cons, h e tr List.suffix_rfl,
        ih fun e' past hs => h e' past (hs.trans (List.suffix_cons _ _))]

end Stream

/-- What a stage has taken and given, what it has in hand, and whether it has stopped. -/
def Relays (taken given hand : List β) (stopped : Prop) : Prop :=
  taken = given ++ hand ∨ stopped ∧ given <+: taken

section Relays

variable {taken given hand hand' took gave : List β} {stopped stopped' : Prop}

theorem Relays.start : Relays ([] : List β) [] [] stopped := .inl rfl

/-- **Nothing is lost in the middle, duplicated or reordered.** -/
theorem Relays.isPrefix (h : Relays taken given hand stopped) : given <+: taken := by
  rcases h with rfl | ⟨-, h⟩
  · exact List.prefix_append _ _
  · exact h

/-- A stage goes on: what it had in hand and took is what it gave and has in hand now.  A
stage that has stopped stays so and gives nothing. -/
theorem Relays.step (h : Relays taken given hand stopped) (hstep : hand ++ took = gave ++ hand')
    (hstop : stopped → stopped' ∧ gave = []) :
    Relays (taken ++ took) (given ++ gave) hand' stopped' := by
  rcases h with rfl | ⟨hd, hpre⟩
  · refine .inl ?_
    rw [List.append_assoc, hstep, List.append_assoc]
  · obtain ⟨hd', rfl⟩ := hstop hd
    rw [List.append_nil]
    exact .inr ⟨hd', hpre.trans (List.prefix_append _ _)⟩

/-- A stage stops and gives nothing more. -/
theorem Relays.stop (h : Relays taken given hand stopped) (hd : stopped') :
    Relays (taken ++ took) (given ++ []) hand' stopped' := by
  rw [List.append_nil]
  exact .inr ⟨hd, h.isPrefix.trans (List.prefix_append _ _)⟩

/-- A stage that never stops loses nothing. -/
theorem Relays.exact (h : Relays taken given hand False) :
    taken = given ++ hand := h.resolve_right fun hd => hd.1

end Relays

/-! ## Stages of a machine -/

section Stage

variable {σ ω L : Type} [DecidableEq ι] {M : Machine σ ι ω R L}
  {A : World σ ι R → ι → (c : C) → R c → Prop} {init cfg : Config σ ι R L} {ρ : ι → Rules R}
  {At : ι → L → Hist R → Prop}

/-- One step of a stage: it goes on, or it stops. -/
structure Passes (hand hand' took gave : List β) (stopped stopped' : Prop) : Prop where
  on : hand ++ took = gave ++ hand' ∨ stopped' ∧ gave = []
  still : stopped → stopped' ∧ gave = []

/-- Nothing passes. -/
theorem Passes.idle {hand : List β} {stopped stopped' : Prop} (h : stopped → stopped') :
    Passes hand hand [] [] stopped stopped' :=
  ⟨.inl (List.append_nil _), fun hd => ⟨h hd, rfl⟩⟩

/-- **A stage of a machine** relays in every world a run reaches, if every command that obeys
its rules passes it. -/
theorem Machine.Reach.relays (hM : M.Follows ρ At init)
    (hA : ∀ w i c r, A w i c r → (ρ i).hears (own i w.trace) c r)
    (taken given : List (Ev ι R) → Ev ι R → List β) (hand : World σ ι R → List β)
    (stopped : World σ ι R → Prop) (h0 : init.world.trace = []) (hhand : hand init.world = [])
    (hstep : ∀ (cfg : Config σ ι R L) (i : ι) (c : C) (o : ω) (r : R c) (s : σ),
      M.Reach A init cfg → (ρ i).may (own i cfg.world.trace) c → A cfg.world i c r →
      M.exec i c o cfg.world.state = some (r, s) →
      Passes (hand cfg.world) (hand (cfg.world.push i c r s)) (taken cfg.world.trace ⟨i, c, r⟩)
        (given cfg.world.trace ⟨i, c, r⟩) (stopped cfg.world) (stopped (cfg.world.push i c r s)))
    (h : M.Reach A init cfg) :
    Relays (stream taken cfg.world.trace) (stream given cfg.world.trace) (hand cfg.world)
      (stopped cfg.world) := by
  refine h.inv hM hA (fun w => Relays (stream taken w.trace) (stream given w.trace) (hand w)
    (stopped w)) ?_ ?_
  · rw [h0, hhand]
    exact .start
  · intro cfg i c o r s hr hI hmay hAi hexec
    have hpass := hstep cfg i c o r s hr hmay hAi hexec
    rw [World.push_trace, stream_cons, stream_cons]
    rcases hpass.on with hon | ⟨hd, hgave⟩
    · exact hI.step hon hpass.still
    · rw [hgave]
      exact hI.stop hd

end Stage

/-! ## What holds at the end held all along -/

section Restrict

variable {σ ω L : Type} [DecidableEq ι] {M : Machine σ ι ω R L}
  {A : World σ ι R → ι → (c : C) → R c → Prop} {init cfg : Config σ ι R L}

/-- A run to a trace that satisfies `F` passed only such traces, where `F` says that something
has not happened. -/
theorem Machine.Reach.restrict {F : List (Ev ι R) → Prop}
    (hF : ∀ tr tr', tr <:+ tr' → F tr' → F tr) (h : M.Reach A init cfg) (hf : F cfg.world.trace) :
    M.Reach (fun w i c r => A w i c r ∧ F (⟨i, c, r⟩ :: w.trace)) init cfg := by
  induction h with
  | refl => exact .refl
  | tail hr hstep ih =>
      cases hstep with
      | turn hl => exact (ih hf).tail (.turn hl)
      | act hop hexec hA =>
          exact (ih (hF _ _ (List.suffix_cons _ _) hf)).tail (.act hop hexec ⟨hA, hf⟩)

end Restrict

end Interleave
