/-
# `Interleave.Walk` — a thread clears a shared map that others write to

The walk over a concurrent map is not atomic: it starts with the keys it
finds, meets what is there and not yet met, and ends when nothing of what it
started with is left unmet.  A thread that removes what it met on the way has
then cleared the map of every key of one kind, provided nobody has inserted a
key of that kind since the walk began (`absent_of_swept`).

The map is what the operations of the trace make of an empty one (`mapAt`),
where `view` says which commands are operations on it.
-/
import Phirepass.Interleave.Path
import Phirepass.Rust.Map

namespace Interleave

open Rust

variable {σ ι ω C L K V : Type} {R : C → Type}

/-- The walk begun with `h₀` goes on; `found` are the keys with `P` that it has met. -/
structure Walking (P : K → Prop) (h₀ : Hist R) (visited found : List K) (h : Hist R) : Prop where
  begun : h₀ <:+ h
  found_iff : ∀ key, key ∈ found ↔ key ∈ visited ∧ P key

section Walking

variable {P : K → Prop} {h₀ h h' : Hist R} {visited found : List K} {key : K}

theorem Walking.start (hs : h₀ <:+ h) : Walking P h₀ [] [] h := ⟨hs, by simp⟩

theorem Walking.mono (hs : h <:+ h') (hw : Walking P h₀ visited found h) :
    Walking P h₀ visited found h' := ⟨hw.begun.trans hs, hw.found_iff⟩

/-- One more key is met. -/
theorem Walking.meet {selects : Bool} (hsel : selects = true ↔ P key)
    (hw : Walking P h₀ visited found h) :
    Walking P h₀ (key :: visited) (if selects then found ++ [key] else found) h := by
  refine ⟨hw.begun, fun key' => ?_⟩
  have hold := hw.found_iff key'
  by_cases hkey : key' = key
  · subst hkey
    by_cases hs : selects = true
    · simp [hs, hsel.1 hs]
    · have hP : ¬ P key' := fun hP => hs (hsel.2 hP)
      simp [hs, hP, hold]
  · by_cases hs : selects = true
    · simp [hs, hold, hkey]
    · simp [hs, hold, hkey]

end Walking

/-- An operation on the map and its answer. -/
abbrev Answer (K V : Type) : Type := Σ op : MapOp K V, op.Resp

/-- The own history starts with the snapshot of the keys. -/
def Begins (view : (c : C) → R c → Option (Answer K V)) (begun : List K) (h₀ : Hist R) : Prop :=
  ∃ e h, h₀ = e :: h ∧ view e.1 e.2 = some ⟨.keys, begun⟩

/-- Since `h₀` the key was removed. -/
def Removed (view : (c : C) → R c → Option (Answer K V)) (h₀ : Hist R) (key : K) (h : Hist R) :
    Prop :=
  ∃ e h' found, e :: h' <:+ h ∧ h₀ <:+ h' ∧ view e.1 e.2 = some ⟨.remove key, found⟩

/-- The walk begun with `h₀` is over, and the keys with `P` that it met were removed. -/
def Swept (view : (c : C) → R c → Option (Answer K V)) (P : K → Prop) (h₀ h : Hist R) : Prop :=
  ∃ begun visited, Begins view begun h₀ ∧
    (∃ e h', e :: h' <:+ h ∧ h₀ <:+ h' ∧ view e.1 e.2 = some ⟨.next begun visited, none⟩) ∧
      ∀ key ∈ visited, P key → Removed view h₀ key h

section Own

variable {view : (c : C) → R c → Option (Answer K V)} {P : K → Prop} {h₀ h h' : Hist R} {key : K}

theorem Removed.mono (hs : h <:+ h') (hr : Removed view h₀ key h) : Removed view h₀ key h' := by
  obtain ⟨e, h₁, found, hsuf, hbegun, hview⟩ := hr
  exact ⟨e, h₁, found, hsuf.trans hs, hbegun, hview⟩

/-- The walk meets no more keys, and those it has found are removed. -/
theorem Walking.swept {begun visited found : List K} {e : Sigma R}
    (hw : Walking P h₀ visited found h) (hbegins : Begins view begun h₀)
    (hend : view e.1 e.2 = some ⟨.next begun visited, none⟩) (hs : e :: h <:+ h')
    (hall : ∀ key ∈ found, Removed view h₀ key h') : Swept view P h₀ h' :=
  ⟨begun, visited, hbegins, ⟨e, h, hs, hw.begun, hend⟩,
    fun key hmem hP => hall key ((hw.found_iff key).2 ⟨hmem, hP⟩)⟩

theorem Swept.mono (hs : h <:+ h') (hw : Swept view P h₀ h) : Swept view P h₀ h' := by
  obtain ⟨begun, visited, hbegins, ⟨e, h₁, hsuf, hbegun, hview⟩, hremoved⟩ := hw
  exact ⟨begun, visited, hbegins, ⟨e, h₁, hsuf.trans hs, hbegun, hview⟩,
    fun key hmem hP => (hremoved key hmem hP).mono hs⟩

end Own

variable [DecidableEq K]

/-- The map that the operations of a trace make. -/
def mapAt (view : (c : C) → R c → Option (Answer K V)) : List (Ev ι R) → DashMap K V
  | [] => ∅
  | e :: tr =>
      match view e.cmd e.resp with
      | some x => MapOp.apply (mapAt view tr) x.1
      | none => mapAt view tr

/-- Every operation was answered by the map it met. -/
def Answered (view : (c : C) → R c → Option (Answer K V)) (tr : List (Ev ι R)) : Prop :=
  ∀ e past x, e :: past <:+ tr → view e.cmd e.resp = some x →
    ∃ pick, MapOp.answer (mapAt view past) pick x.1 = some x.2

section Trace

variable {view : (c : C) → R c → Option (Answer K V)} {tr tr' : List (Ev ι R)} {key : K}

theorem mapAt_cons {e : Ev ι R} {x : Answer K V} (hx : view e.cmd e.resp = some x) :
    mapAt view (e :: tr) = MapOp.apply (mapAt view tr) x.1 := by
  rw [mapAt, hx]

theorem mapAt_cons_none {e : Ev ι R} (hx : view e.cmd e.resp = none) :
    mapAt view (e :: tr) = mapAt view tr := by
  rw [mapAt, hx]

/-- What is in the map now and was not inserted since was there before. -/
theorem present_before (hs : tr' <:+ tr) (hkey : ((mapAt view tr).lookup key).isSome = true)
    (hno : ∀ e past v r, e :: past <:+ tr → tr' <:+ past →
      view e.cmd e.resp ≠ some ⟨.insert key v, r⟩) :
    ((mapAt view tr').lookup key).isSome = true := by
  induction tr with
  | nil =>
      obtain rfl := List.suffix_nil.1 hs
      exact hkey
  | cons e tr ih =>
      rcases List.suffix_cons_iff.1 hs with rfl | hs
      · exact hkey
      · have hrest : ∀ e' past v r, e' :: past <:+ tr → tr' <:+ past →
            view e'.cmd e'.resp ≠ some ⟨.insert key v, r⟩ := fun e' past v r hpast =>
          hno e' past v r (hpast.trans (List.suffix_cons e tr))
        refine ih hs ?_ hrest
        cases hx : view e.cmd e.resp with
        | none => rwa [mapAt_cons_none hx] at hkey
        | some x =>
            rw [mapAt_cons hx] at hkey
            rcases MapOp.isSome_apply hkey with hold | ⟨v, hins⟩
            · exact hold
            · obtain ⟨op, r⟩ := x
              obtain rfl : op = .insert key v := hins
              exact absurd hx (hno e tr v r List.suffix_rfl hs)

variable [DecidableEq ι] {i : ι} {P : K → Prop} {h₀ : Hist R}

/-- **A swept map is clear.**  If no key with `P` was inserted since thread `i` began its walk,
none is left after it. -/
theorem absent_of_swept (hans : Answered view tr) (hw : Swept view P h₀ (own i tr))
    (hno : ∀ e past key v r, e :: past <:+ tr → view e.cmd e.resp = some ⟨.insert key v, r⟩ →
      P key → ¬ h₀ <:+ own i past) (hP : P key) : (mapAt view tr).lookup key = none := by
  by_contra hkey
  replace hkey := Option.isSome_iff_ne_none.2 hkey
  -- at any time since the walk began, the key was there
  have hthere {past : List (Ev ι R)} (hpast : past <:+ tr) (hbegun : h₀ <:+ own i past) :
      ((mapAt view past).lookup key).isSome = true :=
    present_before hpast hkey fun e past' v r hs hle hins =>
      hno e past' key v r hs hins hP (hbegun.trans (own_suffix i hle))
  obtain ⟨begun, visited, ⟨e₀, h, rfl, hkeys⟩, ⟨e₁, h₁, hs₁, hbegun₁, hnext⟩, hremoved⟩ := hw
  -- so it was among those the walk started with, and was met
  have hvisited : key ∈ visited := by
    obtain ⟨past₁, hpast₁, rfl⟩ := exists_past_of_own hs₁
    obtain ⟨past₀, hpast₀, rfl⟩ := exists_past_of_own hbegun₁
    have hle₁ := (List.suffix_cons _ _).trans hpast₁
    obtain ⟨pick₁, hend⟩ := hans _ _ _ hpast₁ hnext
    obtain ⟨pick₀, hbegin⟩ := hans _ _ _ (hpast₀.trans hle₁) hkeys
    cases hbegin
    have hmem {past : List (Ev ι R)} (hin : ((mapAt view past).lookup key).isSome = true) :
        key ∈ (mapAt view past).keys := AList.mem_keys.1 (AList.lookup_isSome.1 hin)
    refine (MapOp.answer_next hend).2 rfl key (hmem ?_) (hmem (hthere hle₁ hbegun₁))
    have hnow := hthere (hpast₀.trans hle₁) (by rw [own_cons_self])
    rwa [mapAt_cons hkeys] at hnow
  -- and removed, although it is still there
  obtain ⟨e, h', found, hs, hbegun, hrem⟩ := hremoved key hvisited hP
  obtain ⟨past, hpast, rfl⟩ := exists_past_of_own hs
  have hnow := hthere hpast (by rw [own_cons_self]; exact hbegun.trans (List.suffix_cons _ _))
  rw [mapAt_cons hrem, MapOp.apply, AList.lookup_erase] at hnow
  cases hnow

/-- Along a run, a part of the state that only the commands in `view` touch is the map they
make, and answers them. -/
theorem Machine.Reach.answered {M : Machine σ ι ω R L}
    {A : World σ ι R → ι → (c : C) → R c → Prop} {init cfg : Config σ ι R L}
    (part : σ → DashMap K V)
    (hop : ∀ i c o s r s' x, M.exec i c o s = some (r, s') → view c r = some x →
      ∃ pick, MapOp.exec (part s) pick x.1 = some (x.2, part s'))
    (hother : ∀ i c o s r s', M.exec i c o s = some (r, s') → view c r = none → part s' = part s)
    (h0 : init.world.trace = []) (hempty : part init.world.state = ∅)
    (hr : M.Reach A init cfg) :
    part cfg.world.state = mapAt view cfg.world.trace ∧ Answered view cfg.world.trace := by
  induction hr with
  | refl =>
      rw [h0]
      exact ⟨hempty, fun e past _ hs => absurd (List.suffix_nil.1 hs) (List.cons_ne_nil _ _)⟩
  | tail _ hstep ih =>
      obtain ⟨hpart, hans⟩ := ih
      cases hstep with
      | turn hl => exact ⟨hpart, hans⟩
      | @act i c k o r s hthread hexec hAi =>
          cases hx : view c r with
          | none =>
              refine ⟨?_, fun e past x hs hview => ?_⟩
              · rw [World.push_state, World.push_trace, mapAt_cons_none hx, ← hpart]
                exact hother _ _ _ _ _ _ hexec hx
              · rw [World.push_trace, List.suffix_cons_iff] at hs
                rcases hs with heq | hs
                · cases heq
                  rw [hx] at hview
                  cases hview
                · exact hans e past x hs hview
          | some x =>
              obtain ⟨pick, happ⟩ := hop _ _ _ _ _ _ x hexec hx
              obtain ⟨hanswer, hnew⟩ := MapOp.exec_eq_some.1 happ
              refine ⟨?_, fun e past x' hs hview => ?_⟩
              · rw [World.push_state, World.push_trace, mapAt_cons hx, ← hpart]
                exact hnew
              · rw [World.push_trace, List.suffix_cons_iff] at hs
                rcases hs with heq | hs
                · cases heq
                  rw [hx] at hview
                  cases hview
                  rw [← hpart]
                  exact ⟨pick, hanswer⟩
                · exact hans e past x' hs hview

end Trace

end Interleave
