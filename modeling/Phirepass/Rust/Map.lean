/-
# `Rust.Map` — a concurrent hash map

`DashMap` as the code uses it: shared between tasks, each operation atomic on
the entry it names.  `get` copies the value out, so the guards the real map
hands out are not modelled; without them more interleavings are possible, not
fewer.

Iteration is the one operation that is not atomic.  `keys` marks its start
and each `next` yields one entry; an entry that is there throughout is
yielded exactly once, one that comes or goes meanwhile may or may not be.
`retain` is such an iteration with a `removeIf` at every key.
-/
import Mathlib.Data.List.AList

namespace Rust

/-- `DashMap<K, V>`. -/
abbrev DashMap (K V : Type) : Type := AList (fun _ : K => V)

/-- The atomic operations on a map. -/
inductive MapOp (K V : Type) where
  | get (key : K)
  | insert (key : K) (value : V)
  | remove (key : K)
  /-- Assign through a `get_mut` guard. -/
  | modify (key : K) (f : V → V)
  /-- Remove the entry if it satisfies `p`. -/
  | removeIf (key : K) (p : V → Bool)
  | keys
  | next (start visited : List K)

namespace MapOp

variable {K V : Type}

/-- What the operation answers. -/
@[reducible] def Resp : MapOp K V → Type
  | .get _ | .insert _ _ | .remove _ => Option V
  | .modify _ _ | .removeIf _ _ => Bool
  | .keys => List K
  | .next _ _ => Option (K × V)

variable [DecidableEq K]

/-- What the operation leaves behind. -/
def apply (m : DashMap K V) : MapOp K V → DashMap K V
  | .insert k v => m.insert k v
  | .remove k => m.erase k
  | .modify k f =>
      match m.lookup k with
      | some v => m.insert k (f v)
      | none => m
  | .removeIf k p =>
      match m.lookup k with
      | some v => if p v then m.erase k else m
      | none => m
  | .get _ | .keys | .next _ _ => m

/-- Its answer; `pick` is the key an iteration moves to, and `none` that it cannot move
there. -/
def answer (m : DashMap K V) (pick : Option K) : (op : MapOp K V) → Option op.Resp
  | .get k | .insert k _ | .remove k => some (m.lookup k)
  | .modify k _ => some (m.lookup k).isSome
  | .removeIf k p => some ((m.lookup k).any p)
  | .keys => some m.keys
  | .next start visited =>
      match pick with
      | some k =>
          if k ∈ visited then none
          else (m.lookup k).map fun v => some (k, v)
      | none => if ∀ k ∈ start, k ∈ m.keys → k ∈ visited then some none else none

def exec (m : DashMap K V) (pick : Option K) (op : MapOp K V) : Option (op.Resp × DashMap K V) :=
  (answer m pick op).map fun r => (r, apply m op)

theorem exec_eq_some {m m' : DashMap K V} {pick : Option K} {op : MapOp K V} {r : op.Resp} :
    exec m pick op = some (r, m') ↔ answer m pick op = some r ∧ m' = apply m op := by
  unfold exec
  constructor
  · intro h
    obtain ⟨r', hr, heq⟩ := Option.map_eq_some_iff.1 h
    cases heq
    exact ⟨hr, rfl⟩
  · rintro ⟨hr, rfl⟩
    rw [hr, Option.map_some]

/-- An entry is the one that was there, the one just inserted, or the modified one. -/
theorem lookup_apply {m : DashMap K V} {op : MapOp K V} {k : K} {v : V}
    (h : (apply m op).lookup k = some v) :
    m.lookup k = some v ∨ op = .insert k v ∨
      ∃ f v', op = .modify k f ∧ m.lookup k = some v' ∧ v = f v' := by
  cases op with
  | get | keys | next => exact .inl h
  | insert k' v' =>
      by_cases hk : k = k'
      · subst hk
        rw [apply, AList.lookup_insert] at h
        cases h
        exact .inr (.inl rfl)
      · rw [apply, AList.lookup_insert_ne hk] at h
        exact .inl h
  | remove k' =>
      by_cases hk : k = k'
      · subst hk
        rw [apply, AList.lookup_erase] at h
        cases h
      · rw [apply, AList.lookup_erase_ne hk] at h
        exact .inl h
  | modify k' f =>
      simp only [apply] at h
      split at h
      · next v' hv' =>
          by_cases hk : k = k'
          · subst hk
            rw [AList.lookup_insert] at h
            cases h
            exact .inr (.inr ⟨f, v', rfl, hv', rfl⟩)
          · rw [AList.lookup_insert_ne hk] at h
            exact .inl h
      · exact .inl h
  | removeIf k' p =>
      simp only [apply] at h
      split at h
      · split at h
        · by_cases hk : k = k'
          · subst hk
            rw [AList.lookup_erase] at h
            cases h
          · rw [AList.lookup_erase_ne hk] at h
            exact .inl h
        · exact .inl h
      · exact .inl h

/-- An entry was there, or has just been inserted. -/
theorem isSome_apply {m : DashMap K V} {op : MapOp K V} {k : K}
    (h : ((apply m op).lookup k).isSome = true) :
    (m.lookup k).isSome = true ∨ ∃ v, op = .insert k v := by
  obtain ⟨v, hv⟩ := Option.isSome_iff_exists.1 h
  rcases lookup_apply hv with hold | hins | ⟨f, v', -, hold, -⟩
  · exact .inl (Option.isSome_iff_exists.2 ⟨v, hold⟩)
  · exact .inr ⟨v, hins⟩
  · exact .inl (Option.isSome_iff_exists.2 ⟨v', hold⟩)

/-- An entry stays, unless it is removed. -/
theorem isSome_kept {m : DashMap K V} {op : MapOp K V} {k : K}
    (h : (m.lookup k).isSome = true) (hremove : op ≠ .remove k)
    (hremoveIf : ∀ p, op = .removeIf k p → (m.lookup k).any p = false) :
    ((apply m op).lookup k).isSome = true := by
  cases op with
  | get | keys | next => exact h
  | insert k' v =>
      by_cases hk : k = k'
      · subst hk
        rw [apply, AList.lookup_insert]
        rfl
      · rw [apply, AList.lookup_insert_ne hk]
        exact h
  | remove k' =>
      have hk : k ≠ k' := fun hk => hremove (by rw [hk])
      rw [apply, AList.lookup_erase_ne hk]
      exact h
  | modify k' f =>
      simp only [apply]
      split
      · by_cases hk : k = k'
        · subst hk
          rw [AList.lookup_insert]
          rfl
        · rw [AList.lookup_insert_ne hk]
          exact h
      · exact h
  | removeIf k' p =>
      simp only [apply]
      split
      · next v hv =>
          split
          · next hp =>
              have hk : k ≠ k' := by
                rintro rfl
                have hany := hremoveIf p rfl
                rw [hv] at hany
                exact absurd hp (by simpa using hany)
              rw [AList.lookup_erase_ne hk]
              exact h
          · exact h
      · exact h

/-- One step of an iteration: a new key with its entry, or the end, when every key it started
with and that is still there has been visited. -/
theorem answer_next {m : DashMap K V} {pick : Option K} {start visited : List K}
    {r : Option (K × V)} (h : answer m pick (.next start visited) = some r) :
    (∀ key v, r = some (key, v) → key ∉ visited ∧ m.lookup key = some v) ∧
      (r = none → ∀ key ∈ start, key ∈ m.keys → key ∈ visited) := by
  simp only [answer] at h
  split at h
  · next key _ =>
      split at h
      · cases h
      · next hnew =>
          obtain ⟨v, hv, rfl⟩ := Option.map_eq_some_iff.1 h
          refine ⟨fun key' v' heq => ?_, fun heq => nomatch heq⟩
          cases heq
          exact ⟨hnew, hv⟩
  · split at h
    · next hall =>
        cases h
        exact ⟨fun key v heq => (nomatch heq), fun _ => hall⟩
    · cases h

/-- The operation removes no key but ones with `P`, and changes nothing else. -/
def Clears (P : K → Prop) : MapOp K V → Prop
  | .get _ | .keys | .next _ _ => True
  | .remove key => P key
  | .insert _ _ | .modify _ _ | .removeIf _ _ => False

theorem lookup_of_clears {m : DashMap K V} {op : MapOp K V} {P : K → Prop} {k : K}
    (h : op.Clears P) (hk : ¬ P k) : (apply m op).lookup k = m.lookup k := by
  cases op with
  | get | keys | next => rfl
  | remove k' =>
      have hne : k ≠ k' := by
        rintro rfl
        exact hk h
      exact AList.lookup_erase_ne hne
  | insert | modify | removeIf => exact h.elim

/-- The operation, answered so, found an entry under `key`. -/
def Finds (key : K) : (op : MapOp K V) → op.Resp → Prop
  | .get k, found | .remove k, found => k = key ∧ found.isSome = true
  | .modify k _, found | .removeIf k _, found => k = key ∧ found = true
  | .insert _ _, _ | .keys, _ | .next _ _, _ => False

theorem isSome_of_finds {m : DashMap K V} {pick : Option K} {op : MapOp K V} {r : op.Resp} {key : K}
    (h : answer m pick op = some r) (hf : op.Finds key r) : (m.lookup key).isSome = true := by
  cases op with
  | get k | remove k | modify k f =>
      obtain ⟨rfl, hfound⟩ := hf
      cases h
      exact hfound
  | removeIf k p =>
      obtain ⟨rfl, hfound⟩ := hf
      cases h
      obtain ⟨hv, -⟩ := (Option.any_eq_true_iff_get _ _).1 hfound
      exact hv
  | insert | keys | next => exact hf.elim

end MapOp

end Rust
