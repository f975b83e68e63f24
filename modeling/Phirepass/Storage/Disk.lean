/-
# `Storage.Disk` — files with names and open handles

Names refer to files, open handles refer to files, and the two are
independent: a rename or a removal changes names only, a write goes to the
file of the handle whatever the file is called by then.  Opening for append
creates the file where the name is free and keeps its contents where it is
not; every write goes to the end.

`Alone handle path ops` is the discipline under which a writer may count on
its file: since it opened `path` the name was left alone, and nobody else
wrote.  Then the file holds what was written through the handle and nothing
else (`read_of_alone`), and a rename delivers exactly that (`read_rename`).
-/
import Mathlib.Data.List.Basic
import Mathlib.Logic.Function.Basic

namespace Storage

variable {P H : Type}

/-- The operations, successful ones only. -/
inductive Op (P H : Type) where
  | openAppend (path : P) (handle : H)
  | openRead (path : P) (handle : H)
  | append (handle : H) (data : List UInt8)
  | rename (old new : P)
  | remove (path : P)
  deriving DecidableEq

/-- A file: one that was there, or the `n`-th that was created. -/
inductive Inode (P : Type) where
  | initial (path : P)
  | created (n : Nat)
  deriving DecidableEq

/-- Created files have numbers below the counter. -/
def Made {α : Type} (created : Nat) (files : α → Option (Inode P)) : Prop :=
  ∀ a n, files a = some (.created n) → n < created

section Made

variable {α : Type} {created : Nat} {files : α → Option (Inode P)}

theorem Made.succ (h : Made created files) : Made (created + 1) files :=
  fun a n hfile => Nat.lt_succ_of_lt (h a n hfile)

theorem Made.update [DecidableEq α] {file : Option (Inode P)} (h : Made created files) (a : α)
    (hfile : ∀ n, file = some (.created n) → n < created) :
    Made created (Function.update files a file) := by
  intro b n hb
  rcases eq_or_ne b a with rfl | hne
  · rw [Function.update_self] at hb
    exact hfile n hb
  · rw [Function.update_of_ne hne] at hb
    exact h b n hb

end Made

structure Disk (P H : Type) where
  named : P → Option (Inode P)
  content : Inode P → List UInt8
  opened : H → Option (Inode P)
  created : Nat
  named_made : Made created named
  opened_made : Made created opened

namespace Disk

/-- The files that were there. -/
def start (files : P → Option (List UInt8)) : Disk P H where
  named path := (files path).map fun _ => .initial path
  content
    | .initial path => (files path).getD []
    | .created _ => []
  opened _ := none
  created := 0
  named_made path n h := by
    obtain ⟨_, -, heq⟩ := Option.map_eq_some_iff.1 h
    cases heq
  opened_made handle n h := by cases h

/-- The next file to be created has no name yet. -/
theorem named_ne_created (d : Disk P H) (path : P) : d.named path ≠ some (.created d.created) :=
  fun hfile => absurd (d.named_made path _ hfile) (Nat.lt_irrefl _)

section Store

variable [DecidableEq P]

/-- Change the contents of one file. -/
def store (d : Disk P H) (file : Inode P) (data : List UInt8) : Inode P → List UInt8
  | .initial path =>
      match file with
      | .initial path' => if path = path' then data else d.content (.initial path)
      | .created _ => d.content (.initial path)
  | .created n =>
      match file with
      | .created n' => if n = n' then data else d.content (.created n)
      | .initial _ => d.content (.created n)

@[simp] theorem store_self (d : Disk P H) (file : Inode P) (data : List UInt8) :
    d.store file data file = data := by
  cases file with
  | initial path => simp [store]
  | created n => simp [store]

theorem store_of_ne {d : Disk P H} {file file' : Inode P} {data : List UInt8} (h : file' ≠ file) :
    d.store file data file' = d.content file' := by
  cases file with
  | initial path =>
      cases file' with
      | initial path' =>
          have hne : path' ≠ path := fun heq => h (congrArg _ heq)
          simp [store, hne]
      | created n => rfl
  | created n =>
      cases file' with
      | initial path' => rfl
      | created n' =>
          have hne : n' ≠ n := fun heq => h (congrArg _ heq)
          simp [store, hne]

end Store

variable [DecidableEq P] [DecidableEq H]

/-- A handle for the file of that name. -/
def openFile (d : Disk P H) (path : P) (handle : H) : Disk P H :=
  { d with
    opened := Function.update d.opened handle (d.named path)
    opened_made := d.opened_made.update handle (d.named_made path) }

/-- An empty file, with a name and a handle. -/
def createFile (d : Disk P H) (path : P) (handle : H) : Disk P H where
  named := Function.update d.named path (some (.created d.created))
  content := d.store (.created d.created) []
  opened := Function.update d.opened handle (some (.created d.created))
  created := d.created + 1
  named_made := d.named_made.succ.update path fun n hn => by
    cases hn
    exact Nat.lt_succ_self _
  opened_made := d.opened_made.succ.update handle fun n hn => by
    cases hn
    exact Nat.lt_succ_self _

/-- The file has the new name only. -/
def renameFile (d : Disk P H) (old new : P) : Disk P H :=
  { d with
    named := Function.update (Function.update d.named old none) new (d.named old)
    named_made := (d.named_made.update old (by simp)).update new (d.named_made old) }

/-- One operation. -/
def after (d : Disk P H) : Op P H → Disk P H
  | .openAppend path handle =>
      if (d.named path).isSome then d.openFile path handle else d.createFile path handle
  | .openRead path handle => d.openFile path handle
  | .append handle data =>
      match d.opened handle with
      | some file => { d with content := d.store file (d.content file ++ data) }
      | none => d
  | .rename old new => if (d.named old).isSome then d.renameFile old new else d
  | .remove path =>
      { d with
        named := Function.update d.named path none
        named_made := d.named_made.update path (by simp) }

/-- Many, the latest first. -/
def run (d : Disk P H) : List (Op P H) → Disk P H
  | [] => d
  | op :: ops => (d.run ops).after op

/-- What is read under a name. -/
def read (d : Disk P H) (path : P) : Option (List UInt8) := (d.named path).map d.content

/-! ## One writer at a time -/

/-- The operation interferes with the writer that opened `path` as `handle`. -/
def Disturbs (handle : H) (path : P) (d : Disk P H) : Op P H → Prop
  | .openAppend _ handle' | .openRead _ handle' => handle' = handle
  | .append handle' _ =>
      handle' ≠ handle ∧ (d.opened handle').isSome ∧ d.opened handle' = d.opened handle
  | .rename old new => old = path ∨ new = path
  | .remove path' => path' = path

/-- Since `path` was opened as `handle`, absent or empty, nothing interfered. -/
def Alone (d : Disk P H) (handle : H) (path : P) : List (Op P H) → Prop
  | [] => False
  | op :: ops => (op = .openAppend path handle ∧ ((d.run ops).read path).getD [] = []) ∨
      (¬ Disturbs handle path (d.run ops) op ∧ d.Alone handle path ops)

instance (handle : H) (path : P) (d : Disk P H) : ∀ op, Decidable (Disturbs handle path d op)
  | .openAppend _ _ => inferInstanceAs (Decidable (_ = _))
  | .openRead _ _ => inferInstanceAs (Decidable (_ = _))
  | .append _ _ => inferInstanceAs (Decidable (_ ∧ _))
  | .rename _ _ => inferInstanceAs (Decidable (_ ∨ _))
  | .remove _ => inferInstanceAs (Decidable (_ = _))

instance decidableAlone (d : Disk P H) (handle : H) (path : P) :
    ∀ ops, Decidable (d.Alone handle path ops)
  | [] => inferInstanceAs (Decidable False)
  | op :: ops =>
      have := decidableAlone d handle path ops
      inferInstanceAs (Decidable ((op = .openAppend path handle ∧ _) ∨ (¬ Disturbs _ _ _ op ∧ _)))

/-- What one more operation makes of the data written through `handle`. -/
def extended (handle : H) (data : List UInt8) : Op P H → List UInt8
  | .openAppend _ handle' => if handle' = handle then [] else data
  | .append handle' more => if handle' = handle then data ++ more else data
  | _ => data

/-- What was written through `handle` since it was opened. -/
def appended (handle : H) : List (Op P H) → List UInt8
  | [] => []
  | op :: ops => extended handle (appended handle ops) op

section Lemmas

variable {d : Disk P H} {handle : H} {path : P} {ops : List (Op P H)} {file file' : Inode P}

/-- The writer's file: open, under its name, and holding what was written. -/
structure Holds (d : Disk P H) (handle : H) (path : P) (data : List UInt8) (file : Inode P) :
    Prop where
  opened : d.opened handle = some file
  named : d.named path = some file
  content : d.content file = data

/-- Opening an absent or empty file gives the writer an empty one. -/
theorem holds_open (hempty : (d.read path).getD [] = []) :
    ∃ file, (d.after (.openAppend path handle)).Holds handle path [] file := by
  rw [after]
  split
  · next hfile =>
      obtain ⟨file, hfile⟩ := Option.isSome_iff_exists.1 hfile
      refine ⟨file, (Function.update_self ..).trans hfile, hfile, ?_⟩
      simpa [openFile, read, hfile] using hempty
  · exact ⟨_, Function.update_self .., Function.update_self ..,
      store_self d (.created d.created) []⟩

/-- What does not interfere leaves the file alone, but for the writer's own data. -/
theorem Holds.after {data : List UInt8} {op : Op P H} (h : d.Holds handle path data file)
    (hop : ¬ Disturbs handle path d op) :
    (d.after op).Holds handle path (extended handle data op) file := by
  cases op with
  | openAppend path' handle' =>
      have hne : handle ≠ handle' := fun heq => hop heq.symm
      rw [extended, if_neg hne.symm, Disk.after]
      split
      · exact ⟨(Function.update_of_ne hne ..).trans h.opened, h.named, h.content⟩
      · next hfree =>
          have hpath : path ≠ path' := by
            rintro rfl
            exact hfree (Option.isSome_iff_exists.2 ⟨file, h.named⟩)
          have hfile : file ≠ .created d.created := by
            rintro rfl
            exact d.named_ne_created path h.named
          exact ⟨(Function.update_of_ne hne ..).trans h.opened,
            (Function.update_of_ne hpath ..).trans h.named, (store_of_ne hfile).trans h.content⟩
  | openRead path' handle' =>
      have hne : handle ≠ handle' := fun heq => hop heq.symm
      exact ⟨(Function.update_of_ne hne ..).trans h.opened, h.named, h.content⟩
  | append handle' more =>
      by_cases hown : handle' = handle
      · subst hown
        simp only [extended, if_true, Disk.after, h.opened]
        refine ⟨h.opened, h.named, (store_self ..).trans ?_⟩
        rw [h.content]
      · simp only [extended, if_neg hown, Disk.after]
        split
        · next file' hfile' =>
            have hfile : file ≠ file' := by
              rintro rfl
              exact hop ⟨hown, Option.isSome_iff_exists.2 ⟨_, hfile'⟩, hfile'.trans h.opened.symm⟩
            exact ⟨h.opened, h.named, (store_of_ne hfile).trans h.content⟩
        · exact h
  | rename old new =>
      have hold : path ≠ old := fun heq => hop (.inl heq.symm)
      have hnew : path ≠ new := fun heq => hop (.inr heq.symm)
      rw [extended, Disk.after]
      split
      · refine ⟨h.opened, (Function.update_of_ne hnew ..).trans ?_, h.content⟩
        exact (Function.update_of_ne hold ..).trans h.named
      · exact h
      all_goals exact fun _ _ heq => nomatch heq
  | remove path' =>
      have hne : path ≠ path' := fun heq => hop heq.symm
      exact ⟨h.opened, (Function.update_of_ne hne ..).trans h.named, h.content⟩

/-- **A writer left alone** has a file that holds what it wrote, and nothing else. -/
theorem read_of_alone :
    ∀ {ops : List (Op P H)}, d.Alone handle path ops →
      ∃ file, (d.run ops).Holds handle path (appended handle ops) file
  | [], h => h.elim
  | op :: ops, h => by
      rcases h with ⟨rfl, hempty⟩ | ⟨hop, halone⟩
      · rw [appended, extended, if_pos rfl]
        exact holds_open hempty
      · obtain ⟨file, hfile⟩ := read_of_alone halone
        exact ⟨file, hfile.after hop⟩

/-- A file with a name can be renamed. -/
theorem read_after_rename (hfile : d.named path = some file) (new : P) :
    (d.after (.rename path new)).read new = some (d.content file) := by
  rw [after, if_pos (Option.isSome_iff_exists.2 ⟨file, hfile⟩)]
  simp [renameFile, read, hfile]

/-- **A rename delivers it.** -/
theorem read_rename (halone : d.Alone handle path ops) (new : P) :
    (d.run (.rename path new :: ops)).read new = some (appended handle ops) := by
  obtain ⟨file, hfile⟩ := read_of_alone halone
  rw [run, read_after_rename hfile.named, hfile.content]

/-! ## A file that is written to the end and renamed -/

/-- The writer's file, which is not the one called `dest`. -/
def HoldsApart (d : Disk P H) (handle : H) (path dest : P) (data : List UInt8) : Prop :=
  ∃ file, d.Holds handle path data file ∧ d.named dest ≠ some file

/-- Opening for append keeps what there is. -/
theorem holdsApart_open {dest : P} (handle : H) (hdest : path ≠ dest)
    (hlink : d.named dest = none ∨ d.named dest ≠ d.named path) :
    (d.after (.openAppend path handle)).HoldsApart handle path dest ((d.read path).getD []) ∧
      (d.after (.openAppend path handle)).read dest = d.read dest := by
  rw [after]
  cases hpath : d.named path with
  | some file =>
      simp only [Option.isSome_some, if_true]
      refine ⟨⟨file, ⟨(Function.update_self ..).trans hpath, hpath, by simp [openFile, read, hpath]⟩,
        ?_⟩, rfl⟩
      rintro hsame
      rcases hlink with hnone | hne
      · cases hnone.symm.trans hsame
      · exact hne (hsame.trans hpath.symm)
  | none =>
      have hother : (d.createFile path handle).named dest = d.named dest :=
        Function.update_of_ne hdest.symm ..
      rw [if_neg (by simp)]
      refine ⟨⟨.created d.created, ⟨Function.update_self .., Function.update_self .., ?_⟩, ?_⟩, ?_⟩
      · simp [createFile, read, hpath]
      · rw [hother]
        exact d.named_ne_created dest
      · rw [read, hother, read]
        cases hfile : d.named dest with
        | none => rfl
        | some file =>
            have hne : file ≠ .created d.created := by
              rintro rfl
              exact d.named_ne_created dest hfile
            exact congrArg some (store_of_ne hne)

/-- Writing goes to the end. -/
theorem HoldsApart.append {dest : P} {data : List UInt8} (h : d.HoldsApart handle path dest data)
    (more : List UInt8) :
    (d.after (.append handle more)).HoldsApart handle path dest (data ++ more) ∧
      (d.after (.append handle more)).read dest = d.read dest := by
  obtain ⟨file, hfile, hdest⟩ := h
  rw [after, hfile.opened]
  refine ⟨⟨file, ⟨hfile.opened, hfile.named, ?_⟩, hdest⟩, ?_⟩
  · rw [← hfile.content]
    exact store_self ..
  · rw [read, read]
    cases hother : d.named dest with
    | none => rfl
    | some file' =>
        have hne : file' ≠ file := by
          rintro rfl
          exact hdest hother
        exact congrArg some (store_of_ne hne)

/-- The rename puts the file in place. -/
theorem HoldsApart.read_rename {dest : P} {data : List UInt8}
    (h : d.HoldsApart handle path dest data) :
    (d.after (.rename path dest)).read dest = some data := by
  obtain ⟨file, hfile, -⟩ := h
  rw [read_after_rename hfile.named, hfile.content]

end Lemmas

end Disk

end Storage
