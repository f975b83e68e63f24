/-
# `Rust.Core` — the parts of the language and its library the models rest on

Partial operations are written as Rust has them: an index, a slice or an
addition that goes wrong is a *panic*, kept apart from an error that the code
returns (`Fault`).  `usize` arithmetic takes the word width and the profile's
overflow checks as parameters, since both differ between the builds of one
program: with checks an overflow panics, without them it wraps.

`trim` follows `str::trim`: it removes characters of the Unicode property
`White_Space` from both ends.
-/
import Mathlib.Algebra.Group.Nat.Defs
import Mathlib.Data.List.Basic

namespace Rust

/-- How a computation can fail to produce its value: it returns an error to its caller,
or it panics. -/
inductive Fault where
  | err (message : String)
  | panic (message : String)
  deriving DecidableEq, Repr

/-- The computation came back, with a value or an error. -/
def Returns {α : Type} (x : Except Fault α) : Prop := ∀ m, x ≠ .error (.panic m)

-- Not by `rfl`: as a definitional rewrite the kernel would replay a whole `do` block at once.
@[simp] theorem ok_bind {ε α β : Type} (a : α) (f : α → Except ε β) :
    ((.ok a : Except ε α) >>= f) = f a := by
  simp only [bind, Except.bind]

@[simp] theorem error_bind {ε α β : Type} (e : ε) (f : α → Except ε β) :
    ((.error e : Except ε α) >>= f) = .error e := by
  simp only [bind, Except.bind]

theorem bind_eq_ok {ε α β : Type} {x : Except ε α} {f : α → Except ε β} {b : β}
    (h : (x >>= f) = .ok b) : ∃ a, x = .ok a ∧ f a = .ok b := by
  cases x with
  | error e => simp at h
  | ok a => exact ⟨a, rfl, by simpa using h⟩

theorem returns_ok {α : Type} (a : α) : Returns (.ok a) := fun _ h => nomatch h

theorem returns_err {α : Type} (m : String) : Returns (.error (.err m) : Except Fault α) :=
  fun _ h => nomatch h

theorem not_returns_panic {α : Type} (m : String) :
    ¬ Returns (.error (.panic m) : Except Fault α) := fun h => h m rfl

/-! ## Slices -/

/-- `data[i]`. -/
def index (data : List UInt8) (i : Nat) : Except Fault UInt8 :=
  match data[i]? with
  | some b => .ok b
  | none => .error (.panic "index out of bounds")

@[simp] theorem index_zero (b : UInt8) (data : List UInt8) : index (b :: data) 0 = .ok b := by
  simp [index]

@[simp] theorem index_succ (b : UInt8) (data : List UInt8) (i : Nat) :
    index (b :: data) (i + 1) = index data i := by
  simp [index]

/-- `&data[start..stop]`. -/
def slice (data : List UInt8) (start stop : Nat) : Except Fault (List UInt8) :=
  if start ≤ stop then
    if stop ≤ data.length then .ok ((data.take stop).drop start)
    else .error (.panic "range end index out of range for slice")
  else .error (.panic "slice index starts at a larger index than it ends")

/-! ## Words -/

/-- `a + b` in a `usize` of the given width. -/
def usizeAdd (bits : Nat) (overflowChecks : Bool) (a b : Nat) : Except Fault Nat :=
  if a + b < 2 ^ bits then .ok (a + b)
  else if overflowChecks then .error (.panic "attempt to add with overflow")
  else .ok ((a + b) % 2 ^ bits)

theorem usizeAdd_of_lt {bits : Nat} {checks : Bool} {a b : Nat} (h : a + b < 2 ^ bits) :
    usizeAdd bits checks a b = .ok (a + b) := if_pos h

/-- `u64::saturating_sub`. -/
def saturatingSub (a b : UInt64) : UInt64 := if a ≤ b then 0 else a - b

/-- `u32::from_be_bytes`. -/
def fromBeBytes (a b c d : UInt8) : UInt32 :=
  UInt32.ofNat (a.toNat * 2 ^ 24 + b.toNat * 2 ^ 16 + c.toNat * 2 ^ 8 + d.toNat)

/-- `u32::to_be_bytes`. -/
def toBeBytes (n : UInt32) : List UInt8 :=
  [UInt8.ofNat (n.toNat / 2 ^ 24), UInt8.ofNat (n.toNat / 2 ^ 16), UInt8.ofNat (n.toNat / 2 ^ 8),
    UInt8.ofNat n.toNat]

theorem toNat_fromBeBytes (a b c d : UInt8) :
    (fromBeBytes a b c d).toNat
      = a.toNat * 2 ^ 24 + b.toNat * 2 ^ 16 + c.toNat * 2 ^ 8 + d.toNat := by
  have ha := a.toNat_lt
  have hb := b.toNat_lt
  have hc := c.toNat_lt
  have hd := d.toNat_lt
  simp only [fromBeBytes, UInt32.toNat_ofNat']
  omega

/-- The four bytes of a word read back as the word. -/
theorem toNat_fromBeBytes_toBeBytes (n : UInt32) :
    (fromBeBytes (UInt8.ofNat (n.toNat / 2 ^ 24)) (UInt8.ofNat (n.toNat / 2 ^ 16))
      (UInt8.ofNat (n.toNat / 2 ^ 8)) (UInt8.ofNat n.toNat)).toNat = n.toNat := by
  have hn := n.toNat_lt
  simp only [toNat_fromBeBytes, UInt8.toNat_ofNat']
  omega

/-! ## Floating point

A float is kept as its bits.  A word whose exponent bits are all ones is an
infinity or a NaN; JSON has no text for either.
-/

/-- `f32::is_finite`. -/
def f32IsFinite (bits : UInt32) : Bool := bits.toNat / 2 ^ 23 % 2 ^ 8 != 2 ^ 8 - 1

/-- `f64::is_finite`. -/
def f64IsFinite (bits : UInt64) : Bool := bits.toNat / 2 ^ 52 % 2 ^ 11 != 2 ^ 11 - 1

/-! ## Strings -/

/-- The Unicode property `White_Space`. -/
def isWhiteSpace (c : Char) : Bool :=
  let n := c.toNat
  (9 ≤ n && n ≤ 13) || n == 0x20 || n == 0x85 || n == 0xA0 || n == 0x1680 ||
    (0x2000 ≤ n && n ≤ 0x200A) || n == 0x2028 || n == 0x2029 || n == 0x202F || n == 0x205F ||
    n == 0x3000

/-- `str::trim`.  Irreducible, so that no elaboration step runs it on a variable. -/
@[irreducible] def trim (s : String) : String :=
  String.ofList ((s.toList.dropWhile isWhiteSpace).reverse.dropWhile isWhiteSpace).reverse

/-- `str::strip_prefix`. -/
def stripPrefix (pre s : String) : Option String :=
  if pre.toList <+: s.toList then some (String.ofList (s.toList.drop pre.length)) else none

/-- `str::split_once`, for a character. -/
def splitOnce (s : String) (c : Char) : Option (String × String) :=
  match s.toList.dropWhile (· != c) with
  | [] => none
  | _ :: rest => some (String.ofList (s.toList.takeWhile (· != c)), String.ofList rest)

/-- What stands before and behind the first occurrence of `pat`. -/
def splitAtFirst (pat : List Char) : List Char → Option (List Char × List Char)
  | [] => if pat = [] then some ([], []) else none
  | c :: rest =>
      if pat <+: c :: rest then some ([], (c :: rest).drop pat.length)
      else (splitAtFirst pat rest).map fun x => (c :: x.1, x.2)

/-- `str::split_once`, for a string. -/
def splitOnceStr (s pat : String) : Option (String × String) :=
  (splitAtFirst pat.toList s.toList).map fun x => (String.ofList x.1, String.ofList x.2)

/-- `str::ends_with`, for a character. -/
def endsWith (s : String) (c : Char) : Bool := s.toList.getLast? == some c

/-- `str::trim_end_matches`, for a character. -/
def trimEndMatches (s : String) (c : Char) : String :=
  String.ofList (s.toList.reverse.dropWhile (· == c)).reverse

end Rust
