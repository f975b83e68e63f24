/-
# `Rust.Base64` — Base64 for URLs, without padding

Three bytes are four characters, two are three and one is two.  Decoding
refuses characters outside the alphabet, a single character left over, and
bits set in the last one that stand for no byte; so it is the inverse of
encoding and of nothing else.
-/
import Mathlib.Data.List.Basic
import Phirepass.Rust.Core

namespace Rust.Base64

/-- The character for a value below 64: letters, digits, `-` and `_`. -/
def symbol (n : Nat) : Char :=
  if n < 26 then Char.ofNat (n + 65)
  else if n < 52 then Char.ofNat (n + 71)
  else if n < 62 then Char.ofNat (n - 4)
  else if n = 62 then '-' else '_'

/-- The value of a character. -/
def sextet (c : Char) : Option Nat :=
  let n := c.toNat
  if 65 ≤ n ∧ n ≤ 90 then some (n - 65)
  else if 97 ≤ n ∧ n ≤ 122 then some (n - 71)
  else if 48 ≤ n ∧ n ≤ 57 then some (n + 4)
  else if n = 45 then some 62
  else if n = 95 then some 63 else none

def encodeList : List UInt8 → List Char
  | a :: b :: c :: rest =>
      symbol (a.toNat / 4) :: symbol (a.toNat % 4 * 16 + b.toNat / 16) ::
        symbol (b.toNat % 16 * 4 + c.toNat / 64) :: symbol (c.toNat % 64) :: encodeList rest
  | [a, b] =>
      [symbol (a.toNat / 4), symbol (a.toNat % 4 * 16 + b.toNat / 16), symbol (b.toNat % 16 * 4)]
  | [a] => [symbol (a.toNat / 4), symbol (a.toNat % 4 * 16)]
  | [] => []

def decodeList : List Char → Option (List UInt8)
  | w :: x :: y :: z :: rest => do
      let w ← sextet w
      let x ← sextet x
      let y ← sextet y
      let z ← sextet z
      let bytes ← decodeList rest
      return UInt8.ofNat (w * 4 + x / 16) :: UInt8.ofNat (x % 16 * 16 + y / 4) ::
        UInt8.ofNat (y % 4 * 64 + z) :: bytes
  | [w, x, y] => do
      let w ← sextet w
      let x ← sextet x
      let y ← sextet y
      if y % 4 = 0 then return [UInt8.ofNat (w * 4 + x / 16), UInt8.ofNat (x % 16 * 16 + y / 4)]
      else none
  | [w, x] => do
      let w ← sextet w
      let x ← sextet x
      if x % 16 = 0 then return [UInt8.ofNat (w * 4 + x / 16)] else none
  | [_] => none
  | [] => some []

/-- `URL_SAFE_NO_PAD.encode`. -/
def encode (bytes : List UInt8) : String := String.ofList (encodeList bytes)

/-- `URL_SAFE_NO_PAD.decode`. -/
def decode (text : String) : Option (List UInt8) := decodeList text.toList

/-- A character has the value it stands for. -/
theorem sextet_symbol {n : Nat} (hn : n < 64) : sextet (symbol n) = some n := by
  have hall : ∀ m : Fin 64, sextet (symbol m) = some m.val := by decide +kernel
  exact hall ⟨n, hn⟩

theorem ofNat_eq {a : UInt8} {n : Nat} (hn : n = a.toNat) : UInt8.ofNat n = a := by
  rw [hn, UInt8.ofNat_toNat]

theorem decodeList_encodeList (bytes : List UInt8) :
    decodeList (encodeList bytes) = some bytes := by
  induction bytes using encodeList.induct with
  | case1 a b c rest ih =>
      have ha := a.toNat_lt
      have hb := b.toNat_lt
      have hc := c.toNat_lt
      rw [encodeList, decodeList, sextet_symbol (by omega), sextet_symbol (by omega),
        sextet_symbol (by omega), sextet_symbol (by omega), ih]
      simp only [Option.bind_eq_bind, Option.bind_some, Option.pure_def, Option.some.injEq,
        List.cons.injEq, and_true]
      exact ⟨ofNat_eq (by omega), ofNat_eq (by omega), ofNat_eq (by omega)⟩
  | case2 a b =>
      have ha := a.toNat_lt
      have hb := b.toNat_lt
      rw [encodeList, decodeList, sextet_symbol (by omega), sextet_symbol (by omega),
        sextet_symbol (by omega)]
      simp only [Option.bind_eq_bind, Option.bind_some, Option.pure_def]
      rw [if_pos (by omega), ofNat_eq (a := a) (by omega), ofNat_eq (a := b) (by omega)]
  | case3 a =>
      have ha := a.toNat_lt
      rw [encodeList, decodeList, sextet_symbol (by omega), sextet_symbol (by omega)]
      simp only [Option.bind_eq_bind, Option.bind_some, Option.pure_def]
      rw [if_pos (by omega), ofNat_eq (a := a) (by omega)]
  | case4 => rfl

/-- **What was encoded is decoded again.** -/
theorem decode_encode (bytes : List UInt8) : decode (encode bytes) = some bytes := by
  rw [decode, encode, String.toList_ofList]
  exact decodeList_encodeList bytes

/-! ## The characters of an encoding

They are the 64 of the alphabet: none is white space, and none the null
character.
-/

theorem mem_encodeList {bytes : List UInt8} {c : Char} (hc : c ∈ encodeList bytes) :
    ∃ n < 64, c = symbol n := by
  induction bytes using encodeList.induct with
  | case1 a b d rest ih =>
      have ha := a.toNat_lt
      have hb := b.toNat_lt
      have hd := d.toNat_lt
      simp only [encodeList, List.mem_cons] at hc
      rcases hc with rfl | rfl | rfl | rfl | hc
      · exact ⟨_, by omega, rfl⟩
      · exact ⟨_, by omega, rfl⟩
      · exact ⟨_, by omega, rfl⟩
      · exact ⟨_, by omega, rfl⟩
      · exact ih hc
  | case2 a b =>
      have ha := a.toNat_lt
      have hb := b.toNat_lt
      simp only [encodeList, List.mem_cons, List.not_mem_nil, or_false] at hc
      rcases hc with rfl | rfl | rfl
      · exact ⟨_, by omega, rfl⟩
      · exact ⟨_, by omega, rfl⟩
      · exact ⟨_, by omega, rfl⟩
  | case3 a =>
      have ha := a.toNat_lt
      simp only [encodeList, List.mem_cons, List.not_mem_nil, or_false] at hc
      rcases hc with rfl | rfl
      · exact ⟨_, by omega, rfl⟩
      · exact ⟨_, by omega, rfl⟩
  | case4 => cases hc

theorem isWhiteSpace_of_mem_encodeList {bytes : List UInt8} {c : Char}
    (hc : c ∈ encodeList bytes) : isWhiteSpace c = false := by
  have hall : ∀ m : Fin 64, isWhiteSpace (symbol m) = false := by decide +kernel
  obtain ⟨n, hn, rfl⟩ := mem_encodeList hc
  exact hall ⟨n, hn⟩

theorem null_not_mem_encode (bytes : List UInt8) : '\x00' ∉ (encode bytes).toList := by
  have hall : ∀ m : Fin 64, '\x00' ≠ symbol m := by decide +kernel
  rw [encode, String.toList_ofList]
  intro hc
  obtain ⟨n, hn, heq⟩ := mem_encodeList hc
  exact hall ⟨n, hn⟩ heq

theorem dropWhile_isWhiteSpace {l : List Char} (h : ∀ c ∈ l, isWhiteSpace c = false) :
    l.dropWhile isWhiteSpace = l := by
  cases l with
  | nil => rfl
  | cons c l => rw [List.dropWhile_cons_of_neg (by simp [h c List.mem_cons_self])]

/-- **Trimming leaves an encoding as it is.** -/
theorem trim_encode (bytes : List UInt8) : trim (encode bytes) = encode bytes := by
  have hnone : ∀ c ∈ encodeList bytes, isWhiteSpace c = false :=
    fun _ hc => isWhiteSpace_of_mem_encodeList hc
  rw [trim, encode, String.toList_ofList, dropWhile_isWhiteSpace hnone, dropWhile_isWhiteSpace,
    List.reverse_reverse]
  intro c hc
  exact hnone c (List.mem_reverse.1 hc)

end Rust.Base64
