/-
# `Url` — the host and the port that a URL names

The parts of a URL up to the port, as the generic syntax of URLs has them:

    scheme "://" [ userinfo "@" ] host [ ":" port ]  then "/", "?", "#" or the end

The host is a name without `:`, `[` and `]`, or an address in brackets.  A port
that is not written, or is empty, is the default of the scheme.

A port written behind a text is the URL's port if the text is a host, perhaps
with a userinfo, and makes any other unreadable (`readAuthority_append`); behind
one that has gone on with a path it is no part of the authority
(`authority_append`).
-/
import Phirepass.Rust.Core
import Mathlib.Data.List.TakeWhile

namespace Url

open Rust

/-! ## Reading -/

/-- The character ends the authority. -/
def isEnd (c : Char) : Bool := c == '/' || c == '?' || c == '#'

def authority (text : List Char) : List Char := text.takeWhile fun c => !isEnd c

/-- What stands behind the last `@`. -/
def withoutUserinfo (text : List Char) : List Char := (text.reverse.takeWhile (· != '@')).reverse

/-- The text before the last `:`, and what stands behind it.  A colon inside brackets does not
count. -/
def splitPort (text : List Char) : List Char × Option (List Char) :=
  match text.reverse.dropWhile (· != ':') with
  | [] => (text, none)
  | _ :: before =>
      if ']' ∈ text.reverse.takeWhile (· != ':') then (text, none)
      else (before.reverse, some (text.reverse.takeWhile (· != ':')).reverse)

/-- The character separates parts of the host and the port. -/
def isSeparator (c : Char) : Bool := c == ':' || c == '[' || c == ']'

/-- A name, or an address in brackets. -/
def isHost : List Char → Bool
  | [] => false
  | '[' :: rest =>
      rest.getLast? == some ']' && rest.dropLast != [] &&
        rest.dropLast.all fun c => c == ':' || !isSeparator c
  | text => text.all fun c => !isSeparator c

/-- The number of a port; none if the text is empty. -/
def readPort (digits : List Char) : Option (Option Nat) :=
  if digits = [] then some none
  else if digits.all Char.isDigit ∧ Nat.ofDigitChars 10 digits 0 < 65536 then
    some (some (Nat.ofDigitChars 10 digits 0))
  else none

/-- The host of an authority, and the port if it has one. -/
def readAuthority (text : List Char) : Option (List Char × Option Nat) :=
  let parts := splitPort (withoutUserinfo text)
  if isHost parts.1 then
    match parts.2 with
    | none => some (parts.1, none)
    | some digits => (readPort digits).map fun port => (parts.1, port)
  else none

def defaultPort : String → Option Nat
  | "http" | "ws" => some 80
  | "https" | "wss" => some 443
  | _ => none

/-- The host and the effective port. -/
def address (url : String) : Option (String × Nat) :=
  match splitOnceStr url "://" with
  | none => none
  | some (scheme, rest) =>
      (defaultPort scheme).bind fun default =>
        (readAuthority (authority rest.toList)).map fun x => (String.ofList x.1, x.2.getD default)

/-! ## The parts -/

section Parts

variable {text digits : List Char} {n : Nat}

/-- Behind a path, nothing belongs to the authority. -/
theorem authority_append (h : text.any isEnd = true) (more : List Char) :
    authority (text ++ more) = authority text := by
  induction text with
  | nil => cases h
  | cons c text ih =>
      unfold authority at ih ⊢
      rw [List.cons_append, List.takeWhile_cons, List.takeWhile_cons]
      by_cases hc : isEnd c = true
      · simp [hc]
      · have hrest : text.any isEnd = true := by
          simpa [hc] using h
        rw [ih hrest]

/-- A text without one is an authority. -/
theorem authority_eq_self (h : text.any isEnd = false) : authority text = text := by
  refine List.takeWhile_eq_self_iff.2 ?_
  intro c hc
  have hnot := List.any_eq_false.1 h c hc
  simpa using hnot

/-- The port has no userinfo in it. -/
theorem withoutUserinfo_append (h : '@' ∉ digits) :
    withoutUserinfo (text ++ ':' :: digits) = withoutUserinfo text ++ ':' :: digits := by
  have hall : ∀ c ∈ digits.reverse ++ [':'], (c != '@') = true := by
    intro c hc
    rw [List.mem_append, List.mem_reverse, List.mem_singleton] at hc
    rcases hc with hc | rfl
    · exact bne_iff_ne.2 fun heq => h (heq ▸ hc)
    · rfl
  have hrev : (text ++ ':' :: digits).reverse = (digits.reverse ++ [':']) ++ text.reverse := by
    simp
  rw [withoutUserinfo, hrev, List.takeWhile_append_of_pos hall]
  simp [withoutUserinfo]

/-- A port is found behind any text. -/
theorem splitPort_append (hcolon : ':' ∉ digits) (hbracket : ']' ∉ digits) :
    splitPort (text ++ ':' :: digits) = (text, some digits) := by
  have hall : ∀ c ∈ digits.reverse, (c != ':') = true := by
    intro c hc
    exact bne_iff_ne.2 fun heq => hcolon (heq ▸ List.mem_reverse.1 hc)
  have hrev : (text ++ ':' :: digits).reverse = digits.reverse ++ ':' :: text.reverse := by
    simp
  rw [splitPort, hrev, List.takeWhile_append_of_pos hall, List.dropWhile_append_of_pos hall]
  simp [hbracket]

/-- A host has no port. -/
theorem splitPort_of_isHost (h : isHost text = true) : splitPort text = (text, none) := by
  unfold isHost at h
  split at h
  · cases h
  · next rest =>
      -- the last character is a bracket, and stands behind every colon
      rw [Bool.and_eq_true, Bool.and_eq_true, beq_iff_eq] at h
      obtain ⟨before, rfl⟩ := List.getLast?_eq_some_iff.1 h.1.1
      unfold splitPort
      split
      · rfl
      · rw [if_pos]
        simp
  · have hcolon : ∀ c ∈ text.reverse, (c != ':') = true := by
      intro c hc
      have hnot := List.all_eq_true.1 h c (List.mem_reverse.1 hc)
      rw [bne_iff_ne]
      rintro rfl
      cases hnot
    have hnone : text.reverse.dropWhile (· != ':') = [] := List.dropWhile_eq_nil_iff.2 hcolon
    rw [splitPort, hnone]

/-- The digits of a number are read back. -/
theorem readPort_toDigits (h : n < 65536) : readPort (Nat.toDigits 10 n) = some (some n) := by
  have hdigits : (Nat.toDigits 10 n).all Char.isDigit = true :=
    List.all_eq_true.2 fun c hc => Nat.isDigit_of_mem_toDigits (by decide) (by decide) hc
  rw [readPort, if_neg Nat.toDigits_ne_nil, Nat.ofDigitChars_ten_toDigits, if_pos ⟨hdigits, h⟩]

/-- None of the digits is a separator. -/
theorem not_mem_toDigits {c : Char} (hc : c.isDigit = false) : c ∉ Nat.toDigits 10 n := by
  intro hmem
  have hdigit : c.isDigit = true := Nat.isDigit_of_mem_toDigits (by decide) (by decide) hmem
  rw [hc] at hdigit
  cases hdigit

/-- Nor does one end the authority. -/
theorem any_isEnd_append : (text ++ ':' :: Nat.toDigits 10 n).any isEnd = text.any isEnd := by
  have hdigits : (Nat.toDigits 10 n).any isEnd = false := by
    refine List.any_eq_false.2 ?_
    intro c hc hend
    simp only [isEnd, Bool.or_eq_true, beq_iff_eq] at hend
    rcases hend with (rfl | rfl) | rfl
    · exact not_mem_toDigits (by decide) hc
    · exact not_mem_toDigits (by decide) hc
    · exact not_mem_toDigits (by decide) hc
  rw [List.any_append, List.any_cons, hdigits]
  simp [isEnd]

end Parts

/-! ## A port written behind a text -/

section Written

variable {text : List Char} {n : Nat}

/-- A text that is a host has no port. -/
theorem readAuthority_of_isHost (h : isHost (withoutUserinfo text) = true) :
    readAuthority text = some (withoutUserinfo text, none) := by
  simp only [readAuthority, splitPort_of_isHost h, h, if_true]

/-- **Behind a host the port is that of the URL**, and behind anything else it makes it
unreadable. -/
theorem readAuthority_append (hn : n < 65536) :
    readAuthority (text ++ ':' :: Nat.toDigits 10 n) =
      if isHost (withoutUserinfo text) then some (withoutUserinfo text, some n) else none := by
  have hparts : splitPort (withoutUserinfo (text ++ ':' :: Nat.toDigits 10 n)) =
      (withoutUserinfo text, some (Nat.toDigits 10 n)) := by
    rw [withoutUserinfo_append (not_mem_toDigits (by decide)),
      splitPort_append (not_mem_toDigits (by decide)) (not_mem_toDigits (by decide))]
  simp only [readAuthority, hparts, readPort_toDigits hn, Option.map_some]

end Written

/-! ## The whole URL -/

/-- The first `://` stands behind a text without a colon. -/
theorem splitAtFirst_scheme (rest : List Char) : ∀ {scheme : List Char}, ':' ∉ scheme →
    splitAtFirst [':', '/', '/'] (scheme ++ ':' :: '/' :: '/' :: rest) = some (scheme, rest)
  | [], _ => by
      simp [splitAtFirst]
  | c :: scheme, h => by
      rw [List.mem_cons, not_or] at h
      have hnot : ¬ [':', '/', '/'] <+: c :: (scheme ++ ':' :: '/' :: '/' :: rest) := by
        rw [List.cons_prefix_cons]
        exact fun hpre => h.1 hpre.1
      rw [List.cons_append, splitAtFirst, if_neg hnot, splitAtFirst_scheme rest h.2]
      rfl

/-- A URL with a known scheme is read by its authority. -/
theorem address_eq {scheme : String} {n : Nat} (hcolon : ':' ∉ scheme.toList)
    (hport : defaultPort scheme = some n) (text : String) :
    address (scheme ++ "://" ++ text) =
      (readAuthority (authority text.toList)).map fun x => (String.ofList x.1, x.2.getD n) := by
  have hsplit : splitOnceStr (scheme ++ "://" ++ text) "://" = some (scheme, text) := by
    have hlist : (scheme ++ "://" ++ text).toList =
        scheme.toList ++ ':' :: '/' :: '/' :: text.toList := by
      simp [String.toList_append]
    have hpat : "://".toList = [':', '/', '/'] := rfl
    rw [splitOnceStr, hlist, hpat, splitAtFirst_scheme _ hcolon, Option.map_some,
      String.ofList_toList, String.ofList_toList]
  rw [address, hsplit]
  simp only [hport, Option.bind_some]

example : address "wss://agent@[::1]:9000/api?x=http://other" = some ("[::1]", 9000) := by
  decide +kernel

end Url
