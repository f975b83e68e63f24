/-
# `Phirepass.System.Protocols` — the ids a browser asks for, as the relay reads them

`Channel::connect` writes the node id, and the server id if it has one, into
the list of sub-protocols.  The relay takes the list apart again:

    bytes    `to_str` refuses a header with anything but visible ASCII
    text     cut at the commas, trimmed, the blank pieces left out
    names    the first is the node, the second the server

So the relay reads the first and the second name of every visible list
(`protocols_recovered`), however many blank pieces stand between them, and
neither of any other list: a letter outside ASCII is enough (`accent_unread`).
-/
import Phirepass.Relay.Lookup

/-! ## The list and the header -/

namespace Phirepass.Channel

/-- The sub-protocols `Channel::connect` asks for. -/
def subProtocols (nodeId : String) (serverId : Option String) : String :=
  match serverId with
  | none => nodeId
  | some serverId => nodeId ++ "," ++ serverId

end Phirepass.Channel

namespace Phirepass.Relay

open Rust

/-- The bytes of a header, `HeaderValue` of the crate `http`. -/
abbrev HeaderValue : Type := List UInt8

/-- `is_visible_ascii` of the crate. -/
def isVisibleAscii (b : UInt8) : Bool := decide (32 ≤ b.toNat ∧ b.toNat < 127 ∨ b.toNat = 9)

/-- `HeaderValue::to_str`. -/
def HeaderValue.toStr (value : HeaderValue) : Option String :=
  if value.all isVisibleAscii then
    some (String.ofList (value.map fun b => Char.ofNat b.toNat))
  else none

/-- The text as it travels. -/
def headerValue (text : String) : HeaderValue := text.toUTF8.data.toList

/-- `extract_protocols` of a request with the header, or without it. -/
def requestProtocols (header : Option HeaderValue) : Option String × Option String :=
  extractProtocols (header.bind HeaderValue.toStr)

/-! ## What is meant -/

/-- `name` is the piece number `k` of those that are not blank, trimmed. -/
inductive Names : List String → Nat → String → Prop
  | blank {piece : String} {pieces : List String} {k : Nat} {name : String} (h : trim piece = "")
      (hrest : Names pieces k name) : Names (piece :: pieces) k name
  | here {piece : String} {pieces : List String} (h : trim piece ≠ "") :
      Names (piece :: pieces) 0 (trim piece)
  | later {piece : String} {pieces : List String} {k : Nat} {name : String} (h : trim piece ≠ "")
      (hrest : Names pieces k name) : Names (piece :: pieces) (k + 1) name

/-- The relay reads the first and the second name of the joined pieces. -/
def Recovers (pieces : List String) : Prop :=
  ∀ name, ((requestProtocols (some (headerValue (",".intercalate pieces)))).1 = some name ↔
      Names pieces 0 name) ∧
    ((requestProtocols (some (headerValue (",".intercalate pieces)))).2 = some name ↔
      Names pieces 1 name)

/-- A visible character of ASCII, a space or a tab. -/
def IsVisible (c : Char) : Prop := 32 ≤ c.toNat ∧ c.toNat < 127 ∨ c.toNat = 9

/-- A text of such characters. -/
def Visible (text : String) : Prop := ∀ c ∈ text.toList, IsVisible c

/-- A list of pieces that a comma separates. -/
def CommaFree (pieces : List String) : Prop := ∀ piece ∈ pieces, ',' ∉ piece.toList

/-- An id that can stand in the list. -/
structure IsId (id : String) : Prop where
  ne : id ≠ ""
  commaFree : ',' ∉ id.toList
  trimmed : trim id = id
  visible : Visible id

/-! ## From the bytes to the text -/

section Text

variable {text : String} {c : Char}

theorem headerValue_eq (text : String) :
    headerValue text = text.toList.flatMap String.utf8EncodeChar := by
  rw [headerValue, String.toUTF8, ← String.utf8Encode_toList, List.utf8Encode,
    List.toList_data_toByteArray]

/-- A visible character is one byte, its own number. -/
theorem utf8EncodeChar_of_visible (h : IsVisible c) :
    String.utf8EncodeChar c = [UInt8.ofNat c.toNat] ∧ isVisibleAscii (UInt8.ofNat c.toNat) = true ∧
      Char.ofNat (UInt8.ofNat c.toNat).toNat = c := by
  have hsmall : c.toNat < 127 := by
    rcases h with h | h <;> omega
  have hnat : (UInt8.ofNat c.toNat).toNat = c.toNat := by
    rw [UInt8.toNat_ofNat']
    omega
  refine ⟨if_pos (by omega : c.toNat ≤ 127), ?_, ?_⟩
  · rw [isVisibleAscii, hnat]
    exact decide_eq_true h
  · rw [hnat, Char.ofNat_toNat]

/-- Any other has a byte that is not visible. -/
theorem exists_byte_of_not_visible (h : ¬ IsVisible c) :
    ∃ b ∈ String.utf8EncodeChar c, isVisibleAscii b = false := by
  have hfirst {n : Nat} {bytes : List UInt8} (hn : 127 ≤ n) (hn' : n < 256) :
      ∃ b ∈ UInt8.ofNat n :: bytes, isVisibleAscii b = false := by
    refine ⟨UInt8.ofNat n, List.mem_cons_self, decide_eq_false ?_⟩
    rw [UInt8.toNat_ofNat']
    omega
  unfold String.utf8EncodeChar
  dsimp only
  split
  · next hle =>
      refine ⟨_, List.mem_cons_self, decide_eq_false ?_⟩
      have hnat : (UInt8.ofNat c.val.toNat).toNat = c.toNat := by
        rw [UInt8.toNat_ofNat']
        show c.val.toNat % 256 = c.val.toNat
        omega
      rw [hnat]
      exact h
  · split
    · exact hfirst (by omega) (by omega)
    · split
      · exact hfirst (by omega) (by omega)
      · exact hfirst (by omega) (by omega)

/-- **A visible text is read as it is.** -/
theorem toStr_of_visible (h : Visible text) :
    (headerValue text).toStr = some text := by
  have hlist : ∀ cs : List Char, (∀ c ∈ cs, IsVisible c) →
      (cs.flatMap String.utf8EncodeChar).all isVisibleAscii = true ∧
        (cs.flatMap String.utf8EncodeChar).map (fun b => Char.ofNat b.toNat) = cs := by
    intro cs
    induction cs with
    | nil => exact fun _ => ⟨rfl, rfl⟩
    | cons c cs ih =>
        intro hcs
        obtain ⟨hbytes, hvisible, hback⟩ := utf8EncodeChar_of_visible (hcs c List.mem_cons_self)
        obtain ⟨hall, hmap⟩ := ih fun c' hc' => hcs c' (List.mem_cons_of_mem _ hc')
        rw [List.flatMap_cons, hbytes, List.singleton_append, List.all_cons, hvisible, List.map_cons,
          hback, hmap]
        exact ⟨hall, rfl⟩
  obtain ⟨hall, hmap⟩ := hlist _ h
  rw [HeaderValue.toStr, headerValue_eq, if_pos hall, hmap, String.ofList_toList]

/-- No other text is. -/
theorem toStr_of_not_visible (h : ¬ Visible text) : (headerValue text).toStr = none := by
  simp only [Visible, not_forall] at h
  obtain ⟨c, hc, hnot⟩ := h
  obtain ⟨b, hb, hbyte⟩ := exists_byte_of_not_visible hnot
  refine if_neg fun hall => ?_
  rw [headerValue_eq] at hall
  have hb' := List.all_eq_true.1 hall b (List.mem_flatMap.2 ⟨c, hc, hb⟩)
  rw [hbyte] at hb'
  cases hb'

end Text

theorem not_visible_accent : ¬ Visible "é" := by
  intro h
  have hc : IsVisible 'é' := h 'é' (by decide)
  unfold IsVisible at hc
  revert hc
  decide

/-! ## From the text to the names -/

section Pieces

variable {pieces : List String} {name : String}

/-- The names of the pieces. -/
def namesOf (pieces : List String) : List String := (pieces.map trim).filter fun part => part != ""

/-- **They are those that are meant.** -/
theorem names_iff : ∀ {pieces : List String} {k : Nat},
    (namesOf pieces)[k]? = some name ↔ Names pieces k name
  | [], k => by
      refine ⟨fun h => ?_, fun h => nomatch h⟩
      simp [namesOf] at h
  | piece :: pieces, k => by
      by_cases hblank : trim piece = ""
      · have hskip : namesOf (piece :: pieces) = namesOf pieces := by
          simp [namesOf, hblank]
        rw [hskip, names_iff]
        constructor
        · exact .blank hblank
        · intro h
          cases h with
          | blank _ hrest => exact hrest
          | here hne | later hne _ => exact absurd hblank hne
      · have hkeep : namesOf (piece :: pieces) = trim piece :: namesOf pieces := by
          simp [namesOf, hblank]
        rw [hkeep]
        cases k with
        | zero =>
            rw [List.getElem?_cons_zero, Option.some.injEq]
            constructor
            · rintro rfl
              exact .here hblank
            · intro h
              cases h with
              | blank heq _ => exact absurd heq hblank
              | here _ => rfl
        | succ k =>
            rw [List.getElem?_cons_succ, names_iff]
            constructor
            · exact .later hblank
            · intro h
              cases h with
              | blank heq _ => exact absurd heq hblank
              | later _ hrest => exact hrest

/-- What is joined with commas is cut at the commas. -/
theorem extractProtocols_intercalate (hfree : CommaFree pieces) :
    extractProtocols (some (",".intercalate pieces)) =
      ((namesOf pieces)[0]?, (namesOf pieces)[1]?) := by
  have htrim : trim "" = "" := by
    rw [trim]
    rfl
  have hcut : (((",".intercalate pieces).toList.splitOn ',').map fun part =>
      trim (String.ofList part)).filter (fun part => part != "") = namesOf pieces := by
    rw [String.toList_intercalate]
    cases pieces with
    | nil => simp [namesOf, htrim]
    | cons piece pieces =>
        have hsplit : ([','].intercalate ((piece :: pieces).map String.toList)).splitOn ',' =
            (piece :: pieces).map String.toList := by
          refine List.splitOn_intercalate ',' (fun l hl => ?_) (by simp)
          obtain ⟨p, hp, rfl⟩ := List.mem_map.1 hl
          exact hfree p hp
        show (List.map _ (([','].intercalate ((piece :: pieces).map String.toList)).splitOn ',')).filter
          _ = _
        rw [hsplit, List.map_map]
        refine congrArg _ (List.map_congr_left fun p _ => ?_)
        rw [Function.comp_apply, String.ofList_toList]
  rw [extractProtocols, hcut]

/-- The joined text is visible if the pieces are: the commas are. -/
theorem visible_intercalate : Visible (",".intercalate pieces) ↔ ∀ piece ∈ pieces, Visible piece := by
  have hcomma : IsVisible ',' := .inl (by decide)
  have hlist : ∀ parts : List (List Char), (∀ c ∈ [','].intercalate parts, IsVisible c) ↔
      ∀ part ∈ parts, ∀ c ∈ part, IsVisible c := by
    intro parts
    induction parts with
    | nil => simp
    | cons part parts ih =>
        cases parts with
        | nil => simp
        | cons next parts =>
            rw [List.intercalate_cons_cons, List.forall_mem_cons, ← ih]
            constructor
            · intro h
              exact ⟨fun c hc => h c (by simp [hc]), fun c hc => h c (by simp [hc])⟩
            · rintro ⟨hpart, hrest⟩ c hc
              rcases List.mem_append.1 hc with hc | hc
              · rcases List.mem_append.1 hc with hc | hc
                · exact hpart c hc
                · rw [List.mem_singleton.1 hc]
                  exact hcomma
              · exact hrest c hc
  rw [Visible, String.toList_intercalate]
  refine (hlist _).trans ?_
  rw [List.forall_mem_map]
  exact Iff.rfl

/-- The relay reads the pieces of a visible list. -/
theorem requestProtocols_of_visible (hfree : CommaFree pieces)
    (h : ∀ piece ∈ pieces, Visible piece) :
    requestProtocols (some (headerValue (",".intercalate pieces))) =
      ((namesOf pieces)[0]?, (namesOf pieces)[1]?) := by
  rw [requestProtocols, Option.bind_some, toStr_of_visible (visible_intercalate.2 h),
    extractProtocols_intercalate hfree]

/-- It reads nothing of any other. -/
theorem requestProtocols_of_not_visible (h : ∃ piece ∈ pieces, ¬ Visible piece) :
    requestProtocols (some (headerValue (",".intercalate pieces))) = (none, none) := by
  obtain ⟨piece, hpiece, hnot⟩ := h
  rw [requestProtocols, Option.bind_some,
    toStr_of_not_visible fun hall => hnot (visible_intercalate.1 hall piece hpiece)]
  rfl

end Pieces

/-! ## The two ends together -/

section Ids

variable {ids : List String}

theorem namesOf_ids (h : ∀ id ∈ ids, IsId id) : namesOf ids = ids := by
  have hmap : ids.map trim = ids := by
    rw [List.map_congr_left fun id hid => (h id hid).trimmed]
    exact List.map_id'' (fun _ => rfl) ids
  rw [namesOf, hmap, List.filter_eq_self]
  intro id hid
  exact bne_iff_ne.2 (h id hid).ne

/-- What the browser asks for is what the relay reads. -/
theorem requestProtocols_ids (h : ∀ id ∈ ids, IsId id) :
    requestProtocols (some (headerValue (",".intercalate ids))) = (ids[0]?, ids[1]?) := by
  rw [requestProtocols_of_visible (fun id hid => (h id hid).commaFree)
    fun id hid => (h id hid).visible, namesOf_ids h]

end Ids

/-- **The relay reads the first and the second name of every visible list, whatever blank pieces
stand in it**, so the ids of a browser arrive, and nothing of a list with another character. -/
theorem protocols_recovered :
    (∀ pieces, CommaFree pieces → (∀ piece ∈ pieces, Visible piece) → Recovers pieces) ∧
    (∀ pieces, (∃ piece ∈ pieces, ¬ Visible piece) →
      requestProtocols (some (headerValue (",".intercalate pieces))) = (none, none)) ∧
    ∀ n s, IsId n → IsId s →
      requestProtocols (some (headerValue (Channel.subProtocols n (some s)))) = (some n, some s) ∧
      requestProtocols (some (headerValue (Channel.subProtocols n none))) = (some n, none) := by
  refine ⟨fun pieces hfree hvisible name => ?_, fun pieces h => requestProtocols_of_not_visible h,
    fun n s hn hs => ⟨?_, ?_⟩⟩
  · rw [requestProtocols_of_visible hfree hvisible]
    exact ⟨names_iff, names_iff⟩
  · have hids : ∀ id ∈ [n, s], IsId id := by
      simp [hn, hs]
    have hlist : Channel.subProtocols n (some s) = ",".intercalate [n, s] := by
      simp [Channel.subProtocols]
    rw [hlist, requestProtocols_ids hids]
    rfl
  · have hids : ∀ id ∈ [n], IsId id := by
      simp [hn]
    have hlist : Channel.subProtocols n none = ",".intercalate [n] := by
      simp [Channel.subProtocols]
    rw [hlist, requestProtocols_ids hids]
    rfl

theorem protocols_recovered_of_names :
    Recovers [" ", " node-1 ", " server-1 ", " other"] ∧
      requestProtocols (some (headerValue "é")) = (none, none) ∧
      requestProtocols (some (headerValue (Channel.subProtocols "node-123" (some "server-456")))) =
        (some "node-123", some "server-456") := by
  obtain ⟨hvisible, hother, hids⟩ := protocols_recovered
  have hseen {text : String}
      (h : text.toList.all (fun c => decide (32 ≤ c.toNat ∧ c.toNat < 127)) = true) :
      Visible text :=
    fun c hc => .inl (of_decide_eq_true (List.all_eq_true.1 h c hc))
  refine ⟨hvisible _ ?_ ?_, ?_, (hids _ _ ?_ ?_).1⟩
  · unfold CommaFree
    decide
  · simp only [List.forall_mem_cons, List.not_mem_nil, false_imp_iff, implies_true, and_true]
    exact ⟨hseen (by decide), hseen (by decide), hseen (by decide), hseen (by decide)⟩
  · simpa using hother ["é"] ⟨"é", List.mem_singleton_self _, not_visible_accent⟩
  · exact ⟨by decide, by decide, by rw [trim]; decide, hseen (by decide)⟩
  · exact ⟨by decide, by decide, by rw [trim]; decide, hseen (by decide)⟩

/-- A name with an accent is not read. -/
theorem accent_unread : CommaFree ["é"] ∧ Names ["é"] 0 "é" ∧ ¬ Recovers ["é"] := by
  have htrim : trim "é" = "é" := by
    rw [trim]
    decide
  have hname : Names ["é"] 0 "é" := by
    have h := @Names.here "é" [] (by rw [htrim]; decide)
    rwa [htrim] at h
  refine ⟨by unfold CommaFree; decide, hname, fun h => ?_⟩
  have hread := (h "é").1.2 hname
  rw [requestProtocols_of_not_visible ⟨"é", List.mem_singleton_self _, not_visible_accent⟩] at hread
  cases hread

end Phirepass.Relay
