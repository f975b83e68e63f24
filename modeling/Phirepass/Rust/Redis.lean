/-
# `Rust.Redis` — hashes under keys, and the patterns of `SCAN`

A keyspace maps keys to hashes; a hash that was given a time to live may
lapse at any moment.  Each command is atomic.  `SCAN` with a pattern yields
the keys that match, in no order that is promised and possibly more than once
(`Conn.Answers`), so it is a relation and not a function of the keyspace.

A pattern is glob-style: `*` is any text, `?` any character, `[a-c]` and
`[^x]` are classes, and a backslash takes the next character as it is.
-/
import Mathlib.Data.List.AList
import Mathlib.Data.List.Infix

namespace Rust.Redis

/-! ## Keyspaces -/

/-- The fields of one key. -/
abbrev Hash : Type := AList (fun _ : String => String)

structure Entry where
  fields : Hash
  /-- Seconds to live. -/
  ttl : Option Nat

abbrev Keyspace : Type := AList (fun _ : String => Entry)

inductive Command where
  | hset (key : String) (fields : List (String × String))
  | expire (key : String) (seconds : Nat)
  | del (key : String)
  deriving DecidableEq, Repr

/-- The key a command is about. -/
def Command.key : Command → String
  | .hset key _ | .expire key _ | .del key => key

/-- Set fields, the later one last. -/
def Hash.set (hash : Hash) (fields : List (String × String)) : Hash :=
  fields.foldl (fun hash field => hash.insert field.1 field.2) hash

/-- What is under a key; a key that is not there has no fields. -/
def Keyspace.entry (ks : Keyspace) (key : String) : Entry := (ks.lookup key).getD ⟨∅, none⟩

def Command.apply (ks : Keyspace) : Command → Keyspace
  | .hset key fields =>
      ks.insert key { ks.entry key with fields := (ks.entry key).fields.set fields }
  | .expire key seconds =>
      match ks.lookup key with
      | some entry => ks.insert key { entry with ttl := some seconds }
      | none => ks
  | .del key => ks.erase key

def Keyspace.hget (ks : Keyspace) (key field : String) : Option String :=
  (ks.lookup key).bind fun entry => entry.fields.lookup field

/-- One command after the other. -/
def Keyspace.applyAll (ks : Keyspace) (commands : List Command) : Keyspace :=
  commands.foldl Command.apply ks

variable {ks : Keyspace} {key field : String}

/-- A command leaves every other key alone. -/
theorem lookup_apply_of_ne {c : Command} (hne : key ≠ c.key) :
    (c.apply ks).lookup key = ks.lookup key := by
  cases c with
  | hset k fields => exact AList.lookup_insert_ne hne
  | expire k seconds =>
      simp only [Command.apply]
      split
      · exact AList.lookup_insert_ne hne
      · rfl
  | del k => exact AList.lookup_erase_ne hne

theorem hget_apply_of_ne {c : Command} (hne : key ≠ c.key) :
    (c.apply ks).hget key field = ks.hget key field := by
  rw [Keyspace.hget, lookup_apply_of_ne hne]
  rfl

/-- Every key was there, or is the one just set. -/
theorem mem_of_mem_apply {c : Command} (h : key ∈ c.apply ks) :
    key ∈ ks ∨ key = c.key := by
  by_cases hne : key = c.key
  · exact .inr hne
  · refine .inl ?_
    rw [← AList.lookup_isSome] at h ⊢
    rwa [lookup_apply_of_ne hne] at h

/-- Giving a key a time to live changes no field. -/
theorem hget_expire {k : String} {seconds : Nat} :
    ((Command.expire k seconds).apply ks).hget key field = ks.hget key field := by
  by_cases hk : key = k
  · subst hk
    simp only [Command.apply, Keyspace.hget]
    cases hl : ks.lookup key with
    | none => simp only [hl]
    | some entry => simp only [AList.lookup_insert, Option.bind_some]
  · exact hget_apply_of_ne hk

theorem hget_hset {fields : List (String × String)} :
    ((Command.hset key fields).apply ks).hget key field =
      ((ks.entry key).fields.set fields).lookup field := by
  simp only [Command.apply, Keyspace.hget, AList.lookup_insert, Option.bind_some]

/-- The last of the fields is set to its value. -/
theorem lookup_set_concat (hash : Hash) (fields : List (String × String)) (value : String) :
    (hash.set (fields ++ [(field, value)])).lookup field = some value := by
  simp only [Hash.set, List.foldl_append, List.foldl_cons, List.foldl_nil, AList.lookup_insert]

/-- Commands about other keys leave a field alone. -/
theorem hget_applyAll_of_ne {commands : List Command} (hne : ∀ c ∈ commands, key ≠ c.key)
    (ks : Keyspace) : (ks.applyAll commands).hget key field = ks.hget key field := by
  induction commands generalizing ks with
  | nil => rfl
  | cons c commands ih =>
      have hc : key ≠ c.key := hne c List.mem_cons_self
      have hrest := ih (fun d hd => hne d (List.mem_cons_of_mem _ hd)) (c.apply ks)
      exact hrest.trans (hget_apply_of_ne hc)

/-- A hash that is set and given a time to live has the field that was set last. -/
theorem hget_hset_expire (ks : Keyspace) (key : String) (fields : List (String × String))
    (field value : String) (seconds : Nat) :
    (ks.applyAll [.hset key (fields ++ [(field, value)]), .expire key seconds]).hget key field =
      some value := by
  simp only [Keyspace.applyAll, List.foldl_cons, List.foldl_nil, hget_expire, hget_hset,
    lookup_set_concat]

/-! ## Patterns -/

inductive Token where
  | star
  | any
  | lit (c : Char)
  | cls (negated : Bool) (ranges : List (Char × Char))
  deriving DecidableEq, Repr

/-- The tokens of a pattern, from outside a class or from inside one. -/
def tokens : Option (Bool × List (Char × Char)) → List Char → List Token
  | none, [] => []
  | none, '*' :: rest => .star :: tokens none rest
  | none, '?' :: rest => .any :: tokens none rest
  | none, '\\' :: c :: rest => .lit c :: tokens none rest
  | none, '[' :: '^' :: rest => tokens (some (true, [])) rest
  | none, '[' :: rest => tokens (some (false, [])) rest
  | none, c :: rest => .lit c :: tokens none rest
  | some (negated, ranges), [] => [.cls negated ranges]
  | some (negated, ranges), '\\' :: c :: rest => tokens (some (negated, (c, c) :: ranges)) rest
  | some (negated, ranges), ']' :: rest => .cls negated ranges :: tokens none rest
  | some (negated, ranges), a :: '-' :: b :: rest =>
      tokens (some (negated, (a, b) :: ranges)) rest
  | some (negated, ranges), c :: rest => tokens (some (negated, (c, c) :: ranges)) rest

/-- `a-c` and `c-a` are the same range. -/
def inRange (c : Char) (range : Char × Char) : Bool :=
  (range.1 ≤ c && c ≤ range.2) || (range.2 ≤ c && c ≤ range.1)

def accepts : List Token → List Char → Bool
  | [], text => text.isEmpty
  | .star :: ts, text => text.tails.any fun rest => accepts ts rest
  | .any :: ts, _ :: rest => accepts ts rest
  | .lit d :: ts, c :: rest => c == d && accepts ts rest
  | .cls negated ranges :: ts, c :: rest => (ranges.any (inRange c) != negated) && accepts ts rest
  | _ :: _, [] => false

/-- The text matches the pattern. -/
def glob (pattern text : String) : Bool := accepts (tokens none pattern.toList) text.toList

/-- A character that stands for itself. -/
def plain (c : Char) : Bool := c != '*' && c != '?' && c != '[' && c != '\\'

/-- Only such characters. -/
def Plain (text : List Char) : Prop := text.all plain = true

theorem Plain.append {text text' : List Char} (h : Plain text) (h' : Plain text') :
    Plain (text ++ text') := by
  rw [Plain, List.all_append, h, h']
  rfl

theorem tokens_plain {c : Char} (hc : plain c = true) (rest : List Char) :
    tokens none (c :: rest) = .lit c :: tokens none rest := by
  simp only [plain, Bool.and_eq_true, bne_iff_ne] at hc
  obtain ⟨⟨⟨hstar, hquestion⟩, hopen⟩, hback⟩ := hc
  rw [tokens]
  all_goals simp_all

theorem tokens_plain_append {text : List Char} (h : Plain text) (rest : List Char) :
    tokens none (text ++ rest) = text.map Token.lit ++ tokens none rest := by
  induction text with
  | nil => rfl
  | cons c text ih =>
      rw [Plain, List.all_cons, Bool.and_eq_true] at h
      obtain ⟨hc, htext⟩ := h
      rw [List.cons_append, tokens_plain hc, ih htext]
      rfl

/-- Literal tokens are a prefix of what they accept. -/
theorem accepts_lit_append (text : List Char) (ts : List Token) {s : List Char} :
    accepts (text.map Token.lit ++ ts) s = true ↔ ∃ rest, s = text ++ rest ∧ accepts ts rest = true := by
  induction text generalizing s with
  | nil => simp
  | cons c text ih =>
      cases s with
      | nil => simp [accepts]
      | cons d s =>
          simp only [List.map_cons, List.cons_append, accepts, Bool.and_eq_true, beq_iff_eq, ih,
            List.cons.injEq]
          constructor
          · rintro ⟨rfl, rest, rfl, hrest⟩
            exact ⟨rest, ⟨rfl, rfl⟩, hrest⟩
          · rintro ⟨rest, ⟨rfl, rfl⟩, hrest⟩
            exact ⟨rfl, rest, rfl, hrest⟩

theorem accepts_lit {text s : List Char} : accepts (text.map Token.lit) s = true ↔ s = text := by
  have h := accepts_lit_append text [] (s := s)
  rw [List.append_nil] at h
  rw [h]
  constructor
  · rintro ⟨rest, rfl, hrest⟩
    have hempty : rest = [] := by simpa [accepts] using hrest
    rw [hempty, List.append_nil]
  · rintro rfl
    exact ⟨[], (List.append_nil _).symm, rfl⟩

/-- A plain text, a star, a plain text and a pattern: any text may stand between the two. -/
theorem glob_star_append {pre post rest : String} (hpre : Plain pre.toList)
    (hpost : Plain post.toList) {text : String} :
    glob (pre ++ "*" ++ (post ++ rest)) text = true ↔ ∃ mid final,
      text.toList = pre.toList ++ (mid ++ (post.toList ++ final)) ∧
        accepts (tokens none rest.toList) final = true := by
  have hstar : ("*" : String).toList = ['*'] := rfl
  rw [glob, String.toList_append, String.toList_append, String.toList_append, hstar,
    List.append_assoc, tokens_plain_append hpre, List.singleton_append, tokens,
    tokens_plain_append hpost, accepts_lit_append]
  constructor
  · rintro ⟨tail, htext, htail⟩
    simp only [accepts, List.any_eq_true, List.mem_tails] at htail
    obtain ⟨suffix, ⟨mid, hmid⟩, hsuffix⟩ := htail
    obtain ⟨final, rfl, hfinal⟩ := (accepts_lit_append _ _).1 hsuffix
    exact ⟨mid, final, by rw [htext, ← hmid], hfinal⟩
  · rintro ⟨mid, final, htext, hfinal⟩
    refine ⟨mid ++ (post.toList ++ final), htext, ?_⟩
    simp only [accepts, List.any_eq_true, List.mem_tails]
    exact ⟨post.toList ++ final, List.suffix_append _ _,
      (accepts_lit_append _ _).2 ⟨final, rfl, hfinal⟩⟩

/-- A plain text matches itself alone. -/
theorem accepts_plain {text : List Char} (htext : Plain text) {s : List Char} :
    accepts (tokens none text) s = true ↔ s = text := by
  have htokens : tokens none text = text.map Token.lit := by
    have h := tokens_plain_append htext []
    rwa [List.append_nil, tokens, List.append_nil] at h
  rw [htokens, accepts_lit]

/-- A connection: what its reading commands answer at one moment. -/
structure Conn where
  scanMatch : String → Except String (List String)
  hget : String → String → Except String (Option String)

/-- A connection that answers at all, answers from the keyspace. -/
structure Conn.Answers (conn : Conn) (ks : Keyspace) : Prop where
  scanMatch : ∀ pattern keys, conn.scanMatch pattern = .ok keys →
    ∀ key, key ∈ keys ↔ key ∈ ks ∧ glob pattern key = true
  hget : ∀ key field found, conn.hget key field = .ok found → found = ks.hget key field

/-- The connection that never fails. -/
def Conn.over (ks : Keyspace) : Conn where
  scanMatch pattern := .ok (ks.keys.filter (glob pattern))
  hget key field := .ok (ks.hget key field)

theorem Conn.over_answers (ks : Keyspace) : (Conn.over ks).Answers ks where
  scanMatch pattern keys h key := by
    cases h
    rw [List.mem_filter, AList.mem_keys]
  hget key field found h := by
    cases h
    rfl

end Rust.Redis
