/-
# `Phirepass.Protocol.Codec` — `Frame::encode` and `Frame::decode`

A frame on the wire is an eight-byte header and a payload:

    0         1          2      3      4 .. 7                8 ..
    version   encoding   kind   code   length, big endian    payload

`encode` writes it front to back, `decode` reads it by offset.  The payload is
produced and read by `serde_json` or `rmp_serde`, which are not part of the
repository: `Serde` carries their functions, and `Serde.Lawful` is the one law
used of them.

## What is proved

* `decode_encode_append`: what `encode` wrote is read back as the same frame,
  whatever bytes follow it, and every strict prefix of it is refused with an
  error.  The length field is what makes the format self-delimiting.
* `decodeSafe_iff`: `decode` panics on exactly one kind of input.  The
  bound check and the slice both compute `HEADER_SIZE + len`; in a 32-bit
  `usize` (the browser client) that sum overflows for the eight largest
  lengths, and then either the addition panics or the wrapped sum passes the
  check and the slice `[8..k]` with `k < 8` panics.  With 64 bits it cannot
  overflow.
-/
import Phirepass.Protocol.Frames

namespace Phirepass

open Rust

/-- `HEADER_SIZE`. -/
def HEADER_SIZE : Nat := 8

/-! ## The builds -/

/-- The targets the `common` crate is built for: the server and the agent, and the
browser client. -/
inductive Target where
  | native
  | wasm32
  deriving DecidableEq, Repr

def Target.usizeBits : Target → Nat
  | .native => 64
  | .wasm32 => 32

/-- A target and whether its profile checks integer overflow. -/
structure Build where
  target : Target
  overflowChecks : Bool
  deriving DecidableEq, Repr

/-- `HEADER_SIZE + len` and its like. -/
def Build.add (b : Build) (x y : Nat) : Except Fault Nat :=
  usizeAdd b.target.usizeBits b.overflowChecks x y

/-- `Vec::with_capacity(n)`, which panics past `isize::MAX`. -/
def Build.withCapacity (b : Build) (n : Nat) : Except Fault Unit :=
  if n < 2 ^ (b.target.usizeBits - 1) then .ok () else .error (.panic "capacity overflow")

/-- `buf.extend_from_slice(data)`, whose reallocation panics likewise. -/
def Build.extend (b : Build) (buf data : Bytes) : Except Fault Bytes := do
  b.withCapacity (buf.length + data.length)
  return buf ++ data

/-! ## The serialisers -/

/-- `to_vec` and `from_slice` of one format at one type. -/
structure Format (α : Type) where
  toVec : α → Except Fault Bytes
  fromSlice : Bytes → Except Fault α

/-- `serde_json` and `rmp_serde` at the two payload types. -/
structure Serde where
  webJson : Format WebFrameData
  webMessagePack : Format WebFrameData
  nodeJson : Format NodeFrameData
  nodeMessagePack : Format NodeFrameData

def Serde.web (S : Serde) : FrameEncoding → Format WebFrameData
  | .json => S.webJson
  | .messagePack => S.webMessagePack

def Serde.node (S : Serde) : FrameEncoding → Format NodeFrameData
  | .json => S.nodeJson
  | .messagePack => S.nodeMessagePack

/-- Reading what was written gives the value back. -/
def Format.Lawful {α : Type} (F : Format α) : Prop :=
  ∀ a raw, F.toVec a = .ok raw → F.fromSlice raw = .ok a

/-- Neither function panics: serialisers report failure as an error. -/
def Format.Total {α : Type} (F : Format α) : Prop :=
  (∀ a, Returns (F.toVec a)) ∧ ∀ raw, Returns (F.fromSlice raw)

structure Serde.Lawful (S : Serde) : Prop where
  web : ∀ e, (S.web e).Lawful
  node : ∀ e, (S.node e).Lawful

structure Serde.Total (S : Serde) : Prop where
  web : ∀ e, (S.web e).Total
  node : ∀ e, (S.node e).Total

/-! ## The codec -/

/-- `frame_encoding as u8`. -/
def FrameEncoding.toU8 : FrameEncoding → UInt8
  | .json => 0
  | .messagePack => 1

/-- `TryFrom<u8> for FrameEncoding`. -/
def FrameEncoding.tryFrom (code : UInt8) : Except Fault FrameEncoding :=
  if code = 0 then .ok .json
  else if code = 1 then .ok .messagePack
  else .error (.err s!"unknown frame encoding: {code.toNat}")

/-- The `match frame_kind` of `Frame::decode`.  The `Node` arm is compiled out for the
browser. -/
def decodeData (b : Build) (S : Serde) (kind : UInt8) (encoding : FrameEncoding)
    (payload : Bytes) : Except Fault FrameData :=
  if kind = 0 then return .web (← (S.web encoding).fromSlice payload)
  else if kind = 1 ∧ b.target = .native then return .node (← (S.node encoding).fromSlice payload)
  else .error (.err "invalid frame type")

/-- `Frame::decode`. -/
def Frame.decode (b : Build) (S : Serde) (data : Bytes) : Except Fault Frame := do
  if data.length < HEADER_SIZE then
    throw (.err "invalid frame size")
  let version ← index data 0
  let encoding ← FrameEncoding.tryFrom (← index data 1)
  let frameKind ← index data 2
  let _frameCode ← index data 3
  let len := (fromBeBytes (← index data 4) (← index data 5) (← index data 6) (← index data 7)).toNat
  let bound ← b.add HEADER_SIZE len
  if data.length < bound then
    throw (.err "corrupt frame data")
  let stop ← b.add HEADER_SIZE len
  let payload ← slice data HEADER_SIZE stop
  return ⟨version, encoding, ← decodeData b S frameKind encoding payload⟩

/-- The `match &frame.data` of `Frame::encode`: payload, kind and code. -/
def encodeData (S : Serde) (encoding : FrameEncoding) :
    FrameData → Except Fault (Bytes × UInt8 × UInt8)
  | .web data => return (← (S.web encoding).toVec data, 0, data.code)
  | .node data => return (← (S.node encoding).toVec data, 1, data.code)

/-- `Frame::encode`. -/
def Frame.encode (b : Build) (S : Serde) (frame : Frame) : Except Fault Bytes := do
  let (data, kind, code) ← encodeData S frame.encoding frame.data
  b.withCapacity (← b.add HEADER_SIZE data.length)
  let buf ← b.extend [FRAME_VERSION, frame.encoding.toU8, kind, code]
    (toBeBytes (UInt32.ofNat data.length))
  b.extend buf data

/-- The data a build has a variant for: `FrameData::Node` is compiled out for the browser. -/
def FrameData.InBuild (b : Build) : FrameData → Prop
  | .web _ => True
  | .node _ => b.target = .native

/-! ## Reading a header -/

section Codec

variable {b : Build} {S : Serde}

/-- A buffer that could be extended holds both parts and stays under `isize::MAX`. -/
theorem extend_eq_ok {buf data out : Bytes} (h : b.extend buf data = .ok out) :
    buf.length + data.length < 2 ^ (b.target.usizeBits - 1) ∧ out = buf ++ data := by
  unfold Build.extend Build.withCapacity at h
  split at h
  · next hlt =>
      rw [ok_bind] at h
      cases h
      exact ⟨hlt, rfl⟩
  · rw [error_bind] at h
    cases h

theorem tryFrom_toU8 (e : FrameEncoding) : FrameEncoding.tryFrom e.toU8 = .ok e := by
  cases e <;> rfl

/-- What `decode` does once the eight header bytes are there: everything else depends on
the encoding byte and on the sum `HEADER_SIZE + len`. -/
theorem decode_header (v e k c l₀ l₁ l₂ l₃ : UInt8) (rest : Bytes) :
    Frame.decode b S (v :: e :: k :: c :: l₀ :: l₁ :: l₂ :: l₃ :: rest) = (do
      let encoding ← FrameEncoding.tryFrom e
      let bound ← b.add HEADER_SIZE (fromBeBytes l₀ l₁ l₂ l₃).toNat
      if HEADER_SIZE + rest.length < bound then
        throw (.err "corrupt frame data")
      let stop ← b.add HEADER_SIZE (fromBeBytes l₀ l₁ l₂ l₃).toNat
      let payload ← slice (v :: e :: k :: c :: l₀ :: l₁ :: l₂ :: l₃ :: rest) HEADER_SIZE stop
      return ⟨v, encoding, ← decodeData b S k encoding payload⟩) := by
  have hlen : (v :: e :: k :: c :: l₀ :: l₁ :: l₂ :: l₃ :: rest).length
      = HEADER_SIZE + rest.length := by
    simp only [List.length_cons, HEADER_SIZE]
    omega
  have hsize : ¬ HEADER_SIZE + rest.length < HEADER_SIZE := by omega
  unfold Frame.decode
  rw [hlen, if_neg hsize]
  simp only [index_zero, index_succ, ok_bind]

/-- A slice that starts behind the header and ends inside the data is a prefix of the rest. -/
theorem slice_header (v e k c l₀ l₁ l₂ l₃ : UInt8) {rest : Bytes} {n : Nat}
    (hn : n ≤ rest.length) :
    slice (v :: e :: k :: c :: l₀ :: l₁ :: l₂ :: l₃ :: rest) HEADER_SIZE (HEADER_SIZE + n)
      = .ok (rest.take n) := by
  have hle : HEADER_SIZE + n ≤ (v :: e :: k :: c :: l₀ :: l₁ :: l₂ :: l₃ :: rest).length := by
    simp only [List.length_cons, HEADER_SIZE]
    omega
  rw [slice, if_pos (by omega), if_pos hle]
  simp [HEADER_SIZE, Nat.add_comm 8 n]

/-- Eight bytes can be named once the length check has passed. -/
theorem exists_header {data : Bytes} (h : ¬ data.length < HEADER_SIZE) :
    ∃ v e k c l₀ l₁ l₂ l₃ rest,
      data = v :: e :: k :: c :: l₀ :: l₁ :: l₂ :: l₃ :: rest := by
  match data with
  | v :: e :: k :: c :: l₀ :: l₁ :: l₂ :: l₃ :: rest =>
      exact ⟨v, e, k, c, l₀, l₁, l₂, l₃, rest, rfl⟩
  | [] | [_] | [_, _] | [_, _, _] | [_, _, _, _] | [_, _, _, _, _] | [_, _, _, _, _, _]
  | [_, _, _, _, _, _, _] => exact absurd (by simp [HEADER_SIZE]) h

theorem decode_of_short {data : Bytes} (h : data.length < HEADER_SIZE) :
    Frame.decode b S data = .error (.err "invalid frame size") := by
  unfold Frame.decode
  rw [if_pos h]
  rfl

/-- Where `HEADER_SIZE + len` fits a `usize`, `decode` either lacks payload or reads exactly
`len` bytes of it. -/
theorem decode_of_fits (v e k c l₀ l₁ l₂ l₃ : UInt8) (rest : Bytes)
    (hfit : HEADER_SIZE + (fromBeBytes l₀ l₁ l₂ l₃).toNat < 2 ^ b.target.usizeBits) :
    Frame.decode b S (v :: e :: k :: c :: l₀ :: l₁ :: l₂ :: l₃ :: rest) =
      FrameEncoding.tryFrom e >>= fun encoding =>
        if rest.length < (fromBeBytes l₀ l₁ l₂ l₃).toNat then
          .error (.err "corrupt frame data")
        else
          decodeData b S k encoding (rest.take (fromBeBytes l₀ l₁ l₂ l₃).toNat) >>= fun data =>
            .ok ⟨v, encoding, data⟩ := by
  have hadd : b.add HEADER_SIZE (fromBeBytes l₀ l₁ l₂ l₃).toNat
      = .ok (HEADER_SIZE + (fromBeBytes l₀ l₁ l₂ l₃).toNat) := usizeAdd_of_lt hfit
  rw [decode_header]
  generalize (fromBeBytes l₀ l₁ l₂ l₃).toNat = len at hadd
  cases FrameEncoding.tryFrom e with
  | error x => simp only [error_bind]
  | ok encoding =>
      simp only [ok_bind, hadd]
      by_cases hlt : rest.length < len
      · rw [if_pos hlt, if_pos (by omega)]
        rfl
      · rw [if_neg hlt, if_neg (by omega), slice_header v e k c l₀ l₁ l₂ l₃ (by omega)]
        simp only [ok_bind]
        rfl

/-! ## Round trip -/

/-- What a successful `encode` wrote, and that it fits the address space. -/
theorem encode_eq_ok {f : Frame} {bytes : Bytes} (h : Frame.encode b S f = .ok bytes) :
    ∃ raw kind code, encodeData S f.encoding f.data = .ok (raw, kind, code) ∧
      HEADER_SIZE + raw.length < 2 ^ b.target.usizeBits ∧
      bytes = FRAME_VERSION :: f.encoding.toU8 :: kind :: code ::
        (toBeBytes (UInt32.ofNat raw.length) ++ raw) := by
  unfold Frame.encode at h
  cases hd : encodeData S f.encoding f.data with
  | error e => simp [hd] at h
  | ok v =>
      obtain ⟨raw, kind, code⟩ := v
      rw [hd, ok_bind] at h
      cases ha : b.add HEADER_SIZE raw.length with
      | error e => simp [ha] at h
      | ok n =>
          cases hc : b.withCapacity n with
          | error e => simp [ha, hc] at h
          | ok u =>
              simp only [ha, hc, ok_bind] at h
              obtain ⟨buf, hbuf, hext⟩ := bind_eq_ok h
              obtain ⟨-, rfl⟩ := extend_eq_ok hbuf
              obtain ⟨hcap, rfl⟩ := extend_eq_ok hext
              refine ⟨raw, kind, code, rfl, ?_, rfl⟩
              have hle : 2 ^ (b.target.usizeBits - 1) ≤ 2 ^ b.target.usizeBits :=
                Nat.pow_le_pow_right (by omega) (by omega)
              exact Nat.lt_of_lt_of_le hcap hle

/-- The payload and kind that `encode` chose are the ones `decode` reads the data from. -/
theorem decodeData_encodeData (hS : S.Lawful) {e : FrameEncoding} {d : FrameData}
    (hb : d.InBuild b) {raw : Bytes} {kind code : UInt8}
    (h : encodeData S e d = .ok (raw, kind, code)) : decodeData b S kind e raw = .ok d := by
  cases d with
  | web data =>
      cases hv : (S.web e).toVec data with
      | error x => simp [encodeData, hv] at h
      | ok raw' =>
          simp only [encodeData, hv, ok_bind, pure, Except.pure, Except.ok.injEq,
            Prod.mk.injEq] at h
          obtain ⟨rfl, rfl, -⟩ := h
          have hread := hS.web e data raw' hv
          simp [decodeData, hread, pure, Except.pure]
  | node data =>
      cases hv : (S.node e).toVec data with
      | error x => simp [encodeData, hv] at h
      | ok raw' =>
          simp only [encodeData, hv, ok_bind, pure, Except.pure, Except.ok.injEq,
            Prod.mk.injEq] at h
          obtain ⟨rfl, rfl, -⟩ := h
          have hread := hS.node e data raw' hv
          have hnative : b.target = .native := hb
          simp [decodeData, hread, hnative, pure, Except.pure]

/-- A header whose length field says `n`, and anything after it. -/
theorem decode_framed (e : FrameEncoding) (v kind code : UInt8) {n : Nat} (hn : n < 2 ^ 32)
    (hfit : HEADER_SIZE + n < 2 ^ b.target.usizeBits) (rest : Bytes) :
    Frame.decode b S (v :: e.toU8 :: kind :: code :: (toBeBytes (UInt32.ofNat n) ++ rest)) =
      if rest.length < n then .error (.err "corrupt frame data")
      else decodeData b S kind e (rest.take n) >>= fun data => .ok ⟨v, e, data⟩ := by
  have hlen : (UInt32.ofNat n).toNat = n := by
    rw [UInt32.toNat_ofNat']
    omega
  have hback := toNat_fromBeBytes_toBeBytes (UInt32.ofNat n)
  rw [hlen] at hback
  show Frame.decode b S (_ :: _ :: _ :: _ :: _ :: _ :: _ :: _ :: rest) = _
  rw [decode_of_fits _ _ _ _ _ _ _ _ _ (by rw [hlen, hback]; exact hfit), tryFrom_toU8,
    ok_bind, hlen, hback]

/-- **Round trip and self-delimitation.**  Whatever `encode` returned is read back as the
frame it came from, also with other bytes behind it; cut anywhere, it is refused. -/
theorem decode_encode_append (hS : S.Lawful) (f : Frame) (hb : f.data.InBuild b)
    (hv : f.version = FRAME_VERSION)
    (hlen : ∀ raw kind code, encodeData S f.encoding f.data = .ok (raw, kind, code) →
      raw.length < 2 ^ 32)
    (bytes : Bytes) (henc : Frame.encode b S f = .ok bytes) :
    (∀ rest, Frame.decode b S (bytes ++ rest) = .ok f) ∧
      ∀ short, short <+: bytes → short ≠ bytes →
        ∃ m, Frame.decode b S short = .error (.err m) := by
  obtain ⟨raw, kind, code, hd, hfit, rfl⟩ := encode_eq_ok henc
  have hraw := hlen raw kind code hd
  have hdecode (rest : Bytes) :=
    decode_framed (S := S) f.encoding FRAME_VERSION kind code hraw hfit rest
  constructor
  · intro rest
    have hnot : ¬ (raw ++ rest).length < raw.length := by simp
    have hf : (⟨FRAME_VERSION, f.encoding, f.data⟩ : Frame) = f := by rw [← hv]
    have hdec := hdecode (raw ++ rest)
    rw [if_neg hnot, List.take_left, decodeData_encodeData hS hb hd, ok_bind, hf] at hdec
    simpa only [List.cons_append, List.append_assoc] using hdec
  · rintro short ⟨cut, hcut⟩ hne
    have hpos : 0 < cut.length := by
      cases cut with
      | nil => exact absurd (by simpa using hcut) hne
      | cons _ _ => simp
    by_cases hshort : short.length < HEADER_SIZE
    · exact ⟨_, decode_of_short hshort⟩
    · obtain ⟨v, e, k, c, l₀, l₁, l₂, l₃, rest, rfl⟩ := exists_header hshort
      simp only [toBeBytes, List.cons_append, List.nil_append, List.cons.injEq] at hcut
      obtain ⟨rfl, rfl, rfl, rfl, rfl, rfl, rfl, rfl, hrest⟩ := hcut
      have hlt : rest.length < raw.length := by
        rw [← hrest, List.length_append]
        omega
      refine ⟨"corrupt frame data", ?_⟩
      have hdec := hdecode rest
      rw [if_pos hlt] at hdec
      exact hdec

/-- `serde_json` and `rmp_serde` on the two spellings of `WebFrameData::Heartbeat`,
`{"type":"Heartbeat"}` and the array `["Heartbeat"]`; everything else is refused. -/
def heartbeatSerde : Serde where
  webJson := format [123, 34, 116, 121, 112, 101, 34, 58, 34, 72, 101, 97, 114, 116, 98, 101, 97,
    116, 34, 125]
  webMessagePack := format [145, 169, 72, 101, 97, 114, 116, 98, 101, 97, 116]
  nodeJson := refuse
  nodeMessagePack := refuse
where
  format (bytes : Bytes) : Format WebFrameData :=
    { toVec := fun | .heartbeat => .ok bytes | _ => .error (.err "not written")
      fromSlice := fun raw => if raw = bytes then .ok .heartbeat else .error (.err "not read") }
  refuse : Format NodeFrameData :=
    { toVec := fun _ => .error (.err "not written")
      fromSlice := fun _ => .error (.err "not read") }

theorem heartbeatSerde_lawful : heartbeatSerde.Lawful where
  web e := by
    have hformat (bytes : Bytes) : (heartbeatSerde.format bytes).Lawful := by
      intro a raw h
      cases a <;> cases h
      exact if_pos rfl
    cases e
    · exact hformat _
    · exact hformat _
  node e := by
    cases e
    · exact fun _ _ h => nomatch h
    · exact fun _ _ h => nomatch h

theorem heartbeatSerde_total : heartbeatSerde.Total where
  web e := by
    have hformat (bytes : Bytes) : (heartbeatSerde.format bytes).Total := by
      refine ⟨fun a => ?_, fun raw => ?_⟩
      · cases a
        case heartbeat => exact returns_ok _
        all_goals exact returns_err _
      · by_cases h : raw = bytes
        · simpa [heartbeatSerde.format, h] using returns_ok _
        · simpa [heartbeatSerde.format, h] using returns_err _
    cases e
    · exact hformat _
    · exact hformat _
  node e := by
    cases e
    · exact ⟨fun _ => returns_err _, fun _ => returns_err _⟩
    · exact ⟨fun _ => returns_err _, fun _ => returns_err _⟩

theorem decode_encode_append_heartbeat :
    (∀ rest, Frame.decode ⟨.native, false⟩ heartbeatSerde
        ([1, 1, 0, 1, 0, 0, 0, 11, 145, 169, 72, 101, 97, 114, 116, 98, 101, 97, 116] ++ rest)
          = .ok (Frame.ofWeb .heartbeat)) ∧
      ∀ short, short <+: [1, 1, 0, 1, 0, 0, 0, 11, 145, 169, 72, 101, 97, 114, 116, 98, 101, 97,
          116] →
        short ≠ [1, 1, 0, 1, 0, 0, 0, 11, 145, 169, 72, 101, 97, 114, 116, 98, 101, 97, 116] →
          ∃ m, Frame.decode ⟨.native, false⟩ heartbeatSerde short = .error (.err m) := by
  refine decode_encode_append heartbeatSerde_lawful (Frame.ofWeb .heartbeat) trivial rfl ?_ _ rfl
  intro raw kind code h
  cases h
  decide

/-! ## No panics -/

/-- The length field of the bytes, where `decode` gets as far as adding it: the header is
complete and its encoding byte is known. -/
def lengthField : Bytes → Option Nat
  | _ :: e :: _ :: _ :: l₀ :: l₁ :: l₂ :: l₃ :: _ =>
      if e = 0 ∨ e = 1 then some (fromBeBytes l₀ l₁ l₂ l₃).toNat else none
  | _ => none

/-- `decode` comes back, the sum `HEADER_SIZE + len` stays a `usize`, and where the bound
check passes the slice it takes is one of the data. -/
structure DecodeSafe (b : Build) (S : Serde) (data : Bytes) : Prop where
  returns : Returns (Frame.decode b S data)
  noOverflow : ∀ len, lengthField data = some len → HEADER_SIZE + len < 2 ^ b.target.usizeBits
  inBounds : ∀ len, lengthField data = some len → HEADER_SIZE + len ≤ data.length →
    ∃ payload, slice data HEADER_SIZE (HEADER_SIZE + len) = .ok payload

theorem returns_bind {α β : Type} {x : Except Fault α} {f : α → Except Fault β} (hx : Returns x)
    (hf : ∀ a, Returns (f a)) : Returns (x >>= f) := by
  cases x with
  | ok a =>
      rw [ok_bind]
      exact hf a
  | error e =>
      rw [error_bind]
      intro m hm
      cases hm
      exact hx m rfl

theorem tryFrom_returns (e : UInt8) : Returns (FrameEncoding.tryFrom e) := by
  unfold FrameEncoding.tryFrom
  split
  · exact returns_ok _
  · split
    · exact returns_ok _
    · exact returns_err _

theorem decodeData_returns (hS : S.Total) (k : UInt8) (e : FrameEncoding) (payload : Bytes) :
    Returns (decodeData b S k e payload) := by
  unfold decodeData
  split
  · exact returns_bind ((hS.web e).2 payload) fun _ => returns_ok _
  · split
    · exact returns_bind ((hS.node e).2 payload) fun _ => returns_ok _
    · exact returns_err _

/-- A known encoding byte is one that `tryFrom` accepts. -/
theorem tryFrom_cases (e : UInt8) :
    (e = 0 ∨ e = 1) ∧ (∃ encoding, FrameEncoding.tryFrom e = .ok encoding) ∨
      ¬ (e = 0 ∨ e = 1) ∧ ∃ m, FrameEncoding.tryFrom e = .error (.err m) := by
  unfold FrameEncoding.tryFrom
  by_cases h0 : e = 0
  · exact .inl ⟨.inl h0, _, if_pos h0⟩
  · by_cases h1 : e = 1
    · exact .inl ⟨.inr h1, .messagePack, by simp [h1]⟩
    · exact .inr ⟨by simp [h0, h1], _, by rw [if_neg h0, if_neg h1]⟩

/-- Without overflow `decode` comes back. -/
theorem decode_returns_of_fits (hS : S.Total) (v e k c l₀ l₁ l₂ l₃ : UInt8) (rest : Bytes)
    (hfit : HEADER_SIZE + (fromBeBytes l₀ l₁ l₂ l₃).toNat < 2 ^ b.target.usizeBits) :
    Returns (Frame.decode b S (v :: e :: k :: c :: l₀ :: l₁ :: l₂ :: l₃ :: rest)) := by
  rw [decode_of_fits v e k c l₀ l₁ l₂ l₃ rest hfit]
  refine returns_bind (tryFrom_returns e) fun encoding => ?_
  split
  · exact returns_err _
  · exact returns_bind (decodeData_returns hS k encoding _) fun _ => returns_ok _

/-- With overflow it never does: either the addition panics, or the wrapped sum is below
`HEADER_SIZE`, passes the bound check and ends the slice before it starts. -/
theorem decode_panics_of_overflow (v k c l₀ l₁ l₂ l₃ : UInt8) {e : UInt8} (rest : Bytes)
    {encoding : FrameEncoding} (he : FrameEncoding.tryFrom e = .ok encoding)
    (hover : 2 ^ b.target.usizeBits ≤ HEADER_SIZE + (fromBeBytes l₀ l₁ l₂ l₃).toNat) :
    ¬ Returns (Frame.decode b S (v :: e :: k :: c :: l₀ :: l₁ :: l₂ :: l₃ :: rest)) := by
  rw [decode_header, he, ok_bind]
  have hlen := (fromBeBytes l₀ l₁ l₂ l₃).toNat_lt
  generalize (fromBeBytes l₀ l₁ l₂ l₃).toNat = len at hover hlen
  have hbits : b.target.usizeBits = 32 := by
    cases ht : b.target with
    | wasm32 => rfl
    | native =>
        simp only [ht, Target.usizeBits, HEADER_SIZE] at hover
        omega
  rw [hbits] at hover
  cases hc : b.overflowChecks with
  | true =>
      have hadd : b.add HEADER_SIZE len = .error (.panic "attempt to add with overflow") := by
        rw [Build.add, usizeAdd, hbits, if_neg (by omega), hc, if_pos rfl]
      rw [hadd, error_bind]
      exact not_returns_panic _
  | false =>
      have hwrap : (HEADER_SIZE + len) % 2 ^ 32 = HEADER_SIZE + len - 2 ^ 32 := by
        rw [Nat.mod_eq_sub_mod hover, Nat.mod_eq_of_lt]
        simp only [HEADER_SIZE]
        omega
      have hadd : b.add HEADER_SIZE len = .ok (HEADER_SIZE + len - 2 ^ 32) := by
        rw [Build.add, usizeAdd, hbits, if_neg (by omega), hc, if_neg (by simp), hwrap]
      have hsmall : HEADER_SIZE + len - 2 ^ 32 < HEADER_SIZE := by
        simp only [HEADER_SIZE]
        omega
      simp only [hadd, ok_bind]
      rw [if_neg (by omega), slice, if_neg (by omega)]
      simp only [error_bind]
      exact not_returns_panic _

/-- The bytes on which the sum overflows: a complete header with a known encoding byte whose
length field is one of the eight largest, read by the 32-bit build. -/
def SumOverflows (b : Build) (data : Bytes) : Prop :=
  b.target = .wasm32 ∧ ∃ len, lengthField data = some len ∧ 2 ^ 32 - HEADER_SIZE ≤ len

theorem lengthField_header (v k c l₀ l₁ l₂ l₃ : UInt8) {e : UInt8} (rest : Bytes)
    (he : e = 0 ∨ e = 1) :
    lengthField (v :: e :: k :: c :: l₀ :: l₁ :: l₂ :: l₃ :: rest)
      = some (fromBeBytes l₀ l₁ l₂ l₃).toNat := if_pos he

/-- Where a length is read, the header is there and its encoding byte is known. -/
theorem exists_of_lengthField {data : Bytes} {len : Nat} (h : lengthField data = some len) :
    ∃ v e k c l₀ l₁ l₂ l₃ rest, data = v :: e :: k :: c :: l₀ :: l₁ :: l₂ :: l₃ :: rest ∧
      (e = 0 ∨ e = 1) ∧ len = (fromBeBytes l₀ l₁ l₂ l₃).toNat := by
  unfold lengthField at h
  split at h
  · next v e k c l₀ l₁ l₂ l₃ rest =>
      split at h
      · next he =>
          cases h
          exact ⟨v, e, k, c, l₀, l₁, l₂, l₃, rest, rfl, he, rfl⟩
      · cases h
  · cases h

/-- Off the overflow the sum fits, on either target. -/
theorem fits_of_not_overflows {data : Bytes} (hnot : ¬ SumOverflows b data) {len : Nat}
    (hlen : lengthField data = some len) : HEADER_SIZE + len < 2 ^ b.target.usizeBits := by
  have hlt : len < 2 ^ 32 := by
    obtain ⟨_, _, _, _, l₀, l₁, l₂, l₃, _, -, -, rfl⟩ := exists_of_lengthField hlen
    exact (fromBeBytes l₀ l₁ l₂ l₃).toNat_lt
  cases ht : b.target with
  | native =>
      simp only [Target.usizeBits, HEADER_SIZE]
      omega
  | wasm32 =>
      have hsmall : ¬ 2 ^ 32 - HEADER_SIZE ≤ len := fun hle => hnot ⟨ht, len, hlen, hle⟩
      simp only [Target.usizeBits, HEADER_SIZE] at hsmall ⊢
      omega

/-- `decode` panics exactly where the sum overflows, in a build with overflow checks as in
one without. -/
theorem decode_returns_iff (hS : S.Total) (data : Bytes) :
    Returns (Frame.decode b S data) ↔ ¬ SumOverflows b data := by
  constructor
  · rintro hret ⟨hwasm, len, hlen, hle⟩
    obtain ⟨v, e, k, c, l₀, l₁, l₂, l₃, rest, rfl, hknown, rfl⟩ := exists_of_lengthField hlen
    obtain ⟨-, encoding, he⟩ | ⟨hunknown, -⟩ := tryFrom_cases e
    · refine decode_panics_of_overflow v k c l₀ l₁ l₂ l₃ rest he ?_ hret
      simp only [hwasm, Target.usizeBits, HEADER_SIZE] at hle ⊢
      omega
    · exact hunknown hknown
  · intro hnot
    by_cases hshort : data.length < HEADER_SIZE
    · rw [decode_of_short hshort]
      exact returns_err _
    · obtain ⟨v, e, k, c, l₀, l₁, l₂, l₃, rest, rfl⟩ := exists_header hshort
      obtain ⟨hknown, -⟩ | ⟨-, m, hbad⟩ := tryFrom_cases e
      · have hfield := lengthField_header v k c l₀ l₁ l₂ l₃ rest hknown
        exact decode_returns_of_fits hS v e k c l₀ l₁ l₂ l₃ rest (fits_of_not_overflows hnot hfield)
      · rw [decode_header, hbad, error_bind]
        exact returns_err _

/-- **No panics, exactly.**  `decode` is safe on all bytes but those whose length field
overflows the sum. -/
theorem decodeSafe_iff (hS : S.Total) (data : Bytes) :
    DecodeSafe b S data ↔ ¬ SumOverflows b data := by
  constructor
  · intro hsafe
    exact (decode_returns_iff hS data).1 hsafe.returns
  · intro hnot
    refine ⟨(decode_returns_iff hS data).2 hnot, fun len => fits_of_not_overflows hnot, ?_⟩
    intro len hlen hle
    obtain ⟨v, e, k, c, l₀, l₁, l₂, l₃, rest, rfl, -, rfl⟩ := exists_of_lengthField hlen
    refine ⟨_, slice_header v e k c l₀ l₁ l₂ l₃ ?_⟩
    simp only [List.length_cons, HEADER_SIZE] at hle
    omega

theorem decodeSafe_iff_empty_payload :
    DecodeSafe ⟨.wasm32, false⟩ heartbeatSerde [1, 1, 0, 1, 0, 0, 0, 0] := by
  refine (decodeSafe_iff heartbeatSerde_total _).2 ?_
  rintro ⟨-, len, hlen, hle⟩
  have hzero : some 0 = some len := hlen
  simp only [Option.some.injEq, HEADER_SIZE] at hzero hle
  omega

/-- Eight bytes whose length field is `u32::MAX` stop the browser client. -/
theorem not_decodeSafe_max_length :
    ¬ DecodeSafe ⟨.wasm32, false⟩ heartbeatSerde [1, 0, 0, 1, 255, 255, 255, 255] := by
  intro hsafe
  exact hsafe.returns "slice index starts at a larger index than it ends" rfl

end Codec

end Phirepass
