/-
# `Phirepass.Protocol.Reencode` — a frame that was read and is written again

`decode` keeps the version byte it finds, whatever it is, and `encode` writes
`FRAME_VERSION`.  The other two fields come back as they were:

    version    the one of this build       (`decode_reencode`)
    encoding   as read
    data       as read
-/
import Phirepass.Protocol.Codec

namespace Phirepass

open Rust

section Reencode

variable {b : Build} {S : Serde}

/-- What `decode` makes of a payload is data of the build. -/
theorem inBuild_of_decodeData {kind : UInt8} {e : FrameEncoding} {payload : Bytes} {d : FrameData}
    (h : decodeData b S kind e payload = .ok d) : d.InBuild b := by
  unfold decodeData at h
  split at h
  · obtain ⟨web, -, hd⟩ := bind_eq_ok h
    cases hd
    trivial
  · split at h
    · next hnode =>
        obtain ⟨node, -, hd⟩ := bind_eq_ok h
        cases hd
        exact hnode.2
    · cases h

/-- So is what it makes of a whole message. -/
theorem inBuild_of_decode {bytes : Bytes} {f : Frame} (h : Frame.decode b S bytes = .ok f) :
    f.data.InBuild b := by
  by_cases hshort : bytes.length < HEADER_SIZE
  · rw [decode_of_short hshort] at h
    cases h
  · obtain ⟨v, e, k, c, l₀, l₁, l₂, l₃, rest, rfl⟩ := exists_header hshort
    rw [decode_header] at h
    obtain ⟨encoding, -, h⟩ := bind_eq_ok h
    obtain ⟨bound, -, h⟩ := bind_eq_ok h
    split at h
    · cases h
    · obtain ⟨stop, -, h⟩ := bind_eq_ok h
      obtain ⟨payload, -, h⟩ := bind_eq_ok h
      obtain ⟨data, hdata, h⟩ := bind_eq_ok h
      cases h
      exact inBuild_of_decodeData hdata

/-- What `encode` wrote is read back with the version of the build, if its length fits the
length field. -/
theorem decode_of_encode (hS : S.Lawful) {f : Frame} {bytes : Bytes} (hb : f.data.InBuild b)
    (henc : Frame.encode b S f = .ok bytes) (hlen : bytes.length < HEADER_SIZE + 2 ^ 32) :
    Frame.decode b S bytes = .ok { f with version := FRAME_VERSION } := by
  obtain ⟨raw, kind, code, hd, hfit, rfl⟩ := encode_eq_ok henc
  have hraw : raw.length < 2 ^ 32 := by
    simp only [List.length_cons, List.length_append, toBeBytes, List.length_nil,
      HEADER_SIZE] at hlen
    omega
  rw [decode_framed f.encoding FRAME_VERSION kind code hraw hfit raw, if_neg (Nat.lt_irrefl _),
    List.take_length, decodeData_encodeData hS hb hd, ok_bind]

/-- **Reading and writing again.**  Whatever was read and written again is read as the same
frame of the build's own version, and so as the same frame exactly if it had that version. -/
theorem decode_reencode (hS : S.Lawful) (bytes : Bytes) (f : Frame)
    (hdec : Frame.decode b S bytes = .ok f) (bytes' : Bytes)
    (henc : Frame.encode b S f = .ok bytes') (hlen : bytes'.length < HEADER_SIZE + 2 ^ 32) :
    Frame.decode b S bytes' = .ok { f with version := FRAME_VERSION } ∧
      (Frame.decode b S bytes' = .ok f ↔ f.version = FRAME_VERSION) := by
  have hback := decode_of_encode hS (inBuild_of_decode hdec) henc hlen
  refine ⟨hback, ?_⟩
  rw [hback]
  constructor
  · intro heq
    exact (congrArg Frame.version (Except.ok.inj heq)).symm
  · intro hversion
    rw [← hversion]

/-- A heartbeat of version 7. -/
theorem decode_reencode_heartbeat :
    Frame.decode ⟨.native, false⟩ heartbeatSerde
        [1, 1, 0, 1, 0, 0, 0, 11, 145, 169, 72, 101, 97, 114, 116, 98, 101, 97, 116] =
          .ok (Frame.ofWeb .heartbeat) ∧
      (Frame.decode ⟨.native, false⟩ heartbeatSerde
        [1, 1, 0, 1, 0, 0, 0, 11, 145, 169, 72, 101, 97, 114, 116, 98, 101, 97, 116] =
          .ok ⟨7, .messagePack, .web .heartbeat⟩ ↔ (7 : UInt8) = FRAME_VERSION) := by
  refine decode_reencode heartbeatSerde_lawful
    [7, 1, 0, 1, 0, 0, 0, 11, 145, 169, 72, 101, 97, 114, 116, 98, 101, 97, 116]
    ⟨7, .messagePack, .web .heartbeat⟩ rfl _ rfl ?_
  decide

/-- **The version is lost.**  Version 7 is read, version 1 is written. -/
theorem reencode_changes_version :
    ∃ f bytes', heartbeatSerde.Lawful ∧
      Frame.decode ⟨.native, false⟩ heartbeatSerde
        [7, 1, 0, 1, 0, 0, 0, 11, 145, 169, 72, 101, 97, 114, 116, 98, 101, 97, 116] = .ok f ∧
      Frame.encode ⟨.native, false⟩ heartbeatSerde f = .ok bytes' ∧
      Frame.decode ⟨.native, false⟩ heartbeatSerde bytes' ≠ .ok f := by
  refine ⟨⟨7, .messagePack, .web .heartbeat⟩, _, heartbeatSerde_lawful, rfl, rfl, ?_⟩
  intro heq
  have hversion : (1 : UInt8) = 7 := congrArg Frame.version (Except.ok.inj heq)
  exact absurd hversion (by decide)

end Reencode

end Phirepass
