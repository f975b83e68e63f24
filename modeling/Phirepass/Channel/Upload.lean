/-
# `Phirepass.Channel.Upload` — the browser's side of an upload, `channel/public/sftp.js`

`uploadFile` is an `async` function.  It asks for an upload id, sends the
chunks one by one, and before each next step it waits:

    startResponse    for `SFTPUploadStartResponse` with its `msgId`
    ack              for `SFTPUploadChunkAck` of the chunk it has just sent
    finished         every chunk was acknowledged
    failed           it waited too long

The progress bar and the listing that follows are left out.
-/
import Phirepass.Protocol.Frames

namespace Phirepass.Channel

/-- `CHUNK_SIZE` of `uploadFile`. -/
def UPLOAD_CHUNK_SIZE : Nat := 64 * 1024

/-- A frame that `uploadFile` sends. -/
inductive UploadRequest where
  | start (upload : SFTPUploadStart) (msgId : UInt32)
  | chunk (chunk : SFTPUploadChunk)
  deriving DecidableEq, Repr

/-- What `uploadFile` waits for. -/
inductive UploadWait where
  | startResponse
  | ack (uploadId : UInt32) (i : Nat)
  | finished
  | failed
  deriving DecidableEq, Repr

namespace Upload

/-- `Math.ceil(file.size / CHUNK_SIZE)`. -/
def totalChunks (content : Bytes) : Nat :=
  (content.length + (UPLOAD_CHUNK_SIZE - 1)) / UPLOAD_CHUNK_SIZE

/-- `file.slice(start, end)` of chunk `i`. -/
def slice (content : Bytes) (i : Nat) : Bytes :=
  let start := i * UPLOAD_CHUNK_SIZE
  content.extract start (min (start + UPLOAD_CHUNK_SIZE) content.length)

/-- The chunk `i`, as it is sent. -/
def chunkAt (content : Bytes) (uploadId : UInt32) (i : Nat) : SFTPUploadChunk :=
  ⟨uploadId, UInt32.ofNat i, UInt32.ofNat (slice content i).length, slice content i⟩

end Upload

/-- A call of `uploadFile`. -/
structure Upload where
  name : String
  currentPath : String
  content : Bytes
  msgId : UInt32
  wait : UploadWait
  /-- The requests sent and not yet served. -/
  requests : List UploadRequest
  deriving DecidableEq, Repr

namespace Upload

/-- `uploadFile`, up to its first request. -/
def uploadFile (name currentPath : String) (content : Bytes) (msgId : UInt32) : Upload :=
  ⟨name, currentPath, content, msgId, .startResponse,
    [.start ⟨name, currentPath, UInt32.ofNat (totalChunks content),
      UInt64.ofNat content.length⟩ msgId]⟩

/-- The loop with its counter at `i`. -/
def nextChunk (u : Upload) (uploadId : UInt32) (i : Nat) : Upload :=
  if i < totalChunks u.content then
    { u with
      wait := .ack uploadId i
      requests := u.requests ++ [.chunk (chunkAt u.content uploadId i)] }
  else { u with wait := .finished }

/-- `handleUploadStartResponse`. -/
def handleUploadStartResponse (u : Upload) (msgId uploadId : UInt32) : Upload :=
  match u.wait with
  | .startResponse => if msgId = u.msgId then u.nextChunk uploadId 0 else u
  | _ => u

/-- `handleUploadChunkAck`. -/
def handleUploadChunkAck (u : Upload) (uploadId chunkIndex : UInt32) : Upload :=
  match u.wait with
  | .ack uploadId' i =>
      if uploadId = uploadId' ∧ chunkIndex.toNat = i then u.nextChunk uploadId' (i + 1) else u
  | _ => u

/-- The `setTimeout` of the promise that is waited for. -/
def timeout (u : Upload) : Upload :=
  match u.wait with
  | .startResponse | .ack _ _ => { u with wait := .failed }
  | .finished | .failed => u

/-! ## Slices -/

section Slices

variable {content : Bytes} {i : Nat}

theorem lt_totalChunks_iff : i < totalChunks content ↔ i * UPLOAD_CHUNK_SIZE < content.length := by
  rw [totalChunks, UPLOAD_CHUNK_SIZE]
  omega

/-- The first `i` chunks and the next one. -/
theorem take_slice (content : Bytes) (i : Nat) :
    content.take (i * UPLOAD_CHUNK_SIZE) ++ slice content i =
      content.take ((i + 1) * UPLOAD_CHUNK_SIZE) := by
  have hslice : slice content i =
      (content.drop (i * UPLOAD_CHUNK_SIZE)).take UPLOAD_CHUNK_SIZE := by
    rw [slice, List.extract_eq_take_drop]
    refine List.take_eq_take_iff.2 ?_
    rw [List.length_drop]
    omega
  rw [hslice, Nat.succ_mul, List.take_add]

/-- All the chunks are the file. -/
theorem take_totalChunks (h : totalChunks content ≤ i) :
    content.take (i * UPLOAD_CHUNK_SIZE) = content := by
  refine List.take_of_length_le ?_
  by_contra hlt
  have hmore := lt_totalChunks_iff.2 (Nat.not_le.1 hlt)
  omega

end Slices

end Upload

end Phirepass.Channel
