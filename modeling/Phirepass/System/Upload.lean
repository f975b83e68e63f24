/-
# `Phirepass.System.Upload` — a file, chunk by chunk, from the browser to the host

The page's `uploadFile` and the tunnel's `start_upload` and `upload_file_chunk`
take turns; between them the server passes frames on.  The host is any SFTP
server over a disk: a call may fail at any time, and one that succeeds has
done what it says.

    until the last chunk is renamed    the destination is what it was
    from then on                       it holds what the temporary file held
                                       before, and then the whole file

The temporary file is opened for appending, so what an upload before left
there comes first.  An empty file has no chunk, and the destination is never
made.

A tunnel whose write of a chunk before the last fails waits for the guard that
it holds itself.  It hangs: part of the chunk may be in the temporary file,
requests that come are not served any more, and the page is left to its
timeout.
-/
import Phirepass.Agent.Chunks
import Phirepass.Channel.Upload
import Phirepass.Storage.Disk

namespace Phirepass.System

open Rust Interleave Agent Channel Storage

/-! ## A host with a disk -/

/-- The host keeps its files on `disk`: a call that succeeds does what it says, one that fails
does nothing, a failed write excepted. -/
structure KeepsFiles {η : Type} (H : Remote η) (resolve : String → String)
    (disk : η → Disk String File) : Prop where
  opened : ∀ h path file, (H.sftp h (.openWithFlags path)).1 = .ok file →
    disk (H.sftp h (.openWithFlags path)).2 = (disk h).after (.openAppend (resolve path) file)
  notOpened : ∀ h path err, (H.sftp h (.openWithFlags path)).1 = .error err →
    disk (H.sftp h (.openWithFlags path)).2 = disk h
  written : ∀ h file data, (H.sftp h (.writeAll file data)).1 = .ok () →
    disk (H.sftp h (.writeAll file data)).2 = (disk h).after (.append file data)
  partlyWritten : ∀ h file data err, (H.sftp h (.writeAll file data)).1 = .error err →
    ∃ n, disk (H.sftp h (.writeAll file data)).2 = (disk h).after (.append file (data.take n))
  renamed : ∀ h old new, (H.sftp h (.rename old new)).1 = .ok () →
    disk (H.sftp h (.rename old new)).2 = (disk h).after (.rename (resolve old) (resolve new))
  notRenamed : ∀ h old new err, (H.sftp h (.rename old new)).1 = .error err →
    disk (H.sftp h (.rename old new)).2 = disk h
  clock : ∀ h, disk (H.now h).2 = disk h

/-! ## Turns -/

/-- The tunnel serves a request: whether it comes back from that, and how far it comes. -/
def serveUpload {η : Type} (H : Remote η) (S : Setup) (tn : Tunnel) :
    UploadRequest → Local η → Bool × Local η
  | .start upload msgId, w =>
      let served := (startUpload tn upload (some msgId)).advance (H.exec S tn.conn) w
      (served.1.isSome, served.2)
  | .chunk chunk, w =>
      let served := (guardedUploadFileChunk tn chunk none).advance
        (H.guardedExec S tn.conn id) ⟨w, []⟩
      (served.1.isSome, served.2.base)

/-- The server passes the frame on, and the page hands it to its upload. -/
def deliverUpload (u : Upload) : NodeFrameData → Upload
  | .webFrame (.sftpUploadStartResponse _ (some msgId) response) _ =>
      u.handleUploadStartResponse msgId response.uploadId
  | .webFrame (.sftpUploadChunkAck _ uploadId chunkIndex) _ =>
      u.handleUploadChunkAck uploadId chunkIndex
  | _ => u

/-- The oldest request is served and its answer delivered, or the page gives up waiting. -/
inductive Turn where
  | serve
  | timeout
  deriving DecidableEq, Repr

/-- An upload under way. -/
structure Transfer (η : Type) where
  page : Upload
  tunnel : Local η
  /-- The tunnel has not come back from a request. -/
  hung : Bool

/-- One turn.  What the tunnel had sent is delivered also if it hangs, and from then on requests
wait. -/
def uploadTurn {η : Type} (H : Remote η) (S : Setup) (tn : Tunnel) (x : Transfer η) :
    Turn → Transfer η
  | .timeout => { x with page := x.page.timeout }
  | .serve =>
      match x.hung, x.page.requests with
      | false, request :: rest =>
          let served := serveUpload H S tn request x.tunnel
          ⟨(served.2.sent.drop x.tunnel.sent.length).foldl deliverUpload
            { x.page with requests := rest }, served.2, !served.1⟩
      | _, _ => x

/-- Many, the first one first. -/
def uploadTurns {η : Type} (H : Remote η) (S : Setup) (tn : Tunnel) :
    List Turn → Transfer η → Transfer η
  | [], x => x
  | turn :: turns, x => uploadTurns H S tn turns (uploadTurn H S tn x turn)

/-! ## What the tunnel does with a request -/

section Serve

variable {η : Type} {H : Remote η} {S : Setup} {tn : Tunnel} {w : Local η}
  {upload : SFTPUploadStart} {msgId : Option UInt32} {chunk : SFTPUploadChunk} {entry : FileUpload}
  {err : String} {file : File}

theorem serve_of_start {msgId : UInt32} {w' : Local η}
    (hrun : runLocal H S tn (startUpload tn upload (some msgId)) w = some ((), w')) :
    serveUpload H S tn (.start upload msgId) w = (true, w') := by
  have hadvance : (startUpload tn upload (some msgId)).advance (H.exec S tn.conn) w =
      (some (), w') := Prog.advance_of_run hrun
  rw [serveUpload, hadvance]
  rfl

theorem serve_of_chunk {x : Locked η}
    (hrun : runGuarded H S tn id (guardedUploadFileChunk tn chunk none) ⟨w, []⟩ = some ((), x)) :
    serveUpload H S tn (.chunk chunk) w = (true, x.base) := by
  have hadvance : (guardedUploadFileChunk tn chunk none).advance (H.guardedExec S tn.conn id)
      ⟨w, []⟩ = (some (), x) := Prog.advance_of_run hrun
  rw [serveUpload, hadvance]
  rfl

/-- Where the upload goes until it is renamed. -/
def tempPath (path name : String) : String := filePath path name ++ ".tmp"

theorem run_startUpload_fails (upload : SFTPUploadStart)
    (hopen : (H.sftp w.host (.openWithFlags (tempPath upload.remotePath upload.filename))).1 =
      .error err) :
    runLocal H S tn (startUpload tn upload msgId) w =
      some ((), { w with
        host := (H.sftp w.host
          (.openWithFlags (tempPath upload.remotePath upload.filename))).2 }.replied tn
            (.error .generic s!"Failed to open file: {err}" msgId)) := by
  unfold tempPath at hopen
  unfold startUpload
  dsimp only
  rw [run_sftp]
  simp only [hopen]
  exact run_reply

/-- The record that `start_upload` enters. -/
def startedEntry (upload : SFTPUploadStart) (file : File) (now : Time) : FileUpload :=
  ⟨upload.filename, upload.remotePath, upload.totalChunks, upload.totalSize, file,
    tempPath upload.remotePath upload.filename, now, now⟩

theorem run_startUpload (S : Setup) (tn : Tunnel) (upload : SFTPUploadStart)
    (msgId : Option UInt32)
    (hopen : (H.sftp w.host (.openWithFlags (tempPath upload.remotePath upload.filename))).1 =
      .ok file) :
    ∃ now, runLocal H S tn (startUpload tn upload msgId) w =
      some ((), { w with
        nextId := w.nextId + 1
        uploads := w.uploads.insert (tn.cid, w.nextId) (startedEntry upload file now)
        host := (H.now (H.sftp w.host
          (.openWithFlags (tempPath upload.remotePath upload.filename))).2).2 }.replied tn
            (.sftpUploadStartResponse tn.sid msgId ⟨w.nextId⟩)) := by
  refine ⟨(H.now (H.sftp w.host
    (.openWithFlags (tempPath upload.remotePath upload.filename))).2).1, ?_⟩
  unfold tempPath at hopen
  unfold startUpload
  dsimp only
  rw [run_sftp]
  simp only [hopen]
  rw [run_generateId, run_now, run_uploads (by rfl)]
  exact run_reply

/-- A chunk of a known upload: the index is looked at, and the chunk written. -/
theorem run_chunk_of_entry (hentry : w.uploads.lookup (tn.cid, chunk.uploadId) = some entry)
    (hindex : chunk.chunkIndex.toNat + 1 < 2 ^ 32) :
    runGuarded H S tn id (guardedUploadFileChunk tn chunk msgId) ⟨w, []⟩ =
      runGuarded H S tn id
        (if entry.totalChunks ≤ chunk.chunkIndex + 1 then unguarded (finishUpload tn chunk msgId)
          else guardedContinueUpload tn chunk msgId) ⟨w, []⟩ := by
  have hone : (1 : UInt32).toNat = 1 := rfl
  unfold guardedUploadFileChunk
  rw [run_getGuarded, hentry]
  simp only [Option.isSome_some, if_true]
  rw [run_guarded_addU32, if_neg (by omega), run_drop, List.erase_cons_head]
  rfl

/-- A chunk that is not the last is written. -/
theorem run_continue_of_entry (S : Setup) (chunk : SFTPUploadChunk) (msgId : Option UInt32)
    (hentry : w.uploads.lookup (tn.cid, chunk.uploadId) = some entry)
    (hwrite : (H.sftp w.host (.writeAll entry.sftpFile chunk.data)).1 = .ok ()) :
    ∃ now, runGuarded H S tn id (guardedContinueUpload tn chunk msgId) ⟨w, []⟩ =
      some ((), ⟨{ w with
        uploads := w.uploads.insert (tn.cid, chunk.uploadId) { entry with lastUpdated := now }
        host := (H.now (afterWrite H w.host entry chunk)).2 }.replied tn
          (.sftpUploadChunkAck tn.sid chunk.uploadId chunk.chunkIndex), []⟩) := by
  have hwritten : H.exec S tn.conn (.sftp (.writeAll entry.sftpFile chunk.data)) w =
      some (.ok (), { w with host := afterWrite H w.host entry chunk }) := by
    rw [← hwrite]
    rfl
  have hmodified (now : Time) (h : η) : H.exec S tn.conn
      (.uploads tn.conn (.modify (tn.cid, chunk.uploadId) fun u => { u with lastUpdated := now }))
      { w with host := h } = some (true, { w with
        uploads := w.uploads.insert (tn.cid, chunk.uploadId) { entry with lastUpdated := now }
        host := h }) := by
    simp [Remote.exec, MapOp.exec, MapOp.answer, MapOp.apply, hentry]
  refine ⟨(H.now (afterWrite H w.host entry chunk)).1, ?_⟩
  unfold guardedContinueUpload
  rw [run_getGuarded, hentry]
  simp only [Option.isSome_some, if_true]
  rw [run_act rfl hwritten]
  dsimp only
  rw [run_act rfl rfl, run_act rfl (hmodified _ _), run_guarded_reply]
  refine (run_drop (f := .ret)).trans ?_
  rw [List.erase_cons_head]
  rfl

theorem getGuarded_of_entry
    (hentry : w.uploads.lookup (tn.cid, chunk.uploadId) = some entry) :
    (getGuarded tn.conn (tn.cid, chunk.uploadId)).run (H.guardedExec S tn.conn id) ⟨w, []⟩ =
      some (some entry, ⟨w, [(tn.cid, chunk.uploadId)]⟩) := by
  rw [← hentry]
  exact getGuarded_eq.trans (by rw [hentry]; rfl)

/-- Where it cannot be written, the tunnel hangs with what the host has written of it. -/
theorem advance_continue_hangs
    (hentry : w.uploads.lookup (tn.cid, chunk.uploadId) = some entry)
    (hwrite : (H.sftp w.host (.writeAll entry.sftpFile chunk.data)).1 = .error err) :
    (guardedContinueUpload tn chunk msgId).advance (H.guardedExec S tn.conn id) ⟨w, []⟩ =
      (none, ⟨{ w with host := afterWrite H w.host entry chunk }, [(tn.cid, chunk.uploadId)]⟩) := by
  have hwritten : H.guardedExec S tn.conn id
      (.act (.sftp (.writeAll entry.sftpFile chunk.data))) ⟨w, [(tn.cid, chunk.uploadId)]⟩ =
        some (.error err, ⟨{ w with host := afterWrite H w.host entry chunk },
          [(tn.cid, chunk.uploadId)]⟩) := by
    rw [← hwrite]
    rfl
  unfold guardedContinueUpload
  dsimp only
  rw [Prog.advance_bind (getGuarded_of_entry hentry)]
  dsimp only
  rw [Prog.advance_perform hwritten]
  -- the entry to remove is the one whose guard the task holds
  exact Prog.advance_perform_none (by simp [Remote.guardedExec, Cmd.waitsForItself])

theorem advance_chunk_hangs (hentry : w.uploads.lookup (tn.cid, chunk.uploadId) = some entry)
    (hindex : chunk.chunkIndex.toNat + 1 < 2 ^ 32)
    (hnext : ¬ entry.totalChunks ≤ chunk.chunkIndex + 1)
    (hwrite : (H.sftp w.host (.writeAll entry.sftpFile chunk.data)).1 = .error err) :
    (guardedUploadFileChunk tn chunk msgId).advance (H.guardedExec S tn.conn id) ⟨w, []⟩ =
      (none, ⟨{ w with host := afterWrite H w.host entry chunk }, [(tn.cid, chunk.uploadId)]⟩) := by
  have hone : (1 : UInt32).toNat = 1 := rfl
  have hadd : (unguarded (addU32 chunk.chunkIndex 1)).run (H.guardedExec S tn.conn id)
      ⟨w, [(tn.cid, chunk.uploadId)]⟩ =
        some (chunk.chunkIndex + 1, ⟨w, [(tn.cid, chunk.uploadId)]⟩) := by
    unfold addU32
    rw [if_pos (by omega)]
    rfl
  unfold guardedUploadFileChunk
  dsimp only
  rw [Prog.advance_bind (getGuarded_of_entry hentry)]
  dsimp only
  rw [Prog.advance_bind hadd, Prog.advance_perform rfl, List.erase_cons_head, if_neg hnext]
  exact advance_continue_hangs hentry hwrite

end Serve

/-! ## The stages of an upload -/

section Stages

variable {η : Type} {H : Remote η} {S : Setup} {tn : Tunnel} (resolve : String → String)
  (disk : η → Disk String File) (name path : String) (content : Bytes) (msgId : UInt32)
  (d₀ : Disk String File)

/-- What the temporary file held before. -/
def leftover : Bytes := (d₀.read (resolve (tempPath path name))).getD []

/-- The record of the upload. -/
def uploadEntry (file : File) (started updated : Time) : FileUpload :=
  ⟨name, path, UInt32.ofNat (Upload.totalChunks content), UInt64.ofNat content.length, file,
    tempPath path name, started, updated⟩

/-- The upload is entered, and `k` chunks are behind what was left over. -/
structure Open (tn : Tunnel) (uploadId : UInt32) (file : File) (k : Nat) (w : Local η) : Prop where
  entry : ∃ started updated, w.uploads.lookup (tn.cid, uploadId) =
    some (uploadEntry name path content file started updated)
  holds : (disk w.host).HoldsApart file (resolve (tempPath path name))
    (resolve (filePath path name))
    (leftover resolve name path d₀ ++ content.take (k * UPLOAD_CHUNK_SIZE))
  dest : (disk w.host).read (resolve (filePath path name)) =
    d₀.read (resolve (filePath path name))
  more : k < Upload.totalChunks content

/-- The call of `uploadFile`, waiting. -/
def uploading (wait : UploadWait) (requests : List UploadRequest) : Upload :=
  ⟨name, path, content, msgId, wait, requests⟩

/-- Its first request. -/
def startRequest : SFTPUploadStart :=
  ⟨name, path, UInt32.ofNat (Upload.totalChunks content), UInt64.ofNat content.length⟩

/-- How far an upload can be. -/
inductive Stage (tn : Tunnel) : Transfer η → Prop
  | waiting {wait : UploadWait} {w : Local η} (hwait : wait = .startResponse ∨ wait = .failed)
      (hdisk : disk w.host = d₀) :
      Stage tn ⟨uploading name path content msgId wait
        [.start (startRequest name path content) msgId], w, false⟩
  | writing {wait : UploadWait} {w : Local η} {uploadId : UInt32} {file : File} {k : Nat}
      (hwait : wait = .ack uploadId k ∨ wait = .failed)
      (hopen : Open resolve disk name path content d₀ tn uploadId file k w) :
      Stage tn ⟨uploading name path content msgId wait
        [.chunk (Upload.chunkAt content uploadId k)], w, false⟩
  /-- No request is left, and the destination is what it was. -/
  | ended {wait : UploadWait} {w : Local η} {hung : Bool} (hwait : wait = .finished → content = [])
      (hdest : (disk w.host).read (resolve (filePath path name)) =
        d₀.read (resolve (filePath path name))) :
      Stage tn ⟨uploading name path content msgId wait [], w, hung⟩
  | delivered {wait : UploadWait} {w : Local η} {hung : Bool} (hcontent : content ≠ [])
      (hdest : (disk w.host).read (resolve (filePath path name)) =
        some (leftover resolve name path d₀ ++ content)) :
      Stage tn ⟨uploading name path content msgId wait [], w, hung⟩

variable {resolve disk name path content msgId d₀}

/-- The page gives up waiting. -/
theorem Stage.timeout {x : Transfer η} (h : Stage resolve disk name path content msgId d₀ tn x) :
    Stage resolve disk name path content msgId d₀ tn { x with page := x.page.timeout } := by
  cases h with
  | waiting hwait hdisk =>
      rcases hwait with rfl | rfl
      · exact .waiting (.inr rfl) hdisk
      · exact .waiting (.inr rfl) hdisk
  | writing hwait hopen =>
      rcases hwait with rfl | rfl
      · exact .writing (.inr rfl) hopen
      · exact .writing (.inr rfl) hopen
  | @ended wait w hung hwait hdest =>
      cases wait with
      | startResponse => exact .ended (fun heq => by cases heq) hdest
      | ack uploadId i => exact .ended (fun heq => by cases heq) hdest
      | finished => exact .ended hwait hdest
      | failed => exact .ended hwait hdest
  | @delivered wait w hung hcontent hdest =>
      cases wait with
      | startResponse => exact .delivered hcontent hdest
      | ack uploadId i => exact .delivered hcontent hdest
      | finished => exact .delivered hcontent hdest
      | failed => exact .delivered hcontent hdest

/-! ### Delivering -/

/-- The upload id is there: the first chunk is sent, if there is one. -/
theorem deliver_started {uploadId : UInt32} :
    deliverUpload (uploading name path content msgId .startResponse [])
        (.webFrame (.sftpUploadStartResponse tn.sid (some msgId) ⟨uploadId⟩)
          (.sessionId tn.sid)) =
      (uploading name path content msgId .startResponse []).nextChunk uploadId 0 := by
  simp [deliverUpload, Upload.handleUploadStartResponse, uploading]

/-- The chunk is acknowledged: the next one is sent, if there is one. -/
theorem deliver_acked {uploadId : UInt32} {k : Nat} (hk : (UInt32.ofNat k).toNat = k) :
    deliverUpload (uploading name path content msgId (.ack uploadId k) [])
        (.webFrame (.sftpUploadChunkAck tn.sid uploadId (UInt32.ofNat k)) (.sessionId tn.sid)) =
      (uploading name path content msgId (.ack uploadId k) []).nextChunk uploadId (k + 1) := by
  simp [deliverUpload, Upload.handleUploadChunkAck, uploading, hk]

theorem nextChunk_more {wait : UploadWait} {uploadId : UInt32} {k : Nat}
    (h : k < Upload.totalChunks content) :
    (uploading name path content msgId wait []).nextChunk uploadId k =
      uploading name path content msgId (.ack uploadId k)
        [.chunk (Upload.chunkAt content uploadId k)] := if_pos h

theorem nextChunk_none {wait : UploadWait} {uploadId : UInt32} {k : Nat}
    (h : ¬ k < Upload.totalChunks content) :
    (uploading name path content msgId wait []).nextChunk uploadId k =
      uploading name path content msgId .finished [] := if_neg h

theorem content_eq_nil_iff : content = [] ↔ ¬ 0 < Upload.totalChunks content := by
  rw [Upload.lt_totalChunks_iff, Nat.zero_mul, ← List.length_eq_zero_iff]
  omega

/-! ### Serving -/

section Served

variable {w : Local η} {uploadId : UInt32} {file : File} {k : Nat}
  (hH : KeepsFiles H resolve disk)
  (hsize : content.length ≤ (2 ^ 32 - 1) * UPLOAD_CHUNK_SIZE)
  (hpaths : resolve (tempPath path name) ≠ resolve (filePath path name))
  (hlink : d₀.named (resolve (filePath path name)) = none ∨
    d₀.named (resolve (filePath path name)) ≠ d₀.named (resolve (tempPath path name)))

include hsize in
theorem toNat_index (hk : k < Upload.totalChunks content) :
    (UInt32.ofNat k).toNat = k ∧ k + 1 < 2 ^ 32 ∧
      (UInt32.ofNat (Upload.totalChunks content) ≤ UInt32.ofNat k + 1 ↔
        k + 1 = Upload.totalChunks content) := by
  have htotal : Upload.totalChunks content ≤ 2 ^ 32 - 1 := by
    rw [Upload.totalChunks]
    rw [UPLOAD_CHUNK_SIZE] at hsize ⊢
    omega
  have hone : (1 : UInt32).toNat = 1 := rfl
  have hindex : (UInt32.ofNat k).toNat = k := by
    rw [UInt32.toNat_ofNat', Nat.mod_eq_of_lt (by omega)]
  refine ⟨hindex, by omega, ?_⟩
  rw [UInt32.le_iff_toNat_le, UInt32.toNat_add, UInt32.toNat_ofNat', hindex, hone,
    Nat.mod_eq_of_lt (by omega), Nat.mod_eq_of_lt (by omega)]
  omega

variable (S tn content msgId) in
include hH hpaths hlink in
/-- The start, where the temporary file can be opened. -/
theorem serve_started (hdisk : disk w.host = d₀)
    (hopen : (H.sftp w.host (.openWithFlags (tempPath path name))).1 = .ok file) :
    ∃ w', serveUpload H S tn (.start (startRequest name path content) msgId) w = (true, w') ∧
      w'.sent = w.sent ++ [.webFrame (.sftpUploadStartResponse tn.sid (some msgId) ⟨w.nextId⟩)
        (.sessionId tn.sid)] ∧
      (disk w'.host).read (resolve (filePath path name)) =
        d₀.read (resolve (filePath path name)) ∧
      (0 < Upload.totalChunks content →
        Open resolve disk name path content d₀ tn w.nextId file 0 w') := by
  obtain ⟨now, hrun⟩ := run_startUpload S tn (startRequest name path content) (some msgId) hopen
  have hopened : disk (H.now (H.sftp w.host (.openWithFlags (tempPath path name))).2).2 =
      d₀.after (.openAppend (resolve (tempPath path name)) file) := by
    rw [hH.clock, hH.opened _ _ _ hopen, hdisk]
  obtain ⟨hholds, hdest⟩ := Disk.holdsApart_open file hpaths hlink
  rw [← hopened] at hholds hdest
  refine ⟨_, serve_of_start hrun, rfl, hdest, fun hmore => ?_⟩
  refine ⟨⟨now, now, AList.lookup_insert _⟩, ?_, hdest, hmore⟩
  rw [Nat.zero_mul, List.take_zero, List.append_nil]
  exact hholds

variable (S tn content msgId) in
include hH in
/-- The start, refused. -/
theorem serve_refused {err : String} (hdisk : disk w.host = d₀)
    (hopen : (H.sftp w.host (.openWithFlags (tempPath path name))).1 = .error err) :
    ∃ w' message,
      serveUpload H S tn (.start (startRequest name path content) msgId) w = (true, w') ∧
      w'.sent = w.sent ++ [.webFrame (.error .generic message (some msgId))
        (.sessionId tn.sid)] ∧
      (disk w'.host).read (resolve (filePath path name)) =
        d₀.read (resolve (filePath path name)) := by
  refine ⟨_, _, serve_of_start
    (run_startUpload_fails (startRequest name path content) hopen), rfl, ?_⟩
  rw [← hdisk]
  exact congrArg (fun d : Disk String File => d.read (resolve (filePath path name)))
    (hH.notOpened _ _ _ hopen)

section Chunk

variable (hopen : Open resolve disk name path content d₀ tn uploadId file k w)

include hopen hsize

/-- The index is not the last one. -/
theorem next_of_more (hmore : k + 1 < Upload.totalChunks content) {entry : FileUpload}
    (hentry : entry.totalChunks = UInt32.ofNat (Upload.totalChunks content)) :
    ¬ entry.totalChunks ≤ (Upload.chunkAt content uploadId k).chunkIndex + 1 := by
  obtain ⟨-, -, hlast⟩ := toNat_index hsize hopen.more
  rw [hentry]
  exact fun hle => absurd (hlast.1 hle) hmore.ne

theorem serve_of_continue (hmore : k + 1 < Upload.totalChunks content) {x : Locked η}
    (hrun : runGuarded H S tn id
      (guardedContinueUpload tn (Upload.chunkAt content uploadId k) none) ⟨w, []⟩ =
        some ((), x)) :
    serveUpload H S tn (.chunk (Upload.chunkAt content uploadId k)) w = (true, x.base) := by
  obtain ⟨started, updated, hentry⟩ := hopen.entry
  obtain ⟨hindex, hfits, -⟩ := toNat_index hsize hopen.more
  refine serve_of_chunk ?_
  rw [run_chunk_of_entry hentry (by rw [Upload.chunkAt, hindex]; exact hfits),
    if_neg (next_of_more hsize hopen hmore rfl)]
  exact hrun

/-- The index is the last one. -/
theorem serve_of_finish (hlast : k + 1 = Upload.totalChunks content) {w' : Local η}
    (hrun : runLocal H S tn (finishUpload tn (Upload.chunkAt content uploadId k) none) w =
      some ((), w')) :
    serveUpload H S tn (.chunk (Upload.chunkAt content uploadId k)) w = (true, w') := by
  obtain ⟨started, updated, hentry⟩ := hopen.entry
  obtain ⟨hindex, hfits, hiff⟩ := toNat_index hsize hopen.more
  refine serve_of_chunk (x := ⟨w', []⟩) ?_
  rw [run_chunk_of_entry hentry (by rw [Upload.chunkAt, hindex]; exact hfits),
    if_pos (show (uploadEntry name path content file started updated).totalChunks ≤
      (Upload.chunkAt content uploadId k).chunkIndex + 1 from hiff.2 hlast), run_unguarded, hrun]
  rfl

include hH

/-- A chunk that is not the last is written behind the others. -/
theorem serve_more (hmore : k + 1 < Upload.totalChunks content)
    (hwrite : (H.sftp w.host (.writeAll file (Upload.slice content k))).1 = .ok ()) :
    ∃ w', serveUpload H S tn (.chunk (Upload.chunkAt content uploadId k)) w = (true, w') ∧
      w'.sent = w.sent ++ [.webFrame (.sftpUploadChunkAck tn.sid uploadId (UInt32.ofNat k))
        (.sessionId tn.sid)] ∧
      Open resolve disk name path content d₀ tn uploadId file (k + 1) w' := by
  obtain ⟨started, updated, hentry⟩ := hopen.entry
  obtain ⟨now, hrun⟩ := run_continue_of_entry S (Upload.chunkAt content uploadId k) none
    hentry hwrite
  have hwritten := hH.written _ _ _ hwrite
  have hclock := hH.clock (H.sftp w.host (.writeAll file (Upload.slice content k))).2
  obtain ⟨hholds, hsame⟩ := hopen.holds.append (Upload.slice content k)
  rw [List.append_assoc, Upload.take_slice, ← hwritten, ← hclock] at hholds
  rw [← hwritten, ← hclock, hopen.dest] at hsame
  refine ⟨_, serve_of_continue hsize hopen hmore hrun, rfl, ?_⟩
  exact ⟨⟨started, now, AList.lookup_insert _⟩, hholds, hsame, hmore⟩

/-- The last chunk is written, and the file put in place. -/
theorem serve_last (hlast : k + 1 = Upload.totalChunks content)
    (hwrite : (H.sftp w.host (.writeAll file (Upload.slice content k))).1 = .ok ())
    (hrename : (H.sftp (H.sftp w.host (.writeAll file (Upload.slice content k))).2
      (.rename (tempPath path name) (filePath path name))).1 = .ok ()) :
    ∃ w', serveUpload H S tn (.chunk (Upload.chunkAt content uploadId k)) w = (true, w') ∧
      w'.sent = w.sent ++ [.webFrame (.sftpUploadChunkAck tn.sid uploadId (UInt32.ofNat k))
        (.sessionId tn.sid)] ∧
      (disk w'.host).read (resolve (filePath path name)) =
        some (leftover resolve name path d₀ ++ content) := by
  obtain ⟨started, updated, hentry⟩ := hopen.entry
  have hholds := (hopen.holds.append (Upload.slice content k)).1
  rw [List.append_assoc, Upload.take_slice, Upload.take_totalChunks hlast.ge,
    ← hH.written _ _ _ hwrite] at hholds
  have hput := hholds.read_rename
  rw [← hH.renamed _ _ _ hrename] at hput
  have hrun : runLocal H S tn (finishUpload tn (Upload.chunkAt content uploadId k) none) w =
      some _ := run_finish_renamed hentry hwrite hrename
  exact ⟨_, serve_of_finish hsize hopen hlast hrun, rfl, hput⟩

/-- A chunk before the last that cannot be written: the tunnel hangs, and says nothing. -/
theorem serve_hangs {err : String} (hmore : k + 1 < Upload.totalChunks content)
    (hwrite : (H.sftp w.host (.writeAll file (Upload.slice content k))).1 = .error err) :
    ∃ w', serveUpload H S tn (.chunk (Upload.chunkAt content uploadId k)) w = (false, w') ∧
      w'.sent = w.sent ∧
      (disk w'.host).read (resolve (filePath path name)) =
        d₀.read (resolve (filePath path name)) := by
  obtain ⟨started, updated, hentry⟩ := hopen.entry
  have hindex := toNat_index hsize hopen.more
  have hhangs : (guardedUploadFileChunk tn (Upload.chunkAt content uploadId k) none).advance _ _ =
      _ := advance_chunk_hangs (S := S) hentry
    (by rw [Upload.chunkAt, hindex.1]; exact hindex.2.1) (next_of_more hsize hopen hmore rfl) hwrite
  have hserve : serveUpload H S tn (.chunk (Upload.chunkAt content uploadId k)) w = (false,
      { w with host := (H.sftp w.host (.writeAll file (Upload.slice content k))).2 }) := by
    rw [serveUpload, hhangs]
    rfl
  refine ⟨_, hserve, rfl, ?_⟩
  obtain ⟨n, hpart⟩ := hH.partlyWritten _ _ _ _ hwrite
  have hsame := (hopen.holds.append ((Upload.slice content k).take n)).2
  rw [← hpart, hopen.dest] at hsame
  exact hsame

/-- The last chunk, where it cannot be written. -/
theorem serve_write_fails {err : String} (hlast : k + 1 = Upload.totalChunks content)
    (hwrite : (H.sftp w.host (.writeAll file (Upload.slice content k))).1 = .error err) :
    ∃ w' message,
      serveUpload H S tn (.chunk (Upload.chunkAt content uploadId k)) w = (true, w') ∧
      w'.sent = w.sent ++ [.webFrame (.error .generic message none) (.sessionId tn.sid)] ∧
      (disk w'.host).read (resolve (filePath path name)) =
        d₀.read (resolve (filePath path name)) := by
  obtain ⟨started, updated, hentry⟩ := hopen.entry
  have hanswered : runLocal H S tn
      (finishUpload tn (Upload.chunkAt content uploadId k) none) w = some _ :=
    run_finish_write_fails hentry hwrite
  refine ⟨_, _, serve_of_finish hsize hopen hlast hanswered, rfl, ?_⟩
  obtain ⟨n, hpart⟩ := hH.partlyWritten _ _ _ _ hwrite
  have hsame := (hopen.holds.append ((Upload.slice content k).take n)).2
  rw [← hpart, hopen.dest] at hsame
  exact hsame

/-- The last chunk is written, but its file stays where it is. -/
theorem serve_rename_fails {err : String} (hlast : k + 1 = Upload.totalChunks content)
    (hwrite : (H.sftp w.host (.writeAll file (Upload.slice content k))).1 = .ok ())
    (hrename : (H.sftp (H.sftp w.host (.writeAll file (Upload.slice content k))).2
      (.rename (tempPath path name) (filePath path name))).1 = .error err) :
    ∃ w' message,
      serveUpload H S tn (.chunk (Upload.chunkAt content uploadId k)) w = (true, w') ∧
      w'.sent = w.sent ++ [.webFrame (.error .generic message none) (.sessionId tn.sid)] ∧
      (disk w'.host).read (resolve (filePath path name)) =
        d₀.read (resolve (filePath path name)) := by
  obtain ⟨started, updated, hentry⟩ := hopen.entry
  have hanswered : runLocal H S tn
      (finishUpload tn (Upload.chunkAt content uploadId k) none) w = some _ :=
    run_finish_rename_fails hentry hwrite hrename
  refine ⟨_, _, serve_of_finish hsize hopen hlast hanswered, rfl, ?_⟩
  have hsame := (hopen.holds.append (Upload.slice content k)).2
  rw [← hH.written _ _ _ hwrite, ← hH.notRenamed _ _ _ _ hrename, hopen.dest] at hsame
  exact hsame

end Chunk

/-- What a turn that serves comes to. -/
theorem turn_serve {wait : UploadWait} {request : UploadRequest} {w w' : Local η} {back : Bool}
    {frames : List NodeFrameData} (hserve : serveUpload H S tn request w = (back, w'))
    (hsent : w'.sent = w.sent ++ frames) :
    uploadTurn H S tn ⟨uploading name path content msgId wait [request], w, false⟩ .serve =
      ⟨frames.foldl deliverUpload (uploading name path content msgId wait []), w', !back⟩ := by
  show Transfer.mk (((serveUpload H S tn request w).2.sent.drop w.sent.length).foldl deliverUpload
    (uploading name path content msgId wait [])) (serveUpload H S tn request w).2
    (!(serveUpload H S tn request w).1) = _
  rw [hserve, hsent, List.drop_left]

include hH hpaths hlink in
/-- The start is served. -/
theorem Stage.serve_start {wait : UploadWait}
    (hwait : wait = .startResponse ∨ wait = .failed) (hdisk : disk w.host = d₀) :
    Stage resolve disk name path content msgId d₀ tn (uploadTurn H S tn
      ⟨uploading name path content msgId wait [.start (startRequest name path content) msgId],
        w, false⟩ .serve) := by
  cases hanswer : (H.sftp w.host (.openWithFlags (tempPath path name))).1 with
  | ok file =>
      obtain ⟨w', hserve, hsent, hdest, hopened⟩ :=
        serve_started S tn content msgId hH hpaths hlink hdisk hanswer
      rw [turn_serve hserve hsent]
      rcases hwait with rfl | rfl
      · rw [List.foldl_cons, List.foldl_nil, deliver_started]
        by_cases hmore : 0 < Upload.totalChunks content
        · rw [nextChunk_more hmore]
          exact .writing (.inl rfl) (hopened hmore)
        · rw [nextChunk_none hmore]
          exact .ended (fun _ => content_eq_nil_iff.2 hmore) hdest
      · exact .ended (fun heq => by cases heq) hdest
  | error err =>
      obtain ⟨w', message, hserve, hsent, hdest⟩ :=
        serve_refused S tn content msgId hH hdisk hanswer
      rw [turn_serve hserve hsent]
      refine .ended (fun heq => ?_) hdest
      rcases hwait with rfl | rfl <;> cases heq

section Written

variable {wait : UploadWait} (hwait : wait = .ack uploadId k ∨ wait = .failed)
  (hopen : Open resolve disk name path content d₀ tn uploadId file k w)

include hH hsize hwait hopen

/-- A chunk before the last is served: it is acknowledged, or the tunnel hangs. -/
theorem Stage.serve_more (hmore : k + 1 < Upload.totalChunks content) :
    Stage resolve disk name path content msgId d₀ tn (uploadTurn H S tn
      ⟨uploading name path content msgId wait [.chunk (Upload.chunkAt content uploadId k)],
        w, false⟩ .serve) := by
  have hindex := (toNat_index hsize hopen.more).1
  cases hwrite : (H.sftp w.host (.writeAll file (Upload.slice content k))).1 with
  | error err =>
      obtain ⟨w', hserve, hsent, hdest⟩ := serve_hangs (S := S) hH hsize hopen hmore hwrite
      rw [turn_serve hserve (hsent.trans (List.append_nil w.sent).symm)]
      refine .ended (fun heq => ?_) hdest
      rcases hwait with rfl | rfl <;> cases heq
  | ok =>
      obtain ⟨w', hserve, hsent, hopen'⟩ := System.serve_more (S := S) hH hsize hopen hmore hwrite
      rw [turn_serve hserve hsent]
      rcases hwait with rfl | rfl
      · rw [List.foldl_cons, List.foldl_nil, deliver_acked hindex, nextChunk_more hmore]
        exact .writing (.inl rfl) hopen'
      · exact .ended (fun heq => by cases heq) hopen'.dest

/-- The last chunk is served: the file is put in place, or an error answers. -/
theorem Stage.serve_last (hlast : k + 1 = Upload.totalChunks content) :
    Stage resolve disk name path content msgId d₀ tn (uploadTurn H S tn
      ⟨uploading name path content msgId wait [.chunk (Upload.chunkAt content uploadId k)],
        w, false⟩ .serve) := by
  have hindex := (toNat_index hsize hopen.more).1
  have hcontent : content ≠ [] :=
    fun hnil => content_eq_nil_iff.1 hnil (Nat.zero_lt_of_lt hopen.more)
  have hfailed {w' : Local η} {message : String}
      (hserve : serveUpload H S tn (.chunk (Upload.chunkAt content uploadId k)) w = (true, w'))
      (hsent : w'.sent = w.sent ++ [.webFrame (.error .generic message none) (.sessionId tn.sid)])
      (hdest : (disk w'.host).read (resolve (filePath path name)) =
        d₀.read (resolve (filePath path name))) :
      Stage resolve disk name path content msgId d₀ tn (uploadTurn H S tn
        ⟨uploading name path content msgId wait [.chunk (Upload.chunkAt content uploadId k)],
          w, false⟩ .serve) := by
    rw [turn_serve hserve hsent]
    refine .ended (fun heq => ?_) hdest
    rcases hwait with rfl | rfl <;> cases heq
  cases hwrite : (H.sftp w.host (.writeAll file (Upload.slice content k))).1 with
  | error err =>
      obtain ⟨w', message, hserve, hsent, hdest⟩ :=
        serve_write_fails (S := S) hH hsize hopen hlast hwrite
      exact hfailed hserve hsent hdest
  | ok =>
      cases hrename : (H.sftp (H.sftp w.host (.writeAll file (Upload.slice content k))).2
          (.rename (tempPath path name) (filePath path name))).1 with
      | error err =>
          obtain ⟨w', message, hserve, hsent, hdest⟩ :=
            serve_rename_fails (S := S) hH hsize hopen hlast hwrite hrename
          exact hfailed hserve hsent hdest
      | ok =>
          obtain ⟨w', hserve, hsent, hput⟩ :=
            System.serve_last (S := S) hH hsize hopen hlast hwrite hrename
          rw [turn_serve hserve hsent]
          rcases hwait with rfl | rfl
          · rw [List.foldl_cons, List.foldl_nil, deliver_acked hindex, nextChunk_none (by omega)]
            exact .delivered hcontent hput
          · exact .delivered hcontent hput

end Written

/-- Where nothing is asked for, nothing is served. -/
theorem turn_idle {u : Upload} {hung : Bool} (hrequests : u.requests = []) :
    uploadTurn H S tn ⟨u, w, hung⟩ .serve = ⟨u, w, hung⟩ := by
  unfold uploadTurn
  dsimp only
  rw [hrequests]
  cases hung <;> rfl

include hH hsize hpaths hlink

/-- A turn. -/
theorem Stage.turn {x : Transfer η} (h : Stage resolve disk name path content msgId d₀ tn x)
    (turn : Turn) : Stage resolve disk name path content msgId d₀ tn (uploadTurn H S tn x turn) := by
  cases turn with
  | timeout => exact h.timeout
  | serve =>
      cases h with
      | waiting hwait hdisk => exact .serve_start hH hpaths hlink hwait hdisk
      | writing hwait hopen =>
          rcases Nat.lt_or_eq_of_le hopen.more with hmore | hlast
          · exact .serve_more hH hsize hwait hopen hmore
          · exact .serve_last hH hsize hwait hopen hlast
      | ended hwait hdest =>
          rw [turn_idle rfl]
          exact .ended hwait hdest
      | delivered hcontent hdest =>
          rw [turn_idle rfl]
          exact .delivered hcontent hdest

/-- Every run. -/
theorem Stage.turns {x : Transfer η} (turns : List Turn)
    (h : Stage resolve disk name path content msgId d₀ tn x) :
    Stage resolve disk name path content msgId d₀ tn (uploadTurns H S tn turns x) := by
  induction turns generalizing x with
  | nil => exact h
  | cons turn turns ih => exact ih (h.turn hH hsize hpaths hlink turn)

end Served

/-! ## Nothing fails -/

/-- No call of an upload fails. -/
structure Works {η : Type} (H : Remote η) : Prop where
  opens : ∀ h path, ∃ file, (H.sftp h (.openWithFlags path)).1 = .ok file
  writes : ∀ h file data, (H.sftp h (.writeAll file data)).1 = .ok ()
  renames : ∀ h old new, (H.sftp h (.rename old new)).1 = .ok ()

section Finishes

variable {w : Local η} (hH : KeepsFiles H resolve disk) (hworks : Works H)
  (hsize : content.length ≤ (2 ^ 32 - 1) * UPLOAD_CHUNK_SIZE)
  (hpaths : resolve (tempPath path name) ≠ resolve (filePath path name))
  (hlink : d₀.named (resolve (filePath path name)) = none ∨
    d₀.named (resolve (filePath path name)) ≠ d₀.named (resolve (tempPath path name)))

include hH hworks hsize

/-- A chunk a turn, from the one that is waited for. -/
theorem Open.finishes (S : Setup) (msgId : UInt32) {uploadId : UInt32} {file : File} {m k : Nat}
    (hopen : Open resolve disk name path content d₀ tn uploadId file k w)
    (htotal : k + m + 1 = Upload.totalChunks content) :
    ∃ w', uploadTurns H S tn (List.replicate (m + 1) .serve)
        ⟨uploading name path content msgId (.ack uploadId k)
          [.chunk (Upload.chunkAt content uploadId k)], w, false⟩ =
          ⟨uploading name path content msgId .finished [], w', false⟩ ∧
      (disk w'.host).read (resolve (filePath path name)) =
        some (leftover resolve name path d₀ ++ content) := by
  have hindex := (toNat_index hsize hopen.more).1
  have hwrite := hworks.writes w.host file (Upload.slice content k)
  induction m generalizing k w with
  | zero =>
      obtain ⟨w', hserve, hsent, hput⟩ := serve_last (S := S) hH hsize hopen htotal
        hwrite (hworks.renames _ _ _)
      refine ⟨w', ?_, hput⟩
      rw [List.replicate_one, uploadTurns, turn_serve hserve hsent, List.foldl_cons, List.foldl_nil,
        deliver_acked hindex, nextChunk_none (by omega)]
      rfl
  | succ m ih =>
      have hmore : k + 1 < Upload.totalChunks content := by omega
      obtain ⟨w₁, hserve, hsent, hopen'⟩ :=
        serve_more (S := S) hH hsize hopen hmore hwrite
      obtain ⟨w', hrest, hput⟩ := ih hopen' (by omega) (toNat_index hsize hmore).1
        (hworks.writes _ _ _)
      refine ⟨w', ?_, hput⟩
      rw [List.replicate_succ, uploadTurns, turn_serve hserve hsent, List.foldl_cons,
        List.foldl_nil, deliver_acked hindex, nextChunk_more hmore]
      exact hrest

include hpaths hlink

/-- From the beginning. -/
theorem finishes (S : Setup) (tn : Tunnel) (msgId : UInt32) (hdisk : disk w.host = d₀) :
    ∃ w', uploadTurns H S tn (List.replicate (Upload.totalChunks content + 1) .serve)
        ⟨Upload.uploadFile name path content msgId, w, false⟩ =
          ⟨uploading name path content msgId .finished [], w', false⟩ ∧
      (disk w'.host).read (resolve (filePath path name)) =
        if content = [] then d₀.read (resolve (filePath path name))
        else some (leftover resolve name path d₀ ++ content) := by
  obtain ⟨file, hopens⟩ := hworks.opens w.host (tempPath path name)
  obtain ⟨w₁, hserve, hsent, hdest, hopened⟩ :=
    serve_started S tn content msgId hH hpaths hlink hdisk hopens
  have hstart : uploadTurn H S tn ⟨Upload.uploadFile name path content msgId, w, false⟩ .serve =
      ⟨(uploading name path content msgId .startResponse []).nextChunk w.nextId 0, w₁, false⟩ := by
    refine (turn_serve hserve hsent).trans ?_
    rw [List.foldl_cons, List.foldl_nil, deliver_started]
    rfl
  rw [List.replicate_succ, uploadTurns, hstart]
  by_cases hcontent : content = []
  · have hnone := content_eq_nil_iff.1 hcontent
    have hzero : Upload.totalChunks content = 0 := by omega
    rw [nextChunk_none hnone, hzero, if_pos hcontent]
    exact ⟨w₁, rfl, hdest⟩
  · have hmore : 0 < Upload.totalChunks content :=
      Decidable.not_not.1 (mt content_eq_nil_iff.2 hcontent)
    obtain ⟨m, hm⟩ := Nat.exists_eq_add_of_lt hmore
    obtain ⟨w', hturns, hput⟩ := Open.finishes hH hworks hsize S msgId (hopened hmore)
      (show 0 + m + 1 = _ by omega)
    rw [nextChunk_more hmore, if_neg hcontent, hm, Nat.zero_add]
    exact ⟨w', hturns, hput⟩

end Finishes

end Stages

/-! ## Disks -/

/-- The disk, and the number of files opened for appending. -/
def diskHost : Remote (Disk String File × File) where
  sftp h
    | .openWithFlags path => (.ok h.2, (h.1.after (.openAppend path h.2), h.2 + 1))
    | .writeAll file data => (.ok (), (h.1.after (.append file data), h.2))
    | .rename old new => (.ok (), (h.1.after (.rename old new), h.2))
    | .canonicalize path => (.ok path, h)
    | .metadata path => (.ok ((h.1.read path).map fun data => UInt64.ofNat data.length), h)
    | .readDir _ => (.error "not a directory", h)
    | .removeFile path => (.ok (), (h.1.after (.remove path), h.2))
    | .open path => (.ok h.2, (h.1.after (.openRead path h.2), h.2 + 1))
    | .seek _ _ => (.ok (), h)
    | .read _ => (.ok [], h)
    | .syncAll _ => (.ok (), h)
  now h := (0, h)

theorem diskHost_keepsFiles : KeepsFiles diskHost id Prod.fst where
  opened h path file hopen := by
    cases hopen
    rfl
  notOpened h path err hopen := by cases hopen
  written _ _ _ _ := rfl
  partlyWritten h file data err hwrite := by cases hwrite
  renamed _ _ _ _ := rfl
  notRenamed h old new err hrename := by cases hrename
  clock _ := rfl

theorem diskHost_works : Works diskHost where
  opens h _ := ⟨h.2, rfl⟩
  writes _ _ _ := rfl
  renames _ _ _ := rfl

/-- The same disk with no room for more than a byte of what is written. -/
def fullHost : Remote (Disk String File × File) where
  sftp h
    | .writeAll file data =>
        (.error "no space left", (h.1.after (.append file (data.take 1)), h.2))
    | op => diskHost.sftp h op
  now := diskHost.now

theorem fullHost_keepsFiles : KeepsFiles fullHost id Prod.fst where
  opened := diskHost_keepsFiles.opened
  notOpened := diskHost_keepsFiles.notOpened
  written h file data hwrite := by cases hwrite
  partlyWritten _ _ _ _ _ := ⟨1, rfl⟩
  renamed := diskHost_keepsFiles.renamed
  notRenamed := diskHost_keepsFiles.notRenamed
  clock _ := rfl

/-- The file is there already, and an upload before left a byte. -/
def sampleDisk : Disk String File :=
  .start fun path => if path = "d/a" then some [7] else if path = "d/a.tmp" then some [1] else none

/-- An SFTP tunnel to it, with nothing transferred yet. -/
def sampleLocal : Local (Disk String File × File) := ⟨1, ∅, ∅, [], sampleDisk, 0⟩

/-- A file of two chunks. -/
def sampleFile : Bytes := List.replicate (UPLOAD_CHUNK_SIZE + 1) 2

theorem length_sampleFile : sampleFile.length = UPLOAD_CHUNK_SIZE + 1 := List.length_replicate

/-! ## A whole upload -/

section Whole

variable {η : Type} {H : Remote η} {S : Setup} {tn : Tunnel} {resolve : String → String}
  {disk : η → Disk String File} {name path : String} {content : Bytes} {msgId : UInt32}
  {w : Local η}

/-- **All or nothing**: whatever calls of the host fail, whether the tunnel hangs in one of them,
and whenever the page gives up, the destination holds what it held before, or the file as a whole
behind what an upload before left in the temporary file.  Once the page has finished it is the
second, unless the file is empty. -/
theorem upload_all_or_nothing (turns : List Turn) {x : Transfer η}
    (hH : KeepsFiles H resolve disk)
    (hsize : content.length ≤ (2 ^ 32 - 1) * UPLOAD_CHUNK_SIZE)
    (hpaths : resolve (tempPath path name) ≠ resolve (filePath path name))
    (hlink : (disk w.host).named (resolve (filePath path name)) = none ∨
      (disk w.host).named (resolve (filePath path name)) ≠
        (disk w.host).named (resolve (tempPath path name)))
    (hturns : uploadTurns H S tn turns
      ⟨Upload.uploadFile name path content msgId, w, false⟩ = x) :
    ((disk x.tunnel.host).read (resolve (filePath path name)) =
        (disk w.host).read (resolve (filePath path name)) ∧
      (x.page.wait = .finished → content = [])) ∨
    (content ≠ [] ∧ (disk x.tunnel.host).read (resolve (filePath path name)) =
      some (leftover resolve name path (disk w.host) ++ content)) := by
  have hstart : Stage resolve disk name path content msgId (disk w.host) tn
      ⟨Upload.uploadFile name path content msgId, w, false⟩ := .waiting (.inl rfl) rfl
  have hstage := hstart.turns (S := S) hH hsize hpaths hlink turns
  rw [hturns] at hstage
  cases hstage with
  | waiting hwait hdisk =>
      refine .inl ⟨congrArg (fun d : Disk String File => d.read _) hdisk, fun heq => ?_⟩
      rcases hwait with rfl | rfl <;> cases heq
  | writing hwait hopen =>
      refine .inl ⟨hopen.dest, fun heq => ?_⟩
      rcases hwait with rfl | rfl <;> cases heq
  | ended hwait hdest => exact .inl ⟨hdest, hwait⟩
  | delivered hcontent hdest => exact .inr ⟨hcontent, hdest⟩

/-- A full disk: the tunnel hangs in the first of the two chunks, and the page gives up. -/
theorem upload_all_or_nothing_of_full : ∃ x,
    uploadTurns fullHost (Agent.sample fun _ => 0) sampleTunnel [.serve, .serve, .serve, .timeout]
        ⟨Upload.uploadFile "a" "d" sampleFile 0, sampleLocal, false⟩ = x ∧
      ((x.tunnel.host.1.read "d/a" = some [7] ∧ (x.page.wait = .finished → sampleFile = [])) ∨
        (sampleFile ≠ [] ∧ x.tunnel.host.1.read "d/a" = some ([1] ++ sampleFile))) := by
  obtain ⟨x, hx⟩ : ∃ x, uploadTurns fullHost (Agent.sample fun _ => 0) sampleTunnel
      [.serve, .serve, .serve, .timeout]
      ⟨Upload.uploadFile "a" "d" sampleFile 0, sampleLocal, false⟩ = x := ⟨_, rfl⟩
  exact ⟨x, hx, upload_all_or_nothing [.serve, .serve, .serve, .timeout] fullHost_keepsFiles
    (by rw [length_sampleFile, UPLOAD_CHUNK_SIZE]; omega) (by decide) (.inr (by decide)) hx⟩

/-- **An upload to a host that works** is finished when the start and every chunk have been
served, and the file is there. -/
theorem upload_finishes (hH : KeepsFiles H resolve disk) (hworks : Works H)
    (hsize : content.length ≤ (2 ^ 32 - 1) * UPLOAD_CHUNK_SIZE)
    (hpaths : resolve (tempPath path name) ≠ resolve (filePath path name))
    (hlink : (disk w.host).named (resolve (filePath path name)) = none ∨
      (disk w.host).named (resolve (filePath path name)) ≠
        (disk w.host).named (resolve (tempPath path name))) :
    ∃ u w', uploadTurns H S tn (List.replicate (Upload.totalChunks content + 1) .serve)
        ⟨Upload.uploadFile name path content msgId, w, false⟩ = ⟨u, w', false⟩ ∧
      u.wait = .finished ∧
      (disk w'.host).read (resolve (filePath path name)) =
        if content = [] then (disk w.host).read (resolve (filePath path name))
        else some (leftover resolve name path (disk w.host) ++ content) := by
  obtain ⟨w', hturns, hread⟩ := finishes hH hworks hsize hpaths hlink S tn msgId rfl
  exact ⟨_, w', hturns, rfl, hread⟩

theorem upload_finishes_of_disk : ∃ u w',
    uploadTurns diskHost (Agent.sample fun _ => 0) sampleTunnel (List.replicate 2 .serve)
        ⟨Upload.uploadFile "a" "d" [2, 3] 0, sampleLocal, false⟩ = ⟨u, w', false⟩ ∧
      u.wait = .finished ∧ w'.host.1.read "d/a" = some [1, 2, 3] :=
  @upload_finishes _ diskHost (Agent.sample fun _ => 0) sampleTunnel id Prod.fst "a" "d" [2, 3] 0
    sampleLocal diskHost_keepsFiles diskHost_works (by decide) (by decide) (.inr (by decide))

end Whole

end Phirepass.System
