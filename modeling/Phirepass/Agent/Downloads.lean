/-
# `Phirepass.Agent.Downloads` — what `download_file_chunk` answers

The function has five ends, and `run_downloadFileChunk` and its companions say
what each leaves behind:

    the download is not known    an error
    the seek fails               an error, and the entry goes
    the read fails               an error, and the entry goes
    the read is at the end       no answer, and the entry goes
    the read gives bytes         the chunk

So a request is answered exactly where the read does not come to the end of
the file (`requestAnswered_iff`), the addition in `debug!` apart.
-/
import Phirepass.Agent.Alone
import Phirepass.Agent.Machine

namespace Phirepass.Agent

open Rust Interleave

/-- The offset of a chunk. -/
def chunkPosition (chunkIndex : UInt32) : UInt64 :=
  chunkIndex.toUInt64 * UInt64.ofNat CHUNK_SIZE

/-- The frame that carries a chunk. -/
def chunkFrame (tn : Tunnel) (msgId : Option UInt32) (downloadId chunkIndex : UInt32)
    (bytes : Bytes) : WebFrameData :=
  .sftpDownloadChunk tn.sid msgId ⟨downloadId, chunkIndex, UInt32.ofNat bytes.length, bytes⟩

/-- `debug!` computes `chunk_index + 1`, and the profile checks it. -/
def DebugOverflows (S : Setup) (chunkIndex : UInt32) : Prop :=
  S.debugLog = true ∧ S.overflowChecks = true ∧ chunkIndex = 0xFFFFFFFF

section Chunk

variable {η : Type} {H : Remote η} {S : Setup} {tn : Tunnel} {msgId : Option UInt32}
  {downloadId chunkIndex : UInt32} {w : Local η} {download : FileDownload} {err : String}
  {bytes : Bytes}

/-- The host after the seek. -/
def afterSeek (H : Remote η) (w : Local η) (download : FileDownload) (chunkIndex : UInt32) : η :=
  (H.sftp w.host (.seek download.sftpFile (chunkPosition chunkIndex))).2

/-- The host after the read that follows. -/
def afterRead (H : Remote η) (w : Local η) (download : FileDownload) (chunkIndex : UInt32) : η :=
  (H.sftp (afterSeek H w download chunkIndex) (.read download.sftpFile)).2

theorem run_chunk_unknown (hentry : w.downloads.lookup (tn.cid, downloadId) = none) :
    runLocal H S tn (downloadFileChunk S tn msgId downloadId chunkIndex) w =
      some ((), { w with sent := w.sent ++
        [.webFrame (.error .generic "Download not found or expired" msgId) (.sessionId tn.sid)] }) := by
  unfold downloadFileChunk
  rw [run_downloads (r := none) (by simp [MapOp.answer, hentry])]
  exact run_reply

theorem run_chunk_seek_fails (hentry : w.downloads.lookup (tn.cid, downloadId) = some download)
    (hseek : (H.sftp w.host (.seek download.sftpFile (chunkPosition chunkIndex))).1 = .error err) :
    runLocal H S tn (downloadFileChunk S tn msgId downloadId chunkIndex) w =
      some ((), { w with
        sent := w.sent ++ [.webFrame (.error .generic s!"Error seeking file: {err}" msgId)
          (.sessionId tn.sid)]
        host := afterSeek H w download chunkIndex
        downloads := w.downloads.erase (tn.cid, downloadId) }) := by
  rw [chunkPosition] at hseek
  unfold downloadFileChunk
  rw [run_downloads (r := some download) (by simp [MapOp.answer, hentry])]
  dsimp only
  rw [run_sftp]
  simp only [MapOp.apply, hseek]
  rw [replyError, run_reply_bind]
  exact run_downloads (r := w.downloads.lookup (tn.cid, downloadId)) rfl

theorem run_chunk_read_fails (hentry : w.downloads.lookup (tn.cid, downloadId) = some download)
    (hseek : (H.sftp w.host (.seek download.sftpFile (chunkPosition chunkIndex))).1 = .ok ())
    (hread : (H.sftp (afterSeek H w download chunkIndex) (.read download.sftpFile)).1 =
      .error err) :
    runLocal H S tn (downloadFileChunk S tn msgId downloadId chunkIndex) w =
      some ((), { w with
        sent := w.sent ++ [.webFrame (.error .generic s!"Error reading file: {err}" msgId)
          (.sessionId tn.sid)]
        host := afterRead H w download chunkIndex
        downloads := w.downloads.erase (tn.cid, downloadId) }) := by
  rw [chunkPosition] at hseek
  rw [afterSeek, chunkPosition] at hread
  unfold downloadFileChunk
  rw [run_downloads (r := some download) (by simp [MapOp.answer, hentry])]
  dsimp only
  rw [run_sftp]
  simp only [MapOp.apply, hseek]
  rw [run_sftp]
  simp only [hread]
  rw [replyError, run_reply_bind]
  exact run_downloads (r := w.downloads.lookup (tn.cid, downloadId)) rfl

theorem run_chunk_end (hentry : w.downloads.lookup (tn.cid, downloadId) = some download)
    (hseek : (H.sftp w.host (.seek download.sftpFile (chunkPosition chunkIndex))).1 = .ok ())
    (hread : (H.sftp (afterSeek H w download chunkIndex) (.read download.sftpFile)).1 = .ok []) :
    runLocal H S tn (downloadFileChunk S tn msgId downloadId chunkIndex) w =
      some ((), { w with
        host := afterRead H w download chunkIndex
        downloads := w.downloads.erase (tn.cid, downloadId) }) := by
  rw [chunkPosition] at hseek
  rw [afterSeek, chunkPosition] at hread
  unfold downloadFileChunk
  rw [run_downloads (r := some download) (by simp [MapOp.answer, hentry])]
  dsimp only
  rw [run_sftp]
  simp only [MapOp.apply, hseek]
  rw [run_sftp]
  simp only [hread]
  exact run_downloads (r := w.downloads.lookup (tn.cid, downloadId)) rfl

/-- The time of the chunk, and the host after the clock was read. -/
def afterClock (H : Remote η) (w : Local η) (download : FileDownload) (chunkIndex : UInt32) :
    Time × η :=
  H.now (afterRead H w download chunkIndex)

theorem run_chunk_data (hentry : w.downloads.lookup (tn.cid, downloadId) = some download)
    (hseek : (H.sftp w.host (.seek download.sftpFile (chunkPosition chunkIndex))).1 = .ok ())
    (hread : (H.sftp (afterSeek H w download chunkIndex) (.read download.sftpFile)).1 = .ok bytes)
    (hbytes : bytes ≠ []) (hdebug : ¬ DebugOverflows S chunkIndex) :
    runLocal H S tn (downloadFileChunk S tn msgId downloadId chunkIndex) w =
      some ((), { w with
        sent := w.sent ++
          [.webFrame (chunkFrame tn msgId downloadId chunkIndex bytes) (.sessionId tn.sid)]
        host := (afterClock H w download chunkIndex).2
        downloads := w.downloads.insert (tn.cid, downloadId)
          { download with lastUpdated := (afterClock H w download chunkIndex).1 } }) := by
  have hempty : bytes.isEmpty = false := by
    rw [List.isEmpty_eq_false_iff]
    exact hbytes
  rw [chunkPosition] at hseek
  rw [afterSeek, chunkPosition] at hread
  unfold downloadFileChunk
  rw [run_downloads (r := some download) (by simp [MapOp.answer, hentry])]
  dsimp only
  rw [run_sftp]
  simp only [MapOp.apply, hseek]
  rw [run_sftp]
  simp only [hread, hempty, Bool.false_eq_true, if_false]
  rw [run_now, run_downloads (r := true) (by simp [MapOp.answer, hentry])]
  simp only [MapOp.apply, hentry]
  by_cases hlog : S.debugLog = true
  · rw [if_pos hlog, run_addU32, if_neg]
    · exact run_reply
    · rintro ⟨hover, hchecks⟩
      refine hdebug ⟨hlog, hchecks, UInt32.toNat_inj.1 ?_⟩
      have hlt := chunkIndex.toNat_lt
      simp only [UInt32.reduceToNat] at hover ⊢
      omega
  · rw [if_neg hlog]
    exact run_reply

/-- Where the addition overflows, the task ends. -/
theorem run_chunk_overflow (hentry : w.downloads.lookup (tn.cid, downloadId) = some download)
    (hseek : (H.sftp w.host (.seek download.sftpFile (chunkPosition chunkIndex))).1 = .ok ())
    (hread : (H.sftp (afterSeek H w download chunkIndex) (.read download.sftpFile)).1 = .ok bytes)
    (hbytes : bytes ≠ []) (hdebug : DebugOverflows S chunkIndex) :
    runLocal H S tn (downloadFileChunk S tn msgId downloadId chunkIndex) w = none := by
  have hempty : bytes.isEmpty = false := by
    rw [List.isEmpty_eq_false_iff]
    exact hbytes
  obtain ⟨hlog, hchecks, rfl⟩ := hdebug
  rw [chunkPosition] at hseek
  rw [afterSeek, chunkPosition] at hread
  unfold downloadFileChunk
  rw [run_downloads (r := some download) (by simp [MapOp.answer, hentry])]
  dsimp only
  rw [run_sftp]
  simp only [MapOp.apply, hseek]
  rw [run_sftp]
  simp only [hread, hempty, Bool.false_eq_true, if_false]
  rw [run_now, run_downloads (r := true) (by simp [MapOp.answer, hentry]), if_pos hlog, run_addU32,
    if_pos ⟨by simp, hchecks⟩]

end Chunk

/-! ## Which requests are answered -/

/-- The frame answers the request: the chunk asked for, or an error. -/
inductive AnswersRequest (tn : Tunnel) (msgId : Option UInt32) (downloadId chunkIndex : UInt32) :
    WebFrameData → Prop
  | chunk (bytes : Bytes) :
      AnswersRequest tn msgId downloadId chunkIndex
        (chunkFrame tn msgId downloadId chunkIndex bytes)
  | error (message : String) :
      AnswersRequest tn msgId downloadId chunkIndex (.error .generic message msgId)

/-- The function comes to its end and has put one frame into the queue, an answer. -/
def RequestAnswered {η : Type} (H : Remote η) (S : Setup) (tn : Tunnel) (msgId : Option UInt32)
    (downloadId chunkIndex : UInt32) (w : Local η) : Prop :=
  ∃ w' frame, runLocal H S tn (downloadFileChunk S tn msgId downloadId chunkIndex) w =
      some ((), w') ∧
    w'.sent = w.sent ++ [.webFrame frame (.sessionId tn.sid)] ∧
    AnswersRequest tn msgId downloadId chunkIndex frame

/-- The download is known, the seek succeeds, and the read comes to the end of the file, or to
the addition that overflows. -/
def ReadsNothing {η : Type} (H : Remote η) (S : Setup) (tn : Tunnel)
    (downloadId chunkIndex : UInt32) (w : Local η) : Prop :=
  ∃ download bytes, w.downloads.lookup (tn.cid, downloadId) = some download ∧
    (H.sftp w.host (.seek download.sftpFile (chunkPosition chunkIndex))).1 = .ok () ∧
    (H.sftp (afterSeek H w download chunkIndex) (.read download.sftpFile)).1 = .ok bytes ∧
    (bytes = [] ∨ DebugOverflows S chunkIndex)

section Answers

variable {η : Type} {H : Remote η} {S : Setup} {tn : Tunnel} {msgId : Option UInt32}
  {downloadId chunkIndex : UInt32} {w : Local η}

theorem not_requestAnswered (hreads : ReadsNothing H S tn downloadId chunkIndex w) :
    ¬ RequestAnswered H S tn msgId downloadId chunkIndex w := by
  rintro ⟨w', frame, hrun, hsent, -⟩
  obtain ⟨download, bytes, hentry, hseek, hread, hend⟩ := hreads
  by_cases hbytes : bytes = []
  · subst hbytes
    rw [run_chunk_end hentry hseek hread] at hrun
    cases hrun
    exact absurd hsent (by simp)
  · rw [run_chunk_overflow hentry hseek hread hbytes (hend.resolve_left hbytes)] at hrun
    cases hrun

/-- **A chunk request is answered** by one frame, unless the file has come to its end. -/
theorem requestAnswered_iff :
    RequestAnswered H S tn msgId downloadId chunkIndex w ↔
      ¬ ReadsNothing H S tn downloadId chunkIndex w := by
  constructor
  · intro hanswered hreads
    exact not_requestAnswered hreads hanswered
  · intro hreads
    cases hentry : w.downloads.lookup (tn.cid, downloadId) with
    | none => exact ⟨_, _, run_chunk_unknown hentry, rfl, .error _⟩
    | some download =>
        cases hseek : (H.sftp w.host (.seek download.sftpFile (chunkPosition chunkIndex))).1 with
        | error err => exact ⟨_, _, run_chunk_seek_fails hentry hseek, rfl, .error _⟩
        | ok u =>
            cases hread : (H.sftp (afterSeek H w download chunkIndex)
                (.read download.sftpFile)).1 with
            | error err => exact ⟨_, _, run_chunk_read_fails hentry hseek hread, rfl, .error _⟩
            | ok bytes =>
                have hbytes : bytes ≠ [] := fun hnil =>
                  hreads ⟨download, bytes, hentry, hseek, hread, .inl hnil⟩
                have hdebug : ¬ DebugOverflows S chunkIndex := fun hover =>
                  hreads ⟨download, bytes, hentry, hseek, hread, .inr hover⟩
                exact ⟨_, _, run_chunk_data hentry hseek hread hbytes hdebug, rfl, .chunk _⟩

end Answers

/-! ## A file -/

/-- The host's side of open files: the offset of each handle, and how often was read. -/
structure FileState where
  offset : File → Nat
  reads : Nat

/-- A host with one file that does not change.  The `n`th read gives what the buffer still
holds of the file, and at most `amount n`; the clock shows `clock n`. -/
def fileHost (content : Bytes) (file : File) (amount : Nat → Nat) (clock : Nat → Time) :
    Remote FileState where
  sftp h
    | .metadata _ => (.ok (some (UInt64.ofNat content.length)), h)
    | .open _ => (.ok file, { h with offset := Function.update h.offset file 0 })
    | .seek f position =>
        (.ok (), { h with offset := Function.update h.offset f position.toNat })
    | .read f =>
        let bytes := (content.drop (h.offset f)).take (min (amount h.reads) CHUNK_SIZE)
        (.ok bytes, ⟨Function.update h.offset f (h.offset f + bytes.length), h.reads + 1⟩)
    | .canonicalize path => (.ok path, h)
    | .readDir _ => (.error "not a directory", h)
    | .openWithFlags _ => (.error "read-only", h)
    | .writeAll _ _ | .rename _ _ | .removeFile _ | .syncAll _ => (.error "read-only", h)
  now h := (clock h.reads, h)

theorem fileHost_fitsBuffer {content : Bytes} {file : File} {amount : Nat → Nat}
    {clock : Nat → Time} : (fileHost content file amount clock).FitsBuffer := by
  intro h f bytes hread
  cases hread
  exact (List.length_take_le _ _).trans (min_le_right _ _)

/-- What the file has at the offset of a chunk. -/
theorem toNat_chunkPosition (chunkIndex : UInt32) :
    (chunkPosition chunkIndex).toNat = chunkIndex.toNat * CHUNK_SIZE := by
  have hlt := chunkIndex.toNat_lt
  have hsize : (UInt64.ofNat CHUNK_SIZE).toNat = CHUNK_SIZE := rfl
  rw [chunkPosition, UInt64.toNat_mul, UInt32.toNat_toUInt64, hsize, CHUNK_SIZE]
  omega

/-- An SFTP tunnel of browser `77`. -/
def sampleTunnel : Tunnel :=
  ⟨.sftp, 0, 77, 1, ⟨"localhost", 22, .usernamePassword "root" "secret", none⟩, some 1⟩

/-- Nothing has been transferred yet. -/
def Local.fresh : Local FileState := ⟨1, ∅, ∅, [], ⟨fun _ => 0, 0⟩⟩

/-- **A chunk of an empty file is never answered.** -/
theorem empty_file_unanswered :
    ∃ w, runLocal (fileHost [] 0 (fun _ => CHUNK_SIZE) fun _ => 0) (sample fun _ => 0) sampleTunnel
        (startDownload sampleTunnel ⟨"d", "a"⟩ (some 1)) Local.fresh = some ((), w) ∧
      ¬ RequestAnswered (fileHost [] 0 (fun _ => CHUNK_SIZE) fun _ => 0) (sample fun _ => 0)
        sampleTunnel (some 1) 1 0 w :=
  ⟨_, rfl, not_requestAnswered ⟨_, [], rfl, rfl, rfl, .inl rfl⟩⟩

end Phirepass.Agent
