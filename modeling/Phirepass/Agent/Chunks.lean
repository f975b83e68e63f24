/-
# `Phirepass.Agent.Chunks` — what `upload_file_chunk` answers

The function has seven ends.  Six of them answer with one frame and leave no
upload behind that failed:

    the upload is not known               an error
    the last chunk: no longer known,      an error
      not written, not renamed              and the upload is gone
    the last chunk is renamed             the acknowledgement
    another chunk: no longer known        an error
    another chunk is written              the acknowledgement

The seventh is the failing write of a chunk that is not the last: it asks the
map to remove the entry whose guard it holds, and never returns.  With the
greatest index there is, `chunk_index + 1` overflows, and the last chunk is not
known for it.  Every other chunk is answered (`chunkAnswered_iff`).
-/
import Phirepass.Agent.Guards
import Phirepass.Agent.Downloads

namespace Phirepass.Agent

open Rust Interleave

/-! ## The record -/

/-- What the remote machine was asked and answered, latest first. -/
abbrev SftpLog : Type := List (Sigma fun op : SftpOp => op.Resp)

/-- The remote machine with its record. -/
def Remote.logged {η : Type} (H : Remote η) : Remote (η × SftpLog) where
  sftp h op := ((H.sftp h.1 op).1, (H.sftp h.1 op).2, ⟨op, (H.sftp h.1 op).1⟩ :: h.2)
  now h := ((H.now h.1).1, (H.now h.1).2, h.2)

/-- The function is called: no guard is held, and nothing is in the record. -/
def Local.called {η : Type} (w : Local η) : Locked (η × SftpLog) :=
  ⟨⟨w.nextId, w.uploads, w.downloads, w.sent, w.host, []⟩, []⟩

/-- The first guard is dropped. -/
def Local.dropped {η : Type} (w : Local η)
    (others : DashMap Key FileUpload → DashMap Key FileUpload) : Local (η × SftpLog) :=
  { w.called.base with uploads := others w.uploads }

/-- A write or a rename failed. -/
def FailedIn (log : SftpLog) : Prop :=
  (∃ file data err, ⟨.writeAll file data, .error err⟩ ∈ log) ∨
    ∃ temp final err, ⟨.rename temp final, .error err⟩ ∈ log

/-- The chunk is the last one of its upload. -/
def IsLast (tn : Tunnel) (chunk : SFTPUploadChunk) (uploads : DashMap Key FileUpload) : Prop :=
  ∃ upload, uploads.lookup (tn.cid, chunk.uploadId) = some upload ∧
    upload.totalChunks.toNat ≤ chunk.chunkIndex.toNat + 1

/-- The chunk was written and, if it is the last, the file renamed. -/
def StoredBy (tn : Tunnel) (chunk : SFTPUploadChunk) (uploads : DashMap Key FileUpload)
    (log : SftpLog) : Prop :=
  (∃ file, ⟨.writeAll file chunk.data, .ok ()⟩ ∈ log) ∧
    (IsLast tn chunk uploads → ∃ temp final, ⟨.rename temp final, .ok ()⟩ ∈ log)

/-- What is left at an end: one more frame, the acknowledgement if the chunk was stored and else
an error, and no upload of which something failed. -/
structure EndsIn {η : Type} (tn : Tunnel) (chunk : SFTPUploadChunk) (msgId : Option UInt32)
    (w : Local η) (w' : Local (η × SftpLog)) : Prop where
  answer : ∃ frame, w'.sent = w.sent ++ [.webFrame frame (.sessionId tn.sid)] ∧
    (StoredBy tn chunk w.uploads w'.host.2 ∧
        frame = .sftpUploadChunkAck tn.sid chunk.uploadId chunk.chunkIndex ∨
      ¬ StoredBy tn chunk w.uploads w'.host.2 ∧ ∃ message, frame = .error .generic message msgId)
  gone : FailedIn w'.host.2 → w'.uploads.lookup (tn.cid, chunk.uploadId) = none

/-- The function comes to its end, with no guard. -/
def ChunkAnswered {η : Type} (H : Remote η) (S : Setup) (tn : Tunnel)
    (others : DashMap Key FileUpload → DashMap Key FileUpload) (chunk : SFTPUploadChunk)
    (msgId : Option UInt32) (w : Local η) : Prop :=
  ∃ w', runGuarded H.logged S tn others (guardedUploadFileChunk tn chunk msgId) w.called =
      some ((), ⟨w', []⟩) ∧ EndsIn tn chunk msgId w w'

/-! ## The parts -/

section Parts

variable {η β : Type} {H : Remote η} {S : Setup} {tn : Tunnel}
  {others : DashMap Key FileUpload → DashMap Key FileUpload} {base : Local η} {key : Key}
  {held : List Key}

/-- A command that waits for nobody. -/
theorem run_act {c : Cmd} {f : Resp c → Guarded β} {r : Resp c} {base' : Local η}
    (hwait : c.waitsForItself held = false) (h : H.exec S tn.conn c base = some (r, base')) :
    runGuarded H S tn others (guard (.act c) >>= f) ⟨base, held⟩ =
      runGuarded H S tn others (f r) ⟨base', held⟩ :=
  Prog.run_perform (by simp [Remote.guardedExec, hwait, h])

/-- One that waits for its own task. -/
theorem run_act_waits {c : Cmd} {f : Resp c → Guarded β} (hwait : c.waitsForItself held = true) :
    runGuarded H S tn others (guard (.act c) >>= f) ⟨base, held⟩ = none :=
  Prog.run_perform_none (by simp [Remote.guardedExec, hwait])

theorem run_drop {f : Unit → Guarded β} :
    runGuarded H S tn others (guard (.drop key) >>= f) ⟨base, held⟩ =
      runGuarded H S tn others (f ())
        ⟨{ base with uploads := others base.uploads }, held.erase key⟩ :=
  Prog.run_perform rfl

/-- The entry with its guard, or neither. -/
theorem getGuarded_eq : runGuarded H S tn others (getGuarded tn.conn key) ⟨base, []⟩ =
    some (base.uploads.lookup key,
      ⟨base, if (base.uploads.lookup key).isSome then [key] else []⟩) := by
  have hlookup : H.exec S tn.conn (.uploads tn.conn (.get key)) base =
      some (base.uploads.lookup key, base) := by
    simp [Remote.exec, MapOp.exec, MapOp.answer, MapOp.apply]
  refine (run_act waitsForItself_nil hlookup).trans ?_
  cases base.uploads.lookup key <;> rfl

theorem run_getGuarded {f : Option FileUpload → Guarded β} :
    runGuarded H S tn others (getGuarded tn.conn key >>= f) ⟨base, []⟩ =
      runGuarded H S tn others (f (base.uploads.lookup key))
        ⟨base, if (base.uploads.lookup key).isSome then [key] else []⟩ := by
  refine Prog.run_bind.trans ?_
  rw [show (getGuarded tn.conn key).run (H.guardedExec S tn.conn others) ⟨base, []⟩ = _ from
    getGuarded_eq, Option.bind_some]

/-- An addition, guards or not. -/
theorem run_guarded_addU32 {a b : UInt32} {f : UInt32 → Guarded β} {w : Locked η} :
    runGuarded H S tn others (unguarded (addU32 a b) >>= f) w =
      if 2 ^ 32 ≤ a.toNat + b.toNat ∧ S.overflowChecks = true then none
      else runGuarded H S tn others (f (a + b)) w := by
  unfold addU32
  by_cases hlt : a.toNat + b.toNat < 2 ^ 32
  · rw [if_pos hlt, if_neg (by omega)]
    rfl
  · rw [if_neg hlt]
    cases hc : S.overflowChecks with
    | true =>
        rw [if_pos ⟨by omega, rfl⟩]
        exact Prog.run_perform_none (by simp [Remote.guardedExec, Remote.exec, hc])
    | false =>
        rw [if_neg (by simp)]
        refine Prog.run_perform (r := ()) ?_
        simp [Remote.guardedExec, Remote.exec, hc, Cmd.waitsForItself]

/-- A reply, guards or not. -/
theorem run_guarded_reply {frame : WebFrameData} {f : Unit → Guarded β} :
    runGuarded H S tn others (unguarded (reply tn frame) >>= f) ⟨base, held⟩ =
      runGuarded H S tn others (f ())
        ⟨{ base with sent := base.sent ++ [.webFrame frame (.sessionId tn.sid)] }, held⟩ :=
  run_act rfl (if_pos rfl)

end Parts

/-! ## The ends -/

section Ends

variable {η : Type} {H : Remote η} {S : Setup} {tn : Tunnel}
  {others : DashMap Key FileUpload → DashMap Key FileUpload} {chunk : SFTPUploadChunk}
  {msgId : Option UInt32} {base : Local η} {upload : FileUpload} {err : String}

/-- The remote machine after the write of the chunk. -/
def afterWrite (H : Remote η) (h : η) (upload : FileUpload) (chunk : SFTPUploadChunk) : η :=
  (H.sftp h (.writeAll upload.sftpFile chunk.data)).2

/-- The answer to the rename that finishes the upload, and the remote machine after it. -/
def renamed (H : Remote η) (h : η) (upload : FileUpload) : Except String Unit × η :=
  H.sftp h (.rename upload.tempPath (filePath upload.remotePath upload.filename))

/-- A reply, with everything else as it is. -/
def Local.replied (w : Local η) (tn : Tunnel) (frame : WebFrameData) : Local η :=
  { w with sent := w.sent ++ [.webFrame frame (.sessionId tn.sid)] }

theorem run_finish_unknown (hentry : base.uploads.lookup (tn.cid, chunk.uploadId) = none) :
    runLocal H S tn (finishUpload tn chunk msgId) base =
      some ((), { base with uploads := base.uploads.erase (tn.cid, chunk.uploadId) }.replied tn
        (.error .generic "File upload not found for final chunk" msgId)) := by
  unfold finishUpload
  rw [run_uploads (r := none) (by simp [MapOp.answer, hentry])]
  exact run_reply

theorem run_finish_write_fails
    (hentry : base.uploads.lookup (tn.cid, chunk.uploadId) = some upload)
    (hwrite : (H.sftp base.host (.writeAll upload.sftpFile chunk.data)).1 = .error err) :
    runLocal H S tn (finishUpload tn chunk msgId) base =
      some ((), { base with
        uploads := base.uploads.erase (tn.cid, chunk.uploadId)
        host := afterWrite H base.host upload chunk }.replied tn
          (.error .generic s!"Failed to write final chunk: {err}" msgId)) := by
  unfold finishUpload
  rw [run_uploads (r := some upload) (by simp [MapOp.answer, hentry])]
  dsimp only
  rw [run_sftp]
  simp only [hwrite]
  exact run_reply

theorem run_finish_rename_fails
    (hentry : base.uploads.lookup (tn.cid, chunk.uploadId) = some upload)
    (hwrite : (H.sftp base.host (.writeAll upload.sftpFile chunk.data)).1 = .ok ())
    (hrename : (renamed H (afterWrite H base.host upload chunk) upload).1 = .error err) :
    runLocal H S tn (finishUpload tn chunk msgId) base =
      some ((), { base with
        uploads := base.uploads.erase (tn.cid, chunk.uploadId)
        host := (renamed H (afterWrite H base.host upload chunk) upload).2 }.replied tn
          (.error .generic s!"Failed to rename file: {err}" msgId)) := by
  unfold renamed afterWrite at hrename
  unfold finishUpload
  rw [run_uploads (r := some upload) (by simp [MapOp.answer, hentry])]
  dsimp only
  rw [run_sftp]
  simp only [hwrite]
  rw [run_sftp]
  simp only [hrename]
  exact run_reply

theorem run_finish_renamed
    (hentry : base.uploads.lookup (tn.cid, chunk.uploadId) = some upload)
    (hwrite : (H.sftp base.host (.writeAll upload.sftpFile chunk.data)).1 = .ok ())
    (hrename : (renamed H (afterWrite H base.host upload chunk) upload).1 = .ok ()) :
    runLocal H S tn (finishUpload tn chunk msgId) base =
      some ((), { base with
        uploads := base.uploads.erase (tn.cid, chunk.uploadId)
        host := (renamed H (afterWrite H base.host upload chunk) upload).2 }.replied tn
          (.sftpUploadChunkAck tn.sid chunk.uploadId chunk.chunkIndex)) := by
  unfold renamed afterWrite at hrename
  unfold finishUpload
  rw [run_uploads (r := some upload) (by simp [MapOp.answer, hentry])]
  dsimp only
  rw [run_sftp]
  simp only [hwrite]
  rw [run_sftp]
  simp only [hrename]
  exact run_reply

theorem run_continue_unknown (hentry : base.uploads.lookup (tn.cid, chunk.uploadId) = none) :
    runGuarded H S tn others (guardedContinueUpload tn chunk msgId) ⟨base, []⟩ =
      some ((), ⟨base.replied tn
        (.error .generic s!"Upload ID {chunk.uploadId.toNat} not found" msgId), []⟩) := by
  unfold guardedContinueUpload
  rw [run_getGuarded, hentry]
  exact (run_unguarded _ _).trans (by rw [replyError, run_reply]; rfl)

section Written

variable (hentry : base.uploads.lookup (tn.cid, chunk.uploadId) = some upload)

include hentry

/-- **The end that is none**: the entry to remove is guarded by the task itself. -/
theorem run_continue_write_fails
    (hwrite : (H.sftp base.host (.writeAll upload.sftpFile chunk.data)).1 = .error err) :
    runGuarded H S tn others (guardedContinueUpload tn chunk msgId) ⟨base, []⟩ = none := by
  have hwritten : H.exec S tn.conn (.sftp (.writeAll upload.sftpFile chunk.data)) base =
      some (.error err, { base with host := afterWrite H base.host upload chunk }) := by
    rw [← hwrite]
    rfl
  unfold guardedContinueUpload
  rw [run_getGuarded, hentry]
  simp only [Option.isSome_some, if_true]
  rw [run_act rfl hwritten]
  exact run_act_waits (by simp [Cmd.waitsForItself])

theorem run_continue_written
    (hwrite : (H.sftp base.host (.writeAll upload.sftpFile chunk.data)).1 = .ok ()) :
    ∃ uploads, runGuarded H S tn others (guardedContinueUpload tn chunk msgId) ⟨base, []⟩ =
      some ((), ⟨{ base with
        uploads := uploads
        host := (H.now (afterWrite H base.host upload chunk)).2 }.replied tn
          (.sftpUploadChunkAck tn.sid chunk.uploadId chunk.chunkIndex), []⟩) := by
  have hwritten : H.exec S tn.conn (.sftp (.writeAll upload.sftpFile chunk.data)) base =
      some (.ok (), { base with host := afterWrite H base.host upload chunk }) := by
    rw [← hwrite]
    rfl
  have hmodify (now : Time) (h : η) : ∃ uploads, H.exec S tn.conn
      (.uploads tn.conn (.modify (tn.cid, chunk.uploadId) fun u => { u with lastUpdated := now }))
      { base with host := h } = some (true, { base with uploads := uploads, host := h }) :=
    ⟨_, by simp [Remote.exec, MapOp.exec, MapOp.answer, hentry]; rfl⟩
  obtain ⟨uploads, hmodified⟩ := hmodify (H.now (afterWrite H base.host upload chunk)).1
    (H.now (afterWrite H base.host upload chunk)).2
  refine ⟨others uploads, ?_⟩
  unfold guardedContinueUpload
  rw [run_getGuarded, hentry]
  simp only [Option.isSome_some, if_true]
  rw [run_act rfl hwritten]
  dsimp only
  rw [run_act rfl rfl, run_act rfl hmodified, run_guarded_reply]
  refine (run_drop (f := .ret)).trans ?_
  rw [List.erase_cons_head]
  rfl

end Written

end Ends

/-! ## The condition -/

/-- The chunk is not the last of its upload, which is still known when the chunk is written, and
the write fails. -/
def IntermediateWriteFails {η : Type} (H : Remote η) (tn : Tunnel)
    (others : DashMap Key FileUpload → DashMap Key FileUpload) (chunk : SFTPUploadChunk)
    (w : Local η) : Prop :=
  ∃ upload upload' err, w.uploads.lookup (tn.cid, chunk.uploadId) = some upload ∧
    ¬ upload.totalChunks ≤ chunk.chunkIndex + 1 ∧
    (others w.uploads).lookup (tn.cid, chunk.uploadId) = some upload' ∧
    (H.sftp w.host (.writeAll upload'.sftpFile chunk.data)).1 = .error err

/-- The chunk of a known upload has the greatest index there is: `chunk_index + 1` panics, or is
zero and below the number of chunks. -/
def IndexOverflows (S : Setup) (tn : Tunnel)
    (others : DashMap Key FileUpload → DashMap Key FileUpload) (chunk : SFTPUploadChunk)
    (uploads : DashMap Key FileUpload) : Prop :=
  chunk.chunkIndex = 0xFFFFFFFF ∧
    ∃ upload, uploads.lookup (tn.cid, chunk.uploadId) = some upload ∧
      (S.overflowChecks = true ∨
        upload.totalChunks ≠ 0 ∧
          ((others uploads).lookup (tn.cid, chunk.uploadId)).isSome = true)

section Answered

variable {η : Type} {H : Remote η} {S : Setup} {tn : Tunnel}
  {others : DashMap Key FileUpload → DashMap Key FileUpload} {chunk : SFTPUploadChunk}
  {msgId : Option UInt32} {w : Local η} {upload upload' : FileUpload}

/-- An error before anything is asked of the remote machine. -/
theorem endsIn_of_error (message : String) (base : Local (η × SftpLog))
    (hsent : base.sent = w.sent) (hlog : base.host.2 = []) :
    EndsIn tn chunk msgId w (base.replied tn (.error .generic message msgId)) := by
  refine ⟨⟨_, congrArg (· ++ _) hsent, .inr ⟨?_, _, rfl⟩⟩, ?_⟩
  · simp [StoredBy, Local.replied, hlog]
  · simp [FailedIn, Local.replied, hlog]

theorem chunk_unknown (hentry : w.uploads.lookup (tn.cid, chunk.uploadId) = none) :
    ChunkAnswered H S tn others chunk msgId w := by
  refine ⟨_, ?_, endsIn_of_error s!"Upload ID {chunk.uploadId.toNat} not found" w.called.base
    rfl rfl⟩
  unfold guardedUploadFileChunk Local.called
  rw [run_getGuarded, hentry]
  exact (run_unguarded _ _).trans (by rw [replyError, run_reply]; rfl)

/-- The function with the upload known: the guard of `get` is dropped before the chunk is
written. -/
theorem run_chunk_known (hentry : w.uploads.lookup (tn.cid, chunk.uploadId) = some upload) :
    runGuarded H.logged S tn others (guardedUploadFileChunk tn chunk msgId) w.called =
      if 2 ^ 32 ≤ chunk.chunkIndex.toNat + 1 ∧ S.overflowChecks = true then none
      else runGuarded H.logged S tn others
        (if upload.totalChunks ≤ chunk.chunkIndex + 1 then unguarded (finishUpload tn chunk msgId)
          else guardedContinueUpload tn chunk msgId)
        ⟨w.dropped others, []⟩ := by
  unfold guardedUploadFileChunk Local.called
  rw [run_getGuarded, hentry]
  simp only [Option.isSome_some, if_true]
  rw [run_guarded_addU32, run_drop, List.erase_cons_head]
  rfl

theorem afterWrite_log {h : η × SftpLog} {written : Except String Unit}
    (hwrite : (H.logged.sftp h (.writeAll upload.sftpFile chunk.data)).1 = written) :
    (afterWrite H.logged h upload chunk).2 =
      ⟨.writeAll upload.sftpFile chunk.data, written⟩ :: h.2 := by
  rw [← hwrite]
  rfl

theorem renamed_log {h : η × SftpLog} {answer : Except String Unit}
    (hrename : (renamed H.logged h upload).1 = answer) :
    (renamed H.logged h upload).2.2 =
      ⟨.rename upload.tempPath (filePath upload.remotePath upload.filename), answer⟩ :: h.2 := by
  rw [← hrename]
  rfl

/-- The last chunk: whatever fails, the upload is gone. -/
theorem finish_endsIn (base : Local (η × SftpLog)) (hsent : base.sent = w.sent)
    (hlog : base.host.2 = []) (hlast : IsLast tn chunk w.uploads) :
    ∃ w', runLocal H.logged S tn (finishUpload tn chunk msgId) base = some ((), w') ∧
      EndsIn tn chunk msgId w w' := by
  cases hentry : base.uploads.lookup (tn.cid, chunk.uploadId) with
  | none => exact ⟨_, run_finish_unknown hentry, endsIn_of_error _ _ hsent hlog⟩
  | some upload =>
  cases hwrite : (H.logged.sftp base.host (.writeAll upload.sftpFile chunk.data)).1 with
  | error err =>
      refine ⟨_, run_finish_write_fails hentry hwrite,
        ⟨_, congrArg (· ++ _) hsent, .inr ⟨?_, _, rfl⟩⟩, ?_⟩
      · rintro ⟨⟨file, hmem⟩, -⟩
        simp [Local.replied, afterWrite_log hwrite, hlog] at hmem
      · simp [Local.replied]
  | ok u =>
  cases hrename : (renamed H.logged (afterWrite H.logged base.host upload chunk) upload).1 with
  | error err =>
      refine ⟨_, run_finish_rename_fails hentry hwrite hrename,
        ⟨_, congrArg (· ++ _) hsent, .inr ⟨?_, _, rfl⟩⟩, ?_⟩
      · rintro ⟨-, hstored⟩
        obtain ⟨temp, final, hmem⟩ := hstored hlast
        simp [Local.replied, renamed_log hrename, afterWrite_log hwrite, hlog] at hmem
      · simp [Local.replied]
  | ok u =>
      refine ⟨_, run_finish_renamed hentry hwrite hrename,
        ⟨_, congrArg (· ++ _) hsent, .inl ⟨?_, rfl⟩⟩, ?_⟩
      · simp only [StoredBy, Local.replied, renamed_log hrename, afterWrite_log hwrite, hlog]
        exact ⟨⟨upload.sftpFile, by simp⟩, fun _ =>
          ⟨upload.tempPath, filePath upload.remotePath upload.filename, by simp⟩⟩
      · simp [Local.replied]

/-- `chunk_index + 1` panics. -/
theorem chunk_panics (hentry : w.uploads.lookup (tn.cid, chunk.uploadId) = some upload)
    (hchecks : 2 ^ 32 ≤ chunk.chunkIndex.toNat + 1 ∧ S.overflowChecks = true) :
    ¬ ChunkAnswered H S tn others chunk msgId w := by
  rintro ⟨w', hrun, -⟩
  rw [run_chunk_known hentry, if_pos hchecks] at hrun
  cases hrun

/-- The last chunk. -/
theorem chunk_last (hentry : w.uploads.lookup (tn.cid, chunk.uploadId) = some upload)
    (hchecks : ¬ (2 ^ 32 ≤ chunk.chunkIndex.toNat + 1 ∧ S.overflowChecks = true))
    (hnext : upload.totalChunks ≤ chunk.chunkIndex + 1) :
    ChunkAnswered H S tn others chunk msgId w := by
  have hle : upload.totalChunks.toNat ≤ chunk.chunkIndex.toNat + 1 :=
    (UInt32.le_iff_toNat_le.1 hnext).trans
      ((UInt32.toNat_add ..).trans_le (Nat.mod_le _ _))
  obtain ⟨w', hrun, hends⟩ :
      ∃ w', runLocal H.logged S tn (finishUpload tn chunk msgId) (w.dropped others) =
        some ((), w') ∧ EndsIn tn chunk msgId w w' :=
    finish_endsIn _ rfl rfl ⟨upload, hentry, hle⟩
  refine ⟨w', ?_, hends⟩
  rw [run_chunk_known hentry, if_neg hchecks, if_pos hnext]
  exact (run_unguarded _ _).trans (by rw [hrun]; rfl)

/-- Another chunk, of an upload that is gone when the second guard is asked for. -/
theorem chunk_forgotten (hentry : w.uploads.lookup (tn.cid, chunk.uploadId) = some upload)
    (hchecks : ¬ (2 ^ 32 ≤ chunk.chunkIndex.toNat + 1 ∧ S.overflowChecks = true))
    (hnext : ¬ upload.totalChunks ≤ chunk.chunkIndex + 1)
    (hentry' : (others w.uploads).lookup (tn.cid, chunk.uploadId) = none) :
    ChunkAnswered H S tn others chunk msgId w := by
  refine ⟨_, ?_, endsIn_of_error s!"Upload ID {chunk.uploadId.toNat} not found"
    (w.dropped others) rfl rfl⟩
  rw [run_chunk_known hentry, if_neg hchecks, if_neg hnext]
  exact run_continue_unknown hentry'

/-- The write of a chunk that is not the last fails. -/
theorem chunk_write_fails (hfails : IntermediateWriteFails H tn others chunk w) :
    ¬ ChunkAnswered H S tn others chunk msgId w := by
  obtain ⟨upload, upload', err, hentry, hnext, hentry', hwrite⟩ := hfails
  have hhangs : runGuarded H.logged S tn others (guardedContinueUpload tn chunk msgId)
      ⟨w.dropped others, []⟩ = none := run_continue_write_fails hentry' hwrite
  rintro ⟨w', hrun, -⟩
  rw [run_chunk_known hentry, if_neg hnext, hhangs, ite_self] at hrun
  cases hrun

/-- Of the chunks that the code does not take for the last, only the one with the greatest index
can be it. -/
theorem isLast_iff_top (hentry : w.uploads.lookup (tn.cid, chunk.uploadId) = some upload)
    (hnext : ¬ upload.totalChunks ≤ chunk.chunkIndex + 1) :
    IsLast tn chunk w.uploads ↔ 2 ^ 32 ≤ chunk.chunkIndex.toNat + 1 := by
  have htotal := upload.totalChunks.toNat_lt
  rw [UInt32.le_iff_toNat_le, UInt32.toNat_add] at hnext
  have hone : (1 : UInt32).toNat = 1 := rfl
  constructor
  · rintro ⟨found, hfound, hle⟩
    cases hentry.symm.trans hfound
    omega
  · intro htop
    exact ⟨upload, hentry, by omega⟩

/-- Its write succeeds: the chunk is acknowledged and no file renamed. -/
theorem chunk_written (hentry : w.uploads.lookup (tn.cid, chunk.uploadId) = some upload)
    (hchecks : ¬ (2 ^ 32 ≤ chunk.chunkIndex.toNat + 1 ∧ S.overflowChecks = true))
    (hnext : ¬ upload.totalChunks ≤ chunk.chunkIndex + 1)
    (hentry' : (others w.uploads).lookup (tn.cid, chunk.uploadId) = some upload')
    (hwrite : (H.sftp w.host (.writeAll upload'.sftpFile chunk.data)).1 = .ok ()) :
    ChunkAnswered H S tn others chunk msgId w ↔ ¬ IsLast tn chunk w.uploads := by
  have hlog : (H.logged.now (afterWrite H.logged (w.dropped others).host upload' chunk)).2.2 =
      [⟨.writeAll upload'.sftpFile chunk.data, .ok ()⟩] := afterWrite_log hwrite
  obtain ⟨uploads, hrun⟩ : ∃ uploads,
      runGuarded H.logged S tn others (guardedUploadFileChunk tn chunk msgId) w.called =
        some ((), ⟨{ w.dropped others with
          uploads := uploads
          host := (H.logged.now
            (afterWrite H.logged (w.dropped others).host upload' chunk)).2 }.replied tn
            (.sftpUploadChunkAck tn.sid chunk.uploadId chunk.chunkIndex), []⟩) := by
    rw [run_chunk_known hentry, if_neg hchecks, if_neg hnext]
    exact run_continue_written hentry' hwrite
  constructor
  · rintro ⟨w', hrun', ⟨frame, hsent, hstored | ⟨-, message, hframe⟩⟩, -⟩ hlast
    · cases hrun.symm.trans hrun'
      obtain ⟨temp, final, hmem⟩ := hstored.1.2 hlast
      simp [Local.replied, hlog] at hmem
    · cases hrun.symm.trans hrun'
      subst hframe
      simp [Local.replied, Local.dropped, Local.called] at hsent
  · intro hlast
    refine ⟨_, hrun, ⟨_, rfl, .inl ⟨⟨⟨upload'.sftpFile, ?_⟩, fun h => absurd h hlast⟩, rfl⟩⟩, ?_⟩
    · simp [Local.replied, hlog]
    · simp [FailedIn, Local.replied, hlog]

end Answered

/-- **A chunk is answered**, unless it is not the last and its write fails, or its index is the
greatest there is. -/
theorem chunkAnswered_iff {η : Type} {H : Remote η} {S : Setup} {tn : Tunnel}
    {others : DashMap Key FileUpload → DashMap Key FileUpload} {chunk : SFTPUploadChunk}
    {msgId : Option UInt32} {w : Local η} :
    ChunkAnswered H S tn others chunk msgId w ↔
      ¬ IntermediateWriteFails H tn others chunk w ∧
        ¬ IndexOverflows S tn others chunk w.uploads := by
  have htop : chunk.chunkIndex = 0xFFFFFFFF ↔ 2 ^ 32 ≤ chunk.chunkIndex.toNat + 1 := by
    have hlt := chunk.chunkIndex.toNat_lt
    rw [← UInt32.toNat_inj]
    show _ = 2 ^ 32 - 1 ↔ _
    omega
  cases hentry : w.uploads.lookup (tn.cid, chunk.uploadId) with
  | none =>
      refine iff_of_true (chunk_unknown hentry) ⟨?_, ?_⟩
      · rintro ⟨upload, upload', err, hsome, -⟩
        rw [hentry] at hsome
        cases hsome
      · rintro ⟨-, upload, hsome, -⟩
        rw [hentry] at hsome
        cases hsome
  | some upload =>
  by_cases hchecks : 2 ^ 32 ≤ chunk.chunkIndex.toNat + 1 ∧ S.overflowChecks = true
  · refine iff_of_false (chunk_panics hentry hchecks) fun hok => hok.2 ?_
    exact ⟨htop.2 hchecks.1, upload, hentry, .inl hchecks.2⟩
  by_cases hnext : upload.totalChunks ≤ chunk.chunkIndex + 1
  · refine iff_of_true (chunk_last hentry hchecks hnext) ⟨?_, ?_⟩
    · rintro ⟨found, upload', err, hfound, hlt, -⟩
      cases hentry.symm.trans hfound
      exact hlt hnext
    · rintro ⟨hindex, found, hfound, hflow | ⟨hzero, -⟩⟩
      · exact hchecks ⟨htop.1 hindex, hflow⟩
      · cases hentry.symm.trans hfound
        rw [hindex] at hnext
        exact hzero (UInt32.le_zero_iff.1 hnext)
  cases hentry' : (others w.uploads).lookup (tn.cid, chunk.uploadId) with
  | none =>
      refine iff_of_true (chunk_forgotten hentry hchecks hnext hentry') ⟨?_, ?_⟩
      · rintro ⟨found, upload', err, -, -, hsome, -⟩
        cases hentry'.symm.trans hsome
      · rintro ⟨hindex, found, hfound, hflow | ⟨-, hsome⟩⟩
        · exact hchecks ⟨htop.1 hindex, hflow⟩
        · rw [hentry'] at hsome
          cases hsome
  | some upload' =>
  cases hwrite : (H.sftp w.host (.writeAll upload'.sftpFile chunk.data)).1 with
  | error err =>
      have hfails : IntermediateWriteFails H tn others chunk w :=
        ⟨upload, upload', err, hentry, hnext, hentry', hwrite⟩
      exact iff_of_false (chunk_write_fails hfails) fun hok => hok.1 hfails
  | ok u =>
      have hfails : ¬ IntermediateWriteFails H tn others chunk w := by
        rintro ⟨found, found', err, -, -, hfound', herr⟩
        cases hentry'.symm.trans hfound'
        cases hwrite.symm.trans herr
      rw [chunk_written hentry hchecks hnext hentry' hwrite, isLast_iff_top hentry hnext, ← htop]
      refine ⟨fun htop => ⟨hfails, fun hflow => htop hflow.1⟩, fun hok hindex => hok.2 ?_⟩
      refine ⟨hindex, upload, hentry, .inr ⟨?_, by rw [hentry']; rfl⟩⟩
      intro hzero
      exact hnext (hzero ▸ UInt32.zero_le)

/-- The first of two chunks, on a machine that refuses the write. -/
theorem intermediate_write_hangs :
    ¬ ChunkAnswered (fileHost [] 0 (fun _ => CHUNK_SIZE) fun _ => 0) (sample fun _ => 0) sampleTunnel
      id ⟨1, 0, 1, [104]⟩ (some 1)
      { Local.fresh with uploads :=
          (∅ : DashMap Key FileUpload).insert (77, 1) ⟨"a", "/d", 2, 2, 0, "/d/a.tmp", 0, 0⟩ } :=
  chunk_write_fails ⟨_, _, "read-only", rfl, by decide, rfl, rfl⟩

end Phirepass.Agent
