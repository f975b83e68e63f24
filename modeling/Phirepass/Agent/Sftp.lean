/-
# `Phirepass.Agent.Sftp` — `agent/src/sftp/actions`

The commands an SFTP tunnel carries out, with every reply they send.  All of
them answer by session id, and address transfers by the tunnel's own
connection id together with an id that the client names.

`chunk_index + 1` is a plain `u32` addition, made on every upload chunk and,
where `debug!` is enabled, on every download chunk.
-/
import Phirepass.Agent.Exec

namespace Phirepass.Agent

open Rust Interleave

/-- A path that ends in a panic. -/
def panic {α : Type} (message : String) : Action α := do
  let never ← call (.panic message)
  nomatch never

/-- `a + b` for `u32`: where it overflows the profile decides between a panic and wrapping. -/
def addU32 (a b : UInt32) : Action UInt32 := do
  if a.toNat + b.toNat < 2 ^ 32 then return a + b
  else
    call .overflow
    return a + b

/-- `send_frame_data`: dropped if the queue is full or closed. -/
def sendFrameData (k : Nat) (data : NodeFrameData) : Action Unit := do
  let _ ← call (.out (.trySend k data))
  return

/-- `tx.send(WebFrame { frame, id: SessionId(sid) }).await`, the outcome ignored. -/
def reply (tunnel : Tunnel) (frame : WebFrameData) : Action Unit := do
  let _ ← call (.out (.send tunnel.conn (.webFrame frame (.sessionId tunnel.sid))))
  return

/-- A reply with `WebFrameData::Error`. -/
def replyError (tunnel : Tunnel) (message : String) (msgId : Option UInt32) : Action Unit :=
  reply tunnel (.error .generic message msgId)

/-- The path of a file in a directory, as `start_upload`, `upload_file_chunk` and
`start_download` build it. -/
def filePath (directory filename : String) : String :=
  if endsWith directory '/' then directory ++ filename else directory ++ "/" ++ filename

/-! ## Listing -/

/-- The last of `Path::components`, as text. -/
def lastComponent (path : String) : Option String :=
  let parts := (path.toList.splitOn '/').map String.ofList
  match (parts.filter fun part => part != "" && part != ".").getLast? with
  | some part => some part
  | none =>
      match parts with
      | "" :: _ :: _ => some "/"
      | "." :: _ => some "."
      | _ => none

/-- One entry of a directory, as `list_dir` reports it. -/
def listItem (absPath : String) (entry : DirEntry) : SFTPListItem :=
  .mk entry.fileName absPath (if entry.isDir then .folder else .file) [] ⟨entry.size.getD 0⟩

/-- `list_dir`. -/
def listDir (path : String) : Action (Except String SFTPListItem) := do
  match ← call (.sftp (.canonicalize path)) with
  | .error err => return .error err
  | .ok absPath =>
  match ← call (.sftp (.metadata path)) with
  | .error err => return .error err
  | .ok size =>
  match ← call (.sftp (.readDir path)) with
  | .error err => return .error err
  | .ok entries =>
      return .ok (.mk ((lastComponent absPath).getD path) absPath .folder
        (entries.map (listItem absPath)) ⟨size.getD 0⟩)

/-- `send_directory_listing`. -/
def sendDirectoryListing (tunnel : Tunnel) (path : String) (msgId : Option UInt32) :
    Action Unit := do
  match ← listDir path with
  | .error err => replyError tunnel s!"Failed to list directory: {err}" msgId
  | .ok dir => reply tunnel (.sftpListItems dir.path tunnel.sid dir msgId)

/-! ## Downloads -/

/-- `((total_size as f64) / (CHUNK_SIZE as f64)).ceil() as u32`.  Below `2^53` all of it is
exact, and from there on the cast saturates. -/
def totalChunks (totalSize : UInt64) : UInt32 :=
  UInt32.ofNat (min ((totalSize.toNat + (CHUNK_SIZE - 1)) / CHUNK_SIZE) (2 ^ 32 - 1))

/-- `start_download`, after `cleanup_abandoned_downloads`. -/
def startDownload (tunnel : Tunnel) (download : SFTPDownloadStart) (msgId : Option UInt32) :
    Action Unit := do
  let path := filePath download.path download.filename
  match ← call (.sftp (.metadata path)) with
  | .error err => replyError tunnel s!"Failed to get file metadata: {err}" msgId
  | .ok size =>
  let totalSize := size.getD 0
  match ← call (.sftp (.open path)) with
  | .error err => replyError tunnel s!"Failed to open file: {err}" msgId
  | .ok file =>
  let downloadId ← call (.generateId tunnel.conn)
  let now ← call .now
  let _ ← call (.downloads tunnel.conn (.insert (tunnel.cid, downloadId)
    ⟨download.filename, totalSize, totalChunks totalSize, file, now, now⟩))
  reply tunnel (.sftpDownloadStartResponse tunnel.sid msgId
    ⟨downloadId, totalSize, totalChunks totalSize⟩)

/-- `download_file_chunk`. -/
def downloadFileChunk (S : Setup) (tunnel : Tunnel) (msgId : Option UInt32)
    (downloadId chunkIndex : UInt32) : Action Unit := do
  let key := (tunnel.cid, downloadId)
  match ← call (.downloads tunnel.conn (.get key)) with
  | none => replyError tunnel "Download not found or expired" msgId
  | some download =>
  let position := chunkIndex.toUInt64 * UInt64.ofNat CHUNK_SIZE
  match ← call (.sftp (.seek download.sftpFile position)) with
  | .error err =>
      replyError tunnel s!"Error seeking file: {err}" msgId
      let _ ← call (.downloads tunnel.conn (.remove key))
      return
  | .ok () =>
  match ← call (.sftp (.read download.sftpFile)) with
  | .error err =>
      replyError tunnel s!"Error reading file: {err}" msgId
      let _ ← call (.downloads tunnel.conn (.remove key))
      return
  | .ok bytes =>
  if bytes.isEmpty then
    -- end of the file
    let _ ← call (.downloads tunnel.conn (.remove key))
    return
  else
    let now ← call .now
    let _ ← call (.downloads tunnel.conn (.modify key fun d => { d with lastUpdated := now }))
    -- the arguments of `debug!` are computed only where it is enabled
    if S.debugLog then
      let _ ← addU32 chunkIndex 1
    reply tunnel (.sftpDownloadChunk tunnel.sid msgId
      ⟨downloadId, chunkIndex, UInt32.ofNat bytes.length, bytes⟩)

/-! ## Uploads -/

/-- `start_upload`, after `cleanup_abandoned_uploads`. -/
def startUpload (tunnel : Tunnel) (upload : SFTPUploadStart) (msgId : Option UInt32) :
    Action Unit := do
  let tempPath := filePath upload.remotePath upload.filename ++ ".tmp"
  match ← call (.sftp (.openWithFlags tempPath)) with
  | .error err => replyError tunnel s!"Failed to open file: {err}" msgId
  | .ok file =>
  let uploadId ← call (.generateId tunnel.conn)
  let now ← call .now
  let _ ← call (.uploads tunnel.conn (.insert (tunnel.cid, uploadId)
    ⟨upload.filename, upload.remotePath, upload.totalChunks, upload.totalSize, file, tempPath, now,
      now⟩))
  reply tunnel (.sftpUploadStartResponse tunnel.sid msgId ⟨uploadId⟩)

/-- The last chunk: write, close, rename. -/
def finishUpload (tunnel : Tunnel) (chunk : SFTPUploadChunk) (msgId : Option UInt32) :
    Action Unit := do
  match ← call (.uploads tunnel.conn (.remove (tunnel.cid, chunk.uploadId))) with
  | none => replyError tunnel "File upload not found for final chunk" msgId
  | some upload =>
  match ← call (.sftp (.writeAll upload.sftpFile chunk.data)) with
  | .error err => replyError tunnel s!"Failed to write final chunk: {err}" msgId
  | .ok () =>
  match ← call (.sftp (.rename upload.tempPath (filePath upload.remotePath upload.filename))) with
  | .error err => replyError tunnel s!"Failed to rename file: {err}" msgId
  | .ok () => reply tunnel (.sftpUploadChunkAck tunnel.sid chunk.uploadId chunk.chunkIndex)

/-- Any other chunk: write and go on. -/
def continueUpload (tunnel : Tunnel) (chunk : SFTPUploadChunk) (msgId : Option UInt32) :
    Action Unit := do
  let key := (tunnel.cid, chunk.uploadId)
  match ← call (.uploads tunnel.conn (.get key)) with
  | none => replyError tunnel s!"Upload ID {chunk.uploadId.toNat} not found" msgId
  | some upload =>
  match ← call (.sftp (.writeAll upload.sftpFile chunk.data)) with
  | .error err =>
      let _ ← call (.uploads tunnel.conn (.remove key))
      replyError tunnel s!"Failed to write chunk: {err}" msgId
  | .ok () =>
      let now ← call .now
      let _ ← call (.uploads tunnel.conn (.modify key fun u => { u with lastUpdated := now }))
      reply tunnel (.sftpUploadChunkAck tunnel.sid chunk.uploadId chunk.chunkIndex)

/-- `upload_file_chunk`. -/
def uploadFileChunk (tunnel : Tunnel) (chunk : SFTPUploadChunk) (msgId : Option UInt32) :
    Action Unit := do
  match ← call (.uploads tunnel.conn (.get (tunnel.cid, chunk.uploadId))) with
  | none => replyError tunnel s!"Upload ID {chunk.uploadId.toNat} not found" msgId
  | some upload =>
      let next ← addU32 chunk.chunkIndex 1
      if upload.totalChunks ≤ next then finishUpload tunnel chunk msgId
      else continueUpload tunnel chunk msgId

/-! ## Deleting -/

/-- The path `delete_file` builds. -/
def deletePath (data : SFTPDelete) : String :=
  trimEndMatches (data.path ++ if endsWith data.path '/' then "" else "/") '/' ++ "/" ++
    data.filename

/-- Whether `uploads.retain` in `delete_file` drops the upload. -/
def cancels (tunnel : Tunnel) (data : SFTPDelete) (key : Key) (upload : FileUpload) : Bool :=
  key.1 == tunnel.cid && upload.tempPath == deletePath data ++ ".tmp"

/-- `delete_file`, after `uploads.retain`. -/
def removeFile (tunnel : Tunnel) (data : SFTPDelete) (msgId : Option UInt32) : Action Unit := do
  match ← call (.sftp (.removeFile (deletePath data))) with
  | .ok () => return
  | .error err => replyError tunnel s!"Failed to delete file: {err}" msgId

/-! ## Abandoned transfers -/

/-- `TIMEOUT` of the two cleanups, 15 minutes. -/
def TRANSFER_TIMEOUT : Int := 900000

/-- Not touched for longer than the timeout; kept if the clock went back. -/
def isAbandoned (now lastUpdated : Time) : Bool := decide (TRANSFER_TIMEOUT < now - lastUpdated)

end Phirepass.Agent
