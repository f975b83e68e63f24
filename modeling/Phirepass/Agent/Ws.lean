/-
# `Phirepass.Agent.Ws` — `agent/src/ws.rs`

`handle_message` and the tasks of one connection.  An `OpenTunnel` draws a
session id, spawns the tunnel and enters it under `(cid, sid)`; the data-plane
frames are looked up under the `(cid, sid)` they carry and handed to that
tunnel's `stdin`.

`Protocol::try_from` does not return on an unknown protocol byte, and the two
`expect`s rest on `ensure_credentials` having accepted the frame.
-/
import Phirepass.Agent.Tunnel

namespace Phirepass.Agent

open Rust Interleave

/-! ## Opening a tunnel -/

/-- `send_requires_username_error`. -/
def sendRequiresUsernameError (k : Nat) (cid : Uuid) (msgId : Option UInt32) : Action Unit :=
  sendFrameData k
    (.webFrame (.error .requiresUsername "Username is missing" msgId) (.connectionId cid))

/-- `send_requires_password_error`. -/
def sendRequiresPasswordError (k : Nat) (cid : Uuid) (msgId : Option UInt32) : Action Unit :=
  sendFrameData k
    (.webFrame (.error .requiresPassword "Password is missing" msgId) (.connectionId cid))

/-- Absent, or nothing but white space. -/
def isBlank : Option String → Bool
  | none => true
  | some text => (trim text).isEmpty

/-- `ensure_credentials`. -/
def ensureCredentials (S : Setup) (k : Nat) (cid : Uuid) (username password : Option String)
    (msgId : Option UInt32) : Action (Except String Unit) := do
  if isBlank username then
    sendRequiresUsernameError k cid msgId
    return .error "received open tunnel without username"
  else
    match S.env.sshAuthMode with
    | .password =>
        if isBlank password then
          sendRequiresPasswordError k cid msgId
          return .error "received open tunnel without password"
        else return .ok ()
    | .none => return .ok ()

/-- `Option::expect`. -/
def expect {α : Type} (message : String) : Option α → Action α
  | some a => return a
  | none => panic message

/-- The credentials of the two `Ok` arms. -/
def configAuth (S : Setup) (username password : Option String) : Action ConfigAuth := do
  match S.env.sshAuthMode with
  | .password =>
      let username ← expect "username validated by ensure_credentials" username
      let password ← expect "password validated by ensure_credentials" password
      return .usernamePassword username password
  | .none =>
      let username ← expect "username validated by ensure_credentials" username
      return .username username

/-- `SessionHandle::shutdown`. -/
def shutdown (handle : SessionHandle) : Action Unit := call (.stop handle.task)

/-- The body `start_ssh_tunnel` and `start_sftp_tunnel` share. -/
def startTunnel (S : Setup) (k : Nat) (protocol : Protocol) (handle : Nat → SessionHandle)
    (cid : Uuid) (credentials : ConfigAuth) (msgId : Option UInt32) : Action Unit := do
  let sid ← call (.generateSessionId k)
  let t ← call (.spawnTunnel ⟨protocol, k, cid, sid,
    ⟨S.env.sshHost, S.env.sshPort, credentials, S.env.getSshInactivityDuration⟩, msgId⟩)
  match ← call (.sessions k (.insert (cid, sid) (handle t))) with
  | some prev => shutdown prev
  | none => return

/-- `start_ssh_tunnel`. -/
def startSshTunnel (S : Setup) (k : Nat) (cid : Uuid) (credentials : ConfigAuth)
    (msgId : Option UInt32) : Action Unit :=
  startTunnel S k .ssh .ssh cid credentials msgId

/-- `start_sftp_tunnel`. -/
def startSftpTunnel (S : Setup) (k : Nat) (cid : Uuid) (credentials : ConfigAuth)
    (msgId : Option UInt32) : Action Unit :=
  startTunnel S k .sftp .sftp cid credentials msgId

/-- The `OpenTunnel` arm of `handle_message`. -/
def openTunnel (S : Setup) (k : Nat) (protocol : UInt8) (cid : Uuid)
    (username password : Option String) (msgId : Option UInt32) : Action Unit := do
  match ← ensureCredentials S k cid username password msgId with
  | .error _ => return
  | .ok () =>
  match Protocol.tryFrom protocol with
  | .ok .sftp =>
      let auth ← configAuth S username password
      startSftpTunnel S k cid auth msgId
  | .ok .ssh =>
      let auth ← configAuth S username password
      startSshTunnel S k cid auth msgId
  | .error (.err _) => return
  | .error (.panic message) => panic message

/-! ## Data for a tunnel -/

/-- The body of the senders to an SSH tunnel. -/
def sendSsh (k : Nat) (cid : Uuid) (sid : UInt32) (cmd : SSHCommand) :
    Action (Except String Unit) := do
  match ← call (.sessions k (.get (cid, sid))) with
  | none => return .error s!"no session found for connection {cid.display}"
  | some (.sftp _) => return .error s!"no ssh tunnel found for connection {cid.display}"
  | some (.ssh t) =>
      if ← call (.sshStdin (.send t cmd)) then return .ok ()
      else return .error "channel closed"

/-- The body of the senders to an SFTP tunnel. -/
def sendSftp (k : Nat) (cid : Uuid) (sid : UInt32) (cmd : SFTPCommand) :
    Action (Except String Unit) := do
  match ← call (.sessions k (.get (cid, sid))) with
  | none => return .error s!"no session found for connection {cid.display}"
  | some (.ssh _) => return .error s!"no sftp tunnel found for connection {cid.display}"
  | some (.sftp t) =>
      if ← call (.sftpStdin (.send t cmd)) then return .ok ()
      else return .error "channel closed"

/-- `send_ssh_tunnel_data`. -/
def sendSshTunnelData (k : Nat) (cid : Uuid) (sid : UInt32) (data : Bytes) :
    Action (Except String Unit) := sendSsh k cid sid (.data data)

/-- `send_ssh_forward_resize`. -/
def sendSshForwardResize (k : Nat) (cid : Uuid) (sid cols rows pxWidth pxHeight : UInt32) :
    Action (Except String Unit) := sendSsh k cid sid (.resize cols rows pxWidth pxHeight)

/-- `send_sftp_list_data`. -/
def sendSftpListData (k : Nat) (cid : Uuid) (sid : UInt32) (path : String)
    (msgId : Option UInt32) : Action (Except String Unit) := sendSftp k cid sid (.list path msgId)

/-- `send_sftp_upload_start_data`. -/
def sendSftpUploadStartData (k : Nat) (cid : Uuid) (sid : UInt32) (msgId : Option UInt32)
    (upload : SFTPUploadStart) : Action (Except String Unit) :=
  sendSftp k cid sid (.uploadStart upload msgId)

/-- `send_sftp_upload_data`. -/
def sendSftpUploadData (k : Nat) (cid : Uuid) (sid : UInt32) (msgId : Option UInt32)
    (chunk : SFTPUploadChunk) : Action (Except String Unit) :=
  sendSftp k cid sid (.upload chunk msgId)

/-- `send_sftp_delete_data`. -/
def sendSftpDeleteData (k : Nat) (cid : Uuid) (sid : UInt32) (msgId : Option UInt32)
    (data : SFTPDelete) : Action (Except String Unit) := sendSftp k cid sid (.delete data msgId)

/-- `send_sftp_download_start_data`. -/
def sendSftpDownloadStartData (k : Nat) (cid : Uuid) (sid : UInt32) (msgId : Option UInt32)
    (download : SFTPDownloadStart) : Action (Except String Unit) :=
  sendSftp k cid sid (.downloadStart download msgId)

/-- `send_sftp_download_chunk_request`. -/
def sendSftpDownloadChunkRequest (k : Nat) (cid : Uuid) (sid : UInt32) (msgId : Option UInt32)
    (downloadId chunkIndex : UInt32) : Action (Except String Unit) :=
  sendSftp k cid sid (.downloadChunk ⟨downloadId, chunkIndex, 0, []⟩ msgId)

/-- `send_sftp_download_chunk_data`. -/
def sendSftpDownloadChunkData (k : Nat) (cid : Uuid) (sid : UInt32) (msgId : Option UInt32)
    (chunk : SFTPDownloadChunk) : Action (Except String Unit) :=
  sendSftp k cid sid (.downloadChunk chunk msgId)

/-! ## `handle_message` -/

/-- `now_millis`. -/
def nowMillis (now : Time) : UInt64 := UInt64.ofNat now.toNat

/-- Go on reading, whatever the outcome. -/
def andRead {α : Type} (k : Nat) (action : Action α) : Action Label := do
  let _ ← action
  return .reading k

/-- `handle_message`; the label is where the reader goes on. -/
def handleMessage (S : Setup) (k : Nat) : NodeFrameData → Action Label
  | .openTunnel protocol cid username password msgId =>
      andRead k (openTunnel S k protocol cid username password msgId)
  | .heartbeatAck _ _ => do
      let now ← call .now
      call (.storeHeartbeat k (nowMillis now))
      return .reading k
  | .connectionDisconnect cid => do
      let start ← call (.sessions k .keys)
      return .sweepSessions (.disconnect k cid) start [] []
  | .sshWindowResize cid sid cols rows pxWidth pxHeight =>
      andRead k (sendSshForwardResize k cid sid cols rows pxWidth pxHeight)
  | .tunnelData protocol cid sid data =>
      if protocol = Protocol.ssh.toU8 then andRead k (sendSshTunnelData k cid sid data)
      else return .reading k
  | .sftpList cid path sid msgId => andRead k (sendSftpListData k cid sid path msgId)
  | .sftpUploadStart cid sid msgId upload =>
      andRead k (sendSftpUploadStartData k cid sid msgId upload)
  | .sftpUpload cid sid msgId chunk => andRead k (sendSftpUploadData k cid sid msgId chunk)
  | .sftpDownloadStart cid sid msgId download =>
      andRead k (sendSftpDownloadStartData k cid sid msgId download)
  | .sftpDownloadChunkRequest cid sid msgId downloadId chunkIndex =>
      andRead k (sendSftpDownloadChunkRequest k cid sid msgId downloadId chunkIndex)
  | .sftpDownloadChunk cid sid msgId chunk =>
      andRead k (sendSftpDownloadChunkData k cid sid msgId chunk)
  | .sftpDelete cid sid msgId data => andRead k (sendSftpDeleteData k cid sid msgId data)
  -- "not implemented yet"
  | .heartbeat .. | .auth .. | .authResponse .. | .tunnelOpened .. | .tunnelClosed ..
  | .webFrame .. => return .reading k

/-! ## The tasks of a connection -/

/-- One of the four tasks ends. -/
def endTask (k : Nat) : Action Label := do
  call (.ended k)
  call .finish
  return .done

/-- One turn of `spawn_reader_task`. -/
def read (S : Setup) (k : Nat) : Action Label := do
  match ← call (.ws k .next) with
  | some (.ok (.binary (.ok ⟨_, _, .node data⟩))) => handleMessage S k data
  | some (.error ()) | some (.ok .other) => return .reading k
  | none | some (.ok .close) | some (.ok (.binary (.error _)))
  | some (.ok (.binary (.ok ⟨_, _, .web _⟩))) => endTask k

/-- One turn of the write task; a frame that cannot be sent is dropped. -/
def write (k : Nat) : Action Label := do
  match ← call (.out (.recv k)) with
  | some frame =>
      let _ ← call (.ws k (.send (Frame.ofNode frame)))
      return .writing k
  | none =>
      call (.out (.close k))
      endTask k

/-- `timeout_ms` of `spawn_heartbeat_task`. -/
def heartbeatTimeout (S : Setup) : UInt64 := S.env.statsRefreshInterval.toUInt64 * 1000 * 3

/-- One turn of `spawn_heartbeat_task`. -/
def beat (S : Setup) (k : Nat) : Action Label := do
  if ← call (.tick k) then
    let now ← call .now
    let last ← call (.loadHeartbeat k)
    if 0 < last && heartbeatTimeout S < saturatingSub (nowMillis now) last then
      call (.cancel k)
      endTask k
    else
      match ← call .stats with
      | none => return .beating k
      | some stats =>
          let now ← call .now
          sendFrameData k (.heartbeat stats (nowMillis now))
          return .beating k
  else endTask k

/-- One turn of `spawn_cleanup_task`. -/
def clean (k : Nat) : Action Label := do
  if ← call (.tick k) then
    let now ← call .now
    let start ← call (.uploads k .keys)
    return .sweepUploads (.cleanup k now) start [] []
  else endTask k

/-! ## Walks over the maps

`iter().filter(…).collect()`, one entry at a time, and then the removals. -/

def SessionSweep.conn : SessionSweep → Nat
  | .disconnect k _ | .teardown k => k

def SessionSweep.selects : SessionSweep → Key → Bool
  | .disconnect _ cid, key => key.1 == cid
  | .teardown _, _ => true

/-- Remove the sessions that were found, and shut them down. -/
def closeSessions (k : Nat) : List Key → Action Unit
  | [] => return
  | key :: rest => do
      match ← call (.sessions k (.remove key)) with
      | some handle => shutdown handle
      | none => pure ()
      closeSessions k rest

/-- What follows the closing of the sessions: the uploads. -/
def SessionSweep.after : SessionSweep → Action Label
  | .disconnect k cid => do
      let start ← call (.uploads k .keys)
      return .sweepUploads (.disconnect k cid) start [] []
  | .teardown k => do
      let start ← call (.uploads k .keys)
      return .sweepUploads (.teardown k) start [] []

/-- One turn of the walk in `close_tunnels_for_cid`, or at the end of `connect`. -/
def sweepSessions (why : SessionSweep) (start visited found : List Key) : Action Label := do
  match ← call (.sessions why.conn (.next start visited)) with
  | some (key, _) =>
      return .sweepSessions why start (key :: visited)
        (if why.selects key then found ++ [key] else found)
  | none =>
      closeSessions why.conn found
      why.after

def UploadSweep.conn : UploadSweep → Nat
  | .disconnect k _ | .teardown k | .cleanup k _ => k
  | .start _ tunnel _ _ _ => tunnel.conn

def UploadSweep.selects : UploadSweep → Key → FileUpload → Bool
  | .disconnect _ cid, key, _ => key.1 == cid
  | .teardown _, _, _ => true
  | .cleanup _ now, _, upload | .start _ _ now _ _, _, upload =>
      isAbandoned now upload.lastUpdated

/-- Remove the uploads that were found, and sync their files. -/
def closeUploads (k : Nat) : List Key → Action Unit
  | [] => return
  | key :: rest => do
      match ← call (.uploads k (.remove key)) with
      | some upload =>
          let _ ← call (.sftp (.syncAll upload.sftpFile))
      | none => pure ()
      closeUploads k rest

/-- What follows: the downloads, or the upload that was to be started. -/
def UploadSweep.after : UploadSweep → Action Label
  | .disconnect k cid => do
      let start ← call (.downloads k .keys)
      return .sweepDownloads (.disconnect k cid) start [] []
  | .teardown k => do
      let start ← call (.downloads k .keys)
      return .sweepDownloads (.teardown k) start [] []
  | .cleanup k _ => do
      let now ← call .now
      let start ← call (.downloads k .keys)
      return .sweepDownloads (.cleanup k now) start [] []
  | .start t tunnel _ upload msgId => do
      startUpload tunnel upload msgId
      return .sftpLoop t tunnel

/-- One turn of the walk in `close_uploads_for_cid`, `cleanup_abandoned_uploads`, or at the
end of `connect`. -/
def sweepUploads (why : UploadSweep) (start visited found : List Key) : Action Label := do
  match ← call (.uploads why.conn (.next start visited)) with
  | some (key, upload) =>
      return .sweepUploads why start (key :: visited)
        (if why.selects key upload then found ++ [key] else found)
  | none =>
      closeUploads why.conn found
      why.after

def DownloadSweep.conn : DownloadSweep → Nat
  | .disconnect k _ | .teardown k | .cleanup k _ => k
  | .start _ tunnel _ _ _ => tunnel.conn

def DownloadSweep.selects : DownloadSweep → Key → FileDownload → Bool
  | .disconnect _ cid, key, _ => key.1 == cid
  | .teardown _, _, _ => true
  | .cleanup _ now, _, download | .start _ _ now _ _, _, download =>
      isAbandoned now download.lastUpdated

/-- `close_downloads_for_cid` only drops the files. -/
def DownloadSweep.syncs : DownloadSweep → Bool
  | .disconnect _ _ => false
  | .teardown _ | .cleanup _ _ | .start _ _ _ _ _ => true

/-- Remove the downloads that were found. -/
def closeDownloads (k : Nat) (syncs : Bool) : List Key → Action Unit
  | [] => return
  | key :: rest => do
      match ← call (.downloads k (.remove key)) with
      | some download =>
          if syncs then
            let _ ← call (.sftp (.syncAll download.sftpFile))
      | none => pure ()
      closeDownloads k syncs rest

/-- What follows: the task's loop, the end of `connect`, or the download to be started. -/
def DownloadSweep.after : DownloadSweep → Action Label
  | .disconnect k _ => return .reading k
  | .teardown k => do
      call (.returned k)
      call .finish
      return .done
  | .cleanup k _ => return .cleaning k
  | .start t tunnel _ download msgId => do
      startDownload tunnel download msgId
      return .sftpLoop t tunnel

/-- One turn of the walk in `close_downloads_for_cid`, `cleanup_abandoned_downloads`, or at
the end of `connect`. -/
def sweepDownloads (why : DownloadSweep) (start visited found : List Key) : Action Label := do
  match ← call (.downloads why.conn (.next start visited)) with
  | some (key, download) =>
      return .sweepDownloads why start (key :: visited)
        (if why.selects key download then found ++ [key] else found)
  | none =>
      closeDownloads why.conn why.syncs found
      why.after

/-! ## `connect` -/

/-- `read_auth_response`; the answer is the node id the server sent. -/
def readAuthResponse (k : Nat) : Action (Except String Uuid) := do
  match ← call (.ws k .next) with
  | some (.ok (.binary (.ok ⟨_, _, .node (.authResponse nodeId success _)⟩))) =>
      if success then return .ok nodeId else return .error "failed to authenticate node"
  | some (.ok (.binary (.ok ⟨_, _, .node _⟩))) =>
      return .error "wrong frame type, expected NodeFrameData::Auth"
  | _ => return .error "failed to read auth response"

/-- `connect` fails before its tasks are spawned. -/
def giveUp (k : Nat) : Action Label := do
  call (.returned k)
  call .finish
  return .done

/-- `WebSocketConnection::connect`, up to its `select!`. -/
def connect (S : Setup) (k : Nat) : Action Label := do
  if ← call (.ws k .connect) then
    if ← call (.ws k (.send (Frame.ofNode (.auth (S.token k) S.nodeId S.version)))) then
      match ← readAuthResponse k with
      | .error _ => giveUp k
      | .ok nodeId =>
          if nodeId ≠ S.nodeId then giveUp k
          else
            call (.spawn k)
            return .connected k
    else giveUp k
  else giveUp k

/-- `WebSocketConnection::connect`, from its `select!` on. -/
def awaitEnd (k : Nat) : Action Label := do
  call (.wait k)
  call (.cancel k)
  let start ← call (.sessions k .keys)
  return .sweepSessions (.teardown k) start [] []

/-- One of the four tasks, once spawned. -/
def startTask (k : Nat) (next : Label) : Action Label := do
  call (.started k)
  return next

end Phirepass.Agent
