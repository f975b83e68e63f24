/-
# `Phirepass.Agent.Tunnel` — the tasks `start_ssh_tunnel` and `start_sftp_tunnel` spawn

`SSHConnection::connect` and `SFTPConnection::connect` with what the spawned
task does with their result.  The SSH one reports the tunnel open once the
shell is there, the SFTP one first of all; a failure on the way is reported
by session id, open or not.
-/
import Phirepass.Agent.Sftp

namespace Phirepass.Agent

open Rust Interleave

/-- `connect` returns, which drops its `cmd_rx`. -/
def dropStdin (t : Nat) : Protocol → Action Unit
  | .ssh => call (.sshStdin (.close t))
  | .sftp => call (.sftpStdin (.close t))

/-- The end of the spawned task: `TunnelClosed`, or the error. -/
def endTunnel (t : Nat) (tunnel : Tunnel) (res : Except String Unit) : Action Label := do
  dropStdin t tunnel.protocol
  match res with
  | .ok () =>
      sendFrameData tunnel.conn
        (.tunnelClosed tunnel.protocol.toU8 tunnel.cid tunnel.sid tunnel.msgId)
  | .error err =>
      sendFrameData tunnel.conn
        (.webFrame (.error .generic err tunnel.msgId) (.sessionId tunnel.sid))
  call .finish
  return .done

/-- `NodeFrameData::TunnelOpened` for the tunnel. -/
def reportOpened (tunnel : Tunnel) : Action Unit :=
  sendFrameData tunnel.conn (.tunnelOpened tunnel.protocol.toU8 tunnel.cid tunnel.sid tunnel.msgId)

/-- An error of `russh`, as `AgentError` displays it. -/
def russhError (err : String) : String := s!"russh error: {err}"

/-- `create_client`; `failed` is the message of a refused login. -/
def createClient (t : Nat) (tunnel : Tunnel) (failed : String) : Action (Except String Unit) := do
  match ← call (.ssh t (.connect tunnel.config)) with
  | .error err => return .error (russhError err)
  | .ok () =>
  match ← call (.ssh t (.authenticate tunnel.config.credentials)) with
  | .error err => return .error (russhError err)
  | .ok true => return .ok ()
  | .ok false => return .error failed

/-- The three steps of `SSHConnection::connect` on a fresh client. -/
def openShell (t : Nat) : Action (Except String Unit) := do
  match ← call (.ssh t .channelOpenSession) with
  | .error err => return .error (russhError err)
  | .ok () =>
  match ← call (.ssh t .requestPty) with
  | .error err => return .error (russhError err)
  | .ok () =>
  match ← call (.ssh t .requestShell) with
  | .error err => return .error (russhError err)
  | .ok () => return .ok ()

/-- `SSHConnection::connect`, up to its loop. -/
def sshConnect (t : Nat) (tunnel : Tunnel) : Action Label := do
  match ← createClient t tunnel "SSH authentication failed" with
  | .error err => endTunnel t tunnel (.error err)
  | .ok () =>
  match ← openShell t with
  | .error err => endTunnel t tunnel (.error err)
  | .ok () =>
      reportOpened tunnel
      return .sshLoop t tunnel

/-- `SSHConnection::connect`, after its loop. -/
def sshClose (t : Nat) (tunnel : Tunnel) : Action Label := do
  let _ ← call (.ssh t .close)
  match ← call (.ssh t .disconnect) with
  | .error err => endTunnel t tunnel (.error (russhError err))
  | .ok () => endTunnel t tunnel (.ok ())

/-- `send_tunnel_data`. -/
def sendTunnelData (S : Setup) (tunnel : Tunnel) (data : Bytes) : Action Unit :=
  sendFrameData tunnel.conn
    (.webFrame (.tunnelData Protocol.ssh.toU8 S.nodeId.display tunnel.sid data)
      (.sessionId tunnel.sid))

/-- One turn of the loop of `SSHConnection::connect`. -/
def sshTurn (S : Setup) (t : Nat) (tunnel : Tunnel) : Action Label := do
  match ← call (.select t) with
  | .shutdown => sshClose t tunnel
  | .ssh (.data buf) =>
      match ← call (.ssh t (.data buf)) with
      | .error _ => sshClose t tunnel
      | .ok () => return .sshLoop t tunnel
  | .ssh (.resize cols rows pxWidth pxHeight) =>
      let _ ← call (.ssh t (.windowChange cols rows pxWidth pxHeight))
      return .sshLoop t tunnel
  | .message none => sshClose t tunnel
  | .message (some (.data data)) =>
      sendTunnelData S tunnel data
      return .sshLoop t tunnel
  | .message (some (.exitStatus _)) =>
      let _ ← call (.ssh t .eof)
      sshClose t tunnel
  | .message (some .eof) | .message (some .close) => sshClose t tunnel
  | .message (some .other) => return .sshLoop t tunnel
  -- not a branch of this `select!`
  | .sftp _ => return .sshLoop t tunnel

/-- The steps of `SFTPConnection::connect` on a fresh client. -/
def openSftp (t : Nat) : Action (Except String Unit) := do
  match ← call (.ssh t .channelOpenSession) with
  | .error err => return .error (russhError err)
  | .ok () =>
  match ← call (.ssh t .requestSubsystem) with
  | .error err => return .error (russhError err)
  | .ok () =>
  match ← call (.ssh t .newSftpSession) with
  | .error err => return .error s!"russh sftp error: {err}"
  | .ok () => return .ok ()

/-- `SFTPConnection::connect`, up to its loop. -/
def sftpConnect (t : Nat) (tunnel : Tunnel) : Action Label := do
  reportOpened tunnel
  match ← createClient t tunnel "SFTP authentication failed" with
  | .error err => endTunnel t tunnel (.error err)
  | .ok () =>
  match ← openSftp t with
  | .error err => endTunnel t tunnel (.error err)
  | .ok () => return .sftpLoop t tunnel

/-- `SFTPConnection::connect`, after its loop. -/
def sftpClose (t : Nat) (tunnel : Tunnel) : Action Label := do
  match ← call (.ssh t .disconnect) with
  | .error err => endTunnel t tunnel (.error (russhError err))
  | .ok () => endTunnel t tunnel (.ok ())

/-- One command of the loop of `SFTPConnection::connect`. -/
def sftpCommand (S : Setup) (t : Nat) (tunnel : Tunnel) : SFTPCommand → Action Label
  | .list path msgId => do
      sendDirectoryListing tunnel path msgId
      return .sftpLoop t tunnel
  | .downloadStart download msgId => do
      let now ← call .now
      let start ← call (.downloads tunnel.conn .keys)
      return .sweepDownloads (.start t tunnel now download msgId) start [] []
  | .downloadChunk chunk msgId => do
      downloadFileChunk S tunnel msgId chunk.downloadId chunk.chunkIndex
      return .sftpLoop t tunnel
  | .uploadStart upload msgId => do
      let now ← call .now
      let start ← call (.uploads tunnel.conn .keys)
      return .sweepUploads (.start t tunnel now upload msgId) start [] []
  | .upload chunk msgId => do
      uploadFileChunk tunnel chunk msgId
      return .sftpLoop t tunnel
  | .delete data msgId => do
      let start ← call (.uploads tunnel.conn .keys)
      return .retainUploads t tunnel data msgId start []

/-- One turn of the loop of `SFTPConnection::connect`. -/
def sftpTurn (S : Setup) (t : Nat) (tunnel : Tunnel) : Action Label := do
  match ← call (.select t) with
  | .shutdown => sftpClose t tunnel
  | .sftp cmd => sftpCommand S t tunnel cmd
  -- not branches of this `select!`
  | .ssh _ | .message _ => return .sftpLoop t tunnel

/-- One turn of `uploads.retain` in `delete_file`, and the rest of it once the walk ends. -/
def retainUploads (t : Nat) (tunnel : Tunnel) (data : SFTPDelete) (msgId : Option UInt32)
    (start visited : List Key) : Action Label := do
  match ← call (.uploads tunnel.conn (.next start visited)) with
  | some (key, _) =>
      let _ ← call (.uploads tunnel.conn (.removeIf key (cancels tunnel data key)))
      return .retainUploads t tunnel data msgId start (key :: visited)
  | none =>
      removeFile tunnel data msgId
      return .sftpLoop t tunnel

/-- A tunnel task, once spawned. -/
def runTunnel (t : Nat) : Action Label := do
  let tunnel ← call (.begin t)
  match tunnel.protocol with
  | .ssh => sshConnect t tunnel
  | .sftp => sftpConnect t tunnel

end Phirepass.Agent
