/-
# `Phirepass.Server.Web` — `server/src/web.rs`

A browser's socket: log in, then a loop over its messages, then cleanup.
Ownership of a node is checked once, at login, for the node the `Auth` frame
names.  Every later frame names a node of its own: the eight data-plane
handlers look the tunnel up and check whose it is (`forwardToNode`);
`handle_web_open_tunnel` only checks that the node is connected.
-/
import Phirepass.Server.Http

namespace Phirepass.Server

open Rust Interleave

/-! ## Login -/

/-- `authenticate_web_jwt`. -/
def authenticateWebJwt (S : Setup) (token : String) : Action (Except String WebJwtClaims) := do
  match ← call (.decodeWebJwt token) with
  | .error err => return .error err
  | .ok claims =>
      match S.crates.parseUuid claims.sub with
      | .error err => return .error s!"invalid jwt sub claim: {err}"
      | .ok userId =>
          match ← call (.db (.userExists userId)) with
          | .error err => return .error err
          | .ok true => return .ok claims
          | .ok false => return .error "user not found"

/-- Send a login failure to the client, then fail. -/
def refuse {α : Type} (tx : Nat) (message : String) (msgId : Option UInt32)
    (unsent err : String) : Action (Except String α) := do
  if ← call (.web (.send tx (.error .authentication message msgId))) then return .error err
  else return .error unsent

/-- `validate_jwt`. -/
def validateJwt (S : Setup) (tx : Nat) (token : String) (msgId : Option UInt32) :
    Action (Except String WebJwtClaims) := do
  match ← authenticateWebJwt S token with
  | .ok claims => return .ok claims
  | .error err =>
      refuse tx "failed to validate token" msgId
        "failed to send auth response after auth failure: channel closed"
        s!"web jwt authentication failed: {err}"

/-- `validate_user_node`. -/
def validateUserNode (S : Setup) (tx : Nat) (claims : WebJwtClaims) (nodeId : String)
    (msgId : Option UInt32) : Action (Except String Unit) := do
  match S.crates.parseUuid claims.sub with
  | .error err => return .error s!"invalid jwt sub claim: {err}"
  | .ok userId =>
  match S.crates.parseUuid nodeId with
  | .error err => return .error s!"invalid node id: {err}"
  | .ok nodeId =>
  match ← call (.db (.getNodeById nodeId)) with
  | .error err =>
      refuse tx "failed to validate node ownership" msgId
        "failed to send node ownership validation error: channel closed"
        s!"failed to validate node ownership: {err}"
  | .ok node =>
      if node.userId ≠ userId then
        refuse tx "you do not own this node" msgId
          "failed to send node ownership error to client: channel closed"
          s!"user {userId.display} does not own node {nodeId.display}"
      else return .ok ()

/-- `successful_auth`. -/
def successfulAuth (tx : Nat) (cid : Uuid) (version : String) (msgId : Option UInt32) :
    Action (Except String Unit) := do
  if ← call (.web (.send tx (.authSuccess cid version msgId))) then return .ok ()
  else return .error "failed to send auth response: channel closed"

/-- The release-build checks of `wait_for_auth`; a debug build lets everyone in. -/
def checkAuth (S : Setup) (tx : Nat) (token nodeId : String) (msgId : Option UInt32) :
    Action (Except String Unit) := do
  if S.debugAssertions then return .ok ()
  else
    match ← validateJwt S tx token msgId with
    | .error err => return .error err
    | .ok claims => validateUserNode S tx claims nodeId msgId

/-- `wait_for_auth`. -/
def webWaitForAuth (S : Setup) (tx : Nat) : Action (Except String Uuid) := do
  match ← call (.ws .next) with
  | none => return .error "connection closed before auth"
  | some (.error ()) => return .error "websocket error"
  | some (.ok .close) => return .error "connection closed before auth"
  | some (.ok .other) => return .error "expected binary message for auth"
  | some (.ok (.binary (.error _))) => return .error "malformed frame"
  | some (.ok (.binary (.ok ⟨_, _, .node _⟩))) =>
      return .error "expected web frame for auth, got node frame"
  | some (.ok (.binary (.ok ⟨_, _, .web webFrame⟩))) =>
      match webFrame with
      | .auth token nodeId version msgId =>
          let cid ← call .newV4
          match ← checkAuth S tx token nodeId msgId with
          | .error err => return .error err
          | .ok () =>
              match ← successfulAuth tx cid version msgId with
              | .error err => return .error err
              | .ok () => return .ok cid
      | _ => return .error "expected Auth as first message"

/-! ## Frames for a node -/

/-- The body the eight data-plane handlers share: find the tunnel, check that it is the
sender's, find the node, send. -/
def forwardToNode (S : Setup) (cid : Uuid) (target : String) (sid : UInt32)
    (frame : NodeFrameData) : Action Unit := do
  match ← getNodeIdByCidAndSid S cid target sid with
  | .error _ => return
  | .ok nodeId =>
      match ← call (.nodes (.get nodeId)) with
      | none => return
      | some info =>
          let _ ← call (.node (.send info.tx frame))
          return

/-- `handle_web_tunnel_data`. -/
def handleWebTunnelData (S : Setup) (cid : Uuid) (protocol : UInt8) (sid : UInt32)
    (nodeId : String) (data : Bytes) : Action Unit :=
  forwardToNode S cid nodeId sid (.tunnelData protocol cid sid data)

/-- `handle_sftp_list`. -/
def handleSftpList (S : Setup) (cid : Uuid) (sid : UInt32) (target path : String)
    (msgId : Option UInt32) : Action Unit :=
  forwardToNode S cid target sid (.sftpList cid path sid msgId)

/-- `handle_sftp_download_start`. -/
def handleSftpDownloadStart (S : Setup) (cid : Uuid) (sid : UInt32) (target : String)
    (msgId : Option UInt32) (download : SFTPDownloadStart) : Action Unit :=
  forwardToNode S cid target sid (.sftpDownloadStart cid sid msgId download)

/-- `handle_sftp_download_chunk_request`. -/
def handleSftpDownloadChunkRequest (S : Setup) (cid : Uuid) (sid : UInt32) (target : String)
    (msgId : Option UInt32) (downloadId chunkIndex : UInt32) : Action Unit :=
  forwardToNode S cid target sid (.sftpDownloadChunkRequest cid sid msgId downloadId chunkIndex)

/-- `handle_sftp_upload_start`. -/
def handleSftpUploadStart (S : Setup) (cid : Uuid) (sid : UInt32) (target : String)
    (msgId : Option UInt32) (upload : SFTPUploadStart) : Action Unit :=
  forwardToNode S cid target sid (.sftpUploadStart cid sid msgId upload)

/-- `handle_sftp_upload`. -/
def handleSftpUpload (S : Setup) (cid : Uuid) (sid : UInt32) (target : String)
    (msgId : Option UInt32) (chunk : SFTPUploadChunk) : Action Unit :=
  forwardToNode S cid target sid (.sftpUpload cid sid msgId chunk)

/-- `handle_sftp_delete`. -/
def handleSftpDelete (S : Setup) (cid : Uuid) (sid : UInt32) (target : String)
    (msgId : Option UInt32) (data : SFTPDelete) : Action Unit :=
  forwardToNode S cid target sid (.sftpDelete cid sid msgId data)

/-- `handle_web_resize`. -/
def handleWebResize (S : Setup) (cid : Uuid) (sid : UInt32) (target : String)
    (cols rows pxWidth pxHeight : UInt32) : Action Unit :=
  forwardToNode S cid target sid (.sshWindowResize cid sid cols rows pxWidth pxHeight)

/-- `handle_web_open_tunnel`.  The target is any connected node. -/
def handleWebOpenTunnel (S : Setup) (cid : Uuid) (protocol : UInt8) (target : String)
    (msgId : Option UInt32) (username password : Option String) : Action Unit := do
  match S.crates.parseUuid target with
  | .error _ => return
  | .ok nodeId =>
      match ← call (.nodes (.get nodeId)) with
      | none =>
          let _ ← notifyClientByCid cid
            (.error .generic s!"Node[id={nodeId.display}] could not be found" msgId)
          return
      | some info =>
          let _ ← call (.node (.send info.tx (.openTunnel protocol cid username password msgId)))
          return

/-- What the data-plane frame of a client becomes on its way to the node: the target and the
session id to check, and the frame that is sent, which carries the sender's id. -/
def relayed (cid : Uuid) : WebFrameData → Option (String × UInt32 × NodeFrameData)
  | .tunnelData protocol nodeId sid data => some (nodeId, sid, .tunnelData protocol cid sid data)
  | .sshWindowResize nodeId sid cols rows pxWidth pxHeight =>
      some (nodeId, sid, .sshWindowResize cid sid cols rows pxWidth pxHeight)
  | .sftpList nodeId path sid msgId => some (nodeId, sid, .sftpList cid path sid msgId)
  | .sftpDownloadStart nodeId sid msgId download =>
      some (nodeId, sid, .sftpDownloadStart cid sid msgId download)
  | .sftpDownloadChunkRequest nodeId sid msgId downloadId chunkIndex =>
      some (nodeId, sid, .sftpDownloadChunkRequest cid sid msgId downloadId chunkIndex)
  | .sftpUploadStart nodeId sid msgId upload =>
      some (nodeId, sid, .sftpUploadStart cid sid msgId upload)
  | .sftpUpload nodeId sid msgId chunk => some (nodeId, sid, .sftpUpload cid sid msgId chunk)
  | .sftpDelete nodeId sid msgId data => some (nodeId, sid, .sftpDelete cid sid msgId data)
  | _ => none

theorem addressee_of_relayed {cid : Uuid} {f : WebFrameData} {target : String} {sid : UInt32}
    {g : NodeFrameData} (h : relayed cid f = some (target, sid, g)) :
    g.addressee = some (cid, sid) := by
  cases f <;> cases h <;> rfl

/-! ## The message loop -/

/-- `update_web_heartbeat`. -/
def updateWebHeartbeat (cid : Uuid) : Action Unit := do
  let now ← call .now
  let _ ← call (.connections (.modify cid fun info => { info with lastHeartbeat := now }))
  return

/-- The frames of a browser; `false` breaks the loop. -/
def handleWebFrame (S : Setup) (cid : Uuid) : WebFrameData → Action Bool
  | .heartbeat => do updateWebHeartbeat cid; return true
  | .openTunnel protocol target username password msgId => do
      handleWebOpenTunnel S cid protocol target msgId username password; return true
  | .tunnelData protocol nodeId sid data => do
      handleWebTunnelData S cid protocol sid nodeId data; return true
  | .sshWindowResize nodeId sid cols rows pxWidth pxHeight => do
      handleWebResize S cid sid nodeId cols rows pxWidth pxHeight; return true
  | .sftpList nodeId path sid msgId => do
      handleSftpList S cid sid nodeId path msgId; return true
  | .sftpDownloadStart nodeId sid msgId download => do
      handleSftpDownloadStart S cid sid nodeId msgId download; return true
  | .sftpDownloadChunkRequest nodeId sid msgId downloadId chunkIndex => do
      handleSftpDownloadChunkRequest S cid sid nodeId msgId downloadId chunkIndex; return true
  | .sftpUploadStart nodeId sid msgId upload => do
      handleSftpUploadStart S cid sid nodeId msgId upload; return true
  | .sftpUpload nodeId sid msgId chunk => do
      handleSftpUpload S cid sid nodeId msgId chunk; return true
  | .sftpDelete nodeId sid msgId data => do
      handleSftpDelete S cid sid nodeId msgId data; return true
  -- a second login, and everything only the server sends
  | .auth .. | .authSuccess .. | .tunnelOpened .. | .tunnelClosed .. | .sftpListItems ..
  | .sftpDownloadStartResponse .. | .sftpDownloadChunk .. | .sftpUploadStartResponse ..
  | .sftpUploadChunkAck .. | .error .. => return false

/-- The eight data-plane arms are one function. -/
theorem handleWebFrame_relayed {S : Setup} {cid : Uuid} {f : WebFrameData} {target : String}
    {sid : UInt32} {g : NodeFrameData} (h : relayed cid f = some (target, sid, g)) :
    handleWebFrame S cid f = (do forwardToNode S cid target sid g; return true) := by
  cases f <;> cases h <;> rfl

/-- One turn of the loop in `handle_web_messages`. -/
def handleWebMessages (S : Setup) (i : Nat) (cid : Uuid) : Action Label := do
  match ← call (.ws .next) with
  | some (.ok (.binary (.ok ⟨_, _, .web webFrame⟩))) =>
      if ← handleWebFrame S cid webFrame then return .webMessages i cid
      else return .webClosing i cid
  | some (.ok .other) => return .webMessages i cid
  | none | some (.error ()) | some (.ok .close) | some (.ok (.binary (.error _)))
  | some (.ok (.binary (.ok ⟨_, _, .node _⟩))) => return .webClosing i cid

/-! ## The socket -/

/-- `handle_web_socket`, up to the message loop. -/
def handleWebSocket (S : Setup) (i : Nat) : Action Label := do
  match ← webWaitForAuth S i with
  | .error _ =>
      call (.ws .close)
      call (.web (.close i))
      call .finish
      return .done
  | .ok cid =>
      let now ← call .now
      let _ ← call (.connections (.insert cid (.new (S.webIp i) i now)))
      let _ ← call (.memoryDb (.setConnectionConnected cid (S.webIp i)))
      call (.webWriter (.spawn i))
      return .webMessages i cid

/-- `handle_web_socket` after the loop: stop the writer, then `disconnect_web_client`. -/
def closeWebSocket (i : Nat) (cid : Uuid) : Action Label := do
  call (.webWriter (.abort i))
  match ← call (.connections (.remove cid)) with
  | some _ => let _ ← call (.memoryDb (.setConnectionDisconnected cid))
  | none => pure ()
  let start ← call (.nodes .keys)
  return .webNotify i cid start []

/-- One turn of `notify_nodes_client_disconnect`. -/
def notifyNodesClientDisconnect (i : Nat) (cid : Uuid) (start visited : List Uuid) :
    Action Label := do
  match ← call (.nodes (.next start visited)) with
  | some (nodeId, conn) =>
      let _ ← call (.node (.send conn.tx (.connectionDisconnect cid)))
      return .webNotify i cid start (nodeId :: visited)
  | none =>
      call .finish
      return .done

/-- The write task, once spawned. -/
def startWebWriter (i : Nat) : Action Label := do
  if ← call (.webWriter (.start i)) then return .webWriting i
  else
    call (.web (.close i))
    call .finish
    return .done

/-- One turn of the write task. -/
def webWrite (i : Nat) : Action Label := do
  match ← call (.web (.recv i)) with
  | some webFrame =>
      if ← call (.ws (.send (Frame.ofWeb webFrame))) then return .webWriting i
      else
        call (.web (.close i))
        call .finish
        return .done
  | none =>
      call (.web (.close i))
      call .finish
      return .done

end Phirepass.Server
