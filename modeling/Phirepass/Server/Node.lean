/-
# `Phirepass.Server.Node` — `server/src/node.rs`

An agent's socket: log in with a node token, register in `nodes`, then a loop
over its messages, then `disconnect_node`.  The registry is keyed by the node
id alone, so a second socket of the same node replaces the first one's entry
and the first one's cleanup removes the second one's.

`TunnelOpened`, `TunnelClosed` and `WebFrame` with a `ConnectionId` take the
recipient from the agent's frame; `WebFrame` with a `SessionId` looks it up.
-/
import Phirepass.Server.Http

namespace Phirepass.Server

open Rust Interleave

/-! ## Login -/

/-- Send `AuthResponse`; `res` is the outcome unless the channel is closed. -/
def authResponse (S : Setup) (tx : Nat) (nodeId : Uuid) (success : Bool)
    (res : Except String Uuid)
    (unsent : String := "failed to send auth response: channel closed") :
    Action (Except String Uuid) := do
  if ← call (.node (.send tx (.authResponse nodeId success S.version))) then return res
  else return .error unsent

/-- The `NodeFrameData::Auth` arm of `wait_for_auth`. -/
def handleNodeAuth (S : Setup) (tx : Nat) (token : String) (nodeId : Uuid) :
    Action (Except String Uuid) := do
  match ← authenticateNodeJwt token with
  | .error err =>
      authResponse S tx Uuid.nil false
        (.error s!"jwt authentication failed for node {nodeId.display}: {err}")
        "failed to send auth response after jwt failure: channel closed"
  | .ok authId =>
  if authId ≠ nodeId then
    authResponse S tx authId false
      (.error s!"jwt node mismatch: frame node {nodeId.display}, token node {authId.display}")
  else
  match ← call (.db (.getNodeClaimByIdOptional authId)) with
  | .ok (some nodeClaim) =>
      if nodeClaim.revoked then
        authResponse S tx authId false (.error s!"node {nodeId.display} is revoked")
      else authResponse S tx authId true (.ok nodeId)
  | .ok none => authResponse S tx authId false (.error s!"node {nodeId.display} does not exist")
  | .error err =>
      authResponse S tx authId false
        (.error s!"failed to load node {nodeId.display} during websocket auth: {err}")
        "failed to send auth response after db error: channel closed"

/-- `wait_for_auth`. -/
def nodeWaitForAuth (S : Setup) (tx : Nat) : Action (Except String Uuid) := do
  match ← call (.ws .next) with
  | none => return .error "connection closed before auth"
  | some (.error ()) => return .error "websocket error"
  | some (.ok .close) => return .error "connection closed before auth"
  | some (.ok .other) => return .error "expected binary message for auth"
  | some (.ok (.binary (.error _))) => return .error "malformed frame"
  | some (.ok (.binary (.ok ⟨_, _, .web _⟩))) =>
      return .error "expected node frame for auth, got web frame"
  | some (.ok (.binary (.ok ⟨_, _, .node nodeFrame⟩))) =>
      match nodeFrame with
      | .auth token nodeId _ => handleNodeAuth S tx token nodeId
      | _ => return .error "expected Auth as first message"

/-! ## Frames from a node -/

/-- `handle_frame_response`. -/
def handleFrameResponse (nodeId : Uuid) (frame : WebFrameData) (id : WebFrameId) :
    Action Unit := do
  match id with
  | .connectionId cid =>
      let _ ← notifyClientByCid cid frame
      return
  | .sessionId sid =>
      match ← getConnectionIdBySid sid nodeId with
      | .error _ => return
      | .ok cid =>
          let _ ← notifyClientByCid cid frame
          return

/-- `handle_tunnel_closed`. -/
def handleTunnelClosed (nodeId : Uuid) (protocol : UInt8) (cid : Uuid) (sid : UInt32)
    (msgId : Option UInt32) : Action Unit := do
  let _ ← call (.tunnelSessions (.remove ⟨nodeId, sid⟩))
  let _ ← notifyClientByCid cid (.tunnelClosed protocol sid msgId)
  return

/-- `handle_tunnel_opened`. -/
def handleTunnelOpened (nodeId : Uuid) (protocol : UInt8) (cid : Uuid) (sid : UInt32)
    (msgId : Option UInt32) : Action Unit := do
  let _ ← call (.tunnelSessions (.insert ⟨nodeId, sid⟩ (cid, nodeId)))
  let _ ← notifyClientByCid cid (.tunnelOpened protocol sid msgId)
  return

/-- `now_millis`. -/
def nowMillis (now : Time) : UInt64 := UInt64.ofNat now.toNat

/-- `NodeConnection::get_extended_stats` at the time `now`. -/
def NodeConnection.getExtendedStats (info : NodeConnection) (latency : UInt64) (now : Time) :
    Except String ExtendedStats := do
  let connectedFor ← durationSince now info.node.connectedAt
  let sinceLast ← durationSince now info.node.lastHeartbeat
  return {
    id := info.nodeRecord.id
    name := info.nodeRecord.name.getD info.nodeRecord.hostname
    ip := info.node.ip
    latency := latency
    serverId := info.serverId
    connectedForSecs := (connectedFor / 1000).toNat
    sinceLastHeartbeatSecs := (sinceLast / 1000).toNat
    stats := info.node.lastStats.map Stats.toJson }

/-- The entry after a heartbeat. -/
def NodeConnection.beat (stats : Stats) (now : Time) (info : NodeConnection) : NodeConnection :=
  { info with node := { info.node with lastStats := some stats, lastHeartbeat := now } }

/-- `handle_node_heartbeat`; `false` is its one error, an unregistered node. -/
def handleNodeHeartbeat (nodeId : Uuid) (stats : Stats) (sentAt : UInt64) : Action Bool := do
  match ← call (.nodes (.get nodeId)) with
  | none => return false
  | some info =>
      let now ← call .now
      let latency := saturatingSub (nowMillis now) sentAt
      let _ ← call (.node (.send info.tx (.heartbeatAck sentAt (nowMillis now))))
      let now ← call .now
      match info.getExtendedStats latency now with
      | .error _ => return true
      | .ok extendedStats =>
          if ← call (.memoryDb (.updateNodeStats info.nodeRecord extendedStats)) then
            let now ← call .now
            let _ ← call (.nodes (.modify nodeId (.beat stats now)))
            return true
          else return true

/-! ## The message loop -/

/-- The frames of an agent; `false` breaks the loop. -/
def handleNodeFrame (nodeId : Uuid) : NodeFrameData → Action Bool
  | .heartbeat stats sentAt => handleNodeHeartbeat nodeId stats sentAt
  | .tunnelOpened protocol cid sid msgId => do
      handleTunnelOpened nodeId protocol cid sid msgId; return true
  | .webFrame frame id => do handleFrameResponse nodeId frame id; return true
  | .tunnelClosed protocol cid sid msgId => do
      handleTunnelClosed nodeId protocol cid sid msgId; return true
  -- a second login and every other frame are logged and ignored
  | .auth .. | .heartbeatAck .. | .authResponse .. | .openTunnel .. | .tunnelData ..
  | .sshWindowResize .. | .sftpList .. | .sftpDownloadStart .. | .sftpDownloadChunkRequest ..
  | .sftpDownloadChunk .. | .sftpUploadStart .. | .sftpUpload .. | .sftpDelete ..
  | .connectionDisconnect .. => return true

/-- One turn of the loop in `handle_node_messages`. -/
def handleNodeMessages (k : Nat) (nodeId : Uuid) : Action Label := do
  match ← call (.ws .next) with
  | some (.ok (.binary (.ok ⟨_, _, .node nodeFrame⟩))) =>
      if ← handleNodeFrame nodeId nodeFrame then return .nodeMessages k nodeId
      else return .nodeClosing k nodeId
  | some (.ok .other) => return .nodeMessages k nodeId
  | none | some (.error ()) | some (.ok .close) | some (.ok (.binary (.error _)))
  | some (.ok (.binary (.ok ⟨_, _, .web _⟩))) => return .nodeClosing k nodeId

/-! ## The socket -/

/-- What `handle_node_socket` does when the login or the node record fails. -/
def rejectNodeSocket (k : Nat) : Action Label := do
  call (.ws .close)
  call (.node (.close k))
  call .finish
  return .done

/-- `handle_node_socket`, up to the message loop. -/
def handleNodeSocket (S : Setup) (k : Nat) : Action Label := do
  match ← nodeWaitForAuth S k with
  | .error _ => rejectNodeSocket k
  | .ok nodeId =>
      match ← call (.db (.getNodeById nodeId)) with
      | .error _ => rejectNodeSocket k
      | .ok nodeRecord =>
          let _ ← call (.memoryDb (.setNodeConnected nodeRecord))
          let now ← call .now
          let _ ← call (.nodes (.insert nodeId (.new S.id (S.nodeIp k) k nodeRecord now)))
          call (.nodeWriter (.spawn k))
          return .nodeMessages k nodeId

/-- `handle_node_socket` after the loop: stop the writer, then `disconnect_node`. -/
def closeNodeSocket (k : Nat) (nodeId : Uuid) : Action Label := do
  call (.nodeWriter (.abort k))
  match ← call (.nodes (.remove nodeId)) with
  | some info =>
      let _ ← call (.memoryDb (.setNodeDisconnected info.nodeRecord))
      let start ← call (.tunnelSessions .keys)
      return .nodeCollect k nodeId start [] []
  | none =>
      call .finish
      return .done

/-- The loop over `sessions_to_close`: its result is how many clients were notified. -/
def closeSessions : List (TunnelSessionKey × Uuid × Uuid) → UInt32 → Action UInt32
  | [], count => return count
  | (key, cid, _) :: rest, count => do
      let _ ← call (.tunnelSessions (.remove key))
      match ← notifyClientByCid cid (.tunnelClosed 0 key.sid none) with
      | .ok () => closeSessions rest (count + 1)
      | .error _ => closeSessions rest count

/-- One turn of the iteration that collects `sessions_to_close` in
`notify_all_clients_for_closed_tunnel`, and the rest of it once the iteration ends. -/
def notifyAllClientsForClosedTunnel (k : Nat) (nodeId : Uuid) (start visited : List TunnelSessionKey)
    (found : List (TunnelSessionKey × Uuid × Uuid)) : Action Label := do
  match ← call (.tunnelSessions (.next start visited)) with
  | some (key, value) =>
      if key.nodeId = nodeId then
        return .nodeCollect k nodeId start (key :: visited) (found ++ [(key, value)])
      else return .nodeCollect k nodeId start (key :: visited) found
  | none =>
      let _ ← closeSessions found 0
      call .finish
      return .done

/-- The write task, once spawned. -/
def startNodeWriter (k : Nat) : Action Label := do
  if ← call (.nodeWriter (.start k)) then return .nodeWriting k
  else
    call (.node (.close k))
    call .finish
    return .done

/-- One turn of the write task. -/
def nodeWrite (k : Nat) : Action Label := do
  match ← call (.node (.recv k)) with
  | some nodeFrame =>
      if ← call (.ws (.send (Frame.ofNode nodeFrame))) then return .nodeWriting k
      else
        call (.node (.close k))
        call .finish
        return .done
  | none =>
      call (.node (.close k))
      call .finish
      return .done

end Phirepass.Server
