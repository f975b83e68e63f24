/-
# `Phirepass.Relay.Lookup` — which server the relay sends a browser to

The relay reads what the servers have written under `phirepass:`
(`Phirepass.Server.Redis`).  A browser names the node it wants and may name
the node's server as well.

    no server named    the key of the node is found by a scan, and its field
                       `server` is the answer
    server `s` named   the key `s` itself is read

An id by itself is no key of the servers, so naming the server never works
(`named_server_not_found`), and the browser is told 400
(`upstreamPeer_refuses`).
-/
import Phirepass.Server.Redis

namespace Phirepass.Relay

open Rust Rust.Redis Server

/-! ## `relay/src/db/redis.rs` -/

/-- `scan_keys`. -/
def scanKeys (conn : Conn) (key : String) : Except String (List String) := conn.scanMatch key

/-- `get_server`. -/
def getServer (conn : Conn) (key : String) : Except String (Option String) :=
  conn.hget key "server"

/-- `find_server_id_by_node_id`: the first key the scan yields. -/
def findServerIdByNodeId (conn : Conn) (nodeId : String) : Option String :=
  match scanKeys conn ("phirepass:users:" ++ "*" ++ (":nodes:" ++ nodeId)) with
  | .error _ | .ok [] => none
  | .ok (key :: _) => some key

/-- `get_user_server_by_node_id`. -/
def getUserServerByNodeId (conn : Conn) (nodeId : String) (serverId : Option String) :
    Except String String := do
  let id ← match serverId with
    | some id => .ok id
    | none =>
        match findServerIdByNodeId conn nodeId with
        | some id => .ok id
        | none => .error s!"fail to find server by node id {nodeId}"
  match ← getServer conn id with
  | some server => return server
  | none => .error s!"server not found for node {nodeId}"

/-! ## `relay/src/proxy.rs` -/

/-- `extract_protocols`; the header is absent, or its visible text. -/
def extractProtocols (secWebsocketProtocol : Option String) : Option String × Option String :=
  let protocols : List String := match secWebsocketProtocol with
    | some value =>
        ((value.toList.splitOn ',').map fun part => trim (String.ofList part)).filter
          fun part => part != ""
    | none => []
  (protocols[0]?, protocols[1]?)

structure RequestCtx where
  nodeId : Option String
  serverId : Option String

/-- `handle_proxy_web_ws`: the context to go on with, or the status to answer. -/
def handleProxyWebWs (secWebsocketProtocol : Option String) : Except Nat RequestCtx :=
  match extractProtocols secWebsocketProtocol with
  | (none, _) => .error 400
  | (some nodeId, serverId) => .ok ⟨some nodeId, serverId⟩

/-- `HttpPeer::new`. -/
structure HttpPeer where
  address : String × UInt16
  tls : Bool
  sni : String
  deriving DecidableEq, Repr

/-- `get_server_by_node_id`. -/
def getServerByNodeId (J : Json) (conn : Conn) (nodeId : String) (serverId : Option String) :
    Except String ServerIdentifier := do
  let server ← getUserServerByNodeId conn nodeId serverId
  match J.decodeServer server with
  | some server => return server
  | none => .error "failed to decode server"

/-- `upstream_peer`; its errors are statuses. -/
def upstreamPeer (J : Json) (conn : Conn) (ctx : RequestCtx) : Except Nat HttpPeer :=
  match ctx.nodeId with
  | none => .error 400
  | some nodeId =>
      match getServerByNodeId J conn nodeId ctx.serverId with
      | .ok server => .ok ⟨(server.privateIp, server.port), false, server.fqdn⟩
      | .error _ => .error 400

/-! ## No server named -/

section Unnamed

variable {J : Json} {ks : Keyspace} {conn : Conn} {userId n : Uuid} {server : String}

end Unnamed

/-! ## A server that is named -/

section Named

variable {J : Json} {ks : Keyspace} {conn : Conn}

/-- Nothing is under an id. -/
theorem getServer_display (hks : Written J ks) (hconn : conn.Answers ks) (s : Uuid)
    {found : Option String} (h : getServer conn s.display = .ok found) : found = none := by
  have hlookup : ks.lookup s.display = none := AList.lookup_eq_none.2 (hks.not_mem_display s)
  rw [hconn.hget _ _ _ h, Keyspace.hget, hlookup]
  rfl

/-- The relay finds no server under the id of one. -/
theorem getUserServer_named (hks : Written J ks) (hconn : conn.Answers ks) (nodeId : String)
    (s : Uuid) : ∃ err, getUserServerByNodeId conn nodeId (some s.display) = .error err := by
  unfold getUserServerByNodeId
  simp only [ok_bind]
  cases h : getServer conn s.display with
  | error err => exact ⟨err, rfl⟩
  | ok found =>
      rw [getServer_display hks hconn s h]
      exact ⟨_, rfl⟩

/-- A browser that names the server is refused, whatever it names. -/
theorem upstreamPeer_refuses (hks : Written J ks) (hconn : conn.Answers ks) (nodeId : String)
    (s : Uuid) : upstreamPeer J conn ⟨some nodeId, some s.display⟩ = .error 400 := by
  obtain ⟨err, herr⟩ := getUserServer_named hks hconn nodeId s
  simp only [upstreamPeer, getServerByNodeId, herr, error_bind]

/-- **On no content that servers write do the two ways agree on a server**: for no node and
no server does the one that reads the named server's key find it. -/
theorem named_server_not_found (hks : Written J ks) (hconn : conn.Answers ks) (n s : Uuid) :
    ¬ ∃ server, getUserServerByNodeId conn n.display (some s.display) = .ok server ∧
      getUserServerByNodeId conn n.display none = .ok server := by
  rintro ⟨server, hnamed, -⟩
  obtain ⟨err, herr⟩ := getUserServer_named hks hconn n.display s
  rw [herr] at hnamed
  cases hnamed

end Named

/-! ### One server and one node -/

def sampleServer : ServerIdentifier := ⟨1, "10.0.0.2", "203.0.113.9", 8080, "s1.local"⟩

def sampleNode : NodeRecord := ⟨10, 7, none, "host", 0⟩

/-- The texts of the sample; their strings need no escapes. -/
def sampleJson : Json where
  node record := "\x7b\"id\":\"" ++ record.id.display ++ "\",\"user_id\":\"" ++
    record.userId.display ++ "\",\"name\":null,\"hostname\":\"" ++ record.hostname ++
    "\",\"created_at\":\"1970-01-01T00:00:00Z\"\x7d"
  stats _ := ""
  server server := "\x7b\n  \"id\": \"" ++ server.id.display ++ "\",\n  \"private_ip\": \"" ++
    server.privateIp ++ "\",\n  \"public_ip\": \"" ++ server.publicIp ++ "\",\n  \"port\": " ++
    toString server.port.toNat ++ ",\n  \"fqdn\": \"" ++ server.fqdn ++ "\"\n\x7d"
  decodeServer _ := some sampleServer

/-- The server has saved itself, and its node has connected. -/
def sampleContent : Keyspace :=
  (Keyspace.applyAll ∅ (Update.commands sampleJson (.saveServer 1 (sampleJson.server sampleServer)
    "\x7b\"connections\":0,\"nodes\":0,\"sessions\":0\x7d"))).applyAll
    (Update.commands sampleJson (.memoryOp sampleServer (.setNodeConnected sampleNode)))

theorem sampleContent_written : Written sampleJson sampleContent :=
  Written.applyAll (fun _ hc => hc) (Written.applyAll (fun _ hc => hc) .empty)

theorem named_server_not_found_of_sample :
    ¬ ∃ server,
      getUserServerByNodeId (.over sampleContent) (Uuid.display 10) (some (Uuid.display 1)) =
        .ok server ∧
      getUserServerByNodeId (.over sampleContent) (Uuid.display 10) none = .ok server :=
  named_server_not_found sampleContent_written (Conn.over_answers _) 10 1

/-- The node is found by itself, and not when its server is named. -/
theorem named_server_fails :
    getUserServerByNodeId (.over sampleContent) (Uuid.display 10) none =
        .ok (sampleJson.server sampleServer) ∧
      getUserServerByNodeId (.over sampleContent) (Uuid.display 10) (some (Uuid.display 1)) =
        .error "server not found for node 00000000-0000-0000-0000-00000000000a" := by
  decide +kernel

end Phirepass.Relay
