/-
# `Phirepass.Server.State` — what the server's tasks share, and the commands on it

The server is one process: a task per web socket and per node socket, a
writer task for each, the HTTP requests, and a periodic cleanup.  They share
the three registries of `AppState` (`nodes`, `connections`,
`tunnel_sessions`), Postgres, Redis and the channels between a handler and
its writer.  This module gives that state and the atomic commands through
which a task touches it; every `.await` of the source stands between two
commands, so any other task may run there.

Crates that are not part of the repository (`uuid`, `jsonwebtoken`,
`ed25519_dalek`, `base64`) appear as the functions of `Crates`.

A run is meant from the deployment of the database on: the requests of every
server process that shared it are among the requests of the run, so the
challenge table starts empty and every token in use was issued in the run.
-/
import Phirepass.Interleave.Pool
import Phirepass.Protocol.Stats
import Phirepass.Rust.Channel
import Phirepass.Rust.Map

namespace Phirepass.Server

open Rust Interleave

/-- Milliseconds since the epoch: `SystemTime` and `DateTime<Utc>`. -/
abbrev Time : Type := Int

abbrev IpAddr : Type := String

/-! ## Postgres -/

/-- A row of the table `nodes`. -/
structure NodeRow where
  id : Uuid
  userId : Uuid
  publicKey : String
  name : Option String
  hostname : String
  createdAt : Time
  lastSeen : Option Time
  revoked : Bool
  deriving DecidableEq, Repr

structure NodeRecord where
  id : Uuid
  userId : Uuid
  name : Option String
  hostname : String
  createdAt : Time
  deriving DecidableEq, Repr

structure NodeClaimRecord where
  id : Uuid
  userId : Uuid
  publicKey : String
  hostname : String
  createdAt : Time
  lastSeen : Option Time
  revoked : Bool
  deriving DecidableEq, Repr

/-- The columns `get_node_by_id` selects. -/
def NodeRow.toRecord (row : NodeRow) : NodeRecord :=
  ⟨row.id, row.userId, row.name, row.hostname, row.createdAt⟩

/-- The columns `get_node_claim_by_id` selects. -/
def NodeRow.toClaim (row : NodeRow) : NodeClaimRecord :=
  ⟨row.id, row.userId, row.publicKey, row.hostname, row.createdAt, row.lastSeen, row.revoked⟩

structure AuthChallengeRecord where
  nodeId : Uuid
  challenge : String
  expiresAt : Time
  deriving DecidableEq, Repr

/-- The tables the server reads and writes.  `auth_challenges` has one row per node. -/
structure Database where
  nodes : DashMap Uuid NodeRow
  users : List Uuid
  authChallenges : DashMap Uuid AuthChallengeRecord

/-- The clock and the tables that other services write. -/
structure Surroundings where
  clock : Time
  rows : DashMap Uuid NodeRow
  users : List Uuid

/-- The statements of `db/postgres.rs`, each atomic. -/
inductive DbOp where
  | getNodeById (nodeId : Uuid)
  | getNodeClaimById (nodeId : Uuid)
  | getNodeClaimByIdOptional (nodeId : Uuid)
  | userExists (userId : Uuid)
  | upsertAuthChallenge (nodeId : Uuid) (challenge : String) (expiresAt : Time)
  | getAuthChallenge (nodeId : Uuid) (challenge : String)
  | consumeAuthChallenge (nodeId : Uuid) (challenge : String)
  | touchNodeLastSeen (nodeId : Uuid)

@[reducible] def DbOp.Resp : DbOp → Type
  | .getNodeById _ => Except String NodeRecord
  | .getNodeClaimById _ => Except String NodeClaimRecord
  | .getNodeClaimByIdOptional _ => Except String (Option NodeClaimRecord)
  | .userExists _ => Except String Bool
  | .upsertAuthChallenge _ _ _ | .consumeAuthChallenge _ _ | .touchNodeLastSeen _ =>
      Except String Unit
  | .getAuthChallenge _ _ => Except String (Option AuthChallengeRecord)

/-! ## The registries -/

/-- `common::node::Node`. -/
structure Node where
  connectedAt : Time
  lastHeartbeat : Time
  ip : IpAddr
  lastStats : Option Stats
  deriving DecidableEq, Repr

/-- `NodeConnection`; the sender `tx` is the number of the socket it feeds. -/
structure NodeConnection where
  node : Node
  tx : Nat
  nodeRecord : NodeRecord
  serverId : Uuid
  deriving DecidableEq, Repr

/-- `NodeConnection::new` at the time `now`. -/
def NodeConnection.new (serverId : Uuid) (ip : IpAddr) (tx : Nat) (nodeRecord : NodeRecord)
    (now : Time) : NodeConnection :=
  ⟨⟨now, now, ip, none⟩, tx, nodeRecord, serverId⟩

structure WebConnection where
  connectedAt : Time
  lastHeartbeat : Time
  ip : IpAddr
  tx : Nat
  deriving DecidableEq, Repr

/-- `WebConnection::new` at the time `now`. -/
def WebConnection.new (ip : IpAddr) (tx : Nat) (now : Time) : WebConnection := ⟨now, now, ip, tx⟩

/-- `TunnelSessionKey`. -/
structure TunnelSessionKey where
  nodeId : Uuid
  sid : UInt32
  deriving DecidableEq, Repr

/-! ## Redis -/

/-- The JSON of `NodeConnection::get_extended_stats`. -/
structure ExtendedStats where
  id : Uuid
  name : String
  ip : IpAddr
  latency : UInt64
  serverId : Uuid
  connectedForSecs : Nat
  sinceLastHeartbeatSecs : Nat
  stats : Option StatsJson
  deriving DecidableEq, Repr

/-- The hash `phirepass:users:<user>:nodes:<node>`; no stats stands for the empty string. -/
structure MemoryNode where
  node : NodeRecord
  stats : Option ExtendedStats
  server : Uuid
  deriving DecidableEq, Repr

/-- The hashes of `db/redis.rs`, by user and node id, and by connection id. -/
structure MemoryDB where
  nodes : DashMap (Uuid × Uuid) MemoryNode
  connections : DashMap Uuid IpAddr

inductive MemoryOp where
  | setNodeConnected (node : NodeRecord)
  | updateNodeStats (node : NodeRecord) (stats : ExtendedStats)
  | setNodeDisconnected (node : NodeRecord)
  | setConnectionConnected (cid : Uuid) (ip : IpAddr)
  | setConnectionDisconnected (cid : Uuid)
  | refreshConnection (cid : Uuid) (ip : IpAddr)

/-- What the operation writes. -/
def MemoryOp.apply (serverId : Uuid) (m : MemoryDB) : MemoryOp → MemoryDB
  | .setNodeConnected node =>
      { m with nodes := m.nodes.insert (node.userId, node.id) ⟨node, none, serverId⟩ }
  | .updateNodeStats node stats =>
      { m with nodes := m.nodes.insert (node.userId, node.id) ⟨node, some stats, serverId⟩ }
  | .setNodeDisconnected node => { m with nodes := m.nodes.erase (node.userId, node.id) }
  | .setConnectionConnected cid ip | .refreshConnection cid ip =>
      { m with connections := m.connections.insert cid ip }
  | .setConnectionDisconnected cid => { m with connections := m.connections.erase cid }

/-! ## Crates and configuration -/

/-- `WebJwtClaims`, of which `sub` is read. -/
structure WebJwtClaims where
  sub : String
  deriving DecidableEq, Repr

/-- `NodeJwtClaims`. -/
structure NodeJwtClaims where
  nodeId : Uuid
  exp : Int
  iat : Int
  deriving DecidableEq, Repr

/-- The functions of crates outside the repository.  Decoding a token checks its signature
under `jwt_secret` and its expiry against the clock. -/
structure Crates where
  parseUuid : String → Except String Uuid
  decodeWebJwt : String → Time → Except String WebJwtClaims
  decodeNodeJwt : String → Time → Except String NodeJwtClaims
  encodeNodeJwt : NodeJwtClaims → Except String String
  base64Decode : String → Option Bytes
  ed25519Key : Bytes → Bool
  ed25519Signature : Bytes → Bool
  ed25519Verify : Bytes → Bytes → Bytes → Bool

structure ChallengeRequest where
  nodeId : Uuid
  deriving DecidableEq, Repr

structure VerifyRequest where
  nodeId : Uuid
  challenge : String
  signature : String
  deriving DecidableEq, Repr

/-- The HTTP requests.  A header is absent, or not visible text, or text. -/
inductive Request where
  | createAuthChallenge (payload : ChallengeRequest)
  | verifyAuthChallenge (payload : VerifyRequest)
  | heartbeat (authorization : Option (Option String))

/-- The JSON bodies of the responses. -/
inductive Body where
  | challenge (challenge : String)
  | verified (accessToken : String) (expiresAt : Time)
  | alive (nodeId : Uuid) (lastSeen : Time)
  | failure (code : Option String) (error : String)
  deriving DecidableEq, Repr

structure Response where
  status : Nat
  body : Body
  deriving DecidableEq, Repr

/-- One deployment: the crates, `Env`, the build and who connects. -/
structure Setup where
  crates : Crates
  jwtTtlSecs : Int
  challengeTtlSecs : Int
  /-- `cfg!(debug_assertions)`. -/
  debugAssertions : Bool
  version : String
  id : Uuid
  webIp : Nat → IpAddr
  nodeIp : Nat → IpAddr
  requests : Nat → Request

/-! ## Commands -/

/-- The WebSocket of the task. -/
inductive WsOp where
  | next
  | send (frame : Frame)
  | close

@[reducible] def WsOp.Resp : WsOp → Type
  | .next => Incoming
  | .send _ => Bool
  | .close => Unit

inductive Cmd where
  | ws (op : WsOp)
  | web (op : ChanOp WebFrameData)
  | node (op : ChanOp NodeFrameData)
  | webWriter (op : TaskOp)
  | nodeWriter (op : TaskOp)
  | nodes (op : MapOp Uuid NodeConnection)
  | connections (op : MapOp Uuid WebConnection)
  | tunnelSessions (op : MapOp TunnelSessionKey (Uuid × Uuid))
  | db (op : DbOp)
  | memoryDb (op : MemoryOp)
  | now
  | newV4
  | generateChallenge
  | decodeWebJwt (token : String)
  | decodeNodeJwt (token : String)
  | encodeNodeJwt (claims : NodeJwtClaims)
  /-- An HTTP handler answers. -/
  | respond (response : Response)
  /-- A task ends. -/
  | finish
  /-- Time passes and other services write the tables `nodes` and `users`. -/
  | environment

@[reducible] def Resp : Cmd → Type
  | .ws op => op.Resp
  | .web op => op.Resp
  | .node op => op.Resp
  | .webWriter op => op.Resp
  | .nodeWriter op => op.Resp
  | .nodes op => op.Resp
  | .connections op => op.Resp
  | .tunnelSessions op => op.Resp
  | .db op => op.Resp
  | .memoryDb _ => Bool
  | .now => Time
  | .newV4 => Uuid
  | .generateChallenge => String
  | .decodeWebJwt _ => Except String WebJwtClaims
  | .decodeNodeJwt _ => Except String NodeJwtClaims
  | .encodeNodeJwt _ => Except String String
  | .respond _ | .finish => Unit
  | .environment => Surroundings

/-- Code of the server. -/
abbrev Action (α : Type) : Type := Prog Cmd Resp α

/-- Issue one command. -/
abbrev call (c : Cmd) : Action (Resp c) := Prog.perform c

/-- The tasks of the process, and the world around it. -/
inductive Tid where
  | web (i : Nat)
  | webWriter (i : Nat)
  | node (k : Nat)
  | nodeWriter (k : Nat)
  | request (r : Nat)
  | refresh
  | environment
  deriving DecidableEq, Repr

/-- Where a task's loop stands.  The code between two labels is straight-line; what a loop
carries from one turn to the next is in its label. -/
inductive Label where
  | webSocket (i : Nat)
  | webMessages (i : Nat) (cid : Uuid)
  | webClosing (i : Nat) (cid : Uuid)
  | webNotify (i : Nat) (cid : Uuid) (start visited : List Uuid)
  | webWriter (i : Nat)
  | webWriting (i : Nat)
  | nodeSocket (k : Nat)
  | nodeMessages (k : Nat) (nodeId : Uuid)
  | nodeClosing (k : Nat) (nodeId : Uuid)
  | nodeCollect (k : Nat) (nodeId : Uuid) (start visited : List TunnelSessionKey)
      (found : List (TunnelSessionKey × Uuid × Uuid))
  | nodeWriter (k : Nat)
  | nodeWriting (k : Nat)
  | request (r : Nat)
  | refresh
  | evictConnections (now : Time) (start visited : List Uuid)
  | evictNodes (now : Time) (start visited : List Uuid)
  | refreshConnections (start visited : List Uuid)
  | environment
  | done
  deriving DecidableEq

/-! ## The shared state -/

structure State where
  nodes : DashMap Uuid NodeConnection
  connections : DashMap Uuid WebConnection
  tunnelSessions : DashMap TunnelSessionKey (Uuid × Uuid)
  webChans : Nat → Chan WebFrameData
  nodeChans : Nat → Chan NodeFrameData
  webWriters : Nat → Phase
  nodeWriters : Nat → Phase
  database : Database
  memoryDb : MemoryDB
  clock : Time
  /-- The ids `Uuid::new_v4` has returned. -/
  issued : List Uuid

/-- What `OsRng` fills a challenge with. -/
abbrev ChallengeBytes : Type := {bytes : Bytes // bytes.length = 32}

theorem ChallengeBytes.length_zeros : (List.replicate 32 0 : Bytes).length = 32 :=
  List.length_replicate

def ChallengeBytes.zero : ChallengeBytes := ⟨List.replicate 32 0, length_zeros⟩

/-- What the environment decides at one step. -/
structure Choice where
  /-- The store, the socket or the encoder fails, or an aborted task stops. -/
  fail : Bool := false
  /-- The failed statement took effect all the same. -/
  lost : Bool := false
  incoming : Incoming := none
  uuid : Uuid := 0
  random : ChallengeBytes := ChallengeBytes.zero
  pick : Option Uuid := none
  pickSession : Option TunnelSessionKey := none
  around : Surroundings := ⟨0, ∅, []⟩

end Phirepass.Server
