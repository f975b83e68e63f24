/-
# `Phirepass.System.Cluster` — servers that share Postgres and Redis

The servers of a deployment run the same code, each with registries and
sockets of its own.  They share

    Postgres    the tables behind `db`, and the clock
    Redis       the hashes of `Phirepass.Server.Redis`

so a node may leave one server for another while the handler of its old
socket is still running.  An operation on Redis that fails may have been
carried out all the same.  Hashes do not lapse here.

The tasks of node sockets follow rules on what they do to Redis
(`RedisMay`): a node is registered right after its record was read and
written, and deleted from Redis only once its message loop was left.
-/
import Phirepass.Interleave.Fleet
import Phirepass.Server.Redis
import Phirepass.Interleave.Path
import Phirepass.Server.NodeParts
import Phirepass.Server.Rules

namespace Phirepass.Cluster

open Rust Rust.Redis Interleave Server

/-! ## The machine -/

/-- The servers of a deployment. -/
structure Deployment where
  setup : ℕ → Setup
  identifier : ℕ → ServerIdentifier
  json : Json

structure Shared where
  servers : ℕ → State
  database : Database
  clock : Time
  redis : Keyspace

/-- A task of one of the servers. -/
abbrev Tid : Type := ℕ × Server.Tid

/-- What a command of server `j` makes of Redis. -/
def onRedis (D : Deployment) (j : ℕ) (c : Cmd) (o : Choice) (ks : Keyspace) : Keyspace :=
  match c with
  | .memoryDb op =>
      if o.fail && !o.lost then ks else ks.applyAll (op.commands D.json (D.identifier j))
  | _ => ks

/-- One command of one task of server `j`. -/
def exec (D : Deployment) (j : ℕ) (i : Server.Tid) (c : Cmd) (o : Choice) (s : Shared) :
    Option (Resp c × Shared) :=
  (Server.exec (D.setup j) i c o
      { s.servers j with database := s.database, clock := s.clock }).map fun x =>
    (x.1,
      { servers := Function.update s.servers j x.2
        database := x.2.database
        clock := x.2.clock
        redis := onRedis D j c o s.redis })

def machine (D : Deployment) : Machine Shared Tid Choice Resp (ℕ × Label) :=
  fleet (exec D) fun j => body (D.setup j)

/-- All servers have just started on the given tables. -/
def start (rows : DashMap Uuid NodeRow) (users : List Uuid) (clock : Time) :
    Config Shared Tid Resp (ℕ × Label) :=
  fleetStart Tid.entry ⟨fun _ => State.start rows users clock, ⟨rows, users, ∅⟩, clock, ∅⟩

theorem exec_redis {D : Deployment} {j : ℕ} {i : Server.Tid} {c : Cmd} {o : Choice}
    {s s' : Shared} {r : Resp c} (h : exec D j i c o s = some (r, s')) :
    s'.redis = onRedis D j c o s.redis := by
  obtain ⟨x, -, hx⟩ := Option.map_eq_some_iff.1 h
  cases hx
  rfl

/-! ## What an operation makes of a node's hash -/

/-- The record an operation on a node's hash is about. -/
def MemoryOp.record? : MemoryOp → Option NodeRecord
  | .setNodeConnected node | .updateNodeStats node _ | .setNodeDisconnected node => some node
  | .setConnectionConnected _ _ | .setConnectionDisconnected _ | .refreshConnection _ _ => none

/-- It writes the hash. -/
def MemoryOp.writes : MemoryOp → Bool
  | .setNodeConnected _ | .updateNodeStats _ _ => true
  | _ => false

/-- The key of a node's hash. -/
def hashKey (record : NodeRecord) : String := nodeKey record.userId record.id

variable {J : Json} {server : ServerIdentifier} {op : MemoryOp} {record : NodeRecord}
  {ks : Keyspace}

/-- The commands of an operation are all about its hash. -/
theorem key_of_memoryOp {c : Command} (hop : MemoryOp.record? op = some record)
    (hc : c ∈ op.commands J server) : c.key = hashKey record := by
  cases op with
  | setNodeConnected node | updateNodeStats node =>
      cases hop
      simp only [MemoryOp.commands, Server.updateNodeStats, List.mem_cons, List.not_mem_nil,
        or_false] at hc
      obtain rfl | rfl := hc <;> rfl
  | setNodeDisconnected node =>
      cases hop
      cases List.mem_singleton.1 hc
      rfl
  | setConnectionConnected | setConnectionDisconnected | refreshConnection => cases hop

/-- A write leaves the server that wrote. -/
theorem hget_of_writes (hop : MemoryOp.record? op = some record)
    (hwrites : MemoryOp.writes op = true) :
    (ks.applyAll (op.commands J server)).hget (hashKey record) "server" =
      some (J.server server) := by
  have hwritten (stats : String) :=
    hget_hset_expire ks (hashKey record) [("node", J.node record), ("stats", stats)] "server"
      (J.server server) 120
  cases op with
  | setNodeConnected node =>
      cases hop
      exact hwritten ""
  | updateNodeStats node stats =>
      cases hop
      exact hwritten (J.stats stats)
  | setNodeDisconnected | setConnectionConnected | setConnectionDisconnected
  | refreshConnection => cases hwrites

/-- What is about another hash changes nothing. -/
theorem hget_of_other {field : String}
    (hop : ∀ record', MemoryOp.record? op = some record' → hashKey record ≠ hashKey record') :
    (ks.applyAll (op.commands J server)).hget (hashKey record) field =
      ks.hget (hashKey record) field := by
  refine hget_applyAll_of_ne (fun c hc => ?_) ks
  cases op with
  | setNodeConnected node | updateNodeStats node | setNodeDisconnected node =>
      rw [key_of_memoryOp rfl hc]
      exact hop node rfl
  | setConnectionConnected cid | refreshConnection cid =>
      have hne := nodeKey_ne_connectionKey record.userId record.id cid
      simp only [MemoryOp.commands, Server.refreshConnection, List.mem_cons, List.not_mem_nil,
        or_false] at hc
      obtain rfl | rfl := hc <;> exact hne
  | setConnectionDisconnected cid =>
      cases List.mem_singleton.1 hc
      exact nodeKey_ne_connectionKey record.userId record.id cid

/-! ## What a node socket's task does to Redis -/

/-- The record of node `n` was read and written to Redis, and nothing else since. -/
def RecordWritten (n : Uuid) (record : NodeRecord) (h : Hist Resp) : Prop :=
  ∃ now stored h', h = ⟨.now, now⟩ :: ⟨.memoryDb (.setNodeConnected record), stored⟩ ::
    ⟨.db (.getNodeById n), .ok record⟩ :: h'

/-- When a node may be registered, and when its hash deleted. -/
def RedisMay (h : Hist Resp) : Cmd → Prop
  | .nodes (.insert n conn) => RecordWritten n conn.nodeRecord h
  | .memoryDb (.setNodeDisconnected _) => ¬ Looping h
  | _ => True

section Rules

open Prog

/-- What leaves the registry and Redis alone obeys these rules. -/
theorem redisMay_of_leaves (h : Hist Resp) (c : Cmd) (hc : c.leavesNodes = true) :
    RedisMay h c := by
  cases c with
  | nodes | memoryDb => cases hc
  | _ => trivial

variable {S : Setup} {k : ℕ} {n : Uuid}

/-- The handler registers the node right behind its record. -/
theorem handleNodeSocket_redis (h : Hist Resp) :
    (handleNodeSocket S k).Conforms (Issues RedisMay) (fun _ _ => True) h := by
  refine conforms_bind.2 ((nodeWaitForAuth_leaves.conforms redisMay_of_leaves h).mono fun res h' _ => ?_)
  cases res with
  | error err => exact rejectNodeSocket_leaves.conforms redisMay_of_leaves h'
  | ok n =>
      refine conforms_call.2 ⟨trivial, fun found => ?_⟩
      cases found with
      | error err => exact rejectNodeSocket_leaves.conforms redisMay_of_leaves _
      | ok record =>
          refine conforms_call.2 ⟨trivial, fun stored => ?_⟩
          refine conforms_call.2 ⟨trivial, fun now => ?_⟩
          refine conforms_call.2 ⟨⟨now, stored, h', rfl⟩, fun old => ?_⟩
          exact conforms_call.2 ⟨trivial, fun _ => trivial⟩

theorem handleNodeHeartbeat_redis {stats : Stats} {sentAt : UInt64} (h : Hist Resp) :
    (handleNodeHeartbeat n stats sentAt).Conforms (Issues RedisMay) (fun _ _ => True) h := by
  refine conforms_call.2 ⟨trivial, fun found => ?_⟩
  cases found with
  | none => trivial
  | some info =>
      refine conforms_call.2 ⟨trivial, fun arrived => ?_⟩
      refine conforms_call.2 ⟨trivial, fun sent => ?_⟩
      refine conforms_call.2 ⟨trivial, fun read => ?_⟩
      split
      · trivial
      · refine conforms_call.2 ⟨trivial, fun stored => ?_⟩
        cases stored with
        | false => trivial
        | true =>
            exact conforms_call.2 ⟨trivial, fun now => conforms_call.2 ⟨trivial, fun _ => trivial⟩⟩

theorem handleNodeFrame_redis {frame : NodeFrameData} (h : Hist Resp) :
    (handleNodeFrame n frame).Conforms (Issues RedisMay) (fun _ _ => True) h := by
  by_cases hbeat : ∃ stats sentAt, frame = .heartbeat stats sentAt
  · obtain ⟨stats, sentAt, rfl⟩ := hbeat
    exact handleNodeHeartbeat_redis h
  · have hframe : ∀ stats sentAt, frame ≠ .heartbeat stats sentAt :=
      fun stats sentAt heq => hbeat ⟨stats, sentAt, heq⟩
    exact (handleNodeFrame_leaves hframe).conforms redisMay_of_leaves h

theorem handleNodeMessages_redis (h : Hist Resp) :
    (handleNodeMessages k n).Conforms (Issues RedisMay) (fun _ _ => True) h := by
  refine conforms_call.2 ⟨trivial, fun m => ?_⟩
  split
  · refine conforms_bind.2 ((handleNodeFrame_redis _).mono fun kept h' _ => ?_)
    cases kept <;> trivial
  all_goals trivial

/-- `disconnect_node` comes behind the message loop. -/
theorem closeNodeSocket_redis (h : Hist Resp) :
    (closeNodeSocket k n).Conforms (Issues RedisMay) (fun _ _ => True) h := by
  refine conforms_call.2 ⟨trivial, fun _ => ?_⟩
  refine conforms_call.2 ⟨trivial, fun found => ?_⟩
  cases found with
  | none => exact conforms_call.2 ⟨trivial, fun _ => trivial⟩
  | some info =>
      have hleft : ¬ Looping (⟨.nodes (.remove n), some info⟩ ::
          ⟨.nodeWriter (.abort k), ()⟩ :: h) := by
        intro hloop
        exact hloop k () (List.mem_cons_of_mem _ List.mem_cons_self)
      refine conforms_call.2 ⟨hleft, fun _ => ?_⟩
      exact conforms_call.2 ⟨trivial, fun _ => trivial⟩

/-- The rules of a task: only those of node sockets matter here. -/
def TaskMay : Server.Tid → Hist Resp → Cmd → Prop
  | .node _ => RedisMay
  | _ => fun _ _ => True

theorem body_redis {i : Server.Tid} {l : Label} {h : Hist Resp} (hat : At S i l h) :
    (body S l).Conforms (Issues (TaskMay i)) (fun _ _ => True) h := by
  have hfree {p : Action Label} : p.Conforms (Issues fun _ _ => True) (fun _ _ => True) h :=
    conforms_does.mono fun _ _ _ => trivial
  cases i with
  | node k =>
      cases l with
      | nodeSocket j => exact handleNodeSocket_redis h
      | nodeMessages j n => exact handleNodeMessages_redis h
      | nodeClosing j n => exact closeNodeSocket_redis h
      | nodeCollect j n start visited found => exact notifyAllClients_leaves.conforms redisMay_of_leaves h
      | done => exact trivial
      | _ => exact hat.elim
  | _ => exact hfree

end Rules

variable {D : Deployment} {rows : DashMap Uuid NodeRow} {users : List Uuid} {clock : Time}

/-- **Every server of the cluster follows the rules of a server**, and those on Redis. -/
theorem cluster_follows : (machine D).Follows
    (fun i => Issues fun h c => May (D.setup i.1) i.2 h c ∧ TaskMay i.2 h c)
    (fun i l h => l.1 = i.1 ∧ At (D.setup i.1) i.2 l.2 h) (start rows users clock) := by
  have hserver (j : ℕ) := @server_follows (D.setup j) ∅ [] 0
  exact .fleet (fun j i => Issues fun h c => May (D.setup j) i h c ∧ TaskMay i h c)
    (fun j => At (D.setup j))
    (fun j i l h hat => (((hserver j).body i l h hat).and (body_redis hat)).mono
      fun _ _ hpost => hpost.1)
    (fun j i => (hserver j).start i) _

end Phirepass.Cluster
