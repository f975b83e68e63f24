/-
# `Phirepass.Server.Redis` — the keys and hashes the servers write

`Phirepass.Server.State` keeps a server's own hashes by the ids they are for.
All servers and the relay share one Redis, where a hash is found by the text
of its key:

    phirepass:servers:<server>              save_server
    phirepass:users:<user>:nodes:<node>     update_node_stats
    phirepass:connections:<connection>      refresh_connection

`Written` is what any number of servers can have made of an empty Redis: any
commands of these functions, in any order, broken off anywhere, with hashes
lapsing in between.
-/
import Phirepass.Rust.Redis
import Phirepass.Server.State

namespace Phirepass.Server

open Rust Rust.Redis

/-- `ServerIdentifier` of `common/src/server.rs`. -/
structure ServerIdentifier where
  id : Uuid
  privateIp : String
  publicIp : String
  port : UInt16
  fqdn : String
  deriving DecidableEq, Repr

/-- `serde_json` on the three types; none of them has a value without a text. -/
structure Json where
  /-- `NodeRecord::to_json`. -/
  node : NodeRecord → String
  /-- The text of `get_extended_stats`. -/
  stats : ExtendedStats → String
  /-- `ServerIdentifier::get_encoded`. -/
  server : ServerIdentifier → String
  /-- `ServerIdentifier::get_decoded`. -/
  decodeServer : String → Option ServerIdentifier

/-! ## `server/src/db/redis.rs` -/

def serverKey (id : Uuid) : String := "phirepass:servers:" ++ id.display

def nodeKey (userId id : Uuid) : String :=
  "phirepass:users:" ++ userId.display ++ (":nodes:" ++ id.display)

def connectionKey (cid : Uuid) : String := "phirepass:connections:" ++ cid.display

/-- `save_server`. -/
def saveServer (id : Uuid) (serverPayload serverStats : String) : List Command :=
  [.hset (serverKey id) [("server", serverPayload), ("stats", serverStats)],
    .expire (serverKey id) 120]

/-- `update_node_stats`. -/
def updateNodeStats (J : Json) (node : NodeRecord) (server : ServerIdentifier)
    (statsPayload : String) : List Command :=
  [.hset (nodeKey node.userId node.id)
      [("node", J.node node), ("stats", statsPayload), ("server", J.server server)],
    .expire (nodeKey node.userId node.id) 120]

/-- `refresh_connection`. -/
def refreshConnection (J : Json) (cid : Uuid) (ip : IpAddr) (server : ServerIdentifier) :
    List Command :=
  [.hset (connectionKey cid)
      [("connection", "\x7b\"id\":\"" ++ cid.display ++ "\",\"ip\":\"" ++ ip ++ "\"\x7d"),
        ("server", J.server server)],
    .expire (connectionKey cid) 120]

/-- The commands an operation of `MemoryDB` sends. -/
def MemoryOp.commands (J : Json) (server : ServerIdentifier) : MemoryOp → List Command
  | .setNodeConnected node => Server.updateNodeStats J node server ""
  | .updateNodeStats node stats => Server.updateNodeStats J node server (J.stats stats)
  | .setNodeDisconnected node => [.del (nodeKey node.userId node.id)]
  | .setConnectionConnected cid ip => Server.refreshConnection J cid ip server
  | .setConnectionDisconnected cid => [.del (connectionKey cid)]
  | .refreshConnection cid ip => Server.refreshConnection J cid ip server

/-- What a server sends to Redis. -/
inductive Update where
  | saveServer (id : Uuid) (serverPayload serverStats : String)
  | memoryOp (server : ServerIdentifier) (op : MemoryOp)

def Update.commands (J : Json) : Update → List Command
  | .saveServer id payload stats => Server.saveServer id payload stats
  | .memoryOp server op => op.commands J server

/-- The contents that servers write. -/
inductive Written (J : Json) : Keyspace → Prop
  | empty : Written J ∅
  | command {ks : Keyspace} {c : Command} {update : Update} (hks : Written J ks)
      (hc : c ∈ update.commands J) : Written J (c.apply ks)
  | lapse {ks : Keyspace} {key : String} (hks : Written J ks)
      (hkey : (ks.entry key).ttl.isSome = true) : Written J (ks.erase key)

/-- What a server sends in one go. -/
theorem Written.applyAll {J : Json} {update : Update} {commands : List Command}
    (hcommands : ∀ c ∈ commands, c ∈ update.commands J) {ks : Keyspace} (hks : Written J ks) :
    Written J (ks.applyAll commands) := by
  induction commands generalizing ks with
  | nil => exact hks
  | cons c commands ih =>
      have hc := hcommands c List.mem_cons_self
      exact ih (fun d hd => hcommands d (List.mem_cons_of_mem _ hd)) (hks.command hc)

/-! ## What a key looks like -/

/-- The digits of an id and the hyphens between them. -/
def IdChar (c : Char) : Prop := c = '-' ∨ ∃ m < 16, c = Nat.digitChar m

theorem idChar_of_mem_display {id : Uuid} {c : Char} (h : c ∈ id.display.toList) : IdChar c := by
  have hgroup : ∀ start len, c ∈ ((List.range' start len).map
      fun i => Nat.digitChar (id.toNat / 16 ^ (31 - i) % 16)) → IdChar c := by
    intro start len hmem
    obtain ⟨i, -, rfl⟩ := List.mem_map.1 hmem
    exact .inr ⟨_, Nat.mod_lt _ (by decide), rfl⟩
  have hhyphen : c ∈ ("-" : String).toList → IdChar c := by
    intro hmem
    exact .inl (List.mem_singleton.1 hmem)
  simp only [Uuid.display, toString, String.toList_append, String.toList_ofList,
    List.mem_append] at h
  obtain (((((((h | h) | h) | h) | h) | h) | h) | h) | h := h
  · exact hgroup 0 8 h
  · exact hhyphen h
  · exact hgroup 8 4 h
  · exact hhyphen h
  · exact hgroup 12 4 h
  · exact hhyphen h
  · exact hgroup 16 4 h
  · exact hhyphen h
  · exact hgroup 20 12 h

theorem plain_of_idChar {c : Char} (h : IdChar c) : (plain c && c != ':') = true := by
  obtain rfl | ⟨m, hm, rfl⟩ := h
  · rfl
  · have hall : ∀ i : Fin 16, (plain (Nat.digitChar i) && Nat.digitChar i != ':') = true := by
      decide
    exact hall ⟨m, hm⟩

theorem colon_not_mem_display (id : Uuid) : ':' ∉ id.display.toList := by
  intro h
  have hcolon := (Bool.and_eq_true_iff.1 (plain_of_idChar (idChar_of_mem_display h))).2
  exact absurd rfl (bne_iff_ne.1 hcolon)

theorem colon_mem_append {name : String} (h : ':' ∈ name.toList) (id : String) :
    ':' ∈ (name ++ id).toList := by
  rw [String.toList_append]
  exact List.mem_append_left _ h

/-- A key is of one of three kinds. -/
inductive IsKey : String → Prop
  | server (id : Uuid) : IsKey (serverKey id)
  | node (userId id : Uuid) : IsKey (nodeKey userId id)
  | connection (cid : Uuid) : IsKey (connectionKey cid)

theorem isKey_of_commands {J : Json} {update : Update} {c : Command}
    (h : c ∈ update.commands J) : IsKey c.key := by
  cases update with
  | saveServer id payload stats =>
      simp only [Update.commands, saveServer, List.mem_cons, List.not_mem_nil, or_false] at h
      obtain rfl | rfl := h <;> exact .server id
  | memoryOp server op =>
      cases op with
      | setNodeConnected node | updateNodeStats node =>
          simp only [Update.commands, MemoryOp.commands, Server.updateNodeStats, List.mem_cons,
            List.not_mem_nil, or_false] at h
          obtain rfl | rfl := h <;> exact .node node.userId node.id
      | setNodeDisconnected node =>
          cases List.mem_singleton.1 h
          exact .node node.userId node.id
      | setConnectionConnected cid | refreshConnection cid =>
          simp only [Update.commands, MemoryOp.commands, Server.refreshConnection, List.mem_cons,
            List.not_mem_nil, or_false] at h
          obtain rfl | rfl := h <;> exact .connection cid
      | setConnectionDisconnected cid =>
          cases List.mem_singleton.1 h
          exact .connection cid

theorem Written.isKey {J : Json} {ks : Keyspace} (hks : Written J ks) {key : String}
    (h : key ∈ ks) : IsKey key := by
  induction hks with
  | empty => exact absurd h (AList.notMem_empty _)
  | command hks hc ih =>
      obtain h | rfl := mem_of_mem_apply h
      · exact ih h
      · exact isKey_of_commands hc
  | lapse hks hkey ih => exact ih (AList.mem_erase.1 h).2

/-- Every key has a name in front of the id. -/
theorem IsKey.colon_mem {key : String} (h : IsKey key) : ':' ∈ key.toList := by
  cases h with
  | server id => exact colon_mem_append (by decide) id.display
  | node userId id =>
      exact colon_mem_append (colon_mem_append (by decide) userId.display) (":nodes:" ++ id.display)
  | connection cid => exact colon_mem_append (by decide) cid.display

/-- No key that servers have written is an id by itself. -/
theorem Written.not_mem_display {J : Json} {ks : Keyspace} (hks : Written J ks) (id : Uuid) :
    id.display ∉ ks := fun hmem => colon_not_mem_display id (hks.isKey hmem).colon_mem

/-- Names that differ within eleven characters make different keys. -/
theorem append_ne_append {name name' : String} (hname : 11 ≤ name.toList.length)
    (hname' : 11 ≤ name'.toList.length) (hne : name.toList.take 11 ≠ name'.toList.take 11)
    (a b : List Char) : name.toList ++ a ≠ name'.toList ++ b := by
  intro h
  apply hne
  have htake := congrArg (List.take 11) h
  rwa [List.take_append_of_le_length hname, List.take_append_of_le_length hname'] at htake

theorem users_ne_connections (a b : List Char) :
    "phirepass:users:".toList ++ a ≠ "phirepass:connections:".toList ++ b :=
  append_ne_append (by decide +kernel) (by decide +kernel) (by decide +kernel) a b

theorem toList_append_append (a b c d : String) :
    (a ++ b ++ (c ++ d)).toList = a.toList ++ (b.toList ++ (c.toList ++ d.toList)) := by
  simp only [String.toList_append, List.append_assoc]

theorem toList_nodeKey (userId id : Uuid) : (nodeKey userId id).toList =
    "phirepass:users:".toList ++ (userId.display.toList ++
      (":nodes:".toList ++ id.display.toList)) :=
  toList_append_append "phirepass:users:" userId.display ":nodes:" id.display

theorem toList_connectionKey (cid : Uuid) : (connectionKey cid).toList =
    "phirepass:connections:".toList ++ cid.display.toList := String.toList_append

theorem nodeKey_ne_connectionKey (userId id cid : Uuid) :
    nodeKey userId id ≠ connectionKey cid := by
  intro h
  have hlist := congrArg String.toList h
  rw [toList_nodeKey, toList_connectionKey] at hlist
  exact users_ne_connections _ _ hlist

theorem plain_users : Plain "phirepass:users:".toList := rfl

end Phirepass.Server
