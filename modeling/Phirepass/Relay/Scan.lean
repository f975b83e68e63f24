/-
# `Phirepass.Relay.Scan` — which servers a node id can lead to

The relay puts the node id of a browser, as it is, into the pattern

    phirepass:users:*:nodes:<node id>

of a `SCAN`, and takes the first key.  So the node id is itself a pattern: it
leads to the keys of every node whose id it matches (`glob_nodeKey_iff`).  A
browser is kept to the node it names exactly if the name, read as a pattern,
matches the id of no other node (`routed_iff`); `*` matches them all.
-/
import Phirepass.Relay.Lookup

namespace Phirepass.Relay

open Rust Rust.Redis Server

/-! ## The pattern -/

/-- The first separator of one text is the first or a later one of the other. -/
theorem eq_or_later {sep : Char} {u mid a b : List Char} (hu : sep ∉ u)
    (h : u ++ sep :: a = mid ++ sep :: b) :
    (u = mid ∧ a = b) ∨ ∃ m, a = m ++ sep :: b := by
  rcases List.append_eq_append_iff.1 h with ⟨m, hmid, hrest⟩ | ⟨m, hmid, hrest⟩
  · cases m with
    | nil =>
        rw [List.append_nil] at hmid
        exact .inl ⟨hmid.symm, (List.cons.inj hrest).2⟩
    | cons c m => exact .inr ⟨m, (List.cons.inj hrest).2⟩
  · cases m with
    | nil =>
        rw [List.append_nil] at hmid
        exact .inl ⟨hmid, (List.cons.inj hrest).2.symm⟩
    | cons c m =>
        have hc := (List.cons.inj hrest).1
        refine absurd ?_ hu
        rw [hmid, hc]
        exact List.mem_append_right _ List.mem_cons_self

/-- In the key of a node `:nodes:` stands between its two ids only. -/
theorem final_eq_display {userId n : Uuid} {mid final : List Char}
    (h : userId.display.toList ++ (":nodes:".toList ++ n.display.toList) =
      mid ++ (":nodes:".toList ++ final)) : final = n.display.toList := by
  have hnodes : ":nodes:".toList = ':' :: ("nodes".toList ++ [':']) := rfl
  have hword : ':' ∉ "nodes".toList := by decide
  rw [hnodes] at h
  simp only [List.cons_append, List.append_assoc, List.nil_append] at h
  rcases eq_or_later (colon_not_mem_display userId) h with ⟨-, hrest⟩ | ⟨m, hrest⟩
  · exact (List.cons.inj (List.append_cancel_left hrest)).2.symm
  · rcases eq_or_later hword hrest with ⟨-, hid⟩ | ⟨m', hid⟩
    · refine absurd ?_ (colon_not_mem_display n)
      rw [hid]
      exact List.mem_append_right _ List.mem_cons_self
    · refine absurd ?_ (colon_not_mem_display n)
      rw [hid]
      exact List.mem_append_right _ List.mem_cons_self

/-- **The pattern of a scan** matches the keys of the nodes whose ids the node id matches. -/
theorem glob_nodeKey_iff {nodeId : String} {userId n : Uuid} :
    glob ("phirepass:users:" ++ "*" ++ (":nodes:" ++ nodeId)) (nodeKey userId n) = true ↔
      glob nodeId n.display = true := by
  have hnodes : Plain ":nodes:".toList := rfl
  rw [glob_star_append plain_users hnodes, toList_nodeKey]
  constructor
  · rintro ⟨mid, final, htext, hfinal⟩
    rw [final_eq_display (List.append_cancel_left htext)] at hfinal
    exact hfinal
  · intro h
    exact ⟨userId.display.toList, n.display.toList, rfl, h⟩

/-- A node id without special characters matches itself alone. -/
theorem glob_plain_iff {nodeId text : String} (hplain : Plain nodeId.toList) :
    glob nodeId text = true ↔ text = nodeId := by
  rw [glob, accepts_plain hplain, String.toList_inj]

/-! ## Routing -/

/-- Redis has keys of nodes only. -/
def NodeKeys (ks : Keyspace) : Prop := ∀ key ∈ ks, ∃ userId n, key = nodeKey userId n

/-- The server that the relay finds is that of a key of the node. -/
def RoutesTo (nodeId : String) : Prop :=
  ∀ ks conn, NodeKeys ks → conn.Answers ks → ∀ server,
    getUserServerByNodeId conn nodeId none = .ok server →
      ∃ userId n, nodeKey userId n ∈ ks ∧ n.display = nodeId ∧
        ks.hget (nodeKey userId n) "server" = some server

/-- As a pattern, the text matches no id but itself. -/
def NamesItself (nodeId : String) : Prop :=
  ∀ n : Uuid, glob nodeId n.display = true → n.display = nodeId

theorem display_of_nodeKey {userId other n m : Uuid} (h : nodeKey userId n = nodeKey other m) :
    n.display = m.display := by
  have hlist := congrArg String.toList h
  rw [toList_nodeKey, toList_nodeKey] at hlist
  exact String.toList_inj.1 (final_eq_display (List.append_cancel_left hlist)).symm

section Routing

variable {nodeId : String}

/-- What the relay answers is the field of a key that its pattern matches. -/
theorem found_of_ok {conn : Conn} {ks : Keyspace} {server : String} (hconn : conn.Answers ks)
    (h : getUserServerByNodeId conn nodeId none = .ok server) :
    ∃ key ∈ ks, glob ("phirepass:users:" ++ "*" ++ (":nodes:" ++ nodeId)) key = true ∧
      ks.hget key "server" = some server := by
  unfold getUserServerByNodeId findServerIdByNodeId scanKeys at h
  cases hscan : conn.scanMatch ("phirepass:users:" ++ "*" ++ (":nodes:" ++ nodeId)) with
  | error err =>
      rw [hscan] at h
      cases h
  | ok keys =>
      rw [hscan] at h
      cases keys with
      | nil => cases h
      | cons key keys =>
          simp only [ok_bind] at h
          obtain ⟨hin, hglob⟩ := (hconn.scanMatch _ _ hscan key).1 List.mem_cons_self
          refine ⟨key, hin, hglob, ?_⟩
          cases hget : getServer conn key with
          | error err =>
              rw [hget] at h
              cases h
          | ok found =>
              rw [hget] at h
              cases found with
              | none => cases h
              | some server' =>
                  cases h
                  exact (hconn.hget key "server" _ hget).symm

/-- A node id that names itself leads to its own keys. -/
theorem routesTo_of_namesItself (h : NamesItself nodeId) : RoutesTo nodeId := by
  intro ks conn hkeys hconn server hok
  obtain ⟨key, hin, hglob, hserver⟩ := found_of_ok hconn hok
  obtain ⟨userId, n, rfl⟩ := hkeys key hin
  exact ⟨userId, n, hin, h n (glob_nodeKey_iff.1 hglob), hserver⟩

/-- Redis with one node in it. -/
def oneNode (n : Uuid) : Keyspace :=
  (∅ : Keyspace).insert (nodeKey 0 n) ⟨(∅ : Hash).insert "server" "", none⟩

theorem mem_oneNode {n : Uuid} {key : String} (h : key ∈ oneNode n) : key = nodeKey 0 n := by
  rcases (AList.mem_insert _).1 h with heq | hold
  · exact heq
  · exact absurd hold (AList.notMem_empty _)

/-- Every node id that matches its id leads to that node. -/
theorem getUserServer_oneNode {n : Uuid} (hglob : glob nodeId n.display = true) :
    getUserServerByNodeId (.over (oneNode n)) nodeId none = .ok "" := by
  have hkey : glob ("phirepass:users:" ++ "*" ++ (":nodes:" ++ nodeId)) (nodeKey 0 n) = true :=
    glob_nodeKey_iff.2 hglob
  have hkeys : (oneNode n).keys = [nodeKey 0 n] := by
    rw [oneNode, AList.keys_insert]
    rfl
  have hserver : (oneNode n).hget (nodeKey 0 n) "server" = some "" := by
    rw [oneNode, Keyspace.hget, AList.lookup_insert, Option.bind_some, AList.lookup_insert]
  have hscan : (Conn.over (oneNode n)).scanMatch
      ("phirepass:users:" ++ "*" ++ (":nodes:" ++ nodeId)) = .ok [nodeKey 0 n] := by
    show Except.ok ((oneNode n).keys.filter _) = _
    rw [hkeys, List.filter_cons_of_pos hkey, List.filter_nil]
  have hget : getServer (.over (oneNode n)) (nodeKey 0 n) = .ok (some "") :=
    congrArg Except.ok hserver
  unfold getUserServerByNodeId findServerIdByNodeId scanKeys
  rw [hscan]
  simp only [ok_bind, hget]
  rfl

/-- One that matches another id leads astray, where only that node is connected. -/
theorem not_routesTo {n : Uuid} (hglob : glob nodeId n.display = true)
    (hne : n.display ≠ nodeId) : ¬ RoutesTo nodeId := by
  intro h
  obtain ⟨userId, m, hin, hid, -⟩ := h (oneNode n) (.over (oneNode n))
    (fun key hin => ⟨0, n, mem_oneNode hin⟩) (Conn.over_answers _) ""
    (getUserServer_oneNode hglob)
  exact hne ((display_of_nodeKey (mem_oneNode hin)).symm.trans hid)

/-- **The node id of a browser** leads to its own node exactly if it names itself. -/
theorem routesTo_iff : RoutesTo nodeId ↔ NamesItself nodeId := by
  constructor
  · intro h n hglob
    by_contra hne
    exact not_routesTo hglob hne h
  · exact routesTo_of_namesItself

/-- Ids do. -/
theorem namesItself_of_plain (hplain : Plain nodeId.toList) : NamesItself nodeId :=
  fun _ hglob => (glob_plain_iff hplain).1 hglob

end Routing

/-- Where a header names a node and no server, the relay finds the node's server. -/
def RoutesAsAsked (secWebsocketProtocol : Option String) : Prop :=
  ∀ nodeId, extractProtocols secWebsocketProtocol = (some nodeId, none) → RoutesTo nodeId

/-- **A header is routed as it asks** exactly if the node id in it, read as a pattern, matches
no id but itself. -/
theorem routed_iff (secWebsocketProtocol : Option String) :
    RoutesAsAsked secWebsocketProtocol ↔
      ∀ nodeId, extractProtocols secWebsocketProtocol = (some nodeId, none) →
        NamesItself nodeId :=
  forall_congr' fun _ => imp_congr_right fun _ => routesTo_iff

/-- **A star** leads to any node. -/
theorem star_routes_anywhere : ¬ RoutesAsAsked (some " * ") := by
  intro h
  exact not_routesTo (n := 10) (by decide +kernel) (by decide +kernel) (h "*" (by decide +kernel))

end Phirepass.Relay
