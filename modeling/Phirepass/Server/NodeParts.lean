/-
# `Phirepass.Server.NodeParts` — which parts of `node.rs` leave the registry alone

The registry of nodes and Redis are touched in three places of `node.rs`: when
a node has logged in, in `handle_node_heartbeat`, and in `disconnect_node`.
The login itself and everything done about tunnels and clients touches
neither (`Leaves`), whatever its task did before.
-/
import Phirepass.Server.Node

namespace Phirepass.Server

open Rust Interleave Prog

/-- The command touches neither the registry of nodes nor Redis. -/
def Cmd.leavesNodes : Cmd → Bool
  | .nodes _ | .memoryDb _ => false
  | _ => true

/-- The program issues only such commands. -/
def Leaves {α : Type} (p : Action α) : Prop :=
  ∀ h, p.Conforms (Issues fun _ c => c.leavesNodes = true) (fun _ _ => True) h

section Parts

variable {α β : Type} {S : Setup} {k : Nat} {n : Uuid}

theorem Leaves.then {p : Action α} {f : α → Action β} (hp : Leaves p)
    (hf : ∀ a, Leaves (f a)) : Leaves (p >>= f) :=
  fun h => conforms_bind.2 ((hp h).mono fun a h' _ => hf a h')

theorem Leaves.ret (a : α) : Leaves (.ret a : Action α) := fun _ => trivial

/-- One command, and what follows it. -/
theorem Leaves.call {c : Cmd} {f : Resp c → Action β} (hc : c.leavesNodes = true)
    (hf : ∀ r, Leaves (f r)) : Leaves (Server.call c >>= f) :=
  fun _ => conforms_call.2 ⟨hc, fun r => hf r _⟩

/-- Rules that such commands obey anyway. -/
theorem Leaves.conforms {p : Action α} (hp : Leaves p) {may : Hist Resp → Cmd → Prop}
    (hmay : ∀ h c, c.leavesNodes = true → may h c) (h : Hist Resp) :
    p.Conforms (Issues may) (fun _ _ => True) h :=
  conforms_weaken hmay (hp h)

theorem authResponse_leaves {id : Uuid} {success : Bool} {res : Except String Uuid}
    {unsent : String} : Leaves (authResponse S k id success res unsent) := by
  refine .call rfl fun sent => ?_
  cases sent <;> exact .ret _

theorem authenticateNodeJwt_leaves {token : String} : Leaves (authenticateNodeJwt token) := by
  refine .call rfl fun decoded => ?_
  cases decoded with
  | error err => exact .ret _
  | ok claims =>
      refine .call rfl fun found => ?_
      cases found with
      | error err => exact .ret _
      | ok node =>
          simp only []
          split <;> exact .ret _

theorem handleNodeAuth_leaves {token : String} : Leaves (handleNodeAuth S k token n) := by
  refine authenticateNodeJwt_leaves.then fun res => ?_
  cases res with
  | error err => exact authResponse_leaves
  | ok authId =>
      simp only []
      split
      · exact authResponse_leaves
      · refine .call rfl fun found => ?_
        match found with
        | .ok (some claim) =>
            simp only []
            split <;> exact authResponse_leaves
        | .ok none => exact authResponse_leaves
        | .error err => exact authResponse_leaves

theorem nodeWaitForAuth_leaves : Leaves (nodeWaitForAuth S k) := by
  refine .call rfl fun m => ?_
  split
  all_goals try exact .ret _
  split
  · exact handleNodeAuth_leaves
  · exact .ret _

theorem rejectNodeSocket_leaves : Leaves (rejectNodeSocket k) :=
  .call rfl fun _ => .call rfl fun _ =>
    .call rfl fun _ => .ret _

theorem notifyClientByCid_leaves {cid : Uuid} {frame : WebFrameData} :
    Leaves (notifyClientByCid cid frame) := by
  refine .call rfl fun found => ?_
  cases found with
  | none => exact .ret _
  | some connection =>
      refine .call rfl fun sent => ?_
      cases sent <;> exact .ret _

theorem handleFrameResponse_leaves {frame : WebFrameData} {id : WebFrameId} :
    Leaves (handleFrameResponse n frame id) := by
  cases id with
  | connectionId cid => exact notifyClientByCid_leaves.then fun _ => .ret _
  | sessionId sid =>
      refine Leaves.then (.call rfl fun found => ?_) fun res => ?_
      · cases found with
        | none => exact .ret _
        | some pair =>
            simp only []
            split <;> exact .ret _
      · cases res with
        | error err => exact .ret _
        | ok cid => exact notifyClientByCid_leaves.then fun _ => .ret _

/-- A frame about a tunnel, or for a client. -/
theorem handleNodeFrame_leaves {frame : NodeFrameData}
    (hframe : ∀ stats sentAt, frame ≠ .heartbeat stats sentAt) :
    Leaves (handleNodeFrame n frame) := by
  cases frame with
  | heartbeat stats sentAt => exact absurd rfl (hframe stats sentAt)
  | tunnelOpened protocol cid sid msgId =>
      exact Leaves.then (.call rfl fun _ =>
        notifyClientByCid_leaves.then fun _ => .ret _) fun _ => .ret _
  | tunnelClosed protocol cid sid msgId =>
      exact Leaves.then (.call rfl fun _ =>
        notifyClientByCid_leaves.then fun _ => .ret _) fun _ => .ret _
  | webFrame frame id => exact handleFrameResponse_leaves.then fun _ => .ret _
  | _ => exact .ret _

theorem closeSessions_leaves {found : List (TunnelSessionKey × Uuid × Uuid)} {count : UInt32} :
    Leaves (closeSessions found count) := by
  induction found generalizing count with
  | nil => exact .ret _
  | cons entry found ih =>
      refine .call rfl fun _ => notifyClientByCid_leaves.then fun res => ?_
      cases res <;> exact ih

theorem notifyAllClients_leaves {start visited : List TunnelSessionKey}
    {found : List (TunnelSessionKey × Uuid × Uuid)} :
    Leaves (notifyAllClientsForClosedTunnel k n start visited found) := by
  refine .call rfl fun next => ?_
  cases next with
  | none => exact closeSessions_leaves.then fun _ => .call rfl fun _ => .ret _
  | some entry =>
      obtain ⟨key, value⟩ := entry
      simp only []
      split <;> exact .ret _

end Parts

end Phirepass.Server
