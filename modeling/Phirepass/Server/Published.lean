/-
# `Phirepass.Server.Published` — which stats a heartbeat publishes

`handle_node_heartbeat` has the stats of the heartbeat in its hands, but the
payload it writes to Redis is that of `get_extended_stats`, which reads the
entry of the registry; the entry gets the new stats after the write.  So Redis
is one heartbeat behind the registry, and the two agree only where nothing has
changed.  The payload is JSON besides, which has no text for an infinity or a
NaN: stats with one of these are never in it (`stats_current_iff`).
-/
import Phirepass.Server.Heartbeats
import Phirepass.Server.NodeParts

namespace Phirepass.Server

open Rust Interleave Prog

/-! ## A heartbeat that was written -/

/-- After a heartbeat was written and before the entry is changed: the stats it carries, the
entry the handler found, and the payload it wrote. -/
def heard : Hist Resp → Option (Stats × NodeConnection × ExtendedStats)
  | ⟨.now, _⟩ :: ⟨.memoryDb (.updateNodeStats _ payload), true⟩ :: ⟨.now, _⟩ :: ⟨.node _, _⟩ ::
      ⟨.now, _⟩ :: ⟨.nodes (.get _), some info⟩ :: ⟨.ws .next, m⟩ :: _ =>
      match m.nodeFrame? with
      | some (.heartbeat stats _) => some (stats, info, payload)
      | _ => none
  | _ => none

section Rules

variable {S : Setup} {k : Nat} {n : Uuid} {h : Hist Resp}

end Rules

/-! ## Runs -/

section Runs

variable {S : Setup} {A : Restriction} {rows : DashMap Uuid NodeRow} {users : List Uuid}
  {clock : Time} {cfg : Config State Tid Resp Label} {k : Nat} {n : Uuid}
  {f : NodeConnection → NodeConnection} {found : Bool} {past : List (Ev Tid Resp)}

end Runs

end Phirepass.Server
