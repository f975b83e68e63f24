/-
# `Phirepass.System.Pipeline` — from the queue of a connection to the handler of its socket

    queued k → dequeued k → sent k → wire → received k
    queue      writer       socket   wire   handler

Each arrow keeps the order, and each stage may end: the writer with its
socket, the wire with the handler.  So what the handler of socket `k` reads,
the login apart, is a beginning of what was put into the queue of connection
`k` (`received_queued`).
-/
import Phirepass.Agent.Streams
import Phirepass.System.Network

namespace Phirepass.System

open Rust Interleave

/-- The frames that are put on the wire of connection `k`. -/
def wired (k : Nat) (_ : List (Ev Agent.Tid Agent.Resp)) : Ev Agent.Tid Agent.Resp →
    List NodeFrameData
  | ⟨_, .ws j (.send ⟨_, _, .node g⟩), true⟩ => if j = k then [g] else []
  | _ => []

/-- The frames the handler of socket `k` reads. -/
def received (k : Nat) (_ : List (Ev Server.Tid Server.Resp)) : Ev Server.Tid Server.Resp →
    List NodeFrameData
  | ⟨.node j, .ws .next, m⟩ => if j = k then (Incoming.nodeFrame? m).toList else []
  | _ => []

/-- The frame is no login. -/
def pastLogin : NodeFrameData → Bool
  | .auth .. => false
  | _ => true

section Received

variable {tr past : List (Ev Server.Tid Server.Resp)} {k : Nat} {m m' : Incoming}
  {g g' : NodeFrameData}

theorem received_next : received k past ⟨.node k, .ws .next, m⟩ = m.nodeFrame?.toList := if_pos rfl

/-- Of two messages the handler reads, the first is received first. -/
theorem pairwise_of_read {ρ : NodeFrameData → NodeFrameData → Prop}
    (hpair : ((stream (received k) tr).filter pastLogin).Pairwise ρ)
    (hs : ⟨.node k, .ws .next, m⟩ :: past <:+ tr) (hm : m.nodeFrame? = some g)
    (hin : (⟨.node k, .ws .next, m'⟩ : Ev Server.Tid Server.Resp) ∈ past)
    (hm' : m'.nodeFrame? = some g') (hg : pastLogin g = true) (hg' : pastLogin g' = true) :
    ρ g' g := by
  have hpre := (stream_of_suffix (f := received k) hs).filter pastLogin
  rw [stream_cons, List.filter_append, received_next, hm] at hpre
  refine (List.pairwise_append.1 (List.Pairwise.sublist hpre.sublist hpair)).2.2 g' ?_ g ?_
  · obtain ⟨before, hbefore⟩ := exists_past hin
    refine List.mem_filter.2 ⟨mem_stream.2 ⟨_, before, hbefore, ?_⟩, hg'⟩
    rw [received_next, hm']
    exact List.mem_singleton_self _
  · exact List.mem_filter.2 ⟨List.mem_singleton_self _, hg⟩

end Received

section Wire

variable {wire rest : List NodeFrameData} {w w' : Wires} {k : Nat}

/-- What is read comes off the front. -/
theorem eq_of_receive {m : Incoming} (h : receive wire m = some rest) :
    wire = m.nodeFrame?.toList ++ rest := by
  match m with
  | some (.ok (.binary (.ok ⟨_, _, .node g⟩))) =>
      simp only [receive] at h
      split at h
      · split at h
        · next heq =>
            cases h
            rw [heq]
            rfl
        · cases h
      · cases h
  | none | some (.error ()) | some (.ok .close) | some (.ok .other) =>
      cases h
      rfl
  | some (.ok (.binary (.error _))) | some (.ok (.binary (.ok ⟨_, _, .web _⟩))) => cases h

/-- A command of the server takes what it reads off the wire. -/
theorem up_of_serverWire {i : Server.Tid} {c : Server.Cmd} {r : Server.Resp c}
    {past : List (Ev Server.Tid Server.Resp)} (hw : serverWire i c r w = some w') :
    w.up k = received k past ⟨i, c, r⟩ ++ w'.up k := by
  unfold serverWire at hw
  split at hw
  · next j m =>
      obtain ⟨rest, hrest, rfl⟩ := Option.map_eq_some_iff.1 hw
      show w.up k = (if j = k then m.nodeFrame?.toList else []) ++ Function.update w.up j rest k
      rcases eq_or_ne k j with rfl | hj
      · rw [if_pos rfl, Function.update_self]
        exact eq_of_receive hrest
      · rw [if_neg hj.symm, Function.update_of_ne hj, List.nil_append]
  · cases hw
    rfl
  · next hread _ =>
      cases hw
      have hnone : received k past ⟨i, c, r⟩ = [] := by
        unfold received
        split
        · next heq =>
            cases heq
            exact absurd HEq.rfl (hread _ _ rfl rfl)
        · rfl
      rw [hnone, List.nil_append]

/-- A command of the agent puts what it sends on the wire. -/
theorem up_of_agentWire {i : Agent.Tid} {c : Agent.Cmd} {r : Agent.Resp c}
    {past : List (Ev Agent.Tid Agent.Resp)} (hw : agentWire i c r w = some w') :
    w'.up k = w.up k ++ wired k past ⟨i, c, r⟩ := by
  unfold agentWire at hw
  split at hw
  · obtain ⟨rest, -, rfl⟩ := Option.map_eq_some_iff.1 hw
    exact (List.append_nil _).symm
  · next j version encoding g =>
      cases hw
      show Function.update w.up j (w.up j ++ [g]) k = w.up k ++ if j = k then [g] else []
      rcases eq_or_ne k j with rfl | hj
      · rw [Function.update_self, if_pos rfl]
      · rw [Function.update_of_ne hj, if_neg hj.symm, List.append_nil]
  · next hsend =>
      cases hw
      have hnone : wired k past ⟨i, c, r⟩ = [] := by
        unfold wired
        split
        · next heq =>
            cases heq
            exact absurd HEq.rfl (hsend _ _ _ _ rfl)
        · rfl
      rw [hnone, List.append_nil]

end Wire

section Pipeline

variable {Ss : Server.Setup} {Sa : Agent.Setup} {As : Server.Restriction} {Aa : Agent.Restriction}
  {rows : DashMap Uuid Server.NodeRow} {users : List Uuid} {clock : Server.Time} {cfg : Network}

/-- **The wire keeps its order.** -/
theorem wired_received (h : (network Ss Sa).Reach As Aa (start rows users clock) cfg) :
    ∀ k, stream (wired k) cfg.right.world.trace =
      stream (received k) cfg.left.world.trace ++ cfg.wire.up k := by
  refine h.inv (fun ws wa w => ∀ k, stream (wired k) wa.trace =
    stream (received k) ws.trace ++ w.up k) (fun _ => rfl) ?_ ?_
  · intro cfg i c r s w hI hw k
    rw [hI k, World.push_trace, stream_cons, List.append_assoc]
    exact congrArg _ (up_of_serverWire hw)
  · intro cfg i c r s w hI hw k
    rw [World.push_trace, stream_cons, hI k, List.append_assoc]
    exact congrArg _ (up_of_agentWire hw).symm

/-- What is put on the wire, the login apart, the writer of the connection sends. -/
theorem wired_sent {A : Agent.Restriction}
    {cfg : Config Agent.State Agent.Tid Agent.Resp Agent.Label}
    (hr : (Agent.machine Sa).Reach A Agent.start cfg) (k : Nat) :
    (stream (wired k) cfg.world.trace).filter pastLogin =
      (stream (Agent.sent k) cfg.world.trace).filter pastLogin := by
  rw [← List.filterMap_eq_filter, filterMap_stream, filterMap_stream]
  refine stream_congr fun e past hs => ?_
  obtain ⟨i, c, r⟩ := e
  rw [List.filterMap_eq_filter]
  by_cases hsend : ∃ j version encoding g,
      (⟨c, r⟩ : Sigma Agent.Resp) = ⟨.ws j (.send ⟨version, encoding, .node g⟩), true⟩
  · obtain ⟨j, version, encoding, g, heq⟩ := hsend
    cases heq
    rcases (Agent.may_of_event hr hs).writes with ⟨g', h', rfl, -⟩ | ⟨token, nodeId, version', hauth⟩
    · rfl
    · -- the login, by whichever task
      cases hauth
      have hlogin (p : Prop) [Decidable p] :
          (if p then [NodeFrameData.auth token nodeId version'] else []).filter pastLogin = [] := by
        split <;> rfl
      cases i with
      | writer j' => exact (hlogin (j = k)).trans (hlogin (j' = k)).symm
      | _ => exact hlogin (j = k)
  · have hwired : wired k past ⟨i, c, r⟩ = [] := by
      unfold wired
      split
      · next heq =>
          cases heq
          exact absurd ⟨_, _, _, _, rfl⟩ hsend
      · rfl
    have hsent : Agent.sent k past ⟨i, c, r⟩ = [] := by
      unfold Agent.sent
      split
      · next heq =>
          cases heq
          exact absurd ⟨_, _, _, _, rfl⟩ hsend
      · rfl
    rw [hwired, hsent]

/-- **What the handler of a socket reads**, the login apart, is a beginning of what was put into
the queue of that connection, if no socket sends again once it has failed. -/
theorem received_queued (hD : ∀ w i c r, Aa w i c r → Agent.SocketDies w i c r)
    (h : (network Ss Sa).Reach As Aa (start rows users clock) cfg) (k : Nat) :
    (stream (received k) cfg.left.world.trace).filter pastLogin <+:
      (stream (Agent.queued k) cfg.right.world.trace).filter pastLogin := by
  have hr := agent_reach h
  have hread : stream (received k) cfg.left.world.trace <+:
      stream (wired k) cfg.right.world.trace := by
    rw [wired_received h k]
    exact List.prefix_append _ _
  have hsent := (Agent.dequeued_sent hD hr k).isPrefix
  have hqueue : stream (Agent.dequeued k) cfg.right.world.trace <+:
      stream (Agent.queued k) cfg.right.world.trace := by
    rw [Agent.queued_dequeued hr k]
    exact List.prefix_append _ _
  have hwired := hread.filter pastLogin
  rw [wired_sent hr k] at hwired
  exact hwired.trans ((hsent.trans hqueue).filter pastLogin)

/-- **And in any case it reads them in their order**, if not all of them. -/
theorem received_sublist (h : (network Ss Sa).Reach As Aa (start rows users clock) cfg) (k : Nat) :
    ((stream (received k) cfg.left.world.trace).filter pastLogin).Sublist
      ((stream (Agent.queued k) cfg.right.world.trace).filter pastLogin) := by
  have hr := agent_reach h
  have hread : (stream (received k) cfg.left.world.trace).Sublist
      (stream (wired k) cfg.right.world.trace) := by
    rw [wired_received h k]
    exact List.sublist_append_left _ _
  have hqueue : (stream (Agent.dequeued k) cfg.right.world.trace).Sublist
      (stream (Agent.queued k) cfg.right.world.trace) := by
    rw [Agent.queued_dequeued hr k]
    exact List.sublist_append_left _ _
  have hwired := hread.filter pastLogin
  rw [wired_sent hr k] at hwired
  exact hwired.trans (((Agent.sent_sublist hr k).trans hqueue).filter pastLogin)

end Pipeline

end Phirepass.System
