/-
# `Phirepass.System.Lifecycle` — what is left of a tunnel whose task has returned

Two maps hold a tunnel while it is there: `TunnelSessions` of its connection,
and `tunnel_sessions` of the server.  Neither is the task's own:

    the agent's     whoever shuts the tunnel down takes its handle out first
    the server's    the handler removes the binding on `TunnelClosed`

A task that was sent its signal and whose disconnect succeeds leaves nothing
in either (`lifecycle_completed`).  A task that ends because its host hangs up
leaves its handle in the first (`handle_left`), and one whose disconnect fails
its binding in the second (`binding_left`).
-/
import Phirepass.Agent.Endings
import Phirepass.Server.Unbinding
import Phirepass.System.Outbound
import Phirepass.System.Pipeline

namespace Phirepass.System

open Rust Interleave

/-- The task `t` of the tunnel `tn` has returned, it lost no frame to a full queue, and the
server, which knows its node as `n`, is done with every frame it emitted. -/
structure Over (cfg : Network) (t : Nat) (tn : Agent.Tunnel) (n : Uuid) : Prop where
  began : Agent.IsTunnel cfg.right.world.trace t tn
  returned : (⟨.tunnel t, .finish, ()⟩ : Ev Agent.Tid Agent.Resp) ∈ cfg.right.world.trace
  room : ∀ g, ¬ Agent.Refused .full tn.conn g (own (.tunnel t) cfg.right.world.trace)
  registered : Server.Registered cfg.left.world.trace tn.conn n
  handled : ∀ g, Agent.Emitted cfg.right.world.trace (.tunnel t) tn.conn g →
    Server.Handled cfg.left.world.trace tn.conn g

/-- A tunnel that is over is in neither map. -/
def LifecycleCompleted (cfg : Network) : Prop :=
  ∀ t tn n, Over cfg t tn n →
    (cfg.right.world.state.sessions tn.conn).lookup (tn.cid, tn.sid) = none ∧
      cfg.left.world.state.tunnelSessions.lookup ⟨n, tn.sid⟩ = none

/-- No session id is given out twice, and every task that returns was shut down and has been
heard to end, or never heard of. -/
def EndsInOrder : Agent.Restriction := fun w i c r =>
  Agent.FreshIds w i c r ∧ Agent.EndsOnSignal w i c r

section Lifecycle

variable {Ss : Server.Setup} {Sa : Agent.Setup} {As : Server.Restriction} {Aa : Agent.Restriction}
  {rows : DashMap Uuid Server.NodeRow} {users : List Uuid} {clock : Server.Time} {cfg : Network}
  {t : Nat} {tn : Agent.Tunnel} {n : Uuid}

theorem opens_ne_false {protocol : UInt8} {cid : Uuid} {sid : UInt32} {msgId : Option UInt32} :
    (NodeFrameData.tunnelOpened protocol cid sid msgId).opens sid ≠ false := by
  simp [NodeFrameData.opens]

/-- A binding under the session id of a tunnel goes back to the report of its task. -/
theorem reported_of_bound (hA : ∀ w i c r, Aa w i c r → Agent.FreshIds w i c r)
    (hr : (network Ss Sa).Reach As Aa (start rows users clock) cfg)
    (htn : Agent.IsTunnel cfg.right.world.trace t tn)
    (hbound : cfg.left.world.state.tunnelSessions.lookup ⟨n, tn.sid⟩ ≠ none) :
    Server.openedOver ⟨n, tn.sid⟩ cfg.left.world.trace = some tn.conn ∧
      ∃ protocol msgId, Agent.Emitted cfg.right.world.trace (.tunnel t) tn.conn
        (.tunnelOpened protocol tn.cid tn.sid msgId) := by
  obtain ⟨⟨cid, m⟩, hentry⟩ := Option.ne_none_iff_exists'.1 hbound
  obtain ⟨k, protocol, msgId, hover, hsent⟩ :=
    Server.opened_of_bound (server_reach hr) _ cid m hentry
  obtain ⟨t', tn', htn', rfl, rfl, hsid, hemit⟩ := emitted_of_sent hr hsent
  obtain ⟨rfl, rfl⟩ := Agent.tunnel_fresh hA (agent_reach hr) htn htn' hsid.symm
  exact ⟨hover, protocol, msgId, hemit⟩

/-- **Once the server is done with `TunnelClosed`**, the session is not bound any more. -/
theorem unbound_of_closed (hA : ∀ w i c r, Aa w i c r → Agent.FreshIds w i c r)
    (hr : (network Ss Sa).Reach As Aa (start rows users clock) cfg)
    (htn : Agent.IsTunnel cfg.right.world.trace t tn)
    (hreg : Server.Registered cfg.left.world.trace tn.conn n) {protocol : UInt8} {cid : Uuid}
    {msgId : Option UInt32} (hdone : Server.Handled cfg.left.world.trace tn.conn
      (.tunnelClosed protocol cid tn.sid msgId)) :
    cfg.left.world.state.tunnelSessions.lookup ⟨n, tn.sid⟩ = none := by
  have hserver := server_reach hr
  have hagent := agent_reach hr
  by_contra hbound
  obtain ⟨hover, -⟩ := reported_of_bound hA hr htn hbound
  obtain ⟨m, r, past, hm, hremove, hread⟩ := Server.unbound_of_handled hserver hreg hdone
  obtain ⟨m', protocol', cid', msgId', before, hs, hm', hbehind⟩ :=
    Server.reopened_of_bound hserver hremove hover
  -- the report that it is open was read behind the one that it is closed
  have hlast := Agent.closes_last (fun _ _ _ _ h => h.2)
    (hagent.restrict Agent.Sole.mono (Agent.sole_of_fresh hA hagent htn))
  have hpair := List.Pairwise.sublist (received_sublist hr tn.conn) (hlast.filter _)
  exact opens_ne_false (pairwise_of_read hpair hs hm' (hbehind.subset hread) hm rfl rfl
    (beq_self_eq_true _))

/-- **A tunnel leaves nothing behind**, in every run of the server with the agents of one node in
which tasks return in order: once its task has returned and the server has handled its
frames, it is in neither map. -/
theorem lifecycle_completed
    (hr : (network Ss Sa).Reach Free EndsInOrder (start rows users clock) cfg) :
    LifecycleCompleted cfg := by
  intro t tn n ⟨htn, hfinish, hroom, hreg, hhandled⟩
  have hagent := agent_reach hr
  have hfresh : ∀ w i c r, EndsInOrder w i c r → Agent.FreshIds w i c r := fun _ _ _ _ h => h.1
  obtain ⟨past, hs⟩ := exists_past hfinish
  have hpast := (List.suffix_cons _ _).trans hs
  obtain ⟨⟨i, hsignal⟩, hsettled⟩ :=
    Agent.settled_of_finish (fun _ _ _ _ h => h.2) hagent htn hs
  refine ⟨Agent.session_gone hfresh hagent htn ⟨i, hpast.subset hsignal⟩, ?_⟩
  cases hsettled with
  | parted hparted hopen =>
      have hclosed := Agent.closed_of_parted hagent htn hs hparted fun why hrefused => by
        cases why with
        | full => exact hroom _ ((own_suffix _ hpast).subset hrefused)
        | closed => exact hopen hrefused
      exact unbound_of_closed hfresh hr htn hreg (hhandled _ hclosed)
  | dark hp hdark =>
      by_contra hbound
      obtain ⟨-, protocol, msgId, hemit⟩ := reported_of_bound hfresh hr htn hbound
      exact opens_ne_false (Agent.unopened_of_dark hagent htn hp hs hdark hemit)
  | unheard hclosed =>
      by_contra hbound
      obtain ⟨-, protocol, msgId, hemit⟩ := reported_of_bound hfresh hr htn hbound
      exact opens_ne_false (Agent.unopened_of_unheard hagent htn
        ((own_suffix _ hpast).subset hclosed) hemit)

end Lifecycle

/-! ## Two runs -/

/-- The event gives out the session id `sid`. -/
def givesOut (sid : UInt32) : Ev Agent.Tid Agent.Resp → Bool
  | ⟨_, .generateSessionId _, sid'⟩ => sid' == sid
  | _ => false

/-- The event sends the task `t` its shutdown signal. -/
def stops (t : Nat) : Ev Agent.Tid Agent.Resp → Bool
  | ⟨_, .stop t', _⟩ => t' == t
  | _ => false

/-- The task `t` disconnects from its host. -/
def parts (t : Nat) : Sigma Agent.Resp → Bool
  | ⟨.ssh t' .disconnect, .ok _⟩ => t' == t
  | _ => false

/-- A frame meets a closed queue, or a full one. -/
def refuses (why : TrySendError) : Sigma Agent.Resp → Bool
  | ⟨.out (.trySend _ _), .error why'⟩ => why' == why
  | _ => false

/-- Whether a draw of a session id meets the condition, and the end of a task. -/
def endsInOrder (w : World Agent.State Agent.Tid Agent.Resp) :
    Agent.Tid → (c : Agent.Cmd) → Agent.Resp c → Bool
  | _, .generateSessionId _, sid => !w.trace.any (givesOut sid)
  | .tunnel t, .finish, _ => w.trace.any (stops t) && (own (.tunnel t) w.trace).any (parts t) &&
      !(own (.tunnel t) w.trace).any (refuses .closed)
  | _, _, _ => true

theorem not_refused_of_check {why : TrySendError} {k : Nat} {g : NodeFrameData}
    {h : Hist Agent.Resp} (hnone : h.any (refuses why) = false) : ¬ Agent.Refused why k g h := by
  intro hrefused
  rw [List.any_eq_false] at hnone
  exact hnone _ hrefused (beq_self_eq_true why)

theorem signalled_of_check {t : Nat} {tr : List (Ev Agent.Tid Agent.Resp)}
    (h : tr.any (stops t) = true) : Agent.Signalled t tr := by
  obtain ⟨e, hmem, he⟩ := List.any_eq_true.1 h
  unfold stops at he
  split at he
  · obtain rfl := beq_iff_eq.1 he
    exact ⟨_, hmem⟩
  · cases he

theorem endsInOrder_sound (w : World Agent.State Agent.Tid Agent.Resp) (i : Agent.Tid)
    (c : Agent.Cmd) (r : Agent.Resp c) (h : endsInOrder w i c r = true) : EndsInOrder w i c r := by
  refine ⟨fun k sid heq j k' hmem => ?_, fun t tn hi hc hb => ?_⟩
  · cases heq
    rw [endsInOrder, Bool.not_eq_true', List.any_eq_false] at h
    exact h _ hmem (beq_self_eq_true sid)
  · subst hi hc
    rw [endsInOrder, Bool.and_eq_true, Bool.and_eq_true, Bool.not_eq_true'] at h
    obtain ⟨⟨hstopped, hparts⟩, hnone⟩ := h
    refine ⟨signalled_of_check hstopped, .parted ?_ (not_refused_of_check hnone)⟩
    obtain ⟨e, hmem, he⟩ := List.any_eq_true.1 hparts
    unfold parts at he
    split at he
    · obtain rfl := beq_iff_eq.1 he
      exact hmem
    · cases he

/-- What the tunnel task `t` put into the queue of connection `k`. -/
def reported (t k : Nat) (tr : List (Ev Agent.Tid Agent.Resp)) : List NodeFrameData :=
  (tr.filter fun e => e.tid == .tunnel t).flatMap (Agent.queued k [])

/-- The tunnel `0` of client `77` has begun, as session `1`. -/
def beginsSession : Ev Agent.Tid Agent.Resp → Bool
  | ⟨.tunnel 0, .begin 0, tn⟩ => tn.conn == 0 && tn.cid == 77 && tn.sid == 1
  | _ => false

/-- The event is the return of tunnel `0`. -/
def returns : Ev Agent.Tid Agent.Resp → Bool
  | ⟨.tunnel 0, .finish, _⟩ => true
  | _ => false

/-- Tunnel `0` is over: its task has returned, and the handler of its node has read all it emitted
and is at rest. -/
def isOver (cfg : Network) : Bool :=
  cfg.right.world.trace.any beginsSession && cfg.right.world.trace.any returns &&
    !(own (.tunnel 0) cfg.right.world.trace).any (refuses .full) &&
    decide (Server.Registered cfg.left.world.trace 0 10) &&
    decide (Server.unanswered (own (.node 0) cfg.left.world.trace) = none) &&
    (reported 0 0 cfg.right.world.trace).all
      fun g => decide (g ∈ stream (received 0) cfg.left.world.trace)

theorem over_of_check {cfg : Network} (h : isOver cfg = true) :
    ∃ tn, tn.conn = 0 ∧ tn.cid = 77 ∧ tn.sid = 1 ∧ Over cfg 0 tn 10 := by
  simp only [isOver, Bool.and_eq_true, Bool.not_eq_true', decide_eq_true_eq, List.any_eq_true,
    List.all_eq_true] at h
  obtain ⟨⟨⟨⟨⟨⟨e, hbegan, he⟩, e', hreturned, he'⟩, hroom⟩, hreg⟩, hrest⟩, hall⟩ := h
  unfold beginsSession at he
  split at he
  · next tn =>
      rw [Bool.and_eq_true, Bool.and_eq_true, beq_iff_eq, beq_iff_eq, beq_iff_eq] at he
      obtain ⟨⟨hconn, hcid⟩, hsid⟩ := he
      refine ⟨tn, hconn, hcid, hsid, ⟨hbegan, ?_, fun g => not_refused_of_check hroom, ?_, ?_⟩⟩
      · unfold returns at he'
        split at he'
        · exact hreturned
        · cases he'
      · rw [hconn]
        exact hreg
      · rintro g ⟨c, r, hmem, hemit⟩
        rw [hconn] at hemit ⊢
        have hin : g ∈ reported 0 0 cfg.right.world.trace :=
          List.mem_flatMap.2 ⟨_, List.mem_filter.2 ⟨hmem, beq_self_eq_true _⟩,
            Agent.mem_queued.2 hemit⟩
        obtain ⟨⟨i, c', m⟩, past, hs, hg⟩ := mem_stream.1 (hall g hin)
        unfold received at hg
        split at hg
        · next heq =>
            cases heq
            split at hg
            · next hj =>
                subst hj
                exact ⟨_, _, Option.mem_toList.1 hg, List.suffix_rfl,
                  mem_own.2 (hs.subset List.mem_cons_self), hrest⟩
            · cases hg
        · cases hg
  · cases he

/-- The browser closes its socket, the agent is told, and its reader shuts the session down. -/
def leave : Schedule :=
  onServer ((.web 0, { incoming := some (.ok .close) }) :: Server.idle (.web 0) 6 ++
    [(.web 0, { pick := some 10 })] ++ Server.idle (.web 0) 4) ++ sendDown 0 ++
    onAgent (Agent.sayGoodbye [])

/-- The shell is shut down, and the server hears of it. -/
def windDown : Schedule :=
  onAgent ((.tunnel 0, { branch := .shutdown }) :: Agent.idle (.tunnel 0) 5) ++
    sendUp 0 (.tunnelClosed 0 77 1 (some 1)) 3

/-- It is shut down, its host does not let go of it, and the server hears of that. -/
def breakDown : Schedule :=
  onAgent ((.tunnel 0, { branch := .shutdown }) :: Agent.idle (.tunnel 0) 1 ++
      [(.tunnel 0, { fail := true, text := "gone" })] ++ Agent.idle (.tunnel 0) 4) ++
    sendUp 0 (.webFrame (.error .generic "russh error: gone" (some 1)) (.sessionId 1)) 3

/-- The browser leaves, and its shell is gone from both maps. -/
theorem lifecycle_completed_of_leave :
    ∃ cfg tn, (sampleNetwork fun _ => 0).Reach Free EndsInOrder sampleStart cfg ∧
      Over cfg 0 tn 10 ∧ LifecycleCompleted cfg := by
  have hrun : ((sampleNetwork fun _ => 0).run (fun _ _ _ _ => true) endsInOrder
      (shell ++ leave ++ windDown) sampleStart).any isOver = true := by
    decide +kernel
  obtain ⟨cfg, hr, hend⟩ : ∃ cfg, (sampleNetwork fun _ => 0).Reach Free EndsInOrder sampleStart cfg ∧
      isOver cfg = true := Link.reach_of_run (fun _ _ _ _ _ => trivial) endsInOrder_sound hrun
  obtain ⟨tn, -, -, -, hover⟩ := over_of_check hend
  exact ⟨cfg, tn, hr, hover, lifecycle_completed hr⟩

/-- **A tunnel whose host hangs up leaves its handle behind.** -/
theorem handle_left :
    ∃ cfg, (sampleNetwork fun _ => 0).Reach Free Free sampleStart cfg ∧ ¬ LifecycleCompleted cfg := by
  have hrun : (follow (fun _ => 0) (shell ++ hangUp 0 0 77 1)).any (fun cfg => isOver cfg &&
      ((cfg.right.world.state.sessions 0).lookup (77, 1)).isSome) = true := by
    decide +kernel
  obtain ⟨cfg, hr, hend⟩ := reach_of_follow hrun
  rw [Bool.and_eq_true] at hend
  obtain ⟨tn, hconn, hcid, hsid, hover⟩ := over_of_check hend.1
  refine ⟨cfg, hr, fun hall => ?_⟩
  have hnone := (hall 0 tn 10 hover).1
  rw [hconn, hcid, hsid] at hnone
  rw [hnone] at hend
  exact Bool.noConfusion hend.2

/-- **And one whose disconnect fails leaves its binding**, though it was shut down. -/
theorem binding_left :
    ∃ cfg tn, (sampleNetwork fun _ => 0).Reach Free Free sampleStart cfg ∧ Over cfg 0 tn 10 ∧
      Agent.Signalled 0 cfg.right.world.trace ∧
      (cfg.left.world.state.tunnelSessions.lookup ⟨10, tn.sid⟩).isSome = true := by
  have hrun : (follow (fun _ => 0) (shell ++ leave ++ breakDown)).any (fun cfg => isOver cfg &&
      cfg.right.world.trace.any (stops 0) &&
      (cfg.left.world.state.tunnelSessions.lookup ⟨10, 1⟩).isSome) = true := by
    decide +kernel
  obtain ⟨cfg, hr, hend⟩ := reach_of_follow hrun
  rw [Bool.and_eq_true, Bool.and_eq_true] at hend
  obtain ⟨⟨hend, hstopped⟩, hbound⟩ := hend
  obtain ⟨tn, -, -, hsid, hover⟩ := over_of_check hend
  refine ⟨cfg, tn, hr, hover, signalled_of_check hstopped, ?_⟩
  rw [hsid]
  exact hbound

end Phirepass.System
