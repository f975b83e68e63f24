/-
# `Phirepass.System.Phases` — what a browser hears of a session, in its order

    TunnelOpened    output and replies    TunnelClosed

The two ends come from different places.  A tunnel reports itself open before
it has sent anything (`Agent.Silent`), and closed when nothing of its code is
left to run but the bookkeeping (`Agent.ReplyMay.talks`).  Behind it are two
queues with their writers, a wire and the node's task, and none of them
reorders.  So whatever is lost on the way, what the server hands to browsers
from a session is a part of that line (`session_in_phases`): nothing before
the opening, nothing after the end, and neither twice.

One socket of a node is meant.  When the process of the agent starts again,
session ids do too, but then there is another socket.
-/
import Phirepass.System.Replies

namespace Phirepass.System

open Rust Interleave

/-! ## Phases -/

/-- Where in the life of its session a frame stands. -/
inductive SessionPhase where
  | opened
  | running
  | closed
deriving DecidableEq

/-- The phase of the session `sid` that a frame for a browser belongs to. -/
def phase (sid : UInt32) : WebFrameData → Option SessionPhase
  | .tunnelOpened _ sid' _ => if sid' = sid then some .opened else none
  | .tunnelClosed _ sid' _ => if sid' = sid then some .closed else none
  | frame =>
      if (frame.output sid).isSome ∨ Agent.replySid frame = some sid then some .running else none

/-- The same of a frame an agent sends. -/
def phaseIn (sid : UInt32) : NodeFrameData → Option SessionPhase
  | .tunnelOpened _ _ sid' _ => if sid' = sid then some .opened else none
  | .tunnelClosed _ _ sid' _ => if sid' = sid then some .closed else none
  | .webFrame frame _ => phase sid frame
  | _ => none

/-- Nothing comes behind the end, and nothing before the opening. -/
def SessionPhase.precedes : SessionPhase → SessionPhase → Prop
  | .closed, _ | _, .opened => False
  | .opened, _ | .running, _ => True

theorem SessionPhase.precedes_of_ne {p p' : SessionPhase} (hp : p ≠ .closed) (hp' : p' ≠ .opened) :
    p.precedes p' := by
  cases p <;> cases p' <;> trivial

/-- A session is opened, runs, and is closed; either end may be lost. -/
def InPhases (l : List SessionPhase) : Prop :=
  ∃ start middle last, l = start ++ middle ++ last ∧ (start = [] ∨ start = [.opened]) ∧
    (∀ p ∈ middle, p = .running) ∧ (last = [] ∨ last = [.closed])

theorem inPhases_of_pairwise {l : List SessionPhase} (h : l.Pairwise SessionPhase.precedes) :
    InPhases l := by
  induction l with
  | nil => exact ⟨[], [], [], rfl, .inl rfl, fun p hp => absurd hp List.not_mem_nil, .inl rfl⟩
  | cons p l ih =>
      obtain ⟨hp, hl⟩ := List.pairwise_cons.1 h
      obtain ⟨start, middle, last, rfl, hstart, hmiddle, hlast⟩ := ih hl
      -- there is no opening behind `p`
      obtain rfl : start = [] := hstart.resolve_right fun heq => by
        subst heq
        have hopened := hp .opened (List.mem_append_left _ List.mem_cons_self)
        cases p <;> exact hopened
      cases p with
      | opened => exact ⟨[.opened], middle, last, rfl, .inr rfl, hmiddle, hlast⟩
      | running =>
          refine ⟨[], .running :: middle, last, rfl, .inl rfl, fun p hp => ?_, hlast⟩
          rcases List.mem_cons.1 hp with rfl | hp
          · rfl
          · exact hmiddle p hp
      | closed =>
          have hnil : [] ++ middle ++ last = [] :=
            List.eq_nil_iff_forall_not_mem.2 fun p' hp' => hp p' hp'
          exact ⟨[], [], [.closed], by rw [hnil]; rfl, .inl rfl,
            fun p hp => absurd hp List.not_mem_nil, .inr rfl⟩

/-! ## On the agent -/

section Agent

variable {S : Agent.Setup} {A : Agent.Restriction}
  {cfg : Config Agent.State Agent.Tid Agent.Resp Agent.Label} {k : Nat} {sid : UInt32}

/-- A plain frame of a session is output of it or a reply. -/
theorem phase_of_plain {frame : WebFrameData} {p : SessionPhase} (hp : phase sid frame = some p)
    (hplain : frame.reportsTunnel = false) :
    p = .running ∧ ((frame.output sid).isSome = true ∨ Agent.replySid frame = some sid) := by
  have hite : (if (frame.output sid).isSome ∨ Agent.replySid frame = some sid then
      some SessionPhase.running else none) = some p := by
    cases frame with
    | tunnelOpened | tunnelClosed => cases hplain
    | _ => exact hp
  obtain ⟨hor, heq⟩ := Option.ite_none_right_eq_some.1 hite
  exact ⟨(Option.some.inj heq).symm, hor⟩

/-- **What is said of a session, its tunnel says.** -/
theorem tunnel_of_phase (hr : (Agent.machine S).Reach A Agent.start cfg) {i : Agent.Tid}
    {c : Agent.Cmd} {r : Agent.Resp c} {past : List (Ev Agent.Tid Agent.Resp)}
    {g : NodeFrameData} {p : SessionPhase} (hs : ⟨i, c, r⟩ :: past <:+ cfg.world.trace)
    (hemit : c.Emits k g r) (hp : phaseIn sid g = some p) :
    ∃ t tn, i = .tunnel t ∧ Agent.Began t tn (own i past) ∧ tn.conn = k ∧ tn.sid = sid ∧
      (p = .closed → ∃ protocol cid msgId, c = .out (.trySend k (.tunnelClosed protocol cid sid
        msgId))) ∧ (p = .opened → Agent.Silent (own i past)) := by
  have hmay := Agent.may_of_event hr hs
  obtain ⟨op, rfl⟩ := Agent.out_of_emits hemit
  cases g with
  | tunnelOpened protocol cid sid' msgId =>
      obtain ⟨rfl, heq⟩ := Option.ite_none_right_eq_some.1 hp
      cases heq
      obtain ⟨t, tn, rfl, hb, hconn, hsid, hsilent⟩ :=
        hmay.announces hemit (beq_self_eq_true sid')
      exact ⟨t, tn, rfl, hb, hconn, hsid, fun heq => SessionPhase.noConfusion heq, fun _ => hsilent⟩
  | tunnelClosed protocol cid sid' msgId =>
      obtain ⟨rfl, heq⟩ := Option.ite_none_right_eq_some.1 hp
      cases heq
      rcases hmay.emits hemit with ⟨t, tn, rfl, hb, hconn, hg⟩ | ⟨_, _, heq, -⟩ | ⟨_, _, heq⟩
      · have hsid : tn.sid = sid' := by
          cases hg
          rfl
        refine ⟨t, tn, rfl, hb, hconn, hsid, fun _ => ?_, fun heq => SessionPhase.noConfusion heq⟩
        cases op with
        | send k' g' =>
            obtain ⟨rfl, rfl, -⟩ := hemit
            obtain ⟨tn', cmd, frame, -, -, heq, -⟩ :=
              (Agent.replyMay_of_event hr hs).answers _ _ rfl
            cases heq
        | trySend k' g' =>
            obtain ⟨rfl, rfl, -⟩ := hemit
            exact ⟨_, _, _, rfl⟩
        | recv | close => exact hemit.elim
      · cases heq
      · cases heq
  | webFrame frame id =>
      have hplain : frame.reportsTunnel = false := by
        rcases hmay.emits hemit with ⟨t, tn, -, -, -, hg⟩ | ⟨_, _, heq, hplain⟩ | ⟨_, _, heq⟩
        · cases hg with | frame hplain => exact hplain
        · cases heq
          exact hplain
        · cases heq
      obtain ⟨rfl, hout | hreply⟩ := phase_of_plain hp hplain
      · obtain ⟨data, hdata⟩ := Option.isSome_iff_exists.1 hout
        obtain ⟨t, tn, h', rfl, hb, hconn, hsid, -, -⟩ := hmay.carries hemit hdata
        exact ⟨t, tn, rfl, hb, hconn, hsid, fun heq => SessionPhase.noConfusion heq,
          fun heq => SessionPhase.noConfusion heq⟩
      · obtain ⟨t, tn, rfl, hb, hconn, hsid, -⟩ :=
          Agent.putsReply hr hs (ChanOp.mem_puts_iff.2 hemit) (if_pos hreply)
        exact ⟨t, tn, rfl, hb, hconn, hsid, fun heq => SessionPhase.noConfusion heq,
          fun heq => SessionPhase.noConfusion heq⟩
  | _ => cases hp

/-- **The frames of a session are put on the queue in their order.** -/
theorem queued_in_phases (hA : ∀ w i c r, A w i c r → Agent.CounterLasts S w i c r)
    (hr : (Agent.machine S).Reach A Agent.start cfg) (k : Nat) (sid : UInt32) :
    ((stream (Agent.queued k) cfg.world.trace).filterMap (phaseIn sid)).Pairwise
      SessionPhase.precedes := by
  refine List.pairwise_filterMap.2 (pairwise_stream (fun past ⟨i, c, r⟩ => ?_) ?_)
  · cases c with
    | out op => exact ChanOp.pairwise_puts
    | _ => exact .nil
  · rintro ⟨i', c', r'⟩ past' hs' g' hg' ⟨i, c, r⟩ past hs g hg p hp p' hp'
    obtain ⟨t', tn', rfl, hb', hconn', hsid', -, hopens⟩ :=
      tunnel_of_phase hr hs' (Agent.mem_queued.1 hg') hp'
    have hs'' := hs.trans ((List.suffix_cons _ _).trans hs')
    obtain ⟨t, tn, rfl, hb, rfl, rfl, hcloses, -⟩ :=
      tunnel_of_phase hr hs'' (Agent.mem_queued.1 hg) hp
    -- both are frames of one tunnel
    have hpast := (List.suffix_cons _ _).trans hs''
    have hpast' := (List.suffix_cons _ _).trans hs'
    have hsole := Agent.sole_of_counter hA hr (hb.isTunnel.mono hpast)
    obtain ⟨rfl, rfl⟩ := (hsole.mono _ _ hpast').of_began hb' (.inr ⟨hconn', hsid'⟩)
    have hmem := mem_own.2 (hs.subset List.mem_cons_self)
    obtain ⟨op, rfl⟩ := Agent.out_of_emits (Agent.mem_queued.1 hg)
    obtain ⟨op', rfl⟩ := Agent.out_of_emits (Agent.mem_queued.1 hg')
    refine SessionPhase.precedes_of_ne ?_ fun heq => hopens heq op r hmem
    rintro rfl
    obtain ⟨protocol, cid, msgId, heq⟩ := hcloses rfl
    cases heq
    have htalks := (Agent.replyMay_of_event hr hs').talks _ rfl
    rw [Agent.reportedClosed_of_mem hmem] at htalks
    cases htalks

end Agent

/-! ## To the browser -/

section Phases

variable {Ss : Server.Setup} {Sa : Agent.Setup} {As : Server.Restriction} {Aa : Agent.Restriction}
  {rows : DashMap Uuid Server.NodeRow} {users : List Uuid} {clock : Server.Time} {cfg : Network}

/-- **The life of a session, as browsers hear of it.**  In every run of the server with agent
processes whose counters have not come round, the frames of a session that a socket of its node
delivers are at most one report that it is open, then output and replies, then at most one report
that it is closed. -/
theorem session_in_phases
    (hr : (network Ss Sa).Reach As (Agent.CounterLasts Sa) (start rows users clock) cfg)
    (k : Nat) (sid : UInt32) :
    InPhases ((stream (Server.delivered k) cfg.left.world.trace).filterMap
      fun y => phase sid y.2) := by
  refine inPhases_of_pairwise (List.Pairwise.sublist ?_
    (queued_in_phases (fun _ _ _ _ h => h) (agent_reach hr) k sid))
  refine deliveries_sublist hr k (fun y g hd => ?_) fun token nodeId version => rfl
  cases hd <;> rfl

end Phases

/-! ## One run -/

/-- A shell comes up, prints, and hangs up. -/
def shortShell : Schedule :=
  shell ++ print 0 [104] ++
    sendUp 0 (.webFrame (.tunnelData 0 (Uuid.display 10) 1 [104]) (.sessionId 1)) 4 ++
    hangUp 0 0 77 1

/-- Its browser was told all of that. -/
def hearsAll (cfg : Network) : Bool :=
  decide ((stream (Server.delivered 0) cfg.left.world.trace).filterMap (fun y => phase 1 y.2) =
    [.opened, .running, .closed])

theorem session_in_phases_of_shell :
    ∃ cfg, (sampleNetwork fun _ => 0).Reach Free (Agent.CounterLasts (sampleAgent fun _ => 0))
        sampleStart cfg ∧
      (stream (Server.delivered 0) cfg.left.world.trace).filterMap (fun y => phase 1 y.2) =
        [.opened, .running, .closed] ∧
      InPhases [.opened, .running, .closed] := by
  have hrun : ((sampleNetwork fun _ => 0).run (fun _ _ _ _ => true)
      (counterLasts (sampleAgent fun _ => 0)) shortShell sampleStart).any hearsAll = true := by
    decide +kernel
  obtain ⟨cfg, hr, hend⟩ := Link.reach_of_run (fun _ _ _ _ _ => trivial) counterLasts_sound hrun
  have hphases := of_decide_eq_true hend
  exact ⟨cfg, hr, hphases, hphases ▸ session_in_phases hr 0 1⟩

end Phirepass.System
