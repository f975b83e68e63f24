/-
# `Phirepass.System.Outbound` — what a tunnel sends reaches its own browser

A `WebFrame` with a session id is sent to whom the server finds the session
bound to.  The agent draws session ids from a counter of its process, so one
process never gives two browsers the same id (`Agent.tunnel_of_sid`); a restarted
one starts at 1 again.  So the frame reaches its browser wherever

    the binding it finds was reported over a connection of the same process

which is what the server does not check (`answer_misdelivered`): a binding of
the old process answers for a session of the new one.
-/
import Phirepass.Server.Bindings
import Phirepass.System.Network

namespace Phirepass.System

open Rust Interleave

/-- A frame that a tunnel sent under its session id is delivered to its browser only. -/
def OutboundIsolated (cfg : Network) : Prop :=
  ∀ k i frame frame' sid cid past,
    ⟨.node k, .web (.send i frame'), true⟩ :: past <:+ cfg.left.world.trace →
    Server.handling (own (.node k) past) = some (.webFrame frame (.sessionId sid)) →
    Server.Drew past i cid →
    ∀ t tn, Agent.IsTunnel cfg.right.world.trace t tn →
      Agent.Emitted cfg.right.world.trace (.tunnel t) k (.webFrame frame (.sessionId sid)) →
      tn.cid = cid

/-- A session that the handler of a socket finds bound was reported open over a socket of the
same agent process. -/
def BoundBySameProcess (proc : Nat → Nat) : Server.Restriction := fun w i c r =>
  ∀ k key v, i = .node k →
    (⟨c, r⟩ : Sigma Server.Resp) = ⟨.tunnelSessions (.get key), some v⟩ →
    ∀ k', Server.openedOver key w.trace = some k' → proc k' = proc k

section Outbound

variable {Ss : Server.Setup} {Sa : Agent.Setup} {As : Server.Restriction} {Aa : Agent.Restriction}
  {rows : DashMap Uuid Server.NodeRow} {users : List Uuid} {clock : Server.Time} {cfg : Network}

/-- The binding that was found had been reported over a socket of the same process. -/
theorem sent_of_found {proc : Nat → Nat} {cfg : Config Server.State Server.Tid Server.Resp
    Server.Label} (hr : (Server.machine Ss).Reach (BoundBySameProcess proc)
      (Server.start rows users clock) cfg) {k : Nat} {key : Server.TunnelSessionKey} {cid n : Uuid}
    {past : List (Ev Server.Tid Server.Resp)}
    (hs : ⟨.node k, .tunnelSessions (.get key), some (cid, n)⟩ :: past <:+ cfg.world.trace) :
    ∃ k' protocol msgId, proc k' = proc k ∧ Server.openedOver key past = some k' ∧
      Server.Sent cfg.world.trace k' key.nodeId (.tunnelOpened protocol cid key.sid msgId) := by
  obtain ⟨k', protocol, msgId, hproc, hover, hsent⟩ := Server.server_events (fun past e =>
    ∀ k key cid n, e = ⟨.node k, .tunnelSessions (.get key), some (cid, n)⟩ →
      ∃ k' protocol msgId, proc k' = proc k ∧ Server.openedOver key past = some k' ∧
        Server.Sent past k' key.nodeId (.tunnelOpened protocol cid key.sid msgId)) (by
    intro cfg i c o r s hr _ hA hexec k key cid n heq
    cases heq
    have hget := Server.exec_tunnelSessions_answer hexec
    simp only [MapOp.answer, Option.some.injEq] at hget
    obtain ⟨k', protocol, msgId, hover, hsent⟩ := Server.opened_of_bound hr key cid n hget
    exact ⟨k', protocol, msgId, hA k key (cid, n) rfl rfl k' hover, hover, hsent⟩) hr _ past hs k key
    cid n rfl
  exact ⟨k', protocol, msgId, hproc, hover, hsent.mono ((List.suffix_cons _ _).trans hs)⟩

/-- A tunnel that was reported open was reported by its task, on that connection. -/
theorem emitted_of_sent (h : (network Ss Sa).Reach As Aa (start rows users clock) cfg) {k : Nat}
    {n cid : Uuid} {sid : UInt32} {protocol : UInt8} {msgId : Option UInt32}
    (hsent : Server.Sent cfg.left.world.trace k n (.tunnelOpened protocol cid sid msgId)) :
    ∃ t tn, Agent.IsTunnel cfg.right.world.trace t tn ∧ tn.conn = k ∧ tn.cid = cid ∧
      tn.sid = sid ∧ Agent.Emitted cfg.right.world.trace (.tunnel t) k
        (.tunnelOpened protocol cid sid msgId) := by
  obtain ⟨m, past, hs, -, hm⟩ := hsent
  have hlogin (token : String) (nodeId : Uuid) (version : String) :
      NodeFrameData.tunnelOpened protocol cid sid msgId ≠ .auth token nodeId version :=
    fun heq => nomatch heq
  obtain ⟨i, hemit⟩ := emitted_of_received h hlogin (hs.subset List.mem_cons_self) hm
  rcases Agent.tunnel_of_emitted (agent_reach h) hemit with ⟨t, tn, rfl, htn, hconn, hg⟩ | hother
  · cases hg
    exact ⟨t, tn, htn, hconn, rfl, rfl, hemit⟩
  · rcases hother with ⟨_, _, heq, -⟩ | ⟨_, _, heq⟩ <;> cases heq

/-- So it is one of the agent's. -/
theorem tunnel_of_sent (h : (network Ss Sa).Reach As Aa (start rows users clock) cfg) {k : Nat}
    {n cid : Uuid} {sid : UInt32} {protocol : UInt8} {msgId : Option UInt32}
    (hsent : Server.Sent cfg.left.world.trace k n (.tunnelOpened protocol cid sid msgId)) :
    ∃ t tn, Agent.IsTunnel cfg.right.world.trace t tn ∧ tn.conn = k ∧ tn.cid = cid ∧
      tn.sid = sid := by
  obtain ⟨t, tn, htn, hconn, hcid, hsid, -⟩ := emitted_of_sent h hsent
  exact ⟨t, tn, htn, hconn, hcid, hsid⟩

/-- **Outbound isolation.**  In every run of the server with the agents of one node, over any
number of processes and connections, what a tunnel sends under its session id is delivered to
its own browser, as long as handlers find bindings of their own process only and no counter
comes round. -/
theorem outbound_isolated (hr : (network Ss Sa).Reach (BoundBySameProcess Sa.proc)
    (Agent.CounterLasts Sa) (start rows users clock) cfg) : OutboundIsolated cfg := by
  intro k i frame frame' sid cid past hs hread hdrew t tn htn hemit
  have hserver := server_reach hr
  have hpast := (List.suffix_cons _ _).trans hs
  obtain ⟨n, cid', before, hdrew', hfound⟩ := Server.bound_of_answer hserver hs hread
  obtain rfl := Server.drew_once hserver (hdrew.mono hpast) (hdrew'.mono hpast)
  obtain ⟨k', protocol, msgId, hproc, -, hsent⟩ := sent_of_found hserver (hfound.trans hpast)
  obtain ⟨t', tn', htn', rfl, rfl, hsid'⟩ := tunnel_of_sent hr hsent
  have hsource : tn.conn = k ∧ tn.sid = sid := by
    rcases Agent.tunnel_of_emitted (agent_reach hr) hemit with ⟨t'', tn'', heq, htn'', hconn, hg⟩ |
      hother
    · cases heq
      obtain rfl := Agent.isTunnel_unique (agent_reach hr) htn htn''
      cases hg
      exact ⟨hconn, rfl⟩
    · rcases hother with ⟨_, _, heq, -⟩ | ⟨_, _, heq⟩ <;> cases heq
  obtain ⟨rfl, rfl⟩ := hsource
  obtain ⟨-, rfl⟩ := Agent.tunnel_of_sid (fun _ _ _ _ h => h) (agent_reach hr) htn htn' hproc.symm
    hsid'.symm
  rfl

end Outbound

/-! ## Two runs -/

/-- Whether a lookup of the sample meets the condition. -/
def boundBySame (proc : Nat → Nat) (w : World Server.State Server.Tid Server.Resp) :
    Server.Tid → (c : Server.Cmd) → Server.Resp c → Bool
  | .node k, .tunnelSessions (.get key), some _ =>
      (Server.openedOver key w.trace).all fun k' => proc k' == proc k
  | _, _, _ => true

theorem boundBySame_sound {proc : Nat → Nat} (w : World Server.State Server.Tid Server.Resp)
    (i : Server.Tid) (c : Server.Cmd) (r : Server.Resp c) (h : boundBySame proc w i c r = true) :
    BoundBySameProcess proc w i c r := by
  rintro k key v rfl heq k' hover
  cases heq
  simpa [boundBySame, hover] using h

/-- Whether a draw of the sample does. -/
def counterLasts (S : Agent.Setup) (w : World Agent.State Agent.Tid Agent.Resp) (_ : Agent.Tid) :
    (c : Agent.Cmd) → Agent.Resp c → Bool
  | .generateSessionId k, _ => decide (Agent.drawn S (S.proc k) w.trace < 2 ^ 32)
  | _, _ => true

theorem counterLasts_sound {S : Agent.Setup} (w : World Agent.State Agent.Tid Agent.Resp)
    (i : Agent.Tid) (c : Agent.Cmd) (r : Agent.Resp c) (h : counterLasts S w i c r = true) :
    Agent.CounterLasts S w i c r := by
  rintro k rfl
  exact of_decide_eq_true h

/-- What tunnel `1` printed was just sent to the client of handler 0. -/
def deliversOutput : List (Ev Server.Tid Server.Resp) → Bool
  | ⟨.node 0, .web (.send 0 frame), true⟩ :: _ => decide (frame.output 1 = some [104])
  | _ => false

/-- What the shell prints reaches the browser that opened it. -/
theorem outbound_isolated_of_output :
    ∃ cfg frame past, (sampleNetwork id).Reach (BoundBySameProcess id)
        (Agent.CounterLasts (sampleAgent id)) sampleStart cfg ∧ OutboundIsolated cfg ∧
      cfg.left.world.trace = ⟨.node 0, .web (.send 0 frame), true⟩ :: past ∧
      frame.output 1 = some [104] := by
  have hrun : ((sampleNetwork id).run (boundBySame id) (counterLasts (sampleAgent id))
      (shell ++ print 0 [104] ++
        sendUp 0 (.webFrame (.tunnelData 0 (Uuid.display 10) 1 [104]) (.sessionId 1)) 3)
      sampleStart).any (fun cfg => deliversOutput cfg.left.world.trace) = true := by
    decide +kernel
  obtain ⟨cfg, hr, hend⟩ := Link.reach_of_run boundBySame_sound counterLasts_sound hrun
  unfold deliversOutput at hend
  split at hend
  · next frame past htrace =>
      exact ⟨cfg, frame, past, hr, outbound_isolated hr, htrace, of_decide_eq_true hend⟩
  · cases hend

/-- The SSH login of the tunnel `t` fails, and the tunnel reports the error. -/
def refused (t : Nat) : Schedule :=
  onAgent (Agent.idle (.tunnel t) 2 ++ [(.tunnel t, { fail := true, text := "refused" })] ++
    Agent.idle (.tunnel t) 3)

/-- That the agent of handler 1 could not open a tunnel was just sent to client `77`. -/
def deliversRefusal : List (Ev Server.Tid Server.Resp) → Bool
  | ⟨.node 1, .web (.send 0 _), true⟩ :: past =>
      decide (Server.handling (own (.node 1) past) = some (.webFrame
        (.error .generic "russh error: refused" (some 1)) (.sessionId 1))) &&
        decide (Server.Drew past 0 77)
  | _ => false

/-- Tunnel `1` is that of client `78`. -/
def beginsOther : Ev Agent.Tid Agent.Resp → Bool
  | ⟨.tunnel 1, .begin 1, tn⟩ => tn.cid == 78
  | _ => false

/-- Tunnel `1` says that it could not be opened. -/
def emitsRefusal : Ev Agent.Tid Agent.Resp → Bool
  | ⟨.tunnel 1, .out (.trySend 1 g), .ok ()⟩ => decide (g = .webFrame
      (.error .generic "russh error: refused" (some 1)) (.sessionId 1))
  | _ => false

/-- **An answer is misdelivered.**  The process restarts and serves browser `1` under the
session id that browser `0` is still bound to; its SSH login fails, and browser `0` is told. -/
theorem answer_misdelivered :
    ∃ cfg, (sampleNetwork id).Reach Free Free sampleStart cfg ∧ ¬ OutboundIsolated cfg := by
  have hrun : (follow id (shell ++ join 1 ++ browse 1 78 ++ ask 1 1 .ssh 78 ++ refused 1 ++
      sendUp 1 (.webFrame (.error .generic "russh error: refused" (some 1)) (.sessionId 1)) 3)).any
      (fun cfg => deliversRefusal cfg.left.world.trace && cfg.right.world.trace.any beginsOther &&
        cfg.right.world.trace.any emitsRefusal) = true := by
    decide +kernel
  obtain ⟨cfg, hr, hend⟩ := reach_of_follow hrun
  refine ⟨cfg, hr, fun hall => ?_⟩
  rw [Bool.and_eq_true, Bool.and_eq_true, List.any_eq_true, List.any_eq_true] at hend
  obtain ⟨⟨hsent, e, hbegan, he⟩, e', hemitted, he'⟩ := hend
  unfold deliversRefusal at hsent
  split at hsent
  · next frame' past htrace =>
      rw [Bool.and_eq_true, decide_eq_true_eq, decide_eq_true_eq] at hsent
      unfold beginsOther at he
      split at he
      · next tn =>
          unfold emitsRefusal at he'
          split at he'
          · next g =>
              obtain rfl := of_decide_eq_true he'
              have hcid := hall 1 0 _ frame' 1 77 past (by rw [htrace]) hsent.1 hsent.2 1 tn hbegan
                ⟨_, _, hemitted, rfl, rfl, rfl⟩
              rw [beq_iff_eq, hcid] at he
              exact absurd he (by decide)
          · cases he'
      · cases he
  · cases hsent

end Phirepass.System
