/-
# `Phirepass.System.Input` — what a browser types and what its shell is fed

    typed w → queued k → sent k → heard k → written t
    session   queue      socket   wire      channel

The right end of the row is a beginning of the left end (`input_intact`): a
piece of input that is dropped on its way is the last one of its session that
gets so far.  The left end is what the browser's task looks up once the
session has been bound, which may be before the browser hears that it is open
(`input_before_opened`).
-/
import Phirepass.Agent.Input
import Phirepass.Server.Input
import Phirepass.System.Isolation
import Phirepass.System.Output

namespace Phirepass.System

open Rust Interleave

/-- The browser of web socket `w` is told that its session `sid` is open. -/
def hearsOpen (w : Nat) (sid : UInt32) : Ev Server.Tid Server.Resp → Bool
  | ⟨.webWriter j, .ws (.send ⟨_, _, .web (.tunnelOpened _ sid' _)⟩), true⟩ => j == w && sid' == sid
  | _ => false

/-- The input for the session `key` in a frame of a browser, which names the node. -/
def typedFor (S : Server.Setup) (key : Server.TunnelSessionKey) : WebFrameData → Option Bytes
  | .tunnelData protocol target sid data =>
      if protocol = Protocol.ssh.toU8 ∧ S.crates.parseUuid target = .ok key.nodeId ∧ sid = key.sid
      then some data else none
  | _ => none

/-- The input for the session `key` that comes from web socket `w` once its browser has been told
that the session is open. -/
def typedOnceOpen (S : Server.Setup) (w : Nat) (_ : Uuid) (key : Server.TunnelSessionKey)
    (past : List (Ev Server.Tid Server.Resp)) : Ev Server.Tid Server.Resp → List Bytes
  | ⟨.web j, .ws .next, m⟩ =>
      if j = w ∧ past.any (hearsOpen w key.sid) = true then
        ((Incoming.webFrame? m).bind (typedFor S key)).toList
      else []
  | _ => []

/-- Every SSH session has a node and a browser, and what its shell is fed is a beginning of
`source`. -/
def FedFrom (source : Nat → Uuid → Server.TunnelSessionKey → List (Ev Server.Tid Server.Resp) →
    Ev Server.Tid Server.Resp → List Bytes) (cfg : Network) : Prop :=
  ∀ t tn, Agent.IsTunnel cfg.right.world.trace t tn → tn.protocol = .ssh →
    (∃ n w, Server.Registered cfg.left.world.trace tn.conn n ∧
      Server.Drew cfg.left.world.trace w tn.cid) ∧
    ∀ n w, Server.Registered cfg.left.world.trace tn.conn n →
      Server.Drew cfg.left.world.trace w tn.cid →
        stream (Agent.written t) cfg.right.world.trace <+:
          stream (source w tn.cid ⟨n, tn.sid⟩) cfg.left.world.trace

/-! ## The wire -/

section Wire

variable {w w' : Wires} {k : Nat}

/-- A command of the server puts what its writer sends on the wire. -/
theorem down_of_serverWire {i : Server.Tid} {c : Server.Cmd} {r : Server.Resp c}
    {past : List (Ev Server.Tid Server.Resp)} (hw : serverWire i c r w = some w') :
    w'.down k = w.down k ++ Server.sent k past ⟨i, c, r⟩ := by
  unfold serverWire at hw
  split at hw
  · obtain ⟨rest, -, rfl⟩ := Option.map_eq_some_iff.1 hw
    exact (List.append_nil _).symm
  · next j version encoding g =>
      cases hw
      show Function.update w.down j (w.down j ++ [g]) k = w.down k ++ if j = k then [g] else []
      rcases eq_or_ne k j with rfl | hj
      · rw [Function.update_self, if_pos rfl]
      · rw [Function.update_of_ne hj, if_neg hj.symm, List.append_nil]
  · next hsend =>
      cases hw
      have hnone : Server.sent k past ⟨i, c, r⟩ = [] := by
        unfold Server.sent
        split
        · next heq =>
            cases heq
            exact absurd HEq.rfl (hsend _ _ _ _ rfl rfl)
        · rfl
      rw [hnone, List.append_nil]

/-- A command of the agent takes what it reads off it. -/
theorem down_of_agentWire {i : Agent.Tid} {c : Agent.Cmd} {r : Agent.Resp c}
    {past : List (Ev Agent.Tid Agent.Resp)} (hw : agentWire i c r w = some w') :
    w.down k = Agent.heard k past ⟨i, c, r⟩ ++ w'.down k := by
  unfold agentWire at hw
  split at hw
  · next j m =>
      obtain ⟨rest, hrest, rfl⟩ := Option.map_eq_some_iff.1 hw
      show w.down k = (if j = k then m.nodeFrame?.toList else []) ++
        Function.update w.down j rest k
      rcases eq_or_ne k j with rfl | hj
      · rw [if_pos rfl, Function.update_self]
        exact eq_of_receive hrest
      · rw [if_neg hj.symm, Function.update_of_ne hj, List.nil_append]
  · cases hw
    rfl
  · next hread _ =>
      cases hw
      have hnone : Agent.heard k past ⟨i, c, r⟩ = [] := by
        unfold Agent.heard
        split
        · next heq =>
            cases heq
            exact absurd HEq.rfl (hread _ _ rfl)
        · rfl
      rw [hnone, List.nil_append]

end Wire

section Input

variable {Ss : Server.Setup} {Sa : Agent.Setup} {As : Server.Restriction} {Aa : Agent.Restriction}
  {rows : DashMap Uuid Server.NodeRow} {users : List Uuid} {clock : Server.Time} {cfg : Network}
  {t w : Nat} {tn : Agent.Tunnel} {n : Uuid}

/-- **The wire keeps its order**, downwards too. -/
theorem sent_heard (h : (network Ss Sa).Reach As Aa (start rows users clock) cfg) :
    ∀ k, stream (Server.sent k) cfg.left.world.trace =
      stream (Agent.heard k) cfg.right.world.trace ++ cfg.wire.down k := by
  refine h.inv (fun ws wa w => ∀ k, stream (Server.sent k) ws.trace =
    stream (Agent.heard k) wa.trace ++ w.down k) (fun _ => rfl) ?_ ?_
  · intro cfg i c r s w hI hw k
    rw [World.push_trace, stream_cons, hI k, List.append_assoc]
    exact congrArg _ (down_of_serverWire hw).symm
  · intro cfg i c r s w hI hw k
    rw [hI k, World.push_trace, stream_cons, List.append_assoc]
    exact congrArg _ (down_of_agentWire hw)

/-! ## The session -/

/-- A session is bound for the tunnel that was reported open. -/
theorem tunnel_of_bind (hr : (network Ss Sa).Reach As Aa (start rows users clock) cfg)
    {i : Server.Tid} {key : Server.TunnelSessionKey} {v : Uuid × Uuid} {r : Option (Uuid × Uuid)}
    {past : List (Ev Server.Tid Server.Resp)}
    (hs : ⟨i, .tunnelSessions (.insert key v), r⟩ :: past <:+ cfg.left.world.trace) :
    ∃ t tn protocol msgId m h', Agent.IsTunnel cfg.right.world.trace t tn ∧ tn.sid = key.sid ∧
      i = .node tn.conn ∧ v.1 = tn.cid ∧ Server.Registered past tn.conn key.nodeId ∧
      own (.node tn.conn) past = ⟨.ws .next, m⟩ :: h' ∧
      m.nodeFrame? = some (.tunnelOpened protocol tn.cid tn.sid msgId) := by
  obtain ⟨k, n, m, protocol, cid, sid, msgId, h', rfl, hserving, rfl, rfl, hown, hm⟩ :=
    (Server.may_of_event (server_reach hr) hs).bind
  have hpast := (List.suffix_cons _ _).trans hs
  have hread : ⟨.ws .next, m⟩ :: h' <:+ own (.node k) past := by rw [hown]
  obtain ⟨before, hbefore, -⟩ := exists_past_of_own hread
  have hlogin (token : String) (nodeId : Uuid) (version : String) :
      NodeFrameData.tunnelOpened protocol cid sid msgId ≠ .auth token nodeId version :=
    fun heq => nomatch heq
  obtain ⟨j, hemit⟩ := emitted_of_received hr hlogin
    ((hbefore.trans hpast).subset List.mem_cons_self) hm
  rcases Agent.tunnel_of_emitted (agent_reach hr) hemit with ⟨t, tn, rfl, htn, rfl, hg⟩ | hother
  · cases hg
    exact ⟨t, tn, _, _, m, h', htn, rfl, rfl, rfl, hserving.registered_trace, hown, hm⟩
  · rcases hother with ⟨_, _, heq, -⟩ | ⟨_, _, heq⟩ <;> cases heq

/-- Input that is read from a connection is for a tunnel that was there. -/
theorem tunnel_of_heard (hr : (network Ss Sa).Reach As Aa (start rows users clock) cfg)
    {j : Agent.Tid} {k : Nat} {m : Incoming} {cid : Uuid} {sid : UInt32}
    (hmem : (⟨j, .ws k .next, m⟩ : Ev Agent.Tid Agent.Resp) ∈ cfg.right.world.trace)
    (hin : (m.nodeFrame?.bind (·.input cid sid)).isSome = true) :
    ∃ t tn, Agent.IsTunnel cfg.right.world.trace t tn ∧ tn.sid = sid := by
  have hserver := server_reach hr
  obtain ⟨data, hdata⟩ := Option.isSome_iff_exists.1 hin
  obtain ⟨g, hm, hg⟩ := Option.bind_eq_some_iff.1 hdata
  obtain ⟨f, hf, hsent⟩ := (carried hr).read _ k m g hmem hm
  obtain ⟨i, henq⟩ := Server.enqueued_of_written hserver hf hsent
  obtain ⟨past, hs⟩ := exists_past henq
  obtain ⟨w, n, rfl, -, -, info, m', h', hown, -⟩ := foundBound_of_send hserver hs
    (Server.addressee_of_input (Option.isSome_of_eq_some hg))
  -- its session was found, and so had been bound
  have hfound : (⟨.web w, .tunnelSessions (.get ⟨n, sid⟩), some (cid, n)⟩ :
      Ev Server.Tid Server.Resp) ∈ past := by
    rw [← mem_own, hown]
    simp
  obtain ⟨before, hbefore⟩ := exists_past hfound
  have hpast := hbefore.trans ((List.suffix_cons _ _).trans hs)
  obtain ⟨i', r, hins⟩ := Server.insert_of_get hserver hpast
  obtain ⟨before', hbefore'⟩ := exists_past hins
  obtain ⟨t, tn, _, _, _, _, htn, hsid, -⟩ :=
    tunnel_of_bind hr (hbefore'.trans ((List.suffix_cons _ _).trans hpast))
  exact ⟨t, tn, htn, hsid⟩

/-- In one process, a session id stands for one tunnel. -/
theorem tunnel_eq (hA : ∀ w i c r, Aa w i c r → Agent.CounterLasts Sa w i c r)
    (hone : ∀ k k', Sa.proc k = Sa.proc k')
    (hr : (network Ss Sa).Reach As Aa (start rows users clock) cfg) {t' : Nat} {tn' : Agent.Tunnel}
    (htn : Agent.IsTunnel cfg.right.world.trace t tn)
    (htn' : Agent.IsTunnel cfg.right.world.trace t' tn') (hsid : tn'.sid = tn.sid) :
    t' = t ∧ tn' = tn :=
  Agent.tunnel_of_sid hA (agent_reach hr) htn' htn (hone _ _) hsid

/-- A tunnel is reported open once. -/
theorem opened_once (hA : ∀ w i c r, Aa w i c r → Agent.CounterLasts Sa w i c r)
    (hr : (network Ss Sa).Reach As Aa (start rows users clock) cfg)
    (htn : Agent.IsTunnel cfg.right.world.trace t tn) :
    ((stream (received tn.conn) cfg.left.world.trace).filter pastLogin).Pairwise
      fun g g' => g.opens tn.sid = true → g'.opens tn.sid = false := by
  have hagent := agent_reach hr
  have hsole := Agent.sole_of_counter hA hagent htn
  have hqueued := Agent.opens_before (fun g => g.opens tn.sid) (fun i h c r g hmay hemit hopens => by
    obtain ⟨t', tn', rfl, hb, hconn, hsid, -⟩ := hmay.announces hemit hopens
    exact ⟨t', tn', rfl, hb, hconn, hsid⟩) (fun _ _ _ _ h => h.2)
    (hagent.restrict Agent.Sole.mono hsole)
  exact List.Pairwise.sublist (received_sublist hr tn.conn) (hqueued.filter _)

/-- **The session of a tunnel** is what the stages of the server rest on. -/
theorem dedicated_of_tunnel (hA : ∀ w i c r, Aa w i c r → Agent.CounterLasts Sa w i c r)
    (hone : ∀ k k', Sa.proc k = Sa.proc k')
    (hr : (network Ss Sa).Reach As Aa (start rows users clock) cfg)
    (htn : Agent.IsTunnel cfg.right.world.trace t tn)
    (hreg : Server.Registered cfg.left.world.trace tn.conn n)
    (hdrew : Server.Drew cfg.left.world.trace w tn.cid) :
    Server.Dedicated tn.conn w n tn.sid tn.cid cfg.left.world.trace := by
  have hserver := server_reach hr
  have hagent := agent_reach hr
  refine ⟨fun j hj => Server.drew_unique hserver hj hdrew,
    fun cid' hcid => Server.drew_once hserver hcid hdrew, fun i v r past hs => ?_,
    fun i m v hmem _ => ?_⟩
  · obtain ⟨t', tn', protocol, msgId, m, h', htn', hsid, rfl, hv, -, hown, hm⟩ := tunnel_of_bind hr hs
    obtain ⟨rfl, rfl⟩ := tunnel_eq hA hone hr htn htn' hsid
    refine ⟨rfl, hv, fun j v' r' hmem => ?_⟩
    have hpast := (List.suffix_cons _ _).trans hs
    obtain ⟨past', hs'⟩ := exists_past hmem
    obtain ⟨t₂, tn₂, _, _, m', h₂, htn₂, hsid₂, rfl, -, -, hown₂, hm'⟩ :=
      tunnel_of_bind hr (hs'.trans hpast)
    obtain ⟨rfl, rfl⟩ := tunnel_eq hA hone hr htn htn₂ hsid₂
    -- either is bound right behind a report that the tunnel is open, of which there is one
    have hread : ⟨.ws .next, m⟩ :: h' <:+ own (.node tn₂.conn) past := by rw [hown]
    obtain ⟨before, hbefore, hh'⟩ := exists_past_of_own hread
    have hearlier : ⟨.node tn₂.conn, .tunnelSessions (.insert ⟨n, tn₂.sid⟩ v'), r'⟩ :: past' <:+
        before := by
      refine suffix_of_own hs' ((List.suffix_cons _ _).trans hbefore) ?_
      have hsuf := own_suffix (.node tn₂.conn) hs'
      rw [own_cons_self, hown] at hsuf
      rw [hh']
      exact (List.suffix_cons_iff.1 hsuf).resolve_left fun heq => by cases heq
    have hread' : (⟨.node tn₂.conn, .ws .next, m'⟩ : Ev Server.Tid Server.Resp) ∈ before := by
      refine hearlier.subset (List.mem_cons_of_mem _ (mem_own.1 ?_))
      rw [hown₂]
      exact List.mem_cons_self
    have hlater := pairwise_of_read (opened_once hA hr htn) (hbefore.trans hpast) hm hread' hm' rfl
      rfl (beq_self_eq_true _)
    exact Bool.noConfusion (hlater.symm.trans (beq_self_eq_true tn₂.sid))
  · obtain ⟨past, hs⟩ := exists_past hmem
    obtain ⟨j, r, hins⟩ := Server.insert_of_get hserver hs
    obtain ⟨before, hbefore⟩ := exists_past hins
    have hbefore' := hbefore.trans ((List.suffix_cons _ _).trans hs)
    obtain ⟨t', tn', _, _, _, _, htn', hsid, -, -, hreg', -⟩ := tunnel_of_bind hr hbefore'
    obtain ⟨rfl, rfl⟩ := tunnel_eq hA hone hr htn htn' hsid
    exact Server.registered_unique hserver (hreg'.mono ((List.suffix_cons _ _).trans hbefore')) hreg

/-- **The tunnel of a session** is what the stages of the agent rest on. -/
theorem awaited_of_tunnel (hA : ∀ w i c r, Aa w i c r → Agent.CounterLasts Sa w i c r)
    (hone : ∀ k k', Sa.proc k = Sa.proc k')
    (hr : (network Ss Sa).Reach As Aa (start rows users clock) cfg)
    (htn : Agent.IsTunnel cfg.right.world.trace t tn) (hp : tn.protocol = .ssh) :
    Agent.Awaited t tn cfg.right.world.trace := by
  refine Agent.awaited_of_counter hA hone (agent_reach hr) htn hp fun i m past hs hin => ?_
  -- by then the tunnel was there
  obtain ⟨cfg', hr', htrace, -⟩ := hr.right_past rfl hs
  obtain ⟨t', tn', htn', hsid⟩ := tunnel_of_heard hr' (htrace ▸ List.mem_cons_self) hin
  have hmem := htn'.mono (htrace ▸ hs)
  obtain ⟨rfl, rfl⟩ := tunnel_eq hA hone hr htn hmem hsid
  have hagent := agent_reach hr'
  have hspawn := Agent.spawned_of_tunnel hagent _ _ (Agent.tunnel_of_begin hagent _ _ htn')
  rw [htrace] at hspawn
  exact (List.mem_cons.1 hspawn).resolve_left fun heq => by cases heq

/-- The socket a tunnel was asked for over had registered. -/
theorem registered_of_tunnel (hr : (network Ss Sa).Reach As Aa (start rows users clock) cfg)
    (htn : Agent.IsTunnel cfg.right.world.trace t tn) :
    ∃ n, Server.Registered cfg.left.world.trace tn.conn n := by
  have hserver := server_reach hr
  obtain ⟨protocol, username, password, hread⟩ := Agent.request_of_tunnel (agent_reach hr) htn
  obtain ⟨i, hsent⟩ := enqueued_of_read hr hread
  obtain ⟨past, hs⟩ := exists_past hsent
  obtain ⟨n, info, h', hown, hinfo⟩ := (Server.may_of_event hserver hs).requests
  have hfound : (⟨i, .nodes (.get n), some info⟩ : Ev Server.Tid Server.Resp) ∈ past := by
    rw [← mem_own, hown]
    exact List.mem_cons_self
  rw [← hinfo]
  exact ⟨n, Server.registered_of_get hserver (((List.suffix_cons _ _).trans hs).subset hfound)⟩

/-- **The input of a shell.**  In every run of the server with one agent process whose counter has
not come round, what the shell of an SSH session is fed is a beginning of what its browser's task
looks up for it once the session has been bound: nothing is skipped, duplicated or reordered. -/
theorem input_intact (hone : ∀ k k', Sa.proc k = Sa.proc k')
    (hr : (network Ss Sa).Reach Free (Agent.CounterLasts Sa) (start rows users clock) cfg) :
    FedFrom Server.typed cfg := by
  intro t tn htn hp
  have hA : ∀ w i c r, Agent.CounterLasts Sa w i c r → Agent.CounterLasts Sa w i c r :=
    fun _ _ _ _ h => h
  refine ⟨?_, fun n w hreg hdrew => ?_⟩
  · obtain ⟨n, hreg⟩ := registered_of_tunnel hr htn
    obtain ⟨w, hdrew, -⟩ := entered_of_tunnel hr htn
    exact ⟨n, w, hreg, hdrew⟩
  · have hD := dedicated_of_tunnel hA hone hr htn hreg hdrew
    have hsent := Server.typed_sent (fun _ _ _ _ h => h.2)
      ((server_reach hr).restrict Server.Dedicated.mono hD)
    have hwritten := Agent.written_heard (fun _ _ _ _ h => h.2)
      ((agent_reach hr).restrict Agent.Awaited.mono (awaited_of_tunnel hA hone hr htn hp))
    have hheard : stream (Agent.heard tn.conn) cfg.right.world.trace <+:
        stream (Server.sent tn.conn) cfg.left.world.trace := by
      rw [sent_heard hr]
      exact List.prefix_append _ _
    exact hwritten.trans ((hheard.filterMap _).trans hsent)

end Input

/-! ## Two runs -/

/-- The server's writer sends a piece of input, and the shell of tunnel `t` is fed with it. -/
def feed (k t : Nat) (cid : Uuid) (sid : UInt32) (data : Bytes) : Schedule :=
  sendDown k ++ onAgent (Agent.deliver k (.tunnelData 0 cid sid data) ++
    (.tunnel t, { branch := .command }) :: Agent.idle (.tunnel t) 2)

/-- Tunnel `0` is the shell of client `77`, as session `1`. -/
def beginsShell : Ev Agent.Tid Agent.Resp → Bool
  | ⟨.tunnel 0, .begin 0, tn⟩ =>
      decide (tn.conn = 0 ∧ tn.cid = 77 ∧ tn.sid = 1 ∧ tn.protocol = .ssh)
  | _ => false

/-- Its node is `10`, and its browser that of web socket `0`. -/
def hasShell (cfg : Network) : Bool :=
  cfg.right.world.trace.any beginsShell && decide (Server.Registered cfg.left.world.trace 0 10) &&
    decide (Server.Drew cfg.left.world.trace 0 77)

theorem shell_of_check {cfg : Network} (h : hasShell cfg = true) :
    ∃ tn, Agent.IsTunnel cfg.right.world.trace 0 tn ∧ tn.conn = 0 ∧ tn.cid = 77 ∧ tn.sid = 1 ∧
      tn.protocol = .ssh ∧ Server.Registered cfg.left.world.trace 0 10 ∧
      Server.Drew cfg.left.world.trace 0 77 := by
  simp only [hasShell, Bool.and_eq_true, decide_eq_true_eq, List.any_eq_true] at h
  obtain ⟨⟨⟨e, hmem, he⟩, hreg⟩, hdrew⟩ := h
  unfold beginsShell at he
  split at he
  · next tn =>
      obtain ⟨hconn, hcid, hsid, hp⟩ := of_decide_eq_true he
      exact ⟨tn, hmem, hconn, hcid, hsid, hp, hreg, hdrew⟩
  · cases he

/-- What the browser types, its shell is fed. -/
theorem input_intact_of_type :
    ∃ cfg, (sampleNetwork fun _ => 0).Reach Free (Agent.CounterLasts (sampleAgent fun _ => 0))
        sampleStart cfg ∧ FedFrom Server.typed cfg ∧
      stream (Agent.written 0) cfg.right.world.trace = [[97], [98]] := by
  have hrun : ((sampleNetwork fun _ => 0).run (fun _ _ _ _ => true)
      (counterLasts (sampleAgent fun _ => 0))
      (shell ++ type 0 1 [97] 4 ++ feed 0 0 77 1 [97] ++ type 0 1 [98] 4 ++ feed 0 0 77 1 [98])
      sampleStart).any (fun cfg => decide
        (stream (Agent.written 0) cfg.right.world.trace = [[97], [98]])) = true := by
    decide +kernel
  obtain ⟨cfg, hr, hend⟩ := Link.reach_of_run (fun _ _ _ _ _ => trivial) counterLasts_sound hrun
  exact ⟨cfg, hr, input_intact (fun _ _ => rfl) hr, of_decide_eq_true hend⟩

/-- **A shell is fed before its browser is told that it is open**: the session is bound first. -/
theorem fed_untold :
    ∃ cfg, (sampleNetwork fun _ => 0).Reach Free (Agent.CounterLasts (sampleAgent fun _ => 0))
        sampleStart cfg ∧
      ¬ FedFrom (typedOnceOpen (Server.sample fun _ => .heartbeat none)) cfg := by
  have hrun : ((sampleNetwork fun _ => 0).run (fun _ _ _ _ => true)
      (counterLasts (sampleAgent fun _ => 0)) (shell ++ type 0 1 [97] 4 ++ feed 0 0 77 1 [97])
      sampleStart).any (fun cfg => hasShell cfg &&
        decide (stream (Agent.written 0) cfg.right.world.trace = [[97]]) &&
        decide (stream (typedOnceOpen (Server.sample fun _ => .heartbeat none) 0 77 ⟨10, 1⟩)
          cfg.left.world.trace = [])) = true := by
    decide +kernel
  obtain ⟨cfg, hr, hend⟩ := Link.reach_of_run (fun _ _ _ _ _ => trivial) counterLasts_sound hrun
  refine ⟨cfg, hr, fun hall => ?_⟩
  rw [Bool.and_eq_true, Bool.and_eq_true, decide_eq_true_eq, decide_eq_true_eq] at hend
  obtain ⟨⟨hshell, hwritten⟩, htyped⟩ := hend
  obtain ⟨tn, htn, hconn, hcid, hsid, hp, hreg, hdrew⟩ := shell_of_check hshell
  have hpre := (hall 0 tn htn hp).2 10 0 (hconn ▸ hreg) (hcid ▸ hdrew)
  rw [hwritten, hcid, hsid, htyped] at hpre
  exact absurd (List.prefix_nil.1 hpre) (List.cons_ne_nil _ _)

end Phirepass.System
