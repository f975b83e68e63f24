/-
# `Phirepass.System.Output` — what a shell prints and what its browser is shown

    outputs t → queued k → received k → outputRead k → shown x
    channel     queue      handler      session        client queue

The right end should be a beginning of the left end.  Every stage but the
first keeps it so: a frame that is dropped is the last one of its session that
gets so far.  The first one does not.  The tunnel tries to put
its output into a queue of bounded length, drops what does not fit, and goes on
with what comes next (`output_torn`).  So it holds as long as no output
meets a full queue (`output_intact`).
-/
import Phirepass.Server.Relays
import Phirepass.System.Outbound
import Phirepass.System.Pipeline

namespace Phirepass.System

open Rust Interleave

/-- The output of the session `sid` of process `p` that is put into the client queue `x`. -/
def shown (proc : Nat → Nat) (p x : Nat) (sid : UInt32) (_ : List (Ev Server.Tid Server.Resp)) :
    Ev Server.Tid Server.Resp → List Bytes
  | ⟨.node k, .web (.send y frame), true⟩ =>
      if proc k = p ∧ y = x then (frame.output sid).toList else []
  | ⟨_, .web (.send y frame), true⟩ => if y = x then (frame.output sid).toList else []
  | _ => []

/-- What a browser is shown of an SSH session is a beginning of what the session printed. -/
def OutputIntact (proc : Nat → Nat) (cfg : Network) : Prop :=
  ∀ t tn x, Agent.IsTunnel cfg.right.world.trace t tn → tn.protocol = .ssh →
    Server.Drew cfg.left.world.trace x tn.cid →
    (stream (shown proc (proc tn.conn) x tn.sid) cfg.left.world.trace).flatten <+:
      (stream (Agent.outputs t) cfg.right.world.trace).flatten

/-- Output finds room, no counter comes round, and a socket that has failed does not send
again. -/
def KeepsUp (S : Agent.Setup) : Agent.Restriction := fun w i c r =>
  Agent.KeepsOutput w i c r ∧ Agent.CounterLasts S w i c r ∧ Agent.SocketDies w i c r

section Received

variable {tr past : List (Ev Server.Tid Server.Resp)} {k : Nat} {m : Incoming}

/-- Behind output of a session, the handler reads no report that it is open. -/
theorem opens_false_of_read {sid : UInt32} {g : NodeFrameData} {m' : Incoming}
    (hfirst : OpensFirst sid ((stream (received k) tr).filter pastLogin))
    (hs : ⟨.node k, .ws .next, m⟩ :: past <:+ tr) (hm : m.nodeFrame? = some g)
    (hin : (⟨.node k, .ws .next, m'⟩ : Ev Server.Tid Server.Resp) ∈ past)
    (hout : (Server.outputIn sid m').isSome = true) : g.opens sid = false := by
  cases hopens : g.opens sid with
  | false => rfl
  | true =>
      obtain ⟨data, hdata⟩ := Option.isSome_iff_exists.1 hout
      obtain ⟨g', hm', hg'⟩ := Option.bind_eq_some_iff.1 hdata
      refine hopens.symm.trans (pairwise_of_read hfirst hs hm hin hm' ?_ ?_
        (Option.isSome_of_eq_some hg'))
      · cases g <;> first | rfl | cases hopens
      · cases g' <;> first | rfl | cases hg'

end Received

section Output

variable {Ss : Server.Setup} {Sa : Agent.Setup} {rows : DashMap Uuid Server.NodeRow}
  {users : List Uuid} {clock : Server.Time} {cfg : Network} {t x : Nat} {tn : Agent.Tunnel}

/-- The output a handler reads was sent by a tunnel of its connection, under its session id. -/
theorem tunnel_of_output {As : Server.Restriction} {Aa : Agent.Restriction}
    (hr : (network Ss Sa).Reach As Aa (start rows users clock) cfg) {k : Nat} {m : Incoming}
    {frame : WebFrameData} {id : WebFrameId} {sid : UInt32}
    (hmem : (⟨.node k, .ws .next, m⟩ : Ev Server.Tid Server.Resp) ∈ cfg.left.world.trace)
    (hm : m.nodeFrame? = some (.webFrame frame id)) (hout : (frame.output sid).isSome = true) :
    ∃ t tn, Agent.IsTunnel cfg.right.world.trace t tn ∧ tn.conn = k ∧ tn.sid = sid ∧
      id = .sessionId sid := by
  have hlogin (token : String) (nodeId : Uuid) (version : String) :
      NodeFrameData.webFrame frame id ≠ .auth token nodeId version := fun heq => nomatch heq
  obtain ⟨i, c, r, hevent, hemit⟩ := emitted_of_received hr hlogin hmem hm
  obtain ⟨data, hdata⟩ := Option.isSome_iff_exists.1 hout
  obtain ⟨past, hs⟩ := exists_past hevent
  obtain ⟨t, tn, h', rfl, hb, rfl, rfl, -, rfl⟩ :=
    (Agent.may_of_event (agent_reach hr) hs).carries hemit hdata
  obtain ⟨-, hg, -⟩ := hemit
  refine ⟨t, tn, hb.isTunnel.mono ((List.suffix_cons _ _).trans hs), rfl, rfl, ?_⟩
  cases hg
  rfl

/-- The client of a tunnel has entered. -/
theorem entered_of_tunnel {As : Server.Restriction} {Aa : Agent.Restriction}
    (hr : (network Ss Sa).Reach As Aa (start rows users clock) cfg)
    (htn : Agent.IsTunnel cfg.right.world.trace t tn) :
    ∃ w, Server.Drew cfg.left.world.trace w tn.cid ∧
      ¬ Server.Unentered (own (.web w) cfg.left.world.trace) := by
  have hserver := server_reach hr
  -- its request was forwarded, and that is done for those who have
  obtain ⟨protocol, username, password, hread⟩ := Agent.request_of_tunnel (agent_reach hr) htn
  obtain ⟨i, hsent⟩ := enqueued_of_read hr hread
  obtain ⟨past, hs⟩ := exists_past hsent
  obtain ⟨w, rfl, hdrew⟩ := Server.drew_of_forward hserver rfl hs
  have hattends := (Server.phase_of_event hserver hs).attends rfl
  have hpast := (List.suffix_cons _ _).trans hs
  refine ⟨w, hdrew.mono hpast, fun hu => hattends.2 fun cid conn r hmem => ?_⟩
  exact hu cid conn r ((own_suffix _ hpast).subset hmem)

/-- When output is read, the client it is for has entered. -/
theorem entered_of_output {As : Server.Restriction} {Aa : Agent.Restriction}
    (hr : (network Ss Sa).Reach As Aa (start rows users clock) cfg)
    (hsole : Agent.Sole t tn cfg.right.world.trace) {m : Incoming}
    {past : List (Ev Server.Tid Server.Resp)}
    (hs : ⟨.node tn.conn, .ws .next, m⟩ :: past <:+ cfg.left.world.trace)
    (hout : (Server.outputIn tn.sid m).isSome = true) :
    ∃ w, Server.Drew past w tn.cid ∧ ¬ Server.Unentered (own (.web w) past) := by
  -- it was sent by then, so the tunnel was there
  obtain ⟨cfg', hr', htrace, hright⟩ := hr.left_past rfl hs
  obtain ⟨data, hdata⟩ := Option.isSome_iff_exists.1 hout
  obtain ⟨g, hm, hg⟩ := Option.bind_eq_some_iff.1 hdata
  cases g with
  | webFrame frame id =>
      obtain ⟨t', tn', htn', hconn, hsid, -⟩ := tunnel_of_output hr' (htrace ▸ List.mem_cons_self) hm
        (Option.isSome_of_eq_some hg)
      obtain ⟨rfl, rfl⟩ := hsole t' tn' (htn'.mono hright) (.inr ⟨hconn, hsid⟩)
      obtain ⟨w, hdrew, hent⟩ := entered_of_tunnel hr' htn'
      rw [htrace] at hdrew hent
      rw [own_cons_of_ne (by simp)] at hent
      exact ⟨w, (List.mem_cons.1 hdrew).resolve_left fun heq => (by cases heq), hent⟩
  | _ => cases hg

variable {Aa : Agent.Restriction}

/-- **The socket of a tunnel delivers** what the stages of the server rest on. -/
theorem delivers_of_tunnel (hA : ∀ w i c r, Aa w i c r → KeepsUp Sa w i c r)
    (hr : (network Ss Sa).Reach (BoundBySameProcess Sa.proc) Aa (start rows users clock) cfg)
    (htn : Agent.IsTunnel cfg.right.world.trace t tn)
    (hdrew : Server.Drew cfg.left.world.trace x tn.cid) :
    Server.Delivers tn.conn x tn.sid tn.cid cfg.left.world.trace := by
  have hagent := agent_reach hr
  have hserver := server_reach hr
  have hcount := fun w i c r h => (hA w i c r h).2.1
  have hsole := Agent.sole_of_counter hcount hagent htn
  refine ⟨fun m frame id hmem hm hout => ?_, fun m g past hs hm hopens m' hin => ?_,
    fun m past hs hout => entered_of_output hr hsole hs hout, fun n v past hs => ?_,
    fun y hy => Server.drew_unique hserver hy hdrew⟩
  · obtain ⟨t', tn', -, -, -, hid⟩ := tunnel_of_output hr hmem hm hout
    exact hid
  · rw [← Option.not_isSome_iff_eq_none]
    intro hout
    have hfirst := Agent.opens_first (fun _ _ _ _ h => h.2) (hagent.restrict Agent.Sole.mono hsole)
    have hread := received_queued (fun w i c r h => (hA w i c r h).2.2) hr tn.conn
    rw [opens_false_of_read (List.Pairwise.sublist hread.sublist (hfirst.filter _)) hs hm hin hout]
      at hopens
    cases hopens
  · obtain ⟨k', protocol, msgId, hproc, hover, hsent⟩ := sent_of_found hserver hs
    obtain ⟨t', tn', htn', rfl, hcid, hsid⟩ := tunnel_of_sent hr hsent
    obtain ⟨-, rfl⟩ := Agent.tunnel_of_sid hcount hagent htn htn' hproc.symm hsid.symm
    exact ⟨hover, hcid.symm⟩

/-- What is put into a client's queue for a session comes from the handler of its connection. -/
theorem shown_eq_passedOn (hA : ∀ w i c r, Aa w i c r → KeepsUp Sa w i c r)
    {As : Server.Restriction} (hr : (network Ss Sa).Reach As Aa (start rows users clock) cfg)
    (htn : Agent.IsTunnel cfg.right.world.trace t tn) :
    stream (shown Sa.proc (Sa.proc tn.conn) x tn.sid) cfg.left.world.trace =
      stream (Server.passedOn tn.conn x tn.sid) cfg.left.world.trace := by
  refine stream_congr fun e past hs => ?_
  obtain ⟨i, c, r⟩ := e
  by_cases hsend : ∃ y frame, (⟨c, r⟩ : Sigma Server.Resp) = ⟨.web (.send y frame), true⟩
  · obtain ⟨y, frame, heq⟩ := hsend
    cases heq
    cases hout : frame.output tn.sid with
    | none => cases i <;> simp [shown, Server.passedOn, hout]
    | some data =>
        obtain ⟨k, m, id, rfl, hin, hm⟩ := Server.read_of_output (server_reach hr) hs
          (Option.isSome_of_eq_some hout)
        obtain ⟨t', tn', htn', rfl, hsid, -⟩ := tunnel_of_output hr
          (((List.suffix_cons _ _).trans hs).subset hin) hm (Option.isSome_of_eq_some hout)
        have hsame : Sa.proc tn'.conn = Sa.proc tn.conn ↔ tn'.conn = tn.conn := by
          refine ⟨fun hproc => ?_, fun hconn => by rw [hconn]⟩
          rw [(Agent.tunnel_of_sid (fun w i c r h => (hA w i c r h).2.1) (agent_reach hr) htn' htn
            hproc hsid).2]
        simp only [shown, Server.passedOn, hsame]
  · have hshown : shown Sa.proc (Sa.proc tn.conn) x tn.sid past ⟨i, c, r⟩ = [] := by
      unfold shown
      split
      · next heq =>
          cases heq
          exact absurd ⟨_, _, rfl⟩ hsend
      · next heq =>
          cases heq
          exact absurd ⟨_, _, rfl⟩ hsend
      · rfl
    have hpassed : Server.passedOn tn.conn x tn.sid past ⟨i, c, r⟩ = [] := by
      unfold Server.passedOn
      split
      · next heq =>
          cases heq
          exact absurd ⟨_, _, rfl⟩ hsend
      · rfl
    rw [hshown, hpassed]

/-- A login carries no output. -/
theorem output_pastLogin {sid : UInt32} (frames : List NodeFrameData) :
    (frames.filter pastLogin).filterMap (·.output sid) = frames.filterMap (·.output sid) := by
  rw [List.filterMap_filter]
  refine congrArg (List.filterMap · frames) (funext fun g => ?_)
  cases g <;> rfl

/-- What the handler reads of a session is read off what it receives. -/
theorem outputRead_eq {k : Nat} {sid : UInt32} (tr : List (Ev Server.Tid Server.Resp)) :
    stream (Server.outputRead k sid) tr = (stream (received k) tr).filterMap (·.output sid) := by
  rw [filterMap_stream]
  refine stream_congr fun e past _ => ?_
  by_cases hread : ∃ j m, e = ⟨.node j, .ws .next, m⟩
  · obtain ⟨j, m, rfl⟩ := hread
    show (if j = k then (Server.outputIn sid m).toList else []) =
      (if j = k then m.nodeFrame?.toList else []).filterMap (·.output sid)
    split
    · rw [Server.outputIn, filterMap_toList]
    · rfl
  · have hreceived : received k past e = [] := by
      unfold received
      split
      · exact absurd ⟨_, _, rfl⟩ hread
      · rfl
    have hout : Server.outputRead k sid past e = [] := by
      unfold Server.outputRead
      split
      · exact absurd ⟨_, _, rfl⟩ hread
      · rfl
    rw [hreceived, hout]
    rfl

/-- **The output of a shell.**  In every run of the server with the agents of one node, over any
number of processes and connections, what a browser is shown of an SSH session is a beginning of
what the session printed, as long as no output meets a full queue. -/
theorem output_intact (hr : (network Ss Sa).Reach (BoundBySameProcess Sa.proc) (KeepsUp Sa)
    (start rows users clock) cfg) : OutputIntact Sa.proc cfg := by
  intro t tn x htn hp hdrew
  have hagent := agent_reach hr
  have hsole := Agent.sole_of_counter (fun _ _ _ _ h => h.2.1) hagent htn
  have hD := delivers_of_tunnel (fun _ _ _ _ h => h) hr htn hdrew
  have hrelay := (Server.output_relayed (fun _ _ _ _ h => h.2)
    ((server_reach hr).restrict Server.Delivers.mono hD)).isPrefix
  have hqueued := (Agent.outputs_queued (fun _ _ _ _ h => h.2) (fun _ _ _ _ h => h.1.1) hp
    (hagent.restrict Agent.Sole.mono hsole)).isPrefix
  have hreceived := (received_queued (fun _ _ _ _ h => h.2.2) hr tn.conn).filterMap
    (·.output tn.sid)
  rw [output_pastLogin, output_pastLogin, ← outputRead_eq, filterMap_stream] at hreceived
  rw [shown_eq_passedOn (fun _ _ _ _ h => h) hr htn]
  exact (hrelay.trans (hreceived.trans hqueued)).flatten

end Output

/-! ## A run that keeps up -/

/-- Whether a step of the agent in the sample keeps up. -/
def keepsUp (S : Agent.Setup) (w : World Agent.State Agent.Tid Agent.Resp) (i : Agent.Tid) :
    (c : Agent.Cmd) → Agent.Resp c → Bool
  | .out (.trySend k (.webFrame _ _)), _ =>
      decide ((w.state.out k).queue.length < Agent.OUT_CAPACITY)
  | .ws k (.send _), true => w.trace.all fun
      | ⟨_, .ws j (.send _), false⟩ => j != k
      | _ => true
  | c, r => counterLasts S w i c r

theorem keepsUp_sound {S : Agent.Setup} (w : World Agent.State Agent.Tid Agent.Resp)
    (i : Agent.Tid) (c : Agent.Cmd) (r : Agent.Resp c) (h : keepsUp S w i c r = true) :
    KeepsUp S w i c r := by
  refine ⟨?_, ?_, fun k f heq j f' hmem => ?_⟩
  · rintro k frame id rfl - -
    exact of_decide_eq_true h
  · rintro k rfl
    exact counterLasts_sound w i _ r h k rfl
  · cases heq
    have hall := List.all_eq_true.1 h _ hmem
    simp at hall

/-- What the shell prints is shown to the browser that opened it. -/
theorem output_intact_of_print :
    ∃ cfg, (sampleNetwork id).Reach (BoundBySameProcess id) (KeepsUp (sampleAgent id)) sampleStart
        cfg ∧ OutputIntact id cfg ∧
      stream (shown id 0 0 1) cfg.left.world.trace = [[104], [105]] := by
  have hrun : ((sampleNetwork id).run (boundBySame id) (keepsUp (sampleAgent id))
      (shell ++ print 0 [104] ++ print 0 [105] ++
        sendUp 0 (.webFrame (.tunnelData 0 (Uuid.display 10) 1 [104]) (.sessionId 1)) 4 ++
        sendUp 0 (.webFrame (.tunnelData 0 (Uuid.display 10) 1 [105]) (.sessionId 1)) 4)
      sampleStart).any (fun cfg => decide
        (stream (shown id 0 0 1) cfg.left.world.trace = [[104], [105]])) = true := by
    decide +kernel
  obtain ⟨cfg, hr, hend⟩ := Link.reach_of_run boundBySame_sound keepsUp_sound hrun
  exact ⟨cfg, hr, output_intact hr, of_decide_eq_true hend⟩

/-! ## A run that does not -/

section Pumping

/-- Everyone at work on the tunnel `t` of node `n` is at the head of his loop.  It has printed
`os`, of which `qs` wait in its queue, and the browser with the queue `x` has been shown `ss`. -/
structure Pumping (Sa : Agent.Setup) (n : Uuid) (t x : Nat) (tn : Agent.Tunnel)
    (os qs ss : List Bytes) (cfg : Network) : Prop where
  ssh : tn.protocol = .ssh
  tunnel : cfg.right.threads (.tunnel t) = .ret (.sshLoop t tn)
  writer : cfg.right.threads (.writer tn.conn) = .ret (.writing tn.conn)
  handler : cfg.left.threads (.node tn.conn) = .ret (.nodeMessages tn.conn n)
  page : cfg.left.threads (.webWriter x) = .ret (.webWriting x)
  spawned : cfg.right.world.state.tunnels[t]? = some tn
  session : cfg.left.world.state.tunnelSessions.lookup ⟨n, tn.sid⟩ = some (tn.cid, n)
  client : ∃ conn, cfg.left.world.state.connections.lookup tn.cid = some conn ∧ conn.tx = x
  queue : cfg.right.world.state.out tn.conn = ⟨qs.map (Agent.outputFrame Sa tn), false⟩
  wire : cfg.wire.up tn.conn = []
  room : cfg.left.world.state.webChans x = ⟨[], false⟩
  began : Agent.IsTunnel cfg.right.world.trace t tn
  drew : Server.Drew cfg.left.world.trace x tn.cid
  printed : stream (Agent.outputs t) cfg.right.world.trace = os
  shows : stream (shown Sa.proc (Sa.proc tn.conn) x tn.sid) cfg.left.world.trace = ss

variable {Ss : Server.Setup} {Sa : Agent.Setup}

/-! ### The turns of the four loops -/

variable {w : World Agent.State Agent.Tid Agent.Resp} {x : Wires} {t : Nat} {tn : Agent.Tunnel}
  {q : List NodeFrameData}

/-- The channel of a tunnel gives it some output. -/
theorem exec_print (data : Bytes) (hp : tn.protocol = .ssh) (htn : w.state.tunnels[t]? = some tn) :
    (Agent.machine Sa).exec (.tunnel t) (.select t) { branch := .message (some (.data data)) }
      w.state = some (.message (some (.data data)), w.state) := by
  simp [Agent.machine, Agent.exec, Agent.select, htn, hp]

/-- What a tunnel prints goes into its queue while there is room. -/
theorem print_turns (data : Bytes) (hp : tn.protocol = .ssh)
    (htn : w.state.tunnels[t]? = some tn)
    (hq : w.state.out tn.conn = ⟨q, false⟩) (hroom : q.length < Agent.OUT_CAPACITY) :
    Link.Turns (Agent.machine Sa) agentWire Free (.tunnel t) (Agent.sshTurn Sa t tn) w x
      (.sshLoop t tn)
      ((w.push (.tunnel t) (.select t) (.message (some (.data data))) w.state).push (.tunnel t)
        (.out (.trySend tn.conn (Agent.outputFrame Sa tn data))) (.ok ())
        { w.state with
          out := Function.update w.state.out tn.conn
            ⟨q ++ [Agent.outputFrame Sa tn data], false⟩ }) x := by
  refine .op (exec_print data hp htn) trivial rfl ?_
  refine .op (o := {}) (r := .ok ()) ?_ trivial rfl (.ret _ _ _)
  simp [Agent.machine, Agent.exec, ChanOp.exec, hq, hroom, Agent.outputFrame]

/-- What it prints when there is none is lost, and it goes on. -/
theorem drop_turns (data : Bytes) (hp : tn.protocol = .ssh)
    (htn : w.state.tunnels[t]? = some tn)
    (hq : w.state.out tn.conn = ⟨q, false⟩) (hfull : ¬ q.length < Agent.OUT_CAPACITY) :
    Link.Turns (Agent.machine Sa) agentWire Free (.tunnel t) (Agent.sshTurn Sa t tn) w x
      (.sshLoop t tn)
      ((w.push (.tunnel t) (.select t) (.message (some (.data data))) w.state).push (.tunnel t)
        (.out (.trySend tn.conn (Agent.outputFrame Sa tn data))) (.error .full) w.state) x := by
  refine .op (exec_print data hp htn) trivial rfl ?_
  refine .op (o := {}) (r := .error .full) ?_ trivial rfl (.ret _ _ _)
  simp [Agent.machine, Agent.exec, ChanOp.exec, hq, hfull]

/-- The writer sends the next frame. -/
theorem write_turns {k : Nat} {g : NodeFrameData} (hq : w.state.out k = ⟨g :: q, false⟩) :
    Link.Turns (Agent.machine Sa) agentWire Free (.writer k) (Agent.write k) w x (.writing k)
      ((w.push (.writer k) (.out (.recv k)) (some g)
        { w.state with out := Function.update w.state.out k ⟨q, false⟩ }).push (.writer k)
          (.ws k (.send (Frame.ofNode g))) true
          { w.state with out := Function.update w.state.out k ⟨q, false⟩ })
      { x with up := Function.update x.up k (x.up k ++ [g]) } := by
  have hrecv : (Agent.machine Sa).exec (.writer k) (.out (.recv k)) {} w.state =
      some (some g, { w.state with out := Function.update w.state.out k ⟨q, false⟩ }) := by
    simp [Agent.machine, Agent.exec, ChanOp.exec, hq, Agent.stops]
  exact .op hrecv trivial rfl (.op (o := {}) (r := true) rfl trivial rfl (.ret _ _ _))

variable {v : World Server.State Server.Tid Server.Resp} {k i : Nat} {n cid : Uuid} {sid : UInt32}
  {conn : Server.WebConnection}

/-- A session that is bound is found. -/
theorem session_turns (hsession : v.state.tunnelSessions.lookup ⟨n, sid⟩ = some (cid, n)) :
    Link.Turns (Server.machine Ss) serverWire Free (.node k) (Server.getConnectionIdBySid sid n) v x
      (.ok cid) (v.push (.node k) (.tunnelSessions (.get ⟨n, sid⟩)) (some (cid, n)) v.state) x := by
  have hget : (Server.machine Ss).exec (.node k) (.tunnelSessions (.get ⟨n, sid⟩)) {} v.state =
      some (some (cid, n), v.state) := by
    simp [Server.machine, Server.exec, MapOp.exec, MapOp.answer, MapOp.apply, hsession]
  refine .op hget trivial rfl ?_
  show Link.Turns _ _ _ _ (if n ≠ n then _ else _) _ _ _ _ _
  rw [if_neg fun hne => hne rfl]
  exact .ret _ _ _

/-- A client that is there is sent the frame, while there is room. -/
theorem notify_turns (frame : WebFrameData) (hclient : v.state.connections.lookup cid = some conn)
    (hroom : v.state.webChans conn.tx = ⟨[], false⟩) :
    Link.Turns (Server.machine Ss) serverWire Free (.node k) (Server.notifyClientByCid cid frame) v x
      (.ok ())
      ((v.push (.node k) (.connections (.get cid)) (some conn) v.state).push
        (.node k) (.web (.send conn.tx frame)) true
        { v.state with webChans := Function.update v.state.webChans conn.tx ⟨[frame], false⟩ }) x := by
  have hfind : (Server.machine Ss).exec (.node k) (.connections (.get cid)) {} v.state =
      some (some conn, v.state) := by
    simp [Server.machine, Server.exec, MapOp.exec, MapOp.answer, MapOp.apply, hclient]
  have hsend : (Server.machine Ss).exec (.node k) (.web (.send conn.tx frame)) {} v.state =
      some (true, { v.state with
        webChans := Function.update v.state.webChans conn.tx ⟨[frame], false⟩ }) := by
    simp [Server.machine, Server.exec, ChanOp.exec, hroom, Server.CHANNEL_CAPACITY]
  exact .op hfind trivial rfl (.op hsend trivial rfl (.ret _ _ _))

/-- The handler passes the next frame on to the client it finds. -/
theorem relay_turns (frame : WebFrameData)
    (hsession : v.state.tunnelSessions.lookup ⟨n, sid⟩ = some (cid, n))
    (hclient : v.state.connections.lookup cid = some conn)
    (hroom : v.state.webChans conn.tx = ⟨[], false⟩)
    (hwire : x.up k = [.webFrame frame (.sessionId sid)]) :
    Link.Turns (Server.machine Ss) serverWire Free (.node k) (Server.handleNodeMessages k n) v x
      (.nodeMessages k n)
      ((((v.push (.node k) (.ws .next)
        (some (.ok (.binary (.ok (Frame.ofNode (.webFrame frame (.sessionId sid))))))) v.state).push
          (.node k) (.tunnelSessions (.get ⟨n, sid⟩)) (some (cid, n)) v.state).push
          (.node k) (.connections (.get cid)) (some conn) v.state).push
          (.node k) (.web (.send conn.tx frame)) true
          { v.state with webChans := Function.update v.state.webChans conn.tx ⟨[frame], false⟩ })
      { x with up := Function.update x.up k [] } := by
  have hread : serverWire (.node k) (.ws .next) (some (.ok (.binary (.ok
      (Frame.ofNode (.webFrame frame (.sessionId sid))))))) x =
        some { x with up := Function.update x.up k [] } := by
    simp [serverWire, receive, Frame.ofNode, hwire]
  refine .op (o := Server.fromNode (.webFrame frame (.sessionId sid))) rfl trivial hread ?_
  refine Link.Turns.bind (a := true) (Link.Turns.bind (a := ()) ?_ (.ret _ _ _)) (.ret _ _ _)
  refine Link.Turns.bind (session_turns ?_) (Link.Turns.bind (notify_turns frame ?_ ?_) (.ret _ _ _))
  · exact hsession
  · exact hclient
  · exact hroom

/-- The browser is sent the next frame. -/
theorem page_turns (frame : WebFrameData) (hq : v.state.webChans i = ⟨[frame], false⟩) :
    Link.Turns (Server.machine Ss) serverWire Free (.webWriter i) (Server.webWrite i) v x
      (.webWriting i)
      ((v.push (.webWriter i) (.web (.recv i)) (some frame)
        { v.state with webChans := Function.update v.state.webChans i ⟨[], false⟩ }).push
          (.webWriter i) (.ws (.send (Frame.ofWeb frame))) true
          { v.state with webChans := Function.update v.state.webChans i ⟨[], false⟩ }) x := by
  have hrecv : (Server.machine Ss).exec (.webWriter i) (.web (.recv i)) {} v.state =
      some (some frame,
        { v.state with webChans := Function.update v.state.webChans i ⟨[], false⟩ }) := by
    simp [Server.machine, Server.exec, ChanOp.exec, hq, Server.stops]
  exact .op hrecv trivial rfl (.op (o := {}) (r := true) rfl trivial rfl (.ret _ _ _))

/-! ### What a turn makes of them -/

variable {init cfg : Network} {y : Nat} {os qs ss : List Bytes}

/-- The shell prints, and there is room. -/
theorem Pumping.print (data : Bytes) (hr : (network Ss Sa).Reach Free Free init cfg)
    (h : Pumping Sa n t y tn os qs ss cfg) (hroom : qs.length < Agent.OUT_CAPACITY) :
    ∃ cfg', (network Ss Sa).Reach Free Free init cfg' ∧
      Pumping Sa n t y tn (os ++ [data]) (qs ++ [data]) ss cfg' := by
  have hturn := hr.turn_right h.tunnel (print_turns data h.ssh h.spawned h.queue
    (by rwa [List.length_map]))
  refine ⟨_, hturn, { h with queue := ?_, began := ?_, printed := ?_ }⟩
  · simp
  · exact h.began.mono ⟨[_, _], rfl⟩
  · simp [stream_cons, h.printed, Agent.outputs]

/-- The shell prints, and there is none. -/
theorem Pumping.drop (data : Bytes) (hr : (network Ss Sa).Reach Free Free init cfg)
    (h : Pumping Sa n t y tn os qs ss cfg) (hfull : qs.length = Agent.OUT_CAPACITY) :
    ∃ cfg', (network Ss Sa).Reach Free Free init cfg' ∧
      Pumping Sa n t y tn (os ++ [data]) qs ss cfg' := by
  have hturn := hr.turn_right h.tunnel (drop_turns data h.ssh h.spawned h.queue
    (by rw [List.length_map, hfull]; exact lt_irrefl _))
  refine ⟨_, hturn, { h with began := ?_, printed := ?_ }⟩
  · exact h.began.mono ⟨[_, _], rfl⟩
  · simp [stream_cons, h.printed, Agent.outputs]

/-- The first of what waits is shown. -/
theorem Pumping.deliver {data : Bytes} (hr : (network Ss Sa).Reach Free Free init cfg)
    (h : Pumping Sa n t y tn os (data :: qs) ss cfg) :
    ∃ cfg', (network Ss Sa).Reach Free Free init cfg' ∧
      Pumping Sa n t y tn os qs (ss ++ [data]) cfg' := by
  obtain ⟨conn, hclient, rfl⟩ := h.client
  have hwrite := hr.turn_right h.writer (write_turns h.queue)
  have hrelay := hwrite.turn_left h.handler (relay_turns (.tunnelData Protocol.ssh.toU8
    Sa.nodeId.display tn.sid data) h.session hclient h.room ?_)
  · have hpage := hrelay.turn_left h.page (page_turns _ (Function.update_self ..))
    refine ⟨_, hpage, { h with
      queue := ?_, wire := ?_, room := ?_, began := ?_, drew := ?_, printed := ?_, shows := ?_ }⟩
    · simp
    · simp
    · simp
    · exact h.began.mono ⟨[_, _], rfl⟩
    · exact h.drew.mono ⟨[_, _, _, _, _, _], rfl⟩
    · simp [stream_cons, h.printed, Agent.outputs]
    · simp [stream_cons, h.shows, shown, WebFrameData.output]
  · show Function.update cfg.wire.up tn.conn _ tn.conn = _
    rw [Function.update_self, h.wire]
    rfl

/-- The queue is filled. -/
theorem Pumping.fill (data : Bytes) (m : Nat) (hr : (network Ss Sa).Reach Free Free init cfg)
    (h : Pumping Sa n t y tn os qs ss cfg) (hroom : qs.length + m ≤ Agent.OUT_CAPACITY) :
    ∃ cfg', (network Ss Sa).Reach Free Free init cfg' ∧
      Pumping Sa n t y tn (os ++ List.replicate m data) (qs ++ List.replicate m data) ss cfg' := by
  induction m generalizing os qs cfg with
  | zero => exact ⟨cfg, hr, by simpa using h⟩
  | succ m ih =>
      obtain ⟨cfg₁, hr₁, h₁⟩ := h.print data hr (by omega)
      obtain ⟨cfg', hr', h'⟩ := ih hr₁ h₁ (by rw [List.length_append]; simp; omega)
      exact ⟨cfg', hr', by simpa [List.replicate_succ] using h'⟩

/-- It is emptied. -/
theorem Pumping.drain (hr : (network Ss Sa).Reach Free Free init cfg)
    (h : Pumping Sa n t y tn os qs ss cfg) :
    ∃ cfg', (network Ss Sa).Reach Free Free init cfg' ∧ Pumping Sa n t y tn os [] (ss ++ qs) cfg' := by
  induction qs generalizing ss cfg with
  | nil => exact ⟨cfg, hr, by simpa using h⟩
  | cons data qs ih =>
      obtain ⟨cfg₁, hr₁, h₁⟩ := h.deliver hr
      obtain ⟨cfg', hr', h'⟩ := ih hr₁ h₁
      exact ⟨cfg', hr', by simpa using h'⟩

/-- A tunnel whose queue is filled, and then emptied, is shown with a hole. -/
theorem Pumping.torn (hr : (network Ss Sa).Reach Free Free init cfg)
    (h : Pumping Sa n t y tn os [] os cfg) :
    ∃ cfg', (network Ss Sa).Reach Free Free init cfg' ∧ ¬ OutputIntact Sa.proc cfg' := by
  obtain ⟨cfg₁, hr₁, h₁⟩ := h.fill [0] Agent.OUT_CAPACITY hr (by simp)
  obtain ⟨cfg₂, hr₂, h₂⟩ := h₁.drop [1] hr₁ (by simp)
  obtain ⟨cfg₃, hr₃, h₃⟩ := h₂.drain hr₂
  obtain ⟨cfg₄, hr₄, h₄⟩ := h₃.print [2] hr₃ (by simp [Agent.OUT_CAPACITY])
  obtain ⟨cfg₅, hr₅, h₅⟩ := h₄.drain hr₄
  refine ⟨cfg₅, hr₅, fun hall => ?_⟩
  have hpre := hall t tn y h₅.began h₅.ssh h₅.drew
  rw [h₅.shows, h₅.printed] at hpre
  simp only [List.nil_append, List.append_assoc, List.flatten_append, List.prefix_append_right_inj]
    at hpre
  revert hpre
  decide

end Pumping

/-- Browser `0` has a shell, and everyone at work on it is at the head of his loop. -/
def ready : Schedule :=
  join 0 ++ browse 0 77 ++ ask 0 0 .ssh 77 ++
    onAgent (Agent.idle (.tunnel 0) 8 ++ Agent.idle (.writer 0) 2) ++
    onServer ((.node 0, Server.fromNode (.tunnelOpened 0 77 1 (some 1))) :: Server.idle (.node 0) 3 ++
      Server.idle (.webWriter 0) 8)

/-- Whether it is so. -/
def isReady (cfg : Network) : Bool :=
  match cfg.right.threads (.tunnel 0), cfg.right.threads (.writer 0), cfg.left.threads (.node 0),
    cfg.left.threads (.webWriter 0) with
  | .ret (.sshLoop 0 tn), .ret (.writing 0), .ret (.nodeMessages 0 n), .ret (.webWriting 0) =>
      decide (tn.protocol = .ssh ∧ tn.conn = 0 ∧ n = 10 ∧
        cfg.right.world.state.tunnels[0]? = some tn ∧
        cfg.left.world.state.tunnelSessions.lookup ⟨10, tn.sid⟩ = some (tn.cid, 10) ∧
        (cfg.left.world.state.connections.lookup tn.cid).map (·.tx) = some 0 ∧
        (cfg.right.world.state.out 0).queue = [] ∧ (cfg.right.world.state.out 0).closed = false ∧
        cfg.wire.up 0 = [] ∧
        (cfg.left.world.state.webChans 0).queue = [] ∧
        (cfg.left.world.state.webChans 0).closed = false ∧
        Server.Drew cfg.left.world.trace 0 tn.cid ∧
        stream (Agent.outputs 0) cfg.right.world.trace = [] ∧
        stream (shown id 0 0 tn.sid) cfg.left.world.trace = []) &&
      cfg.right.world.trace.any fun
        | ⟨.tunnel 0, .begin 0, tn'⟩ => decide (tn' = tn)
        | _ => false
  | _, _, _, _ => false

theorem pumping_of_ready {cfg : Network} (h : isReady cfg = true) :
    ∃ tn, Pumping (sampleAgent id) 10 0 0 tn [] [] [] cfg := by
  unfold isReady at h
  split at h
  · next tn n htunnel hwriter hhandler hpage =>
      rw [Bool.and_eq_true, decide_eq_true_eq, List.any_eq_true] at h
      obtain ⟨⟨hp, hconn, rfl, hspawned, hsession, hclient, hq, hopen, hwire, hweb, hwebopen, hdrew,
        hprinted, hshown⟩, e, hmem, he⟩ := h
      obtain ⟨conn, hclient, htx⟩ := Option.map_eq_some_iff.1 hclient
      refine ⟨tn, hp, htunnel, ?_, ?_, hpage, hspawned, hsession, ⟨conn, hclient, htx⟩, ?_, ?_, ?_, ?_,
        hdrew, hprinted, ?_⟩
      · rw [hconn]
        exact hwriter
      · rw [hconn]
        exact hhandler
      · rw [hconn, List.map_nil, ← hq, ← hopen]
      · rw [hconn]
        exact hwire
      · rw [← hweb, ← hwebopen]
      · split at he
        · exact of_decide_eq_true he ▸ hmem
        · cases he
      · rw [hconn]
        exact hshown
  · cases h

/-- **Output is torn.**  The shell prints faster than its frames are sent: a full queue, one
piece that finds no room, and one that does again. -/
theorem output_torn :
    ∃ cfg, (sampleNetwork id).Reach Free Free sampleStart cfg ∧ ¬ OutputIntact id cfg := by
  have hrun : (follow id ready).any isReady = true := by
    decide +kernel
  obtain ⟨cfg, hr, hready⟩ := reach_of_follow hrun
  obtain ⟨tn, h⟩ := pumping_of_ready hready
  exact h.torn hr

end Phirepass.System
