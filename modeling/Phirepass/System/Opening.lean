/-
# `Phirepass.System.Opening` — a request to open a tunnel is answered

What the agent says about an `OpenTunnel` (`Agent.Opens.says`) the handler of
its node passes on, a frame at a time, and other tasks of the server take
their turns between any two of its steps.  An error under the connection id and
`TunnelOpened` name the client; an error under the session id goes to whom the
session is bound to, and `TunnelOpened` is what binds it.  So the request is
answered where the frame finds its way (`openAnswered_iff`):

    SSH, credentials accepted, no shell     the session id has to be bound to
                                            the client
    anything else                           the client has to be connected

The first is never so, for a new session id.  The second may fail too: the
cleanup evicts a client that sends no heartbeats, while its socket stays up.
-/
import Phirepass.Agent.Opening
import Phirepass.Interleave.Amid
import Phirepass.Server.Disconnect

namespace Phirepass.System

open Rust Interleave

/-- The steps of a task of the server. -/
abbrev Steps : Type := List (Stride Server.State Server.Resp)

/-- The handler of node `n` handles one frame, while other tasks take their turns. -/
structure Handling (S : Server.Setup) (i : Server.Tid) (n : Uuid) where
  frame : NodeFrameData
  again : Bool
  steps : Steps
  runs : (Server.handleNodeFrame n frame).Amid (Server.exec S i) steps (.ret again)

/-- The frame answers the request with the message id `msgId`. -/
def IsAnswer (msgId : Option UInt32) : WebFrameData → Prop
  | .tunnelOpened _ _ msgId' | .error _ _ msgId' => msgId' = msgId
  | _ => False

/-- What a step puts into the client queue `x`. -/
def sentBy (x : Nat) : Sigma Server.Resp → List WebFrameData
  | ⟨.web op, r⟩ => op.puts x r
  | _ => []

/-- What the steps put into it. -/
def sentTo (x : Nat) (l : Steps) : List WebFrameData := l.flatMap fun y => sentBy x y.event

/-- An answer was put into the client queue `x`. -/
def Handling.Answers {S : Server.Setup} {i : Server.Tid} {n : Uuid} (d : Handling S i n) (x : Nat)
    (msgId : Option UInt32) : Prop :=
  ∃ frame ∈ sentTo x d.steps, IsAnswer msgId frame

/-- The client is connected, with the queue `x`, when it is looked up, and the queue is open when
a frame is to be put into it. -/
structure FindsOpen (cid : Uuid) (x : Nat) (l : Steps) : Prop where
  connected : ∃ y ∈ l, y.cmd = .connections (.get cid) ∧
    (y.before.connections.lookup cid).map (·.tx) = some x
  takes : ∀ y ∈ l, (∃ frame, y.cmd = .web (.send x frame)) →
    (y.before.webChans x).closed = false

/-- The session is bound to a client of node `n` when it is looked up, and that client is found. -/
def FindsBound (n : Uuid) (sid : UInt32) (x : Nat) (l : Steps) : Prop :=
  ∃ cid, (∃ y ∈ l, y.cmd = .tunnelSessions (.get ⟨n, sid⟩) ∧
    y.before.tunnelSessions.lookup ⟨n, sid⟩ = some (cid, n)) ∧ FindsOpen cid x l

/-- So is the session whose id was drawn for the request. -/
def Handling.FindsSession {S : Server.Setup} {i : Server.Tid} {n : Uuid} (d : Handling S i n)
    (x k : Nat) (h : Hist Agent.Resp) : Prop :=
  ∃ sid, (⟨.generateSessionId k, sid⟩ : Sigma Agent.Resp) ∈ h ∧ FindsBound n sid x d.steps

/-- An SSH tunnel was started and got no shell. -/
structure Dark (S : Agent.Setup) (p : Protocol) (username password : Option String)
    (h h' : Hist Agent.Resp) : Prop where
  accepted : Agent.hasCredentials S username password = true
  ssh : p = .ssh
  dark : ∀ tn t, (⟨.spawnTunnel tn, t⟩ : Sigma Agent.Resp) ∈ h → ¬ Agent.Granted t h'

/-- What the frames about the request find: in the dark, the session bound to a client; else the
client connected, for the first of them, or the session bound, for a later one. -/
structure FindsClient {Ss : Server.Setup} {i : Server.Tid} {n : Uuid} (S : Agent.Setup)
    (handled : List (Handling Ss i n)) (cid : Uuid) (x k : Nat) (p : Protocol)
    (username password : Option String) (h h' : Hist Agent.Resp) : Prop where
  dark : Dark S p username password h h' → ∃ d ∈ handled, d.FindsSession x k h
  light : ¬ Dark S p username password h h' → ∃ d rest, handled = d :: rest ∧
    (FindsOpen cid x d.steps ∨ ∃ d' ∈ rest, d'.FindsSession x k h)

/-! ## One frame

A frame for a client is one lookup in `connections` and one `send`; a frame for a session has the
lookup of the session before that, and `TunnelOpened` its insertion.  The states of these steps
are not one state: the client may be evicted between the two lookups, and its queue be closed
behind them. -/

section Frames

variable {S : Server.Setup} {i : Server.Tid} {n cid : Uuid} {frame : WebFrameData} {x : Nat}
  {msgId : Option UInt32} {l : Steps}

/-- The steps of `notify_client_by_cid`. -/
inductive Tells (cid : Uuid) (frame : WebFrameData) : Steps → Prop
  | absent {s s' : Server.State} (hconn : s.connections.lookup cid = none) :
      Tells cid frame [⟨s, .connections (.get cid), none, s'⟩]
  | found {s s' s₁ s₁' : Server.State} {conn : Server.WebConnection} {sent : Bool}
      (hconn : s.connections.lookup cid = some conn)
      (hsent : sent = true ↔ (s₁.webChans conn.tx).closed = false) :
      Tells cid frame [⟨s, .connections (.get cid), some conn, s'⟩,
        ⟨s₁, .web (.send conn.tx frame), sent, s₁'⟩]

theorem notifyClientByCid_amid {res : Except String Unit}
    (h : (Server.notifyClientByCid cid frame).Amid (Server.exec S i) l (.ret res)) :
    Tells cid frame l := by
  unfold Server.notifyClientByCid at h
  obtain ⟨o, found, s, s', l', hget, rfl, hrest⟩ := Prog.amid_perform.1 h
  have hanswer := Server.exec_connections_answer hget
  simp only [MapOp.answer, Option.some.injEq] at hanswer
  cases found with
  | none =>
      obtain ⟨rfl, -⟩ := Prog.amid_ret.1 hrest
      exact .absent hanswer
  | some conn =>
      obtain ⟨o', sent, s₁, s₁', l', hsend, rfl, hres⟩ := Prog.amid_perform.1 hrest
      have hsent : sent = true ↔ (s₁.webChans conn.tx).closed = false := by
        obtain ⟨⟨sent', chans⟩, hchan, hx⟩ := Option.map_eq_some_iff.1 hsend
        cases hx
        simp only [ChanOp.exec] at hchan
        split at hchan
        · next hclosed =>
            cases hchan
            simp [hclosed]
        · next hopen =>
            split at hchan
            · cases hchan
              simpa using hopen
            · cases hchan
      cases sent with
      | true =>
          obtain ⟨rfl, -⟩ := Prog.amid_ret.1 hres
          exact .found hanswer hsent
      | false =>
          obtain ⟨rfl, -⟩ := Prog.amid_ret.1 hres
          exact .found hanswer hsent

/-- An answer gets into the queue exactly if the client is found. -/
theorem answered_iff (ht : Tells cid frame l) (hanswer : IsAnswer msgId frame) :
    (∃ f ∈ sentTo x l, IsAnswer msgId f) ↔ FindsOpen cid x l := by
  cases ht with
  | absent hconn =>
      refine iff_of_false (fun ⟨f, hf, _⟩ => nomatch hf) ?_
      intro hfinds
      obtain ⟨y, hy, -, hlook⟩ := hfinds.connected
      obtain rfl := List.mem_singleton.1 hy
      rw [hconn] at hlook
      cases hlook
  | @found s s' s₁ s₁' conn sent hconn hsent =>
      have hput : sentTo x [⟨s, .connections (.get cid), some conn, s'⟩,
          ⟨s₁, .web (.send conn.tx frame), sent, s₁'⟩] =
          if conn.tx = x ∧ sent = true then [frame] else [] := by
        simp [sentTo, sentBy, Stride.event, ChanOp.puts]
      rw [hput]
      constructor
      · rintro ⟨f, hf, -⟩
        have hboth : conn.tx = x ∧ sent = true := by
          by_contra hnot
          rw [if_neg hnot] at hf
          cases hf
        obtain ⟨rfl, hopen⟩ := hboth
        refine ⟨⟨_, List.mem_cons_self, rfl, by rw [hconn]; rfl⟩, ?_⟩
        intro y hy hsend
        rcases List.mem_cons.1 hy with rfl | hy
        · obtain ⟨f, hf⟩ := hsend
          cases hf
        · obtain rfl := List.mem_singleton.1 hy
          exact hsent.1 hopen
      · rintro ⟨⟨y, hy, hget, hlook⟩, htakes⟩
        have hx : conn.tx = x := by
          rcases List.mem_cons.1 hy with rfl | hy
          · rw [hconn] at hlook
            exact Option.some.inj hlook
          · obtain rfl := List.mem_singleton.1 hy
            cases hget
        subst hx
        have hopen := htakes _ (List.mem_cons_of_mem _ List.mem_cons_self) ⟨frame, rfl⟩
        rw [if_pos ⟨rfl, hsent.2 hopen⟩]
        exact ⟨frame, List.mem_cons_self, hanswer⟩

/-! What comes before that is an operation on the sessions. -/

variable {y : Stride Server.State Server.Resp} {op : MapOp Server.TunnelSessionKey (Uuid × Uuid)}

theorem sentTo_cons (hy : y.cmd = .tunnelSessions op) : sentTo x (y :: l) = sentTo x l := by
  obtain ⟨s, c, r, s'⟩ := y
  subst hy
  rfl

theorem findsOpen_cons (hy : y.cmd = .tunnelSessions op) :
    FindsOpen cid x (y :: l) ↔ FindsOpen cid x l := by
  constructor
  · rintro ⟨⟨z, hz, hget, hlook⟩, htakes⟩
    refine ⟨?_, fun z hz => htakes z (List.mem_cons_of_mem y hz)⟩
    rcases List.mem_cons.1 hz with rfl | hz
    · cases hy.symm.trans hget
    · exact ⟨z, hz, hget, hlook⟩
  · rintro ⟨⟨z, hz, hfound⟩, htakes⟩
    refine ⟨⟨z, List.mem_cons_of_mem y hz, hfound⟩, ?_⟩
    intro z hz hsend
    rcases List.mem_cons.1 hz with rfl | hz
    · obtain ⟨f, hf⟩ := hsend
      cases hy.symm.trans hf
    · exact htakes z hz hsend

theorem answered_cons_iff (hy : y.cmd = .tunnelSessions op) (ht : Tells cid frame l)
    (hanswer : IsAnswer msgId frame) :
    (∃ f ∈ sentTo x (y :: l), IsAnswer msgId f) ↔ FindsOpen cid x (y :: l) := by
  rw [sentTo_cons hy, findsOpen_cons hy]
  exact answered_iff ht hanswer

/-- Nobody is told of a session in those steps. -/
theorem Tells.not_session (ht : Tells cid frame l) {z : Stride Server.State Server.Resp}
    (hz : z ∈ l) (hcmd : z.cmd = .tunnelSessions op) : False := by
  cases ht with
  | absent =>
      obtain rfl := List.mem_singleton.1 hz
      cases hcmd
  | found =>
      rcases List.mem_cons.1 hz with rfl | hz
      · cases hcmd
      · obtain rfl := List.mem_singleton.1 hz
        cases hcmd

end Frames

section Answers

variable {S : Server.Setup} {i : Server.Tid} {n cid : Uuid} {d : Handling S i n} {x : Nat}
  {frame : WebFrameData} {protocol : UInt8} {sid : UInt32} {msgId : Option UInt32}

theorem answers_byConnection (hd : d.frame = .webFrame frame (.connectionId cid))
    (hanswer : IsAnswer msgId frame) : d.Answers x msgId ↔ FindsOpen cid x d.steps := by
  have hruns := d.runs
  rw [hd] at hruns
  obtain ⟨u, l, l', hsteps, hresponse, hret⟩ := Prog.amid_bind.1 hruns
  obtain ⟨rfl, -⟩ := Prog.amid_ret.1 hret
  obtain ⟨res, l, l', rfl, hnotify, hret⟩ := Prog.amid_bind.1 hresponse
  obtain ⟨rfl, -⟩ := Prog.amid_ret.1 hret
  rw [List.append_nil, List.append_nil] at hsteps
  rw [Handling.Answers, hsteps]
  exact answered_iff (notifyClientByCid_amid hnotify) hanswer

theorem answers_opened (hd : d.frame = .tunnelOpened protocol cid sid msgId) :
    d.Answers x msgId ↔ FindsOpen cid x d.steps := by
  have hanswer : IsAnswer msgId (.tunnelOpened protocol sid msgId) := rfl
  have hruns := d.runs
  rw [hd] at hruns
  obtain ⟨u, l, l', hsteps, hopened, hret⟩ := Prog.amid_bind.1 hruns
  obtain ⟨rfl, -⟩ := Prog.amid_ret.1 hret
  obtain ⟨o, old, s, s', l', hinsert, rfl, hrest⟩ := Prog.amid_perform.1 hopened
  obtain ⟨res, l, l'', rfl, hnotify, hret⟩ := Prog.amid_bind.1 hrest
  obtain ⟨rfl, -⟩ := Prog.amid_ret.1 hret
  rw [List.append_nil, List.append_nil] at hsteps
  rw [Handling.Answers, hsteps]
  exact answered_cons_iff rfl (notifyClientByCid_amid hnotify) hanswer

/-- A frame with a session id goes to whom the session is bound to. -/
theorem answers_bySession (hd : d.frame = .webFrame frame (.sessionId sid))
    (hanswer : IsAnswer msgId frame) : d.Answers x msgId ↔ FindsBound n sid x d.steps := by
  have hruns := d.runs
  rw [hd] at hruns
  obtain ⟨u, l, l', hsteps, hresponse, hret⟩ := Prog.amid_bind.1 hruns
  obtain ⟨rfl, -⟩ := Prog.amid_ret.1 hret
  obtain ⟨res, l, l', rfl, hget, hrest⟩ := Prog.amid_bind.1 hresponse
  obtain ⟨o, found, s, s', l₁, hfound, rfl, hans⟩ := Prog.amid_perform.1 hget
  have hlook := Server.exec_tunnelSessions_answer hfound
  simp only [MapOp.answer, Option.some.injEq] at hlook
  rw [List.append_nil] at hsteps
  -- whatever is looked up, nothing is put anywhere without a client
  have hnobody (hnil : d.steps = [⟨s, .tunnelSessions (.get ⟨n, sid⟩), found, s'⟩]) :
      ¬ d.Answers x msgId ∧ ¬ FindsBound n sid x d.steps := by
    rw [Handling.Answers, hnil]
    constructor
    · rintro ⟨f, hf, -⟩
      cases hf
    · rintro ⟨cid, -, hfinds⟩
      obtain ⟨y, hy, hcmd, -⟩ := hfinds.connected
      obtain rfl := List.mem_singleton.1 hy
      cases hcmd
  cases found with
  | none =>
      obtain ⟨rfl, rfl⟩ := Prog.amid_ret.1 hans
      obtain ⟨rfl, -⟩ := Prog.amid_ret.1 hrest
      have hno := hnobody hsteps
      exact iff_of_false hno.1 hno.2
  | some bound =>
      obtain ⟨cid, m⟩ := bound
      dsimp only at hans
      split at hans
      · obtain ⟨rfl, rfl⟩ := Prog.amid_ret.1 hans
        obtain ⟨rfl, -⟩ := Prog.amid_ret.1 hrest
        have hno := hnobody hsteps
        exact iff_of_false hno.1 hno.2
      · next hm =>
          obtain rfl := not_not.1 hm
          obtain ⟨rfl, rfl⟩ := Prog.amid_ret.1 hans
          obtain ⟨res, l, l'', rfl, hnotify, hret⟩ := Prog.amid_bind.1 hrest
          obtain ⟨rfl, -⟩ := Prog.amid_ret.1 hret
          rw [List.append_nil] at hsteps
          have htells := notifyClientByCid_amid hnotify
          rw [Handling.Answers, hsteps, List.singleton_append,
            answered_cons_iff rfl htells hanswer]
          constructor
          · intro hfinds
            exact ⟨cid, ⟨_, List.mem_cons_self, rfl, hlook⟩, hfinds⟩
          · rintro ⟨cid', ⟨z, hz, hcmd, hbound⟩, hfinds⟩
            rcases List.mem_cons.1 hz with rfl | hz
            · cases hlook.symm.trans hbound
              exact hfinds
            · exact (htells.not_session hz hcmd).elim

end Answers

/-! ## The request -/

section Opening

variable {Ss : Server.Setup} {Sa : Agent.Setup} {i : Server.Tid} {n cid : Uuid} {k x : Nat}
  {p : Protocol} {protocol : UInt8} {username password : Option String} {msgId : Option UInt32}
  {h h' : Hist Agent.Resp} {handled : List (Handling Ss i n)}

theorem findsClient_of_light {d : Handling Ss i n} {rest : List (Handling Ss i n)}
    (hlight : ¬ Dark Sa p username password h h') :
    FindsClient Sa (d :: rest) cid x k p username password h h' ↔
      FindsOpen cid x d.steps ∨ ∃ d' ∈ rest, d'.FindsSession x k h := by
  constructor
  · intro hfinds
    obtain ⟨_, _, heq, hfound⟩ := hfinds.light hlight
    cases heq
    exact hfound
  · exact fun hfound => ⟨fun hdark => absurd hdark hlight, fun _ => ⟨d, rest, rfl, hfound⟩⟩

theorem findsClient_of_dark (hdark : Dark Sa p username password h h') :
    FindsClient Sa handled cid x k p username password h h' ↔
      ∃ d ∈ handled, d.FindsSession x k h :=
  ⟨fun hfinds => hfinds.dark hdark, fun hfound => ⟨fun _ => hfound, fun hnot => absurd hdark hnot⟩⟩

theorem findsSession_iff {t : Nat} {tn : Agent.Tunnel} {d : Handling Ss i n}
    (hspawn : Agent.Spawns k p cid msgId h t tn) :
    d.FindsSession x k h ↔ FindsBound n tn.sid x d.steps := by
  constructor
  · rintro ⟨sid, hdrew, hreach⟩
    obtain rfl := (hspawn.drew sid).1 hdrew
    exact hreach
  · exact fun hreach => ⟨tn.sid, (hspawn.drew _).2 rfl, hreach⟩

/-- **Every forwarded request is answered** whose frames find the client, and no other. -/
theorem openAnswered_iff (hp : Protocol.tryFrom protocol = .ok p)
    (hopens : Agent.Opens Sa k protocol cid username password msgId h h')
    (hkept : Agent.NoneDropped h) (hkept' : Agent.NoneDropped h')
    (hhandled : handled.map Handling.frame = Agent.queuedBy k h ++ Agent.queuedBy k h') :
    (∃ d ∈ handled, d.Answers x msgId) ↔
      FindsClient Sa handled cid x k p username password h h' := by
  have hsays := hopens.says hp hkept hkept'
  rw [← hhandled] at hsays
  generalize hsaid : handled.map Handling.frame = said at hsays
  cases hsays with
  | @refused kind message hcred =>
      obtain ⟨d, rest, rfl, hd, hrest⟩ := List.map_eq_cons_iff.1 hsaid
      obtain rfl := List.map_eq_nil_iff.1 hrest
      have hlight : ¬ Dark Sa p username password h h' := fun hdark => by
        rw [hdark.accepted] at hcred
        cases hcred
      rw [findsClient_of_light hlight]
      simp [answers_byConnection hd rfl]
  | opened hspawn hready =>
      obtain ⟨d, rest, rfl, hd, hrest⟩ := List.map_eq_cons_iff.1 hsaid
      obtain rfl := List.map_eq_nil_iff.1 hrest
      have hlight : ¬ Dark Sa p username password h h' := fun hdark =>
        hdark.dark _ _ ((hspawn.only _ _).2 ⟨rfl, rfl⟩) (hready hdark.ssh)
      rw [findsClient_of_light hlight]
      simp [answers_opened hd]
  | openedFailed hspawn hready =>
      obtain ⟨d, rest, rfl, hd, hrest⟩ := List.map_eq_cons_iff.1 hsaid
      obtain ⟨d', rest, rfl, hd', hrest⟩ := List.map_eq_cons_iff.1 hrest
      obtain rfl := List.map_eq_nil_iff.1 hrest
      have hlight : ¬ Dark Sa p username password h h' := fun hdark =>
        nomatch hready.symm.trans hdark.ssh
      rw [findsClient_of_light hlight]
      simp [answers_opened hd, answers_bySession hd' rfl, findsSession_iff hspawn]
  | @failed t tn err hcred hspawn hssh hdark =>
      obtain ⟨d, rest, rfl, hd, hrest⟩ := List.map_eq_cons_iff.1 hsaid
      obtain rfl := List.map_eq_nil_iff.1 hrest
      have hdark : Dark Sa p username password h h' := by
        refine ⟨hcred, hssh, fun tn' t' hmem => ?_⟩
        obtain ⟨-, rfl⟩ := (hspawn.only _ _).1 hmem
        exact hdark
      rw [findsClient_of_dark hdark]
      simp [answers_bySession hd rfl, findsSession_iff hspawn]

end Opening

/-! ## In a run

What the theorem is about is what the machines do: a turn of a handler that has read a frame is a
`Handling`, and a turn of the reader that has read an `OpenTunnel`, like the first turn of a
tunnel task, is a part of `Agent.Opens`.  Other threads may run all the while. -/

section Runs

variable {Ss : Server.Setup} {A : World Server.State Server.Tid Server.Resp → Server.Tid →
    (c : Server.Cmd) → Server.Resp c → Prop}
  {cfg₀ cfg : Config Server.State Server.Tid Server.Resp Server.Label} {k : Nat} {n : Uuid}

theorem handling_of_read {m : Incoming} {s s' : Server.State} {steps : Steps} {l : Server.Label}
    {g : NodeFrameData}
    (h : (Server.handleNodeMessages k n).Amid (Server.exec Ss (.node k))
      (⟨s, .ws .next, m, s'⟩ :: steps) (.ret l)) (hg : m.nodeFrame? = some g) :
    ∃ d : Handling Ss (.node k) n, d.frame = g ∧ d.steps = steps := by
  obtain ⟨version, encoding, rfl⟩ := Incoming.nodeFrame?_eq_some hg
  obtain ⟨o, m, s, s', steps, -, heq, hrest⟩ := Prog.amid_perform.1 h
  cases heq
  obtain ⟨again, l₁, l₂, rfl, hhandled, hgo⟩ := Prog.amid_bind.1 hrest
  cases again with
  | true =>
      obtain ⟨rfl, -⟩ := Prog.amid_ret.1 hgo
      exact ⟨⟨g, true, l₁, hhandled⟩, rfl, (List.append_nil l₁).symm⟩
  | false =>
      obtain ⟨rfl, -⟩ := Prog.amid_ret.1 hgo
      exact ⟨⟨g, false, l₁, hhandled⟩, rfl, (List.append_nil l₁).symm⟩

theorem handling_of_run (hturn : cfg₀.threads (.node k) = Server.handleNodeMessages k n)
    (hr : (Server.machine Ss).Reach A cfg₀ cfg) {l : Server.Label}
    (hl : cfg.threads (.node k) = .ret l) :
    ∃ cfg₁ m steps, (Server.machine Ss).Reach A cfg₁ cfg ∧
      own (.node k) cfg₁.world.trace =
        (steps.map Stride.event).reverse ++ ⟨.ws .next, m⟩ :: own (.node k) cfg₀.world.trace ∧
      (∀ y ∈ steps, ∃ cfg', (Server.machine Ss).Reach A cfg₀ cfg' ∧
        cfg'.world.state = y.before) ∧
      ∀ g, m.nodeFrame? = some g →
        ∃ d : Handling Ss (.node k) n, d.frame = g ∧ d.steps = steps := by
  obtain ⟨cfg₁, l₁, steps, hs, hret, hlater⟩ := hr.turn_done hl
  have hpath := hs.path
  rw [hturn, hret] at hpath
  obtain ⟨o, m, s, s', steps, hread, rfl, -⟩ := Prog.amid_perform.1 hpath
  refine ⟨cfg₁, m, steps, hlater, ?_, fun y hy => hs.met y (List.mem_cons_of_mem _ hy),
    fun g hg => handling_of_read hpath hg⟩
  rw [hs.own]
  simp [Stride.event]

end Runs

section Runs

variable {Sa : Agent.Setup} {A : Agent.Restriction}
  {cfg₀ cfg : Config Agent.State Agent.Tid Agent.Resp Agent.Label} {k t : Nat}

theorem opens_of_read {m : Incoming} {s s' : Agent.State} {l : Agent.Label}
    {steps : List (Stride Agent.State Agent.Resp)} {protocol : UInt8} {cid : Uuid}
    {username password : Option String} {msgId : Option UInt32}
    (h : (Agent.read Sa k).Amid (Agent.exec Sa (.reader k)) (⟨s, .ws k .next, m, s'⟩ :: steps)
      (.ret l)) (hm : m.nodeFrame? = some (.openTunnel protocol cid username password msgId)) :
    (Agent.openTunnel Sa k protocol cid username password msgId).Does [] ()
      (steps.map Stride.event).reverse := by
  obtain ⟨version, encoding, rfl⟩ := Incoming.nodeFrame?_eq_some hm
  obtain ⟨o, m, s, s', steps, -, heq, hrest⟩ := Prog.amid_perform.1 h
  cases heq
  obtain ⟨u, l₁, l₂, rfl, hopen, hgo⟩ := Prog.amid_bind.1 hrest
  obtain ⟨rfl, -⟩ := Prog.amid_ret.1 hgo
  simpa using hopen.does []

theorem read_of_run (hturn : cfg₀.threads (.reader k) = Agent.read Sa k)
    (hr : (Agent.machine Sa).Reach A cfg₀ cfg) {l : Agent.Label}
    (hl : cfg.threads (.reader k) = .ret l) :
    ∃ cfg₁ m h, (Agent.machine Sa).Reach A cfg₁ cfg ∧
      own (.reader k) cfg₁.world.trace = h ++ ⟨.ws k .next, m⟩ :: own (.reader k) cfg₀.world.trace ∧
      ∀ protocol cid username password msgId,
        m.nodeFrame? = some (.openTunnel protocol cid username password msgId) →
          (Agent.openTunnel Sa k protocol cid username password msgId).Does [] () h := by
  obtain ⟨cfg₁, l₁, steps, hs, hret, hlater⟩ := hr.turn_done hl
  have hpath := hs.path
  rw [hturn, hret] at hpath
  obtain ⟨o, m, s, s', steps, hread, rfl, -⟩ := Prog.amid_perform.1 hpath
  refine ⟨cfg₁, m, (steps.map Stride.event).reverse, hlater, ?_,
    fun _ _ _ _ _ hm => opens_of_read hpath hm⟩
  rw [hs.own]
  simp [Stride.event]

theorem dial_of_run (hturn : cfg₀.threads (.tunnel t) = Agent.runTunnel t)
    (hfirst : own (.tunnel t) cfg₀.world.trace = []) (hr : (Agent.machine Sa).Reach A cfg₀ cfg)
    {l : Agent.Label} (hl : cfg.threads (.tunnel t) = .ret l) :
    ∃ cfg₁ l₁, (Agent.machine Sa).Reach A cfg₁ cfg ∧
      (Agent.runTunnel t).Does [] l₁ (own (.tunnel t) cfg₁.world.trace) := by
  obtain ⟨cfg₁, steps, l₁, hs, hret, hlater⟩ := hr.turn_done hl
  have hpath := hs.path
  rw [hturn, hret] at hpath
  refine ⟨cfg₁, l₁, hlater, ?_⟩
  rw [hs.own, hfirst]
  exact hpath.does []

end Runs

/-! ## Two requests -/

/-- Browser `77` is connected, over socket `0`. -/
def browserConnected : Server.State :=
  { Server.State.start ∅ [] 0 with
    connections := (∅ : DashMap Uuid Server.WebConnection).insert 77 (.new "192.0.2.1" 0 0) }

/-- The agent refuses a request without a user name. -/
def userNameMissing : WebFrameData := .error .requiresUsername "Username is missing" (some 1)

/-- The refusal is handled while the browser is connected. -/
def handledRefusal : Handling (Server.sample fun _ => .heartbeat none) (.node 0) 10 where
  frame := .webFrame userNameMissing (.connectionId 77)
  again := true
  steps := [⟨browserConnected, .connections (.get 77), some (.new "192.0.2.1" 0 0),
      browserConnected⟩,
    ⟨browserConnected, .web (.send 0 userNameMissing), true,
      browserConnected.notified 77 userNameMissing⟩]
  runs := .op (o := {}) rfl (.op (o := {}) rfl (.refl _))

/-- A request without a user name is refused, and the browser is told. -/
theorem openAnswered_of_refused : ∃ d ∈ [handledRefusal], d.Answers 0 (some 1) := by
  have hread : (Agent.openTunnel (Agent.sample id) 0 0 77 none none (some 1)).Does [] ()
      [⟨.out (.trySend 0 (.webFrame userNameMissing (.connectionId 77))), .ok ()⟩] :=
    .op (.ok () : Except TrySendError Unit) (.ret _ _)
  refine (openAnswered_iff rfl (.refused hread fun tn t => ?_) ?_ ?_ rfl).2 ⟨fun hdark => ?_,
    fun _ => ⟨handledRefusal, [], rfl, .inl ⟨⟨_, List.mem_cons_self, rfl, rfl⟩, fun y hy _ => ?_⟩⟩⟩
  · simp
  · intro k g r hmem
    cases List.mem_singleton.1 hmem
    rfl
  · intro k g r hmem
    cases hmem
  · have hcred : Agent.hasCredentials (Agent.sample id) none none = false := by decide +kernel
    cases hcred.symm.trans hdark.accepted
  · rcases List.mem_cons.1 hy with rfl | hy
    · rfl
    · obtain rfl := List.mem_singleton.1 hy
      rfl

/-- The tunnel task of `sampleTunnel`, whose SSH server refuses the connection. -/
def refusedDial : Hist Agent.Resp :=
  [⟨.finish, ()⟩,
    ⟨.out (.trySend 0 (.webFrame (.error .generic "russh error: refused" (some 1))
      (.sessionId 1))), .ok ()⟩,
    ⟨.sshStdin (.close 0), ()⟩,
    ⟨.ssh 0 (.connect ⟨"localhost", 22, .usernamePassword "root" "secret", none⟩),
      .error "refused"⟩,
    ⟨.begin 0, ⟨.ssh, 0, 77, 1, ⟨"localhost", 22, .usernamePassword "root" "secret", none⟩,
      some 1⟩⟩]

/-- The refused connection is reported while the browser is connected. -/
def handledFailure : Handling (Server.sample fun _ => .heartbeat none) (.node 0) 10 where
  frame := .webFrame (.error .generic "russh error: refused" (some 1)) (.sessionId 1)
  again := true
  steps := [⟨browserConnected, .tunnelSessions (.get ⟨10, 1⟩), none, browserConnected⟩]
  runs := .op (o := {}) rfl (.refl _)

/-- **A failed login is not answered.**  The SSH server refuses the connection, the agent reports
that under a session id nobody has been told of, and the browser, though it is connected, hears
nothing. -/
theorem failed_login_unanswered :
    ∃ h, Agent.Opens (Agent.sample id) 0 0 77 (some "root") (some "secret") (some 1) h
        refusedDial ∧ Agent.NoneDropped h ∧ Agent.NoneDropped refusedDial ∧
      [handledFailure].map Handling.frame =
        Agent.queuedBy 0 h ++ Agent.queuedBy 0 refusedDial ∧
      (∀ y ∈ handledFailure.steps, y.before.openQueue 77 = some 0) ∧
      ¬ ∃ d ∈ [handledFailure], d.Answers 0 (some 1) := by
  have hcred : Agent.ensureCredentials (Agent.sample id) 0 77 (some "root") (some "secret")
      (some 1) = .ret (.ok ()) := by
    have hroot : Agent.isBlank (some "root") = false := by decide +kernel
    have hsecret : Agent.isBlank (some "secret") = false := by decide +kernel
    unfold Agent.ensureCredentials
    rw [hroot, hsecret]
    rfl
  have hread : (Agent.openTunnel (Agent.sample id) 0 0 77 (some "root") (some "secret")
      (some 1)).Does [] ()
      [⟨.sessions 0 (.insert (77, 1) (.ssh 0)), none⟩,
        ⟨.spawnTunnel ⟨.ssh, 0, 77, 1, ⟨"localhost", 22, .usernamePassword "root" "secret", none⟩,
          some 1⟩, (0 : Nat)⟩, ⟨.generateSessionId 0, (1 : UInt32)⟩] := by
    unfold Agent.openTunnel
    rw [hcred]
    exact .op (1 : UInt32) (.op (0 : Nat) (.op none (.ret _ _)))
  have hdial : (Agent.runTunnel 0).Does [] .done refusedDial := by
    refine .op (⟨.ssh, 0, 77, 1, ⟨"localhost", 22, .usernamePassword "root" "secret", none⟩,
      some 1⟩ : Agent.Tunnel) ?_
    refine .op (.error "refused" : Except String Unit) ?_
    exact .op () (.op (.ok () : Except TrySendError Unit) (.op () (.ret _ _)))
  refine ⟨_, .spawned hread (List.mem_cons_of_mem _ List.mem_cons_self) hdial ⟨[_, _, _, _], rfl⟩,
    fun k g r hmem => ?_, fun k g r hmem => ?_, rfl, fun y hy => ?_, ?_⟩
  · simp at hmem
  · simp only [refusedDial, List.mem_cons, Sigma.mk.injEq, reduceCtorEq, false_and, false_or,
      Agent.Cmd.out.injEq, or_false, List.not_mem_nil] at hmem
    obtain ⟨heq, hr⟩ := hmem
    cases heq
    exact eq_of_heq hr
  · obtain rfl := List.mem_singleton.1 hy
    rfl
  · rintro ⟨d, hd, frame, hframe, -⟩
    obtain rfl := List.mem_singleton.1 hd
    cases hframe

end Phirepass.System
