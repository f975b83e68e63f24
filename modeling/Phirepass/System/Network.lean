/-
# `Phirepass.System.Network` — one server, one node's agents, and the sockets between them

Node socket `k` of the server and connection `k` of the agent are the two
ends of one WebSocket.  Each direction is a wire that keeps its order: the
server's writer and the agent's tasks put frames on it, the other end reads
them.  A socket may fail, close or end at any time, at either end, and then
the rest of a wire is never read.  What never happens is that a frame is read
that was not sent (`written_of_read`, `written_of_received`).

Browsers are not modelled: their messages are the environment's, as before.
-/
import Phirepass.Agent.Sessions
import Phirepass.Interleave.Link
import Phirepass.Server.Identity
import Phirepass.Server.Registries

namespace Phirepass.System

open Rust Interleave

/-! ## Wires -/

/-- The frames under way, by socket. -/
structure Wires where
  /-- From the server to the agent. -/
  down : Nat → List NodeFrameData
  /-- From the agent to the server. -/
  up : Nat → List NodeFrameData

/-- What a read leaves of a wire, if the wire allows it: a frame comes off the front, a
failure or an end leaves all of it, and nothing malformed or for a browser is ever on it. -/
def receive (wire : List NodeFrameData) : Incoming → Option (List NodeFrameData)
  | some (.ok (.binary (.ok ⟨_, _, .node g⟩))) =>
      match wire with
      | g' :: rest => if g = g' then some rest else none
      | [] => none
  | some (.ok (.binary (.ok ⟨_, _, .web _⟩))) | some (.ok (.binary (.error _))) => none
  | none | some (.error ()) | some (.ok .close) | some (.ok .other) => some wire

/-- What a command of the server does to the wires. -/
def serverWire : Server.Tid → (c : Server.Cmd) → Server.Resp c → Wires → Option Wires
  | .node k, .ws .next, m, w =>
      (receive (w.up k) m).map fun rest => { w with up := Function.update w.up k rest }
  | .nodeWriter k, .ws (.send ⟨_, _, .node g⟩), true, w =>
      some { w with down := Function.update w.down k (w.down k ++ [g]) }
  | _, _, _, w => some w

/-- What a command of the agent does to them. -/
def agentWire (_ : Agent.Tid) : (c : Agent.Cmd) → Agent.Resp c → Wires → Option Wires
  | .ws k .next, m, w =>
      (receive (w.down k) m).map fun rest => { w with down := Function.update w.down k rest }
  | .ws k (.send ⟨_, _, .node g⟩), true, w =>
      some { w with up := Function.update w.up k (w.up k ++ [g]) }
  | _, _, w => some w

/-- The server and the agents of one node. -/
abbrev Network : Type :=
  Linked Server.State Server.Tid Server.Resp Server.Label Agent.State Agent.Tid Agent.Resp
    Agent.Label Wires

def network (Ss : Server.Setup) (Sa : Agent.Setup) :
    Link Server.State Server.Tid Server.Choice Server.Resp Server.Label Agent.State Agent.Tid
      Agent.Choice Agent.Resp Agent.Label Wires where
  left := Server.machine Ss
  right := Agent.machine Sa
  leftWire := serverWire
  rightWire := agentWire

/-- A server that has just started, no agent yet, and nothing under way. -/
def start (rows : DashMap Uuid Server.NodeRow) (users : List Uuid) (clock : Server.Time) :
    Network where
  left := Server.start rows users clock
  right := Agent.start
  wire := ⟨fun _ => [], fun _ => []⟩

/-! ## What is read was written -/

/-- The server's writer for socket `k` sent the frame `g`. -/
def SentDown (tr : List (Ev Server.Tid Server.Resp)) (k : Nat) (g : NodeFrameData) : Prop :=
  ∃ f, f.data = .node g ∧
    (⟨.nodeWriter k, .ws (.send f), true⟩ : Ev Server.Tid Server.Resp) ∈ tr

/-- A task of the agent sent the frame `g` on connection `k`. -/
def SentUp (tr : List (Ev Agent.Tid Agent.Resp)) (k : Nat) (g : NodeFrameData) : Prop :=
  ∃ j f, f.data = .node g ∧ (⟨j, .ws k (.send f), true⟩ : Ev Agent.Tid Agent.Resp) ∈ tr

section Wires

variable {wire rest : List NodeFrameData} {m : Incoming} {g : NodeFrameData}

/-- A frame that is received was on the wire. -/
theorem mem_of_receive (h : receive wire m = some rest) (hm : m.nodeFrame? = some g) :
    g ∈ wire := by
  match m with
  | some (.ok (.binary (.ok ⟨_, _, .node g₀⟩))) =>
      cases hm
      simp only [receive] at h
      split at h
      · split at h
        · next heq =>
            rw [heq]
            exact List.mem_cons_self
        · cases h
      · cases h
  | none | some (.error ()) | some (.ok .close) | some (.ok .other)
  | some (.ok (.binary (.error _))) | some (.ok (.binary (.ok ⟨_, _, .web _⟩))) => cases hm

/-- A read adds nothing. -/
theorem receive_subset (h : receive wire m = some rest) (hg : g ∈ rest) : g ∈ wire := by
  match m with
  | some (.ok (.binary (.ok ⟨_, _, .node _⟩))) =>
      simp only [receive] at h
      split at h
      · split at h
        · cases h
          exact List.mem_cons_of_mem _ hg
        · cases h
      · cases h
  | none | some (.error ()) | some (.ok .close) | some (.ok .other) =>
      cases h
      exact hg
  | some (.ok (.binary (.error _))) | some (.ok (.binary (.ok ⟨_, _, .web _⟩))) => cases h

theorem mem_update_append {q : Nat → List NodeFrameData} {k x : Nat} {a b : NodeFrameData}
    (h : a ∈ Function.update q k (q k ++ [b]) x) : a ∈ q x ∨ x = k ∧ a = b := by
  rcases eq_or_ne x k with rfl | hx
  · rw [Function.update_self, List.mem_append, List.mem_singleton] at h
    exact h.imp_right fun hb => ⟨rfl, hb⟩
  · rw [Function.update_of_ne hx] at h
    exact .inl h

theorem mem_update_receive {q : Nat → List NodeFrameData} {k x : Nat} {a : NodeFrameData}
    (hrest : receive (q k) m = some rest) (h : a ∈ Function.update q k rest x) : a ∈ q x := by
  rcases eq_or_ne x k with rfl | hx
  · rw [Function.update_self] at h
    exact receive_subset hrest h
  · rwa [Function.update_of_ne hx] at h

end Wires

/-- What is on the wires, and what was read from them, was written. -/
structure Carried (ts : List (Ev Server.Tid Server.Resp)) (ta : List (Ev Agent.Tid Agent.Resp))
    (w : Wires) : Prop where
  down : ∀ k g, g ∈ w.down k → SentDown ts k g
  up : ∀ k g, g ∈ w.up k → SentUp ta k g
  read : ∀ j k m g, (⟨j, .ws k .next, m⟩ : Ev Agent.Tid Agent.Resp) ∈ ta →
    m.nodeFrame? = some g → SentDown ts k g
  received : ∀ k m g, (⟨.node k, .ws .next, m⟩ : Ev Server.Tid Server.Resp) ∈ ts →
    m.nodeFrame? = some g → SentUp ta k g

section Carried

variable {ts : List (Ev Server.Tid Server.Resp)} {ta : List (Ev Agent.Tid Agent.Resp)}
  {w w' : Wires}

theorem SentDown.cons {k : Nat} {g : NodeFrameData} {e : Ev Server.Tid Server.Resp}
    (h : SentDown ts k g) : SentDown (e :: ts) k g := by
  obtain ⟨f, hf, hmem⟩ := h
  exact ⟨f, hf, List.mem_cons_of_mem _ hmem⟩

theorem SentUp.cons {k : Nat} {g : NodeFrameData} {e : Ev Agent.Tid Agent.Resp}
    (h : SentUp ta k g) : SentUp (e :: ta) k g := by
  obtain ⟨j, f, hf, hmem⟩ := h
  exact ⟨j, f, hf, List.mem_cons_of_mem _ hmem⟩

/-- A command that leaves the wires alone and reads no frame. -/
theorem Carried.server_idle {e : Ev Server.Tid Server.Resp} (h : Carried ts ta w)
    (he : ∀ k m, e ≠ ⟨.node k, .ws .next, m⟩) : Carried (e :: ts) ta w where
  down k g hg := (h.down k g hg).cons
  up := h.up
  read j k m g hmem hm := (h.read j k m g hmem hm).cons
  received k m g hmem hm := by
    rcases List.mem_cons.1 hmem with heq | hmem
    · exact absurd heq.symm (he k m)
    · exact h.received k m g hmem hm

theorem Carried.server_step {i : Server.Tid} {c : Server.Cmd} {r : Server.Resp c}
    (h : Carried ts ta w) (hw : serverWire i c r w = some w') : Carried (⟨i, c, r⟩ :: ts) ta w' := by
  unfold serverWire at hw
  split at hw
  · next k m =>
      obtain ⟨rest, hrest, rfl⟩ := Option.map_eq_some_iff.1 hw
      refine ⟨fun k g hg => (h.down k g hg).cons, fun k' g hg => ?_,
        fun j k m g hmem hm => (h.read j k m g hmem hm).cons, fun k' m' g hmem hm => ?_⟩
      · exact h.up k' g (mem_update_receive hrest hg)
      · rcases List.mem_cons.1 hmem with heq | hmem
        · cases heq
          exact h.up k g (mem_of_receive hrest hm)
        · exact h.received k' m' g hmem hm
  · next k version encoding g =>
      cases hw
      refine ⟨fun k' g' hg => ?_, h.up, fun j k m g hmem hm => (h.read j k m g hmem hm).cons,
        fun k' m' g hmem hm => ?_⟩
      · rcases mem_update_append hg with hold | ⟨rfl, rfl⟩
        · exact (h.down k' g' hold).cons
        · exact ⟨⟨version, encoding, .node g'⟩, rfl, List.mem_cons_self⟩
      · rcases List.mem_cons.1 hmem with heq | hmem
        · cases heq
        · exact h.received k' m' g hmem hm
  · next hread _ =>
      cases hw
      refine h.server_idle fun k m heq => ?_
      cases heq
      exact hread k m rfl rfl HEq.rfl

theorem Carried.agent_step {i : Agent.Tid} {c : Agent.Cmd} {r : Agent.Resp c}
    (h : Carried ts ta w) (hw : agentWire i c r w = some w') : Carried ts (⟨i, c, r⟩ :: ta) w' := by
  have hidle (he : ∀ j k m, (⟨i, c, r⟩ : Ev Agent.Tid Agent.Resp) ≠ ⟨j, .ws k .next, m⟩) :
      ∀ j k m g, (⟨j, .ws k .next, m⟩ : Ev Agent.Tid Agent.Resp) ∈ ⟨i, c, r⟩ :: ta →
        m.nodeFrame? = some g → SentDown ts k g := by
    intro j k m g hmem hm
    rcases List.mem_cons.1 hmem with heq | hmem
    · exact absurd heq.symm (he j k m)
    · exact h.read j k m g hmem hm
  unfold agentWire at hw
  split at hw
  · next k m =>
      obtain ⟨rest, hrest, rfl⟩ := Option.map_eq_some_iff.1 hw
      refine ⟨fun k' g hg => ?_, fun k g hg => (h.up k g hg).cons, fun j k' m' g hmem hm => ?_,
        fun k m g hmem hm => (h.received k m g hmem hm).cons⟩
      · exact h.down k' g (mem_update_receive hrest hg)
      · rcases List.mem_cons.1 hmem with heq | hmem
        · cases heq
          exact h.down k g (mem_of_receive hrest hm)
        · exact h.read j k' m' g hmem hm
  · next k version encoding g =>
      cases hw
      refine ⟨h.down, fun k' g' hg => ?_, hidle fun j k m heq => ?_,
        fun k m g hmem hm => (h.received k m g hmem hm).cons⟩
      · rcases mem_update_append hg with hold | ⟨rfl, rfl⟩
        · exact (h.up k' g' hold).cons
        · exact ⟨i, ⟨version, encoding, .node g'⟩, rfl, List.mem_cons_self⟩
      · cases heq
  · next hread _ =>
      cases hw
      refine ⟨h.down, fun k g hg => (h.up k g hg).cons, hidle fun j k m heq => ?_,
        fun k m g hmem hm => (h.received k m g hmem hm).cons⟩
      cases heq
      exact hread k m rfl HEq.rfl

end Carried

section Network

variable {Ss : Server.Setup} {Sa : Agent.Setup} {As : Server.Restriction} {Aa : Agent.Restriction}
  {rows : DashMap Uuid Server.NodeRow} {users : List Uuid} {clock : Server.Time} {cfg : Network}

theorem carried (h : (network Ss Sa).Reach As Aa (start rows users clock) cfg) :
    Carried cfg.left.world.trace cfg.right.world.trace cfg.wire := by
  refine h.inv (fun ws wa w => Carried ws.trace wa.trace w) ?_ ?_ ?_
  · refine ⟨fun k g hg => ?_, fun k g hg => ?_, fun j k m g hmem => ?_, fun k m g hmem => ?_⟩
    · cases hg
    · cases hg
    · cases hmem
    · cases hmem
  · intro cfg i c r s w hI hw
    exact hI.server_step hw
  · intro cfg i c r s w hI hw
    exact hI.agent_step hw

/-- The server's side is a run of the server. -/
theorem server_reach (h : (network Ss Sa).Reach As Aa (start rows users clock) cfg) :
    (Server.machine Ss).Reach As (Server.start rows users clock) cfg.left := h.left

/-- The agent's side is a run of the agent. -/
theorem agent_reach (h : (network Ss Sa).Reach As Aa (start rows users clock) cfg) :
    (Agent.machine Sa).Reach Aa Agent.start cfg.right := h.right

/-- **Downwards.**  A frame the agent reads was put into the queue of that socket. -/
theorem enqueued_of_read (h : (network Ss Sa).Reach As Aa (start rows users clock) cfg) {k : Nat}
    {g : NodeFrameData} (hread : Agent.Read cfg.right.world.trace k g) :
    ∃ i, Server.Enqueued cfg.left.world.trace i k g := by
  obtain ⟨m, hmem, hm⟩ := hread
  obtain ⟨f, hf, hsent⟩ := (carried h).read _ k m g hmem hm
  exact Server.enqueued_of_written (server_reach h) hf hsent

/-- **Upwards.**  A frame the server reads, the login apart, was put into the queue of that
connection. -/
theorem emitted_of_received (h : (network Ss Sa).Reach As Aa (start rows users clock) cfg)
    {k : Nat} {m : Incoming} {g : NodeFrameData}
    (hg : ∀ token nodeId version, g ≠ .auth token nodeId version)
    (hmem : (⟨.node k, .ws .next, m⟩ : Ev Server.Tid Server.Resp) ∈ cfg.left.world.trace)
    (hm : m.nodeFrame? = some g) : ∃ i, Agent.Emitted cfg.right.world.trace i k g := by
  obtain ⟨j, f, hf, hsent⟩ := (carried h).received k m g hmem hm
  exact Agent.emitted_of_written (agent_reach h) hf hg hsent

end Network

/-! ## A network to run -/

/-- Who takes which step next. -/
abbrev Schedule : Type := List ((Server.Tid × Server.Choice) ⊕ (Agent.Tid × Agent.Choice))

def onServer (sched : List (Server.Tid × Server.Choice)) : Schedule := sched.map .inl

def onAgent (sched : List (Agent.Tid × Agent.Choice)) : Schedule := sched.map .inr

/-- The agent of node `10`; connection `k` belongs to process `proc k`. -/
def sampleAgent (proc : Nat → Nat) : Agent.Setup :=
  { Agent.sample proc with token := fun _ => Server.nodeToken 10 }

def sampleNetwork (proc : Nat → Nat) := network (Server.sample fun _ => .heartbeat none)
  (sampleAgent proc)

def sampleStart : Network := start Server.sampleRows [1, 2] 1000000

/-- Follow a schedule, whatever it does. -/
def follow (proc : Nat → Nat) (sched : Schedule) : Option Network :=
  (sampleNetwork proc).run (fun _ _ _ _ => true) (fun _ _ _ _ => true) sched sampleStart

theorem reach_of_follow {proc : Nat → Nat} {sched : Schedule} {p : Network → Bool}
    (h : (follow proc sched).any p = true) :
    ∃ cfg, (sampleNetwork proc).Reach Free Free sampleStart cfg ∧ p cfg = true :=
  Link.reach_of_run (fun _ _ _ _ _ => trivial) (fun _ _ _ _ _ => trivial) h

/-- Connection `k` logs in over socket `k`, and the tasks at both ends wait. -/
def join (k : Nat) : Schedule :=
  onAgent (Agent.idle (.main k) 3) ++ onServer (Server.nodeLogin k 10 ++ Server.idle (.node k) 1) ++
    onServer (Server.idle (.nodeWriter k) 6) ++
    onAgent ([(.main k, Agent.fromServer (.authResponse 10 true "0.1.0"))] ++
      Agent.idle (.main k) 1 ++ Agent.idle (.reader k) 3 ++ Agent.idle (.writer k) 3)

/-- The server's writer sends the next frame. -/
def sendDown (k : Nat) : Schedule := onServer (Server.idle (.nodeWriter k) 3)

/-- The agent's writer sends the next frame `g`, and its handler takes `n` more steps. -/
def sendUp (k : Nat) (g : NodeFrameData) (n : Nat) : Schedule :=
  onAgent (Agent.idle (.writer k) 3) ++
    onServer ((.node k, Server.fromNode g) :: Server.idle (.node k) n)

/-- User `1` logs in with browser `w`, under the id `cid`. -/
def browse (w : Nat) (cid : Uuid) : Schedule :=
  onServer (Server.webLogin w 1 10 cid ++ Server.idle (.web w) 1)

/-- The browser asks for a tunnel, and the agent's reader spawns it. -/
def ask (w k : Nat) (protocol : Protocol) (cid : Uuid) : Schedule :=
  onServer ((.web w, Server.fromWeb (.openTunnel protocol.toU8 (Uuid.display 10) (some "root")
      (some "secret") (some 1))) :: Server.idle (.web w) 3) ++
    sendDown k ++ onAgent (Agent.request k protocol cid)

/-- The tunnel `t` comes up, and the server hears of it. -/
def comeUp (k t : Nat) (cid : Uuid) (sid : UInt32) : Schedule :=
  onAgent (Agent.comeUp t) ++ sendUp k (.tunnelOpened 0 cid sid (some 1)) 4

/-- The browser sends input for the session `sid`, and its handler takes `n` more steps. -/
def type (w : Nat) (sid : UInt32) (data : Bytes) (n : Nat) : Schedule :=
  onServer ((.web w, Server.fromWeb (.tunnelData 0 (Uuid.display 10) sid data)) ::
    Server.idle (.web w) n)

/-- Browser `0` opens a shell. -/
def shell : Schedule :=
  join 0 ++ browse 0 77 ++ ask 0 0 .ssh 77 ++ comeUp 0 0 77 1

/-- The shell of the SSH tunnel `t` prints, and the tunnel passes it on. -/
def print (t : Nat) (data : Bytes) : Schedule :=
  onAgent ((.tunnel t, { branch := .message (some (.data data)) }) :: Agent.idle (.tunnel t) 2)

/-- The channel of the SSH tunnel `t` closes, and the server hears of it. -/
def hangUp (k t : Nat) (cid : Uuid) (sid : UInt32) : Schedule :=
  onAgent ((.tunnel t, { branch := .message none }) :: Agent.idle (.tunnel t) 5) ++
    sendUp k (.tunnelClosed 0 cid sid (some 1)) 4

end Phirepass.System
