/-
# `Phirepass.System.Notices` — a tunnel is reported closed under the protocol it was opened with

A client hears `TunnelOpened` when the agent says so, and `TunnelClosed` for
one of two reasons.

    the agent says so          with the protocol of the tunnel
    the node disconnects       with protocol 0, whatever the tunnel was

So the two bytes agree where `disconnect_node` finds only SSH tunnels, 0 being
SSH (`notices_agree`), and for an SFTP tunnel whose node disconnects they do
not (`sftp_closed_as_ssh`).

Agents are honest: what a node's sockets deliver comes from tasks of its
agents, and those run the code of `Phirepass.Agent`.  That is all that is used
of them, so any number of nodes may be connected.
-/
import Phirepass.Server.Bindings
import Phirepass.Server.Disconnect
import Phirepass.System.Network

namespace Phirepass.System

open Rust Interleave

/-- What the sockets of a node deliver, the login apart, tasks of its agents put into the queue
of that connection. -/
def HonestAgents (ts : List (Ev Server.Tid Server.Resp))
    (ta : Uuid → List (Ev Agent.Tid Agent.Resp)) : Prop :=
  ∀ k n g, Server.Sent ts k n g → (∀ token nodeId version, g ≠ .auth token nodeId version) →
    ∃ i, Agent.Emitted (ta n) i k g

/-- Clients hear that a tunnel is closed from the handlers of its node, and under the protocol
under which they heard that it was open. -/
structure NoticesAgree (ts : List (Ev Server.Tid Server.Resp)) : Prop where
  sender : ∀ j i protocol sid msgId r,
    (⟨j, .web (.send i (.tunnelClosed protocol sid msgId)), r⟩ : Ev Server.Tid Server.Resp) ∈ ts →
      ∃ k n, j = .node k ∧ Server.Registered ts k n
  agree : ∀ n k k' i sid protocol protocol' msgId msgId' r r',
    Server.Registered ts k n → Server.Registered ts k' n →
    (⟨.node k, .web (.send i (.tunnelClosed protocol sid msgId)), r⟩ :
      Ev Server.Tid Server.Resp) ∈ ts →
    (⟨.node k', .web (.send i (.tunnelOpened protocol' sid msgId')), r'⟩ :
      Ev Server.Tid Server.Resp) ∈ ts → protocol = protocol'

/-- Whatever session of its node a walk of `disconnect_node` finds was reported open as SSH. -/
def ClosesSsh : Server.Restriction := fun w i c r =>
  ∀ k start visited key cid m, i = .node k →
    (⟨c, r⟩ : Sigma Server.Resp) =
      ⟨.tunnelSessions (.next start visited), some (key, cid, m)⟩ →
    Server.Registered w.trace k key.nodeId → ∀ k' protocol msgId,
      Server.Sent w.trace k' key.nodeId (.tunnelOpened protocol cid key.sid msgId) →
        protocol = Protocol.ssh.toU8

/-- No session id is given to two tunnels of one client with different protocols. -/
def SidsAgree : Agent.Restriction := fun w _ c _ =>
  ∀ tn, c = .spawnTunnel tn → ∀ tn' ∈ w.state.tunnels, tn'.cid = tn.cid → tn'.sid = tn.sid →
    tn'.protocol = tn.protocol

/-! ## On the agent -/

section Agent

variable {S : Agent.Setup} {A : Agent.Restriction}
  {cfg : Config Agent.State Agent.Tid Agent.Resp Agent.Label}

/-- Tunnels of one client with one session id have one protocol. -/
theorem protocol_of_sid (hr : (Agent.machine S).Reach SidsAgree Agent.start cfg) :
    ∀ tn ∈ cfg.world.state.tunnels, ∀ tn' ∈ cfg.world.state.tunnels, tn.cid = tn'.cid →
      tn.sid = tn'.sid → tn.protocol = tn'.protocol := by
  refine Agent.agent_inv (fun w => ∀ tn ∈ w.state.tunnels, ∀ tn' ∈ w.state.tunnels,
    tn.cid = tn'.cid → tn.sid = tn'.sid → tn.protocol = tn'.protocol) ?_ ?_ hr
  · intro tn htn
    cases htn
  · intro cfg i c o r s _ hI _ hA hexec tn htn tn' htn' hcid hsid
    rw [World.push_state, (Agent.exec_effect hexec).tunnels] at htn htn'
    cases c with
    | spawnTunnel new =>
        rw [Agent.Cmd.tunnelsAfter, List.mem_append, List.mem_singleton] at htn htn'
        rcases htn with hold | rfl
        · rcases htn' with hold' | rfl
          · exact hI tn hold tn' hold' hcid hsid
          · exact hA _ rfl tn hold hcid hsid
        · rcases htn' with hold' | rfl
          · exact (hA _ rfl tn' hold' hcid.symm hsid.symm).symm
          · rfl
    | _ => exact hI tn htn tn' htn' hcid hsid

/-- What an agent says about a tunnel is about one of its tunnels. -/
theorem tunnel_of_report (hr : (Agent.machine S).Reach A Agent.start cfg) {i : Agent.Tid} {k : Nat}
    {protocol : UInt8} {cid : Uuid} {sid : UInt32} {msgId : Option UInt32} {g : NodeFrameData}
    (hg : g = .tunnelOpened protocol cid sid msgId ∨ g = .tunnelClosed protocol cid sid msgId)
    (h : Agent.Emitted cfg.world.trace i k g) :
    ∃ tn ∈ cfg.world.state.tunnels, tn.cid = cid ∧ tn.sid = sid ∧
      tn.protocol.toU8 = protocol := by
  rcases Agent.tunnel_of_emitted hr h with ⟨t, tn, -, htn, -, hemits⟩ | hother
  · refine ⟨tn, List.mem_of_getElem? (Agent.tunnel_of_begin hr t tn htn), ?_⟩
    rcases hg with rfl | rfl
    · cases hemits
      exact ⟨rfl, rfl, rfl⟩
    · cases hemits
      exact ⟨rfl, rfl, rfl⟩
  · rcases hg with rfl | rfl <;> rcases hother with ⟨_, _, heq, -⟩ | ⟨_, _, heq⟩ <;> cases heq

/-- It does not wrap such a report up as a frame for a client. -/
theorem plain_of_emitted (hr : (Agent.machine S).Reach A Agent.start cfg) {i : Agent.Tid} {k : Nat}
    {frame : WebFrameData} {id : WebFrameId}
    (h : Agent.Emitted cfg.world.trace i k (.webFrame frame id)) : frame.reportsTunnel = false := by
  rcases Agent.tunnel_of_emitted hr h with ⟨t, tn, -, -, -, hemits⟩ | ⟨_, _, heq, hplain⟩ | ⟨_, _, heq⟩
  · cases hemits with
    | frame hplain => exact hplain
  · cases heq
    exact hplain
  · cases heq

end Agent

/-! ## On the server -/

section Notices

variable {Ss : Server.Setup} {Sa : Uuid → Agent.Setup} {rows : DashMap Uuid Server.NodeRow}
  {users : List Uuid} {clock : Server.Time}
  {cfg : Config Server.State Server.Tid Server.Resp Server.Label}
  {agents : Uuid → Config Agent.State Agent.Tid Agent.Resp Agent.Label}

/-- A session that `disconnect_node` finds was opened as SSH. -/
theorem ssh_of_found (hr : (Server.machine Ss).Reach ClosesSsh (Server.start rows users clock) cfg)
    {k : Nat} {n cid m : Uuid} {start visited : List Server.TunnelSessionKey}
    {key : Server.TunnelSessionKey} (hreg : Server.Registered cfg.world.trace k n)
    (hkey : key.nodeId = n)
    (hmem : (⟨.node k, .tunnelSessions (.next start visited), some (key, cid, m)⟩ :
      Ev Server.Tid Server.Resp) ∈ cfg.world.trace) :
    ∃ k' msgId, Server.Sent cfg.world.trace k' n
      (.tunnelOpened Protocol.ssh.toU8 cid key.sid msgId) := by
  obtain ⟨past, hs⟩ := exists_past hmem
  have hpast := (List.suffix_cons _ _).trans hs
  have hev := Server.server_events (fun past e => ∀ k start visited key cid m,
    e = ⟨.node k, .tunnelSessions (.next start visited), some (key, cid, m)⟩ →
      ∃ n, Server.Registered past k n ∧ (key.nodeId = n → ∃ k' msgId,
        Server.Sent past k' n (.tunnelOpened Protocol.ssh.toU8 cid key.sid msgId))) ?_ hr _ past hs
    k start visited key cid m rfl
  · obtain ⟨n', hreg', hopened⟩ := hev
    obtain rfl := Server.registered_unique hr hreg (hreg'.mono hpast)
    obtain ⟨k', msgId, hsent⟩ := hopened hkey
    exact ⟨k', msgId, hsent.mono hpast⟩
  · intro cfg i c o r s hr hmay hA hexec k start visited key cid m heq
    cases heq
    have hserved : ∃ n, Server.Registered cfg.world.trace k n := by
      change Server.NodeMay Ss k _ _ at hmay
      generalize hown : own (Server.Tid.node k) cfg.world.trace = h at hmay
      cases hmay with
      | login _ hc | loop _ _ hc => cases hc
      | @close n hs _ hc =>
          rw [← hown] at hs
          exact ⟨n, hs.registered_trace⟩
    obtain ⟨n, hreg⟩ := hserved
    refine ⟨n, hreg, ?_⟩
    rintro rfl
    have hlook : cfg.world.state.tunnelSessions.lookup key = some (cid, m) :=
      ((Server.exec_next hexec).2.1 key (cid, m) rfl).2
    obtain ⟨-, k', protocol, msgId, hsent⟩ := Server.opened_of_session hr key cid m hlook
    obtain rfl := hA k start visited key cid m rfl rfl hreg k' protocol msgId hsent
    exact ⟨k', msgId, hsent⟩

/-- **Notices agree on the protocol.**  In every run with honest agents, in which
`disconnect_node` finds only SSH tunnels and no two tunnels of a client share a session id
without sharing the protocol, a client hears of the end of a tunnel under the protocol under
which it heard of its beginning. -/
theorem notices_agree
    (hr : (Server.machine Ss).Reach ClosesSsh (Server.start rows users clock) cfg)
    (ha : ∀ n, (Agent.machine (Sa n)).Reach SidsAgree Agent.start (agents n))
    (hhonest : HonestAgents cfg.world.trace fun n => (agents n).world.trace) :
    NoticesAgree cfg.world.trace where
  sender j i protocol sid msgId r hmem := by
    obtain ⟨k, n, cid, rfl, hreg, -⟩ := Server.reports_of_send hr hmem rfl
    exact ⟨k, n, rfl, hreg⟩
  agree n k k' i sid protocol protocol' msgId msgId' r r' hreg hreg' hclosed hopened := by
    -- whom the two frames reach, and which node they come from
    obtain ⟨k₁, n₁, cid, heq, hreg₁, hdrew, hclosed⟩ := Server.reports_of_send hr hclosed rfl
    cases heq
    obtain rfl := Server.registered_unique hr hreg hreg₁
    obtain ⟨k₂, n₂, cid', heq, hreg₂, hdrew', hopened⟩ := Server.reports_of_send hr hopened rfl
    cases heq
    obtain rfl := Server.registered_unique hr hreg' hreg₂
    obtain rfl := Server.drew_once hr hdrew hdrew'
    have hplain {k : Nat} {frame : WebFrameData} {id : WebFrameId}
        (hsent : Server.Sent cfg.world.trace k n (.webFrame frame id)) :
        frame.reportsTunnel = false := by
      obtain ⟨j, hemit⟩ := hhonest k n _ hsent fun _ _ _ heq => nomatch heq
      exact plain_of_emitted (ha n) hemit
    have htunnel {k : Nat} {protocol : UInt8} {msgId : Option UInt32} {g : NodeFrameData}
        (hg : g = .tunnelOpened protocol cid sid msgId ∨ g = .tunnelClosed protocol cid sid msgId)
        (hsent : Server.Sent cfg.world.trace k n g) :
        ∃ tn ∈ (agents n).world.state.tunnels, tn.cid = cid ∧ tn.sid = sid ∧
          tn.protocol.toU8 = protocol := by
      obtain ⟨j, hemit⟩ := hhonest k n g hsent fun _ _ _ heq => by
        rcases hg with rfl | rfl <;> cases heq
      exact tunnel_of_report (ha n) hg hemit
    -- the tunnel that was reported open
    obtain ⟨tn', htn', hcid', hsid', rfl⟩ : ∃ tn ∈ (agents n).world.state.tunnels,
        tn.cid = cid ∧ tn.sid = sid ∧ tn.protocol.toU8 = protocol' := by
      cases hopened with
      | opened hsent => exact htunnel (.inl rfl) hsent
      | relayed hsent => exact Bool.noConfusion (hplain hsent)
    -- the one that was reported closed
    obtain ⟨tn, htn, hcid, hsid, rfl⟩ : ∃ tn ∈ (agents n).world.state.tunnels,
        tn.cid = cid ∧ tn.sid = sid ∧ tn.protocol.toU8 = protocol := by
      cases hclosed with
      | closed hsent => exact htunnel (.inr rfl) hsent
      | relayed hsent => exact Bool.noConfusion (hplain hsent)
      | swept hkey hfound =>
          obtain ⟨k', msgId, hsent⟩ := ssh_of_found hr hreg hkey hfound
          exact htunnel (.inl rfl) hsent
    rw [protocol_of_sid (ha n) tn htn tn' htn' (hcid.trans hcid'.symm) (hsid.trans hsid'.symm)]

end Notices

/-! ## The network of one node -/

section Network

variable {Ss : Server.Setup} {Sa : Agent.Setup} {As : Server.Restriction} {Aa : Agent.Restriction}
  {rows : DashMap Uuid Server.NodeRow} {users : List Uuid} {clock : Server.Time} {cfg : Network}

/-- The agents of the nodes, where only those of node `n` are running. -/
def agentsOf (n : Uuid) (cfg : Network) (m : Uuid) :
    Config Agent.State Agent.Tid Agent.Resp Agent.Label :=
  if m = n then cfg.right else Agent.start

theorem agentsOf_reach (h : (network Ss Sa).Reach As Aa (start rows users clock) cfg) (n m : Uuid) :
    (Agent.machine Sa).Reach Aa Agent.start (agentsOf n cfg m) := by
  unfold agentsOf
  split
  · exact agent_reach h
  · exact .refl

/-- At the far end of its wires a node's agents are honest. -/
theorem honestAgents (h : (network Ss Sa).Reach As Aa (start rows users clock) cfg) {n : Uuid}
    (hone : ∀ k m, Server.Registered cfg.left.world.trace k m → m = n) :
    HonestAgents cfg.left.world.trace fun m => (agentsOf n cfg m).world.trace := by
  rintro k m g ⟨msg, past, hs, hreg, hmsg⟩ hg
  obtain rfl := hone k m (hreg.mono ((List.suffix_cons _ _).trans hs))
  show ∃ i, Agent.Emitted (agentsOf m cfg m).world.trace i k g
  rw [agentsOf, if_pos rfl]
  exact emitted_of_received h hg (hs.subset List.mem_cons_self) hmsg

end Network

/-! ## Two runs -/

/-- Whether what a walk finds was reported open as SSH. -/
def closesSsh (w : World Server.State Server.Tid Server.Resp) :
    Server.Tid → (c : Server.Cmd) → Server.Resp c → Bool
  | .node _, .tunnelSessions (.next _ _), some (key, cid, _) => w.trace.all fun
      | ⟨.node _, .ws .next, m⟩ =>
          match Incoming.nodeFrame? m with
          | some (.tunnelOpened protocol id sid _) =>
              id != cid || sid != key.sid || protocol == Protocol.ssh.toU8
          | _ => true
      | _ => true
  | _, _, _ => true

theorem closesSsh_sound (w : World Server.State Server.Tid Server.Resp) (i : Server.Tid)
    (c : Server.Cmd) (r : Server.Resp c) (h : closesSsh w i c r = true) : ClosesSsh w i c r := by
  rintro k start visited key cid m rfl heq - k' protocol msgId ⟨msg, past, hs, -, hmsg⟩
  cases heq
  have hssh := List.all_eq_true.1 h _ (hs.subset List.mem_cons_self)
  simpa [hmsg] using hssh

/-- Whether a tunnel that is spawned has the protocol of its namesakes. -/
def sidsAgree (w : World Agent.State Agent.Tid Agent.Resp) (_ : Agent.Tid) :
    (c : Agent.Cmd) → Agent.Resp c → Bool
  | .spawnTunnel tn, _ => w.state.tunnels.all fun tn' =>
      tn'.cid != tn.cid || tn'.sid != tn.sid || decide (tn'.protocol = tn.protocol)
  | _, _ => true

theorem sidsAgree_sound (w : World Agent.State Agent.Tid Agent.Resp) (i : Agent.Tid)
    (c : Agent.Cmd) (r : Agent.Resp c) (h : sidsAgree w i c r = true) : SidsAgree w i c r := by
  rintro tn rfl tn' hmem hcid hsid
  have hagree := List.all_eq_true.1 h tn' hmem
  simpa [hcid, hsid] using hagree

/-- Browser `0` opens a tunnel, and hears of it. -/
def share (p : Protocol) : Schedule :=
  join 0 ++ browse 0 77 ++ ask 0 0 p 77 ++ onAgent (Agent.comeUp 0) ++
    sendUp 0 (.tunnelOpened p.toU8 77 1 (some 1)) 4

/-- Socket `k` ends, and its node is disconnected while the session `key` is open. -/
def lose (k : Nat) (key : Server.TunnelSessionKey) : Schedule :=
  onServer ([(.node k, { incoming := none })] ++ Server.idle (.node k) 6 ++
    [(.node k, { pickSession := some key })] ++ Server.idle (.node k) 6)

/-- Whether only node `n` is registered. -/
def registersOnly (n : Uuid) (tr : List (Ev Server.Tid Server.Resp)) : Bool :=
  tr.all fun
    | ⟨.node _, .nodes (.insert m _), _⟩ => m == n
    | _ => true

theorem eq_of_registersOnly {n : Uuid} {tr : List (Ev Server.Tid Server.Resp)}
    (h : registersOnly n tr = true) (k : Nat) (m : Uuid) (hreg : Server.Registered tr k m) :
    m = n := by
  obtain ⟨conn, r, hmem⟩ := hreg
  exact beq_iff_eq.1 (List.all_eq_true.1 h _ hmem)

/-- Whether the client of socket `i` was sent the frame. -/
def told (i : Nat) (frame : WebFrameData) (tr : List (Ev Server.Tid Server.Resp)) : Bool :=
  tr.any fun
    | ⟨.node 0, .web (.send j f), true⟩ => j == i && decide (f = frame)
    | _ => false

theorem mem_of_told {i : Nat} {frame : WebFrameData} {tr : List (Ev Server.Tid Server.Resp)}
    (h : told i frame tr = true) :
    (⟨.node 0, .web (.send i frame), true⟩ : Ev Server.Tid Server.Resp) ∈ tr := by
  obtain ⟨e, hmem, he⟩ := List.any_eq_true.1 h
  split at he
  · next j f =>
      rw [Bool.and_eq_true, beq_iff_eq, decide_eq_true_eq] at he
      obtain ⟨rfl, rfl⟩ := he
      exact hmem
  · cases he

/-- The node of a shell disconnects, and the shell's browser hears of it. -/
theorem notices_agree_of_shell :
    ∃ cfg : Network, NoticesAgree cfg.left.world.trace ∧
      (⟨.node 0, .web (.send 0 (.tunnelClosed 0 1 none)), true⟩ : Ev Server.Tid Server.Resp)
        ∈ cfg.left.world.trace := by
  have hrun : ((sampleNetwork id).run closesSsh sidsAgree (share .ssh ++ lose 0 ⟨10, 1⟩)
      sampleStart).any (fun cfg => registersOnly 10 cfg.left.world.trace &&
        told 0 (.tunnelClosed 0 1 none) cfg.left.world.trace) = true := by
    decide +kernel
  obtain ⟨cfg, hr, hend⟩ := Link.reach_of_run closesSsh_sound sidsAgree_sound hrun
  rw [Bool.and_eq_true] at hend
  refine ⟨cfg, ?_, mem_of_told hend.2⟩
  exact notices_agree (server_reach hr) (agentsOf_reach hr 10)
    (honestAgents hr (eq_of_registersOnly hend.1))

/-- **An SFTP tunnel is reported closed as SSH** when its node disconnects. -/
theorem sftp_closed_as_ssh :
    ¬ ∀ (cfg : Config Server.State Server.Tid Server.Resp Server.Label)
      (agents : Uuid → Config Agent.State Agent.Tid Agent.Resp Agent.Label),
      (Server.machine (Server.sample fun _ => .heartbeat none)).Reach Free
        (Server.start Server.sampleRows [1, 2] 1000000) cfg →
      (∀ n, (Agent.machine (sampleAgent id)).Reach SidsAgree Agent.start (agents n)) →
      HonestAgents cfg.world.trace (fun n => (agents n).world.trace) →
      NoticesAgree cfg.world.trace := by
  intro hall
  have hrun : ((sampleNetwork id).run (fun _ _ _ _ => true) sidsAgree
      (share .sftp ++ lose 0 ⟨10, 1⟩) sampleStart).any (fun cfg =>
        registersOnly 10 cfg.left.world.trace && decide (Server.Registered cfg.left.world.trace 0 10) &&
          told 0 (.tunnelClosed 0 1 none) cfg.left.world.trace &&
            told 0 (.tunnelOpened 1 1 (some 1)) cfg.left.world.trace) = true := by
    decide +kernel
  have hfree : ∀ (w : World Server.State Server.Tid Server.Resp) i c r, true = true →
    Free w i c r := fun _ _ _ _ _ => trivial
  obtain ⟨cfg, hr, hend⟩ := Link.reach_of_run hfree sidsAgree_sound hrun
  simp only [Bool.and_eq_true, decide_eq_true_eq] at hend
  obtain ⟨⟨⟨hone, hreg⟩, hclosed⟩, hopened⟩ := hend
  have hagree := (hall cfg.left (agentsOf 10 cfg) (server_reach hr) (agentsOf_reach hr 10)
    (honestAgents hr (eq_of_registersOnly hone))).agree 10 0 0 0 1 0 1 none (some 1) true true hreg
    hreg (mem_of_told hclosed) (mem_of_told hopened)
  exact absurd hagree (by decide)

end Phirepass.System
