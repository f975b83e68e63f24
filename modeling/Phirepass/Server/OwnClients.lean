/-
# `Phirepass.Server.OwnClients` — which clients a node can reach

Three handlers take the recipient of a frame straight from the node's frame
(`TunnelOpened`, `TunnelClosed`, `WebFrame` by `ConnectionId`), and the first
of them writes the map from which a fourth resolves it.  None of them asks
whether that client ever asked for the node, so a node that names a stranger
reaches the stranger (`stranger_reached`).

Everything a node reaches, it named (`named_of_notifies`, `opened_of_session`):
that needs no assumption.  Hence the condition is on the frames alone.  Where
every connection a node names has had an `OpenTunnel` forwarded to it, frames
and sessions stay with the node's own clients (`node_reaches_own_clients`).
-/
import Phirepass.Server.Identity
import Phirepass.Server.Registries

namespace Phirepass.Server

open Rust Interleave

/-! ## The clients of a node -/

/-- The connection a node's frame names as its recipient. -/
def named : NodeFrameData → Option Uuid
  | .tunnelOpened _ cid _ _ | .tunnelClosed _ cid _ _ | .webFrame _ (.connectionId cid) => some cid
  | _ => none

/-- An `OpenTunnel` of the connection `cid` was forwarded to node `n`, by the task of the
connection itself and hence during its lifetime. -/
def Forwarded (tr : List (Ev Tid Resp)) (cid n : Uuid) : Prop :=
  ∃ i k protocol username password msgId, Drew tr i cid ∧ Registered tr k n ∧
    (⟨.web i, .node (.send k (.openTunnel protocol cid username password msgId)), true⟩ :
      Ev Tid Resp) ∈ tr

/-- What a node sends goes to connections that had asked for it, and so do the tunnel
sessions entered for it. -/
def ReachesOwnClients (w : World State Tid Resp) : Prop :=
  (∀ k i frame past n cid,
    (⟨.node k, .web (.send i frame), true⟩ : Ev Tid Resp) :: past <:+ w.trace →
      Registered past k n → Drew past i cid → Forwarded past cid n) ∧
    ∀ key i cid n, w.state.tunnelSessions.lookup key = some (cid, n) → Drew w.trace i cid →
      Forwarded w.trace cid key.nodeId

/-- No node names a connection of this server that has not asked for it. -/
def NamesOwnClients : Restriction := fun w i c r =>
  ∀ k n m f cid, i = .node k → (⟨c, r⟩ : Sigma Resp) = ⟨.ws .next, m⟩ →
    Registered w.trace k n → Incoming.nodeFrame? m = some f → named f = some cid →
    cid ∈ w.state.issued → Forwarded w.trace cid n

/-- `Uuid::new_v4` does not return an id that a node has named before. -/
def IdsUnguessed : Restriction := fun w _ c r =>
  ∀ cid, (⟨c, r⟩ : Sigma Resp) = ⟨.newV4, cid⟩ →
    ∀ k n f, Sent w.trace k n f → named f ≠ some cid

def Honest : Restriction := fun w i c r => NamesOwnClients w i c r ∧ IdsUnguessed w i c r

/-- A socket of node `n` named the connection `cid`. -/
def Named (tr : List (Ev Tid Resp)) (n cid : Uuid) : Prop :=
  ∃ k f, Sent tr k n f ∧ named f = some cid

section OwnClients

variable {S : Setup} {A : Restriction} {rows : DashMap Uuid NodeRow} {users : List Uuid}
  {clock : Time} {cfg : Config State Tid Resp Label} {tr tr' : List (Ev Tid Resp)} {n cid : Uuid}

theorem Forwarded.mono (hs : tr <:+ tr') (h : Forwarded tr cid n) : Forwarded tr' cid n := by
  obtain ⟨i, k, protocol, username, password, msgId, hdrew, hreg, hmem⟩ := h
  exact ⟨i, k, protocol, username, password, msgId, hdrew.mono hs, hreg.mono hs, hs.subset hmem⟩

theorem Opened.named {sid : UInt32} (h : Opened tr n sid cid) : Named tr n cid := by
  obtain ⟨k, protocol, msgId, hsent⟩ := h
  exact ⟨k, _, hsent, rfl⟩

/-! ## Whoever is notified was named -/

/-- Whatever leads the loop of a node to notify a client, the node named that client. -/
theorem named_of_notifies (hr : (machine S).Reach A (start rows users clock) cfg) {k : Nat}
    {h : Hist Resp} {conn : NodeConnection} {r : Option NodeConnection} {frame : WebFrameData}
    (hsuf : h <:+ own (.node k) cfg.world.trace)
    (hreg : (⟨.nodes (.insert n conn), r⟩ : Sigma Resp) ∈ h) (hn : Notifies n h cid frame) :
    Named cfg.world.trace n cid := by
  cases hn with
  | opened hm | closed hm =>
      simp only [List.mem_cons, Sigma.mk.injEq, reduceCtorEq, false_and, false_or] at hreg
      exact ⟨k, _, sent_of_own ((List.suffix_cons _ _).trans hsuf) hreg hm, rfl⟩
  | byConnection hm =>
      simp only [List.mem_cons, Sigma.mk.injEq, reduceCtorEq, false_and, false_or] at hreg
      exact ⟨k, _, sent_of_own hsuf hreg hm, rfl⟩
  | bySession hm =>
      have hget := mem_own.1 (hsuf.subset List.mem_cons_self)
      exact (opened_of_get hr hget).2.named

/-- So it did where its cleanup does. -/
theorem named_of_sweeps (hr : (machine S).Reach A (start rows users clock) cfg) {k : Nat}
    {h : Hist Resp} {frame : WebFrameData} (hsuf : h <:+ own (.node k) cfg.world.trace)
    (hn : Sweeps n h cid frame) : Named cfg.world.trace n cid := by
  obtain ⟨hkey, hfound⟩ := hn
  subst hkey
  have hnext := mem_own.1 (hsuf.subset (List.mem_cons_of_mem _ hfound))
  exact (opened_of_next hr hnext).named

/-- A frame that a node's task sends goes to the socket of a connection the node named. -/
theorem named_of_notify (hr : (machine S).Reach A (start rows users clock) cfg) {k i : Nat}
    {frame : WebFrameData} (hmay : NodeMay S k (own (.node k) cfg.world.trace) (.web (.send i frame))) :
    ∃ n cid, Registered cfg.world.trace k n ∧ Drew cfg.world.trace i cid ∧
      Named cfg.world.trace n cid := by
  obtain ⟨n, cid, h, hsuf, hreg, hdrew, ⟨conn, r, hinsert, hn⟩ | hn⟩ := notified_of_send hr hmay
  · exact ⟨n, cid, hreg, hdrew, named_of_notifies hr hsuf hinsert hn⟩
  · exact ⟨n, cid, hreg, hdrew, named_of_sweeps hr hsuf hn⟩

/-! ## And whoever was named had asked -/

theorem forwarded_of_named (hr : (machine S).Reach Honest (start rows users clock) cfg) :
    ∀ n cid, Named cfg.world.trace n cid → cid ∈ cfg.world.state.issued →
      Forwarded cfg.world.trace cid n := by
  refine server_inv (fun w => ∀ n cid, Named w.trace n cid → cid ∈ w.state.issued →
    Forwarded w.trace cid n) ?_ ?_ hr
  · rintro n cid ⟨k, f, ⟨m, past, hpast, -⟩, -⟩
    exact absurd (List.suffix_nil.1 hpast) (List.cons_ne_nil _ _)
  · rintro cfg i c o r s _ hI _ hA hexec n cid ⟨k, f, hsent, hf⟩ hissued
    rw [World.push_state, (exec_effect hexec).issued] at hissued
    refine Forwarded.mono (List.suffix_cons _ _) ?_
    rcases sent_cons hsent with hold | ⟨m, heq, hreg, hm⟩
    · -- named before: the id is not the one being drawn now
      have hnamed : Named cfg.world.trace n cid := ⟨k, f, hold, hf⟩
      cases c with
      | newV4 =>
          rcases List.mem_cons.1 hissued with rfl | hissued
          · exact absurd hf (hA.2 _ rfl k n f hold)
          · exact hI n cid hnamed hissued
      | _ => exact hI n cid hnamed hissued
    · cases heq
      exact hA.1 k n m f cid rfl rfl hreg hm hf hissued

/-- **A node reaches its own clients.**  In every run in which nodes name only connections
that had an `OpenTunnel` forwarded to them, all a node's frames and tunnel sessions are for
such connections. -/
theorem node_reaches_own_clients (hr : (machine S).Reach Honest (start rows users clock) cfg) :
    ReachesOwnClients cfg.world := by
  constructor
  · intro k i frame past n cid hsuf
    refine server_events (fun past e => ∀ k i frame n cid, e = ⟨.node k, .web (.send i frame), true⟩ →
      Registered past k n → Drew past i cid → Forwarded past cid n) ?_ hr _ past hsuf
      k i frame n cid rfl
    intro cfg j c o r s hr hmay _ _ k i frame n cid heq hreg hdrew
    cases heq
    obtain ⟨n', cid', hreg', hdrew', hnamed⟩ := named_of_notify hr hmay
    obtain rfl := registered_unique hr hreg hreg'
    obtain rfl := drew_once hr hdrew hdrew'
    exact forwarded_of_named hr n cid hnamed ((mem_issued_iff hr).2 ⟨i, hdrew⟩)
  · intro key i cid n hentry hdrew
    have hnamed := (opened_of_session hr key cid n hentry).2.named
    exact forwarded_of_named hr key.nodeId cid hnamed ((mem_issued_iff hr).2 ⟨i, hdrew⟩)

end OwnClients

/-! ## A client, and a stranger -/

/-- The event forwards an `OpenTunnel` of `cid` to `n`. -/
def forwards (tr : List (Ev Tid Resp)) (cid n : Uuid) : Ev Tid Resp → Bool
  | ⟨.web i, .node (.send k (.openTunnel _ id _ _ _)), true⟩ =>
      id == cid && decide (Drew tr i cid) && decide (Registered tr k n)
  | _ => false

theorem any_forwards_iff {tr : List (Ev Tid Resp)} {cid n : Uuid} :
    tr.any (forwards tr cid n) = true ↔ Forwarded tr cid n := by
  rw [List.any_eq_true]
  constructor
  · rintro ⟨e, hmem, he⟩
    unfold forwards at he
    split at he
    · next i k protocol id username password msgId =>
        simp only [Bool.and_eq_true, beq_iff_eq, decide_eq_true_eq] at he
        obtain ⟨⟨rfl, hdrew⟩, hreg⟩ := he
        exact ⟨i, k, protocol, username, password, msgId, hdrew, hreg, hmem⟩
    · cases he
  · rintro ⟨i, k, protocol, username, password, msgId, hdrew, hreg, hmem⟩
    exact ⟨_, hmem, by simp [forwards, hdrew, hreg]⟩

instance (tr : List (Ev Tid Resp)) (cid n : Uuid) : Decidable (Forwarded tr cid n) :=
  decidable_of_iff _ any_forwards_iff

/-- Whether an id that is drawn was not named before. -/
def unguessed (w : World State Tid Resp) (_ : Tid) : (c : Cmd) → Resp c → Bool
  | .newV4, cid => w.trace.all fun
      | ⟨.node _, .ws .next, m⟩ => (Incoming.nodeFrame? m).bind named != some cid
      | _ => true
  | _, _ => true

theorem unguessed_sound (w : World State Tid Resp) (i : Tid) (c : Cmd) (r : Resp c)
    (h : unguessed w i c r = true) : IdsUnguessed w i c r := by
  rintro cid heq k n f ⟨m, past, hpast, -, hm⟩ hf
  cases heq
  have hne := List.all_eq_true.1 h _ (hpast.subset List.mem_cons_self)
  simp [hm, hf] at hne

/-- Whether a frame names only connections that asked for the node it comes from. -/
def namesOwn (w : World State Tid Resp) : Tid → (c : Cmd) → Resp c → Bool
  | .node k, .ws .next, m =>
      match (Incoming.nodeFrame? m).bind named with
      | some cid => w.trace.all fun
          | ⟨.node j, .nodes (.insert n _), _⟩ => j != k || decide (Forwarded w.trace cid n)
          | _ => true
      | none => true
  | _, _, _ => true

theorem namesOwn_sound (w : World State Tid Resp) (i : Tid) (c : Cmd) (r : Resp c)
    (h : namesOwn w i c r = true) : NamesOwnClients w i c r := by
  rintro k n m f cid rfl heq ⟨conn, r', hmem⟩ hm hf -
  cases heq
  simp only [namesOwn, hm, Option.bind_some, hf] at h
  have hfwd := List.all_eq_true.1 h _ hmem
  simpa using hfwd

/-- User `1` opens a tunnel to its node `10`, which reports session 5 open. -/
def tunnelSchedule : List (Tid × Choice) :=
  nodeLogin 0 10 ++ webLogin 0 1 10 77 ++ idle (.web 0) 1 ++
    [(.web 0, fromWeb (.openTunnel 0 (Uuid.display 10) none none none))] ++ idle (.web 0) 2 ++
    idle (.node 0) 1 ++ [(.node 0, fromNode (.tunnelOpened 0 77 5 none))] ++ idle (.node 0) 3

theorem node_reaches_own_clients_of_tunnel :
    ∃ cfg, (machine (sample loginRequests)).Reach Honest sampleStart cfg ∧
      cfg.world.state.tunnelSessions.lookup ⟨10, 5⟩ = some (77, 10) ∧
      Forwarded cfg.world.trace 77 10 := by
  have hrun : ((machine (sample loginRequests)).run
      (fun w i c r => namesOwn w i c r && unguessed w i c r) tunnelSchedule sampleStart).any
      (fun cfg => decide (cfg.world.state.tunnelSessions.lookup ⟨10, 5⟩ = some (77, 10)) &&
        decide (Drew cfg.world.trace 0 77)) = true := by
    decide +kernel
  obtain ⟨cfg, hr, hend⟩ := Machine.reach_of_run (A := Honest) (fun w i c r h => by
    rw [Bool.and_eq_true] at h
    exact ⟨namesOwn_sound w i c r h.1, unguessed_sound w i c r h.2⟩) hrun
  rw [Bool.and_eq_true, decide_eq_true_eq, decide_eq_true_eq] at hend
  exact ⟨cfg, hr, hend.1, (node_reaches_own_clients hr).2 ⟨10, 5⟩ 0 77 10 hend.1 hend.2⟩

/-- User `2`, who never asked for node `10`, is sent a frame by it. -/
def strangerSchedule : List (Tid × Choice) :=
  nodeLogin 0 10 ++ webLogin 0 2 11 77 ++ idle (.node 0) 1 ++
    [(.node 0, fromNode (.webFrame .heartbeat (.connectionId 77)))] ++ idle (.node 0) 2

/-- Node `10` has just reached client `77`, which never sent it anything. -/
def reachesStranger : List (Ev Tid Resp) → Bool
  | ⟨.node 0, .web (.send 0 _), true⟩ :: past =>
      decide (Registered past 0 10) && decide (Drew past 0 77) && decide (¬ Forwarded past 77 10)
  | _ => false

/-- **A stranger is reached.**  Without that condition a node reaches any client. -/
theorem stranger_reached :
    ¬ ∀ cfg, (machine (sample loginRequests)).Reach IdsUnguessed sampleStart cfg →
      ReachesOwnClients cfg.world := by
  have hrun : ((machine (sample loginRequests)).run unguessed strangerSchedule sampleStart).any
      (fun cfg => reachesStranger cfg.world.trace) = true := by
    decide +kernel
  obtain ⟨cfg, hr, hend⟩ := Machine.reach_of_run unguessed_sound hrun
  intro hall
  unfold reachesStranger at hend
  split at hend
  · next frame past htrace =>
      simp only [Bool.and_eq_true, decide_eq_true_eq] at hend
      obtain ⟨⟨hreg, hdrew⟩, hnot⟩ := hend
      refine hnot ((hall cfg hr).1 0 0 frame past 10 77 ?_ hreg hdrew)
      rw [htrace]
  · cases hend

end Phirepass.Server
