/-
# `Phirepass.Server.Reconnect` — two sockets of one node

`nodes` is keyed by the node id and `tunnel_sessions` by the node id and the
session id; no entry says which socket made it.  A socket that registers for
a node replaces the entry of the one before it, whose handler goes on, and

    disconnect_node of the older handler removes the newer entry and sweeps
    the newer sessions;
    TunnelOpened and TunnelClosed frames still on the older socket rebind or
    close a session of the newer one that has the same session id.

`superseded_handler_unregisters` is a run of the first kind.  Neither can
happen if a superseded handler finds nothing to clean up and the two sockets
do not name the same session id at the same time; then nothing the older
handler does touches the newer socket (`reconnect_safe`).
-/
import Phirepass.Server.Bindings
import Phirepass.Server.Identity

namespace Phirepass.Server

open Rust Interleave

/-! ## Older and newer sockets of a node -/

/-- Socket `k'` registered as `n` after socket `k` had. -/
def Newer (tr : List (Ev Tid Resp)) (n : Uuid) (k k' : Nat) : Prop :=
  ∃ conn r past, (⟨.node k', .nodes (.insert n conn), r⟩ : Ev Tid Resp) :: past <:+ tr ∧
    Registered past k n

/-- The event, of the handler of socket `k`, leaves the registration of socket `k'` as `n` and
the sessions opened over `k'` alone: it does not remove the entry of `k'` from `nodes`, and it
neither removes nor replaces such a session nor tells a client that it is closed. -/
structure Spares (past : List (Ev Tid Resp)) (e : Ev Tid Resp) (n : Uuid) (k' : Nat) : Prop where
  entry : ∀ k conn, e = ⟨.node k, .nodes (.remove n), some conn⟩ → conn.tx ≠ k'
  removed : ∀ k sid r, openedOver ⟨n, sid⟩ past = some k' →
    e ≠ ⟨.node k, .tunnelSessions (.remove ⟨n, sid⟩), r⟩
  replaced : ∀ k sid v r, openedOver ⟨n, sid⟩ past = some k' →
    e ≠ ⟨.node k, .tunnelSessions (.insert ⟨n, sid⟩ v), r⟩
  closed : ∀ k sid i protocol msgId r, openedOver ⟨n, sid⟩ past = some k' →
    e ≠ ⟨.node k, .web (.send i (.tunnelClosed protocol sid msgId)), r⟩

/-- No step of an older socket's handler touches a newer socket. -/
def ReconnectSafe (tr : List (Ev Tid Resp)) : Prop :=
  ∀ e past n k k', e :: past <:+ tr → e.tid = .node k → Newer past n k k' → Spares past e n k'

/-! ## Its condition -/

/-- The session a node's frame opens, closes or reports closed. -/
def touches : NodeFrameData → Option UInt32
  | .tunnelOpened _ _ sid _ | .tunnelClosed _ _ sid _ | .webFrame (.tunnelClosed _ sid _) _ =>
      some sid
  | _ => none

/-- The handler is at work on a frame that touches the session `sid`. -/
inductive Handling (sid : UInt32) : Hist Resp → Prop
  | read {h : Hist Resp} {m : Incoming} {f : NodeFrameData} (hm : m.nodeFrame? = some f)
      (hf : touches f = some sid) : Handling sid (⟨.ws .next, m⟩ :: h)
  | session {h : Hist Resp} {op : MapOp TunnelSessionKey (Uuid × Uuid)} {r : op.Resp}
      (hh : Handling sid h) : Handling sid (⟨.tunnelSessions op, r⟩ :: h)
  | found {h : Hist Resp} {cid : Uuid} {conn : WebConnection} (hh : Handling sid h) :
      Handling sid (⟨.connections (.get cid), some conn⟩ :: h)

/-- Socket `k` has delivered `TunnelOpened` for the session `sid`. -/
def OpenedBy (tr : List (Ev Tid Resp)) (k : Nat) (n : Uuid) (sid : UInt32) : Prop :=
  ∃ protocol cid msgId, Sent tr k n (.tunnelOpened protocol cid sid msgId)

/-- A handler in `disconnect_node` that was superseded finds the node unregistered, and is not
closing sessions. -/
def LeavesNothing : Restriction := fun w i c _ =>
  ∀ k k' n, i = .node k → Closing k n (own (.node k) w.trace) → Newer w.trace n k k' →
    (c = .nodes (.remove n) → w.state.nodes.lookup n = none) ∧ (∀ op, c ≠ .tunnelSessions op) ∧
      ∀ op, c ≠ .web op

/-- A superseded socket delivers no frame that touches a session the newer one has opened. -/
def OldFramesApart : Restriction := fun w i c r =>
  ∀ k k' n m f sid, i = .node k → (⟨c, r⟩ : Sigma Resp) = ⟨.ws .next, m⟩ →
    Incoming.nodeFrame? m = some f → touches f = some sid → Newer w.trace n k k' →
      ¬ OpenedBy w.trace k' n sid

/-- A socket delivers no `TunnelOpened` for a session that a superseded handler is at work on. -/
def NewFramesApart : Restriction := fun w i c r =>
  ∀ k k' n m protocol cid sid msgId, i = .node k' → (⟨c, r⟩ : Sigma Resp) = ⟨.ws .next, m⟩ →
    Incoming.nodeFrame? m = some (.tunnelOpened protocol cid sid msgId) →
    Newer w.trace n k k' → ¬ Handling sid (own (.node k) w.trace)

structure KeptApart (w : World State Tid Resp) (i : Tid) (c : Cmd) (r : Resp c) : Prop where
  leaves : LeavesNothing w i c r
  old : OldFramesApart w i c r
  new : NewFramesApart w i c r

/-! ## The argument -/

section Reconnect

variable {S : Setup} {rows : DashMap Uuid NodeRow} {users : List Uuid} {clock : Time}
  {cfg : Config State Tid Resp Label} {tr : List (Ev Tid Resp)} {n : Uuid} {k k' : Nat}
  {sid : UInt32}

theorem Newer.registered (h : Newer tr n k k') : Registered tr k n ∧ Registered tr k' n := by
  obtain ⟨conn, r, past, hpast, hreg⟩ := h
  exact ⟨hreg.mono ((List.suffix_cons _ _).trans hpast), conn, r,
    hpast.subset List.mem_cons_self⟩

theorem newer_cons {e : Ev Tid Resp} (h : Newer (e :: tr) n k k') :
    Newer tr n k k' ∨ ∃ conn r, e = ⟨.node k', .nodes (.insert n conn), r⟩ ∧ Registered tr k n := by
  obtain ⟨conn, r, past, hpast, hreg⟩ := h
  rw [List.suffix_cons_iff] at hpast
  rcases hpast with heq | hpast
  · cases heq
    exact .inr ⟨conn, r, rfl, hreg⟩
  · exact .inl ⟨conn, r, past, hpast, hreg⟩

theorem openedBy_cons {e : Ev Tid Resp} (h : OpenedBy (e :: tr) k n sid) :
    OpenedBy tr k n sid ∨ ∃ m protocol cid msgId, e = ⟨.node k, .ws .next, m⟩ ∧
      m.nodeFrame? = some (.tunnelOpened protocol cid sid msgId) := by
  obtain ⟨protocol, cid, msgId, hsent⟩ := h
  rcases sent_cons hsent with hold | ⟨m, heq, -, hm⟩
  · exact .inl ⟨protocol, cid, msgId, hold⟩
  · exact .inr ⟨m, protocol, cid, msgId, heq, hm⟩

theorem OpenedBy.registered (h : OpenedBy tr k n sid) : Registered tr k n := by
  obtain ⟨protocol, cid, msgId, m, past, hpast, hreg, -⟩ := h
  exact hreg.mono ((List.suffix_cons _ _).trans hpast)

/-- A socket that registers had not registered. -/
theorem not_registered_of_insert {h : Hist Resp} {conn : NodeConnection}
    (hmay : May S (.node k) h (.nodes (.insert n conn))) (hown : h = own (.node k) tr) {m : Uuid} :
    ¬ Registered tr k m := by
  rintro ⟨conn', r, hmem⟩
  obtain ⟨_, -, hj, -, -⟩ := hmay.register
  rw [hown] at hj
  exact hj.unregistered m conn' r (mem_own.2 hmem)

/-- A socket is not newer than itself. -/
theorem newer_ne {A : Restriction} (hr : (machine S).Reach A (start rows users clock) cfg)
    (h : Newer cfg.world.trace n k k') : k ≠ k' := by
  obtain ⟨conn, r, past, hpast, hreg⟩ := h
  refine server_events (fun past e => ∀ k' conn r, e = ⟨.node k', .nodes (.insert n conn), r⟩ →
    Registered past k n → k ≠ k') ?_ hr _ past hpast k' conn r rfl hreg
  rintro cfg i c o r s _ hmay _ _ k' conn r' heq hreg rfl
  cases heq
  exact not_registered_of_insert hmay rfl hreg

/-- A session that is entered was opened over the socket that delivered its `TunnelOpened`. -/
theorem openedBy_of_openedOver {A : Restriction}
    (hr : (machine S).Reach A (start rows users clock) cfg) :
    ∀ key k, openedOver key cfg.world.trace = some k →
      OpenedBy cfg.world.trace k key.nodeId key.sid := by
  refine server_inv (fun w => ∀ key k, openedOver key w.trace = some k →
    OpenedBy w.trace k key.nodeId key.sid) ?_ ?_ hr
  · intro key k hover
    cases hover
  · intro cfg i c o r s _ hI hmay _ _ key k hover
    have hold (h : openedOver key cfg.world.trace = some k) :
        OpenedBy (cfg.world.push i c r s).trace k key.nodeId key.sid := by
      obtain ⟨protocol, cid, msgId, hsent⟩ := hI key k h
      exact ⟨protocol, cid, msgId, hsent.mono (List.suffix_cons _ _)⟩
    rw [World.push_trace] at hover
    unfold openedOver at hover
    split at hover
    · next heq => cases heq
    · next k₀ key' v res tr heq =>
        cases heq
        split at hover
        · next hkey =>
            cases hover
            subst hkey
            obtain ⟨k₁, n, m, protocol, cid, sid, msgId, h', hk, hs, rfl, -, hown, hm⟩ := hmay.bind
            cases hk
            obtain ⟨conn, r', hmem, -⟩ := hs.registered
            rw [hown, List.mem_cons] at hmem
            rcases hmem with heq | hmem
            · cases heq
            · refine ⟨protocol, cid, msgId, Sent.mono (List.suffix_cons _ _) ?_⟩
              refine sent_of_own ?_ hmem hm
              rw [hown]
        · exact hold hover
    · next heq =>
        cases heq
        split at hover
        · cases hover
        · exact hold hover
    · next heq =>
        cases heq
        exact hold hover

/-- While a newer socket has a session open, no superseded handler is at work on it. -/
theorem not_handling (hr : (machine S).Reach KeptApart (start rows users clock) cfg) :
    ∀ n k k' sid, Newer cfg.world.trace n k k' → OpenedBy cfg.world.trace k' n sid →
      ¬ Handling sid (own (.node k) cfg.world.trace) := by
  refine server_inv (fun w => ∀ n k k' sid, Newer w.trace n k k' → OpenedBy w.trace k' n sid →
    ¬ Handling sid (own (.node k) w.trace)) ?_ ?_ hr
  · rintro n k k' sid ⟨conn, r, past, hpast, -⟩
    exact absurd (List.suffix_nil.1 hpast) (List.cons_ne_nil _ _)
  · intro cfg i c o r s hr hI hmay hA _ n k k' sid hnewer' hopened' hhandling
    rw [World.push_trace] at hhandling
    rcases newer_cons hnewer' with hnewer | ⟨conn, r', heq, hreg⟩
    · rcases openedBy_cons hopened' with hopened | ⟨m, protocol, cid, msgId, heq, hm⟩
      · -- only the older handler's own step could have begun the work
        have hnot := hI n k k' sid hnewer hopened
        by_cases hi : i = .node k
        · subst hi
          rw [own_cons_self] at hhandling
          cases hhandling with
          | read hm hf => exact hA.old k k' n _ _ sid rfl rfl hm hf hnewer hopened
          | session hh | found hh => exact hnot hh
        · rw [own_cons_of_ne hi] at hhandling
          exact hnot hhandling
      · cases heq
        have hne : Tid.node k' ≠ .node k := by
          intro heq
          cases heq
          exact newer_ne hr hnewer rfl
        rw [own_cons_of_ne hne] at hhandling
        exact hA.new k k' n m protocol cid sid msgId rfl rfl hm hnewer hhandling
    · -- a socket that registers just now has opened nothing
      cases heq
      rcases openedBy_cons hopened' with hopened | ⟨m, protocol, cid, msgId, heq, -⟩
      · exact not_registered_of_insert hmay rfl hopened.registered
      · cases heq

/-- A command of a superseded handler that touches a session of its node comes from a frame
that does. -/
theorem handling_of_session {h : Hist Resp} {c : Cmd} (hmay : NodeMay S k h c)
    (hclose : ∀ m, Serving k m h → Closing k m h → ∀ op, c ≠ .tunnelSessions op)
    (hc : (∃ m, c = .tunnelSessions (.remove ⟨m, sid⟩)) ∨
      ∃ m v, c = .tunnelSessions (.insert ⟨m, sid⟩ v)) : Handling sid h := by
  cases hmay with
  | login _ hl => rcases hc with ⟨m, rfl⟩ | ⟨m, v, rfl⟩ <;> cases hl
  | loop _ _ hl =>
      rcases hc with ⟨m, rfl⟩ | ⟨m, v, rfl⟩
      · cases hl with
        | unbind hm => exact .read hm rfl
      · cases hl with
        | bind hm => exact .read hm rfl
  | close hs hcl _ =>
      rcases hc with ⟨m, rfl⟩ | ⟨m, v, rfl⟩
      · exact absurd rfl (hclose _ hs hcl _)
      · exact absurd rfl (hclose _ hs hcl _)

/-- So does the notice that a session is closed. -/
theorem handling_of_notice {h : Hist Resp} {i : Nat} {protocol : UInt8} {msgId : Option UInt32}
    (hmay : NodeMay S k h (.web (.send i (.tunnelClosed protocol sid msgId))))
    (hclose : ∀ m, Serving k m h → Closing k m h → False) : Handling sid h := by
  cases hmay with
  | login _ hl => cases hl
  | loop _ _ hl =>
      cases hl with
      | notify hn =>
          cases hn with
          | closed hm => exact .found (.session (.read hm rfl))
          | byConnection hm => exact .found (.read hm rfl)
          | bySession hm => exact .found (.session (.read hm rfl))
  | close hs hcl _ => exact (hclose _ hs hcl).elim

/-- **Reconnects are safe** in every run in which a superseded handler finds nothing to clean
up and the two sockets keep their session ids apart. -/
theorem reconnect_safe (hr : (machine S).Reach KeptApart (start rows users clock) cfg) :
    ReconnectSafe cfg.world.trace := by
  intro e past n k k' hsuf
  refine server_events (fun past e => e.tid = .node k → Newer past n k k' → Spares past e n k')
    ?_ hr e past hsuf
  intro cfg i c o r s hr hmay hA hexec hi hnewer
  obtain rfl : i = .node k := hi
  -- in `disconnect_node`, the condition leaves the superseded handler nothing to do
  have hleaves (m : Uuid) (hs : Serving k m (own (.node k) cfg.world.trace))
      (hcl : Closing k m (own (.node k) cfg.world.trace)) := by
    obtain rfl := registered_unique hr hs.registered_trace hnewer.registered.1
    exact hA.leaves k k' m rfl hcl hnewer
  -- in the loop, it is not at work on a session of the newer socket
  have hidle (sid : UInt32) (hover : openedOver ⟨n, sid⟩ cfg.world.trace = some k') :=
    not_handling hr n k k' sid hnewer (openedBy_of_openedOver hr ⟨n, sid⟩ k' hover)
  refine ⟨?_, ?_, ?_, ?_⟩
  · intro k₀ conn heq
    cases heq
    have hget := exec_nodes_answer hexec
    simp only [MapOp.answer, Option.some.injEq] at hget
    obtain ⟨_, heq, hs, hcl⟩ := hmay.unregister
    cases heq
    rw [(hleaves n hs hcl).1 rfl] at hget
    cases hget
  · intro k₀ sid r' hover heq
    cases heq
    exact hidle sid hover
      (handling_of_session hmay (fun m hs hcl => (hleaves m hs hcl).2.1) (.inl ⟨n, rfl⟩))
  · intro k₀ sid v r' hover heq
    cases heq
    exact hidle sid hover
      (handling_of_session hmay (fun m hs hcl => (hleaves m hs hcl).2.1) (.inr ⟨n, v, rfl⟩))
  · intro k₀ sid j protocol msgId r' hover heq
    cases heq
    exact hidle sid hover
      (handling_of_notice hmay fun m hs hcl => (hleaves m hs hcl).2.2 _ rfl)

end Reconnect

/-! ## A quiet reconnect, and an untimely one -/

/-- `Newer`, by walking the trace. -/
def newer (n : Uuid) (k k' : Nat) : List (Ev Tid Resp) → Bool
  | [] => false
  | e :: tr => registers k' n e && decide (Registered tr k n) || newer n k k' tr

theorem newer_of_true {n : Uuid} {k k' : Nat} :
    ∀ {tr : List (Ev Tid Resp)}, newer n k k' tr = true → Newer tr n k k' := by
  intro tr
  induction tr with
  | nil =>
      intro h
      cases h
  | cons e tr ih =>
      intro h
      rw [newer, Bool.or_eq_true, Bool.and_eq_true, decide_eq_true_eq] at h
      rcases h with ⟨he, hreg⟩ | h
      · unfold registers at he
        split at he
        · next j m conn r =>
            rw [Bool.and_eq_true, beq_iff_eq, beq_iff_eq] at he
            obtain ⟨rfl, rfl⟩ := he
            exact ⟨conn, r, tr, List.suffix_rfl, hreg⟩
        · cases he
      · obtain ⟨conn, r, past, hpast, hreg⟩ := ih h
        exact ⟨conn, r, past, hpast.trans (List.suffix_cons _ _), hreg⟩

/-- The session a message of a node touches. -/
def touched (m : Incoming) : Option UInt32 := m.nodeFrame?.bind touches

theorem Handling.touched {sid : UInt32} {h : Hist Resp} (hh : Handling sid h) :
    ∃ m, (⟨.ws .next, m⟩ : Sigma Resp) ∈ h ∧ touched m = some sid := by
  induction hh with
  | @read h m f hm hf =>
      refine ⟨m, List.mem_cons_self, ?_⟩
      rw [Server.touched, hm, Option.bind_some, hf]
  | session _ ih | found _ ih =>
      obtain ⟨m, hmem, hm⟩ := ih
      exact ⟨m, List.mem_cons_of_mem _ hmem, hm⟩

/-- Whether, so far, no handler of a node has left its loop and no two messages touch the same
session. -/
def apart (w : World State Tid Resp) (_ : Tid) (c : Cmd) (r : Resp c) : Bool :=
  w.trace.all (fun
    | ⟨_, .nodeWriter (.abort _), _⟩ => false
    | ⟨.node _, .ws .next, m⟩ =>
        match c, r with
        | .ws .next, m' => touched m != touched m' || touched m' == none
        | _, _ => true
    | _ => true)

theorem apart_message {w : World State Tid Resp} {i : Tid} {k : Nat} {m m' : Incoming} {sid : UInt32}
    (h : apart w i (.ws .next) m' = true)
    (hmem : (⟨.node k, .ws .next, m⟩ : Ev Tid Resp) ∈ w.trace) (hm : touched m = some sid)
    (hm' : touched m' = some sid) : False := by
  have hne := List.all_eq_true.1 h _ hmem
  simp [hm, hm'] at hne

theorem apart_sound (w : World State Tid Resp) (i : Tid) (c : Cmd) (r : Resp c)
    (h : apart w i c r = true) : KeptApart w i c r := by
  refine ⟨?_, ?_, ?_⟩
  · rintro k k' n - ⟨h', hsuf, -⟩
    have hmem := mem_own.1 (hsuf.subset List.mem_cons_self)
    exact absurd (List.all_eq_true.1 h _ hmem) Bool.false_ne_true
  · rintro k k' n m' f sid - heq hf hsid - ⟨protocol, cid, msgId, m, past, hpast, -, hm⟩
    cases heq
    have hread : touched m = some sid := by
      rw [touched, hm, Option.bind_some, touches]
    refine apart_message h (hpast.subset List.mem_cons_self) hread ?_
    rw [touched, hf, Option.bind_some, hsid]
  · rintro k k' n m' protocol cid sid msgId - heq hf - hhandling
    cases heq
    obtain ⟨m, hmem, hm⟩ := hhandling.touched
    refine apart_message h (mem_own.1 hmem) hm ?_
    rw [touched, hf, Option.bind_some, touches]

/-- Two sockets of node `10`; the newer opens session 5, then the older closes its session 6. -/
def quietSchedule : List (Tid × Choice) :=
  nodeLogin 0 10 ++ nodeLogin 1 10 ++ idle (.node 1) 1 ++
    [(.node 1, fromNode (.tunnelOpened 0 77 5 none))] ++ idle (.node 1) 2 ++ idle (.node 0) 1 ++
    [(.node 0, fromNode (.tunnelClosed 0 77 6 none))] ++ idle (.node 0) 1

/-- Handler 0 has just removed a tunnel of its own, and one of handler 1 is there. -/
def sparesNewer : List (Ev Tid Resp) → Bool
  | ⟨.node 0, .tunnelSessions (.remove ⟨10, 6⟩), _⟩ :: past =>
      newer 10 0 1 past && decide (openedOver ⟨10, 5⟩ past = some 1)
  | _ => false

theorem reconnect_safe_of_quiet :
    ∃ cfg r past, (machine (sample loginRequests)).Reach KeptApart sampleStart cfg ∧
      (⟨.node 0, .tunnelSessions (.remove ⟨10, 6⟩), r⟩ : Ev Tid Resp) :: past <:+ cfg.world.trace ∧
      openedOver ⟨10, 5⟩ past = some 1 ∧
      Spares past ⟨.node 0, .tunnelSessions (.remove ⟨10, 6⟩), r⟩ 10 1 := by
  have hrun : ((machine (sample loginRequests)).run apart quietSchedule sampleStart).any
      (fun cfg => sparesNewer cfg.world.trace) = true := by
    decide +kernel
  obtain ⟨cfg, hr, hend⟩ := Machine.reach_of_run apart_sound hrun
  unfold sparesNewer at hend
  split at hend
  · next r past htrace =>
      rw [Bool.and_eq_true, decide_eq_true_eq] at hend
      have hsuf : (⟨.node 0, .tunnelSessions (.remove ⟨10, 6⟩), r⟩ : Ev Tid Resp) :: past
          <:+ cfg.world.trace := by
        rw [htrace]
        exact List.suffix_rfl
      exact ⟨cfg, r, past, hr, hsuf, hend.2,
        reconnect_safe hr _ past 10 0 1 hsuf rfl (newer_of_true hend.1)⟩
  · cases hend

/-- Two sockets of node `10`; then the older one is closed. -/
def untimelySchedule : List (Tid × Choice) :=
  nodeLogin 0 10 ++ nodeLogin 1 10 ++ idle (.node 0) 5

/-- Handler 0 has just removed the entry of handler 1. -/
def unregistersNewer : List (Ev Tid Resp) → Bool
  | ⟨.node 0, .nodes (.remove 10), some conn⟩ :: past => newer 10 0 1 past && decide (conn.tx = 1)
  | _ => false

/-- **A superseded handler unregisters its node.**  Without the condition, closing the older
socket removes the newer one from the registry. -/
theorem superseded_handler_unregisters :
    ¬ ∀ cfg, (machine (sample loginRequests)).Reach Free sampleStart cfg →
      ReconnectSafe cfg.world.trace := by
  have hrun : ((machine (sample loginRequests)).run (fun _ _ _ _ => true) untimelySchedule
      sampleStart).any
      (fun cfg => unregistersNewer cfg.world.trace) = true := by
    decide +kernel
  obtain ⟨cfg, hr, hend⟩ := Machine.reach_of_run (fun _ _ _ _ _ => trivial) hrun
  intro hall
  unfold unregistersNewer at hend
  split at hend
  · next conn past htrace =>
      rw [Bool.and_eq_true, decide_eq_true_eq] at hend
      have hsuf : (⟨.node 0, .nodes (.remove 10), some conn⟩ : Ev Tid Resp) :: past
          <:+ cfg.world.trace := by
        rw [htrace]
        exact List.suffix_rfl
      exact (hall cfg hr _ past 10 0 1 hsuf rfl (newer_of_true hend.1)).entry 0 conn rfl hend.2
  · cases hend

end Phirepass.Server
