/-
# `Phirepass.Server.Registries` — what the entries of the registries stand for

The three maps of `AppState` hold numbers and ids.  This module says once, in
every reachable world, what they mean:

    nodes[n].tx = k                socket k registered as n
    connections[c].tx = i          web socket i drew the id c at its login
    tunnel_sessions[(n, s)] = …    a socket of n delivered TunnelOpened for s,
                                   and the node in the value is n

and that sockets, ids and nodes determine each other: a node socket registers
as one node, a web socket draws one id, and no two draw the same.
-/
import Phirepass.Server.Rules

namespace Phirepass.Server

open Rust Interleave

/-- Socket `k` registered as node `n`. -/
def Registered (tr : List (Ev Tid Resp)) (k : Nat) (n : Uuid) : Prop :=
  ∃ conn r, (⟨.node k, .nodes (.insert n conn), r⟩ : Ev Tid Resp) ∈ tr

/-- Web socket `i` drew the connection id `cid`. -/
def Drew (tr : List (Ev Tid Resp)) (i : Nat) (cid : Uuid) : Prop :=
  (⟨.web i, .newV4, cid⟩ : Ev Tid Resp) ∈ tr

/-- Socket `k`, registered as `n`, delivered the frame `f`. -/
def Sent (tr : List (Ev Tid Resp)) (k : Nat) (n : Uuid) (f : NodeFrameData) : Prop :=
  ∃ m past, (⟨.node k, .ws .next, m⟩ : Ev Tid Resp) :: past <:+ tr ∧ Registered past k n ∧
    m.nodeFrame? = some f

/-! ## They can be evaluated -/

/-- The event registers socket `k` as `n`. -/
def registers (k : Nat) (n : Uuid) : Ev Tid Resp → Bool
  | ⟨.node j, .nodes (.insert m _), _⟩ => j == k && m == n
  | _ => false

/-- The event draws `cid` for web socket `i`. -/
def draws (i : Nat) (cid : Uuid) : Ev Tid Resp → Bool
  | ⟨.web j, .newV4, id⟩ => j == i && id == cid
  | _ => false

theorem any_registers_iff {tr : List (Ev Tid Resp)} {k : Nat} {n : Uuid} :
    tr.any (registers k n) = true ↔ Registered tr k n := by
  rw [List.any_eq_true]
  constructor
  · rintro ⟨e, hmem, he⟩
    unfold registers at he
    split at he
    · next j m conn r =>
        rw [Bool.and_eq_true, beq_iff_eq, beq_iff_eq] at he
        obtain ⟨rfl, rfl⟩ := he
        exact ⟨conn, r, hmem⟩
    · cases he
  · rintro ⟨conn, r, hmem⟩
    exact ⟨_, hmem, by simp [registers]⟩

theorem any_draws_iff {tr : List (Ev Tid Resp)} {i : Nat} {cid : Uuid} :
    tr.any (draws i cid) = true ↔ Drew tr i cid := by
  rw [List.any_eq_true]
  constructor
  · rintro ⟨e, hmem, he⟩
    unfold draws at he
    split at he
    · next j id =>
        rw [Bool.and_eq_true, beq_iff_eq, beq_iff_eq] at he
        obtain ⟨rfl, rfl⟩ := he
        exact hmem
    · cases he
  · intro hmem
    exact ⟨_, hmem, by simp [draws]⟩

instance (tr : List (Ev Tid Resp)) (k : Nat) (n : Uuid) : Decidable (Registered tr k n) :=
  decidable_of_iff _ any_registers_iff

instance (tr : List (Ev Tid Resp)) (i : Nat) (cid : Uuid) : Decidable (Drew tr i cid) :=
  decidable_of_iff _ any_draws_iff

section Monotone

variable {tr tr' : List (Ev Tid Resp)} {k i : Nat} {n cid : Uuid} {f : NodeFrameData}

theorem Registered.mono (hs : tr <:+ tr') (h : Registered tr k n) : Registered tr' k n := by
  obtain ⟨conn, r, hmem⟩ := h
  exact ⟨conn, r, hs.subset hmem⟩

theorem Drew.mono (hs : tr <:+ tr') (h : Drew tr i cid) : Drew tr' i cid := hs.subset h

theorem Sent.mono (hs : tr <:+ tr') (h : Sent tr k n f) : Sent tr' k n f := by
  obtain ⟨m, past, hpast, hreg, hm⟩ := h
  exact ⟨m, past, hpast.trans hs, hreg, hm⟩

/-- A delivered frame is an earlier one or the message just read. -/
theorem sent_cons {e : Ev Tid Resp} (h : Sent (e :: tr) k n f) :
    Sent tr k n f ∨ ∃ m, e = ⟨.node k, .ws .next, m⟩ ∧ Registered tr k n ∧
      m.nodeFrame? = some f := by
  obtain ⟨m, past, hpast, hreg, hm⟩ := h
  rw [List.suffix_cons_iff] at hpast
  rcases hpast with heq | hpast
  · cases heq
    exact .inr ⟨m, rfl, hreg, hm⟩
  · exact .inl ⟨m, past, hpast, hreg, hm⟩

theorem Serving.registered_trace (hs : Serving k n (own (.node k) tr)) : Registered tr k n := by
  obtain ⟨conn, r, hmem, -⟩ := hs.registered
  exact ⟨conn, r, mem_own.1 hmem⟩

theorem LoggedIn.drew {S : Setup} (hl : LoggedIn S (own (.web i) tr) cid) : Drew tr i cid := by
  obtain ⟨⟨m, hm⟩, -⟩ := hl
  exact mem_own.1 (hm.subset List.mem_cons_self)

/-- A message in a task's history, read once the task had registered, was delivered. -/
theorem sent_of_own {m : Incoming} {h : Hist Resp} {conn : NodeConnection}
    {r : Option NodeConnection} (hsuf : ⟨.ws .next, m⟩ :: h <:+ own (.node k) tr)
    (hreg : (⟨.nodes (.insert n conn), r⟩ : Sigma Resp) ∈ h) (hm : m.nodeFrame? = some f) :
    Sent tr k n f := by
  obtain ⟨past, hpast, rfl⟩ := exists_past_of_own hsuf
  exact ⟨m, past, hpast, ⟨conn, r, mem_own.1 hreg⟩, hm⟩

end Monotone

section Registries

variable {S : Setup} {A : Restriction} {rows : DashMap Uuid NodeRow} {users : List Uuid}
  {clock : Time} {cfg : Config State Tid Resp Label}

/-! ## Who is who -/

/-- A node socket registers once. -/
theorem registered_unique (hr : (machine S).Reach A (start rows users clock) cfg) {k : Nat}
    {n m : Uuid} (hn : Registered cfg.world.trace k n) (hm : Registered cfg.world.trace k m) :
    n = m := by
  refine server_inv (fun w => ∀ n m, Registered w.trace k n → Registered w.trace k m → n = m)
    ?_ ?_ hr n m hn hm
  · rintro n m ⟨conn, r, hmem⟩
    cases hmem
  · intro cfg i c o r s _ hI hmay _ _ n m hn hm
    have hnew {n m : Uuid} {conn conn' : NodeConnection} {r' : Option NodeConnection}
        (hmay : May S (.node k) (own (.node k) cfg.world.trace) (.nodes (.insert n conn)))
        (hold : (⟨.node k, .nodes (.insert m conn'), r'⟩ : Ev Tid Resp) ∈ cfg.world.trace) :
        False := by
      obtain ⟨_, -, hj, -, -⟩ := hmay.register
      exact hj.unregistered m conn' r' (mem_own.2 hold)
    obtain ⟨conn, r₁, hn⟩ := hn
    obtain ⟨conn', r₂, hm⟩ := hm
    rw [World.push_trace, List.mem_cons] at hn hm
    rcases hn with hn | hn <;> rcases hm with hm | hm
    · cases hn
      cases hm
      rfl
    · cases hn
      exact (hnew hmay hm).elim
    · cases hm
      exact (hnew hmay hn).elim
    · exact hI n m ⟨conn, r₁, hn⟩ ⟨conn', r₂, hm⟩

/-- The ids drawn are the ids of web sockets. -/
theorem mem_issued_iff (hr : (machine S).Reach A (start rows users clock) cfg) {cid : Uuid} :
    cid ∈ cfg.world.state.issued ↔ ∃ i, Drew cfg.world.trace i cid := by
  refine server_inv (fun w => cid ∈ w.state.issued ↔ ∃ i, Drew w.trace i cid) ?_ ?_ hr
  · constructor
    · intro hmem
      cases hmem
    · rintro ⟨i, hmem⟩
      cases hmem
  · intro cfg i c o r s _ hI hmay _ hexec
    rw [World.push_state, World.push_trace, (exec_effect hexec).issued]
    constructor
    · intro hmem
      have hold (h : cid ∈ cfg.world.state.issued) :
          ∃ j, Drew (⟨i, c, r⟩ :: cfg.world.trace) j cid := by
        obtain ⟨j, hj⟩ := hI.1 h
        exact ⟨j, hj.mono (List.suffix_cons _ _)⟩
      cases c with
      | newV4 =>
          obtain ⟨j, _, rfl, -⟩ := hmay.draw
          rcases List.mem_cons.1 hmem with rfl | hmem
          · exact ⟨j, List.mem_cons_self⟩
          · exact hold hmem
      | _ => exact hold hmem
    · rintro ⟨j, hmem⟩
      rcases List.mem_cons.1 hmem with heq | hmem
      · cases heq
        exact List.mem_cons_self
      · have hold := hI.2 ⟨j, hmem⟩
        cases c with
        | newV4 => exact List.mem_cons_of_mem _ hold
        | _ => exact hold

/-- No two web sockets draw the same id. -/
theorem drew_unique (hr : (machine S).Reach A (start rows users clock) cfg) {i j : Nat}
    {cid : Uuid} (hi : Drew cfg.world.trace i cid) (hj : Drew cfg.world.trace j cid) : i = j := by
  refine server_inv (fun w => Drew w.trace i cid → Drew w.trace j cid → i = j) ?_ ?_ hr hi hj
  · intro hmem
    cases hmem
  · intro cfg t c o r s hr hI _ _ hexec hi hj
    have hnew {l : Nat} (hexec : exec S t .newV4 o cfg.world.state = some (cid, s))
        (hold : Drew cfg.world.trace l cid) : False :=
      (exec_newV4 hexec).1 ((mem_issued_iff hr).2 ⟨l, hold⟩)
    rw [Drew, World.push_trace, List.mem_cons] at hi hj
    rcases hi with hi | hi <;> rcases hj with hj | hj
    · cases hi
      cases hj
      rfl
    · cases hi
      exact (hnew hexec hj).elim
    · cases hj
      exact (hnew hexec hi).elim
    · exact hI hi hj

/-- A web socket draws one id. -/
theorem drew_once (hr : (machine S).Reach A (start rows users clock) cfg) {i : Nat}
    {cid cid' : Uuid} (h : Drew cfg.world.trace i cid) (h' : Drew cfg.world.trace i cid') :
    cid = cid' := by
  refine server_inv (fun w => ∀ cid cid', Drew w.trace i cid → Drew w.trace i cid' → cid = cid')
    ?_ ?_ hr cid cid' h h'
  · intro cid cid' hmem
    cases hmem
  · intro cfg t c o r s _ hI hmay _ _ cid cid' h h'
    have hnew {cid : Uuid} (hmay : May S (.web i) (own (.web i) cfg.world.trace) .newV4)
        (hold : Drew cfg.world.trace i cid) : False := by
      obtain ⟨_, m, -, hown⟩ := hmay.draw
      have hmem := mem_own.2 hold
      rw [hown] at hmem
      simp at hmem
    rw [Drew, World.push_trace, List.mem_cons] at h h'
    rcases h with h | h <;> rcases h' with h' | h'
    · cases h
      cases h'
      rfl
    · cases h
      exact (hnew hmay h').elim
    · cases h'
      exact (hnew hmay h).elim
    · exact hI cid cid' h h'

/-! ## What an entry says -/

/-- An entry of `nodes` belongs to a socket that registered as that node. -/
theorem registered_of_node (hr : (machine S).Reach A (start rows users clock) cfg) :
    ∀ n conn, cfg.world.state.nodes.lookup n = some conn →
      Registered cfg.world.trace conn.tx n := by
  refine server_inv (fun w => ∀ n conn, w.state.nodes.lookup n = some conn →
    Registered w.trace conn.tx n) ?_ ?_ hr
  · intro n conn hconn
    cases hconn
  · intro cfg i c o r s _ hI hmay _ hexec n conn hconn
    rw [World.push_state, (exec_effect hexec).nodes] at hconn
    have hold {conn : NodeConnection} (h : cfg.world.state.nodes.lookup n = some conn) :
        Registered (cfg.world.push i c r s).trace conn.tx n :=
      (hI n conn h).mono (List.suffix_cons _ _)
    cases c with
    | nodes op =>
        rcases MapOp.lookup_apply hconn with h | rfl | ⟨f, old, rfl, h, rfl⟩
        · exact hold h
        · obtain ⟨k, rfl, -, -, rfl⟩ := hmay.register
          exact ⟨conn, r, List.mem_cons_self⟩
        · rw [hmay.beatNode old]
          exact hold h
    | _ => exact hold hconn

/-- An entry of `connections` belongs to the web socket that drew its id. -/
theorem drew_of_connection (hr : (machine S).Reach A (start rows users clock) cfg) :
    ∀ cid conn, cfg.world.state.connections.lookup cid = some conn →
      Drew cfg.world.trace conn.tx cid := by
  refine server_inv (fun w => ∀ cid conn, w.state.connections.lookup cid = some conn →
    Drew w.trace conn.tx cid) ?_ ?_ hr
  · intro cid conn hconn
    cases hconn
  · intro cfg i c o r s _ hI hmay _ hexec cid conn hconn
    rw [World.push_state, (exec_effect hexec).connections] at hconn
    have hold {conn : WebConnection} (h : cfg.world.state.connections.lookup cid = some conn) :
        Drew (cfg.world.push i c r s).trace conn.tx cid :=
      (hI cid conn h).mono (List.suffix_cons _ _)
    cases c with
    | connections op =>
        rcases MapOp.lookup_apply hconn with h | rfl | ⟨f, old, rfl, h, rfl⟩
        · exact hold h
        · obtain ⟨j, rfl, hl, rfl⟩ := hmay.connect
          exact hl.drew.mono (List.suffix_cons _ _)
        · rw [hmay.beatWeb old]
          exact hold h
    | _ => exact hold hconn

/-- A socket of node `n` reported the session `sid` open for the connection `cid`. -/
def Opened (tr : List (Ev Tid Resp)) (n : Uuid) (sid : UInt32) (cid : Uuid) : Prop :=
  ∃ k protocol msgId, Sent tr k n (.tunnelOpened protocol cid sid msgId)

theorem Opened.mono {tr tr' : List (Ev Tid Resp)} {n cid : Uuid} {sid : UInt32} (hs : tr <:+ tr')
    (h : Opened tr n sid cid) : Opened tr' n sid cid := by
  obtain ⟨k, protocol, msgId, hsent⟩ := h
  exact ⟨k, protocol, msgId, hsent.mono hs⟩

/-- An entry of `tunnel_sessions` was reported by a node, which is both in its key and in its
value. -/
theorem opened_of_session (hr : (machine S).Reach A (start rows users clock) cfg) :
    ∀ key cid n, cfg.world.state.tunnelSessions.lookup key = some (cid, n) →
      n = key.nodeId ∧ Opened cfg.world.trace key.nodeId key.sid cid := by
  refine server_inv (fun w => ∀ key cid n, w.state.tunnelSessions.lookup key = some (cid, n) →
    n = key.nodeId ∧ Opened w.trace key.nodeId key.sid cid) ?_ ?_ hr
  · intro key cid n hentry
    cases hentry
  · intro cfg i c o r s _ hI hmay _ hexec key cid n hentry
    rw [World.push_state, (exec_effect hexec).tunnelSessions] at hentry
    have hold (h : cfg.world.state.tunnelSessions.lookup key = some (cid, n)) :
        n = key.nodeId ∧ Opened (cfg.world.push i c r s).trace key.nodeId key.sid cid :=
      ⟨(hI key cid n h).1, (hI key cid n h).2.mono (List.suffix_cons _ _)⟩
    cases c with
    | tunnelSessions op =>
        rcases MapOp.lookup_apply hentry with h | rfl | ⟨f, old, rfl, -, -⟩
        · exact hold h
        · obtain ⟨k, n', m, protocol, cid', sid, msgId, h', rfl, hs, rfl, heq, hown, hm⟩ := hmay.bind
          cases heq
          refine ⟨rfl, k, protocol, msgId, ?_⟩
          obtain ⟨conn, r', hmem, -⟩ := hs.registered
          rw [hown, List.mem_cons] at hmem
          rcases hmem with heq | hmem
          · cases heq
          · refine Sent.mono (List.suffix_cons _ _) (sent_of_own ?_ hmem hm)
            rw [hown]
        · exact absurd hmay May.not_modify
    | _ => exact hold hentry

/-! ## What a lookup found -/

/-- A node found by its id, or in a walk over the registry, is reached through a socket that
registered as it. -/
theorem registered_of_get (hr : (machine S).Reach A (start rows users clock) cfg) {i : Tid}
    {n : Uuid} {conn : NodeConnection}
    (hmem : (⟨i, .nodes (.get n), some conn⟩ : Ev Tid Resp) ∈ cfg.world.trace) :
    Registered cfg.world.trace conn.tx n := by
  obtain ⟨past, hsuf⟩ := exists_past hmem
  refine Registered.mono ((List.suffix_cons _ _).trans hsuf) ?_
  refine server_events (fun past e => ∀ i n conn, e = ⟨i, .nodes (.get n), some conn⟩ →
    Registered past conn.tx n) ?_ hr _ past hsuf i n conn rfl
  intro cfg j c o r s hr _ _ hexec i n conn heq
  cases heq
  have hget := exec_nodes_answer hexec
  simp only [MapOp.answer, Option.some.injEq] at hget
  exact registered_of_node hr n conn hget

/-- A connection that was found by its id is reached through the socket that drew it. -/
theorem drew_of_get (hr : (machine S).Reach A (start rows users clock) cfg) {i : Tid}
    {cid : Uuid} {conn : WebConnection}
    (hmem : (⟨i, .connections (.get cid), some conn⟩ : Ev Tid Resp) ∈ cfg.world.trace) :
    Drew cfg.world.trace conn.tx cid := by
  obtain ⟨past, hsuf⟩ := exists_past hmem
  refine Drew.mono ((List.suffix_cons _ _).trans hsuf) ?_
  refine server_events (fun past e => ∀ i cid conn, e = ⟨i, .connections (.get cid), some conn⟩ →
    Drew past conn.tx cid) ?_ hr _ past hsuf i cid conn rfl
  intro cfg j c o r s hr _ _ hexec i cid conn heq
  cases heq
  have hget := exec_connections_answer hexec
  simp only [MapOp.answer, Option.some.injEq] at hget
  exact drew_of_connection hr cid conn hget

/-- Whom the handler of a node sends a frame, it has looked up under an id, for a node it has
registered. -/
theorem notified_of_send (hr : (machine S).Reach A (start rows users clock) cfg) {k i : Nat}
    {frame : WebFrameData} (hmay : NodeMay S k (own (.node k) cfg.world.trace) (.web (.send i frame))) :
    ∃ n cid h, h <:+ own (.node k) cfg.world.trace ∧ Registered cfg.world.trace k n ∧
      Drew cfg.world.trace i cid ∧
      ((∃ conn r, (⟨.nodes (.insert n conn), r⟩ : Sigma Resp) ∈ h ∧ Notifies n h cid frame) ∨
        Sweeps n h cid frame) := by
  generalize hown : own (.node k) cfg.world.trace = h at hmay
  have hserved {n : Uuid} (hs : Serving k n h) : Registered cfg.world.trace k n :=
    (hown ▸ hs : Serving k n (own (.node k) cfg.world.trace)).registered_trace
  have hfound {cid : Uuid} {conn : WebConnection} {h' : Hist Resp}
      (hget : ⟨.connections (.get cid), some conn⟩ :: h' = h) :
      h' <:+ h ∧ Drew cfg.world.trace conn.tx cid := by
    rw [← hget]
    refine ⟨List.suffix_cons _ _, drew_of_get hr (i := .node k) (mem_own.1 ?_)⟩
    rw [hown, ← hget]
    exact List.mem_cons_self
  cases hmay with
  | login _ hc => cases hc
  | loop hs _ hc =>
      cases hc with
      | notify hn =>
          obtain ⟨hsuf, hdrew⟩ := hfound rfl
          obtain ⟨conn', r, hreg, -⟩ := hs.registered
          rw [List.mem_cons] at hreg
          rcases hreg with heq | hreg
          · cases heq
          · exact ⟨_, _, _, hsuf, hserved hs, hdrew, .inl ⟨_, _, hreg, hn⟩⟩
  | close hs _ hc =>
      cases hc with
      | notify hn =>
          obtain ⟨hsuf, hdrew⟩ := hfound rfl
          exact ⟨_, _, _, hsuf, hserved hs, hdrew, .inr hn⟩

/-- A session that was found by its key was reported by the key's node. -/
theorem opened_of_get (hr : (machine S).Reach A (start rows users clock) cfg) {i : Tid}
    {key : TunnelSessionKey} {cid n : Uuid}
    (hmem : (⟨i, .tunnelSessions (.get key), some (cid, n)⟩ : Ev Tid Resp) ∈ cfg.world.trace) :
    n = key.nodeId ∧ Opened cfg.world.trace key.nodeId key.sid cid := by
  obtain ⟨past, hsuf⟩ := exists_past hmem
  have hev := server_events (fun past e => ∀ i key cid n,
    e = ⟨i, .tunnelSessions (.get key), some (cid, n)⟩ →
      n = key.nodeId ∧ Opened past key.nodeId key.sid cid) ?_ hr _ past hsuf i key cid n rfl
  · exact ⟨hev.1, hev.2.mono ((List.suffix_cons _ _).trans hsuf)⟩
  · intro cfg j c o r s hr _ _ hexec i key cid n heq
    cases heq
    have hget := exec_tunnelSessions_answer hexec
    simp only [MapOp.answer, Option.some.injEq] at hget
    exact opened_of_session hr key cid n hget

/-- So was one met in a walk. -/
theorem opened_of_next (hr : (machine S).Reach A (start rows users clock) cfg) {i : Tid}
    {start visited : List TunnelSessionKey} {key : TunnelSessionKey} {cid n : Uuid}
    (hmem : (⟨i, .tunnelSessions (.next start visited), some (key, cid, n)⟩ : Ev Tid Resp)
      ∈ cfg.world.trace) : Opened cfg.world.trace key.nodeId key.sid cid := by
  obtain ⟨past, hsuf⟩ := exists_past hmem
  refine Opened.mono ((List.suffix_cons _ _).trans hsuf) ?_
  refine server_events (fun past e => ∀ i start visited key cid n,
    e = ⟨i, .tunnelSessions (.next start visited), some (key, cid, n)⟩ →
      Opened past key.nodeId key.sid cid) ?_ hr _ past hsuf i start visited key cid n rfl
  intro cfg j c o r s hr _ _ hexec i start visited key cid n heq
  cases heq
  have hnext := exec_tunnelSessions_answer hexec
  simp only [MapOp.answer] at hnext
  split at hnext
  · next picked _ =>
      split at hnext
      · cases hnext
      · obtain ⟨v, hv, heq⟩ := Option.map_eq_some_iff.1 hnext
        cases heq
        exact (opened_of_session hr key cid n hv).2
  · split at hnext
    · cases hnext
    · cases hnext

/-! ## What a node's queue held -/

/-- Task `i` put the frame `g` into the queue of node socket `k`. -/
def Enqueued (tr : List (Ev Tid Resp)) (i : Tid) (k : Nat) (g : NodeFrameData) : Prop :=
  (⟨i, .node (.send k g), true⟩ : Ev Tid Resp) ∈ tr

/-- Frames for a node are only ever sent by waiting for the queue. -/
theorem May.not_trySend {i : Tid} {h : Hist Resp} {k : Nat} {g : NodeFrameData} :
    ¬ May S i h (.node (.trySend k g)) := by
  intro hm
  cases i with
  | node k => cases hm with | login _ hc | loop _ _ hc | close _ _ hc => cases hc
  | web i => rcases hm with hm | ⟨_, -, hm⟩ <;> cases hm
  | request r =>
      cases hm with
      | create _ hc | verify _ hc | heartbeat _ hc => cases hc
  | _ => cases hm

/-- A frame in the queue of a node socket was put there by some task. -/
theorem enqueued_of_queue (hr : (machine S).Reach A (start rows users clock) cfg) {k : Nat}
    {g : NodeFrameData} (hg : g ∈ (cfg.world.state.nodeChans k).queue) :
    ∃ i, Enqueued cfg.world.trace i k g := by
  obtain ⟨⟨i, c, r⟩, hmem, op, r', heq, henq⟩ := hr.origin
    (fun s b => b.2 ∈ (s.nodeChans b.1).queue)
    (fun e b => ∃ op r', (⟨e.cmd, e.resp⟩ : Sigma Resp) = ⟨.node op, r'⟩ ∧
      op.Enqueues b.1 b.2 r')
    (fun _ hb => absurd hb List.not_mem_nil) (fun i _ _ _ _ _ _ hexec hb => exec_nodeChans (i := i) hexec hb)
    (b := (k, g)) hg
  cases heq
  cases op with
  | send tx a =>
      obtain ⟨rfl, rfl, rfl⟩ := henq
      exact ⟨i, hmem⟩
  | trySend tx a =>
      obtain ⟨past, hsuf⟩ := exists_past hmem
      refine (server_events (fun _ e => ∀ i tx a r, e ≠ ⟨i, .node (.trySend tx a), r⟩) ?_ hr _ past
        hsuf i tx a r rfl).elim
      intro cfg j c o r s _ hmay _ _ i tx a r' heq
      cases heq
      exact May.not_trySend hmay
  | recv | close => exact henq.elim

/-- What the writer of a node socket sends was put into its queue. -/
theorem enqueued_of_written (hr : (machine S).Reach A (start rows users clock) cfg) {k : Nat}
    {f : Frame} {g : NodeFrameData} {sent : Bool} (hf : f.data = .node g)
    (hmem : (⟨.nodeWriter k, .ws (.send f), sent⟩ : Ev Tid Resp) ∈ cfg.world.trace) :
    ∃ i, Enqueued cfg.world.trace i k g := by
  have hrecv : (⟨.nodeWriter k, .node (.recv k), some g⟩ : Ev Tid Resp) ∈ cfg.world.trace := by
    obtain ⟨past, hsuf⟩ := exists_past hmem
    refine ((List.suffix_cons _ _).trans hsuf).subset (server_events (fun past e =>
      ∀ k f g sent, f.data = .node g → e = ⟨.nodeWriter k, .ws (.send f), sent⟩ →
        (⟨.nodeWriter k, .node (.recv k), some g⟩ : Ev Tid Resp) ∈ past) ?_ hr _ past hsuf
      k f g sent hf rfl)
    intro cfg i c o r s _ hmay _ _ k f g sent hf heq
    cases heq
    rw [← mem_own]
    change NodeWriterMay k (own (.nodeWriter k) cfg.world.trace) _ at hmay
    generalize own (.nodeWriter k) cfg.world.trace = h at hmay
    cases hmay with
    | send =>
        cases hf
        exact List.mem_cons_self
  obtain ⟨past, hsuf⟩ := exists_past hrecv
  have hev := server_events (fun past e => ∀ k g,
    e = ⟨.nodeWriter k, .node (.recv k), some g⟩ → ∃ i, Enqueued past i k g) ?_ hr _ past hsuf k g rfl
  · obtain ⟨i, henq⟩ := hev
    exact ⟨i, ((List.suffix_cons _ _).trans hsuf).subset henq⟩
  · intro cfg i c o r s hr _ _ hexec k g heq
    cases heq
    exact enqueued_of_queue hr (exec_node_recv hexec)

end Registries

end Phirepass.Server
