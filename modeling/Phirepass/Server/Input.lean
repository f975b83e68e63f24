/-
# `Phirepass.Server.Input` — what a browser types on its way to a node

The task of a web socket reads a piece of input, looks up its session, then
the session's node, and puts the piece into the node's queue:

    read → tunnel_sessions → nodes → queue → writer

At each arrow it may drop the piece.  Then it drops all that follow, once the
session has been bound (`Refusing`):

    no session       it is bound once, and was unbound
    another socket   a socket registers once, and was replaced or removed
    no queue         a queue stays closed

So what it forwards is a beginning of what it looks up (`typed_queued`).  What
is used of the nodes is in `Dedicated`.
-/
import Phirepass.Interleave.Stream
import Phirepass.Server.WebCleanup

namespace Phirepass.Server

open Rust Interleave

/-! ## What the events say -/

/-- The input for the SSH session `sid` that a frame of a browser carries. -/
def typedIn (sid : UInt32) : WebFrameData → Option Bytes
  | .tunnelData protocol _ sid' data =>
      if protocol = Protocol.ssh.toU8 ∧ sid' = sid then some data else none
  | _ => none

/-- The input in the message a task has just read. -/
def justTyped (sid : UInt32) : Hist Resp → Option Bytes
  | ⟨.ws .next, m⟩ :: _ => m.webFrame?.bind (typedIn sid)
  | _ => none

/-- The event binds the session `key` to the client `cid`. -/
def binds (key : TunnelSessionKey) (cid : Uuid) : Ev Tid Resp → Bool
  | ⟨_, .tunnelSessions (.insert key' v), _⟩ => decide (key' = key) && v.1 == cid
  | _ => false

/-- The input for the SSH session `key` whose session web socket `w`, the client `cid`, looks up,
from when it has been bound to `cid`. -/
def typed (w : Nat) (cid : Uuid) (key : TunnelSessionKey) (past : List (Ev Tid Resp)) :
    Ev Tid Resp → List Bytes
  | ⟨.web j, .tunnelSessions (.get key'), _⟩ =>
      if j = w ∧ key' = key ∧ past.any (binds key cid) = true then
        (justTyped key.sid (own (.web w) past)).toList
      else []
  | _ => []

/-- The frames put into the queue of node socket `k`. -/
def queued (k : Nat) (_ : List (Ev Tid Resp)) : Ev Tid Resp → List NodeFrameData
  | ⟨_, .node op, r⟩ => op.puts k r
  | _ => []

/-- The frames taken out of it. -/
def dequeued (k : Nat) (_ : List (Ev Tid Resp)) : Ev Tid Resp → List NodeFrameData
  | ⟨_, .node op, r⟩ => op.takes k r
  | _ => []

/-- The frames its writer sends. -/
def sent (k : Nat) (_ : List (Ev Tid Resp)) : Ev Tid Resp → List NodeFrameData
  | ⟨.nodeWriter j, .ws (.send ⟨_, _, .node g⟩), true⟩ => if j = k then [g] else []
  | _ => []

/-- The input in transit. -/
def crossing (cid : Uuid) (sid : UInt32) (h : Hist Resp) : Option Bytes :=
  (inTransit cid h).bind (·.input cid sid)

/-- The session `⟨n, sid⟩` is that of the client `cid`, which no web socket but `w` is, and was
bound over socket `k`. -/
structure Dedicated (k w : Nat) (n : Uuid) (sid : UInt32) (cid : Uuid) (tr : List (Ev Tid Resp)) :
    Prop where
  client : ∀ j, Drew tr j cid → j = w
  named : ∀ cid', Drew tr w cid' → cid' = cid
  /-- It was bound once. -/
  bound : ∀ i v r past, ⟨i, .tunnelSessions (.insert ⟨n, sid⟩ v), r⟩ :: past <:+ tr →
    i = .node k ∧ v.1 = cid ∧
      ∀ j v' r', (⟨j, .tunnelSessions (.insert ⟨n, sid⟩ v'), r'⟩ : Ev Tid Resp) ∉ past
  /-- No other node has a session of the client under this id. -/
  found : ∀ i m v, (⟨i, .tunnelSessions (.get ⟨m, sid⟩), some v⟩ : Ev Tid Resp) ∈ tr →
    v.1 = cid → m = n

section History

variable {cid : Uuid} {sid : UInt32} {h : Hist Resp}

theorem input_of_relayed {f : WebFrameData} {target : String} {sid' : UInt32} {g : NodeFrameData}
    (hf : relayed cid f = some (target, sid', g)) : g.input cid sid = typedIn sid f := by
  cases f <;> cases hf <;> simp [NodeFrameData.input, typedIn]

/-- What carries input names its session. -/
theorem addressee_of_input {g : NodeFrameData} (hg : (g.input cid sid).isSome = true) :
    g.addressee = some (cid, sid) := by
  cases g with
  | tunnelData protocol cid' sid' data =>
      simp only [NodeFrameData.input] at hg
      split at hg
      · next h =>
          obtain ⟨-, rfl, rfl⟩ := h
          rfl
      · cases hg
  | _ => cases hg

theorem input_of_not_addressee {g : NodeFrameData} (hg : g.addressee ≠ some (cid, sid)) :
    g.input cid sid = none := by
  rw [← Option.not_isSome_iff_eq_none]
  exact fun hsome => hg (addressee_of_input hsome)

/-- A lookup that finds someone else's session puts nothing in transit. -/
theorem inTransit_of_other {key : TunnelSessionKey} {owner n : Uuid} (howner : owner ≠ cid) :
    inTransit cid (⟨.tunnelSessions (.get key), some (owner, n)⟩ :: h) = none := by
  cases h with
  | nil => rfl
  | cons e h =>
      obtain ⟨c, r⟩ := e
      cases c with
      | ws op =>
          cases op with
          | next => exact if_neg howner
          | send | close => rfl
      | _ => rfl

/-- Nothing is in transit that was not before, but by a lookup. -/
theorem crossing_cons {c : Cmd} {r : Resp c} (hnew : (crossing cid sid (⟨c, r⟩ :: h)).isSome = true)
    (hold : crossing cid sid h = none) :
    ∃ key n, (⟨c, r⟩ : Sigma Resp) = ⟨.tunnelSessions (.get key), some (cid, n)⟩ := by
  have hsame (heq : inTransit cid (⟨c, r⟩ :: h) = inTransit cid h) :
      ∃ key n, (⟨c, r⟩ : Sigma Resp) = ⟨.tunnelSessions (.get key), some (cid, n)⟩ := by
    rw [crossing, heq] at hnew
    rw [crossing] at hold
    rw [hold] at hnew
    cases hnew
  cases c with
  | tunnelSessions op =>
      cases op with
      | get key =>
          match r with
          | none => cases hnew
          | some (owner, n) =>
              by_cases howner : owner = cid
              · subst howner
                exact ⟨key, n, rfl⟩
              · rw [crossing, inTransit_of_other howner] at hnew
                cases hnew
      | _ => exact hsame rfl
  | nodes op =>
      cases op with
      | get n =>
          cases r with
          | none => cases hnew
          | some info => exact hsame rfl
      | _ => exact hsame rfl
  | node op =>
      cases op with
      | send k g => cases g <;> first | exact hsame rfl | cases hnew
      | _ => exact hsame rfl
  | ws op =>
      cases op with
      | next => cases hnew
      | _ => exact hsame rfl
  | _ => exact hsame rfl

end History

section Input

variable {S : Setup} {A : Restriction} {rows : DashMap Uuid NodeRow} {users : List Uuid}
  {clock : Time} {cfg : Config State Tid Resp Label} {k w : Nat} {n : Uuid} {sid : UInt32} {cid : Uuid}

theorem Dedicated.mono (tr tr' : List (Ev Tid Resp)) (hs : tr <:+ tr')
    (h : Dedicated k w n sid cid tr') : Dedicated k w n sid cid tr where
  client j hdrew := h.client j (hdrew.mono hs)
  named cid' hdrew := h.named cid' (hdrew.mono hs)
  bound i v r past hpast := h.bound i v r past (hpast.trans hs)
  found i m v hmem := h.found i m v (hs.subset hmem)

/-! ## What does not come back -/

/-- A node that a socket has registered, and that is not entered with it, will not be. -/
theorem away_step {i : Tid} {c : Cmd} {o : Choice} {r : Resp c} {s : State}
    (hmay : May S i (own i cfg.world.trace) c)
    (hexec : exec S i c o cfg.world.state = some (r, s)) (hreg : Registered cfg.world.trace k n)
    (haway : (cfg.world.state.nodes.lookup n).map NodeConnection.tx ≠ some k) :
    (s.nodes.lookup n).map NodeConnection.tx ≠ some k := by
  rw [(exec_effect hexec).nodes]
  cases c with
  | nodes op =>
      intro hback
      obtain ⟨conn, hconn, rfl⟩ := Option.map_eq_some_iff.1 hback
      rcases MapOp.lookup_apply hconn with hold | rfl | ⟨f, old, rfl, hold, rfl⟩
      · exact haway (by rw [hold]; rfl)
      · obtain ⟨k, rfl, hj, -, rfl⟩ := hmay.register
        obtain ⟨conn', r', hmem⟩ := hreg
        exact hj.unregistered n conn' r' (mem_own.2 hmem)
      · rw [hmay.beatNode old] at haway
        exact haway (by rw [hold]; rfl)
  | _ => exact haway

/-- So it is not found with it again. -/
theorem away_since (hr : (machine S).Reach A (start rows users clock) cfg) {i : Tid}
    {found : Option NodeConnection} {past : List (Ev Tid Resp)}
    (hs : ⟨i, .nodes (.get n), found⟩ :: past <:+ cfg.world.trace) (hreg : Registered past k n)
    (hfound : found.map NodeConnection.tx ≠ some k) :
    (cfg.world.state.nodes.lookup n).map NodeConnection.tx ≠ some k := by
  refine server_inv (fun w => ⟨i, .nodes (.get n), found⟩ :: past <:+ w.trace →
    (w.state.nodes.lookup n).map NodeConnection.tx ≠ some k) (fun h => nomatch List.suffix_nil.1 h)
    ?_ hr hs
  intro cfg j c o r s hr hI hmay _ hexec hs
  rw [World.push_state]
  rcases List.suffix_cons_iff.1 hs with heq | hs
  · cases heq
    have hget := exec_nodes_answer hexec
    simp only [MapOp.answer, Option.some.injEq] at hget
    refine away_step hmay hexec hreg ?_
    rwa [hget]
  · exact away_step hmay hexec (hreg.mono ((List.suffix_cons _ _).trans hs)) (hI hs)

theorem any_binds_iff {key : TunnelSessionKey} {tr : List (Ev Tid Resp)} :
    tr.any (binds key cid) = true ↔
      ∃ i v r, (⟨i, .tunnelSessions (.insert key v), r⟩ : Ev Tid Resp) ∈ tr ∧ v.1 = cid := by
  rw [List.any_eq_true]
  constructor
  · rintro ⟨e, hmem, he⟩
    unfold binds at he
    split at he
    · rw [Bool.and_eq_true, decide_eq_true_eq, beq_iff_eq] at he
      obtain ⟨rfl, hv⟩ := he
      exact ⟨_, _, _, hmem, hv⟩
    · cases he
  · rintro ⟨i, v, r, hmem, hv⟩
    exact ⟨_, hmem, by simp [binds, hv]⟩

/-- A session that was bound is not bound again. -/
theorem Dedicated.unbound_step {i : Tid} {c : Cmd} {o : Choice} {r : Resp c} {s : State}
    (hD : Dedicated k w n sid cid (⟨i, c, r⟩ :: cfg.world.trace))
    (hexec : exec S i c o cfg.world.state = some (r, s))
    (hbound : cfg.world.trace.any (binds ⟨n, sid⟩ cid) = true)
    (hgone : cfg.world.state.tunnelSessions.lookup ⟨n, sid⟩ = none) :
    s.tunnelSessions.lookup ⟨n, sid⟩ = none := by
  rw [(exec_effect hexec).tunnelSessions]
  cases c with
  | tunnelSessions op =>
      by_contra hback
      rcases MapOp.isSome_apply (Option.isSome_iff_ne_none.2 hback) with hold | ⟨v, rfl⟩
      · rw [hgone] at hold
        cases hold
      · obtain ⟨j, v', r', hmem, -⟩ := any_binds_iff.1 hbound
        exact (hD.bound _ _ _ _ List.suffix_rfl).2.2 _ _ _ hmem
  | _ => exact hgone

/-- An entry was put there as it is. -/
theorem insert_of_present (hr : (machine S).Reach A (start rows users clock) cfg)
    {key : TunnelSessionKey} {v : Uuid × Uuid}
    (hentry : cfg.world.state.tunnelSessions.lookup key = some v) :
    ∃ i r, (⟨i, .tunnelSessions (.insert key v), r⟩ : Ev Tid Resp) ∈ cfg.world.trace := by
  refine server_inv (fun w => w.state.tunnelSessions.lookup key = some v →
    ∃ i r, (⟨i, .tunnelSessions (.insert key v), r⟩ : Ev Tid Resp) ∈ w.trace)
    (fun h => nomatch h) ?_ hr hentry
  intro cfg i c o r s _ hI hmay _ hexec hentry
  rw [World.push_state, (exec_effect hexec).tunnelSessions] at hentry
  have hold (h : cfg.world.state.tunnelSessions.lookup key = some v) :
      ∃ j r', (⟨j, .tunnelSessions (.insert key v), r'⟩ : Ev Tid Resp) ∈ ⟨i, c, r⟩ :: cfg.world.trace := by
    obtain ⟨j, r', hmem⟩ := hI h
    exact ⟨j, r', List.mem_cons_of_mem _ hmem⟩
  cases c with
  | tunnelSessions op =>
      rcases MapOp.lookup_apply hentry with h | rfl | ⟨f, old, rfl, -, -⟩
      · exact hold h
      · exact ⟨i, r, List.mem_cons_self⟩
      · exact absurd hmay May.not_modify
  | _ => exact hold hentry

/-- A session that is there was bound, to the client. -/
theorem Dedicated.bound_of_present (hr : (machine S).Reach A (start rows users clock) cfg)
    (hD : Dedicated k w n sid cid cfg.world.trace) {v : Uuid × Uuid}
    (hentry : cfg.world.state.tunnelSessions.lookup ⟨n, sid⟩ = some v) :
    v.1 = cid ∧ cfg.world.trace.any (binds ⟨n, sid⟩ cid) = true := by
  obtain ⟨i, r, hmem⟩ := insert_of_present hr hentry
  obtain ⟨past, hs⟩ := exists_past hmem
  obtain ⟨-, hv, -⟩ := hD.bound _ _ _ _ hs
  exact ⟨hv, any_binds_iff.2 ⟨i, v, r, hmem, hv⟩⟩

/-- So was one that is found. -/
theorem insert_of_get (hr : (machine S).Reach A (start rows users clock) cfg) {i : Tid}
    {key : TunnelSessionKey} {v : Uuid × Uuid} {past : List (Ev Tid Resp)}
    (hs : ⟨i, .tunnelSessions (.get key), some v⟩ :: past <:+ cfg.world.trace) :
    ∃ j r, (⟨j, .tunnelSessions (.insert key v), r⟩ : Ev Tid Resp) ∈ past := by
  refine server_events (fun past e => ∀ i key v,
    e = ⟨i, .tunnelSessions (.get key), some v⟩ →
      ∃ j r, (⟨j, .tunnelSessions (.insert key v), r⟩ : Ev Tid Resp) ∈ past) ?_ hr _ past hs i key v rfl
  intro cfg j c o r s hr _ _ hexec i key v heq
  cases heq
  have hget := exec_tunnelSessions_answer hexec
  simp only [MapOp.answer, Option.some.injEq] at hget
  exact insert_of_present hr hget

/-- It was bound by the handler of socket `k`, which had registered. -/
theorem Dedicated.registered (hr : (machine S).Reach A (start rows users clock) cfg)
    (hD : Dedicated k w n sid cid cfg.world.trace) {i : Tid} {v : Uuid × Uuid}
    {past : List (Ev Tid Resp)}
    (hs : ⟨i, .tunnelSessions (.get ⟨n, sid⟩), some v⟩ :: past <:+ cfg.world.trace) :
    Registered past k n := by
  obtain ⟨j, r, hins⟩ := insert_of_get hr hs
  obtain ⟨before, hbefore⟩ := exists_past hins
  have hbefore' := hbefore.trans ((List.suffix_cons _ _).trans hs)
  obtain ⟨rfl, -, -⟩ := hD.bound _ _ _ _ hbefore'
  obtain ⟨k', n', m, protocol, cid', sid', msgId, h', hk, hserving, hkey, -⟩ :=
    (may_of_event hr hbefore').bind
  cases hk
  cases hkey
  exact hserving.registered_trace.mono ((List.suffix_cons _ _).trans hbefore)

/-! ## The stage -/

/-- The task has just found the node behind socket `k`. -/
def Cleared (k : Nat) (h : Hist Resp) : Prop :=
  ∃ m info h', h = ⟨.nodes (.get m), some info⟩ :: h' ∧ info.tx = k

/-- No input for the session gets through any more: its socket's queue is closed, its node is behind
another socket or gone, or it is unbound, and what has passed that point is dealt with. -/
inductive Refusing (k w : Nat) (n : Uuid) (sid : UInt32) (cid : Uuid) (W : World State Tid Resp) : Prop
  | closed (hclosed : (W.state.nodeChans k).closed = true)
  | away (hreg : Registered W.trace k n)
      (haway : (W.state.nodes.lookup n).map NodeConnection.tx ≠ some k)
      (hlate : ¬ Cleared k (own (.web w) W.trace))
  | unbound (hbound : W.trace.any (binds ⟨n, sid⟩ cid) = true)
      (hgone : W.state.tunnelSessions.lookup ⟨n, sid⟩ = none)
      (hlate : crossing cid sid (own (.web w) W.trace) = none)

/-- A step on the way from the browser to the node's queue: what is looked up is handed on to the
queue, stays in transit, or is dropped for good. -/
def Conveys (k w : Nat) (n : Uuid) (sid : UInt32) (cid : Uuid) (W : World State Tid Resp) (i : Tid)
    (c : Cmd) (r : Resp c) (s : State) : Prop :=
  Passes (crossing cid sid (own (.web w) W.trace)).toList
    (crossing cid sid (own (.web w) (⟨i, c, r⟩ :: W.trace))).toList
    (typed w cid ⟨n, sid⟩ W.trace ⟨i, c, r⟩)
    ((queued k W.trace ⟨i, c, r⟩).filterMap (·.input cid sid))
    (Refusing k w n sid cid W) (Refusing k w n sid cid (W.push i c r s))

/-- What a task that finds a session for its client has found. -/
theorem Dedicated.key_eq {tr : List (Ev Tid Resp)} (hD : Dedicated k w n sid cid tr) {i : Tid}
    {key : TunnelSessionKey} {v : Uuid × Uuid}
    (hmem : (⟨i, .tunnelSessions (.get key), some v⟩ : Ev Tid Resp) ∈ tr)
    (hsid : key.sid = sid) (hv : v.1 = cid) : key = ⟨n, sid⟩ := by
  obtain ⟨m, sid'⟩ := key
  obtain rfl : sid' = sid := hsid
  rw [hD.found i m v hmem hv]

/-- A session is looked up for the frame that was just read. -/
theorem WebMay.looksUp {i : Nat} {h : Hist Resp} {key : TunnelSessionKey}
    (hm : WebMay S i h (.tunnelSessions (.get key))) :
    ∃ cid m f target g h', LoggedIn S h cid ∧ h = ⟨.ws .next, m⟩ :: h' ∧ m.webFrame? = some f ∧
      relayed cid f = some (target, key.sid, g) := by
  rcases hm with hc | ⟨cid, hl, hc⟩
  · cases hc
  · cases hc with
    | lookup hm hf => exact ⟨cid, _, _, _, _, _, hl, rfl, hm, hf⟩

/-- What a lookup of the task of web socket `w` finds in transit is the input it has just read,
if the session is its client's. -/
theorem Dedicated.crossing_of_found (hD : Dedicated k w n sid cid cfg.world.trace)
    {key : TunnelSessionKey} (hmay : WebMay S w (own (.web w) cfg.world.trace)
      (.tunnelSessions (.get key))) {m : Uuid} :
    crossing cid sid
        (⟨.tunnelSessions (.get key), some (cid, m)⟩ :: own (.web w) cfg.world.trace) =
      if key.sid = sid then justTyped sid (own (.web w) cfg.world.trace) else none := by
  obtain ⟨cid', m', f, target, g, h', hl, hown, hm, hf⟩ := hmay.looksUp
  obtain rfl := hD.named cid' hl.drew
  have htransit : inTransit cid' (⟨.tunnelSessions (.get key), some (cid', m)⟩ ::
      ⟨.ws .next, m'⟩ :: h') = some g := by
    rw [inTransit, if_pos rfl, hm, Option.bind_some, hf]
    rfl
  rw [hown, crossing, htransit, Option.bind_some, justTyped, hm, Option.bind_some]
  split
  · exact input_of_relayed hf
  · next hsid =>
      refine input_of_not_addressee fun hg => hsid ?_
      rw [addressee_of_relayed hf, Option.some.injEq, Prod.mk.injEq] at hg
      exact hg.2

/-- **It stays so.** -/
theorem Refusing.step (hr : (machine S).Reach A (start rows users clock) cfg) {i : Tid} {c : Cmd}
    {o : Choice} {r : Resp c} {s : State} (hmay : May S i (own i cfg.world.trace) c)
    (hD : Dedicated k w n sid cid (⟨i, c, r⟩ :: cfg.world.trace))
    (hexec : exec S i c o cfg.world.state = some (r, s)) (h : Refusing k w n sid cid cfg.world) :
    Refusing k w n sid cid (cfg.world.push i c r s) := by
  cases h with
  | closed hclosed => exact .closed (exec_closed hexec hclosed)
  | away hreg haway hlate =>
      refine .away (hreg.mono (List.suffix_cons _ _)) (away_step hmay hexec hreg haway) ?_
      rw [World.push_trace]
      by_cases hi : i = .web w
      · subst hi
        rw [own_cons_self]
        rintro ⟨m, info, h', heq, rfl⟩
        -- it would have found the socket under another node
        obtain ⟨hcmd, -⟩ := List.cons.inj heq
        cases hcmd
        have hget := exec_nodes_answer hexec
        simp only [MapOp.answer, Option.some.injEq] at hget
        obtain rfl := registered_unique hr hreg (registered_of_node hr m info hget)
        exact haway (by rw [hget]; rfl)
      · rwa [own_cons_of_ne hi]
  | unbound hbound hgone hlate =>
      refine .unbound ?_ (hD.unbound_step hexec hbound hgone) ?_
      · rw [World.push_trace, List.any_cons, hbound, Bool.or_true]
      · rw [World.push_trace]
        by_cases hi : i = .web w
        · subst hi
          rw [own_cons_self]
          by_contra hsome
          obtain ⟨key, m, heq⟩ := crossing_cons (Option.isSome_iff_ne_none.2 hsome) hlate
          cases heq
          have hget := exec_tunnelSessions_answer hexec
          simp only [MapOp.answer, Option.some.injEq] at hget
          have hD' := hD.mono _ _ (List.suffix_cons _ _)
          rw [hD'.crossing_of_found hmay] at hsome
          split at hsome
          · next hsid =>
              rw [hD.key_eq List.mem_cons_self hsid rfl, hgone] at hget
              cases hget
          · exact hsome rfl
        · rwa [own_cons_of_ne hi]

/-- With input in transit, the task looks up the node of the session. -/
theorem Dedicated.finds (hr : (machine S).Reach A (start rows users clock) cfg)
    (hD : Dedicated k w n sid cid cfg.world.trace) {m : Uuid}
    (hmay : WebMay S w (own (.web w) cfg.world.trace) (.nodes (.get m)))
    (hcross : (crossing cid sid (own (.web w) cfg.world.trace)).isSome = true) :
    m = n ∧ (⟨.web w, .tunnelSessions (.get ⟨n, sid⟩), some (cid, n)⟩ : Ev Tid Resp)
      ∈ cfg.world.trace := by
  rcases hmay with hc | ⟨cid', hl, hc⟩
  · generalize own (.web w) cfg.world.trace = h at hc
    cases hc
  · obtain rfl := hD.named cid' hl.drew
    generalize hown : own (.web w) cfg.world.trace = h at hc hcross
    cases hc with
    | findTarget => cases hcross
    | @findNode h m' f target sid' g t n' hm hf =>
        have hmem : (⟨.web w, .tunnelSessions (.get ⟨t, sid'⟩), some (cid', m)⟩ : Ev Tid Resp)
            ∈ cfg.world.trace := by
          rw [← mem_own, hown]
          exact List.mem_cons_self
        have htransit : inTransit cid' (⟨.tunnelSessions (.get ⟨t, sid'⟩), some (cid', m)⟩ ::
            ⟨.ws .next, m'⟩ :: h) = some g := by
          rw [inTransit, if_pos rfl, hm, Option.bind_some, hf]
          rfl
        rw [crossing, htransit, Option.bind_some] at hcross
        have haddr := (addressee_of_relayed hf).symm.trans (addressee_of_input hcross)
        rw [Option.some.injEq, Prod.mk.injEq] at haddr
        obtain ⟨-, rfl⟩ := haddr
        obtain ⟨rfl, -⟩ := opened_of_get hr hmem
        cases hD.key_eq hmem rfl rfl
        exact ⟨rfl, hmem⟩

/-- What another task does passes nothing. -/
theorem Dedicated.conveys_of_other (hr : (machine S).Reach A (start rows users clock) cfg) {i : Tid}
    {c : Cmd} {o : Choice} {r : Resp c} {s : State} (hmay : May S i (own i cfg.world.trace) c)
    (hD : Dedicated k w n sid cid (⟨i, c, r⟩ :: cfg.world.trace))
    (hexec : exec S i c o cfg.world.state = some (r, s)) (hi : i ≠ .web w) :
    Conveys k w n sid cid cfg.world i c r s := by
  have htook : typed w cid ⟨n, sid⟩ cfg.world.trace ⟨i, c, r⟩ = [] := by
    unfold typed
    split
    · next heq =>
        cases heq
        exact if_neg fun hj => hi (by rw [hj.1])
    · rfl
  have hgave : (queued k cfg.world.trace ⟨i, c, r⟩).filterMap (·.input cid sid) = [] := by
    rw [List.filterMap_eq_nil_iff]
    intro g hg
    by_contra hsome
    have haddr := addressee_of_input (Option.isSome_iff_ne_none.2 hsome)
    cases c with
    | node op =>
        cases op with
        | send y g' =>
            have hg : g ∈ (ChanOp.send y g').puts k r := hg
            obtain ⟨-, rfl, -⟩ := ChanOp.mem_puts_iff.1 hg
            obtain ⟨j, m, f, target, t, n', info, h', rfl, hl, -⟩ := hmay.forwards haddr
            have hdrew : Drew cfg.world.trace j cid := hl.drew
            exact hi (by rw [hD.client j (hdrew.mono (List.suffix_cons _ _))])
        | trySend => exact absurd hmay May.not_trySend
        | recv | close => cases hg
    | _ => cases hg
  rw [Conveys, htook, hgave, own_cons_of_ne hi]
  exact .idle (Refusing.step hr hmay hD hexec)

/-! ### Sending on -/

section Forward

variable {m : Incoming} {f : WebFrameData} {target : String} {sid' : UInt32} {g : NodeFrameData}
  {t n' : Uuid} {info : NodeConnection} {h : Hist Resp} {r : Bool}
  (hm : m.webFrame? = some f) (hf : relayed cid f = some (target, sid', g))
  (hown : own (.web w) cfg.world.trace = ⟨.nodes (.get n'), some info⟩ ::
    ⟨.tunnelSessions (.get ⟨t, sid'⟩), some (cid, n')⟩ :: ⟨.ws .next, m⟩ :: h)

include hm hf hown in
/-- The frame to be sent is the one in transit. -/
theorem crossing_of_forward : crossing cid sid (own (.web w) cfg.world.trace) = g.input cid sid := by
  have htransit : inTransit cid (own (.web w) cfg.world.trace) = some g := by
    rw [hown]
    show inTransit cid (⟨.tunnelSessions (.get ⟨t, sid'⟩), some (cid, n')⟩ ::
      ⟨.ws .next, m⟩ :: h) = some g
    rw [inTransit, if_pos rfl, hm, Option.bind_some, hf]
    rfl
  rw [crossing, htransit, Option.bind_some]

include hf hown in
/-- If it carries input, the node found is the session's, and socket `k` had registered it. -/
theorem Dedicated.found_of_input (hr : (machine S).Reach A (start rows users clock) cfg)
    (hD : Dedicated k w n sid cid cfg.world.trace) (hin : (g.input cid sid).isSome = true) :
    ∃ past, ⟨.web w, .nodes (.get n), some info⟩ :: past <:+ cfg.world.trace ∧
      Registered past k n := by
  have haddr := (addressee_of_relayed hf).symm.trans (addressee_of_input hin)
  rw [Option.some.injEq, Prod.mk.injEq] at haddr
  obtain ⟨-, rfl⟩ := haddr
  obtain ⟨past, hs, hpast⟩ := exists_past_of_own (by rw [hown])
  have hfound : ⟨.tunnelSessions (.get ⟨t, sid'⟩), some (cid, n')⟩ :: ⟨.ws .next, m⟩ :: h <:+
      own (.web w) past := by
    rw [hpast]
  obtain ⟨before, hbefore', -⟩ := exists_past_of_own hfound
  have hbefore := hbefore'.trans ((List.suffix_cons _ _).trans hs)
  have hmem := hbefore.subset List.mem_cons_self
  obtain ⟨rfl, -⟩ := opened_of_get hr hmem
  cases hD.key_eq hmem rfl rfl
  exact ⟨past, hs, (hD.registered hr hbefore).mono ((List.suffix_cons _ _).trans hbefore')⟩

theorem queued_send {y : Nat} : queued k cfg.world.trace ⟨.web w, .node (.send y g), r⟩ =
    if y = k ∧ r = true then [g] else [] := rfl

/-- Input that was put into the queue of socket `k` was not refused. -/
theorem not_refusing_of_sent {o : Choice} {s : State} (hin : (g.input cid sid).isSome = true)
    (hcross : crossing cid sid (own (.web w) cfg.world.trace) = g.input cid sid)
    (hfound : Cleared info.tx (own (.web w) cfg.world.trace))
    (hexec : exec S (.web w) (.node (.send info.tx g)) o cfg.world.state = some (true, s)) :
    ¬ Refusing info.tx w n sid cid cfg.world := by
  rintro (hclosed | ⟨-, -, hlate⟩ | ⟨-, -, hlate⟩)
  · obtain ⟨⟨answer, chans⟩, hchan, hx⟩ := Option.map_eq_some_iff.1 hexec
    cases hx
    have hnone := ChanOp.puts_of_closed hchan hclosed
    rw [ChanOp.puts, if_pos ⟨rfl, rfl⟩] at hnone
    cases hnone
  · exact hlate hfound
  · rw [hcross] at hlate
    rw [hlate] at hin
    cases hin

/-- A queue that does not take a frame is closed. -/
theorem refusing_of_unsent {o : Choice} {s : State}
    (hexec : exec S (.web w) (.node (.send k g)) o cfg.world.state = some (false, s)) :
    Refusing k w n sid cid (cfg.world.push (.web w) (.node (.send k g)) false s) := by
  obtain ⟨⟨answer, chans⟩, hchan, hx⟩ := Option.map_eq_some_iff.1 hexec
  cases hx
  exact .closed (ChanOp.closed_of_send hchan)

/-- A node that was found behind another socket is not behind `k` any more. -/
theorem refusing_of_elsewhere (hr : (machine S).Reach A (start rows users clock) cfg) {o : Choice}
    {s : State} {past : List (Ev Tid Resp)} {y : Nat}
    (hmay : May S (.web w) (own (.web w) cfg.world.trace) (.node (.send y g)))
    (hexec : exec S (.web w) (.node (.send y g)) o cfg.world.state = some (r, s))
    (hs : ⟨.web w, .nodes (.get n), some info⟩ :: past <:+ cfg.world.trace)
    (hreg : Registered past k n) (htx : info.tx ≠ k) :
    Refusing k w n sid cid (cfg.world.push (.web w) (.node (.send y g)) r s) := by
  have hreg' := hreg.mono ((List.suffix_cons _ _).trans hs)
  refine .away (hreg'.mono (List.suffix_cons _ _)) ?_ ?_
  · exact away_step hmay hexec hreg' (away_since hr hs hreg fun h => htx (Option.some.inj h))
  · rw [World.push_trace, own_cons_self]
    rintro ⟨_, _, _, heq, -⟩
    cases heq

include hm hf hown in
/-- The task sends on what is in transit, and drops it only when the session is refused. -/
theorem Dedicated.conveys_of_forward (hr : (machine S).Reach A (start rows users clock) cfg)
    {o : Choice} {s : State}
    (hD : Dedicated k w n sid cid (⟨.web w, .node (.send info.tx g), r⟩ :: cfg.world.trace))
    (hmay : May S (.web w) (own (.web w) cfg.world.trace) (.node (.send info.tx g)))
    (hexec : exec S (.web w) (.node (.send info.tx g)) o cfg.world.state = some (r, s)) :
    Conveys k w n sid cid cfg.world (.web w) (.node (.send info.tx g)) r s := by
  have hstays := Refusing.step hr hmay hD hexec
  have hD := hD.mono _ _ (List.suffix_cons _ _)
  have hcross : crossing cid sid (own (.web w) cfg.world.trace) = g.input cid sid :=
    crossing_of_forward hm hf hown
  have hafter : crossing cid sid
      (⟨.node (.send info.tx g), r⟩ :: own (.web w) cfg.world.trace) = none := by
    rw [crossing, inTransit_of_sent hf, Option.bind_none]
  rw [Conveys, own_cons_self, hafter, hcross, queued_send]
  cases hin : g.input cid sid with
  | none =>
      have hgave : (if info.tx = k ∧ r = true then [g] else []).filterMap (·.input cid sid) = [] := by
        split <;> simp [hin]
      rw [hgave]
      exact .idle hstays
  | some data =>
      have hsome := Option.isSome_of_eq_some hin
      obtain ⟨past, hs, hreg⟩ := hD.found_of_input hf hown hr hsome
      by_cases htx : info.tx = k
      · subst htx
        cases r with
        | true =>
            rw [if_pos ⟨rfl, rfl⟩, List.filterMap_cons_some hin, List.filterMap_nil]
            refine ⟨.inl rfl, fun hd => absurd hd ?_⟩
            exact not_refusing_of_sent hsome hcross ⟨_, info, _, hown, rfl⟩ hexec
        | false =>
            rw [if_neg (by simp)]
            exact ⟨.inr ⟨refusing_of_unsent hexec, rfl⟩, fun hd => ⟨hstays hd, rfl⟩⟩
      · rw [if_neg fun h => htx h.1]
        exact ⟨.inr ⟨refusing_of_elsewhere hr hmay hexec hs hreg htx, rfl⟩,
          fun hd => ⟨hstays hd, rfl⟩⟩

end Forward

/-! ### The task of the browser -/

section Task

variable {o : Choice} {s : State}

/-- It looks up the session of the input it has just read: the input is in transit then, and
nowhere if the session was unbound. -/
theorem Dedicated.conveys_of_lookup (hr : (machine S).Reach A (start rows users clock) cfg)
    {key : TunnelSessionKey} {r : Option (Uuid × Uuid)}
    (hD : Dedicated k w n sid cid (⟨.web w, .tunnelSessions (.get key), r⟩ :: cfg.world.trace))
    (hmay : WebMay S w (own (.web w) cfg.world.trace) (.tunnelSessions (.get key)))
    (hexec : exec S (.web w) (.tunnelSessions (.get key)) o cfg.world.state = some (r, s)) :
    Conveys k w n sid cid cfg.world (.web w) (.tunnelSessions (.get key)) r s := by
  have hstays := Refusing.step hr (i := .web w) hmay hD hexec
  have hD' := hD.mono _ _ (List.suffix_cons _ _)
  obtain ⟨cid', m', f, target, g, h', -, hown, -, -⟩ := hmay.looksUp
  have hempty : crossing cid sid (own (.web w) cfg.world.trace) = none := by
    rw [hown]
    rfl
  have hsame : s.tunnelSessions = cfg.world.state.tunnelSessions :=
    (exec_effect hexec).tunnelSessions
  have hget := exec_tunnelSessions_answer hexec
  simp only [MapOp.answer, Option.some.injEq] at hget
  rw [Conveys, own_cons_self, hempty]
  refine ⟨?_, fun hd => ⟨hstays hd, rfl⟩⟩
  cases r with
  | none =>
      by_cases hbound : key = ⟨n, sid⟩ ∧ cfg.world.trace.any (binds ⟨n, sid⟩ cid) = true
      · obtain ⟨rfl, hbound⟩ := hbound
        refine .inr ⟨.unbound ?_ ?_ ?_, rfl⟩
        · rw [World.push_trace, List.any_cons, hbound, Bool.or_true]
        · rw [World.push_state, hsame, hget]
        · rw [World.push_trace, own_cons_self]
          rfl
      · rw [typed, if_neg fun h => hbound h.2]
        exact .inl rfl
  | some v =>
      obtain ⟨owner, m⟩ := v
      refine .inl ?_
      by_cases howner : owner = cid
      · subst howner
        rw [hD'.crossing_of_found hmay]
        split
        · next hsid =>
            obtain rfl := hD.key_eq List.mem_cons_self hsid rfl
            rw [typed, if_pos ⟨rfl, rfl, (hD'.bound_of_present hr hget).2⟩]
            rfl
        · next hsid =>
            rw [typed, if_neg fun h => hsid (by rw [h.2.1])]
            rfl
      · rw [crossing, inTransit_of_other howner, typed, if_neg]
        · rfl
        · rintro ⟨-, rfl, -⟩
          exact howner (hD'.bound_of_present hr hget).1

/-- It looks up the node of the session, and drops the input if that is gone. -/
theorem Dedicated.conveys_of_nodes (hr : (machine S).Reach A (start rows users clock) cfg)
    {m : Uuid} {r : Option NodeConnection}
    (hD : Dedicated k w n sid cid (⟨.web w, .nodes (.get m), r⟩ :: cfg.world.trace))
    (hmay : WebMay S w (own (.web w) cfg.world.trace) (.nodes (.get m)))
    (hexec : exec S (.web w) (.nodes (.get m)) o cfg.world.state = some (r, s)) :
    Conveys k w n sid cid cfg.world (.web w) (.nodes (.get m)) r s := by
  have hstays := Refusing.step hr (i := .web w) hmay hD hexec
  rw [Conveys, own_cons_self]
  cases r with
  | some info => exact .idle hstays
  | none =>
      cases hcross : crossing cid sid (own (.web w) cfg.world.trace) with
      | none => exact .idle hstays
      | some data =>
          have hD' := hD.mono _ _ (List.suffix_cons _ _)
          obtain ⟨rfl, hfound⟩ := hD'.finds hr hmay (Option.isSome_of_eq_some hcross)
          have hget := exec_nodes_answer hexec
          simp only [MapOp.answer, Option.some.injEq] at hget
          obtain ⟨past, hs⟩ := exists_past hfound
          have hreg := (hD'.registered hr hs).mono ((List.suffix_cons _ _).trans hs)
          refine ⟨.inr ⟨.away (hreg.mono (List.suffix_cons _ _)) ?_ ?_, rfl⟩,
            fun hd => ⟨hstays hd, rfl⟩⟩
          · refine away_step (show May S (.web w) _ _ from hmay) hexec hreg ?_
            simp [hget]
          · rw [World.push_trace, own_cons_self]
            rintro ⟨_, _, _, heq, -⟩
            cases heq

/-- It sends a frame to a node: the one in transit, or one that carries no input. -/
theorem Dedicated.conveys_of_send (hr : (machine S).Reach A (start rows users clock) cfg)
    {y : Nat} {g : NodeFrameData} {r : Bool}
    (hD : Dedicated k w n sid cid (⟨.web w, .node (.send y g), r⟩ :: cfg.world.trace))
    (hmay : WebMay S w (own (.web w) cfg.world.trace) (.node (.send y g)))
    (hexec : exec S (.web w) (.node (.send y g)) o cfg.world.state = some (r, s)) :
    Conveys k w n sid cid cfg.world (.web w) (.node (.send y g)) r s := by
  have hstays := Refusing.step hr (i := .web w) hmay hD hexec
  have hnothing (hin : g.input cid sid = none) :
      (queued k cfg.world.trace ⟨.web w, .node (.send y g), r⟩).filterMap
        (·.input cid sid) = [] := by
    rw [queued_send]
    split <;> simp [hin]
  have hmay' : May S (.web w) (own (.web w) cfg.world.trace) (.node (.send y g)) := hmay
  rcases hmay with hc | ⟨cid', hl, hc⟩
  · generalize own (.web w) cfg.world.trace = h at hc
    cases hc
  · obtain rfl := (hD.mono _ _ (List.suffix_cons _ _)).named cid' hl.drew
    generalize hown : own (.web w) cfg.world.trace = h at hc
    cases hc with
    | openTunnel | disconnect =>
        rw [Conveys, own_cons_self, hnothing rfl, hown]
        exact .idle hstays
    | forward hm hf => exact hD.conveys_of_forward hm hf hown hr hmay' hexec

/-- It reads the next message, with nothing in transit. -/
theorem Dedicated.conveys_of_read (hr : (machine S).Reach A (start rows users clock) cfg)
    {m : Incoming}
    (hD : Dedicated k w n sid cid (⟨.web w, .ws .next, m⟩ :: cfg.world.trace))
    (hmay : WebMay S w (own (.web w) cfg.world.trace) (.ws .next))
    (hexec : exec S (.web w) (.ws .next) o cfg.world.state = some (m, s)) :
    Conveys k w n sid cid cfg.world (.web w) (.ws .next) m s := by
  have hstays := Refusing.step hr (i := .web w) hmay hD hexec
  have hempty : crossing cid sid (own (.web w) cfg.world.trace) = none := by
    rcases hmay with hc | ⟨cid', hl, hc⟩
    · generalize own (.web w) cfg.world.trace = h at hc
      cases hc
      rfl
    · obtain rfl := (hD.mono _ _ (List.suffix_cons _ _)).named cid' hl.drew
      generalize own (.web w) cfg.world.trace = h at hc
      cases hc with
      | next hsent =>
          rw [crossing, hsent]
          rfl
  rw [Conveys, own_cons_self, hempty]
  exact .idle hstays

end Task

/-- **What is forwarded is a beginning of what is looked up**, and all of it but what is in transit
unless the session is refused. -/
theorem typed_queued (hT : ∀ W i c r, A W i c r → Dedicated k w n sid cid (⟨i, c, r⟩ :: W.trace))
    (hr : (machine S).Reach A (start rows users clock) cfg) :
    Relays (stream (typed w cid ⟨n, sid⟩) cfg.world.trace)
      (stream (fun past e => (queued k past e).filterMap (·.input cid sid)) cfg.world.trace)
      (crossing cid sid (own (.web w) cfg.world.trace)).toList (Refusing k w n sid cid cfg.world) := by
  refine hr.relays server_follows (fun _ _ _ _ _ => trivial) (typed w cid ⟨n, sid⟩)
    (fun past e => (queued k past e).filterMap (·.input cid sid))
    (fun W => (crossing cid sid (own (.web w) W.trace)).toList)
    (fun W => Refusing k w n sid cid W) rfl rfl ?_
  intro cfg i c o r s hr hmay hAi hexec
  have hD := hT _ _ _ _ hAi
  by_cases hi : i = .web w
  swap
  · exact hD.conveys_of_other hr hmay hexec hi
  subst hi
  change May S (.web w) (own (.web w) cfg.world.trace) c at hmay
  change exec S (.web w) c o cfg.world.state = some (r, s) at hexec
  have hstays := Refusing.step hr hmay hD hexec
  change WebMay S w (own (.web w) cfg.world.trace) c at hmay
  -- a command that looks nothing up and sends nothing
  have hidle (hcross : crossing cid sid (⟨c, r⟩ :: own (.web w) cfg.world.trace) =
        crossing cid sid (own (.web w) cfg.world.trace))
      (htyped : typed w cid ⟨n, sid⟩ cfg.world.trace ⟨.web w, c, r⟩ = [])
      (hqueued : queued k cfg.world.trace ⟨.web w, c, r⟩ = []) :
      Conveys k w n sid cid cfg.world (.web w) c r s := by
    rw [Conveys, own_cons_self, hcross, htyped, hqueued]
    exact .idle hstays
  cases c with
  | tunnelSessions op =>
      cases op with
      | get key => exact hD.conveys_of_lookup hr hmay hexec
      | _ => exact hidle rfl rfl rfl
  | nodes op =>
      cases op with
      | get m => exact hD.conveys_of_nodes hr hmay hexec
      | _ => exact hidle rfl rfl rfl
  | node op =>
      cases op with
      | send y g => exact hD.conveys_of_send hr hmay hexec
      | trySend => exact absurd (show May S (.web w) _ _ from hmay) May.not_trySend
      | _ => exact hidle rfl rfl rfl
  | ws op =>
      cases op with
      | next => exact hD.conveys_of_read hr hmay hexec
      | _ => exact hidle rfl rfl rfl
  | _ => exact hidle rfl rfl rfl

/-! ## The queue and its writer -/

/-- A tunnel is asked for of a node that was just found. -/
theorem May.requests {i : Tid} {h : Hist Resp} {k : Nat} {protocol : UInt8} {cid : Uuid}
    {username password : Option String} {msgId : Option UInt32}
    (hm : May S i h (.node (.send k (.openTunnel protocol cid username password msgId)))) :
    ∃ n info h', h = ⟨.nodes (.get n), some info⟩ :: h' ∧ info.tx = k := by
  obtain ⟨j, rfl, hc | ⟨cid', -, hc⟩⟩ := hm.byWeb rfl
  · cases hc
  · cases hc with
    | forward _ hf => cases (addressee_of_relayed hf)
    | openTunnel => exact ⟨_, _, _, rfl, rfl⟩

/-- **The queue keeps its order.** -/
theorem queued_dequeued (hr : (machine S).Reach A (start rows users clock) cfg) (k : Nat) :
    stream (queued k) cfg.world.trace =
      stream (dequeued k) cfg.world.trace ++ (cfg.world.state.nodeChans k).queue := by
  refine (hr.relays server_follows (fun _ _ _ _ _ => trivial) (queued k) (dequeued k)
    (fun W => (W.state.nodeChans k).queue) (fun _ => False) rfl rfl ?_).exact
  intro cfg i c o r s _ _ _ hexec
  change exec S i c o cfg.world.state = some (r, s) at hexec
  refine ⟨.inl ?_, False.elim⟩
  by_cases hnode : ∃ op, c = .node op
  · obtain ⟨op, rfl⟩ := hnode
    obtain ⟨x, hchan, hx⟩ := Option.map_eq_some_iff.1 hexec
    cases hx
    exact (ChanOp.queue_exec hchan).symm
  · have hne (op : ChanOp NodeFrameData) : c ≠ .node op := fun heq => hnode ⟨op, heq⟩
    have hputs : queued k cfg.world.trace ⟨i, c, r⟩ = [] := by
      cases c with
      | node op => exact absurd rfl (hne op)
      | _ => rfl
    have htakes : dequeued k cfg.world.trace ⟨i, c, r⟩ = [] := by
      cases c with
      | node op => exact absurd rfl (hne op)
      | _ => rfl
    rw [hputs, htakes, World.push_state, exec_nodeChans_of_ne hexec hne]
    exact List.append_nil _

/-- What the writer of socket `k` takes, it has in hand until it sends it. -/
theorem inHand_cons {h : Hist Resp} {c : Cmd} {r : Resp c} (hnode : ∀ j, c ≠ .node (.recv j))
    (hws : ∀ f, c ≠ .ws (.send f)) : inHand (⟨c, r⟩ :: h) = inHand h := by
  cases c with
  | node op =>
      cases op with
      | recv j => exact absurd rfl (hnode j)
      | send | trySend | close => rfl
  | ws op =>
      cases op with
      | send f => exact absurd rfl (hws f)
      | next | close => rfl
  | _ => rfl

/-- The queue of a node is read by the writer of its socket, with nothing in hand. -/
theorem May.dequeues {i : Tid} {h : Hist Resp} {k : Nat} (hm : May S i h (.node (.recv k))) :
    i = .nodeWriter k ∧ inHand h = none := by
  cases i with
  | nodeWriter j =>
      cases hm with
      | recv hidle => exact ⟨rfl, hidle⟩
  | web j => rcases hm with hc | ⟨_, -, hc⟩ <;> cases hc
  | node j => cases hm with | login _ hc | loop _ _ hc | close _ _ hc => cases hc
  | request q => cases hm with | create _ hc | verify _ hc | heartbeat _ hc => cases hc
  | _ => cases hm

/-- **The writer sends what it takes**, and has the last of it in hand. -/
theorem dequeued_sent (hr : (machine S).Reach A (start rows users clock) cfg) (k : Nat) :
    stream (dequeued k) cfg.world.trace =
      stream (sent k) cfg.world.trace ++ (inHand (own (.nodeWriter k) cfg.world.trace)).toList := by
  refine (hr.relays server_follows (fun _ _ _ _ _ => trivial) (dequeued k) (sent k)
    (fun W => (inHand (own (.nodeWriter k) W.trace)).toList) (fun _ => False) rfl rfl ?_).exact
  intro cfg i c o r s _ hmay _ _
  change May S i (own i cfg.world.trace) c at hmay
  refine ⟨.inl ?_, False.elim⟩
  rw [World.push_trace]
  by_cases hrecv : ∃ j, c = .node (.recv j)
  · obtain ⟨j, rfl⟩ := hrecv
    obtain ⟨rfl, hidle⟩ := hmay.dequeues
    by_cases hj : j = k
    · subst hj
      rw [own_cons_self, hidle]
      simp [dequeued, ChanOp.takes, sent, inHand]
    · have hne : Tid.nodeWriter j ≠ .nodeWriter k := fun heq => hj (Tid.nodeWriter.inj heq)
      rw [own_cons_of_ne hne]
      simp [dequeued, ChanOp.takes, sent, hj]
  · have htook : dequeued k cfg.world.trace ⟨i, c, r⟩ = [] := by
      cases c with
      | node op =>
          cases op with
          | recv j => exact absurd ⟨j, rfl⟩ hrecv
          | send | trySend | close => rfl
      | _ => rfl
    rw [htook, List.append_nil]
    by_cases hi : i = .nodeWriter k
    · subst hi
      rw [own_cons_self]
      by_cases hsend : ∃ f, c = .ws (.send f)
      · obtain ⟨f, rfl⟩ := hsend
        change NodeWriterMay k (own (.nodeWriter k) cfg.world.trace) _ at hmay
        generalize own (.nodeWriter k) cfg.world.trace = h at hmay
        cases hmay with
        | send => cases r <;> simp [sent, Frame.ofNode, inHand]
      · have hgave : sent k cfg.world.trace ⟨.nodeWriter k, c, r⟩ = [] := by
          cases c with
          | ws op =>
              cases op with
              | send f => exact absurd ⟨f, rfl⟩ hsend
              | next | close => rfl
          | _ => rfl
        rw [hgave, inHand_cons (fun j heq => hrecv ⟨j, heq⟩) fun f heq => hsend ⟨f, heq⟩]
        rfl
    · have hgave : sent k cfg.world.trace ⟨i, c, r⟩ = [] := by
        unfold sent
        split
        · next heq =>
            cases heq
            exact if_neg fun heq => hi (by rw [heq])
        · rfl
      rw [hgave, own_cons_of_ne hi]
      rfl

/-- **What goes out to the node** of a session's input is a beginning of what was looked up. -/
theorem typed_sent (hT : ∀ W i c r, A W i c r → Dedicated k w n sid cid (⟨i, c, r⟩ :: W.trace))
    (hr : (machine S).Reach A (start rows users clock) cfg) :
    (stream (sent k) cfg.world.trace).filterMap (·.input cid sid) <+:
      stream (typed w cid ⟨n, sid⟩) cfg.world.trace := by
  have hqueued := (typed_queued hT hr).isPrefix
  rw [← filterMap_stream, queued_dequeued hr k, dequeued_sent hr k, List.append_assoc,
    List.filterMap_append] at hqueued
  exact (List.prefix_append _ _).trans hqueued

end Input

end Phirepass.Server
