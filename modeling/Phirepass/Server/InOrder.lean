/-
# `Phirepass.Server.InOrder` — what passes through the server keeps its order

Two ways lead through the server, and each has a task that translates:

    asked w      → forwarded cid       the web socket's task, to any node
    readFrom k   → delivered k         the node socket's task, to any client

Either task reads a frame, decides whom it is for and puts a frame into one
queue, or it drops the frame.  So what it puts into queues, all queues taken
together, answers what it reads (`asked_forwarded`, `read_delivered`): nothing
is made up, reordered, sent twice or to two.  Behind either stands a queue
with its writer, which keeps the order too (`webQueued_dequeued`,
`webSent_sublist`; for nodes see `Server.Input`).

What a node's task sends once it has left its loop is not an answer: it tells
clients that their sessions are closed.
-/
import Phirepass.Interleave.Answers
import Phirepass.Server.Input

namespace Phirepass.Server

open Rust Interleave

/-! ## What the events say -/

/-- The frames the task of web socket `w` reads. -/
def asked (w : Nat) (_ : List (Ev Tid Resp)) : Ev Tid Resp → List WebFrameData
  | ⟨.web j, .ws .next, m⟩ => if j = w then (Incoming.webFrame? m).toList else []
  | _ => []

/-- What is put into the queues of node sockets on behalf of the client `cid`. -/
def forwarded (cid : Uuid) (_ : List (Ev Tid Resp)) : Ev Tid Resp → List (Nat × NodeFrameData)
  | ⟨_, .node (.send k g), true⟩ => if forwardedFor g = some cid then [(k, g)] else []
  | _ => []

/-- What a frame of the client `cid` becomes on its way to the node it names; `reg` says which nodes
the sockets are registered for. -/
inductive Forwards (S : Setup) (reg : Nat → Uuid → Prop) (cid : Uuid) :
    Nat × NodeFrameData → WebFrameData → Prop
  | relayed {k : Nat} {f : WebFrameData} {target : String} {sid : UInt32} {g : NodeFrameData}
      {n : Uuid} (hf : relayed cid f = some (target, sid, g))
      (ht : S.crates.parseUuid target = .ok n) (hreg : reg k n) : Forwards S reg cid (k, g) f
  | openTunnel {k : Nat} {protocol : UInt8} {target : String} {username password : Option String}
      {msgId : Option UInt32} {n : Uuid} (ht : S.crates.parseUuid target = .ok n)
      (hreg : reg k n) :
      Forwards S reg cid (k, .openTunnel protocol cid username password msgId)
        (.openTunnel protocol target username password msgId)

/-- The frame the task has read and not sent on, while it looks for the node. -/
def unforwarded : Hist Resp → List WebFrameData
  | ⟨.ws .next, m⟩ :: _ => m.webFrame?.toList
  | ⟨.tunnelSessions (.get _), some _⟩ :: h | ⟨.nodes (.get _), some _⟩ :: h => unforwarded h
  | _ => []

/-- The frames the task of node socket `k` reads. -/
def readFrom (k : Nat) (_ : List (Ev Tid Resp)) : Ev Tid Resp → List NodeFrameData
  | ⟨.node j, .ws .next, m⟩ => if j = k then (Incoming.nodeFrame? m).toList else []
  | _ => []

/-- The writer was aborted, so the message loop was left. -/
def leftLoop (h : Hist Resp) : Bool :=
  h.any fun
    | ⟨.nodeWriter (.abort _), _⟩ => true
    | _ => false

/-- What the task of node socket `k` puts into the queues of clients, in its loop. -/
def delivered (k : Nat) (past : List (Ev Tid Resp)) : Ev Tid Resp → List (Nat × WebFrameData)
  | ⟨.node j, .web (.send x frame), true⟩ =>
      if j = k ∧ leftLoop (own (.node k) past) = false then [(x, frame)] else []
  | _ => []

/-- What a frame of a node becomes on its way to a client. -/
inductive Delivery : Nat × WebFrameData → NodeFrameData → Prop
  | opened {x : Nat} {protocol : UInt8} {cid : Uuid} {sid : UInt32} {msgId : Option UInt32} :
      Delivery (x, .tunnelOpened protocol sid msgId) (.tunnelOpened protocol cid sid msgId)
  | closed {x : Nat} {protocol : UInt8} {cid : Uuid} {sid : UInt32} {msgId : Option UInt32} :
      Delivery (x, .tunnelClosed protocol sid msgId) (.tunnelClosed protocol cid sid msgId)
  | frame {x : Nat} {frame : WebFrameData} {id : WebFrameId} :
      Delivery (x, frame) (.webFrame frame id)

/-- The frames put into the queue of web socket `x`. -/
def webQueued (x : Nat) (_ : List (Ev Tid Resp)) : Ev Tid Resp → List WebFrameData
  | ⟨_, .web op, r⟩ => op.puts x r
  | _ => []

/-- The frames taken out of it. -/
def webDequeued (x : Nat) (_ : List (Ev Tid Resp)) : Ev Tid Resp → List WebFrameData
  | ⟨_, .web op, r⟩ => op.takes x r
  | _ => []

/-- The frames its writer sends. -/
def webSent (x : Nat) (_ : List (Ev Tid Resp)) : Ev Tid Resp → List WebFrameData
  | ⟨.webWriter j, .ws (.send ⟨_, _, .web f⟩), true⟩ => if j = x then [f] else []
  | _ => []

/-- The frame the writer has just taken. -/
def inPen : Hist Resp → List WebFrameData
  | ⟨.web (.recv _), received⟩ :: _ => received.toList
  | _ => []

section History

variable {S : Setup} {w k : Nat} {cid : Uuid} {h : Hist Resp}

/-- Any other command keeps what is in hand or drops it. -/
theorem unforwarded_cons {c : Cmd} {r : Resp c} (hc : c ≠ .ws .next) :
    unforwarded (⟨c, r⟩ :: h) = unforwarded h ∨ unforwarded (⟨c, r⟩ :: h) = [] := by
  cases c with
  | ws op =>
      cases op with
      | next => exact absurd rfl hc
      | send | close => exact .inr rfl
  | tunnelSessions op =>
      cases op with
      | get key => cases r <;> first | exact .inl rfl | exact .inr rfl
      | _ => exact .inr rfl
  | nodes op =>
      cases op with
      | get n => cases r <;> first | exact .inl rfl | exact .inr rfl
      | _ => exact .inr rfl
  | _ => exact .inr rfl

theorem leftLoop_of_closing {n : Uuid} (hcl : Closing k n h) : leftLoop h = true := by
  obtain ⟨h', hsuf, -⟩ := hcl
  exact List.any_eq_true.2 ⟨_, hsuf.subset List.mem_cons_self, rfl⟩

/-- In its loop, a node's task sends a client what it has in hand. -/
theorem NodeMay.deliversLast {x : Nat} {frame : WebFrameData}
    (hm : NodeMay S k h (.web (.send x frame))) (hl : leftLoop h = false) :
    ∃ g, unanswered h = some g ∧ Delivery (x, frame) g := by
  cases hm with
  | login _ hc => cases hc
  | loop _ _ hc =>
      cases hc with
      | notify hn =>
          cases hn with
          | opened hm => exact ⟨_, by simp [unanswered, hm]; rfl, .opened⟩
          | closed hm => exact ⟨_, by simp [unanswered, hm]; rfl, .closed⟩
          | byConnection hm => exact ⟨_, by simp [unanswered, hm]; rfl, .frame⟩
          | bySession hm => exact ⟨_, by simp [unanswered, hm]; rfl, .frame⟩
  | close _ hcl _ =>
      rw [leftLoop_of_closing hcl] at hl
      cases hl

theorem unanswered_kept {c : Cmd} {r : Resp c} (hc : c ≠ .ws .next) :
    unanswered (⟨c, r⟩ :: h) = unanswered h ∨ unanswered (⟨c, r⟩ :: h) = none := by
  cases c with
  | ws op =>
      cases op with
      | next => exact absurd rfl hc
      | send | close => exact .inl rfl
  | connections op =>
      cases op with
      | get cid => cases r <;> first | exact .inl rfl | exact .inr rfl
      | _ => exact .inl rfl
  | web op =>
      cases op with
      | send x frame => exact .inr rfl
      | _ => exact .inl rfl
  | tunnelSessions op =>
      cases op with
      | get key =>
          match r with
          | none => exact .inr rfl
          | some (cid, n) =>
              rw [unanswered]
              split
              · exact .inl rfl
              · exact .inr rfl
      | _ => exact .inl rfl
  | _ => exact .inl rfl

theorem routed_eq {g g' : NodeFrameData} (h : routed g = some g') : g' = g := by
  cases g <;> cases h <;> rfl

end History

section InOrder

variable {S : Setup} {A : Restriction} {rows : DashMap Uuid NodeRow} {users : List Uuid}
  {clock : Time} {cfg : Config State Tid Resp Label} {w k x : Nat} {cid : Uuid}

/-- Stages of the server. -/
theorem server_answers {β γ : Type} {Q : γ → β → Prop}
    (taken : List (Ev Tid Resp) → Ev Tid Resp → List β)
    (given : List (Ev Tid Resp) → Ev Tid Resp → List γ) (hand : World State Tid Resp → List β)
    (h0 : hand ⟨State.start rows users clock, []⟩ = [])
    (hstep : ∀ (cfg : Config State Tid Resp Label) (i : Tid) (c : Cmd) (o : Choice) (r : Resp c)
      (s : State), (machine S).Reach A (start rows users clock) cfg →
      May S i (own i cfg.world.trace) c → A cfg.world i c r →
      exec S i c o cfg.world.state = some (r, s) →
      Spends Q (hand cfg.world) (hand (cfg.world.push i c r s))
        (taken cfg.world.trace ⟨i, c, r⟩) (given cfg.world.trace ⟨i, c, r⟩))
    (hr : (machine S).Reach A (start rows users clock) cfg) :
    Answers Q (stream taken cfg.world.trace) (stream given cfg.world.trace) (hand cfg.world) :=
  hr.answers server_follows (fun _ _ _ _ _ => trivial) taken given hand rfl h0 hstep

/-! ## From a browser to its nodes -/

/-- A frame is sent on for a client right after it was read and its node found. -/
theorem forwards_of_send (hr : (machine S).Reach A (start rows users clock) cfg) {g : NodeFrameData}
    (hm : WebMay S w (own (.web w) cfg.world.trace) (.node (.send k g)))
    (hg : forwardedFor g = some cid) :
    ∃ f, unforwarded (own (.web w) cfg.world.trace) = [f] ∧
      Forwards S (Registered cfg.world.trace) cid (k, g) f := by
  generalize hown : own (.web w) cfg.world.trace = h at hm
  have hin {e : Sigma Resp} (he : e ∈ h) :
      (⟨.web w, e.1, e.2⟩ : Ev Tid Resp) ∈ cfg.world.trace := by
    rw [← hown] at he
    exact mem_own.1 he
  rcases hm with hc | ⟨cid', hl, hc⟩
  · cases hc
  · cases hc with
    | forward hm hf ht =>
        rename_i m f target sid t n info
        have haddr := addressee_of_relayed hf
        have hcid : forwardedFor g = some cid' := by
          cases g <;> cases haddr <;> rfl
        obtain rfl := Option.some.inj (hcid.symm.trans hg)
        -- the session names the node it was found under
        obtain ⟨past, hs⟩ := exists_past (hin (List.mem_cons_of_mem _ List.mem_cons_self))
        obtain ⟨j, r, hins⟩ := insert_of_get hr hs
        obtain ⟨past', hs'⟩ := exists_past (((List.suffix_cons _ _).trans hs).subset hins)
        obtain ⟨_, _, _, _, _, _, _, _, -, -, hkey, hv, -⟩ := (may_of_event hr hs').bind
        cases hkey
        cases hv
        refine ⟨f, ?_, .relayed hf ht (registered_of_get hr (hin List.mem_cons_self))⟩
        rw [unforwarded, unforwarded, unforwarded, hm]
        rfl
    | openTunnel hm ht =>
        cases hg
        refine ⟨_, ?_, .openTunnel ht (registered_of_get hr (hin List.mem_cons_self))⟩
        rw [unforwarded, unforwarded, hm]
        rfl
    | disconnect => cases hg

theorem Forwards.mono {reg reg' : Nat → Uuid → Prop} (hreg : ∀ k n, reg k n → reg' k n)
    {y : Nat × NodeFrameData} {f : WebFrameData} (h : Forwards S reg cid y f) :
    Forwards S reg' cid y f := by
  cases h with
  | relayed hf ht hn => exact .relayed hf ht (hreg _ _ hn)
  | openTunnel ht hn => exact .openTunnel ht (hreg _ _ hn)

/-- **What is forwarded for a client answers what its socket gave**, over all nodes together. -/
theorem asked_forwarded (hr : (machine S).Reach A (start rows users clock) cfg)
    (hdrew : Drew cfg.world.trace w cid) :
    List.SublistForall₂ (Forwards S (Registered cfg.world.trace) cid)
      (stream (forwarded cid) cfg.world.trace) (stream (asked w) cfg.world.trace) := by
  have hr' := hr.restrict
    (F := fun tr => (∀ j, Drew tr j cid → j = w) ∧
      ∀ k n, Registered tr k n → Registered cfg.world.trace k n)
    (fun _ _ hs h => ⟨fun j hj => h.1 j (hj.mono hs), fun k n hn => h.2 k n (hn.mono hs)⟩)
    ⟨fun j hj => drew_unique hr hj hdrew, fun _ _ hn => hn⟩
  refine (server_answers (Q := Forwards S (Registered cfg.world.trace) cid) (asked w)
    (forwarded cid) (fun W => unforwarded (own (.web w) W.trace)) rfl ?_ hr').chosen
  intro cfg i c o r s hr hmay hA hexec
  rw [World.push_trace]
  have hasked (hi : i ≠ .web w ∨ c ≠ .ws .next) : asked w cfg.world.trace ⟨i, c, r⟩ = [] := by
    unfold asked
    split
    · next heq =>
        cases heq
        refine if_neg fun hj => ?_
        subst hj
        exact hi.elim (fun h => h rfl) fun h => h rfl
    · rfl
  by_cases hforward : ∃ y g, (⟨c, r⟩ : Sigma Resp) = ⟨.node (.send y g), true⟩ ∧
      forwardedFor g = some cid
  · -- it is sent on, by the client's own task
    obtain ⟨y, g, heq, hg⟩ := hforward
    cases heq
    obtain ⟨j, rfl, hl⟩ := hmay.forwardsFor hg
    obtain rfl := hA.2.1 j (hl.drew.mono (List.suffix_cons _ _))
    obtain ⟨f, hhand, hf⟩ := forwards_of_send hr hmay hg
    rw [own_cons_self, hhand, hasked (.inr (by simp)), forwarded, if_pos hg]
    exact .answer (hf.mono fun k n hn => hA.2.2 k n (hn.mono (List.suffix_cons _ _)))
  · have hgave : forwarded cid cfg.world.trace ⟨i, c, r⟩ = [] := by
      unfold forwarded
      split
      · next heq =>
          cases heq
          exact if_neg fun hg => hforward ⟨_, _, rfl, hg⟩
      · rfl
    rw [hgave]
    by_cases hi : i = .web w
    · subst hi
      rw [own_cons_self]
      by_cases hread : c = .ws .next
      · subst hread
        rw [asked, if_pos rfl]
        exact .take
      · rw [hasked (.inr hread)]
        rcases unforwarded_cons (r := r) (h := own (.web w) cfg.world.trace) hread with
          hkeep | hdrop
        · rw [hkeep]
          exact .idle
        · rw [hdrop]
          exact .drop
    · rw [own_cons_of_ne hi, hasked (.inl hi)]
      exact .idle

/-- Whether a frame was forwarded for the client `cid`. -/
def isFor (cid : Uuid) (g : NodeFrameData) : Bool := forwardedFor g == some cid

/-- What goes to node socket `k`. -/
def towards (k : Nat) (y : Nat × NodeFrameData) : Option NodeFrameData :=
  if y.1 = k then some y.2 else none

/-- What enters the queue of a node socket for a client was forwarded for it. -/
theorem queued_forwarded (hr : (machine S).Reach A (start rows users clock) cfg) :
    (stream (queued k) cfg.world.trace).filter (isFor cid) =
      (stream (forwarded cid) cfg.world.trace).filterMap (towards k) := by
  rw [← List.filterMap_eq_filter, filterMap_stream, filterMap_stream]
  refine stream_congr fun ⟨i, c, r⟩ past hs => ?_
  have hmay := may_of_event hr hs
  rw [List.filterMap_eq_filter]
  cases c with
  | node op =>
      cases op with
      | send y g =>
          cases r with
          | true =>
              show (if y = k ∧ true = true then [g] else []).filter (isFor cid) =
                (if forwardedFor g = some cid then [(y, g)] else []).filterMap (towards k)
              by_cases hy : y = k
              · by_cases hg : forwardedFor g = some cid <;> simp [hy, hg, isFor, towards]
              · by_cases hg : forwardedFor g = some cid <;> simp [hy, hg, towards]
          | false => simp [queued, ChanOp.puts, forwarded]
      | trySend => exact absurd hmay May.not_trySend
      | recv | close => rfl
  | _ => rfl

/-- The writer of a node socket sends in the order of the queue. -/
theorem sent_sublist (hr : (machine S).Reach A (start rows users clock) cfg) (k : Nat) :
    (stream (sent k) cfg.world.trace).Sublist (stream (queued k) cfg.world.trace) := by
  rw [queued_dequeued hr, dequeued_sent hr, List.append_assoc]
  exact List.sublist_append_left _ _

/-- **What one node is sent for a client** answers what the client's socket gave. -/
theorem asked_sent (hr : (machine S).Reach A (start rows users clock) cfg)
    (hdrew : Drew cfg.world.trace w cid) (k : Nat) :
    List.SublistForall₂ (fun g => Forwards S (Registered cfg.world.trace) cid (k, g))
      ((stream (sent k) cfg.world.trace).filter (isFor cid))
      (stream (asked w) cfg.world.trace) := by
  refine answers_of_sublist ((sent_sublist hr k).filter _) ?_
  rw [queued_forwarded hr]
  have hall := answers_filterMap
    (P := fun g => Forwards S (Registered cfg.world.trace) cid (k, g))
    (p := towards k) (q := some)
    (fun y f g hf hg => ⟨f, rfl, ?_⟩) (asked_forwarded hr hdrew)
  · rwa [List.filterMap_some] at hall
  · obtain ⟨y, g'⟩ := y
    obtain ⟨rfl, heq⟩ := Option.ite_none_right_eq_some.1 hg
    cases heq
    exact hf

/-! ## From a node to its browsers -/

/-- **What the loop of a node's task delivers answers what it read**, over all clients together. -/
theorem read_delivered (hr : (machine S).Reach A (start rows users clock) cfg) (k : Nat) :
    List.SublistForall₂ Delivery (stream (delivered k) cfg.world.trace)
      (stream (readFrom k) cfg.world.trace) := by
  refine (server_answers (Q := Delivery) (readFrom k) (delivered k)
    (fun W => (unanswered (own (.node k) W.trace)).toList) rfl ?_ hr).chosen
  intro cfg i c o r s hr hmay _ hexec
  rw [World.push_trace]
  have hread (hi : i ≠ .node k ∨ c ≠ .ws .next) : readFrom k cfg.world.trace ⟨i, c, r⟩ = [] := by
    unfold readFrom
    split
    · next heq =>
        cases heq
        refine if_neg fun hj => ?_
        subst hj
        exact hi.elim (fun h => h rfl) fun h => h rfl
    · rfl
  by_cases hdeliver : ∃ y frame, (⟨i, c, r⟩ : Ev Tid Resp) = ⟨.node k, .web (.send y frame), true⟩ ∧
      leftLoop (own (.node k) cfg.world.trace) = false
  · obtain ⟨y, frame, heq, hl⟩ := hdeliver
    cases heq
    obtain ⟨g, hhand, hg⟩ := NodeMay.deliversLast hmay hl
    rw [own_cons_self, hhand, hread (.inr (by simp)), delivered, if_pos ⟨rfl, hl⟩]
    exact .answer hg
  · have hgave : delivered k cfg.world.trace ⟨i, c, r⟩ = [] := by
      unfold delivered
      split
      · next heq =>
          cases heq
          refine if_neg fun hj => hdeliver ?_
          obtain ⟨rfl, hl⟩ := hj
          exact ⟨_, _, rfl, hl⟩
      · rfl
    rw [hgave]
    by_cases hi : i = .node k
    · subst hi
      rw [own_cons_self]
      by_cases hnext : c = .ws .next
      · subst hnext
        rw [readFrom, if_pos rfl, unanswered]
        cases hm : Incoming.nodeFrame? r with
        | none => exact .drop
        | some g =>
            rw [Option.bind_some]
            cases hg : routed g with
            | none => exact .pass .nil
            | some g' =>
                rw [routed_eq hg]
                exact .take
      · rw [hread (.inr hnext)]
        rcases unanswered_kept (r := r) (h := own (.node k) cfg.world.trace) hnext with
          hkeep | hdrop
        · rw [hkeep]
          exact .idle
        · rw [hdrop]
          exact .drop
    · rw [own_cons_of_ne hi, hread (.inl hi)]
      exact .idle

/-! ## The queue of a web socket, and its writer -/

/-- **The queue keeps its order.** -/
theorem webQueued_dequeued (hr : (machine S).Reach A (start rows users clock) cfg) (x : Nat) :
    stream (webQueued x) cfg.world.trace =
      stream (webDequeued x) cfg.world.trace ++ (cfg.world.state.webChans x).queue := by
  refine (hr.relays server_follows (fun _ _ _ _ _ => trivial) (webQueued x) (webDequeued x)
    (fun W => (W.state.webChans x).queue) (fun _ => False) rfl rfl ?_).exact
  intro cfg i c o r s _ _ _ hexec
  change exec S i c o cfg.world.state = some (r, s) at hexec
  refine ⟨.inl ?_, False.elim⟩
  by_cases hweb : ∃ op, c = .web op
  · obtain ⟨op, rfl⟩ := hweb
    obtain ⟨y, hchan, hy⟩ := Option.map_eq_some_iff.1 hexec
    cases hy
    exact (ChanOp.queue_exec hchan).symm
  · have hsame : s.webChans = cfg.world.state.webChans := (exec_chans hexec).2.resolve_left hweb
    have hnone : webQueued x cfg.world.trace ⟨i, c, r⟩ = [] ∧
        webDequeued x cfg.world.trace ⟨i, c, r⟩ = [] := by
      cases c with
      | web op => exact absurd ⟨op, rfl⟩ hweb
      | _ => exact ⟨rfl, rfl⟩
    rw [hnone.1, hnone.2, World.push_state, hsame]
    exact List.append_nil _

/-- The queue of a web socket is read by its writer. -/
theorem May.webDequeues {i : Tid} {h : Hist Resp} (hm : May S i h (.web (.recv x))) :
    i = .webWriter x := by
  cases i with
  | webWriter j =>
      cases hm
      rfl
  | web j => rcases hm with hc | ⟨_, -, hc⟩ <;> cases hc
  | node j => cases hm with | login _ hc | loop _ _ hc | close _ _ hc => cases hc
  | request q => cases hm with | create _ hc | verify _ hc | heartbeat _ hc => cases hc
  | _ => cases hm

/-- What the writer takes, it sends or loses. -/
theorem inPen_cons {h : Hist Resp} {c : Cmd} {r : Resp c} (hc : c ≠ .web (.recv x)) :
    inPen (⟨c, r⟩ :: h) = [] ∨ ∃ j, c = .web (.recv j) ∧ j ≠ x := by
  cases c with
  | web op =>
      cases op with
      | recv j => exact .inr ⟨j, rfl, fun hj => hc (by rw [hj])⟩
      | send | trySend | close => exact .inl rfl
  | _ => exact .inl rfl

/-- **The writer sends in the order in which it takes.** -/
theorem webSent_sublist (hr : (machine S).Reach A (start rows users clock) cfg) (x : Nat) :
    (stream (webSent x) cfg.world.trace).Sublist (stream (webDequeued x) cfg.world.trace) := by
  refine sublist_of_answers (server_answers (Q := Eq) (webDequeued x) (webSent x)
    (fun W => inPen (own (.webWriter x) W.trace)) rfl ?_ hr).chosen
  intro cfg i c o r s _ hmay _ _
  rw [World.push_trace]
  by_cases hrecv : c = .web (.recv x)
  · subst hrecv
    obtain rfl := hmay.webDequeues
    rw [own_cons_self]
    have htook : webDequeued x cfg.world.trace ⟨.webWriter x, .web (.recv x), r⟩ = r.toList :=
      if_pos rfl
    rw [htook]
    exact .take
  · have htook : webDequeued x cfg.world.trace ⟨i, c, r⟩ = [] := by
      cases c with
      | web op =>
          cases op with
          | recv j => exact if_neg fun hj => hrecv (by rw [hj])
          | send | trySend | close => rfl
      | _ => rfl
    rw [htook]
    by_cases hi : i = .webWriter x
    · subst hi
      rw [own_cons_self]
      by_cases hsend : ∃ f, c = .ws (.send f)
      · obtain ⟨f, rfl⟩ := hsend
        change WebWriterMay x (own (.webWriter x) cfg.world.trace) _ at hmay
        generalize own (.webWriter x) cfg.world.trace = h at hmay
        cases hmay with
        | send =>
            cases r with
            | true =>
                have hgave : ∀ frame, webSent x cfg.world.trace
                    ⟨.webWriter x, .ws (.send (Frame.ofWeb frame)), true⟩ = [frame] :=
                  fun frame => if_pos rfl
                rw [hgave]
                exact .answer rfl
            | false => exact .drop
      · have hgave : webSent x cfg.world.trace ⟨.webWriter x, c, r⟩ = [] := by
          cases c with
          | ws op =>
              cases op with
              | send f => exact absurd ⟨f, rfl⟩ hsend
              | next | close => rfl
          | _ => rfl
        rw [hgave]
        rcases inPen_cons (h := own (.webWriter x) cfg.world.trace) (r := r) hrecv with
          hnone | ⟨j, rfl, hj⟩
        · rw [hnone]
          exact .drop
        · exact absurd (Tid.webWriter.inj hmay.webDequeues).symm hj
    · have hgave : webSent x cfg.world.trace ⟨i, c, r⟩ = [] := by
        unfold webSent
        split
        · next heq =>
            cases heq
            exact if_neg fun hj => hi (by rw [hj])
        · rfl
      rw [own_cons_of_ne hi, hgave]
      exact .idle

/-! ## Both ways -/

/-- **The way to the nodes.**  In every run, all that is forwarded for a client answers, frame by
frame and in order, what its web socket gave; so does what any one node socket is sent for it. -/
theorem asks_in_order (hr : (machine S).Reach A (start rows users clock) cfg)
    (hdrew : Drew cfg.world.trace w cid) :
    List.SublistForall₂ (Forwards S (Registered cfg.world.trace) cid)
        (stream (forwarded cid) cfg.world.trace) (stream (asked w) cfg.world.trace) ∧
      ∀ k, List.SublistForall₂ (fun g => Forwards S (Registered cfg.world.trace) cid (k, g))
        ((stream (sent k) cfg.world.trace).filter (isFor cid))
        (stream (asked w) cfg.world.trace) :=
  ⟨asked_forwarded hr hdrew, asked_sent hr hdrew⟩

/-- **The way to the browsers.**  In every run, what the loop of a node's task puts into the queues
of all clients answers, frame by frame and in order, what the node's socket gave; and what a
browser is sent was put into its queue, in that order. -/
theorem delivers_in_order (hr : (machine S).Reach A (start rows users clock) cfg) :
    (∀ k, List.SublistForall₂ Delivery (stream (delivered k) cfg.world.trace)
      (stream (readFrom k) cfg.world.trace)) ∧
    ∀ x, (stream (webSent x) cfg.world.trace).Sublist (stream (webQueued x) cfg.world.trace) := by
  refine ⟨read_delivered hr, fun x => (webSent_sublist hr x).trans ?_⟩
  rw [webQueued_dequeued hr]
  exact List.sublist_append_left _ _

end InOrder

/-! ## One run -/

/-- Client `77` asks node `10` for a shell, types into a session it does not have, and asks for
SFTP; the node reports the shell open. -/
def asksTwice : List (Tid × Choice) :=
  nodeLogin 0 10 ++ webLogin 0 1 10 77 ++ idle (.web 0) 1 ++
    [(.web 0, fromWeb (.openTunnel 0 (Uuid.display 10) none none none))] ++ idle (.web 0) 3 ++
    [(.web 0, fromWeb (.tunnelData 0 (Uuid.display 10) 5 [97]))] ++ idle (.web 0) 2 ++
    [(.web 0, fromWeb (.openTunnel 1 (Uuid.display 10) none none none))] ++ idle (.web 0) 3 ++
    idle (.nodeWriter 0) 11 ++ idle (.node 0) 1 ++
    [(.node 0, fromNode (.tunnelOpened 0 77 5 none))] ++ idle (.node 0) 3 ++ idle (.webWriter 0) 8

/-- Both requests have gone to the node, and its report to the browser. -/
def isAnswered (cfg : Config State Tid Resp Label) : Bool :=
  decide (Drew cfg.world.trace 0 77) &&
    decide ((stream (asked 0) cfg.world.trace).length = 4) &&
    decide ((stream (sent 0) cfg.world.trace).filter (isFor 77) =
      [.openTunnel 0 77 none none none, .openTunnel 1 77 none none none]) &&
    decide (stream (delivered 0) cfg.world.trace = [(0, .tunnelOpened 0 5 none)]) &&
    decide (.tunnelOpened 0 5 none ∈ stream (webSent 0) cfg.world.trace)

theorem asksTwice_reached :
    ∃ cfg, (machine (sample loginRequests)).Reach Free sampleStart cfg ∧ isAnswered cfg = true := by
  have hrun : ((machine (sample loginRequests)).run (fun _ _ _ _ => true) asksTwice
      sampleStart).any isAnswered = true := by
    decide +kernel
  exact Machine.reach_of_run (fun _ _ _ _ _ => trivial) hrun

/-- Of the four frames the browser sends, the login and the input go nowhere. -/
theorem asks_in_order_of_two :
    ∃ cfg, (machine (sample loginRequests)).Reach Free sampleStart cfg ∧
      (stream (asked 0) cfg.world.trace).length = 4 ∧
      List.SublistForall₂
        (fun g => Forwards (sample loginRequests) (Registered cfg.world.trace) 77 (0, g))
        [.openTunnel 0 77 none none none, .openTunnel 1 77 none none none]
        (stream (asked 0) cfg.world.trace) := by
  obtain ⟨cfg, hr, hend⟩ := asksTwice_reached
  simp only [isAnswered, Bool.and_eq_true, decide_eq_true_eq] at hend
  obtain ⟨⟨⟨⟨hdrew, hlen⟩, hsent⟩, -⟩, -⟩ := hend
  refine ⟨cfg, hr, hlen, ?_⟩
  have hall := (asks_in_order hr hdrew).2 0
  rwa [hsent] at hall

theorem delivers_in_order_of_two :
    ∃ cfg, (machine (sample loginRequests)).Reach Free sampleStart cfg ∧
      List.SublistForall₂ Delivery [(0, .tunnelOpened 0 5 none)]
        (stream (readFrom 0) cfg.world.trace) ∧
      .tunnelOpened 0 5 none ∈ stream (webQueued 0) cfg.world.trace := by
  obtain ⟨cfg, hr, hend⟩ := asksTwice_reached
  simp only [isAnswered, Bool.and_eq_true, decide_eq_true_eq] at hend
  obtain ⟨⟨-, hdelivered⟩, hweb⟩ := hend
  obtain ⟨hnode, hall⟩ := delivers_in_order hr
  refine ⟨cfg, hr, ?_, (hall 0).subset hweb⟩
  rw [← hdelivered]
  exact hnode 0

end Phirepass.Server
