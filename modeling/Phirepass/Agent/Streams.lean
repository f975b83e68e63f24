/-
# `Phirepass.Agent.Streams` — the bytes of an SSH tunnel on their way through the agent

The way to the client is a row of stages (`Interleave.Stream`), and each stage
a theorem about one queue or one task:

    outputs t → queued k → dequeued k → sent k

The tunnel passes on what its channel gives it, a frame at a time, and loses
one only to a full queue or a closed one.

What the stages rest on is that the session id names one tunnel (`Sole`).
-/
import Phirepass.Agent.Sessions
import Phirepass.Interleave.Stream

namespace Phirepass.Agent

open Rust Interleave

/-! ## What the events say -/

/-- The output the tunnel task `t` is given by its channel. -/
def outputs (t : Nat) (_ : List (Ev Tid Resp)) : Ev Tid Resp → List Bytes
  | ⟨_, .select j, .message (some (.data data))⟩ => if j = t then [data] else []
  | _ => []

/-- The frames put into the queue of connection `k`. -/
def queued (k : Nat) (_ : List (Ev Tid Resp)) : Ev Tid Resp → List NodeFrameData
  | ⟨_, .out op, r⟩ => op.puts k r
  | _ => []

/-- The frames taken out of it. -/
def dequeued (k : Nat) (_ : List (Ev Tid Resp)) : Ev Tid Resp → List NodeFrameData
  | ⟨_, .out op, r⟩ => op.takes k r
  | _ => []

/-- The frames the writer of connection `k` sends. -/
def sent (k : Nat) (_ : List (Ev Tid Resp)) : Ev Tid Resp → List NodeFrameData
  | ⟨.writer j, .ws _ (.send ⟨_, _, .node g⟩), true⟩ => if j = k then [g] else []
  | _ => []

section Events

variable {i : Tid} {c : Cmd} {r : Resp c} {past : List (Ev Tid Resp)} {t k : Nat}

theorem mem_queued {g : NodeFrameData} : g ∈ queued k past ⟨i, c, r⟩ ↔ c.Emits k g r := by
  cases c with
  | out op => exact ChanOp.mem_puts_iff
  | _ => exact ⟨fun h => absurd h List.not_mem_nil, fun h => h.elim⟩

/-- What is emitted goes through the queue. -/
theorem out_of_emits {g : NodeFrameData} (h : c.Emits k g r) : ∃ op, c = .out op := by
  cases c with
  | out op => exact ⟨op, rfl⟩
  | _ => exact h.elim

/-- A command carries no output of the session `sid`. -/
theorem output_queued_eq_nil {sid : UInt32}
    (h : ∀ g data, c.Emits k g r → g.output sid ≠ some data) :
    (queued k past ⟨i, c, r⟩).filterMap (·.output sid) = [] := by
  rw [List.filterMap_eq_nil_iff]
  intro g hg
  exact Option.eq_none_iff_forall_ne_some.2 fun data => h g data (mem_queued.1 hg)

theorem outputs_eq_nil (hc : ∀ j, c ≠ .select j) : outputs t past ⟨i, c, r⟩ = [] := by
  cases c with
  | select j => exact absurd rfl (hc j)
  | _ => rfl

end Events

/-! ## One tunnel -/

/-- Whatever task runs with the number of `tn`, or with its session id on its connection, is `t`,
and runs `tn`. -/
def Sole (t : Nat) (tn : Tunnel) (tr : List (Ev Tid Resp)) : Prop :=
  ∀ t' tn', IsTunnel tr t' tn' → t' = t ∨ tn'.conn = tn.conn ∧ tn'.sid = tn.sid → t' = t ∧ tn' = tn

section Streams

variable {S : Setup} {A : Restriction} {cfg : Config State Tid Resp Label} {t : Nat} {tn : Tunnel}

theorem Sole.mono (tr tr' : List (Ev Tid Resp)) (hs : tr <:+ tr') (h : Sole t tn tr') :
    Sole t tn tr :=
  fun t' tn' htn' => h t' tn' (htn'.mono hs)

theorem sole_of_counter (hA : ∀ w i c r, A w i c r → CounterLasts S w i c r)
    (hr : (machine S).Reach A start cfg) (htn : IsTunnel cfg.world.trace t tn) :
    Sole t tn cfg.world.trace := by
  intro t' tn' htn' hor
  rcases hor with rfl | ⟨hconn, hsid⟩
  · exact ⟨rfl, isTunnel_unique hr htn' htn⟩
  · exact tunnel_of_sid hA hr htn' htn (by rw [hconn]) hsid

/-- So does what is known of a task's own history. -/
theorem Sole.of_began {tr : List (Ev Tid Resp)} {t' : Nat} {tn' : Tunnel} (hsole : Sole t tn tr)
    (hb : Began t' tn' (own (.tunnel t') tr))
    (h : t' = t ∨ tn'.conn = tn.conn ∧ tn'.sid = tn.sid) : t' = t ∧ tn' = tn :=
  hsole t' tn' hb.isTunnel h

/-! ## Output -/

/-- Output finds room in its queue, while the queue is open. -/
def KeepsOutput : Restriction := fun w _ c _ =>
  ∀ k frame id, c = .out (.trySend k (.webFrame frame id)) → carriesData frame = true →
    (w.state.out k).closed = false → (w.state.out k).queue.length < OUT_CAPACITY

/-- A socket that has failed to send does not send again. -/
def SocketDies : Restriction := fun w _ c r =>
  ∀ k f, (⟨c, r⟩ : Sigma Resp) = ⟨.ws k (.send f), true⟩ →
    ∀ j f', (⟨j, .ws k (.send f'), false⟩ : Ev Tid Resp) ∉ w.trace

/-- The output a tunnel has been given and not passed on. -/
def holding : Hist Resp → List Bytes
  | ⟨.select _, .message (some (.data data))⟩ :: _ => [data]
  | _ => []

theorem holding_eq_nil {h : Hist Resp} {c : Cmd} {r : Resp c} (hc : ∀ j, c ≠ .select j) :
    holding (⟨c, r⟩ :: h) = [] := by
  cases c with
  | select j => exact absurd rfl (hc j)
  | _ => rfl

/-- What is held is pending. -/
theorem pending_of_holding {h : Hist Resp} {data : Bytes} (hp : tn.protocol = .ssh)
    (hh : data ∈ holding h) :
    pending S t tn h = some (.out (.trySend tn.conn (outputFrame S tn data))) ∧
      holding h = [data] := by
  unfold holding at hh ⊢
  split at hh
  · next data' _ =>
      obtain rfl := List.mem_singleton.1 hh
      exact ⟨if_pos hp, rfl⟩
  · cases hh

/-- Stages of the agent. -/
theorem agent_relays {β : Type} (taken given : List (Ev Tid Resp) → Ev Tid Resp → List β)
    (hand : World State Tid Resp → List β) (stopped : World State Tid Resp → Prop)
    (h0 : hand ⟨State.start, []⟩ = [])
    (hstep : ∀ (cfg : Config State Tid Resp Label) (i : Tid) (c : Cmd) (o : Choice) (r : Resp c)
      (s : State), (machine S).Reach A start cfg → May S i (own i cfg.world.trace) c →
      A cfg.world i c r → exec S i c o cfg.world.state = some (r, s) →
      Passes (hand cfg.world) (hand (cfg.world.push i c r s)) (taken cfg.world.trace ⟨i, c, r⟩)
        (given cfg.world.trace ⟨i, c, r⟩) (stopped cfg.world) (stopped (cfg.world.push i c r s)))
    (hr : (machine S).Reach A start cfg) :
    Relays (stream taken cfg.world.trace) (stream given cfg.world.trace) (hand cfg.world)
      (stopped cfg.world) :=
  hr.relays agent_follows (fun _ _ _ _ _ => trivial) taken given hand stopped rfl h0 hstep

/-- A closed queue stays closed. -/
theorem out_closed {i : Tid} {c : Cmd} {o : Choice} {r : Resp c} {s s' : State} {k : Nat}
    (hexec : exec S i c o s = some (r, s')) (h : (s.out k).closed = true) :
    (s'.out k).closed = true := by
  rcases (exec_spares hexec).out with ⟨op, rfl⟩ | heq
  · exact ChanOp.closed_exec (exec_out hexec) h
  · rwa [heq]

/-- A step on the way from the tunnel's channel to the queue: what the tunnel is given it holds,
or puts into the queue, or drops at a queue that is closed. -/
def PassesOutput (t : Nat) (tn : Tunnel) (w : World State Tid Resp) (i : Tid) (c : Cmd) (r : Resp c)
    (s : State) : Prop :=
  Passes (holding (own (.tunnel t) w.trace)) (holding (own (.tunnel t) (⟨i, c, r⟩ :: w.trace)))
    (outputs t w.trace ⟨i, c, r⟩) ((queued tn.conn w.trace ⟨i, c, r⟩).filterMap (·.output tn.sid))
    ((w.state.out tn.conn).closed = true) ((s.out tn.conn).closed = true)

section Output

variable {i : Tid} {c : Cmd} {o : Choice} {r : Resp c} {s : State}
  (hsole : Sole t tn cfg.world.trace) (hmay : May S i (own i cfg.world.trace) c)
  (hexec : exec S i c o cfg.world.state = some (r, s))

include hsole hmay hexec in
/-- The tunnel puts what it holds into its queue. -/
theorem Sole.puts_output {g : NodeFrameData} {data : Bytes} (hemit : c.Emits tn.conn g r)
    (hg : g.output tn.sid = some data) : PassesOutput t tn cfg.world i c r s := by
  obtain ⟨t', tn', h', rfl, hb, hconn, hsid, hown, rfl⟩ := hmay.carries hemit hg
  obtain ⟨rfl, rfl⟩ := hsole.of_began hb (.inr ⟨hconn, hsid⟩)
  obtain ⟨-, rfl, rfl⟩ := hemit
  rw [PassesOutput, own_cons_self, hown]
  refine ⟨.inl ?_, fun hd => ?_⟩
  · simp [queued, ChanOp.puts, Except.isOk, Except.toBool, holding, outputs, outputFrame,
      NodeFrameData.output, WebFrameData.output]
  · have hnone := ChanOp.puts_of_closed (exec_out hexec) hd
    simp [ChanOp.puts, Except.isOk, Except.toBool] at hnone

omit hmay hexec in
include hsole in
/-- It is given something new only when it holds nothing. -/
theorem Sole.selects_output (hp : tn.protocol = .ssh) {j : Nat} {r : Resp (.select j)}
    (hmay : May S (.tunnel t) (own (.tunnel t) cfg.world.trace) (.select j)) :
    holding (own (.tunnel t) cfg.world.trace) ++
        outputs t cfg.world.trace ⟨.tunnel t, .select j, r⟩ =
      holding (own (.tunnel t) (⟨.tunnel t, .select j, r⟩ :: cfg.world.trace)) := by
  obtain ⟨heq, tn', hb, hidle⟩ := hmay.selects
  cases heq
  obtain ⟨-, rfl⟩ := hsole.of_began hb (.inl rfl)
  have hempty : holding (own (.tunnel t) cfg.world.trace) = [] := by
    rw [List.eq_nil_iff_forall_not_mem]
    intro data hdata
    rw [(pending_of_holding (S := S) (t := t) hp hdata).1] at hidle
    cases hidle
  rw [own_cons_self, hempty]
  cases r with
  | message message =>
      cases message with
      | none => rfl
      | some message =>
          cases message with
          | data data => simp [outputs, holding]
          | eof | close | other | exitStatus => rfl
  | shutdown | ssh | sftp => rfl

omit hmay hexec in
include hsole in
/-- What it holds is refused by a queue that is closed. -/
theorem Sole.refuses_output (hK : KeepsOutput cfg.world (.tunnel t) c r) (hp : tn.protocol = .ssh)
    (hmay : May S (.tunnel t) (own (.tunnel t) cfg.world.trace) c)
    (hexec : exec S (.tunnel t) c o cfg.world.state = some (r, s))
    (hcarry : ∀ g data, c.Emits tn.conn g r → g.output tn.sid ≠ some data) {data : Bytes}
    (hmem : data ∈ holding (own (.tunnel t) cfg.world.trace)) :
    (s.out tn.conn).closed = true := by
  obtain ⟨tn', hb⟩ : ∃ tn', Began t tn' (own (.tunnel t) cfg.world.trace) := by
    rcases hmay with ⟨hnil, -⟩ | ⟨tn', hb, -, -⟩
    · rw [hnil] at hmem
      cases hmem
    · exact ⟨tn', hb⟩
  obtain ⟨-, rfl⟩ := hsole.of_began hb (.inl rfl)
  obtain rfl := hmay.passes hb (pending_of_holding (S := S) (t := t) hp hmem).1
  cases r with
  | ok u =>
      refine absurd ?_ (hcarry _ data ⟨rfl, rfl, rfl⟩)
      simp [outputFrame, NodeFrameData.output, WebFrameData.output]
  | error why =>
      cases why with
      | full =>
          obtain ⟨hopen, hfull⟩ := ChanOp.full_of_trySend (exec_out hexec)
          exact absurd (hK _ _ _ rfl rfl hopen) hfull
      | closed => exact ChanOp.closed_of_trySend (exec_out hexec)

omit hexec in
include hmay in
/-- Another task is given nothing of it. -/
theorem outputs_of_other (hi : i ≠ .tunnel t) : outputs t cfg.world.trace ⟨i, c, r⟩ = [] := by
  by_cases hsel : ∃ j, c = .select j
  · obtain ⟨j, rfl⟩ := hsel
    obtain ⟨rfl, -⟩ := hmay.selects
    unfold outputs
    split
    · next heq =>
        cases heq
        exact if_neg fun hj => hi (by rw [hj])
    · rfl
  · exact outputs_eq_nil fun j heq => hsel ⟨j, heq⟩

end Output

/-- **The tunnel passes its output on**, as long as its queue is not closed. -/
theorem outputs_queued (hT : ∀ w i c r, A w i c r → Sole t tn (⟨i, c, r⟩ :: w.trace))
    (hK : ∀ w i c r, A w i c r → KeepsOutput w i c r) (hp : tn.protocol = .ssh)
    (hr : (machine S).Reach A start cfg) :
    Relays (stream (outputs t) cfg.world.trace)
      (stream (fun past e => (queued tn.conn past e).filterMap (·.output tn.sid)) cfg.world.trace)
      (holding (own (.tunnel t) cfg.world.trace))
      ((cfg.world.state.out tn.conn).closed = true) := by
  refine agent_relays (outputs t) _ (fun w => holding (own (.tunnel t) w.trace))
    (fun w => (w.state.out tn.conn).closed = true) rfl ?_ hr
  intro cfg i c o r s hr hmay hAi hexec
  have hsole : Sole t tn cfg.world.trace := (hT _ _ _ _ hAi).mono _ _ (List.suffix_cons _ _)
  by_cases hcarry : ∃ g data, c.Emits tn.conn g r ∧ g.output tn.sid = some data
  · obtain ⟨g, data, hemit, hg⟩ := hcarry
    exact hsole.puts_output hmay hexec hemit hg
  have hnone : ∀ g data, c.Emits tn.conn g r → g.output tn.sid ≠ some data :=
    fun g data hemit hg => hcarry ⟨g, data, hemit, hg⟩
  rw [output_queued_eq_nil hnone]
  refine ⟨?_, fun hd => ⟨out_closed hexec hd, rfl⟩⟩
  rw [World.push_trace]
  by_cases hi : i = .tunnel t
  · subst hi
    by_cases hsel : ∃ j, c = .select j
    · obtain ⟨j, rfl⟩ := hsel
      exact .inl (hsole.selects_output hp hmay)
    · have hc : ∀ j, c ≠ .select j := fun j heq => hsel ⟨j, heq⟩
      rw [own_cons_self, holding_eq_nil hc, outputs_eq_nil hc]
      cases hheld : holding (own (.tunnel t) cfg.world.trace) with
      | nil => exact .inl rfl
      | cons data rest =>
          have hmem : data ∈ holding (own (.tunnel t) cfg.world.trace) := by
            rw [hheld]
            exact List.mem_cons_self
          exact .inr ⟨hsole.refuses_output (hK _ _ _ _ hAi) hp hmay hexec hnone hmem, rfl⟩
  · rw [own_cons_of_ne hi, outputs_of_other hmay hi, List.append_nil]
    exact .inl rfl

/-- A tunnel's frames with `p` come behind the report that it is open. -/
theorem opens_before (p : NodeFrameData → Bool)
    (hp : ∀ i h (c : Cmd) (r : Resp c) g, May S i h c → c.Emits tn.conn g r → p g = true →
      ∃ t' tn', i = .tunnel t' ∧ Began t' tn' h ∧ tn'.conn = tn.conn ∧ tn'.sid = tn.sid)
    (hT : ∀ w i c r, A w i c r → Sole t tn (⟨i, c, r⟩ :: w.trace))
    (hr : (machine S).Reach A start cfg) :
    (stream (queued tn.conn) cfg.world.trace).Pairwise
      fun g g' => p g = true → g'.opens tn.sid = false := by
  refine agent_inv (fun w => (stream (queued tn.conn) w.trace).Pairwise
    fun g g' => p g = true → g'.opens tn.sid = false) .nil ?_ hr
  intro cfg i c o r s hr hI hmay hAi _
  have hsole : Sole t tn cfg.world.trace := (hT _ _ _ _ hAi).mono _ _ (List.suffix_cons _ _)
  have hone : (queued tn.conn cfg.world.trace ⟨i, c, r⟩).Pairwise
      fun g g' => p g = true → g'.opens tn.sid = false := by
    cases c with
    | out op => exact ChanOp.pairwise_puts
    | _ => exact .nil
  rw [World.push_trace, stream_cons]
  refine List.pairwise_append.2 ⟨hI, hone, fun g hg g' hg' hpg => ?_⟩
  by_contra hopens
  obtain ⟨t', tn', rfl, hb, hconn, hsid, hsilent⟩ :=
    hmay.announces (mem_queued.1 hg') (eq_true_of_ne_false hopens)
  obtain ⟨rfl, rfl⟩ := hsole.of_began hb (.inr ⟨hconn, hsid⟩)
  -- what is queued already was put there by this task, which has been silent
  obtain ⟨⟨j, c', r'⟩, past, hs, hmem⟩ := mem_stream.1 hg
  obtain ⟨t₁, tn₁, rfl, hb₁, hconn₁, hsid₁⟩ :=
    hp _ _ _ _ _ (may_of_event hr hs) (mem_queued.1 hmem) hpg
  obtain ⟨rfl, -⟩ := (hsole.mono _ _ ((List.suffix_cons _ _).trans hs)).of_began hb₁
    (.inr ⟨hconn₁, hsid₁⟩)
  obtain ⟨op, rfl⟩ := out_of_emits (mem_queued.1 hmem)
  exact hsilent _ _ (mem_own.2 (hs.subset List.mem_cons_self))

/-- **The tunnel is reported open first**, before any of its output. -/
theorem opens_first (hT : ∀ w i c r, A w i c r → Sole t tn (⟨i, c, r⟩ :: w.trace))
    (hr : (machine S).Reach A start cfg) :
    OpensFirst tn.sid (stream (queued tn.conn) cfg.world.trace) := by
  refine opens_before (fun g => (g.output tn.sid).isSome) (fun i h c r g hmay hemit hout => ?_) hT hr
  obtain ⟨data, hdata⟩ := Option.isSome_iff_exists.1 hout
  obtain ⟨t', tn', h', rfl, hb, hconn, hsid, -, -⟩ := hmay.carries hemit hdata
  exact ⟨t', tn', rfl, hb, hconn, hsid⟩

/-- And before it is reported closed. -/
theorem closes_last (hT : ∀ w i c r, A w i c r → Sole t tn (⟨i, c, r⟩ :: w.trace))
    (hr : (machine S).Reach A start cfg) :
    ClosesLast tn.sid (stream (queued tn.conn) cfg.world.trace) := by
  refine opens_before (·.closes tn.sid) (fun i h c r g hmay hemit hcloses => ?_) hT hr
  rcases hmay.emits hemit with ⟨t', tn', rfl, hb, hconn, hg⟩ | ⟨_, _, rfl, -⟩ | ⟨_, _, rfl⟩
  · cases hg with
    | closed => exact ⟨t', tn', rfl, hb, hconn, beq_iff_eq.1 hcloses⟩
    | opened | frame => cases hcloses
  · cases hcloses
  · cases hcloses

/-- **The queue keeps its order.** -/
theorem queued_dequeued (hr : (machine S).Reach A start cfg) (k : Nat) :
    stream (queued k) cfg.world.trace =
      stream (dequeued k) cfg.world.trace ++ (cfg.world.state.out k).queue := by
  refine (agent_relays (queued k) (dequeued k) (fun w => (w.state.out k).queue)
    (fun _ => False) rfl ?_ hr).exact
  intro cfg i c o r s _ _ _ hexec
  refine ⟨.inl ?_, False.elim⟩
  rcases (exec_spares hexec).out with ⟨op, rfl⟩ | heq
  · exact (ChanOp.queue_exec (exec_out hexec)).symm
  · cases c with
    | out op => exact (ChanOp.queue_exec (exec_out hexec)).symm
    | _ =>
        rw [World.push_state, heq]
        exact List.append_nil _

/-- What a command of another thread, or none on the queue or the socket, does to the hand. -/
theorem inHand_cons {h : Hist Resp} {c : Cmd} {r : Resp c} (hout : ∀ j, c ≠ .out (.recv j))
    (hws : ∀ j f, c ≠ .ws j (.send f)) : inHand (⟨c, r⟩ :: h) = inHand h := by
  cases c with
  | out op =>
      cases op with
      | recv j => exact absurd rfl (hout j)
      | send | trySend | close => rfl
  | ws j op =>
      cases op with
      | send f => exact absurd rfl (hws j f)
      | connect | next => rfl
  | _ => rfl

/-- What the writer of connection `k` has in hand. -/
def writing (k : Nat) (tr : List (Ev Tid Resp)) : List NodeFrameData :=
  (inHand (own (.writer k) tr)).toList

/-- A send of the writer of connection `k`, and whether it succeeded. -/
def Writes (k : Nat) (ok : Bool) (e : Ev Tid Resp) : Prop :=
  ∃ f, e = ⟨.writer k, .ws k (.send f), ok⟩

/-- What is sent, the writer of the connection sends. -/
theorem writes_of_sent {i : Tid} {c : Cmd} {r : Resp c} {past : List (Ev Tid Resp)} {k : Nat}
    (hmay : May S i (own i past) c) (h : sent k past ⟨i, c, r⟩ ≠ []) :
    Writes k true ⟨i, c, r⟩ := by
  unfold sent at h
  split at h
  · next heq =>
      cases heq
      split at h
      · next hj =>
          subst hj
          obtain ⟨heq, -⟩ := hmay.sends
          cases heq
          exact ⟨_, rfl⟩
      · exact absurd rfl h
  · exact absurd rfl h

/-- The writer passes on what it has in hand, or loses it to its socket. -/
theorem writer_step {i : Tid} {c : Cmd} {tr : List (Ev Tid Resp)} (hmay : May S i (own i tr) c)
    (r : Resp c) (k : Nat) :
    writing k tr ++ dequeued k tr ⟨i, c, r⟩ = sent k tr ⟨i, c, r⟩ ++ writing k (⟨i, c, r⟩ :: tr) ∨
      Writes k false ⟨i, c, r⟩ ∧ sent k tr ⟨i, c, r⟩ = [] ∧ writing k (⟨i, c, r⟩ :: tr) = [] := by
  unfold writing
  by_cases hrecv : ∃ j, c = .out (.recv j)
  · obtain ⟨j, rfl⟩ := hrecv
    obtain ⟨rfl, hidle⟩ := hmay.dequeues
    refine .inl ?_
    by_cases hj : j = k
    · subst hj
      rw [own_cons_self, hidle]
      simp [dequeued, ChanOp.takes, sent, inHand]
    · have hne : Tid.writer j ≠ .writer k := fun heq => hj (Tid.writer.inj heq)
      rw [own_cons_of_ne hne]
      simp [dequeued, ChanOp.takes, sent, hj]
  · have htook : dequeued k tr ⟨i, c, r⟩ = [] := by
      cases c with
      | out op =>
          cases op with
          | recv j => exact absurd ⟨j, rfl⟩ hrecv
          | send | trySend | close => rfl
      | _ => rfl
    rw [htook, List.append_nil]
    by_cases hi : i = .writer k
    · subst hi
      by_cases hsend : ∃ j f, c = .ws j (.send f)
      · obtain ⟨j, f, rfl⟩ := hsend
        obtain ⟨rfl, g, h', rfl, hown⟩ := hmay.sends
        rw [own_cons_self, hown]
        cases r with
        | true => exact .inl (by simp [sent, Frame.ofNode, inHand])
        | false => exact .inr ⟨⟨_, rfl⟩, rfl, rfl⟩
      · have hgave : sent k tr ⟨.writer k, c, r⟩ = [] := by
          cases c with
          | ws j op =>
              cases op with
              | send f => exact absurd ⟨j, f, rfl⟩ hsend
              | connect | next => rfl
          | _ => rfl
        rw [hgave, own_cons_self, inHand_cons (fun j heq => hrecv ⟨j, heq⟩)
          fun j f heq => hsend ⟨j, f, heq⟩]
        exact .inl rfl
    · have hgave : sent k tr ⟨i, c, r⟩ = [] := by
        unfold sent
        split
        · next heq =>
            cases heq
            exact if_neg fun heq => hi (by rw [heq])
        · rfl
      rw [hgave, own_cons_of_ne hi]
      exact .inl rfl

/-- **The writer sends what it takes**, until its socket fails. -/
theorem dequeued_sent (hD : ∀ w i c r, A w i c r → SocketDies w i c r)
    (hr : (machine S).Reach A start cfg) (k : Nat) :
    Relays (stream (dequeued k) cfg.world.trace) (stream (sent k) cfg.world.trace)
      (inHand (own (.writer k) cfg.world.trace)).toList
      (∃ f, (⟨.writer k, .ws k (.send f), false⟩ : Ev Tid Resp) ∈ cfg.world.trace) := by
  refine agent_relays (dequeued k) (sent k) (fun w => writing k w.trace)
    (fun w => ∃ f, (⟨.writer k, .ws k (.send f), false⟩ : Ev Tid Resp) ∈ w.trace) rfl ?_ hr
  intro cfg i c o r s hr hmay hAi _
  refine ⟨?_, fun ⟨f, hmem⟩ => ⟨⟨f, List.mem_cons_of_mem _ hmem⟩, ?_⟩⟩
  · rcases writer_step hmay r k with hon | ⟨⟨f, heq⟩, hgave, -⟩
    · exact .inl hon
    · cases heq
      exact .inr ⟨⟨f, List.mem_cons_self⟩, hgave⟩
  · -- its socket has failed before
    by_contra hgave
    obtain ⟨f', heq⟩ := writes_of_sent hmay hgave
    cases heq
    exact hD _ _ _ _ hAi k f' rfl _ f hmem

/-- **Whether or not its socket fails**, it sends in the order in which it takes. -/
theorem sent_sublist (hr : (machine S).Reach A start cfg) (k : Nat) :
    (stream (sent k) cfg.world.trace).Sublist (stream (dequeued k) cfg.world.trace) := by
  have hinv := agent_inv (fun w => (stream (sent k) w.trace ++ writing k w.trace).Sublist
    (stream (dequeued k) w.trace)) (List.nil_sublist _) ?_ hr
  · exact (List.sublist_append_left _ _).trans hinv
  · intro cfg i c o r s _ hI hmay _ _
    rw [World.push_trace, stream_cons, stream_cons]
    rcases writer_step hmay r k with hon | ⟨-, hgave, hhand⟩
    · rw [List.append_assoc, ← hon, ← List.append_assoc]
      exact hI.append_right _
    · rw [hgave, hhand, List.append_nil, List.append_nil]
      exact ((List.sublist_append_left _ _).trans hI).trans (List.sublist_append_left _ _)

end Streams

end Phirepass.Agent
