/-
# `Phirepass.Agent.Input` — what a shell is fed

    heard k → commanded t → woken t → written t
    reader    queue         tunnel    channel

The reader of connection `k` looks up the session of a piece of input it has
read, and puts the piece into the queue of the session's tunnel.  It drops it
if there is no session, or if the tunnel has closed its queue.  A session that
was entered is entered once, and a closed queue stays closed, so it then drops
all that follow (`Spurning`).  Nothing is lost behind the queue.
-/
import Phirepass.Agent.Endings

namespace Phirepass.Agent

open Rust Interleave

/-! ## What the events say

The streams of the picture, and what is under way between them: the command the reader looks up a
session for (`feeding`), the queue itself, and what the tunnel has woken up with (`writingOut`). -/

/-- The frames read from connection `k`, by whichever task. -/
def heard (k : Nat) (_ : List (Ev Tid Resp)) : Ev Tid Resp → List NodeFrameData
  | ⟨_, .ws j .next, m⟩ => if j = k then (Incoming.nodeFrame? m).toList else []
  | _ => []

/-- The commands put into the queue of the SSH tunnel `t`. -/
def commanded (t : Nat) (_ : List (Ev Tid Resp)) : Ev Tid Resp → List SSHCommand
  | ⟨_, .sshStdin op, r⟩ => op.puts t r
  | _ => []

def woken (t : Nat) (_ : List (Ev Tid Resp)) : Ev Tid Resp → List SSHCommand
  | ⟨_, .select j, .ssh cmd⟩ => if j = t then [cmd] else []
  | _ => []

/-- The input the tunnel writes to its channel, whether or not the channel takes it. -/
def written (t : Nat) (_ : List (Ev Tid Resp)) : Ev Tid Resp → List Bytes
  | ⟨_, .ssh j (.data buf), _⟩ => if j = t then [buf] else []
  | _ => []

def SSHCommand.input : SSHCommand → Option Bytes
  | .data buf => some buf
  | .resize .. => none

/-- The input for a session that is due. -/
def Due.input (key : Key) : Due → Option Bytes
  | .deliver key' cmd => if key' = key then cmd.input else none
  | _ => none

/-- The input for a session that the reader has read and not passed on. -/
def feeding (key : Key) (h : Hist Resp) : Option Bytes := (due h).bind (Due.input key)

/-- The input the tunnel has taken and not written. -/
def writingOut : Hist Resp → List Bytes
  | ⟨.select _, .ssh (.data buf)⟩ :: _ => [buf]
  | _ => []

/-- The task `t` runs `tn`, which is entered once, and whose input is read after it was spawned. -/
structure Awaited (t : Nat) (tn : Tunnel) (tr : List (Ev Tid Resp)) : Prop where
  ssh : tn.protocol = .ssh
  sole : ∀ t' tn', (⟨.reader tn'.conn, .spawnTunnel tn', t'⟩ : Ev Tid Resp) ∈ tr →
    t' = t ∨ tn'.conn = tn.conn ∧ tn'.sid = tn.sid → t' = t ∧ tn' = tn
  once : ∀ i handle r past,
    ⟨i, .sessions tn.conn (.insert (tn.cid, tn.sid) handle), r⟩ :: past <:+ tr →
      ∀ j handle' r', (⟨j, .sessions tn.conn (.insert (tn.cid, tn.sid) handle'), r'⟩ :
        Ev Tid Resp) ∉ past
  spawned : ∀ i m past, ⟨i, .ws tn.conn .next, m⟩ :: past <:+ tr →
    (m.nodeFrame?.bind (·.input tn.cid tn.sid)).isSome = true →
      (⟨.reader tn.conn, .spawnTunnel tn, t⟩ : Ev Tid Resp) ∈ past

/-- The session `key` of connection `k` has just been found. -/
def Found (k : Nat) (key : Key) (h : Hist Resp) : Prop :=
  ∃ handle h', h = ⟨.sessions k (.get key), some handle⟩ :: h'

/-- No input gets through to the tunnel any more: its queue is closed, or its session is gone, and
what was found before is dealt with. -/
inductive Spurning (t : Nat) (tn : Tunnel) (w : World State Tid Resp) : Prop
  | closed (hclosed : (w.state.sshStdin t).closed = true)
  | gone
      (hentered : ∃ i handle r, (⟨i, .sessions tn.conn (.insert (tn.cid, tn.sid) handle), r⟩ :
        Ev Tid Resp) ∈ w.trace)
      (hgone : (w.state.sessions tn.conn).lookup (tn.cid, tn.sid) = none)
      (hlate : ¬ Found tn.conn (tn.cid, tn.sid) (own (.reader tn.conn) w.trace))

section History

variable {key : Key} {h : Hist Resp} {S : Setup} {k : Nat}

/-- What a frame makes due of a session's input is what it carries. -/
theorem input_asks (cid : Uuid) (sid : UInt32) (g : NodeFrameData) :
    (asks g).bind (Due.input (cid, sid)) = g.input cid sid := by
  cases g with
  | tunnelData protocol cid' sid' data =>
      show ((if protocol = Protocol.ssh.toU8 then some ((cid', sid'), SSHCommand.data data)
        else none).map _).bind (Due.input (cid, sid)) = _
      by_cases hp : protocol = Protocol.ssh.toU8
      · simp [hp, Due.input, SSHCommand.input, NodeFrameData.input]
      · simp [hp, NodeFrameData.input]
  | sshWindowResize cid' sid' =>
      show (if (cid', sid') = (cid, sid) then none else none) = _
      split <;> rfl
  | _ => rfl

theorem feeding_next {cid : Uuid} {sid : UInt32} {j : Nat} {m : Incoming} :
    feeding (cid, sid) (⟨.ws j .next, m⟩ :: h) = m.nodeFrame?.bind (·.input cid sid) := by
  show (m.nodeFrame?.bind asks).bind (Due.input (cid, sid)) = _
  cases m.nodeFrame? with
  | none => rfl
  | some g => exact input_asks cid sid g

theorem input_of_sshDelivery {cid : Uuid} {sid : UInt32} {g : NodeFrameData} {cmd : SSHCommand}
    (hg : sshDelivery g = some ((cid, sid), cmd)) : g.input cid sid = cmd.input := by
  have hasks : asks g = some (.deliver (cid, sid) cmd) := by
    cases g with
    | openTunnel => cases hg
    | tunnelData =>
        show (sshDelivery _).map _ = _
        rw [hg]
        rfl
    | sshWindowResize =>
        cases hg
        rfl
    | _ => cases hg
  rw [← input_asks, hasks]
  exact if_pos rfl

theorem asks_ne_enter {m : Incoming} {handle : SessionHandle} :
    m.nodeFrame?.bind asks ≠ some (.enter key handle) := by
  intro heq
  obtain ⟨g, -, hg⟩ := Option.bind_eq_some_iff.1 heq
  cases g with
  | openTunnel => cases hg
  | sshWindowResize => cases hg
  | tunnelData =>
      obtain ⟨d, -, hd⟩ := Option.map_eq_some_iff.1 (show (sshDelivery _).map _ = _ from hg)
      cases hd
  | _ => cases hg

/-- The reader enters a tunnel it has spawned before it does anything else that is due. -/
theorem ReaderMay.keeps_enter {handle : SessionHandle} {c : Cmd} {r : Resp c}
    (hm : ReaderMay S k h c) (hdue : due h = some (.enter key handle)) :
    c = .sessions k (.insert key handle) ∨ due (⟨c, r⟩ :: h) = some (.enter key handle) := by
  cases hm with
  | next _ hdone =>
      rw [hdone] at hdue
      cases hdue
  | refuse | sid | lookup | sendSsh => exact absurd hdue asks_ne_enter
  | sendSftp => cases hdue
  | panic => exact nomatch r
  | spawn => exact absurd hdue asks_ne_enter
  | insert =>
      cases hdue
      exact .inl rfl
  | close hc => exact .inr ((hc.due_cons).trans hdue)
  | sweep hc => exact .inr ((hc.due_cons).trans hdue)
  | _ => exact .inr hdue

end History

section Input

variable {S : Setup} {A : Restriction} {cfg : Config State Tid Resp Label} {t : Nat} {tn : Tunnel}

/-- A draw of one process gives out no id that was given out. -/
theorem fresh_of_counter (hA : ∀ w i c r, A w i c r → CounterLasts S w i c r)
    (hone : ∀ k k', S.proc k = S.proc k') (hr : (machine S).Reach A start cfg) :
    (machine S).Reach FreshIds start cfg := by
  refine hr.strengthen fun cfg i c o r s hr hAi hexec k sid heq i' k' hmem => ?_
  cases heq
  cases hexec
  obtain ⟨past, hs⟩ := exists_past hmem
  have hid := sid_of_draw hr hs
  rw [sessionId_eq hr, hone k' k] at hid
  -- more ids had been drawn by now
  have hlast := hA _ _ _ _ hAi k rfl
  have hless : drawn S (S.proc k) past < drawn S (S.proc k) cfg.world.trace := by
    have hle := hs.sublist.countP_le (p := drawsSid S (S.proc k))
    rw [hone k k'] at hle ⊢
    refine Nat.lt_of_lt_of_le (Nat.lt_succ_self _) (Nat.le_trans (Nat.le_of_eq ?_) hle)
    exact drawn_draw.symm
  have hnat := congrArg UInt32.toNat hid
  simp only [UInt32.toNat_ofNat'] at hnat
  omega

theorem Awaited.mono (tr tr' : List (Ev Tid Resp)) (hs : tr <:+ tr') (h : Awaited t tn tr') :
    Awaited t tn tr where
  ssh := h.ssh
  sole t' tn' hmem := h.sole t' tn' (hs.subset hmem)
  once i handle r past hpast := h.once i handle r past (hpast.trans hs)
  spawned i m past hpast := h.spawned i m past (hpast.trans hs)

/-- In one process, the tunnel is the only one of its session. -/
theorem awaited_of_counter (hA : ∀ w i c r, A w i c r → CounterLasts S w i c r)
    (hone : ∀ k k', S.proc k = S.proc k') (hr : (machine S).Reach A start cfg)
    (htn : IsTunnel cfg.world.trace t tn) (hp : tn.protocol = .ssh)
    (hspawned : ∀ i m past, ⟨i, .ws tn.conn .next, m⟩ :: past <:+ cfg.world.trace →
      (m.nodeFrame?.bind (·.input tn.cid tn.sid)).isSome = true →
        (⟨.reader tn.conn, .spawnTunnel tn, t⟩ : Ev Tid Resp) ∈ past) :
    Awaited t tn cfg.world.trace := by
  have hfresh := fresh_of_counter hA hone hr
  have hid : ∀ w i c r, FreshIds w i c r → FreshIds w i c r := fun _ _ _ _ h => h
  refine ⟨hp, fun t' tn' hmem hor => ?_, fun i handle r past hs j handle' r' hmem => ?_, hspawned⟩
  · have htn' := tunnel_of_begin hr t tn htn
    rcases hor with rfl | ⟨-, hsid⟩
    · have heq := tunnel_of_spawn hr _ _ _ hmem
      rw [htn'] at heq
      cases heq
      exact ⟨rfl, rfl⟩
    · exact spawn_once hA hr hmem (spawned_of_tunnel hr t tn htn') (hone _ _) hsid
  · obtain ⟨past', hs'⟩ := exists_past hmem
    have heq := enter_once hid hfresh hs (hs'.trans ((List.suffix_cons _ _).trans hs))
    rw [← heq] at hs'
    exact not_suffix_self hs'

/-! ## The session

Input is read only after its tunnel was spawned (`Awaited.spawned`), and by then the reader has
entered the tunnel, since it does that before it reads on.  The session is the tunnel's alone, so
what is looked up for it is found under its handle or not at all. -/

/-- A tunnel that was spawned is entered, or that is due. -/
theorem entered_of_spawned (hr : (machine S).Reach A start cfg) {k : Nat}
    (hmem : (⟨.reader k, .spawnTunnel tn, t⟩ : Ev Tid Resp) ∈ cfg.world.trace) :
    (∃ r, (⟨.reader k, .sessions k (.insert (tn.cid, tn.sid) (tn.handle t)), r⟩ : Ev Tid Resp)
        ∈ cfg.world.trace) ∨
      due (own (.reader k) cfg.world.trace) = some (.enter (tn.cid, tn.sid) (tn.handle t)) := by
  refine agent_inv (fun w => (⟨.reader k, .spawnTunnel tn, t⟩ : Ev Tid Resp) ∈ w.trace →
    (∃ r, (⟨.reader k, .sessions k (.insert (tn.cid, tn.sid) (tn.handle t)), r⟩ : Ev Tid Resp)
        ∈ w.trace) ∨
      due (own (.reader k) w.trace) = some (.enter (tn.cid, tn.sid) (tn.handle t)))
    (fun hmem => nomatch hmem) ?_ hr hmem
  intro cfg i c o r s _ hI hmay _ _ hmem
  rw [World.push_trace] at hmem ⊢
  rcases List.mem_cons.1 hmem with heq | hmem
  · cases heq
    rw [own_cons_self]
    exact .inr rfl
  · rcases hI hmem with ⟨r', hin⟩ | hdue
    · exact .inl ⟨r', List.mem_cons_of_mem _ hin⟩
    · by_cases hi : i = .reader k
      · subst hi
        rw [own_cons_self]
        rcases ReaderMay.keeps_enter (r := r) hmay hdue with rfl | hdue'
        · exact .inl ⟨r, List.mem_cons_self⟩
        · exact .inr hdue'
      · rw [own_cons_of_ne hi]
        exact .inr hdue

theorem Awaited.handle_eq (hr : (machine S).Reach A start cfg)
    (hw : Awaited t tn cfg.world.trace) {handle : SessionHandle}
    (hof : ∃ tn', cfg.world.state.tunnels[handle.task]? = some tn' ∧ tn'.conn = tn.conn ∧
      (tn.cid, tn.sid) = (tn'.cid, tn'.sid) ∧ handle = tn'.handle handle.task) :
    handle = .ssh t := by
  obtain ⟨tn', htn', hconn, hkey, hhandle⟩ := hof
  have hspawn := spawned_of_tunnel hr _ _ htn'
  obtain ⟨htask, rfl⟩ := hw.sole _ tn' hspawn (.inr ⟨hconn, (congrArg Prod.snd hkey).symm⟩)
  rw [hhandle, htask, Tunnel.handle, hw.ssh]

theorem Awaited.session_eq (hr : (machine S).Reach A start cfg)
    (hw : Awaited t tn cfg.world.trace) {i : Tid} {k : Nat} {key : Key}
    (hmem : (⟨i, .sessions k (.get key), some (.ssh t)⟩ : Ev Tid Resp) ∈ cfg.world.trace) :
    k = tn.conn ∧ key = (tn.cid, tn.sid) := by
  obtain ⟨tn', htn', rfl, rfl, -⟩ := tunnel_of_get hr _ _ _ _ hmem
  obtain ⟨-, rfl⟩ := hw.sole _ tn' (spawned_of_tunnel hr _ _ htn') (.inl rfl)
  exact ⟨rfl, rfl⟩

/-- When input is read, its session has been entered. -/
theorem Awaited.entered (hr : (machine S).Reach A start cfg)
    (hw : Awaited t tn cfg.world.trace) {m : Incoming} {h : Hist Resp}
    (hown : own (.reader tn.conn) cfg.world.trace = ⟨.ws tn.conn .next, m⟩ :: h)
    (hin : (m.nodeFrame?.bind (·.input tn.cid tn.sid)).isSome = true) :
    ∃ i handle r, (⟨i, .sessions tn.conn (.insert (tn.cid, tn.sid) handle), r⟩ : Ev Tid Resp)
      ∈ cfg.world.trace := by
  have hsuf : ⟨.ws tn.conn .next, m⟩ :: h <:+ own (.reader tn.conn) cfg.world.trace := by rw [hown]
  obtain ⟨past, hs, -⟩ := exists_past_of_own hsuf
  have hspawn := hw.spawned _ _ _ hs hin
  have hev := agent_events (fun past e => ∀ m, e = ⟨.reader tn.conn, .ws tn.conn .next, m⟩ →
    (⟨.reader tn.conn, .spawnTunnel tn, t⟩ : Ev Tid Resp) ∈ past →
      ∃ i handle r, (⟨i, .sessions tn.conn (.insert (tn.cid, tn.sid) handle), r⟩ : Ev Tid Resp)
        ∈ past) ?_ hr _ past hs m rfl hspawn
  · obtain ⟨i, handle, r, hmem⟩ := hev
    exact ⟨i, handle, r, ((List.suffix_cons _ _).trans hs).subset hmem⟩
  · intro cfg i c o r s hr hmay _ _ m heq hspawn
    cases heq
    rcases entered_of_spawned hr hspawn with ⟨r, hmem⟩ | hdue
    · exact ⟨_, _, r, hmem⟩
    · rcases ReaderMay.keeps_enter (r := m) hmay hdue with heq | hdue'
      · cases heq
      · exact absurd hdue' asks_ne_enter

/-! ## From the socket to the queue

A stage that gives what it takes, in order, until it is refused.  `PassesInput` is one step of it;
the cases are what the step is: a message that is read, a lookup, a command that is sent, or
something that the session has no part in. -/

theorem exec_sshStdin {i : Tid} {op : ChanOp SSHCommand} {o : Choice} {r : op.Resp} {s s' : State}
    (h : exec S i (.sshStdin op) o s = some (r, s')) :
    op.exec SSH_CAPACITY false s.sshStdin = some (r, s'.sshStdin) := by
  obtain ⟨x, hexec, hx⟩ := Option.map_eq_some_iff.1 h
  cases hx
  exact hexec

theorem stdin_closed {i : Tid} {c : Cmd} {o : Choice} {r : Resp c} {s s' : State}
    (hexec : exec S i c o s = some (r, s')) (h : (s.sshStdin t).closed = true) :
    (s'.sshStdin t).closed = true := by
  rcases (exec_spares hexec).ssh with ⟨op, rfl⟩ | ⟨j, cmd, heq⟩ | heq
  · exact ChanOp.closed_exec (exec_sshStdin hexec) h
  · cases heq
    rcases select_cases hexec with ⟨_, rest, -, -, rfl⟩ | ⟨_, _, hwake, -⟩ | ⟨hwake | ⟨_, hwake⟩, -⟩
    · show (Function.update s.sshStdin j { s.sshStdin j with queue := rest } t).closed = true
      rcases eq_or_ne t j with rfl | hj
      · rwa [Function.update_self]
      · rwa [Function.update_of_ne hj]
    all_goals cases hwake
  · rwa [heq]

theorem Spurning.step {i : Tid} {c : Cmd} {o : Choice} {r : Resp c} {s : State}
    (hmay : May S i (own i cfg.world.trace) c)
    (hw : Awaited t tn (⟨i, c, r⟩ :: cfg.world.trace))
    (hexec : exec S i c o cfg.world.state = some (r, s)) (h : Spurning t tn cfg.world) :
    Spurning t tn (cfg.world.push i c r s) := by
  cases h with
  | closed hclosed => exact .closed (stdin_closed hexec hclosed)
  | gone hentered hgone hlate =>
      obtain ⟨j, handle, r', hmem⟩ := hentered
      refine .gone ⟨j, handle, r', List.mem_cons_of_mem _ hmem⟩ ?_ ?_
      · rw [World.push_state, (exec_effect hexec).sessions]
        -- an entry is made once, so a session that is gone stays gone
        cases c with
        | sessions k op =>
            rcases eq_or_ne tn.conn k with rfl | hk
            · rw [Cmd.sessionsAfter, Function.update_self]
              by_contra hback
              rcases MapOp.isSome_apply (Option.isSome_iff_ne_none.2 hback) with hold | ⟨v, rfl⟩
              · rw [hgone] at hold
                cases hold
              · exact hw.once _ _ _ _ List.suffix_rfl _ _ _ hmem
            · rw [Cmd.sessionsAfter, Function.update_of_ne hk]
              exact hgone
        | _ => exact hgone
      · rw [World.push_trace]
        by_cases hi : i = .reader tn.conn
        -- and no lookup finds it, so the reader does not hold it in its hands
        · subst hi
          rw [own_cons_self]
          rintro ⟨handle', h', heq⟩
          obtain ⟨hcmd, -⟩ := List.cons.inj heq
          cases hcmd
          have hget := exec_sessions_answer hexec
          simp only [MapOp.answer, Option.some.injEq, hgone] at hget
          cases hget
        · rwa [own_cons_of_ne hi]

/-- A connection is read by its reader, or by `connect` before there is one. -/
theorem May.reads {i : Tid} {h : Hist Resp} {k : Nat} (hm : May S i h (.ws k .next)) :
    i = .reader k ∨ i = .main k ∧ (⟨.spawn k, ()⟩ : Sigma Resp) ∉ h := by
  cases i with
  | reader j =>
      obtain rfl := May.readsOwn hm
      exact .inl rfl
  | main j =>
      cases hm with
      | next halone => exact .inr ⟨rfl, halone⟩
      | close hc | sweep hc => cases hc
  | tunnel t =>
      rcases hm with ⟨-, hc⟩ | ⟨_, -, -, hc⟩
      · cases hc
      · cases hc with
        | sweep hc => cases hc
  | cleanup j => cases hm with | sweep hc => cases hc
  | writer j | heartbeat j => cases hm

/-- Input for the session is read by the reader. -/
theorem Awaited.heard_eq_nil (hr : (machine S).Reach A start cfg) {i : Tid} {c : Cmd} {r : Resp c}
    (hmay : May S i (own i cfg.world.trace) c)
    (hw : Awaited t tn (⟨i, c, r⟩ :: cfg.world.trace)) (hi : i ≠ .reader tn.conn) :
    (heard tn.conn cfg.world.trace ⟨i, c, r⟩).filterMap (·.input tn.cid tn.sid) = [] := by
  by_cases hread : c = .ws tn.conn .next
  · subst hread
    obtain ⟨rfl, halone⟩ := hmay.reads.resolve_left hi
    rw [heard, if_pos rfl, filterMap_toList, Option.toList_eq_nil_iff,
      ← Option.not_isSome_iff_eq_none]
    intro hin
    have hspawned := spawned_of_reader hr (hw.spawned _ _ _ List.suffix_rfl hin)
    exact halone (mem_own.2 hspawned)
  · have hnone : heard tn.conn cfg.world.trace ⟨i, c, r⟩ = [] := by
      unfold heard
      split
      · next heq =>
          cases heq
          exact if_neg fun hj => hread (by rw [hj])
      · rfl
    rw [hnone]
    rfl

theorem mem_commanded {i : Tid} {c : Cmd} {r : Resp c} {past : List (Ev Tid Resp)}
    {cmd : SSHCommand} : cmd ∈ commanded t past ⟨i, c, r⟩ ↔ c.FeedsSsh t cmd r := by
  cases c with
  | sshStdin op => exact ChanOp.mem_puts_iff
  | _ => exact ⟨fun h => absurd h List.not_mem_nil, fun h => h.elim⟩

/-- The tunnel is fed by the reader of its connection, with what is due. -/
theorem Awaited.feeds (hr : (machine S).Reach A start cfg) {i : Tid} {c : Cmd} {r : Resp c}
    (hw : Awaited t tn cfg.world.trace) (hmay : May S i (own i cfg.world.trace) c)
    {cmd : SSHCommand} (hcmd : cmd ∈ commanded t cfg.world.trace ⟨i, c, r⟩) :
    ∃ m g h', i = .reader tn.conn ∧
      own (.reader tn.conn) cfg.world.trace =
        ⟨.sessions tn.conn (.get (tn.cid, tn.sid)), some (.ssh t)⟩ :: ⟨.ws tn.conn .next, m⟩ :: h' ∧
      m.nodeFrame? = some g ∧ sshDelivery g = some ((tn.cid, tn.sid), cmd) := by
  obtain ⟨k, key, m, g, h', rfl, hown, hm, hg⟩ := hmay.feedsSsh (mem_commanded.1 hcmd)
  have hfound : (⟨.reader k, .sessions k (.get key), some (.ssh t)⟩ : Ev Tid Resp)
      ∈ cfg.world.trace := by
    rw [← mem_own, hown]
    exact List.mem_cons_self
  obtain ⟨rfl, rfl⟩ := hw.session_eq hr hfound
  exact ⟨m, g, h', rfl, hown, hm, hg⟩

/-- A step on the way from the socket to the tunnel's queue: what is read is handed on to the
queue, is due, or is dropped for good. -/
def PassesInput (t : Nat) (tn : Tunnel) (w : World State Tid Resp) (i : Tid) (c : Cmd) (r : Resp c)
    (s : State) : Prop :=
  Passes (feeding (tn.cid, tn.sid) (own (.reader tn.conn) w.trace)).toList
    (feeding (tn.cid, tn.sid) (own (.reader tn.conn) (⟨i, c, r⟩ :: w.trace))).toList
    ((heard tn.conn w.trace ⟨i, c, r⟩).filterMap (·.input tn.cid tn.sid))
    ((commanded t w.trace ⟨i, c, r⟩).filterMap SSHCommand.input)
    (Spurning t tn w) (Spurning t tn (w.push i c r s))

/-- The lookup decides: a session that is found keeps the input due, and one that is not found has
been entered before and is gone for good. -/
theorem Awaited.passes_of_lookup (hr : (machine S).Reach A start cfg) {key : Key} {o : Choice}
    {r : Option SessionHandle} {s : State}
    (hw : Awaited t tn (⟨.reader tn.conn, .sessions tn.conn (.get key), r⟩ :: cfg.world.trace))
    {m : Incoming} {g : NodeFrameData} {h : Hist Resp}
    (hown : own (.reader tn.conn) cfg.world.trace = ⟨.ws tn.conn .next, m⟩ :: h)
    (hm : m.nodeFrame? = some g)
    (hg : (∃ cmd, sshDelivery g = some (key, cmd)) ∨ ∃ cmd, sftpDelivery g = some (key, cmd))
    (hexec : exec S (.reader tn.conn) (.sessions tn.conn (.get key)) o cfg.world.state = some (r, s))
    (hstays : Spurning t tn cfg.world →
      Spurning t tn (cfg.world.push (.reader tn.conn) (.sessions tn.conn (.get key)) r s)) :
    PassesInput t tn cfg.world (.reader tn.conn) (.sessions tn.conn (.get key)) r s := by
  rw [PassesInput, own_cons_self]
  have hbefore : feeding (tn.cid, tn.sid) (own (.reader tn.conn) cfg.world.trace) =
      g.input tn.cid tn.sid := by
    rw [hown, feeding_next, hm, Option.bind_some]
  cases hin : g.input tn.cid tn.sid with
  | none =>
      have hafter : feeding (tn.cid, tn.sid)
          (⟨.sessions tn.conn (.get key), r⟩ :: own (.reader tn.conn) cfg.world.trace) = none := by
        match r with
        | none | some (.sftp _) => rfl
        | some (.ssh _) => exact hbefore.trans hin
      rw [hbefore, hin, hafter]
      exact .idle hstays
  | some data =>
      obtain rfl : key = (tn.cid, tn.sid) := by
        cases g with
        | tunnelData protocol cid sid data =>
            simp only [NodeFrameData.input, Option.ite_none_right_eq_some] at hin
            obtain ⟨⟨rfl, rfl, rfl⟩, -⟩ := hin
            rcases hg with ⟨cmd, hcmd⟩ | ⟨cmd, hcmd⟩
            · cases hcmd
              rfl
            · cases hcmd
        | _ => cases hin
      match r with
      | none =>
          refine ⟨.inr ⟨.gone ?_ ?_ ?_, rfl⟩, fun hd => ⟨hstays hd, rfl⟩⟩
          · obtain ⟨i, handle, r', hmem⟩ := (hw.mono _ _ (List.suffix_cons _ _)).entered hr hown (by
              rw [hm, Option.bind_some, hin]
              rfl)
            exact ⟨i, handle, r', List.mem_cons_of_mem _ hmem⟩
          · have hget := exec_sessions_answer hexec
            simp only [MapOp.answer, Option.some.injEq] at hget
            rw [World.push_state, (exec_effect hexec).sessions, Cmd.sessionsAfter,
              Function.update_self]
            exact hget
          · rw [World.push_trace, own_cons_self]
            rintro ⟨_, _, heq⟩
            cases heq
      | some (.sftp t') =>
          have hget := exec_sessions_answer hexec
          simp only [MapOp.answer, Option.some.injEq] at hget
          cases (hw.mono _ _ (List.suffix_cons _ _)).handle_eq hr (tunnel_of_session hr _ _ _ hget)
      | some (.ssh t') => exact .idle hstays

/-- The send decides again, for the queue may have been closed since: what is refused once is
refused for good, so nothing behind it gets through either. -/
theorem Awaited.passes_of_send (hr : (machine S).Reach A start cfg) {key : Key} {cmd : SSHCommand}
    {t' : Nat} {o : Choice} {r : Bool} {s : State} (hw : Awaited t tn cfg.world.trace)
    (hmay : May S (.reader tn.conn) (own (.reader tn.conn) cfg.world.trace)
      (.sshStdin (.send t' cmd)))
    {m : Incoming} {g : NodeFrameData} {h : Hist Resp}
    (hown : own (.reader tn.conn) cfg.world.trace =
      ⟨.sessions tn.conn (.get key), some (.ssh t')⟩ :: ⟨.ws tn.conn .next, m⟩ :: h)
    (hm : m.nodeFrame? = some g) (hg : sshDelivery g = some (key, cmd))
    (hexec : exec S (.reader tn.conn) (.sshStdin (.send t' cmd)) o cfg.world.state = some (r, s))
    (hstays : Spurning t tn cfg.world →
      Spurning t tn (cfg.world.push (.reader tn.conn) (.sshStdin (.send t' cmd)) r s)) :
    PassesInput t tn cfg.world (.reader tn.conn) (.sshStdin (.send t' cmd)) r s := by
  rw [PassesInput, own_cons_self]
  have hbefore : feeding (tn.cid, tn.sid) (own (.reader tn.conn) cfg.world.trace) =
      g.input tn.cid tn.sid := by
    rw [hown]
    show feeding (tn.cid, tn.sid) (⟨.ws tn.conn .next, m⟩ :: h) = _
    rw [feeding_next, hm, Option.bind_some]
  have hafter : feeding (tn.cid, tn.sid)
      (⟨.sshStdin (.send t' cmd), r⟩ :: own (.reader tn.conn) cfg.world.trace) = none := rfl
  rw [hbefore, hafter]
  cases hin : g.input tn.cid tn.sid with
  | none =>
      have hgave : (commanded t cfg.world.trace
          ⟨.reader tn.conn, .sshStdin (.send t' cmd), r⟩).filterMap SSHCommand.input = [] := by
        rw [List.filterMap_eq_nil_iff]
        intro cmd' hcmd'
        obtain ⟨m', g', h', -, hown', hm', hg'⟩ := hw.feeds hr hmay hcmd'
        rw [hown] at hown'
        cases hown'
        rw [hm] at hm'
        cases hm'
        rw [← input_of_sshDelivery hg', hin]
      rw [hgave]
      exact .idle hstays
  | some data =>
      have hkey : key = (tn.cid, tn.sid) ∧ cmd = .data data := by
        cases g with
        | tunnelData protocol cid sid data' =>
            simp only [NodeFrameData.input, Option.ite_none_right_eq_some] at hin
            obtain ⟨⟨rfl, rfl, rfl⟩, heq⟩ := hin
            cases heq
            cases hg
            exact ⟨rfl, rfl⟩
        | _ => cases hin
      obtain ⟨rfl, rfl⟩ := hkey
      have hfound : (⟨.reader tn.conn, .sessions tn.conn (.get (tn.cid, tn.sid)), some (.ssh t')⟩ :
          Ev Tid Resp) ∈ cfg.world.trace := by
        rw [← mem_own, hown]
        exact List.mem_cons_self
      cases hw.handle_eq hr (tunnel_of_get hr _ _ _ _ hfound)
      cases r with
      | true =>
          -- an open queue has taken it, so the session was not refused
          have hgave : (commanded t cfg.world.trace
              ⟨.reader tn.conn, .sshStdin (.send t (.data data)), true⟩).filterMap
                SSHCommand.input = [data] := by
            rw [commanded, ChanOp.puts, if_pos ⟨rfl, rfl⟩]
            rfl
          rw [hgave]
          refine ⟨.inl rfl, fun hd => ?_⟩
          exfalso
          cases hd with
          | closed hclosed =>
              have hnone := ChanOp.puts_of_closed (exec_sshStdin hexec) hclosed
              rw [ChanOp.puts, if_pos ⟨rfl, rfl⟩] at hnone
              cases hnone
          | gone _ _ hlate => exact hlate ⟨_, _, hown⟩
      | false =>
          have hgave : commanded t cfg.world.trace
              ⟨.reader tn.conn, .sshStdin (.send t (.data data)), false⟩ = [] := by
            rw [commanded, ChanOp.puts, if_neg (by simp)]
          rw [hgave]
          refine ⟨.inr ⟨.closed ?_, rfl⟩, fun hd => ⟨hstays hd, rfl⟩⟩
          exact ChanOp.closed_of_send (exec_sshStdin hexec)

/-! ### The other steps

What is read and what is due move in three places only: the reader takes a message, looks a
session up, and sends.  Every other command of the reader is about a frame without input, and the
commands of other tasks are not about this session. -/

section Steps

variable {c : Cmd} {r : Resp c} {s : State}

/-- Another task reads nothing of it and feeds the tunnel nothing. -/
theorem Awaited.passes_of_other (hr : (machine S).Reach A start cfg) {i : Tid}
    (hw : Awaited t tn (⟨i, c, r⟩ :: cfg.world.trace)) (hmay : May S i (own i cfg.world.trace) c)
    (hi : i ≠ .reader tn.conn)
    (hstays : Spurning t tn cfg.world → Spurning t tn (cfg.world.push i c r s)) :
    PassesInput t tn cfg.world i c r s := by
  have hgave : (commanded t cfg.world.trace ⟨i, c, r⟩).filterMap SSHCommand.input = [] := by
    rw [List.filterMap_eq_nil_iff]
    intro cmd hcmd
    obtain ⟨_, _, _, heq, -⟩ := (hw.mono _ _ (List.suffix_cons _ _)).feeds hr hmay hcmd
    exact absurd heq hi
  rw [PassesInput, hw.heard_eq_nil hr hmay hi, hgave, own_cons_of_ne hi]
  exact .idle hstays

/-- The reader takes a message when nothing is due. -/
theorem passes_of_read {m : Incoming}
    (hmay : May S (.reader tn.conn) (own (.reader tn.conn) cfg.world.trace) (.ws tn.conn .next))
    (hstays : Spurning t tn cfg.world →
      Spurning t tn (cfg.world.push (.reader tn.conn) (.ws tn.conn .next) m s)) :
    PassesInput t tn cfg.world (.reader tn.conn) (.ws tn.conn .next) m s := by
  have hempty : feeding (tn.cid, tn.sid) (own (.reader tn.conn) cfg.world.trace) = none := by
    change ReaderMay S tn.conn (own (.reader tn.conn) cfg.world.trace) _ at hmay
    generalize own (.reader tn.conn) cfg.world.trace = h at hmay
    cases hmay with
    | next _ hdone => rw [feeding, hdone, Option.bind_none]
    | close hc | sweep hc => cases hc
  rw [PassesInput, own_cons_self, hempty, feeding_next, heard, if_pos rfl, filterMap_toList]
  exact ⟨.inl rfl, fun hd => ⟨hstays hd, rfl⟩⟩

/-- A tunnel is spawned for a frame that carries no input. -/
theorem feeding_of_spawn {tn' : Tunnel}
    (hmay : May S (.reader tn.conn) (own (.reader tn.conn) cfg.world.trace) (.spawnTunnel tn')) :
    feeding (tn.cid, tn.sid) (own (.reader tn.conn) cfg.world.trace) = none := by
  obtain ⟨-, m, protocol, username, password, h', hown, hm⟩ := hmay.spawns
  rw [hown]
  show feeding (tn.cid, tn.sid) (⟨.ws tn'.conn .next, m⟩ :: h') = none
  rw [feeding_next, hm]
  rfl

/-- An error is put into the queue to the server for a frame that carries no input. -/
theorem feeding_of_out {op : ChanOp NodeFrameData}
    (hmay : May S (.reader tn.conn) (own (.reader tn.conn) cfg.world.trace) (.out op)) :
    feeding (tn.cid, tn.sid) (own (.reader tn.conn) cfg.world.trace) = none := by
  change ReaderMay S tn.conn (own (.reader tn.conn) cfg.world.trace) _ at hmay
  generalize own (.reader tn.conn) cfg.world.trace = h at hmay
  cases hmay with
  | refuse hm =>
      rw [feeding_next, hm]
      rfl
  | close hc | sweep hc => cases hc

end Steps

/-- **What the reader hands on is a beginning of what it reads**, and all of it but what is due
unless the session is refused. -/
theorem heard_commanded (hT : ∀ w i c r, A w i c r → Awaited t tn (⟨i, c, r⟩ :: w.trace))
    (hr : (machine S).Reach A start cfg) :
    Relays
      (stream (fun past e => (heard tn.conn past e).filterMap (·.input tn.cid tn.sid))
        cfg.world.trace)
      (stream (fun past e => (commanded t past e).filterMap SSHCommand.input) cfg.world.trace)
      (feeding (tn.cid, tn.sid) (own (.reader tn.conn) cfg.world.trace)).toList
      (Spurning t tn cfg.world) := by
  refine agent_relays (fun past e => (heard tn.conn past e).filterMap (·.input tn.cid tn.sid))
    (fun past e => (commanded t past e).filterMap SSHCommand.input)
    (fun w => (feeding (tn.cid, tn.sid) (own (.reader tn.conn) w.trace)).toList)
    (fun w => Spurning t tn w) rfl ?_ hr
  intro cfg i c o r s hr hmay hAi hexec
  have hw := hT _ _ _ _ hAi
  have hstays := Spurning.step hmay hw hexec
  by_cases hi : i = .reader tn.conn
  swap
  · exact hw.passes_of_other hr hmay hi hstays
  subst hi
  -- a command that reads nothing, feeds nothing and leaves what is due
  have hidle (hdue : feeding (tn.cid, tn.sid) (⟨c, r⟩ :: own (.reader tn.conn) cfg.world.trace) =
        feeding (tn.cid, tn.sid) (own (.reader tn.conn) cfg.world.trace))
      (hheard : heard tn.conn cfg.world.trace ⟨.reader tn.conn, c, r⟩ = [])
      (hcommanded : commanded t cfg.world.trace ⟨.reader tn.conn, c, r⟩ = []) :
      PassesInput t tn cfg.world (.reader tn.conn) c r s := by
    rw [PassesInput, own_cons_self, hdue, hheard, hcommanded]
    exact .idle hstays
  cases c with
  | ws j op =>
      cases op with
      | next =>
          obtain rfl := May.readsOwn hmay
          exact passes_of_read hmay hstays
      | _ => exact hidle rfl rfl rfl
  | sessions j op =>
      cases op with
      | get key =>
          change ReaderMay S tn.conn (own (.reader tn.conn) cfg.world.trace) _ at hmay
          generalize hown : own (.reader tn.conn) cfg.world.trace = h at hmay
          cases hmay with
          | lookup hm hg =>
              rw [← hown]
              exact hw.passes_of_lookup hr hown hm hg hexec hstays
          | close hc | sweep hc => cases hc
      | insert key handle =>
          obtain ⟨tn', t', h', -, hown, -⟩ := hmay.enters
          exact hidle (by rw [hown]; rfl) rfl rfl
      | _ => exact hidle rfl rfl rfl
  | sshStdin op =>
      have hmay' := hmay
      change ReaderMay S tn.conn (own (.reader tn.conn) cfg.world.trace) _ at hmay
      generalize hown : own (.reader tn.conn) cfg.world.trace = h at hmay
      cases hmay with
      | sendSsh hm hg =>
          rw [← hown]
          exact (hw.mono _ _ (List.suffix_cons _ _)).passes_of_send hr hmay' hown hm hg hexec hstays
      | close hc | sweep hc => cases hc
  | out op => exact hidle (by rw [feeding_of_out hmay]; rfl) rfl rfl
  | spawnTunnel tn' => exact hidle (by rw [feeding_of_spawn hmay]; rfl) rfl rfl
  | _ => exact hidle rfl rfl rfl

/-! ## From the queue to the channel

Nothing is lost behind the queue: the tunnel takes the commands in order, and writes what it has
taken before it waits again. -/

/-- Nothing but a tunnel takes commands out of its queue. -/
theorem May.stdin {i : Tid} {h : Hist Resp} {op : ChanOp SSHCommand}
    (hm : May S i h (.sshStdin op)) : (∃ t cmd, op = .send t cmd) ∨ ∃ t, op = .close t := by
  cases i with
  | reader j =>
      cases hm with
      | sendSsh => exact .inl ⟨_, _, rfl⟩
      | close hc | sweep hc => cases hc
  | tunnel t =>
      rcases hm with ⟨-, hc⟩ | ⟨_, -, -, hc⟩
      · cases hc
      · cases hc with
        | dropSsh => exact .inr ⟨_, rfl⟩
        | sweep hc => cases hc
  | main k => cases hm with | close hc | sweep hc => cases hc
  | cleanup k => cases hm with | sweep hc => cases hc
  | writer k | heartbeat k => cases hm

/-- **The queue keeps its order.** -/
theorem commanded_woken (hr : (machine S).Reach A start cfg) (t : Nat) :
    stream (commanded t) cfg.world.trace =
      stream (woken t) cfg.world.trace ++ (cfg.world.state.sshStdin t).queue := by
  -- an operation of the channel, a wake-up with a command from it, or neither
  refine (agent_relays (commanded t) (woken t) (fun w => (w.state.sshStdin t).queue)
    (fun _ => False) rfl ?_ hr).exact
  intro cfg i c o r s _ hmay _ hexec
  refine ⟨.inl ?_, False.elim⟩
  by_cases hop : ∃ op, c = .sshStdin op
  · obtain ⟨op, rfl⟩ := hop
    have htakes : op.takes t r = [] := by
      obtain ⟨_, _, rfl⟩ | ⟨_, rfl⟩ := hmay.stdin <;> rfl
    have hqueue := ChanOp.queue_exec (x := t) (exec_sshStdin hexec)
    rw [htakes, List.nil_append] at hqueue
    exact hqueue.symm
  · have hputs : commanded t cfg.world.trace ⟨i, c, r⟩ = [] := by
      cases c with
      | sshStdin op => exact absurd ⟨op, rfl⟩ hop
      | _ => rfl
    rw [hputs, List.append_nil]
    by_cases hwake : ∃ j cmd, (⟨c, r⟩ : Sigma Resp) = ⟨.select j, .ssh cmd⟩
    · obtain ⟨j, cmd, heq⟩ := hwake
      cases heq
      rcases select_cases hexec with ⟨_, rest, heq, hq, rfl⟩ | ⟨_, _, heq, -⟩ |
        ⟨heq | ⟨_, heq⟩, -⟩
      · cases heq
        exact queue_pop hq t
      all_goals cases heq
    · have htakes : woken t cfg.world.trace ⟨i, c, r⟩ = [] := by
        unfold woken
        split
        · next heq =>
            cases heq
            exact absurd ⟨_, _, rfl⟩ hwake
        · rfl
      have hsame := ((exec_spares hexec).ssh.resolve_left hop).resolve_left hwake
      rw [htakes, World.push_state, hsame, List.nil_append]

/-! A tunnel that has taken input has it in hand until it has written it: the write is what is
pending, and until then the tunnel issues nothing else (`May.passes`). -/

theorem writingOut_eq_nil {h : Hist Resp} {c : Cmd} {r : Resp c} (hc : ∀ j, c ≠ .select j) :
    writingOut (⟨c, r⟩ :: h) = [] := by
  cases c with
  | select j => exact absurd rfl (hc j)
  | _ => rfl

theorem pending_of_writingOut {h : Hist Resp} {buf : Bytes} (hp : tn.protocol = .ssh)
    (hh : buf ∈ writingOut h) :
    pending S t tn h = some (.ssh t (.data buf)) ∧ writingOut h = [buf] := by
  unfold writingOut at hh ⊢
  split at hh
  · next buf' _ =>
      obtain rfl := List.mem_singleton.1 hh
      exact ⟨if_pos hp, rfl⟩
  · cases hh

theorem May.writesInput {i : Tid} {h : Hist Resp} {j : Nat} {buf : Bytes}
    (hm : May S i h (.ssh j (.data buf))) :
    i = .tunnel j ∧ ∃ h', h = ⟨.select j, .ssh (.data buf)⟩ :: h' := by
  obtain ⟨t, rfl, ⟨-, hc⟩ | ⟨_, -, -, hc⟩⟩ := hm.byTunnel rfl
  · cases hc
  · cases hc with
    | ssh hop => cases hop
    | input => exact ⟨rfl, _, rfl⟩
    | sweep hc => cases hc

/-- **The tunnel writes what it takes**, and has the last of it in hand. -/
theorem woken_written (hT : ∀ w i c r, A w i c r → Awaited t tn (⟨i, c, r⟩ :: w.trace))
    (hr : (machine S).Reach A start cfg) :
    stream (fun past e => (woken t past e).filterMap SSHCommand.input) cfg.world.trace =
      stream (written t) cfg.world.trace ++ writingOut (own (.tunnel t) cfg.world.trace) := by
  refine (agent_relays (fun past e => (woken t past e).filterMap SSHCommand.input) (written t)
    (fun w => writingOut (own (.tunnel t) w.trace)) (fun _ => False) rfl ?_ hr).exact
  intro cfg i c o r s hr hmay hAi hexec
  have hw := (hT _ _ _ _ hAi).mono _ _ (List.suffix_cons _ _)
  refine ⟨.inl ?_, False.elim⟩
  rw [World.push_trace]
  -- the tunnel takes a command, writes what it has in hand, or does something else meanwhile
  by_cases hsel : ∃ j, c = .select j
  · obtain ⟨j, rfl⟩ := hsel
    obtain ⟨rfl, tn', hb, hidle⟩ := hmay.selects
    by_cases hj : j = t
    · subst hj
      have hspawn := spawned_of_tunnel hr _ _ (tunnel_of_begin hr _ _ hb.isTunnel)
      obtain ⟨-, rfl⟩ := hw.sole _ _ hspawn (.inl rfl)
      have hempty : writingOut (own (.tunnel j) cfg.world.trace) = [] := by
        rw [List.eq_nil_iff_forall_not_mem]
        intro buf hbuf
        rw [(pending_of_writingOut (S := S) (t := j) hw.ssh hbuf).1] at hidle
        cases hidle
      rw [own_cons_self, hempty]
      match r with
      | .ssh (.data buf) =>
          rw [woken, if_pos rfl]
          rfl
      | .ssh (.resize ..) =>
          rw [woken, if_pos rfl]
          rfl
      | .shutdown | .sftp _ | .message _ => rfl
    · have hne : Tid.tunnel j ≠ .tunnel t := fun heq => hj (Tid.tunnel.inj heq)
      have htook : woken t cfg.world.trace ⟨.tunnel j, .select j, r⟩ = [] := by
        unfold woken
        split
        · next heq =>
            cases heq
            exact if_neg hj
        · rfl
      rw [own_cons_of_ne hne, htook]
      exact List.append_nil _
  · have hc : ∀ j, c ≠ .select j := fun j heq => hsel ⟨j, heq⟩
    have htook : woken t cfg.world.trace ⟨i, c, r⟩ = [] := by
      cases c with
      | select j => exact absurd rfl (hc j)
      | _ => rfl
    rw [htook, List.filterMap_nil, List.append_nil]
    by_cases hwrite : ∃ buf, c = .ssh t (.data buf)
    · obtain ⟨buf, rfl⟩ := hwrite
      obtain ⟨rfl, h', hown⟩ := hmay.writesInput
      rw [own_cons_self, hown, written, if_pos rfl]
      rfl
    · have hgave : written t cfg.world.trace ⟨i, c, r⟩ = [] := by
        unfold written
        split
        · next heq =>
            cases heq
            exact if_neg fun hj => hwrite ⟨_, by rw [hj]⟩
        · rfl
      rw [hgave, List.nil_append]
      by_cases hi : i = .tunnel t
      · subst hi
        rw [own_cons_self, writingOut_eq_nil hc, List.eq_nil_iff_forall_not_mem]
        intro buf hbuf
        obtain ⟨tn', hb⟩ : ∃ tn', Began t tn' (own (.tunnel t) cfg.world.trace) := by
          rcases hmay with ⟨hnil, -⟩ | ⟨tn', hb, -, -⟩
          · rw [hnil] at hbuf
            cases hbuf
          · exact ⟨tn', hb⟩
        have hspawn := spawned_of_tunnel hr _ _ (tunnel_of_begin hr _ _ hb.isTunnel)
        obtain ⟨-, rfl⟩ := hw.sole _ _ hspawn (.inl rfl)
        have hdue := (pending_of_writingOut (S := S) (t := t) hw.ssh hbuf).1
        exact hwrite ⟨buf, hmay.passes hb hdue⟩
      · rw [own_cons_of_ne hi]

/-- **What a shell is fed** is a beginning of the input read from its connection for it. -/
theorem written_heard (hT : ∀ w i c r, A w i c r → Awaited t tn (⟨i, c, r⟩ :: w.trace))
    (hr : (machine S).Reach A start cfg) :
    stream (written t) cfg.world.trace <+:
      (stream (heard tn.conn) cfg.world.trace).filterMap (·.input tn.cid tn.sid) := by
  have hheard := (heard_commanded hT hr).isPrefix
  rw [← filterMap_stream, ← filterMap_stream, commanded_woken hr, List.filterMap_append,
    filterMap_stream, woken_written hT hr, List.append_assoc] at hheard
  exact (List.prefix_append _ _).trans hheard

end Input

end Phirepass.Agent
