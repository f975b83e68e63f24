/-
# `Phirepass.Agent.Alone` — a transfer command on its own

What a command of an SFTP tunnel does is decided by the maps of its
connection and by what the host answers.  `Local` holds the maps, the frames
handed to the queue so far and the state of the host, and `Remote` says how the
host answers; with a host every command has one outcome, and a function of the
tunnel can simply be run.

    the queue     takes every frame: `send` waits for room
    the maps      the connection's own, nobody else using them
    the host      any function of its own state

The guard of `get_mut` is held while a chunk is read or written, so that no
other task comes between the steps of one chunk.  `runs_of_local` is the way
back to the agent: such a run is one of the tunnel's task, the others standing
still, wherever the queue has room for its frames.
-/
import Phirepass.Agent.Sftp
import Phirepass.Interleave.Solo

namespace Phirepass.Agent

open Rust Interleave

/-- What answers a tunnel's calls outside the agent, with a state of its own. -/
structure Remote (η : Type) where
  sftp : η → (op : SftpOp) → op.Resp × η
  now : η → Time × η

/-- What a transfer command reads and writes. -/
structure Local (η : Type) where
  nextId : UInt32
  uploads : DashMap Key FileUpload
  downloads : DashMap Key FileDownload
  /-- The frames handed to the queue. -/
  sent : List NodeFrameData
  host : η

/-- One command of a tunnel of connection `k`, on its own. -/
def Remote.exec {η : Type} (H : Remote η) (S : Setup) (k : Nat) :
    (c : Cmd) → Local η → Option (Resp c × Local η)
  | .uploads j op, w =>
      if j = k then (op.exec w.uploads none).map fun x => (x.1, { w with uploads := x.2 })
      else none
  | .downloads j op, w =>
      if j = k then (op.exec w.downloads none).map fun x => (x.1, { w with downloads := x.2 })
      else none
  | .out (.send j g), w => if j = k then some (true, { w with sent := w.sent ++ [g] }) else none
  | .generateId j, w =>
      if j = k then some (w.nextId, { w with nextId := w.nextId + 1 }) else none
  | .sftp op, w => some ((H.sftp w.host op).1, { w with host := (H.sftp w.host op).2 })
  | .now, w => some ((H.now w.host).1, { w with host := (H.now w.host).2 })
  | .overflow, w => if S.overflowChecks then none else some ((), w)
  | _, _ => none

/-! ## Running -/

section Run

variable {η α : Type} {H : Remote η} {S : Setup} {tn : Tunnel} {w : Local η}

/-- What a function of the tunnel `tn` does on its own. -/
abbrev runLocal (H : Remote η) (S : Setup) (tn : Tunnel) (p : Action α) (w : Local η) :
    Option (α × Local η) :=
  p.run (H.exec S tn.conn) w

/-- One function after another. -/
theorem run_local_bind {β : Type} {p : Action α} {f : α → Action β} {a : α} {w' : Local η}
    (h : runLocal H S tn p w = some (a, w')) :
    runLocal H S tn (p >>= f) w = runLocal H S tn (f a) w' := by
  unfold runLocal at h ⊢
  rw [Prog.run_bind, h, Option.bind_some]

theorem run_uploads {op : MapOp Key FileUpload} {f : op.Resp → Action α} {r : op.Resp}
    (h : op.answer w.uploads none = some r) :
    runLocal H S tn (call (.uploads tn.conn op) >>= f) w =
      runLocal H S tn (f r) { w with uploads := op.apply w.uploads } := by
  refine Prog.run_perform ?_
  simp [Remote.exec, MapOp.exec, h]

theorem run_downloads {op : MapOp Key FileDownload} {f : op.Resp → Action α} {r : op.Resp}
    (h : op.answer w.downloads none = some r) :
    runLocal H S tn (call (.downloads tn.conn op) >>= f) w =
      runLocal H S tn (f r) { w with downloads := op.apply w.downloads } := by
  refine Prog.run_perform ?_
  simp [Remote.exec, MapOp.exec, h]

theorem run_sftp {op : SftpOp} {f : op.Resp → Action α} :
    runLocal H S tn (call (.sftp op) >>= f) w =
      runLocal H S tn (f (H.sftp w.host op).1) { w with host := (H.sftp w.host op).2 } :=
  Prog.run_perform rfl

theorem run_now {f : Time → Action α} :
    runLocal H S tn (call .now >>= f) w =
      runLocal H S tn (f (H.now w.host).1) { w with host := (H.now w.host).2 } :=
  Prog.run_perform rfl

theorem run_generateId {f : UInt32 → Action α} :
    runLocal H S tn (call (.generateId tn.conn) >>= f) w =
      runLocal H S tn (f w.nextId) { w with nextId := w.nextId + 1 } :=
  Prog.run_perform (if_pos rfl)

theorem run_reply {frame : WebFrameData} :
    runLocal H S tn (reply tn frame) w =
      some ((), { w with sent := w.sent ++ [.webFrame frame (.sessionId tn.sid)] }) :=
  (Prog.run_perform (if_pos rfl)).trans rfl

/-- A reply, and what follows it. -/
theorem run_reply_bind {frame : WebFrameData} {f : Unit → Action α} :
    runLocal H S tn (reply tn frame >>= f) w =
      runLocal H S tn (f ()) { w with sent := w.sent ++ [.webFrame frame (.sessionId tn.sid)] } :=
  Prog.run_perform (if_pos rfl)

/-- An addition that overflows ends the task where the profile checks it. -/
theorem run_addU32 {a b : UInt32} {f : UInt32 → Action α} :
    runLocal H S tn (addU32 a b >>= f) w =
      if 2 ^ 32 ≤ a.toNat + b.toNat ∧ S.overflowChecks = true then none
      else runLocal H S tn (f (a + b)) w := by
  unfold addU32
  by_cases hlt : a.toNat + b.toNat < 2 ^ 32
  · rw [if_pos hlt, if_neg (by omega)]
    rfl
  · rw [if_neg hlt]
    cases hc : S.overflowChecks with
    | true =>
        rw [if_pos ⟨by omega, rfl⟩]
        exact Prog.run_perform_none (by simp [Remote.exec, hc])
    | false =>
        rw [if_neg (by simp)]
        refine Prog.run_perform (r := ()) ?_
        simp [Remote.exec, hc]

end Run

/-! ## Back to the agent -/

/-- The agent's state holds what `w` holds, and the frames lie in the queue behind `before`. -/
structure Holds {η : Type} (S : Setup) (k : Nat) (before : List NodeFrameData) (w : Local η)
    (s : State) : Prop where
  nextId : s.idCounter (S.proc k) = w.nextId
  uploads : s.uploads k = w.uploads
  downloads : s.downloads k = w.downloads
  queue : s.out k = ⟨before ++ w.sent, false⟩

/-- A read fills at most its buffer. -/
def Remote.FitsBuffer {η : Type} (H : Remote η) : Prop :=
  ∀ h file bytes, (H.sftp h (.read file)).1 = .ok bytes → bytes.length ≤ CHUNK_SIZE

section Back

variable {η α : Type} {H : Remote η} {S : Setup} {tn : Tunnel} {w w' : Local η} {s : State}
  {before : List NodeFrameData} {i : Tid}

/-- Every answer of such a host is one the environment may choose. -/
theorem exists_answer (hfits : H.FitsBuffer) (h : η) (op : SftpOp) :
    ∃ o : Choice, op.answer o = (H.sftp h op).1 := by
  have hunit (x : Except String Unit) :
      ∃ o : Choice, (if o.fail then .error o.text else .ok ()) = x := by
    cases x with
    | error err => exact ⟨{ fail := true, text := err }, rfl⟩
    | ok u => exact ⟨{}, rfl⟩
  cases op with
  | writeAll | seek | rename | removeFile | syncAll => exact hunit _
  | canonicalize path =>
      cases hans : (H.sftp h (.canonicalize path)).1 with
      | error err => exact ⟨{ fail := true, text := err }, rfl⟩
      | ok absPath => exact ⟨{ text := absPath }, rfl⟩
  | metadata path =>
      cases hans : (H.sftp h (.metadata path)).1 with
      | error err => exact ⟨{ fail := true, text := err }, rfl⟩
      | ok size => exact ⟨{ size := size }, rfl⟩
  | readDir path =>
      cases hans : (H.sftp h (.readDir path)).1 with
      | error err => exact ⟨{ fail := true, text := err }, rfl⟩
      | ok entries => exact ⟨{ entries := entries }, rfl⟩
  | openWithFlags path =>
      cases hans : (H.sftp h (.openWithFlags path)).1 with
      | error err => exact ⟨{ fail := true, text := err }, rfl⟩
      | ok file => exact ⟨{ file := file }, rfl⟩
  | «open» path =>
      cases hans : (H.sftp h (.open path)).1 with
      | error err => exact ⟨{ fail := true, text := err }, rfl⟩
      | ok file => exact ⟨{ file := file }, rfl⟩
  | read file =>
      cases hans : (H.sftp h (.read file)).1 with
      | error err => exact ⟨{ fail := true, text := err }, rfl⟩
      | ok bytes =>
          refine ⟨{ bytes := bytes }, ?_⟩
          show Except.ok (bytes.take CHUNK_SIZE) = _
          rw [List.take_of_length_le (hfits h file bytes hans)]

/-- A command never takes a frame back. -/
theorem sent_mono {c : Cmd} {r : Resp c} (h : H.exec S tn.conn c w = some (r, w')) :
    w.sent.length ≤ w'.sent.length := by
  cases c with
  | uploads j op | downloads j op =>
      simp only [Remote.exec, Option.ite_none_right_eq_some] at h
      obtain ⟨x, -, hx⟩ := Option.map_eq_some_iff.1 h.2
      cases hx
      exact le_rfl
  | out op =>
      cases op with
      | send j g =>
          simp only [Remote.exec, Option.ite_none_right_eq_some, Option.some.injEq] at h
          cases h.2
          simp
      | trySend | recv | close => cases h
  | generateId j =>
      simp only [Remote.exec, Option.ite_none_right_eq_some, Option.some.injEq] at h
      cases h.2
      exact le_rfl
  | sftp op =>
      cases h
      exact le_rfl
  | now =>
      cases h
      exact le_rfl
  | overflow =>
      simp only [Remote.exec] at h
      split at h
      · cases h
      · cases h
        exact le_rfl
  | _ => cases h

/-- **One command**, on its own and on the agent's state. -/
theorem exec_of_local (hfits : H.FitsBuffer) {c : Cmd} {r : Resp c}
    (h : H.exec S tn.conn c w = some (r, w'))
    (hroom : before.length + w'.sent.length ≤ OUT_CAPACITY) (hs : Holds S tn.conn before w s) :
    ∃ o s', exec S i c o s = some (r, s') ∧ Holds S tn.conn before w' s' := by
  obtain ⟨hid, hup, hdown, hqueue⟩ := hs
  cases c with
  | uploads j op =>
      simp only [Remote.exec, Option.ite_none_right_eq_some] at h
      obtain ⟨rfl, h⟩ := h
      obtain ⟨x, hexec, hx⟩ := Option.map_eq_some_iff.1 h
      cases hx
      refine ⟨{}, { s with uploads := Function.update s.uploads tn.conn x.2 }, ?_,
        ⟨hid, Function.update_self .., hdown, hqueue⟩⟩
      show (op.exec (s.uploads tn.conn) none).map _ = _
      rw [hup, hexec]
      rfl
  | downloads j op =>
      simp only [Remote.exec, Option.ite_none_right_eq_some] at h
      obtain ⟨rfl, h⟩ := h
      obtain ⟨x, hexec, hx⟩ := Option.map_eq_some_iff.1 h
      cases hx
      refine ⟨{}, { s with downloads := Function.update s.downloads tn.conn x.2 }, ?_,
        ⟨hid, hup, Function.update_self .., hqueue⟩⟩
      show (op.exec (s.downloads tn.conn) none).map _ = _
      rw [hdown, hexec]
      rfl
  | out op =>
      cases op with
      | send j g =>
          simp only [Remote.exec, Option.ite_none_right_eq_some, Option.some.injEq] at h
          obtain ⟨rfl, h⟩ := h
          cases h
          have hlt : (before ++ w.sent).length < OUT_CAPACITY := by
            simp only [List.length_append, List.length_singleton] at hroom ⊢
            omega
          refine ⟨{}, { s with
            out := Function.update s.out tn.conn ⟨before ++ w.sent ++ [g], false⟩ }, ?_,
            ⟨hid, hup, hdown, ?_⟩⟩
          · simp [exec, ChanOp.exec, hqueue, List.length_append ▸ hlt]
          · exact (Function.update_self ..).trans (by rw [List.append_assoc])
      | trySend | recv | close => cases h
  | generateId j =>
      simp only [Remote.exec, Option.ite_none_right_eq_some, Option.some.injEq] at h
      obtain ⟨rfl, h⟩ := h
      cases h
      refine ⟨{}, { s with
        idCounter := Function.update s.idCounter (S.proc tn.conn)
          (s.idCounter (S.proc tn.conn) + 1) }, ?_, ⟨?_, hup, hdown, hqueue⟩⟩
      · show some (s.idCounter (S.proc tn.conn), _) = _
        rw [hid]
      · exact (Function.update_self ..).trans (by rw [hid])
  | sftp op =>
      cases h
      obtain ⟨o, ho⟩ := exists_answer hfits w.host op
      refine ⟨o, s, ?_, ⟨hid, hup, hdown, hqueue⟩⟩
      show some (op.answer o, s) = _
      rw [ho]
  | now =>
      cases h
      exact ⟨{ now := (H.now w.host).1 }, s, rfl, ⟨hid, hup, hdown, hqueue⟩⟩
  | overflow =>
      simp only [Remote.exec] at h
      split at h
      · cases h
      · next hchecks =>
          cases h
          exact ⟨{}, s, if_neg hchecks, ⟨hid, hup, hdown, hqueue⟩⟩
  | _ => cases h

/-- **A run on its own is one of the tunnel's task**, from every state that holds what it
starts with and has room in the queue for what it sends. -/
theorem runs_of_local (hfits : H.FitsBuffer) {p : Action α} {a : α}
    (hrun : runLocal H S tn p w = some (a, w'))
    (hroom : before.length + w'.sent.length ≤ OUT_CAPACITY) (hs : Holds S tn.conn before w s) :
    ∃ s', p.Runs (exec S i) s a s' ∧ Holds S tn.conn before w' s' := by
  refine Prog.runs_of_run (fun w => before.length + w.sent.length ≤ OUT_CAPACITY)
    (Holds S tn.conn before) ?_ ?_ hrun hroom hs
  · intro c w r w' hexec hok
    have hle := sent_mono hexec
    omega
  · intro c w r w' s hexec hok hs
    exact exec_of_local hfits hexec hok hs

end Back

end Phirepass.Agent
