/-
# `Phirepass.Agent.Exec` — what the commands do

`exec` runs one command of one task, and the lemmas below it say which
commands touch what.  The two counters are per process; a `fetch_add` wraps.
Everything the host's SSH server or the clock answers is the environment's
choice, except that a read fills at most its buffer.
-/
import Phirepass.Agent.State

namespace Phirepass.Agent

open Rust Interleave

/-- `channel::<Frame>(1024)`. -/
def OUT_CAPACITY : Nat := 1024

/-- `channel::<SSHCommand>(512)`. -/
def SSH_CAPACITY : Nat := 512

/-- `channel::<SFTPCommand>(2048)`. -/
def SFTP_CAPACITY : Nat := 2048

/-- `CHUNK_SIZE`. -/
def CHUNK_SIZE : Nat := 65536

def SshOp.answer (o : Choice) : (op : SshOp) → op.Resp
  | .authenticate _ => if o.fail then .error o.text else .ok o.accepted
  | .connect _ | .channelOpenSession | .requestPty | .requestShell | .requestSubsystem
  | .newSftpSession | .data _ | .windowChange _ _ _ _ | .eof | .close | .disconnect =>
      if o.fail then .error o.text else .ok ()

def SftpOp.answer (o : Choice) : (op : SftpOp) → op.Resp
  | .canonicalize _ => if o.fail then .error o.text else .ok o.text
  | .metadata _ => if o.fail then .error o.text else .ok o.size
  | .readDir _ => if o.fail then .error o.text else .ok o.entries
  | .openWithFlags _ | .open _ => if o.fail then .error o.text else .ok o.file
  | .read _ => if o.fail then .error o.text else .ok (o.bytes.take CHUNK_SIZE)
  | .writeAll _ _ | .seek _ _ | .rename _ _ | .removeFile _ | .syncAll _ =>
      if o.fail then .error o.text else .ok ()

/-- A receiver stops when every sender is gone, which takes `connect` to have returned. -/
def stops {α : Type} (o : Choice) (returned : Nat → Bool) : ChanOp α → Bool
  | .recv rx => o.fail && returned rx
  | _ => false

/-- The `select!` of a tunnel task.  Its `biased` order only decides between branches that
are ready at one poll, so every ready branch may be taken.  The stop signal also counts as
given when the handle is dropped with the maps of a connection that has returned. -/
def select (o : Choice) (s : State) (t : Nat) : Option (Wake × State) :=
  match s.tunnels[t]? with
  | none => none
  | some tunnel =>
      match o.branch with
      | .shutdown =>
          if s.stopped t || (o.fail && s.returned tunnel.conn) then some (.shutdown, s) else none
      | .command =>
          match tunnel.protocol with
          | .ssh =>
              match (s.sshStdin t).queue with
              | cmd :: rest =>
                  some (.ssh cmd, { s with
                    sshStdin := Function.update s.sshStdin t { s.sshStdin t with queue := rest } })
              | [] => none
          | .sftp =>
              match (s.sftpStdin t).queue with
              | cmd :: rest =>
                  some (.sftp cmd, { s with
                    sftpStdin :=
                      Function.update s.sftpStdin t { s.sftpStdin t with queue := rest } })
              | [] => none
      | .message msg =>
          match tunnel.protocol with
          | .ssh => some (.message msg, s)
          | .sftp => none

/-- One command of one task. -/
def exec (S : Setup) (_i : Tid) : (c : Cmd) → Choice → State → Option (Resp c × State)
  | .ws _ .connect, o, s => some (!o.fail, s)
  | .ws _ .next, o, s => some (o.incoming, s)
  | .ws _ (.send _), o, s => some (!o.fail, s)
  | .out op, o, s =>
      (op.exec OUT_CAPACITY (stops o s.returned op) s.out).map fun x =>
        (x.1, { s with out := x.2 })
  | .sessions k op, o, s =>
      (op.exec (s.sessions k) o.pick).map fun x =>
        (x.1, { s with sessions := Function.update s.sessions k x.2 })
  | .uploads k op, o, s =>
      (op.exec (s.uploads k) o.pick).map fun x =>
        (x.1, { s with uploads := Function.update s.uploads k x.2 })
  | .downloads k op, o, s =>
      (op.exec (s.downloads k) o.pick).map fun x =>
        (x.1, { s with downloads := Function.update s.downloads k x.2 })
  | .sshStdin op, _, s =>
      (op.exec SSH_CAPACITY false s.sshStdin).map fun x => (x.1, { s with sshStdin := x.2 })
  | .sftpStdin op, _, s =>
      (op.exec SFTP_CAPACITY false s.sftpStdin).map fun x => (x.1, { s with sftpStdin := x.2 })
  | .stop t, _, s => some ((), { s with stopped := Function.update s.stopped t true })
  | .generateSessionId k, _, s =>
      some (s.sessionId (S.proc k), { s with
        sessionId := Function.update s.sessionId (S.proc k) (s.sessionId (S.proc k) + 1) })
  | .generateId k, _, s =>
      some (s.idCounter (S.proc k), { s with
        idCounter := Function.update s.idCounter (S.proc k) (s.idCounter (S.proc k) + 1) })
  | .spawnTunnel tunnel, _, s =>
      some (s.tunnels.length, { s with tunnels := s.tunnels ++ [tunnel] })
  | .begin t, _, s => s.tunnels[t]?.map fun tunnel => (tunnel, s)
  | .select t, o, s => select o s t
  | .ssh _ op, o, s => some (op.answer o, s)
  | .sftp op, o, s => some (op.answer o, s)
  | .now, o, s => some (o.now, s)
  | .stats, o, s => some (o.stats, s)
  | .loadHeartbeat k, _, s => some (s.lastHeartbeat k, s)
  | .storeHeartbeat k at_, _, s =>
      some ((), { s with lastHeartbeat := Function.update s.lastHeartbeat k at_ })
  | .spawn k, _, s => some ((), { s with started := Function.update s.started k true })
  | .started k, _, s => if s.started k then some ((), s) else none
  | .tick k, o, s =>
      if o.fail then
        if s.cancelled k then some (false, s) else none
      else some (true, s)
  | .cancel k, _, s => some ((), { s with cancelled := Function.update s.cancelled k true })
  | .ended k, _, s => some ((), { s with ended := Function.update s.ended k true })
  | .wait k, _, s => if s.ended k || s.cancelled k then some ((), s) else none
  | .returned k, _, s => some ((), { s with returned := Function.update s.returned k true })
  | .overflow, _, s => if S.overflowChecks then none else some ((), s)
  | .panic _, _, _ => none
  | .finish, _, s => some ((), s)

/-! ## Which command touches what -/

def Cmd.sessionsAfter (m : Nat → DashMap Key SessionHandle) :
    Cmd → Nat → DashMap Key SessionHandle
  | .sessions k op => Function.update m k (op.apply (m k))
  | _ => m

def Cmd.uploadsAfter (m : Nat → DashMap Key FileUpload) : Cmd → Nat → DashMap Key FileUpload
  | .uploads k op => Function.update m k (op.apply (m k))
  | _ => m

def Cmd.downloadsAfter (m : Nat → DashMap Key FileDownload) :
    Cmd → Nat → DashMap Key FileDownload
  | .downloads k op => Function.update m k (op.apply (m k))
  | _ => m

def Cmd.tunnelsAfter (ts : List Tunnel) : Cmd → List Tunnel
  | .spawnTunnel tunnel => ts ++ [tunnel]
  | _ => ts

def Cmd.sessionIdAfter (S : Setup) (ids : Nat → UInt32) : Cmd → Nat → UInt32
  | .generateSessionId k => Function.update ids (S.proc k) (ids (S.proc k) + 1)
  | _ => ids

/-- The command enqueued the frame `g` on connection `k`. -/
def Cmd.Emits (k : Nat) (g : NodeFrameData) : (c : Cmd) → Resp c → Prop
  | .out op, r => op.Enqueues k g r
  | _, _ => False

/-- It handed `cmd` to the SSH tunnel `t`. -/
def Cmd.FeedsSsh (t : Nat) (cmd : SSHCommand) : (c : Cmd) → Resp c → Prop
  | .sshStdin op, r => op.Enqueues t cmd r
  | _, _ => False

/-- It handed `cmd` to the SFTP tunnel `t`. -/
def Cmd.FeedsSftp (t : Nat) (cmd : SFTPCommand) : (c : Cmd) → Resp c → Prop
  | .sftpStdin op, r => op.Enqueues t cmd r
  | _, _ => False

/-- What one executed command did to the components the invariants are about. -/
structure Effect (S : Setup) (c : Cmd) (r : Resp c) (s s' : State) : Prop where
  sessions : s'.sessions = c.sessionsAfter s.sessions
  uploads : s'.uploads = c.uploadsAfter s.uploads
  downloads : s'.downloads = c.downloadsAfter s.downloads
  tunnels : s'.tunnels = c.tunnelsAfter s.tunnels
  sessionId : s'.sessionId = c.sessionIdAfter S s.sessionId
  out : ∀ k g, g ∈ (s'.out k).queue → g ∈ (s.out k).queue ∨ c.Emits k g r
  ssh : ∀ t cmd, cmd ∈ (s'.sshStdin t).queue → cmd ∈ (s.sshStdin t).queue ∨ c.FeedsSsh t cmd r
  sftp : ∀ t cmd, cmd ∈ (s'.sftpStdin t).queue → cmd ∈ (s.sftpStdin t).queue ∨ c.FeedsSftp t cmd r

section Exec

variable {S : Setup} {i : Tid} {o : Choice} {s s' : State}

/-- What a `select!` can come back with. -/
theorem select_cases {t : Nat} {wake : Wake} (h : select o s t = some (wake, s')) :
    (∃ cmd rest, wake = .ssh cmd ∧ (s.sshStdin t).queue = cmd :: rest ∧
        s' = { s with
          sshStdin := Function.update s.sshStdin t { s.sshStdin t with queue := rest } }) ∨
      (∃ cmd rest, wake = .sftp cmd ∧ (s.sftpStdin t).queue = cmd :: rest ∧
        s' = { s with
          sftpStdin := Function.update s.sftpStdin t { s.sftpStdin t with queue := rest } }) ∨
      ((wake = .shutdown ∨ ∃ msg, wake = .message msg) ∧ s' = s) := by
  unfold select at h
  split at h
  · cases h
  · split at h
    · split at h
      · cases h
        exact .inr (.inr ⟨.inl rfl, rfl⟩)
      · cases h
    · split at h
      · split at h
        · next cmd rest hq =>
            cases h
            exact .inl ⟨cmd, rest, rfl, hq, rfl⟩
        · cases h
      · split at h
        · next cmd rest hq =>
            cases h
            exact .inr (.inl ⟨cmd, rest, rfl, hq, rfl⟩)
        · cases h
    · next msg _ =>
        split at h
        · cases h
          exact .inr (.inr ⟨.inr ⟨msg, rfl⟩, rfl⟩)
        · cases h

/-- Taking the first element leaves the rest. -/
theorem queue_pop {α : Type} {cs : Nat → Chan α} {t : Nat} {a : α} {rest : List α}
    (hq : (cs t).queue = a :: rest) (x : Nat) :
    (cs x).queue = (if t = x then [a] else []) ++
      (Function.update cs t { cs t with queue := rest } x).queue := by
  rcases eq_or_ne t x with rfl | hx
  · rw [if_pos rfl, Function.update_self, hq]
    rfl
  · rw [if_neg hx, Function.update_of_ne hx.symm, List.nil_append]

theorem mem_of_pop {α : Type} {cs : Nat → Chan α} {t x : Nat} {a b : α} {rest : List α}
    (hq : (cs t).queue = b :: rest)
    (ha : a ∈ (Function.update cs t { cs t with queue := rest } x).queue) : a ∈ (cs x).queue := by
  rw [queue_pop hq x]
  exact List.mem_append_right _ ha

theorem exec_effect {c : Cmd} {r : Resp c} (h : exec S i c o s = some (r, s')) :
    Effect S c r s s' := by
  cases c with
  | ws k op =>
      cases op <;> cases h <;>
        exact ⟨rfl, rfl, rfl, rfl, rfl, fun _ _ => .inl, fun _ _ => .inl, fun _ _ => .inl⟩
  | out op =>
      obtain ⟨x, hexec, hx⟩ := Option.map_eq_some_iff.1 h
      cases hx
      exact ⟨rfl, rfl, rfl, rfl, rfl, fun _ _ => ChanOp.mem_queue_exec hexec, fun _ _ => .inl,
        fun _ _ => .inl⟩
  | sshStdin op =>
      obtain ⟨x, hexec, hx⟩ := Option.map_eq_some_iff.1 h
      cases hx
      exact ⟨rfl, rfl, rfl, rfl, rfl, fun _ _ => .inl, fun _ _ => ChanOp.mem_queue_exec hexec,
        fun _ _ => .inl⟩
  | sftpStdin op =>
      obtain ⟨x, hexec, hx⟩ := Option.map_eq_some_iff.1 h
      cases hx
      exact ⟨rfl, rfl, rfl, rfl, rfl, fun _ _ => .inl, fun _ _ => .inl,
        fun _ _ => ChanOp.mem_queue_exec hexec⟩
  | sessions k op | uploads k op | downloads k op =>
      obtain ⟨x, hexec, hx⟩ := Option.map_eq_some_iff.1 h
      obtain ⟨-, hm⟩ := MapOp.exec_eq_some.1 hexec
      cases hx
      rw [hm]
      exact ⟨rfl, rfl, rfl, rfl, rfl, fun _ _ => .inl, fun _ _ => .inl, fun _ _ => .inl⟩
  | begin t =>
      obtain ⟨x, -, hx⟩ := Option.map_eq_some_iff.1 h
      cases hx
      exact ⟨rfl, rfl, rfl, rfl, rfl, fun _ _ => .inl, fun _ _ => .inl, fun _ _ => .inl⟩
  | select t =>
      rcases select_cases h with ⟨_, _, -, hq, rfl⟩ | ⟨_, _, -, hq, rfl⟩ | ⟨-, rfl⟩
      · exact ⟨rfl, rfl, rfl, rfl, rfl, fun _ _ => .inl, fun _ _ ha => .inl (mem_of_pop hq ha),
          fun _ _ => .inl⟩
      · exact ⟨rfl, rfl, rfl, rfl, rfl, fun _ _ => .inl, fun _ _ => .inl,
          fun _ _ ha => .inl (mem_of_pop hq ha)⟩
      · exact ⟨rfl, rfl, rfl, rfl, rfl, fun _ _ => .inl, fun _ _ => .inl, fun _ _ => .inl⟩
  | started k | wait k =>
      simp only [exec] at h
      split at h
      · cases h
        exact ⟨rfl, rfl, rfl, rfl, rfl, fun _ _ => .inl, fun _ _ => .inl, fun _ _ => .inl⟩
      · cases h
  | tick k =>
      simp only [exec] at h
      split at h
      · split at h
        · cases h
          exact ⟨rfl, rfl, rfl, rfl, rfl, fun _ _ => .inl, fun _ _ => .inl, fun _ _ => .inl⟩
        · cases h
      · cases h
        exact ⟨rfl, rfl, rfl, rfl, rfl, fun _ _ => .inl, fun _ _ => .inl, fun _ _ => .inl⟩
  | overflow =>
      simp only [exec] at h
      split at h
      · cases h
      · cases h
        exact ⟨rfl, rfl, rfl, rfl, rfl, fun _ _ => .inl, fun _ _ => .inl, fun _ _ => .inl⟩
  | panic message => exact nomatch r
  | stop | generateSessionId | generateId | spawnTunnel | ssh | sftp | now | stats | loadHeartbeat
  | storeHeartbeat | spawn | cancel | ended | returned | finish =>
      cases h
      exact ⟨rfl, rfl, rfl, rfl, rfl, fun _ _ => .inl, fun _ _ => .inl, fun _ _ => .inl⟩

/-- What a command that is not on a queue leaves of it. -/
structure Spares (c : Cmd) (r : Resp c) (s s' : State) : Prop where
  out : (∃ op, c = .out op) ∨ s'.out = s.out
  ssh : (∃ op, c = .sshStdin op) ∨
    (∃ t cmd, (⟨c, r⟩ : Sigma Resp) = ⟨.select t, .ssh cmd⟩) ∨ s'.sshStdin = s.sshStdin

theorem exec_spares {c : Cmd} {r : Resp c} (h : exec S i c o s = some (r, s')) :
    Spares c r s s' := by
  have hsame (hout : s'.out = s.out) (hssh : s'.sshStdin = s.sshStdin) : Spares c r s s' :=
    ⟨.inr hout, .inr (.inr hssh)⟩
  cases c with
  | ws k op => cases op <;> cases h <;> exact hsame rfl rfl
  | out op =>
      obtain ⟨x, -, hx⟩ := Option.map_eq_some_iff.1 h
      cases hx
      exact ⟨.inl ⟨op, rfl⟩, .inr (.inr rfl)⟩
  | sshStdin op =>
      obtain ⟨x, -, hx⟩ := Option.map_eq_some_iff.1 h
      cases hx
      exact ⟨.inr rfl, .inl ⟨op, rfl⟩⟩
  | sftpStdin | sessions | uploads | downloads | begin =>
      obtain ⟨x, -, hx⟩ := Option.map_eq_some_iff.1 h
      cases hx
      exact hsame rfl rfl
  | select t =>
      rcases select_cases h with ⟨cmd, _, rfl, -, rfl⟩ | ⟨_, _, -, -, rfl⟩ | ⟨-, rfl⟩
      · exact ⟨.inr rfl, .inr (.inl ⟨t, cmd, rfl⟩)⟩
      · exact hsame rfl rfl
      · exact hsame rfl rfl
  | started k | wait k =>
      simp only [exec] at h
      split at h
      · cases h
        exact hsame rfl rfl
      · cases h
  | tick k =>
      simp only [exec] at h
      split at h
      · split at h
        · cases h
          exact hsame rfl rfl
        · cases h
      · cases h
        exact hsame rfl rfl
  | overflow =>
      simp only [exec] at h
      split at h
      · cases h
      · cases h
        exact hsame rfl rfl
  | panic message => exact nomatch r
  | stop | generateSessionId | generateId | spawnTunnel | ssh | sftp | now | stats | loadHeartbeat
  | storeHeartbeat | spawn | cancel | ended | returned | finish =>
      cases h
      exact hsame rfl rfl

/-! ## What an answer tells -/

theorem exec_out {op : ChanOp NodeFrameData} {r : op.Resp}
    (h : exec S i (.out op) o s = some (r, s')) :
    op.exec OUT_CAPACITY (stops o s.returned op) s.out = some (r, s'.out) := by
  obtain ⟨x, hexec, hx⟩ := Option.map_eq_some_iff.1 h
  cases hx
  exact hexec

theorem exec_sessions_answer {k : Nat} {op : MapOp Key SessionHandle} {r : op.Resp}
    (h : exec S i (.sessions k op) o s = some (r, s')) :
    op.answer (s.sessions k) o.pick = some r := by
  obtain ⟨⟨answer, m⟩, hexec, hx⟩ := Option.map_eq_some_iff.1 h
  cases hx
  exact (MapOp.exec_eq_some.1 hexec).1

theorem exec_uploads_answer {k : Nat} {op : MapOp Key FileUpload} {r : op.Resp}
    (h : exec S i (.uploads k op) o s = some (r, s')) :
    op.answer (s.uploads k) o.pick = some r := by
  obtain ⟨⟨answer, m⟩, hexec, hx⟩ := Option.map_eq_some_iff.1 h
  cases hx
  exact (MapOp.exec_eq_some.1 hexec).1

theorem exec_downloads_answer {k : Nat} {op : MapOp Key FileDownload} {r : op.Resp}
    (h : exec S i (.downloads k op) o s = some (r, s')) :
    op.answer (s.downloads k) o.pick = some r := by
  obtain ⟨⟨answer, m⟩, hexec, hx⟩ := Option.map_eq_some_iff.1 h
  cases hx
  exact (MapOp.exec_eq_some.1 hexec).1

theorem exec_begin {t : Nat} {tn : Tunnel} (h : exec S i (.begin t) o s = some (tn, s')) :
    s.tunnels[t]? = some tn := by
  obtain ⟨tunnel, htn, hx⟩ := Option.map_eq_some_iff.1 h
  cases hx
  exact htn

theorem exec_spawnTunnel {t : Nat} {tn : Tunnel}
    (h : exec S i (.spawnTunnel tn) o s = some (t, s')) : s'.tunnels[t]? = some tn := by
  cases h
  simp

theorem exec_out_recv {k : Nat} {g : NodeFrameData}
    (h : exec S i (.out (.recv k)) o s = some (some g, s')) : g ∈ (s.out k).queue := by
  obtain ⟨⟨answer, chans⟩, hexec, hx⟩ := Option.map_eq_some_iff.1 h
  cases hx
  exact ChanOp.mem_queue_of_recv hexec

end Exec

end Phirepass.Agent
