/-
# `Phirepass.Agent.Rules` — the rules of every task, and that the agent follows them

What the reader does with a frame is decided by the frame alone, so its rules
name it:

    refuse          an `OpenTunnel` without credentials
    panic           one with credentials and an unknown protocol
    sid … insert    any other: a session id, a task, an entry under (cid, sid)
    sendSsh, …      a data-plane frame, for the entry found under its (cid, sid)

Only the reader makes tunnels and only the reader feeds them.  The other
tasks of a connection keep house.
-/
import Phirepass.Agent.TunnelRules

namespace Phirepass.Agent

open Rust Interleave Prog

/-! ## What a frame asks for

The reader handles one message at a time.  A frame may leave it with something to do before it
reads the next one (`Due`), and a stage of the pipeline has something in its hands meanwhile: the
reader the command it is looking up a session for (`due`), the writer the frame it has taken from
the queue (`inHand`). -/

/-- The session and the command a frame for an SSH tunnel carries. -/
def sshDelivery : NodeFrameData → Option (Key × SSHCommand)
  | .sshWindowResize cid sid cols rows pxWidth pxHeight =>
      some ((cid, sid), .resize cols rows pxWidth pxHeight)
  | .tunnelData protocol cid sid data =>
      if protocol = Protocol.ssh.toU8 then some ((cid, sid), .data data) else none
  | _ => none

/-- The session and the command a frame for an SFTP tunnel carries. -/
def sftpDelivery : NodeFrameData → Option (Key × SFTPCommand)
  | .sftpList cid path sid msgId => some ((cid, sid), .list path msgId)
  | .sftpUploadStart cid sid msgId upload => some ((cid, sid), .uploadStart upload msgId)
  | .sftpUpload cid sid msgId chunk => some ((cid, sid), .upload chunk msgId)
  | .sftpDownloadStart cid sid msgId download => some ((cid, sid), .downloadStart download msgId)
  | .sftpDownloadChunkRequest cid sid msgId downloadId chunkIndex =>
      some ((cid, sid), .downloadChunk ⟨downloadId, chunkIndex, 0, []⟩ msgId)
  | .sftpDownloadChunk cid sid msgId chunk => some ((cid, sid), .downloadChunk chunk msgId)
  | .sftpDelete cid sid msgId data => some ((cid, sid), .delete data msgId)
  | _ => none

theorem addressee_of_sshDelivery {g : NodeFrameData} {key : Key} {cmd : SSHCommand}
    (h : sshDelivery g = some (key, cmd)) : g.addressee = some key := by
  cases g with
  | tunnelData =>
      simp only [sshDelivery, Option.ite_none_right_eq_some] at h
      cases h.2
      rfl
  | sshWindowResize =>
      cases h
      rfl
  | _ => cases h

theorem addressee_of_sftpDelivery {g : NodeFrameData} {key : Key} {cmd : SFTPCommand}
    (h : sftpDelivery g = some (key, cmd)) : g.addressee = some key := by
  cases g <;> cases h <;> rfl

/-- What `ensure_credentials` accepts. -/
def hasCredentials (S : Setup) (username password : Option String) : Bool :=
  match S.env.sshAuthMode with
  | .password => !isBlank username && !isBlank password
  | .none => !isBlank username

def Tunnel.handle (tn : Tunnel) (t : Nat) : SessionHandle :=
  match tn.protocol with
  | .ssh => .ssh t
  | .sftp => .sftp t

/-- What the reader has to do before it reads the next message: answer an `OpenTunnel`, enter
the tunnel it has spawned, or hand a command to an SSH tunnel. -/
inductive Due where
  | answer (g : NodeFrameData)
  | enter (key : Key) (handle : SessionHandle)
  | deliver (key : Key) (cmd : SSHCommand)

def asks : NodeFrameData → Option Due
  | .openTunnel protocol cid username password msgId =>
      some (.answer (.openTunnel protocol cid username password msgId))
  | g => (sshDelivery g).map fun d => .deliver d.1 d.2

/-- What is due after a history of the reader.  A frame put on the queue to the server, an entry
into the session map, a lookup that finds no session for the command, and the command itself put
into a tunnel's queue each settle it; anything else leaves it as it was. -/
def due : Hist Resp → Option Due
  | [] => none
  | ⟨.ws _ .next, m⟩ :: _ => m.nodeFrame?.bind asks
  | ⟨.spawnTunnel tn, t⟩ :: _ => some (.enter (tn.cid, tn.sid) (tn.handle t))
  | ⟨.out _, _⟩ :: _ | ⟨.sessions _ (.insert _ _), _⟩ :: _ | ⟨.sessions _ (.get _), none⟩ :: _
  | ⟨.sessions _ (.get _), some (.sftp _)⟩ :: _ | ⟨.sshStdin _, _⟩ :: _ => none
  | _ :: h => due h

/-- The frame the writer has taken from the queue and not yet sent. -/
def inHand : Hist Resp → Option NodeFrameData
  | [] => none
  | ⟨.out (.recv _), received⟩ :: _ => received
  | ⟨.ws _ (.send _), _⟩ :: _ => none
  | _ :: h => inHand h

/-! ## The rules

`…May` is what a task may issue after its own history, `…At` what it knows of that history where
one of its turns begins.  That the code conforms to them is proved below, by walking through it
once; everything else about the agent is proved from the rules. -/

/-- Walks over the sessions of connection `k`, and their end. -/
inductive Closes (k : Nat) : Cmd → Prop
  | keys : Closes k (.sessions k .keys)
  | next {start visited : List Key} : Closes k (.sessions k (.next start visited))
  | remove {key : Key} : Closes k (.sessions k (.remove key))
  | stop {t : Nat} : Closes k (.stop t)

/-- What the reader of connection `k` may issue.  A command about a frame comes right behind the
message that carried it, or behind the steps that were taken for it since, so each rule has them
in the history it is about. -/
inductive ReaderMay (S : Setup) (k : Nat) : Hist Resp → Cmd → Prop
  -- between two messages
  | started {h : Hist Resp} : ReaderMay S k h (.started k)
  | next {h : Hist Resp} (hstarted : (⟨.started k, ()⟩ : Sigma Resp) ∈ h) (hdone : due h = none) :
      ReaderMay S k h (.ws k .next)
  | now {h : Hist Resp} : ReaderMay S k h .now
  | store {h : Hist Resp} {at_ : UInt64} : ReaderMay S k h (.storeHeartbeat k at_)
  -- for an `OpenTunnel`
  | refuse {h : Hist Resp} {m : Incoming} {protocol : UInt8} {cid : Uuid}
      {username password : Option String} {msgId : Option UInt32} {kind : FrameError}
      {message : String}
      (hm : m.nodeFrame? = some (.openTunnel protocol cid username password msgId)) :
      ReaderMay S k (⟨.ws k .next, m⟩ :: h)
        (.out (.trySend k (.webFrame (.error kind message msgId) (.connectionId cid))))
  | panic {h : Hist Resp} {m : Incoming} {protocol : UInt8} {cid : Uuid}
      {username password : Option String} {msgId : Option UInt32} {message : String}
      (hm : m.nodeFrame? = some (.openTunnel protocol cid username password msgId))
      (hcred : hasCredentials S username password = true)
      (hp : Protocol.tryFrom protocol = .error (.panic message)) :
      ReaderMay S k (⟨.ws k .next, m⟩ :: h) (.panic message)
  | sid {h : Hist Resp} {m : Incoming} {protocol : UInt8} {cid : Uuid}
      {username password : Option String} {msgId : Option UInt32}
      (hm : m.nodeFrame? = some (.openTunnel protocol cid username password msgId)) :
      ReaderMay S k (⟨.ws k .next, m⟩ :: h) (.generateSessionId k)
  | spawn {h : Hist Resp} {m : Incoming} {protocol : UInt8} {cid : Uuid}
      {username password : Option String} {msgId : Option UInt32} {sid : UInt32} {p : Protocol}
      {config : ConnectionConfig}
      (hm : m.nodeFrame? = some (.openTunnel protocol cid username password msgId)) :
      ReaderMay S k (⟨.generateSessionId k, sid⟩ :: ⟨.ws k .next, m⟩ :: h)
        (.spawnTunnel ⟨p, k, cid, sid, config, msgId⟩)
  | insert {h : Hist Resp} {tn : Tunnel} {t : Nat} (hconn : tn.conn = k) :
      ReaderMay S k (⟨.spawnTunnel tn, t⟩ :: h)
        (.sessions k (.insert (tn.cid, tn.sid) (tn.handle t)))
  -- for a frame of the data plane
  | lookup {h : Hist Resp} {m : Incoming} {g : NodeFrameData} {key : Key}
      (hm : m.nodeFrame? = some g)
      (hg : (∃ cmd, sshDelivery g = some (key, cmd)) ∨ ∃ cmd, sftpDelivery g = some (key, cmd)) :
      ReaderMay S k (⟨.ws k .next, m⟩ :: h) (.sessions k (.get key))
  | sendSsh {h : Hist Resp} {m : Incoming} {g : NodeFrameData} {key : Key} {cmd : SSHCommand}
      {t : Nat} (hm : m.nodeFrame? = some g) (hg : sshDelivery g = some (key, cmd)) :
      ReaderMay S k (⟨.sessions k (.get key), some (.ssh t)⟩ :: ⟨.ws k .next, m⟩ :: h)
        (.sshStdin (.send t cmd))
  | sendSftp {h : Hist Resp} {m : Incoming} {g : NodeFrameData} {key : Key} {cmd : SFTPCommand}
      {t : Nat} (hm : m.nodeFrame? = some g) (hg : sftpDelivery g = some (key, cmd)) :
      ReaderMay S k (⟨.sessions k (.get key), some (.sftp t)⟩ :: ⟨.ws k .next, m⟩ :: h)
        (.sftpStdin (.send t cmd))
  -- for a client that has left
  | close {h : Hist Resp} {c : Cmd} (hc : Closes k c) : ReaderMay S k h c
  | sweep {h : Hist Resp} {c : Cmd} (hc : Sweeps k c) : ReaderMay S k h c
  | ended {h : Hist Resp} : ReaderMay S k h (.ended k)
  | finish {h : Hist Resp} : ReaderMay S k h .finish

def ReaderIdle (k : Nat) : Label → Hist Resp → Prop
  | .reader j, h | .reading j, h | .sweepSessions (.disconnect j _) _ _ _, h
  | .sweepUploads (.disconnect j _) _ _ _, h | .sweepDownloads (.disconnect j _) _ _ _, h =>
      j = k ∧ due h = none
  | .done, _ => True
  | _, _ => False

/-- Nothing is due where the reader reads on, and past its first turn it has started. -/
def ReaderAt (k : Nat) (l : Label) (h : Hist Resp) : Prop :=
  ReaderIdle k l h ∧ (l ≠ .reader k → (⟨.started k, ()⟩ : Sigma Resp) ∈ h)

/-- What `connect` may issue.  It reads before it spawns the tasks of the connection. -/
inductive MainMay (S : Setup) (k : Nat) : Hist Resp → Cmd → Prop
  | connect {h : Hist Resp} : MainMay S k h (.ws k .connect)
  | auth {h : Hist Resp} :
      MainMay S k h (.ws k (.send (Frame.ofNode (.auth (S.token k) S.nodeId S.version))))
  | next {h : Hist Resp} (halone : (⟨.spawn k, ()⟩ : Sigma Resp) ∉ h) : MainMay S k h (.ws k .next)
  | spawn {h : Hist Resp} : MainMay S k h (.spawn k)
  | wait {h : Hist Resp} : MainMay S k h (.wait k)
  | cancel {h : Hist Resp} : MainMay S k h (.cancel k)
  | returned {h : Hist Resp} : MainMay S k h (.returned k)
  | finish {h : Hist Resp} : MainMay S k h .finish
  | close {h : Hist Resp} {c : Cmd} (hc : Closes k c) : MainMay S k h c
  | sweep {h : Hist Resp} {c : Cmd} (hc : Sweeps k c) : MainMay S k h c

def MainAt (k : Nat) : Label → Hist Resp → Prop
  | .main j, h => j = k ∧ h = []
  | .connected j, _ | .sweepSessions (.teardown j) _ _ _, _
  | .sweepUploads (.teardown j) _ _ _, _ | .sweepDownloads (.teardown j) _ _ _, _ => j = k
  | .done, _ => True
  | _, _ => False

/-- What the write task may issue: it sends what it has taken from the queue before it takes
more. -/
inductive WriterMay (k : Nat) : Hist Resp → Cmd → Prop
  | started {h : Hist Resp} : WriterMay k h (.started k)
  | recv {h : Hist Resp} (hidle : inHand h = none) : WriterMay k h (.out (.recv k))
  | send {h : Hist Resp} {g : NodeFrameData} :
      WriterMay k (⟨.out (.recv k), some g⟩ :: h) (.ws k (.send (Frame.ofNode g)))
  | close {h : Hist Resp} : WriterMay k h (.out (.close k))
  | ended {h : Hist Resp} : WriterMay k h (.ended k)
  | finish {h : Hist Resp} : WriterMay k h .finish

def WriterAt (k : Nat) : Label → Hist Resp → Prop
  | .writer j, h | .writing j, h => j = k ∧ inHand h = none
  | .done, _ => True
  | _, _ => False

/-- What the heartbeat task may issue.  Its own history decides nothing that any result is
about. -/
inductive HeartbeatMay (k : Nat) : Cmd → Prop
  | started : HeartbeatMay k (.started k)
  | tick : HeartbeatMay k (.tick k)
  | now : HeartbeatMay k .now
  | load : HeartbeatMay k (.loadHeartbeat k)
  | cancel : HeartbeatMay k (.cancel k)
  | stats : HeartbeatMay k .stats
  | beat {stats : Stats} {sentAt : UInt64} :
      HeartbeatMay k (.out (.trySend k (.heartbeat stats sentAt)))
  | ended : HeartbeatMay k (.ended k)
  | finish : HeartbeatMay k .finish

def HeartbeatAt (k : Nat) : Label → Hist Resp → Prop
  | .heartbeat j, _ | .beating j, _ => j = k
  | .done, _ => True
  | _, _ => False

/-- What the cleanup task may issue: it clears abandoned transfers away, and no sessions. -/
inductive CleanupMay (k : Nat) : Cmd → Prop
  | started : CleanupMay k (.started k)
  | tick : CleanupMay k (.tick k)
  | sweep {c : Cmd} (hc : Sweeps k c) : CleanupMay k c
  | ended : CleanupMay k (.ended k)
  | finish : CleanupMay k .finish

def CleanupAt (k : Nat) : Label → Hist Resp → Prop
  | .cleanup j, _ | .cleaning j, _ | .sweepUploads (.cleanup j _) _ _ _, _
  | .sweepDownloads (.cleanup j _) _ _ _, _ => j = k
  | .done, _ => True
  | _, _ => False

/-- What task `i` may issue after its own history `h`. -/
def May (S : Setup) : Tid → Hist Resp → Cmd → Prop
  | .main k => MainMay S k
  | .reader k => ReaderMay S k
  | .writer k => WriterMay k
  | .heartbeat k => fun _ => HeartbeatMay k
  | .cleanup k => fun _ => CleanupMay k
  | .tunnel t => TunnelMay S t

/-- What task `i` knows at its labels. -/
def At (S : Setup) : Tid → Label → Hist Resp → Prop
  | .main k => MainAt k
  | .reader k => ReaderAt k
  | .writer k => WriterAt k
  | .heartbeat k => HeartbeatAt k
  | .cleanup k => CleanupAt k
  | .tunnel t => TunnelAt S t

/-! ## Who does what

The rules read from the side of the command: given that a task may issue it, which task is it,
and what has it just done?  Whoever looks at an event of a run starts with one of these. -/

section Inversion

variable {S : Setup} {i : Tid} {h : Hist Resp}

/-! ### Commands of one kind of task

Housekeeping apart, a command on a session or for a tunnel is the reader's, and a command on a
transfer, a file or the connection to the host is a tunnel's.  What they share is the queue to the
server; who puts a frame there is looked at by itself below. -/

/-- Only readers issue the command. -/
def Cmd.isReaders : Cmd → Bool
  | .panic _ | .generateSessionId _ | .spawnTunnel _ => true
  | .sessions _ (.insert _ _) | .sessions _ (.get _) | .sessions _ (.modify _ _) => true
  | .sshStdin (.send _ _) | .sshStdin (.trySend _ _) => true
  | .sftpStdin (.send _ _) | .sftpStdin (.trySend _ _) => true
  | _ => false

/-- Only tunnels issue the command. -/
def Cmd.isTunnels : Cmd → Bool
  | .begin _ | .select _ | .overflow | .generateId _ => true
  | .uploads _ (.insert _ _) | .uploads _ (.get _) | .uploads _ (.modify _ _) => true
  | .downloads _ (.insert _ _) | .downloads _ (.get _) | .downloads _ (.modify _ _) => true
  | .ssh _ (.data _) | .sftp (.writeAll _ _) | .sftp (.rename _ _) => true
  | _ => false

theorem May.byReader {c : Cmd} (hm : May S i h c) (hc : c.isReaders = true) :
    ∃ k, i = .reader k ∧ ReaderMay S k h c := by
  -- housekeeping is what the tasks have in common, and the command is none
  have hcloses {k : Nat} (hcl : Closes k c) : False := by cases hcl <;> cases hc
  have hsweeps {k : Nat} (hsw : Sweeps k c) : False := by cases hsw <;> cases hc
  cases i with
  | reader k => exact ⟨k, rfl, hm⟩
  | tunnel t =>
      rcases hm with ⟨-, rfl⟩ | ⟨_, -, -, hloop⟩
      · cases hc
      · cases hloop with
        | sweep hsw => exact (hsweeps hsw).elim
        | _ => cases hc
  | main k =>
      cases hm with
      | close hcl => exact (hcloses hcl).elim
      | sweep hsw => exact (hsweeps hsw).elim
      | _ => cases hc
  | cleanup k =>
      cases hm with
      | sweep hsw => exact (hsweeps hsw).elim
      | _ => cases hc
  | writer k | heartbeat k => cases hm <;> cases hc

theorem May.byTunnel {c : Cmd} (hm : May S i h c) (hc : c.isTunnels = true) :
    ∃ t, i = .tunnel t ∧ TunnelMay S t h c := by
  have hcloses {k : Nat} (hcl : Closes k c) : False := by cases hcl <;> cases hc
  have hsweeps {k : Nat} (hsw : Sweeps k c) : False := by cases hsw <;> cases hc
  cases i with
  | tunnel t => exact ⟨t, rfl, hm⟩
  | reader k =>
      cases hm with
      | close hcl => exact (hcloses hcl).elim
      | sweep hsw => exact (hsweeps hsw).elim
      | _ => cases hc
  | main k =>
      cases hm with
      | close hcl => exact (hcloses hcl).elim
      | sweep hsw => exact (hsweeps hsw).elim
      | _ => cases hc
  | cleanup k =>
      cases hm with
      | sweep hsw => exact (hsweeps hsw).elim
      | _ => cases hc
  | writer k | heartbeat k => cases hm <;> cases hc

/-! ### What a reader has just done -/

/-- The reader panics, on an `OpenTunnel` it had accepted. -/
theorem May.panics {message : String} (hm : May S i h (.panic message)) :
    ∃ k m protocol cid username password msgId h', i = .reader k ∧ h = ⟨.ws k .next, m⟩ :: h' ∧
      m.nodeFrame? = some (.openTunnel protocol cid username password msgId) ∧
      hasCredentials S username password = true ∧
      Protocol.tryFrom protocol = .error (.panic message) := by
  obtain ⟨k, rfl, hm⟩ := hm.byReader rfl
  cases hm with
  | panic hread hcred hp => exact ⟨k, _, _, _, _, _, _, _, rfl, rfl, hread, hcred, hp⟩
  | close hc | sweep hc => cases hc

/-- Tunnels overflow, at the end of a chunk with the largest index. -/
theorem May.overflows (hm : May S i h .overflow) :
    ∃ t tn, i = .tunnel t ∧ Began t tn h ∧ TunnelLoop S t tn h .overflow := by
  obtain ⟨t, rfl, ⟨-, hc⟩ | ⟨tn, hb, -, hc⟩⟩ := hm.byTunnel rfl
  · cases hc
  · exact ⟨t, tn, rfl, hb, hc⟩

/-- A tunnel is spawned by a reader, with the session id just drawn and the connection id of
the `OpenTunnel` just read. -/
theorem May.spawns {tn : Tunnel} (hm : May S i h (.spawnTunnel tn)) :
    i = .reader tn.conn ∧ ∃ m protocol username password h',
      h = ⟨.generateSessionId tn.conn, tn.sid⟩ :: ⟨.ws tn.conn .next, m⟩ :: h' ∧
      m.nodeFrame? = some (.openTunnel protocol tn.cid username password tn.msgId) := by
  obtain ⟨k, rfl, hm⟩ := hm.byReader rfl
  cases hm with
  | spawn hread => exact ⟨rfl, _, _, _, _, _, rfl, hread⟩
  | close hc | sweep hc => cases hc

/-- A session is entered for the tunnel just spawned. -/
theorem May.enters {k : Nat} {key : Key} {handle : SessionHandle}
    (hm : May S i h (.sessions k (.insert key handle))) :
    ∃ tn t h', i = .reader k ∧ h = ⟨.spawnTunnel tn, t⟩ :: h' ∧ tn.conn = k ∧
      key = (tn.cid, tn.sid) ∧ handle = tn.handle t := by
  obtain ⟨j, rfl, hm⟩ := hm.byReader rfl
  cases hm with
  | insert hconn => exact ⟨_, _, _, rfl, rfl, hconn, rfl, rfl⟩
  | close hc | sweep hc => cases hc

theorem May.not_modify {k : Nat} {key : Key} {f : SessionHandle → SessionHandle} :
    ¬ May S i h (.sessions k (.modify key f)) := by
  intro hm
  obtain ⟨j, rfl, hm⟩ := hm.byReader rfl
  cases hm with
  | close hc | sweep hc => cases hc

/-! ### What goes into a queue

A command reaches a tunnel by `send` only, and a frame the server by `try_send` or, for the answers
of an SFTP tunnel, by `send`.  In each case the task that puts it there has just got it from
somewhere, and the history says from where. -/

/-- An SSH tunnel is fed by a reader, with what a frame carries for the session it found. -/
theorem May.feedsSsh {c : Cmd} {r : Resp c} {t : Nat} {cmd : SSHCommand} (hm : May S i h c)
    (hfeed : c.FeedsSsh t cmd r) :
    ∃ k key m g h', i = .reader k ∧
      h = ⟨.sessions k (.get key), some (.ssh t)⟩ :: ⟨.ws k .next, m⟩ :: h' ∧
      m.nodeFrame? = some g ∧ sshDelivery g = some (key, cmd) := by
  cases c with
  | sshStdin op =>
      cases op with
      | send x a =>
          obtain ⟨k, rfl, hm⟩ := hm.byReader rfl
          cases hm with
          | sendSsh hread hg =>
              obtain ⟨rfl, rfl, -⟩ := hfeed
              exact ⟨k, _, _, _, _, rfl, rfl, hread, hg⟩
          | close hc | sweep hc => cases hc
      | trySend x a =>
          obtain ⟨k, rfl, hm⟩ := hm.byReader rfl
          cases hm with
          | close hc | sweep hc => cases hc
      | recv | close => exact hfeed.elim
  | _ => exact hfeed.elim

theorem May.feedsSftp {c : Cmd} {r : Resp c} {t : Nat} {cmd : SFTPCommand} (hm : May S i h c)
    (hfeed : c.FeedsSftp t cmd r) :
    ∃ k key m g h', i = .reader k ∧
      h = ⟨.sessions k (.get key), some (.sftp t)⟩ :: ⟨.ws k .next, m⟩ :: h' ∧
      m.nodeFrame? = some g ∧ sftpDelivery g = some (key, cmd) := by
  cases c with
  | sftpStdin op =>
      cases op with
      | send x a =>
          obtain ⟨k, rfl, hm⟩ := hm.byReader rfl
          cases hm with
          | sendSftp hread hg =>
              obtain ⟨rfl, rfl, -⟩ := hfeed
              exact ⟨k, _, _, _, _, rfl, rfl, hread, hg⟩
          | close hc | sweep hc => cases hc
      | trySend x a =>
          obtain ⟨k, rfl, hm⟩ := hm.byReader rfl
          cases hm with
          | close hc | sweep hc => cases hc
      | recv | close => exact hfeed.elim
  | _ => exact hfeed.elim

/-- Besides tunnels, a reader puts refusals on the queue to the server, and the heartbeat task its
heartbeats. -/
theorem May.queues {c : Cmd} {r : Resp c} {k : Nat} {g : NodeFrameData} (hm : May S i h c)
    (hemit : c.Emits k g r) :
    (∃ t tn, i = .tunnel t ∧ Began t tn h ∧ TunnelLoop S t tn h c) ∨
      (∃ kind message msgId cid, g = .webFrame (.error kind message msgId) (.connectionId cid)) ∨
      ∃ stats sentAt, g = .heartbeat stats sentAt := by
  cases c with
  | out op =>
      cases i with
      | tunnel t =>
          rcases hm with ⟨-, hc⟩ | ⟨tn, hb, -, hc⟩
          · cases hc
          · exact .inl ⟨t, tn, rfl, hb, hc⟩
      | reader j =>
          cases hm with
          | refuse _ =>
              obtain ⟨-, rfl, -⟩ := hemit
              exact .inr (.inl ⟨_, _, _, _, rfl⟩)
          | close hc | sweep hc => cases hc
      | heartbeat j =>
          cases hm
          obtain ⟨-, rfl, -⟩ := hemit
          exact .inr (.inr ⟨_, _, rfl⟩)
      | writer j => cases hm with | recv | close => exact hemit.elim
      | main j => cases hm with | close hc | sweep hc => cases hc
      | cleanup j => cases hm with | sweep hc => cases hc
  | _ => exact hemit.elim

/-- What names a session was emitted by a tunnel, about itself. -/
theorem May.emits {c : Cmd} {r : Resp c} {k : Nat} {g : NodeFrameData} (hm : May S i h c)
    (hemit : c.Emits k g r) :
    (∃ t tn, i = .tunnel t ∧ Began t tn h ∧ tn.conn = k ∧ Emits tn g) ∨
      (∃ frame cid, g = .webFrame frame (.connectionId cid) ∧ frame.reportsTunnel = false) ∨
      ∃ stats sentAt, g = .heartbeat stats sentAt := by
  rcases hm.queues hemit with ⟨t, tn, rfl, hb, hc⟩ | ⟨_, _, _, _, rfl⟩ | hbeat
  · refine .inl ⟨t, tn, rfl, hb, ?_⟩
    cases hc with
    | announce =>
        obtain ⟨rfl, rfl, -⟩ := hemit
        exact ⟨rfl, .opened⟩
    | closed =>
        obtain ⟨rfl, rfl, -⟩ := hemit
        exact ⟨rfl, .closed⟩
    | output | failed =>
        obtain ⟨rfl, rfl, -⟩ := hemit
        exact ⟨rfl, .frame rfl⟩
    | reply _ hplain =>
        obtain ⟨rfl, rfl, -⟩ := hemit
        exact ⟨rfl, .frame hplain⟩
    | sweep hc => cases hc <;> exact hemit.elim
    | _ => exact hemit.elim
  · exact .inr (.inl ⟨_, _, rfl, rfl⟩)
  · exact .inr (.inr hbeat)

/-- Output is put on the queue by the tunnel it came to, which has just been given it. -/
theorem May.carries {c : Cmd} {r : Resp c} {k : Nat} {g : NodeFrameData} {sid : UInt32}
    {data : Bytes} (hm : May S i h c) (hemit : c.Emits k g r) (hg : g.output sid = some data) :
    ∃ t tn h', i = .tunnel t ∧ Began t tn h ∧ tn.conn = k ∧ tn.sid = sid ∧
      h = ⟨.select t, .message (some (.data data))⟩ :: h' ∧
      c = .out (.trySend k (outputFrame S tn data)) := by
  rcases hm.queues hemit with ⟨t, tn, rfl, hb, hc⟩ | ⟨_, _, _, _, rfl⟩ | ⟨_, _, rfl⟩
  · cases hc with
    | output =>
        obtain ⟨rfl, rfl, -⟩ := hemit
        simp only [NodeFrameData.output, WebFrameData.output, outputFrame] at hg
        split at hg
        · next hsid =>
            cases hg
            exact ⟨t, tn, _, rfl, hb, rfl, hsid, rfl, rfl⟩
        · cases hg
    | reply hframe _ =>
        obtain ⟨-, rfl, -⟩ := hemit
        revert hg
        simp only [NodeFrameData.output, WebFrameData.output]
        split
        · cases hframe
        · exact fun hg => nomatch hg
    | announce | closed | failed =>
        obtain ⟨-, rfl, -⟩ := hemit
        cases hg
    | sweep hc => cases hc <;> exact hemit.elim
    | _ => exact hemit.elim
  · cases hg
  · cases hg

/-- A tunnel reports itself open before it puts anything on the queue. -/
theorem May.announces {c : Cmd} {r : Resp c} {k : Nat} {g : NodeFrameData} {sid : UInt32}
    (hm : May S i h c) (hemit : c.Emits k g r) (hg : g.opens sid = true) :
    ∃ t tn, i = .tunnel t ∧ Began t tn h ∧ tn.conn = k ∧ tn.sid = sid ∧ Silent h := by
  rcases hm.queues hemit with ⟨t, tn, rfl, hb, hc⟩ | ⟨_, _, _, _, rfl⟩ | ⟨_, _, rfl⟩
  · cases hc with
    | announce hfirst =>
        obtain ⟨rfl, rfl, -⟩ := hemit
        exact ⟨t, tn, rfl, hb, rfl, beq_iff_eq.1 hg, hfirst⟩
    | output | closed | failed | reply =>
        obtain ⟨-, rfl, -⟩ := hemit
        cases hg
    | sweep hc => cases hc <;> exact hemit.elim
    | _ => exact hemit.elim
  · cases hg
  · cases hg

/-- A tunnel waits with nothing left to pass on. -/
theorem May.selects {t : Nat} (hm : May S i h (.select t)) :
    i = .tunnel t ∧ ∃ tn, Began t tn h ∧ pending S t tn h = none := by
  obtain ⟨t', rfl, ⟨-, hc⟩ | ⟨tn, hb, hdue, hc⟩⟩ := hm.byTunnel rfl
  · cases hc
  · cases hc with
    | select =>
        refine ⟨rfl, tn, hb, ?_⟩
        cases hp : pending S t tn h with
        | none => rfl
        | some c =>
            obtain rfl := hdue c hp
            exact absurd hp pending_ne_select
    | sweep hc => cases hc

theorem May.passes {t : Nat} {tn : Tunnel} {c due : Cmd} (hm : May S (.tunnel t) h c)
    (hb : Began t tn h) (hdue : pending S t tn h = some due) : c = due := by
  rcases hm with ⟨rfl, -⟩ | ⟨tn', hb', hpass, -⟩
  · exact absurd (List.suffix_nil.1 hb) (List.cons_ne_nil _ _)
  · obtain rfl := hb.unique hb'
    exact hpass due hdue

/-- Frames are taken from a queue by its writer, one after the other was sent. -/
theorem May.dequeues {k : Nat} (hm : May S i h (.out (.recv k))) :
    i = .writer k ∧ inHand h = none := by
  cases i with
  | writer j =>
      cases hm with
      | recv hidle => exact ⟨rfl, hidle⟩
  | reader j => cases hm with | close hc | sweep hc => cases hc
  | tunnel t =>
      rcases hm with ⟨-, hc⟩ | ⟨_, -, -, hc⟩
      · cases hc
      · cases hc with
        | sweep hc => cases hc
  | main j => cases hm with | close hc | sweep hc => cases hc
  | cleanup j => cases hm with | sweep hc => cases hc
  | heartbeat j => cases hm

theorem May.sends {k j : Nat} {f : Frame} (hm : May S (.writer k) h (.ws j (.send f))) :
    j = k ∧ ∃ g h', f = Frame.ofNode g ∧ h = ⟨.out (.recv k), some g⟩ :: h' := by
  cases hm
  exact ⟨rfl, _, _, rfl, rfl⟩

theorem May.writes {k : Nat} {f : Frame} (hm : May S i h (.ws k (.send f))) :
    (∃ g h', i = .writer k ∧ f = Frame.ofNode g ∧ h = ⟨.out (.recv k), some g⟩ :: h') ∨
      ∃ token nodeId version, f = Frame.ofNode (.auth token nodeId version) := by
  cases i with
  | writer j =>
      cases hm
      exact .inl ⟨_, _, rfl, rfl, rfl⟩
  | main j =>
      cases hm with
      | auth => exact .inr ⟨_, _, _, rfl⟩
      | close hc | sweep hc => cases hc
  | reader j => cases hm with | close hc | sweep hc => cases hc
  | tunnel t =>
      rcases hm with ⟨-, hc⟩ | ⟨_, -, -, hc⟩
      · cases hc
      · cases hc with
        | sweep hc => cases hc
  | cleanup k => cases hm with | sweep hc => cases hc
  | heartbeat k => cases hm

theorem May.readsOwn {k j : Nat} (hm : May S (.reader k) h (.ws j .next)) : j = k := by
  cases hm with
  | next => rfl
  | close hc | sweep hc => cases hc

/-! ### What a tunnel does with transfers

A tunnel enters a transfer under its own connection id, looks it up under that id, and touches no
file but the one of the transfer it has found. -/

/-- Uploads are entered by tunnels, under their connection ids. -/
theorem May.startsUpload {k : Nat} {key : Key} {upload : FileUpload}
    (hm : May S i h (.uploads k (.insert key upload))) :
    ∃ t tn, i = .tunnel t ∧ Began t tn h ∧ tn.conn = k ∧ key.1 = tn.cid := by
  obtain ⟨t, rfl, ⟨-, hc⟩ | ⟨tn, hb, -, hc⟩⟩ := hm.byTunnel rfl
  · cases hc
  · cases hc with
    | uploadInsert => exact ⟨t, tn, rfl, hb, rfl, rfl⟩
    | sweep hc => cases hc

theorem May.entersUpload {k : Nat} {key : Key} {upload : FileUpload}
    (hm : May S i h (.uploads k (.insert key upload))) :
    ∃ t now id path h', i = .tunnel t ∧ h = ⟨.now, now⟩ :: ⟨.generateId k, id⟩ ::
      ⟨.sftp (.openWithFlags path), .ok upload.sftpFile⟩ :: h' := by
  obtain ⟨t, rfl, ⟨-, hc⟩ | ⟨tn, hb, -, hc⟩⟩ := hm.byTunnel rfl
  · cases hc
  · cases hc with
    | uploadInsert => exact ⟨t, _, _, _, _, rfl, rfl⟩
    | sweep hc => cases hc

/-- The same upload, but for the time of its last chunk. -/
def FileUpload.Same (upload upload' : FileUpload) : Prop :=
  upload = { upload' with lastUpdated := upload.lastUpdated }

theorem FileUpload.Same.refl (upload : FileUpload) : upload.Same upload := rfl

theorem FileUpload.Same.sftpFile_eq {u u' : FileUpload} (h : u.Same u') :
    u.sftpFile = u'.sftpFile := congrArg (·.sftpFile) h

theorem FileUpload.Same.totalChunks_eq {u u' : FileUpload} (h : u.Same u') :
    u.totalChunks = u'.totalChunks := congrArg (·.totalChunks) h

theorem FileUpload.Same.trans {u u' u'' : FileUpload} (h : u.Same u') (h' : u'.Same u'') :
    u.Same u'' := by
  unfold FileUpload.Same at h h' ⊢
  rw [h, h']

theorem May.touchesUpload {k : Nat} {key : Key} {f : FileUpload → FileUpload}
    (hm : May S i h (.uploads k (.modify key f))) (upload : FileUpload) :
    upload.Same (f upload) := by
  obtain ⟨t, rfl, ⟨-, hc⟩ | ⟨tn, hb, -, hc⟩⟩ := hm.byTunnel rfl
  · cases hc
  · cases hc with
    | uploadTouch => rfl
    | sweep hc => cases hc

/-- The lookup of an upload by its id, for a chunk (`last = false`) or for the last one. -/
inductive FindsUpload (k : Nat) (key : Key) (upload : FileUpload) : Bool → Sigma Resp → Prop
  | got : FindsUpload k key upload false ⟨.uploads k (.get key), some upload⟩
  | took : FindsUpload k key upload true ⟨.uploads k (.remove key), some upload⟩

/-- A file is written by a tunnel that has just found its upload, with the chunk it took.
Whether that was the last one is a matter of its number. -/
theorem May.writesFile {file : File} {data : Bytes} (hm : May S i h (.sftp (.writeAll file data))) :
    ∃ (t : Nat) (tn : Tunnel) (chunk : SFTPUploadChunk) (msgId : Option UInt32)
      (upload seen : FileUpload) (last : Bool) (e : Sigma Resp) (h' : Hist Resp),
      i = .tunnel t ∧ Began t tn h ∧ h = e :: h' ∧
      FindsUpload tn.conn (tn.cid, chunk.uploadId) upload last e ∧
      taken h' = some (.upload chunk msgId) ∧ upload.sftpFile = file ∧ chunk.data = data ∧
      LookedUp tn.conn (tn.cid, chunk.uploadId) seen h' ∧
      last = decide (seen.totalChunks ≤ chunk.chunkIndex + 1) := by
  obtain ⟨t, rfl, ⟨-, hc⟩ | ⟨tn, hb, -, hc⟩⟩ := hm.byTunnel rfl
  · cases hc
  · cases hc with
    | write hchunk hseen hmore =>
        exact ⟨t, tn, _, _, _, _, false, _, _, rfl, hb, rfl, .got, hchunk, rfl, rfl, hseen,
          (decide_eq_false hmore).symm⟩
    | writeLast hchunk hseen hlast =>
        exact ⟨t, tn, _, _, _, _, true, _, _, rfl, hb, rfl, .took, hchunk, rfl, rfl, hseen,
          (decide_eq_true hlast).symm⟩
    | inspect hop => cases hop
    | sweep hc => cases hc

/-- A temporary file is renamed by a tunnel that has just written the last chunk to it. -/
theorem May.renames {old new : String} (hm : May S i h (.sftp (.rename old new))) :
    ∃ (t : Nat) (tn : Tunnel) (chunk : SFTPUploadChunk) (upload : FileUpload) (h' : Hist Resp),
      i = .tunnel t ∧ h = ⟨.sftp (.writeAll upload.sftpFile chunk.data), .ok ()⟩ ::
        ⟨.uploads tn.conn (.remove (tn.cid, chunk.uploadId)), some upload⟩ :: h' ∧
      old = upload.tempPath ∧ new = filePath upload.remotePath upload.filename := by
  obtain ⟨t, rfl, ⟨-, hc⟩ | ⟨tn, hb, -, hc⟩⟩ := hm.byTunnel rfl
  · cases hc
  · cases hc with
    | rename _ => exact ⟨t, tn, _, _, _, rfl, rfl, rfl, rfl⟩
    | inspect hop => cases hop
    | sweep hc => cases hc

/-- A tunnel looks uploads up under its connection id, or checks that id before it takes one
away; `.remove` is also how abandoned uploads are cleared away. -/
theorem May.usesUpload {t k : Nat} {op : MapOp Key FileUpload} {r : op.Resp} {key : Key}
    (hm : May S (.tunnel t) h (.uploads k op)) (hf : op.Finds key r)
    (hop : ∀ key', op ≠ .remove key') :
    ∃ tn, Began t tn h ∧ tn.conn = k ∧
      (key.1 = tn.cid ∨ ∃ data, op = .removeIf key (cancels tn data key)) := by
  rcases hm with ⟨-, hc⟩ | ⟨tn, hb, -, hc⟩
  · cases hc
  · refine ⟨tn, hb, ?_⟩
    cases hc with
    | uploadGet | uploadTouch =>
        obtain ⟨rfl, -⟩ := hf
        exact ⟨rfl, .inl rfl⟩
    | cancel =>
        obtain ⟨rfl, -⟩ := hf
        exact ⟨rfl, .inr ⟨_, rfl⟩⟩
    | uploadInsert => exact hf.elim
    | sweep hc =>
        cases hc with
        | uploadsRemove => exact absurd rfl (hop _)
        | uploadsKeys | uploadsNext => exact hf.elim

theorem May.usesDownload {t k : Nat} {op : MapOp Key FileDownload} {r : op.Resp} {key : Key}
    (hm : May S (.tunnel t) h (.downloads k op)) (hf : op.Finds key r)
    (hop : ∀ key', op ≠ .remove key') :
    ∃ tn, Began t tn h ∧ tn.conn = k ∧ key.1 = tn.cid := by
  rcases hm with ⟨-, hc⟩ | ⟨tn, hb, -, hc⟩
  · cases hc
  · refine ⟨tn, hb, ?_⟩
    cases hc with
    | downloadGet | downloadTouch =>
        obtain ⟨rfl, -⟩ := hf
        exact ⟨rfl, rfl⟩
    | downloadInsert => exact hf.elim
    | sweep hc =>
        cases hc with
        | downloadsRemove => exact absurd rfl (hop _)
        | downloadsKeys | downloadsNext => exact hf.elim

theorem May.startsDownload {k : Nat} {key : Key} {download : FileDownload}
    (hm : May S i h (.downloads k (.insert key download))) :
    ∃ t tn, i = .tunnel t ∧ Began t tn h ∧ tn.conn = k ∧ key.1 = tn.cid := by
  obtain ⟨t, rfl, ⟨-, hc⟩ | ⟨tn, hb, -, hc⟩⟩ := hm.byTunnel rfl
  · cases hc
  · cases hc with
    | downloadInsert => exact ⟨t, tn, rfl, hb, rfl, rfl⟩
    | sweep hc => cases hc

end Inversion

/-! ## The reader follows its rules

`handle_message` case by case.  A frame that is answered, refused or dropped leaves nothing due,
and a data-plane frame leaves its command due exactly until the lookup has been answered. -/

section Reader

variable {S : Setup} {k : Nat} {h : Hist Resp} {m : Incoming} {protocol : UInt8} {cid : Uuid}
  {username password : Option String} {msgId : Option UInt32}

/-- An accepted frame has its credentials, and nothing was sent about it. -/
theorem ensureCredentials_conforms
    (hm : m.nodeFrame? = some (.openTunnel protocol cid username password msgId)) :
    (ensureCredentials S k cid username password msgId).Conforms (Issues (ReaderMay S k))
      (fun res h' => match res with
        | .ok () => hasCredentials S username password = true ∧ h' = ⟨.ws k .next, m⟩ :: h
        | .error _ => due h' = none)
      (⟨.ws k .next, m⟩ :: h) := by
  unfold ensureCredentials hasCredentials
  cases hu : isBlank username with
  | true => exact conforms_call.2 ⟨.refuse hm, fun _ => rfl⟩
  | false =>
      cases S.env.sshAuthMode with
      | none => exact ⟨rfl, rfl⟩
      | password =>
          cases hp : isBlank password with
          | true => exact conforms_call.2 ⟨.refuse hm, fun _ => rfl⟩
          | false => exact ⟨rfl, rfl⟩

/-- The `expect`s do not fail on accepted credentials. -/
theorem configAuth_conforms {Q : ConfigAuth → Hist Resp → Prop}
    (hcred : hasCredentials S username password = true) (hQ : ∀ auth, Q auth h) :
    (configAuth S username password).Conforms (Issues (ReaderMay S k)) Q h := by
  unfold hasCredentials at hcred
  unfold configAuth
  cases username with
  | none => cases hmode : S.env.sshAuthMode <;> rw [hmode] at hcred <;> cases hcred
  | some username =>
      cases hmode : S.env.sshAuthMode with
      | none => exact hQ _
      | password =>
          rw [hmode] at hcred
          cases password with
          | none =>
              rw [Bool.and_eq_true] at hcred
              cases hcred.2
          | some password => exact hQ _

theorem startTunnel_conforms {p : Protocol} {auth : ConfigAuth} {handle : Nat → SessionHandle}
    (hhandle : ∀ tn : Tunnel, tn.protocol = p → ∀ t, handle t = tn.handle t)
    (hm : m.nodeFrame? = some (.openTunnel protocol cid username password msgId)) :
    (startTunnel S k p handle cid auth msgId).Conforms (Issues (ReaderMay S k))
      (fun _ h' => due h' = none) (⟨.ws k .next, m⟩ :: h) := by
  refine conforms_call.2 ⟨.sid hm, fun sid => ?_⟩
  refine conforms_call.2 ⟨.spawn hm, fun t => ?_⟩
  refine conforms_call.2 ⟨?_, fun prev => ?_⟩
  · rw [hhandle ⟨p, k, cid, sid, _, msgId⟩ rfl t]
    exact .insert rfl
  · cases prev with
    | none => exact rfl
    | some prev => exact ⟨.close .stop, fun _ _ => rfl⟩

/-- An unknown protocol is a panic, not an error to go on from. -/
theorem tryFrom_ne_err (value : UInt8) (message : String) :
    Protocol.tryFrom value ≠ .error (.err message) := by
  unfold Protocol.tryFrom
  split
  · exact fun h => nomatch h
  · split <;> exact fun h => nomatch h

theorem openTunnel_conforms
    (hm : m.nodeFrame? = some (.openTunnel protocol cid username password msgId)) :
    (openTunnel S k protocol cid username password msgId).Conforms (Issues (ReaderMay S k))
      (fun _ h' => due h' = none) (⟨.ws k .next, m⟩ :: h) := by
  refine conforms_bind.2 ((ensureCredentials_conforms hm).mono fun res h' hres => ?_)
  cases res with
  | error err => exact hres
  | ok _ =>
      obtain ⟨hcred, rfl⟩ := hres
      cases hp : Protocol.tryFrom protocol with
      | ok p =>
          cases p with
          | ssh =>
              refine conforms_bind.2 (configAuth_conforms hcred fun auth => ?_)
              refine startTunnel_conforms (fun tn htn t => ?_) hm
              rw [Tunnel.handle, htn]
          | sftp =>
              refine conforms_bind.2 (configAuth_conforms hcred fun auth => ?_)
              refine startTunnel_conforms (fun tn htn t => ?_) hm
              rw [Tunnel.handle, htn]
      | error fault =>
          cases fault with
          | err message => exact absurd hp (tryFrom_ne_err _ _)
          | panic message => exact conforms_call.2 ⟨.panic hm hcred hp, fun never => nomatch never⟩

theorem sendSsh_conforms {g : NodeFrameData} {sid : UInt32} {cmd : SSHCommand}
    (hm : m.nodeFrame? = some g) (hg : sshDelivery g = some ((cid, sid), cmd)) :
    (sendSsh k cid sid cmd).Conforms (Issues (ReaderMay S k)) (fun _ h' => due h' = none)
      (⟨.ws k .next, m⟩ :: h) := by
  refine conforms_call.2 ⟨.lookup hm (.inl ⟨cmd, hg⟩), fun found => ?_⟩
  match found with
  | none | some (.sftp _) => exact rfl
  | some (.ssh t) =>
      refine conforms_call.2 ⟨.sendSsh hm hg, fun sent => ?_⟩
      cases sent <;> exact rfl

/-- A frame for an SFTP tunnel is not for an SSH one, and opens none. -/
theorem due_of_sftp {g : NodeFrameData} {d : Key × SFTPCommand} (hm : m.nodeFrame? = some g)
    (hg : sftpDelivery g = some d) : due (⟨.ws k .next, m⟩ :: h) = none := by
  rw [due, hm]
  cases g with
  | sftpList | sftpUploadStart | sftpUpload | sftpDownloadStart | sftpDownloadChunkRequest
  | sftpDownloadChunk | sftpDelete => rfl
  | _ => cases hg

theorem sendSftp_conforms {g : NodeFrameData} {sid : UInt32} {cmd : SFTPCommand}
    (hm : m.nodeFrame? = some g) (hg : sftpDelivery g = some ((cid, sid), cmd)) :
    (sendSftp k cid sid cmd).Conforms (Issues (ReaderMay S k)) (fun _ h' => due h' = none)
      (⟨.ws k .next, m⟩ :: h) := by
  have hdone : due (⟨.ws k .next, m⟩ :: h) = none := due_of_sftp hm hg
  refine conforms_call.2 ⟨.lookup hm (.inr ⟨cmd, hg⟩), fun found => ?_⟩
  match found with
  | none => exact rfl
  | some (.ssh _) => exact hdone
  | some (.sftp t) =>
      refine conforms_call.2 ⟨.sendSftp hm hg, fun sent => ?_⟩
      cases sent <;> exact rfl

theorem andRead_conforms {α : Type} {action : Action α}
    (ha : action.Conforms (Issues (ReaderMay S k)) (fun _ h' => due h' = none) h) :
    (andRead k action).Conforms (Issues (ReaderMay S k)) (ReaderIdle k) h :=
  conforms_bind.2 (ha.mono fun _ _ hdone => ⟨rfl, hdone⟩)

theorem due_of_read {g : NodeFrameData} (hm : m.nodeFrame? = some g) :
    due (⟨.ws k .next, m⟩ :: h) = asks g := by
  rw [due, hm]
  rfl

theorem handleMessage_conforms {g : NodeFrameData} (hm : m.nodeFrame? = some g) :
    (handleMessage S k g).Conforms (Issues (ReaderMay S k)) (ReaderIdle k)
      (⟨.ws k .next, m⟩ :: h) := by
  have hdue := due_of_read (k := k) (h := h) hm
  cases g with
  | openTunnel protocol cid username password msgId =>
      exact andRead_conforms (openTunnel_conforms hm)
  | heartbeatAck =>
      refine conforms_call.2 ⟨.now, fun now => ?_⟩
      exact conforms_call.2 ⟨.store, fun _ => ⟨rfl, hdue⟩⟩
  | connectionDisconnect cid => exact conforms_call.2 ⟨.close .keys, fun _ => ⟨rfl, hdue⟩⟩
  | sshWindowResize => exact andRead_conforms (sendSsh_conforms hm rfl)
  | tunnelData protocol cid sid data =>
      rw [handleMessage]
      split
      · next hssh => exact andRead_conforms (sendSsh_conforms hm (if_pos hssh))
      · next hssh =>
          have hother : asks (.tunnelData protocol cid sid data) = none := by
            simp [asks, sshDelivery, hssh]
          exact ⟨rfl, hdue.trans hother⟩
  | sftpList | sftpUploadStart | sftpUpload | sftpDownloadStart | sftpDownloadChunkRequest
  | sftpDownloadChunk | sftpDelete => exact andRead_conforms (sendSftp_conforms hm rfl)
  | heartbeat | auth | authResponse | tunnelOpened | tunnelClosed | webFrame => exact ⟨rfl, hdue⟩

theorem readerEnd_conforms :
    (endTask k).Conforms (Issues (ReaderMay S k)) (ReaderIdle k) h :=
  conforms_call.2 ⟨.ended, fun _ => conforms_call.2 ⟨.finish, fun _ => trivial⟩⟩

theorem read_conforms (hstarted : (⟨.started k, ()⟩ : Sigma Resp) ∈ h) (hdone : due h = none) :
    (read S k).Conforms (Issues (ReaderMay S k)) (ReaderIdle k) h := by
  refine conforms_call.2 ⟨.next hstarted hdone, fun m => ?_⟩
  match m with
  | some (.ok (.binary (.ok ⟨_, _, .node g⟩))) => exact handleMessage_conforms rfl
  | some (.error ()) | some (.ok .other) => exact ⟨rfl, rfl⟩
  | none | some (.ok .close) | some (.ok (.binary (.error _)))
  | some (.ok (.binary (.ok ⟨_, _, .web _⟩))) => exact readerEnd_conforms

end Reader

/-! ## Walks over the sessions

Sessions are closed when their client leaves and at the end of `connect`.  As with the walks over
the transfers, the lemmas are about any task that may close them. -/

section Close

variable {k : Nat} {may : Hist Resp → Cmd → Prop} {Q : Label → Hist Resp → Prop}
  {P : Hist Resp → Prop}

theorem Closes.due_cons {c : Cmd} {r : Resp c} {h : Hist Resp} (hc : Closes k c) :
    due (⟨c, r⟩ :: h) = due h := by
  cases hc <;> rfl

theorem Sweeps.due_cons {c : Cmd} {r : Resp c} {h : Hist Resp} (hc : Sweeps k c) :
    due (⟨c, r⟩ :: h) = due h := by
  cases hc <;> rfl

theorem closeSessions_conforms (hkeep : ∀ h c r, Closes k c → P h → P (⟨c, r⟩ :: h))
    (hmay : ∀ h c, Closes k c → P h → may h c) :
    ∀ {found : List Key} {h : Hist Resp}, P h →
      (closeSessions k found).Conforms (Issues may) (fun _ => P) h
  | [], _, hP => hP
  | key :: rest, h, hP => by
      refine conforms_call.2 ⟨hmay h _ .remove hP, fun removed => ?_⟩
      have hP₁ : P (⟨.sessions k (.remove key), removed⟩ :: h) := hkeep _ _ _ .remove hP
      cases removed with
      | none => exact closeSessions_conforms hkeep hmay hP₁
      | some handle =>
          refine conforms_call.2 ⟨hmay _ _ .stop hP₁, fun _ => ?_⟩
          exact closeSessions_conforms hkeep hmay (hkeep _ _ _ .stop hP₁)

theorem sweepSessions_conforms {why : SessionSweep} {start visited found : List Key}
    {h : Hist Resp} (hkeep : ∀ h c r, Closes why.conn c → P h → P (⟨c, r⟩ :: h))
    (hclose : ∀ h c, Closes why.conn c → P h → may h c)
    (hagain : ∀ visited found h, P h → Q (.sweepSessions why start visited found) h)
    (hafter : ∀ h, P h → why.after.Conforms (Issues may) Q h) (hP : P h) :
    (sweepSessions why start visited found).Conforms (Issues may) Q h := by
  refine conforms_call.2 ⟨hclose _ _ .next hP, fun met => ?_⟩
  have hP₁ := hkeep h (.sessions why.conn (.next start visited)) met .next hP
  cases met with
  | some entry => exact hagain _ _ _ hP₁
  | none => exact conforms_bind.2 ((closeSessions_conforms hkeep hclose hP₁).mono fun _ => hafter)

end Close

/-! ## Every task follows its rules

For each task, one case per label it can be at: the code from there to the next label issues what
the rules allow and ends where the task knows what that label says. -/

section Tasks

variable {S : Setup} {k : Nat}

theorem started_conforms {p : Action Label} {h : Hist Resp}
    (hstarted : (⟨.started k, ()⟩ : Sigma Resp) ∈ h)
    (hp : p.Conforms (Issues (ReaderMay S k)) (ReaderIdle k) h) :
    p.Conforms (Issues (ReaderMay S k)) (ReaderAt k) h :=
  hp.suffix.mono fun _ _ hpost => ⟨hpost.1, fun _ => hpost.2.subset hstarted⟩

theorem reader_follows (l : Label) (h : Hist Resp) (hat : ReaderAt k l h) :
    (body S l).Conforms (Issues (ReaderMay S k)) (ReaderAt k) h := by
  obtain ⟨hat, hstarted⟩ := hat
  cases l with
  | reader j =>
      obtain ⟨rfl, hdone⟩ := hat
      exact conforms_call.2 ⟨.started, fun _ => ⟨⟨rfl, hdone⟩, fun _ => List.mem_cons_self⟩⟩
  | reading j =>
      obtain ⟨rfl, hdone⟩ := hat
      have hs := hstarted fun hl => nomatch hl
      exact started_conforms hs (read_conforms hs hdone)
  | sweepSessions why start visited found =>
      cases why with
      | disconnect j cid =>
          obtain ⟨rfl, hdone⟩ := hat
          refine started_conforms (hstarted fun hl => nomatch hl) ?_
          refine sweepSessions_conforms (P := fun h => due h = none)
            (fun _ _ _ hc hdone => hc.due_cons.trans hdone) (fun _ _ hc _ => .close hc)
            (fun _ _ _ hdone => ⟨rfl, hdone⟩) (fun h hdone => ?_) hdone
          exact conforms_call.2 ⟨.sweep .uploadsKeys, fun _ => ⟨rfl, hdone⟩⟩
      | _ => exact hat.elim
  | sweepUploads why start visited found =>
      cases why with
      | disconnect j cid =>
          obtain ⟨rfl, hdone⟩ := hat
          refine started_conforms (hstarted fun hl => nomatch hl) ?_
          refine sweepUploads_conforms (P := fun h => due h = none)
            (fun _ _ _ hc hdone => hc.due_cons.trans hdone) (fun _ _ hc _ => .sweep hc)
            (fun _ _ _ hdone => ⟨rfl, hdone⟩) (fun h hdone => ?_) hdone
          exact conforms_call.2 ⟨.sweep .downloadsKeys, fun _ => ⟨rfl, hdone⟩⟩
      | _ => exact hat.elim
  | sweepDownloads why start visited found =>
      cases why with
      | disconnect j cid =>
          obtain ⟨rfl, hdone⟩ := hat
          refine started_conforms (hstarted fun hl => nomatch hl) ?_
          exact sweepDownloads_conforms (P := fun h => due h = none)
            (fun _ _ _ hc hdone => hc.due_cons.trans hdone) (fun _ _ hc _ => .sweep hc)
            (fun _ _ _ hdone => ⟨rfl, hdone⟩) (fun h hdone => ⟨rfl, hdone⟩) hdone
      | _ => exact hat.elim
  | done => exact ⟨trivial, fun _ => hstarted fun hl => nomatch hl⟩
  | _ => exact hat.elim

theorem giveUp_conforms {h : Hist Resp} :
    (giveUp k).Conforms (Issues (MainMay S k)) (MainAt k) h :=
  conforms_call.2 ⟨.returned, fun _ => conforms_call.2 ⟨.finish, fun _ => trivial⟩⟩

theorem readAuthResponse_conforms {h : Hist Resp} (halone : (⟨.spawn k, ()⟩ : Sigma Resp) ∉ h) :
    (readAuthResponse k).Conforms (Issues (MainMay S k)) (fun _ _ => True) h := by
  refine conforms_call.2 ⟨.next halone, fun m => ?_⟩
  split
  · split <;> trivial
  · trivial
  · trivial

theorem connect_conforms : (connect S k).Conforms (Issues (MainMay S k)) (MainAt k) [] := by
  refine conforms_call.2 ⟨.connect, fun connected => ?_⟩
  cases connected with
  | false => exact giveUp_conforms
  | true =>
      refine conforms_call.2 ⟨.auth, fun sent => ?_⟩
      cases sent with
      | false => exact giveUp_conforms
      | true =>
          refine conforms_bind.2 ((readAuthResponse_conforms (by simp)).mono fun res h _ => ?_)
          cases res with
          | error err => exact giveUp_conforms
          | ok nodeId =>
              simp only []
              split
              · exact giveUp_conforms
              · exact conforms_call.2 ⟨.spawn, fun _ => rfl⟩

theorem main_follows (l : Label) (h : Hist Resp) (hat : MainAt k l h) :
    (body S l).Conforms (Issues (MainMay S k)) (MainAt k) h := by
  cases l with
  | main j =>
      obtain ⟨rfl, rfl⟩ := hat
      exact connect_conforms
  | connected j =>
      obtain rfl := hat
      refine conforms_call.2 ⟨.wait, fun _ => ?_⟩
      refine conforms_call.2 ⟨.cancel, fun _ => ?_⟩
      exact conforms_call.2 ⟨.close .keys, fun _ => rfl⟩
  | sweepSessions why start visited found =>
      cases why with
      | teardown j =>
          obtain rfl := hat
          refine sweepSessions_conforms (P := fun _ => True) (fun _ _ _ _ _ => trivial)
            (fun _ _ hc _ => .close hc) (fun _ _ _ _ => rfl) (fun h _ => ?_) trivial
          exact conforms_call.2 ⟨.sweep .uploadsKeys, fun _ => rfl⟩
      | _ => exact hat.elim
  | sweepUploads why start visited found =>
      cases why with
      | teardown j =>
          obtain rfl := hat
          refine sweepUploads_conforms (P := fun _ => True) (fun _ _ _ _ _ => trivial)
            (fun _ _ hc _ => .sweep hc) (fun _ _ _ _ => rfl) (fun h _ => ?_) trivial
          exact conforms_call.2 ⟨.sweep .downloadsKeys, fun _ => rfl⟩
      | _ => exact hat.elim
  | sweepDownloads why start visited found =>
      cases why with
      | teardown j =>
          obtain rfl := hat
          exact sweepDownloads_conforms (P := fun _ => True) (fun _ _ _ _ _ => trivial)
            (fun _ _ hc _ => .sweep hc) (fun _ _ _ _ => rfl) (fun h _ => giveUp_conforms) trivial
      | _ => exact hat.elim
  | done => trivial
  | _ => exact hat.elim

theorem writer_follows (l : Label) (h : Hist Resp) (hat : WriterAt k l h) :
    (body S l).Conforms (Issues (WriterMay k)) (WriterAt k) h := by
  cases l with
  | writer j =>
      obtain ⟨rfl, hidle⟩ := hat
      exact conforms_call.2 ⟨.started, fun _ => ⟨rfl, hidle⟩⟩
  | writing j =>
      obtain ⟨rfl, hidle⟩ := hat
      refine conforms_call.2 ⟨.recv hidle, fun received => ?_⟩
      cases received with
      | some g => exact conforms_call.2 ⟨.send, fun _ => ⟨rfl, rfl⟩⟩
      | none =>
          refine conforms_call.2 ⟨.close, fun _ => ?_⟩
          exact conforms_call.2 ⟨.ended, fun _ => conforms_call.2 ⟨.finish, fun _ => trivial⟩⟩
  | done => trivial
  | _ => exact hat.elim

theorem heartbeat_follows (l : Label) (h : Hist Resp) (hat : HeartbeatAt k l h) :
    (body S l).Conforms (Issues fun _ => HeartbeatMay k) (HeartbeatAt k) h := by
  cases l with
  | heartbeat j =>
      obtain rfl := hat
      exact conforms_call.2 ⟨.started, fun _ => rfl⟩
  | beating j =>
      obtain rfl := hat
      refine conforms_call.2 ⟨.tick, fun ticked => ?_⟩
      cases ticked with
      | false =>
          exact conforms_call.2 ⟨.ended, fun _ => conforms_call.2 ⟨.finish, fun _ => trivial⟩⟩
      | true =>
          refine conforms_call.2 ⟨.now, fun now => ?_⟩
          refine conforms_call.2 ⟨.load, fun last => ?_⟩
          split
          · refine conforms_call.2 ⟨.cancel, fun _ => ?_⟩
            exact conforms_call.2 ⟨.ended, fun _ => conforms_call.2 ⟨.finish, fun _ => trivial⟩⟩
          · refine conforms_call.2 ⟨.stats, fun stats => ?_⟩
            cases stats with
            | none => exact rfl
            | some stats =>
                refine conforms_call.2 ⟨.now, fun now => ?_⟩
                exact conforms_call.2 ⟨.beat, fun _ => rfl⟩
  | done => trivial
  | _ => exact hat.elim

theorem cleanup_follows (l : Label) (h : Hist Resp) (hat : CleanupAt k l h) :
    (body S l).Conforms (Issues fun _ => CleanupMay k) (CleanupAt k) h := by
  cases l with
  | cleanup j =>
      obtain rfl := hat
      exact conforms_call.2 ⟨.started, fun _ => rfl⟩
  | cleaning j =>
      obtain rfl := hat
      refine conforms_call.2 ⟨.tick, fun ticked => ?_⟩
      cases ticked with
      | false =>
          exact conforms_call.2 ⟨.ended, fun _ => conforms_call.2 ⟨.finish, fun _ => trivial⟩⟩
      | true =>
          refine conforms_call.2 ⟨.sweep .now, fun now => ?_⟩
          exact conforms_call.2 ⟨.sweep .uploadsKeys, fun _ => rfl⟩
  | sweepUploads why start visited found =>
      cases why with
      | cleanup j now =>
          obtain rfl := hat
          refine sweepUploads_conforms (P := fun _ => True) (fun _ _ _ _ _ => trivial)
            (fun _ _ hc _ => .sweep hc) (fun _ _ _ _ => rfl) (fun h _ => ?_) trivial
          refine conforms_call.2 ⟨.sweep .now, fun now => ?_⟩
          exact conforms_call.2 ⟨.sweep .downloadsKeys, fun _ => rfl⟩
      | _ => exact hat.elim
  | sweepDownloads why start visited found =>
      cases why with
      | cleanup j now =>
          obtain rfl := hat
          exact sweepDownloads_conforms (P := fun _ => True) (fun _ _ _ _ _ => trivial)
            (fun _ _ hc _ => .sweep hc) (fun _ _ _ _ => rfl) (fun h _ => rfl) trivial
      | _ => exact hat.elim
  | done => trivial
  | _ => exact hat.elim

/-- **The agent follows its rules.** -/
theorem agent_follows : (machine S).Follows (fun i => Issues (May S i)) (At S) start where
  body i l h hat := by
    cases i with
    | main k => exact main_follows l h hat
    | reader k => exact reader_follows l h hat
    | writer k => exact writer_follows l h hat
    | heartbeat k => exact heartbeat_follows l h hat
    | cleanup k => exact cleanup_follows l h hat
    | tunnel t => exact tunnel_follows l h hat
  start i := by
    cases i with
    | tunnel t => exact ⟨rfl, rfl⟩
    | main k => exact ⟨rfl, rfl⟩
    | writer k => exact ⟨rfl, rfl⟩
    | reader k => exact ⟨⟨rfl, rfl⟩, fun hl => nomatch hl⟩
    | heartbeat k => exact rfl
    | cleanup k => exact rfl

/-- A restriction on the steps of a run: an assumption, or the condition of a result. -/
abbrev Restriction : Type := World State Tid Resp → Tid → (c : Cmd) → Resp c → Prop

/-- **Invariants of the agent.** -/
theorem agent_inv {A : Restriction} {cfg : Config State Tid Resp Label}
    (I : World State Tid Resp → Prop) (h0 : I ⟨State.start, []⟩)
    (hstep : ∀ (cfg : Config State Tid Resp Label) (i : Tid) (c : Cmd) (o : Choice) (r : Resp c)
      (s : State), (machine S).Reach A start cfg → I cfg.world →
      May S i (own i cfg.world.trace) c → A cfg.world i c r →
      exec S i c o cfg.world.state = some (r, s) → I (cfg.world.push i c r s))
    (hr : (machine S).Reach A start cfg) : I cfg.world :=
  hr.inv agent_follows (fun _ _ _ _ _ => trivial) I h0 hstep

/-- **Events of the agent.** -/
theorem agent_events {A : Restriction} {cfg : Config State Tid Resp Label}
    (P : List (Ev Tid Resp) → Ev Tid Resp → Prop)
    (hstep : ∀ (cfg : Config State Tid Resp Label) (i : Tid) (c : Cmd) (o : Choice) (r : Resp c)
      (s : State), (machine S).Reach A start cfg → May S i (own i cfg.world.trace) c →
      A cfg.world i c r → exec S i c o cfg.world.state = some (r, s) →
      P cfg.world.trace ⟨i, c, r⟩)
    (hr : (machine S).Reach A start cfg) :
    ∀ e past, e :: past <:+ cfg.world.trace → P past e :=
  hr.events agent_follows (fun _ _ _ _ _ => trivial) P rfl hstep

theorem may_of_event {A : Restriction} {cfg : Config State Tid Resp Label} {i : Tid} {c : Cmd}
    {r : Resp c} {past : List (Ev Tid Resp)} (hr : (machine S).Reach A start cfg)
    (hs : ⟨i, c, r⟩ :: past <:+ cfg.world.trace) : May S i (own i past) c :=
  agent_events (fun past e => May S e.tid (own e.tid past) e.cmd)
    (fun _ _ _ _ _ _ _ hmay _ _ => hmay) hr _ past hs

end Tasks

end Phirepass.Agent
