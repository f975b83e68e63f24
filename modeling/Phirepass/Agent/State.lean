/-
# `Phirepass.Agent.State` — what an agent's tasks share, and the commands on it

An agent process runs one `WebSocketConnection::connect` after another, each
with a reader, a writer, a heartbeat and a cleanup task of its own; a tunnel
is a further task, with an SSH or SFTP connection to the host.  The session,
upload and download maps and the outbound queue belong to one connection; the
two id counters are statics of the process.

Connections are numbered, and `Setup.proc` says which process a connection
belongs to, so that a run may contain a process and its successors after
restarts.  What the host's SSH server answers is the environment's choice.
-/
import Phirepass.Interleave.Pool
import Phirepass.Protocol.Frames
import Phirepass.Rust.Channel
import Phirepass.Rust.Map

namespace Phirepass.Agent

open Rust Interleave

/-- Milliseconds since the epoch. -/
abbrev Time : Type := Int

/-! ## Configuration -/

inductive SSHAuthMethod where
  | password
  | none
  deriving DecidableEq, Repr

/-- The fields of `Env` the modelled tasks read. -/
structure Env where
  statsRefreshInterval : UInt16
  sshHost : String
  sshPort : UInt16
  sshAuthMode : SSHAuthMethod
  sshInactivitySecs : UInt64

/-- `Env::get_ssh_inactivity_duration`, in seconds. -/
def Env.getSshInactivityDuration (env : Env) : Option UInt64 :=
  if env.sshInactivitySecs = 0 then none else some env.sshInactivitySecs

/-- `SSHConfigAuth` and `SFTPConfigAuth`. -/
inductive ConfigAuth where
  | usernamePassword (username password : String)
  | username (username : String)
  deriving DecidableEq, Repr

/-- `SSHConfig` and `SFTPConfig`. -/
structure ConnectionConfig where
  host : String
  port : UInt16
  credentials : ConfigAuth
  inactivityTimeout : Option UInt64
  deriving DecidableEq, Repr

/-! ## Sessions and transfers -/

inductive SSHCommand where
  | data (buf : Bytes)
  | resize (cols rows pxWidth pxHeight : UInt32)
  deriving DecidableEq, Repr

inductive SFTPCommand where
  | list (path : String) (msgId : Option UInt32)
  | downloadStart (download : SFTPDownloadStart) (msgId : Option UInt32)
  | downloadChunk (chunk : SFTPDownloadChunk) (msgId : Option UInt32)
  | uploadStart (upload : SFTPUploadStart) (msgId : Option UInt32)
  | upload (chunk : SFTPUploadChunk) (msgId : Option UInt32)
  | delete (data : SFTPDelete) (msgId : Option UInt32)
  deriving DecidableEq, Repr

/-- What a tunnel task is spawned with. -/
structure Tunnel where
  protocol : Protocol
  /-- The connection whose queue and maps it uses. -/
  conn : Nat
  cid : Uuid
  sid : UInt32
  config : ConnectionConfig
  msgId : Option UInt32
  deriving DecidableEq, Repr

/-- `SessionHandle`: the task whose `stdin` and `stop` it holds. -/
inductive SessionHandle where
  | ssh (task : Nat)
  | sftp (task : Nat)
  deriving DecidableEq, Repr

def SessionHandle.task : SessionHandle → Nat
  | .ssh t | .sftp t => t

/-- An open file of the SFTP server. -/
abbrev File : Type := Nat

structure FileUpload where
  filename : String
  remotePath : String
  totalChunks : UInt32
  totalSize : UInt64
  sftpFile : File
  tempPath : String
  startedAt : Time
  lastUpdated : Time
  deriving DecidableEq, Repr

structure FileDownload where
  filename : String
  totalSize : UInt64
  totalChunks : UInt32
  sftpFile : File
  startedAt : Time
  lastUpdated : Time
  deriving DecidableEq, Repr

/-- The keys of the three maps: a connection id and a session or transfer id. -/
abbrev Key : Type := Uuid × UInt32

/-! ## The host -/

/-- `ChannelMsg`, as far as it is told apart. -/
inductive ChannelMsg where
  | data (data : Bytes)
  | eof
  | exitStatus (exitStatus : UInt32)
  | close
  | other
  deriving DecidableEq, Repr

/-- The calls of `russh`, on the connection of the tunnel task. -/
inductive SshOp where
  | connect (config : ConnectionConfig)
  | authenticate (credentials : ConfigAuth)
  | channelOpenSession
  | requestPty
  | requestShell
  | requestSubsystem
  | newSftpSession
  | data (bytes : Bytes)
  | windowChange (cols rows pxWidth pxHeight : UInt32)
  | eof
  | close
  | disconnect

@[reducible] def SshOp.Resp : SshOp → Type
  | .authenticate _ => Except String Bool
  | _ => Except String Unit

structure DirEntry where
  fileName : String
  isDir : Bool
  size : Option UInt64
  deriving DecidableEq, Repr

/-- The calls of `russh_sftp`. -/
inductive SftpOp where
  | canonicalize (path : String)
  | metadata (path : String)
  | readDir (path : String)
  /-- With `WRITE | CREATE | APPEND`. -/
  | openWithFlags (path : String)
  | open (path : String)
  | writeAll (file : File) (data : Bytes)
  | seek (file : File) (position : UInt64)
  /-- Into a buffer of `CHUNK_SIZE` bytes. -/
  | read (file : File)
  | rename (oldPath newPath : String)
  | removeFile (path : String)
  | syncAll (file : File)

@[reducible] def SftpOp.Resp : SftpOp → Type
  | .canonicalize _ => Except String String
  | .metadata _ => Except String (Option UInt64)
  | .readDir _ => Except String (List DirEntry)
  | .openWithFlags _ | .open _ => Except String File
  | .read _ => Except String Bytes
  | .writeAll _ _ | .seek _ _ | .rename _ _ | .removeFile _ | .syncAll _ => Except String Unit

/-! ## Commands -/

/-- The WebSocket of a connection. -/
inductive WsOp where
  | connect
  | next
  | send (frame : Frame)

@[reducible] def WsOp.Resp : WsOp → Type
  | .connect | .send _ => Bool
  | .next => Incoming

/-- Which branch of a tunnel's `select!` was taken. -/
inductive Wake where
  | shutdown
  | ssh (cmd : SSHCommand)
  | sftp (cmd : SFTPCommand)
  | message (msg : Option ChannelMsg)
  deriving DecidableEq, Repr

inductive Cmd where
  | ws (k : Nat) (op : WsOp)
  | out (op : ChanOp NodeFrameData)
  | sessions (k : Nat) (op : MapOp Key SessionHandle)
  | uploads (k : Nat) (op : MapOp Key FileUpload)
  | downloads (k : Nat) (op : MapOp Key FileDownload)
  | sshStdin (op : ChanOp SSHCommand)
  | sftpStdin (op : ChanOp SFTPCommand)
  | stop (t : Nat)
  | generateSessionId (k : Nat)
  | generateId (k : Nat)
  | spawnTunnel (tunnel : Tunnel)
  /-- The first step of a tunnel task. -/
  | begin (t : Nat)
  | select (t : Nat)
  | ssh (t : Nat) (op : SshOp)
  | sftp (op : SftpOp)
  | now
  | stats
  | loadHeartbeat (k : Nat)
  | storeHeartbeat (k : Nat) (at_ : UInt64)
  /-- Spawn the reader, writer, heartbeat and cleanup task of a connection. -/
  | spawn (k : Nat)
  /-- The first step of each of them. -/
  | started (k : Nat)
  /-- The next tick of an interval; `false` is that the token was cancelled. -/
  | tick (k : Nat)
  | cancel (k : Nat)
  /-- One of the four tasks ends. -/
  | ended (k : Nat)
  /-- The `select!` of `connect`. -/
  | wait (k : Nat)
  /-- `connect` returns. -/
  | returned (k : Nat)
  /-- A `u32` addition overflows: a panic where the profile checks for it. -/
  | overflow
  | panic (message : String)
  | finish

@[reducible] def Resp : Cmd → Type
  | .ws _ op => op.Resp
  | .out op => op.Resp
  | .sessions _ op => op.Resp
  | .uploads _ op => op.Resp
  | .downloads _ op => op.Resp
  | .sshStdin op => op.Resp
  | .sftpStdin op => op.Resp
  | .generateSessionId _ | .generateId _ => UInt32
  | .spawnTunnel _ => Nat
  | .begin _ => Tunnel
  | .select _ => Wake
  | .ssh _ op => op.Resp
  | .sftp op => op.Resp
  | .now => Time
  | .stats => Option Stats
  | .loadHeartbeat _ => UInt64
  | .tick _ => Bool
  | .panic _ => Empty
  | .stop _ | .storeHeartbeat _ _ | .spawn _ | .started _ | .cancel _ | .ended _ | .wait _
  | .returned _ | .overflow | .finish => Unit

/-- Code of the agent. -/
abbrev Action (α : Type) : Type := Prog Cmd Resp α

/-- Issue one command. -/
abbrev call (c : Cmd) : Action (Resp c) := Prog.perform c

/-- The tasks of the agent processes. -/
inductive Tid where
  | main (k : Nat)
  | reader (k : Nat)
  | writer (k : Nat)
  | heartbeat (k : Nat)
  | cleanup (k : Nat)
  | tunnel (t : Nat)
  deriving DecidableEq, Repr

/-- Why the sessions are walked through. -/
inductive SessionSweep where
  | disconnect (k : Nat) (cid : Uuid)
  | teardown (k : Nat)

/-- Why the uploads are. -/
inductive UploadSweep where
  | disconnect (k : Nat) (cid : Uuid)
  | teardown (k : Nat)
  | cleanup (k : Nat) (now : Time)
  | start (t : Nat) (tunnel : Tunnel) (now : Time) (upload : SFTPUploadStart)
      (msgId : Option UInt32)

/-- Why the downloads are. -/
inductive DownloadSweep where
  | disconnect (k : Nat) (cid : Uuid)
  | teardown (k : Nat)
  | cleanup (k : Nat) (now : Time)
  | start (t : Nat) (tunnel : Tunnel) (now : Time) (download : SFTPDownloadStart)
      (msgId : Option UInt32)

/-- Where a task's loop stands. -/
inductive Label where
  | main (k : Nat)
  | connected (k : Nat)
  | reader (k : Nat)
  | reading (k : Nat)
  | writer (k : Nat)
  | writing (k : Nat)
  | heartbeat (k : Nat)
  | beating (k : Nat)
  | cleanup (k : Nat)
  | cleaning (k : Nat)
  | tunnel (t : Nat)
  | sshLoop (t : Nat) (tunnel : Tunnel)
  | sftpLoop (t : Nat) (tunnel : Tunnel)
  | sweepSessions (why : SessionSweep) (start visited found : List Key)
  | sweepUploads (why : UploadSweep) (start visited found : List Key)
  | sweepDownloads (why : DownloadSweep) (start visited found : List Key)
  | retainUploads (t : Nat) (tunnel : Tunnel) (data : SFTPDelete) (msgId : Option UInt32)
      (start visited : List Key)
  | done

/-! ## The shared state -/

structure State where
  /-- `SESSION_ID`, by process. -/
  sessionId : Nat → UInt32
  /-- `ID_COUNTER`, by process. -/
  idCounter : Nat → UInt32
  sessions : Nat → DashMap Key SessionHandle
  uploads : Nat → DashMap Key FileUpload
  downloads : Nat → DashMap Key FileDownload
  out : Nat → Chan NodeFrameData
  sshStdin : Nat → Chan SSHCommand
  sftpStdin : Nat → Chan SFTPCommand
  stopped : Nat → Bool
  /-- The tunnel tasks, in the order they were spawned. -/
  tunnels : List Tunnel
  lastHeartbeat : Nat → UInt64
  started : Nat → Bool
  cancelled : Nat → Bool
  ended : Nat → Bool
  returned : Nat → Bool

/-- The agent of a node: its configuration, its build, and its processes. -/
structure Setup where
  env : Env
  nodeId : Uuid
  /-- The session token a connection logs in with. -/
  token : Nat → String
  version : String
  /-- The process a connection belongs to. -/
  proc : Nat → Nat
  /-- Whether the profile checks integer overflow. -/
  overflowChecks : Bool
  /-- Whether the log level enables `debug!`. -/
  debugLog : Bool

/-- Which branch of a `select!` the scheduler takes. -/
inductive Branch where
  | shutdown
  | command
  | message (msg : Option ChannelMsg)

/-- What the environment decides at one step. -/
structure Choice where
  /-- The call fails, or a channel whose other side is gone is noticed. -/
  fail : Bool := false
  incoming : Incoming := none
  branch : Branch := .shutdown
  text : String := ""
  bytes : Bytes := []
  size : Option UInt64 := none
  entries : List DirEntry := []
  file : File := 0
  accepted : Bool := true
  pick : Option Key := none
  now : Time := 0
  stats : Option Stats := none

end Phirepass.Agent
