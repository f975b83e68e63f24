/-
# `Phirepass.Agent.Machine` — the tasks of the agent processes, put together

The code behind every label, and the configuration a node's agents start in.
A connection, or a tunnel, that has not been given a turn is one that has not
been made yet, so a run has any number of each; the connections of one
process are those `Setup.proc` gives to it.
-/
import Phirepass.Agent.Ws

namespace Phirepass.Agent

open Rust Interleave

/-- The code behind each label. -/
def body (S : Setup) : Label → Action Label
  | .main k => connect S k
  | .connected k => awaitEnd k
  | .reader k => startTask k (.reading k)
  | .reading k => read S k
  | .writer k => startTask k (.writing k)
  | .writing k => write k
  | .heartbeat k => startTask k (.beating k)
  | .beating k => beat S k
  | .cleanup k => startTask k (.cleaning k)
  | .cleaning k => clean k
  | .tunnel t => runTunnel t
  | .sshLoop t tunnel => sshTurn S t tunnel
  | .sftpLoop t tunnel => sftpTurn S t tunnel
  | .sweepSessions why start visited found => sweepSessions why start visited found
  | .sweepUploads why start visited found => sweepUploads why start visited found
  | .sweepDownloads why start visited found => sweepDownloads why start visited found
  | .retainUploads t tunnel data msgId start visited =>
      retainUploads t tunnel data msgId start visited
  | .done => return .done

/-- The agents of a node. -/
def machine (S : Setup) : Machine State Tid Choice Resp Label where
  exec := exec S
  body := body S

/-- The label a task starts at. -/
def Tid.entry : Tid → Label
  | .main k => .main k
  | .reader k => .reader k
  | .writer k => .writer k
  | .heartbeat k => .heartbeat k
  | .cleanup k => .cleanup k
  | .tunnel t => .tunnel t

/-- No process has done anything yet; both counters stand at 1. -/
def State.start : State where
  sessionId := fun _ => 1
  idCounter := fun _ => 1
  sessions := fun _ => ∅
  uploads := fun _ => ∅
  downloads := fun _ => ∅
  out := fun _ => .empty
  sshStdin := fun _ => .empty
  sftpStdin := fun _ => .empty
  stopped := fun _ => false
  tunnels := []
  lastHeartbeat := fun _ => 0
  started := fun _ => false
  cancelled := fun _ => false
  ended := fun _ => false
  returned := fun _ => false

/-- The configuration a run starts in. -/
def start : Config State Tid Resp Label where
  threads i := .ret i.entry
  world := ⟨State.start, []⟩

/-! ## An agent to run -/

/-- The agent of node `10`, with password logins; connection `k` belongs to process `proc k`. -/
def sample (proc : Nat → Nat) : Setup where
  env := ⟨15, "localhost", 22, .password, 0⟩
  nodeId := 10
  token := fun _ => ""
  version := "0.1.0"
  proc := proc
  overflowChecks := false
  debugLog := false

/-- The task takes `n` steps in a row, and nothing fails. -/
def idle (i : Tid) (n : Nat) : List (Tid × Choice) := List.replicate n (i, {})

/-- The socket's next message is the given frame. -/
def fromServer (g : NodeFrameData) : Choice :=
  { incoming := some (.ok (.binary (.ok (Frame.ofNode g)))) }

/-- Connection `k` logs in, and its reader waits for a message. -/
def login (k : Nat) : List (Tid × Choice) :=
  idle (.main k) 3 ++ [(.main k, fromServer (.authResponse 10 true "0.1.0"))] ++ idle (.main k) 1 ++
    idle (.reader k) 3

/-- The reader is handed an `OpenTunnel`, spawns the tunnel, and waits again. -/
def request (k : Nat) (protocol : Protocol) (cid : Uuid) : List (Tid × Choice) :=
  [(.reader k, fromServer (.openTunnel protocol.toU8 cid (some "root") (some "secret") (some 1)))] ++
    idle (.reader k) 4

/-- It is handed a frame for a tunnel, passes it on, and waits again. -/
def deliver (k : Nat) (g : NodeFrameData) : List (Tid × Choice) :=
  [(.reader k, fromServer g)] ++ idle (.reader k) 3

/-- The tunnel `t` comes up, and waits for something to do. -/
def comeUp (t : Nat) : List (Tid × Choice) := idle (.tunnel t) 9

/-- The tunnel takes the next command and `n` further steps. -/
def obey (t n : Nat) : List (Tid × Choice) :=
  [(.tunnel t, { branch := .command })] ++ idle (.tunnel t) n

/-- The SFTP tunnel starts an upload, as the file the host opens, and waits again. -/
def obeyStart (t : Nat) (file : File) : List (Tid × Choice) :=
  obey t 4 ++ [(.tunnel t, { file := file })] ++ idle (.tunnel t) 5

end Phirepass.Agent
