/-
# `Phirepass.Server.Machine` — the tasks of the server, put together

The server process as a machine: the code behind every label, and the
configuration it starts in.  Sockets, requests and writers are numbered; a
task that has not been given a turn is one that has not arrived yet, so a run
has any number of each.
-/
import Phirepass.Server.Exec
import Phirepass.Server.Node
import Phirepass.Server.Web

namespace Phirepass.Server

open Rust Interleave

/-- The code behind each label. -/
def body (S : Setup) : Label → Action Label
  | .webSocket i => handleWebSocket S i
  | .webMessages i cid => handleWebMessages S i cid
  | .webClosing i cid => closeWebSocket i cid
  | .webNotify i cid start visited => notifyNodesClientDisconnect i cid start visited
  | .webWriter i => startWebWriter i
  | .webWriting i => webWrite i
  | .nodeSocket k => handleNodeSocket S k
  | .nodeMessages k nodeId => handleNodeMessages k nodeId
  | .nodeClosing k nodeId => closeNodeSocket k nodeId
  | .nodeCollect k nodeId start visited found =>
      notifyAllClientsForClosedTunnel k nodeId start visited found
  | .nodeWriter k => startNodeWriter k
  | .nodeWriting k => nodeWrite k
  | .request r => serve S r
  | .refresh => refreshConnectionsTask
  | .evictConnections now start visited => evictConnections now start visited
  | .evictNodes now start visited => evictNodes now start visited
  | .refreshConnections start visited => refreshConnections start visited
  | .environment => do
      let _ ← call .environment
      return .environment
  | .done => return .done

/-- The server of a deployment. -/
def machine (S : Setup) : Machine State Tid Choice Resp Label where
  exec := exec S
  body := body S

/-- The label a task starts at. -/
def Tid.entry : Tid → Label
  | .web i => .webSocket i
  | .webWriter i => .webWriter i
  | .node k => .nodeSocket k
  | .nodeWriter k => .nodeWriter k
  | .request r => .request r
  | .refresh => .refresh
  | .environment => .environment

/-- A server that has just started on the given tables. -/
def State.start (rows : DashMap Uuid NodeRow) (users : List Uuid) (clock : Time) : State where
  nodes := ∅
  connections := ∅
  tunnelSessions := ∅
  webChans := fun _ => .empty
  nodeChans := fun _ => .empty
  webWriters := fun _ => .unborn
  nodeWriters := fun _ => .unborn
  database := ⟨rows, users, ∅⟩
  memoryDb := ⟨∅, ∅⟩
  clock := clock
  issued := []

/-- All tasks at their beginning, on any state. -/
def startOn (s : State) : Config State Tid Resp Label where
  threads i := .ret i.entry
  world := ⟨s, []⟩

/-- The configuration a run starts in. -/
def start (rows : DashMap Uuid NodeRow) (users : List Uuid) (clock : Time) :
    Config State Tid Resp Label where
  threads i := .ret i.entry
  world := ⟨State.start rows users clock, []⟩

end Phirepass.Server
