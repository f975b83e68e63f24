/-
# `Phirepass.Protocol.Frames` — the data model of `common/src/protocol`

The frames that travel between the browser, the server and an agent, with
every field the source gives them.  Constructors and fields keep the source's
words.  Machine integers are Lean's fixed-width ones; `Bytes` is a list of
bytes, an `f32` or `f64` is its bit pattern (`Stats` is only carried around).

`Protocol::try_from` is the one function here: its last arm is `unreachable!`,
so it does not *return* an error on a byte above 1, it panics.
-/
import Phirepass.Rust.Core

namespace Phirepass

open Rust

abbrev Uuid : Type := BitVec 128

/-- `Uuid::nil()`. -/
def Uuid.nil : Uuid := 0

/-- `Display for Uuid`: 32 lowercase hex digits in groups of 8, 4, 4, 4 and 12. -/
def Uuid.display (id : Uuid) : String :=
  let digit (i : Nat) : Char := Nat.digitChar (id.toNat / 16 ^ (31 - i) % 16)
  let group (start len : Nat) : String := String.ofList ((List.range' start len).map digit)
  s!"{group 0 8}-{group 8 4}-{group 12 4}-{group 16 4}-{group 20 12}"

example : Uuid.display 0x67e5504410b1426f9247bb680e5fe0c8 = "67e55044-10b1-426f-9247-bb680e5fe0c8" := by
  decide +kernel

abbrev Bytes : Type := List UInt8

/-! ## Protocols -/

inductive Protocol where
  | ssh
  | sftp
  deriving DecidableEq, Repr

/-- `Protocol::X as u8`. -/
def Protocol.toU8 : Protocol → UInt8
  | .ssh => 0
  | .sftp => 1

/-- `TryFrom<u8> for Protocol`. -/
def Protocol.tryFrom (value : UInt8) : Except Fault Protocol :=
  if value = 0 then .ok .ssh
  else if value = 1 then .ok .sftp
  else .error (.panic "internal error: entered unreachable code: invalid protocol variant")

/-! ## SFTP payloads -/

inductive SFTPListItemKind where
  | file
  | folder
  deriving DecidableEq, Repr

structure SFTPListItemAttributes where
  size : UInt64
  deriving DecidableEq, Repr

/-- `SFTPListItem`, a directory with its entries. -/
inductive SFTPListItem where
  | mk (name path : String) (kind : SFTPListItemKind) (items : List SFTPListItem)
      (attributes : SFTPListItemAttributes)

-- The handler for `DecidableEq` does not go through the list.
mutual

def SFTPListItem.decEq : (a b : SFTPListItem) → Decidable (a = b)
  | .mk name path kind items attributes, .mk name' path' kind' items' attributes' =>
      match SFTPListItem.decEqItems items items' with
      | isTrue hitems =>
          if h : name = name' ∧ path = path' ∧ kind = kind' ∧ attributes = attributes' then
            isTrue (by rw [h.1, h.2.1, h.2.2.1, h.2.2.2, hitems])
          else isFalse (by intro heq; cases heq; exact h ⟨rfl, rfl, rfl, rfl⟩)
      | isFalse hitems => isFalse (by intro heq; cases heq; exact hitems rfl)

def SFTPListItem.decEqItems : (as bs : List SFTPListItem) → Decidable (as = bs)
  | [], [] => isTrue rfl
  | [], _ :: _ => isFalse nofun
  | _ :: _, [] => isFalse nofun
  | a :: as, b :: bs =>
      match SFTPListItem.decEq a b, SFTPListItem.decEqItems as bs with
      | isTrue ha, isTrue has => isTrue (by rw [ha, has])
      | isFalse ha, _ => isFalse (by intro heq; cases heq; exact ha rfl)
      | _, isFalse has => isFalse (by intro heq; cases heq; exact has rfl)

end

instance : DecidableEq SFTPListItem := SFTPListItem.decEq

def SFTPListItem.path : SFTPListItem → String
  | .mk _ path _ _ _ => path

structure SFTPDownloadStart where
  path : String
  filename : String
  deriving DecidableEq, Repr

structure SFTPDownloadStartResponse where
  downloadId : UInt32
  totalSize : UInt64
  totalChunks : UInt32
  deriving DecidableEq, Repr

structure SFTPDownloadChunk where
  downloadId : UInt32
  chunkIndex : UInt32
  chunkSize : UInt32
  data : Bytes
  deriving DecidableEq, Repr

structure SFTPUploadStart where
  filename : String
  remotePath : String
  totalChunks : UInt32
  totalSize : UInt64
  deriving DecidableEq, Repr

structure SFTPUploadStartResponse where
  uploadId : UInt32
  deriving DecidableEq, Repr

structure SFTPUploadChunk where
  uploadId : UInt32
  chunkIndex : UInt32
  chunkSize : UInt32
  data : Bytes
  deriving DecidableEq, Repr

structure SFTPDelete where
  path : String
  filename : String
  deriving DecidableEq, Repr

/-! ## Frames between the browser and the server -/

inductive FrameError where
  | generic
  | authentication
  | requiresUsername
  | requiresPassword
  deriving DecidableEq, Repr

inductive WebFrameData where
  | heartbeat
  | auth (token nodeId version : String) (msgId : Option UInt32)
  | authSuccess (cid : Uuid) (version : String) (msgId : Option UInt32)
  | openTunnel (protocol : UInt8) (nodeId : String) (username password : Option String)
      (msgId : Option UInt32)
  | tunnelOpened (protocol : UInt8) (sid : UInt32) (msgId : Option UInt32)
  | tunnelData (protocol : UInt8) (nodeId : String) (sid : UInt32) (data : Bytes)
  | tunnelClosed (protocol : UInt8) (sid : UInt32) (msgId : Option UInt32)
  | sshWindowResize (nodeId : String) (sid cols rows pxWidth pxHeight : UInt32)
  | sftpList (nodeId path : String) (sid : UInt32) (msgId : Option UInt32)
  | sftpListItems (path : String) (sid : UInt32) (dir : SFTPListItem) (msgId : Option UInt32)
  | sftpDownloadStart (nodeId : String) (sid : UInt32) (msgId : Option UInt32)
      (download : SFTPDownloadStart)
  | sftpDownloadStartResponse (sid : UInt32) (msgId : Option UInt32)
      (response : SFTPDownloadStartResponse)
  | sftpDownloadChunkRequest (nodeId : String) (sid : UInt32) (msgId : Option UInt32)
      (downloadId chunkIndex : UInt32)
  | sftpDownloadChunk (sid : UInt32) (msgId : Option UInt32) (chunk : SFTPDownloadChunk)
  | sftpUploadStart (nodeId : String) (sid : UInt32) (msgId : Option UInt32)
      (upload : SFTPUploadStart)
  | sftpUploadStartResponse (sid : UInt32) (msgId : Option UInt32)
      (response : SFTPUploadStartResponse)
  | sftpUpload (nodeId : String) (sid : UInt32) (msgId : Option UInt32) (chunk : SFTPUploadChunk)
  | sftpUploadChunkAck (sid uploadId chunkIndex : UInt32)
  | sftpDelete (nodeId : String) (sid : UInt32) (msgId : Option UInt32) (data : SFTPDelete)
  | error (kind : FrameError) (message : String) (msgId : Option UInt32)
  deriving DecidableEq

/-- `WebFrameData::code`. -/
def WebFrameData.code : WebFrameData → UInt8
  | .heartbeat => 1
  | .auth .. => 10
  | .authSuccess .. => 11
  | .openTunnel .. => 20
  | .tunnelOpened .. => 21
  | .tunnelData .. => 22
  | .tunnelClosed .. => 23
  | .sshWindowResize .. => 30
  | .sftpList .. => 40
  | .sftpListItems .. => 41
  | .sftpDownloadStart .. => 42
  | .sftpDownloadStartResponse .. => 43
  | .sftpDownloadChunkRequest .. => 44
  | .sftpDownloadChunk .. => 45
  | .sftpUploadStart .. => 46
  | .sftpUploadStartResponse .. => 47
  | .sftpUpload .. => 48
  | .sftpUploadChunkAck .. => 49
  | .sftpDelete .. => 50
  | .error .. => 51

/-! ## Frames between the server and an agent -/

/-- `stats::Stats`. -/
structure Stats where
  lastRefreshedSecs : UInt64
  procId : String
  procThreads : Nat
  procCpu : UInt32
  procMemBytes : UInt64
  procUptimeSecs : UInt64
  hostName : String
  hostIp : String
  hostMac : String
  hostCpu : UInt32
  hostMemUsedBytes : UInt64
  hostMemTotalBytes : UInt64
  hostUptimeSecs : UInt64
  hostLoadAverage : UInt64 × UInt64 × UInt64
  hostOsInfo : String
  hostConnections : Nat
  hostProcesses : Nat
  deriving DecidableEq, Repr

/-- How an agent names the web connection a `WebFrame` is for. -/
inductive WebFrameId where
  | sessionId (sid : UInt32)
  | connectionId (cid : Uuid)
  deriving DecidableEq, Repr

inductive NodeFrameData where
  | heartbeat (stats : Stats) (sentAt : UInt64)
  | heartbeatAck (sentAt receivedAt : UInt64)
  | auth (token : String) (nodeId : Uuid) (version : String)
  | authResponse (nodeId : Uuid) (success : Bool) (version : String)
  | openTunnel (protocol : UInt8) (cid : Uuid) (username password : Option String)
      (msgId : Option UInt32)
  | tunnelOpened (protocol : UInt8) (cid : Uuid) (sid : UInt32) (msgId : Option UInt32)
  | tunnelData (protocol : UInt8) (cid : Uuid) (sid : UInt32) (data : Bytes)
  | tunnelClosed (protocol : UInt8) (cid : Uuid) (sid : UInt32) (msgId : Option UInt32)
  | sshWindowResize (cid : Uuid) (sid cols rows pxWidth pxHeight : UInt32)
  | sftpList (cid : Uuid) (path : String) (sid : UInt32) (msgId : Option UInt32)
  | sftpDownloadStart (cid : Uuid) (sid : UInt32) (msgId : Option UInt32)
      (download : SFTPDownloadStart)
  | sftpDownloadChunkRequest (cid : Uuid) (sid : UInt32) (msgId : Option UInt32)
      (downloadId chunkIndex : UInt32)
  | sftpDownloadChunk (cid : Uuid) (sid : UInt32) (msgId : Option UInt32)
      (chunk : SFTPDownloadChunk)
  | sftpUploadStart (cid : Uuid) (sid : UInt32) (msgId : Option UInt32) (upload : SFTPUploadStart)
  | sftpUpload (cid : Uuid) (sid : UInt32) (msgId : Option UInt32) (chunk : SFTPUploadChunk)
  | sftpDelete (cid : Uuid) (sid : UInt32) (msgId : Option UInt32) (data : SFTPDelete)
  | webFrame (frame : WebFrameData) (id : WebFrameId)
  | connectionDisconnect (cid : Uuid)
  deriving DecidableEq

/-- `NodeFrameData::code`. -/
def NodeFrameData.code : NodeFrameData → UInt8
  | .heartbeat .. => 1
  | .heartbeatAck .. => 2
  | .auth .. => 10
  | .authResponse .. => 11
  | .openTunnel .. => 20
  | .tunnelOpened .. => 21
  | .tunnelData .. => 22
  | .tunnelClosed .. => 23
  | .sshWindowResize .. => 30
  | .sftpList .. => 31
  | .sftpDownloadStart .. => 32
  | .sftpDownloadChunkRequest .. => 33
  | .sftpDownloadChunk .. => 34
  | .sftpUploadStart .. => 35
  | .sftpUpload .. => 36
  | .sftpDelete .. => 37
  | .webFrame .. => 50
  | .connectionDisconnect .. => 60

/-! ## Frames on the wire -/

inductive FrameEncoding where
  | json
  | messagePack
  deriving DecidableEq, Repr

inductive FrameData where
  | web (data : WebFrameData)
  | node (data : NodeFrameData)

structure Frame where
  version : UInt8
  encoding : FrameEncoding
  data : FrameData

/-- `FRAME_VERSION`. -/
def FRAME_VERSION : UInt8 := 1

/-- `From<NodeFrameData> for Frame`. -/
def Frame.ofNode (data : NodeFrameData) : Frame := ⟨FRAME_VERSION, .messagePack, .node data⟩

/-- `From<WebFrameData> for Frame`. -/
def Frame.ofWeb (data : WebFrameData) : Frame := ⟨FRAME_VERSION, .messagePack, .web data⟩

/-! ## Messages of a WebSocket -/

/-- A message as the handlers take it apart.  A binary one carries what `Frame::decode` made
of its bytes. -/
inductive Message where
  | binary (frame : Except Fault Frame)
  | close
  | other

/-- What `ws_rx.next().await` returns: the end of the stream, an error or a message. -/
abbrev Incoming : Type := Option (Except Unit Message)

/-- The web frame a message carries. -/
def Incoming.webFrame? : Incoming → Option WebFrameData
  | some (.ok (.binary (.ok ⟨_, _, .web data⟩))) => some data
  | _ => none

/-- The node frame a message carries. -/
def Incoming.nodeFrame? : Incoming → Option NodeFrameData
  | some (.ok (.binary (.ok ⟨_, _, .node data⟩))) => some data
  | _ => none

theorem Incoming.nodeFrame?_eq_some {m : Incoming} {data : NodeFrameData}
    (h : m.nodeFrame? = some data) :
    ∃ version encoding, m = some (.ok (.binary (.ok ⟨version, encoding, .node data⟩))) := by
  unfold Incoming.nodeFrame? at h
  split at h
  · cases h
    exact ⟨_, _, rfl⟩
  · cases h

/-! ## Frames for a tunnel -/

/-- The connection id and the session id of a frame for one of an agent's tunnels. -/
def NodeFrameData.addressee : NodeFrameData → Option (Uuid × UInt32)
  | .tunnelData _ cid sid _ | .sshWindowResize cid sid .. | .sftpList cid _ sid _
  | .sftpDownloadStart cid sid .. | .sftpDownloadChunkRequest cid sid .. | .sftpDownloadChunk cid sid ..
  | .sftpUploadStart cid sid .. | .sftpUpload cid sid .. | .sftpDelete cid sid .. => some (cid, sid)
  | .heartbeat .. | .heartbeatAck .. | .auth .. | .authResponse .. | .openTunnel ..
  | .tunnelOpened .. | .tunnelClosed .. | .webFrame .. | .connectionDisconnect .. => none

/-- The frame says that a tunnel is open or closed. -/
def WebFrameData.reportsTunnel : WebFrameData → Bool
  | .tunnelOpened .. | .tunnelClosed .. => true
  | _ => false

/-! ## The bytes of a shell -/

/-- The output of the session `sid` a frame for a browser carries. -/
def WebFrameData.output (sid : UInt32) : WebFrameData → Option Bytes
  | .tunnelData _ _ sid' data => if sid' = sid then some data else none
  | _ => none

/-- The same of a frame an agent sends. -/
def NodeFrameData.output (sid : UInt32) : NodeFrameData → Option Bytes
  | .webFrame frame _ => frame.output sid
  | _ => none

/-- The frame reports the session `sid` open. -/
def NodeFrameData.opens (sid : UInt32) : NodeFrameData → Bool
  | .tunnelOpened _ _ sid' _ => sid' == sid
  | _ => false

/-- Once it has put something out, the session `sid` is not reported open. -/
def OpensFirst (sid : UInt32) (frames : List NodeFrameData) : Prop :=
  frames.Pairwise fun g g' => (g.output sid).isSome = true → g'.opens sid = false

/-- The frame reports the session `sid` closed. -/
def NodeFrameData.closes (sid : UInt32) : NodeFrameData → Bool
  | .tunnelClosed _ _ sid' _ => sid' == sid
  | _ => false

/-- Once it was reported closed, the session `sid` is not reported open. -/
def ClosesLast (sid : UInt32) (frames : List NodeFrameData) : Prop :=
  frames.Pairwise fun g g' => g.closes sid = true → g'.opens sid = false

/-- The input for the SSH session `sid` of the connection `cid` that a frame for an agent
carries. -/
def NodeFrameData.input (cid : Uuid) (sid : UInt32) : NodeFrameData → Option Bytes
  | .tunnelData protocol cid' sid' data =>
      if protocol = Protocol.ssh.toU8 ∧ cid' = cid ∧ sid' = sid then some data else none
  | _ => none

end Phirepass
