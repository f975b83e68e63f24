/-
# `Phirepass.Agent.Replies` — every reply of an SFTP tunnel answers a command

    read k  →  fed t  →  obeyed t  →  replied t
    reader     queue      tunnel

A tunnel takes one command at a time and sends at most one frame for it:

| command | frame |
| :-- | :-- |
| `list` | the directory, with the command's `msg_id` |
| `downloadStart`, `uploadStart` | the id of the transfer, with the `msg_id` |
| `downloadChunk` | the chunk asked for, with the `msg_id` |
| `upload` | the ids of the chunk |
| any | an error with the `msg_id` |

The frame is sent while the command is owed one (`owed`), in one of the turns
of the task that the command takes, so walking the code again says which frame
it is (`replies_follow`).  Hence what a tunnel sends answers what its
connection read for its session, in order (`read_replied`).  The same walk
shows that it sends nothing more once it has reported itself closed.
-/
import Phirepass.Interleave.Answers
import Phirepass.Agent.Input

namespace Phirepass.Agent

open Rust Interleave

/-! ## Replies

The rules here are a second set for the same code.  Those of `Agent.Rules` say where a tunnel may
send; these say which command a frame answers, so they look at what the task has taken from its
queue and what it has sent since.  Other tasks are not restricted. -/

def SFTPCommand.msgId : SFTPCommand → Option UInt32
  | .list _ msgId | .downloadStart _ msgId | .downloadChunk _ msgId | .uploadStart _ msgId
  | .upload _ msgId | .delete _ msgId => msgId

/-- The frames a tunnel of the session `sid` may answer a command with. -/
inductive Replies (sid : UInt32) : WebFrameData → SFTPCommand → Prop
  | listed {path : String} {msgId : Option UInt32} {dir : SFTPListItem} :
      Replies sid (.sftpListItems dir.path sid dir msgId) (.list path msgId)
  | downloadStarted {download : SFTPDownloadStart} {msgId : Option UInt32} {id : UInt32}
      {size : UInt64} :
      Replies sid (.sftpDownloadStartResponse sid msgId ⟨id, size, totalChunks size⟩)
        (.downloadStart download msgId)
  | downloadChunk {chunk : SFTPDownloadChunk} {msgId : Option UInt32} {bytes : Bytes}
      (hbytes : bytes ≠ []) :
      Replies sid (.sftpDownloadChunk sid msgId
        ⟨chunk.downloadId, chunk.chunkIndex, UInt32.ofNat bytes.length, bytes⟩)
        (.downloadChunk chunk msgId)
  | uploadStarted {upload : SFTPUploadStart} {msgId : Option UInt32} {id : UInt32} :
      Replies sid (.sftpUploadStartResponse sid msgId ⟨id⟩) (.uploadStart upload msgId)
  | uploadAcked {chunk : SFTPUploadChunk} {msgId : Option UInt32} :
      Replies sid (.sftpUploadChunkAck sid chunk.uploadId chunk.chunkIndex) (.upload chunk msgId)
  | failed {cmd : SFTPCommand} {message : String} :
      Replies sid (.error .generic message cmd.msgId) cmd

/-- The command that is owed a frame: the one taken last, until the task has sent something. -/
def owed : Hist Resp → Option SFTPCommand
  | [] => none
  | ⟨.select _, .sftp cmd⟩ :: _ => some cmd
  | ⟨.select _, _⟩ :: _ | ⟨.out (.send _ _), _⟩ :: _ => none
  | _ :: h => owed h

/-- The task has reported its tunnel closed. -/
def reportedClosed : Hist Resp → Bool
  | [] => false
  | ⟨.out (.trySend _ (.tunnelClosed ..)), _⟩ :: _ => true
  | _ :: h => reportedClosed h

theorem reportedClosed_of_mem {h : Hist Resp} {k : Nat} {protocol : UInt8} {cid : Uuid}
    {sid : UInt32} {msgId : Option UInt32}
    {r : Resp (.out (.trySend k (.tunnelClosed protocol cid sid msgId)))}
    (hmem : (⟨.out (.trySend k (.tunnelClosed protocol cid sid msgId)), r⟩ : Sigma Resp) ∈ h) :
    reportedClosed h = true := by
  induction h with
  | nil => cases hmem
  | cons e h ih =>
      rcases List.mem_cons.1 hmem with rfl | hmem
      · rfl
      · unfold reportedClosed
        split
        · next heq => cases heq
        · rfl
        · next heq =>
            cases heq
            exact ih hmem

/-- The task runs `tn` and may speak. -/
structure Speaking (t : Nat) (tn : Tunnel) (h : Hist Resp) : Prop where
  began : Began t tn h
  talks : reportedClosed h = false

structure Owing (t : Nat) (tn : Tunnel) (cmd : SFTPCommand) (h : Hist Resp) : Prop where
  began : Began t tn h
  talks : reportedClosed h = false
  owes : owed h = some cmd

/-- What a tunnel task waits to send, it sends its own connection as an answer; and it sends nothing
once it has reported its tunnel closed. -/
structure ReplyMay (t : Nat) (h : Hist Resp) (c : Cmd) : Prop where
  answers : ∀ k g, c = .out (.send k g) → ∃ tn cmd frame, Owing t tn cmd h ∧ k = tn.conn ∧
    g = .webFrame frame (.sessionId tn.sid) ∧ Replies tn.sid frame cmd
  talks : ∀ op, c = .out op → reportedClosed h = false

def replyRules : Tid → Rules Resp
  | .tunnel t => Issues (ReplyMay t)
  | _ => Issues fun _ _ => True

def ReplyTunnelAt (t : Nat) : Label → Hist Resp → Prop
  | .tunnel j, h => j = t ∧ h = []
  | .done, _ => True
  | .sshLoop _ tn, h | .sftpLoop _ tn, h => Speaking t tn h
  | .sweepUploads (.start _ tn _ upload msgId) _ _ _, h => Owing t tn (.uploadStart upload msgId) h
  | .sweepDownloads (.start _ tn _ download msgId) _ _ _, h =>
      Owing t tn (.downloadStart download msgId) h
  | .retainUploads _ tn data msgId _ _, h => Owing t tn (.delete data msgId) h
  | _, _ => False

def ReplyAt : Tid → Label → Hist Resp → Prop
  | .tunnel t => ReplyTunnelAt t
  | _ => fun _ _ => True

def Cmd.isQuiet : Cmd → Bool
  | .select _ | .out _ => false
  | _ => true

section Walk

open Prog

variable {S : Setup} {t : Nat} {tn : Tunnel} {cmd : SFTPCommand} {h : Hist Resp}

theorem Owing.cons {c : Cmd} {r : Resp c} (ho : Owing t tn cmd h) (hc : c.isQuiet = true) :
    Owing t tn cmd (⟨c, r⟩ :: h) := by
  have howes := ho.owes
  have htalks := ho.talks
  cases c with
  | select j | out op => cases hc
  | _ => exact ⟨ho.began.cons, htalks, howes⟩

theorem mayQuietly {c : Cmd} (hc : c.isQuiet = true) : ReplyMay t h c := by
  constructor
  · rintro k g rfl
    cases hc
  · rintro op rfl
    cases hc

theorem mayTry {k : Nat} {g : NodeFrameData} (htalks : reportedClosed h = false) :
    ReplyMay t h (.out (.trySend k g)) := by
  refine ⟨?_, fun _ _ => htalks⟩
  intro k g heq
  cases heq

theorem Sweeps.isQuiet {k : Nat} {c : Cmd} (hc : Sweeps k c) : c.isQuiet = true := by
  cases hc <;> rfl

theorem reply_replies {frame : WebFrameData} (ho : Owing t tn cmd h)
    (hreply : Replies tn.sid frame cmd) :
    (reply tn frame).Conforms (Issues (ReplyMay t)) (fun _ h' => Speaking t tn h') h := by
  refine conforms_call.2 ⟨⟨?_, fun _ _ => ho.talks⟩, fun _ => ⟨ho.began.cons, ho.talks⟩⟩
  rintro k g heq
  cases heq
  exact ⟨tn, cmd, frame, ho, rfl, rfl, hreply⟩

theorem replyError_replies {message : String} {msgId : Option UInt32} (ho : Owing t tn cmd h)
    (hid : cmd.msgId = msgId) :
    (replyError tn message msgId).Conforms (Issues (ReplyMay t))
      (fun _ h' => Speaking t tn h') h := by
  subst hid
  exact reply_replies ho .failed

/-! ## The actions

An action starts with the command owed a frame and ends with the task free to speak (`Speaking`):
the frame is sent last, or there is none.  A chunk that is past the end of the file and a file
that was deleted are not answered at all. -/

theorem listDir_replies {path : String} (ho : Owing t tn cmd h) :
    (listDir path).Conforms (Issues (ReplyMay t)) (fun _ h' => Owing t tn cmd h') h := by
  refine conforms_call.2 ⟨mayQuietly rfl, fun absPath => ?_⟩
  cases absPath with
  | error err => exact ⟨ho.began.cons, ho.talks, ho.owes⟩
  | ok absPath =>
      refine conforms_call.2 ⟨mayQuietly rfl, fun size => ?_⟩
      cases size with
      | error err => exact ⟨ho.began.cons.cons, ho.talks, ho.owes⟩
      | ok size =>
          refine conforms_call.2 ⟨mayQuietly rfl, fun entries => ?_⟩
          cases entries with
          | error err => exact ⟨ho.began.cons.cons.cons, ho.talks, ho.owes⟩
          | ok entries => exact ⟨ho.began.cons.cons.cons, ho.talks, ho.owes⟩

theorem sendDirectoryListing_replies {path : String} {msgId : Option UInt32}
    (ho : Owing t tn (.list path msgId) h) :
    (sendDirectoryListing tn path msgId).Conforms (Issues (ReplyMay t))
      (fun _ h' => Speaking t tn h') h := by
  refine conforms_bind.2 ((listDir_replies ho).mono fun listed h' ho' => ?_)
  cases listed with
  | error err => exact replyError_replies ho' rfl
  | ok dir => exact reply_replies ho' .listed

theorem startDownload_replies {download : SFTPDownloadStart} {msgId : Option UInt32}
    (ho : Owing t tn (.downloadStart download msgId) h) :
    (startDownload tn download msgId).Conforms (Issues (ReplyMay t))
      (fun _ h' => Speaking t tn h') h := by
  refine conforms_call.2 ⟨mayQuietly rfl, fun size => ?_⟩
  cases size with
  | error err => exact replyError_replies ⟨ho.began.cons, ho.talks, ho.owes⟩ rfl
  | ok size =>
      refine conforms_call.2 ⟨mayQuietly rfl, fun file => ?_⟩
      cases file with
      | error err => exact replyError_replies ⟨ho.began.cons.cons, ho.talks, ho.owes⟩ rfl
      | ok file =>
          refine conforms_call.2 ⟨mayQuietly rfl, fun id => ?_⟩
          refine conforms_call.2 ⟨mayQuietly rfl, fun now => ?_⟩
          refine conforms_call.2 ⟨mayQuietly rfl, fun _ => ?_⟩
          exact reply_replies ⟨ho.began.cons.cons.cons.cons.cons, ho.talks, ho.owes⟩
            .downloadStarted

theorem addU32_replies {a b : UInt32} (ho : Owing t tn cmd h) :
    (addU32 a b).Conforms (Issues (ReplyMay t)) (fun _ h' => Owing t tn cmd h') h := by
  unfold addU32
  split
  · exact ho
  · exact conforms_call.2 ⟨mayQuietly rfl, fun _ => ⟨ho.began.cons, ho.talks, ho.owes⟩⟩

theorem downloadFileChunk_replies {chunk : SFTPDownloadChunk} {msgId : Option UInt32}
    (ho : Owing t tn (.downloadChunk chunk msgId) h) :
    (downloadFileChunk S tn msgId chunk.downloadId chunk.chunkIndex).Conforms
      (Issues (ReplyMay t)) (fun _ h' => Speaking t tn h') h := by
  -- each error is answered; an end of the file where a chunk was asked for is not
  refine conforms_call.2 ⟨mayQuietly rfl, fun found => ?_⟩
  cases found with
  | none => exact replyError_replies ⟨ho.began.cons, ho.talks, ho.owes⟩ rfl
  | some download =>
      refine conforms_call.2 ⟨mayQuietly rfl, fun sought => ?_⟩
      cases sought with
      | error err =>
          refine conforms_bind.2 (Conforms.mono (fun _ h' hb => ?_)
            (replyError_replies ⟨ho.began.cons.cons, ho.talks, ho.owes⟩ rfl))
          exact conforms_call.2 ⟨mayQuietly rfl, fun _ => ⟨hb.began.cons, hb.talks⟩⟩
      | ok _ =>
          refine conforms_call.2 ⟨mayQuietly rfl, fun bytes => ?_⟩
          cases bytes with
          | error err =>
              refine conforms_bind.2 (Conforms.mono (fun _ h' hb => ?_)
                (replyError_replies ⟨ho.began.cons.cons.cons, ho.talks, ho.owes⟩ rfl))
              exact conforms_call.2 ⟨mayQuietly rfl, fun _ => ⟨hb.began.cons, hb.talks⟩⟩
          | ok bytes =>
              cases bytes with
              | nil =>
                  exact conforms_call.2 ⟨mayQuietly rfl, fun _ =>
                    ⟨ho.began.cons.cons.cons.cons, ho.talks⟩⟩
              | cons byte bytes =>
                  refine conforms_call.2 ⟨mayQuietly rfl, fun now => ?_⟩
                  refine conforms_call.2 ⟨mayQuietly rfl, fun _ => ?_⟩
                  split
                  · refine conforms_bind.2 (Conforms.mono (fun _ h' ho' => ?_)
                      (addU32_replies ⟨ho.began.cons.cons.cons.cons.cons, ho.talks, ho.owes⟩))
                    exact reply_replies ho' (.downloadChunk (List.cons_ne_nil _ _))
                  · exact reply_replies ⟨ho.began.cons.cons.cons.cons.cons, ho.talks, ho.owes⟩
                      (.downloadChunk (List.cons_ne_nil _ _))

theorem startUpload_replies {upload : SFTPUploadStart} {msgId : Option UInt32}
    (ho : Owing t tn (.uploadStart upload msgId) h) :
    (startUpload tn upload msgId).Conforms (Issues (ReplyMay t))
      (fun _ h' => Speaking t tn h') h := by
  refine conforms_call.2 ⟨mayQuietly rfl, fun file => ?_⟩
  cases file with
  | error err => exact replyError_replies ⟨ho.began.cons, ho.talks, ho.owes⟩ rfl
  | ok file =>
      refine conforms_call.2 ⟨mayQuietly rfl, fun id => ?_⟩
      refine conforms_call.2 ⟨mayQuietly rfl, fun now => ?_⟩
      refine conforms_call.2 ⟨mayQuietly rfl, fun _ => ?_⟩
      exact reply_replies ⟨ho.began.cons.cons.cons.cons, ho.talks, ho.owes⟩ .uploadStarted

theorem finishUpload_replies {chunk : SFTPUploadChunk} {msgId : Option UInt32}
    (ho : Owing t tn (.upload chunk msgId) h) :
    (finishUpload tn chunk msgId).Conforms (Issues (ReplyMay t))
      (fun _ h' => Speaking t tn h') h := by
  refine conforms_call.2 ⟨mayQuietly rfl, fun removed => ?_⟩
  cases removed with
  | none => exact replyError_replies ⟨ho.began.cons, ho.talks, ho.owes⟩ rfl
  | some upload =>
      refine conforms_call.2 ⟨mayQuietly rfl, fun written => ?_⟩
      cases written with
      | error err => exact replyError_replies ⟨ho.began.cons.cons, ho.talks, ho.owes⟩ rfl
      | ok _ =>
          refine conforms_call.2 ⟨mayQuietly rfl, fun renamed => ?_⟩
          cases renamed with
          | error err => exact replyError_replies ⟨ho.began.cons.cons.cons, ho.talks, ho.owes⟩ rfl
          | ok _ => exact reply_replies ⟨ho.began.cons.cons.cons, ho.talks, ho.owes⟩ .uploadAcked

theorem continueUpload_replies {chunk : SFTPUploadChunk} {msgId : Option UInt32}
    (ho : Owing t tn (.upload chunk msgId) h) :
    (continueUpload tn chunk msgId).Conforms (Issues (ReplyMay t))
      (fun _ h' => Speaking t tn h') h := by
  refine conforms_call.2 ⟨mayQuietly rfl, fun found => ?_⟩
  cases found with
  | none => exact replyError_replies ⟨ho.began.cons, ho.talks, ho.owes⟩ rfl
  | some upload =>
      refine conforms_call.2 ⟨mayQuietly rfl, fun written => ?_⟩
      cases written with
      | error err =>
          refine conforms_call.2 ⟨mayQuietly rfl, fun _ => ?_⟩
          exact replyError_replies ⟨ho.began.cons.cons.cons, ho.talks, ho.owes⟩ rfl
      | ok _ =>
          refine conforms_call.2 ⟨mayQuietly rfl, fun now => ?_⟩
          refine conforms_call.2 ⟨mayQuietly rfl, fun _ => ?_⟩
          exact reply_replies ⟨ho.began.cons.cons.cons.cons, ho.talks, ho.owes⟩ .uploadAcked

theorem uploadFileChunk_replies {chunk : SFTPUploadChunk} {msgId : Option UInt32}
    (ho : Owing t tn (.upload chunk msgId) h) :
    (uploadFileChunk tn chunk msgId).Conforms (Issues (ReplyMay t))
      (fun _ h' => Speaking t tn h') h := by
  refine conforms_call.2 ⟨mayQuietly rfl, fun found => ?_⟩
  cases found with
  | none => exact replyError_replies ⟨ho.began.cons, ho.talks, ho.owes⟩ rfl
  | some upload =>
      refine conforms_bind.2 (Conforms.mono (fun next h' ho' => ?_)
        (addU32_replies ⟨ho.began.cons, ho.talks, ho.owes⟩))
      split
      · exact finishUpload_replies ho'
      · exact continueUpload_replies ho'

theorem removeFile_replies {data : SFTPDelete} {msgId : Option UInt32}
    (ho : Owing t tn (.delete data msgId) h) :
    (removeFile tn data msgId).Conforms (Issues (ReplyMay t)) (fun _ h' => Speaking t tn h') h := by
  refine conforms_call.2 ⟨mayQuietly rfl, fun removed => ?_⟩
  cases removed with
  | error err => exact replyError_replies ⟨ho.began.cons, ho.talks, ho.owes⟩ rfl
  | ok _ => exact ⟨ho.began.cons, ho.talks⟩

/-! ## The turns of the task

A turn of the loop takes a command or nothing, and a command is owed until its action is over,
across the turns that a walk over the transfers or a search for an upload takes in between. -/

theorem createClient_replies {j : Nat} {failed : String} (hs : Speaking t tn h) :
    (createClient j tn failed).Conforms (Issues (ReplyMay t))
      (fun _ h' => Speaking t tn h') h := by
  refine conforms_call.2 ⟨mayQuietly rfl, fun connected => ?_⟩
  cases connected with
  | error err => exact ⟨hs.began.cons, hs.talks⟩
  | ok _ =>
      refine conforms_call.2 ⟨mayQuietly rfl, fun authenticated => ?_⟩
      match authenticated with
      | .error _ | .ok true | .ok false => exact ⟨hs.began.cons.cons, hs.talks⟩

theorem openShell_replies {j : Nat} (hs : Speaking t tn h) :
    (openShell j).Conforms (Issues (ReplyMay t)) (fun _ h' => Speaking t tn h') h := by
  refine conforms_call.2 ⟨mayQuietly rfl, fun opened => ?_⟩
  cases opened with
  | error err => exact ⟨hs.began.cons, hs.talks⟩
  | ok _ =>
      refine conforms_call.2 ⟨mayQuietly rfl, fun granted => ?_⟩
      cases granted with
      | error err => exact ⟨hs.began.cons.cons, hs.talks⟩
      | ok _ =>
          refine conforms_call.2 ⟨mayQuietly rfl, fun started => ?_⟩
          cases started <;> exact ⟨hs.began.cons.cons.cons, hs.talks⟩

theorem openSftp_replies {j : Nat} (hs : Speaking t tn h) :
    (openSftp j).Conforms (Issues (ReplyMay t)) (fun _ h' => Speaking t tn h') h := by
  refine conforms_call.2 ⟨mayQuietly rfl, fun opened => ?_⟩
  cases opened with
  | error err => exact ⟨hs.began.cons, hs.talks⟩
  | ok _ =>
      refine conforms_call.2 ⟨mayQuietly rfl, fun granted => ?_⟩
      cases granted with
      | error err => exact ⟨hs.began.cons.cons, hs.talks⟩
      | ok _ =>
          refine conforms_call.2 ⟨mayQuietly rfl, fun started => ?_⟩
          cases started <;> exact ⟨hs.began.cons.cons.cons, hs.talks⟩

theorem endTunnel_replies {j : Nat} {res : Except String Unit} (hs : Speaking t tn h) :
    (endTunnel j tn res).Conforms (Issues (ReplyMay t)) (ReplyTunnelAt t) h := by
  unfold endTunnel
  refine conforms_bind.2 (Conforms.mono (Q := fun _ h' => Speaking t tn h') (fun _ h' hs' => ?_) ?_)
  · cases res with
    | error err =>
        exact conforms_call.2 ⟨mayTry hs'.talks, fun _ =>
          conforms_call.2 ⟨mayQuietly rfl, fun _ => trivial⟩⟩
    | ok _ =>
        exact conforms_call.2 ⟨mayTry hs'.talks, fun _ =>
          conforms_call.2 ⟨mayQuietly rfl, fun _ => trivial⟩⟩
  · cases tn.protocol with
    | ssh => exact ⟨mayQuietly rfl, fun _ _ => ⟨hs.began.cons, hs.talks⟩⟩
    | sftp => exact ⟨mayQuietly rfl, fun _ _ => ⟨hs.began.cons, hs.talks⟩⟩

theorem sshConnect_replies {j : Nat} (hs : Speaking t tn h) :
    (sshConnect j tn).Conforms (Issues (ReplyMay t)) (ReplyTunnelAt t) h := by
  refine conforms_bind.2 ((createClient_replies hs).mono fun connected h' hs' => ?_)
  cases connected with
  | error err => exact endTunnel_replies hs'
  | ok _ =>
      refine conforms_bind.2 ((openShell_replies hs').mono fun opened h'' hs'' => ?_)
      cases opened with
      | error err => exact endTunnel_replies hs''
      | ok _ =>
          exact conforms_call.2 ⟨mayTry hs''.talks, fun _ => ⟨hs''.began.cons, hs''.talks⟩⟩

theorem sshClose_replies {j : Nat} (hs : Speaking t tn h) :
    (sshClose j tn).Conforms (Issues (ReplyMay t)) (ReplyTunnelAt t) h := by
  refine conforms_call.2 ⟨mayQuietly rfl, fun _ => conforms_call.2 ⟨mayQuietly rfl, fun left => ?_⟩⟩
  cases left <;> exact endTunnel_replies ⟨hs.began.cons.cons, hs.talks⟩

theorem maySelect {j : Nat} : ReplyMay t h (.select j) :=
  ⟨fun _ _ heq => (Cmd.noConfusion heq), fun _ heq => (Cmd.noConfusion heq)⟩

theorem sshTurn_replies {j : Nat} (hs : Speaking t tn h) :
    (sshTurn S j tn).Conforms (Issues (ReplyMay t)) (ReplyTunnelAt t) h := by
  refine conforms_call.2 ⟨maySelect, fun wake => ?_⟩
  match wake with
  | .shutdown | .message none | .message (some .eof) | .message (some .close) =>
      exact sshClose_replies ⟨hs.began.cons, hs.talks⟩
  | .ssh (.data buf) =>
      refine conforms_call.2 ⟨mayQuietly rfl, fun written => ?_⟩
      cases written with
      | error err => exact sshClose_replies ⟨hs.began.cons.cons, hs.talks⟩
      | ok _ => exact ⟨hs.began.cons.cons, hs.talks⟩
  | .ssh (.resize ..) =>
      exact conforms_call.2 ⟨mayQuietly rfl, fun _ => ⟨hs.began.cons.cons, hs.talks⟩⟩
  | .message (some (.data _)) =>
      exact conforms_call.2 ⟨mayTry hs.talks, fun _ => ⟨hs.began.cons.cons, hs.talks⟩⟩
  | .message (some (.exitStatus _)) =>
      exact conforms_call.2 ⟨mayQuietly rfl, fun _ =>
        sshClose_replies ⟨hs.began.cons.cons, hs.talks⟩⟩
  | .message (some .other) | .sftp _ => exact ⟨hs.began.cons, hs.talks⟩

theorem sftpConnect_replies {j : Nat} (hs : Speaking t tn h) :
    (sftpConnect j tn).Conforms (Issues (ReplyMay t)) (ReplyTunnelAt t) h := by
  refine conforms_call.2 ⟨mayTry hs.talks, fun r => ?_⟩
  have hs' : Speaking t tn (⟨.out (.trySend tn.conn (.tunnelOpened tn.protocol.toU8 tn.cid tn.sid
      tn.msgId)), r⟩ :: h) := ⟨hs.began.cons, hs.talks⟩
  refine conforms_bind.2 ((createClient_replies hs').mono fun connected h' hs' => ?_)
  cases connected with
  | error err => exact endTunnel_replies hs'
  | ok _ =>
      refine conforms_bind.2 ((openSftp_replies hs').mono fun opened h'' hs'' => ?_)
      cases opened with
      | error err => exact endTunnel_replies hs''
      | ok _ => exact hs''

theorem sftpClose_replies {j : Nat} (hs : Speaking t tn h) :
    (sftpClose j tn).Conforms (Issues (ReplyMay t)) (ReplyTunnelAt t) h := by
  refine conforms_call.2 ⟨mayQuietly rfl, fun left => ?_⟩
  cases left <;> exact endTunnel_replies ⟨hs.began.cons, hs.talks⟩

theorem sftpTurn_replies {j : Nat} (hs : Speaking t tn h) :
    (sftpTurn S j tn).Conforms (Issues (ReplyMay t)) (ReplyTunnelAt t) h := by
  refine conforms_call.2 ⟨maySelect, fun wake => ?_⟩
  cases wake with
  | shutdown => exact sftpClose_replies ⟨hs.began.cons, hs.talks⟩
  | ssh | message => exact ⟨hs.began.cons, hs.talks⟩
  | sftp cmd =>
      have ho : Owing t tn cmd (⟨.select j, .sftp cmd⟩ :: h) := ⟨hs.began.cons, hs.talks, rfl⟩
      cases cmd with
      | list path msgId =>
          exact conforms_bind.2 ((sendDirectoryListing_replies ho).mono fun _ _ hs' => hs')
      | downloadStart download msgId =>
          refine conforms_call.2 ⟨mayQuietly rfl, fun now => ?_⟩
          exact conforms_call.2 ⟨mayQuietly rfl, fun _ =>
            ⟨ho.began.cons.cons, ho.talks, ho.owes⟩⟩
      | downloadChunk chunk msgId =>
          exact conforms_bind.2 ((downloadFileChunk_replies ho).mono fun _ _ hs' => hs')
      | uploadStart upload msgId =>
          refine conforms_call.2 ⟨mayQuietly rfl, fun now => ?_⟩
          exact conforms_call.2 ⟨mayQuietly rfl, fun _ =>
            ⟨ho.began.cons.cons, ho.talks, ho.owes⟩⟩
      | upload chunk msgId =>
          exact conforms_bind.2 ((uploadFileChunk_replies ho).mono fun _ _ hs' => hs')
      | delete data msgId =>
          exact conforms_call.2 ⟨mayQuietly rfl, fun _ => ⟨ho.began.cons, ho.talks, ho.owes⟩⟩

theorem retainUploads_replies {j : Nat} {data : SFTPDelete} {msgId : Option UInt32}
    {begun visited : List Key} (ho : Owing t tn (.delete data msgId) h) :
    (retainUploads j tn data msgId begun visited).Conforms (Issues (ReplyMay t))
      (ReplyTunnelAt t) h := by
  refine conforms_call.2 ⟨mayQuietly rfl, fun met => ?_⟩
  cases met with
  | some entry =>
      exact conforms_call.2 ⟨mayQuietly rfl, fun _ => ⟨ho.began.cons.cons, ho.talks, ho.owes⟩⟩
  | none => exact conforms_bind.2 (Conforms.mono (fun _ _ hb' => hb')
      (removeFile_replies ⟨ho.began.cons, ho.talks, ho.owes⟩))

/-- **A tunnel task sends nothing but answers**, at every label it can be at. -/
theorem replies_tunnel (l : Label) (h : Hist Resp) (hat : ReplyTunnelAt t l h) :
    (body S l).Conforms (Issues (ReplyMay t)) (ReplyTunnelAt t) h := by
  cases l with
  | tunnel j =>
      obtain ⟨rfl, rfl⟩ := hat
      refine conforms_call.2 ⟨mayQuietly rfl, fun tn => ?_⟩
      split
      · exact sshConnect_replies ⟨List.suffix_rfl, rfl⟩
      · exact sftpConnect_replies ⟨List.suffix_rfl, rfl⟩
  | sshLoop j tn => exact sshTurn_replies hat
  | sftpLoop j tn => exact sftpTurn_replies hat
  | retainUploads j tn data msgId begun visited => exact retainUploads_replies hat
  | sweepUploads why begun visited found =>
      cases why with
      | start j tn now upload msgId =>
          refine sweepUploads_conforms (P := Owing t tn (.uploadStart upload msgId))
            (fun _ _ _ hc ho => ho.cons hc.isQuiet) (fun _ _ hc _ => mayQuietly hc.isQuiet)
            (fun _ _ _ ho => ho) (fun h ho => ?_) hat
          exact conforms_bind.2 ((startUpload_replies ho).mono fun _ _ hb' => hb')
      | _ => exact hat.elim
  | sweepDownloads why begun visited found =>
      cases why with
      | start j tn now download msgId =>
          refine sweepDownloads_conforms (P := Owing t tn (.downloadStart download msgId))
            (fun _ _ _ hc ho => ho.cons hc.isQuiet) (fun _ _ hc _ => mayQuietly hc.isQuiet)
            (fun _ _ _ ho => ho) (fun h ho => ?_) hat
          exact conforms_bind.2 ((startDownload_replies ho).mono fun _ _ hb' => hb')
      | _ => exact hat.elim
  | done => trivial
  | _ => exact hat.elim

theorem replies_follow : (machine S).Follows replyRules ReplyAt start where
  body i l h hat := by
    cases i with
    | tunnel t => exact replies_tunnel l h hat
    | _ => exact conforms_any fun _ _ => trivial
  start i := by
    cases i with
    | tunnel t => exact ⟨rfl, rfl⟩
    | _ => trivial

end Walk

/-! ## What the events say

The four streams of the picture above, and what is under way between the first two.  `readBy`
is the reader's own part of what the connection gives; `connect` reads the login before it. -/

/-- The frames the reader of connection `k` reads. -/
def readBy (k : Nat) (_ : List (Ev Tid Resp)) : Ev Tid Resp → List NodeFrameData
  | ⟨.reader _, .ws j .next, m⟩ => if j = k then (Incoming.nodeFrame? m).toList else []
  | _ => []

/-- The commands put into the queue of the SFTP tunnel `t`. -/
def fed (t : Nat) (_ : List (Ev Tid Resp)) : Ev Tid Resp → List SFTPCommand
  | ⟨_, .sftpStdin op, r⟩ => op.puts t r
  | _ => []

def obeyed (t : Nat) (_ : List (Ev Tid Resp)) : Ev Tid Resp → List SFTPCommand
  | ⟨.tunnel j, .select _, .sftp cmd⟩ => if j = t then [cmd] else []
  | _ => []

/-- The frames the task puts into the queue of its connection, where it waits for room. -/
def replied (t : Nat) (_ : List (Ev Tid Resp)) : Ev Tid Resp → List WebFrameData
  | ⟨.tunnel j, .out (.send _ (.webFrame frame _)), true⟩ => if j = t then [frame] else []
  | _ => []

/-- The frame a reader has read and not handed on, while it looks for the session. -/
def reading : Hist Resp → List NodeFrameData
  | ⟨.ws _ .next, m⟩ :: _ => (Incoming.nodeFrame? m).toList
  | ⟨.sessions _ (.get _), some (.sftp _)⟩ :: h => reading h
  | _ => []

/-- What a session is sent for a frame read for it. -/
def Answered (cid : Uuid) (sid : UInt32) (frame : WebFrameData) (g : NodeFrameData) : Prop :=
  ∃ cmd, sftpDelivery g = some ((cid, sid), cmd) ∧ Replies sid frame cmd

section Replied

variable {S : Setup} {A : Restriction} {cfg : Config State Tid Resp Label} {t : Nat} {tn : Tunnel}

theorem reading_cons {h : Hist Resp} {c : Cmd} {r : Resp c} (hc : ∀ k, c ≠ .ws k .next) :
    reading (⟨c, r⟩ :: h) = reading h ∨ reading (⟨c, r⟩ :: h) = [] := by
  cases c with
  | ws k op =>
      cases op with
      | next => exact absurd rfl (hc k)
      | _ => exact .inr rfl
  | sessions k op =>
      cases op with
      | get key =>
          match r with
          | some (.sftp _) => exact .inl rfl
          | some (.ssh _) | none => exact .inr rfl
      | _ => exact .inr rfl
  | _ => exact .inr rfl

theorem owed_cons {h : Hist Resp} {c : Cmd} {r : Resp c} (hc : c.isQuiet = true) :
    owed (⟨c, r⟩ :: h) = owed h := by
  cases c with
  | select j => cases hc
  | out op =>
      cases op with
      | send k g => cases hc
      | trySend | recv | close => rfl
  | _ => rfl

theorem spawnedAs (hr : (machine S).Reach A start cfg)
    (htn : cfg.world.state.tunnels[t]? = some tn) {i : Tid} {tn' : Tunnel}
    (hmem : (⟨i, .spawnTunnel tn', t⟩ : Ev Tid Resp) ∈ cfg.world.trace) : tn' = tn := by
  have heq := tunnel_of_spawn hr _ _ _ hmem
  rw [htn] at heq
  exact (Option.some.inj heq).symm

theorem agent_answers {β γ : Type} {Q : γ → β → Prop}
    (taken : List (Ev Tid Resp) → Ev Tid Resp → List β)
    (given : List (Ev Tid Resp) → Ev Tid Resp → List γ) (hand : World State Tid Resp → List β)
    (h0 : hand ⟨State.start, []⟩ = [])
    (hstep : ∀ (cfg : Config State Tid Resp Label) (i : Tid) (c : Cmd) (o : Choice) (r : Resp c)
      (s : State), (machine S).Reach A start cfg → May S i (own i cfg.world.trace) c →
      A cfg.world i c r → exec S i c o cfg.world.state = some (r, s) →
      Spends Q (hand cfg.world) (hand (cfg.world.push i c r s))
        (taken cfg.world.trace ⟨i, c, r⟩) (given cfg.world.trace ⟨i, c, r⟩))
    (hr : (machine S).Reach A start cfg) :
    Answers Q (stream taken cfg.world.trace) (stream given cfg.world.trace) (hand cfg.world) :=
  hr.answers agent_follows (fun _ _ _ _ _ => trivial) taken given hand rfl h0 hstep

/-! ## From the socket to the queue

The reader looks up the session of each frame and hands the command to the tunnel it finds, before
it reads on.  So what is fed is chosen from what was read, and at most one frame is in its hands. -/

/-- **What a tunnel is fed answers what its connection reads**, for its session. -/
theorem read_fed (hr : (machine S).Reach A start cfg)
    (htn : cfg.world.state.tunnels[t]? = some tn) :
    List.SublistForall₂ (fun cmd g => sftpDelivery g = some ((tn.cid, tn.sid), cmd))
      (stream (fed t) cfg.world.trace) (stream (readBy tn.conn) cfg.world.trace) := by
  have hr' := hr.restrict
    (F := fun tr => ∀ i tn', (⟨i, .spawnTunnel tn', t⟩ : Ev Tid Resp) ∈ tr → tn' = tn)
    (fun _ _ hs h i tn' hmem => h i tn' (hs.subset hmem)) (fun i tn' hmem => spawnedAs hr htn hmem)
  refine (agent_answers (readBy tn.conn) (fed t) (fun w => reading (own (.reader tn.conn) w.trace))
    rfl ?_ hr').chosen
  intro cfg i c o r s hr hmay hA hexec
  rw [World.push_trace]
  have hread (hi : i ≠ .reader tn.conn ∨ ∀ k, c ≠ .ws k .next) :
      readBy tn.conn cfg.world.trace ⟨i, c, r⟩ = [] := by
    unfold readBy
    split
    · next heq =>
        cases heq
        refine if_neg fun hj => ?_
        obtain rfl := May.readsOwn hmay
        subst hj
        exact hi.elim (fun h => h rfl) fun h => h _ rfl
    · rfl
  by_cases hfeed : ∃ cmd, c.FeedsSftp t cmd r
  · -- the reader of the tunnel's connection has just found it
    obtain ⟨cmd, hfeed⟩ := hfeed
    obtain ⟨k, key, m, g, h', rfl, hown, hm, hg⟩ := hmay.feedsSftp hfeed
    have hget : (⟨.reader k, .sessions k (.get key), some (.sftp t)⟩ : Ev Tid Resp)
        ∈ cfg.world.trace := by
      rw [← mem_own, hown]
      exact List.mem_cons_self
    obtain ⟨tn', htn', rfl, rfl, -⟩ := tunnel_of_get hr _ _ _ _ hget
    obtain rfl := hA.2 _ tn' (List.mem_cons_of_mem _ (spawned_of_tunnel hr _ _ htn'))
    cases c with
    | sftpStdin op =>
        have hgave : fed t cfg.world.trace ⟨.reader tn'.conn, .sftpStdin op, r⟩ = [cmd] := by
          cases op with
          | send x a | trySend x a =>
              obtain ⟨rfl, rfl, rfl⟩ := hfeed
              exact if_pos ⟨rfl, rfl⟩
          | recv | close => exact hfeed.elim
        have hhand : reading (own (.reader tn'.conn) cfg.world.trace) = [g] := by
          rw [hown]
          show (Incoming.nodeFrame? m).toList = [g]
          rw [hm]
          rfl
        rw [own_cons_self, hread (.inr fun _ heq => nomatch heq), hgave, hhand]
        exact .answer hg
    | _ => exact hfeed.elim
  · have hgave : fed t cfg.world.trace ⟨i, c, r⟩ = [] := by
      cases c with
      | sftpStdin op =>
          rw [List.eq_nil_iff_forall_not_mem]
          intro cmd hcmd
          exact hfeed ⟨cmd, ChanOp.mem_puts_iff.1 hcmd⟩
      | _ => rfl
    rw [hgave]
    -- nothing is fed: the reader takes a frame, or keeps the one in its hands or drops it
    by_cases hi : i = .reader tn.conn
    · subst hi
      rw [own_cons_self]
      by_cases hnext : ∃ k, c = .ws k .next
      · obtain ⟨k, rfl⟩ := hnext
        obtain rfl := May.readsOwn hmay
        rw [readBy, if_pos rfl]
        exact .take
      · have hc : ∀ k, c ≠ .ws k .next := fun k heq => hnext ⟨k, heq⟩
        rw [hread (.inr hc)]
        rcases reading_cons (r := r) (h := own (.reader tn.conn) cfg.world.trace) hc with
          hkeep | hdrop
        · rw [hkeep]
          exact .idle
        · rw [hdrop]
          exact .drop
    · rw [own_cons_of_ne hi, hread (.inl hi)]
      exact .idle

/-! ## From the queue to the socket

Commands wait in the queue of the tunnel and are owed once they are taken; a frame that answers
one is put into the queue of the connection, unless that is closed. -/

/-- The queue changes by its own operations and when the tunnel wakes up for a command. -/
theorem sftpStdin_spared {i : Tid} {c : Cmd} {o : Choice} {r : Resp c} {s s' : State}
    (h : exec S i c o s = some (r, s')) :
    (∃ op, c = .sftpStdin op) ∨ (∃ j cmd, (⟨c, r⟩ : Sigma Resp) = ⟨.select j, .sftp cmd⟩) ∨
      s'.sftpStdin = s.sftpStdin := by
  cases c with
  | sftpStdin op => exact .inl ⟨op, rfl⟩
  | select j =>
      rcases select_cases h with ⟨_, _, -, -, rfl⟩ | ⟨cmd, _, rfl, -, rfl⟩ | ⟨-, rfl⟩
      · exact .inr (.inr rfl)
      · exact .inr (.inl ⟨j, cmd, rfl⟩)
      · exact .inr (.inr rfl)
  | ws k op => cases op <;> cases h <;> exact .inr (.inr rfl)
  | out | sshStdin | sessions | uploads | downloads | begin =>
      obtain ⟨x, -, hx⟩ := Option.map_eq_some_iff.1 h
      cases hx
      exact .inr (.inr rfl)
  | started k | wait k =>
      simp only [exec] at h
      split at h
      · cases h
        exact .inr (.inr rfl)
      · cases h
  | tick k =>
      simp only [exec] at h
      split at h
      · split at h
        · cases h
          exact .inr (.inr rfl)
        · cases h
      · cases h
        exact .inr (.inr rfl)
  | overflow =>
      simp only [exec] at h
      split at h
      · cases h
      · cases h
        exact .inr (.inr rfl)
  | panic message => exact Empty.elim r
  | stop | generateSessionId | generateId | spawnTunnel | ssh | sftp | now | stats | loadHeartbeat
  | storeHeartbeat | spawn | cancel | ended | returned | finish =>
      cases h
      exact .inr (.inr rfl)

theorem exec_sftpStdin {i : Tid} {op : ChanOp SFTPCommand} {o : Choice} {r : op.Resp}
    {s s' : State} (h : exec S i (.sftpStdin op) o s = some (r, s')) :
    op.exec SFTP_CAPACITY false s.sftpStdin = some (r, s'.sftpStdin) := by
  obtain ⟨x, hexec, hx⟩ := Option.map_eq_some_iff.1 h
  cases hx
  exact hexec

/-- Nothing but a tunnel takes commands out of its queue. -/
theorem May.sftpStdin {i : Tid} {h : Hist Resp} {op : ChanOp SFTPCommand}
    (hm : May S i h (.sftpStdin op)) : (∃ x cmd, op = .send x cmd) ∨ ∃ x, op = .close x := by
  cases i with
  | reader j =>
      cases hm with
      | sendSftp => exact .inl ⟨_, _, rfl⟩
      | close hc | sweep hc => cases hc
  | tunnel t =>
      rcases hm with ⟨-, hc⟩ | ⟨_, -, -, hc⟩
      · cases hc
      · cases hc with
        | dropSftp => exact .inr ⟨_, rfl⟩
        | sweep hc => cases hc
  | main k => cases hm with | close hc | sweep hc => cases hc
  | cleanup k => cases hm with | sweep hc => cases hc
  | writer k | heartbeat k => cases hm

/-- **The queue keeps its order.** -/
theorem fed_obeyed (hr : (machine S).Reach A start cfg) (t : Nat) :
    stream (fed t) cfg.world.trace =
      stream (obeyed t) cfg.world.trace ++ (cfg.world.state.sftpStdin t).queue := by
  -- an operation of the channel, a wake-up with a command from it, or neither
  refine (agent_relays (fed t) (obeyed t) (fun w => (w.state.sftpStdin t).queue)
    (fun _ => False) rfl ?_ hr).exact
  intro cfg i c o r s _ hmay _ hexec
  refine ⟨.inl ?_, False.elim⟩
  by_cases hop : ∃ op, c = .sftpStdin op
  · obtain ⟨op, rfl⟩ := hop
    have htakes : op.takes t r = [] := by
      obtain ⟨_, _, rfl⟩ | ⟨_, rfl⟩ := hmay.sftpStdin <;> rfl
    have htook : obeyed t cfg.world.trace ⟨i, .sftpStdin op, r⟩ = [] := by
      cases i <;> rfl
    have hqueue := ChanOp.queue_exec (x := t) (exec_sftpStdin hexec)
    rw [htakes, List.nil_append] at hqueue
    rw [htook]
    exact hqueue.symm
  · have hputs : fed t cfg.world.trace ⟨i, c, r⟩ = [] := by
      cases c with
      | sftpStdin op => exact absurd ⟨op, rfl⟩ hop
      | _ => rfl
    rw [hputs, List.append_nil]
    by_cases hwake : ∃ j cmd, (⟨c, r⟩ : Sigma Resp) = ⟨.select j, .sftp cmd⟩
    · obtain ⟨j, cmd, heq⟩ := hwake
      cases heq
      obtain ⟨rfl, -⟩ := hmay.selects
      rcases select_cases hexec with ⟨_, _, heq, -⟩ | ⟨_, rest, heq, hq, rfl⟩ |
        ⟨heq | ⟨_, heq⟩, -⟩
      · cases heq
      · cases heq
        exact queue_pop hq t
      all_goals cases heq
    · have htook : obeyed t cfg.world.trace ⟨i, c, r⟩ = [] := by
        unfold obeyed
        split
        · next heq =>
            cases heq
            exact absurd ⟨_, _, rfl⟩ hwake
        · rfl
      have hsame := ((sftpStdin_spared hexec).resolve_left hop).resolve_left hwake
      rw [htook, World.push_state, hsame, List.nil_append]

/-- **What a tunnel sends answers what it obeys.** -/
theorem obeyed_replied (hr : (machine S).Reach A start cfg)
    (htn : cfg.world.state.tunnels[t]? = some tn) :
    List.SublistForall₂ (Replies tn.sid) (stream (replied t) cfg.world.trace)
      (stream (obeyed t) cfg.world.trace) := by
  have hr' := hr.restrict
    (F := fun tr => ∀ i tn', (⟨i, .spawnTunnel tn', t⟩ : Ev Tid Resp) ∈ tr → tn' = tn)
    (fun _ _ hs h i tn' hmem => h i tn' (hs.subset hmem)) (fun i tn' hmem => spawnedAs hr htn hmem)
  refine (hr'.answers replies_follow (fun _ i _ _ _ => by cases i <;> trivial) (obeyed t)
    (replied t) (fun w => (owed (own (.tunnel t) w.trace)).toList) rfl rfl ?_).chosen
  intro cfg i c o r s hr hmay hA hexec
  rw [World.push_trace]
  -- only the tunnel itself takes commands and replies, by a wake-up and by a send that waits
  by_cases hi : i = .tunnel t
  · subst hi
    rw [own_cons_self]
    by_cases hquiet : c.isQuiet = true
    · have hnone : obeyed t cfg.world.trace ⟨.tunnel t, c, r⟩ = [] ∧
          replied t cfg.world.trace ⟨.tunnel t, c, r⟩ = [] := by
        cases c with
        | select j | out op => cases hquiet
        | _ => exact ⟨rfl, rfl⟩
      rw [hnone.1, hnone.2, owed_cons hquiet]
      exact .idle
    · cases c with
      | select j =>
          cases r with
          | sftp cmd =>
              rw [obeyed, if_pos rfl]
              exact .take
          | _ => exact .drop
      | out op =>
          cases op with
          | send k g =>
              obtain ⟨tn', cmd, frame, ho, rfl, rfl, hreply⟩ := hmay.answers k g rfl
              have hspawn := spawned_of_tunnel hr _ _ (tunnel_of_begin hr _ _ ho.began.isTunnel)
              obtain rfl := hA.2 _ tn' (List.mem_cons_of_mem _ hspawn)
              cases r with
              | true =>
                  rw [ho.owes, replied, if_pos rfl]
                  exact .answer hreply
              | false => exact .drop
          | trySend | recv | close => exact .idle
      | _ => exact absurd rfl hquiet
  · have hnone : obeyed t cfg.world.trace ⟨i, c, r⟩ = [] ∧
        replied t cfg.world.trace ⟨i, c, r⟩ = [] := by
      constructor
      · unfold obeyed
        split
        · next heq =>
            cases heq
            exact if_neg fun hj => hi (by rw [hj])
        · rfl
      · unfold replied
        split
        · next heq =>
            cases heq
            exact if_neg fun hj => hi (by rw [hj])
        · rfl
    rw [hnone.1, hnone.2, own_cons_of_ne hi]
    exact .idle

/-- **Every reply of a tunnel answers a frame its connection read for its session**, in the order
in which they were read, and no two replies answer one frame. -/
theorem read_replied (hr : (machine S).Reach A start cfg)
    (htn : cfg.world.state.tunnels[t]? = some tn) :
    List.SublistForall₂ (Answered tn.cid tn.sid) (stream (replied t) cfg.world.trace)
      (stream (readBy tn.conn) cfg.world.trace) := by
  have hfed := read_fed hr htn
  rw [fed_obeyed hr] at hfed
  have hobeyed := answers_of_sublist (List.sublist_append_left _ _) hfed
  exact answers_imp (fun _ _ ⟨cmd, hreply, hg⟩ => ⟨cmd, hg, hreply⟩)
    (answers_trans (obeyed_replied hr htn) hobeyed)

/-! ## To the server

On the queue of the connection the replies of one session stand between frames of others.  Only
the tunnel of the session puts them there, so they can be picked out by the session id. -/

/-- The session of a frame that answers a command of SFTP. -/
def replySid : WebFrameData → Option UInt32
  | .sftpListItems _ sid _ _ | .sftpDownloadStartResponse sid _ _ | .sftpDownloadChunk sid _ _
  | .sftpUploadStartResponse sid _ _ | .sftpUploadChunkAck sid _ _ => some sid
  | _ => none

/-- The reply of the session `sid` in a frame. -/
def replyIn (sid : UInt32) : NodeFrameData → Option WebFrameData
  | .webFrame frame _ => if replySid frame = some sid then some frame else none
  | _ => none

theorem Replies.sid_eq {sid sid' : UInt32} {frame : WebFrameData} {cmd : SFTPCommand}
    (h : Replies sid frame cmd) (hsid : replySid frame = some sid') : sid = sid' := by
  cases h <;> first | exact Option.some.inj hsid | cases hsid

theorem replyMay_of_event (hr : (machine S).Reach A start cfg) {c : Cmd} {r : Resp c}
    {past : List (Ev Tid Resp)} (hs : ⟨.tunnel t, c, r⟩ :: past <:+ cfg.world.trace) :
    ReplyMay t (own (.tunnel t) past) c := by
  refine hr.events replies_follow (fun w i c r _ => by cases i <;> trivial)
    (fun past e => ∀ t, e.tid = .tunnel t → ReplyMay t (own e.tid past) e.cmd) rfl ?_ _ past hs t
    rfl
  rintro cfg i c o r s - hmay - - t rfl
  exact hmay

/-- A reply is put on the queue by the tunnel of its session, which waits for room. -/
theorem putsReply (hr : (machine S).Reach A start cfg) {i : Tid} {op : ChanOp NodeFrameData}
    {r : op.Resp} {past : List (Ev Tid Resp)} {k : Nat} {sid : UInt32} {g : NodeFrameData}
    {frame : WebFrameData} (hs : ⟨i, .out op, r⟩ :: past <:+ cfg.world.trace)
    (hg : g ∈ op.puts k r) (hreply : replyIn sid g = some frame) :
    ∃ j tn', i = .tunnel j ∧ Began j tn' (own i past) ∧ tn'.conn = k ∧ tn'.sid = sid ∧
      op = .send k (.webFrame frame (.sessionId sid)) := by
  have hemit : (Cmd.out op).Emits k g r := ChanOp.mem_puts_iff.1 hg
  rcases (may_of_event hr hs).queues hemit with ⟨j, tn', rfl, hb, hc⟩ | ⟨_, _, _, _, rfl⟩ |
    ⟨_, _, rfl⟩
  · have hanswer := replyMay_of_event hr hs
    generalize own (.tunnel j) past = h at hanswer hb hc ⊢
    cases hc with
    | reply =>
        obtain ⟨rfl, rfl, -⟩ := hemit
        obtain ⟨hsid, heq⟩ := Option.ite_none_right_eq_some.1 hreply
        cases heq
        obtain ⟨tn'', cmd, frame', ho, -, heq, hanswer⟩ := hanswer.answers _ _ rfl
        obtain rfl := hb.unique ho.began
        cases heq
        obtain rfl := hanswer.sid_eq hsid
        exact ⟨j, tn', rfl, hb, rfl, rfl, rfl⟩
    | output | failed | announce | closed =>
        obtain ⟨-, rfl, -⟩ := hemit
        cases hreply
    | sweep hc => cases hc
  -- a refusal and a heartbeat are no replies
  · cases hreply
  · cases hreply

/-- **The replies of a session are those of its tunnel.** -/
theorem queued_replied (hr : (machine S).Reach A start cfg) (hsole : Sole t tn cfg.world.trace) :
    ((stream (queued tn.conn) cfg.world.trace).filterMap (replyIn tn.sid)).Sublist
      (stream (replied t) cfg.world.trace) := by
  rw [filterMap_stream]
  refine stream_sublist fun ⟨i, c, r⟩ past hs => ?_
  by_cases hnone : (queued tn.conn past ⟨i, c, r⟩).filterMap (replyIn tn.sid) = []
  · rw [hnone]
    exact List.nil_sublist _
  · obtain ⟨frame, hframe⟩ := List.exists_mem_of_ne_nil _ hnone
    obtain ⟨g, hg, hreply⟩ := List.mem_filterMap.1 hframe
    obtain ⟨op, rfl⟩ := out_of_emits (mem_queued.1 hg)
    obtain ⟨j, tn', rfl, hb, hconn, hsid, rfl⟩ := putsReply hr hs hg hreply
    have hpast := (List.suffix_cons _ _).trans hs
    obtain ⟨rfl, rfl⟩ := (hsole.mono _ _ hpast).of_began hb (.inr ⟨hconn, hsid⟩)
    obtain ⟨-, rfl, rfl⟩ := mem_queued.1 hg
    have hgave : (queued tn'.conn past
        ⟨.tunnel j, .out (.send tn'.conn (.webFrame frame (.sessionId tn'.sid))), true⟩).filterMap
          (replyIn tn'.sid) = [frame] := by
      rw [queued, ChanOp.puts, if_pos ⟨rfl, rfl⟩, List.filterMap_cons_some hreply,
        List.filterMap_nil]
    rw [hgave, replied, if_pos rfl]

theorem readBy_sublist (k : Nat) (tr : List (Ev Tid Resp)) :
    (stream (readBy k) tr).Sublist (stream (heard k) tr) := by
  refine stream_sublist fun e past _ => ?_
  unfold readBy
  split
  · exact List.Sublist.refl _
  · exact List.nil_sublist _

/-- **What the session sends** answers what its connection hears. -/
theorem heard_queued (hA : ∀ w i c r, A w i c r → CounterLasts S w i c r)
    (hr : (machine S).Reach A start cfg) (htn : IsTunnel cfg.world.trace t tn) :
    List.SublistForall₂ (Answered tn.cid tn.sid)
      ((stream (queued tn.conn) cfg.world.trace).filterMap (replyIn tn.sid))
      (stream (heard tn.conn) cfg.world.trace) :=
  answers_cons_right (readBy_sublist tn.conn _) (answers_of_sublist
    (queued_replied hr (sole_of_counter hA hr htn)) (read_replied hr (tunnel_of_begin hr t tn htn)))

/-- **An SFTP tunnel answers in order.**  In every run, whatever the tasks of other sessions do in
between, a tunnel obeys the commands it is fed in their order, and the frames it waits to send
answer, one by one and in order, frames its connection gave for its session. -/
theorem tunnel_answers (hr : (machine S).Reach A start cfg)
    (htn : cfg.world.state.tunnels[t]? = some tn) :
    stream (obeyed t) cfg.world.trace <+: stream (fed t) cfg.world.trace ∧
      List.SublistForall₂ (Answered tn.cid tn.sid) (stream (replied t) cfg.world.trace)
        (stream (heard tn.conn) cfg.world.trace) := by
  refine ⟨?_, answers_cons_right (readBy_sublist tn.conn _) (read_replied hr htn)⟩
  rw [fed_obeyed hr]
  exact List.prefix_append _ _

end Replied

/-! ## One run -/

/-- A session lists a directory, deletes a file, asks for a chunk of a download it has not begun,
and lists again. -/
def listsTwice : List (Tid × Choice) :=
  login 0 ++ request 0 .sftp 77 ++ comeUp 0 ++ deliver 0 (.sftpList 77 "a" 1 (some 2)) ++
    deliver 0 (.sftpDelete 77 1 (some 3) ⟨"a", "b"⟩) ++
    deliver 0 (.sftpDownloadChunkRequest 77 1 (some 4) 1 0) ++
    deliver 0 (.sftpList 77 "c" 1 (some 5)) ++
    obey 0 5 ++ obey 0 5 ++ obey 0 3 ++ obey 0 5

/-- Three of the four commands have been answered, one of them with an error. -/
def isServed (cfg : Config State Tid Resp Label) : Bool :=
  decide (cfg.world.state.tunnels.map (fun tn => (tn.conn, tn.cid, tn.sid)) = [(0, 77, 1)]) &&
    decide ((stream (obeyed 0) cfg.world.trace).length = 4) &&
    decide ((stream (replied 0) cfg.world.trace).map replySid = [some 1, none, some 1])

theorem tunnel_answers_of_lists :
    ∃ cfg, (machine (sample fun _ => 0)).Reach Free start cfg ∧
      (stream (replied 0) cfg.world.trace).map replySid = [some 1, none, some 1] ∧
      List.SublistForall₂ (Answered 77 1) (stream (replied 0) cfg.world.trace)
        (stream (heard 0) cfg.world.trace) := by
  have hrun : ((machine (sample fun _ => 0)).run (fun _ _ _ _ => true) listsTwice start).any
      isServed = true := by
    decide +kernel
  obtain ⟨cfg, hr, hend⟩ := Machine.reach_of_run (A := Free) (fun _ _ _ _ _ => trivial) hrun
  simp only [isServed, Bool.and_eq_true, decide_eq_true_eq] at hend
  obtain ⟨⟨htunnels, -⟩, hreplied⟩ := hend
  obtain ⟨tn, heq, hids⟩ := List.map_eq_singleton_iff.1 htunnels
  have htn : cfg.world.state.tunnels[0]? = some tn := by rw [heq, List.getElem?_cons_zero]
  have hall := (tunnel_answers hr htn).2
  simp only [Prod.mk.injEq] at hids
  obtain ⟨hconn, hcid, hsid⟩ := hids
  rw [hconn, hcid, hsid] at hall
  exact ⟨cfg, hr, hreplied, hall⟩

end Phirepass.Agent
