/-
# `Phirepass.Agent.TunnelRules` — what a tunnel task can do

The code of `Phirepass.Agent.Sftp` and `Phirepass.Agent.Tunnel` is walked
here once.  A tunnel task first learns what it was spawned with (`Began`);
from then on

    the first it reports is its tunnel open, closed comes after       (`announce`, `closed`)
    what it wakes up for it passes on before anything else            (`pending`)
    it sends on its own connection, under its own session id          (`Emits`)
    it looks transfers up under its own connection id                 (`uploadGet`, …)
    it reads and writes the files those lookups found                 (`write`, `seek`)
    it overflows a `u32` in two places                                (`uploadOverflow`, …)

Abandoned transfers are the exception: `Sweeps` removes them whoever they
belong to, without touching their contents.
-/
import Phirepass.Agent.Machine

namespace Phirepass.Agent

open Rust Interleave Prog

/-! ## The rules

A rule says what a tunnel task may issue after the history of its own steps.  The invariants of
the agent are derived from these rules; none of them looks at the code of a tunnel again.  So a
rule keeps what some result needs of the moment before the command: what the task has just woken
up for, which transfer it has looked up, which answer it was given. -/

/-- The task `t` runs the tunnel `tn`. -/
def Began (t : Nat) (tn : Tunnel) (h : Hist Resp) : Prop := [⟨.begin t, tn⟩] <:+ h

/-- The frames a tunnel sends. -/
inductive Emits (tn : Tunnel) : NodeFrameData → Prop
  | opened : Emits tn (.tunnelOpened tn.protocol.toU8 tn.cid tn.sid tn.msgId)
  | closed : Emits tn (.tunnelClosed tn.protocol.toU8 tn.cid tn.sid tn.msgId)
  | frame {frame : WebFrameData} (hplain : frame.reportsTunnel = false) :
      Emits tn (.webFrame frame (.sessionId tn.sid))

/-- Walks over the transfers of connection `k`, and the removal of what they find. -/
inductive Sweeps (k : Nat) : Cmd → Prop
  | now : Sweeps k .now
  | uploadsKeys : Sweeps k (.uploads k .keys)
  | uploadsNext {start visited : List Key} : Sweeps k (.uploads k (.next start visited))
  | uploadsRemove {key : Key} : Sweeps k (.uploads k (.remove key))
  | downloadsKeys : Sweeps k (.downloads k .keys)
  | downloadsNext {start visited : List Key} : Sweeps k (.downloads k (.next start visited))
  | downloadsRemove {key : Key} : Sweeps k (.downloads k (.remove key))
  | sync {file : File} : Sweeps k (.sftp (.syncAll file))

/-- The call only looks at a path. -/
def SftpOp.inspects : SftpOp → Bool
  | .canonicalize _ | .metadata _ | .readDir _ | .open _ => true
  | .openWithFlags _ | .writeAll _ _ | .seek _ _ | .read _ | .rename _ _ | .removeFile _
  | .syncAll _ => false

/-- The call is neither input for the shell nor the end of the connection. -/
def SshOp.plain : SshOp → Bool
  | .data _ | .disconnect => false
  | _ => true

/-- The frame carries output of a shell. -/
def carriesData : WebFrameData → Bool
  | .tunnelData .. => true
  | _ => false

/-- The frame `send_tunnel_data` sends. -/
def outputFrame (S : Setup) (tn : Tunnel) (data : Bytes) : NodeFrameData :=
  .webFrame (.tunnelData Protocol.ssh.toU8 S.nodeId.display tn.sid data) (.sessionId tn.sid)

/-- The task has reported its tunnel open, whatever became of the report. -/
def Announced (tn : Tunnel) (h : Hist Resp) : Prop :=
  ∃ r, (⟨.out (.trySend tn.conn (.tunnelOpened tn.protocol.toU8 tn.cid tn.sid tn.msgId)), r⟩ :
    Sigma Resp) ∈ h

/-- The task has put nothing on its connection's queue, nor tried to. -/
def Silent (h : Hist Resp) : Prop := ∀ op r, (⟨.out op, r⟩ : Sigma Resp) ∉ h

/-- What the loop of an SSH tunnel has just woken up for, and passes on next. -/
def pending (S : Setup) (t : Nat) (tn : Tunnel) : Hist Resp → Option Cmd
  | ⟨.select _, .ssh (.data buf)⟩ :: _ =>
      if tn.protocol = .ssh then some (.ssh t (.data buf)) else none
  | ⟨.select _, .message (some (.data data))⟩ :: _ =>
      if tn.protocol = .ssh then some (.out (.trySend tn.conn (outputFrame S tn data))) else none
  | _ => none

/-- The command an SFTP tunnel took last. -/
def taken : Hist Resp → Option SFTPCommand
  | [] => none
  | ⟨.select _, .sftp cmd⟩ :: _ => some cmd
  | ⟨.select _, _⟩ :: _ => none
  | _ :: h => taken h

/-- The task has looked up the upload, and computed the number of the next chunk. -/
inductive LookedUp (k : Nat) (key : Key) (upload : FileUpload) : Hist Resp → Prop
  | found {h : Hist Resp} : LookedUp k key upload (⟨.uploads k (.get key), some upload⟩ :: h)
  | overflow {h : Hist Resp} (hl : LookedUp k key upload h) :
      LookedUp k key upload (⟨.overflow, ()⟩ :: h)

/-- How a tunnel task ends: its connection closed and reported so, or an error reported,
which for an SSH tunnel may come before its shell was there. -/
inductive Ended (t : Nat) (tn : Tunnel) : Hist Resp → Prop
  | closed {h : Hist Resp} {e : Sigma Resp} {r : Except TrySendError Unit} (ha : Announced tn h) :
      Ended t tn
        (⟨.out (.trySend tn.conn (.tunnelClosed tn.protocol.toU8 tn.cid tn.sid tn.msgId)), r⟩ ::
          e :: ⟨.ssh t .disconnect, .ok ()⟩ :: h)
  | failed {h : Hist Resp} {err : String} {r : Except TrySendError Unit}
      (hlinked : (⟨.ssh t .disconnect, .ok ()⟩ : Sigma Resp) ∉ h)
      (hopen : Announced tn h ∨
        tn.protocol = .ssh ∧ (⟨.ssh t .requestShell, .ok ()⟩ : Sigma Resp) ∉ h) :
      Ended t tn
        (⟨.out (.trySend tn.conn (.webFrame (.error .generic err tn.msgId) (.sessionId tn.sid))),
          r⟩ :: h)

/-- The commands of the task `t` that runs `tn`. -/
inductive TunnelLoop (S : Setup) (t : Nat) (tn : Tunnel) : Hist Resp → Cmd → Prop
  -- the loop and the connection to the host
  | select {h : Hist Resp} : TunnelLoop S t tn h (.select t)
  | ssh {h : Hist Resp} {op : SshOp} (hop : op.plain = true) : TunnelLoop S t tn h (.ssh t op)
  | input {h : Hist Resp} {buf : Bytes} :
      TunnelLoop S t tn (⟨.select t, .ssh (.data buf)⟩ :: h) (.ssh t (.data buf))
  | disconnect {h : Hist Resp} : TunnelLoop S t tn h (.ssh t .disconnect)
  -- frames to the server: only replies wait for room in the queue
  | announce {h : Hist Resp} (hfirst : Silent h) :
      TunnelLoop S t tn h
        (.out (.trySend tn.conn (.tunnelOpened tn.protocol.toU8 tn.cid tn.sid tn.msgId)))
  | output {h : Hist Resp} {data : Bytes} :
      TunnelLoop S t tn (⟨.select t, .message (some (.data data))⟩ :: h)
        (.out (.trySend tn.conn (outputFrame S tn data)))
  | closed {h : Hist Resp} (ha : Announced tn h) :
      TunnelLoop S t tn h
        (.out (.trySend tn.conn (.tunnelClosed tn.protocol.toU8 tn.cid tn.sid tn.msgId)))
  | failed {h : Hist Resp} {err : String} :
      TunnelLoop S t tn h
        (.out (.trySend tn.conn
          (.webFrame (.error .generic err tn.msgId) (.sessionId tn.sid))))
  | reply {h : Hist Resp} {frame : WebFrameData} (hframe : carriesData frame = false)
      (hplain : frame.reportsTunnel = false) :
      TunnelLoop S t tn h (.out (.send tn.conn (.webFrame frame (.sessionId tn.sid))))
  -- the end of the task
  | dropSsh {h : Hist Resp} : TunnelLoop S t tn h (.sshStdin (.close t))
  | dropSftp {h : Hist Resp} : TunnelLoop S t tn h (.sftpStdin (.close t))
  | finish {h : Hist Resp} (hend : Ended t tn h) : TunnelLoop S t tn h .finish
  -- transfers, whichever: the ids are the connection's, and paths are looked at freely
  | sweep {h : Hist Resp} {c : Cmd} (hc : Sweeps tn.conn c) : TunnelLoop S t tn h c
  | generateId {h : Hist Resp} : TunnelLoop S t tn h (.generateId tn.conn)
  | inspect {h : Hist Resp} {op : SftpOp} (hop : op.inspects = true) :
      TunnelLoop S t tn h (.sftp op)
  | delete {h : Hist Resp} {path : String} : TunnelLoop S t tn h (.sftp (.removeFile path))
  -- uploads: a chunk is written to the file of the entry looked up for it, and only the last one is
  -- renamed
  | uploadOpen {h : Hist Resp} {upload : SFTPUploadStart} :
      TunnelLoop S t tn h
        (.sftp (.openWithFlags (filePath upload.remotePath upload.filename ++ ".tmp")))
  | uploadInsert {h : Hist Resp} {upload : SFTPUploadStart} {file : File} {id : UInt32}
      {now : Time} :
      TunnelLoop S t tn
        (⟨.now, now⟩ :: ⟨.generateId tn.conn, id⟩ ::
          ⟨.sftp (.openWithFlags (filePath upload.remotePath upload.filename ++ ".tmp")),
            .ok file⟩ :: h)
        (.uploads tn.conn (.insert (tn.cid, id)
          ⟨upload.filename, upload.remotePath, upload.totalChunks, upload.totalSize, file,
            filePath upload.remotePath upload.filename ++ ".tmp", now, now⟩))
  | uploadGet {h : Hist Resp} {id : UInt32} :
      TunnelLoop S t tn h (.uploads tn.conn (.get (tn.cid, id)))
  | uploadTouch {h : Hist Resp} {id : UInt32} {now : Time} :
      TunnelLoop S t tn h
        (.uploads tn.conn (.modify (tn.cid, id) fun u => { u with lastUpdated := now }))
  | cancel {h : Hist Resp} {key : Key} {data : SFTPDelete} :
      TunnelLoop S t tn h (.uploads tn.conn (.removeIf key (cancels tn data key)))
  | write {h : Hist Resp} {chunk : SFTPUploadChunk} {msgId : Option UInt32}
      {upload seen : FileUpload} (hchunk : taken h = some (.upload chunk msgId))
      (hseen : LookedUp tn.conn (tn.cid, chunk.uploadId) seen h)
      (hmore : ¬ seen.totalChunks ≤ chunk.chunkIndex + 1) :
      TunnelLoop S t tn (⟨.uploads tn.conn (.get (tn.cid, chunk.uploadId)), some upload⟩ :: h)
        (.sftp (.writeAll upload.sftpFile chunk.data))
  | writeLast {h : Hist Resp} {chunk : SFTPUploadChunk} {msgId : Option UInt32}
      {upload seen : FileUpload} (hchunk : taken h = some (.upload chunk msgId))
      (hseen : LookedUp tn.conn (tn.cid, chunk.uploadId) seen h)
      (hlast : seen.totalChunks ≤ chunk.chunkIndex + 1) :
      TunnelLoop S t tn (⟨.uploads tn.conn (.remove (tn.cid, chunk.uploadId)), some upload⟩ :: h)
        (.sftp (.writeAll upload.sftpFile chunk.data))
  | rename {h : Hist Resp} {chunk : SFTPUploadChunk} {msgId : Option UInt32}
      {upload : FileUpload} (hchunk : taken h = some (.upload chunk msgId)) :
      TunnelLoop S t tn
        (⟨.sftp (.writeAll upload.sftpFile chunk.data), .ok ()⟩ ::
          ⟨.uploads tn.conn (.remove (tn.cid, chunk.uploadId)), some upload⟩ :: h)
        (.sftp (.rename upload.tempPath (filePath upload.remotePath upload.filename)))
  | uploadOverflow {h : Hist Resp} {chunk : SFTPUploadChunk} {msgId : Option UInt32}
      {upload : FileUpload} (hmax : chunk.chunkIndex = 0xFFFFFFFF) :
      TunnelLoop S t tn
        (⟨.uploads tn.conn (.get (tn.cid, chunk.uploadId)), some upload⟩ ::
          ⟨.select t, .sftp (.upload chunk msgId)⟩ :: h)
        .overflow
  -- downloads: a chunk is read where the entry looked up for it has just been wound to
  | downloadInsert {h : Hist Resp} {id : UInt32} {download : FileDownload} :
      TunnelLoop S t tn h (.downloads tn.conn (.insert (tn.cid, id) download))
  | downloadGet {h : Hist Resp} {id : UInt32} :
      TunnelLoop S t tn h (.downloads tn.conn (.get (tn.cid, id)))
  | downloadTouch {h : Hist Resp} {id : UInt32} {now : Time} :
      TunnelLoop S t tn h
        (.downloads tn.conn (.modify (tn.cid, id) fun d => { d with lastUpdated := now }))
  | seek {h : Hist Resp} {id : UInt32} {download : FileDownload} {position : UInt64} :
      TunnelLoop S t tn (⟨.downloads tn.conn (.get (tn.cid, id)), some download⟩ :: h)
        (.sftp (.seek download.sftpFile position))
  | read {h : Hist Resp} {id : UInt32} {download : FileDownload} {position : UInt64} :
      TunnelLoop S t tn
        (⟨.sftp (.seek download.sftpFile position), .ok ()⟩ ::
          ⟨.downloads tn.conn (.get (tn.cid, id)), some download⟩ :: h)
        (.sftp (.read download.sftpFile))
  | downloadOverflow {h : Hist Resp} {chunk : SFTPDownloadChunk} {msgId : Option UInt32}
      {download : FileDownload} {position : UInt64} {bytes : Bytes} {now : Time} {found : Bool}
      (hmax : chunk.chunkIndex = 0xFFFFFFFF) (hbytes : bytes ≠ []) (hdebug : S.debugLog = true) :
      TunnelLoop S t tn
        (⟨.downloads tn.conn (.modify (tn.cid, chunk.downloadId)
            fun d => { d with lastUpdated := now }), found⟩ :: ⟨.now, now⟩ ::
          ⟨.sftp (.read download.sftpFile), .ok bytes⟩ ::
          ⟨.sftp (.seek download.sftpFile position), .ok ()⟩ ::
          ⟨.downloads tn.conn (.get (tn.cid, chunk.downloadId)), some download⟩ ::
          ⟨.select t, .sftp (.downloadChunk chunk msgId)⟩ :: h)
        .overflow

/-- What the tunnel task `t` may issue after the history `h`. -/
def TunnelMay (S : Setup) (t : Nat) (h : Hist Resp) (c : Cmd) : Prop :=
  h = [] ∧ c = .begin t ∨ ∃ tn, Began t tn h ∧ (∀ due, pending S t tn h = some due → c = due) ∧
    TunnelLoop S t tn h c

/-- The task runs `tn`, has nothing to pass on, and has not left its connection. -/
structure Running (S : Setup) (t : Nat) (tn : Tunnel) (h : Hist Resp) : Prop where
  began : Began t tn h
  idle : pending S t tn h = none
  linked : ∀ r, (⟨.ssh t .disconnect, r⟩ : Sigma Resp) ∉ h

/-- So it does in its loop, with the tunnel reported open. -/
structure Serves (S : Setup) (t : Nat) (tn : Tunnel) (h : Hist Resp) : Prop where
  running : Running S t tn h
  announced : Announced tn h

/-- What the task knows of its history at each of its labels. -/
def TunnelAt (S : Setup) (t : Nat) : Label → Hist Resp → Prop
  | .tunnel j, h => j = t ∧ h = []
  | .sshLoop j tn, h => j = t ∧ tn.protocol = .ssh ∧ Serves S t tn h
  | .sftpLoop j tn, h | .sweepUploads (.start j tn _ _ _) _ _ _, h
  | .sweepDownloads (.start j tn _ _ _) _ _ _, h | .retainUploads j tn _ _ _ _, h =>
      j = t ∧ tn.protocol = .sftp ∧ Serves S t tn h
  | .done, _ => True
  | _, _ => False

/-- The command changes what `Running` says. -/
def Cmd.isTurn : Cmd → Bool
  | .select _ | .ssh _ .disconnect => true
  | _ => false

/-! ### What a step keeps

Only waking up and leaving the connection change what `Running` says; after any other command the
task runs on, announced as it was. -/

section Running

variable {S : Setup} {t : Nat} {tn : Tunnel} {h h' : Hist Resp}

/-! A history has one beginning, so the tunnel that a task runs is known from then on. -/

theorem Began.mono (hs : h <:+ h') (hb : Began t tn h) : Began t tn h' := hb.trans hs

theorem Began.cons {e : Sigma Resp} (hb : Began t tn h) : Began t tn (e :: h) :=
  hb.mono (List.suffix_cons _ _)

theorem Began.unique {t' : Nat} {tn' : Tunnel} (hb : Began t tn h) (hb' : Began t' tn' h) :
    tn = tn' := by
  have heq := (List.suffix_of_suffix_length_le hb hb' le_rfl).eq_of_length rfl
  simp only [List.cons.injEq, Sigma.mk.injEq, and_true] at heq
  obtain ⟨hcmd, hresp⟩ := heq
  cases hcmd
  exact eq_of_heq hresp

theorem Silent.cons {c : Cmd} {r : Resp c} (hs : Silent h) (hc : ∀ op, c ≠ .out op) :
    Silent (⟨c, r⟩ :: h) := by
  intro op r' hmem
  rcases List.mem_cons.1 hmem with heq | hmem
  · cases heq
    exact hc op rfl
  · exact hs op r' hmem

theorem Announced.mono (hs : h <:+ h') (ha : Announced tn h) : Announced tn h' := by
  obtain ⟨r, hmem⟩ := ha
  exact ⟨r, hs.subset hmem⟩

theorem Announced.cons {e : Sigma Resp} (ha : Announced tn h) : Announced tn (e :: h) :=
  ha.mono (List.suffix_cons _ _)

/-- Nothing is pending after any command but a `select!`. -/
theorem pending_cons {c : Cmd} {r : Resp c} (hc : c.isTurn = false) :
    pending S t tn (⟨c, r⟩ :: h) = none := by
  cases c with
  | select => cases hc
  | _ => rfl

theorem pending_ne_select {j : Nat} : pending S t tn h ≠ some (.select j) := by
  unfold pending
  split
  · split <;> exact fun heq => nomatch heq
  · split <;> exact fun heq => nomatch heq
  · exact fun heq => nomatch heq

/-! `Running` and `Serves` are passed on by every command that is no turn.  That side condition is
decided by the command alone, so the proofs below never name it. -/

theorem Running.cons {c : Cmd} {r : Resp c} (hr : Running S t tn h)
    (hc : c.isTurn = false := by rfl) : Running S t tn (⟨c, r⟩ :: h) := by
  refine ⟨hr.began.cons, pending_cons hc, fun r' hmem => ?_⟩
  rcases List.mem_cons.1 hmem with heq | hmem
  · cases heq
    cases hc
  · exact hr.linked r' hmem

theorem Running.cons_select {j : Nat} {wake : Wake} (hr : Running S t tn h)
    (hp : pending S t tn (⟨.select j, wake⟩ :: h) = none) :
    Running S t tn (⟨.select j, wake⟩ :: h) := by
  refine ⟨hr.began.cons, hp, fun r' hmem => ?_⟩
  rcases List.mem_cons.1 hmem with heq | hmem
  · cases heq
  · exact hr.linked r' hmem

theorem Serves.cons {c : Cmd} {r : Resp c} (hs : Serves S t tn h)
    (hc : c.isTurn = false := by rfl) : Serves S t tn (⟨c, r⟩ :: h) :=
  ⟨hs.running.cons hc, hs.announced.cons⟩

theorem Serves.cons_select {j : Nat} {wake : Wake} (hs : Serves S t tn h)
    (hp : pending S t tn (⟨.select j, wake⟩ :: h) = none) :
    Serves S t tn (⟨.select j, wake⟩ :: h) := ⟨hs.running.cons_select hp, hs.announced.cons⟩

/-- An SFTP tunnel passes nothing on: a command it has taken is obeyed at once, and answered. -/
theorem pending_sftp (hp : tn.protocol = .sftp) : pending S t tn h = none := by
  unfold pending
  split
  · rw [if_neg (by rw [hp]; exact Protocol.noConfusion)]
  · rw [if_neg (by rw [hp]; exact Protocol.noConfusion)]
  · rfl

theorem TunnelLoop.may {c : Cmd} (hr : Running S t tn h) (hc : TunnelLoop S t tn h c) :
    TunnelMay S t h c := by
  refine .inr ⟨tn, hr.began, fun due hdue => ?_, hc⟩
  rw [hr.idle] at hdue
  cases hdue

theorem Sweeps.may {c : Cmd} (hr : Running S t tn h) (hc : Sweeps tn.conn c) :
    TunnelMay S t h c := (TunnelLoop.sweep hc).may hr

end Running

/-! ## Walks, whoever makes them

Transfers are cleared away in three places: before another one is started, by the cleanup task
of a connection, and when a client leaves.  The lemmas are about any task whose rules allow
`Sweeps`, and keep any `P` that a sweep keeps. -/

theorem Sweeps.not_turn {k : Nat} {c : Cmd} (hc : Sweeps k c) : c.isTurn = false := by
  cases hc <;> rfl

section Sweeps

variable {k : Nat} {may : Hist Resp → Cmd → Prop} {Q : Label → Hist Resp → Prop}
  {P : Hist Resp → Prop} {h : Hist Resp}

theorem closeUploads_conforms (hkeep : ∀ h c r, Sweeps k c → P h → P (⟨c, r⟩ :: h))
    (hmay : ∀ h c, Sweeps k c → P h → may h c) :
    ∀ {found : List Key} {h : Hist Resp}, P h →
      (closeUploads k found).Conforms (Issues may) (fun _ => P) h
  | [], _, hP => hP
  | key :: rest, h, hP => by
      refine conforms_call.2 ⟨hmay h _ .uploadsRemove hP, fun removed => ?_⟩
      have hP₁ : P (⟨.uploads k (.remove key), removed⟩ :: h) := hkeep _ _ _ .uploadsRemove hP
      cases removed with
      | none => exact closeUploads_conforms hkeep hmay hP₁
      | some upload =>
          refine conforms_call.2 ⟨hmay _ _ .sync hP₁, fun synced => ?_⟩
          exact closeUploads_conforms hkeep hmay (hkeep _ _ _ .sync hP₁)

theorem closeDownloads_conforms {syncs : Bool}
    (hkeep : ∀ h c r, Sweeps k c → P h → P (⟨c, r⟩ :: h))
    (hmay : ∀ h c, Sweeps k c → P h → may h c) :
    ∀ {found : List Key} {h : Hist Resp}, P h →
      (closeDownloads k syncs found).Conforms (Issues may) (fun _ => P) h
  | [], _, hP => hP
  | key :: rest, h, hP => by
      refine conforms_call.2 ⟨hmay h _ .downloadsRemove hP, fun removed => ?_⟩
      have hP₁ : P (⟨.downloads k (.remove key), removed⟩ :: h) := hkeep _ _ _ .downloadsRemove hP
      cases removed with
      | none => exact closeDownloads_conforms hkeep hmay hP₁
      | some download =>
          cases syncs with
          | false => exact closeDownloads_conforms hkeep hmay hP₁
          | true =>
              refine conforms_call.2 ⟨hmay _ _ .sync hP₁, fun synced => ?_⟩
              exact closeDownloads_conforms hkeep hmay (hkeep _ _ _ .sync hP₁)

theorem sweepUploads_conforms {why : UploadSweep} {start visited found : List Key}
    (hkeep : ∀ h c r, Sweeps why.conn c → P h → P (⟨c, r⟩ :: h))
    (hmay : ∀ h c, Sweeps why.conn c → P h → may h c)
    (hagain : ∀ visited found h, P h → Q (.sweepUploads why start visited found) h)
    (hafter : ∀ h, P h → why.after.Conforms (Issues may) Q h) (hP : P h) :
    (sweepUploads why start visited found).Conforms (Issues may) Q h := by
  refine conforms_call.2 ⟨hmay h _ .uploadsNext hP, fun met => ?_⟩
  have hP₁ := hkeep h (.uploads why.conn (.next start visited)) met .uploadsNext hP
  cases met with
  | some entry => exact hagain _ _ _ hP₁
  | none => exact conforms_bind.2 ((closeUploads_conforms hkeep hmay hP₁).mono fun _ => hafter)

theorem sweepDownloads_conforms {why : DownloadSweep} {start visited found : List Key}
    (hkeep : ∀ h c r, Sweeps why.conn c → P h → P (⟨c, r⟩ :: h))
    (hmay : ∀ h c, Sweeps why.conn c → P h → may h c)
    (hagain : ∀ visited found h, P h → Q (.sweepDownloads why start visited found) h)
    (hafter : ∀ h, P h → why.after.Conforms (Issues may) Q h) (hP : P h) :
    (sweepDownloads why start visited found).Conforms (Issues may) Q h := by
  refine conforms_call.2 ⟨hmay h _ .downloadsNext hP, fun met => ?_⟩
  have hP₁ := hkeep h (.downloads why.conn (.next start visited)) met .downloadsNext hP
  cases met with
  | some entry => exact hagain _ _ _ hP₁
  | none => exact conforms_bind.2 ((closeDownloads_conforms hkeep hmay hP₁).mono fun _ => hafter)

end Sweeps

/-! ## The actions of an SFTP tunnel follow the rules

One lemma for each action, with the command it takes just taken.  All of them end with the tunnel
served as before (`Still`): whatever fails on the way is answered with an error, and the loop goes
on. -/

section Actions

variable {S : Setup} {t : Nat} {tn : Tunnel} {h : Hist Resp} {msgId : Option UInt32}

/-- Where the action of a tunnel ends, the task serves that tunnel still. -/
abbrev Still (S : Setup) (t : Nat) (tn : Tunnel) {α : Type} (_ : α) (h : Hist Resp) : Prop :=
  Serves S t tn h

theorem reply_conforms {frame : WebFrameData} (hs : Serves S t tn h)
    (hframe : carriesData frame = false := by rfl)
    (hplain : frame.reportsTunnel = false := by rfl) :
    (reply tn frame).Conforms (Issues (TunnelMay S t)) (Still S t tn) h :=
  conforms_call.2 ⟨(TunnelLoop.reply hframe hplain).may hs.running, fun _ => hs.cons⟩

theorem addU32_one_conforms {index : UInt32} {P : Hist Resp → Prop}
    (hover : index = 0xFFFFFFFF → TunnelMay S t h .overflow ∧ P (⟨.overflow, ()⟩ :: h))
    (hadd : P h) :
    (addU32 index 1).Conforms (Issues (TunnelMay S t)) (fun next h' => next = index + 1 ∧ P h') h := by
  unfold addU32
  split
  · exact ⟨rfl, hadd⟩
  · next hge =>
      have hmax : index = 0xFFFFFFFF := by
        have hlt := index.toNat_lt
        have hone : (1 : UInt32).toNat = 1 := rfl
        apply UInt32.toNat_inj.1
        change index.toNat = 4294967295
        omega
      exact conforms_call.2 ⟨(hover hmax).1, fun _ => ⟨rfl, (hover hmax).2⟩⟩

theorem listDir_conforms {path : String} (hs : Serves S t tn h) :
    (listDir path).Conforms (Issues (TunnelMay S t)) (Still S t tn) h := by
  refine conforms_call.2 ⟨(TunnelLoop.inspect rfl).may hs.running, fun absPath => ?_⟩
  cases absPath with
  | error err => exact hs.cons
  | ok absPath =>
      refine conforms_call.2 ⟨(TunnelLoop.inspect rfl).may hs.cons.running, fun size => ?_⟩
      cases size with
      | error err => exact hs.cons.cons
      | ok size =>
          refine conforms_call.2
            ⟨(TunnelLoop.inspect rfl).may hs.cons.cons.running, fun entries => ?_⟩
          cases entries with
          | error err => exact hs.cons.cons.cons
          | ok entries => exact hs.cons.cons.cons

theorem sendDirectoryListing_conforms {path : String} (hs : Serves S t tn h) :
    (sendDirectoryListing tn path msgId).Conforms (Issues (TunnelMay S t)) (Still S t tn) h := by
  refine conforms_bind.2 ((listDir_conforms hs).mono fun listed h' hs' => ?_)
  cases listed with
  | error err => exact reply_conforms hs'
  | ok dir => exact reply_conforms hs'

theorem startDownload_conforms {download : SFTPDownloadStart} (hs : Serves S t tn h) :
    (startDownload tn download msgId).Conforms (Issues (TunnelMay S t)) (Still S t tn) h := by
  refine conforms_call.2 ⟨(TunnelLoop.inspect rfl).may hs.running, fun size => ?_⟩
  cases size with
  | error err => exact reply_conforms hs.cons
  | ok size =>
      refine conforms_call.2 ⟨(TunnelLoop.inspect rfl).may hs.cons.running, fun file => ?_⟩
      cases file with
      | error err => exact reply_conforms hs.cons.cons
      | ok file =>
          refine conforms_call.2 ⟨TunnelLoop.generateId.may hs.cons.cons.running, fun id => ?_⟩
          refine conforms_call.2 ⟨Sweeps.now.may hs.cons.cons.cons.running, fun now => ?_⟩
          refine conforms_call.2
            ⟨TunnelLoop.downloadInsert.may hs.cons.cons.cons.cons.running, fun _ => ?_⟩
          exact reply_conforms hs.cons.cons.cons.cons.cons

/-- The chunk is read from the file found under the tunnel's own connection id. -/
theorem downloadFileChunk_conforms {chunk : SFTPDownloadChunk} {msg : Option UInt32}
    (hs : Serves S t tn h) :
    (downloadFileChunk S tn msgId chunk.downloadId chunk.chunkIndex).Conforms
      (Issues (TunnelMay S t)) (Still S t tn)
      (⟨.select t, .sftp (.downloadChunk chunk msg)⟩ :: h) := by
  have hs₁ : Serves S t tn (⟨.select t, .sftp (.downloadChunk chunk msg)⟩ :: h) := hs.cons_select rfl
  refine conforms_call.2 ⟨TunnelLoop.downloadGet.may hs₁.running, fun found => ?_⟩
  have hs₂ := hs₁.cons (c := .downloads tn.conn (.get (tn.cid, chunk.downloadId))) (r := found)
  cases found with
  | none => exact reply_conforms hs₂
  | some download =>
      refine conforms_call.2 ⟨TunnelLoop.seek.may hs₂.running, fun sought => ?_⟩
      cases sought with
      | error err =>
          refine conforms_bind.2 ((reply_conforms hs₂.cons).mono fun _ h' hs' => ?_)
          exact conforms_call.2 ⟨Sweeps.downloadsRemove.may hs'.running, fun _ => hs'.cons⟩
      | ok _ =>
          refine conforms_call.2 ⟨TunnelLoop.read.may hs₂.cons.running, fun bytes => ?_⟩
          cases bytes with
          | error err =>
              refine conforms_bind.2 ((reply_conforms hs₂.cons.cons).mono fun _ h' hs' => ?_)
              exact conforms_call.2 ⟨Sweeps.downloadsRemove.may hs'.running, fun _ => hs'.cons⟩
          | ok bytes =>
              cases bytes with
              | nil =>
                  exact conforms_call.2
                    ⟨Sweeps.downloadsRemove.may hs₂.cons.cons.running, fun _ => hs₂.cons.cons.cons⟩
              | cons byte bytes =>
                  have hs₃ := hs₂.cons (c := .sftp (.seek download.sftpFile
                    (chunk.chunkIndex.toUInt64 * UInt64.ofNat CHUNK_SIZE))) (r := .ok ())
                  have hs₄ := hs₃.cons (c := .sftp (.read download.sftpFile))
                    (r := .ok (byte :: bytes))
                  refine conforms_call.2 ⟨Sweeps.now.may hs₄.running, fun now => ?_⟩
                  refine conforms_call.2
                    ⟨TunnelLoop.downloadTouch.may hs₄.cons.running, fun _ => ?_⟩
                  split
                  · next hdebug =>
                      refine conforms_bind.2 ((addU32_one_conforms (P := Serves S t tn)
                        (fun hmax => ?_) hs₄.cons.cons).mono fun _ h' hs' => reply_conforms hs'.2)
                      refine ⟨TunnelLoop.may hs₄.cons.cons.running ?_, hs₄.cons.cons.cons⟩
                      exact .downloadOverflow hmax (List.cons_ne_nil _ _) hdebug
                  · exact reply_conforms hs₄.cons.cons

theorem startUpload_conforms {upload : SFTPUploadStart} (hs : Serves S t tn h) :
    (startUpload tn upload msgId).Conforms (Issues (TunnelMay S t)) (Still S t tn) h := by
  refine conforms_call.2 ⟨TunnelLoop.uploadOpen.may hs.running, fun file => ?_⟩
  cases file with
  | error err => exact reply_conforms hs.cons
  | ok file =>
      refine conforms_call.2 ⟨TunnelLoop.generateId.may hs.cons.running, fun id => ?_⟩
      refine conforms_call.2 ⟨Sweeps.now.may hs.cons.cons.running, fun now => ?_⟩
      refine conforms_call.2 ⟨TunnelLoop.uploadInsert.may hs.cons.cons.cons.running, fun _ => ?_⟩
      exact reply_conforms hs.cons.cons.cons.cons

/-- The task serves the chunk it took last, for the upload it found. -/
structure Uploads (S : Setup) (t : Nat) (tn : Tunnel) (chunk : SFTPUploadChunk)
    (upload : FileUpload) (h : Hist Resp) : Prop where
  serves : Serves S t tn h
  took : ∃ msgId, taken h = some (.upload chunk msgId)
  seen : LookedUp tn.conn (tn.cid, chunk.uploadId) upload h

theorem finishUpload_conforms {chunk : SFTPUploadChunk} {seen : FileUpload}
    (hu : Uploads S t tn chunk seen h) (hlast : seen.totalChunks ≤ chunk.chunkIndex + 1) :
    (finishUpload tn chunk msgId).Conforms (Issues (TunnelMay S t)) (Still S t tn) h := by
  -- the entry that is removed need not be the one that was seen: it was looked up twice
  have hs := hu.serves
  obtain ⟨msg, htook⟩ := hu.took
  refine conforms_call.2 ⟨Sweeps.uploadsRemove.may hs.running, fun removed => ?_⟩
  cases removed with
  | none => exact reply_conforms hs.cons
  | some upload =>
      refine conforms_call.2
        ⟨(TunnelLoop.writeLast htook hu.seen hlast).may hs.cons.running, fun written => ?_⟩
      cases written with
      | error err => exact reply_conforms hs.cons.cons
      | ok _ =>
          refine conforms_call.2
            ⟨(TunnelLoop.rename htook).may hs.cons.cons.running, fun renamed => ?_⟩
          cases renamed with
          | error err => exact reply_conforms hs.cons.cons.cons
          | ok _ => exact reply_conforms hs.cons.cons.cons

theorem continueUpload_conforms {chunk : SFTPUploadChunk} {seen : FileUpload}
    (hu : Uploads S t tn chunk seen h) (hmore : ¬ seen.totalChunks ≤ chunk.chunkIndex + 1) :
    (continueUpload tn chunk msgId).Conforms (Issues (TunnelMay S t)) (Still S t tn) h := by
  have hs := hu.serves
  obtain ⟨msg, htook⟩ := hu.took
  refine conforms_call.2 ⟨TunnelLoop.uploadGet.may hs.running, fun found => ?_⟩
  cases found with
  | none => exact reply_conforms hs.cons
  | some upload =>
      refine conforms_call.2
        ⟨(TunnelLoop.write htook hu.seen hmore).may hs.cons.running, fun written => ?_⟩
      cases written with
      | error err =>
          refine conforms_call.2 ⟨Sweeps.uploadsRemove.may hs.cons.cons.running, fun _ => ?_⟩
          exact reply_conforms hs.cons.cons.cons
      | ok _ =>
          refine conforms_call.2 ⟨Sweeps.now.may hs.cons.cons.running, fun now => ?_⟩
          refine conforms_call.2
            ⟨TunnelLoop.uploadTouch.may hs.cons.cons.cons.running, fun _ => ?_⟩
          exact reply_conforms hs.cons.cons.cons.cons

/-- The chunk is written to the file found under the tunnel's own connection id. -/
theorem uploadFileChunk_conforms {chunk : SFTPUploadChunk} {msg : Option UInt32}
    (hs : Serves S t tn h) :
    (uploadFileChunk tn chunk msgId).Conforms (Issues (TunnelMay S t)) (Still S t tn)
      (⟨.select t, .sftp (.upload chunk msg)⟩ :: h) := by
  have hs₁ : Serves S t tn (⟨.select t, .sftp (.upload chunk msg)⟩ :: h) := hs.cons_select rfl
  refine conforms_call.2 ⟨TunnelLoop.uploadGet.may hs₁.running, fun found => ?_⟩
  -- which of the two ways a chunk goes is decided by the entry seen here
  cases found with
  | none => exact reply_conforms hs₁.cons
  | some upload =>
      refine conforms_bind.2 ?_
      refine (addU32_one_conforms (P := Uploads S t tn chunk upload) (fun hmax => ?_)
        ⟨hs₁.cons, ⟨msg, rfl⟩, .found⟩).mono fun next h' hu => ?_
      · exact ⟨TunnelLoop.may hs₁.cons.running (.uploadOverflow hmax), hs₁.cons.cons, ⟨msg, rfl⟩,
          .overflow .found⟩
      · obtain ⟨rfl, hu⟩ := hu
        split
        · next hlast => exact finishUpload_conforms hu hlast
        · next hmore => exact continueUpload_conforms hu hmore

theorem removeFile_conforms {data : SFTPDelete} (hs : Serves S t tn h) :
    (removeFile tn data msgId).Conforms (Issues (TunnelMay S t)) (Still S t tn) h := by
  refine conforms_call.2 ⟨TunnelLoop.delete.may hs.running, fun removed => ?_⟩
  cases removed with
  | error err => exact reply_conforms hs.cons
  | ok _ => exact hs.cons

end Actions

/-! ## So do the tasks

A task makes its connection, then reports the tunnel open and enters its loop, and at last
disconnects and reports how it ended.  Before the loop an SSH tunnel is `Dialing`: it has reported
nothing, and the shell is granted by the last of the three calls that ask for it. -/

/-- An SSH tunnel whose connection is being made: nothing reported, no shell yet. -/
structure Dialing (S : Setup) (t : Nat) (tn : Tunnel) (h : Hist Resp) : Prop where
  running : Running S t tn h
  silent : Silent h
  dark : (⟨.ssh t .requestShell, .ok ()⟩ : Sigma Resp) ∉ h

section Tasks

variable {S : Setup} {t : Nat} {tn : Tunnel} {h : Hist Resp}

theorem Dialing.cons {op : SshOp} {r : op.Resp} (hd : Dialing S t tn h) (hop : op.plain = true)
    (hr : (⟨.ssh t op, r⟩ : Sigma Resp) ≠ ⟨.ssh t .requestShell, .ok ()⟩) :
    Dialing S t tn (⟨.ssh t op, r⟩ :: h) := by
  refine ⟨hd.running.cons ?_, ?_, ?_⟩
  · cases op with
    | disconnect => cases hop
    | _ => rfl
  · exact hd.silent.cons fun _ => Cmd.noConfusion
  · intro hmem
    rcases List.mem_cons.1 hmem with heq | hmem
    · exact hr heq.symm
    · exact hd.dark hmem

/-- `create_client`, for both kinds of tunnel. -/
theorem createClient_conforms {P : Hist Resp → Prop}
    (hrun : ∀ h, P h → Running S t tn h)
    (hconnect : ∀ h r, P h → P (⟨.ssh t (.connect tn.config), r⟩ :: h))
    (hauth : ∀ h r, P h → P (⟨.ssh t (.authenticate tn.config.credentials), r⟩ :: h)) (hP : P h)
    (failed : String) : (createClient t tn failed).Conforms (Issues (TunnelMay S t)) (fun _ => P) h := by
  refine conforms_call.2 ⟨(TunnelLoop.ssh rfl).may (hrun h hP), fun connected => ?_⟩
  have hP₁ := hconnect h connected hP
  cases connected with
  | error err => exact hP₁
  | ok _ =>
      refine conforms_call.2 ⟨(TunnelLoop.ssh rfl).may (hrun _ hP₁), fun authenticated => ?_⟩
      have hP₂ := hauth _ authenticated hP₁
      match authenticated with
      | .error err => exact hP₂
      | .ok true => exact hP₂
      | .ok false => exact hP₂

theorem openShell_conforms (hd : Dialing S t tn h) :
    (openShell t).Conforms (Issues (TunnelMay S t)) (fun res h' => Running S t tn h' ∧
      Silent h' ∧ ∀ err, res = .error err → Dialing S t tn h') h := by
  have hfailed {h' : Hist Resp} {err : String} (hd : Dialing S t tn h') :
      Running S t tn h' ∧ Silent h' ∧
        ∀ e, (Except.error err : Except String Unit) = .error e → Dialing S t tn h' :=
    ⟨hd.running, hd.silent, fun _ _ => hd⟩
  refine conforms_call.2 ⟨(TunnelLoop.ssh rfl).may hd.running, fun opened => ?_⟩
  have hd₁ : Dialing S t tn (⟨.ssh t .channelOpenSession, opened⟩ :: h) := hd.cons rfl (by simp)
  cases opened with
  | error err => exact hfailed hd₁
  | ok _ =>
      refine conforms_call.2 ⟨(TunnelLoop.ssh rfl).may hd₁.running, fun granted => ?_⟩
      have hd₂ : Dialing S t tn
          (⟨.ssh t .requestPty, granted⟩ :: ⟨.ssh t .channelOpenSession, .ok ()⟩ :: h) :=
        hd₁.cons rfl (by simp)
      cases granted with
      | error err => exact hfailed hd₂
      | ok _ =>
          refine conforms_call.2 ⟨(TunnelLoop.ssh rfl).may hd₂.running, fun started => ?_⟩
          cases started with
          | error err => exact hfailed (hd₂.cons rfl (by simp))
          | ok _ =>
              exact ⟨hd₂.running.cons, hd₂.silent.cons fun _ => Cmd.noConfusion,
                fun _ hc => nomatch hc⟩

theorem openSftp_conforms (hs : Serves S t tn h) :
    (openSftp t).Conforms (Issues (TunnelMay S t)) (Still S t tn) h := by
  refine conforms_call.2 ⟨(TunnelLoop.ssh rfl).may hs.running, fun opened => ?_⟩
  cases opened with
  | error err => exact hs.cons
  | ok _ =>
      refine conforms_call.2 ⟨(TunnelLoop.ssh rfl).may hs.cons.running, fun granted => ?_⟩
      cases granted with
      | error err => exact hs.cons.cons
      | ok _ =>
          refine conforms_call.2 ⟨(TunnelLoop.ssh rfl).may hs.cons.cons.running, fun started => ?_⟩
          cases started with
          | error err => exact hs.cons.cons.cons
          | ok _ => exact hs.cons.cons.cons

/-! ### The end of a tunnel

A task ends in one place, `endTunnel`, with a result.  `TunnelClosed` follows a connection that was
closed and a tunnel that had been reported open, and an error anything else: that is `Ended`. -/

/-- What may be issued where nothing is pending, whatever came of the connection. -/
theorem TunnelLoop.may_of_idle {c : Cmd} (hb : Began t tn h) (hidle : pending S t tn h = none)
    (hc : TunnelLoop S t tn h c) : TunnelMay S t h c := by
  refine .inr ⟨tn, hb, fun due hdue => ?_, hc⟩
  rw [hidle] at hdue
  cases hdue

theorem dropStdin_conforms {Q : Label → Hist Resp → Prop} {rest : Action Label} (hb : Began t tn h)
    (hidle : pending S t tn h = none)
    (hrest : ∀ e : Sigma Resp, (∀ r, e ≠ ⟨.ssh t .disconnect, r⟩) → (∀ r, e ≠
      ⟨.ssh t .requestShell, r⟩) → pending S t tn (e :: h) = none →
      rest.Conforms (Issues (TunnelMay S t)) Q (e :: h)) :
    (do dropStdin t tn.protocol; rest : Action Label).Conforms (Issues (TunnelMay S t)) Q h := by
  cases tn.protocol with
  | ssh =>
      refine conforms_call.2 ⟨TunnelLoop.dropSsh.may_of_idle hb hidle, fun r => ?_⟩
      exact hrest _ (by simp) (by simp) rfl
  | sftp =>
      refine conforms_call.2 ⟨TunnelLoop.dropSftp.may_of_idle hb hidle, fun r => ?_⟩
      exact hrest _ (by simp) (by simp) rfl

theorem endFailed_conforms {err : String} (hb : Began t tn h) (hidle : pending S t tn h = none)
    (hlinked : (⟨.ssh t .disconnect, .ok ()⟩ : Sigma Resp) ∉ h)
    (hopen : Announced tn h ∨
      tn.protocol = .ssh ∧ (⟨.ssh t .requestShell, .ok ()⟩ : Sigma Resp) ∉ h) :
    (endTunnel t tn (.error err)).Conforms (Issues (TunnelMay S t)) (TunnelAt S t) h := by
  refine dropStdin_conforms hb hidle fun e hne hne' hidle' => ?_
  have hb₁ : Began t tn (e :: h) := hb.cons
  refine conforms_call.2 ⟨TunnelLoop.failed.may_of_idle hb₁ hidle', fun sent => ?_⟩
  refine conforms_call.2 ⟨(TunnelLoop.finish (.failed ?_ ?_)).may_of_idle hb₁.cons rfl,
    fun _ => trivial⟩
  · intro hmem
    rcases List.mem_cons.1 hmem with heq | hmem
    · exact hne _ heq.symm
    · exact hlinked hmem
  · rcases hopen with ha | ⟨hp, hdark⟩
    · exact .inl ha.cons
    · refine .inr ⟨hp, fun hmem => ?_⟩
      rcases List.mem_cons.1 hmem with heq | hmem
      · exact hne' _ heq.symm
      · exact hdark hmem

theorem endClosed_conforms (hs : Serves S t tn h) :
    (endTunnel t tn (.ok ())).Conforms (Issues (TunnelMay S t)) (TunnelAt S t)
      (⟨.ssh t .disconnect, .ok ()⟩ :: h) := by
  refine dropStdin_conforms hs.running.began.cons rfl fun e _ _ hidle => ?_
  have hb : Began t tn (e :: ⟨.ssh t .disconnect, .ok ()⟩ :: h) := hs.running.began.cons.cons
  refine conforms_call.2
    ⟨(TunnelLoop.closed hs.announced.cons.cons).may_of_idle hb hidle, fun sent => ?_⟩
  exact conforms_call.2
    ⟨(TunnelLoop.finish (.closed hs.announced)).may_of_idle hb.cons rfl, fun _ => trivial⟩

/-! ### The beginning of a tunnel

The two kinds differ in when they report the tunnel open: SSH when it has its shell, SFTP before it
connects.  So a failed SSH connection is the one end without a tunnel ever reported. -/

theorem sshConnect_conforms (hp : tn.protocol = .ssh) (hd : Dialing S t tn h) :
    (sshConnect t tn).Conforms (Issues (TunnelMay S t)) (TunnelAt S t) h := by
  have hfailed {h' : Hist Resp} {err : String} (hd : Dialing S t tn h') :
      (endTunnel t tn (.error err)).Conforms (Issues (TunnelMay S t)) (TunnelAt S t) h' :=
    endFailed_conforms hd.running.began hd.running.idle (hd.running.linked _) (.inr ⟨hp, hd.dark⟩)
  have hcreate := createClient_conforms (P := Dialing S t tn) (fun _ hd => hd.running)
    (fun _ _ hd => hd.cons rfl (by simp)) (fun _ _ hd => hd.cons rfl (by simp)) hd
  refine conforms_bind.2 ((hcreate "SSH authentication failed").mono fun created h₁ hd₁ => ?_)
  cases created with
  | error err => exact hfailed hd₁
  | ok _ =>
      refine conforms_bind.2 ((openShell_conforms hd₁).mono fun opened h₂ hopened => ?_)
      obtain ⟨hrun, hfirst, herr⟩ := hopened
      cases opened with
      | error err => exact hfailed (herr err rfl)
      | ok _ =>
          refine conforms_call.2 ⟨(TunnelLoop.announce hfirst).may hrun, fun sent => ?_⟩
          exact ⟨rfl, hp, hrun.cons, sent, List.mem_cons_self⟩

theorem sftpConnect_conforms (hp : tn.protocol = .sftp) (hrun : Running S t tn h)
    (hfirst : Silent h) :
    (sftpConnect t tn).Conforms (Issues (TunnelMay S t)) (TunnelAt S t) h := by
  have hfailed {h' : Hist Resp} {err : String} (hs : Serves S t tn h') :
      (endTunnel t tn (.error err)).Conforms (Issues (TunnelMay S t)) (TunnelAt S t) h' :=
    endFailed_conforms hs.running.began hs.running.idle (hs.running.linked _) (.inl hs.announced)
  refine conforms_call.2 ⟨(TunnelLoop.announce hfirst).may hrun, fun sent => ?_⟩
  have hs : Serves S t tn (⟨.out (.trySend tn.conn
      (.tunnelOpened tn.protocol.toU8 tn.cid tn.sid tn.msgId)), sent⟩ :: h) :=
    ⟨hrun.cons, sent, List.mem_cons_self⟩
  have hcreate := createClient_conforms (P := Serves S t tn) (fun _ hs => hs.running)
    (fun _ _ hs => hs.cons) (fun _ _ hs => hs.cons) hs
  refine conforms_bind.2 ((hcreate "SFTP authentication failed").mono fun created h₁ hs₁ => ?_)
  cases created with
  | error err => exact hfailed hs₁
  | ok _ =>
      refine conforms_bind.2 ((openSftp_conforms hs₁).mono fun opened h₂ hs₂ => ?_)
      cases opened with
      | error err => exact hfailed hs₂
      | ok _ => exact ⟨rfl, hp, hs₂⟩

/-! ### A turn of the loop

What `select!` wakes up for is either passed on in the same turn, as input for the shell and its
output are, or leaves the tunnel as it was. -/

theorem disconnect_conforms (hs : Serves S t tn h) :
    (sftpClose t tn).Conforms (Issues (TunnelMay S t)) (TunnelAt S t) h := by
  refine conforms_call.2 ⟨TunnelLoop.disconnect.may hs.running, fun disconnected => ?_⟩
  cases disconnected with
  | ok _ => exact endClosed_conforms hs
  | error err =>
      refine endFailed_conforms hs.running.began.cons rfl (fun hmem => ?_) (.inl hs.announced.cons)
      rcases List.mem_cons.1 hmem with heq | hmem
      · cases heq
      · exact hs.running.linked _ hmem

theorem sshClose_conforms (hs : Serves S t tn h) :
    (sshClose t tn).Conforms (Issues (TunnelMay S t)) (TunnelAt S t) h :=
  conforms_call.2 ⟨(TunnelLoop.ssh rfl).may hs.running, fun _ => disconnect_conforms hs.cons⟩

theorem TunnelLoop.may_due {c : Cmd} (hb : Began t tn h) (hdue : pending S t tn h = some c)
    (hc : TunnelLoop S t tn h c) : TunnelMay S t h c := by
  refine .inr ⟨tn, hb, fun due heq => ?_, hc⟩
  rw [hdue] at heq
  exact Option.some_inj.1 heq

/-- Passing on what the loop woke up for leaves nothing pending. -/
theorem Serves.passed {wake : Wake} {c : Cmd} {r : Resp c} (hs : Serves S t tn h)
    (hc : c.isTurn = false) : Serves S t tn (⟨c, r⟩ :: ⟨.select t, wake⟩ :: h) := by
  refine ⟨⟨hs.running.began.cons.cons, pending_cons hc, fun r' hmem => ?_⟩,
    hs.announced.cons.cons⟩
  rcases List.mem_cons.1 hmem with heq | hmem
  · cases heq
    cases hc
  · rcases List.mem_cons.1 hmem with heq | hmem
    · cases heq
    · exact hs.running.linked r' hmem

theorem sshTurn_conforms (hp : tn.protocol = .ssh) (hs : Serves S t tn h) :
    (sshTurn S t tn).Conforms (Issues (TunnelMay S t)) (TunnelAt S t) h := by
  refine conforms_call.2 ⟨TunnelLoop.select.may hs.running, fun wake => ?_⟩
  match wake with
  | .shutdown => exact sshClose_conforms (hs.cons_select rfl)
  | .ssh (.data buf) =>
      refine conforms_call.2 ⟨TunnelLoop.input.may_due hs.running.began.cons (if_pos hp),
        fun written => ?_⟩
      have hs₂ : Serves S t tn
          (⟨.ssh t (.data buf), written⟩ :: ⟨.select t, .ssh (.data buf)⟩ :: h) := hs.passed rfl
      cases written with
      | error err => exact sshClose_conforms hs₂
      | ok _ => exact ⟨rfl, hp, hs₂⟩
  | .ssh (.resize cols rows pxWidth pxHeight) =>
      have hs₁ : Serves S t tn (⟨.select t, .ssh (.resize cols rows pxWidth pxHeight)⟩ :: h) :=
        hs.cons_select rfl
      exact conforms_call.2
        ⟨(TunnelLoop.ssh rfl).may hs₁.running, fun _ => ⟨rfl, hp, hs₁.cons⟩⟩
  | .message none => exact sshClose_conforms (hs.cons_select rfl)
  | .message (some (.data data)) =>
      refine conforms_call.2 ⟨TunnelLoop.output.may_due hs.running.began.cons (if_pos hp),
        fun sent => ⟨rfl, hp, ?_⟩⟩
      exact hs.passed rfl
  | .message (some (.exitStatus status)) =>
      have hs₁ : Serves S t tn (⟨.select t, .message (some (.exitStatus status))⟩ :: h) :=
        hs.cons_select rfl
      exact conforms_call.2
        ⟨(TunnelLoop.ssh rfl).may hs₁.running, fun _ => sshClose_conforms hs₁.cons⟩
  | .message (some .eof) | .message (some .close) => exact sshClose_conforms (hs.cons_select rfl)
  | .message (some .other) | .sftp _ => exact ⟨rfl, hp, hs.cons_select rfl⟩

theorem sftpCommand_conforms {cmd : SFTPCommand} (hp : tn.protocol = .sftp)
    (hs : Serves S t tn h) :
    (sftpCommand S t tn cmd).Conforms (Issues (TunnelMay S t)) (TunnelAt S t)
      (⟨.select t, .sftp cmd⟩ :: h) := by
  have hs₁ : Serves S t tn (⟨.select t, .sftp cmd⟩ :: h) := hs.cons_select rfl
  cases cmd with
  | list path msgId =>
      refine conforms_bind.2 ((sendDirectoryListing_conforms hs₁).mono fun _ h' hs' => ?_)
      exact ⟨rfl, hp, hs'⟩
  | downloadStart download msgId =>
      refine conforms_call.2 ⟨Sweeps.now.may hs₁.running, fun now => ?_⟩
      exact conforms_call.2
        ⟨Sweeps.downloadsKeys.may hs₁.cons.running, fun _ => ⟨rfl, hp, hs₁.cons.cons⟩⟩
  | downloadChunk chunk msgId =>
      refine conforms_bind.2 ((downloadFileChunk_conforms hs).mono fun _ h' hs' => ?_)
      exact ⟨rfl, hp, hs'⟩
  | uploadStart upload msgId =>
      refine conforms_call.2 ⟨Sweeps.now.may hs₁.running, fun now => ?_⟩
      exact conforms_call.2
        ⟨Sweeps.uploadsKeys.may hs₁.cons.running, fun _ => ⟨rfl, hp, hs₁.cons.cons⟩⟩
  | upload chunk msgId =>
      refine conforms_bind.2 ((uploadFileChunk_conforms hs).mono fun _ h' hs' => ?_)
      exact ⟨rfl, hp, hs'⟩
  | delete data msgId =>
      exact conforms_call.2 ⟨Sweeps.uploadsKeys.may hs₁.running, fun _ => ⟨rfl, hp, hs₁.cons⟩⟩

theorem sftpTurn_conforms (hp : tn.protocol = .sftp) (hs : Serves S t tn h) :
    (sftpTurn S t tn).Conforms (Issues (TunnelMay S t)) (TunnelAt S t) h := by
  refine conforms_call.2 ⟨TunnelLoop.select.may hs.running, fun wake => ?_⟩
  cases wake with
  | shutdown => exact disconnect_conforms (hs.cons_select rfl)
  | sftp cmd => exact sftpCommand_conforms hp hs
  | ssh | message => exact ⟨rfl, hp, hs.cons_select (pending_sftp hp)⟩

theorem retainUploads_conforms {data : SFTPDelete} {msgId : Option UInt32}
    {start visited : List Key} (hp : tn.protocol = .sftp) (hs : Serves S t tn h) :
    (retainUploads t tn data msgId start visited).Conforms (Issues (TunnelMay S t))
      (TunnelAt S t) h := by
  refine conforms_call.2 ⟨Sweeps.uploadsNext.may hs.running, fun met => ?_⟩
  cases met with
  | some entry =>
      exact conforms_call.2
        ⟨TunnelLoop.cancel.may hs.cons.running, fun _ => ⟨rfl, hp, hs.cons.cons⟩⟩
  | none =>
      refine conforms_bind.2 ((removeFile_conforms hs.cons).mono fun _ h' hs' => ?_)
      exact ⟨rfl, hp, hs'⟩

theorem runTunnel_conforms :
    (runTunnel t).Conforms (Issues (TunnelMay S t)) (TunnelAt S t) [] := by
  refine conforms_call.2 ⟨.inl ⟨rfl, rfl⟩, fun tn => ?_⟩
  have hrun : Running S t tn [⟨.begin t, tn⟩] := by
    refine ⟨List.suffix_rfl, rfl, fun r hmem => ?_⟩
    cases List.mem_singleton.1 hmem
  have hfirst : Silent [⟨.begin t, tn⟩] := by
    intro op r hmem
    cases List.mem_singleton.1 hmem
  split
  · next hp =>
      refine sshConnect_conforms hp ⟨hrun, hfirst, fun hmem => ?_⟩
      cases List.mem_singleton.1 hmem
  · next hp => exact sftpConnect_conforms hp hrun hfirst

/-- **A tunnel task follows its rules**, at every label it can be at. -/
theorem tunnel_follows (l : Label) (h : Hist Resp) (hat : TunnelAt S t l h) :
    (body S l).Conforms (Issues (TunnelMay S t)) (TunnelAt S t) h := by
  cases l with
  | tunnel j =>
      obtain ⟨rfl, rfl⟩ := hat
      exact runTunnel_conforms
  | sshLoop j tn =>
      obtain ⟨rfl, hp, hs⟩ := hat
      exact sshTurn_conforms hp hs
  | sftpLoop j tn =>
      obtain ⟨rfl, hp, hs⟩ := hat
      exact sftpTurn_conforms hp hs
  | retainUploads j tn data msgId start visited =>
      obtain ⟨rfl, hp, hs⟩ := hat
      exact retainUploads_conforms hp hs
  | sweepUploads why start visited found =>
      cases why with
      | start j tn now upload msgId =>
          obtain ⟨rfl, hp, hs⟩ := hat
          refine sweepUploads_conforms (P := Serves S j tn) (fun _ _ _ hc hs => hs.cons hc.not_turn)
            (fun _ _ hc hs => hc.may hs.running) (fun _ _ _ hs => ⟨rfl, hp, hs⟩) (fun h hs => ?_) hs
          refine conforms_bind.2 ((startUpload_conforms hs).mono fun _ h' hs' => ?_)
          exact ⟨rfl, hp, hs'⟩
      | _ => exact hat.elim
  | sweepDownloads why start visited found =>
      cases why with
      | start j tn now download msgId =>
          obtain ⟨rfl, hp, hs⟩ := hat
          refine sweepDownloads_conforms (P := Serves S j tn)
            (fun _ _ _ hc hs => hs.cons hc.not_turn) (fun _ _ hc hs => hc.may hs.running)
            (fun _ _ _ hs => ⟨rfl, hp, hs⟩) (fun h hs => ?_) hs
          refine conforms_bind.2 ((startDownload_conforms hs).mono fun _ h' hs' => ?_)
          exact ⟨rfl, hp, hs'⟩
      | _ => exact hat.elim
  | done => trivial
  | _ => exact hat.elim

end Tasks

end Phirepass.Agent
