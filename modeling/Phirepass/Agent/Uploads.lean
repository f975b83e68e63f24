/-
# `Phirepass.Agent.Uploads` — what ends up in an uploaded file

An upload goes to a temporary file named after its destination, opened with
`WRITE | CREATE | APPEND` and renamed once the last chunk is written.  What
the file holds by then is a matter of the whole run: the name is the same for
every upload to that destination, an upload that is dropped leaves its file
behind, and chunks are appended in the order they arrive, whatever their
numbers.

The files of the host are `Storage.Disk`, fed with the SFTP calls of a trace.
An upload that had its temporary file to itself is delivered as the chunks
accepted for it, in that order (`upload_exact`); it is the announced file if
they were the announced chunks (`upload_whole`).  Without the first condition
a file is mixed with another (`leftover_delivered`), without the second it is
incomplete (`last_chunk_delivered`).
-/
import Phirepass.Agent.Sessions
import Phirepass.Storage.Disk

namespace Phirepass.Agent

open Rust Interleave Storage

/-! ## The files of the host -/

/-- What is left open about the host: which file a path stands for, which files there are,
and how much of its data a failed write leaves in the file. -/
structure Host where
  resolve : String → String
  files : String → Option Bytes
  spill : List (Ev Tid Resp) → Nat

/-- What an SFTP call does to the files.  A call that fails does nothing, a failed write
excepted. -/
def Host.op (D : Host) (past : List (Ev Tid Resp)) : Ev Tid Resp → Option (Op String File)
  | ⟨_, .sftp (.openWithFlags path), .ok file⟩ => some (.openAppend (D.resolve path) file)
  | ⟨_, .sftp (.open path), .ok file⟩ => some (.openRead (D.resolve path) file)
  | ⟨_, .sftp (.writeAll file data), .ok ()⟩ => some (.append file data)
  | ⟨_, .sftp (.writeAll file data), .error _⟩ => some (.append file (data.take (D.spill past)))
  | ⟨_, .sftp (.rename old new), .ok ()⟩ => some (.rename (D.resolve old) (D.resolve new))
  | ⟨_, .sftp (.removeFile path), .ok ()⟩ => some (.remove (D.resolve path))
  | _ => none

def Host.ops (D : Host) : List (Ev Tid Resp) → List (Op String File)
  | [] => []
  | e :: tr => (D.op tr e).toList ++ D.ops tr

/-- The files after the calls of a trace. -/
def Host.disk (D : Host) (tr : List (Ev Tid Resp)) : Disk String File :=
  (Disk.start D.files).run (D.ops tr)

/-- Since `path` was opened as `file`, absent or empty, no other call wrote to that file,
renamed or removed it, or put another in its place. -/
def Host.Undisturbed (D : Host) (file : File) (path : String) (tr : List (Ev Tid Resp)) : Prop :=
  (Disk.start D.files).Alone file (D.resolve path) (D.ops tr)

instance (D : Host) (file : File) (path : String) (tr : List (Ev Tid Resp)) :
    Decidable (D.Undisturbed file path tr) :=
  inferInstanceAs (Decidable ((Disk.start D.files).Alone file (D.resolve path) (D.ops tr)))

/-- The open file an event returned. -/
def opensFile : Ev Tid Resp → Option File
  | ⟨_, .sftp (.openWithFlags _), .ok file⟩ | ⟨_, .sftp (.open _), .ok file⟩ => some file
  | _ => none

/-- Every open file is an object of its own. -/
def NewHandles : Restriction := fun w i c r =>
  ∀ file, opensFile ⟨i, c, r⟩ = some file → ∀ e ∈ w.trace, opensFile e ≠ some file

/-! ## The chunks of an upload -/

/-- The chunk a command carries. -/
def chunkOf : SFTPCommand → Option SFTPUploadChunk
  | .upload chunk _ => some chunk
  | _ => none

/-- The chunk that is written after the history `h`, if it is for the upload `key` of
connection `k` that has `file` open. -/
def writesFor (k : Nat) (key : Key) (file : File) : Hist Resp → Option SFTPUploadChunk
  | ⟨.uploads k' (.get key'), some upload⟩ :: h
  | ⟨.uploads k' (.remove key'), some upload⟩ :: h =>
      if k' = k ∧ key' = key ∧ upload.sftpFile = file then (taken h).bind chunkOf else none
  | _ => none

/-- The chunk an event accepts for the upload. -/
def accepts (k : Nat) (key : Key) (file : File) (past : List (Ev Tid Resp)) :
    Ev Tid Resp → Option SFTPUploadChunk
  | ⟨i, .sftp (.writeAll _ _), .ok ()⟩ => writesFor k key file (own i past)
  | _ => none

/-- The chunks accepted for the upload, in the order of their arrival. -/
def accepted (k : Nat) (key : Key) (file : File) : List (Ev Tid Resp) → List SFTPUploadChunk
  | [] => []
  | e :: tr => accepted k key file tr ++ (accepts k key file tr e).toList

/-- A write to the file that fails. -/
def failsToWrite (file : File) : Ev Tid Resp → Bool
  | ⟨_, .sftp (.writeAll file' _), .error _⟩ => file' == file
  | _ => false

/-- Every write to the file succeeded. -/
def AllWritten (file : File) (tr : List (Ev Tid Resp)) : Prop :=
  ∀ e ∈ tr, failsToWrite file e = false

instance (file : File) (tr : List (Ev Tid Resp)) : Decidable (AllWritten file tr) :=
  inferInstanceAs (Decidable (∀ e ∈ tr, failsToWrite file e = false))

theorem accepted_cons_of_none {k : Nat} {key : Key} {file : File} {e : Ev Tid Resp}
    {tr : List (Ev Tid Resp)} (h : accepts k key file tr e = none) :
    accepted k key file (e :: tr) = accepted k key file tr := by
  rw [accepted, h, Option.toList_none, List.append_nil]

section Uploads

variable {S : Setup} {A : Restriction} {cfg : Config State Tid Resp Label}

/-! ## One file, one upload -/

/-- No file is opened twice. -/
theorem opens_unique (hA : ∀ w i c r, A w i c r → NewHandles w i c r)
    (hr : (machine S).Reach A start cfg) {e e' : Ev Tid Resp} {past past' : List (Ev Tid Resp)}
    {file : File} (hs : e :: past <:+ cfg.world.trace) (hs' : e' :: past' <:+ cfg.world.trace)
    (he : opensFile e = some file) (he' : opensFile e' = some file) : e :: past = e' :: past' := by
  have hnew := agent_events (fun past e => ∀ file, opensFile e = some file →
    ∀ e' ∈ past, opensFile e' ≠ some file)
    (fun _ _ _ _ _ _ _ _ hAi _ file he => hA _ _ _ _ hAi file he) hr
  rcases List.suffix_or_suffix_of_suffix hs hs' with h | h
  · rcases List.suffix_cons_iff.1 h with heq | hlater
    · exact heq
    · exact absurd he (hnew e' past' hs' file he' e (hlater.subset List.mem_cons_self))
  · rcases List.suffix_cons_iff.1 h with heq | hlater
    · exact heq.symm
    · exact absurd he' (hnew e past hs file he e' (hlater.subset List.mem_cons_self))

/-- An upload is entered by the task that has just opened its file. -/
theorem opened_of_entered (hr : (machine S).Reach A start cfg) {i : Tid} {k : Nat} {key : Key}
    {upload : FileUpload} {r : Option FileUpload} {past : List (Ev Tid Resp)}
    (hs : ⟨i, .uploads k (.insert key upload), r⟩ :: past <:+ cfg.world.trace) :
    ∃ path before h', ⟨i, .sftp (.openWithFlags path), .ok upload.sftpFile⟩ :: before <:+ past ∧
      own i before = h' ∧ (own i past).length = h'.length + 3 := by
  obtain ⟨t, now, id, path, h', hi, hown⟩ := (may_of_event hr hs).entersUpload
  have hopen : ⟨.sftp (.openWithFlags path), .ok upload.sftpFile⟩ :: h' <:+ own i past := by
    rw [hown]
    exact (List.suffix_cons _ _).trans (List.suffix_cons _ _)
  obtain ⟨before, hbefore, hh'⟩ := exists_past_of_own hopen
  refine ⟨path, before, h', hbefore, hh', ?_⟩
  rw [hown]
  rfl

/-- An open file belongs to one upload. -/
theorem entered_unique (hA : ∀ w i c r, A w i c r → NewHandles w i c r)
    (hr : (machine S).Reach A start cfg) {i i' : Tid} {k k' : Nat} {key key' : Key}
    {upload upload' : FileUpload} {r r' : Option FileUpload}
    (h : (⟨i, .uploads k (.insert key upload), r⟩ : Ev Tid Resp) ∈ cfg.world.trace)
    (h' : (⟨i', .uploads k' (.insert key' upload'), r'⟩ : Ev Tid Resp) ∈ cfg.world.trace)
    (hfile : upload.sftpFile = upload'.sftpFile) : k = k' ∧ key = key' ∧ upload = upload' := by
  obtain ⟨past, hs⟩ := exists_past h
  obtain ⟨past', hs'⟩ := exists_past h'
  obtain ⟨path, before, hist, hopen, hown, hlen⟩ := opened_of_entered hr hs
  obtain ⟨path', before', hist', hopen', hown', hlen'⟩ := opened_of_entered hr hs'
  have hsame := opens_unique hA hr (hopen.trans ((List.suffix_cons _ _).trans hs))
    (hopen'.trans ((List.suffix_cons _ _).trans hs')) rfl (congrArg some hfile.symm)
  simp only [List.cons.injEq, Ev.mk.injEq] at hsame
  obtain ⟨⟨rfl, -⟩, rfl⟩ := hsame
  obtain rfl : hist = hist' := hown.symm.trans hown'
  -- the two entries were made at the same point of one task's history
  cases eq_of_own_length hs hs' (hlen.trans hlen'.symm)
  exact ⟨rfl, rfl, rfl⟩

/-- An entry of `uploads` was entered there. -/
theorem entered_of_lookup (hr : (machine S).Reach A start cfg) :
    ∀ k key upload, (cfg.world.state.uploads k).lookup key = some upload → ∃ i upload₀ r,
      (⟨i, .uploads k (.insert key upload₀), r⟩ : Ev Tid Resp) ∈ cfg.world.trace ∧
        upload₀.Same upload := by
  refine agent_inv (fun w => ∀ k key upload, (w.state.uploads k).lookup key = some upload →
    ∃ i upload₀ r, (⟨i, .uploads k (.insert key upload₀), r⟩ : Ev Tid Resp) ∈ w.trace ∧
      upload₀.Same upload) ?_ ?_ hr
  · intro k key upload hentry
    cases hentry
  · intro cfg i c o r s hr hI hmay _ hexec k key upload hentry
    rw [World.push_state, (exec_effect hexec).uploads] at hentry
    have hold {upload' : FileUpload} (hsame : upload'.Same upload)
        (h : (cfg.world.state.uploads k).lookup key = some upload') : ∃ j upload₀ r',
          (⟨j, .uploads k (.insert key upload₀), r'⟩ : Ev Tid Resp) ∈
            (⟨i, c, r⟩ :: cfg.world.trace : List (Ev Tid Resp)) ∧ upload₀.Same upload := by
      obtain ⟨j, upload₀, r', hmem, hfile⟩ := hI k key upload' h
      exact ⟨j, upload₀, r', List.mem_cons_of_mem _ hmem, hfile.trans hsame⟩
    cases c with
    | uploads j op =>
        rcases eq_or_ne k j with rfl | hj
        · rw [Cmd.uploadsAfter, Function.update_self] at hentry
          rcases MapOp.lookup_apply hentry with h | rfl | ⟨f, old, rfl, h, rfl⟩
          · exact hold (.refl _) h
          · exact ⟨i, upload, r, List.mem_cons_self, .refl _⟩
          · exact hold (hmay.touchesUpload old) h
        · rw [Cmd.uploadsAfter, Function.update_of_ne hj] at hentry
          exact hold (.refl _) hentry
    | _ => exact hold (.refl _) hentry

/-- So was one that was found. -/
theorem entered_of_found (hr : (machine S).Reach A start cfg) {i : Tid} {k : Nat} {key : Key}
    {upload : FileUpload} {last : Bool} {e : Sigma Resp} {past : List (Ev Tid Resp)}
    (hf : FindsUpload k key upload last e) (hs : ⟨i, e.1, e.2⟩ :: past <:+ cfg.world.trace) :
    ∃ j upload₀ r, (⟨j, .uploads k (.insert key upload₀), r⟩ : Ev Tid Resp) ∈ past ∧
      upload₀.Same upload := by
  refine agent_events (fun past e => ∀ k key upload last,
    FindsUpload k key upload last ⟨e.cmd, e.resp⟩ →
    ∃ j upload₀ r, (⟨j, .uploads k (.insert key upload₀), r⟩ : Ev Tid Resp) ∈ past ∧
      upload₀.Same upload) ?_ hr _ past hs k key upload last hf
  intro cfg j c o r s hr _ _ hexec k key upload last hf
  have hfound : (cfg.world.state.uploads k).lookup key = some upload := by
    generalize hev : (⟨c, r⟩ : Sigma Resp) = e at hf
    cases hf with
    | got | took =>
        cases hev
        have hans := exec_uploads_answer hexec
        simpa only [MapOp.answer, Option.some.injEq] using hans
  exact entered_of_lookup hr k key upload hfound

/-! ## What was written -/

/-- A written chunk is one that a tunnel took for the upload it had just found. -/
theorem written_chunk (hr : (machine S).Reach A start cfg) {i : Tid} {file : File} {data : Bytes}
    {r : Except String Unit} {past : List (Ev Tid Resp)}
    (hs : ⟨i, .sftp (.writeAll file data), r⟩ :: past <:+ cfg.world.trace) :
    ∃ (t k : Nat) (chunk : SFTPUploadChunk) (key : Key) (upload : FileUpload), i = .tunnel t ∧
      writesFor k key file (own i past) = some chunk ∧ chunk.data = data ∧
      (∃ r₀ j, (⟨j, .uploads k (.insert key upload), r₀⟩ : Ev Tid Resp) ∈ past) ∧
      upload.sftpFile = file ∧
      ∀ k' key' file', writesFor k' key' file' (own i past) ≠ none →
        k' = k ∧ key' = key ∧ file' = file := by
  obtain ⟨t, tn, chunk, msgId, upload, seen, last, e, h, hi, -, hown, hfind, htook, hfile, hdata, -⟩ :=
    (may_of_event hr hs).writesFile
  have hfound : ⟨e.1, e.2⟩ :: h <:+ own i past := by
    rw [hown]
  obtain ⟨before, hbefore, -⟩ := exists_past_of_own hfound
  obtain ⟨j, upload₀, r₀, hmem, hsame⟩ :=
    entered_of_found hr hfind (hbefore.trans ((List.suffix_cons _ _).trans hs))
  refine ⟨t, tn.conn, chunk, (tn.cid, chunk.uploadId), upload₀, hi, ?_, hdata,
    ⟨r₀, j, hbefore.subset (List.mem_cons_of_mem _ hmem)⟩, hsame.sftpFile_eq.trans hfile, ?_⟩
  · rw [hown]
    cases hfind with
    | got | took => simp only [writesFor, hfile, and_self, if_true, htook, Option.bind_some, chunkOf]
  · intro k' key' file' hw
    rw [hown] at hw
    cases hfind with
    | got | took =>
        simp only [writesFor, ne_eq, ite_eq_right_iff, not_forall] at hw
        obtain ⟨⟨hk, hkey, hfile'⟩, -⟩ := hw
        exact ⟨hk.symm, hkey.symm, hfile'.symm.trans hfile⟩

/-- Nothing is accepted for a file that is not open. -/
theorem accepted_of_not_open (hr : (machine S).Reach A start cfg) {k : Nat} {key : Key}
    {file : File} {tr : List (Ev Tid Resp)} (hs : tr <:+ cfg.world.trace)
    (hopen : ∀ e ∈ tr, opensFile e ≠ some file) : accepted k key file tr = [] := by
  induction tr with
  | nil => rfl
  | cons e tr ih =>
      have hrest := ih ((List.suffix_cons _ _).trans hs)
        fun e' he' => hopen e' (List.mem_cons_of_mem _ he')
      rw [accepted, hrest, List.nil_append]
      cases hw : accepts k key file tr e with
      | none => rfl
      | some chunk =>
          rw [accepts.eq_def] at hw
          split at hw
          · next i file' data =>
              obtain ⟨_, k', _, key', upload, -, -, -, ⟨r₀, j, hmem⟩, hfile', honly⟩ :=
                written_chunk hr hs
              obtain ⟨-, -, rfl⟩ := honly k key file (by rw [hw]; exact Option.some_ne_none _)
              obtain ⟨past, hpast⟩ := exists_past hmem
              obtain ⟨path, before, -, hopened, -⟩ :=
                opened_of_entered hr (hpast.trans ((List.suffix_cons _ _).trans hs))
              have hin := hpast.subset (List.mem_cons_of_mem _ (hopened.subset List.mem_cons_self))
              exact absurd (congrArg some hfile') (hopen _ (List.mem_cons_of_mem _ hin))
          · cases hw


/-- **What is written to an upload's file is what was accepted for the upload.** -/
theorem appended_eq_accepted (D : Host) (hA : ∀ w i c r, A w i c r → NewHandles w i c r)
    (hr : (machine S).Reach A start cfg) {k : Nat} {key : Key} {upload : FileUpload} {i : Tid}
    {r : Option FileUpload}
    (hin : (⟨i, .uploads k (.insert key upload), r⟩ : Ev Tid Resp) ∈ cfg.world.trace)
    {tr : List (Ev Tid Resp)} (hs : tr <:+ cfg.world.trace)
    (hall : AllWritten upload.sftpFile tr) :
    Disk.appended upload.sftpFile (D.ops tr) =
      (accepted k key upload.sftpFile tr).flatMap (·.data) := by
  induction tr with
  | nil => rfl
  | cons e tr ih =>
      have hs' := (List.suffix_cons _ _).trans hs
      have hrest := ih hs' fun e he => hall e (List.mem_cons_of_mem _ he)
      have hkeep {e : Ev Tid Resp} (h : accepts k key upload.sftpFile tr e = none) :
          Disk.appended upload.sftpFile (D.ops tr) =
            (accepted k key upload.sftpFile (e :: tr)).flatMap (·.data) := by
        rw [hrest, accepted_cons_of_none h]
      obtain ⟨j, c, r'⟩ := e
      cases c with
      | sftp op =>
          cases op with
          | openWithFlags path =>
              cases r' with
              | error err => exact hkeep rfl
              | ok file =>
                  rw [accepted_cons_of_none rfl]
                  simp only [Host.ops, Host.op, Option.toList_some, List.singleton_append,
                    Disk.appended, Disk.extended]
                  split
                  · next hfile =>
                      rw [accepted_of_not_open hr hs', List.flatMap_nil]
                      intro e he hopen
                      obtain ⟨past, hpast⟩ := exists_past he
                      have hsame := opens_unique hA hr hs (hpast.trans hs') (congrArg some hfile)
                        hopen
                      have hlen := (hsame ▸ hpast).length_le
                      rw [List.length_cons] at hlen
                      omega
                  · exact hrest
          | «open» path =>
              cases r' with
              | error err => exact hkeep rfl
              | ok file => exact hkeep rfl
          | writeAll file data =>
              obtain ⟨t, k', chunk, key', upload', rfl, hw, rfl, ⟨r₀, j, hmem⟩, rfl, honly⟩ :=
                written_chunk hr hs
              cases r' with
              | error err =>
                  have hne : upload'.sftpFile ≠ upload.sftpFile := by
                    intro heq
                    exact absurd (hall _ List.mem_cons_self) (by simp [failsToWrite, heq])
                  simpa only [Host.ops, Host.op, Option.toList_some, List.singleton_append,
                    Disk.appended, Disk.extended, if_neg hne] using hkeep rfl
              | ok done =>
                  simp only [Host.ops, Host.op, Option.toList_some, List.singleton_append,
                    Disk.appended, Disk.extended, accepted, accepts]
                  split
                  · next heq =>
                      obtain ⟨rfl, rfl, -⟩ :=
                        entered_unique hA hr (hs'.subset hmem) hin heq
                      rw [hrest, ← heq, hw, List.flatMap_append, Option.toList_some,
                        List.flatMap_singleton]
                  · next hne =>
                      have hnone : writesFor k key upload.sftpFile (own (.tunnel t) tr) = none := by
                        by_contra hsome
                        exact hne (honly k key _ hsome).2.2.symm
                      rw [hnone, Option.toList_none, List.append_nil]
                      exact hrest
          | rename old new =>
              cases r' with
              | error err => exact hkeep rfl
              | ok done => exact hkeep rfl
          | removeFile path =>
              cases r' with
              | error err => exact hkeep rfl
              | ok done => exact hkeep rfl
          | _ => exact hkeep rfl
      | _ => exact hkeep rfl

/-! ## What is delivered -/

/-- The upload that the last chunk has just been written of. -/
def finished : Hist Resp → Option (Nat × Key × FileUpload)
  | ⟨.sftp (.writeAll _ _), .ok ()⟩ :: ⟨.uploads k (.remove key), some upload⟩ :: _ =>
      some (k, key, upload)
  | _ => none

/-- A file that was put in its place: for which upload, from which chunks, and what it holds. -/
structure Delivery where
  conn : Nat
  key : Key
  upload : FileUpload
  chunks : List SFTPUploadChunk
  content : Option Bytes
  deriving DecidableEq

/-- What the latest event of a trace delivered. -/
def delivery (D : Host) : List (Ev Tid Resp) → Option Delivery
  | ⟨i, .sftp (.rename old new), .ok ()⟩ :: past =>
      match finished (own i past) with
      | some (k, key, upload) =>
          some ⟨k, key, upload, accepted k key upload.sftpFile past,
            (D.disk (⟨i, .sftp (.rename old new), .ok ()⟩ :: past)).read (D.resolve new)⟩
      | none => none
  | _ => none

theorem delivery_of_finished {D : Host} {i : Tid} {old new : String} {past : List (Ev Tid Resp)}
    {k : Nat} {key : Key} {upload : FileUpload}
    (hfin : finished (own i past) = some (k, key, upload)) :
    delivery D (⟨i, .sftp (.rename old new), .ok ()⟩ :: past) =
      some ⟨k, key, upload, accepted k key upload.sftpFile past,
        (D.disk (⟨i, .sftp (.rename old new), .ok ()⟩ :: past)).read (D.resolve new)⟩ := by
  rw [delivery, hfin]

/-- Every rename delivers an upload that was entered. -/
theorem finished_of_rename (hr : (machine S).Reach A start cfg) {i : Tid} {old new : String}
    {r : Except String Unit} {past : List (Ev Tid Resp)}
    (hs : ⟨i, .sftp (.rename old new), r⟩ :: past <:+ cfg.world.trace) :
    ∃ k key upload, finished (own i past) = some (k, key, upload) ∧ old = upload.tempPath ∧
      new = filePath upload.remotePath upload.filename ∧
      ∃ j upload₀ r₀, (⟨j, .uploads k (.insert key upload₀), r₀⟩ : Ev Tid Resp) ∈ past ∧
        upload₀.Same upload := by
  obtain ⟨t, tn, chunk, upload, h, rfl, hown, hold, hnew⟩ := (may_of_event hr hs).renames
  have hfound : ⟨.uploads tn.conn (.remove (tn.cid, chunk.uploadId)), some upload⟩ :: h <:+
      own (.tunnel t) past := by
    rw [hown]
    exact List.suffix_cons _ _
  obtain ⟨before, hbefore, -⟩ := exists_past_of_own hfound
  obtain ⟨j, upload₀, r₀, hmem, hsame⟩ :=
    entered_of_found hr .took (hbefore.trans ((List.suffix_cons _ _).trans hs))
  refine ⟨tn.conn, (tn.cid, chunk.uploadId), upload, ?_, hold, hnew, j, upload₀, r₀,
    hbefore.subset (List.mem_cons_of_mem _ hmem), hsame⟩
  rw [hown, finished]

/-- What was found was entered, and the record found is the one entered. -/
theorem LookedUp.entered {i : Tid} {k : Nat} {key : Key} {upload : FileUpload} {h : Hist Resp}
    {past : List (Ev Tid Resp)} (hl : LookedUp k key upload h)
    (hr : (machine S).Reach A start cfg) (hpast : past <:+ cfg.world.trace)
    (hh : h <:+ own i past) : ∃ j upload₀ r,
      (⟨j, .uploads k (.insert key upload₀), r⟩ : Ev Tid Resp) ∈ past ∧ upload₀.Same upload := by
  induction hl with
  | found =>
      obtain ⟨before, hbefore, -⟩ := exists_past_of_own hh
      obtain ⟨j, upload₀, r, hmem, hsame⟩ := entered_of_found hr .got (hbefore.trans hpast)
      exact ⟨j, upload₀, r, hbefore.subset (List.mem_cons_of_mem _ hmem), hsame⟩
  | overflow hl ih => exact ih ((List.suffix_cons _ _).trans hh)

/-- The file of the upload an event enters under the given id. -/
def enters (k : Nat) (key : Key) : Ev Tid Resp → Option File
  | ⟨_, .uploads k' (.insert key' upload), _⟩ =>
      if k' = k ∧ key' = key then some upload.sftpFile else none
  | _ => none

/-- The upload id was given out for this file only. -/
def GivenOnce (k : Nat) (key : Key) (file : File) (tr : List (Ev Tid Resp)) : Prop :=
  ∀ e ∈ tr, enters k key e = none ∨ enters k key e = some file

instance (k : Nat) (key : Key) (file : File) (tr : List (Ev Tid Resp)) :
    Decidable (GivenOnce k key file tr) :=
  inferInstanceAs (Decidable (∀ e ∈ tr, _ ∨ _))

theorem GivenOnce.file_eq {k : Nat} {key : Key} {file : File} {tr : List (Ev Tid Resp)} {i : Tid}
    {upload : FileUpload} {r : Option FileUpload} (h : GivenOnce k key file tr)
    (hmem : (⟨i, .uploads k (.insert key upload), r⟩ : Ev Tid Resp) ∈ tr) :
    upload.sftpFile = file := by
  rcases h _ hmem with hnone | hfile
  · rw [enters, if_pos ⟨rfl, rfl⟩] at hnone
    cases hnone
  · rw [enters, if_pos ⟨rfl, rfl⟩] at hfile
    exact Option.some.inj hfile

/-- An accepted chunk stays accepted. -/
theorem accepted_of_suffix {k : Nat} {key : Key} {file : File} {tr tr' : List (Ev Tid Resp)}
    (h : tr <:+ tr') : accepted k key file tr <+: accepted k key file tr' := by
  obtain ⟨pre, rfl⟩ := h
  induction pre with
  | nil => exact List.prefix_rfl
  | cons e pre ih => exact ih.trans (List.prefix_append _ _)

/-- An upload is finished by a chunk whose number is the last one announced, or beyond. -/
theorem last_of_rename (hA : ∀ w i c r, A w i c r → NewHandles w i c r)
    (hr : (machine S).Reach A start cfg) {i : Tid} {old new : String} {r : Except String Unit}
    {past : List (Ev Tid Resp)}
    (hs : ⟨i, .sftp (.rename old new), r⟩ :: past <:+ cfg.world.trace) {k : Nat} {key : Key}
    {upload : FileUpload} (hfin : finished (own i past) = some (k, key, upload))
    (honce : GivenOnce k key upload.sftpFile past) :
    ∃ chunk ∈ accepted k key upload.sftpFile past,
      upload.totalChunks ≤ chunk.chunkIndex + 1 := by
  have hpast := (List.suffix_cons _ _).trans hs
  obtain ⟨t, tn, chunk, upload', h, rfl, hown, -, -⟩ := (may_of_event hr hs).renames
  rw [hown, finished] at hfin
  cases hfin
  have hwrote : ⟨.sftp (.writeAll upload.sftpFile chunk.data), .ok ()⟩ ::
      ⟨.uploads tn.conn (.remove (tn.cid, chunk.uploadId)), some upload⟩ :: h <:+
        own (.tunnel t) past := by
    rw [hown]
  obtain ⟨before, hbefore, hown'⟩ := exists_past_of_own hwrote
  obtain ⟨_, tn', chunk', msgId, upload', seen, last, e, h', hi, -, hh, hfind, htook, hfile, -, hseen,
    hlast⟩ := (may_of_event hr (hbefore.trans hpast)).writesFile
  rw [hown', List.cons.injEq] at hh
  obtain ⟨rfl, rfl⟩ := hh
  cases hi
  generalize hev : (⟨.uploads tn.conn (.remove (tn.cid, chunk.uploadId)), some upload⟩ :
    Sigma Resp) = e at hfind
  cases hfind with
  | got => simp at hev
  | took =>
      simp only [Sigma.mk.injEq, Cmd.uploads.injEq, MapOp.remove.injEq, Prod.mk.injEq] at hev
      obtain ⟨⟨hconn, hcid, hid⟩, hup⟩ := hev
      rw [hconn, hcid, hid] at hup honce ⊢
      cases eq_of_heq hup
      have hbefore' := (List.suffix_cons _ _).trans hbefore
      refine ⟨chunk', (accepted_of_suffix hbefore).subset ?_, ?_⟩
      · refine List.mem_append_right _ ?_
        simp only [accepts, hown', writesFor, hconn, hcid, hid, and_self, if_true, htook,
          Option.bind_some, chunkOf, Option.mem_toList]
      · -- both lookups found the upload that has the file
        obtain ⟨j, u, r₁, hu, husame⟩ := hseen.entered hr (hbefore'.trans hpast) (i := .tunnel t) (by
          rw [hown']
          exact List.suffix_cons _ _)
        obtain ⟨k₁, key₁, up₁, hfin₁, -, -, j', u', r₂, hu', husame'⟩ := finished_of_rename hr hs
        rw [hown, finished] at hfin₁
        cases hfin₁
        rw [hconn, hcid, hid] at hu'
        have hin := hpast.subset (hbefore'.subset hu)
        obtain ⟨-, -, rfl⟩ := entered_unique hA hr hin (hpast.subset hu')
          ((honce.file_eq (hbefore'.subset hu)).trans (honce.file_eq hu').symm)
        rw [← husame'.totalChunks_eq, husame.totalChunks_eq]
        exact of_decide_eq_true hlast.symm

/-- What the rename of a finished upload delivers. -/
theorem read_of_finished (D : Host) (hA : ∀ w i c r, A w i c r → NewHandles w i c r)
    (hr : (machine S).Reach A start cfg) {i : Tid} {old new : String} {past : List (Ev Tid Resp)}
    (hs : ⟨i, .sftp (.rename old new), .ok ()⟩ :: past <:+ cfg.world.trace) {k : Nat} {key : Key}
    {upload : FileUpload} (hfin : finished (own i past) = some (k, key, upload))
    (hall : AllWritten upload.sftpFile past) (halone : D.Undisturbed upload.sftpFile old past) :
    (D.disk (⟨i, .sftp (.rename old new), .ok ()⟩ :: past)).read (D.resolve new) =
      some ((accepted k key upload.sftpFile past).flatMap (·.data)) := by
  obtain ⟨_, _, _, hfin', -, -, j, upload₀, r₀, hmem, hsame⟩ := finished_of_rename hr hs
  rw [hfin] at hfin'
  cases hfin'
  have hpast := (List.suffix_cons _ _).trans hs
  rw [← hsame.sftpFile_eq] at hall halone ⊢
  rw [← appended_eq_accepted D hA hr (hpast.subset hmem) hpast hall]
  exact Disk.read_rename halone _

/-- **An upload left alone is delivered as it was sent.**  Whenever a temporary file is renamed
to its destination, that destination holds the chunks accepted for the upload, in the order of
their arrival and nothing else, if the writes succeeded and the file was left alone since the
upload opened it absent or empty. -/
theorem upload_exact (D : Host) (hA : ∀ w i c r, A w i c r → NewHandles w i c r)
    (hr : (machine S).Reach A start cfg) {i : Tid} {old new : String} {past : List (Ev Tid Resp)}
    (hs : ⟨i, .sftp (.rename old new), .ok ()⟩ :: past <:+ cfg.world.trace) :
    ∃ d, delivery D (⟨i, .sftp (.rename old new), .ok ()⟩ :: past) = some d ∧
      (AllWritten d.upload.sftpFile past → D.Undisturbed d.upload.sftpFile old past →
        d.content = some (d.chunks.flatMap (·.data))) := by
  obtain ⟨k, key, upload, hfin, -⟩ := finished_of_rename hr hs
  exact ⟨_, delivery_of_finished hfin, fun hall halone =>
    read_of_finished D hA hr hs hfin hall halone⟩

/-- The chunks came in the order of their numbers, and were no more than announced. -/
def InOrder (n : UInt32) (chunks : List SFTPUploadChunk) : Prop :=
  chunks.map (·.chunkIndex.toNat) = List.range chunks.length ∧ chunks.length ≤ n.toNat

instance (n : UInt32) (chunks : List SFTPUploadChunk) : Decidable (InOrder n chunks) :=
  inferInstanceAs (Decidable (_ ∧ _))

/-- In order, and with the last number among them, they are all there. -/
theorem InOrder.complete {n : UInt32} {chunks : List SFTPUploadChunk} (h : InOrder n chunks)
    {chunk : SFTPUploadChunk} (hmem : chunk ∈ chunks) (hlast : n ≤ chunk.chunkIndex + 1) :
    chunks.map (·.chunkIndex.toNat) = List.range n.toNat := by
  obtain ⟨hrange, hle⟩ := h
  have hindex : chunk.chunkIndex.toNat ∈ List.range chunks.length := by
    rw [← hrange]
    exact List.mem_map_of_mem hmem
  have hlt := List.mem_range.1 hindex
  have hn := n.toNat_lt
  have hsum : (chunk.chunkIndex + 1).toNat = chunk.chunkIndex.toNat + 1 := by
    rw [UInt32.toNat_add]
    exact Nat.mod_eq_of_lt (by simp; omega)
  have hall := UInt32.le_iff_toNat_le.1 hlast
  rw [hrange]
  congr 1
  omega

/-- What is numbered `0, 1, …` is found by its number. -/
theorem exists_data_of_range {chunks : List SFTPUploadChunk} {n : Nat}
    (h : chunks.map (·.chunkIndex.toNat) = List.range n) :
    ∃ data : Nat → Bytes, (∀ m < n, ∃ chunk,
        chunks.filter (·.chunkIndex.toNat = m) = [chunk] ∧ chunk.data = data m) ∧
      chunks.flatMap (·.data) = (List.range n).flatMap data := by
  have hnodup : (chunks.map (·.chunkIndex.toNat)).Nodup := by
    rw [h]
    exact List.nodup_range
  have hone {chunk : SFTPUploadChunk} (hmem : chunk ∈ chunks) :
      chunks.filter (·.chunkIndex.toNat = chunk.chunkIndex.toNat) = [chunk] := by
    have hsame : chunks.filter (·.chunkIndex.toNat = chunk.chunkIndex.toNat) =
        chunks.filter (· = chunk) := by
      refine List.filter_congr fun other hother => decide_eq_decide.2 ⟨fun heq => ?_, fun heq => ?_⟩
      · exact List.inj_on_of_nodup_map hnodup hother hmem heq
      · rw [heq]
    rw [hsame, List.filter_eq, List.count_eq_one_of_mem (hnodup.of_map _) hmem]
    rfl
  refine ⟨fun m => (chunks.filter (·.chunkIndex.toNat = m)).flatMap (·.data), fun m hm => ?_, ?_⟩
  · have hmem : m ∈ chunks.map (·.chunkIndex.toNat) := by
      rw [h]
      exact List.mem_range.2 hm
    obtain ⟨chunk, hchunk, rfl⟩ := List.mem_map.1 hmem
    refine ⟨chunk, hone hchunk, ?_⟩
    simp only [hone hchunk, List.flatMap_singleton]
  · rw [← h, List.flatMap_map]
    refine List.flatMap_congr fun chunk hchunk => ?_
    rw [hone hchunk, List.flatMap_singleton]

/-- **An upload sent in order is delivered whole.**  Whenever a temporary file that was left
alone is renamed, and the chunks accepted for the upload came in the order of their numbers and
with the announced size, every number below `total_chunks` was accepted exactly once and the
destination holds their data in that order. -/
theorem upload_whole (D : Host) (hA : ∀ w i c r, A w i c r → NewHandles w i c r)
    (hr : (machine S).Reach A start cfg) {i : Tid} {old new : String} {past : List (Ev Tid Resp)}
    (hs : ⟨i, .sftp (.rename old new), .ok ()⟩ :: past <:+ cfg.world.trace) :
    ∃ d, delivery D (⟨i, .sftp (.rename old new), .ok ()⟩ :: past) = some d ∧
      (AllWritten d.upload.sftpFile past → D.Undisturbed d.upload.sftpFile old past →
        GivenOnce d.conn d.key d.upload.sftpFile past →
        InOrder d.upload.totalChunks d.chunks →
        (d.chunks.flatMap (·.data)).length = d.upload.totalSize.toNat →
        ∃ data : Nat → Bytes,
          (∀ n < d.upload.totalChunks.toNat, ∃ chunk,
            d.chunks.filter (·.chunkIndex.toNat = n) = [chunk] ∧ chunk.data = data n) ∧
          d.content = some ((List.range d.upload.totalChunks.toNat).flatMap data) ∧
          ((List.range d.upload.totalChunks.toNat).flatMap data).length =
            d.upload.totalSize.toNat) := by
  obtain ⟨k, key, upload, hfin, -⟩ := finished_of_rename hr hs
  refine ⟨_, delivery_of_finished hfin, fun hall halone honce horder hsize => ?_⟩
  obtain ⟨chunk, hmem, hlast⟩ := last_of_rename hA hr hs hfin honce
  obtain ⟨data, hdata, hcontent⟩ := exists_data_of_range (horder.complete hmem hlast)
  refine ⟨data, hdata, ?_, ?_⟩
  · rw [read_of_finished D hA hr hs hfin hall halone, hcontent]
  · rw [← hcontent, hsize]

end Uploads

/-! ## Runs -/

/-- Whether a step hands out a file that is not open yet. -/
def newHandle (w : World State Tid Resp) (i : Tid) (c : Cmd) (r : Resp c) : Bool :=
  match opensFile ⟨i, c, r⟩ with
  | some file => w.trace.all fun e => opensFile e != some file
  | none => true

theorem newHandle_sound (w : World State Tid Resp) (i : Tid) (c : Cmd) (r : Resp c)
    (h : newHandle w i c r = true) : NewHandles w i c r := by
  intro file hfile e he
  rw [newHandle, hfile, List.all_eq_true] at h
  exact bne_iff_ne.1 (h e he)

/-- A host without files. -/
def emptyHost : Host := ⟨id, fun _ => none, fun _ => 0⟩

/-- A client is about to upload `/srv/notes.txt`, two chunks of four bytes in all. -/
def announce : List (Tid × Choice) :=
  deliver 0 (.sftpUploadStart 77 1 (some 2) ⟨"notes.txt", "/srv", 2, 4⟩)

/-- It sends a chunk, and the tunnel takes `n` steps to write it. -/
def sendChunk (id index : UInt32) (data : Bytes) (n : Nat) : List (Tid × Choice) :=
  deliver 0 (.sftpUpload 77 1 (some 3) ⟨id, index, UInt32.ofNat data.length, data⟩) ++ obey 0 n

/-- The tunnel starts an upload while the one under `key` is unfinished. -/
def obeyStartAgain (t : Nat) (file : File) (key : Key) : List (Tid × Choice) :=
  obey t 3 ++ [(.tunnel t, { pick := some key })] ++ idle (.tunnel t) 2 ++
    [(.tunnel t, { file := file })] ++ idle (.tunnel t) 5

/-- An SFTP tunnel that has begun an upload. -/
def beginUpload : List (Tid × Choice) :=
  login 0 ++ request 0 .sftp 77 ++ comeUp 0 ++ announce ++ obeyStart 0 5

/-- Whether a trace ends with a delivery that meets `p`. -/
def delivers (D : Host) (p : String → List (Ev Tid Resp) → Delivery → Bool) :
    List (Ev Tid Resp) → Bool
  | ⟨i, .sftp (.rename old new), .ok ()⟩ :: past =>
      (delivery D (⟨i, .sftp (.rename old new), .ok ()⟩ :: past)).any (p old past)
  | _ => false

theorem exists_delivery {D : Host} {p : String → List (Ev Tid Resp) → Delivery → Bool}
    {sched : List (Tid × Choice)}
    (h : ((machine (sample fun _ => 0)).run newHandle sched start).any
      (fun cfg => delivers D p cfg.world.trace) = true) :
    ∃ cfg i old new past d, (machine (sample fun _ => 0)).Reach NewHandles start cfg ∧
      cfg.world.trace = ⟨i, .sftp (.rename old new), .ok ()⟩ :: past ∧
      delivery D (⟨i, .sftp (.rename old new), .ok ()⟩ :: past) = some d ∧ p old past d = true := by
  obtain ⟨cfg, hr, hp⟩ := Machine.reach_of_run newHandle_sound h
  rw [delivers.eq_def] at hp
  split at hp
  · next i old new past htrace =>
      obtain ⟨d, hd, hp⟩ := (Option.any_eq_true ..).1 hp
      exact ⟨cfg, i, old, new, past, d, hr, htrace, hd, hp⟩
  · cases hp

/-- Both chunks of an upload are sent in order, and the destination holds them. -/
theorem upload_exact_of_run :
    ∃ cfg i old new past d, (machine (sample fun _ => 0)).Reach NewHandles start cfg ∧
      cfg.world.trace = ⟨i, .sftp (.rename old new), .ok ()⟩ :: past ∧
      delivery emptyHost (⟨i, .sftp (.rename old new), .ok ()⟩ :: past) = some d ∧
      d.chunks.map (·.data) = [[104, 105], [106, 107]] ∧
      d.content = some (d.chunks.flatMap (·.data)) := by
  have hrun : ((machine (sample fun _ => 0)).run newHandle
      (beginUpload ++ sendChunk 1 0 [104, 105] 7 ++ sendChunk 1 1 [106, 107] 4) start).any
      (fun cfg => delivers emptyHost (fun old past d => decide
        (AllWritten d.upload.sftpFile past ∧ emptyHost.Undisturbed d.upload.sftpFile old past ∧
          d.chunks.map (·.data) = [[104, 105], [106, 107]])) cfg.world.trace) = true := by
    decide +kernel
  obtain ⟨cfg, i, old, new, past, d, hr, htrace, hd, hp⟩ := exists_delivery hrun
  obtain ⟨hall, halone, hdata⟩ := of_decide_eq_true hp
  obtain ⟨d', hd', hcontent⟩ := upload_exact emptyHost (fun _ _ _ _ h => h) hr
    (by rw [htrace])
  rw [hd] at hd'
  cases hd'
  exact ⟨cfg, i, old, new, past, d, hr, htrace, hd, hdata, hcontent hall halone⟩

/-- An upload is abandoned after its first chunk and begun anew.  The second one is sent in
order and completely, and delivered behind what the first one had left in the file. -/
theorem leftover_delivered :
    ∃ cfg i old new past d, (machine (sample fun _ => 0)).Reach NewHandles start cfg ∧
      cfg.world.trace = ⟨i, .sftp (.rename old new), .ok ()⟩ :: past ∧
      delivery emptyHost (⟨i, .sftp (.rename old new), .ok ()⟩ :: past) = some d ∧
      AllWritten d.upload.sftpFile past ∧ d.upload.totalChunks = 2 ∧
      d.chunks.map (fun chunk => (chunk.chunkIndex, chunk.data)) =
        [(0, [106, 107]), (1, [108, 109])] ∧
      d.content = some [104, 105, 106, 107, 108, 109] := by
  have hrun : ((machine (sample fun _ => 0)).run newHandle
      (beginUpload ++ sendChunk 1 0 [104, 105] 7 ++ announce ++ obeyStartAgain 0 1 (77, 1) ++
        sendChunk 2 0 [106, 107] 7 ++ sendChunk 2 1 [108, 109] 4) start).any
      (fun cfg => delivers emptyHost (fun _ past d => decide
        (AllWritten d.upload.sftpFile past ∧ d.upload.totalChunks = 2 ∧
          d.chunks.map (fun chunk => (chunk.chunkIndex, chunk.data)) =
            [(0, [106, 107]), (1, [108, 109])] ∧
          d.content = some [104, 105, 106, 107, 108, 109])) cfg.world.trace) = true := by
    decide +kernel
  obtain ⟨cfg, i, old, new, past, d, hr, htrace, hd, hp⟩ := exists_delivery hrun
  exact ⟨cfg, i, old, new, past, d, hr, htrace, hd, of_decide_eq_true hp⟩

/-- An upload sent in order, and what every number stands for. -/
theorem upload_whole_of_run :
    ∃ cfg i old new past d, (machine (sample fun _ => 0)).Reach NewHandles start cfg ∧
      cfg.world.trace = ⟨i, .sftp (.rename old new), .ok ()⟩ :: past ∧
      delivery emptyHost (⟨i, .sftp (.rename old new), .ok ()⟩ :: past) = some d ∧
      ∃ data : Nat → Bytes,
        (∀ n < d.upload.totalChunks.toNat, ∃ chunk,
          d.chunks.filter (·.chunkIndex.toNat = n) = [chunk] ∧ chunk.data = data n) ∧
        d.content = some ((List.range d.upload.totalChunks.toNat).flatMap data) := by
  have hrun : ((machine (sample fun _ => 0)).run newHandle
      (beginUpload ++ sendChunk 1 0 [104, 105] 7 ++ sendChunk 1 1 [106, 107] 4) start).any
      (fun cfg => delivers emptyHost (fun old past d => decide
        (AllWritten d.upload.sftpFile past ∧ emptyHost.Undisturbed d.upload.sftpFile old past ∧
          GivenOnce d.conn d.key d.upload.sftpFile past ∧
          InOrder d.upload.totalChunks d.chunks ∧
          (d.chunks.flatMap (·.data)).length = d.upload.totalSize.toNat)) cfg.world.trace) =
        true := by
    decide +kernel
  obtain ⟨cfg, i, old, new, past, d, hr, htrace, hd, hp⟩ := exists_delivery hrun
  obtain ⟨hall, halone, honce, horder, hsize⟩ := of_decide_eq_true hp
  obtain ⟨d', hd', hwhole⟩ := upload_whole emptyHost (fun _ _ _ _ h => h) hr
    (by rw [htrace])
  rw [hd] at hd'
  cases hd'
  obtain ⟨data, hdata, hcontent, -⟩ := hwhole hall halone honce horder hsize
  exact ⟨cfg, i, old, new, past, d, hr, htrace, hd, data, hdata, hcontent⟩

/-- Of an upload announced with two chunks only the second one is sent, and delivered. -/
theorem last_chunk_delivered :
    ∃ cfg i old new past d, (machine (sample fun _ => 0)).Reach NewHandles start cfg ∧
      cfg.world.trace = ⟨i, .sftp (.rename old new), .ok ()⟩ :: past ∧
      delivery emptyHost (⟨i, .sftp (.rename old new), .ok ()⟩ :: past) = some d ∧
      AllWritten d.upload.sftpFile past ∧ emptyHost.Undisturbed d.upload.sftpFile old past ∧
      d.upload.totalChunks = 2 ∧ d.upload.totalSize = 4 ∧
      d.chunks.map (·.chunkIndex) = [1] ∧ d.content = some [106, 107] := by
  have hrun : ((machine (sample fun _ => 0)).run newHandle
      (beginUpload ++ sendChunk 1 1 [106, 107] 4) start).any
      (fun cfg => delivers emptyHost (fun old past d => decide
        (AllWritten d.upload.sftpFile past ∧ emptyHost.Undisturbed d.upload.sftpFile old past ∧
          d.upload.totalChunks = 2 ∧ d.upload.totalSize = 4 ∧
          d.chunks.map (·.chunkIndex) = [1] ∧ d.content = some [106, 107])) cfg.world.trace) =
        true := by
    decide +kernel
  obtain ⟨cfg, i, old, new, past, d, hr, htrace, hd, hp⟩ := exists_delivery hrun
  exact ⟨cfg, i, old, new, past, d, hr, htrace, hd, of_decide_eq_true hp⟩

end Phirepass.Agent
