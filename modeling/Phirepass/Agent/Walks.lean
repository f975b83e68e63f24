/-
# `Phirepass.Agent.Walks` — what clearing the maps of a connection achieves

The sessions, the uploads and the downloads of a connection are cleared in
the same way, for a client that left or at the end of `connect`: a walk that
collects the keys to close, then one removal for each.  The three maps are
what the operations of the trace make of them (`sessions_answered`, …), and
each of the three functions sweeps its map in the sense of `Interleave.Walk`.
-/
import Phirepass.Agent.Rules
import Phirepass.Interleave.Walk

namespace Phirepass.Agent

open Rust Interleave

/-! ## The three maps

An operation on a map of connection `k` is looked at with its answer.  In every run those
answers are the answers of one map that starts empty, and the state holds that map: a step that
is no operation on it leaves it alone. -/

/-- The operations on the sessions of connection `k`. -/
def onSessions (k : Nat) : (c : Cmd) → Resp c → Option (Answer Key SessionHandle)
  | .sessions j op, r => if j = k then some ⟨op, r⟩ else none
  | _, _ => none

def onUploads (k : Nat) : (c : Cmd) → Resp c → Option (Answer Key FileUpload)
  | .uploads j op, r => if j = k then some ⟨op, r⟩ else none
  | _, _ => none

def onDownloads (k : Nat) : (c : Cmd) → Resp c → Option (Answer Key FileDownload)
  | .downloads j op, r => if j = k then some ⟨op, r⟩ else none
  | _, _ => none

section Views

variable {k j : Nat}

@[simp] theorem onSessions_self {op : MapOp Key SessionHandle} {r : op.Resp} :
    onSessions k (.sessions k op) r = some ⟨op, r⟩ := if_pos rfl

@[simp] theorem onUploads_self {op : MapOp Key FileUpload} {r : op.Resp} :
    onUploads k (.uploads k op) r = some ⟨op, r⟩ := if_pos rfl

@[simp] theorem onDownloads_self {op : MapOp Key FileDownload} {r : op.Resp} :
    onDownloads k (.downloads k op) r = some ⟨op, r⟩ := if_pos rfl

/-- What is looked at as an operation is that operation. -/
theorem eq_of_onSessions {c : Cmd} {r : Resp c} {x : Answer Key SessionHandle}
    (h : onSessions k c r = some x) : (⟨c, r⟩ : Sigma Resp) = ⟨.sessions k x.1, x.2⟩ := by
  cases c with
  | sessions j op =>
      simp only [onSessions, Option.ite_none_right_eq_some] at h
      obtain ⟨rfl, heq⟩ := h
      cases heq
      rfl
  | _ => cases h

theorem eq_of_onUploads {c : Cmd} {r : Resp c} {x : Answer Key FileUpload}
    (h : onUploads k c r = some x) : (⟨c, r⟩ : Sigma Resp) = ⟨.uploads k x.1, x.2⟩ := by
  cases c with
  | uploads j op =>
      simp only [onUploads, Option.ite_none_right_eq_some] at h
      obtain ⟨rfl, heq⟩ := h
      cases heq
      rfl
  | _ => cases h

theorem eq_of_onDownloads {c : Cmd} {r : Resp c} {x : Answer Key FileDownload}
    (h : onDownloads k c r = some x) : (⟨c, r⟩ : Sigma Resp) = ⟨.downloads k x.1, x.2⟩ := by
  cases c with
  | downloads j op =>
      simp only [onDownloads, Option.ite_none_right_eq_some] at h
      obtain ⟨rfl, heq⟩ := h
      cases heq
      rfl
  | _ => cases h

variable {S : Setup} {A : Restriction} {cfg : Config State Tid Resp Label}

theorem sessions_answered (hr : (machine S).Reach A start cfg) (k : Nat) :
    cfg.world.state.sessions k = mapAt (onSessions k) cfg.world.trace ∧
      Answered (onSessions k) cfg.world.trace := by
  refine hr.answered (fun s => s.sessions k) ?_ ?_ rfl rfl
  · intro i c o s r s' x hexec hx
    obtain ⟨op, r⟩ := x
    cases eq_of_onSessions hx
    obtain ⟨⟨answer, m⟩, happ, hy⟩ := Option.map_eq_some_iff.1 hexec
    cases hy
    exact ⟨o.pick, by simpa using happ⟩
  · intro i c o s r s' hexec hx
    show s'.sessions k = s.sessions k
    rw [(exec_effect (i := i) hexec).sessions]
    cases c with
    | sessions j op =>
        simp only [onSessions, ite_eq_right_iff, reduceCtorEq, imp_false] at hx
        exact Function.update_of_ne (Ne.symm hx) _ _
    | _ => rfl

theorem uploads_answered (hr : (machine S).Reach A start cfg) (k : Nat) :
    cfg.world.state.uploads k = mapAt (onUploads k) cfg.world.trace ∧
      Answered (onUploads k) cfg.world.trace := by
  refine hr.answered (fun s => s.uploads k) ?_ ?_ rfl rfl
  · intro i c o s r s' x hexec hx
    obtain ⟨op, r⟩ := x
    cases eq_of_onUploads hx
    obtain ⟨⟨answer, m⟩, happ, hy⟩ := Option.map_eq_some_iff.1 hexec
    cases hy
    exact ⟨o.pick, by simpa using happ⟩
  · intro i c o s r s' hexec hx
    show s'.uploads k = s.uploads k
    rw [(exec_effect (i := i) hexec).uploads]
    cases c with
    | uploads j op =>
        simp only [onUploads, ite_eq_right_iff, reduceCtorEq, imp_false] at hx
        exact Function.update_of_ne (Ne.symm hx) _ _
    | _ => rfl

theorem downloads_answered (hr : (machine S).Reach A start cfg) (k : Nat) :
    cfg.world.state.downloads k = mapAt (onDownloads k) cfg.world.trace ∧
      Answered (onDownloads k) cfg.world.trace := by
  refine hr.answered (fun s => s.downloads k) ?_ ?_ rfl rfl
  · intro i c o s r s' x hexec hx
    obtain ⟨op, r⟩ := x
    cases eq_of_onDownloads hx
    obtain ⟨⟨answer, m⟩, happ, hy⟩ := Option.map_eq_some_iff.1 hexec
    cases hy
    exact ⟨o.pick, by simpa using happ⟩
  · intro i c o s r s' hexec hx
    show s'.downloads k = s.downloads k
    rw [(exec_effect (i := i) hexec).downloads]
    cases c with
    | downloads j op =>
        simp only [onDownloads, ite_eq_right_iff, reduceCtorEq, imp_false] at hx
        exact Function.update_of_ne (Ne.symm hx) _ _
    | _ => rfl

end Views

/-! ## The walks

A walk collects the keys to close, one entry a turn of its task, and the removals follow when it
has met no more; other tasks take their turns in between.  So the task keeps two things through
its turns: an invariant `I` of its own, which no command of the walk may break (`hkeep`), and what
the walk has met (`Walking`).  At the end the map is `Swept` of the keys with `P`, which says
nothing yet about keys that were inserted after the walk began. -/

/-- Walks over the maps of connection `k` and the removal of keys with `P`. -/
inductive Clearing (k : Nat) (P : Key → Prop) : Cmd → Prop
  | sessionsKeys : Clearing k P (.sessions k .keys)
  | sessionsNext {begun visited : List Key} : Clearing k P (.sessions k (.next begun visited))
  | sessionsRemove {key : Key} (hkey : P key) : Clearing k P (.sessions k (.remove key))
  | stop {t : Nat} : Clearing k P (.stop t)
  | uploadsKeys : Clearing k P (.uploads k .keys)
  | uploadsNext {begun visited : List Key} : Clearing k P (.uploads k (.next begun visited))
  | uploadsRemove {key : Key} (hkey : P key) : Clearing k P (.uploads k (.remove key))
  | downloadsKeys : Clearing k P (.downloads k .keys)
  | downloadsNext {begun visited : List Key} : Clearing k P (.downloads k (.next begun visited))
  | downloadsRemove {key : Key} (hkey : P key) : Clearing k P (.downloads k (.remove key))
  | sync {file : File} : Clearing k P (.sftp (.syncAll file))

section Sweeps

open Prog

variable {k : Nat} {P : Key → Prop} {may : Hist Resp → Cmd → Prop}
  {Q : Label → Hist Resp → Prop} {I : Hist Resp → Prop} {begun visited found : List Key}
  {h₀ h : Hist Resp}

/-- Closing one after the other removes them all. -/
theorem each_clears {V : Type} {view : (c : Cmd) → Resp c → Option (Answer Key V)}
    {close : List Key → Action Unit} {f : Key → Action Unit}
    (hnil : close [] = return ()) (hcons : ∀ key rest, close (key :: rest) = do
      f key
      close rest)
    (hstep : ∀ key h, P key → I h → h₀ <:+ h → (f key).Conforms (Issues may)
      (fun _ h' => I h' ∧ h <:+ h' ∧ Removed view h₀ key h') h) :
    ∀ {found : List Key} {h : Hist Resp}, (∀ key ∈ found, P key) → I h → h₀ <:+ h →
      (close found).Conforms (Issues may)
        (fun _ h' => I h' ∧ h <:+ h' ∧ ∀ key ∈ found, Removed view h₀ key h') h
  | [], h, _, hI, _ => by
      rw [hnil]
      exact ⟨hI, List.suffix_rfl, fun _ hmem => nomatch hmem⟩
  | key :: rest, h, hP, hI, hbegun => by
      rw [hcons]
      refine conforms_bind.2 ((hstep key h (hP key List.mem_cons_self) hI hbegun).mono
        fun _ h₁ hpost => ?_)
      obtain ⟨hI₁, hs₁, hrem⟩ := hpost
      refine (each_clears hnil hcons hstep (fun key' hmem => hP key' (List.mem_cons_of_mem key hmem))
        hI₁ (hbegun.trans hs₁)).mono fun _ h' hpost => ?_
      obtain ⟨hI', hs', hall⟩ := hpost
      refine ⟨hI', hs₁.trans hs', fun key' hmem => ?_⟩
      rcases List.mem_cons.1 hmem with rfl | hmem
      · exact hrem.mono hs'
      · exact hall key' hmem

/-! ### After a walk

`close_sessions`, `close_uploads` and `close_downloads` go through the keys that were found.  They
differ in what is done with a value that was removed: a session is told to stop, an upload is
synced, and a download is only where a client has left. -/

def closeSession (k : Nat) (key : Key) : Action Unit := do
  match ← call (.sessions k (.remove key)) with
  | some handle => shutdown handle
  | none => pure ()

theorem closeSessions_clears (hkeep : ∀ h c r, Clearing k P c → I h → I (⟨c, r⟩ :: h))
    (hmay : ∀ h c, I h → Clearing k P c → may h c) (hfound : ∀ key ∈ found, P key) (hI : I h)
    (hbegun : h₀ <:+ h) : (closeSessions k found).Conforms (Issues may)
      (fun _ h' => I h' ∧ h <:+ h' ∧ ∀ key ∈ found, Removed (onSessions k) h₀ key h') h := by
  refine each_clears (f := closeSession k) rfl (fun key rest => ?_)
    (fun key h hP hI hbegun => ?_) hfound hI hbegun
  · rw [closeSessions]
    refine congrArg (Prog.op _) (funext fun removed => ?_)
    cases removed <;> rfl
  · have hkey := Clearing.sessionsRemove (k := k) hP
    refine conforms_call.2 ⟨hmay _ _ hI hkey, fun removed => ?_⟩
    have hI₁ := hkeep h _ removed hkey hI
    have hrem : Removed (onSessions k) h₀ key (⟨.sessions k (.remove key), removed⟩ :: h) :=
      ⟨_, h, removed, List.suffix_rfl, hbegun, onSessions_self⟩
    cases removed with
    | none => exact ⟨hI₁, List.suffix_cons _ _, hrem⟩
    | some handle =>
        refine ⟨hmay _ _ hI₁ .stop, fun _ _ => ⟨hkeep _ _ _ .stop hI₁, ?_, hrem.mono ?_⟩⟩
        · exact (List.suffix_cons _ _).trans (List.suffix_cons _ _)
        · exact List.suffix_cons _ _

def closeUpload (k : Nat) (key : Key) : Action Unit := do
  match ← call (.uploads k (.remove key)) with
  | some upload =>
      let _ ← call (.sftp (.syncAll upload.sftpFile))
  | none => pure ()

theorem closeUploads_clears (hkeep : ∀ h c r, Clearing k P c → I h → I (⟨c, r⟩ :: h))
    (hmay : ∀ h c, I h → Clearing k P c → may h c) (hfound : ∀ key ∈ found, P key) (hI : I h)
    (hbegun : h₀ <:+ h) : (closeUploads k found).Conforms (Issues may)
      (fun _ h' => I h' ∧ h <:+ h' ∧ ∀ key ∈ found, Removed (onUploads k) h₀ key h') h := by
  refine each_clears (f := closeUpload k) rfl (fun key rest => ?_)
    (fun key h hP hI hbegun => ?_) hfound hI hbegun
  · rw [closeUploads]
    refine congrArg (Prog.op _) (funext fun removed => ?_)
    cases removed <;> rfl
  · have hkey := Clearing.uploadsRemove (k := k) hP
    refine conforms_call.2 ⟨hmay _ _ hI hkey, fun removed => ?_⟩
    have hI₁ := hkeep h _ removed hkey hI
    have hrem : Removed (onUploads k) h₀ key (⟨.uploads k (.remove key), removed⟩ :: h) :=
      ⟨_, h, removed, List.suffix_rfl, hbegun, onUploads_self⟩
    cases removed with
    | none => exact ⟨hI₁, List.suffix_cons _ _, hrem⟩
    | some upload =>
        refine conforms_call.2 ⟨hmay _ _ hI₁ .sync, fun _ =>
          ⟨hkeep _ _ _ .sync hI₁, ?_, hrem.mono ?_⟩⟩
        · exact (List.suffix_cons _ _).trans (List.suffix_cons _ _)
        · exact List.suffix_cons _ _

def closeDownload (k : Nat) (syncs : Bool) (key : Key) : Action Unit := do
  match ← call (.downloads k (.remove key)) with
  | some download =>
      if syncs then
        let _ ← call (.sftp (.syncAll download.sftpFile))
  | none => pure ()

theorem closeDownloads_clears {syncs : Bool}
    (hkeep : ∀ h c r, Clearing k P c → I h → I (⟨c, r⟩ :: h))
    (hmay : ∀ h c, I h → Clearing k P c → may h c) (hfound : ∀ key ∈ found, P key) (hI : I h)
    (hbegun : h₀ <:+ h) : (closeDownloads k syncs found).Conforms (Issues may)
      (fun _ h' => I h' ∧ h <:+ h' ∧ ∀ key ∈ found, Removed (onDownloads k) h₀ key h') h := by
  refine each_clears (f := closeDownload k syncs) rfl (fun key rest => ?_)
    (fun key h hP hI hbegun => ?_) hfound hI hbegun
  · rw [closeDownloads]
    refine congrArg (Prog.op _) (funext fun removed => ?_)
    cases removed <;> cases syncs <;> rfl
  · have hkey := Clearing.downloadsRemove (k := k) hP
    refine conforms_call.2 ⟨hmay _ _ hI hkey, fun removed => ?_⟩
    have hI₁ := hkeep h _ removed hkey hI
    have hrem : Removed (onDownloads k) h₀ key (⟨.downloads k (.remove key), removed⟩ :: h) :=
      ⟨_, h, removed, List.suffix_rfl, hbegun, onDownloads_self⟩
    cases removed with
    | none => exact ⟨hI₁, List.suffix_cons _ _, hrem⟩
    | some download =>
        cases syncs with
        | false => exact ⟨hI₁, List.suffix_cons _ _, hrem⟩
        | true =>
            refine conforms_call.2 ⟨hmay _ _ hI₁ .sync, fun _ =>
              ⟨hkeep _ _ _ .sync hI₁, ?_, hrem.mono ?_⟩⟩
            · exact (List.suffix_cons _ _).trans (List.suffix_cons _ _)
            · exact List.suffix_cons _ _

/-! ### A turn of a walk

The entry met is added to what was found if it is one to close.  If there is none left, the keys
found are removed and the task goes on with what comes after the walk. -/

theorem sweepSessions_sweeps {why : SessionSweep}
    (hkeep : ∀ h c r, Clearing why.conn P c → I h → I (⟨c, r⟩ :: h))
    (hmay : ∀ h c, I h → Clearing why.conn P c → may h c)
    (hsel : ∀ key, why.selects key = true ↔ P key)
    (hagain : ∀ visited found h, Walking P h₀ visited found h → I h →
      Q (.sweepSessions why begun visited found) h)
    (hafter : ∀ h, I h → Swept (onSessions why.conn) P h₀ h →
      why.after.Conforms (Issues may) Q h)
    (hbegins : Begins (onSessions why.conn) begun h₀) (hI : I h)
    (hw : Walking P h₀ visited found h) :
    (sweepSessions why begun visited found).Conforms (Issues may) Q h := by
  refine conforms_call.2 ⟨hmay _ _ hI .sessionsNext, fun met => ?_⟩
  have hI₁ := hkeep h (.sessions why.conn (.next begun visited)) met .sessionsNext hI
  have hw₁ := hw.mono (List.suffix_cons ⟨.sessions why.conn (.next begun visited), met⟩ h)
  cases met with
  | some entry => exact hagain _ _ _ (hw₁.meet (hsel entry.1)) hI₁
  | none =>
      refine conforms_bind.2 ((closeSessions_clears hkeep hmay
        (fun key hmem => ((hw.found_iff key).1 hmem).2) hI₁ hw₁.begun).mono fun _ h' hpost => ?_)
      exact hafter h' hpost.1 (hw.swept hbegins onSessions_self hpost.2.1 hpost.2.2)

theorem sweepUploads_sweeps {why : UploadSweep}
    (hkeep : ∀ h c r, Clearing why.conn P c → I h → I (⟨c, r⟩ :: h))
    (hmay : ∀ h c, I h → Clearing why.conn P c → may h c)
    (hsel : ∀ key upload, why.selects key upload = true ↔ P key)
    (hagain : ∀ visited found h, Walking P h₀ visited found h → I h →
      Q (.sweepUploads why begun visited found) h)
    (hafter : ∀ h, I h → Swept (onUploads why.conn) P h₀ h →
      why.after.Conforms (Issues may) Q h)
    (hbegins : Begins (onUploads why.conn) begun h₀) (hI : I h)
    (hw : Walking P h₀ visited found h) :
    (sweepUploads why begun visited found).Conforms (Issues may) Q h := by
  refine conforms_call.2 ⟨hmay _ _ hI .uploadsNext, fun met => ?_⟩
  have hI₁ := hkeep h (.uploads why.conn (.next begun visited)) met .uploadsNext hI
  have hw₁ := hw.mono (List.suffix_cons ⟨.uploads why.conn (.next begun visited), met⟩ h)
  cases met with
  | some entry => exact hagain _ _ _ (hw₁.meet (hsel entry.1 entry.2)) hI₁
  | none =>
      refine conforms_bind.2 ((closeUploads_clears hkeep hmay
        (fun key hmem => ((hw.found_iff key).1 hmem).2) hI₁ hw₁.begun).mono fun _ h' hpost => ?_)
      exact hafter h' hpost.1 (hw.swept hbegins onUploads_self hpost.2.1 hpost.2.2)

theorem sweepDownloads_sweeps {why : DownloadSweep}
    (hkeep : ∀ h c r, Clearing why.conn P c → I h → I (⟨c, r⟩ :: h))
    (hmay : ∀ h c, I h → Clearing why.conn P c → may h c)
    (hsel : ∀ key download, why.selects key download = true ↔ P key)
    (hagain : ∀ visited found h, Walking P h₀ visited found h → I h →
      Q (.sweepDownloads why begun visited found) h)
    (hafter : ∀ h, I h → Swept (onDownloads why.conn) P h₀ h →
      why.after.Conforms (Issues may) Q h)
    (hbegins : Begins (onDownloads why.conn) begun h₀) (hI : I h)
    (hw : Walking P h₀ visited found h) :
    (sweepDownloads why begun visited found).Conforms (Issues may) Q h := by
  refine conforms_call.2 ⟨hmay _ _ hI .downloadsNext, fun met => ?_⟩
  have hI₁ := hkeep h (.downloads why.conn (.next begun visited)) met .downloadsNext hI
  have hw₁ := hw.mono (List.suffix_cons ⟨.downloads why.conn (.next begun visited), met⟩ h)
  cases met with
  | some entry => exact hagain _ _ _ (hw₁.meet (hsel entry.1 entry.2)) hI₁
  | none =>
      refine conforms_bind.2 ((closeDownloads_clears hkeep hmay
        (fun key hmem => ((hw.found_iff key).1 hmem).2) hI₁ hw₁.begun).mono fun _ h' hpost => ?_)
      exact hafter h' hpost.1 (hw.swept hbegins onDownloads_self hpost.2.1 hpost.2.2)

end Sweeps

end Phirepass.Agent
