/-
# `Phirepass.Agent.Disconnect` — what a client leaves behind on an agent

On `ConnectionDisconnect` the reader closes the client's sessions, then its
uploads, then its downloads.  Each of the three walks finds every entry that
was there when it began and removes it, and touches no other client's.

    sessions     are entered by the reader itself, on an `OpenTunnel`
    uploads      are entered by SFTP tunnels, at the end of `start_upload`
    downloads    by the same, at the end of `start_download`

So an entry survives if it comes after its walk has begun, and the tunnels do
not look whether their client has left: one that is in `start_upload` when
its client disconnects enters an upload that nobody removes for the client.
-/
import Phirepass.Agent.Sessions
import Phirepass.Agent.Walks

namespace Phirepass.Agent

open Rust Interleave

/-! ## The handling of a disconnect -/

/-- The frame the reader has read last. -/
def lastFrame : Hist Resp → Option NodeFrameData
  | [] => none
  | ⟨.ws _ .next, m⟩ :: _ => m.nodeFrame?
  | _ :: h => lastFrame h

/-- The entry is the client's. -/
def OfClient (cid : Uuid) (key : Key) : Prop := key.1 = cid

/-- `close_tunnels_for_cid` has begun its walk. -/
def ClosesSessions (k : Nat) (cid : Uuid) (h : Hist Resp) : Prop :=
  ∃ begun h', ⟨.sessions k .keys, begun⟩ :: h' <:+ h ∧
    lastFrame h' = some (.connectionDisconnect cid)

/-- `close_uploads_for_cid` has. -/
def ClosesUploads (k : Nat) (cid : Uuid) (h : Hist Resp) : Prop :=
  ∃ begun h', ⟨.uploads k .keys, begun⟩ :: h' <:+ h ∧
    lastFrame h' = some (.connectionDisconnect cid)

/-- `close_downloads_for_cid` has. -/
def ClosesDownloads (k : Nat) (cid : Uuid) (h : Hist Resp) : Prop :=
  ∃ begun h', ⟨.downloads k .keys, begun⟩ :: h' <:+ h ∧
    lastFrame h' = some (.connectionDisconnect cid)

/-- Nothing comes for a client behind its disconnect: nothing is entered into a map that is being,
or has been, cleared of the client's.  A session is entered for an `OpenTunnel` whose credentials
are accepted, an upload or a download by an SFTP tunnel. -/
structure NothingLate (k : Nat) (cid : Uuid) (w : World State Tid Resp) (_ : Tid) (c : Cmd)
    (_ : Resp c) : Prop where
  sessions : ∀ key handle, c = .sessions k (.insert key handle) → key.1 = cid →
    ¬ ClosesSessions k cid (own (.reader k) w.trace)
  uploads : ∀ key upload, c = .uploads k (.insert key upload) → key.1 = cid →
    ¬ ClosesUploads k cid (own (.reader k) w.trace)
  downloads : ∀ key download, c = .downloads k (.insert key download) → key.1 = cid →
    ¬ ClosesDownloads k cid (own (.reader k) w.trace)

/-- Nothing of the client is left on connection `k`. -/
structure Gone (k : Nat) (cid : Uuid) (s : State) : Prop where
  sessions : ∀ sid, (s.sessions k).lookup (cid, sid) = none
  uploads : ∀ id, (s.uploads k).lookup (cid, id) = none
  downloads : ∀ id, (s.downloads k).lookup (cid, id) = none

/-- The entry stands in both states the same. -/
structure Unchanged (j : Nat) (key : Key) (s s' : State) : Prop where
  sessions : (s'.sessions j).lookup key = (s.sessions j).lookup key
  uploads : (s'.uploads j).lookup key = (s.uploads j).lookup key
  downloads : (s'.downloads j).lookup key = (s.downloads j).lookup key

/-- While it handles `ConnectionDisconnect{cid}`, the reader changes no one else's entries. -/
def SparesOthers (S : Setup) (k : Nat) (cid : Uuid) (tr : List (Ev Tid Resp)) : Prop :=
  ∀ c r past, ⟨.reader k, c, r⟩ :: past <:+ tr →
    lastFrame (own (.reader k) past) = some (.connectionDisconnect cid) →
    ∀ o s s', exec S (.reader k) c o s = some (r, s') →
      ∀ j key, ¬ (j = k ∧ key.1 = cid) → Unchanged j key s s'

/-! ## The reader, while it clears -/

/-- One of the three maps is swept of the client's entries. -/
def SweptFor {V : Type} (view : (c : Cmd) → Resp c → Option (Answer Key V)) (cid : Uuid)
    (h : Hist Resp) : Prop :=
  ∃ h₀, lastFrame h₀ = some (.connectionDisconnect cid) ∧ Swept view (OfClient cid) h₀ h

/-- It is being swept. -/
def WalkingFor {V : Type} (view : (c : Cmd) → Resp c → Option (Answer Key V)) (cid : Uuid)
    (begun visited found : List Key) (h : Hist Resp) : Prop :=
  lastFrame h = some (.connectionDisconnect cid) ∧
    ∃ h₀, lastFrame h₀ = some (.connectionDisconnect cid) ∧ Begins view begun h₀ ∧
      Walking (OfClient cid) h₀ visited found h

/-- All three are swept. -/
structure Cleared (k : Nat) (cid : Uuid) (h : Hist Resp) : Prop where
  sessions : SweptFor (onSessions k) cid h
  uploads : SweptFor (onUploads k) cid h
  downloads : SweptFor (onDownloads k) cid h

/-- What the reader issues behind a `ConnectionDisconnect`. -/
def ClearsFor (k : Nat) (h : Hist Resp) (c : Cmd) : Prop :=
  ∀ cid, lastFrame h = some (.connectionDisconnect cid) →
    c = .ws k .next ∨ Clearing k (OfClient cid) c

/-- What it has achieved at each of its labels. -/
def ReaderClears (k : Nat) : Label → Hist Resp → Prop
  | .reader j, h => j = k ∧ lastFrame h = none
  | .reading j, h => j = k ∧ ∀ cid, lastFrame h = some (.connectionDisconnect cid) → Cleared k cid h
  | .sweepSessions (.disconnect j cid) begun visited found, h =>
      j = k ∧ WalkingFor (onSessions k) cid begun visited found h
  | .sweepUploads (.disconnect j cid) begun visited found, h =>
      j = k ∧ WalkingFor (onUploads k) cid begun visited found h ∧ SweptFor (onSessions k) cid h
  | .sweepDownloads (.disconnect j cid) begun visited found, h =>
      j = k ∧ WalkingFor (onDownloads k) cid begun visited found h ∧
        SweptFor (onSessions k) cid h ∧ SweptFor (onUploads k) cid h
  | .done, _ => True
  | _, _ => False

/-- The command reads from the socket. -/
def Cmd.isRead : Cmd → Bool
  | .ws _ .next => true
  | _ => false

/-- It is the reader's own, and not for the frame it has read. -/
def Cmd.isLoop : Cmd → Bool
  | .ws _ .next | .started _ | .ended _ | .finish => true
  | _ => false

/-- What the reader issues for a frame that is not a disconnect: nothing of its own loop, and a
stop signal only for the session that a new one has replaced. -/
inductive Handles : Hist Resp → Cmd → Prop
  | aside {h : Hist Resp} {c : Cmd} (hloop : c.isLoop = false := by rfl)
      (hstop : ∀ t, c ≠ .stop t := by simp) : Handles h c
  | replaced {h : Hist Resp} {k : Nat} {key : Key} {handle prev : SessionHandle} :
      Handles (⟨.sessions k (.insert key handle), some prev⟩ :: h) (.stop prev.task)

section Reader

open Prog

variable {S : Setup} {k : Nat} {cid : Uuid} {h h' : Hist Resp}

theorem lastFrame_cons {c : Cmd} {r : Resp c} (hc : c.isRead = false) :
    lastFrame (⟨c, r⟩ :: h) = lastFrame h := by
  cases c with
  | ws k op =>
      cases op with
      | next => cases hc
      | connect | send => rfl
  | _ => rfl

theorem Clearing.isRead {P : Key → Prop} {c : Cmd} (hc : Clearing k P c) : c.isRead = false := by
  cases hc <;> rfl

theorem SweptFor.mono {V : Type} {view : (c : Cmd) → Resp c → Option (Answer Key V)}
    (hs : h <:+ h') (hw : SweptFor view cid h) : SweptFor view cid h' := by
  obtain ⟨h₀, hlast, hswept⟩ := hw
  exact ⟨h₀, hlast, hswept.mono hs⟩

theorem Cmd.isRead_of_isLoop {c : Cmd} (hc : c.isLoop = false) : c.isRead = false := by
  cases c with
  | ws k op =>
      cases op with
      | next => cases hc
      | connect | send => rfl
  | _ => rfl

theorem Handles.isLoop {c : Cmd} (hc : Handles h c) : c.isLoop = false := by
  cases hc with
  | aside hloop _ => exact hloop
  | replaced => rfl

/-! ### Frames that do not read on -/

theorem ensureCredentials_quiet {username password : Option String} {msgId : Option UInt32} :
    (ensureCredentials S k cid username password msgId).Conforms
      (Issues Handles) (fun _ _ => True) h := by
  unfold ensureCredentials
  split
  · exact conforms_call.2 ⟨.aside, fun _ => trivial⟩
  · split
    · split
      · exact conforms_call.2 ⟨.aside, fun _ => trivial⟩
      · trivial
    · trivial

theorem expect_quiet {α : Type} {message : String} {found : Option α} :
    (expect message found).Conforms (Issues Handles) (fun _ _ => True) h := by
  cases found with
  | none => exact conforms_call.2 ⟨.aside, fun never => nomatch never⟩
  | some a => trivial

theorem configAuth_quiet {username password : Option String} :
    (configAuth S username password).Conforms (Issues Handles)
      (fun _ _ => True) h := by
  unfold configAuth
  split
  · exact conforms_bind.2 (expect_quiet.mono fun _ _ _ =>
      conforms_bind.2 (expect_quiet.mono fun _ _ _ => trivial))
  · exact conforms_bind.2 (expect_quiet.mono fun _ _ _ => trivial)

theorem startTunnel_quiet {p : Protocol} {handle : Nat → SessionHandle} {auth : ConfigAuth}
    {msgId : Option UInt32} :
    (startTunnel S k p handle cid auth msgId).Conforms (Issues Handles)
      (fun _ _ => True) h := by
  refine conforms_call.2 ⟨.aside, fun sid => conforms_call.2 ⟨.aside, fun t => ?_⟩⟩
  refine conforms_call.2 ⟨.aside, fun prev => ?_⟩
  cases prev with
  | none => trivial
  | some prev => exact ⟨.replaced, fun _ _ => trivial⟩

theorem openTunnel_quiet {protocol : UInt8} {username password : Option String}
    {msgId : Option UInt32} :
    (openTunnel S k protocol cid username password msgId).Conforms
      (Issues Handles) (fun _ _ => True) h := by
  refine conforms_bind.2 (ensureCredentials_quiet.mono fun res h' _ => ?_)
  cases res with
  | error err => trivial
  | ok _ =>
      simp only []
      split
      · exact conforms_bind.2 (configAuth_quiet.mono fun _ _ _ => startTunnel_quiet)
      · exact conforms_bind.2 (configAuth_quiet.mono fun _ _ _ => startTunnel_quiet)
      · trivial
      · exact conforms_call.2 ⟨.aside, fun never => nomatch never⟩

theorem sendSsh_quiet {sid : UInt32} {cmd : SSHCommand} :
    (sendSsh k cid sid cmd).Conforms (Issues Handles) (fun _ _ => True) h := by
  refine conforms_call.2 ⟨.aside, fun found => ?_⟩
  match found with
  | none | some (.sftp _) => trivial
  | some (.ssh t) =>
      refine conforms_call.2 ⟨.aside, fun sent => ?_⟩
      cases sent <;> trivial

theorem sendSftp_quiet {sid : UInt32} {cmd : SFTPCommand} :
    (sendSftp k cid sid cmd).Conforms (Issues Handles) (fun _ _ => True) h := by
  refine conforms_call.2 ⟨.aside, fun found => ?_⟩
  match found with
  | none | some (.ssh _) => trivial
  | some (.sftp t) =>
      refine conforms_call.2 ⟨.aside, fun sent => ?_⟩
      cases sent <;> trivial

/-- Any other frame is dealt with before the reader reads on. -/
theorem handleMessage_quiet {g : NodeFrameData} (hg : ∀ cid, g ≠ .connectionDisconnect cid) :
    (handleMessage S k g).Conforms (Issues Handles)
      (fun l _ => l = .reading k) h := by
  cases g with
  | connectionDisconnect cid => exact absurd rfl (hg cid)
  | openTunnel => exact conforms_bind.2 (openTunnel_quiet.mono fun _ _ _ => rfl)
  | heartbeatAck => exact conforms_call.2 ⟨.aside, fun _ => conforms_call.2 ⟨.aside, fun _ => rfl⟩⟩
  | sshWindowResize => exact conforms_bind.2 (sendSsh_quiet.mono fun _ _ _ => rfl)
  | tunnelData =>
      rw [handleMessage]
      split
      · exact conforms_bind.2 (sendSsh_quiet.mono fun _ _ _ => rfl)
      · exact rfl
  | sftpList | sftpUploadStart | sftpUpload | sftpDownloadStart | sftpDownloadChunkRequest
  | sftpDownloadChunk | sftpDelete =>
      exact conforms_bind.2 (sendSftp_quiet.mono fun _ _ _ => rfl)
  | heartbeat | auth | authResponse | tunnelOpened | tunnelClosed | webFrame => exact rfl

/-! ### The labels of the reader -/

/-- Behind anything but a disconnect, nothing is asked of the reader. -/
theorem clearsFor_of_ne {c : Cmd} (hh : ∀ cid, lastFrame h ≠ some (.connectionDisconnect cid)) :
    ClearsFor k h c := fun cid hlast => absurd hlast (hh cid)

theorem endTask_clears (hh : ∀ cid, lastFrame h ≠ some (.connectionDisconnect cid)) :
    (endTask k).Conforms (Issues (ClearsFor k)) (ReaderClears k) h :=
  conforms_call.2 ⟨clearsFor_of_ne hh, fun _ => conforms_call.2 ⟨clearsFor_of_ne hh, fun _ => trivial⟩⟩

theorem read_clears :
    (read S k).Conforms (Issues (ClearsFor k)) (ReaderClears k) h := by
  refine conforms_call.2 ⟨fun _ _ => .inl rfl, fun m => ?_⟩
  have hnone {m : Incoming} (hm : m.nodeFrame? = none) (cid : Uuid) :
      lastFrame (⟨.ws k .next, m⟩ :: h) ≠ some (.connectionDisconnect cid) := by
    rw [lastFrame, hm]
    exact fun hc => nomatch hc
  match m with
  | some (.ok (.binary (.ok ⟨_, _, .node g⟩))) =>
      by_cases hg : ∃ cid, g = .connectionDisconnect cid
      · obtain ⟨cid, rfl⟩ := hg
        refine conforms_call.2 ⟨fun cid' hlast => ?_, fun begun => ?_⟩
        · exact .inr .sessionsKeys
        · exact ⟨rfl, rfl, _, rfl, ⟨_, _, rfl, onSessions_self⟩, .start List.suffix_rfl⟩
      · have hother : ∀ cid, g ≠ .connectionDisconnect cid := fun cid hc => hg ⟨cid, hc⟩
        refine conforms_weaken (fun h' c hc => ?_) (((handleMessage_quiet hother).along
          (I := fun h' => lastFrame h' = some g) (fun h' c r hc hlast => ?_) rfl).mono
            fun l h' hpost => ?_)
        · refine clearsFor_of_ne fun cid hlast => ?_
          rw [hc.2] at hlast
          cases hlast
          exact hother cid rfl
        · rw [lastFrame_cons (Cmd.isRead_of_isLoop hc.isLoop), hlast]
        · obtain ⟨rfl, hlast⟩ := hpost
          refine ⟨rfl, fun cid hc => ?_⟩
          rw [hlast] at hc
          cases hc
          exact absurd rfl (hother cid)
  | some (.error ()) | some (.ok .other) => exact ⟨rfl, fun cid hc => absurd hc (hnone rfl cid)⟩
  | none | some (.ok .close) | some (.ok (.binary (.error _)))
  | some (.ok (.binary (.ok ⟨_, _, .web _⟩))) => exact endTask_clears (hnone rfl)

/-- Behind a disconnect, a walk over one of the maps and the removals are what is asked. -/
theorem clearsFor_of_clearing {c : Cmd} (hlast : lastFrame h = some (.connectionDisconnect cid))
    (hc : Clearing k (OfClient cid) c) : ClearsFor k h c := by
  intro cid' hlast'
  rw [hlast] at hlast'
  cases hlast'
  exact .inr hc

/-- Each of the three walks is begun where the one before is over. -/
theorem WalkingFor.begin {V : Type} {view : (c : Cmd) → Resp c → Option (Answer Key V)} {c : Cmd}
    {r : Resp c} {begun : List Key} (hlast : lastFrame h = some (.connectionDisconnect cid))
    (hc : c.isRead = false) (hkeys : view c r = some ⟨.keys, begun⟩) :
    WalkingFor view cid begun [] [] (⟨c, r⟩ :: h) := by
  have hlast' : lastFrame (⟨c, r⟩ :: h) = some (.connectionDisconnect cid) := by
    rw [lastFrame_cons hc, hlast]
  exact ⟨hlast', _, hlast', ⟨_, _, rfl, hkeys⟩, .start List.suffix_rfl⟩

/-- **The reader clears.**  Its task knows what `ReaderClears` says at each of its labels. -/
theorem reader_clears (l : Label) (hat : ReaderClears k l h) :
    (body S l).Conforms (Issues (ClearsFor k)) (ReaderClears k) h := by
  have hkeep {h : Hist Resp} {cid : Uuid} {c : Cmd} {r : Resp c} (hc : Clearing k (OfClient cid) c)
      (hlast : lastFrame h = some (.connectionDisconnect cid)) :
      lastFrame (⟨c, r⟩ :: h) = some (.connectionDisconnect cid) := by
    rw [lastFrame_cons hc.isRead, hlast]
  cases l with
  | reader j =>
      obtain ⟨rfl, hnone⟩ := hat
      have hne : ∀ cid, lastFrame h ≠ some (.connectionDisconnect cid) := by
        rw [hnone]
        exact fun cid hc => nomatch hc
      refine conforms_call.2 ⟨clearsFor_of_ne hne, fun _ => ⟨rfl, fun cid hlast => ?_⟩⟩
      rw [lastFrame_cons rfl, hnone] at hlast
      cases hlast
  | reading j =>
      obtain ⟨rfl, -⟩ := hat
      exact read_clears
  | sweepSessions why begun visited found =>
      cases why with
      | disconnect j cid =>
          obtain ⟨rfl, hlast, h₀, hlast₀, hbegins, hw⟩ := hat
          refine sweepSessions_sweeps (P := OfClient cid)
            (I := fun h => lastFrame h = some (.connectionDisconnect cid))
            (fun _ _ _ hc hlast => hkeep hc hlast)
            (fun _ _ hlast hc => clearsFor_of_clearing hlast hc) (fun _ => beq_iff_eq)
            (fun _ _ _ hw hlast => ⟨rfl, hlast, h₀, hlast₀, hbegins, hw⟩)
            (fun h hlast hs => ?_) hbegins hlast hw
          refine conforms_call.2 ⟨clearsFor_of_clearing hlast .uploadsKeys, fun begun => ?_⟩
          have hswept : SweptFor (onSessions j) cid h := ⟨h₀, hlast₀, hs⟩
          exact ⟨rfl, .begin hlast rfl onUploads_self, hswept.mono (List.suffix_cons _ _)⟩
      | _ => exact hat.elim
  | sweepUploads why begun visited found =>
      cases why with
      | disconnect j cid =>
          obtain ⟨rfl, ⟨hlast, h₀, hlast₀, hbegins, hw⟩, hsessions⟩ := hat
          refine sweepUploads_sweeps (P := OfClient cid)
            (I := fun h => lastFrame h = some (.connectionDisconnect cid) ∧
              SweptFor (onSessions j) cid h)
            (fun _ _ _ hc hI => ⟨hkeep hc hI.1, hI.2.mono (List.suffix_cons _ _)⟩)
            (fun _ _ hI hc => clearsFor_of_clearing hI.1 hc) (fun _ _ => beq_iff_eq)
            (fun _ _ _ hw hI => ⟨rfl, ⟨hI.1, h₀, hlast₀, hbegins, hw⟩, hI.2⟩)
            (fun h hI hs => ?_) hbegins ⟨hlast, hsessions⟩ hw
          refine conforms_call.2 ⟨clearsFor_of_clearing hI.1 .downloadsKeys, fun begun => ?_⟩
          have hswept : SweptFor (onUploads j) cid h := ⟨h₀, hlast₀, hs⟩
          exact ⟨rfl, .begin hI.1 rfl onDownloads_self, hI.2.mono (List.suffix_cons _ _),
            hswept.mono (List.suffix_cons _ _)⟩
      | _ => exact hat.elim
  | sweepDownloads why begun visited found =>
      cases why with
      | disconnect j cid =>
          obtain ⟨rfl, ⟨hlast, h₀, hlast₀, hbegins, hw⟩, hsessions, huploads⟩ := hat
          refine sweepDownloads_sweeps (P := OfClient cid)
            (I := fun h => lastFrame h = some (.connectionDisconnect cid) ∧
              SweptFor (onSessions j) cid h ∧ SweptFor (onUploads j) cid h)
            (fun _ _ _ hc hI => ⟨hkeep hc hI.1, hI.2.1.mono (List.suffix_cons _ _),
              hI.2.2.mono (List.suffix_cons _ _)⟩)
            (fun _ _ hI hc => clearsFor_of_clearing hI.1 hc) (fun _ _ => beq_iff_eq)
            (fun _ _ _ hw hI => ⟨rfl, ⟨hI.1, h₀, hlast₀, hbegins, hw⟩, hI.2⟩)
            (fun h hI hs => ⟨rfl, fun cid' hc => ?_⟩) hbegins ⟨hlast, hsessions, huploads⟩ hw
          rw [hI.1] at hc
          cases hc
          exact ⟨hI.2.1, hI.2.2, h₀, hlast₀, hs⟩
      | _ => exact hat.elim
  | done => trivial
  | _ => exact hat.elim

end Reader

/-! ## Along a run -/

/-- The rules on the readers. -/
def clearingRules : Tid → Rules Resp
  | .reader k => Issues (ClearsFor k)
  | _ => Issues fun _ _ => True

def ClearingAt : Tid → Label → Hist Resp → Prop
  | .reader k => ReaderClears k
  | _ => fun _ _ => True

section Runs

variable {S : Setup} {A : Restriction} {cfg cfg' : Config State Tid Resp Label} {k : Nat}
  {cid : Uuid}

theorem clearing_follows : (machine S).Follows clearingRules ClearingAt start where
  body i l h hat := by
    cases i with
    | reader k => exact reader_clears l hat
    | _ => exact Prog.conforms_does.mono fun _ _ _ => trivial
  start i := by
    cases i with
    | reader k => exact ⟨rfl, rfl⟩
    | _ => trivial

theorem clearingRules_hears {i : Tid} {h : Hist Resp} {c : Cmd} {r : Resp c} :
    (clearingRules i).hears h c r := by
  cases i <;> trivial

/-- Where the reader reads on behind a disconnect, all three maps are swept. -/
theorem cleared_of_ret (hr : (machine S).Reach A start cfg)
    (hl : cfg.threads (.reader k) = .ret (.reading k))
    (hlast : lastFrame (own (.reader k) cfg.world.trace) = some (.connectionDisconnect cid)) :
    Cleared k cid (own (.reader k) cfg.world.trace) := by
  have hat := hr.conforms clearing_follows (fun _ _ _ _ _ => clearingRules_hears) (.reader k)
  rw [hl] at hat
  exact hat.2 cid hlast

theorem clearsFor_of_event (hr : (machine S).Reach A start cfg) {c : Cmd} {r : Resp c}
    {past : List (Ev Tid Resp)} (hs : ⟨.reader k, c, r⟩ :: past <:+ cfg.world.trace) :
    ClearsFor k (own (.reader k) past) c := by
  have hev := hr.events clearing_follows (fun _ _ _ _ _ => clearingRules_hears)
    (fun past e => (clearingRules e.tid).may (own e.tid past) e.cmd) rfl ?_ _ past hs
  · exact hev
  · exact fun cfg i c o r s _ hmay _ _ => hmay

/-! ### Other clients -/

theorem Clearing.unchanged {P : Key → Prop} {c : Cmd} {r : Resp c} {i : Tid} {o : Choice}
    {s s' : State} {j : Nat} {key : Key} (hc : Clearing k P c) (hkey : ¬ (j = k ∧ P key))
    (hexec : exec S i c o s = some (r, s')) : Unchanged j key s s' := by
  have heff := exec_effect (i := i) hexec
  have hother {V : Type} (m : Nat → DashMap Key V) (op : MapOp Key V) (hop : op.Clears P) :
      (Function.update m k (op.apply (m k)) j).lookup key = (m j).lookup key := by
    by_cases hj : j = k
    · subst hj
      rw [Function.update_self]
      exact MapOp.lookup_of_clears hop fun hP => hkey ⟨rfl, hP⟩
    · rw [Function.update_of_ne hj]
  refine ⟨?_, ?_, ?_⟩
  · rw [heff.sessions]
    cases hc with
    | sessionsKeys | sessionsNext => exact hother _ _ trivial
    | sessionsRemove hP => exact hother _ _ hP
    | _ => rfl
  · rw [heff.uploads]
    cases hc with
    | uploadsKeys | uploadsNext => exact hother _ _ trivial
    | uploadsRemove hP => exact hother _ _ hP
    | _ => rfl
  · rw [heff.downloads]
    cases hc with
    | downloadsKeys | downloadsNext => exact hother _ _ trivial
    | downloadsRemove hP => exact hother _ _ hP
    | _ => rfl

/-- The handling of a disconnect is about one client. -/
theorem spares_others (hr : (machine S).Reach A start cfg) :
    SparesOthers S k cid cfg.world.trace := by
  intro c r past hs hlast o s s' hexec j key hkey
  rcases clearsFor_of_event hr hs cid hlast with rfl | hc
  · cases hexec
    exact ⟨rfl, rfl, rfl⟩
  · exact hc.unchanged hkey hexec

/-! ### The client -/

/-- Nothing late, so nothing left. -/
theorem gone_of_cleared (hr : (machine S).Reach (NothingLate k cid) start cfg)
    (hc : Cleared k cid (own (.reader k) cfg.world.trace)) : Gone k cid cfg.world.state := by
  refine ⟨fun sid => ?_, fun id => ?_, fun id => ?_⟩
  · obtain ⟨h₀, hlast, hswept⟩ := hc.sessions
    obtain ⟨hstate, hans⟩ := sessions_answered hr k
    rw [hstate]
    refine absent_of_swept hans hswept (fun e past key v r hs hview hkey hbegun => ?_) rfl
    obtain ⟨j, c, r'⟩ := e
    cases eq_of_onSessions hview
    obtain ⟨w, rfl, hA⟩ := hr.allowed rfl hs
    obtain ⟨begun, visited, ⟨e₀, h, rfl, hkeys⟩, -⟩ := hswept
    obtain ⟨c₀, r₀⟩ := e₀
    cases eq_of_onSessions hkeys
    exact hA.sessions key v rfl hkey ⟨begun, h, hbegun, hlast⟩
  · obtain ⟨h₀, hlast, hswept⟩ := hc.uploads
    obtain ⟨hstate, hans⟩ := uploads_answered hr k
    rw [hstate]
    refine absent_of_swept hans hswept (fun e past key v r hs hview hkey hbegun => ?_) rfl
    obtain ⟨j, c, r'⟩ := e
    cases eq_of_onUploads hview
    obtain ⟨w, rfl, hA⟩ := hr.allowed rfl hs
    obtain ⟨begun, visited, ⟨e₀, h, rfl, hkeys⟩, -⟩ := hswept
    obtain ⟨c₀, r₀⟩ := e₀
    cases eq_of_onUploads hkeys
    exact hA.uploads key v rfl hkey ⟨begun, h, hbegun, hlast⟩
  · obtain ⟨h₀, hlast, hswept⟩ := hc.downloads
    obtain ⟨hstate, hans⟩ := downloads_answered hr k
    rw [hstate]
    refine absent_of_swept hans hswept (fun e past key v r hs hview hkey hbegun => ?_) rfl
    obtain ⟨j, c, r'⟩ := e
    cases eq_of_onDownloads hview
    obtain ⟨w, rfl, hA⟩ := hr.allowed rfl hs
    obtain ⟨begun, visited, ⟨e₀, h, rfl, hkeys⟩, -⟩ := hswept
    obtain ⟨c₀, r₀⟩ := e₀
    cases eq_of_onDownloads hkeys
    exact hA.downloads key v rfl hkey ⟨begun, h, hbegun, hlast⟩

/-- **A client that left is gone.**  Once the reader is back from a `ConnectionDisconnect`, and
as long as nothing comes late for that client, no state reached has a session, an upload or a
download of it; and no step of the handling touched an entry of anyone else. -/
theorem disconnect_leaves_nothing (hr : (machine S).Reach (NothingLate k cid) start cfg)
    (hdone : cfg.threads (.reader k) = .ret (.reading k))
    (hlast : lastFrame (own (.reader k) cfg.world.trace) = some (.connectionDisconnect cid))
    (hlater : (machine S).Reach (NothingLate k cid) cfg cfg') :
    Gone k cid cfg'.world.state ∧ SparesOthers S k cid cfg'.world.trace := by
  have hr' := hr.trans hlater
  obtain ⟨hsessions, huploads, hdownloads⟩ := cleared_of_ret hr hdone hlast
  have hs := own_suffix (.reader k) hlater.trace_suffix
  exact ⟨gone_of_cleared hr' ⟨hsessions.mono hs, huploads.mono hs, hdownloads.mono hs⟩,
    spares_others hr'⟩

end Runs

/-! ## An upload that comes late -/

/-- The reader is back in its loop. -/
def backInLoop (k : Nat) (cfg : Config State Tid Resp Label) : Bool :=
  match cfg.threads (.reader k) with
  | .ret (.reading j) => decide (j = k)
  | _ => false

theorem threads_of_backInLoop {k : Nat} {cfg : Config State Tid Resp Label}
    (h : backInLoop k cfg = true) : cfg.threads (.reader k) = .ret (.reading k) := by
  unfold backInLoop at h
  split at h
  · next hl =>
      rw [of_decide_eq_true h] at hl
      exact hl
  · cases h

/-- Some socket has brought a `ConnectionDisconnect`. -/
def heardAny (tr : List (Ev Tid Resp)) : Bool :=
  tr.any fun e =>
    match e.cmd, e.resp with
    | .ws _ .next, m =>
        match m.nodeFrame? with
        | some (.connectionDisconnect _) => true
        | _ => false
    | _, _ => false

/-- Behind any disconnect, nothing is entered. -/
def nothingLate (w : World State Tid Resp) (_ : Tid) (c : Cmd) (_ : Resp c) : Bool :=
  match c with
  | .sessions _ (.insert _ _) | .uploads _ (.insert _ _) | .downloads _ (.insert _ _) =>
      !heardAny w.trace
  | _ => true

theorem heardAny_of_mem {tr : List (Ev Tid Resp)} {i : Tid} {j : Nat} {cid : Uuid} {m : Incoming}
    (hmem : (⟨i, .ws j .next, m⟩ : Ev Tid Resp) ∈ tr)
    (hm : m.nodeFrame? = some (.connectionDisconnect cid)) : heardAny tr = true := by
  refine List.any_eq_true.2 ⟨_, hmem, ?_⟩
  simp only [hm]

theorem heardAny_of_closes {tr : List (Ev Tid Resp)} {i : Tid} {cid : Uuid} {e : Sigma Resp}
    {h : Hist Resp} (hs : e :: h <:+ own i tr) (hlast : lastFrame h = some (.connectionDisconnect cid)) :
    heardAny tr = true := by
  replace hs := (List.suffix_cons _ _).trans hs
  clear e
  induction h with
  | nil => cases hlast
  | cons e h ih =>
      obtain ⟨c, r⟩ := e
      by_cases hc : c.isRead = false
      · rw [lastFrame_cons hc] at hlast
        exact ih hlast ((List.suffix_cons _ _).trans hs)
      · cases c with
        | ws j op =>
            cases op with
            | next => exact heardAny_of_mem (mem_own.1 (hs.subset List.mem_cons_self)) hlast
            | connect | send => exact absurd rfl hc
        | _ => exact absurd rfl hc

theorem nothingLate_sound (k : Nat) (cid : Uuid) (w : World State Tid Resp) (i : Tid) (c : Cmd)
    (r : Resp c) (h : nothingLate w i c r = true) : NothingLate k cid w i c r := by
  refine ⟨?_, ?_, ?_⟩
  · rintro key handle rfl - ⟨begun, h', hs, hlast⟩
    simp only [nothingLate, heardAny_of_closes hs hlast, Bool.not_true, Bool.false_eq_true] at h
  · rintro key upload rfl - ⟨begun, h', hs, hlast⟩
    simp only [nothingLate, heardAny_of_closes hs hlast, Bool.not_true, Bool.false_eq_true] at h
  · rintro key download rfl - ⟨begun, h', hs, hlast⟩
    simp only [nothingLate, heardAny_of_closes hs hlast, Bool.not_true, Bool.false_eq_true] at h

/-- The reader is told that client `77` is gone, and closes its session and `n` uploads. -/
def sayGoodbye (uploads : List Key) : List (Tid × Choice) :=
  [(.reader 0, fromServer (.connectionDisconnect 77))] ++ idle (.reader 0) 2 ++
    [(.reader 0, { pick := some (77, 1) })] ++ idle (.reader 0) 6 ++
    uploads.flatMap (fun key => (.reader 0, { pick := some key }) :: idle (.reader 0) 1) ++
    idle (.reader 0) 1 ++ uploads.flatMap (fun _ => idle (.reader 0) 2) ++ idle (.reader 0) 3

/-- Client `77` opens an SFTP tunnel and starts an upload; the host has opened the file. -/
def startOfUpload : List (Tid × Choice) :=
  login 0 ++ request 0 .sftp 77 ++ comeUp 0 ++
    deliver 0 (.sftpUploadStart 77 1 (some 2) ⟨"notes.txt", "/srv", 2, 4⟩) ++
    obey 0 4 ++ [(.tunnel 0, { file := 5 })]

/-- The reader is back from the disconnect of client `77`. -/
def saidGoodbye (cfg : Config State Tid Resp Label) : Bool :=
  backInLoop 0 cfg &&
    decide (lastFrame (own (.reader 0) cfg.world.trace) = some (.connectionDisconnect 77))

theorem disconnect_leaves_nothing_of_upload :
    ∃ cfg, (machine (sample fun _ => 0)).Reach (NothingLate 0 77) start cfg ∧
      lastFrame (own (.reader 0) cfg.world.trace) = some (.connectionDisconnect 77) ∧
      Gone 0 77 cfg.world.state ∧ SparesOthers (sample fun _ => 0) 0 77 cfg.world.trace := by
  have hrun : ((machine (sample fun _ => 0)).run nothingLate
      (startOfUpload ++ idle (.tunnel 0) 5 ++ sayGoodbye [(77, 1)]) start).any saidGoodbye = true := by
    decide +kernel
  obtain ⟨cfg, hr, hend⟩ := Machine.reach_of_run (nothingLate_sound 0 77) hrun
  rw [saidGoodbye, Bool.and_eq_true, decide_eq_true_eq] at hend
  exact ⟨cfg, hr, hend.2,
    disconnect_leaves_nothing hr (threads_of_backInLoop hend.1) hend.2 .refl⟩

/-- The upload is entered behind the disconnect, and stays. -/
theorem late_upload_stays :
    ¬ ∀ cfg cfg', (machine (sample fun _ => 0)).Reach Free start cfg →
      cfg.threads (.reader 0) = .ret (.reading 0) →
      lastFrame (own (.reader 0) cfg.world.trace) = some (.connectionDisconnect 77) →
      (machine (sample fun _ => 0)).Reach Free cfg cfg' → Gone 0 77 cfg'.world.state := by
  intro hgone
  have hrun : ((machine (sample fun _ => 0)).run (fun _ _ _ _ => true)
      (startOfUpload ++ sayGoodbye []) start).any (fun cfg => saidGoodbye cfg &&
        ((machine (sample fun _ => 0)).run (fun _ _ _ _ => true) (idle (.tunnel 0) 5) cfg).any
          fun cfg' => ((cfg'.world.state.uploads 0).lookup (77, 1)).isSome) = true := by
    decide +kernel
  obtain ⟨cfg, hr, hend⟩ := Machine.reach_of_run (A := Free) (fun _ _ _ _ _ => trivial) hrun
  rw [Bool.and_eq_true, saidGoodbye, Bool.and_eq_true, decide_eq_true_eq] at hend
  obtain ⟨cfg', hr', hupload⟩ : ∃ cfg', (machine (sample fun _ => 0)).Reach Free cfg cfg' ∧
      ((cfg'.world.state.uploads 0).lookup (77, 1)).isSome = true :=
    Machine.reach_of_run (fun _ _ _ _ _ => trivial) hend.2
  have hnone := (hgone cfg cfg' hr (threads_of_backInLoop hend.1.1) hend.1.2 hr').uploads 1
  rw [hnone] at hupload
  cases hupload

end Phirepass.Agent
