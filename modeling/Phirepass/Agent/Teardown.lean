/-
# `Phirepass.Agent.Teardown` — what goes on after `connect` has returned

Whatever ends its `select!`, `connect` cancels the token, empties the three
maps of its connection and returns.  The handles of its tasks are dropped,
which stops none of them:

    the heartbeat and the cleanup task   watch the token
    the writer                           ends with its queue
    the reader                           reads on until its socket ends
    the tunnels                          run on until they poll their signal

So the maps stay empty where the reader has ended before they are emptied,
and no tunnel is about to enter a transfer behind the walk.
-/
import Phirepass.Agent.Disconnect

namespace Phirepass.Agent

open Rust Interleave

/-- What connect's teardown rests on: the reader has ended when it begins, and no tunnel enters
an upload or a download into a map whose walk has begun. -/
structure Quiesced (k : Nat) (w : World State Tid Resp) (i : Tid) (c : Cmd) (_r : Resp c) :
    Prop where
  reader : i = .main k → c = .sessions k .keys →
    (⟨.reader k, .ended k, ()⟩ : Ev Tid Resp) ∈ w.trace
  uploads : ∀ key upload begun, c = .uploads k (.insert key upload) →
    (⟨.main k, .uploads k .keys, begun⟩ : Ev Tid Resp) ∉ w.trace
  downloads : ∀ key download begun, c = .downloads k (.insert key download) →
    (⟨.main k, .downloads k .keys, begun⟩ : Ev Tid Resp) ∉ w.trace

/-- The three maps of connection `k` are empty. -/
structure Emptied (k : Nat) (s : State) : Prop where
  sessions : ∀ key, (s.sessions k).lookup key = none
  uploads : ∀ key, (s.uploads k).lookup key = none
  downloads : ∀ key, (s.downloads k).lookup key = none

/-- After `connect` has returned, the reader only finishes. -/
def SilentSince (k : Nat) (tr : List (Ev Tid Resp)) : Prop :=
  ∀ c r past, ⟨.reader k, c, r⟩ :: past <:+ tr →
    (⟨.main k, .returned k, ()⟩ : Ev Tid Resp) ∈ past → c = .finish

/-! ## `connect`, label by label -/

/-- One of the three maps is swept. -/
def SweptAll {V : Type} (view : (c : Cmd) → Resp c → Option (Answer Key V)) (h : Hist Resp) : Prop :=
  ∃ h₀, Swept view (fun _ => True) h₀ h

/-- It is being swept. -/
def WalkingAll {V : Type} (view : (c : Cmd) → Resp c → Option (Answer Key V))
    (begun visited found : List Key) (h : Hist Resp) : Prop :=
  ∃ h₀, Begins view begun h₀ ∧ Walking (fun _ => True) h₀ visited found h

structure TornDown (k : Nat) (h : Hist Resp) : Prop where
  sessions : SweptAll (onSessions k) h
  uploads : SweptAll (onUploads k) h
  downloads : SweptAll (onDownloads k) h

/-- `connect` returns last of all, before it has spawned a task or with the maps swept. -/
def TearsDown (k : Nat) (h : Hist Resp) (c : Cmd) : Prop :=
  ((⟨.returned k, ()⟩ : Sigma Resp) ∈ h → c = .finish) ∧
    (c = .returned k → (⟨.spawn k, ()⟩ : Sigma Resp) ∉ h ∨ TornDown k h)

def MainTears (k : Nat) : Label → Hist Resp → Prop
  | .main j, h => j = k ∧ h = []
  | .connected j, h => j = k ∧ (⟨.returned k, ()⟩ : Sigma Resp) ∉ h
  | .sweepSessions (.teardown j) begun visited found, h =>
      j = k ∧ (⟨.returned k, ()⟩ : Sigma Resp) ∉ h ∧ WalkingAll (onSessions k) begun visited found h
  | .sweepUploads (.teardown j) begun visited found, h =>
      j = k ∧ (⟨.returned k, ()⟩ : Sigma Resp) ∉ h ∧
        WalkingAll (onUploads k) begun visited found h ∧ SweptAll (onSessions k) h
  | .sweepDownloads (.teardown j) begun visited found, h =>
      j = k ∧ (⟨.returned k, ()⟩ : Sigma Resp) ∉ h ∧
        WalkingAll (onDownloads k) begun visited found h ∧ SweptAll (onSessions k) h ∧
          SweptAll (onUploads k) h
  | .done, _ => True
  | _, _ => False

/-- The reader issues nothing before it has started, and only finishes once it has ended. -/
def ReaderEnds (k : Nat) (h : Hist Resp) (c : Cmd) : Prop :=
  ((⟨.ended k, ()⟩ : Sigma Resp) ∈ h → c = .finish) ∧
    (c = .started k ∨ (⟨.started k, ()⟩ : Sigma Resp) ∈ h)

/-- It has started and not ended. -/
structure ReaderUp (k : Nat) (h : Hist Resp) : Prop where
  started : (⟨.started k, ()⟩ : Sigma Resp) ∈ h
  ended : (⟨.ended k, ()⟩ : Sigma Resp) ∉ h

/-- So it is wherever it goes on. -/
def ReaderRuns (k : Nat) : Label → Hist Resp → Prop
  | .reader j, h => j = k ∧ h = []
  | .reading j, h | .sweepSessions (.disconnect j _) _ _ _, h
  | .sweepUploads (.disconnect j _) _ _ _, h | .sweepDownloads (.disconnect j _) _ _ _, h =>
      j = k ∧ ReaderUp k h
  | .done, _ => True
  | _, _ => False

section Bodies

open Prog

variable {S : Setup} {k : Nat} {h h' : Hist Resp}

theorem SweptAll.mono {V : Type} {view : (c : Cmd) → Resp c → Option (Answer Key V)}
    (hs : h <:+ h') (hw : SweptAll view h) : SweptAll view h' := by
  obtain ⟨h₀, hswept⟩ := hw
  exact ⟨h₀, hswept.mono hs⟩

/-! ### `connect` -/

theorem tearsDown_of_ne {c : Cmd} (hr : (⟨.returned k, ()⟩ : Sigma Resp) ∉ h)
    (hc : c ≠ .returned k) : TearsDown k h c := ⟨fun hmem => absurd hmem hr, fun heq => absurd heq hc⟩

theorem not_returned_cons {c : Cmd} {r : Resp c} (hr : (⟨.returned k, ()⟩ : Sigma Resp) ∉ h)
    (hc : c ≠ .returned k) : (⟨.returned k, ()⟩ : Sigma Resp) ∉ (⟨c, r⟩ :: h : Hist Resp) := by
  intro hmem
  rcases List.mem_cons.1 hmem with heq | hmem
  · cases heq
    exact hc rfl
  · exact hr hmem

theorem Clearing.ne_returned {P : Key → Prop} {c : Cmd} (hc : Clearing k P c) : c ≠ .returned k := by
  rintro rfl
  cases hc

theorem giveUp_tears (hr : (⟨.returned k, ()⟩ : Sigma Resp) ∉ h)
    (hs : (⟨.spawn k, ()⟩ : Sigma Resp) ∉ h ∨ TornDown k h) :
    (giveUp k).Conforms (Issues (TearsDown k)) (MainTears k) h := by
  refine conforms_call.2 ⟨⟨fun hmem => absurd hmem hr, fun _ => hs⟩, fun _ => ?_⟩
  exact conforms_call.2 ⟨⟨fun _ => rfl, fun hc => nomatch hc⟩, fun _ => trivial⟩

/-- Reading the answer is one command. -/
theorem readAuthResponse_reads {may : Hist Resp → Cmd → Prop} (hmay : may h (.ws k .next)) :
    (readAuthResponse k).Conforms (Issues may) (fun _ h' => ∃ m, h' = ⟨.ws k .next, m⟩ :: h) h := by
  refine conforms_call.2 ⟨hmay, fun m => ?_⟩
  split
  · split <;> exact ⟨_, rfl⟩
  · exact ⟨_, rfl⟩
  · exact ⟨_, rfl⟩

theorem connect_tears : (connect S k).Conforms (Issues (TearsDown k)) (MainTears k) [] := by
  refine conforms_call.2 ⟨tearsDown_of_ne (by simp) (by simp), fun connected => ?_⟩
  cases connected with
  | false => exact giveUp_tears (by simp) (.inl (by simp))
  | true =>
      refine conforms_call.2 ⟨tearsDown_of_ne (by simp) (by simp), fun sent => ?_⟩
      cases sent with
      | false => exact giveUp_tears (by simp) (.inl (by simp))
      | true =>
          refine conforms_bind.2 ((readAuthResponse_reads
            (tearsDown_of_ne (by simp) (by simp))).mono fun res h hpost => ?_)
          obtain ⟨m, rfl⟩ := hpost
          cases res with
          | error err => exact giveUp_tears (by simp) (.inl (by simp))
          | ok nodeId =>
              simp only []
              split
              · exact giveUp_tears (by simp) (.inl (by simp))
              · refine conforms_call.2 ⟨tearsDown_of_ne (by simp) (by simp), fun _ => ⟨rfl, ?_⟩⟩
                simp

theorem WalkingAll.begin {V : Type} {view : (c : Cmd) → Resp c → Option (Answer Key V)} {c : Cmd}
    {r : Resp c} {begun : List Key} (hkeys : view c r = some ⟨.keys, begun⟩) :
    WalkingAll view begun [] [] (⟨c, r⟩ :: h) :=
  ⟨_, ⟨_, _, rfl, hkeys⟩, .start List.suffix_rfl⟩

/-- **`connect` tears down.**  Its task knows what `MainTears` says at each of its labels. -/
theorem main_tears (l : Label) (hat : MainTears k l h) :
    (body S l).Conforms (Issues (TearsDown k)) (MainTears k) h := by
  cases l with
  | main j =>
      obtain ⟨rfl, rfl⟩ := hat
      exact connect_tears
  | connected j =>
      obtain ⟨rfl, hr⟩ := hat
      refine conforms_call.2 ⟨tearsDown_of_ne hr (by simp), fun _ => ?_⟩
      have hr₁ := not_returned_cons (r := ()) hr (c := .wait j) (by simp)
      refine conforms_call.2 ⟨tearsDown_of_ne hr₁ (by simp), fun _ => ?_⟩
      have hr₂ := not_returned_cons (r := ()) hr₁ (c := .cancel j) (by simp)
      refine conforms_call.2 ⟨tearsDown_of_ne hr₂ (by simp), fun begun => ?_⟩
      exact ⟨rfl, not_returned_cons hr₂ (by simp), .begin onSessions_self⟩
  | sweepSessions why begun visited found =>
      cases why with
      | teardown j =>
          obtain ⟨rfl, hr, h₀, hbegins, hw⟩ := hat
          refine sweepSessions_sweeps (P := fun _ => True)
            (I := fun h => (⟨.returned j, ()⟩ : Sigma Resp) ∉ h)
            (fun _ _ _ hc hr => not_returned_cons hr hc.ne_returned)
            (fun _ _ hr hc => tearsDown_of_ne hr hc.ne_returned) (fun _ => iff_of_true rfl trivial)
            (fun _ _ _ hw hr => ⟨rfl, hr, h₀, hbegins, hw⟩) (fun h hr hs => ?_) hbegins hr hw
          refine conforms_call.2 ⟨tearsDown_of_ne hr (by simp), fun begun => ?_⟩
          have hswept : SweptAll (onSessions j) h := ⟨h₀, hs⟩
          exact ⟨rfl, not_returned_cons hr (by simp), .begin onUploads_self,
            hswept.mono (List.suffix_cons _ _)⟩
      | _ => exact hat.elim
  | sweepUploads why begun visited found =>
      cases why with
      | teardown j =>
          obtain ⟨rfl, hr, ⟨h₀, hbegins, hw⟩, hsessions⟩ := hat
          refine sweepUploads_sweeps (P := fun _ => True)
            (I := fun h => (⟨.returned j, ()⟩ : Sigma Resp) ∉ h ∧ SweptAll (onSessions j) h)
            (fun _ _ _ hc hI => ⟨not_returned_cons hI.1 hc.ne_returned,
              hI.2.mono (List.suffix_cons _ _)⟩)
            (fun _ _ hI hc => tearsDown_of_ne hI.1 hc.ne_returned)
            (fun _ _ => iff_of_true rfl trivial)
            (fun _ _ _ hw hI => ⟨rfl, hI.1, ⟨h₀, hbegins, hw⟩, hI.2⟩) (fun h hI hs => ?_) hbegins
            ⟨hr, hsessions⟩ hw
          refine conforms_call.2 ⟨tearsDown_of_ne hI.1 (by simp), fun begun => ?_⟩
          have hswept : SweptAll (onUploads j) h := ⟨h₀, hs⟩
          exact ⟨rfl, not_returned_cons hI.1 (by simp), .begin onDownloads_self,
            hI.2.mono (List.suffix_cons _ _), hswept.mono (List.suffix_cons _ _)⟩
      | _ => exact hat.elim
  | sweepDownloads why begun visited found =>
      cases why with
      | teardown j =>
          obtain ⟨rfl, hr, ⟨h₀, hbegins, hw⟩, hsessions, huploads⟩ := hat
          exact sweepDownloads_sweeps (P := fun _ => True)
            (I := fun h => (⟨.returned j, ()⟩ : Sigma Resp) ∉ h ∧ SweptAll (onSessions j) h ∧
              SweptAll (onUploads j) h)
            (fun _ _ _ hc hI => ⟨not_returned_cons hI.1 hc.ne_returned,
              hI.2.1.mono (List.suffix_cons _ _), hI.2.2.mono (List.suffix_cons _ _)⟩)
            (fun _ _ hI hc => tearsDown_of_ne hI.1 hc.ne_returned)
            (fun _ _ => iff_of_true rfl trivial)
            (fun _ _ _ hw hI => ⟨rfl, hI.1, ⟨h₀, hbegins, hw⟩, hI.2⟩)
            (fun h hI hs => giveUp_tears hI.1 (.inr ⟨hI.2.1, hI.2.2, h₀, hs⟩)) hbegins
            ⟨hr, hsessions, huploads⟩ hw
      | _ => exact hat.elim
  | done => trivial
  | _ => exact hat.elim

/-! ### The reader -/

theorem ReaderUp.may {c : Cmd} (hh : ReaderUp k h) : ReaderEnds k h c :=
  ⟨fun hmem => absurd hmem hh.ended, .inr hh.started⟩

theorem ReaderUp.cons {c : Cmd} {r : Resp c} (hh : ReaderUp k h) (hc : c ≠ .ended k) :
    ReaderUp k (⟨c, r⟩ :: h) := by
  refine ⟨List.mem_cons_of_mem _ hh.started, fun hmem => ?_⟩
  rcases List.mem_cons.1 hmem with heq | hmem
  · cases heq
    exact hc rfl
  · exact hh.ended hmem

theorem Closes.ne_ended {c : Cmd} {j : Nat} (hc : Closes j c) : c ≠ .ended k := by
  rintro rfl
  cases hc

theorem Sweeps.ne_ended {c : Cmd} {j : Nat} (hc : Sweeps j c) : c ≠ .ended k := by
  rintro rfl
  cases hc

theorem endTask_ends (hup : ReaderUp k h) :
    (endTask k).Conforms (Issues (ReaderEnds k)) (ReaderRuns k) h :=
  conforms_call.2 ⟨hup.may, fun _ => conforms_call.2
    ⟨⟨fun _ => rfl, .inr (List.mem_cons_of_mem _ hup.started)⟩, fun _ => trivial⟩⟩

theorem read_ends (hup : ReaderUp k h) :
    (read S k).Conforms (Issues (ReaderEnds k)) (ReaderRuns k) h := by
  refine conforms_call.2 ⟨hup.may, fun m => ?_⟩
  have hup₁ : ReaderUp k (⟨.ws k .next, m⟩ :: h) := hup.cons (by simp)
  match m with
  | some (.ok (.binary (.ok ⟨_, _, .node g⟩))) =>
      by_cases hg : ∃ cid, g = .connectionDisconnect cid
      · obtain ⟨cid, rfl⟩ := hg
        exact conforms_call.2 ⟨hup₁.may, fun begun => ⟨rfl, hup₁.cons (by simp)⟩⟩
      · have hquiet := (handleMessage_quiet (S := S) (k := k) (g := g)
          fun cid hc => hg ⟨cid, hc⟩).along (I := ReaderUp k) (fun h' c r hc hup => hup.cons ?_) hup₁
        · refine conforms_weaken (fun _ _ hc => hc.2.may) (hquiet.mono fun l h' hpost => ?_)
          obtain ⟨rfl, hup'⟩ := hpost
          exact ⟨rfl, hup'⟩
        · rintro rfl
          exact Bool.noConfusion hc.isLoop
  | some (.error ()) | some (.ok .other) => exact ⟨rfl, hup₁⟩
  | none | some (.ok .close) | some (.ok (.binary (.error _)))
  | some (.ok (.binary (.ok ⟨_, _, .web _⟩))) => exact endTask_ends hup₁

theorem reader_ends (l : Label) (hat : ReaderRuns k l h) :
    (body S l).Conforms (Issues (ReaderEnds k)) (ReaderRuns k) h := by
  cases l with
  | reader j =>
      obtain ⟨rfl, rfl⟩ := hat
      refine conforms_call.2 ⟨⟨fun hmem => (nomatch hmem), .inl rfl⟩, fun _ => ⟨rfl, ?_, ?_⟩⟩
      · exact List.mem_cons_self
      · simp
  | reading j =>
      obtain ⟨rfl, hup⟩ := hat
      exact read_ends hup
  | sweepSessions why begun visited found =>
      cases why with
      | disconnect j cid =>
          obtain ⟨rfl, hup⟩ := hat
          refine sweepSessions_conforms (P := ReaderUp j) (fun _ _ _ hc hup => hup.cons hc.ne_ended)
            (fun _ _ _ hup => hup.may) (fun _ _ _ hup => ⟨rfl, hup⟩) (fun h hup => ?_) hup
          exact conforms_call.2 ⟨hup.may, fun begun => ⟨rfl, hup.cons (by simp)⟩⟩
      | _ => exact hat.elim
  | sweepUploads why begun visited found =>
      cases why with
      | disconnect j cid =>
          obtain ⟨rfl, hup⟩ := hat
          refine sweepUploads_conforms (P := ReaderUp j) (fun _ _ _ hc hup => hup.cons hc.ne_ended)
            (fun _ _ _ hup => hup.may) (fun _ _ _ hup => ⟨rfl, hup⟩) (fun h hup => ?_) hup
          exact conforms_call.2 ⟨hup.may, fun begun => ⟨rfl, hup.cons (by simp)⟩⟩
      | _ => exact hat.elim
  | sweepDownloads why begun visited found =>
      cases why with
      | disconnect j cid =>
          obtain ⟨rfl, hup⟩ := hat
          exact sweepDownloads_conforms (P := ReaderUp j)
            (fun _ _ _ hc hup => hup.cons hc.ne_ended) (fun _ _ _ hup => hup.may)
            (fun _ _ _ hup => ⟨rfl, hup⟩) (fun h hup => ⟨rfl, hup⟩) hup
      | _ => exact hat.elim
  | done => trivial
  | _ => exact hat.elim

end Bodies

/-! ## Along a run -/

/-- The rules on `connect` and on the readers. -/
def teardownRules : Tid → Rules Resp
  | .main k => Issues (TearsDown k)
  | .reader k => Issues (ReaderEnds k)
  | _ => Issues fun _ _ => True

def TeardownAt : Tid → Label → Hist Resp → Prop
  | .main k => MainTears k
  | .reader k => ReaderRuns k
  | _ => fun _ _ => True

section Runs

variable {S : Setup} {A : Restriction} {cfg : Config State Tid Resp Label} {k : Nat}

theorem teardown_follows : (machine S).Follows teardownRules TeardownAt start where
  body i l h hat := by
    cases i with
    | main k => exact main_tears l hat
    | reader k => exact reader_ends l hat
    | _ => exact Prog.conforms_does.mono fun _ _ _ => trivial
  start i := by
    cases i with
    | main k | reader k => exact ⟨rfl, rfl⟩
    | _ => trivial

theorem teardownRules_of_event (hr : (machine S).Reach A start cfg) {i : Tid} {c : Cmd} {r : Resp c}
    {past : List (Ev Tid Resp)} (hs : ⟨i, c, r⟩ :: past <:+ cfg.world.trace) :
    (teardownRules i).may (own i past) c := by
  refine hr.events teardown_follows (fun w i c r _ => ?_)
    (fun past e => (teardownRules e.tid).may (own e.tid past) e.cmd) rfl
    (fun _ _ _ _ _ _ _ hmay _ _ => hmay) _ past hs
  cases i <;> trivial

/-! ### A connection that was given up -/

/-- Tasks are marked as spawned by one command. -/
theorem exec_started {i : Tid} {c : Cmd} {o : Choice} {r : Resp c} {s s' : State} {j : Nat}
    (h : exec S i c o s = some (r, s')) (hj : s'.started j = true) :
    s.started j = true ∨ c = .spawn j := by
  cases c with
  | spawn k =>
      cases h
      by_cases hk : j = k
      · exact .inr (by rw [hk])
      · have hold : Function.update s.started k true j = true := hj
        rw [Function.update_of_ne hk] at hold
        exact .inl hold
  | ws k op => cases op <;> cases h <;> exact .inl hj
  | out | sshStdin | sftpStdin | sessions | uploads | downloads | begin =>
      obtain ⟨x, -, hx⟩ := Option.map_eq_some_iff.1 h
      cases hx
      exact .inl hj
  | select t =>
      rcases select_cases h with ⟨_, _, -, -, rfl⟩ | ⟨_, _, -, -, rfl⟩ | ⟨-, rfl⟩ <;> exact .inl hj
  | started k | wait k =>
      simp only [exec] at h
      split at h
      · cases h
        exact .inl hj
      · cases h
  | tick k =>
      simp only [exec] at h
      split at h
      · split at h
        · cases h
          exact .inl hj
        · cases h
      · cases h
        exact .inl hj
  | overflow =>
      simp only [exec] at h
      split at h
      · cases h
      · cases h
        exact .inl hj
  | panic message => exact r.elim
  | stop | generateSessionId | generateId | spawnTunnel | ssh | sftp | now | stats | loadHeartbeat
  | storeHeartbeat | cancel | ended | returned | finish =>
      cases h
      exact .inl hj

/-- The tasks of a connection are spawned by its `connect`. -/
theorem May.spawnsTasks {i : Tid} {h : Hist Resp} (hm : May S i h (.spawn k)) : i = .main k := by
  cases i with
  | main j =>
      cases hm with
      | spawn => rfl
      | close hc | sweep hc => cases hc
  | reader j => cases hm with | close hc | sweep hc => cases hc
  | tunnel t =>
      rcases hm with ⟨-, hc⟩ | ⟨_, -, -, hc⟩
      · cases hc
      · cases hc with
        | sweep hc => cases hc
  | cleanup j => cases hm with | sweep hc => cases hc
  | writer j | heartbeat j => cases hm

theorem spawned_of_started (hr : (machine S).Reach A start cfg)
    (hstarted : cfg.world.state.started k = true) :
    (⟨.main k, .spawn k, ()⟩ : Ev Tid Resp) ∈ cfg.world.trace := by
  obtain ⟨e, hmem, hput⟩ := hr.origin (fun s j => s.started j = true)
    (fun e j => e.cmd = .spawn j) (fun _ hc => Bool.noConfusion hc)
    (fun i c o s r s' j hexec hj => exec_started (i := i) hexec hj) hstarted
  obtain ⟨i, c, r⟩ := e
  obtain rfl : c = .spawn k := hput
  obtain ⟨past, hs⟩ := exists_past hmem
  obtain rfl := (may_of_event hr hs).spawnsTasks
  exact hmem

/-- Without them, the reader does nothing. -/
theorem spawned_of_reader (hr : (machine S).Reach A start cfg) {c : Cmd} {r : Resp c}
    (hmem : (⟨.reader k, c, r⟩ : Ev Tid Resp) ∈ cfg.world.trace) :
    (⟨.main k, .spawn k, ()⟩ : Ev Tid Resp) ∈ cfg.world.trace := by
  obtain ⟨past, hs⟩ := exists_past hmem
  have hstart : (⟨.reader k, .started k, ()⟩ : Ev Tid Resp) ∈ cfg.world.trace := by
    have hrule : ReaderEnds k (own (.reader k) past) c := teardownRules_of_event hr hs
    rcases hrule.2 with rfl | hin
    · exact hmem
    · exact ((List.suffix_cons _ _).trans hs).subset (mem_own.1 hin)
  obtain ⟨past', hs'⟩ := exists_past hstart
  have hev := agent_events (fun past e => e = ⟨.reader k, .started k, ()⟩ →
    (⟨.main k, .spawn k, ()⟩ : Ev Tid Resp) ∈ past) ?_ hr _ past' hs' rfl
  · exact ((List.suffix_cons _ _).trans hs').subset hev
  · intro cfg i c o r s hr _ _ hexec heq
    cases heq
    simp only [exec] at hexec
    split at hexec
    · next hstarted => exact spawned_of_started hr hstarted
    · cases hexec

/-! ### A connection that was torn down -/

/-- `connect` returned without spawning its tasks, or with the three maps swept. -/
theorem torn_of_returned (hr : (machine S).Reach A start cfg) {past : List (Ev Tid Resp)}
    (hpast : past <:+ cfg.world.trace)
    (hmem : (⟨.main k, .returned k, ()⟩ : Ev Tid Resp) ∈ past) :
    (⟨.main k, .spawn k, ()⟩ : Ev Tid Resp) ∉ cfg.world.trace ∨
      TornDown k (own (.main k) past) := by
  obtain ⟨before, hs⟩ := exists_past hmem
  have hrule : TearsDown k (own (.main k) before) (.returned k) :=
    teardownRules_of_event hr (hs.trans hpast)
  have hle := (List.suffix_cons _ _).trans hs
  rcases hrule.2 rfl with hspawn | htorn
  · refine .inl fun hlater => hspawn ?_
    obtain ⟨before', hs'⟩ := exists_past hlater
    have hrule' : TearsDown k (own (.main k) before') (.spawn k) := teardownRules_of_event hr hs'
    rcases List.suffix_or_suffix_of_suffix (hs.trans hpast) hs' with hsuf | hsuf
    · rcases List.suffix_cons_iff.1 hsuf with heq | hsuf
      · cases heq
      · exact nomatch hrule'.1 (mem_own.2 (hsuf.subset List.mem_cons_self))
    · rcases List.suffix_cons_iff.1 hsuf with heq | hsuf
      · cases heq
      · exact mem_own.2 (hsuf.subset List.mem_cons_self)
  · have hown := own_suffix (.main k) hle
    exact .inr ⟨htorn.sessions.mono hown, htorn.uploads.mono hown, htorn.downloads.mono hown⟩

/-- Where the walk over the sessions has begun, the reader has ended. -/
theorem ended_of_begun (hr : (machine S).Reach (Quiesced k) start cfg) {past : List (Ev Tid Resp)}
    (hpast : past <:+ cfg.world.trace) {begun : List Key} {h : Hist Resp}
    (hs : ⟨.sessions k .keys, begun⟩ :: h <:+ own (.main k) past) :
    (⟨.ended k, ()⟩ : Sigma Resp) ∈ own (.reader k) past := by
  obtain ⟨before, hbefore, -⟩ := exists_past_of_own hs
  obtain ⟨w, rfl, hA⟩ := hr.allowed rfl (hbefore.trans hpast)
  have hended := hA.reader rfl rfl
  exact mem_own.2 (((List.suffix_cons _ _).trans hbefore).subset hended)

theorem TornDown.begun {h : Hist Resp} (ht : TornDown k h) :
    ∃ begun h', ⟨.sessions k .keys, begun⟩ :: h' <:+ h := by
  obtain ⟨h₀, begun, visited, ⟨⟨c, r⟩, h', rfl, hkeys⟩, ⟨e, h₁, hs, hbegun, -⟩, -⟩ := ht.sessions
  cases eq_of_onSessions hkeys
  exact ⟨begun, h', (hbegun.trans (List.suffix_cons _ _)).trans hs⟩

/-- The reader is silent once `connect` has returned. -/
theorem silent_since (hr : (machine S).Reach (Quiesced k) start cfg) :
    SilentSince k cfg.world.trace := by
  intro c r past hs hmem
  have hpast := (List.suffix_cons _ _).trans hs
  rcases torn_of_returned hr hpast hmem with hspawn | htorn
  · exact absurd (spawned_of_reader hr (hs.subset List.mem_cons_self)) hspawn
  · obtain ⟨begun, h', hbegun⟩ := htorn.begun
    have hrule : ReaderEnds k (own (.reader k) past) c := teardownRules_of_event hr hs
    exact hrule.1 (ended_of_begun hr hpast hbegun)

/-- Where nothing was inserted, nothing is. -/
theorem absent_of_never {V : Type} {view : (c : Cmd) → Resp c → Option (Answer Key V)}
    {tr : List (Ev Tid Resp)} {key : Key}
    (hno : ∀ e past v r, e :: past <:+ tr → view e.cmd e.resp ≠ some ⟨.insert key v, r⟩) :
    (mapAt view tr).lookup key = none := by
  by_contra hkey
  have hnil := present_before (List.nil_suffix) (Option.isSome_iff_ne_none.2 hkey)
    fun e past v r hs _ => hno e past v r hs
  cases hnil

/-- The maps of a connection that was given up were never written to. -/
theorem emptied_of_unspawned (hr : (machine S).Reach A start cfg)
    (hspawn : (⟨.main k, .spawn k, ()⟩ : Ev Tid Resp) ∉ cfg.world.trace) :
    Emptied k cfg.world.state := by
  have hreader {c : Cmd} {r : Resp c} (hmem : (⟨.reader k, c, r⟩ : Ev Tid Resp) ∈ cfg.world.trace) :
      False := hspawn (spawned_of_reader hr hmem)
  have htunnel {t : Nat} {tn : Tunnel} {past : List (Ev Tid Resp)} (hpast : past <:+ cfg.world.trace)
      (hb : Began t tn (own (.tunnel t) past)) (hconn : tn.conn = k) : False := by
    have htn := tunnel_of_begin hr t tn (hb.isTunnel.mono hpast)
    exact hreader (hconn ▸ spawned_of_tunnel hr t tn htn)
  refine ⟨fun key => ?_, fun key => ?_, fun key => ?_⟩
  · rw [(sessions_answered hr k).1]
    refine absent_of_never fun e past v r hs hview => ?_
    obtain ⟨j, c, r'⟩ := e
    cases eq_of_onSessions hview
    obtain ⟨tn, t, h', rfl, -⟩ := (may_of_event hr hs).enters
    exact hreader (hs.subset List.mem_cons_self)
  · rw [(uploads_answered hr k).1]
    refine absent_of_never fun e past v r hs hview => ?_
    obtain ⟨j, c, r'⟩ := e
    cases eq_of_onUploads hview
    obtain ⟨t, tn, rfl, hb, hconn, -⟩ := (may_of_event hr hs).startsUpload
    exact htunnel ((List.suffix_cons _ _).trans hs) hb hconn
  · rw [(downloads_answered hr k).1]
    refine absent_of_never fun e past v r hs hview => ?_
    obtain ⟨j, c, r'⟩ := e
    cases eq_of_onDownloads hview
    obtain ⟨t, tn, rfl, hb, hconn, -⟩ := (may_of_event hr hs).startsDownload
    exact htunnel ((List.suffix_cons _ _).trans hs) hb hconn

/-- Those of one that was torn down are written to no more. -/
theorem emptied_of_torn (hr : (machine S).Reach (Quiesced k) start cfg)
    (ht : TornDown k (own (.main k) cfg.world.trace)) : Emptied k cfg.world.state := by
  refine ⟨fun key => ?_, fun key => ?_, fun key => ?_⟩
  · obtain ⟨h₀, hswept⟩ := ht.sessions
    obtain ⟨hstate, hans⟩ := sessions_answered hr k
    rw [hstate]
    refine absent_of_swept hans hswept (fun e past key v r hs hview _ hbegun => ?_) trivial
    obtain ⟨j, c, r'⟩ := e
    cases eq_of_onSessions hview
    obtain ⟨begun, visited, ⟨⟨c₀, r₀⟩, h, rfl, hkeys⟩, -⟩ := hswept
    cases eq_of_onSessions hkeys
    -- it is the reader that enters sessions, and the reader has ended
    obtain ⟨tn, t, h', rfl, -⟩ := (may_of_event hr hs).enters
    have hrule : ReaderEnds k (own (.reader k) past) _ := teardownRules_of_event hr hs
    exact nomatch hrule.1 (ended_of_begun hr ((List.suffix_cons _ _).trans hs) hbegun)
  · obtain ⟨h₀, hswept⟩ := ht.uploads
    obtain ⟨hstate, hans⟩ := uploads_answered hr k
    rw [hstate]
    refine absent_of_swept hans hswept (fun e past key v r hs hview _ hbegun => ?_) trivial
    obtain ⟨j, c, r'⟩ := e
    cases eq_of_onUploads hview
    obtain ⟨w, rfl, hA⟩ := hr.allowed rfl hs
    obtain ⟨begun, visited, ⟨⟨c₀, r₀⟩, h, rfl, hkeys⟩, -⟩ := hswept
    cases eq_of_onUploads hkeys
    exact hA.uploads key v begun rfl (mem_own.1 (hbegun.subset List.mem_cons_self))
  · obtain ⟨h₀, hswept⟩ := ht.downloads
    obtain ⟨hstate, hans⟩ := downloads_answered hr k
    rw [hstate]
    refine absent_of_swept hans hswept (fun e past key v r hs hview _ hbegun => ?_) trivial
    obtain ⟨j, c, r'⟩ := e
    cases eq_of_onDownloads hview
    obtain ⟨w, rfl, hA⟩ := hr.allowed rfl hs
    obtain ⟨begun, visited, ⟨⟨c₀, r₀⟩, h, rfl, hkeys⟩, -⟩ := hswept
    cases eq_of_onDownloads hkeys
    exact hA.downloads key v begun rfl (mem_own.1 (hbegun.subset List.mem_cons_self))

/-- **The teardown is complete**, where the reader has ended before it and no transfer is
entered behind it: in every state after `connect` has returned the maps of its connection are
empty, and its reader has done nothing but finish. -/
theorem teardown_is_complete (hr : (machine S).Reach (Quiesced k) start cfg)
    (hmem : (⟨.main k, .returned k, ()⟩ : Ev Tid Resp) ∈ cfg.world.trace) :
    Emptied k cfg.world.state ∧ SilentSince k cfg.world.trace := by
  refine ⟨?_, silent_since hr⟩
  rcases torn_of_returned hr List.suffix_rfl hmem with hspawn | htorn
  · exact emptied_of_unspawned hr hspawn
  · exact emptied_of_torn hr htorn

end Runs

/-! ## A reader that reads on -/

/-- The task has executed such a command. -/
def did (i : Tid) (p : Cmd → Bool) (tr : List (Ev Tid Resp)) : Bool :=
  tr.any fun e => decide (e.tid = i) && p e.cmd

def Cmd.isEnd (k : Nat) : Cmd → Bool
  | .ended j => j == k
  | _ => false

def Cmd.isReturn (k : Nat) : Cmd → Bool
  | .returned j => j == k
  | _ => false

theorem mem_of_did {i : Tid} {p : Cmd → Bool} {tr : List (Ev Tid Resp)} (h : did i p tr = true) :
    ∃ c r, (⟨i, c, r⟩ : Ev Tid Resp) ∈ tr ∧ p c = true := by
  obtain ⟨⟨j, c, r⟩, hmem, he⟩ := List.any_eq_true.1 h
  rw [Bool.and_eq_true, decide_eq_true_eq] at he
  obtain ⟨rfl, hp⟩ := he
  exact ⟨c, r, hmem, hp⟩

theorem ended_of_did {k : Nat} {tr : List (Ev Tid Resp)}
    (h : did (.reader k) (Cmd.isEnd k) tr = true) :
    (⟨.reader k, .ended k, ()⟩ : Ev Tid Resp) ∈ tr := by
  obtain ⟨c, r, hmem, hc⟩ := mem_of_did h
  cases c with
  | ended j =>
      obtain rfl := beq_iff_eq.1 hc
      exact hmem
  | _ => cases hc

theorem returned_of_did {k : Nat} {tr : List (Ev Tid Resp)}
    (h : did (.main k) (Cmd.isReturn k) tr = true) :
    (⟨.main k, .returned k, ()⟩ : Ev Tid Resp) ∈ tr := by
  obtain ⟨c, r, hmem, hc⟩ := mem_of_did h
  cases c with
  | returned j =>
      obtain rfl := beq_iff_eq.1 hc
      exact hmem
  | _ => cases hc

/-- No transfer is entered, and connection `k` is torn down only when its reader has ended. -/
def quiesced (k : Nat) (w : World State Tid Resp) (i : Tid) (c : Cmd) (_r : Resp c) : Bool :=
  match c with
  | .sessions _ .keys => decide (i ≠ .main k) || did (.reader k) (Cmd.isEnd k) w.trace
  | .uploads _ (.insert _ _) | .downloads _ (.insert _ _) => false
  | _ => true

theorem quiesced_sound (k : Nat) (w : World State Tid Resp) (i : Tid) (c : Cmd) (r : Resp c)
    (h : quiesced k w i c r = true) : Quiesced k w i c r := by
  refine ⟨?_, ?_, ?_⟩
  · rintro rfl rfl
    simp only [quiesced, ne_eq, not_true, decide_false, Bool.false_or] at h
    exact ended_of_did h
  · rintro key upload begun rfl -
    cases h
  · rintro key download begun rfl -
    cases h

/-- A session is open when the socket ends; the reader ends, and `connect` tears down. -/
def endOfSocket : List (Tid × Choice) :=
  login 0 ++ request 0 .ssh 77 ++ idle (.reader 0) 4 ++ idle (.main 0) 5 ++ [(.main 0, { pick := some (77, 1) })] ++ idle (.main 0) 11

theorem teardown_is_complete_of_end :
    ∃ cfg, (machine (sample fun _ => 0)).Reach (Quiesced 0) start cfg ∧
      (⟨.main 0, .returned 0, ()⟩ : Ev Tid Resp) ∈ cfg.world.trace ∧
      Emptied 0 cfg.world.state ∧ SilentSince 0 cfg.world.trace := by
  have hrun : ((machine (sample fun _ => 0)).run (quiesced 0) endOfSocket start).any
      (fun cfg => did (.main 0) (Cmd.isReturn 0) cfg.world.trace) = true := by
    decide +kernel
  obtain ⟨cfg, hr, hend⟩ := Machine.reach_of_run (quiesced_sound 0) hrun
  exact ⟨cfg, hr, returned_of_did hend, teardown_is_complete hr (returned_of_did hend)⟩

/-- The server stops answering heartbeats. -/
def silence : List (Tid × Choice) :=
  [(.reader 0, fromServer (.heartbeatAck 0 0)), (.reader 0, { now := 1 })] ++ idle (.reader 0) 2 ++
    idle (.heartbeat 0) 4 ++ [(.heartbeat 0, { now := 1000000 })] ++ idle (.heartbeat 0) 3

/-- The heartbeat task ends the `select!`, and the reader opens a session in the maps that
`connect` has emptied. -/
theorem reader_outlives_connect :
    ¬ ∀ cfg, (machine (sample fun _ => 0)).Reach Free start cfg →
      (⟨.main 0, .returned 0, ()⟩ : Ev Tid Resp) ∈ cfg.world.trace →
      Emptied 0 cfg.world.state ∧ SilentSince 0 cfg.world.trace := by
  intro hcomplete
  have hrun : ((machine (sample fun _ => 0)).run (fun _ _ _ _ => true)
      (login 0 ++ silence ++ idle (.main 0) 13 ++ request 0 .ssh 77) start).any (fun cfg =>
        did (.main 0) (Cmd.isReturn 0) cfg.world.trace && ((cfg.world.state.sessions 0).lookup (77, 1)).isSome) =
          true := by
    decide +kernel
  obtain ⟨cfg, hr, hend⟩ := Machine.reach_of_run (A := Free) (fun _ _ _ _ _ => trivial) hrun
  rw [Bool.and_eq_true] at hend
  have hnone := (hcomplete cfg hr (returned_of_did hend.1)).1.sessions (77, 1)
  rw [hnone] at hend
  exact Bool.noConfusion hend.2

end Phirepass.Agent
