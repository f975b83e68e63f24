/-
# `Phirepass.Agent.Endings` — how a tunnel ends, and what is left of its session

The task of a tunnel never touches `TunnelSessions`.  Whoever shuts it down
has taken its handle out first, and a handle that was taken out does not come
back, as long as no session id is given out twice (`session_gone`).  What the
task says at its end is up to the host:

    its disconnect succeeds     `TunnelClosed`                        (`closed_of_parted`)
    SSH, and no shell           an error, and never `TunnelOpened`    (`unopened_of_dark`)
    otherwise                   an error behind `TunnelOpened`

A task that ends of its own accord leaves its handle where it is, and one that
says no more than the last leaves the server thinking it open: `EndsOnSignal`
rules both out.
-/
import Phirepass.Agent.Opening
import Phirepass.Agent.Streams
import Phirepass.Agent.Teardown

namespace Phirepass.Agent

open Rust Interleave

/-- No session id is given out that was given out before, by whichever process of the node. -/
def FreshIds : Restriction := fun w _ c r =>
  ∀ k sid, (⟨c, r⟩ : Sigma Resp) = ⟨.generateSessionId k, sid⟩ →
    ∀ i k', (⟨i, .generateSessionId k', sid⟩ : Ev Tid Resp) ∉ w.trace

/-- The task `t` was sent its shutdown signal. -/
def Signalled (t : Nat) (tr : List (Ev Tid Resp)) : Prop :=
  ∃ i, (⟨i, .stop t, ()⟩ : Ev Tid Resp) ∈ tr

/-- The task `t` has disconnected from the host, and nothing went wrong. -/
def Parted (t : Nat) (h : Hist Resp) : Prop := (⟨.ssh t .disconnect, .ok ()⟩ : Sigma Resp) ∈ h

/-- The frame `g` was not taken into the queue of connection `k`. -/
def Refused (why : TrySendError) (k : Nat) (g : NodeFrameData) (h : Hist Resp) : Prop :=
  (⟨.out (.trySend k g), .error why⟩ : Sigma Resp) ∈ h

/-- Why the server does not take the tunnel of a task that has ended for open. -/
inductive Settled (t : Nat) (tn : Tunnel) (h : Hist Resp) : Prop
  | parted (hparted : Parted t h)
      (hopen : ¬ Refused .closed tn.conn (.tunnelClosed tn.protocol.toU8 tn.cid tn.sid tn.msgId) h)
  | dark (hp : tn.protocol = .ssh) (hdark : ¬ Granted t h)
  | unheard
      (hclosed : Refused .closed tn.conn (.tunnelOpened tn.protocol.toU8 tn.cid tn.sid tn.msgId) h)

/-- A task that returns was sent its shutdown signal, and the server hears of its end, or has not
heard of its beginning. -/
def EndsOnSignal : Restriction := fun w i c _ =>
  ∀ t tn, i = .tunnel t → c = .finish → Began t tn (own (.tunnel t) w.trace) →
    Signalled t w.trace ∧ Settled t tn (own (.tunnel t) w.trace)

/-! ## Who is shut down -/

/-- The handle of the task `t` has just been taken out of a session map. -/
inductive Freed (t : Nat) : Hist Resp → Prop
  | removed {h : Hist Resp} {k : Nat} {key : Key} {handle : SessionHandle}
      (htask : handle.task = t) : Freed t (⟨.sessions k (.remove key), some handle⟩ :: h)
  | replaced {h : Hist Resp} {k : Nat} {key : Key} {handle prev : SessionHandle}
      (htask : prev.task = t) : Freed t (⟨.sessions k (.insert key handle), some prev⟩ :: h)

/-- A task is shut down when its handle has just been taken out. -/
def Signals (h : Hist Resp) (c : Cmd) : Prop := ∀ t, c = .stop t → Freed t h

/-- The labels of the tasks that shut tunnels down. -/
def Label.closes : Label → Bool
  | .main _ | .connected _ | .reader _ | .reading _ | .sweepSessions _ _ _ _
  | .sweepUploads (.disconnect _ _) _ _ _ | .sweepUploads (.teardown _) _ _ _
  | .sweepDownloads (.disconnect _ _) _ _ _ | .sweepDownloads (.teardown _) _ _ _ | .done => true
  | _ => false

/-- The command reports a tunnel open. -/
def Cmd.opensTunnel : Cmd → Bool
  | .out (.send _ (.tunnelOpened ..)) | .out (.trySend _ (.tunnelOpened ..)) => true
  | _ => false

/-- An SSH tunnel is reported open once its shell is there. -/
def ShellFirst (t : Nat) (h : Hist Resp) (c : Cmd) : Prop :=
  c.opensTunnel = true → ∀ tn, Began t tn h → tn.protocol = .ssh → Granted t h

/-- The task runs an SFTP tunnel, or has its shell. -/
def Shelled (t : Nat) (h : Hist Resp) : Prop :=
  ∃ tn, Began t tn h ∧ (tn.protocol = .ssh → Granted t h)

section Bodies

open Prog

variable {S : Setup} {k t : Nat} {tn : Tunnel} {h h' : Hist Resp}

theorem signals_of_ne {c : Cmd} (hc : ∀ t, c ≠ .stop t) : Signals h c :=
  fun t heq => absurd heq (hc t)

theorem Handles.signals {c : Cmd} (hc : Handles h c) : Signals h c := by
  cases hc with
  | aside _ hstop => exact signals_of_ne hstop
  | replaced =>
      rintro t heq
      cases heq
      exact .replaced rfl

theorem Sweeps.signals {c : Cmd} (hc : Sweeps k c) : Signals h c := by
  refine signals_of_ne fun t heq => ?_
  subst heq
  cases hc

theorem closeSessions_signals :
    ∀ {found : List Key} {h : Hist Resp},
      (closeSessions k found).Conforms (Issues Signals) (fun _ _ => True) h
  | [], _ => trivial
  | key :: rest, h => by
      refine conforms_call.2 ⟨signals_of_ne (by simp), fun removed => ?_⟩
      cases removed with
      | none => exact closeSessions_signals
      | some handle =>
          refine conforms_call.2 ⟨fun t heq => ?_, fun _ => closeSessions_signals⟩
          cases heq
          exact .removed rfl

theorem giveUp_signals :
    (giveUp k).Conforms (Issues Signals) (fun l _ => l.closes = true) h :=
  conforms_call.2 ⟨signals_of_ne (by simp), fun _ =>
    conforms_call.2 ⟨signals_of_ne (by simp), fun _ => rfl⟩⟩

theorem connect_signals :
    (connect S k).Conforms (Issues Signals) (fun l _ => l.closes = true) h := by
  refine conforms_call.2 ⟨signals_of_ne (by simp), fun connected => ?_⟩
  cases connected with
  | false => exact giveUp_signals
  | true =>
      refine conforms_call.2 ⟨signals_of_ne (by simp), fun sent => ?_⟩
      cases sent with
      | false => exact giveUp_signals
      | true =>
          refine conforms_bind.2 ((readAuthResponse_reads (signals_of_ne (by simp))).mono
            fun res h' _ => ?_)
          cases res with
          | error err => exact giveUp_signals
          | ok nodeId =>
              simp only []
              split
              · exact giveUp_signals
              · exact conforms_call.2 ⟨signals_of_ne (by simp), fun _ => rfl⟩

theorem read_signals : (read S k).Conforms (Issues Signals) (fun l _ => l.closes = true) h := by
  refine conforms_call.2 ⟨signals_of_ne (by simp), fun m => ?_⟩
  have hend {h : Hist Resp} :
      (endTask k).Conforms (Issues Signals) (fun l _ => l.closes = true) h :=
    conforms_call.2 ⟨signals_of_ne (by simp), fun _ =>
      conforms_call.2 ⟨signals_of_ne (by simp), fun _ => rfl⟩⟩
  match m with
  | some (.ok (.binary (.ok ⟨_, _, .node g⟩))) =>
      by_cases hg : ∃ cid, g = .connectionDisconnect cid
      · obtain ⟨cid, rfl⟩ := hg
        exact conforms_call.2 ⟨signals_of_ne (by simp), fun _ => rfl⟩
      · refine conforms_weaken (fun _ _ hc => hc.signals)
          ((handleMessage_quiet fun cid heq => hg ⟨cid, heq⟩).mono fun l _ hl => ?_)
        rw [hl]
        rfl
  | some (.error ()) | some (.ok .other) => exact rfl
  | none | some (.ok .close) | some (.ok (.binary (.error _)))
  | some (.ok (.binary (.ok ⟨_, _, .web _⟩))) => exact hend

/-- **Whoever is shut down has been taken out**, at every label of the reader and of
`connect`. -/
theorem closes_signals (l : Label) (hl : l.closes = true) :
    (body S l).Conforms (Issues Signals) (fun l _ => l.closes = true) h := by
  cases l with
  | main j => exact connect_signals
  | connected j =>
      exact conforms_call.2 ⟨signals_of_ne (by simp), fun _ =>
        conforms_call.2 ⟨signals_of_ne (by simp), fun _ =>
          conforms_call.2 ⟨signals_of_ne (by simp), fun _ => rfl⟩⟩⟩
  | reader j => exact conforms_call.2 ⟨signals_of_ne (by simp), fun _ => rfl⟩
  | reading j => exact read_signals
  | sweepSessions why begun visited found =>
      refine conforms_call.2 ⟨signals_of_ne (by simp), fun met => ?_⟩
      cases met with
      | some entry => exact rfl
      | none =>
          refine conforms_bind.2 (closeSessions_signals.mono fun _ h' _ => ?_)
          cases why <;> exact conforms_call.2 ⟨signals_of_ne (by simp), fun _ => rfl⟩
  | sweepUploads why begun visited found =>
      cases why with
      | disconnect j cid | teardown j =>
          exact sweepUploads_conforms (P := fun _ => True) (fun _ _ _ _ _ => trivial)
            (fun _ _ hc _ => hc.signals) (fun _ _ _ _ => rfl)
            (fun _ _ => conforms_call.2 ⟨signals_of_ne (by simp), fun _ => rfl⟩) trivial
      | cleanup j now => cases hl
      | start j tn now upload msgId => cases hl
  | sweepDownloads why begun visited found =>
      cases why with
      | disconnect j cid =>
          exact sweepDownloads_conforms (P := fun _ => True) (fun _ _ _ _ _ => trivial)
            (fun _ _ hc _ => hc.signals) (fun _ _ _ _ => rfl) (fun _ _ => rfl) trivial
      | teardown j =>
          exact sweepDownloads_conforms (P := fun _ => True) (fun _ _ _ _ _ => trivial)
            (fun _ _ hc _ => hc.signals) (fun _ _ _ _ => rfl) (fun _ _ => giveUp_signals) trivial
      | cleanup j now => cases hl
      | start j tn now download msgId => cases hl
  | done => exact rfl
  | _ => cases hl

/-! ### The tunnel -/

theorem Shelled.cons {e : Sigma Resp} (hs : Shelled t h) : Shelled t (e :: h) := by
  obtain ⟨tn, hb, hshell⟩ := hs
  exact ⟨tn, hb.cons, fun hp => List.mem_cons_of_mem _ (hshell hp)⟩

theorem Shelled.may {c : Cmd} (hs : Shelled t h) : ShellFirst t h c := by
  obtain ⟨tn, hb, hshell⟩ := hs
  intro _ tn' hb' hp
  obtain rfl := hb.unique hb'
  exact hshell hp

theorem shellFirst_of_mum {c : Cmd} (hc : c.opensTunnel = false) : ShellFirst t h c :=
  fun hopens => by
    rw [hc] at hopens
    cases hopens

theorem opensTunnel_of_emits {c : Cmd} {r : Resp c} {k : Nat} {g : NodeFrameData} {sid : UInt32}
    (hemit : c.Emits k g r) (hg : g.opens sid = true) : c.opensTunnel = true := by
  cases c with
  | out op =>
      cases op with
      | send tx frame | trySend tx frame =>
          obtain ⟨-, rfl, -⟩ := hemit
          cases frame with
          | tunnelOpened => rfl
          | _ => cases hg
      | recv | close => exact hemit.elim
  | _ => exact hemit.elim

theorem createClient_mum {failed : String} : (createClient t tn failed).Conforms
    (Issues (ShellFirst t)) (fun _ _ => True) h := by
  refine conforms_call.2 ⟨shellFirst_of_mum rfl, fun connected => ?_⟩
  cases connected with
  | error err => trivial
  | ok _ =>
      refine conforms_call.2 ⟨shellFirst_of_mum rfl, fun authenticated => ?_⟩
      match authenticated with
      | .error err => trivial
      | .ok true => trivial
      | .ok false => trivial

theorem openShell_mum : (openShell t).Conforms (Issues (ShellFirst t))
    (fun res h' => res = .ok () → Granted t h') h := by
  refine conforms_call.2 ⟨shellFirst_of_mum rfl, fun opened => ?_⟩
  cases opened with
  | error err => exact fun heq => nomatch heq
  | ok _ =>
      refine conforms_call.2 ⟨shellFirst_of_mum rfl, fun pty => ?_⟩
      cases pty with
      | error err => exact fun heq => nomatch heq
      | ok _ =>
          refine conforms_call.2 ⟨shellFirst_of_mum rfl, fun shell => ?_⟩
          cases shell with
          | error err => exact fun heq => nomatch heq
          | ok _ => exact fun _ => List.mem_cons_self

theorem endFailed_mum {err : String} : (endTunnel t tn (.error err)).Conforms
    (Issues (ShellFirst t)) (fun l _ => l = .done) h := by
  have hrest (h : Hist Resp) : Prog.Conforms (Issues (ShellFirst t)) (fun l _ => l = Label.done) (do
      sendFrameData tn.conn (.webFrame (.error .generic err tn.msgId) (.sessionId tn.sid))
      call .finish
      return Label.done) h :=
    conforms_call.2 ⟨shellFirst_of_mum rfl, fun _ =>
      conforms_call.2 ⟨shellFirst_of_mum rfl, fun _ => rfl⟩⟩
  unfold endTunnel dropStdin
  cases tn.protocol with
  | ssh => exact conforms_call.2 ⟨shellFirst_of_mum rfl, fun _ => hrest _⟩
  | sftp => exact conforms_call.2 ⟨shellFirst_of_mum rfl, fun _ => hrest _⟩

/-- Where a tunnel task goes on it runs an SFTP tunnel or has its shell. -/
def ShelledAt (t : Nat) (l : Label) (h : Hist Resp) : Prop :=
  Shelled t h ∨ l = .done ∨ l = .tunnel t ∧ h = []

theorem sshConnect_shell (hb : Began t tn h) :
    (sshConnect t tn).Conforms (Issues (ShellFirst t)) (ShelledAt t) h := by
  have hfailed {h : Hist Resp} {err : String} :
      (endTunnel t tn (.error err)).Conforms (Issues (ShellFirst t)) (ShelledAt t) h :=
    endFailed_mum.mono fun _ _ hl => .inr (.inl hl)
  refine conforms_bind.2 (createClient_mum.suffix.mono fun created h₁ hpost => ?_)
  cases created with
  | error err => exact hfailed
  | ok _ =>
      have hb₁ := hb.mono hpost.2
      refine conforms_bind.2 (openShell_mum.suffix.mono fun opened h₂ hpost => ?_)
      cases opened with
      | error err => exact hfailed
      | ok _ =>
          have hs : Shelled t h₂ := ⟨tn, hb₁.mono hpost.2, fun _ => hpost.1 rfl⟩
          exact conforms_call.2 ⟨hs.may, fun _ => .inl hs.cons⟩

/-- **An SSH tunnel is reported open behind its shell**, whatever its task does. -/
theorem tunnel_shell (l : Label) (hat : ShelledAt t l h) :
    (body S l).Conforms (Issues (ShellFirst t)) (ShelledAt t) h := by
  have hkept {p : Action Label} {h : Hist Resp} (hs : Shelled t h) :
      p.Conforms (Issues (ShellFirst t)) (ShelledAt t) h :=
    conforms_weaken (fun _ _ hc => hc.may)
      ((conforms_keeps (fun _ _ => Shelled.cons) hs).mono fun _ _ => .inl)
  rcases hat with hs | rfl | ⟨rfl, rfl⟩
  · exact hkept hs
  · exact .inr (.inl rfl)
  · refine conforms_call.2 ⟨shellFirst_of_mum rfl, fun tn => ?_⟩
    have hb : Began t tn [⟨.begin t, tn⟩] := List.suffix_rfl
    split
    · exact sshConnect_shell hb
    · next hp => exact hkept ⟨tn, hb, fun hssh => by rw [hp] at hssh; cases hssh⟩

end Bodies

/-! ## Along a run -/

/-- The rules on the tasks that shut down, and on those that are shut down. -/
def endingRules : Tid → Rules Resp
  | .main _ | .reader _ => Issues Signals
  | .tunnel t => Issues (ShellFirst t)
  | _ => Issues fun _ _ => True

def EndingAt : Tid → Label → Hist Resp → Prop
  | .main _ | .reader _ => fun l _ => l.closes = true
  | .tunnel t => ShelledAt t
  | _ => fun _ _ => True

/-- Only the reader and `connect` shut a tunnel down. -/
theorem May.stops {S : Setup} {i : Tid} {h : Hist Resp} {t : Nat} (hm : May S i h (.stop t)) :
    ∃ k, i = .main k ∨ i = .reader k := by
  cases i with
  | main k => exact ⟨k, .inl rfl⟩
  | reader k => exact ⟨k, .inr rfl⟩
  | tunnel j =>
      rcases hm with ⟨-, hc⟩ | ⟨_, -, -, hc⟩
      · cases hc
      · cases hc with
        | sweep hc => cases hc
  | cleanup k => cases hm with | sweep hc => cases hc
  | writer k | heartbeat k => cases hm

/-- A tunnel task finishes when it has reported the end of its tunnel, or a failure. -/
theorem May.finishes {S : Setup} {h : Hist Resp} {t : Nat} (hm : May S (.tunnel t) h .finish) :
    ∃ tn, Began t tn h ∧ Ended t tn h := by
  rcases hm with ⟨-, hc⟩ | ⟨tn, hb, -, hc⟩
  · cases hc
  · cases hc with
    | finish hend => exact ⟨tn, hb, hend⟩
    | sweep hc => cases hc

section Runs

variable {S : Setup} {A : Restriction} {cfg : Config State Tid Resp Label} {t : Nat} {tn : Tunnel}

theorem ending_follows : (machine S).Follows endingRules EndingAt start where
  body i l h hat := by
    cases i with
    | main k | reader k => exact closes_signals l hat
    | tunnel t => exact tunnel_shell l hat
    | _ => exact Prog.conforms_any fun _ _ => trivial
  start i := by
    cases i with
    | main k | reader k => exact rfl
    | tunnel t => exact .inr (.inr ⟨rfl, rfl⟩)
    | _ => trivial

theorem endingRules_of_event (hr : (machine S).Reach A start cfg) {i : Tid} {c : Cmd} {r : Resp c}
    {past : List (Ev Tid Resp)} (hs : ⟨i, c, r⟩ :: past <:+ cfg.world.trace) :
    (endingRules i).may (own i past) c := by
  refine hr.events ending_follows (fun w i c r _ => ?_)
    (fun past e => (endingRules e.tid).may (own e.tid past) e.cmd) rfl
    (fun _ _ _ _ _ _ _ hmay _ _ => hmay) _ past hs
  cases i <;> trivial

/-! ### Session ids -/

/-- Under `FreshIds`, an id is drawn once. -/
theorem draw_once (hA : ∀ w i c r, A w i c r → FreshIds w i c r)
    (hr : (machine S).Reach A start cfg) {i i' : Tid} {k k' : Nat} {sid : UInt32}
    {past past' : List (Ev Tid Resp)}
    (hs : ⟨i, .generateSessionId k, sid⟩ :: past <:+ cfg.world.trace)
    (hs' : ⟨i', .generateSessionId k', sid⟩ :: past' <:+ cfg.world.trace) :
    (⟨i, .generateSessionId k, sid⟩ : Ev Tid Resp) :: past =
      ⟨i', .generateSessionId k', sid⟩ :: past' := by
  have hnew {i i' : Tid} {k k' : Nat} {past past' : List (Ev Tid Resp)}
      (hs : ⟨i, .generateSessionId k, sid⟩ :: past <:+ cfg.world.trace)
      (hbefore : ⟨i', .generateSessionId k', sid⟩ :: past' <:+ past) : False := by
    obtain ⟨w, rfl, hAi⟩ := hr.allowed rfl hs
    exact hA _ _ _ _ hAi k sid rfl i' k' (hbefore.subset List.mem_cons_self)
  rcases List.suffix_or_suffix_of_suffix hs hs' with hsuf | hsuf
  · rcases List.suffix_cons_iff.1 hsuf with heq | hsuf
    · exact heq
    · exact (hnew hs' hsuf).elim
  · rcases List.suffix_cons_iff.1 hsuf with heq | hsuf
    · exact heq.symm
    · exact (hnew hs hsuf).elim

/-- So a tunnel is spawned once under it. -/
theorem spawn_fresh (hA : ∀ w i c r, A w i c r → FreshIds w i c r)
    (hr : (machine S).Reach A start cfg) {i i' : Tid} {t t' : Nat} {tn tn' : Tunnel}
    {past past' : List (Ev Tid Resp)}
    (hs : ⟨i, .spawnTunnel tn, t⟩ :: past <:+ cfg.world.trace)
    (hs' : ⟨i', .spawnTunnel tn', t'⟩ :: past' <:+ cfg.world.trace) (hsid : tn.sid = tn'.sid) :
    (⟨i, .spawnTunnel tn, t⟩ : Ev Tid Resp) :: past = ⟨i', .spawnTunnel tn', t'⟩ :: past' :=
  spawn_of_draws hr hs hs' fun before before' hdraw hdraw' => by
    rw [← hsid] at hdraw' ⊢
    exact draw_once hA hr hdraw hdraw'

/-- **A session id stands for one tunnel** of the node. -/
theorem tunnel_fresh (hA : ∀ w i c r, A w i c r → FreshIds w i c r)
    (hr : (machine S).Reach A start cfg) {t' : Nat} {tn' : Tunnel}
    (h : IsTunnel cfg.world.trace t tn) (h' : IsTunnel cfg.world.trace t' tn')
    (hsid : tn.sid = tn'.sid) : t = t' ∧ tn = tn' := by
  obtain ⟨past, hs⟩ := exists_past (spawned_of_tunnel hr t tn (tunnel_of_begin hr t tn h))
  obtain ⟨past', hs'⟩ := exists_past (spawned_of_tunnel hr t' tn' (tunnel_of_begin hr t' tn' h'))
  have heq := (List.cons.inj (spawn_fresh hA hr hs hs' hsid)).1
  simp only [Ev.mk.injEq, Cmd.spawnTunnel.injEq] at heq
  obtain ⟨-, rfl, ht⟩ := heq
  exact ⟨eq_of_heq ht, rfl⟩

theorem sole_of_fresh (hA : ∀ w i c r, A w i c r → FreshIds w i c r)
    (hr : (machine S).Reach A start cfg) (htn : IsTunnel cfg.world.trace t tn) :
    Sole t tn cfg.world.trace := by
  intro t' tn' htn' hor
  rcases hor with rfl | ⟨-, hsid⟩
  · exact ⟨rfl, isTunnel_unique hr htn' htn⟩
  · exact tunnel_fresh hA hr htn' htn hsid

/-! ### The session map -/

/-- A session is entered once. -/
theorem enter_once (hA : ∀ w i c r, A w i c r → FreshIds w i c r)
    (hr : (machine S).Reach A start cfg) {i i' : Tid} {k k' : Nat} {key : Key}
    {handle handle' : SessionHandle} {r r' : Option SessionHandle} {past past' : List (Ev Tid Resp)}
    (hs : ⟨i, .sessions k (.insert key handle), r⟩ :: past <:+ cfg.world.trace)
    (hs' : ⟨i', .sessions k' (.insert key handle'), r'⟩ :: past' <:+ cfg.world.trace) :
    (⟨i, .sessions k (.insert key handle), r⟩ : Ev Tid Resp) :: past =
      ⟨i', .sessions k' (.insert key handle'), r'⟩ :: past' := by
  obtain ⟨tn, t, h, rfl, hown, rfl, rfl, rfl⟩ := (may_of_event hr hs).enters
  obtain ⟨tn', t', h', rfl, hown', rfl, hkey, rfl⟩ := (may_of_event hr hs').enters
  -- either is entered right after it was spawned
  have hspawn : ⟨.spawnTunnel tn, t⟩ :: h <:+ own (.reader tn.conn) past := by rw [hown]
  have hspawn' : ⟨.spawnTunnel tn', t'⟩ :: h' <:+ own (.reader tn'.conn) past' := by rw [hown']
  obtain ⟨before, hbefore, rfl⟩ := exists_past_of_own hspawn
  obtain ⟨before', hbefore', rfl⟩ := exists_past_of_own hspawn'
  have heq := spawn_fresh hA hr (hbefore.trans ((List.suffix_cons _ _).trans hs))
    (hbefore'.trans ((List.suffix_cons _ _).trans hs')) (congrArg Prod.snd hkey)
  simp only [List.cons.injEq, Ev.mk.injEq, Tid.reader.injEq] at heq
  obtain ⟨⟨hconn, -, -⟩, rfl⟩ := heq
  rw [← hconn] at hs' hown' ⊢
  refine eq_of_own_length hs hs' ?_
  rw [hown, hown', List.length_cons, List.length_cons]

/-- What is found in the map was entered. -/
theorem entered_of_present {V : Type} {view : (c : Cmd) → Resp c → Option (Answer Key V)}
    {tr : List (Ev Tid Resp)} {key : Key} (hkey : ((mapAt view tr).lookup key).isSome = true) :
    ∃ e past v r, e :: past <:+ tr ∧ view e.cmd e.resp = some ⟨.insert key v, r⟩ := by
  by_contra hno
  rw [absent_of_never fun e past v r hs hview => hno ⟨e, past, v, r, hs, hview⟩] at hkey
  cases hkey

/-- An entry that is found or taken out was entered before. -/
theorem entered_of_answer (key : Key) (hr : (machine S).Reach A start cfg) {i : Tid} {k : Nat}
    {op : MapOp Key SessionHandle} {r : op.Resp} {past : List (Ev Tid Resp)}
    (hs : ⟨i, .sessions k op, r⟩ :: past <:+ cfg.world.trace)
    (hpresent : ∀ m pick, MapOp.answer m pick op = some r → (m.lookup key).isSome = true) :
    ∃ j handle r past', ⟨j, .sessions k (.insert key handle), r⟩ :: past' <:+ past := by
  obtain ⟨pick, hans⟩ := (sessions_answered hr k).2 _ _ _ hs onSessions_self
  obtain ⟨⟨j, c, r'⟩, past', handle, r, hins, hview⟩ := entered_of_present (hpresent _ _ hans)
  cases eq_of_onSessions hview
  exact ⟨j, handle, r, past', hins⟩

theorem not_suffix_self {e : Ev Tid Resp} {past : List (Ev Tid Resp)} : ¬ e :: past <:+ past :=
  fun hs => absurd hs.length_le (by simp)

/-- So a new session never replaces one. -/
theorem replaces_none (hA : ∀ w i c r, A w i c r → FreshIds w i c r)
    (hr : (machine S).Reach A start cfg) {i : Tid} {k : Nat} {key : Key}
    {handle prev : SessionHandle} {past : List (Ev Tid Resp)} :
    ¬ ⟨i, .sessions k (.insert key handle), some prev⟩ :: past <:+ cfg.world.trace := by
  intro hs
  obtain ⟨j, handle', r, past', hins⟩ := entered_of_answer key hr hs fun m pick hans => by
    simp only [MapOp.answer, Option.some.injEq] at hans
    rw [hans]
    rfl
  rw [enter_once hA hr (hins.trans ((List.suffix_cons _ _).trans hs)) hs] at hins
  exact not_suffix_self hins

/-- The handle that is taken out under a key is that of the tunnel with this key. -/
theorem tunnel_of_taken (hr : (machine S).Reach A start cfg) {i : Tid} {k : Nat} {key : Key}
    {handle : SessionHandle} {past : List (Ev Tid Resp)}
    (hs : ⟨i, .sessions k (.remove key), some handle⟩ :: past <:+ cfg.world.trace) :
    ∃ tn, cfg.world.state.tunnels[handle.task]? = some tn ∧ tn.conn = k ∧
      key = (tn.cid, tn.sid) := by
  have hev := agent_events (fun past e => ∀ i k key handle,
    e = ⟨i, .sessions k (.remove key), some handle⟩ →
      ∃ tn, (⟨.reader tn.conn, .spawnTunnel tn, handle.task⟩ : Ev Tid Resp) ∈ past ∧
        tn.conn = k ∧ key = (tn.cid, tn.sid)) ?_ hr _ past hs i k key handle rfl
  · obtain ⟨tn, hspawn, hrest⟩ := hev
    exact ⟨tn, tunnel_of_spawn hr _ _ tn (((List.suffix_cons _ _).trans hs).subset hspawn), hrest⟩
  · intro cfg j c o r s hr _ _ hexec i k key handle heq
    cases heq
    have hremove := exec_sessions_answer hexec
    simp only [MapOp.answer, Option.some.injEq] at hremove
    obtain ⟨tn, htn, hconn, hkey, -⟩ := tunnel_of_session hr k key handle hremove
    exact ⟨tn, spawned_of_tunnel hr _ tn htn, hconn, hkey⟩

/-- Before its signal, the handle of a task is taken out of the map it was entered in. -/
theorem taken_of_signalled (hA : ∀ w i c r, A w i c r → FreshIds w i c r)
    (hr : (machine S).Reach A start cfg) (htn : IsTunnel cfg.world.trace t tn)
    (hsig : Signalled t cfg.world.trace) : ∃ i handle past,
      ⟨i, .sessions tn.conn (.remove (tn.cid, tn.sid)), some handle⟩ :: past <:+
        cfg.world.trace := by
  obtain ⟨i, hmem⟩ := hsig
  obtain ⟨past, hs⟩ := exists_past hmem
  have hpast := (List.suffix_cons _ _).trans hs
  have hrule : Signals (own i past) (.stop t) := by
    obtain ⟨k, rfl | rfl⟩ := (may_of_event hr hs).stops
    · exact endingRules_of_event hr hs
    · exact endingRules_of_event hr hs
  have hfreed := hrule t rfl
  generalize hown : own i past = h at hfreed
  have hlast {e : Sigma Resp} {h' : Hist Resp} (heq : h = e :: h') :
      ∃ before, ⟨i, e.1, e.2⟩ :: before <:+ past := by
    have hsuf : ⟨e.1, e.2⟩ :: h' <:+ own i past := by rw [hown, heq]
    obtain ⟨before, hbefore, -⟩ := exists_past_of_own hsuf
    exact ⟨before, hbefore⟩
  cases hfreed with
  | @removed h k key handle htask =>
      obtain ⟨before, hbefore⟩ := hlast rfl
      obtain ⟨tn', htn', rfl, rfl⟩ := tunnel_of_taken hr (hbefore.trans hpast)
      rw [htask, tunnel_of_begin hr t tn htn] at htn'
      cases htn'
      exact ⟨i, handle, before, hbefore.trans hpast⟩
  | replaced htask =>
      obtain ⟨before, hbefore⟩ := hlast rfl
      exact (replaces_none hA hr (hbefore.trans hpast)).elim

/-- **Once its task was signalled, a session is gone**, and does not come back. -/
theorem session_gone (hA : ∀ w i c r, A w i c r → FreshIds w i c r)
    (hr : (machine S).Reach A start cfg) (htn : IsTunnel cfg.world.trace t tn)
    (hsig : Signalled t cfg.world.trace) :
    (cfg.world.state.sessions tn.conn).lookup (tn.cid, tn.sid) = none := by
  obtain ⟨i, handle, past, hs⟩ := taken_of_signalled hA hr htn hsig
  obtain ⟨j, handle₁, r₁, past₁, hentered⟩ :=
    entered_of_answer (tn.cid, tn.sid) hr hs fun m pick hans => by
      simp only [MapOp.answer, Option.some.injEq] at hans
      rw [hans]
      rfl
  rw [(sessions_answered hr tn.conn).1]
  by_contra hkey
  -- it was taken out, and so it would have been entered again
  have habsent := present_before hs (Option.isSome_iff_ne_none.2 hkey)
    fun e past₂ v r₂ hs₂ hle hview => by
      obtain ⟨j₂, c, r₂⟩ := e
      cases eq_of_onSessions hview
      have hbefore := hentered.trans ((List.suffix_cons _ _).trans hle)
      rw [enter_once hA hr (hentered.trans ((List.suffix_cons _ _).trans hs)) hs₂] at hbefore
      exact not_suffix_self hbefore
  rw [mapAt_cons onSessions_self, MapOp.apply, AList.lookup_erase] at habsent
  cases habsent

/-! ### The last report -/

theorem Ended.not_silent {h : Hist Resp} (hend : Ended t tn h) : ¬ Silent h := by
  cases hend with
  | closed | failed => exact fun hs => hs _ _ List.mem_cons_self

/-- What a task knows when it finishes. -/
theorem ended_of_finish (hr : (machine S).Reach A start cfg)
    (htn : IsTunnel cfg.world.trace t tn) {past : List (Ev Tid Resp)}
    (hs : ⟨.tunnel t, .finish, ()⟩ :: past <:+ cfg.world.trace) :
    Ended t tn (own (.tunnel t) past) := by
  obtain ⟨tn', hb, hend⟩ := (may_of_event hr hs).finishes
  rwa [isTunnel_unique hr htn (hb.isTunnel.mono ((List.suffix_cons _ _).trans hs))]

/-- How it has ended, if it was to end so. -/
theorem settled_of_finish (hA : ∀ w i c r, A w i c r → EndsOnSignal w i c r)
    (hr : (machine S).Reach A start cfg) (htn : IsTunnel cfg.world.trace t tn)
    {past : List (Ev Tid Resp)} (hs : ⟨.tunnel t, .finish, ()⟩ :: past <:+ cfg.world.trace) :
    Signalled t past ∧ Settled t tn (own (.tunnel t) past) := by
  obtain ⟨tn', hb, -⟩ := (may_of_event hr hs).finishes
  obtain rfl := isTunnel_unique hr htn (hb.isTunnel.mono ((List.suffix_cons _ _).trans hs))
  obtain ⟨w, rfl, hAi⟩ := hr.allowed rfl hs
  exact hA _ _ _ _ hAi t tn rfl rfl hb

/-- **A task that has parted from the host says so**, if there is room and someone to say it to. -/
theorem closed_of_parted (hr : (machine S).Reach A start cfg)
    (htn : IsTunnel cfg.world.trace t tn) {past : List (Ev Tid Resp)}
    (hs : ⟨.tunnel t, .finish, ()⟩ :: past <:+ cfg.world.trace)
    (hparted : Parted t (own (.tunnel t) past))
    (hkept : ∀ why, ¬ Refused why tn.conn
      (.tunnelClosed tn.protocol.toU8 tn.cid tn.sid tn.msgId) (own (.tunnel t) past)) :
    Emitted cfg.world.trace (.tunnel t) tn.conn
      (.tunnelClosed tn.protocol.toU8 tn.cid tn.sid tn.msgId) := by
  have hend := ended_of_finish hr htn hs
  have hown := own_suffix (.tunnel t) ((List.suffix_cons _ _).trans hs)
  generalize own (.tunnel t) past = h at hend hparted hkept hown
  cases hend with
  | @closed _ _ r _ =>
      cases r with
      | ok u => exact ⟨_, _, mem_own.1 (hown.subset List.mem_cons_self), rfl, rfl, rfl⟩
      | error why => exact absurd List.mem_cons_self (hkept why)
  | failed hlinked _ =>
      rcases List.mem_cons.1 hparted with heq | hmem
      · cases heq
      · exact absurd hmem hlinked

/-- Who reports a tunnel open is its task, which has been silent. -/
theorem announced_of_emitted (hr : (machine S).Reach A start cfg)
    (htn : IsTunnel cfg.world.trace t tn) {k : Nat} {g : NodeFrameData} {sid : UInt32}
    (hemit : Emitted cfg.world.trace (.tunnel t) k g) (hopens : g.opens sid = true) :
    ∃ c r past, ⟨.tunnel t, c, r⟩ :: past <:+ cfg.world.trace ∧ c.Emits k g r ∧
      Began t tn (own (.tunnel t) past) ∧ Silent (own (.tunnel t) past) := by
  obtain ⟨c, r, hmem, hemits⟩ := hemit
  obtain ⟨past, hs⟩ := exists_past hmem
  obtain ⟨t', tn', heq, hb, -, -, hsilent⟩ := (may_of_event hr hs).announces hemits hopens
  cases heq
  obtain rfl := isTunnel_unique hr htn (hb.isTunnel.mono ((List.suffix_cons _ _).trans hs))
  exact ⟨c, r, past, hs, hemits, hb, hsilent⟩

/-- **An SSH tunnel that ends without a shell was never reported open.** -/
theorem unopened_of_dark (hr : (machine S).Reach A start cfg)
    (htn : IsTunnel cfg.world.trace t tn) (hp : tn.protocol = .ssh) {past : List (Ev Tid Resp)}
    (hs : ⟨.tunnel t, .finish, ()⟩ :: past <:+ cfg.world.trace)
    (hdark : ¬ Granted t (own (.tunnel t) past)) {k : Nat} {g : NodeFrameData} {sid : UInt32}
    (hemit : Emitted cfg.world.trace (.tunnel t) k g) : g.opens sid = false := by
  by_contra hopens
  have hopens := eq_true_of_ne_false hopens
  obtain ⟨c, r, before, hs', hemits, hb, hsilent⟩ := announced_of_emitted hr htn hemit hopens
  have hrule : ShellFirst t (own (.tunnel t) before) c := endingRules_of_event hr hs'
  have hshell := hrule (opensTunnel_of_emits hemits hopens) tn hb hp
  -- either it had its shell before it finished, or it was silent when it had finished
  rcases List.suffix_or_suffix_of_suffix hs' hs with hsuf | hsuf
  · rcases List.suffix_cons_iff.1 hsuf with heq | hsuf
    · cases heq
      exact hdark hshell
    · exact hdark ((own_suffix _ ((List.suffix_cons _ _).trans hsuf)).subset hshell)
  · rcases List.suffix_cons_iff.1 hsuf with heq | hsuf
    · cases heq
      exact hdark hshell
    · refine (ended_of_finish hr htn hs).not_silent fun op r hmem => hsilent op r ?_
      exact (own_suffix _ ((List.suffix_cons _ _).trans hsuf)).subset hmem

/-- **Nor was one whose report met a closed queue**: it is made once. -/
theorem unopened_of_unheard (hr : (machine S).Reach A start cfg)
    (htn : IsTunnel cfg.world.trace t tn)
    (hclosed : Refused .closed tn.conn (.tunnelOpened tn.protocol.toU8 tn.cid tn.sid tn.msgId)
      (own (.tunnel t) cfg.world.trace)) {k : Nat} {g : NodeFrameData} {sid : UInt32}
    (hemit : Emitted cfg.world.trace (.tunnel t) k g) : g.opens sid = false := by
  by_contra hopens
  have hopens := eq_true_of_ne_false hopens
  obtain ⟨c, r, before, hs, hemits, -, hsilent⟩ := announced_of_emitted hr htn hemit hopens
  obtain ⟨before', hs'⟩ := exists_past (mem_own.1 hclosed)
  have hopened : (NodeFrameData.tunnelOpened tn.protocol.toU8 tn.cid tn.sid tn.msgId).opens tn.sid
      = true := beq_self_eq_true _
  obtain ⟨-, -, -, -, -, -, hsilent'⟩ := (may_of_event hr hs').announces
    (r := Except.ok ()) ⟨rfl, rfl, rfl⟩ hopened
  obtain ⟨op, rfl⟩ := out_of_emits hemits
  have hbefore {c c' : Cmd} {r : Resp c} {r' : Resp c'} {past past' : List (Ev Tid Resp)}
      (hlater : ⟨.tunnel t, c, r⟩ :: past <:+ ⟨.tunnel t, c', r'⟩ :: past')
      (hne : (⟨.tunnel t, c, r⟩ : Ev Tid Resp) ≠ ⟨.tunnel t, c', r'⟩) :
      (⟨c, r⟩ : Sigma Resp) ∈ own (.tunnel t) past' := by
    refine mem_own.2 ?_
    rcases List.suffix_cons_iff.1 hlater with heq | hlater
    · exact absurd (List.cons.inj heq).1 hne
    · exact hlater.subset List.mem_cons_self
  -- they are two reports
  have hne : (⟨.tunnel t, .out op, r⟩ : Ev Tid Resp) ≠ ⟨.tunnel t, .out (.trySend tn.conn
      (.tunnelOpened tn.protocol.toU8 tn.cid tn.sid tn.msgId)), .error .closed⟩ := by
    intro heq
    cases heq
    exact absurd hemits.2.2 (by simp)
  rcases List.suffix_or_suffix_of_suffix hs hs' with hsuf | hsuf
  · exact hsilent' _ _ (hbefore hsuf hne)
  · exact hsilent _ _ (hbefore hsuf hne.symm)

end Runs

end Phirepass.Agent
