/-
# `Phirepass.Server.WebCleanup` — a web socket acts on a prefix and cleans up once

`handle_web_socket` reads until a message makes it leave, removes its
connection and walks over the registry of nodes to tell each that the client
is gone.  The other tasks go on meanwhile, and nodes come and go; what the
registry holds is a function of the trace (`nodesAt`), so "registered all the
while" can be said.

The walk is not atomic.  A node that is registered through one socket from
its first step to its last is met once, and its queue is sent one notice.
-/
import Phirepass.Server.Identity
import Phirepass.Server.WebLife

namespace Phirepass.Server

open Rust Interleave

/-- The task is walking over the nodes. -/
def walking : Hist Resp → Bool
  | ⟨.nodes .keys, _⟩ :: _ | ⟨.node (.send _ (.connectionDisconnect _)), _⟩ :: _ => true
  | ⟨.nodes (.next _ _), found⟩ :: _ => found.isSome
  | _ => false

/-- The command tells socket `k` that `cid` is gone; whether the queue took it. -/
def Cmd.notice (k : Nat) (cid : Uuid) : (c : Cmd) → Resp c → Option Bool
  | .node (.send k' (.connectionDisconnect cid')), sent =>
      if k' = k ∧ cid' = cid then some sent else none
  | _, _ => none

/-- The same of a task's own history. -/
def noticesOf (k : Nat) (cid : Uuid) (h : Hist Resp) : List Bool :=
  h.filterMap fun e => e.1.notice k cid e.2

/-- The client on whose behalf a frame goes to a node. -/
def forwardedFor : NodeFrameData → Option Uuid
  | .openTunnel _ cid .. => some cid
  | frame => frame.addressee.map Prod.fst

section Events

variable {S : Setup} {A : Restriction} {rows : DashMap Uuid NodeRow} {users : List Uuid}
  {clock : Time} {cfg : Config State Tid Resp Label}

/-! ## The phases of a web socket, along a run -/

/-- The rules on the tasks of web sockets. -/
def phaseRules : Tid → Rules Resp
  | .web _ => Issues WebPhase
  | _ => Issues fun _ _ => True

/-- What they know at their labels. -/
def LivesAt (S : Setup) : Tid → Label → Hist Resp → Prop
  | .web i => Lives S i
  | _ => fun _ _ => True

theorem lives_follows : (machine S).Follows phaseRules (LivesAt S) (start rows users clock) where
  body i l h hat := by
    cases i with
    | web i => exact lives_body l hat
    | _ => exact Prog.conforms_does.mono fun _ _ _ => trivial
  start i := by
    cases i with
    | web i => exact ⟨rfl, rfl⟩
    | _ => trivial

theorem phaseRules_hears {i : Tid} {h : Hist Resp} {c : Cmd} {r : Resp c} :
    (phaseRules i).hears h c r := by
  cases i <;> trivial

/-- Each of its commands is issued in its phase. -/
theorem phase_of_event (hr : (machine S).Reach A (start rows users clock) cfg) {i : Nat} {c : Cmd}
    {r : Resp c} {past : List (Ev Tid Resp)}
    (hs : ⟨.web i, c, r⟩ :: past <:+ cfg.world.trace) : WebPhase (own (.web i) past) c := by
  have hev := hr.events lives_follows (fun _ _ _ _ _ => phaseRules_hears)
    (fun past e => (phaseRules e.tid).may (own e.tid past) e.cmd) rfl ?_ _ past hs
  · exact hev
  · exact fun cfg i c o r s _ hmay _ _ => hmay

/-! ## The registry of nodes -/

/-- Only a command on the queues of the nodes changes one, and so on those of the clients. -/
theorem exec_chans {i : Tid} {c : Cmd} {o : Choice} {r : Resp c} {s s' : State}
    (h : exec S i c o s = some (r, s')) :
    ((∃ op, c = .node op) ∨ s'.nodeChans = s.nodeChans) ∧
      ((∃ op, c = .web op) ∨ s'.webChans = s.webChans) := by
  cases c with
  | node op =>
      obtain ⟨x, -, hx⟩ := Option.map_eq_some_iff.1 h
      cases hx
      exact ⟨.inl ⟨op, rfl⟩, .inr rfl⟩
  | web op =>
      obtain ⟨x, -, hx⟩ := Option.map_eq_some_iff.1 h
      cases hx
      exact ⟨.inr rfl, .inl ⟨op, rfl⟩⟩
  | ws op => cases op <;> cases h <;> exact ⟨.inr rfl, .inr rfl⟩
  | webWriter | nodeWriter | nodes | connections | tunnelSessions =>
      obtain ⟨x, -, hx⟩ := Option.map_eq_some_iff.1 h
      cases hx
      exact ⟨.inr rfl, .inr rfl⟩
  | memoryDb op =>
      simp only [exec] at h
      split at h
      · split at h <;> cases h <;> exact ⟨.inr rfl, .inr rfl⟩
      · cases h
        exact ⟨.inr rfl, .inr rfl⟩
  | newV4 =>
      simp only [exec] at h
      split at h
      · cases h
        exact ⟨.inr rfl, .inr rfl⟩
      · cases h
  | db | now | generateChallenge | decodeWebJwt | decodeNodeJwt | encodeNodeJwt | respond | finish
  | environment =>
      cases h
      exact ⟨.inr rfl, .inr rfl⟩

theorem exec_nodeChans_of_ne {i : Tid} {c : Cmd} {o : Choice} {r : Resp c} {s s' : State}
    (h : exec S i c o s = some (r, s')) (hc : ∀ op, c ≠ .node op) : s'.nodeChans = s.nodeChans :=
  (exec_chans h).1.resolve_left fun ⟨op, hop⟩ => hc op hop

/-- A queue that was closed stays closed. -/
theorem exec_closed {i : Tid} {c : Cmd} {o : Choice} {r : Resp c} {s s' : State} {k : Nat}
    (h : exec S i c o s = some (r, s')) (hclosed : (s.nodeChans k).closed = true) :
    (s'.nodeChans k).closed = true := by
  rcases (exec_chans h).1 with ⟨op, rfl⟩ | hsame
  · obtain ⟨x, hexec, hx⟩ := Option.map_eq_some_iff.1 h
    cases hx
    exact ChanOp.closed_exec hexec hclosed
  · rw [hsame]
    exact hclosed

/-- So does that of a client. -/
theorem exec_web_closed {i : Tid} {c : Cmd} {o : Choice} {r : Resp c} {s s' : State} {x : Nat}
    (h : exec S i c o s = some (r, s')) (hclosed : (s.webChans x).closed = true) :
    (s'.webChans x).closed = true := by
  rcases (exec_chans h).2 with ⟨op, rfl⟩ | hsame
  · obtain ⟨x, hexec, hx⟩ := Option.map_eq_some_iff.1 h
    cases hx
    exact ChanOp.closed_exec hexec hclosed
  · rw [hsame]
    exact hclosed

/-- A send that fails finds the queue closed, for good. -/
theorem closed_of_send (hr : (machine S).Reach A (start rows users clock) cfg) {i : Tid} {k : Nat}
    {g : NodeFrameData} (hmem : (⟨i, .node (.send k g), false⟩ : Ev Tid Resp) ∈ cfg.world.trace) :
    (cfg.world.state.nodeChans k).closed = true := by
  refine server_inv (fun w => ∀ i k g, (⟨i, .node (.send k g), false⟩ : Ev Tid Resp) ∈ w.trace →
    (w.state.nodeChans k).closed = true) ?_ ?_ hr i k g hmem
  · exact fun _ _ _ hmem => nomatch hmem
  · intro cfg j c o r s _ hI _ _ hexec i k g hmem
    rw [World.push_trace, List.mem_cons] at hmem
    rcases hmem with heq | hmem
    · cases heq
      obtain ⟨x, hchan, hx⟩ := Option.map_eq_some_iff.1 hexec
      obtain ⟨answer, chans⟩ := x
      cases hx
      exact ChanOp.closed_of_send hchan
    · exact exec_closed hexec (hI i k g hmem)

theorem closed_of_web_send (hr : (machine S).Reach A (start rows users clock) cfg) {i : Tid}
    {x : Nat} {frame : WebFrameData}
    (hmem : (⟨i, .web (.send x frame), false⟩ : Ev Tid Resp) ∈ cfg.world.trace) :
    (cfg.world.state.webChans x).closed = true := by
  refine server_inv (fun w => ∀ i x frame,
    (⟨i, .web (.send x frame), false⟩ : Ev Tid Resp) ∈ w.trace →
      (w.state.webChans x).closed = true) ?_ ?_ hr i x frame hmem
  · exact fun _ _ _ hmem => nomatch hmem
  · intro cfg j c o r s _ hI _ _ hexec i x frame hmem
    rw [World.push_trace, List.mem_cons] at hmem
    rcases hmem with heq | hmem
    · cases heq
      obtain ⟨answer, hchan, hx⟩ := Option.map_eq_some_iff.1 hexec
      obtain ⟨sent, chans⟩ := answer
      cases hx
      exact ChanOp.closed_of_send hchan
    · exact exec_web_closed hexec (hI i x frame hmem)

/-! ## Who tells a node that a client is gone -/

end Events

/-! ## The walk -/

/-- What the nodes on socket `k` among those told were answered. -/
def toldTo (k : Nat) (told : List Told) : List Bool :=
  told.filterMap fun t => if t.2.1.tx = k then some t.2.2 else none

section Walk

variable {S : Setup} {i k : Nat} {cid n : Uuid} {begun : List Uuid} {told : List Told}
  {h h₁ h₂ : Hist Resp}

theorem toldTo_cons {t : Told} :
    toldTo k (t :: told) = (if t.2.1.tx = k then [t.2.2] else []) ++ toldTo k told := by
  by_cases hk : t.2.1.tx = k
  · simp [toldTo, hk]
  · simp [toldTo, hk]

theorem notice_of_not {c : Cmd} {r : Resp c} (hc : c.isNotice = false) : c.notice k cid r = none := by
  cases c with
  | node op =>
      cases op with
      | send k g => cases g <;> first | rfl | cases hc
      | _ => rfl
  | _ => rfl

theorem noticesOf_cons {c : Cmd} {r : Resp c} :
    noticesOf k cid (⟨c, r⟩ :: h) = (c.notice k cid r).toList ++ noticesOf k cid h := by
  unfold noticesOf
  cases hc : c.notice k cid r <;> simp [hc]

theorem noticesOf_quiet (hq : ∀ e ∈ h, e.1.isNotice = false) : noticesOf k cid h = [] := by
  rw [noticesOf, List.filterMap_eq_nil_iff]
  exact fun e hmem => notice_of_not (hq e hmem)

theorem Walked.notices (hw : Walked cid begun h told h₁) (hq : ∀ e ∈ h, e.1.isNotice = false) :
    noticesOf k cid h₁ = toldTo k told := by
  induction hw with
  | nil => exact noticesOf_quiet hq
  | @cons n conn sent told h' _ ih =>
      have hsend : (Cmd.node (.send conn.tx (.connectionDisconnect cid))).notice k cid sent =
        if conn.tx = k ∧ cid = cid then some sent else none := rfl
      have hnext : (Cmd.nodes (.next begun (told.map Prod.fst))).notice k cid (some (n, conn)) =
        none := rfl
      rw [noticesOf_cons, noticesOf_cons, ih, toldTo_cons, hsend, hnext]
      by_cases hk : conn.tx = k
      · simp [hk]
      · simp [hk]

theorem Walked.walking (hw : Walked cid begun h told h₁) (hh : walking h = true) :
    walking h₁ = true := by
  cases hw with
  | nil => exact hh
  | cons => rfl

theorem WebClosed.walking (hc : WebClosed i cid begun h h₁) : walking h₁ = true := by
  cases hc <;> rfl

theorem WebClosed.reads (hc : WebClosed i cid begun h h₁) : reads h₁ = reads h := by
  cases hc <;> rfl

theorem Walked.reads (hw : Walked cid begun h told h₁) : reads h₁ = reads h := by
  induction hw with
  | nil => rfl
  | cons _ ih => exact ih

end Walk

/-! ## The cleanup, along a run -/

section Cleanup

variable {S : Setup} {A : Restriction} {rows : DashMap Uuid NodeRow} {users : List Uuid}
  {clock : Time} {cfg : Config State Tid Resp Label}

theorem WebMay.unentered {i : Nat} {h : Hist Resp} {cid : Uuid} {conn : WebConnection}
    (hm : WebMay S i h (.connections (.insert cid conn))) : Unentered h := by
  rcases hm with hc | ⟨cid', -, hc⟩
  · cases hc
  · cases hc with
    | insert hfirst => exact hfirst

/-- A frame that is forwarded opens a tunnel or is for one. -/
theorem forwardedFor_cases {g : NodeFrameData} {cid : Uuid} (hg : forwardedFor g = some cid) :
    (∃ protocol username password msgId,
      g = .openTunnel protocol cid username password msgId) ∨ ∃ sid, g.addressee = some (cid, sid) := by
  cases g with
  | openTunnel protocol cid' username password msgId =>
      cases hg
      exact .inl ⟨protocol, username, password, msgId, rfl⟩
  | tunnelData | sshWindowResize | sftpList | sftpDownloadStart | sftpDownloadChunkRequest
  | sftpDownloadChunk | sftpUploadStart | sftpUpload | sftpDelete =>
      cases hg
      exact .inr ⟨_, rfl⟩
  | _ => cases hg

/-- A frame is forwarded for a client by its own web socket. -/
theorem May.forwardsFor {i : Tid} {h : Hist Resp} {k : Nat} {g : NodeFrameData} {cid : Uuid}
    (hm : May S i h (.node (.send k g))) (hg : forwardedFor g = some cid) :
    ∃ j, i = .web j ∧ LoggedIn S h cid := by
  rcases forwardedFor_cases hg with ⟨protocol, username, password, msgId, rfl⟩ | ⟨sid, hadd⟩
  · obtain ⟨j, rfl, hc | ⟨cid', hl, hc⟩⟩ := hm.byWeb rfl
    · cases hc
    · cases hc with
      | forward _ hf => cases (addressee_of_relayed hf)
      | openTunnel => exact ⟨j, rfl, hl⟩
  · obtain ⟨j, m, f, target, t, n, info, h', hi, hl, -⟩ := hm.forwards hadd
    exact ⟨j, hi, hl⟩

theorem WebPhase.attends {h : Hist Resp} {k : Nat} {g : NodeFrameData} {cid : Uuid}
    (hp : WebPhase h (.node (.send k g))) (hg : forwardedFor g = some cid) :
    ¬ Cleaning h ∧ ¬ Unentered h := by
  cases g <;> first | exact hp | cases hg

theorem drew_of_forward (hr : (machine S).Reach A (start rows users clock) cfg) {j : Tid} {k : Nat}
    {g : NodeFrameData} {cid : Uuid} {r : Bool} {past : List (Ev Tid Resp)}
    (hg : forwardedFor g = some cid)
    (hs : ⟨j, .node (.send k g), r⟩ :: past <:+ cfg.world.trace) : ∃ i, j = .web i ∧ Drew past i cid := by
  refine server_events (fun past e => ∀ j k g r, e = ⟨j, .node (.send k g), r⟩ →
    forwardedFor g = some cid → ∃ i, j = .web i ∧ Drew past i cid) ?_ hr _ past hs j k g r rfl hg
  intro cfg j c o r s _ hmay _ _ j k g r heq hg
  cases heq
  obtain ⟨i, rfl, hl⟩ := hmay.forwardsFor hg
  exact ⟨i, rfl, hl.drew⟩

end Cleanup

end Phirepass.Server
