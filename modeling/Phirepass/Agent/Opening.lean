/-
# `Phirepass.Agent.Opening` — what the agent sends about an `OpenTunnel`

The reader checks the credentials and spawns a tunnel task, which connects.
By the time the tunnel is open or its task at its end, the agent has put into
its queue (`Opens.says`)

    credentials refused     an error, under the connection id
    SFTP                    `TunnelOpened`, before it connects
    SSH with a shell        `TunnelOpened`, after it has connected
    SSH without one         an error, under a session id that was never
                            reported open
-/
import Phirepass.Agent.Rules
import Phirepass.Interleave.Path

namespace Phirepass.Agent

open Rust Interleave Prog

/-! ## What a task has sent -/

/-- The frames a task has put into the queue of connection `k`, oldest first. -/
def queuedBy (k : Nat) : Hist Resp → List NodeFrameData
  | [] => []
  | ⟨.out put, r⟩ :: h => queuedBy k h ++ put.puts k r
  | _ :: h => queuedBy k h

/-- Every frame it tried to send went into the queue. -/
def NoneDropped (h : Hist Resp) : Prop :=
  ∀ k g r, (⟨.out (.trySend k g), r⟩ : Sigma Resp) ∈ h → r = .ok ()

/-- The SSH server has granted a shell. -/
def Granted (t : Nat) (h : Hist Resp) : Prop := (⟨.ssh t .requestShell, .ok ()⟩ : Sigma Resp) ∈ h

/-- An `OpenTunnel` was handled: the reader has done with it, with the history `h`, and the task
it spawned, if any, has reported its tunnel open or come to its end, with the history `h'`. -/
inductive Opens (S : Setup) (k : Nat) (protocol : UInt8) (cid : Uuid)
    (username password : Option String) (msgId : Option UInt32) : Hist Resp → Hist Resp → Prop
  | refused {h : Hist Resp}
      (hread : (openTunnel S k protocol cid username password msgId).Does [] () h)
      (hnone : ∀ tn t, (⟨.spawnTunnel tn, t⟩ : Sigma Resp) ∉ h) :
      Opens S k protocol cid username password msgId h []
  | spawned {h h' : Hist Resp} {tn : Tunnel} {t : Nat} {l : Label}
      (hread : (openTunnel S k protocol cid username password msgId).Does [] () h)
      (hspawn : (⟨.spawnTunnel tn, t⟩ : Sigma Resp) ∈ h) (htask : (runTunnel t).Does [] l h')
      (hbegan : Began t tn h') :
      Opens S k protocol cid username password msgId h h'

/-- The tunnel the reader spawned for the request is `tn`, and its task is `t`. -/
structure Spawns (k : Nat) (p : Protocol) (cid : Uuid) (msgId : Option UInt32) (h : Hist Resp)
    (t : Nat) (tn : Tunnel) : Prop where
  protocol : tn.protocol = p
  conn : tn.conn = k
  cid : tn.cid = cid
  msgId : tn.msgId = msgId
  only : ∀ t' tn', (⟨.spawnTunnel tn', t'⟩ : Sigma Resp) ∈ h ↔ tn' = tn ∧ t' = t
  drew : ∀ sid, (⟨.generateSessionId k, sid⟩ : Sigma Resp) ∈ h ↔ sid = tn.sid
  silent : Silent h

/-- What the agent has said about a request once it was handled. -/
inductive Says (S : Setup) (k : Nat) (p : Protocol) (cid : Uuid) (username password : Option String)
    (msgId : Option UInt32) (h h' : Hist Resp) : List NodeFrameData → Prop
  | refused {kind : FrameError} {message : String}
      (hcred : hasCredentials S username password = false) :
      Says S k p cid username password msgId h h'
        [.webFrame (.error kind message msgId) (.connectionId cid)]
  | opened {t : Nat} {tn : Tunnel} (hspawn : Spawns k p cid msgId h t tn)
      (hready : p = .ssh → Granted t h') :
      Says S k p cid username password msgId h h' [.tunnelOpened p.toU8 cid tn.sid msgId]
  | openedFailed {t : Nat} {tn : Tunnel} {err : String} (hspawn : Spawns k p cid msgId h t tn)
      (hready : p = .sftp) :
      Says S k p cid username password msgId h h'
        [.tunnelOpened p.toU8 cid tn.sid msgId,
          .webFrame (.error .generic err msgId) (.sessionId tn.sid)]
  | failed {t : Nat} {tn : Tunnel} {err : String}
      (hcred : hasCredentials S username password = true) (hspawn : Spawns k p cid msgId h t tn)
      (hp : p = .ssh) (hdark : ¬ Granted t h') :
      Says S k p cid username password msgId h h'
        [.webFrame (.error .generic err msgId) (.sessionId tn.sid)]

section Opening

variable {S : Setup} {k t : Nat} {tn : Tunnel} {p : Protocol} {protocol : UInt8} {cid : Uuid}
  {username password : Option String} {msgId : Option UInt32} {h h' : Hist Resp}

theorem NoneDropped.mono (hs : h <:+ h') (hk : NoneDropped h') : NoneDropped h :=
  fun k g r hmem => hk k g r (hs.subset hmem)

theorem queuedBy_cons {c : Cmd} {r : Resp c} (hc : ∀ op, c ≠ .out op) :
    queuedBy k (⟨c, r⟩ :: h) = queuedBy k h := by
  cases c with
  | out op => exact absurd rfl (hc op)
  | _ => rfl

/-- Who has sent nothing has queued nothing. -/
theorem queuedBy_of_silent : ∀ {h : Hist Resp}, Silent h → queuedBy k h = []
  | [], _ => rfl
  | ⟨c, r⟩ :: h, hs => by
      have hc : ∀ op, c ≠ .out op := by
        rintro op rfl
        exact hs op r List.mem_cons_self
      rw [queuedBy_cons hc]
      exact queuedBy_of_silent fun op r' hmem => hs op r' (List.mem_cons_of_mem _ hmem)

/-- A frame that was not dropped is the next in the queue. -/
theorem queuedBy_trySend {g : NodeFrameData} {r : Except TrySendError Unit}
    (hk : NoneDropped (⟨.out (.trySend k g), r⟩ :: h)) :
    queuedBy k (⟨.out (.trySend k g), r⟩ :: h) = queuedBy k h ++ [g] := by
  cases hk k g r List.mem_cons_self
  simp [queuedBy, ChanOp.puts, Except.isOk, Except.toBool]

/-! ## The reader -/

/-- What a program is known to do, whatever it is answered. -/
abbrev Ends {α : Type} (p : Action α) (Q : α → Hist Resp → Prop) (h : Hist Resp) : Prop :=
  p.Conforms (Issues fun _ _ => True) Q h

/-- The reader refuses the credentials, or goes on without a word. -/
theorem ensureCredentials_ends :
    Ends (ensureCredentials S k cid username password msgId)
      (fun res h => match res with
        | .ok () => hasCredentials S username password = true ∧ h = []
        | .error _ => hasCredentials S username password = false ∧ ∃ kind message r,
            h = [⟨.out (.trySend k (.webFrame (.error kind message msgId) (.connectionId cid))), r⟩])
      [] := by
  unfold ensureCredentials hasCredentials
  cases hu : isBlank username with
  | true => exact conforms_call.2 ⟨trivial, fun r => ⟨by cases S.env.sshAuthMode <;> rfl, _, _, r, rfl⟩⟩
  | false =>
      cases S.env.sshAuthMode with
      | none => exact ⟨rfl, rfl⟩
      | password =>
          cases hp : isBlank password with
          | true => exact conforms_call.2 ⟨trivial, fun r => ⟨rfl, _, _, r, rfl⟩⟩
          | false => exact ⟨rfl, rfl⟩

/-- It spawns one tunnel, and says nothing itself. -/
theorem startTunnel_ends {handle : Nat → SessionHandle} {credentials : ConfigAuth} :
    Ends (startTunnel S k p handle cid credentials msgId)
      (fun _ h => ∃ t tn, Spawns k p cid msgId h t tn) [] := by
  refine conforms_call.2 ⟨trivial, fun sid => ?_⟩
  refine conforms_call.2 ⟨trivial, fun t => ?_⟩
  refine conforms_call.2 ⟨trivial, fun prev => ?_⟩
  have hone (h : Hist Resp) (honly : ∀ t' tn', (⟨.spawnTunnel tn', t'⟩ : Sigma Resp) ∈ h ↔
      tn' = ⟨p, k, cid, sid, ⟨S.env.sshHost, S.env.sshPort, credentials,
        S.env.getSshInactivityDuration⟩, msgId⟩ ∧ t' = t)
      (hdrew : ∀ sid', (⟨.generateSessionId k, sid'⟩ : Sigma Resp) ∈ h ↔ sid' = sid)
      (hsilent : Silent h) : ∃ t tn, Spawns k p cid msgId h t tn :=
    ⟨t, _, rfl, rfl, rfl, rfl, honly, hdrew, hsilent⟩
  cases prev with
  | none => exact hone _ (fun t' tn' => by simp) (fun sid' => by simp) fun put r => by simp
  | some prev =>
      refine conforms_call.2 ⟨trivial, fun _ => ?_⟩
      exact hone _ (fun t' tn' => by simp) (fun sid' => by simp) fun put r => by simp

/-- What the reader does with an `OpenTunnel` for one of the two protocols. -/
theorem openTunnel_ends (hp : Protocol.tryFrom protocol = .ok p) :
    Ends (openTunnel S k protocol cid username password msgId)
      (fun _ h => (hasCredentials S username password = false ∧ ∃ kind message r,
          h = [⟨.out (.trySend k (.webFrame (.error kind message msgId) (.connectionId cid))), r⟩]) ∨
        hasCredentials S username password = true ∧ ∃ t tn, Spawns k p cid msgId h t tn) [] := by
  refine conforms_bind.2 (ensureCredentials_ends.mono fun res h hres => ?_)
  cases res with
  | error err => exact .inl hres
  | ok u =>
      obtain ⟨hcred, rfl⟩ := hres
      dsimp only
      rw [hp]
      cases p with
      | ssh =>
          refine conforms_bind.2 (conforms_weaken (fun _ _ _ => trivial)
            (configAuth_conforms (k := k) hcred fun auth => ?_))
          exact startTunnel_ends.mono fun _ _ hs => .inr ⟨hcred, hs⟩
      | sftp =>
          refine conforms_bind.2 (conforms_weaken (fun _ _ _ => trivial)
            (configAuth_conforms (k := k) hcred fun auth => ?_))
          exact startTunnel_ends.mono fun _ _ hs => .inr ⟨hcred, hs⟩

/-! ## The tunnel task -/

/-- The task has said nothing, and has no shell. -/
structure Quiet (t : Nat) (h : Hist Resp) : Prop where
  silent : Silent h
  dark : ¬ Granted t h

theorem Quiet.cons {q : SshOp} {r : q.Resp} (hq : Quiet t h)
    (hr : (⟨.ssh t q, r⟩ : Sigma Resp) ≠ ⟨.ssh t .requestShell, .ok ()⟩) :
    Quiet t (⟨.ssh t q, r⟩ :: h) := by
  refine ⟨hq.silent.cons fun _ => Cmd.noConfusion, fun hmem => ?_⟩
  rcases List.mem_cons.1 hmem with heq | hmem
  · exact hr heq.symm
  · exact hq.dark hmem

/-- Whatever calls of the SSH connection keep. -/
theorem createClient_ends {P : Hist Resp → Prop}
    (hP : ∀ h q r, q ≠ .requestShell → P h → P (⟨.ssh t q, r⟩ :: h)) {failed : String} (h0 : P h) :
    Ends (createClient t tn failed) (fun _ => P) h := by
  refine conforms_call.2 ⟨trivial, fun connected => ?_⟩
  have hP₁ := hP h (.connect tn.config) connected SshOp.noConfusion h0
  cases connected with
  | error err => exact hP₁
  | ok _ =>
      refine conforms_call.2 ⟨trivial, fun authenticated => ?_⟩
      have hP₂ := hP _ (.authenticate tn.config.credentials) authenticated SshOp.noConfusion hP₁
      match authenticated with
      | .error err => exact hP₂
      | .ok true => exact hP₂
      | .ok false => exact hP₂

/-- A shell is granted last of all. -/
theorem openShell_ends (hq : Quiet t h) :
    Ends (openShell t) (fun res h' => Silent h' ∧ match res with
      | .ok () => Granted t h'
      | .error _ => ¬ Granted t h') h := by
  refine conforms_call.2 ⟨trivial, fun opened => ?_⟩
  have hq₁ : Quiet t (⟨.ssh t .channelOpenSession, opened⟩ :: h) := hq.cons (by simp)
  cases opened with
  | error err => exact ⟨hq₁.silent, hq₁.dark⟩
  | ok _ =>
      refine conforms_call.2 ⟨trivial, fun pty => ?_⟩
      have hq₂ := hq₁.cons (q := .requestPty) (r := pty) (by simp)
      cases pty with
      | error err => exact ⟨hq₂.silent, hq₂.dark⟩
      | ok _ =>
          refine conforms_call.2 ⟨trivial, fun shell => ?_⟩
          have hsilent := hq₂.silent.cons (c := .ssh t .requestShell) (r := shell)
            fun _ => Cmd.noConfusion
          cases shell with
          | error err => exact ⟨hsilent, (hq₂.cons (q := .requestShell) (r := .error err) (by simp)).dark⟩
          | ok _ => exact ⟨hsilent, List.mem_cons_self⟩

/-- A task whose tunnel failed ends with one error. -/
theorem endTunnel_ends {err : String} :
    Ends (endTunnel t tn (.error err)) (fun _ h' => (Granted t h' ↔ Granted t h) ∧
      (NoneDropped h' → queuedBy tn.conn h' = queuedBy tn.conn h ++
        [.webFrame (.error .generic err tn.msgId) (.sessionId tn.sid)])) h := by
  have hrest (e : Sigma Resp) (hshell : e ≠ ⟨.ssh t .requestShell, .ok ()⟩)
      (hout : queuedBy tn.conn (e :: h) = queuedBy tn.conn h) :
      Ends (do
        sendFrameData tn.conn (.webFrame (.error .generic err tn.msgId) (.sessionId tn.sid))
        call .finish
        return Label.done) (fun _ h' => (Granted t h' ↔ Granted t h) ∧
          (NoneDropped h' → queuedBy tn.conn h' = queuedBy tn.conn h ++
            [.webFrame (.error .generic err tn.msgId) (.sessionId tn.sid)])) (e :: h) := by
    refine conforms_call.2 ⟨trivial, fun r => conforms_call.2 ⟨trivial, fun _ => ⟨?_, ?_⟩⟩⟩
    · simp [Granted, hshell.symm]
    · intro hkept
      rw [queuedBy_cons fun _ => Cmd.noConfusion,
        queuedBy_trySend (hkept.mono (List.suffix_cons _ _)), hout]
  unfold endTunnel dropStdin
  cases tn.protocol with
  | ssh => exact conforms_call.2 ⟨trivial, fun r => hrest _ (by simp) rfl⟩
  | sftp => exact conforms_call.2 ⟨trivial, fun r => hrest _ (by simp) rfl⟩

/-- What `start_ssh_tunnel` and `start_sftp_tunnel` come to say about a tunnel. -/
inductive Told (t : Nat) (tn : Tunnel) (h : Hist Resp) : Prop
  | opened (hready : tn.protocol = .ssh → Granted t h)
      (hsaid : queuedBy tn.conn h = [.tunnelOpened tn.protocol.toU8 tn.cid tn.sid tn.msgId])
  | openedFailed (err : String) (hp : tn.protocol = .sftp)
      (hsaid : queuedBy tn.conn h = [.tunnelOpened tn.protocol.toU8 tn.cid tn.sid tn.msgId,
        .webFrame (.error .generic err tn.msgId) (.sessionId tn.sid)])
  | failed (err : String) (hp : tn.protocol = .ssh) (hdark : ¬ Granted t h)
      (hsaid : queuedBy tn.conn h = [.webFrame (.error .generic err tn.msgId) (.sessionId tn.sid)])

theorem sshConnect_ends (hp : tn.protocol = .ssh) (hq : Quiet t h) :
    Ends (sshConnect t tn) (fun _ h' => NoneDropped h' → Told t tn h') h := by
  have hfailed {h' : Hist Resp} {err : String} (hsilent : Silent h') (hdark : ¬ Granted t h') :
      Ends (endTunnel t tn (.error err)) (fun _ h' => NoneDropped h' → Told t tn h') h' := by
    refine endTunnel_ends.mono fun _ h₁ hend hkept => .failed err hp (fun hg => hdark (hend.1.1 hg)) ?_
    rw [hend.2 hkept, queuedBy_of_silent hsilent]
    rfl
  refine conforms_bind.2 ((createClient_ends (P := Quiet t)
    (fun _ q r hne hq => hq.cons ?_) hq).mono fun created h₁ hq₁ => ?_)
  · intro heq
    cases heq
    exact hne rfl
  cases created with
  | error err => exact hfailed hq₁.silent hq₁.dark
  | ok _ =>
      refine conforms_bind.2 ((openShell_ends hq₁).mono fun opened h₂ hopened => ?_)
      obtain ⟨hsilent, hshell⟩ := hopened
      cases opened with
      | error err => exact hfailed hsilent hshell
      | ok _ =>
          refine conforms_call.2 ⟨trivial, fun r hkept => .opened (fun _ => ?_) ?_⟩
          · exact List.mem_cons_of_mem _ hshell
          · rw [queuedBy_trySend hkept, queuedBy_of_silent hsilent]
            rfl

/-- An SFTP tunnel has been reported open, and nothing else was said. -/
structure Reported (tn : Tunnel) (h : Hist Resp) : Prop where
  said : NoneDropped h →
    queuedBy tn.conn h = [.tunnelOpened tn.protocol.toU8 tn.cid tn.sid tn.msgId]

theorem Reported.cons {q : SshOp} {r : q.Resp} (hr : Reported tn h) :
    Reported tn (⟨.ssh t q, r⟩ :: h) := by
  refine ⟨fun hkept => ?_⟩
  rw [queuedBy_cons fun _ => Cmd.noConfusion]
  exact hr.said (hkept.mono (List.suffix_cons _ _))

theorem openSftp_ends (hr : Reported tn h) : Ends (openSftp t) (fun _ => Reported tn) h := by
  refine conforms_call.2 ⟨trivial, fun opened => ?_⟩
  cases opened with
  | error err => exact hr.cons
  | ok _ =>
      refine conforms_call.2 ⟨trivial, fun granted => ?_⟩
      cases granted with
      | error err => exact hr.cons.cons
      | ok _ =>
          refine conforms_call.2 ⟨trivial, fun started => ?_⟩
          cases started with
          | error err => exact hr.cons.cons.cons
          | ok _ => exact hr.cons.cons.cons

theorem sftpConnect_ends (hp : tn.protocol = .sftp) (hsilent : Silent h) :
    Ends (sftpConnect t tn) (fun _ h' => NoneDropped h' → Told t tn h') h := by
  have hfailed {h' : Hist Resp} {err : String} (hr : Reported tn h') :
      Ends (endTunnel t tn (.error err)) (fun _ h' => NoneDropped h' → Told t tn h') h' := by
    refine (endTunnel_ends.suffix).mono fun _ h₁ hend hkept => .openedFailed err hp ?_
    rw [hend.1.2 hkept, hr.said (hkept.mono hend.2)]
    rfl
  refine conforms_call.2 ⟨trivial, fun r => ?_⟩
  have hr : Reported tn (⟨.out (.trySend tn.conn
      (.tunnelOpened tn.protocol.toU8 tn.cid tn.sid tn.msgId)), r⟩ :: h) := by
    refine ⟨fun hkept => ?_⟩
    rw [queuedBy_trySend hkept, queuedBy_of_silent hsilent]
    rfl
  refine conforms_bind.2 ((createClient_ends (P := Reported tn) (fun _ _ _ _ hr => hr.cons)
    hr).mono fun created h₁ hr₁ => ?_)
  cases created with
  | error err => exact hfailed hr₁
  | ok _ =>
      refine conforms_bind.2 ((openSftp_ends hr₁).mono fun opened h₂ hr₂ => ?_)
      cases opened with
      | error err => exact hfailed hr₂
      | ok _ => exact fun hkept => .opened (fun hssh => by rw [hp] at hssh; cases hssh) (hr₂.said hkept)

/-- What a tunnel task has said when its tunnel is open or it has ended. -/
theorem runTunnel_ends :
    Ends (runTunnel t) (fun _ h => ∃ tn, Began t tn h ∧ (NoneDropped h → Told t tn h)) [] := by
  refine conforms_call.2 ⟨trivial, fun tn => ?_⟩
  have hsilent : Silent [⟨.begin t, tn⟩] := by
    intro put r hmem
    cases List.mem_singleton.1 hmem
  have hdark : ¬ Granted t [⟨.begin t, tn⟩] := by
    intro hmem
    cases List.mem_singleton.1 hmem
  split
  · next hp =>
      exact ((sshConnect_ends hp ⟨hsilent, hdark⟩).suffix).mono fun _ h hend => ⟨tn, hend.2, hend.1⟩
  · next hp =>
      exact ((sftpConnect_ends hp hsilent).suffix).mono fun _ h hend => ⟨tn, hend.2, hend.1⟩

/-! ## The request -/

/-- **What the agent has said about a request**, once it was handled. -/
theorem Opens.says (hp : Protocol.tryFrom protocol = .ok p)
    (ho : Opens S k protocol cid username password msgId h h') (hkept : NoneDropped h)
    (hkept' : NoneDropped h') :
    Says S k p cid username password msgId h h' (queuedBy k h ++ queuedBy k h') := by
  cases ho with
  | refused hread hnone =>
      rcases hread.post (openTunnel_ends hp) with ⟨hcred, kind, message, r, rfl⟩ | ⟨-, t, tn, hs⟩
      · rw [queuedBy_trySend hkept]
        exact .refused hcred
      · exact absurd ((hs.only t tn).2 ⟨rfl, rfl⟩) (hnone tn t)
  | @spawned _ tn t l hread hspawn htask hbegan =>
      rcases hread.post (openTunnel_ends hp) with ⟨-, kind, message, r, rfl⟩ | ⟨hcred, t', tn', hs⟩
      · cases List.mem_singleton.1 hspawn
      · obtain ⟨rfl, rfl⟩ := (hs.only t tn).1 hspawn
        obtain ⟨tn', hbegan', htold⟩ := htask.post runTunnel_ends
        obtain rfl := hbegan.unique hbegan'
        rw [queuedBy_of_silent hs.silent, List.nil_append]
        obtain rfl := hs.protocol
        obtain rfl := hs.conn
        obtain rfl := hs.cid
        obtain rfl := hs.msgId
        cases htold hkept' with
        | opened hready hsaid =>
            rw [hsaid]
            exact .opened hs hready
        | openedFailed err hsftp hsaid =>
            rw [hsaid]
            exact .openedFailed hs hsftp
        | failed err hssh hdark hsaid =>
            rw [hsaid]
            exact .failed hcred hs hssh hdark

end Opening

end Phirepass.Agent
