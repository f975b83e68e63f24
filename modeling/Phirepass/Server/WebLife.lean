/-
# `Phirepass.Server.WebLife` — one web socket from login to cleanup

A web socket's task logs in, acts on messages until one makes it leave, and
then cleans up.  `Lives` says this of its whole history, label by label:

    Entered      the code of `handle_web_socket`, up to the loop
    Acted        each message, and the code it runs
    CleanedUp    `disconnect_web_client`, and one notice for each node met

and `WebPhase` says which commands belong to which part, so that the order
of a frame and of the notice behind it is a fact about one event.
-/
import Phirepass.Interleave.Path
import Phirepass.Server.Registries

namespace Phirepass.Server

open Rust Interleave Prog

/-! ## Messages -/

/-- A second login, and what only the server sends. -/
def leavesOn : WebFrameData → Bool
  | .auth .. | .authSuccess .. | .tunnelOpened .. | .tunnelClosed .. | .sftpListItems ..
  | .sftpDownloadStartResponse .. | .sftpDownloadChunk .. | .sftpUploadStartResponse ..
  | .sftpUploadChunkAck .. | .error .. => true
  | .heartbeat .. | .openTunnel .. | .tunnelData .. | .sshWindowResize .. | .sftpList ..
  | .sftpDownloadStart .. | .sftpDownloadChunkRequest .. | .sftpUploadStart .. | .sftpUpload ..
  | .sftpDelete .. => false

/-- The messages that end the loop of a web socket. -/
def leaves : Incoming → Bool
  | some (.ok (.binary (.ok ⟨_, _, .web webFrame⟩))) => leavesOn webFrame
  | some (.ok .other) => false
  | none | some (.error ()) | some (.ok .close) | some (.ok (.binary (.error _)))
  | some (.ok (.binary (.ok ⟨_, _, .node _⟩))) => true

/-- What the loop does about a message. -/
def actOn (S : Setup) (cid : Uuid) (m : Incoming) : Action Bool :=
  match m.webFrame? with
  | some webFrame => handleWebFrame S cid webFrame
  | none => return !leaves m

/-- The messages of a history, latest first. -/
def reads : Hist Resp → List Incoming
  | [] => []
  | ⟨.ws .next, m⟩ :: h => m :: reads h
  | _ :: h => reads h

/-! ## The life of a web socket -/

/-- The login was accepted as `cid` and the connection entered. -/
def Entered (S : Setup) (i : Nat) (cid : Uuid) (h : Hist Resp) : Prop :=
  (handleWebSocket S i).Does [] (.webMessages i cid) h

/-- From `h₀` on, the messages `ms`, latest first, were read and each acted on. -/
inductive Acted (S : Setup) (cid : Uuid) (h₀ : Hist Resp) : List Incoming → Hist Resp → Prop
  | nil : Acted S cid h₀ [] h₀
  | cons {m : Incoming} {ms : List Incoming} {h h' : Hist Resp} (hbefore : Acted S cid h₀ ms h)
      (hstay : leaves m = false) (hact : (actOn S cid m).Does (⟨.ws .next, m⟩ :: h) true h') :
      Acted S cid h₀ (m :: ms) h'

/-- The task entered `cid`, acted on `ms` and left on `m`. -/
def Served (S : Setup) (i : Nat) (cid : Uuid) (ms : List Incoming) (m : Incoming)
    (h : Hist Resp) : Prop :=
  ∃ h₀ h₁, Entered S i cid h₀ ∧ Acted S cid h₀ ms h₁ ∧ leaves m = true ∧
    h = ⟨.ws .next, m⟩ :: h₁

/-- A node that was sent a notice, its entry, and whether its queue took it. -/
abbrev Told : Type := Uuid × NodeConnection × Bool

/-- From `h₀` on, the nodes `told`, latest first, were met and sent `ConnectionDisconnect`. -/
inductive Walked (cid : Uuid) (start : List Uuid) (h₀ : Hist Resp) :
    List Told → Hist Resp → Prop
  | nil : Walked cid start h₀ [] h₀
  | cons {n : Uuid} {conn : NodeConnection} {sent : Bool} {told : List Told} {h : Hist Resp}
      (hbefore : Walked cid start h₀ told h) :
      Walked cid start h₀ ((n, conn, sent) :: told)
        (⟨.node (.send conn.tx (.connectionDisconnect cid)), sent⟩ ::
          ⟨.nodes (.next start (told.map Prod.fst)), some (n, conn)⟩ :: h)

/-- `disconnect_web_client`, as far as the nodes `told`. -/
def Leaving (i : Nat) (cid : Uuid) (h₁ : Hist Resp) (start : List Uuid) (told : List Told)
    (h : Hist Resp) : Prop :=
  ∃ h₂, (closeWebSocket i cid).Does h₁ (.webNotify i cid start []) h₂ ∧ Walked cid start h₂ told h

/-- All of it. -/
def CleanedUp (i : Nat) (cid : Uuid) (h₁ : Hist Resp) (told : List Told) (h : Hist Resp) : Prop :=
  ∃ start h₃, Leaving i cid h₁ start told h₃ ∧
    h = ⟨.finish, ()⟩ :: ⟨.nodes (.next start (told.map Prod.fst)), none⟩ :: h₃

/-- The login was not accepted. -/
def Rejected (h : Hist Resp) : Prop := ∀ e ∈ h, e.1.isLogin = true

/-- The history of the task of web socket `i` at each of its labels. -/
def Lives (S : Setup) (i : Nat) : Label → Hist Resp → Prop
  | .webSocket j, h => j = i ∧ h = []
  | .webMessages j cid, h => j = i ∧ ∃ h₀ ms, Entered S i cid h₀ ∧ Acted S cid h₀ ms h
  | .webClosing j cid, h => j = i ∧ ∃ ms m, Served S i cid ms m h
  | .webNotify j cid start visited, h =>
      j = i ∧ ∃ ms m h₁ told, Served S i cid ms m h₁ ∧ Leaving i cid h₁ start told h ∧
        visited = told.map Prod.fst
  | .done, h =>
      Rejected h ∨ ∃ cid ms m h₁ told, Served S i cid ms m h₁ ∧ CleanedUp i cid h₁ told h
  | _, _ => False

/-! ## Which command belongs where -/

/-- The commands that tell a node that a client is gone. -/
def Cmd.isNotice : Cmd → Bool
  | .node (.send _ (.connectionDisconnect _)) => true
  | _ => false

/-- The walk over the nodes has begun. -/
def Cleaning (h : Hist Resp) : Prop := ∃ start, (⟨.nodes .keys, start⟩ : Sigma Resp) ∈ h

/-- When a command may be issued. -/
def WebPhase (h : Hist Resp) : Cmd → Prop
  | .ws .next => ∀ m ∈ (reads h).dropLast, leaves m = false
  | .connections (.remove _) => ¬ Unentered h
  | .nodes (.next _ _) | .node (.send _ (.connectionDisconnect _)) => Cleaning h
  | .node (.send _ _) => ¬ Cleaning h ∧ ¬ Unentered h
  | _ => True

/-- The commands with which the loop acts on a message. -/
def Cmd.isAct : Cmd → Bool
  | .node (.send _ (.connectionDisconnect _)) => false
  | .node (.send _ _) | .web (.send _ _) | .now | .tunnelSessions (.get _) | .nodes (.get _)
  | .connections (.get _) | .connections (.modify _ _) => true
  | _ => false

/-- The task is in its loop. -/
structure Attending (h : Hist Resp) : Prop where
  stays : ∀ m ∈ (reads h).dropLast, leaves m = false
  some : reads h ≠ []
  cleaning : ¬ Cleaning h
  entered : ¬ Unentered h
  unsaid : ∀ e ∈ h, e.1.isNotice = false

section Bodies

variable {S : Setup} {i : Nat} {cid : Uuid} {h h' : Hist Resp}

theorem reads_cons {c : Cmd} {r : Resp c} (hc : c ≠ .ws .next) : reads (⟨c, r⟩ :: h) = reads h := by
  cases c with
  | ws op =>
      cases op with
      | next => exact absurd rfl hc
      | send | close => rfl
  | _ => rfl

theorem cleaning_cons {c : Cmd} {r : Resp c} (hc : c ≠ .nodes .keys) :
    Cleaning (⟨c, r⟩ :: h) ↔ Cleaning h := by
  constructor
  · rintro ⟨start, hmem⟩
    rcases List.mem_cons.1 hmem with heq | hmem
    · cases heq
      exact absurd rfl hc
    · exact ⟨start, hmem⟩
  · rintro ⟨start, hmem⟩
    exact ⟨start, List.mem_cons_of_mem _ hmem⟩

theorem Unentered.of_cons {e : Sigma Resp} (hu : Unentered (e :: h)) : Unentered h :=
  fun cid conn r hmem => hu cid conn r (List.mem_cons_of_mem _ hmem)

/-! ## The loop -/

/-- The loop reads a message and acts on it. -/
theorem handleWebMessages_eq : handleWebMessages S i cid = (do
    let m ← call (.ws .next)
    if ← actOn S cid m then return .webMessages i cid else return .webClosing i cid) := by
  unfold handleWebMessages
  congr 1
  funext m
  match m with
  | none | some (.error ()) | some (.ok .close) | some (.ok .other)
  | some (.ok (.binary (.error _))) | some (.ok (.binary (.ok ⟨_, _, .node _⟩)))
  | some (.ok (.binary (.ok ⟨_, _, .web _⟩))) => rfl

theorem actOn_of_leaves {m : Incoming} (hm : leaves m = true) : actOn S cid m = return false := by
  match m with
  | none | some (.error ()) | some (.ok .close) | some (.ok (.binary (.error _)))
  | some (.ok (.binary (.ok ⟨_, _, .node _⟩))) => rfl
  | some (.ok .other) => cases hm
  | some (.ok (.binary (.ok ⟨_, _, .web f⟩))) => cases f <;> first | rfl | cases hm

theorem notify_isAct {frame : WebFrameData} :
    (notifyClientByCid cid frame).Conforms (Issues fun _ c => c.isAct = true) (fun _ _ => True) h := by
  refine conforms_call.2 ⟨rfl, fun found => ?_⟩
  cases found with
  | none => trivial
  | some connection =>
      refine conforms_call.2 ⟨rfl, fun sent => ?_⟩
      cases sent <;> trivial

theorem forward_isAct {target : String} {sid : UInt32} {g : NodeFrameData}
    (hg : ∀ k, (Cmd.node (.send k g)).isAct = true) :
    (forwardToNode S cid target sid g).Conforms (Issues fun _ c => c.isAct = true)
      (fun _ _ => True) h := by
  refine conforms_bind.2 ?_
  unfold getNodeIdByCidAndSid
  split
  · trivial
  · refine conforms_call.2 ⟨rfl, fun found => ?_⟩
    cases found with
    | none => trivial
    | some v =>
        simp only []
        split
        · trivial
        · refine conforms_call.2 ⟨rfl, fun info => ?_⟩
          cases info with
          | none => trivial
          | some info => exact conforms_call.2 ⟨hg info.tx, fun _ => trivial⟩

theorem openTunnel_isAct {protocol : UInt8} {target : String} {msgId : Option UInt32}
    {username password : Option String} :
    (handleWebOpenTunnel S cid protocol target msgId username password).Conforms
      (Issues fun _ c => c.isAct = true) (fun _ _ => True) h := by
  unfold handleWebOpenTunnel
  split
  · trivial
  · refine conforms_call.2 ⟨rfl, fun info => ?_⟩
    cases info with
    | none => exact conforms_bind.2 (notify_isAct.mono fun _ _ _ => trivial)
    | some info => exact conforms_call.2 ⟨rfl, fun _ => trivial⟩

/-- Acting on a message takes these commands, and goes on unless the message leaves. -/
theorem actOn_isAct {m : Incoming} : (actOn S cid m).Conforms (Issues fun _ c => c.isAct = true)
    (fun go _ => go = !leaves m) h := by
  match m with
  | none | some (.error ()) | some (.ok .close) | some (.ok .other)
  | some (.ok (.binary (.error _))) | some (.ok (.binary (.ok ⟨_, _, .node _⟩))) => rfl
  | some (.ok (.binary (.ok ⟨_, _, .web f⟩))) =>
      cases f with
      | heartbeat =>
          exact conforms_bind.2 (conforms_call.2 ⟨rfl, fun _ => conforms_call.2 ⟨rfl, fun _ => rfl⟩⟩)
      | openTunnel => exact conforms_bind.2 (openTunnel_isAct.mono fun _ _ _ => rfl)
      | tunnelData | sshWindowResize | sftpList | sftpDownloadStart | sftpDownloadChunkRequest
      | sftpUploadStart | sftpUpload | sftpDelete =>
          exact conforms_bind.2 ((forward_isAct fun _ => rfl).mono fun _ _ _ => rfl)
      | _ => rfl

theorem isNotice_of_isAct {c : Cmd} (hc : c.isAct = true) : c.isNotice = false := by
  cases c with
  | node op =>
      cases op with
      | send k g => cases g <;> first | rfl | cases hc
      | _ => rfl
  | _ => rfl

theorem Attending.act {c : Cmd} {r : Resp c} (hc : c.isAct = true) (hl : Attending h) :
    Attending (⟨c, r⟩ :: h) := by
  have hnext : c ≠ .ws .next := by
    rintro rfl
    cases hc
  have hkeys : c ≠ .nodes .keys := by
    rintro rfl
    cases hc
  refine ⟨?_, ?_, ?_, fun hu => hl.entered hu.of_cons, fun e hmem => ?_⟩
  · rw [reads_cons hnext]
    exact hl.stays
  · rw [reads_cons hnext]
    exact hl.some
  · rw [cleaning_cons hkeys]
    exact hl.cleaning
  · rcases List.mem_cons.1 hmem with rfl | hmem
    · exact isNotice_of_isAct hc
    · exact hl.unsaid e hmem

theorem WebPhase.act {c : Cmd} (hc : c.isAct = true) (hl : Attending h) : WebPhase h c := by
  cases c with
  | ws op | connections op => cases op <;> trivial
  | node op =>
      cases op with
      | send k g =>
          cases g with
          | connectionDisconnect => cases hc
          | _ => exact ⟨hl.cleaning, hl.entered⟩
      | _ => trivial
  | nodes op =>
      cases op with
      | next => cases hc
      | _ => trivial
  | _ => trivial

/-- A message is acted on within the loop. -/
theorem actOn_attending {m : Incoming} (hl : Attending h) :
    (actOn S cid m).Conforms (Issues WebPhase)
      (fun go h' => go = (!leaves m) ∧ Attending h') h :=
  conforms_weaken (fun _ _ hc => .act hc.1 hc.2)
    (actOn_isAct.along (fun _ _ _ hc hl => hl.act hc) hl)

/-- A message that does not leave. -/
theorem Attending.read {m : Incoming} (hm : leaves m = false) (hl : Attending h) :
    Attending (⟨.ws .next, m⟩ :: h) := by
  refine ⟨?_, List.cons_ne_nil _ _, ?_, fun hu => hl.entered hu.of_cons, fun e hmem => ?_⟩
  · show ∀ m' ∈ (m :: reads h).dropLast, leaves m' = false
    rw [List.dropLast_cons_of_ne_nil hl.some]
    intro m' hmem
    rcases List.mem_cons.1 hmem with rfl | hmem
    · exact hm
    · exact hl.stays m' hmem
  · rw [cleaning_cons (by simp)]
    exact hl.cleaning
  · rcases List.mem_cons.1 hmem with rfl | hmem
    · rfl
    · exact hl.unsaid e hmem

theorem actOn_reads {m : Incoming} : (actOn S cid m).Conforms (Issues fun _ c => c.isAct = true)
    (fun _ h' => reads h' = reads h) h := by
  refine conforms_weaken (fun _ _ hc => hc.1) ((actOn_isAct.along (I := fun h' => reads h' = reads h)
    (fun h' c r hc hr => ?_) rfl).mono fun _ _ hpost => hpost.2)
  rw [reads_cons, hr]
  rintro rfl
  cases hc

theorem Acted.attending {h₀ : Hist Resp} {ms : List Incoming} (ha : Acted S cid h₀ ms h)
    (h0 : Attending h₀) : Attending h := by
  induction ha with
  | nil => exact h0
  | cons _ hstay hact ih => exact (hact.post (actOn_attending (ih.read hstay))).2

/-- The messages acted on are the messages read. -/
theorem Acted.reads_eq {h₀ : Hist Resp} {ms : List Incoming} (ha : Acted S cid h₀ ms h) :
    reads h = ms ++ reads h₀ ∧ ∀ m ∈ ms, leaves m = false := by
  induction ha with
  | nil => exact ⟨rfl, by simp⟩
  | @cons m ms h h' _ hstay hact ih =>
      refine ⟨?_, fun m' hmem => ?_⟩
      · rw [hact.post actOn_reads]
        show m :: reads h = _
        rw [ih.1, List.cons_append]
      · rcases List.mem_cons.1 hmem with rfl | hmem
        · exact hstay
        · exact ih.2 m' hmem

/-! ## The login -/

/-- The first message, of a login that is accepted, is an `Auth`. -/
def IsAuth (m : Incoming) : Prop :=
  ∃ token nodeId version msgId, m.webFrame? = some (.auth token nodeId version msgId)

theorem webWaitForAuth_auth : (webWaitForAuth S i).Conforms (Issues fun _ _ => True)
    (fun res h => ∀ cid, res = .ok cid → ∃ m, ⟨.ws .next, m⟩ ∈ h ∧ IsAuth m) [] := by
  refine conforms_call.2 ⟨trivial, fun m => ?_⟩
  split
  all_goals try exact fun _ hc => nomatch hc
  next version encoding webFrame =>
    split
    · next token nodeId clientVersion msgId =>
        refine conforms_call.2 ⟨trivial, fun cid => conforms_suffix.mono fun res h hsuf _ _ => ?_⟩
        have hmem := hsuf.subset (List.mem_cons_of_mem _ List.mem_cons_self)
        exact ⟨_, hmem, token, nodeId, clientVersion, msgId, rfl⟩
    · exact fun _ hc => nomatch hc

theorem WebLogin.phase {c : Cmd} (hc : WebLogin i h c) : WebPhase h c := by
  cases hc with
  | next => exact fun _ hmem => nomatch hmem
  | _ => trivial

theorem isNotice_of_isLogin {c : Cmd} (hc : c.isLogin = true) : c.isNotice = false := by
  cases c with
  | node => cases hc
  | _ => rfl

/-- A history of a login. -/
structure Login (h : Hist Resp) : Prop where
  rejected : Rejected h
  one : (reads h).length ≤ 1

theorem WebLogin.login {c : Cmd} {r : Resp c} (hc : WebLogin i h c) (hl : Login h) :
    Login (⟨c, r⟩ :: h) := by
  refine ⟨fun e hmem => ?_, ?_⟩
  · rcases List.mem_cons.1 hmem with rfl | hmem
    · exact hc.isLogin
    · exact hl.rejected e hmem
  · by_cases hnext : c = .ws .next
    · subst hnext
      cases hc
      exact le_rfl
    · rw [reads_cons hnext]
      exact hl.one

theorem mem_reads {m : Incoming} (hm : (⟨.ws .next, m⟩ : Sigma Resp) ∈ h) : m ∈ reads h := by
  induction h with
  | nil => exact (List.not_mem_nil hm).elim
  | cons e h ih =>
      rcases List.mem_cons.1 hm with rfl | hmem
      · exact List.mem_cons_self
      · obtain ⟨c, r⟩ := e
        by_cases hnext : c = .ws .next
        · subst hnext
          exact List.mem_cons_of_mem _ (ih hmem)
        · rw [reads_cons hnext]
          exact ih hmem

/-- What a task knows when it enters its loop as `cid`. -/
structure Admitted (S : Setup) (i : Nat) (cid : Uuid) (h : Hist Resp) : Prop where
  loggedIn : LoggedIn S h cid
  attending : Attending h
  auth : ∃ m, reads h = [m] ∧ IsAuth m

/-- A login is refused, or ends with the connection entered. -/
theorem handleWebSocket_phase : (handleWebSocket S i).Conforms (Issues WebPhase)
    (fun l h => (l = .done ∧ Rejected h) ∨ ∃ cid, l = .webMessages i cid ∧ Admitted S i cid h) [] := by
  have hstart : Login [] := ⟨fun _ hmem => (List.not_mem_nil hmem).elim, Nat.zero_le _⟩
  have hwait := (webWaitForAuth_conforms (S := S) (i := i)).along
    (fun _ _ _ hc hl => hc.login hl) hstart
  refine conforms_bind.2 (conforms_weaken (fun _ _ hc => hc.1.1.phase)
    ((hwait.and webWaitForAuth_auth).mono fun res h hpost => ?_))
  obtain ⟨⟨hlogged, hlogin⟩, hauth⟩ := hpost
  cases res with
  | error err =>
      refine conforms_call.2 ⟨trivial, fun _ => conforms_call.2 ⟨trivial, fun _ =>
        conforms_call.2 ⟨trivial, fun _ => .inl ⟨rfl, fun e hmem => ?_⟩⟩⟩⟩
      simp only [List.mem_cons] at hmem
      rcases hmem with rfl | rfl | rfl | hmem
      · rfl
      · rfl
      · rfl
      · exact hlogin.rejected e hmem
  | ok cid =>
      refine conforms_call.2 ⟨trivial, fun now => conforms_call.2 ⟨trivial, fun old =>
        conforms_call.2 ⟨trivial, fun written => conforms_call.2 ⟨trivial, fun _ =>
          .inr ⟨cid, rfl, ?_⟩⟩⟩⟩⟩
      obtain ⟨m, hm, hauth⟩ := hauth cid rfl
      have hreads : reads h = [m] := by
        have hmem := mem_reads hm
        obtain ⟨m', hone⟩ := List.length_eq_one_iff.1
          (le_antisymm hlogin.one (List.length_pos_of_mem hmem))
        rw [hone, List.mem_singleton] at hmem
        rw [hone, hmem]
      refine ⟨(hlogged cid rfl).mono ?_, ⟨?_, ?_, ?_, fun hu => ?_, fun e hmem => ?_⟩, m, hreads,
        hauth⟩
      · exact ((List.suffix_cons _ _).trans (List.suffix_cons _ _)).trans
          ((List.suffix_cons _ _).trans (List.suffix_cons _ _))
      · show ∀ m ∈ (reads h).dropLast, leaves m = false
        rw [hreads]
        exact fun _ hmem => nomatch hmem
      · show reads h ≠ []
        rw [hreads]
        exact List.cons_ne_nil _ _
      · rintro ⟨start, hmem⟩
        simp only [List.mem_cons, Sigma.mk.injEq, reduceCtorEq, false_and, false_or] at hmem
        exact nomatch hlogin.rejected _ hmem
      · exact hu _ _ _ (List.mem_cons_of_mem _ (List.mem_cons_of_mem _ List.mem_cons_self))
      · simp only [List.mem_cons] at hmem
        rcases hmem with rfl | rfl | rfl | rfl | hmem
        · rfl
        · rfl
        · rfl
        · rfl
        · exact isNotice_of_isLogin (hlogin.rejected e hmem)

theorem Entered.admitted (he : Entered S i cid h) : Admitted S i cid h := by
  rcases he.post handleWebSocket_phase with ⟨hl, -⟩ | ⟨cid', hl, had⟩
  · cases hl
  · cases hl
    exact had

/-! ## The cleanup -/

/-- What the first part of `disconnect_web_client` adds to the history. -/
inductive WebClosed (i : Nat) (cid : Uuid) (start : List Uuid) (h₁ : Hist Resp) : Hist Resp → Prop
  | removed {conn : WebConnection} {written : Bool} :
      WebClosed i cid start h₁ (⟨.nodes .keys, start⟩ ::
        ⟨.memoryDb (.setConnectionDisconnected cid), written⟩ ::
        ⟨.connections (.remove cid), some conn⟩ :: ⟨.webWriter (.abort i), ()⟩ :: h₁)
  | evicted : WebClosed i cid start h₁ (⟨.nodes .keys, start⟩ ::
      ⟨.connections (.remove cid), none⟩ :: ⟨.webWriter (.abort i), ()⟩ :: h₁)

theorem closeWebSocket_phase (hu : ¬ Unentered h) : (closeWebSocket i cid).Conforms (Issues WebPhase)
    (fun l h' => ∃ start, l = .webNotify i cid start [] ∧ WebClosed i cid start h h') h := by
  refine conforms_call.2 ⟨trivial, fun _ => conforms_call.2 ⟨fun hu' => hu hu'.of_cons,
    fun found => ?_⟩⟩
  cases found with
  | none => exact conforms_bind.2 (conforms_call.2 ⟨trivial, fun start => ⟨start, rfl, .evicted⟩⟩)
  | some conn =>
      exact conforms_bind.2 (conforms_call.2 ⟨trivial, fun written => conforms_call.2 ⟨trivial,
        fun start => ⟨start, rfl, .removed⟩⟩⟩)

theorem WebClosed.cleaning {start : List Uuid} (hc : WebClosed i cid start h h') : Cleaning h' := by
  cases hc <;> exact ⟨start, List.mem_cons_self⟩

theorem WebClosed.suffix {start : List Uuid} (hc : WebClosed i cid start h h') : h <:+ h' := by
  cases hc with
  | removed => exact ⟨[_, _, _, _], rfl⟩
  | evicted => exact ⟨[_, _, _], rfl⟩

theorem Walked.suffix {start : List Uuid} {told : List Told} (hw : Walked cid start h told h') :
    h <:+ h' := by
  induction hw with
  | nil => exact List.suffix_rfl
  | cons _ ih => exact ih.trans ((List.suffix_cons _ _).trans (List.suffix_cons _ _))

theorem Cleaning.mono (hs : h <:+ h') (hc : Cleaning h) : Cleaning h' := by
  obtain ⟨start, hmem⟩ := hc
  exact ⟨start, hs.subset hmem⟩

/-- A socket that has left its loop knows what it knew there. -/
theorem Served.admitted {ms : List Incoming} {m : Incoming} (hs : Served S i cid ms m h) :
    ∃ h₁ auth, h = ⟨.ws .next, m⟩ :: h₁ ∧ LoggedIn S h cid ∧ Attending h₁ ∧
      reads h = m :: ms ++ [auth] ∧ IsAuth auth ∧ leaves m = true ∧
      ∀ m' ∈ ms, leaves m' = false := by
  obtain ⟨h₀, h₁, he, ha, hm, rfl⟩ := hs
  obtain ⟨hl, hat, auth, hreads, hauth⟩ := he.admitted
  obtain ⟨hms, hstay⟩ := ha.reads_eq
  refine ⟨h₁, auth, rfl, hl.mono ?_, ha.attending hat, ?_, hauth, hm, hstay⟩
  · have hsuf : h₀ <:+ h₁ := by
      clear hms hstay
      induction ha with
      | nil => exact List.suffix_rfl
      | cons _ _ hact ih =>
          exact ih.trans ((List.suffix_cons _ _).trans (hact.post conforms_suffix))
    exact hsuf.trans (List.suffix_cons _ _)
  · show m :: reads h₁ = _
    rw [hms, hreads, List.cons_append]

theorem Leaving.closing {start : List Uuid} {told : List Told} {ms : List Incoming} {m : Incoming}
    {h₁ : Hist Resp} (hs : Served S i cid ms m h₁) (hl : Leaving i cid h₁ start told h) :
    ∃ h₂, WebClosed i cid start h₁ h₂ ∧ Walked cid start h₂ told h := by
  obtain ⟨h₂, hclose, hw⟩ := hl
  obtain ⟨h₀, -, rfl, -, hat, -⟩ := hs.admitted
  obtain ⟨start', hl, hc⟩ := hclose.post (closeWebSocket_phase fun hu => hat.entered hu.of_cons)
  cases hl
  exact ⟨h₂, hc, hw⟩

/-! ## Every body -/

/-- **The life of a web socket.**  Its task lives as `Lives` says, and issues each command
in its phase. -/
theorem lives_body (l : Label) (hl : Lives S i l h) :
    (body S l).Conforms (Issues WebPhase) (Lives S i) h := by
  cases l with
  | webSocket j =>
      obtain ⟨rfl, rfl⟩ := hl
      refine (handleWebSocket_phase.does).mono fun l h hpost => ?_
      obtain ⟨⟨rfl, hrej⟩ | ⟨cid, rfl, -⟩, hdoes⟩ := hpost
      · exact .inl hrej
      · exact ⟨rfl, h, [], hdoes, .nil⟩
  | webMessages j cid =>
      obtain ⟨rfl, h₀, ms, he, ha⟩ := hl
      have hat := ha.attending he.admitted.attending
      show (handleWebMessages S j cid).Conforms (Issues WebPhase) (Lives S j) h
      rw [handleWebMessages_eq]
      refine conforms_call.2 ⟨hat.stays, fun m => ?_⟩
      cases hm : leaves m with
      | true =>
          rw [actOn_of_leaves hm]
          exact ⟨rfl, ms, m, h₀, h, he, ha, hm, rfl⟩
      | false =>
          refine conforms_bind.2 ((actOn_attending (hat.read hm)).does.mono fun go h' hpost => ?_)
          obtain ⟨⟨rfl, -⟩, hdoes⟩ := hpost
          rw [hm] at hdoes ⊢
          exact ⟨rfl, h₀, m :: ms, he, .cons ha hm hdoes⟩
  | webClosing j cid =>
      obtain ⟨rfl, ms, m, hs⟩ := hl
      obtain ⟨h₀, -, rfl, -, hat, -⟩ := hs.admitted
      refine (closeWebSocket_phase fun hu => hat.entered hu.of_cons).does.mono fun l h' hpost => ?_
      obtain ⟨⟨start, rfl, -⟩, hdoes⟩ := hpost
      exact ⟨rfl, ms, m, _, [], hs, ⟨h', hdoes, .nil⟩, rfl⟩
  | webNotify j cid start visited =>
      obtain ⟨rfl, ms, m, h₁, told, hs, hleaving, rfl⟩ := hl
      obtain ⟨h₂, hc, hw⟩ := hleaving.closing hs
      have hcleaning : Cleaning h := hc.cleaning.mono hw.suffix
      refine conforms_call.2 ⟨hcleaning, fun found => ?_⟩
      cases found with
      | none =>
          exact conforms_call.2 ⟨trivial, fun _ =>
            .inr ⟨cid, ms, m, h₁, told, hs, start, h, hleaving, rfl⟩⟩
      | some e =>
          obtain ⟨n, conn⟩ := e
          refine conforms_call.2 ⟨?_, fun sent => ?_⟩
          · exact hcleaning.mono (List.suffix_cons _ _)
          · obtain ⟨h₂', hclose, hw'⟩ := hleaving
            exact ⟨rfl, ms, m, h₁, (n, conn, sent) :: told, hs, ⟨h₂', hclose, .cons hw'⟩, rfl⟩
  | done => exact hl
  | _ => exact hl.elim

end Bodies

end Phirepass.Server
