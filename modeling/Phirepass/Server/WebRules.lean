/-
# `Phirepass.Server.WebRules` — what a web socket's task can do

The code of `Phirepass.Server.Web` is walked here once, and its conclusion is
two relations.  `WebLogin` lists the commands issued before the login is
accepted, `WebLoop` those issued after it, each with the part of the task's
own history that leads to it.  Whoever needs to know why a frame was
forwarded cites a constructor of `WebLoop`:

    forward      a tunnel lookup that found the sender's id, then the node
    openTunnel   the node, found by the id the frame names, and nothing else
    disconnect   a node met while walking the registry at the end
-/
import Phirepass.Server.Machine

namespace Phirepass.Server

open Rust Interleave Prog

/-! ## Login -/

/-- The user whose token a socket logged in with under the connection id `cid`: the token
of its first frame, decoded right after the id was drawn. -/
def Authenticated (S : Setup) (h : Hist Resp) (cid userId : Uuid) : Prop :=
  ∃ token claims nodeId version msgId m,
    [⟨.decodeWebJwt token, .ok claims⟩, ⟨.newV4, cid⟩, ⟨.ws .next, m⟩] <:+ h ∧
      Incoming.webFrame? m = some (.auth token nodeId version msgId) ∧
      S.crates.parseUuid claims.sub = .ok userId

/-- The login of `cid` was accepted; outside debug builds, for a user who owns the node the
login named. -/
def LoggedIn (S : Setup) (h : Hist Resp) (cid : Uuid) : Prop :=
  (∃ m, [⟨.newV4, cid⟩, ⟨.ws .next, m⟩] <:+ h) ∧
    (S.debugAssertions = false → ∃ userId, Authenticated S h cid userId ∧
      ∃ nodeId record, (⟨.db (.getNodeById nodeId), .ok record⟩ : Sigma Resp) ∈ h ∧
        record.userId = userId)

section Mono

variable {S : Setup} {h h' : Hist Resp} {cid userId : Uuid}

theorem Authenticated.mono (hs : h <:+ h') (ha : Authenticated S h cid userId) :
    Authenticated S h' cid userId := by
  obtain ⟨token, claims, nodeId, version, msgId, m, hsuf, hm, hp⟩ := ha
  exact ⟨token, claims, nodeId, version, msgId, m, hsuf.trans hs, hm, hp⟩

theorem LoggedIn.mono (hs : h <:+ h') (hl : LoggedIn S h cid) : LoggedIn S h' cid := by
  obtain ⟨⟨m, hm⟩, hu⟩ := hl
  refine ⟨⟨m, hm.trans hs⟩, fun hd => ?_⟩
  obtain ⟨userId, ha, nodeId, record, hr, heq⟩ := hu hd
  exact ⟨userId, ha.mono hs, nodeId, record, hs.subset hr, heq⟩

theorem LoggedIn.cons {e : Sigma Resp} (hl : LoggedIn S h cid) : LoggedIn S (e :: h) cid :=
  hl.mono (List.suffix_cons e h)

/-- A task logs in under one id. -/
theorem LoggedIn.unique {cid' : Uuid} (hl : LoggedIn S h cid) (hl' : LoggedIn S h cid') :
    cid = cid' := by
  obtain ⟨⟨m, hm⟩, -⟩ := hl
  obtain ⟨⟨m', hm'⟩, -⟩ := hl'
  have heq := (List.suffix_of_suffix_length_le hm hm' le_rfl).eq_of_length rfl
  simp only [List.cons.injEq, Sigma.mk.injEq, heq_eq_eq, true_and] at heq
  exact heq.1

end Mono

/-! ## The commands of a web socket -/

/-- The server's own word to a client: the outcome of a login, or an error. -/
def isNotice : WebFrameData → Bool
  | .authSuccess .. | .error .. => true
  | _ => false

/-- The frame the task has found a tunnel for and not yet sent on. -/
def inTransit (cid : Uuid) : Hist Resp → Option NodeFrameData
  | [] => none
  | ⟨.tunnelSessions (.get _), some (owner, _)⟩ :: ⟨.ws .next, m⟩ :: _ =>
      if owner = cid then (m.webFrame?.bind (relayed cid)).map fun relay => relay.2.2 else none
  | ⟨.node (.send _ (.connectionDisconnect _)), _⟩ :: h => inTransit cid h
  | ⟨.tunnelSessions (.get _), _⟩ :: _ | ⟨.nodes (.get _), none⟩ :: _ | ⟨.node (.send _ _), _⟩ :: _
  | ⟨.ws .next, _⟩ :: _ => none
  | _ :: h => inTransit cid h

/-- The task has not entered its connection yet. -/
def Unentered (h : Hist Resp) : Prop :=
  ∀ cid conn r, (⟨.connections (.insert cid conn), r⟩ : Sigma Resp) ∉ h

/-- Before the login is accepted. -/
inductive WebLogin (i : Nat) : Hist Resp → Cmd → Prop
  | next : WebLogin i [] (.ws .next)
  | newV4 {m : Incoming} : WebLogin i [⟨.ws .next, m⟩] .newV4
  | decode {m : Incoming} {cid : Uuid} {token : String} :
      WebLogin i [⟨.newV4, cid⟩, ⟨.ws .next, m⟩] (.decodeWebJwt token)
  | userExists {h : Hist Resp} {userId : Uuid} : WebLogin i h (.db (.userExists userId))
  | getNodeById {h : Hist Resp} {nodeId : Uuid} : WebLogin i h (.db (.getNodeById nodeId))
  | send {h : Hist Resp} {frame : WebFrameData} (hframe : isNotice frame = true) :
      WebLogin i h (.web (.send i frame))
  | close {h : Hist Resp} : WebLogin i h (.ws .close)
  | drop {h : Hist Resp} : WebLogin i h (.web (.close i))
  | finish {h : Hist Resp} : WebLogin i h .finish

/-- After it. -/
inductive WebLoop (S : Setup) (i : Nat) (cid : Uuid) : Hist Resp → Cmd → Prop
  | next {h : Hist Resp} (hsent : inTransit cid h = none) : WebLoop S i cid h (.ws .next)
  | now {h : Hist Resp} : WebLoop S i cid h .now
  | memoryDb {h : Hist Resp} {op : MemoryOp} : WebLoop S i cid h (.memoryDb op)
  | spawn {h : Hist Resp} : WebLoop S i cid h (.webWriter (.spawn i))
  | abort {h : Hist Resp} : WebLoop S i cid h (.webWriter (.abort i))
  | finish {h : Hist Resp} : WebLoop S i cid h .finish
  | insert {h : Hist Resp} {now : Time} (hfirst : Unentered h) :
      WebLoop S i cid h (.connections (.insert cid (.new (S.webIp i) i now)))
  | beat {h : Hist Resp} {now : Time} :
      WebLoop S i cid h (.connections (.modify cid fun info => { info with lastHeartbeat := now }))
  | remove {h : Hist Resp} : WebLoop S i cid h (.connections (.remove cid))
  | connection {h : Hist Resp} : WebLoop S i cid h (.connections (.get cid))
  | notify {h : Hist Resp} {connection : WebConnection} {frame : WebFrameData}
      (hframe : isNotice frame = true) :
      WebLoop S i cid (⟨.connections (.get cid), some connection⟩ :: h)
        (.web (.send connection.tx frame))
  | nodesKeys {h : Hist Resp} : WebLoop S i cid h (.nodes .keys)
  | nodesNext {h : Hist Resp} {start visited : List Uuid} :
      WebLoop S i cid h (.nodes (.next start visited))
  | lookup {h : Hist Resp} {m : Incoming} {f : WebFrameData} {target : String} {sid : UInt32}
      {g : NodeFrameData} {t : Uuid}
      (hm : m.webFrame? = some f) (hf : relayed cid f = some (target, sid, g))
      (ht : S.crates.parseUuid target = .ok t) :
      WebLoop S i cid (⟨.ws .next, m⟩ :: h) (.tunnelSessions (.get ⟨t, sid⟩))
  | findNode {h : Hist Resp} {m : Incoming} {f : WebFrameData} {target : String} {sid : UInt32}
      {g : NodeFrameData} {t n : Uuid}
      (hm : m.webFrame? = some f) (hf : relayed cid f = some (target, sid, g))
      (ht : S.crates.parseUuid target = .ok t) :
      WebLoop S i cid (⟨.tunnelSessions (.get ⟨t, sid⟩), some (cid, n)⟩ :: ⟨.ws .next, m⟩ :: h)
        (.nodes (.get n))
  | findTarget {h : Hist Resp} {m : Incoming} {protocol : UInt8} {target : String}
      {username password : Option String} {msgId : Option UInt32} {n : Uuid}
      (hm : m.webFrame? = some (.openTunnel protocol target username password msgId))
      (ht : S.crates.parseUuid target = .ok n) :
      WebLoop S i cid (⟨.ws .next, m⟩ :: h) (.nodes (.get n))
  | forward {h : Hist Resp} {m : Incoming} {f : WebFrameData} {target : String} {sid : UInt32}
      {g : NodeFrameData} {t n : Uuid} {info : NodeConnection}
      (hm : m.webFrame? = some f) (hf : relayed cid f = some (target, sid, g))
      (ht : S.crates.parseUuid target = .ok t) :
      WebLoop S i cid
        (⟨.nodes (.get n), some info⟩ :: ⟨.tunnelSessions (.get ⟨t, sid⟩), some (cid, n)⟩ ::
          ⟨.ws .next, m⟩ :: h)
        (.node (.send info.tx g))
  | openTunnel {h : Hist Resp} {m : Incoming} {protocol : UInt8} {target : String}
      {username password : Option String} {msgId : Option UInt32} {n : Uuid}
      {info : NodeConnection}
      (hm : m.webFrame? = some (.openTunnel protocol target username password msgId))
      (ht : S.crates.parseUuid target = .ok n) :
      WebLoop S i cid (⟨.nodes (.get n), some info⟩ :: ⟨.ws .next, m⟩ :: h)
        (.node (.send info.tx (.openTunnel protocol cid username password msgId)))
  | disconnect {h : Hist Resp} {start visited : List Uuid} {n : Uuid} {info : NodeConnection} :
      WebLoop S i cid (⟨.nodes (.next start visited), some (n, info)⟩ :: h)
        (.node (.send info.tx (.connectionDisconnect cid)))

/-- What the task of web socket `i` may issue after the history `h`. -/
def WebMay (S : Setup) (i : Nat) (h : Hist Resp) (c : Cmd) : Prop :=
  WebLogin i h c ∨ ∃ cid, LoggedIn S h cid ∧ WebLoop S i cid h c

/-- What the task knows of its history at each of its labels. -/
def WebAt (S : Setup) (i : Nat) : Label → Hist Resp → Prop
  | .webSocket j, h => j = i ∧ h = []
  | .webMessages j cid, h => j = i ∧ LoggedIn S h cid ∧ inTransit cid h = none
  | .webClosing j cid, h | .webNotify j cid _ _, h => j = i ∧ LoggedIn S h cid
  | .done, _ => True
  | _, _ => False

section Conform

variable {S : Setup} {i : Nat} {h : Hist Resp} {cid : Uuid}

/-- Nothing is in transit once it was sent. -/
theorem inTransit_of_sent {k : Nat} {f : WebFrameData} {target : String} {sid : UInt32}
    {g : NodeFrameData} {sent : Bool} (hf : relayed cid f = some (target, sid, g)) :
    inTransit cid (⟨.node (.send k g), sent⟩ :: h) = none := by
  cases f <;> cases hf <;> rfl

theorem WebLogin.may {c : Cmd} (hc : WebLogin i h c) : WebMay S i h c := .inl hc

theorem WebLoop.may {c : Cmd} (hl : LoggedIn S h cid) (hc : WebLoop S i cid h c) :
    WebMay S i h c := .inr ⟨cid, hl, hc⟩

/-! ## The login follows the rules -/

theorem refuse_conforms {α : Type} {Q : Except String α → Hist Resp → Prop} {message : String}
    {msgId : Option UInt32} {unsent err : String} (hQ : ∀ e h', Q (.error e) h') :
    (refuse i message msgId unsent err : Action (Except String α)).Conforms
      (Issues (WebLogin i)) Q h := by
  refine conforms_call.2 ⟨.send rfl, fun sent => ?_⟩
  cases sent
  · exact hQ unsent _
  · exact hQ err _

/-- An accepted token is the one decoded first, and its subject is a user id. -/
theorem authenticateWebJwt_conforms {token : String} {m : Incoming} :
    (authenticateWebJwt S token).Conforms (Issues (WebLogin i))
      (fun res h => ∀ claims, res = .ok claims →
        [⟨.decodeWebJwt token, .ok claims⟩, ⟨.newV4, cid⟩, ⟨.ws .next, m⟩] <:+ h)
      [⟨.newV4, cid⟩, ⟨.ws .next, m⟩] := by
  refine conforms_call.2 ⟨.decode, fun decoded => ?_⟩
  cases decoded with
  | error err => exact fun _ hc => nomatch hc
  | ok claims =>
      simp only []
      split
      · exact fun _ hc => nomatch hc
      · refine conforms_call.2 ⟨.userExists, fun found => ?_⟩
        cases found with
        | error err => exact fun _ hc => nomatch hc
        | ok found =>
            cases found
            · exact fun _ hc => nomatch hc
            · intro claims' hc
              cases hc
              exact List.suffix_cons _ _

/-- An accepted user owns the node the login named. -/
theorem validateUserNode_conforms {claims : WebJwtClaims} {nodeId : String}
    {msgId : Option UInt32} :
    (validateUserNode S i claims nodeId msgId).Conforms (Issues (WebLogin i))
      (fun res h' => res = .ok () → h <:+ h' ∧ ∃ userId,
        S.crates.parseUuid claims.sub = .ok userId ∧ ∃ n record,
          (⟨.db (.getNodeById n), .ok record⟩ : Sigma Resp) ∈ h' ∧ record.userId = userId) h := by
  unfold validateUserNode
  split
  · exact fun hc => nomatch hc
  · next userId huser =>
      split
      · exact fun hc => nomatch hc
      · next n hn =>
          refine conforms_call.2 ⟨.getNodeById, fun found => ?_⟩
          cases found with
          | error err => exact refuse_conforms fun _ _ hc => nomatch hc
          | ok record =>
              simp only []
              split
              · exact refuse_conforms fun _ _ hc => nomatch hc
              · next hown =>
                  intro _
                  refine ⟨List.suffix_cons _ _, userId, huser, n, record, List.mem_cons_self, ?_⟩
                  exact Classical.not_not.1 hown

/-- Past the checks, the history holds a complete login. -/
theorem checkAuth_conforms {token nodeId version : String} {msgId : Option UInt32} {m : Incoming}
    (hm : m.webFrame? = some (.auth token nodeId version msgId)) :
    (checkAuth S i token nodeId msgId).Conforms (Issues (WebLogin i))
      (fun res h => res = .ok () → LoggedIn S h cid) [⟨.newV4, cid⟩, ⟨.ws .next, m⟩] := by
  unfold checkAuth
  split
  · next hdebug =>
      intro _
      refine ⟨⟨m, List.suffix_rfl⟩, fun hrelease => ?_⟩
      rw [hdebug] at hrelease
      cases hrelease
  · refine conforms_bind.2 (conforms_bind.2 ?_)
    refine authenticateWebJwt_conforms.mono fun res h hres => ?_
    cases res with
    | error err => exact refuse_conforms fun _ _ hc => nomatch hc
    | ok claims =>
        have hlogin := hres claims rfl
        refine validateUserNode_conforms.mono fun res h' hok hres => ?_
        obtain ⟨hsuf, userId, huser, n, record, hrecord, hown⟩ := hok hres
        refine ⟨⟨m, ?_⟩, fun _ => ⟨userId, ?_, n, record, hrecord, hown⟩⟩
        · exact (List.suffix_cons _ _).trans (hlogin.trans hsuf)
        · exact ⟨token, claims, nodeId, version, msgId, m, hlogin.trans hsuf, hm, huser⟩

theorem webWaitForAuth_conforms :
    (webWaitForAuth S i).Conforms (Issues (WebLogin i))
      (fun res h => ∀ cid, res = .ok cid → LoggedIn S h cid) [] := by
  refine conforms_call.2 ⟨.next, fun m => ?_⟩
  split
  all_goals try exact fun _ hc => nomatch hc
  next version encoding webFrame =>
    split
    · next token nodeId clientVersion msgId =>
        refine conforms_call.2 ⟨.newV4, fun cid => ?_⟩
        refine conforms_bind.2 ((checkAuth_conforms rfl).mono fun res h hres => ?_)
        cases res with
        | error err => exact fun _ hc => nomatch hc
        | ok _ =>
            have hlogin := hres rfl
            refine conforms_bind.2 (conforms_call.2 ⟨.send rfl, fun sent => ?_⟩)
            cases sent
            · exact fun _ hc => nomatch hc
            · intro cid' hc
              cases hc
              exact hlogin.cons
    · exact fun _ hc => nomatch hc

/-- A login neither enters a connection nor looks a tunnel up. -/
def Cmd.isLogin : Cmd → Bool
  | .connections _ | .tunnelSessions _ | .nodes _ | .node _ => false
  | _ => true

theorem WebLogin.isLogin {c : Cmd} (hc : WebLogin i h c) : c.isLogin = true := by
  cases hc <;> rfl

theorem unentered_of_login (hlogin : ∀ e ∈ h, e.1.isLogin = true) : Unentered h :=
  fun _ _ _ hmem => nomatch hlogin _ hmem

theorem inTransit_of_login (hlogin : ∀ e ∈ h, e.1.isLogin = true) : inTransit cid h = none := by
  induction h with
  | nil => rfl
  | cons e h ih =>
      have hrest := ih fun e' hmem => hlogin e' (List.mem_cons_of_mem _ hmem)
      have hc := hlogin e List.mem_cons_self
      obtain ⟨c, r⟩ := e
      cases c with
      | ws op =>
          cases op with
          | next => rfl
          | send | close => exact hrest
      | connections | tunnelSessions | nodes | node => cases hc
      | _ => exact hrest

/-! ## So do the message loop and the cleanup -/

/-- Between two messages, the task has sent on whatever it found a tunnel for. -/
def Settled (S : Setup) (cid : Uuid) (h : Hist Resp) : Prop :=
  LoggedIn S h cid ∧ inTransit cid h = none

/-- A client is told something: its connection is looked up and its channel used. -/
theorem notifySelf_conforms {frame : WebFrameData} {Q : Except String Unit → Hist Resp → Prop}
    (hs : Settled S cid h) (hframe : isNotice frame = true)
    (hQ : ∀ res h', Settled S cid h' → Q res h') :
    (notifyClientByCid cid frame).Conforms (Issues (WebMay S i)) Q h := by
  refine conforms_call.2 ⟨WebLoop.connection.may hs.1, fun found => ?_⟩
  cases found with
  | none => exact hQ _ _ ⟨hs.1.cons, hs.2⟩
  | some connection =>
      refine conforms_call.2 ⟨(WebLoop.notify hframe).may hs.1.cons, fun sent => ?_⟩
      cases sent
      · exact hQ _ _ ⟨hs.1.cons.cons, hs.2⟩
      · exact hQ _ _ ⟨hs.1.cons.cons, hs.2⟩

/-- A data-plane frame is sent on only behind a lookup that found the sender's own id. -/
theorem forwardToNode_conforms {m : Incoming} {f : WebFrameData} {target : String} {sid : UInt32}
    {g : NodeFrameData} (hl : LoggedIn S h cid) (hm : m.webFrame? = some f)
    (hf : relayed cid f = some (target, sid, g)) :
    (forwardToNode S cid target sid g).Conforms (Issues (WebMay S i))
      (fun _ h' => Settled S cid h') (⟨.ws .next, m⟩ :: h) := by
  refine conforms_bind.2 ?_
  unfold getNodeIdByCidAndSid
  split
  · exact ⟨hl.cons, rfl⟩
  · next t ht =>
      refine conforms_call.2 ⟨(WebLoop.lookup hm hf ht).may hl.cons, fun found => ?_⟩
      cases found with
      | none => exact ⟨hl.cons.cons, rfl⟩
      | some pair =>
          obtain ⟨clientId, n⟩ := pair
          by_cases hown : clientId = cid
          · subst hown
            simp only [ne_eq, not_true_eq_false, if_false, pure_eq, conforms_ret]
            refine conforms_call.2 ⟨(WebLoop.findNode hm hf ht).may hl.cons.cons, fun found => ?_⟩
            cases found with
            | none => exact ⟨hl.cons.cons.cons, rfl⟩
            | some info =>
                refine conforms_call.2 ⟨?_, fun _ => ⟨hl.cons.cons.cons.cons, ?_⟩⟩
                · exact (WebLoop.forward hm hf ht).may hl.cons.cons.cons
                · exact inTransit_of_sent hf
          · simp only [ne_eq, hown, not_false_eq_true, if_true, pure_eq, conforms_ret]
            exact ⟨hl.cons.cons, if_neg hown⟩

theorem handleWebOpenTunnel_conforms {m : Incoming} {protocol : UInt8} {target : String}
    {username password : Option String} {msgId : Option UInt32} (hl : LoggedIn S h cid)
    (hm : m.webFrame? = some (.openTunnel protocol target username password msgId)) :
    (handleWebOpenTunnel S cid protocol target msgId username password).Conforms
      (Issues (WebMay S i)) (fun _ h' => Settled S cid h') (⟨.ws .next, m⟩ :: h) := by
  unfold handleWebOpenTunnel
  split
  · exact ⟨hl.cons, rfl⟩
  · next n hn =>
      refine conforms_call.2 ⟨(WebLoop.findTarget hm hn).may hl.cons, fun found => ?_⟩
      cases found with
      | none =>
          exact conforms_bind.2 (notifySelf_conforms ⟨hl.cons.cons, rfl⟩ rfl fun _ _ hs => hs)
      | some info =>
          refine conforms_call.2 ⟨?_, fun _ => ⟨hl.cons.cons.cons, rfl⟩⟩
          exact (WebLoop.openTunnel hm hn).may hl.cons.cons

theorem handleWebFrame_conforms {m : Incoming} {f : WebFrameData} (hl : LoggedIn S h cid)
    (hm : m.webFrame? = some f) :
    (handleWebFrame S cid f).Conforms (Issues (WebMay S i)) (fun _ h' => Settled S cid h')
      (⟨.ws .next, m⟩ :: h) := by
  cases hf : relayed cid f with
  | some relay =>
      obtain ⟨target, sid, g⟩ := relay
      rw [handleWebFrame_relayed hf]
      exact conforms_bind.2 ((forwardToNode_conforms hl hm hf).mono fun _ _ hs => hs)
  | none =>
      cases f with
      | heartbeat =>
          refine conforms_call.2 ⟨WebLoop.now.may hl.cons, fun now => ?_⟩
          exact conforms_call.2
            ⟨WebLoop.beat.may hl.cons.cons, fun _ => ⟨hl.cons.cons.cons, rfl⟩⟩
      | openTunnel protocol target username password msgId =>
          exact conforms_bind.2 ((handleWebOpenTunnel_conforms hl hm).mono fun _ _ hs => hs)
      | auth | authSuccess | tunnelOpened | tunnelClosed | sftpListItems
      | sftpDownloadStartResponse | sftpDownloadChunk | sftpUploadStartResponse
      | sftpUploadChunkAck | error => exact ⟨hl.cons, rfl⟩
      | tunnelData | sshWindowResize | sftpList | sftpDownloadStart | sftpDownloadChunkRequest
      | sftpUploadStart | sftpUpload | sftpDelete => cases hf

theorem handleWebMessages_conforms (hs : Settled S cid h) :
    (handleWebMessages S i cid).Conforms (Issues (WebMay S i)) (WebAt S i) h := by
  refine conforms_call.2 ⟨(WebLoop.next hs.2).may hs.1, fun m => ?_⟩
  split
  · next webFrame =>
      refine conforms_bind.2 ((handleWebFrame_conforms hs.1 rfl).mono fun again h' hs' => ?_)
      cases again
      · exact ⟨rfl, hs'.1⟩
      · exact ⟨rfl, hs'⟩
  · exact ⟨rfl, hs.1.cons, rfl⟩
  all_goals exact ⟨rfl, hs.1.cons⟩

theorem handleWebSocket_conforms :
    (handleWebSocket S i).Conforms (Issues (WebMay S i)) (WebAt S i) [] := by
  have hlogin (h : Hist Resp) (c : Cmd) (hc : WebLogin i h c) : WebMay S i h c := hc.may
  have hauth := conforms_weaken hlogin
    ((webWaitForAuth_conforms (S := S) (i := i)).issued fun _ _ hc => hc.isLogin)
  refine conforms_bind.2 (hauth.mono fun res h hres => ?_)
  obtain ⟨hres, hissued⟩ := hres
  cases res with
  | error err =>
      refine conforms_call.2 ⟨WebLogin.close.may, fun _ => ?_⟩
      refine conforms_call.2 ⟨WebLogin.drop.may, fun _ => ?_⟩
      exact conforms_call.2 ⟨WebLogin.finish.may, fun _ => trivial⟩
  | ok cid =>
      have hl := hres cid rfl
      have hlogin : ∀ e ∈ h, e.1.isLogin = true := fun e hmem =>
        (hissued e hmem).resolve_right List.not_mem_nil
      have hidle : inTransit cid h = none := inTransit_of_login hlogin
      refine conforms_call.2 ⟨WebLoop.now.may hl, fun now => ?_⟩
      refine conforms_call.2 ⟨(WebLoop.insert (unentered_of_login ?_)).may hl.cons, fun _ => ?_⟩
      · intro e hmem
        rcases List.mem_cons.1 hmem with rfl | hmem
        · rfl
        · exact hlogin e hmem
      · refine conforms_call.2 ⟨WebLoop.memoryDb.may hl.cons.cons, fun _ => ?_⟩
        exact conforms_call.2 ⟨WebLoop.spawn.may hl.cons.cons.cons,
          fun _ => ⟨rfl, hl.cons.cons.cons.cons, hidle⟩⟩

theorem closeWebSocket_conforms (hl : LoggedIn S h cid) :
    (closeWebSocket i cid).Conforms (Issues (WebMay S i)) (WebAt S i) h := by
  refine conforms_call.2 ⟨WebLoop.abort.may hl, fun _ => ?_⟩
  refine conforms_call.2 ⟨WebLoop.remove.may hl.cons, fun removed => ?_⟩
  cases removed with
  | none =>
      exact conforms_call.2 ⟨WebLoop.nodesKeys.may hl.cons.cons,
        fun _ => ⟨rfl, hl.cons.cons.cons⟩⟩
  | some info =>
      refine conforms_call.2 ⟨WebLoop.memoryDb.may hl.cons.cons, fun _ => ?_⟩
      exact conforms_call.2 ⟨WebLoop.nodesKeys.may hl.cons.cons.cons,
        fun _ => ⟨rfl, hl.cons.cons.cons.cons⟩⟩

theorem notifyNodesClientDisconnect_conforms {start visited : List Uuid}
    (hl : LoggedIn S h cid) :
    (notifyNodesClientDisconnect i cid start visited).Conforms (Issues (WebMay S i))
      (WebAt S i) h := by
  refine conforms_call.2 ⟨WebLoop.nodesNext.may hl, fun found => ?_⟩
  cases found with
  | none => exact conforms_call.2 ⟨WebLoop.finish.may hl.cons, fun _ => trivial⟩
  | some entry =>
      exact conforms_call.2 ⟨WebLoop.disconnect.may hl.cons, fun _ => ⟨rfl, hl.cons.cons⟩⟩

/-- **The web socket's task follows its rules**, at every label it can be at. -/
theorem web_follows (l : Label) (h : Hist Resp) (hat : WebAt S i l h) :
    (body S l).Conforms (Issues (WebMay S i)) (WebAt S i) h := by
  cases l with
  | webSocket j =>
      obtain ⟨rfl, rfl⟩ := hat
      exact handleWebSocket_conforms
  | webMessages j cid =>
      obtain ⟨rfl, hl⟩ := hat
      exact handleWebMessages_conforms hl
  | webClosing j cid =>
      obtain ⟨rfl, hl⟩ := hat
      exact closeWebSocket_conforms hl
  | webNotify j cid start visited =>
      obtain ⟨rfl, hl⟩ := hat
      exact notifyNodesClientDisconnect_conforms hl
  | done => trivial
  | _ => exact hat.elim

end Conform

end Phirepass.Server
