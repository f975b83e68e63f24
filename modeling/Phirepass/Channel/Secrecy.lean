/-
# `Phirepass.Channel.Secrecy` — a password typed into the page

`hide` blanks the password: the characters of `passwordBuffer`, and the field
of an `OpenTunnel` frame.  A listener that does not read the password commutes
with it; the two that do, `submitPassword` and the keystroke before it, depend
on its length alone.  So two runs whose passwords have the same lengths look
alike (`Reactive.simulate`) up to the field of the frame.
-/
import Phirepass.Channel.Page

namespace Phirepass.Channel

/-! ## Without the password

The functions of the page in the order of the source, each with `hide` moved inwards.  None of
them branches on what `hide` blanks, and what they say and log is not changed by it. -/

/-- A frame without its password. -/
def hideFrame : WebFrameData → WebFrameData
  | .openTunnel protocol nodeId username (some _) msgId =>
      .openTunnel protocol nodeId username (some "") msgId
  | data => data

def Output.hide : Output → Output
  | .frame ch data => .frame ch (hideFrame data)
  | o => o

namespace Page

/-- The page without its password. -/
def hide (p : Page) : Page :=
  { p with
    passwordBuffer := List.replicate p.passwordBuffer.length 0
    out := p.out.map Output.hide }

section Hide

variable {p : Page} {ch : Nat} {data : WebFrameData}

@[simp] theorem hide_say (o : Output) : (p.say o).hide = p.hide.say o.hide := by
  simp [say, hide]

@[simp] theorem hide_log (text : String) : (p.log text).hide = p.hide.log text := hide_say _

@[simp] theorem hide_setStatus (text : String) (variant : StatusVariant) :
    (p.setStatus text variant).hide = p.hide.setStatus text variant := hide_say _

@[simp] theorem hide_write (text : String) : (p.write text).hide = p.hide.write text := hide_say _

/-! The rest of the page is not touched.  These are what lets a branch of the page be taken alike
on both sides: every condition in the source is about one of these fields. -/

@[simp] theorem hide_channels : p.hide.channels = p.channels := rfl
@[simp] theorem hide_socket : p.hide.socket = p.socket := rfl
@[simp] theorem hide_selectedNodeId : p.hide.selectedNodeId = p.selectedNodeId := rfl
@[simp] theorem hide_sessionId : p.hide.sessionId = p.sessionId := rfl
@[simp] theorem hide_isIntentionallyClosed :
    p.hide.isIntentionallyClosed = p.isIntentionallyClosed := rfl
@[simp] theorem hide_isSshConnected : p.hide.isSshConnected = p.isSshConnected := rfl
@[simp] theorem hide_credentialMode : p.hide.credentialMode = p.credentialMode := rfl
@[simp] theorem hide_usernameBuffer : p.hide.usernameBuffer = p.usernameBuffer := rfl
@[simp] theorem hide_sessionUsername : p.hide.sessionUsername = p.sessionUsername := rfl
@[simp] theorem hide_cols : p.hide.cols = p.cols := rfl
@[simp] theorem hide_rows : p.hide.rows = p.rows := rfl
@[simp] theorem hide_proposed : p.hide.proposed = p.proposed := rfl
@[simp] theorem hide_isConnected : p.hide.isConnected = p.isConnected := rfl
@[simp] theorem hide_readyState : p.hide.readyState = p.readyState := rfl
@[simp] theorem hide_socketHealthy : p.hide.socketHealthy = p.socketHealthy := rfl

/-- A branch on something else than the password. -/
theorem hide_ite {c : Prop} [Decidable c] {p p' q q' : Page} (hpos : c → p.hide = p')
    (hneg : ¬ c → q.hide = q') : (if c then p else q).hide = if c then p' else q' := by
  split
  · next h => exact hpos h
  · next h => exact hneg h

/-! ### Frames

Everything but a prompt goes out through `sendFrameData`, and `hideFrame` changes one kind of frame
only: for a heartbeat, a resize or the data of the terminal it is the identity by computation. -/

theorem hide_sendFrameData (ch : Nat) (data : WebFrameData) :
    (p.sendFrameData ch data).hide = p.hide.sendFrameData ch (hideFrame data) :=
  hide_ite (fun _ => hide_say _) fun _ => rfl

theorem hide_startHeartbeat (ch : Nat) :
    (p.startHeartbeat ch).hide = p.hide.startHeartbeat ch := by
  have hsend := hide_sendFrameData (p := p.stopHeartbeat ch) ch .heartbeat
  have hstop : (p.stopHeartbeat ch).hide = p.hide.stopHeartbeat ch := rfl
  rw [hstop] at hsend
  unfold startHeartbeat
  rw [show WebFrameData.heartbeat = hideFrame .heartbeat from rfl, ← hsend]
  rfl

theorem hide_openSshTunnel (ch : Nat) (nodeId : Uuid) :
    (p.openSshTunnel ch nodeId none none).hide = p.hide.openSshTunnel ch nodeId none none :=
  hide_sendFrameData _ _

theorem hide_disconnect (ch : Nat) : (p.disconnect ch).hide = p.hide.disconnect ch := by
  have hstop : p.hide.stopHeartbeat ch = (p.stopHeartbeat ch).hide := rfl
  unfold disconnect
  rw [hstop]
  exact hide_ite (fun _ => hide_say _) fun _ => rfl

theorem hide_whenAttached {send send' : Nat → Uuid → UInt32 → Page}
    (hsend : ∀ ch nodeId sid, (send ch nodeId sid).hide = send' ch nodeId sid) :
    (p.whenAttached send).hide = p.hide.whenAttached send' := by
  unfold whenAttached
  simp only [hide_socket, hide_selectedNodeId, hide_sessionId]
  split
  · exact hide_ite (fun _ => hsend _ _ _) fun _ => rfl
  · rfl

theorem hide_onResize (cols rows : UInt32) :
    (p.onResize cols rows).hide = p.hide.onResize cols rows :=
  hide_whenAttached fun _ _ _ => hide_sendFrameData _ _

/-! ### The terminal and the socket

`cleanup` and `connect` are the two ways the page changes sockets.  `connect` leaves the buffer of
the password as it is and `cleanup` empties it, and an empty buffer is blank. -/

@[simp] theorem hide_fit : p.fit.hide = p.hide.fit := by
  unfold fit
  simp only [hide_proposed]
  split
  · rfl
  · exact hide_ite (fun _ => rfl) fun _ => hide_onResize _ _

theorem hide_onObserved : p.onObserved.hide = p.hide.onObserved := by
  unfold onObserved
  rw [← hide_fit]
  exact hide_whenAttached fun _ _ _ => hide_sendFrameData _ _

@[simp] theorem hide_resetCredentialCapture :
    p.resetCredentialCapture.hide = p.hide.resetCredentialCapture := rfl

theorem hide_closeSocket : p.closeSocket.hide = p.hide.closeSocket := by
  unfold closeSocket
  rw [hide_socket]
  split
  · next ch _ =>
      have hdisconnect := hide_disconnect (p := { p with isIntentionallyClosed := true }) ch
      exact congrArg (fun q : Page => { q with socket := none }) hdisconnect
  · rfl

@[simp] theorem hide_cleanup : p.cleanup.hide = p.hide.cleanup := by
  unfold cleanup
  rw [hide_fit, ← hide_closeSocket]
  rfl

theorem hide_openChannel (nodeId : Uuid) (made : Bool) :
    (p.openChannel nodeId made).hide = p.hide.openChannel nodeId made := by
  cases made with
  | false => rfl
  | true =>
      exact congrArg (fun q : Page =>
        { q with
          channels := p.channels ++ [(⟨nodeId, true, .CONNECTING, false⟩ : ChannelState)]
          socket := some p.channels.length }) (hide_say (.connect p.channels.length nodeId.display))

theorem hide_connect (made : Bool) : (p.connect made).hide = p.hide.connect made := by
  unfold connect
  rw [hide_selectedNodeId]
  split
  · exact congrArg (fun q : Page => { q with socket := none }) (hide_log _)
  · rw [hide_openChannel]
    simp [Output.hide]

theorem hide_onCard (nodeId : Uuid) (confirmed made : Bool) :
    (p.onCard nodeId confirmed made).hide = p.hide.onCard nodeId confirmed made := by
  refine hide_ite (fun _ => rfl) fun _ => ?_
  rw [hide_connect, hide_log]
  rfl

/-! ## Credentials

Prompts clear the buffers, or start with none.  The password goes out in one place only, the
`OpenTunnel` of `openSelected`, where it is blanked; the username is shown as it is. -/

@[simp] theorem hide_promptForUsername : p.promptForUsername.hide = p.hide.promptForUsername := by
  have hreset := hide_say (p := { p.resetCredentialCapture with sessionUsername := [] }) .reset
  unfold promptForUsername
  rw [hide_setStatus]
  refine congrArg (fun q : Page => q.setStatus "Username required" .warn) ?_
  refine Eq.trans (b := { (({ p.resetCredentialCapture with sessionUsername := [] }.say
    .reset).write "Enter username: ").hide with credentialMode := some .username }) rfl ?_
  rw [hide_write, hreset]
  rfl

@[simp] theorem hide_promptForPassword (shouldReset : Bool) :
    (p.promptForPassword shouldReset).hide = p.hide.promptForPassword shouldReset := by
  unfold promptForPassword
  rw [hide_setStatus, hide_write]
  refine congrArg (fun q : Page => (q.write "Enter password: ").setStatus "Enter password" .warn) ?_
  have hfirst : (if shouldReset then p.say .reset else p.say (.writeln [])).hide =
      if shouldReset then p.hide.say .reset else p.hide.say (.writeln []) :=
    hide_ite (fun _ => hide_say _) fun _ => hide_say _
  rw [← hfirst]
  rfl

theorem hide_withSelected {call call' : Uuid → Page}
    (hcall : ∀ nodeId, (call nodeId).hide = call' nodeId) :
    (p.withSelected call).hide = p.hide.withSelected call' := by
  unfold withSelected
  simp only [hide_selectedNodeId]
  split
  · exact hcall _
  · rfl

theorem hide_openSelected (username password : JsString) :
    (p.openSelected username password).hide = p.hide.openSelected username [] := by
  unfold openSelected
  simp only [hide_socket]
  split
  · refine hide_ite (fun _ => ?_) fun _ => rfl
    exact hide_withSelected fun _ => hide_sendFrameData _ _
  · rfl

@[simp] theorem hide_cancelCredentialEntry :
    p.cancelCredentialEntry.hide = p.hide.cancelCredentialEntry := by
  simp [cancelCredentialEntry]

theorem hide_submitUsername (requirePassword : Bool) :
    (p.submitUsername requirePassword).hide = p.hide.submitUsername requirePassword := by
  refine hide_ite (fun _ => ?_) fun _ => hide_ite (fun _ => ?_) fun _ => ?_
  · have hasked : (((p.log "Username is required to start SSH session").say (.writeln [])).write
        "Enter username: ").hide = ((p.hide.log "Username is required to start SSH session").say
          (.writeln [])).write "Enter username: " := by simp [Output.hide]
    exact congrArg (fun q : Page => { q with usernameBuffer := [] }) hasked
  · exact hide_promptForPassword true
  · rw [hide_openSelected]
    simp
    rfl

theorem hide_handleUsernameKeystroke (data : JsString) (requirePassword : Bool) :
    (p.handleUsernameKeystroke data requirePassword).hide =
      p.hide.handleUsernameKeystroke data requirePassword := by
  refine hide_ite (fun _ => ?_) fun _ => hide_ite (fun _ => ?_) fun _ => hide_ite (fun _ => ?_)
    fun _ => hide_ite (fun _ => hide_say _) fun _ => rfl
  · rw [hide_submitUsername, hide_write]
  · rw [hide_cancelCredentialEntry, hide_write]
  · exact hide_ite (fun _ => rfl) fun _ => hide_write _

/-! ### What the channel reports

The listeners of the channel.  They may end a prompt or begin one, as `onError` does when the node
asks for a username, but what was typed so far they only throw away. -/

theorem hide_onConnectionOpen (build : Build) (ch : Nat) :
    (p.onConnectionOpen build ch).hide = p.hide.onConnectionOpen build ch := by
  refine hide_withSelected fun nodeId => ?_
  rw [hide_setStatus, hide_log]
  exact congrArg (fun q : Page => (q.log "WebSocket connected").setStatus
    "Connecting to node..." .info) (hide_sendFrameData _ _)

theorem hide_onConnectionError (message : Option String) :
    (p.onConnectionError message).hide = p.hide.onConnectionError message := by
  unfold onConnectionError
  rw [hide_log, hide_setStatus]

theorem hide_onConnectionClose (reason : String) (code : UInt16) :
    (p.onConnectionClose reason code).hide = p.hide.onConnectionClose reason code := by
  refine congrArg (fun q : Page => { q with isIntentionallyClosed := false })
    (hide_ite (c := !p.isIntentionallyClosed) (fun _ => ?_) fun _ => hide_log _)
  rw [hide_cleanup, hide_say, hide_log, hide_setStatus]
  rfl

theorem hide_onTunnelData (nodeId : String) (data : Bytes) :
    (p.onTunnelData nodeId data).hide = p.hide.onTunnelData nodeId data := by
  unfold onTunnelData
  rw [hide_say]
  refine congrArg (fun q : Page => q.say (.writeBytes data)) (hide_ite (fun _ => ?_) fun _ => rfl)
  rw [hide_say, hide_setStatus, hide_log]
  rfl

theorem hide_onTunnelOpened (ch : Nat) (sid : UInt32) :
    (p.onTunnelOpened ch sid).hide = p.hide.onTunnelOpened ch sid := by
  refine hide_ite (fun _ => ?_) fun _ => rfl
  exact hide_withSelected (p := { p with sessionId := some sid }) fun _ => hide_sendFrameData _ _

theorem hide_shown (text : String) (variant : StatusVariant) (text' : String) :
    (((p.say .reset).setStatus text variant).log text').hide =
      ((p.hide.say .reset).setStatus text variant).log text' := by
  rw [hide_log, hide_setStatus, hide_say]
  rfl

theorem hide_onError (kind : FrameError) (message : String) :
    (p.onError kind message).hide = p.hide.onError kind message := by
  -- two kinds ask for what is missing; the other two do the same thing
  have hgeneric : (p.onError .generic message).hide = p.hide.onError .generic message := by
    have hshown := hide_shown (p := p) "Error" .error
      (if message = "" then unknownError else message)
    unfold onError
    dsimp only
    rw [← hshown]
    generalize ((p.say .reset).setStatus "Error" .error).log
      (if message = "" then unknownError else message) = q
    -- before the shell stands the socket is closed, after that a username is asked for again
    refine hide_ite (fun _ => ?_) fun _ => ?_
    · rw [hide_cleanup]
      rfl
    · rw [hide_promptForUsername]
      rfl
  cases kind with
  | requiresUsername =>
      have hshown := hide_shown (p := p) "Username required" .warn "SSH username is required."
      unfold onError
      dsimp only
      rw [← hshown]
      generalize ((p.say .reset).setStatus "Username required" .warn).log
        "SSH username is required." = q
      exact congrArg (fun q : Page => { q with credentialMode := some .usernameOnly })
        (hide_write (p := { q.resetCredentialCapture with sessionUsername := [] }) _)
  | requiresPassword =>
      have hshown := hide_shown (p := p) "Password required" .warn "SSH password is required."
      unfold onError
      dsimp only
      rw [← hshown, hide_write]
      rfl
  | generic => exact hgeneric
  | authentication => exact hgeneric

/-- The frames a browser has no use for are taken for a failed login. -/
theorem hide_onOther : ({ ((p.say .reset).setStatus "Auth failed" .error).log unknownError with
    sessionUsername := [], isSshConnected := false } : Page).promptForUsername.hide =
      ({ ((p.hide.say .reset).setStatus "Auth failed" .error).log unknownError with
        sessionUsername := [], isSshConnected := false } : Page).promptForUsername := by
  rw [hide_promptForUsername, ← hide_shown]
  rfl

theorem hide_onProtocolMessage (ch : Nat) (data : WebFrameData) :
    (p.onProtocolMessage ch data).hide = p.hide.onProtocolMessage ch data := by
  cases data with
  | authSuccess cid version msgId =>
      have hbeat :=
        hide_startHeartbeat (p := p.log s!"Authenticated connection id {cid.display}") ch
      rw [hide_log] at hbeat
      unfold onProtocolMessage
      dsimp only
      rw [← hbeat]
      exact hide_withSelected fun _ => hide_openSshTunnel _ _
  | tunnelData protocol nodeId sid data => exact hide_onTunnelData nodeId data
  | tunnelOpened protocol sid msgId => exact hide_onTunnelOpened ch sid
  | tunnelClosed protocol sid msgId =>
      unfold onProtocolMessage
      dsimp only
      rw [hide_cleanup, hide_say, hide_setStatus, hide_log]
      rfl
  | error kind message msgId => exact hide_onError kind message
  | _ => exact hide_onOther

end Hide

/-! ## Two pages alike but for the password

The keystrokes do read the password, so here `hide` does not commute with the page; what they do is
compared on two pages that `hide` makes one.  Whether there is a password at all is seen: an
empty one is asked for again, so the two have to stay of one length. -/

section Alike

variable {p p' : Page}

theorem length_passwordBuffer (h : p.hide = p'.hide) :
    p.passwordBuffer.length = p'.passwordBuffer.length := by
  have hbuffer := congrArg (fun q : Page => q.passwordBuffer.length) h
  simpa [hide] using hbuffer

theorem sessionUsername_alike (h : p.hide = p'.hide) : p.sessionUsername = p'.sessionUsername := by
  rw [← hide_sessionUsername, h, hide_sessionUsername]

theorem submitPassword_alike (h : p.hide = p'.hide) :
    p.submitPassword.hide = p'.submitPassword.hide := by
  have hempty : p.passwordBuffer = [] ↔ p'.passwordBuffer = [] := by
    rw [← List.length_eq_zero_iff, length_passwordBuffer h, List.length_eq_zero_iff]
  have hreset : p.resetCredentialCapture.hide = p'.resetCredentialCapture.hide := by
    rw [hide_resetCredentialCapture, h]
    rfl
  have husername := sessionUsername_alike hreset
  unfold submitPassword
  -- without a password, or without the username from before, the page asks again; both pages do
  by_cases hnone : p.passwordBuffer = []
  · rw [if_pos hnone, if_pos (hempty.1 hnone), hide_promptForPassword, hide_promptForPassword,
      hide_log, hide_log, hreset]
  · rw [if_neg hnone, if_neg fun h' => hnone (hempty.2 h'), ← husername]
    by_cases huser : p.resetCredentialCapture.sessionUsername = []
    · rw [if_pos huser, if_pos huser, hide_promptForUsername, hide_promptForUsername, hide_log,
        hide_log, hreset]
    · rw [if_neg huser, if_neg huser, hide_openSelected, hide_openSelected, hide_log, hide_log,
        hide_setStatus, hide_setStatus, hreset]

theorem hide_password {password password' : JsString} (h : p.hide = p'.hide)
    (hlength : password.length = password'.length) :
    { p with passwordBuffer := password }.hide = { p' with passwordBuffer := password' }.hide := by
  have hblank : { p with passwordBuffer := password }.hide =
      { p.hide with passwordBuffer := List.replicate password.length 0 } := rfl
  rw [hblank, h, hlength]
  rfl

theorem handlePasswordKeystroke_alike (h : p.hide = p'.hide) (data : JsString) :
    (p.handlePasswordKeystroke data).hide = (p'.handlePasswordKeystroke data).hide := by
  have hlength := length_passwordBuffer h
  unfold handlePasswordKeystroke
  split
  -- return, Ctrl-C, backspace, text, and anything else
  · refine submitPassword_alike ?_
    rw [hide_write, hide_write, h]
  · split
    · rw [hide_cancelCredentialEntry, hide_cancelCredentialEntry, hide_write, hide_write, h]
    · split
      · exact hide_password h (by rw [List.length_dropLast, List.length_dropLast, hlength])
      · split
        · exact hide_password h (by rw [List.length_append, List.length_append, hlength])
        · exact h

/-- What is typed into the password is not seen, but for its length. -/
theorem handlePasswordKeystroke_printable {data data' : JsString} (h : p.hide = p'.hide)
    (hdata : data.printable = true) (hdata' : data'.printable = true)
    (hsame : data.length = data'.length) :
    (p.handlePasswordKeystroke data).hide = (p'.handlePasswordKeystroke data').hide := by
  have hlength := length_passwordBuffer h
  -- none of the keys with a meaning of their own is printable
  have happend {q : Page} {data : JsString} (hdata : data.printable = true) :
      q.handlePasswordKeystroke data = { q with passwordBuffer := q.passwordBuffer ++ data } := by
    have hkey {key : JsString} (hkey : key.printable = false) : data ≠ key := by
      rintro rfl
      rw [hdata] at hkey
      cases hkey
    unfold handlePasswordKeystroke
    rw [if_neg, if_neg (hkey (by decide)), if_neg (hkey (by decide)), if_pos hdata]
    rintro (hreturn | hreturn)
    · exact hkey (by decide) hreturn
    · exact hkey (by decide) hreturn
  rw [happend hdata, happend hdata']
  exact hide_password h (by rw [List.length_append, List.length_append, hlength, hsame])

/-- The keyboard, in each of the modes of the prompt: outside of one, what is typed goes to the
shell, and it is the same on both sides. -/
theorem onData_alike (h : p.hide = p'.hide) (data : JsString) :
    (p.onData data).hide = (p'.onData data).hide := by
  have hmode : p.credentialMode = p'.credentialMode := by
    rw [← hide_credentialMode, h, hide_credentialMode]
  unfold onData
  rw [← hmode]
  cases p.credentialMode with
  | none =>
      have hattached (q : Page) :
          (q.whenAttached fun ch nodeId sid => q.sendSshTunnelData ch nodeId sid data).hide =
            q.hide.whenAttached fun ch nodeId sid => q.hide.sendSshTunnelData ch nodeId sid data :=
        hide_whenAttached fun _ _ _ => hide_sendFrameData _ _
      show (p.whenAttached _).hide = (p'.whenAttached _).hide
      rw [hattached, hattached, h]
  | some mode =>
      cases mode with
      | username =>
          show (p.handleUsernameKeystroke data true).hide =
            (p'.handleUsernameKeystroke data true).hide
          rw [hide_handleUsernameKeystroke, hide_handleUsernameKeystroke, h]
      | usernameOnly =>
          show (p.handleUsernameKeystroke data false).hide =
            (p'.handleUsernameKeystroke data false).hide
          rw [hide_handleUsernameKeystroke, hide_handleUsernameKeystroke, h]
      | password => exact handlePasswordKeystroke_alike h data

/-- A listener that is not of the keyboard does not read the password. -/
theorem hide_on (build : Build) {e : Event} (he : ∀ data, e ≠ .data data) :
    (p.on build e).hide = p.hide.on build e := by
  cases e with
  | card nodeId confirmed made => exact hide_onCard nodeId confirmed made
  | opened ch => exact hide_ite (fun _ => hide_onConnectionOpen build ch) fun _ => rfl
  | message ch frame =>
      unfold on
      rw [hide_readyState]
      dsimp only
      split
      · exact hide_onProtocolMessage _ _
      · rfl
  | error ch message =>
      unfold on
      rw [hide_readyState]
      dsimp only
      split
      · rfl
      · rfl
      · exact hide_onConnectionError message
  | closed ch reason code =>
      unfold on
      rw [hide_readyState]
      dsimp only
      split
      · rfl
      · rfl
      · exact hide_onConnectionClose (p := p.setReadyState ch .CLOSED) reason code
  | heartbeat ch => exact hide_ite (fun _ => hide_sendFrameData _ _) fun _ => rfl
  | data data => exact absurd rfl (he data)
  | layout proposed => rfl
  | observed => exact hide_onObserved
  | tab => exact hide_fit

theorem on_alike (build : Build) (h : p.hide = p'.hide) (e : Event) :
    (p.on build e).hide = (p'.on build e).hide := by
  by_cases he : ∃ data, e = .data data
  · obtain ⟨data, rfl⟩ := he
    exact onData_alike h data
  · have hother : ∀ data, e ≠ .data data := fun data heq => he ⟨data, heq⟩
    rw [hide_on build hother, hide_on build hother, h]

end Alike

end Page

/-! ## Runs

In a run the two pages are given the same events, but where both take a password each may be given a
keystroke of its own, of the length of the other's. -/

/-- Two events that are the same, or text of one length typed into the password. -/
inductive SameButPassword (p : Page) : Event → Event → Prop
  | same (e : Event) : SameButPassword p e e
  | typed {data data' : JsString} (hmode : p.credentialMode = some .password)
      (hdata : data.printable = true) (hdata' : data'.printable = true)
      (hlength : data.length = data'.length) : SameButPassword p (.data data) (.data data')

variable (build : Build)

/-- **A password is shown to nobody**: runs of the page that differ in what is typed into the
password alone put out the same, event by event, but for the password of an `OpenTunnel`. -/
theorem password_not_shown (p : Page) (evs evs' : List Event)
    (h : (machine build).Similar SameButPassword p evs evs') :
    ((machine build).outputs p evs).map (·.map Output.hide) =
      ((machine build).outputs p evs').map (·.map Output.hide) := by
  refine Interleave.Reactive.simulate (Q := fun p p' => p.hide = p'.hide) ?_ h rfl
  intro p p' e e' hpage hevent
  -- a turn starts with no output, so what it puts out is what `hide` shows of the page after it
  have hturn : Page.hide { p with out := [] } = Page.hide { p' with out := [] } :=
    congrArg (fun q : Page => { q with out := [] }) hpage
  have hout {q q' : Page} (hq : q.hide = q'.hide) :
      q.out.map Output.hide = q'.out.map Output.hide := congrArg (fun q : Page => q.out) hq
  have hon : (Page.on build { p with out := [] } e).hide =
      (Page.on build { p' with out := [] } e').hide := by
    cases hevent with
    | same e => exact Page.on_alike build hturn e
    | typed hmode hdata hdata' hlength =>
        -- the keystrokes differ, so both have to be taken for the password
        have hmode' : p'.credentialMode = some .password := by
          rw [← Page.hide_credentialMode, ← hpage, Page.hide_credentialMode, hmode]
        have hkey {q : Page} (hq : q.credentialMode = some .password) (data : JsString) :
            q.onData data = q.handlePasswordKeystroke data := by
          unfold Page.onData
          rw [hq]
        show (Page.onData { p with out := [] } _).hide = (Page.onData { p' with out := [] } _).hide
        rw [hkey (q := { p with out := [] }) hmode, hkey (q := { p' with out := [] }) hmode']
        exact Page.handlePasswordKeystroke_printable hturn hdata hdata' hlength
  exact ⟨hon, hout hon⟩

/-- A login with a password of one character, and what the node says to it. -/
def samplePassword (key : UInt16) : List Event :=
  [.card 5 false true, .opened 0, .message 0 (some (.authSuccess 7 "1" none)),
    .message 0 (some .heartbeat), .data [0x75], .data [0x0D], .data [key], .data [0x0D],
    .message 0 (some (.tunnelOpened 0 9 none))]

theorem password_not_shown_of_key :
    ((machine ⟨"t", "1"⟩).outputs (.start 80 24) (samplePassword 0x70)).map (·.map Output.hide) =
      ((machine ⟨"t", "1"⟩).outputs (.start 80 24) (samplePassword 0x71)).map
        (·.map Output.hide) :=
  password_not_shown ⟨"t", "1"⟩ (.start 80 24) (samplePassword 0x70) (samplePassword 0x71)
    (.cons (.same _) (.cons (.same _) (.cons (.same _) (.cons (.same _) (.cons (.same _)
      (.cons (.same _) (.cons (.typed rfl rfl rfl rfl) (.cons (.same _) (.cons (.same _)
        .nil)))))))))

end Phirepass.Channel
