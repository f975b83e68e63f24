/-
# `Phirepass.Channel.Page` — the browser's terminal, `channel/public/phirepass.js`

The SSH half of the page over the `Channel` of `channel/src/lib.rs`: its
globals under the source's names, each listener a function of the page, and
`machine` the events one after another (`Interleave.Reactive`).  What a
listener shows, logs or sends is appended to `out`.

The button `connect` is `disabled` in `index.html` and nothing enables it, so
cards alone open channels.  The SFTP tab has a socket and a browser of its own
and is left out, as are the console and the list of nodes.

`fitAddon.fit()` makes the terminal the size its host leaves it (`proposed`),
and the terminal calls `onResize` at once if that is a change.
-/
import Phirepass.Interleave.Reactive
import Phirepass.Protocol.Frames

namespace Phirepass.Channel

/-! ## Strings of JavaScript -/

/-- A string of JavaScript: its UTF-16 units. -/
abbrev JsString : Type := List UInt16

namespace JsString

/-- `a <= b`. -/
def le : JsString → JsString → Bool
  | [], _ => true
  | _ :: _, [] => false
  | u :: us, v :: vs => if u = v then le us vs else decide (u < v)

/-- The white space and line ends of JavaScript. -/
def isSpace (u : UInt16) : Bool :=
  decide (u ∈ [0x09, 0x0A, 0x0B, 0x0C, 0x0D, 0x20, 0xA0, 0x1680, 0x2028, 0x2029, 0x202F, 0x205F,
    0x3000, 0xFEFF]) || (decide (0x2000 ≤ u) && decide (u ≤ 0x200A))

/-- `trim`. -/
def trim (s : JsString) : JsString := ((s.dropWhile isSpace).reverse.dropWhile isSpace).reverse

/-- The units of a character. -/
def ofChar (c : Char) : JsString :=
  if c.toNat < 0x10000 then [UInt16.ofNat c.toNat]
  else
    [UInt16.ofNat (0xD800 + (c.toNat - 0x10000) / 0x400),
      UInt16.ofNat (0xDC00 + (c.toNat - 0x10000) % 0x400)]

def ofString (s : String) : JsString := s.toList.flatMap ofChar

def isHigh (u : UInt16) : Bool := decide (0xD800 ≤ u) && decide (u ≤ 0xDBFF)

def isLow (u : UInt16) : Bool := decide (0xDC00 ≤ u) && decide (u ≤ 0xDFFF)

/-- A unit outside of a pair: half a pair is replaced by `U+FFFD`. -/
def single (u : UInt16) : Char := if isHigh u || isLow u then '\uFFFD' else Char.ofNat u.toNat

def chars : JsString → List Char
  | [] => []
  | [u] => [single u]
  | u :: v :: us =>
      if isHigh u && isLow v then
        Char.ofNat (0x10000 + (u.toNat - 0xD800) * 0x400 + (v.toNat - 0xDC00)) :: chars us
      else single u :: chars (v :: us)

/-- The `String` that an exported function of Rust is given for it. -/
def toRust (s : JsString) : String := String.ofList s.chars

/-- `data >= " " && data <= "~"`, of the string as a whole. -/
def printable (data : JsString) : Bool := le [0x20] data && le data [0x7E]

end JsString

/-! ## The page -/

/-- `readyState` of a WebSocket. -/
inductive ReadyState where
  | CONNECTING
  | OPEN
  | CLOSING
  | CLOSED
  deriving DecidableEq, Repr

/-- A `Channel`, with the WebSocket it opened. -/
structure ChannelState where
  nodeId : Uuid
  /-- `state.socket` holds the WebSocket. -/
  socket : Bool
  readyState : ReadyState
  /-- `state.heartbeat` holds an interval. -/
  heartbeat : Bool
  deriving DecidableEq, Repr

inductive CredentialMode where
  | username
  | password
  | usernameOnly
  deriving DecidableEq, Repr

/-- The variants of `setStatus`. -/
inductive StatusVariant where
  | info
  | ok
  | warn
  | error
  deriving DecidableEq, Repr

inductive Output where
  /-- `term.reset`. -/
  | reset
  /-- `term.write`. -/
  | write (text : JsString)
  /-- `term.writeln`. -/
  | writeln (text : JsString)
  /-- `term.write` of bytes. -/
  | writeBytes (data : Bytes)
  | setStatus (text : String) (variant : StatusVariant)
  /-- A line of `log`, without the time. -/
  | log (text : String)
  /-- A WebSocket is opened with this sub-protocol. -/
  | connect (ch : Nat) (subProtocols : String)
  | close (ch : Nat)
  | frame (ch : Nat) (data : WebFrameData)
  deriving DecidableEq

structure Page where
  /-- The channels made so far. -/
  channels : List ChannelState
  /-- The global `socket`, one of them. -/
  socket : Option Nat
  selectedNodeId : Option Uuid
  sessionId : Option UInt32
  isIntentionallyClosed : Bool
  isSshConnected : Bool
  credentialMode : Option CredentialMode
  usernameBuffer : JsString
  passwordBuffer : JsString
  sessionUsername : JsString
  cols : UInt32
  rows : UInt32
  /-- What `proposeDimensions` of the fit addon returns. -/
  proposed : Option (UInt32 × UInt32)
  out : List Output

/-- The constants of the build: `TOKEN` and `VERSION`. -/
structure Build where
  token : String
  version : String

namespace Page

def say (p : Page) (o : Output) : Page := { p with out := p.out ++ [o] }

def log (p : Page) (text : String) : Page := p.say (.log text)

def setStatus (p : Page) (text : String) (variant : StatusVariant) : Page :=
  p.say (.setStatus text variant)

/-- `term.write` of a constant. -/
def write (p : Page) (text : String) : Page := p.say (.write (JsString.ofString text))

/-! ## A channel -/

def isConnected (p : Page) (ch : Nat) : Bool :=
  p.channels[ch]?.any fun c => c.socket && decide (c.readyState = .OPEN)

def sendFrameData (p : Page) (ch : Nat) (data : WebFrameData) : Page :=
  if p.isConnected ch then p.say (.frame ch data) else p

def stopHeartbeat (p : Page) (ch : Nat) : Page :=
  { p with channels := p.channels.modify ch fun c => { c with heartbeat := false } }

def startHeartbeat (p : Page) (ch : Nat) : Page :=
  let p := (p.stopHeartbeat ch).sendFrameData ch .heartbeat
  { p with channels := p.channels.modify ch fun c => { c with heartbeat := true } }

def authenticate (build : Build) (p : Page) (ch : Nat) (nodeId : Uuid) : Page :=
  p.sendFrameData ch (.auth build.token nodeId.display build.version none)

def openSshTunnel (p : Page) (ch : Nat) (nodeId : Uuid) (username password : Option JsString) :
    Page :=
  p.sendFrameData ch (.openTunnel Protocol.ssh.toU8 nodeId.display (username.map JsString.toRust)
    (password.map JsString.toRust) none)

def sendSshTerminalResize (p : Page) (ch : Nat) (nodeId : Uuid) (sid cols rows : UInt32) : Page :=
  p.sendFrameData ch (.sshWindowResize nodeId.display sid cols rows 0 0)

def sendSshTunnelData (p : Page) (ch : Nat) (nodeId : Uuid) (sid : UInt32) (data : JsString) :
    Page :=
  p.sendFrameData ch
    (.tunnelData Protocol.ssh.toU8 nodeId.display sid data.toRust.toUTF8.data.toList)

/-- `disconnect`, with `close` of the WebSocket. -/
def disconnect (p : Page) (ch : Nat) : Page :=
  let p := p.stopHeartbeat ch
  if p.channels[ch]?.any (·.socket) then
    { p with
      channels := p.channels.modify ch fun c =>
        { c with
          socket := false
          readyState := if c.readyState = ReadyState.CLOSED then .CLOSED else .CLOSING }
    }.say (.close ch)
  else p

/-! ## The terminal and its size -/

/-- `socket && socket.is_connected() && !!selected_node_id && !!session_id`. -/
def whenAttached (p : Page) (send : Nat → Uuid → UInt32 → Page) : Page :=
  match p.socket, p.selectedNodeId, p.sessionId with
  | some ch, some nodeId, some sid => if p.isConnected ch && sid != 0 then send ch nodeId sid else p
  | _, _, _ => p

/-- What `term.onResize` runs.  Its own `fit` finds the terminal fitted. -/
def onResize (p : Page) (cols rows : UInt32) : Page :=
  p.whenAttached fun ch nodeId sid => p.sendSshTerminalResize ch nodeId sid cols rows

/-- `fitAddon.fit`. -/
def fit (p : Page) : Page :=
  match p.proposed with
  | none => p
  | some (cols, rows) =>
      if p.cols = cols ∧ p.rows = rows then p
      else { p with cols := cols, rows := rows }.onResize cols rows

/-- What the `ResizeObserver` runs. -/
def onObserved (p : Page) : Page :=
  let p := p.fit
  p.whenAttached fun ch nodeId sid => p.sendSshTerminalResize ch nodeId sid p.cols p.rows

/-! ## Credentials -/

def resetCredentialCapture (p : Page) : Page :=
  { p with credentialMode := none, usernameBuffer := [], passwordBuffer := [] }

/-- `cleanup` closes the SSH socket first. -/
def closeSocket (p : Page) : Page :=
  match p.socket with
  | some ch => { { p with isIntentionallyClosed := true }.disconnect ch with socket := none }
  | none => p

/-- `cleanup`, of the SSH half. -/
def cleanup (p : Page) : Page :=
  { p.closeSocket.resetCredentialCapture with
    sessionUsername := []
    sessionId := none
    isSshConnected := false }.fit

def promptForUsername (p : Page) : Page :=
  let p := ({ p.resetCredentialCapture with sessionUsername := [] }.say .reset).write
    "Enter username: "
  { p with credentialMode := some .username }.setStatus "Username required" .warn

def promptForPassword (p : Page) (shouldReset : Bool) : Page :=
  let p := if shouldReset then p.say .reset else p.say (.writeln [])
  ({ p with passwordBuffer := [], credentialMode := some .password }.write
    "Enter password: ").setStatus "Enter password" .warn

def socketHealthy (p : Page) : Bool := p.socket.any p.isConnected

/-- A last call with `selected_node_id`: it throws if that is `null`. -/
def withSelected (p : Page) (call : Uuid → Page) : Page :=
  match p.selectedNodeId with
  | some nodeId => call nodeId
  | none => p

/-- `if (socket_healthy()) socket.open_ssh_tunnel(selected_node_id, username, password)`. -/
def openSelected (p : Page) (username password : JsString) : Page :=
  match p.socket with
  | some ch =>
      if p.isConnected ch then
        p.withSelected fun nodeId => p.openSshTunnel ch nodeId (some username) (some password)
      else p
  | none => p

def submitUsername (p : Page) (requirePassword : Bool) : Page :=
  let username := p.usernameBuffer.trim
  if username = [] then
    let p := ((p.log "Username is required to start SSH session").say (.writeln [])).write
      "Enter username: "
    { p with usernameBuffer := [] }
  else
    let p := { p with sessionUsername := username }
    if requirePassword then p.promptForPassword true
    else
      ((p.resetCredentialCapture.setStatus "Authenticating..." .info).log
        "Attempting SSH connection with username only...").openSelected username []

def cancelCredentialEntry (p : Page) : Page :=
  ((p.resetCredentialCapture.log "Credential entry cancelled").setStatus "Idle" .warn).cleanup

def handleUsernameKeystroke (p : Page) (data : JsString) (requirePassword : Bool) : Page :=
  if data = [0x0D] ∨ data = [0x0A] then (p.write "\r\n").submitUsername requirePassword
  else if data = [0x03] then (p.write "^C\r\n").cancelCredentialEntry
  else if data = [0x7F] then
    if p.usernameBuffer = [] then p
    else { p with usernameBuffer := p.usernameBuffer.dropLast }.write "\x08 \x08"
  else if data.printable then
    { p with usernameBuffer := p.usernameBuffer ++ data }.say (.write data)
  else p

def submitPassword (p : Page) : Page :=
  let password := p.passwordBuffer
  let p := p.resetCredentialCapture
  if password = [] then
    (p.log "Password is required to start SSH session").promptForPassword false
  else if p.sessionUsername = [] then
    (p.log "Username is required before submitting password").promptForUsername
  else
    ((p.setStatus "Authenticating..." .info).log
      "Credentials submitted for user, attempting SSH connection...").openSelected
        p.sessionUsername password

def handlePasswordKeystroke (p : Page) (data : JsString) : Page :=
  if data = [0x0D] ∨ data = [0x0A] then (p.write "\r\n").submitPassword
  else if data = [0x03] then (p.write "^C\r\n").cancelCredentialEntry
  else if data = [0x7F] then { p with passwordBuffer := p.passwordBuffer.dropLast }
  else if data.printable then { p with passwordBuffer := p.passwordBuffer ++ data }
  else p

/-- What `term.onData` runs. -/
def onData (p : Page) (data : JsString) : Page :=
  match p.credentialMode with
  | some .username => p.handleUsernameKeystroke data true
  | some .usernameOnly => p.handleUsernameKeystroke data false
  | some .password => p.handlePasswordKeystroke data
  | none => p.whenAttached fun ch nodeId sid => p.sendSshTunnelData ch nodeId sid data

/-! ## Connecting -/

/-- A new `Channel` with its WebSocket, and `socket` set to it.  `made` says whether the
browser made the WebSocket. -/
def openChannel (p : Page) (nodeId : Uuid) (made : Bool) : Page :=
  let ch := p.channels.length
  let p := if made then p.say (.connect ch nodeId.display) else p
  { p with
    channels := p.channels ++ [⟨nodeId, made, if made then .CONNECTING else .CLOSED, false⟩]
    socket := some ch }

/-- `connect`, and what a click on a card does with the channel it returns. -/
def connect (p : Page) (made : Bool) : Page :=
  match p.selectedNodeId with
  | none => { p.log "Select a node before connecting" with socket := none }
  | some nodeId =>
      (((p.cleanup.say .reset).fit).setStatus "Connecting..." .info).openChannel nodeId made

/-- A click on a card is asked about while a channel is connected. -/
def onCard (p : Page) (nodeId : Uuid) (confirmed made : Bool) : Page :=
  if p.socketHealthy && !confirmed then p
  else
    ({ p with selectedNodeId := some nodeId }.log s!"Selected SSH node {nodeId.display}").connect
      made

def readyState (p : Page) (ch : Nat) : Option ReadyState := p.channels[ch]?.map (·.readyState)

def setReadyState (p : Page) (ch : Nat) (readyState : ReadyState) : Page :=
  { p with channels := p.channels.modify ch fun c => { c with readyState := readyState } }

/-- `on_connection_open`. -/
def onConnectionOpen (build : Build) (p : Page) (ch : Nat) : Page :=
  p.withSelected fun nodeId =>
    ((p.authenticate build ch nodeId).log "WebSocket connected").setStatus "Connecting to node..."
      .info

/-- `on_connection_error`. -/
def onConnectionError (p : Page) (message : Option String) : Page :=
  let message := message.getD "unknown error"
  (p.setStatus "Error" .error).log s!"Socket error: {message}"

/-- `on_connection_close`. -/
def onConnectionClose (p : Page) (reason : String) (code : UInt16) : Page :=
  let p :=
    if !p.isIntentionallyClosed then
      let reason := if reason = "" then s!"code {code.toNat}" else reason
      (((p.setStatus "Disconnected" .warn).log s!"Socket closed ({reason})").say .reset).cleanup
    else p.log "WebSocket connection closed"
  { p with isIntentionallyClosed := false }

/-! ## Messages -/

/-- A message nobody has a text for. -/
def unknownError : String := "An unknown error occurred."

def onTunnelData (p : Page) (nodeId : String) (data : Bytes) : Page :=
  let p :=
    if !p.isSshConnected then
      let target := match p.selectedNodeId with
        | some selected => selected.display
        | none => if nodeId = "" then "selected node" else nodeId
      (({ p with isSshConnected := true }.log s!"SSH login successful on {target}").setStatus
        "Connected" .ok).say .reset
    else p
  p.say (.writeBytes data)

def onTunnelOpened (p : Page) (ch : Nat) (sid : UInt32) : Page :=
  let p := { p with sessionId := some sid }
  if p.socketHealthy then
    p.withSelected fun nodeId => p.sendSshTerminalResize ch nodeId sid p.cols p.rows
  else p

def onError (p : Page) (kind : FrameError) (message : String) : Page :=
  match kind with
  | .requiresUsername =>
      let p := ((p.say .reset).setStatus "Username required" .warn).log "SSH username is required."
      let p := { p.resetCredentialCapture with sessionUsername := [] }.write "Enter username: "
      { p with credentialMode := some .usernameOnly }
  | .requiresPassword =>
      let p := ((p.say .reset).setStatus "Password required" .warn).log "SSH password is required."
      { p with passwordBuffer := [], credentialMode := some .password }.write "Enter password: "
  | .generic | .authentication =>
      let p := ((p.say .reset).setStatus "Error" .error).log
        (if message = "" then unknownError else message)
      if !p.isSshConnected then { p with sessionUsername := [] }.resetCredentialCapture.cleanup
      else { p with sessionUsername := [], isSshConnected := false }.promptForUsername

/-- `on_protocol_message`. -/
def onProtocolMessage (p : Page) (ch : Nat) (data : WebFrameData) : Page :=
  match data with
  | .authSuccess cid _ _ =>
      let p := (p.log s!"Authenticated connection id {cid.display}").startHeartbeat ch
      p.withSelected fun nodeId => p.openSshTunnel ch nodeId none none
  | .tunnelData _ nodeId _ data => p.onTunnelData nodeId data
  | .tunnelOpened _ sid _ => p.onTunnelOpened ch sid
  | .tunnelClosed _ sid _ =>
      (((p.log s!"SSH Tunnel closed - Session ID: {sid.toNat}").setStatus "Tunnel closed" .warn).say
        .reset).cleanup
  | .error kind message _ => p.onError kind message
  | _ =>
      let p := ((p.say .reset).setStatus "Auth failed" .error).log unknownError
      { p with sessionUsername := [], isSshConnected := false }.promptForUsername

end Page

/-! ## Events -/

inductive Event where
  /-- A click on the card of a node. -/
  | card (nodeId : Uuid) (confirmed made : Bool)
  | opened (ch : Nat)
  /-- A message, as `handle_message` decodes it. -/
  | message (ch : Nat) (frame : Option WebFrameData)
  | error (ch : Nat) (message : Option String)
  | closed (ch : Nat) (reason : String) (code : UInt16)
  /-- The interval of a channel. -/
  | heartbeat (ch : Nat)
  /-- What is typed or pasted into the terminal. -/
  | data (data : JsString)
  /-- The host of the terminal is laid out anew. -/
  | layout (proposed : Option (UInt32 × UInt32))
  | observed
  /-- The SSH tab is shown. -/
  | tab

/-- The listener of an event.  A WebSocket fires `open` once, and a message only while open. -/
def Page.on (build : Build) (p : Page) : Event → Page
  | .card nodeId confirmed made => p.onCard nodeId confirmed made
  | .opened ch =>
      if p.readyState ch = some .CONNECTING then
        (p.setReadyState ch .OPEN).onConnectionOpen build ch
      else p
  | .message ch frame =>
      match p.readyState ch, frame with
      | some .OPEN, some data => p.onProtocolMessage ch data
      | _, _ => p
  | .error ch message =>
      match p.readyState ch with
      | none | some .CLOSED => p
      | _ => p.onConnectionError message
  | .closed ch reason code =>
      match p.readyState ch with
      | none | some .CLOSED => p
      | _ => (p.setReadyState ch .CLOSED).onConnectionClose reason code
  | .heartbeat ch =>
      if p.channels[ch]?.any (·.heartbeat) then p.sendFrameData ch .heartbeat else p
  | .data data => p.onData data
  | .layout proposed => { p with proposed := proposed }
  | .observed => p.onObserved
  | .tab => p.fit

/-- The page, one event at a time. -/
def machine (build : Build) : Interleave.Reactive Page Event Output where
  handle p e :=
    let p := { p with out := [] }.on build e
    (p, p.out)

/-- The page as it is loaded. -/
def Page.start (cols rows : UInt32) : Page :=
  ⟨[], none, none, none, false, false, none, [], [], [], cols, rows, none, []⟩

end Phirepass.Channel
