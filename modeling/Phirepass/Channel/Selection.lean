/-
# `Phirepass.Channel.Selection` — where the frames of the page go

A click on a card closes the channel there is, opens another and forgets what
was typed and announced; until the next click everything the page sends is for
that node, over that channel.

    Sole         only the channel `socket` names holds a WebSocket
    Bound        since the click: the channel, the node, the sessions announced
                 and the text typed, and every frame put out made of them
    Announced    the session of the last `TunnelOpened` over that channel

The page has one thread and one state, and listeners of an old channel may
still run: `onTunnelData` of a message that was under way shows it in the new
terminal.  But nothing they do gives the page an old session back, since a
channel that is let go of is not open, and only an open one delivers.
-/
import Phirepass.Channel.Page

namespace Phirepass.Channel

/-- What is typed by the events of a run. -/
def typed (evs : List Event) : JsString :=
  evs.flatMap fun
    | .data data => data
    | _ => []

/-- A click on a card that is not taken back. -/
def Selects (p : Page) (e : Event) : Prop :=
  ∃ nodeId confirmed made, e = .card nodeId confirmed made ∧
    (p.socketHealthy && !confirmed) = false

/-- A `TunnelOpened` that is delivered. -/
def Announces (p : Page) (e : Event) : Prop :=
  ∃ ch protocol sid msgId, e = .message ch (some (.tunnelOpened protocol sid msgId)) ∧
    p.readyState ch = some .OPEN

/-- `value` is made of text that was typed. -/
def MadeOf (t : JsString) (value : Option String) : Prop :=
  ∀ text, value = some text → ∃ s : JsString, s.Sublist t ∧ text = s.toRust

/-- A frame for the node, with nothing but what was typed and a session that `A` allows. -/
def Names (A : UInt32 → Prop) (t : JsString) (nodeId : Uuid) : WebFrameData → Prop
  | .heartbeat => True
  | .auth _ node _ _ => node = nodeId.display
  | .openTunnel _ node username password _ =>
      node = nodeId.display ∧ MadeOf t username ∧ MadeOf t password
  | .tunnelData _ node sid _ => node = nodeId.display ∧ A sid
  | .sshWindowResize node sid .. => node = nodeId.display ∧ A sid
  | _ => False

/-- What holds of the channel `k` and the global `socket`: it is the one that holds a
WebSocket, and one that holds none is on its way out. -/
def Settled (socket : Option Nat) (k : Nat) (c : ChannelState) : Prop :=
  (c.socket = true → socket = some k) ∧
    (c.socket = false → c.readyState = .CLOSING ∨ c.readyState = .CLOSED)

/-- Only the channel that `socket` names holds a WebSocket. -/
def Sole (p : Page) : Prop := ∀ k c, p.channels[k]? = some c → Settled p.socket k c

/-- The page since a click on the card of `nodeId` opened the channel `ch`. -/
structure Bound (A : UInt32 → Prop) (t : JsString) (ch : Nat) (nodeId : Uuid) (p : Page) :
    Prop where
  sole : Sole p
  socket : ∀ k, p.socket = some k → k = ch
  selected : p.selectedNodeId = some nodeId
  session : ∀ sid, p.sessionId = some sid → A sid
  username : p.usernameBuffer.Sublist t
  password : p.passwordBuffer.Sublist t
  sessionUsername : p.sessionUsername.Sublist t
  out : ∀ k data, .frame k data ∈ p.out → k = ch ∧ Names A t nodeId data

/-! ## Channels

`disconnect` and `closeSocket` say and log in between; what matters of them is which channels
hold a WebSocket afterwards, and that no frame is put out (`disconnect_eq`, `closeSocket_eq`). -/

section Channels

variable {p : Page} {k : Nat} {f : ChannelState → ChannelState}

theorem Sole.modify (h : Sole p)
    (hf : ∀ c, p.channels[k]? = some c → Settled p.socket k c → Settled p.socket k (f c)) :
    Sole { p with channels := p.channels.modify k f } := by
  intro j c hc
  by_cases hj : k = j
  · subst hj
    have hmodify : p.channels[k]?.map f = some c := by
      simpa [List.getElem?_modify] using hc
    obtain ⟨c₀, hc₀, rfl⟩ := Option.map_eq_some_iff.1 hmodify
    exact hf c₀ hc₀ (h k c₀ hc₀)
  · have hsame : p.channels[j]? = some c := by
      simpa [List.getElem?_modify, hj] using hc
    exact h j c hsame

/-- A connected channel is the one `socket` names. -/
theorem Sole.socket_of_connected (h : Sole p) (hk : p.isConnected k = true) :
    p.socket = some k := by
  unfold Page.isConnected at hk
  obtain ⟨c, hc, hheld⟩ := (Option.any_eq_true _ _).1 hk
  exact (h k c hc).1 (Bool.and_eq_true_iff.1 hheld).1

/-- A channel after `disconnect`. -/
def ChannelState.disconnected (c : ChannelState) : ChannelState :=
  { c with
    socket := false
    readyState := if c.socket ∧ c.readyState ≠ .CLOSED then .CLOSING else c.readyState
    heartbeat := false }

theorem settled_disconnected {c : ChannelState} (h : Settled (some k) k c) :
    Settled none k c.disconnected := by
  refine ⟨fun hheld => ?_, fun _ => ?_⟩
  · cases hheld
  · by_cases hopen : c.socket ∧ c.readyState ≠ .CLOSED
    · exact .inl (if_pos hopen)
    · have hstate : c.disconnected.readyState = c.readyState := if_neg hopen
      rw [hstate]
      cases hsocket : c.socket with
      | false => exact h.2 hsocket
      | true => exact .inr (by_contra fun hne => hopen ⟨hsocket, hne⟩)

theorem modify_congr {l : List ChannelState} {g : ChannelState → ChannelState}
    (h : ∀ c, l[k]? = some c → f c = g c) : l.modify k f = l.modify k g := by
  refine List.ext_getElem? fun j => ?_
  rw [List.getElem?_modify, List.getElem?_modify]
  by_cases hj : k = j
  · subst hj
    cases hc : l[k]? with
    | none => rfl
    | some c => simp [h c hc]
  · simp [hj]

/-- `disconnect` lets go of one channel and says so if it held a WebSocket. -/
theorem disconnect_eq (p : Page) (k : Nat) :
    ∃ out : List Output, (∀ ch data, .frame ch data ∉ out) ∧
      p.disconnect k = { p with
        channels := p.channels.modify k ChannelState.disconnected
        out := p.out ++ out } := by
  have hany : (p.stopHeartbeat k).channels[k]?.any (·.socket) = p.channels[k]?.any (·.socket) := by
    rw [Page.stopHeartbeat, List.getElem?_modify_eq, Option.map_eq_map, Option.any_map]
  by_cases hheld : p.channels[k]?.any (·.socket) = true
  · refine ⟨[.close k], by simp, ?_⟩
    refine (if_pos (hany.trans hheld)).trans (congrArg (fun channels =>
      { p with channels := channels, out := p.out ++ [Output.close k] }) ?_)
    refine (List.modify_modify_eq _ _ _ _).trans (modify_congr fun c hc => ?_)
    have hsocket : c.socket = true := by simpa [hc] using hheld
    by_cases hclosed : c.readyState = .CLOSED
    · simp [ChannelState.disconnected, hclosed]
    · simp [ChannelState.disconnected, hclosed, hsocket]
  · refine ⟨[], fun _ _ => List.not_mem_nil, ?_⟩
    refine (if_neg fun h => hheld (hany.symm.trans h)).trans ?_
    rw [List.append_nil]
    refine congrArg (fun channels => { p with channels := channels }) (modify_congr fun c hc => ?_)
    have hsocket : c.socket = false := by simpa [hc] using hheld
    simp [ChannelState.disconnected, hsocket]

/-- `closeSocket` lets go of the only channel that holds a WebSocket. -/
theorem closeSocket_eq (h : Sole p) :
    ∃ (channels : List ChannelState) (intended : Bool) (out : List Output),
      (∀ j c, channels[j]? = some c → Settled none j c) ∧
      channels.length = p.channels.length ∧ (∀ ch data, .frame ch data ∉ out) ∧
      p.closeSocket = { p with
        channels := channels
        socket := none
        isIntentionallyClosed := intended
        out := p.out ++ out } := by
  unfold Page.closeSocket
  split
  · next k hsocket =>
      obtain ⟨out, hout, heq⟩ := disconnect_eq { p with isIntentionallyClosed := true } k
      refine ⟨p.channels.modify k ChannelState.disconnected, true, out, ?_,
        List.length_modify _ _ _, hout, by rw [heq]⟩
      intro j c hc
      by_cases hj : k = j
      -- the channel that was let go of, and the others, which held nothing before
      · subst hj
        rw [List.getElem?_modify_eq] at hc
        obtain ⟨c₀, hc₀, rfl⟩ := Option.map_eq_some_iff.1 hc
        exact settled_disconnected (hsocket ▸ h k c₀ hc₀)
      · rw [List.getElem?_modify_ne _ _ hj] at hc
        have hother := h j c hc
        refine ⟨fun hheld => absurd ((hsocket.symm.trans (hother.1 hheld))) ?_, hother.2⟩
        simpa using hj
  · next hsocket =>
      exact ⟨p.channels, p.isIntentionallyClosed, [], fun j c hc => hsocket ▸ h j c hc, rfl,
        fun _ _ => List.not_mem_nil, by rw [List.append_nil, ← hsocket]⟩

end Channels

/-! ## What keeps a page bound

One lemma for each function of the page, in the order of the source.  The functions call one
another, so a lemma uses those above it, and none of them looks at the whole page again. -/

namespace Bound

variable {A A' : UInt32 → Prop} {t t' : JsString} {ch k : Nat} {nodeId : Uuid} {p : Page}

theorem say (h : Bound A t ch nodeId p) {o : Output}
    (ho : ∀ k data, o = .frame k data → k = ch ∧ Names A t nodeId data) :
    Bound A t ch nodeId (p.say o) :=
  { h with
    out := by
      intro k data hmem
      rcases List.mem_append.1 hmem with hmem | hmem
      · exact h.out k data hmem
      · exact ho k data (List.mem_singleton.1 hmem).symm }

theorem log (h : Bound A t ch nodeId p) (text : String) : Bound A t ch nodeId (p.log text) :=
  h.say (by simp)

theorem setStatus (h : Bound A t ch nodeId p) (text : String) (variant : StatusVariant) :
    Bound A t ch nodeId (p.setStatus text variant) := h.say (by simp)

theorem write (h : Bound A t ch nodeId p) (text : String) : Bound A t ch nodeId (p.write text) :=
  h.say (by simp)

theorem sendFrameData (h : Bound A t ch nodeId p) {data : WebFrameData}
    (hdata : Names A t nodeId data) : Bound A t ch nodeId (p.sendFrameData k data) := by
  unfold Page.sendFrameData
  split
  · next hk =>
      refine h.say fun k' data' heq => ?_
      cases heq
      exact ⟨h.socket k (h.sole.socket_of_connected hk), hdata⟩
  · exact h

theorem startHeartbeat (h : Bound A t ch nodeId p) : Bound A t ch nodeId (p.startHeartbeat k) := by
  have hstop : Bound A t ch nodeId (p.stopHeartbeat k) :=
    { h with sole := h.sole.modify fun c _ hc => hc }
  have hsend : Bound A t ch nodeId ((p.stopHeartbeat k).sendFrameData k .heartbeat) :=
    hstop.sendFrameData trivial
  exact { hsend with sole := hsend.sole.modify fun c _ hc => hc }

theorem whenAttached (h : Bound A t ch nodeId p) {send : Nat → Uuid → UInt32 → Page}
    (hsend : ∀ k sid, A sid → Bound A t ch nodeId (send k nodeId sid)) :
    Bound A t ch nodeId (p.whenAttached send) := by
  unfold Page.whenAttached
  split
  · next k node sid hsocket hselected hsession =>
      split
      · obtain rfl : nodeId = node := Option.some.inj (h.selected.symm.trans hselected)
        exact hsend k sid (h.session sid hsession)
      · exact h
  · exact h

theorem onResize (h : Bound A t ch nodeId p) (cols rows : UInt32) :
    Bound A t ch nodeId (p.onResize cols rows) :=
  h.whenAttached fun _ _ hsid => h.sendFrameData ⟨rfl, hsid⟩

theorem fit (h : Bound A t ch nodeId p) : Bound A t ch nodeId p.fit := by
  unfold Page.fit
  split
  · exact h
  · next cols rows _ =>
      split
      · exact h
      · exact onResize (p := { p with cols := cols, rows := rows }) { h with out := h.out } _ _

theorem onObserved (h : Bound A t ch nodeId p) : Bound A t ch nodeId p.onObserved :=
  h.fit.whenAttached fun _ _ hsid => h.fit.sendFrameData ⟨rfl, hsid⟩

theorem resetCredentialCapture (h : Bound A t ch nodeId p) :
    Bound A t ch nodeId p.resetCredentialCapture :=
  { h with
    username := List.nil_sublist t
    password := List.nil_sublist t }

theorem cleanup (h : Bound A t ch nodeId p) : Bound A t ch nodeId p.cleanup := by
  obtain ⟨channels, intended, out, hsettled, -, hout, heq⟩ := closeSocket_eq h.sole
  refine fit ?_
  rw [heq]
  exact
    { h with
      sole := hsettled
      socket := fun _ hsocket => by cases hsocket
      session := fun _ hsession => by cases hsession
      username := List.nil_sublist t
      password := List.nil_sublist t
      sessionUsername := List.nil_sublist t
      out := fun k data hmem =>
        (List.mem_append.1 hmem).elim (h.out k data) fun hmem => absurd hmem (hout k data) }

theorem ite {c : Prop} [Decidable c] {q : Page} (hpos : c → Bound A t ch nodeId p)
    (hneg : ¬ c → Bound A t ch nodeId q) : Bound A t ch nodeId (if c then p else q) := by
  split
  · next hc => exact hpos hc
  · next hc => exact hneg hc

/-! ### Credentials

What is typed goes into one of the buffers, character by character, and out of it again by
backspace; the frame has what is left, trimmed.  So credentials are a sublist of the text typed
since the click, not a part of it. -/

theorem mode (h : Bound A t ch nodeId p) (mode : Option CredentialMode) :
    Bound A t ch nodeId { p with credentialMode := mode } := { h with out := h.out }

theorem promptForUsername (h : Bound A t ch nodeId p) :
    Bound A t ch nodeId p.promptForUsername := by
  have hreset : Bound A t ch nodeId { p.resetCredentialCapture with sessionUsername := [] } :=
    { h.resetCredentialCapture with sessionUsername := List.nil_sublist t }
  have hasked := (hreset.say (o := .reset) (by simp)).write "Enter username: "
  exact (hasked.mode _).setStatus _ _

theorem promptForPassword (h : Bound A t ch nodeId p) (shouldReset : Bool) :
    Bound A t ch nodeId (p.promptForPassword shouldReset) := by
  have hfirst : Bound A t ch nodeId
      (if shouldReset then p.say .reset else p.say (.writeln [])) := by
    split
    · exact h.say (by simp)
    · exact h.say (by simp)
  have hblank : Bound A t ch nodeId
      { (if shouldReset then p.say .reset else p.say (.writeln [])) with
        passwordBuffer := [], credentialMode := some .password } :=
    { hfirst with password := List.nil_sublist t }
  exact (hblank.write _).setStatus _ _

theorem withSelected (h : Bound A t ch nodeId p) {call : Uuid → Page}
    (hcall : Bound A t ch nodeId (call nodeId)) : Bound A t ch nodeId (p.withSelected call) := by
  unfold Page.withSelected
  rw [h.selected]
  exact hcall

/-- Credentials that were typed are sent to the node of the click. -/
theorem openSelected (h : Bound A t ch nodeId p) {username password : JsString}
    (husername : username.Sublist t) (hpassword : password.Sublist t) :
    Bound A t ch nodeId (p.openSelected username password) := by
  unfold Page.openSelected
  split
  · split
    · refine h.withSelected (h.sendFrameData ⟨rfl, ?_, ?_⟩)
      · rintro text htext
        exact ⟨username, husername, (Option.some.inj htext).symm⟩
      · rintro text htext
        exact ⟨password, hpassword, (Option.some.inj htext).symm⟩
    · exact h
  · exact h

theorem trim_sublist (s : JsString) : s.trim.Sublist s := by
  have hdrop := (List.dropWhile_sublist JsString.isSpace
    (l := (s.dropWhile JsString.isSpace).reverse)).reverse
  rw [List.reverse_reverse] at hdrop
  exact hdrop.trans (List.dropWhile_sublist _)

theorem submitUsername (h : Bound A t ch nodeId p) (requirePassword : Bool) :
    Bound A t ch nodeId (p.submitUsername requirePassword) := by
  have husername : p.usernameBuffer.trim.Sublist t := (trim_sublist _).trans h.username
  refine ite (fun _ => ?_) fun _ => ?_
  · have hasked := ((h.log "Username is required to start SSH session").say (o := .writeln [])
      (by simp)).write "Enter username: "
    exact { hasked with username := List.nil_sublist t }
  · have hnamed : Bound A t ch nodeId { p with sessionUsername := p.usernameBuffer.trim } :=
      { h with sessionUsername := husername }
    refine ite (fun _ => hnamed.promptForPassword true) fun _ => ?_
    exact ((hnamed.resetCredentialCapture.setStatus _ _).log _).openSelected husername
      (List.nil_sublist t)

theorem cancelCredentialEntry (h : Bound A t ch nodeId p) :
    Bound A t ch nodeId p.cancelCredentialEntry :=
  ((h.resetCredentialCapture.log _).setStatus _ _).cleanup

theorem submitPassword (h : Bound A t ch nodeId p) : Bound A t ch nodeId p.submitPassword := by
  have hreset := h.resetCredentialCapture
  refine ite (fun _ => (hreset.log _).promptForPassword false) fun _ => ?_
  refine ite (fun _ => (hreset.log _).promptForUsername) fun _ => ?_
  exact ((hreset.setStatus _ _).log _).openSelected hreset.sessionUsername h.password

/-- More was announced and more was typed. -/
theorem mono (h : Bound A t ch nodeId p) (hA : ∀ sid, A sid → A' sid) (ht : t.Sublist t') :
    Bound A' t' ch nodeId p := by
  have hmade {value : Option String} (hvalue : MadeOf t value) : MadeOf t' value := by
    intro text htext
    obtain ⟨s, hs, heq⟩ := hvalue text htext
    exact ⟨s, hs.trans ht, heq⟩
  refine ⟨h.sole, h.socket, h.selected, fun sid hsid => hA sid (h.session sid hsid),
    h.username.trans ht, h.password.trans ht, h.sessionUsername.trans ht, fun k data hmem => ?_⟩
  obtain ⟨hk, hdata⟩ := h.out k data hmem
  refine ⟨hk, ?_⟩
  cases data with
  | openTunnel protocol node username password msgId =>
      exact ⟨hdata.1, hmade hdata.2.1, hmade hdata.2.2⟩
  | tunnelData protocol node sid data => exact ⟨hdata.1, hA _ hdata.2⟩
  | sshWindowResize node sid cols rows pxWidth pxHeight => exact ⟨hdata.1, hA _ hdata.2⟩
  | _ => exact hdata

theorem handleUsernameKeystroke (h : Bound A t ch nodeId p) (data : JsString)
    (requirePassword : Bool) :
    Bound A (t ++ data) ch nodeId (p.handleUsernameKeystroke data requirePassword) := by
  have hmore : Bound A (t ++ data) ch nodeId p :=
    h.mono (fun _ hsid => hsid) (List.sublist_append_left t data)
  unfold Page.handleUsernameKeystroke
  split
  · exact (hmore.write _).submitUsername requirePassword
  · split
    · exact (hmore.write _).cancelCredentialEntry
    · split
      · split
        · exact hmore
        · have hback : Bound A (t ++ data) ch nodeId
              { p with usernameBuffer := p.usernameBuffer.dropLast } :=
            { hmore with username := (List.dropLast_sublist _).trans hmore.username }
          exact hback.write _
      · split
        · have htyped : Bound A (t ++ data) ch nodeId
              { p with usernameBuffer := p.usernameBuffer ++ data } :=
            { hmore with username := h.username.append (List.Sublist.refl data) }
          exact htyped.say (by simp)
        · exact hmore

theorem handlePasswordKeystroke (h : Bound A t ch nodeId p) (data : JsString) :
    Bound A (t ++ data) ch nodeId (p.handlePasswordKeystroke data) := by
  have hmore : Bound A (t ++ data) ch nodeId p :=
    h.mono (fun _ hsid => hsid) (List.sublist_append_left t data)
  unfold Page.handlePasswordKeystroke
  split
  · exact (hmore.write _).submitPassword
  · split
    · exact (hmore.write _).cancelCredentialEntry
    · split
      · exact { hmore with password := (List.dropLast_sublist _).trans hmore.password }
      · split
        · exact { hmore with password := h.password.append (List.Sublist.refl data) }
        · exact hmore

theorem onData (h : Bound A t ch nodeId p) (data : JsString) :
    Bound A (t ++ data) ch nodeId (p.onData data) := by
  unfold Page.onData
  split
  · exact h.handleUsernameKeystroke data true
  · exact h.handleUsernameKeystroke data false
  · exact h.handlePasswordKeystroke data
  · have hmore : Bound A (t ++ data) ch nodeId p :=
      h.mono (fun _ hsid => hsid) (List.sublist_append_left t data)
    exact hmore.whenAttached fun _ _ hsid => hmore.sendFrameData ⟨rfl, hsid⟩

/-! ### A click

A click that goes through forgets everything: the buffers, the session, the channel.  Then the
page is bound to the new channel whatever it was bound to before, for a session that nobody has
announced yet. -/

theorem sendFrameData_eq (p : Page) (k : Nat) (data : WebFrameData) :
    ∃ out, p.sendFrameData k data = { p with out := out } := by
  unfold Page.sendFrameData
  split
  · exact ⟨_, rfl⟩
  · exact ⟨p.out, rfl⟩

theorem onResize_eq (p : Page) (cols rows : UInt32) :
    ∃ out, p.onResize cols rows = { p with out := out } := by
  unfold Page.onResize Page.whenAttached
  split
  · split
    · exact sendFrameData_eq p _ _
    · exact ⟨p.out, rfl⟩
  · exact ⟨p.out, rfl⟩

theorem fit_eq (p : Page) :
    ∃ cols rows out, p.fit = { p with cols := cols, rows := rows, out := out } := by
  unfold Page.fit
  split
  · exact ⟨p.cols, p.rows, p.out, rfl⟩
  · next cols rows _ =>
      split
      · exact ⟨p.cols, p.rows, p.out, rfl⟩
      · obtain ⟨out, heq⟩ := onResize_eq { p with cols := cols, rows := rows } cols rows
        exact ⟨cols, rows, out, heq⟩

theorem openChannel (h : Bound A t ch nodeId p) (hsocket : p.socket = none)
    (hlength : p.channels.length = ch) (made : Bool) :
    Bound A t ch nodeId (p.openChannel nodeId made) := by
  subst hlength
  have hsole : ∀ k c, (p.channels ++ [(⟨nodeId, made, if made then .CONNECTING else .CLOSED,
      false⟩ : ChannelState)])[k]? = some c → Settled (some p.channels.length) k c := by
    intro k c hc
    rw [List.getElem?_append] at hc
    split at hc
    -- the old channels hold nothing, as `socket` names none of them; the new one is the last
    · have hold := h.sole k c hc
      refine ⟨fun hheld => ?_, hold.2⟩
      cases hsocket.symm.trans (hold.1 hheld)
    · rw [List.getElem?_singleton] at hc
      split at hc
      · next hlt hzero =>
          obtain rfl := Option.some.inj hc
          have hk : k = p.channels.length := by omega
          refine ⟨fun _ => congrArg some hk.symm, fun hmade => .inr ?_⟩
          exact if_neg (by rw [show made = false from hmade]; decide)
      · cases hc
  cases made with
  | false =>
      exact
        { h with
          sole := hsole
          socket := fun k hk => (Option.some.inj hk).symm }
  | true =>
      exact
        { h.say (o := .connect p.channels.length nodeId.display) (by simp) with
          sole := hsole
          socket := fun k hk => (Option.some.inj hk).symm }

theorem connect (h : Sole p) (hselected : p.selectedNodeId = some nodeId)
    (hout : ∀ k data, .frame k data ∉ p.out) (made : Bool) :
    Bound A [] p.channels.length nodeId (p.connect made) := by
  -- whatever the page was bound to is gone after `cleanup`, so it is bound to the next channel
  -- before there is one
  have hfit {q : Page} (hq : Bound A [] p.channels.length nodeId q ∧ q.socket = none ∧
      q.channels.length = p.channels.length) :
      Bound A [] p.channels.length nodeId q.fit ∧ q.fit.socket = none ∧
        q.fit.channels.length = p.channels.length := by
    obtain ⟨cols, rows, out, heq⟩ := fit_eq q
    exact ⟨hq.1.fit, heq ▸ hq.2.1, heq ▸ hq.2.2⟩
  obtain ⟨channels, intended, out, hsettled, hlength, hclosed, heq⟩ := closeSocket_eq h
  have hcleanup : Bound A [] p.channels.length nodeId p.cleanup ∧ p.cleanup.socket = none ∧
      p.cleanup.channels.length = p.channels.length := by
    refine hfit ⟨?_, ?_, ?_⟩
    · rw [heq]
      refine ⟨hsettled, fun _ hsocket => ?_, hselected, fun _ hsession => ?_, .slnil, .slnil,
        .slnil, fun k data hmem => ?_⟩
      · cases hsocket
      · cases hsession
      · exact absurd hmem (List.not_mem_append (hout k data) (hclosed k data))
    · rw [heq]
      rfl
    · rw [heq]
      exact hlength
  obtain ⟨hbound, hsocket, hcount⟩ :=
    hfit ⟨hcleanup.1.say (o := .reset) (by simp), hcleanup.2.1, hcleanup.2.2⟩
  unfold Page.connect
  rw [hselected]
  exact (hbound.setStatus "Connecting..." .info).openChannel hsocket hcount made

theorem onCard {confirmed : Bool} (h : Sole p) (hout : p.out = [])
    (hclick : (p.socketHealthy && !confirmed) = false) (made : Bool) :
    Bound A [] p.channels.length nodeId (p.onCard nodeId confirmed made) := by
  unfold Page.onCard
  rw [if_neg (by rw [hclick]; decide)]
  refine connect (p := ({ p with selectedNodeId := some nodeId } : Page).log _) h rfl ?_ made
  intro k data hmem
  have hmem : Output.frame k data ∈ p.out ++ [.log _] := hmem
  simp [hout] at hmem

/-! ### The listeners of a channel

They say and log, and clean up; of the frames they send each names the node that was clicked. -/

theorem setReadyState (h : Bound A t ch nodeId p) {readyState : ReadyState}
    (hstate : readyState = .CLOSED ∨ p.readyState k = some .CONNECTING) :
    Bound A t ch nodeId (p.setReadyState k readyState) := by
  refine { h with sole := h.sole.modify fun c hc hsettled => ⟨hsettled.1, fun hnone => ?_⟩ }
  rcases hstate with hclosed | hconnecting
  · exact .inr hclosed
  · have hready : c.readyState = .CONNECTING := by
      simpa [Page.readyState, hc] using hconnecting
    have hsaid := hsettled.2 hnone
    rw [hready] at hsaid
    rcases hsaid with heq | heq
    · cases heq
    · cases heq

theorem onConnectionOpen (build : Build) (h : Bound A t ch nodeId p) :
    Bound A t ch nodeId (p.onConnectionOpen build k) := by
  have hauth : Bound A t ch nodeId (p.authenticate build k nodeId) := h.sendFrameData rfl
  exact h.withSelected ((hauth.log _).setStatus _ _)

theorem onConnectionError (h : Bound A t ch nodeId p) (message : Option String) :
    Bound A t ch nodeId (p.onConnectionError message) := (h.setStatus _ _).log _

theorem onConnectionClose (h : Bound A t ch nodeId p) (reason : String) (code : UInt16) :
    Bound A t ch nodeId (p.onConnectionClose reason code) := by
  have hflag {q : Page} (hq : Bound A t ch nodeId q) :
      Bound A t ch nodeId { q with isIntentionallyClosed := false } := { hq with out := hq.out }
  exact hflag (ite (fun _ => (((h.setStatus _ _).log _).say (by simp)).cleanup) fun _ => h.log _)

theorem onTunnelData (h : Bound A t ch nodeId p) (node : String) (data : Bytes) :
    Bound A t ch nodeId (p.onTunnelData node data) := by
  refine say (ite (fun _ => ?_) fun _ => h) (by simp)
  have hconnected : Bound A t ch nodeId { p with isSshConnected := true } := { h with out := h.out }
  exact ((hconnected.log _).setStatus _ _).say (by simp)

/-- From now on the session is the one announced. -/
theorem onTunnelOpened (h : Bound A t ch nodeId p) (hout : p.out = []) {sid : UInt32}
    (hsid : A' sid) : Bound A' t ch nodeId (p.onTunnelOpened k sid) := by
  have hopened : Bound A' t ch nodeId { p with sessionId := some sid } :=
    { h with
      session := fun sid' hsid' => by
        cases hsid'
        exact hsid
      out := fun k data hmem => by
        rw [show ({ p with sessionId := some sid } : Page).out = [] from hout] at hmem
        cases hmem }
  refine ite (fun _ => hopened.withSelected (hopened.sendFrameData ⟨rfl, hsid⟩)) fun _ => hopened

theorem onError (h : Bound A t ch nodeId p) (kind : FrameError) (message : String) :
    Bound A t ch nodeId (p.onError kind message) := by
  have hshown (text : String) (variant : StatusVariant) (text' : String) :
      Bound A t ch nodeId (((p.say .reset).setStatus text variant).log text') :=
    ((h.say (by simp)).setStatus _ _).log _
  have hgeneric : Bound A t ch nodeId (p.onError .generic message) := by
    have hq := hshown "Error" .error
      (if message = "" then Page.unknownError else message)
    refine ite (fun _ => ?_) fun _ => ?_
    · refine cleanup (resetCredentialCapture ?_)
      exact { hq with sessionUsername := List.nil_sublist t }
    · refine promptForUsername ?_
      exact { hq with sessionUsername := List.nil_sublist t }
  cases kind with
  | requiresUsername =>
      have hq := hshown "Username required" .warn "SSH username is required."
      have hforgot {q : Page} (hq : Bound A t ch nodeId q) :
          Bound A t ch nodeId { q.resetCredentialCapture with sessionUsername := [] } :=
        { hq.resetCredentialCapture with sessionUsername := List.nil_sublist t }
      exact ((hforgot hq).write _).mode _
  | requiresPassword =>
      refine write ?_ _
      exact { hshown "Password required" .warn "SSH password is required." with
        password := List.nil_sublist t }
  | generic => exact hgeneric
  | authentication => exact hgeneric

/-- A message that announces no session. -/
theorem onProtocolMessage (h : Bound A t ch nodeId p) {data : WebFrameData}
    (hdata : ∀ protocol sid msgId, data ≠ .tunnelOpened protocol sid msgId) :
    Bound A t ch nodeId (p.onProtocolMessage k data) := by
  have hother : Bound A t ch nodeId
      ({ ((p.say .reset).setStatus "Auth failed" .error).log Page.unknownError with
        sessionUsername := [], isSshConnected := false } : Page).promptForUsername := by
    have hq := ((h.say (o := .reset) (by simp)).setStatus "Auth failed" .error).log
      Page.unknownError
    exact promptForUsername { hq with sessionUsername := List.nil_sublist t }
  cases data with
  | authSuccess cid version msgId =>
      have hbeat := (h.log s!"Authenticated connection id {cid.display}").startHeartbeat (k := k)
      refine hbeat.withSelected (hbeat.sendFrameData ⟨rfl, ?_, ?_⟩)
      · rintro text htext
        cases htext
      · rintro text htext
        cases htext
  | tunnelData protocol node sid data => exact h.onTunnelData node data
  | tunnelOpened protocol sid msgId => exact absurd rfl (hdata protocol sid msgId)
  | tunnelClosed protocol sid msgId =>
      exact (((h.log _).setStatus _ _).say (by simp)).cleanup
  | error kind message msgId => exact h.onError kind message
  | _ => exact hother

/-! ### One event

Each listener is looked at once, on a page that is bound.  A click that is taken back does
nothing; of the messages only a `TunnelOpened` changes which session may be named; and only what
is typed adds to the text that credentials are made of. -/

/-- An open channel is the one of the click. -/
theorem channel_of_open (h : Bound A t ch nodeId p) (hopen : p.readyState k = some .OPEN) :
    k = ch := by
  obtain ⟨c, hc, hstate⟩ := Option.map_eq_some_iff.1 hopen
  have hsettled := h.sole k c hc
  cases hsocket : c.socket with
  | true => exact h.socket k (hsettled.1 hsocket)
  | false =>
      have hleaving := hsettled.2 hsocket
      rw [hstate] at hleaving
      rcases hleaving with heq | heq
      · cases heq
      · cases heq

theorem on_card (build : Build) (h : Bound A t ch nodeId p) {node : Uuid} {confirmed made : Bool}
    (hclick : ¬ Selects p (.card node confirmed made)) :
    Bound A t ch nodeId (p.on build (.card node confirmed made)) := by
  have hrefused : (p.socketHealthy && !confirmed) = true := by
    by_contra hno
    exact hclick ⟨node, confirmed, made, rfl, Bool.eq_false_iff.2 hno⟩
  have hstay : p.on build (.card node confirmed made) = p := if_pos hrefused
  rw [hstay]
  exact h

/-- A message that is delivered, and announces no session. -/
theorem on_message (build : Build) (h : Bound A t ch nodeId p) {frame : Option WebFrameData}
    (hquiet : ¬ Announces p (.message k frame)) :
    Bound A t ch nodeId (p.on build (.message k frame)) := by
  unfold Page.on
  dsimp only
  split
  · next data hopen =>
      refine h.onProtocolMessage ?_
      rintro protocol sid msgId rfl
      exact hquiet ⟨k, protocol, sid, msgId, rfl, hopen⟩
  · exact h

theorem on_error (build : Build) (h : Bound A t ch nodeId p) (message : Option String) :
    Bound A t ch nodeId (p.on build (.error k message)) := by
  unfold Page.on
  dsimp only
  split
  · exact h
  · exact h
  · exact h.onConnectionError message

theorem on_closed (build : Build) (h : Bound A t ch nodeId p) (reason : String) (code : UInt16) :
    Bound A t ch nodeId (p.on build (.closed k reason code)) := by
  unfold Page.on
  dsimp only
  split
  · exact h
  · exact h
  · exact (h.setReadyState (.inl rfl)).onConnectionClose reason code

/-- An event that is no click and announces no session. -/
theorem keep (build : Build) (h : Bound A t ch nodeId p) {e : Event} (hclick : ¬ Selects p e)
    (hquiet : ¬ Announces p e) : Bound A (t ++ typed [e]) ch nodeId (p.on build e) := by
  have more {q : Page} (hq : Bound A t ch nodeId q) : Bound A (t ++ typed [e]) ch nodeId q :=
    hq.mono (fun _ hsid => hsid) (List.sublist_append_left t _)
  cases e with
  | card node confirmed made => exact more (h.on_card build hclick)
  | opened k =>
      exact more (ite (fun hstate => (h.setReadyState (.inr hstate)).onConnectionOpen build)
        fun _ => h)
  | message k frame => exact more (h.on_message build hquiet)
  | error k message => exact more (h.on_error build message)
  | closed k reason code => exact more (h.on_closed build reason code)
  | heartbeat k => exact more (ite (fun _ => h.sendFrameData trivial) fun _ => h)
  | data data =>
      rw [show typed [Event.data data] = data by simp [typed]]
      exact h.onData data
  | layout proposed => exact more { h with out := h.out }
  | observed => exact more h.onObserved
  | tab => exact more h.fit

/-- **One event** that is not a click leaves the page bound: a `TunnelOpened` over the channel of
the click replaces the session, and nothing else does. -/
theorem on (build : Build) (h : Bound A t ch nodeId p) (hout : p.out = []) {e : Event}
    (hclick : ¬ Selects p e) (hkeep : ¬ Announces p e → ∀ sid, A sid → A' sid)
    (hnew : ∀ protocol sid msgId, e = .message ch (some (.tunnelOpened protocol sid msgId)) →
      Announces p e → A' sid) :
    Bound A' (t ++ typed [e]) ch nodeId (p.on build e) := by
  by_cases hsaid : Announces p e
  · obtain ⟨k, protocol, sid, msgId, rfl, hopen⟩ := id hsaid
    obtain rfl := h.channel_of_open hopen
    have hstep : p.on build (.message k (some (.tunnelOpened protocol sid msgId))) =
        p.onTunnelOpened k sid := by
      unfold Page.on
      dsimp only
      rw [hopen]
      rfl
    rw [hstep]
    exact (h.onTunnelOpened hout (hnew protocol sid msgId rfl hsaid)).mono (fun _ hsid => hsid)
      (List.sublist_append_left t _)
  · exact (h.keep build hclick hsaid).mono (hkeep hsaid) (List.Sublist.refl _)

end Bound

/-! ## Runs

Before the first click there is nothing to say: the page has no channel and puts out no frame.
A click starts a new account, and every other event goes on with the one there is. -/

/-- Before the first click there is no channel. -/
structure Idle (p : Page) : Prop where
  channels : p.channels = []
  socket : p.socket = none
  credentialMode : p.credentialMode = none
  out : p.out = []

theorem Idle.on (build : Build) {p : Page} (h : Idle p) {e : Event} (hclick : ¬ Selects p e) :
    Idle (p.on build e) := by
  -- without a socket nothing is sent, and without channels no listener of one is called
  have hattached (send : Nat → Uuid → UInt32 → Page) {q : Page} (hq : q.socket = none) :
      q.whenAttached send = q := by
    unfold Page.whenAttached
    rw [hq]
  have hfit : Idle p.fit := by
    unfold Page.fit
    split
    · exact h
    · split
      · exact h
      · next cols rows _ _ =>
          have hresize : ({ p with cols := cols, rows := rows } : Page).onResize cols rows =
              { p with cols := cols, rows := rows } := hattached _ h.socket
          rw [hresize]
          exact ⟨h.channels, h.socket, h.credentialMode, h.out⟩
  have hready (k : Nat) : p.readyState k = none := by
    rw [Page.readyState, h.channels]
    rfl
  cases e with
  | card node confirmed made =>
      have hrefused : (p.socketHealthy && !confirmed) = true := by
        by_contra hno
        exact hclick ⟨node, confirmed, made, rfl, Bool.eq_false_iff.2 hno⟩
      rw [Page.socketHealthy, h.socket] at hrefused
      cases hrefused
  | opened k =>
      have hstay : p.on build (.opened k) = p := if_neg (by rw [hready]; nofun)
      rw [hstay]
      exact h
  | message k frame =>
      unfold Page.on
      dsimp only
      rw [hready]
      exact h
  | error k message =>
      unfold Page.on
      dsimp only
      rw [hready]
      exact h
  | closed k reason code =>
      unfold Page.on
      dsimp only
      rw [hready]
      exact h
  | heartbeat k =>
      have hstay : p.on build (.heartbeat k) = p := if_neg (by rw [h.channels]; simp)
      rw [hstay]
      exact h
  | data data =>
      unfold Page.on Page.onData
      dsimp only
      rw [h.credentialMode]
      dsimp only
      rw [hattached _ h.socket]
      exact h
  | layout proposed => exact ⟨h.channels, h.socket, h.credentialMode, h.out⟩
  | observed =>
      unfold Page.on Page.onObserved
      dsimp only
      rw [hattached _ hfit.socket]
      exact hfit
  | tab => exact hfit

section Runs

variable (build : Build) (cols rows : UInt32)

/-- The page right after a click on a card. -/
def clicked (pre : List Event) (nodeId : Uuid) (confirmed made : Bool) : Page :=
  (machine build).after (.start cols rows) (pre ++ [.card nodeId confirmed made])

/-- The session of the last `TunnelOpened` that a page is delivered, which comes over `ch`. -/
def Announced (p : Page) (ch : Nat) (evs : List Event) (sid : UInt32) : Prop :=
  ∃ pre protocol msgId post, (machine build).Last Announces p evs pre
    (.message ch (some (.tunnelOpened protocol sid msgId))) post

/-- The run so far: nothing was clicked, or the page is bound since the last click, and the
sessions it may name were announced after that. -/
def Followed (evs : List Event) (p : Page) : Prop :=
  Idle p ∨ ∃ pre nodeId confirmed made post,
    (machine build).Last Selects (.start cols rows) evs pre (.card nodeId confirmed made) post ∧
    Bound (Announced build (clicked build cols rows pre nodeId confirmed made)
        ((machine build).after (.start cols rows) pre).channels.length post) (typed post)
      ((machine build).after (.start cols rows) pre).channels.length nodeId p

theorem followed (evs : List Event) :
    Followed build cols rows evs ((machine build).after (.start cols rows) evs) := by
  refine Interleave.Reactive.tracks (Followed build cols rows) (.inl ⟨rfl, rfl, rfl, rfl⟩) ?_
  intro evs e hevs
  generalize hp : (machine build).after (.start cols rows) evs = p at hevs ⊢
  by_cases hclick : Selects p e
  · have hpicked : Selects ((machine build).after (.start cols rows) evs) e := hp.symm ▸ hclick
    obtain ⟨nodeId, confirmed, made, rfl, hclick⟩ := hclick
    refine .inr ⟨evs, nodeId, confirmed, made, [], .self hpicked, ?_⟩
    rw [hp]
    have hsole : Sole p := by
      rcases hevs with hidle | ⟨pre, _, _, _, post, hlast, hbound⟩
      · intro k c hc
        rw [hidle.channels] at hc
        cases hc
      · exact hbound.sole
    exact Bound.onCard (p := { p with out := [] }) hsole rfl hclick made
  · rcases hevs with hidle | ⟨pre, nodeId, confirmed, made, post, hlast, hbound⟩
    · exact .inl (Idle.on (p := { p with out := [] }) build
        ⟨hidle.channels, hidle.socket, hidle.credentialMode, rfl⟩ hclick)
    · refine .inr ⟨pre, nodeId, confirmed, made, post ++ [e],
        hlast.concat (by rw [hp]; exact hclick), ?_⟩
      -- since the click the same events have led to the same page
      have hpost : (machine build).after (clicked build cols rows pre nodeId confirmed made) post =
          p := by
        rw [← hp, hlast.split, List.append_cons, Interleave.Reactive.after_append]
        rfl
      have htyped : typed (post ++ [e]) = typed post ++ typed [e] := List.flatMap_append ..
      rw [htyped]
      have hturn : Bound (Announced build (clicked build cols rows pre nodeId confirmed made)
          ((machine build).after (.start cols rows) pre).channels.length post) (typed post)
          ((machine build).after (.start cols rows) pre).channels.length nodeId
          { p with out := [] } := { hbound with out := fun _ _ hmem => by cases hmem }
      refine hturn.on build rfl hclick ?_ ?_
      · rintro hquiet sid ⟨pre', protocol, msgId, post', hsaid⟩
        exact ⟨pre', protocol, msgId, post' ++ [e], hsaid.concat (by rw [hpost]; exact hquiet)⟩
      · rintro protocol sid msgId rfl hsaid
        exact ⟨post, protocol, msgId, [], .self (by rw [hpost]; exact hsaid)⟩

/-- **The page follows the last click**: each frame goes over the channel that the last click on
a card opened and names that node, a session in it is the one that this channel announced last
since the click, and credentials in it were typed since. -/
theorem frames_follow_click (evs : List Event) (e : Event) (ch : Nat) (data : WebFrameData)
    (h : .frame ch data ∈
      ((machine build).handle ((machine build).after (.start cols rows) evs) e).2) :
    ∃ pre nodeId confirmed made post,
      (machine build).Last Selects (.start cols rows) (evs ++ [e]) pre
        (.card nodeId confirmed made) post ∧
      ch = ((machine build).after (.start cols rows) pre).channels.length ∧
      Names (Announced build (clicked build cols rows pre nodeId confirmed made) ch post)
        (typed post) nodeId data := by
  have hout : .frame ch data ∈ ((machine build).after (.start cols rows) (evs ++ [e])).out := by
    rw [Interleave.Reactive.after_concat]
    exact h
  rcases followed build cols rows (evs ++ [e]) with
    hidle | ⟨pre, nodeId, confirmed, made, post, hlast, hbound⟩
  · rw [hidle.out] at hout
    cases hout
  · obtain ⟨rfl, hnames⟩ := hbound.out ch data hout
    exact ⟨pre, nodeId, confirmed, made, post, hlast, rfl, hnames⟩

/-- Two clicks: the first node announces a session, and so does the second. -/
def sampleEvents : List Event :=
  [.card 5 false true, .opened 0, .message 0 (some (.authSuccess 7 "1" none)),
    .message 0 (some (.tunnelOpened 0 3 none)), .card 6 true true, .opened 1,
    .message 1 (some (.authSuccess 8 "1" none)), .message 1 (some (.tunnelOpened 0 9 none))]

theorem frames_follow_click_of_second :
    ∃ pre nodeId confirmed made post,
      (machine ⟨"t", "1"⟩).Last Selects (.start 80 24) (sampleEvents ++ [.data [0x6C]]) pre
        (.card nodeId confirmed made) post ∧
      1 = ((machine ⟨"t", "1"⟩).after (.start 80 24) pre).channels.length ∧
      Names (Announced ⟨"t", "1"⟩ (clicked ⟨"t", "1"⟩ 80 24 pre nodeId confirmed made) 1 post)
        (typed post) nodeId
        (.tunnelData 0 "00000000-0000-0000-0000-000000000006" 9 [0x6C]) :=
  frames_follow_click ⟨"t", "1"⟩ 80 24 sampleEvents (.data [0x6C]) 1
    (.tunnelData 0 "00000000-0000-0000-0000-000000000006" 9 [0x6C])
    (by decide +kernel)

end Runs

end Phirepass.Channel
