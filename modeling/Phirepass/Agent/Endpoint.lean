/-
# `Phirepass.Agent.Endpoint` — the server as the agent addresses it

The agent logs in over HTTP and then opens a WebSocket.  Both URLs are made of
the configured host and port, but by two functions with two ideas of which
port need not be written:

                                  scheme                          port not written
    `generate_http_endpoint`      https for 443 and 8443,         80, 443, 8443
                                  else http
    `generate_server_endpoint`    ws in development,              80 with ws,
                                  wss in production               443 with wss

The first leaves out 8443 with the scheme whose default is 443.  So for a host
alone both name the configured server but for that port (`addresses_iff`), and
with it the login goes to another one (`login_elsewhere`).  The host is whatever
text stands there, and may have a port or a path of its own; what happens to it
then is the second half of the condition.
-/
import Phirepass.Rust.Url
import Phirepass.Agent.Creds

namespace Phirepass.Endpoint

open Rust Url Creds

/-! ## The two functions -/

inductive Mode where
  | development
  | production
  deriving DecidableEq, Repr

/-- `generate_http_endpoint` of `agent/src/agent.rs`. -/
def generateHttpEndpoint (serverHost : String) (serverPort : UInt16) : String :=
  let serverHost := stripScheme serverHost
  let scheme := if serverPort = 443 ∨ serverPort = 8443 then "https" else "http"
  if serverPort = 80 ∨ serverPort = 443 ∨ serverPort = 8443 then
    scheme ++ "://" ++ serverHost
  else scheme ++ "://" ++ serverHost ++ ":" ++ toString serverPort.toNat

/-- `generate_server_endpoint` of `agent/src/ws.rs`. -/
def generateServerEndpoint (mode : Mode) (serverHost : String) (serverPort : UInt16) : String :=
  let serverHost := stripScheme serverHost
  match mode with
  | .development =>
      if serverPort = 80 then "ws" ++ "://" ++ serverHost
      else "ws" ++ "://" ++ serverHost ++ ":" ++ toString serverPort.toNat
  | .production =>
      if serverPort = 443 then "wss" ++ "://" ++ serverHost
      else "wss" ++ "://" ++ serverHost ++ ":" ++ toString serverPort.toNat

/-! ## What the URLs address -/

/-- Both URLs name one host, and the configured port. -/
def Addresses (mode : Mode) (serverHost : String) (serverPort : UInt16) : Prop :=
  ∃ host, address (generateHttpEndpoint serverHost serverPort) = some (host, serverPort.toNat) ∧
    address (generateServerEndpoint mode serverHost serverPort) = some (host, serverPort.toNat)

/-- A host, perhaps with a userinfo, and nothing behind it. -/
def Bare (text : List Char) : Prop :=
  text.any isEnd = false ∧ isHost (withoutUserinfo text) = true

/-- The port is the default of the mode's schemes. -/
def IsDefault (mode : Mode) (serverPort : UInt16) : Prop :=
  mode = .development ∧ serverPort = 80 ∨ mode = .production ∧ serverPort = 443

instance (mode : Mode) (serverPort : UInt16) : Decidable (IsDefault mode serverPort) :=
  inferInstanceAs (Decidable (_ ∨ _))

/-- The text names the port by itself: it has no other, and neither function writes one, or it
has this one, and what a function writes is no part of the authority. -/
def NamesPort (mode : Mode) (text : List Char) (serverPort : UInt16) : Prop :=
  ∃ host port, readAuthority (authority text) = some (host, port) ∧
    (port = none ∧ IsDefault mode serverPort ∨
      port = some serverPort.toNat ∧ (IsDefault mode serverPort ∨ text.any isEnd = true))

/-! ## One URL -/

/-- The URL that both functions make, with the port or without it. -/
def endpoint (scheme text : String) : Option UInt16 → String
  | none => scheme ++ "://" ++ text
  | some serverPort => scheme ++ "://" ++ text ++ ":" ++ toString serverPort.toNat

/-- What the text says, where the scheme has the default port `n`. -/
def saidBy (text : List Char) (n : Nat) : Option (String × Nat) :=
  (readAuthority (authority text)).map fun x => (String.ofList x.1, x.2.getD n)

/-- What the URL names.  A port that is written counts behind a host alone, and not at all
behind a path. -/
def named (text : List Char) (n : Nat) : Option UInt16 → Option (String × Nat)
  | none => saidBy text n
  | some serverPort =>
      if text.any isEnd then saidBy text n
      else if isHost (withoutUserinfo text) then
        some (String.ofList (withoutUserinfo text), serverPort.toNat)
      else none

section One

variable {scheme text : String} {n : Nat}

theorem address_endpoint (hcolon : ':' ∉ scheme.toList) (hport : defaultPort scheme = some n)
    (port : Option UInt16) : address (endpoint scheme text port) = named text.toList n port := by
  cases port with
  | none => exact address_eq hcolon hport text
  | some serverPort =>
      have hassoc : scheme ++ "://" ++ text ++ ":" ++ toString serverPort.toNat =
          scheme ++ "://" ++ (text ++ ":" ++ toString serverPort.toNat) := by
        simp only [String.append_assoc]
      have hlist : (text ++ ":" ++ toString serverPort.toNat).toList =
          text.toList ++ ':' :: Nat.toDigits 10 serverPort.toNat := by
        simp [String.toList_append]
      rw [endpoint, hassoc, address_eq hcolon hport, hlist, named]
      by_cases hend : text.toList.any isEnd = true
      · rw [if_pos hend, authority_append hend, saidBy]
      · have hauthority : authority (text.toList ++ ':' :: Nat.toDigits 10 serverPort.toNat) =
            text.toList ++ ':' :: Nat.toDigits 10 serverPort.toNat := by
          rw [authority_eq_self]
          rw [any_isEnd_append]
          exact Bool.eq_false_iff.2 hend
        rw [if_neg hend, hauthority, readAuthority_append serverPort.toNat_lt]
        split
        · rfl
        · rfl

/-- A host alone has the port that is written, or that of the scheme. -/
theorem named_of_bare {text : List Char} (h : Bare text) (port : Option UInt16) :
    named text n port =
      some (String.ofList (withoutUserinfo text), port.elim n UInt16.toNat) := by
  obtain ⟨hend, hhost⟩ := h
  cases port with
  | none => rw [named, saidBy, authority_eq_self hend, readAuthority_of_isHost hhost]; rfl
  | some serverPort => simp [named, hend, hhost]

/-- Behind another text without a path no port can be written. -/
theorem named_some_of_not_bare {text : List Char} (h : ¬ Bare text) (hend : text.any isEnd = false)
    (serverPort : UInt16) : named text n (some serverPort) = none := by
  have hhost : ¬ isHost (withoutUserinfo text) = true := fun hhost => h ⟨hend, hhost⟩
  rw [named, hend, if_neg (by decide), if_neg hhost]

end One

/-! ## The two URLs -/

/-- The scheme `generate_http_endpoint` chooses has this default. -/
def httpDefault (serverPort : UInt16) : Nat :=
  if serverPort = 443 ∨ serverPort = 8443 then 443 else 80

def serverDefault : Mode → Nat
  | .development => 80
  | .production => 443

/-- The port as the one function writes it, and as the other. -/
def httpPort (serverPort : UInt16) : Option UInt16 :=
  if serverPort = 80 ∨ serverPort = 443 ∨ serverPort = 8443 then none else some serverPort

def wsPort (mode : Mode) (serverPort : UInt16) : Option UInt16 :=
  if IsDefault mode serverPort then none else some serverPort

section Two

variable {mode : Mode} {serverHost : String} {serverPort : UInt16}

theorem address_http : address (generateHttpEndpoint serverHost serverPort) =
    named (stripScheme serverHost).toList (httpDefault serverPort) (httpPort serverPort) := by
  have hscheme : ':' ∉ (if serverPort = 443 ∨ serverPort = 8443 then "https" else "http").toList ∧
      defaultPort (if serverPort = 443 ∨ serverPort = 8443 then "https" else "http") =
        some (httpDefault serverPort) := by
    unfold httpDefault
    split
    · decide
    · decide
  rw [← address_endpoint hscheme.1 hscheme.2, generateHttpEndpoint, httpPort]
  split
  · rfl
  · rfl

theorem address_server : address (generateServerEndpoint mode serverHost serverPort) =
    named (stripScheme serverHost).toList (serverDefault mode) (wsPort mode serverPort) := by
  cases mode with
  | development =>
      have hscheme : defaultPort "ws" = some (serverDefault .development) := rfl
      rw [← address_endpoint (by decide) hscheme, generateServerEndpoint, wsPort]
      by_cases hport : serverPort = 80
      · simp [IsDefault, hport, endpoint]
      · simp [IsDefault, hport, endpoint]
  | production =>
      have hscheme : defaultPort "wss" = some (serverDefault .production) := rfl
      rw [← address_endpoint (by decide) hscheme, generateServerEndpoint, wsPort]
      by_cases hport : serverPort = 443
      · simp [IsDefault, hport, endpoint]
      · simp [IsDefault, hport, endpoint]

/-- Both schemes have the default port `serverPort`. -/
theorem defaults_iff : httpDefault serverPort = serverPort.toNat ∧
    serverDefault mode = serverPort.toNat ↔ IsDefault mode serverPort := by
  cases mode with
  | development =>
      constructor
      · rintro ⟨-, hport⟩
        exact .inl ⟨rfl, UInt16.toNat_inj.1 hport.symm⟩
      · rintro (⟨-, rfl⟩ | ⟨hmode, -⟩)
        · exact ⟨rfl, rfl⟩
        · cases hmode
  | production =>
      constructor
      · rintro ⟨-, hport⟩
        exact .inr ⟨rfl, UInt16.toNat_inj.1 hport.symm⟩
      · rintro (⟨hmode, -⟩ | ⟨-, rfl⟩)
        · cases hmode
        · exact ⟨rfl, rfl⟩

/-- A port that is left out is the default, except for one. -/
theorem httpPort_elim : (httpPort serverPort).elim (httpDefault serverPort) UInt16.toNat =
    serverPort.toNat ↔ serverPort ≠ 8443 := by
  unfold httpPort
  split
  · next h =>
      rcases h with rfl | rfl | rfl
      · decide
      · decide
      · decide
  · next h =>
      refine ⟨fun _ heq => h (.inr (.inr heq)), fun _ => rfl⟩

theorem wsPort_elim :
    (wsPort mode serverPort).elim (serverDefault mode) UInt16.toNat = serverPort.toNat := by
  unfold wsPort
  split
  · next h => exact (defaults_iff.2 h).2
  · rfl

end Two

/-! ## The three kinds of text -/

section Texts

variable {mode : Mode} {serverPort : UInt16} {text : List Char}

/-- The two URLs of a text name one host and the port. -/
def Agree (mode : Mode) (text : List Char) (serverPort : UInt16) : Prop :=
  ∃ host,
    named text (httpDefault serverPort) (httpPort serverPort) = some (host, serverPort.toNat) ∧
    named text (serverDefault mode) (wsPort mode serverPort) = some (host, serverPort.toNat)

/-- Where no port is written, both say what the text says. -/
theorem said_iff {n m p : Nat} :
    (∃ host, saidBy text n = some (host, p) ∧ saidBy text m = some (host, p)) ↔
      ∃ host port, readAuthority (authority text) = some (host, port) ∧ port.getD n = p ∧
        port.getD m = p := by
  unfold saidBy
  cases readAuthority (authority text) with
  | none => simp
  | some x =>
      obtain ⟨host, port⟩ := x
      simp only [Option.map_some, Option.some.injEq, Prod.mk.injEq]
      constructor
      · rintro ⟨-, ⟨-, hn⟩, -, hm⟩
        exact ⟨host, port, ⟨rfl, rfl⟩, hn, hm⟩
      · rintro ⟨host', port', ⟨rfl, rfl⟩, hn, hm⟩
        exact ⟨_, ⟨rfl, hn⟩, rfl, hm⟩

/-- A host alone: all ports but one. -/
theorem agree_of_bare (h : Bare text) : Agree mode text serverPort ↔ serverPort ≠ 8443 := by
  unfold Agree
  rw [named_of_bare h, named_of_bare h, ← httpPort_elim]
  simp only [Option.some.injEq, Prod.mk.injEq]
  constructor
  · rintro ⟨-, ⟨-, hport⟩, -⟩
    exact hport
  · intro hport
    exact ⟨_, ⟨rfl, hport⟩, rfl, wsPort_elim⟩

/-- A text with a path: the port that it has itself, or the default. -/
theorem agree_of_end (h : text.any isEnd = true) :
    Agree mode text serverPort ↔ NamesPort mode text serverPort := by
  have hsaid (n : Nat) (port : Option UInt16) : named text n port = saidBy text n := by
    cases port with
    | none => rfl
    | some serverPort => rw [named, if_pos h]
  unfold Agree NamesPort
  rw [hsaid, hsaid, said_iff]
  refine exists_congr fun host => exists_congr fun port => and_congr_right fun _ => ?_
  cases port with
  | none => simp [defaults_iff]
  | some n => simp [h]

/-- Any other: the same, where no port is written. -/
theorem agree_of_not_bare (h : ¬ Bare text) (hend : text.any isEnd = false) :
    Agree mode text serverPort ↔ NamesPort mode text serverPort := by
  unfold Agree NamesPort
  by_cases hdefault : IsDefault mode serverPort
  · obtain ⟨hhttp, hserver⟩ := defaults_iff.2 hdefault
    have hports : httpPort serverPort = none ∧ wsPort mode serverPort = none := by
      refine ⟨if_pos ?_, if_pos hdefault⟩
      rcases hdefault with ⟨-, hport⟩ | ⟨-, hport⟩
      · exact .inl hport
      · exact .inr (.inl hport)
    rw [hports.1, hports.2, named, named, said_iff]
    refine exists_congr fun host => exists_congr fun port => and_congr_right fun _ => ?_
    cases port with
    | none => simp [hhttp, hserver, hdefault]
    | some n => simp [hdefault]
  · have hport : wsPort mode serverPort = some serverPort := if_neg hdefault
    rw [hport, named_some_of_not_bare h hend]
    simp [hdefault, hend]

/-- A host alone names no port. -/
theorem NamesPort.ne_of_bare (hnames : NamesPort mode text serverPort) (h : Bare text) :
    serverPort ≠ 8443 := by
  obtain ⟨host, port, hread, hport⟩ := hnames
  rw [authority_eq_self h.1, readAuthority_of_isHost h.2] at hread
  cases hread
  rcases hport with ⟨-, hdefault⟩ | ⟨hport, -⟩
  · rcases hdefault with ⟨-, rfl⟩ | ⟨-, rfl⟩
    · decide
    · decide
  · cases hport

end Texts

/-- **Both URLs address the configured server** for a host alone and every port but 8443, and for
a text that names the port itself. -/
theorem addresses_iff (mode : Mode) (serverHost : String) (serverPort : UInt16) :
    Addresses mode serverHost serverPort ↔
      Bare (stripScheme serverHost).toList ∧ serverPort ≠ 8443 ∨
        NamesPort mode (stripScheme serverHost).toList serverPort := by
  have hagree : Addresses mode serverHost serverPort ↔
      Agree mode (stripScheme serverHost).toList serverPort := by
    unfold Addresses Agree
    rw [address_http, address_server]
  rw [hagree]
  by_cases hbare : Bare (stripScheme serverHost).toList
  · rw [agree_of_bare hbare]
    constructor
    · intro hport
      exact .inl ⟨hbare, hport⟩
    · rintro (⟨-, hport⟩ | hnames)
      · exact hport
      · exact hnames.ne_of_bare hbare
  · have hnames : Agree mode (stripScheme serverHost).toList serverPort ↔
        NamesPort mode (stripScheme serverHost).toList serverPort := by
      by_cases hend : (stripScheme serverHost).toList.any isEnd = true
      · exact agree_of_end hend
      · exact agree_of_not_bare hbare (Bool.eq_false_iff.2 hend)
    rw [hnames]
    constructor
    · exact .inr
    · rintro (⟨habsurd, -⟩ | hnames)
      · exact absurd habsurd hbare
      · exact hnames

/-! ## A host, and a port -/

theorem addresses_iff_of_host : Addresses .production "https://example.com" 443 := by
  refine (addresses_iff .production "https://example.com" 443).2 (.inl ⟨?_, ?_⟩)
  · unfold Bare
    decide +kernel
  · decide

/-- Logging in to port 8443 goes to port 443. -/
theorem login_elsewhere :
    address (generateHttpEndpoint "example.com" 8443) = some ("example.com", 443) ∧
      address (generateServerEndpoint .production "example.com" 8443) = some ("example.com", 8443) ∧
      ¬ Addresses .production "example.com" 8443 := by
  have hhttp : address (generateHttpEndpoint "example.com" 8443) = some ("example.com", 443) := by
    decide +kernel
  refine ⟨hhttp, by decide +kernel, ?_⟩
  rintro ⟨host, hport, -⟩
  rw [hhttp] at hport
  cases hport

end Phirepass.Endpoint
