/-
# `Phirepass.Server.NodeRules` — what a node socket's task can do

As `Phirepass.Server.WebRules`, for the code of `Phirepass.Server.Node`.  The
task of a node socket goes through three phases, each with its own commands:

    NodeLogin    until the connection is registered
    NodeLoop     the message loop of the node it registered as
    NodeClose    `disconnect_node`, entered only after an input that breaks
                 the loop (`Exits`)

`Notifies` says why a client is sent a frame in the loop: it lists the four
places in which the code of a node decides on a recipient.  `Sweeps` is the
one at the end.
-/
import Phirepass.Server.WebRules

namespace Phirepass.Server

open Rust Interleave Prog

/-! ## Login and registration -/

/-- The login of node `n` was accepted: the first frame was an `Auth` whose token decoded to
`n`, and the row of `n` was read as not revoked. -/
def Accepted (h : Hist Resp) (n : Uuid) : Prop :=
  ∃ token version claims node m,
    [⟨.db (.getNodeClaimById n), .ok node⟩, ⟨.decodeNodeJwt token, .ok claims⟩,
        ⟨.ws .next, m⟩] <:+ h ∧
      Incoming.nodeFrame? m = some (.auth token n version) ∧ claims.nodeId = n ∧
      node.revoked = false

/-- The task of socket `k` has registered as `n`, and has not ended. -/
structure Serving (k : Nat) (n : Uuid) (h : Hist Resp) : Prop where
  accepted : Accepted h n
  registered : ∃ conn r, (⟨.nodes (.insert n conn), r⟩ : Sigma Resp) ∈ h ∧ conn.tx = k
  once : ∀ m conn r, (⟨.nodes (.insert m conn), r⟩ : Sigma Resp) ∈ h → m = n
  alive : ∀ r, (⟨.finish, r⟩ : Sigma Resp) ∉ h

/-- The writer was not aborted, so the message loop was not left. -/
def Looping (h : Hist Resp) : Prop :=
  ∀ k r, (⟨.nodeWriter (.abort k), r⟩ : Sigma Resp) ∉ h

/-- The task has neither registered nor ended yet. -/
structure Joining (h : Hist Resp) : Prop where
  unregistered : ∀ m conn r, (⟨.nodes (.insert m conn), r⟩ : Sigma Resp) ∉ h
  alive : ∀ r, (⟨.finish, r⟩ : Sigma Resp) ∉ h
  looping : Looping h

/-- The commands that move the task from one phase to another. -/
def Cmd.isMark : Cmd → Bool
  | .nodes (.insert _ _) | .finish | .nodeWriter (.abort _) => true
  | _ => false

/-! ## Leaving the loop -/

/-- The message ends the loop of `handle_node_messages` by itself. -/
def breaks : Incoming → Bool
  | none | some (.error ()) | some (.ok .close) | some (.ok (.binary (.error _)))
  | some (.ok (.binary (.ok ⟨_, _, .web _⟩))) => true
  | some (.ok .other) | some (.ok (.binary (.ok ⟨_, _, .node _⟩))) => false

/-- The last input was one that ends the loop: a message that breaks it, or a heartbeat that
found the node unregistered. -/
inductive Exits (n : Uuid) : Hist Resp → Prop
  | broken {h : Hist Resp} {m : Incoming} (hm : breaks m = true) : Exits n (⟨.ws .next, m⟩ :: h)
  | unregistered {h : Hist Resp} {m : Incoming} {stats : Stats} {sentAt : UInt64}
      (hm : m.nodeFrame? = some (.heartbeat stats sentAt)) :
      Exits n (⟨.nodes (.get n), none⟩ :: ⟨.ws .next, m⟩ :: h)

/-- The loop was left, after an input that ends it. -/
def Closing (k : Nat) (n : Uuid) (h : Hist Resp) : Prop :=
  ∃ h', (⟨.nodeWriter (.abort k), ()⟩ :: h') <:+ h ∧ Exits n h'

/-! ## Who is notified -/

/-- After the history `h`, the loop of node `n` notifies the client `cid` with `frame`. -/
inductive Notifies (n : Uuid) : Hist Resp → Uuid → WebFrameData → Prop
  | opened {h : Hist Resp} {m : Incoming} {protocol : UInt8} {cid : Uuid} {sid : UInt32}
      {msgId : Option UInt32} {r : Option (Uuid × Uuid)}
      (hm : m.nodeFrame? = some (.tunnelOpened protocol cid sid msgId)) :
      Notifies n (⟨.tunnelSessions (.insert ⟨n, sid⟩ (cid, n)), r⟩ :: ⟨.ws .next, m⟩ :: h) cid
        (.tunnelOpened protocol sid msgId)
  | closed {h : Hist Resp} {m : Incoming} {protocol : UInt8} {cid : Uuid} {sid : UInt32}
      {msgId : Option UInt32} {r : Option (Uuid × Uuid)}
      (hm : m.nodeFrame? = some (.tunnelClosed protocol cid sid msgId)) :
      Notifies n (⟨.tunnelSessions (.remove ⟨n, sid⟩), r⟩ :: ⟨.ws .next, m⟩ :: h) cid
        (.tunnelClosed protocol sid msgId)
  | byConnection {h : Hist Resp} {m : Incoming} {cid : Uuid} {frame : WebFrameData}
      (hm : m.nodeFrame? = some (.webFrame frame (.connectionId cid))) :
      Notifies n (⟨.ws .next, m⟩ :: h) cid frame
  | bySession {h : Hist Resp} {m : Incoming} {cid : Uuid} {sid : UInt32} {frame : WebFrameData}
      (hm : m.nodeFrame? = some (.webFrame frame (.sessionId sid))) :
      Notifies n (⟨.tunnelSessions (.get ⟨n, sid⟩), some (cid, n)⟩ :: ⟨.ws .next, m⟩ :: h) cid
        frame

/-- After the history `h`, the cleanup of node `n` does. -/
inductive Sweeps (n : Uuid) : Hist Resp → Uuid → WebFrameData → Prop
  | swept {h : Hist Resp} {start visited : List TunnelSessionKey} {key : TunnelSessionKey}
      {cid m : Uuid} {r : Option (Uuid × Uuid)} (hkey : key.nodeId = n)
      (hfound : (⟨.tunnelSessions (.next start visited), some (key, cid, m)⟩ : Sigma Resp) ∈ h) :
      Sweeps n (⟨.tunnelSessions (.remove key), r⟩ :: h) cid (.tunnelClosed 0 key.sid none)

/-! ## What is left to do about a frame -/

/-- The frames about a tunnel or for a client. -/
def routed : NodeFrameData → Option NodeFrameData
  | .tunnelOpened protocol cid sid msgId => some (.tunnelOpened protocol cid sid msgId)
  | .tunnelClosed protocol cid sid msgId => some (.tunnelClosed protocol cid sid msgId)
  | .webFrame frame id => some (.webFrame frame id)
  | _ => none

/-- The last such frame, until a client has been sent something about it or none was found. -/
def unanswered : Hist Resp → Option NodeFrameData
  | [] => none
  | ⟨.ws .next, m⟩ :: _ => m.nodeFrame?.bind routed
  | ⟨.connections (.get _), none⟩ :: _ | ⟨.web (.send _ _), _⟩ :: _
  | ⟨.tunnelSessions (.get _), none⟩ :: _ => none
  | ⟨.tunnelSessions (.get key), some (_, n)⟩ :: h =>
      if n = key.nodeId then unanswered h else none
  | _ :: h => unanswered h

/-! ## How far `disconnect_node` has come -/

/-- What a handler that leaves still has to do about the sessions of its node. -/
inductive Sweep where
  | idle
  /-- The node is unregistered, its sessions not looked at yet. -/
  | begun (n : Uuid)
  | walking (n : Uuid) (start visited : List TunnelSessionKey)
      (found : List (TunnelSessionKey × Uuid × Uuid))
  | closing (todo : List (TunnelSessionKey × Uuid × Uuid))

/-- One command moves it on. -/
def Sweep.after : Sweep → (c : Cmd) → Resp c → Sweep
  | _, .nodeWriter (.abort _), _ => .idle
  | _, .nodes (.remove n), some _ => .begun n
  | .begun n, .tunnelSessions .keys, start => .walking n start [] []
  | .walking n start visited found, .tunnelSessions (.next _ _), some (key, value) =>
      .walking n start (key :: visited)
        (if key.nodeId = n then found ++ [(key, value)] else found)
  | .walking _ _ _ found, .tunnelSessions (.next _ _), none => .closing found
  | .closing todo, .tunnelSessions (.remove _), _ => .closing todo.tail
  | sweep, _, _ => sweep

/-- Where the history leaves it. -/
def sweepOf : Hist Resp → Sweep
  | [] => .idle
  | ⟨c, r⟩ :: h => (sweepOf h).after c r

/-! ## The commands of a node socket -/

/-- Before the connection is registered. -/
inductive NodeLogin (S : Setup) (k : Nat) : Hist Resp → Cmd → Prop
  | next : NodeLogin S k [] (.ws .next)
  | decode {m : Incoming} {token : String} : NodeLogin S k [⟨.ws .next, m⟩] (.decodeNodeJwt token)
  | getNodeClaimById {h : Hist Resp} {n : Uuid} : NodeLogin S k h (.db (.getNodeClaimById n))
  | getNodeClaimByIdOptional {h : Hist Resp} {n : Uuid} :
      NodeLogin S k h (.db (.getNodeClaimByIdOptional n))
  | getNodeById {h : Hist Resp} {n : Uuid} : NodeLogin S k h (.db (.getNodeById n))
  | respond {h : Hist Resp} {n : Uuid} {success : Bool} :
      NodeLogin S k h (.node (.send k (.authResponse n success S.version)))
  | memoryDb {h : Hist Resp} {op : MemoryOp} : NodeLogin S k h (.memoryDb op)
  | now {h : Hist Resp} : NodeLogin S k h .now
  | insert {h : Hist Resp} {n : Uuid} {record : NodeRecord} {now : Time} (ha : Accepted h n) :
      NodeLogin S k h (.nodes (.insert n (.new S.id (S.nodeIp k) k record now)))
  | close {h : Hist Resp} : NodeLogin S k h (.ws .close)
  | drop {h : Hist Resp} : NodeLogin S k h (.node (.close k))
  | finish {h : Hist Resp} : NodeLogin S k h .finish

/-- In the message loop. -/
inductive NodeLoop (k : Nat) (n : Uuid) : Hist Resp → Cmd → Prop
  | spawn {h : Hist Resp} : NodeLoop k n h (.nodeWriter (.spawn k))
  | next {h : Hist Resp} (hdone : unanswered h = none) : NodeLoop k n h (.ws .next)
  | now {h : Hist Resp} : NodeLoop k n h .now
  | memoryDb {h : Hist Resp} {op : MemoryOp} : NodeLoop k n h (.memoryDb op)
  | get {h : Hist Resp} {m : Incoming} {stats : Stats} {sentAt : UInt64}
      (hm : m.nodeFrame? = some (.heartbeat stats sentAt)) :
      NodeLoop k n (⟨.ws .next, m⟩ :: h) (.nodes (.get n))
  | ack {h : Hist Resp} {tx : Nat} {sentAt receivedAt : UInt64} :
      NodeLoop k n h (.node (.send tx (.heartbeatAck sentAt receivedAt)))
  | beat {h : Hist Resp} {m : Incoming} {stats : Stats} {sentAt receivedAt : UInt64}
      {info : NodeConnection} {arrived read now : Time} {tx : Nat} {sent : Bool} {op : MemoryOp}
      (hm : m.nodeFrame? = some (.heartbeat stats sentAt)) :
      NodeLoop k n
        (⟨.now, now⟩ :: ⟨.memoryDb op, true⟩ :: ⟨.now, read⟩ ::
          ⟨.node (.send tx (.heartbeatAck sentAt receivedAt)), sent⟩ :: ⟨.now, arrived⟩ ::
          ⟨.nodes (.get n), some info⟩ :: ⟨.ws .next, m⟩ :: h)
        (.nodes (.modify n (.beat stats now)))
  | bind {h : Hist Resp} {m : Incoming} {protocol : UInt8} {cid : Uuid} {sid : UInt32}
      {msgId : Option UInt32}
      (hm : m.nodeFrame? = some (.tunnelOpened protocol cid sid msgId)) :
      NodeLoop k n (⟨.ws .next, m⟩ :: h) (.tunnelSessions (.insert ⟨n, sid⟩ (cid, n)))
  | unbind {h : Hist Resp} {m : Incoming} {protocol : UInt8} {cid : Uuid} {sid : UInt32}
      {msgId : Option UInt32}
      (hm : m.nodeFrame? = some (.tunnelClosed protocol cid sid msgId)) :
      NodeLoop k n (⟨.ws .next, m⟩ :: h) (.tunnelSessions (.remove ⟨n, sid⟩))
  | lookup {h : Hist Resp} {m : Incoming} {frame : WebFrameData} {sid : UInt32}
      (hm : m.nodeFrame? = some (.webFrame frame (.sessionId sid))) :
      NodeLoop k n (⟨.ws .next, m⟩ :: h) (.tunnelSessions (.get ⟨n, sid⟩))
  | connection {h : Hist Resp} {cid : Uuid} {frame : WebFrameData} (hn : Notifies n h cid frame) :
      NodeLoop k n h (.connections (.get cid))
  | notify {h : Hist Resp} {cid : Uuid} {frame : WebFrameData} {connection : WebConnection}
      (hn : Notifies n h cid frame) :
      NodeLoop k n (⟨.connections (.get cid), some connection⟩ :: h)
        (.web (.send connection.tx frame))
  | abort {h : Hist Resp} (hx : Exits n h) : NodeLoop k n h (.nodeWriter (.abort k))

/-- After it. -/
inductive NodeClose (n : Uuid) : Hist Resp → Cmd → Prop
  | remove {h : Hist Resp} (hsweep : sweepOf h = .idle) : NodeClose n h (.nodes (.remove n))
  | memoryDb {h : Hist Resp} {op : MemoryOp} : NodeClose n h (.memoryDb op)
  | keys {h : Hist Resp} (hsweep : sweepOf h = .begun n) : NodeClose n h (.tunnelSessions .keys)
  | walk {h : Hist Resp} {start visited : List TunnelSessionKey}
      {found : List (TunnelSessionKey × Uuid × Uuid)}
      (hsweep : sweepOf h = .walking n start visited found) :
      NodeClose n h (.tunnelSessions (.next start visited))
  | unbind {h : Hist Resp} {key : TunnelSessionKey} {value : Uuid × Uuid}
      {todo : List (TunnelSessionKey × Uuid × Uuid)} (hkey : key.nodeId = n)
      (hsweep : sweepOf h = .closing ((key, value) :: todo)) :
      NodeClose n h (.tunnelSessions (.remove key))
  | connection {h : Hist Resp} {cid : Uuid} {frame : WebFrameData} (hn : Sweeps n h cid frame) :
      NodeClose n h (.connections (.get cid))
  | notify {h : Hist Resp} {cid : Uuid} {frame : WebFrameData} {connection : WebConnection}
      (hn : Sweeps n h cid frame) :
      NodeClose n (⟨.connections (.get cid), some connection⟩ :: h)
        (.web (.send connection.tx frame))
  | finish {h : Hist Resp} (hsweep : sweepOf h = .idle ∨ sweepOf h = .closing []) :
      NodeClose n h .finish

/-- What the task of node socket `k` may issue after the history `h`. -/
inductive NodeMay (S : Setup) (k : Nat) (h : Hist Resp) (c : Cmd) : Prop
  | login (hj : Joining h) (hc : NodeLogin S k h c)
  | loop {n : Uuid} (hs : Serving k n h) (hloop : Looping h) (hc : NodeLoop k n h c)
  | close {n : Uuid} (hs : Serving k n h) (hclose : Closing k n h) (hc : NodeClose n h c)

/-- What the task knows of its history at each of its labels. -/
def NodeAt (k : Nat) : Label → Hist Resp → Prop
  | .nodeSocket j, h => j = k ∧ h = []
  | .nodeMessages j n, h => j = k ∧ (Serving k n h ∧ Looping h) ∧ unanswered h = none
  | .nodeClosing j n, h => j = k ∧ Serving k n h ∧ Looping h ∧ Exits n h
  | .nodeCollect j n start visited found, h => j = k ∧ Serving k n h ∧ Closing k n h ∧
      sweepOf h = .walking n start visited found ∧ ∀ key cid m, (key, cid, m) ∈ found → key.nodeId = n ∧ ∃ start visited,
        (⟨.tunnelSessions (.next start visited), some (key, cid, m)⟩ : Sigma Resp) ∈ h
  | .done, _ => True
  | _, _ => False

section Phases

variable {S : Setup} {k : Nat} {n : Uuid} {h h' : Hist Resp} {c : Cmd} {r : Resp c}

theorem Accepted.mono (hs : h <:+ h') (ha : Accepted h n) : Accepted h' n := by
  obtain ⟨token, version, claims, node, m, hsuf, hm, hid, hr⟩ := ha
  exact ⟨token, version, claims, node, m, hsuf.trans hs, hm, hid, hr⟩

theorem Accepted.cons {e : Sigma Resp} (ha : Accepted h n) : Accepted (e :: h) n :=
  ha.mono (List.suffix_cons _ _)

theorem Serving.cons (hc : c.isMark = false) (hs : Serving k n h) :
    Serving k n (⟨c, r⟩ :: h) := by
  refine ⟨hs.accepted.cons, ?_, ?_, ?_⟩
  · obtain ⟨conn, r', hmem, htx⟩ := hs.registered
    exact ⟨conn, r', List.mem_cons_of_mem _ hmem, htx⟩
  · intro m conn r' hmem
    rcases List.mem_cons.1 hmem with heq | hmem
    · cases heq
      cases hc
    · exact hs.once m conn r' hmem
  · intro r' hmem
    rcases List.mem_cons.1 hmem with heq | hmem
    · cases heq
      cases hc
    · exact hs.alive r' hmem

/-- Aborting the writer does not end the task. -/
theorem Serving.cons_abort (hs : Serving k n h) :
    Serving k n (⟨.nodeWriter (.abort k), ()⟩ :: h) := by
  refine ⟨hs.accepted.cons, ?_, ?_, ?_⟩
  · obtain ⟨conn, r', hmem, htx⟩ := hs.registered
    exact ⟨conn, r', List.mem_cons_of_mem _ hmem, htx⟩
  · intro m conn r' hmem
    rcases List.mem_cons.1 hmem with heq | hmem
    · cases heq
    · exact hs.once m conn r' hmem
  · intro r' hmem
    rcases List.mem_cons.1 hmem with heq | hmem
    · cases heq
    · exact hs.alive r' hmem

theorem Looping.cons (hc : c.isMark = false) (hl : Looping h) : Looping (⟨c, r⟩ :: h) := by
  intro j r' hmem
  rcases List.mem_cons.1 hmem with heq | hmem
  · cases heq
    cases hc
  · exact hl j r' hmem

theorem Looping.cons_insert {r : Option NodeConnection} (conn : NodeConnection)
    (hl : Looping h) : Looping (⟨.nodes (.insert n conn), r⟩ :: h) := by
  intro j r' hmem
  rcases List.mem_cons.1 hmem with heq | hmem
  · cases heq
  · exact hl j r' hmem

theorem Joining.cons (hc : c.isMark = false) (hj : Joining h) : Joining (⟨c, r⟩ :: h) := by
  refine ⟨?_, ?_, hj.looping.cons hc⟩
  · intro m conn r' hmem
    rcases List.mem_cons.1 hmem with heq | hmem
    · cases heq
      cases hc
    · exact hj.unregistered m conn r' hmem
  · intro r' hmem
    rcases List.mem_cons.1 hmem with heq | hmem
    · cases heq
      cases hc
    · exact hj.alive r' hmem

/-- Registering starts the serving phase. -/
theorem Joining.serving {r : Option NodeConnection} (hj : Joining h) (conn : NodeConnection)
    (ha : Accepted h n) (htx : conn.tx = k) :
    Serving k n (⟨.nodes (.insert n conn), r⟩ :: h) := by
  refine ⟨ha.cons, ⟨conn, r, List.mem_cons_self, htx⟩, ?_, ?_⟩
  · intro m conn' r' hmem
    rcases List.mem_cons.1 hmem with heq | hmem
    · cases heq
      rfl
    · exact absurd hmem (hj.unregistered m conn' r')
  · intro r' hmem
    rcases List.mem_cons.1 hmem with heq | hmem
    · cases heq
    · exact hj.alive r' hmem

theorem Closing.cons {e : Sigma Resp} (hc : Closing k n h) : Closing k n (e :: h) := by
  obtain ⟨h', hsuf, hx⟩ := hc
  exact ⟨h', hsuf.trans (List.suffix_cons _ _), hx⟩

end Phases

/-! ## The code follows the rules -/

section Conform

variable {S : Setup} {k : Nat} {n : Uuid} {h : Hist Resp}

theorem NodeLogin.may {c : Cmd} (hj : Joining h) (hc : NodeLogin S k h c) : NodeMay S k h c :=
  .login hj hc

theorem NodeLoop.may {c : Cmd} (hs : Serving k n h) (hl : Looping h) (hc : NodeLoop k n h c) :
    NodeMay S k h c := .loop hs hl hc

theorem NodeClose.may {c : Cmd} (hs : Serving k n h) (hcl : Closing k n h)
    (hc : NodeClose n h c) : NodeMay S k h c := .close hs hcl hc

theorem authResponse_conforms {id : Uuid} {success : Bool} {res : Except String Uuid}
    {unsent : String} {Q : Except String Uuid → Hist Resp → Prop} (hj : Joining h)
    (hQ : ∀ sent, Q res (⟨.node (.send k (.authResponse id success S.version)), sent⟩ :: h))
    (hfail : ∀ e sent, Q (.error e)
      (⟨.node (.send k (.authResponse id success S.version)), sent⟩ :: h)) :
    (authResponse S k id success res unsent).Conforms (Issues (NodeMay S k)) Q h := by
  refine conforms_call.2 ⟨NodeLogin.respond.may hj, fun sent => ?_⟩
  cases sent
  · exact hfail unsent false
  · exact hQ true

/-- A login leaves the task unregistered; where it succeeds, for a node that was accepted. -/
def AfterAuth (res : Except String Uuid) (h : Hist Resp) : Prop :=
  Joining h ∧ ∀ n, res = .ok n → Accepted h n ∧ unanswered h = none

/-- The token decodes to the node whose row was then read as not revoked. -/
theorem authenticateNodeJwt_conforms {token : String} {m : Incoming}
    (hj : Joining [⟨.ws .next, m⟩]) :
    (authenticateNodeJwt token).Conforms (Issues (NodeMay S k))
      (fun res h => Joining h ∧ ∀ n, res = .ok n → ∃ claims node,
        h = [⟨.db (.getNodeClaimById n), .ok node⟩, ⟨.decodeNodeJwt token, .ok claims⟩,
          ⟨.ws .next, m⟩] ∧ claims.nodeId = n ∧ node.revoked = false)
      [⟨.ws .next, m⟩] := by
  refine conforms_call.2 ⟨NodeLogin.decode.may hj, fun decoded => ?_⟩
  cases decoded with
  | error err => exact ⟨hj.cons rfl, fun _ hc => nomatch hc⟩
  | ok claims =>
      refine conforms_call.2 ⟨NodeLogin.getNodeClaimById.may (hj.cons rfl), fun found => ?_⟩
      cases found with
      | error err => exact ⟨(hj.cons rfl).cons rfl, fun _ hc => nomatch hc⟩
      | ok node =>
          simp only []
          split
          · exact ⟨(hj.cons rfl).cons rfl, fun _ hc => nomatch hc⟩
          · next hrev =>
              refine ⟨(hj.cons rfl).cons rfl, fun n hn => ?_⟩
              cases hn
              exact ⟨claims, node, rfl, rfl, by simpa using hrev⟩

theorem handleNodeAuth_conforms {token version : String} {nodeId : Uuid} {m : Incoming}
    (hm : m.nodeFrame? = some (.auth token nodeId version)) (hj : Joining [⟨.ws .next, m⟩]) :
    (handleNodeAuth S k token nodeId).Conforms (Issues (NodeMay S k)) AfterAuth
      [⟨.ws .next, m⟩] := by
  have hreject {id : Uuid} {success : Bool} {e unsent : String} {h : Hist Resp} (hj : Joining h) :
      (authResponse S k id success (.error e) unsent).Conforms (Issues (NodeMay S k))
        AfterAuth h := by
    refine authResponse_conforms hj (fun _ => ?_) fun _ _ => ?_
    · exact ⟨hj.cons rfl, fun _ hc => nomatch hc⟩
    · exact ⟨hj.cons rfl, fun _ hc => nomatch hc⟩
  refine conforms_bind.2 ((authenticateNodeJwt_conforms hj).mono fun res h hres => ?_)
  obtain ⟨hj, hok⟩ := hres
  cases res with
  | error err => exact hreject hj
  | ok authId =>
      obtain ⟨claims, node, rfl, hid, hrev⟩ := hok authId rfl
      simp only []
      split
      · exact hreject hj
      · next hsame =>
          obtain rfl := Classical.not_not.1 hsame
          refine conforms_call.2 ⟨NodeLogin.getNodeClaimByIdOptional.may hj, fun found => ?_⟩
          match found with
          | .ok (some claim) =>
              simp only []
              split
              · exact hreject (hj.cons rfl)
              · refine authResponse_conforms (hj.cons rfl) (fun _ => ⟨(hj.cons rfl).cons rfl, ?_⟩)
                  fun _ _ => ⟨(hj.cons rfl).cons rfl, fun _ hc => nomatch hc⟩
                intro n hn
                cases hn
                refine ⟨⟨token, version, claims, node, m, ?_, hm, hid, hrev⟩, ?_⟩
                · exact (List.suffix_cons _ _).trans (List.suffix_cons _ _)
                · simp [unanswered, hm, routed]
          | .ok none => exact hreject (hj.cons rfl)
          | .error err => exact hreject (hj.cons rfl)

theorem joining_nil : Joining [] := by
  refine ⟨fun _ _ _ hmem => ?_, fun _ hmem => ?_, fun _ _ hmem => ?_⟩
  all_goals cases hmem

theorem nodeWaitForAuth_conforms :
    (nodeWaitForAuth S k).Conforms (Issues (NodeMay S k)) AfterAuth [] := by
  refine conforms_call.2 ⟨NodeLogin.next.may joining_nil, fun m => ?_⟩
  have hj : Joining [⟨.ws .next, m⟩] := joining_nil.cons rfl
  split
  all_goals try exact ⟨hj, fun _ hc => nomatch hc⟩
  next version encoding nodeFrame =>
    split
    · exact handleNodeAuth_conforms rfl hj
    · exact ⟨hj, fun _ hc => nomatch hc⟩

theorem rejectNodeSocket_conforms (hj : Joining h) :
    (rejectNodeSocket k).Conforms (Issues (NodeMay S k)) (NodeAt k) h := by
  refine conforms_call.2 ⟨NodeLogin.close.may hj, fun _ => ?_⟩
  refine conforms_call.2 ⟨NodeLogin.drop.may (hj.cons rfl), fun _ => ?_⟩
  exact conforms_call.2 ⟨NodeLogin.finish.may ((hj.cons rfl).cons rfl), fun _ => trivial⟩

theorem handleNodeSocket_conforms :
    (handleNodeSocket S k).Conforms (Issues (NodeMay S k)) (NodeAt k) [] := by
  refine conforms_bind.2 (nodeWaitForAuth_conforms.mono fun res h hres => ?_)
  obtain ⟨hj, hok⟩ := hres
  cases res with
  | error err => exact rejectNodeSocket_conforms hj
  | ok n =>
      obtain ⟨ha, hdone⟩ := hok n rfl
      refine conforms_call.2 ⟨NodeLogin.getNodeById.may hj, fun found => ?_⟩
      cases found with
      | error err => exact rejectNodeSocket_conforms (hj.cons rfl)
      | ok record =>
          refine conforms_call.2 ⟨NodeLogin.memoryDb.may (hj.cons rfl), fun _ => ?_⟩
          refine conforms_call.2 ⟨NodeLogin.now.may ((hj.cons rfl).cons rfl), fun now => ?_⟩
          have hj₃ := ((hj.cons (c := .db (.getNodeById n)) (r := .ok record) rfl).cons
            (c := .memoryDb (.setNodeConnected record)) (r := ‹_›) rfl).cons (c := .now)
            (r := now) rfl
          refine conforms_call.2 ⟨(NodeLogin.insert ha.cons.cons.cons).may hj₃, fun old => ?_⟩
          have hs := hj₃.serving (k := k) (r := old) (NodeConnection.new S.id (S.nodeIp k) k record now)
            ha.cons.cons.cons rfl
          have hl := hj₃.looping.cons_insert (n := n) (r := old)
            (NodeConnection.new S.id (S.nodeIp k) k record now)
          exact conforms_call.2 ⟨NodeLoop.spawn.may hs hl,
            fun _ => ⟨rfl, ⟨hs.cons rfl, hl.cons rfl⟩, hdone⟩⟩

/-! ### The loop -/

/-- A turn of the loop ends where it began. -/
def InLoop (k : Nat) (n : Uuid) (h : Hist Resp) : Prop := Serving k n h ∧ Looping h

/-- Between two messages, every frame has been answered. -/
def AtRest (k : Nat) (n : Uuid) (h : Hist Resp) : Prop := InLoop k n h ∧ unanswered h = none

theorem InLoop.cons {c : Cmd} {r : Resp c} (hc : c.isMark = false) (hl : InLoop k n h) :
    InLoop k n (⟨c, r⟩ :: h) := ⟨hl.1.cons hc, hl.2.cons hc⟩

/-- In the loop, whoever is to be notified is looked up and sent the frame. -/
theorem notify_conforms {cid : Uuid} {frame : WebFrameData} (hl : InLoop k n h)
    (hn : Notifies n h cid frame) :
    (notifyClientByCid cid frame).Conforms (Issues (NodeMay S k)) (fun _ => AtRest k n) h := by
  refine conforms_call.2 ⟨(NodeLoop.connection hn).may hl.1 hl.2, fun found => ?_⟩
  cases found with
  | none => exact ⟨hl.cons rfl, rfl⟩
  | some connection =>
      have hl' := hl.cons (c := .connections (.get cid)) (r := some connection) rfl
      refine conforms_call.2 ⟨(NodeLoop.notify hn).may hl'.1 hl'.2, fun sent => ?_⟩
      cases sent
      · exact ⟨hl'.cons rfl, rfl⟩
      · exact ⟨hl'.cons rfl, rfl⟩

theorem handleFrameResponse_conforms {m : Incoming} {frame : WebFrameData} {id : WebFrameId}
    (hl : InLoop k n h) (hm : m.nodeFrame? = some (.webFrame frame id)) :
    (handleFrameResponse n frame id).Conforms (Issues (NodeMay S k)) (fun _ => AtRest k n)
      (⟨.ws .next, m⟩ :: h) := by
  have hl₁ := hl.cons (c := .ws .next) (r := m) rfl
  cases id with
  | connectionId cid =>
      exact conforms_bind.2 ((notify_conforms hl₁ (.byConnection hm)).mono fun _ _ hl' => hl')
  | sessionId sid =>
      refine conforms_bind.2 (conforms_call.2 ⟨(NodeLoop.lookup hm).may hl₁.1 hl₁.2,
        fun found => ?_⟩)
      cases found with
      | none => exact ⟨hl₁.cons rfl, rfl⟩
      | some pair =>
          obtain ⟨cid, target⟩ := pair
          simp only []
          split
          · next hother => exact ⟨hl₁.cons rfl, if_neg hother⟩
          · next hsame =>
              obtain rfl := Classical.not_not.1 hsame
              refine conforms_bind.2 ((notify_conforms ?_ (.bySession hm)).mono fun _ _ hl' => hl')
              exact hl₁.cons rfl

theorem handleTunnelClosed_conforms {m : Incoming} {protocol : UInt8} {cid : Uuid} {sid : UInt32}
    {msgId : Option UInt32} (hl : InLoop k n h)
    (hm : m.nodeFrame? = some (.tunnelClosed protocol cid sid msgId)) :
    (handleTunnelClosed n protocol cid sid msgId).Conforms (Issues (NodeMay S k))
      (fun _ => AtRest k n) (⟨.ws .next, m⟩ :: h) := by
  have hl₁ := hl.cons (c := .ws .next) (r := m) rfl
  refine conforms_call.2 ⟨(NodeLoop.unbind hm).may hl₁.1 hl₁.2, fun old => ?_⟩
  refine conforms_bind.2 ((notify_conforms ?_ (.closed hm)).mono fun _ _ hl' => hl')
  exact hl₁.cons rfl

theorem handleTunnelOpened_conforms {m : Incoming} {protocol : UInt8} {cid : Uuid} {sid : UInt32}
    {msgId : Option UInt32} (hl : InLoop k n h)
    (hm : m.nodeFrame? = some (.tunnelOpened protocol cid sid msgId)) :
    (handleTunnelOpened n protocol cid sid msgId).Conforms (Issues (NodeMay S k))
      (fun _ => AtRest k n) (⟨.ws .next, m⟩ :: h) := by
  have hl₁ := hl.cons (c := .ws .next) (r := m) rfl
  refine conforms_call.2 ⟨(NodeLoop.bind hm).may hl₁.1 hl₁.2, fun old => ?_⟩
  refine conforms_bind.2 ((notify_conforms ?_ (.opened hm)).mono fun _ _ hl' => hl')
  exact hl₁.cons rfl

/-- What is unanswered after a read is the frame, if it is about a tunnel or for a client. -/
theorem unanswered_of_read {m : Incoming} {f : NodeFrameData} (hm : m.nodeFrame? = some f) :
    unanswered (⟨.ws .next, m⟩ :: h) = routed f := by
  rw [unanswered, hm]
  rfl

/-- What a frame leaves behind: the task is in its loop, and a break had its reason. -/
def AfterFrame (k : Nat) (n : Uuid) (again : Bool) (h : Hist Resp) : Prop :=
  AtRest k n h ∧ (again = false → Exits n h)

theorem handleNodeHeartbeat_conforms {m : Incoming} {stats : Stats} {sentAt : UInt64}
    (hl : InLoop k n h) (hm : m.nodeFrame? = some (.heartbeat stats sentAt)) :
    (handleNodeHeartbeat n stats sentAt).Conforms (Issues (NodeMay S k)) (AfterFrame k n)
      (⟨.ws .next, m⟩ :: h) := by
  have hl₁ := hl.cons (c := .ws .next) (r := m) rfl
  have hdone : unanswered (⟨.ws .next, m⟩ :: h) = none := unanswered_of_read hm
  refine conforms_call.2 ⟨(NodeLoop.get hm).may hl₁.1 hl₁.2, fun found => ?_⟩
  have hl₂ := hl₁.cons (c := .nodes (.get n)) (r := found) rfl
  cases found with
  | none => exact ⟨⟨hl₂, hdone⟩, fun _ => .unregistered hm⟩
  | some info =>
      refine conforms_call.2 ⟨NodeLoop.now.may hl₂.1 hl₂.2, fun now => ?_⟩
      have hl₃ := hl₂.cons (c := .now) (r := now) rfl
      refine conforms_call.2 ⟨NodeLoop.ack.may hl₃.1 hl₃.2, fun sent => ?_⟩
      have hl₄ := hl₃.cons
        (c := .node (.send info.tx (.heartbeatAck sentAt (nowMillis now)))) (r := sent) rfl
      refine conforms_call.2 ⟨NodeLoop.now.may hl₄.1 hl₄.2, fun now' => ?_⟩
      have hl₅ := hl₄.cons (c := .now) (r := now') rfl
      split
      · exact ⟨⟨hl₅, hdone⟩, fun hc => nomatch hc⟩
      · next extended hstats =>
          refine conforms_call.2 ⟨NodeLoop.memoryDb.may hl₅.1 hl₅.2, fun stored => ?_⟩
          have hl₆ := hl₅.cons (c := .memoryDb (.updateNodeStats info.nodeRecord extended))
            (r := stored) rfl
          cases stored
          · exact ⟨⟨hl₆, hdone⟩, fun hc => nomatch hc⟩
          · refine conforms_call.2 ⟨NodeLoop.now.may hl₆.1 hl₆.2, fun now'' => ?_⟩
            have hl₇ := hl₆.cons (c := .now) (r := now'') rfl
            exact conforms_call.2 ⟨(NodeLoop.beat hm).may hl₇.1 hl₇.2,
              fun _ => ⟨⟨hl₇.cons rfl, hdone⟩, fun hc => nomatch hc⟩⟩

theorem handleNodeFrame_conforms {m : Incoming} {f : NodeFrameData} (hl : InLoop k n h)
    (hm : m.nodeFrame? = some f) :
    (handleNodeFrame n f).Conforms (Issues (NodeMay S k)) (AfterFrame k n)
      (⟨.ws .next, m⟩ :: h) := by
  have hl₁ := hl.cons (c := .ws .next) (r := m) rfl
  have hread := unanswered_of_read (h := h) hm
  have again {h' : Hist Resp} (hrest : AtRest k n h') : AfterFrame k n true h' :=
    ⟨hrest, fun hc => nomatch hc⟩
  cases f with
  | heartbeat stats sentAt => exact handleNodeHeartbeat_conforms hl hm
  | tunnelOpened protocol cid sid msgId =>
      exact conforms_bind.2 ((handleTunnelOpened_conforms hl hm).mono fun _ _ => again)
  | webFrame frame id =>
      exact conforms_bind.2 ((handleFrameResponse_conforms hl hm).mono fun _ _ => again)
  | tunnelClosed protocol cid sid msgId =>
      exact conforms_bind.2 ((handleTunnelClosed_conforms hl hm).mono fun _ _ => again)
  | _ => exact again ⟨hl₁, hread⟩

theorem handleNodeMessages_conforms (hrest : AtRest k n h) :
    (handleNodeMessages k n).Conforms (Issues (NodeMay S k)) (NodeAt k) h := by
  have hl := hrest.1
  refine conforms_call.2 ⟨(NodeLoop.next hrest.2).may hl.1 hl.2, fun m => ?_⟩
  have hl₁ := hl.cons (c := .ws .next) (r := m) rfl
  split
  · next nodeFrame =>
      refine conforms_bind.2 ((handleNodeFrame_conforms hl rfl).mono fun again h' hl' => ?_)
      obtain ⟨hrest', hx⟩ := hl'
      cases again
      · exact ⟨rfl, hrest'.1.1, hrest'.1.2, hx rfl⟩
      · exact ⟨rfl, hrest'⟩
  · exact ⟨rfl, hl₁, rfl⟩
  all_goals exact ⟨rfl, hl₁.1, hl₁.2, .broken rfl⟩

/-! ### `disconnect_node` -/

/-- In the closing phase. -/
def InClose (k : Nat) (n : Uuid) (h : Hist Resp) : Prop := Serving k n h ∧ Closing k n h

theorem InClose.cons {c : Cmd} {r : Resp c} (hc : c.isMark = false) (hl : InClose k n h) :
    InClose k n (⟨c, r⟩ :: h) := ⟨hl.1.cons hc, hl.2.cons⟩

theorem notifyClosed_conforms {cid : Uuid} {frame : WebFrameData}
    {Q : Except String Unit → Hist Resp → Prop} (hl : InClose k n h)
    (hn : Sweeps n h cid frame)
    (hQ : ∀ res h', InClose k n h' → h <:+ h' → sweepOf h' = sweepOf h → Q res h') :
    (notifyClientByCid cid frame).Conforms (Issues (NodeMay S k)) Q h := by
  refine conforms_call.2 ⟨(NodeClose.connection hn).may hl.1 hl.2, fun found => ?_⟩
  have hl₁ := hl.cons (c := .connections (.get cid)) (r := found) rfl
  have hsuf := List.suffix_cons (⟨.connections (.get cid), found⟩ : Sigma Resp) h
  cases found with
  | none => exact hQ _ _ hl₁ hsuf rfl
  | some connection =>
      refine conforms_call.2 ⟨(NodeClose.notify hn).may hl₁.1 hl₁.2, fun sent => ?_⟩
      cases sent
      · exact hQ _ _ (hl₁.cons rfl) (hsuf.trans (List.suffix_cons _ _)) rfl
      · exact hQ _ _ (hl₁.cons rfl) (hsuf.trans (List.suffix_cons _ _)) rfl

/-- The sessions still to close were all met in the walk over the registry. -/
def Found (n : Uuid) (found : List (TunnelSessionKey × Uuid × Uuid)) (h : Hist Resp) : Prop :=
  ∀ key cid m, (key, cid, m) ∈ found → key.nodeId = n ∧ ∃ start visited,
    (⟨.tunnelSessions (.next start visited), some (key, cid, m)⟩ : Sigma Resp) ∈ h

theorem Found.mono {found : List (TunnelSessionKey × Uuid × Uuid)} {h' : Hist Resp}
    (hs : h <:+ h') (hf : Found n found h) : Found n found h' := by
  intro key cid m hmem
  obtain ⟨hkey, start, visited, hnext⟩ := hf key cid m hmem
  exact ⟨hkey, start, visited, hs.subset hnext⟩

theorem closeSessions_conforms :
    ∀ (found : List (TunnelSessionKey × Uuid × Uuid)) (count : UInt32) (h : Hist Resp),
      InClose k n h → Found n found h → sweepOf h = .closing found →
        (closeSessions found count).Conforms (Issues (NodeMay S k))
          (fun _ h => InClose k n h ∧ sweepOf h = .closing []) h := by
  intro found
  induction found with
  | nil => exact fun _ _ hl _ hsweep => ⟨hl, hsweep⟩
  | cons entry rest ih =>
      intro count h hl hf hsweep
      obtain ⟨key, cid, m⟩ := entry
      obtain ⟨hkey, start, visited, hnext⟩ := hf key cid m List.mem_cons_self
      have hrest : Found n rest h := fun key' cid' m' hmem =>
        hf key' cid' m' (List.mem_cons_of_mem _ hmem)
      refine conforms_call.2 ⟨(NodeClose.unbind hkey hsweep).may hl.1 hl.2, fun old => ?_⟩
      have hl₁ := hl.cons (c := .tunnelSessions (.remove key)) (r := old) rfl
      have hsweep₁ : sweepOf (⟨.tunnelSessions (.remove key), old⟩ :: h) = .closing rest := by
        rw [sweepOf, hsweep]
        rfl
      refine conforms_bind.2 (notifyClosed_conforms hl₁ (.swept hkey hnext) ?_)
      intro res h' hl' hsuf hsame
      have hf' := hrest.mono ((List.suffix_cons _ _).trans hsuf)
      have hsweep' := hsame.trans hsweep₁
      cases res with
      | ok _ => exact ih (count + 1) h' hl' hf' hsweep'
      | error _ => exact ih count h' hl' hf' hsweep'

theorem closeNodeSocket_conforms (hl : InLoop k n h) (hx : Exits n h) :
    (closeNodeSocket k n).Conforms (Issues (NodeMay S k)) (NodeAt k) h := by
  refine conforms_call.2 ⟨(NodeLoop.abort hx).may hl.1 hl.2, fun _ => ?_⟩
  have hl₁ : InClose k n (⟨.nodeWriter (.abort k), ()⟩ :: h) :=
    ⟨hl.1.cons_abort, h, List.suffix_rfl, hx⟩
  refine conforms_call.2 ⟨(NodeClose.remove rfl).may hl₁.1 hl₁.2, fun removed => ?_⟩
  have hl₂ := hl₁.cons (c := .nodes (.remove n)) (r := removed) rfl
  cases removed with
  | none =>
      exact conforms_call.2 ⟨(NodeClose.finish (.inl rfl)).may hl₂.1 hl₂.2, fun _ => trivial⟩
  | some info =>
      refine conforms_call.2 ⟨NodeClose.memoryDb.may hl₂.1 hl₂.2, fun stored => ?_⟩
      have hl₃ := hl₂.cons (c := .memoryDb (.setNodeDisconnected info.nodeRecord)) (r := stored) rfl
      refine conforms_call.2 ⟨(NodeClose.keys rfl).may hl₃.1 hl₃.2, fun keys => ?_⟩
      have hl₄ := hl₃.cons (c := .tunnelSessions .keys) (r := keys) rfl
      exact ⟨rfl, hl₄.1, hl₄.2, rfl, fun _ _ _ hmem => nomatch hmem⟩

theorem notifyAllClientsForClosedTunnel_conforms {start visited : List TunnelSessionKey}
    {found : List (TunnelSessionKey × Uuid × Uuid)} (hl : InClose k n h) (hf : Found n found h)
    (hsweep : sweepOf h = .walking n start visited found) :
    (notifyAllClientsForClosedTunnel k n start visited found).Conforms (Issues (NodeMay S k))
      (NodeAt k) h := by
  refine conforms_call.2 ⟨(NodeClose.walk hsweep).may hl.1 hl.2, fun met => ?_⟩
  have hl₁ := hl.cons (c := .tunnelSessions (.next start visited)) (r := met) rfl
  have hf₁ := hf.mono
    (List.suffix_cons (⟨.tunnelSessions (.next start visited), met⟩ : Sigma Resp) h)
  cases met with
  | none =>
      have hclosing : sweepOf (⟨.tunnelSessions (.next start visited), none⟩ :: h)
          = .closing found := by
        rw [sweepOf, hsweep]
        rfl
      refine conforms_bind.2 ((closeSessions_conforms found 0 _ hl₁ hf₁ hclosing).mono
        fun _ h' hl' => ?_)
      obtain ⟨hl', hsweep'⟩ := hl'
      exact conforms_call.2
        ⟨(NodeClose.finish (.inr hsweep')).may hl'.1 hl'.2, fun _ => trivial⟩
  | some entry =>
      obtain ⟨key, cid, m⟩ := entry
      have hwalking : sweepOf (⟨.tunnelSessions (.next start visited), some (key, cid, m)⟩ :: h)
          = .walking n start (key :: visited)
            (if key.nodeId = n then found ++ [(key, cid, m)] else found) := by
        rw [sweepOf, hsweep]
        rfl
      simp only []
      split
      · next hkey =>
          rw [if_pos hkey] at hwalking
          refine ⟨rfl, hl₁.1, hl₁.2, hwalking, fun key' cid' m' hmem => ?_⟩
          rcases List.mem_append.1 hmem with hmem | hmem
          · exact hf₁ key' cid' m' hmem
          · cases List.mem_singleton.1 hmem
            exact ⟨hkey, start, visited, List.mem_cons_self⟩
      · next hkey =>
          rw [if_neg hkey] at hwalking
          exact ⟨rfl, hl₁.1, hl₁.2, hwalking, hf₁⟩

/-- **The node socket's task follows its rules**, at every label it can be at. -/
theorem node_follows (l : Label) (h : Hist Resp) (hat : NodeAt k l h) :
    (body S l).Conforms (Issues (NodeMay S k)) (NodeAt k) h := by
  cases l with
  | nodeSocket j =>
      obtain ⟨rfl, rfl⟩ := hat
      exact handleNodeSocket_conforms
  | nodeMessages j n =>
      obtain ⟨rfl, hl⟩ := hat
      exact handleNodeMessages_conforms hl
  | nodeClosing j n =>
      obtain ⟨rfl, hs, hl, hx⟩ := hat
      exact closeNodeSocket_conforms ⟨hs, hl⟩ hx
  | nodeCollect j n start visited found =>
      obtain ⟨rfl, hs, hc, hsweep, hf⟩ := hat
      exact notifyAllClientsForClosedTunnel_conforms ⟨hs, hc⟩ hf hsweep
  | done => trivial
  | _ => exact hat.elim

end Conform

end Phirepass.Server
