/-
# `Phirepass.Server.Evicted` — what a client does after it was evicted

`cleanup_dangling_connections` removes a connection whose last `Heartbeat`
frame is too old.  It leaves the socket's task alone: that goes on reading,
and the handlers that forward a frame look at `tunnel_sessions` and `nodes`,
never at `connections`.  Other frames than `Heartbeat` do not count as a sign
of life, so a busy client is evicted as well (`evicted_client_forwards`).

Once its own handler removes the connection, nothing is forwarded any more.
So it is enough that an evicted client has no frame under way whose tunnel
and node are there, and sends none (`forwards_connected`).  Frames that find
no tunnel or no node do no harm: they end in an error for the client.
-/
import Phirepass.Server.WebCleanup

namespace Phirepass.Server

open Rust Interleave

/-- The connections that the events of a trace make. -/
def connectionsAt (tr : List (Ev Tid Resp)) : DashMap Uuid WebConnection :=
  tr.foldr (fun e m => e.cmd.connectionsAfter m) ∅

/-- A frame is forwarded to a node only for a client that is connected. -/
def ForwardsConnected (tr : List (Ev Tid Resp)) : Prop :=
  ∀ j k g r cid past, ⟨j, .node (.send k g), r⟩ :: past <:+ tr → forwardedFor g = some cid →
    ((connectionsAt past).lookup cid).isSome = true

/-- The message is one the loop has to forward to a node. -/
def forNode (cid : Uuid) (m : Incoming) : Bool :=
  match m.webFrame? with
  | some (.openTunnel ..) => true
  | some f => (relayed cid f).isSome
  | none => false

/-- The task is between such a message and the send: it has just read it, or found the tunnel
it is for, or the node. -/
def forwarding (cid : Uuid) : Hist Resp → Bool
  | ⟨.ws .next, m⟩ :: _ => forNode cid m
  | ⟨.tunnelSessions (.get _), some (owner, _)⟩ :: _ => owner == cid
  | ⟨.nodes (.get _), some _⟩ :: _ => true
  | _ => false

/-- The node of an `OpenTunnel` is connected; for any other frame the tunnel is the client's own
and its node is connected. -/
def finds (S : Setup) (cid : Uuid) (s : State) (m : Incoming) : Bool :=
  match m.webFrame? with
  | some (.openTunnel _ target _ _ _) =>
      (S.crates.parseUuid target).toOption.any fun n => (s.nodes.lookup n).isSome
  | some f =>
      (relayed cid f).any fun relay =>
        (S.crates.parseUuid relay.1).toOption.any fun t =>
          (s.tunnelSessions.lookup ⟨t, relay.2.1⟩).any fun entry =>
            entry.1 == cid && (s.nodes.lookup entry.2).isSome
  | none => false

/-- The task has a frame that finds its tunnel and its node, as the server stands. -/
def underWay (S : Setup) (cid : Uuid) (s : State) : Hist Resp → Bool
  | ⟨.ws .next, m⟩ :: _ => finds S cid s m
  | ⟨.tunnelSessions (.get _), some (owner, n)⟩ :: _ => owner == cid && (s.nodes.lookup n).isSome
  | ⟨.nodes (.get _), some _⟩ :: _ => true
  | _ => false

/-- The command enters a node or a tunnel. -/
def Cmd.registers : Cmd → Bool
  | .nodes (.insert _ _) | .tunnelSessions (.insert _ _) => true
  | _ => false

/-- A client is not evicted while it has a frame under way, its socket brings no frame that finds
its tunnel and node after it was evicted, and neither is entered while such a frame is being
dealt with. -/
structure SilentOnceEvicted (S : Setup) (w : World State Tid Resp) (i : Tid) (c : Cmd)
    (r : Resp c) : Prop where
  evicted : ∀ cid p, (⟨c, r⟩ : Sigma Resp) = ⟨.connections (.removeIf cid p), true⟩ →
    ∀ j, Drew w.trace j cid → underWay S cid w.state (own (.web j) w.trace) = false
  silent : ∀ j m cid, i = .web j → (⟨c, r⟩ : Sigma Resp) = ⟨.ws .next, m⟩ → Drew w.trace j cid →
    finds S cid w.state m = true → (w.state.connections.lookup cid).isSome = true
  entered : c.registers = true → ∀ j cid, Drew w.trace j cid →
    forwarding cid (own (.web j) w.trace) = true → (w.state.connections.lookup cid).isSome = true

section Evicted

variable {S : Setup} {A : Restriction} {rows : DashMap Uuid NodeRow} {users : List Uuid}
  {clock : Time} {cfg : Config State Tid Resp Label}

theorem connections_eq (hr : (machine S).Reach A (start rows users clock) cfg) :
    cfg.world.state.connections = connectionsAt cfg.world.trace :=
  hr.replay State.connections (fun c m => Cmd.connectionsAfter m c)
    (fun i _ _ _ _ _ hexec => (exec_effect (i := i) hexec).connections) rfl

/-! ### What a frame finds -/

theorem finds_of_relayed {cid n t : Uuid} {s : State} {m : Incoming} {f : WebFrameData}
    {target : String} {sid : UInt32} {g : NodeFrameData} (hm : m.webFrame? = some f)
    (hf : relayed cid f = some (target, sid, g)) (ht : S.crates.parseUuid target = .ok t)
    (hentry : s.tunnelSessions.lookup ⟨t, sid⟩ = some (cid, n)) :
    finds S cid s m = (s.nodes.lookup n).isSome := by
  unfold finds
  rw [hm]
  cases f with
  | openTunnel => cases hf
  | _ => simp [hf, ht, hentry, Except.toOption]

theorem finds_of_openTunnel {cid n : Uuid} {s : State} {m : Incoming} {protocol : UInt8}
    {target : String} {username password : Option String} {msgId : Option UInt32}
    (hm : m.webFrame? = some (.openTunnel protocol target username password msgId))
    (ht : S.crates.parseUuid target = .ok n) :
    finds S cid s m = (s.nodes.lookup n).isSome := by
  unfold finds
  rw [hm]
  simp [ht, Except.toOption]

theorem forNode_of_finds {cid : Uuid} {s : State} {m : Incoming} (h : finds S cid s m = true) :
    forNode cid m = true := by
  unfold finds at h
  unfold forNode
  split at h
  · rfl
  · obtain ⟨relay, hrelay, -⟩ := (Option.any_eq_true _ _).1 h
    exact Option.isSome_iff_exists.2 ⟨relay, hrelay⟩
  · cases h

theorem forwarding_of_underWay {cid : Uuid} {s : State} {h : Hist Resp}
    (hw : underWay S cid s h = true) : forwarding cid h = true := by
  unfold underWay at hw
  split at hw
  · exact forNode_of_finds hw
  · exact (Bool.and_eq_true_iff.1 hw).1
  · rfl
  · cases hw

/-- What was there before finds at least as much. -/
theorem finds_mono {cid : Uuid} {s s' : State} {m : Incoming}
    (hnodes : ∀ n, (s'.nodes.lookup n).isSome = true → (s.nodes.lookup n).isSome = true)
    (htunnels : ∀ key entry, s'.tunnelSessions.lookup key = some entry →
      s.tunnelSessions.lookup key = some entry)
    (h : finds S cid s' m = true) : finds S cid s m = true := by
  unfold finds at h ⊢
  split at h
  · obtain ⟨n, hn, hlive⟩ := (Option.any_eq_true _ _).1 h
    exact (Option.any_eq_true _ _).2 ⟨n, hn, hnodes n hlive⟩
  · obtain ⟨relay, hrelay, h⟩ := (Option.any_eq_true _ _).1 h
    obtain ⟨t, ht, h⟩ := (Option.any_eq_true _ _).1 h
    obtain ⟨entry, hentry, hlive⟩ := (Option.any_eq_true _ _).1 h
    obtain ⟨howner, hlive⟩ := Bool.and_eq_true_iff.1 hlive
    refine (Option.any_eq_true _ _).2 ⟨relay, hrelay, (Option.any_eq_true _ _).2 ⟨t, ht, ?_⟩⟩
    exact (Option.any_eq_true _ _).2
      ⟨entry, htunnels _ _ hentry, Bool.and_eq_true_iff.2 ⟨howner, hnodes _ hlive⟩⟩
  · cases h

theorem underWay_mono {cid : Uuid} {s s' : State} {h : Hist Resp}
    (hnodes : ∀ n, (s'.nodes.lookup n).isSome = true → (s.nodes.lookup n).isSome = true)
    (htunnels : ∀ key entry, s'.tunnelSessions.lookup key = some entry →
      s.tunnelSessions.lookup key = some entry)
    (hw : underWay S cid s' h = true) : underWay S cid s h = true := by
  unfold underWay at hw ⊢
  split at hw
  · exact finds_mono hnodes htunnels hw
  · obtain ⟨howner, hlive⟩ := Bool.and_eq_true_iff.1 hw
    exact Bool.and_eq_true_iff.2 ⟨howner, hnodes _ hlive⟩
  · rfl
  · cases hw

/-- A step that enters nothing adds nothing to the two maps. -/
theorem underWay_before {i : Tid} {c : Cmd} {o : Choice} {r : Resp c} {s s' : State} {cid : Uuid}
    {h h' : Hist Resp} (hmay : May S i h' c) (hexec : exec S i c o s = some (r, s'))
    (hnew : c.registers = false) (hw : underWay S cid s' h = true) :
    underWay S cid s h = true := by
  have heff := exec_effect hexec
  refine underWay_mono (fun n hn => ?_) (fun key entry hentry => ?_) hw
  · rw [heff.nodes] at hn
    cases c with
    | nodes op =>
        obtain ⟨info, hinfo⟩ := Option.isSome_iff_exists.1 hn
        rcases MapOp.lookup_apply hinfo with hold | rfl | ⟨f, info', -, hold, -⟩
        · rw [hold]
          rfl
        · cases hnew
        · rw [hold]
          rfl
    | _ => exact hn
  · rw [heff.tunnelSessions] at hentry
    cases c with
    | tunnelSessions op =>
        rcases MapOp.lookup_apply hentry with hold | rfl | ⟨f, entry', rfl, -, -⟩
        · exact hold
        · cases hnew
        · exact absurd hmay May.not_modify
    | _ => exact hentry

/-! ### The task of a client -/

/-- A connection is removed by its own web socket. -/
theorem May.disconnected {i : Tid} {h : Hist Resp} {cid : Uuid}
    (hm : May S i h (.connections (.remove cid))) : ∃ j, i = .web j ∧ LoggedIn S h cid := by
  obtain ⟨j, rfl, hc | ⟨cid', hl, hc⟩⟩ := hm.byWeb rfl
  · cases hc
  · cases hc
    exact ⟨j, rfl, hl⟩

/-- Only what is under way is forwarded. -/
theorem WebMay.underWay {j : Nat} {h : Hist Resp} {k : Nat} {g : NodeFrameData} {cid : Uuid}
    {s : State} (hm : WebMay S j h (.node (.send k g))) (hg : forwardedFor g = some cid) :
    Server.underWay S cid s h = true := by
  rcases hm with hc | ⟨cid', -, hc⟩
  · cases hc
  · cases hc with
    | forward | openTunnel => rfl
    | disconnect => cases hg

/-- A command of a web socket that leaves a frame under way had it under way, or has just read
it. -/
theorem WebMay.underWay_cons {j : Nat} {h : Hist Resp} {c : Cmd} {o : Choice} {r : Resp c}
    {cid : Uuid} {s s' : State} (hm : WebMay S j h c)
    (hexec : exec S (.web j) c o s = some (r, s')) (hcid : ∀ cid', LoggedIn S h cid' → cid = cid')
    (hf : Server.underWay S cid s (⟨c, r⟩ :: h) = true) :
    Server.underWay S cid s h = true ∨
      ∃ m, (⟨c, r⟩ : Sigma Resp) = ⟨.ws .next, m⟩ ∧ finds S cid s m = true := by
  rcases hm with hc | ⟨cid', hl', hc⟩
  · cases hc with
    | next => exact .inr ⟨r, rfl, hf⟩
    | _ => cases hf
  · obtain rfl := hcid cid' hl'
    cases hc with
    | next => exact .inr ⟨r, rfl, hf⟩
    | lookup hm hrel ht =>
        have hget := exec_tunnelSessions_answer hexec
        simp only [MapOp.answer, Option.some.injEq] at hget
        subst hget
        cases hentry : s.tunnelSessions.lookup ⟨_, _⟩ with
        | none =>
            rw [hentry] at hf
            cases hf
        | some entry =>
            obtain ⟨owner, n⟩ := entry
            rw [hentry] at hf
            obtain ⟨howner, hlive⟩ := Bool.and_eq_true_iff.1 hf
            obtain rfl := beq_iff_eq.1 howner
            exact .inl ((finds_of_relayed hm hrel ht hentry).trans hlive)
    | @findNode h m f target sid g t n hm hrel ht =>
        have hget := exec_nodes_answer hexec
        simp only [MapOp.answer, Option.some.injEq] at hget
        cases r with
        | none => cases hf
        | some info => exact .inl (by simp [Server.underWay, hget])
    | findTarget hm ht =>
        have hget := exec_nodes_answer hexec
        simp only [MapOp.answer, Option.some.injEq] at hget
        cases r with
        | none => cases hf
        | some info => exact .inl ((finds_of_openTunnel hm ht).trans (by rw [hget]; rfl))
    | _ => cases hf

/-- A connection is there as long as its own task does not remove it and no cleanup does. -/
theorem connected_kept (hr : (machine S).Reach A (start rows users clock) cfg) {i : Nat} {cid : Uuid}
    {j : Tid} {c : Cmd} {o : Choice} {r : Resp c} {s : State}
    (hmay : May S j (own j cfg.world.trace) c) (hexec : exec S j c o cfg.world.state = some (r, s))
    (hdrew : Drew cfg.world.trace i cid) (hj : j ≠ .web i)
    (hstale : ∀ p, (⟨c, r⟩ : Sigma Resp) ≠ ⟨.connections (.removeIf cid p), true⟩)
    (hold : (cfg.world.state.connections.lookup cid).isSome = true) :
    (s.connections.lookup cid).isSome = true := by
  rw [(exec_effect hexec).connections]
  cases c with
  | connections op =>
      refine MapOp.isSome_kept hold ?_ ?_
      · rintro rfl
        obtain ⟨j', rfl, hl⟩ := hmay.disconnected
        rw [drew_unique hr hdrew hl.drew] at hj
        exact hj rfl
      · rintro p rfl
        have hanswer := exec_connections_answer hexec
        cases hanswer
        cases hany : (cfg.world.state.connections.lookup cid).any p with
        | false => rfl
        | true =>
            rw [hany] at hstale
            exact absurd rfl (hstale p)
  | _ => exact hold

/-- Whose frame is under way is connected. -/
theorem connected_of_underWay
    (hr : (machine S).Reach (SilentOnceEvicted S) (start rows users clock) cfg) :
    ∀ i cid, Drew cfg.world.trace i cid →
      underWay S cid cfg.world.state (own (.web i) cfg.world.trace) = true →
        (cfg.world.state.connections.lookup cid).isSome = true := by
  refine server_inv (fun w => ∀ i cid, Drew w.trace i cid →
    underWay S cid w.state (own (.web i) w.trace) = true →
      (w.state.connections.lookup cid).isSome = true) ?_ ?_ hr
  · exact fun _ _ hmem => nomatch hmem
  · intro cfg j c o r s hr hI hmay hA hexec i cid hdrew hf
    rw [World.push_state] at hf ⊢
    rw [World.push_trace] at hdrew hf
    have hbegun : Drew cfg.world.trace i cid := by
      rcases List.mem_cons.1 hdrew with heq | hdrew
      · cases heq
        rw [own_cons_self] at hf
        cases hf
      · exact hdrew
    by_cases hj : j = .web i
    · subst hj
      rw [own_cons_self] at hf
      have hsame : s.connections = cfg.world.state.connections := by
        rw [(exec_effect hexec).connections]
        cases c with
        | connections => cases hf
        | _ => rfl
      have hquiet : c.registers = false := by
        cases c with
        | nodes op => cases op <;> first | rfl | cases hf
        | tunnelSessions op => cases op <;> first | rfl | cases hf
        | _ => rfl
      rw [hsame]
      rcases WebMay.underWay_cons hmay hexec (fun cid' hl => drew_once hr hbegun hl.drew)
        (underWay_before hmay hexec hquiet hf) with hbefore | ⟨m, heq, hm⟩
      · exact hI i cid hbegun hbefore
      · exact hA.silent i m cid rfl heq hbegun hm
    · rw [own_cons_of_ne hj] at hf
      cases hnew : c.registers with
      | true =>
          have hold := hA.entered hnew i cid hbegun (forwarding_of_underWay hf)
          refine connected_kept hr hmay hexec hbegun hj (fun p heq => ?_) hold
          cases heq
          cases hnew
      | false =>
          have hbefore := underWay_before hmay hexec hnew hf
          refine connected_kept hr hmay hexec hbegun hj (fun p heq => ?_) (hI i cid hbegun hbefore)
          rw [hA.evicted cid p heq i hbegun] at hbefore
          cases hbefore

/-- **Forwarding stops with the connection.**  In every run in which evicted clients have no frame
under way whose tunnel and node are there, and send none, a frame is forwarded only for a client
that is in `connections`. -/
theorem forwards_connected
    (hr : (machine S).Reach (SilentOnceEvicted S) (start rows users clock) cfg) :
    ForwardsConnected cfg.world.trace := by
  intro j k g r cid past hs hg
  refine server_events (fun past e => ∀ j k g r, e = ⟨j, .node (.send k g), r⟩ →
    forwardedFor g = some cid → ((connectionsAt past).lookup cid).isSome = true) ?_ hr _ past hs
    j k g r rfl hg
  intro cfg j c o r s hr hmay _ _ j k g r heq hg
  cases heq
  obtain ⟨i, rfl, hl⟩ := hmay.forwardsFor hg
  rw [← connections_eq hr]
  exact connected_of_underWay hr i cid hl.drew (WebMay.underWay hmay hg)

end Evicted

/-! ## An idle client, and one that is busy -/

/-- Whether a step meets the condition. -/
def silent (S : Setup) (w : World State Tid Resp) (i : Tid) : (c : Cmd) → Resp c → Bool
  | .connections (.removeIf cid _), true => w.trace.all fun
      | ⟨.web j, .newV4, cid'⟩ => cid' != cid || !underWay S cid w.state (own (.web j) w.trace)
      | _ => true
  | .ws .next, m => w.trace.all fun
      | ⟨j, .newV4, cid⟩ =>
          j != i || !finds S cid w.state m || (w.state.connections.lookup cid).isSome
      | _ => true
  | .nodes (.insert _ _), _ | .tunnelSessions (.insert _ _), _ => w.trace.all fun
      | ⟨.web j, .newV4, cid⟩ =>
          !forwarding cid (own (.web j) w.trace) || (w.state.connections.lookup cid).isSome
      | _ => true
  | _, _ => true

theorem silent_sound (S : Setup) (w : World State Tid Resp) (i : Tid) (c : Cmd) (r : Resp c)
    (h : silent S w i c r = true) : SilentOnceEvicted S w i c r := by
  refine ⟨?_, ?_, ?_⟩
  · intro cid p heq j hdrew
    cases heq
    have hnot := List.all_eq_true.1 h _ hdrew
    simpa using hnot
  · rintro j m cid rfl heq hdrew hm
    cases heq
    have hnot := List.all_eq_true.1 h _ hdrew
    simpa [hm] using hnot
  · intro hnew j cid hdrew hf
    unfold Cmd.registers at hnew
    split at hnew
    · have hnot := List.all_eq_true.1 h _ hdrew
      simpa [hf] using hnot
    · have hnot := List.all_eq_true.1 h _ hdrew
      simpa [hf] using hnot
    · cases hnew

/-- Two minutes and ten seconds go by. -/
def wait : List (Tid × Choice) :=
  idle .environment 1 ++ [(.environment, { around := ⟨1130000, sampleRows, [1, 2]⟩ })]

/-- The cleanup looks at the connection `cid`. -/
def cleanup (cid : Uuid) : List (Tid × Choice) :=
  idle .refresh 4 ++ [(.refresh, { pick := some cid })] ++ idle .refresh 1

/-- Client `77` asks for a tunnel, then falls silent and is evicted, and asks for one to a node
that is not connected. -/
def idleSchedule : List (Tid × Choice) :=
  nodeLogin 0 10 ++ webLogin 0 1 10 77 ++ idle (.web 0) 1 ++
    [(.web 0, fromWeb (.openTunnel 0 (Uuid.display 10) none none none))] ++ idle (.web 0) 2 ++
    wait ++ cleanup 77 ++ idle (.web 0) 1 ++
    [(.web 0, fromWeb (.openTunnel 0 (Uuid.display 11) none none none))] ++ idle (.web 0) 2

theorem forwards_connected_of_idle :
    ∃ cfg, (machine (sample loginRequests)).Reach (SilentOnceEvicted (sample loginRequests))
        sampleStart cfg ∧
      cfg.world.state.connections.lookup 77 = none ∧ ForwardsConnected cfg.world.trace := by
  have hrun : ((machine (sample loginRequests)).run (silent (sample loginRequests)) idleSchedule
      sampleStart).any
      (fun cfg => decide (cfg.world.state.connections.lookup 77 = none)) = true := by
    decide +kernel
  obtain ⟨cfg, hr, hgone⟩ := Machine.reach_of_run (silent_sound _) hrun
  exact ⟨cfg, hr, of_decide_eq_true hgone, forwards_connected hr⟩

/-- Client `77` is evicted and then asks for a tunnel. -/
def busySchedule : List (Tid × Choice) :=
  webLogin 0 1 10 77 ++ wait ++ nodeLogin 0 10 ++ cleanup 77 ++ idle (.web 0) 1 ++
    [(.web 0, fromWeb (.openTunnel 0 (Uuid.display 10) none none none))] ++ idle (.web 0) 2

/-- A request of client `77` was just forwarded, and there is no such client. -/
def forwardsEvicted : List (Ev Tid Resp) → Bool
  | ⟨_, .node (.send _ (.openTunnel _ 77 _ _ _)), _⟩ :: past =>
      ((connectionsAt past).lookup 77).isNone
  | _ => false

/-- **An evicted client acts.**  Without that condition its frames reach a node. -/
theorem evicted_client_forwards :
    ¬ ∀ cfg, (machine (sample loginRequests)).Reach Free sampleStart cfg →
      ForwardsConnected cfg.world.trace := by
  have hrun : ((machine (sample loginRequests)).run (fun _ _ _ _ => true) busySchedule
      sampleStart).any (fun cfg => forwardsEvicted cfg.world.trace) = true := by
    decide +kernel
  obtain ⟨cfg, hr, hend⟩ := Machine.reach_of_run (A := Free) (fun _ _ _ _ _ => trivial) hrun
  intro hall
  unfold forwardsEvicted at hend
  split at hend
  · next j k protocol username password msgId r past htrace =>
      have hlast : ⟨j, .node (.send k (.openTunnel protocol 77 username password msgId)), r⟩ :: past
          <:+ cfg.world.trace := by
        rw [htrace]
        exact List.suffix_rfl
      have hin := hall cfg hr j k _ r 77 past hlast rfl
      rw [Option.isNone_iff_eq_none] at hend
      rw [hend] at hin
      cases hin
  · cases hend

end Phirepass.Server
