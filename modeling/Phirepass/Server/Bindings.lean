/-
# `Phirepass.Server.Bindings` — where a tunnel's binding comes from, and who is sent its frames

`tunnel_sessions` binds a session id of a node to a client.  An entry goes
back to one `TunnelOpened`, read from one socket (`openedOver`); a `WebFrame`
with a session id goes to the client the entry names when the handler looks
(`bound_of_answer`), whatever socket the frame was read from.  That a tunnel is
open or closed a client is told by the handlers of nodes alone, and for one of
four reasons (`reports_of_send`).
-/
import Phirepass.Server.Registries

namespace Phirepass.Server

open Rust Interleave

/-- The socket over which the session `key` was opened, while it is entered. -/
def openedOver (key : TunnelSessionKey) : List (Ev Tid Resp) → Option Nat
  | [] => none
  | ⟨.node k, .tunnelSessions (.insert key' _), _⟩ :: tr =>
      if key' = key then some k else openedOver key tr
  | ⟨_, .tunnelSessions (.remove key'), _⟩ :: tr =>
      if key' = key then none else openedOver key tr
  | _ :: tr => openedOver key tr

/-- The frame the handler of a node read last. -/
def handling : Hist Resp → Option NodeFrameData
  | [] => none
  | ⟨.ws .next, m⟩ :: _ => m.nodeFrame?
  | _ :: h => handling h

/-- Why the handler of socket `k`, registered as `n`, tells the client `cid` about a tunnel. -/
inductive Reports (tr : List (Ev Tid Resp)) (k : Nat) (n cid : Uuid) : WebFrameData → Prop
  | opened {protocol : UInt8} {sid : UInt32} {msgId : Option UInt32}
      (hsent : Sent tr k n (.tunnelOpened protocol cid sid msgId)) :
      Reports tr k n cid (.tunnelOpened protocol sid msgId)
  | closed {protocol : UInt8} {sid : UInt32} {msgId : Option UInt32}
      (hsent : Sent tr k n (.tunnelClosed protocol cid sid msgId)) :
      Reports tr k n cid (.tunnelClosed protocol sid msgId)
  | relayed {frame : WebFrameData} {id : WebFrameId} (hsent : Sent tr k n (.webFrame frame id)) :
      Reports tr k n cid frame
  | swept {start visited : List TunnelSessionKey} {key : TunnelSessionKey} {m : Uuid}
      (hkey : key.nodeId = n) (hfound : (⟨.node k, .tunnelSessions (.next start visited),
        some (key, cid, m)⟩ : Ev Tid Resp) ∈ tr) :
      Reports tr k n cid (.tunnelClosed 0 key.sid none)

section Bindings

variable {S : Setup} {A : Restriction} {rows : DashMap Uuid NodeRow} {users : List Uuid}
  {clock : Time} {cfg : Config State Tid Resp Label}

theorem openedOver_cons {key : TunnelSessionKey} {i : Tid} {c : Cmd} {r : Resp c}
    {tr : List (Ev Tid Resp)} (hinsert : ∀ v, c ≠ .tunnelSessions (.insert key v))
    (hremove : c ≠ .tunnelSessions (.remove key)) :
    openedOver key (⟨i, c, r⟩ :: tr) = openedOver key tr := by
  cases c with
  | tunnelSessions op =>
      cases op with
      | insert key' v =>
          cases i with
          | node k => exact if_neg fun hkey => hinsert v (by rw [hkey])
          | _ => rfl
      | remove key' =>
          have hne : key' ≠ key := fun hkey => hremove (by rw [hkey])
          cases i <;> exact if_neg hne
      | _ => cases i <;> rfl
  | _ => cases i <;> rfl

theorem handling_cons {c : Cmd} {r : Resp c} {h : Hist Resp} (hc : c ≠ .ws .next) :
    handling (⟨c, r⟩ :: h) = handling h := by
  cases c with
  | ws op =>
      cases op with
      | next => exact absurd rfl hc
      | send | close => rfl
  | _ => rfl

/-- **An entry goes back to one `TunnelOpened`**, of its own node. -/
theorem opened_of_bound (hr : (machine S).Reach A (start rows users clock) cfg) :
    ∀ key cid n, cfg.world.state.tunnelSessions.lookup key = some (cid, n) →
      ∃ k protocol msgId, openedOver key cfg.world.trace = some k ∧
        Sent cfg.world.trace k key.nodeId (.tunnelOpened protocol cid key.sid msgId) := by
  refine server_inv (fun w => ∀ key cid n, w.state.tunnelSessions.lookup key = some (cid, n) →
    ∃ k protocol msgId, openedOver key w.trace = some k ∧
      Sent w.trace k key.nodeId (.tunnelOpened protocol cid key.sid msgId)) ?_ ?_ hr
  · intro key cid n hentry
    cases hentry
  · intro cfg i c o r s _ hI hmay _ hexec key cid n hentry
    rw [World.push_state, (exec_effect hexec).tunnelSessions] at hentry
    by_cases hinsert : ∃ v, c = .tunnelSessions (.insert key v)
    · obtain ⟨v, rfl⟩ := hinsert
      obtain ⟨k, n', m, protocol, cid', sid, msgId, h', rfl, hs, rfl, rfl, hown, hm⟩ := hmay.bind
      rw [Cmd.tunnelSessionsAfter, MapOp.apply, AList.lookup_insert] at hentry
      cases hentry
      refine ⟨k, protocol, msgId, if_pos rfl, Sent.mono (List.suffix_cons _ _) ?_⟩
      obtain ⟨conn, r', hmem, -⟩ := hs.registered
      rw [hown, List.mem_cons] at hmem
      rcases hmem with heq | hmem
      · cases heq
      · refine sent_of_own ?_ hmem hm
        rw [hown]
    · have hold : cfg.world.state.tunnelSessions.lookup key = some (cid, n) := by
        cases c with
        | tunnelSessions op =>
            rcases MapOp.lookup_apply hentry with h | rfl | ⟨f, old, rfl, -, -⟩
            · exact h
            · exact absurd ⟨_, rfl⟩ hinsert
            · exact absurd hmay May.not_modify
        | _ => exact hentry
      obtain ⟨k, protocol, msgId, hover, hsent⟩ := hI key cid n hold
      refine ⟨k, protocol, msgId, ?_, hsent.mono (List.suffix_cons _ _)⟩
      rw [World.push_trace, openedOver_cons (fun v heq => hinsert ⟨v, heq⟩), hover]
      rintro rfl
      rw [Cmd.tunnelSessionsAfter, MapOp.apply, AList.lookup_erase] at hentry
      cases hentry

/-- A message that ends the loop is neither about a tunnel nor for a client. -/
theorem Exits.handling_routed {n : Uuid} {h : Hist Resp} (hx : Exits n h) :
    (handling h).bind routed = none := by
  cases hx with
  | @broken h m hm =>
      match m with
      | none | some (.error ()) | some (.ok .close) | some (.ok .other)
      | some (.ok (.binary (.error _))) | some (.ok (.binary (.ok ⟨_, _, .web _⟩))) => rfl
      | some (.ok (.binary (.ok ⟨_, _, .node _⟩))) => cases hm
  | @unregistered h m stats sentAt hm =>
      have hread : handling (⟨.nodes (.get n), none⟩ :: ⟨.ws .next, m⟩ :: h)
          = some (.heartbeat stats sentAt) := hm
      rw [hread]
      rfl

/-- Once its loop is left, a handler has no such frame in hand. -/
theorem handling_of_closing (hr : (machine S).Reach A (start rows users clock) cfg) (k : Nat) :
    Looping (own (.node k) cfg.world.trace) ∨
      (handling (own (.node k) cfg.world.trace)).bind routed = none := by
  refine server_inv (fun w => Looping (own (.node k) w.trace) ∨
    (handling (own (.node k) w.trace)).bind routed = none) ?_ ?_ hr
  · exact .inl fun _ _ hmem => nomatch hmem
  · intro cfg i c o r s _ hI hmay _ _
    rw [World.push_trace]
    by_cases hi : i = .node k
    · subst hi
      rw [own_cons_self]
      generalize own (.node k) cfg.world.trace = h at hI hmay
      by_cases habort : ∃ j, c = .nodeWriter (.abort j)
      · obtain ⟨j, rfl⟩ := habort
        cases hmay with
        | loop hs hl hc =>
            cases hc with
            | abort hx => exact .inr hx.handling_routed
        | login _ hc | close _ _ hc => cases hc
      · have hkeep (hl : Looping h) : Looping (⟨c, r⟩ :: h) := by
          intro j r' hmem
          rcases List.mem_cons.1 hmem with heq | hmem
          · cases heq
            exact habort ⟨j, rfl⟩
          · exact hl j r' hmem
        by_cases hnext : c = .ws .next
        · subst hnext
          cases hmay with
          | login hj hc => exact .inl (hkeep hj.looping)
          | loop hs hl hc => exact .inl (hkeep hl)
          | close hs hcl hc => cases hc
        · rw [handling_cons hnext]
          exact hI.imp_left hkeep
    · rw [own_cons_of_ne hi]
      exact hI

/-- Who is sent something about a frame with a session id was found under that id. -/
theorem NodeMay.answers {k i : Nat} {h : Hist Resp} {frame frame' : WebFrameData} {sid : UInt32}
    (hm : NodeMay S k h (.web (.send i frame')))
    (hclosing : Looping h ∨ (handling h).bind routed = none)
    (hread : handling h = some (.webFrame frame (.sessionId sid))) :
    ∃ n cid conn m h', Serving k n h ∧ conn.tx = i ∧ frame' = frame ∧
      h = ⟨.connections (.get cid), some conn⟩ ::
        ⟨.tunnelSessions (.get ⟨n, sid⟩), some (cid, n)⟩ :: ⟨.ws .next, m⟩ :: h' := by
  cases hm with
  | login _ hc => cases hc
  | @loop n hs _ hc =>
      cases hc with
      | notify hn =>
          cases hn with
          | opened hm | closed hm | byConnection hm =>
              change Incoming.nodeFrame? _ = some _ at hread
              rw [hm] at hread
              cases hread
          | bySession hm =>
              change Incoming.nodeFrame? _ = some _ at hread
              rw [hm] at hread
              cases hread
              exact ⟨n, _, _, _, _, hs, rfl, rfl, rfl⟩
  | close hs hcl hc =>
      obtain ⟨h', hsuf, -⟩ := hcl
      rcases hclosing with hl | hnone
      · exact absurd (hsuf.subset List.mem_cons_self) (hl k ())
      · rw [hread] at hnone
        cases hnone

/-- **A frame with a session id goes to whom the session is bound to**, when the handler looks. -/
theorem bound_of_answer (hr : (machine S).Reach A (start rows users clock) cfg) {k i : Nat}
    {frame frame' : WebFrameData} {sid : UInt32} {r : Bool} {past : List (Ev Tid Resp)}
    (hs : ⟨.node k, .web (.send i frame'), r⟩ :: past <:+ cfg.world.trace)
    (hread : handling (own (.node k) past) = some (.webFrame frame (.sessionId sid))) :
    ∃ n cid before, Drew past i cid ∧
      ⟨.node k, .tunnelSessions (.get ⟨n, sid⟩), some (cid, n)⟩ :: before <:+ past := by
  refine server_events (fun past e => ∀ k i frame frame' sid r,
    e = ⟨.node k, .web (.send i frame'), r⟩ →
    handling (own (.node k) past) = some (.webFrame frame (.sessionId sid)) →
      ∃ n cid before, Drew past i cid ∧
        ⟨.node k, .tunnelSessions (.get ⟨n, sid⟩), some (cid, n)⟩ :: before <:+ past) ?_ hr _ past
    hs k i frame frame' sid r rfl hread
  intro cfg j c o r s hr hmay _ _ k i frame frame' sid r' heq hread
  cases heq
  obtain ⟨n, cid, conn, m, h', -, rfl, -, hown⟩ :=
    NodeMay.answers hmay (handling_of_closing hr k) hread
  have hfound : ⟨.tunnelSessions (.get ⟨n, sid⟩), some (cid, n)⟩ :: ⟨.ws .next, m⟩ :: h' <:+
      own (.node k) cfg.world.trace := by
    rw [hown]
    exact List.suffix_cons _ _
  have hget : (⟨.node k, .connections (.get cid), some conn⟩ : Ev Tid Resp)
      ∈ cfg.world.trace := by
    rw [← mem_own, hown]
    exact List.mem_cons_self
  obtain ⟨before, hbefore, -⟩ := exists_past_of_own hfound
  exact ⟨n, cid, before, drew_of_get hr hget, hbefore⟩

/-! ## Who says that a tunnel is open or closed -/

theorem Reports.mono {tr tr' : List (Ev Tid Resp)} {k : Nat} {n cid : Uuid} {frame : WebFrameData}
    (hs : tr <:+ tr') (h : Reports tr k n cid frame) : Reports tr' k n cid frame := by
  cases h with
  | opened hsent => exact .opened (hsent.mono hs)
  | closed hsent => exact .closed (hsent.mono hs)
  | relayed hsent => exact .relayed (hsent.mono hs)
  | swept hkey hfound => exact .swept hkey (hs.subset hfound)

/-- What the loop of a node tells a client about a tunnel. -/
theorem reports_of_notifies {tr : List (Ev Tid Resp)} {k : Nat} {n cid : Uuid} {h : Hist Resp}
    {conn : NodeConnection} {r : Option NodeConnection} {frame : WebFrameData}
    (hsuf : h <:+ own (.node k) tr) (hreg : (⟨.nodes (.insert n conn), r⟩ : Sigma Resp) ∈ h)
    (hn : Notifies n h cid frame) : Reports tr k n cid frame := by
  cases hn with
  | opened hm =>
      simp only [List.mem_cons, Sigma.mk.injEq, reduceCtorEq, false_and, false_or] at hreg
      exact .opened (sent_of_own ((List.suffix_cons _ _).trans hsuf) hreg hm)
  | closed hm =>
      simp only [List.mem_cons, Sigma.mk.injEq, reduceCtorEq, false_and, false_or] at hreg
      exact .closed (sent_of_own ((List.suffix_cons _ _).trans hsuf) hreg hm)
  | byConnection hm =>
      simp only [List.mem_cons, Sigma.mk.injEq, reduceCtorEq, false_and, false_or] at hreg
      exact .relayed (sent_of_own hsuf hreg hm)
  | bySession hm =>
      simp only [List.mem_cons, Sigma.mk.injEq, reduceCtorEq, false_and, false_or] at hreg
      exact .relayed (sent_of_own ((List.suffix_cons _ _).trans hsuf) hreg hm)

/-- A web socket's own task sends its client notices. -/
theorem WebMay.notice {i j : Nat} {h : Hist Resp} {frame : WebFrameData}
    (hm : WebMay S i h (.web (.send j frame))) : isNotice frame = true := by
  rcases hm with hc | ⟨cid, -, hc⟩
  · cases hc with
    | send hframe => exact hframe
  · cases hc with
    | notify hframe => exact hframe

/-- Anything else it is sent by the handler of a node. -/
theorem May.relays {i : Tid} {j : Nat} {h : Hist Resp} {frame : WebFrameData}
    (hm : May S i h (.web (.send j frame))) (hframe : isNotice frame = false) :
    ∃ k, i = .node k ∧ NodeMay S k h (.web (.send j frame)) := by
  cases i with
  | node k => exact ⟨k, rfl, hm⟩
  | web w =>
      rw [WebMay.notice hm] at hframe
      cases hframe
  | request q => cases hm <;> rename_i hc <;> cases hc
  | _ => cases hm

/-- **Who reports a tunnel.**  A client is told that a tunnel is open or closed by the handler
of a node, which was told so, or passes on a frame, or gives up the sessions of its node. -/
theorem reports_of_send (hr : (machine S).Reach A (start rows users clock) cfg) {j : Tid} {i : Nat}
    {frame : WebFrameData} {r : Bool}
    (hmem : (⟨j, .web (.send i frame), r⟩ : Ev Tid Resp) ∈ cfg.world.trace)
    (hframe : frame.reportsTunnel = true) :
    ∃ k n cid, j = .node k ∧ Registered cfg.world.trace k n ∧ Drew cfg.world.trace i cid ∧
      Reports cfg.world.trace k n cid frame := by
  obtain ⟨past, hs⟩ := exists_past hmem
  have hpast := (List.suffix_cons _ _).trans hs
  have hev := server_events (fun past e => ∀ j i frame r,
    e = ⟨j, .web (.send i frame), r⟩ → frame.reportsTunnel = true →
      ∃ k n cid, j = .node k ∧ Registered past k n ∧ Drew past i cid ∧ Reports past k n cid frame)
    ?_ hr _ past hs j i frame r rfl hframe
  · obtain ⟨k, n, cid, hj, hreg, hdrew, hrep⟩ := hev
    exact ⟨k, n, cid, hj, hreg.mono hpast, hdrew.mono hpast, hrep.mono hpast⟩
  · intro cfg j c o r s hr hmay _ _ j i frame r' heq hframe
    cases heq
    have hnotice : isNotice frame = false := by
      cases frame <;> first | rfl | cases hframe
    obtain ⟨k, rfl, hmay⟩ := hmay.relays hnotice
    obtain ⟨n, cid, h, hsuf, hreg, hdrew, ⟨conn, r, hinsert, hn⟩ | hn⟩ := notified_of_send hr hmay
    · exact ⟨k, n, cid, rfl, hreg, hdrew, reports_of_notifies hsuf hinsert hn⟩
    · obtain ⟨hkey, hin⟩ := hn
      exact ⟨k, n, cid, rfl, hreg, hdrew,
        .swept hkey (mem_own.1 (hsuf.subset (List.mem_cons_of_mem _ hin)))⟩

end Bindings

end Phirepass.Server
