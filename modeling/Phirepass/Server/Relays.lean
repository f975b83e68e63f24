/-
# `Phirepass.Server.Relays` — what the handler of a node passes on to a client

The handler of socket `k` reads a piece of output, looks up its session, then
the session's client, and puts the piece into the client's queue:

    read → tunnel_sessions → connections → queue

At each arrow it may drop the piece.  Then it drops all that follow
(`silent_once_dropped`):

    no session       it is not opened again, `TunnelOpened` comes before output
    no client        its id is drawn and entered once
    no queue         a queue stays closed

So what it passes on is a beginning of what it reads (`output_relayed`).  All
that is used of the node at the other end is in `Delivers`.
-/
import Phirepass.Interleave.Stream
import Phirepass.Server.Bindings
import Phirepass.Server.WebCleanup

namespace Phirepass.Server

open Rust Interleave

/-- The output of the session `sid` a message carries. -/
def outputIn (sid : UInt32) (m : Incoming) : Option Bytes := m.nodeFrame?.bind (·.output sid)

/-- The output of the session `sid` the handler of socket `k` reads. -/
def outputRead (k : Nat) (sid : UInt32) (_ : List (Ev Tid Resp)) : Ev Tid Resp → List Bytes
  | ⟨.node j, .ws .next, m⟩ => if j = k then (outputIn sid m).toList else []
  | _ => []

/-- What it puts of that into the client queue `x`. -/
def passedOn (k x : Nat) (sid : UInt32) (_ : List (Ev Tid Resp)) : Ev Tid Resp → List Bytes
  | ⟨.node j, .web (.send y frame), true⟩ =>
      if j = k ∧ y = x then (frame.output sid).toList else []
  | _ => []

/-- The output in the handler's hand. -/
def held (sid : UInt32) (h : Hist Resp) : Option Bytes := (unanswered h).bind (·.output sid)

/-- What socket `k` delivers about the session `sid`, which is that of the client `cid` with the
queue `x`. -/
structure Delivers (k x : Nat) (sid : UInt32) (cid : Uuid) (tr : List (Ev Tid Resp)) : Prop where
  /-- Output comes under the session id. -/
  addressed : ∀ m frame id, (⟨.node k, .ws .next, m⟩ : Ev Tid Resp) ∈ tr →
    m.nodeFrame? = some (.webFrame frame id) → (frame.output sid).isSome = true → id = .sessionId sid
  /-- It comes after `TunnelOpened`. -/
  first : ∀ m g past, ⟨.node k, .ws .next, m⟩ :: past <:+ tr → m.nodeFrame? = some g →
    g.opens sid = true → ∀ m', (⟨.node k, .ws .next, m'⟩ : Ev Tid Resp) ∈ past → outputIn sid m' = none
  /-- It comes when the client has entered. -/
  entered : ∀ m past, ⟨.node k, .ws .next, m⟩ :: past <:+ tr → (outputIn sid m).isSome = true →
    ∃ w, Drew past w cid ∧ ¬ Unentered (own (.web w) past)
  /-- The handler finds no binding but its own. -/
  bound : ∀ n v past, ⟨.node k, .tunnelSessions (.get ⟨n, sid⟩), some v⟩ :: past <:+ tr →
    openedOver ⟨n, sid⟩ past = some k ∧ v.1 = cid
  queue : ∀ y, Drew tr y cid → y = x

/-- The command drops what is in hand. -/
def Cmd.drops : (c : Cmd) → Resp c → Bool
  | .tunnelSessions (.get _), none | .connections (.get _), none | .web (.send _ _), false => true
  | _, _ => false

/-- A piece of output was dropped. -/
def Dropped (k : Nat) (sid : UInt32) (tr : List (Ev Tid Resp)) : Prop :=
  ∃ c r past, ⟨.node k, c, r⟩ :: past <:+ tr ∧ c.drops r = true ∧
    (held sid (own (.node k) past)).isSome = true

section Hand

variable {h : Hist Resp} {sid : UInt32} {k : Nat}

theorem output_of_routed {g : NodeFrameData} : (routed g).bind (·.output sid) = g.output sid := by
  cases g <;> rfl

theorem held_of_read {m : Incoming} : held sid (⟨.ws .next, m⟩ :: h) = outputIn sid m := by
  rw [held, unanswered, outputIn]
  cases m.nodeFrame? with
  | none => rfl
  | some g => exact output_of_routed

/-- What is dropped is no longer in hand. -/
theorem held_of_drops {c : Cmd} {r : Resp c} (hdrops : c.drops r = true) :
    held sid (⟨c, r⟩ :: h) = none := by
  unfold Cmd.drops at hdrops
  split at hdrops
  · rfl
  · rfl
  · rfl
  · cases hdrops

/-- What is in hand stays there, unless it is read over, dropped or passed on. -/
theorem held_of_keeps {c : Cmd} {r : Resp c} (hnext : c ≠ .ws .next) (hkeeps : c.drops r = false)
    (hsend : ∀ y frame, c ≠ .web (.send y frame))
    (hget : ∀ key cid n, (⟨c, r⟩ : Sigma Resp) = ⟨.tunnelSessions (.get key), some (cid, n)⟩ →
      n = key.nodeId) : held sid (⟨c, r⟩ :: h) = held sid h := by
  cases c with
  | ws op =>
      cases op with
      | next => exact absurd rfl hnext
      | send | close => rfl
  | tunnelSessions op =>
      cases op with
      | get key =>
          match r with
          | none => cases hkeeps
          | some (cid, n) =>
              obtain rfl := hget key cid n rfl
              rw [held, unanswered, if_pos rfl, held]
      | _ => rfl
  | connections op =>
      cases op with
      | get cid =>
          cases r with
          | none => cases hkeeps
          | some conn => rfl
      | _ => rfl
  | web op =>
      cases op with
      | send y frame => exact absurd rfl (hsend y frame)
      | _ => rfl
  | _ => rfl

/-- What is in hand was read last. -/
theorem handling_of_unanswered {g : NodeFrameData} : ∀ {h : Hist Resp}, unanswered h = some g →
    (handling h).bind routed = some g
  | ⟨c, r⟩ :: h, hg => by
      have hrest (hrest : unanswered h = some g) (hc : c ≠ .ws .next) :
          (handling (⟨c, r⟩ :: h)).bind routed = some g := by
        rw [handling_cons hc]
        exact handling_of_unanswered hrest
      cases c with
      | ws op =>
          cases op with
          | next => exact hg
          | send | close => exact hrest hg (by simp)
      | connections op =>
          cases op with
          | get cid =>
              cases r with
              | none => cases hg
              | some conn => exact hrest hg (by simp)
          | _ => exact hrest hg (by simp)
      | web op =>
          cases op with
          | send x frame => cases hg
          | _ => exact hrest hg (by simp)
      | tunnelSessions op =>
          cases op with
          | get key =>
              match r with
              | none => cases hg
              | some (cid, n) =>
                  simp only [unanswered] at hg
                  split at hg
                  · exact hrest hg (by simp)
                  · cases hg
          | _ => exact hrest hg (by simp)
      | _ => exact hrest hg (by simp)

/-- Whoever the handler looks up, it is about to send what it has in hand. -/
theorem Notifies.held_eq {n cid : Uuid} {frame : WebFrameData} (hn : Notifies n h cid frame) :
    held sid h = frame.output sid := by
  cases hn with
  | opened hm | closed hm => simp [held, unanswered, hm, routed]; rfl
  | byConnection hm => simp [held, unanswered, hm, routed]; rfl
  | bySession hm => simp [held, unanswered, hm, routed]; rfl

end Hand

section Relays

variable {S : Setup} {A : Restriction} {rows : DashMap Uuid NodeRow} {users : List Uuid}
  {clock : Time} {cfg : Config State Tid Resp Label} {k x : Nat} {sid : UInt32} {cid : Uuid}

theorem Delivers.mono (tr tr' : List (Ev Tid Resp)) (hs : tr <:+ tr')
    (h : Delivers k x sid cid tr') : Delivers k x sid cid tr where
  addressed m frame id hmem := h.addressed m frame id (hs.subset hmem)
  first m g past hpast := h.first m g past (hpast.trans hs)
  entered m past hpast := h.entered m past (hpast.trans hs)
  bound n v past hpast := h.bound n v past (hpast.trans hs)
  queue y hdrew := h.queue y (hdrew.mono hs)

/-! ## What does not come back -/

/-- An entry that was opened over a socket is there. -/
theorem bound_of_openedOver (hr : (machine S).Reach A (start rows users clock) cfg) :
    ∀ key j, openedOver key cfg.world.trace = some j →
      (cfg.world.state.tunnelSessions.lookup key).isSome = true := by
  refine server_inv (fun w => ∀ key j, openedOver key w.trace = some j →
    (w.state.tunnelSessions.lookup key).isSome = true) (fun _ _ h => nomatch h) ?_ hr
  intro cfg i c o r s _ hI hmay _ hexec key j hover
  rw [World.push_state, (exec_effect hexec).tunnelSessions]
  by_cases hinsert : ∃ v, c = .tunnelSessions (.insert key v)
  · obtain ⟨v, rfl⟩ := hinsert
    rw [Cmd.tunnelSessionsAfter, MapOp.apply, AList.lookup_insert]
    rfl
  · by_cases hremove : c = .tunnelSessions (.remove key)
    · subst hremove
      rw [World.push_trace] at hover
      cases i <;> simp [openedOver] at hover
    · rw [World.push_trace, openedOver_cons (fun v heq => hinsert ⟨v, heq⟩) hremove] at hover
      have hold := hI key j hover
      cases c with
      | tunnelSessions op =>
          cases op with
          | insert key' v =>
              have hne : key ≠ key' := fun heq => hinsert ⟨v, by rw [heq]⟩
              rwa [Cmd.tunnelSessionsAfter, MapOp.apply, AList.lookup_insert_ne hne]
          | remove key' =>
              have hne : key ≠ key' := fun heq => hremove (by rw [heq])
              rwa [Cmd.tunnelSessionsAfter, MapOp.apply, AList.lookup_erase_ne hne]
          | modify key' f => exact absurd hmay May.not_modify
          | removeIf key' p => exact absurd hmay May.not_removeIf
          | _ => exact hold
      | _ => exact hold

/-- One that is not there is not open. -/
theorem openedOver_of_absent (hr : (machine S).Reach A (start rows users clock) cfg)
    {key : TunnelSessionKey} (hnone : cfg.world.state.tunnelSessions.lookup key = none) :
    openedOver key cfg.world.trace = none := by
  rw [Option.eq_none_iff_forall_ne_some]
  intro j hover
  have hbound := bound_of_openedOver hr key j hover
  rw [hnone] at hbound
  cases hbound

/-- An entry that was not opened over the socket, and is now, was opened over it since. -/
theorem inserted_since {key : TunnelSessionKey} {past tr : List (Ev Tid Resp)} (hs : past <:+ tr)
    (hnot : openedOver key past ≠ some k) (hover : openedOver key tr = some k) :
    ∃ v r before, past <:+ before ∧
      ⟨.node k, .tunnelSessions (.insert key v), r⟩ :: before <:+ tr := by
  induction tr with
  | nil => cases hover
  | cons e tr ih =>
      rcases List.suffix_cons_iff.1 hs with rfl | htr
      · exact absurd hover hnot
      · have hlater (hover : openedOver key tr = some k) : ∃ v r before, past <:+ before ∧
            ⟨.node k, .tunnelSessions (.insert key v), r⟩ :: before <:+ e :: tr := by
          obtain ⟨v, r, before, hbefore, hins⟩ := ih htr hover
          exact ⟨v, r, before, hbefore, hins.trans (List.suffix_cons _ _)⟩
        obtain ⟨i, c, r⟩ := e
        by_cases hinsert : ∃ v, c = .tunnelSessions (.insert key v)
        · obtain ⟨v, rfl⟩ := hinsert
          cases i with
          | node j =>
              simp only [openedOver, if_pos, Option.some.injEq] at hover
              subst hover
              exact ⟨v, r, tr, htr, List.suffix_rfl⟩
          | _ => exact hlater hover
        · by_cases hremove : c = .tunnelSessions (.remove key)
          · subst hremove
            cases i <;> simp [openedOver] at hover
          · exact hlater (by rwa [openedOver_cons (fun v heq => hinsert ⟨v, heq⟩) hremove] at hover)

/-- A client that has entered and is not found does not come back. -/
theorem absent_since (hr : (machine S).Reach A (start rows users clock) cfg) {i : Tid} {w : Nat}
    {past : List (Ev Tid Resp)}
    (hs : ⟨i, .connections (.get cid), none⟩ :: past <:+ cfg.world.trace) (hdrew : Drew past w cid)
    (hent : ¬ Unentered (own (.web w) past)) : cfg.world.state.connections.lookup cid = none := by
  refine server_inv (fun w' => ⟨i, .connections (.get cid), none⟩ :: past <:+ w'.trace →
    w'.state.connections.lookup cid = none) (fun h => nomatch List.suffix_nil.1 h) ?_ hr hs
  intro cfg j c o r s hr hI hmay _ hexec hs
  rw [World.push_state, (exec_effect hexec).connections]
  rcases List.suffix_cons_iff.1 hs with heq | hs
  · cases heq
    have hget := exec_connections_answer hexec
    simp only [MapOp.answer, Option.some.injEq] at hget
    exact hget
  · have hnone := hI hs
    have hpast := (List.suffix_cons _ _).trans hs
    cases c with
    | connections op =>
        by_contra hsome
        rcases MapOp.isSome_apply (Option.isSome_iff_ne_none.2 hsome) with hold | ⟨conn, rfl⟩
        · rw [hnone] at hold
          cases hold
        · obtain ⟨j, rfl, hl, -⟩ := hmay.connect
          obtain rfl := drew_unique hr (hdrew.mono hpast) hl.drew
          refine hent fun cid' conn' r' hmem => ?_
          exact WebMay.unentered hmay cid' conn' r' ((own_suffix _ hpast).subset hmem)
    | _ => exact hnone

theorem not_found_since (hr : (machine S).Reach A (start rows users clock) cfg) {i j : Tid} {w : Nat}
    {conn : WebConnection} {past past' : List (Ev Tid Resp)}
    (hs : ⟨j, .connections (.get cid), some conn⟩ :: past' <:+ cfg.world.trace)
    (hs' : ⟨i, .connections (.get cid), none⟩ :: past <:+ past') (hdrew : Drew past w cid) :
    Unentered (own (.web w) past) := by
  by_contra hent
  refine server_events (fun past' e => ∀ j conn, e = ⟨j, .connections (.get cid), some conn⟩ →
    ⟨i, .connections (.get cid), none⟩ :: past <:+ past' → False) ?_ hr _ past' hs j conn rfl hs'
  intro cfg j c o r s hr _ _ hexec j' conn heq hs'
  cases heq
  have hget := exec_connections_answer hexec
  simp only [MapOp.answer, Option.some.injEq] at hget
  rw [absent_since hr hs' hdrew hent] at hget
  cases hget

/-! ## The handler -/

/-- Output for whose client the handler looks, it has read under the session id. -/
theorem Delivers.session {n cid' : Uuid} {h : Hist Resp} {frame : WebFrameData}
    {tr : List (Ev Tid Resp)} (hD : Delivers k x sid cid tr) (hsuf : h <:+ own (.node k) tr)
    (hn : Notifies n h cid' frame) (hout : (frame.output sid).isSome = true) :
    ∃ m h', h = ⟨.tunnelSessions (.get ⟨n, sid⟩), some (cid', n)⟩ :: ⟨.ws .next, m⟩ :: h' ∧
      outputIn sid m = frame.output sid := by
  cases hn with
  | opened hm | closed hm => cases hout
  | byConnection hm =>
      cases hD.addressed _ _ _ (mem_own.1 (hsuf.subset List.mem_cons_self)) hm hout
  | bySession hm =>
      have hread := mem_own.1 (hsuf.subset (List.mem_cons_of_mem _ List.mem_cons_self))
      cases hD.addressed _ _ _ hread hm hout
      exact ⟨_, _, rfl, by rw [outputIn, hm]; rfl⟩

/-- A handler that has left its loop has answered what it read. -/
theorem unanswered_of_closing (hr : (machine S).Reach A (start rows users clock) cfg) (k : Nat) :
    Looping (own (.node k) cfg.world.trace) ∨ unanswered (own (.node k) cfg.world.trace) = none := by
  refine (handling_of_closing hr k).imp_right fun hnone => ?_
  by_contra hsome
  obtain ⟨g, hg⟩ := Option.ne_none_iff_exists'.1 hsome
  rw [handling_of_unanswered hg] at hnone
  cases hnone

/-- A handler that has left its loop holds nothing. -/
theorem held_of_closing (hr : (machine S).Reach A (start rows users clock) cfg) {n : Uuid}
    (hcl : Closing k n (own (.node k) cfg.world.trace)) :
    held sid (own (.node k) cfg.world.trace) = none := by
  obtain ⟨h', hsuf, -⟩ := hcl
  rcases unanswered_of_closing hr k with hl | hnone
  · exact absurd (hsuf.subset List.mem_cons_self) (hl k ())
  · rw [held, hnone]
    rfl

/-- What the handler sends a client it had in hand, having found the session and then the
client. -/
theorem held_of_send (hr : (machine S).Reach A (start rows users clock) cfg)
    (hD : Delivers k x sid cid cfg.world.trace) {y : Nat} {frame : WebFrameData}
    (hmay : NodeMay S k (own (.node k) cfg.world.trace) (.web (.send y frame))) :
    held sid (own (.node k) cfg.world.trace) = frame.output sid ∧
      ((frame.output sid).isSome = true → ∃ n conn m h', Registered cfg.world.trace k n ∧
        conn.tx = y ∧ outputIn sid m = frame.output sid ∧
        own (.node k) cfg.world.trace = ⟨.connections (.get cid), some conn⟩ ::
          ⟨.tunnelSessions (.get ⟨n, sid⟩), some (cid, n)⟩ :: ⟨.ws .next, m⟩ :: h') := by
  have hclosing {n : Uuid} : Closing k n (own (.node k) cfg.world.trace) →
      held sid (own (.node k) cfg.world.trace) = none := held_of_closing hr
  generalize hown : own (.node k) cfg.world.trace = h at hmay hclosing
  cases hmay with
  | login _ hc => cases hc
  | @loop n hs _ hc =>
      cases hc with
      | @notify h' cid' frame conn hn =>
          refine ⟨hn.held_eq, fun hout => ?_⟩
          have hsuf : h' <:+ own (.node k) cfg.world.trace := hown ▸ List.suffix_cons _ _
          obtain ⟨m, h₁, rfl, hm⟩ := hD.session hsuf hn hout
          obtain ⟨before, hbefore, -⟩ := exists_past_of_own hsuf
          obtain ⟨-, rfl⟩ := hD.bound n _ before hbefore
          rw [← hown] at hs
          exact ⟨n, conn, m, h₁, hs.registered_trace, rfl, hm, rfl⟩
  | @close n hs hcl hc =>
      cases hc with
      | notify hn =>
          cases hn with
          | swept hkey hfound => exact ⟨hclosing hcl, fun hout => nomatch hout⟩

/-- Where a piece of output is dropped, and what is gone then. -/
inductive DroppedAt (k x : Nat) (sid : UInt32) (cid : Uuid) (past : List (Ev Tid Resp)) :
    Sigma Resp → Prop
  | session {n : Uuid} {m : Incoming} {h' : Hist Resp} (hreg : Registered past k n)
      (hown : own (.node k) past = ⟨.ws .next, m⟩ :: h') (hm : (outputIn sid m).isSome = true)
      (hover : openedOver ⟨n, sid⟩ past = none) :
      DroppedAt k x sid cid past ⟨.tunnelSessions (.get ⟨n, sid⟩), none⟩
  | client {w : Nat} (hdrew : Drew past w cid) (hent : ¬ Unentered (own (.web w) past)) :
      DroppedAt k x sid cid past ⟨.connections (.get cid), none⟩
  | queue {frame : WebFrameData} : DroppedAt k x sid cid past ⟨.web (.send x frame), false⟩

/-- The handler finds no session for output it has just read: it was unbound. -/
theorem droppedAt_session (hr : (machine S).Reach A (start rows users clock) cfg)
    (hD : Delivers k x sid cid cfg.world.trace) {key : TunnelSessionKey} {o : Choice} {s : State}
    (hmay : NodeMay S k (own (.node k) cfg.world.trace) (.tunnelSessions (.get key)))
    (hexec : exec S (.node k) (.tunnelSessions (.get key)) o cfg.world.state = some (none, s))
    (hheld : (held sid (own (.node k) cfg.world.trace)).isSome = true) :
    DroppedAt k x sid cid cfg.world.trace ⟨.tunnelSessions (.get key), none⟩ := by
  generalize hown : own (.node k) cfg.world.trace = h at hmay hheld
  cases hmay with
  | login _ hc | close _ _ hc => cases hc
  | @loop n hs _ hc =>
      cases hc with
      | @lookup h' m frame sid' hm =>
          have hread : (⟨.node k, .ws .next, m⟩ : Ev Tid Resp) ∈ cfg.world.trace := by
            rw [← mem_own, hown]
            exact List.mem_cons_self
          rw [held_of_read] at hheld
          have hout : (frame.output sid).isSome = true := by
            rwa [outputIn, hm] at hheld
          cases hD.addressed _ _ _ hread hm hout
          rw [← hown] at hs
          have hget := exec_tunnelSessions_answer hexec
          simp only [MapOp.answer, Option.some.injEq] at hget
          exact .session hs.registered_trace hown hheld (openedOver_of_absent hr hget)

/-- It finds the session but not its client, whose own task has removed the connection. -/
theorem droppedAt_client (hr : (machine S).Reach A (start rows users clock) cfg)
    (hD : Delivers k x sid cid cfg.world.trace) {cid' : Uuid}
    (hmay : NodeMay S k (own (.node k) cfg.world.trace) (.connections (.get cid')))
    (hheld : (held sid (own (.node k) cfg.world.trace)).isSome = true) :
    DroppedAt k x sid cid cfg.world.trace ⟨.connections (.get cid'), none⟩ := by
  have hclosing {n : Uuid} : Closing k n (own (.node k) cfg.world.trace) →
      held sid (own (.node k) cfg.world.trace) = none := held_of_closing hr
  generalize hown : own (.node k) cfg.world.trace = h at hmay hheld hclosing
  cases hmay with
  | login _ hc => cases hc
  | close _ hcl hc =>
      rw [hclosing hcl] at hheld
      cases hheld
  | @loop n hs _ hc =>
      cases hc with
      | connection hn =>
          rw [hn.held_eq] at hheld
          obtain ⟨m, h₁, hh, hm⟩ := hD.session (hown ▸ List.suffix_rfl) hn hheld
          have hfound : ⟨.tunnelSessions (.get ⟨n, sid⟩), some (cid', n)⟩ ::
              ⟨.ws .next, m⟩ :: h₁ <:+ own (.node k) cfg.world.trace := by
            rw [hown, hh]
          obtain ⟨before, hbefore, hown'⟩ := exists_past_of_own hfound
          obtain ⟨-, rfl⟩ := hD.bound n _ before hbefore
          obtain ⟨before', hbefore', -⟩ := exists_past_of_own
            (hown' ▸ List.suffix_rfl : ⟨.ws .next, m⟩ :: h₁ <:+ own (.node k) before)
          have hpast := hbefore'.trans ((List.suffix_cons _ _).trans hbefore)
          obtain ⟨w, hdrew, hent⟩ := hD.entered m before' hpast (by rw [hm, hheld])
          have hsub := (List.suffix_cons _ _).trans hpast
          refine .client (hdrew.mono hsub) fun hu => hent fun cid conn r hmem => ?_
          exact hu cid conn r ((own_suffix _ hsub).subset hmem)

/-- It finds both, and the client's queue does not take the output. -/
theorem droppedAt_queue (hr : (machine S).Reach A (start rows users clock) cfg)
    (hD : Delivers k x sid cid cfg.world.trace) {y : Nat} {frame : WebFrameData}
    (hmay : NodeMay S k (own (.node k) cfg.world.trace) (.web (.send y frame)))
    (hheld : (held sid (own (.node k) cfg.world.trace)).isSome = true) :
    DroppedAt k x sid cid cfg.world.trace ⟨.web (.send y frame), false⟩ := by
  obtain ⟨heq, hfound⟩ := held_of_send hr hD hmay
  rw [heq] at hheld
  obtain ⟨n, conn, m, h', -, rfl, -, hown⟩ := hfound hheld
  have hget : (⟨.node k, .connections (.get cid), some conn⟩ : Ev Tid Resp)
      ∈ cfg.world.trace := by
    rw [← mem_own, hown]
    exact List.mem_cons_self
  rw [hD.queue _ (drew_of_get hr hget)]
  exact .queue

theorem droppedAt_of_event (hT : ∀ w i c r, A w i c r → Delivers k x sid cid (⟨i, c, r⟩ :: w.trace))
    (hr : (machine S).Reach A (start rows users clock) cfg) {c : Cmd} {r : Resp c}
    {past : List (Ev Tid Resp)} (hs : ⟨.node k, c, r⟩ :: past <:+ cfg.world.trace)
    (hdrops : c.drops r = true) (hheld : (held sid (own (.node k) past)).isSome = true) :
    DroppedAt k x sid cid past ⟨c, r⟩ := by
  refine server_events (fun past e => e.tid = .node k → e.cmd.drops e.resp = true →
    (held sid (own (.node k) past)).isSome = true → DroppedAt k x sid cid past ⟨e.cmd, e.resp⟩)
    ?_ hr _ past hs rfl hdrops hheld
  intro cfg i c o r s hr hmay hAi hexec hi hdrops hheld
  obtain rfl : i = .node k := hi
  have hD := (hT _ _ _ _ hAi).mono _ _ (List.suffix_cons _ _)
  change NodeMay S k (own (.node k) cfg.world.trace) c at hmay
  -- what `drops` says of the command leaves the three places
  cases c with
  | tunnelSessions op =>
      cases op with
      | get key =>
          cases r with
          | some v => cases hdrops
          | none => exact droppedAt_session hr hD hmay hexec hheld
      | _ => cases hdrops
  | connections op =>
      cases op with
      | get cid' =>
          cases r with
          | some conn => cases hdrops
          | none => exact droppedAt_client hr hD hmay hheld
      | _ => cases hdrops
  | web op =>
      cases op with
      | send y frame =>
          cases r with
          | true => cases hdrops
          | false => exact droppedAt_queue hr hD hmay hheld
      | _ => cases hdrops
  | _ => cases hdrops

/-- **Once it has dropped a piece of output, the handler passes none on.** -/
theorem silent_once_dropped
    (hT : ∀ w i c r, A w i c r → Delivers k x sid cid (⟨i, c, r⟩ :: w.trace))
    (hr : (machine S).Reach A (start rows users clock) cfg)
    (hD : Delivers k x sid cid cfg.world.trace) (hd : Dropped k sid cfg.world.trace) {y : Nat}
    {frame : WebFrameData} {o : Choice} {s : State}
    (hmay : NodeMay S k (own (.node k) cfg.world.trace) (.web (.send y frame)))
    (hexec : exec S (.node k) (.web (.send y frame)) o cfg.world.state = some (true, s)) :
    frame.output sid = none := by
  rw [← Option.not_isSome_iff_eq_none]
  intro hout
  obtain ⟨n, conn, m, h', hreg, rfl, hm, hown⟩ := (held_of_send hr hD hmay).2 hout
  obtain ⟨c, r, past, hs, hdrops, hheld⟩ := hd
  have hat := droppedAt_of_event hT hr hs hdrops hheld
  have hpeel {e : Sigma Resp} {h₁ : Hist Resp} (he : e.1.drops e.2 = false)
      (hsuf : ⟨c, r⟩ :: own (.node k) past <:+ e :: h₁) : ⟨c, r⟩ :: own (.node k) past <:+ h₁ := by
    rcases List.suffix_cons_iff.1 hsuf with heq | hsuf
    · obtain ⟨rfl, -⟩ := List.cons.inj heq
      rw [hdrops] at he
      cases he
    · exact hsuf
  -- the piece now in hand was read and looked up after the drop
  have hlater : ⟨c, r⟩ :: own (.node k) past <:+ h' := by
    have hsuf := own_suffix (.node k) hs
    rw [own_cons_self, hown] at hsuf
    exact hpeel rfl (hpeel rfl (hpeel rfl hsuf))
  have hfound : ⟨.tunnelSessions (.get ⟨n, sid⟩), some (cid, n)⟩ :: ⟨.ws .next, m⟩ :: h' <:+
      own (.node k) cfg.world.trace := by
    rw [hown]
    exact List.suffix_cons _ _
  obtain ⟨before, hbefore, hown'⟩ := exists_past_of_own hfound
  have hpast : ⟨.node k, c, r⟩ :: past <:+ before := by
    refine suffix_of_own hs ((List.suffix_cons _ _).trans hbefore) ?_
    rw [hown']
    exact hlater.trans (List.suffix_cons _ _)
  have hget : (⟨.node k, .connections (.get cid), some conn⟩ : Ev Tid Resp) ∈ cfg.world.trace := by
    rw [← mem_own, hown]
    exact List.mem_cons_self
  cases hat with
  | @session n' m' h₁ hreg' hown₁ hm' hover =>
      have hp := (List.suffix_cons _ _).trans hs
      obtain rfl := registered_unique hr hreg (hreg'.mono hp)
      have hnot : openedOver ⟨n, sid⟩ (⟨.node k, .tunnelSessions (.get ⟨n, sid⟩), none⟩ :: past) ≠
          some k := by
        rw [openedOver_cons (fun _ => by simp) (by simp), hover]
        exact Option.some_ne_none _ ∘ Eq.symm
      obtain ⟨v, r', at_, hat, hins⟩ := inserted_since hpast hnot (hD.bound n _ before hbefore).1
      -- it was opened again, which the node does not say after output
      have hins := hins.trans ((List.suffix_cons _ _).trans hbefore)
      obtain ⟨_, n', m₂, protocol, cid', sid', msgId, h₂, heq, -, hkey, -, hown₂, hm₂⟩ :=
        (may_of_event hr hins).bind
      cases hkey
      have hread : ⟨.ws .next, m₂⟩ :: h₂ <:+ own (.node k) at_ := by
        rw [hown₂]
      obtain ⟨p₃, hp₃, hown₃⟩ := exists_past_of_own hread
      have hin : (⟨.node k, .ws .next, m'⟩ : Ev Tid Resp) ∈ p₃ := by
        have hsuf := own_suffix (.node k) hat
        rw [own_cons_self, hown₁, hown₂] at hsuf
        rcases List.suffix_cons_iff.1 hsuf with heq | hsuf
        · cases heq
        · rw [← mem_own, hown₃]
          exact hsuf.subset (List.mem_cons_of_mem _ List.mem_cons_self)
      have hnone := hD.first m₂ _ p₃ (hp₃.trans ((List.suffix_cons _ _).trans hins)) hm₂
        (beq_self_eq_true sid) m' hin
      rw [hnone] at hm'
      cases hm'
  | @client w hdrew hent =>
      have hfound' : ⟨.connections (.get cid), some conn⟩ ::
          ⟨.tunnelSessions (.get ⟨n, sid⟩), some (cid, n)⟩ :: ⟨.ws .next, m⟩ :: h' <:+
            own (.node k) cfg.world.trace := by
        rw [hown]
      obtain ⟨at_, hat, hown₁⟩ := exists_past_of_own hfound'
      refine hent (not_found_since hr hat (i := .node k) ?_ hdrew)
      refine suffix_of_own hs ((List.suffix_cons _ _).trans hat) ?_
      rw [hown₁]
      exact (hlater.trans (List.suffix_cons _ _)).trans (List.suffix_cons _ _)
  | queue =>
      obtain rfl := hD.queue _ (drew_of_get hr hget)
      have hclosed := closed_of_web_send hr (hs.subset List.mem_cons_self)
      obtain ⟨⟨sent, chans⟩, hchan, hx⟩ := Option.map_eq_some_iff.1 hexec
      cases hx
      have hnone := ChanOp.puts_of_closed hchan hclosed
      simp [ChanOp.puts] at hnone

/-- Output comes from the handler of a node, which has read it. -/
theorem read_of_output (hr : (machine S).Reach A (start rows users clock) cfg) {i : Tid} {y : Nat}
    {frame : WebFrameData} {r : Bool} {past : List (Ev Tid Resp)}
    (hs : ⟨i, .web (.send y frame), r⟩ :: past <:+ cfg.world.trace)
    (hout : (frame.output sid).isSome = true) : ∃ k m id, i = .node k ∧
      (⟨.node k, .ws .next, m⟩ : Ev Tid Resp) ∈ past ∧ m.nodeFrame? = some (.webFrame frame id) := by
  have hnotice : isNotice frame = false := by
    cases frame <;> first | rfl | cases hout
  obtain ⟨k, rfl, hmay⟩ := (may_of_event hr hs).relays hnotice
  generalize hown : own (.node k) past = h at hmay
  have hin {m : Incoming} (hm : (⟨.ws .next, m⟩ : Sigma Resp) ∈ h) :
      (⟨.node k, .ws .next, m⟩ : Ev Tid Resp) ∈ past := by
    rw [← mem_own, hown]
    exact hm
  cases hmay with
  | login _ hc => cases hc
  | loop _ _ hc =>
      cases hc with
      | notify hn =>
          cases hn with
          | opened hm | closed hm => cases hout
          | byConnection hm => exact ⟨k, _, _, rfl, hin (by simp), hm⟩
          | bySession hm => exact ⟨k, _, _, rfl, hin (by simp), hm⟩
  | close _ _ hc =>
      cases hc with
      | notify hn =>
          cases hn with
          | swept hkey hfound => cases hout

/-! ## The stage -/

theorem passedOn_eq_nil {i : Tid} {c : Cmd} {r : Resp c} {past : List (Ev Tid Resp)}
    (hc : ∀ y frame, c ≠ .web (.send y frame)) : passedOn k x sid past ⟨i, c, r⟩ = [] := by
  unfold passedOn
  split
  · next heq =>
      cases heq
      exact absurd rfl (hc _ _)
  · rfl

theorem outputRead_eq_nil {i : Tid} {c : Cmd} {r : Resp c} {past : List (Ev Tid Resp)}
    (hc : c ≠ .ws .next) : outputRead k sid past ⟨i, c, r⟩ = [] := by
  unfold outputRead
  split
  · next heq =>
      cases heq
      exact absurd rfl hc
  · rfl

theorem Dropped.mono {tr tr' : List (Ev Tid Resp)} (hs : tr <:+ tr') (hd : Dropped k sid tr) :
    Dropped k sid tr' := by
  obtain ⟨c, r, past, hpast, hdrop⟩ := hd
  exact ⟨c, r, past, hpast.trans hs, hdrop⟩

/-- What another task does passes nothing. -/
theorem passes_of_other {i : Tid} {c : Cmd} {r : Resp c} {s : State}
    {w : World State Tid Resp} (hi : i ≠ .node k) :
    Passes (held sid (own (.node k) w.trace)).toList
      (held sid (own (.node k) (w.push i c r s).trace)).toList (outputRead k sid w.trace ⟨i, c, r⟩)
      (passedOn k x sid w.trace ⟨i, c, r⟩) (Dropped k sid w.trace)
      (Dropped k sid (w.push i c r s).trace) := by
  have htook : outputRead k sid w.trace ⟨i, c, r⟩ = [] := by
    unfold outputRead
    split
    · next heq =>
        cases heq
        exact if_neg fun hj => hi (by rw [hj])
    · rfl
  have hgave : passedOn k x sid w.trace ⟨i, c, r⟩ = [] := by
    unfold passedOn
    split
    · next heq =>
        cases heq
        exact if_neg fun hj => hi (by rw [hj.1])
    · rfl
  rw [htook, hgave, World.push_trace, own_cons_of_ne hi]
  exact .idle (Dropped.mono (List.suffix_cons _ _))

/-- **What the handler passes on is a beginning of what it reads**, and all of it but what it
has in hand unless it has dropped something. -/
theorem output_relayed (hT : ∀ w i c r, A w i c r → Delivers k x sid cid (⟨i, c, r⟩ :: w.trace))
    (hr : (machine S).Reach A (start rows users clock) cfg) :
    Relays (stream (outputRead k sid) cfg.world.trace) (stream (passedOn k x sid) cfg.world.trace)
      (held sid (own (.node k) cfg.world.trace)).toList (Dropped k sid cfg.world.trace) := by
  refine hr.relays server_follows (fun _ _ _ _ _ => trivial) (outputRead k sid) (passedOn k x sid)
    (fun w => (held sid (own (.node k) w.trace)).toList) (fun w => Dropped k sid w.trace) rfl rfl ?_
  intro cfg i c o r s hr hmay hAi hexec
  by_cases hi : i = .node k
  swap
  · exact passes_of_other hi
  subst hi
  have hD := (hT _ _ _ _ hAi).mono _ _ (List.suffix_cons _ _)
  have hstays : Dropped k sid cfg.world.trace → Dropped k sid (⟨.node k, c, r⟩ :: cfg.world.trace) :=
    Dropped.mono (List.suffix_cons _ _)
  change NodeMay S k (own (.node k) cfg.world.trace) c at hmay
  rw [World.push_trace, own_cons_self]
  by_cases hnext : c = .ws .next
  · -- it reads on with nothing in hand
    subst hnext
    have hempty : held sid (own (.node k) cfg.world.trace) = none := by
      generalize own (.node k) cfg.world.trace = h at hmay
      cases hmay with
      | login _ hc =>
          cases hc
          rfl
      | loop _ _ hc =>
          cases hc with
          | next hdone => rw [held, hdone]; rfl
      | close _ _ hc => cases hc
    rw [hempty, held_of_read, passedOn_eq_nil fun _ _ => by simp]
    exact ⟨.inl (by simp [outputRead]), fun hd => ⟨hstays hd, rfl⟩⟩
  · rw [outputRead_eq_nil hnext]
    by_cases hsend : ∃ y frame, c = .web (.send y frame)
    · obtain ⟨y, frame, rfl⟩ := hsend
      obtain ⟨heq, hfound⟩ := held_of_send hr hD hmay
      have hleft : held sid (⟨.web (.send y frame), r⟩ :: own (.node k) cfg.world.trace) = none := rfl
      rw [heq, hleft]
      cases hout : frame.output sid with
      | none =>
          have hgave : passedOn k x sid cfg.world.trace ⟨.node k, .web (.send y frame), r⟩ = [] := by
            cases r <;> simp [passedOn, hout]
          rw [hgave]
          exact .idle hstays
      | some data =>
          cases r with
          | false =>
              refine ⟨.inr ⟨⟨_, _, _, List.suffix_rfl, rfl, ?_⟩, rfl⟩, fun hd => ⟨hstays hd, rfl⟩⟩
              rw [heq, hout]
              rfl
          | true =>
              obtain ⟨n, conn, m, h', -, rfl, -, hown⟩ := hfound (by rw [hout]; rfl)
              have hget : (⟨.node k, .connections (.get cid), some conn⟩ : Ev Tid Resp)
                  ∈ cfg.world.trace := by
                rw [← mem_own, hown]
                exact List.mem_cons_self
              obtain rfl := hD.queue _ (drew_of_get hr hget)
              refine ⟨.inl (by simp [passedOn, hout]), fun hd => ?_⟩
              rw [silent_once_dropped hT hr hD hd hmay hexec] at hout
              cases hout
    · rw [passedOn_eq_nil fun y frame heq => hsend ⟨y, frame, heq⟩]
      cases hdrops : c.drops r with
      | true =>
          rw [held_of_drops hdrops]
          cases hheld : held sid (own (.node k) cfg.world.trace) with
          | none => exact .idle hstays
          | some data =>
              refine ⟨.inr ⟨⟨c, r, _, List.suffix_rfl, hdrops, ?_⟩, rfl⟩, fun hd => ⟨hstays hd, rfl⟩⟩
              rw [hheld]
              rfl
      | false =>
          rw [held_of_keeps hnext hdrops (fun y frame heq => hsend ⟨y, frame, heq⟩) ?_]
          · exact .idle hstays
          · intro key cid' n heq
            cases heq
            have hexec : exec S (.node k) (.tunnelSessions (.get key)) o cfg.world.state =
              some (some (cid', n), s) := hexec
            have hget := exec_tunnelSessions_answer hexec
            simp only [MapOp.answer, Option.some.injEq] at hget
            exact (opened_of_session hr key cid' n hget).1

end Relays

end Phirepass.Server
