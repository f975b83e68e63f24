/-
# `Phirepass.Server.Unbinding` — a session that was reported closed is not bound any more

The handler of a node answers what it reads before it reads on, and to a
`TunnelClosed` it answers by taking the binding of the session away first:

    read        `TunnelClosed` for the session
    removed     the binding of the node and the session
    answered    the client looked up, and told if it is there

So once it is done with the frame (`Handled`) the binding has been removed.
If there is one again, the node has reported the session open behind that
(`reopened_of_bound`).
-/
import Phirepass.Server.Relays

namespace Phirepass.Server

open Rust Interleave

/-- The handler of socket `k` has read the frame `g`, and is done with it. -/
def Handled (tr : List (Ev Tid Resp)) (k : Nat) (g : NodeFrameData) : Prop :=
  ∃ m h, m.nodeFrame? = some g ∧ h <:+ own (.node k) tr ∧ (⟨.ws .next, m⟩ : Sigma Resp) ∈ h ∧
    unanswered h = none

/-- Behind the message `m`, the handler has removed the binding of its node and the session `sid`. -/
def Unbound (m : Incoming) (sid : UInt32) (h : Hist Resp) : Prop :=
  ∃ n conn r r' h', (⟨.nodes (.insert n conn), r⟩ : Sigma Resp) ∈ h ∧
    ⟨.tunnelSessions (.remove ⟨n, sid⟩), r'⟩ :: h' <:+ h ∧ (⟨.ws .next, m⟩ : Sigma Resp) ∈ h'

/-- A session that was reported closed has been unbound, or is about to be. -/
def Unbinds (h : Hist Resp) : Prop :=
  ∀ m protocol cid sid msgId, (⟨.ws .next, m⟩ : Sigma Resp) ∈ h →
    m.nodeFrame? = some (.tunnelClosed protocol cid sid msgId) →
    unanswered h = some (.tunnelClosed protocol cid sid msgId) ∨ Unbound m sid h

section History

variable {S : Setup} {k : Nat} {n cid : Uuid} {h h' : Hist Resp} {c : Cmd} {r : Resp c}
  {m : Incoming} {sid : UInt32} {protocol : UInt8} {msgId : Option UInt32}

theorem Unbound.mono (hs : h <:+ h') (hu : Unbound m sid h) : Unbound m sid h' := by
  obtain ⟨n, conn, r, r', h₁, hreg, hremove, hin⟩ := hu
  exact ⟨n, conn, r, r', h₁, hs.subset hreg, hremove.trans hs, hin⟩

/-- The command may answer what was read. -/
def Cmd.answers : Cmd → Bool
  | .ws .next | .connections (.get _) | .web (.send _ _) | .tunnelSessions (.get _) => true
  | _ => false

theorem unanswered_cons (hc : c.answers = false) : unanswered (⟨c, r⟩ :: h) = unanswered h := by
  cases c with
  | ws op | connections op | web op | tunnelSessions op =>
      cases op <;> first | rfl | cases hc
  | _ => rfl

/-- Whoever is looked up when a `TunnelClosed` is unanswered, the session has been removed. -/
theorem Notifies.closes {cid' : Uuid} {frame : WebFrameData} (hn : Notifies n h cid' frame)
    (hopen : unanswered h = some (.tunnelClosed protocol cid sid msgId)) :
    ∃ r m h', h = ⟨.tunnelSessions (.remove ⟨n, sid⟩), r⟩ :: ⟨.ws .next, m⟩ :: h' := by
  cases hn with
  | closed hm =>
      simp only [unanswered, hm, Option.bind_some, routed, Option.some.injEq,
        NodeFrameData.tunnelClosed.injEq] at hopen
      obtain ⟨-, -, rfl, -⟩ := hopen
      exact ⟨_, _, _, rfl⟩
  | opened hm | byConnection hm | bySession hm =>
      simp [unanswered, hm, routed] at hopen

/-- A `TunnelClosed` is answered when its session has been removed. -/
theorem NodeMay.unbinds (hm : NodeMay S k h c) (hclosing : Looping h ∨ unanswered h = none)
    (hc : c.answers = true) (hopen : unanswered h = some (.tunnelClosed protocol cid sid msgId)) :
    ∃ n r h', Serving k n h ∧ ⟨.tunnelSessions (.remove ⟨n, sid⟩), r⟩ :: h' <:+ h ∧
      ∀ m, (⟨.ws .next, m⟩ : Sigma Resp) ∈ h → (⟨.ws .next, m⟩ : Sigma Resp) ∈ h' := by
  cases hm with
  | login _ hl =>
      cases hl with
      | next => cases hopen
      | _ => cases hc
  | close hs hcl _ =>
      obtain ⟨h', hsuf, -⟩ := hcl
      rcases hclosing with hl | hnone
      · exact absurd (hsuf.subset List.mem_cons_self) (hl k ())
      · rw [hnone] at hopen
        cases hopen
  | @loop n hs _ hl =>
      cases hl with
      | next hdone =>
          rw [hdone] at hopen
          cases hopen
      | connection hn =>
          obtain ⟨r, m, h', rfl⟩ := hn.closes hopen
          refine ⟨n, r, _, hs, List.suffix_rfl, fun m' hmem => ?_⟩
          exact (List.mem_cons.1 hmem).resolve_left fun heq => nomatch heq
      | notify hn =>
          obtain ⟨r, m, h', rfl⟩ := hn.closes hopen
          refine ⟨n, r, _, hs, List.suffix_cons _ _, fun m' hmem => ?_⟩
          have hmem := (List.mem_cons.1 hmem).resolve_left fun heq => nomatch heq
          exact (List.mem_cons.1 hmem).resolve_left fun heq => nomatch heq
      | lookup hm =>
          rw [unanswered_of_read hm] at hopen
          cases hopen
      | _ => cases hc

/-- **One command** leaves no session behind that was reported closed. -/
theorem Unbinds.step (hm : NodeMay S k h c) (hclosing : Looping h ∨ unanswered h = none)
    (hI : Unbinds h) : Unbinds (⟨c, r⟩ :: h) := by
  intro m protocol cid sid msgId hmem hread
  have hkept (hu : Unbound m sid h) : Unbound m sid (⟨c, r⟩ :: h) := hu.mono (List.suffix_cons _ _)
  rcases List.mem_cons.1 hmem with heq | hin
  · -- it has just been read
    cases heq
    exact .inl (unanswered_of_read hread)
  · rcases hI m protocol cid sid msgId hin hread with hopen | hu
    · cases hc : c.answers with
      | false => exact .inl ((unanswered_cons hc).trans hopen)
      | true =>
          obtain ⟨n, r', h', hs, hremove, hbehind⟩ := hm.unbinds hclosing hc hopen
          obtain ⟨conn, r₀, hreg, -⟩ := hs.registered
          exact .inr (hkept ⟨n, conn, r₀, r', h', hreg, hremove, hbehind m hin⟩)
    · exact .inr (hkept hu)

end History

section Unbinding

variable {S : Setup} {A : Restriction} {rows : DashMap Uuid NodeRow} {users : List Uuid}
  {clock : Time} {cfg : Config State Tid Resp Label} {k : Nat} {n cid : Uuid} {sid : UInt32}
  {protocol : UInt8} {msgId : Option UInt32}

/-- It holds of all a handler has gone through. -/
theorem unbinds (hr : (machine S).Reach A (start rows users clock) cfg) (k : Nat) :
    ∀ h, h <:+ own (.node k) cfg.world.trace → Unbinds h := by
  refine server_inv (fun w => ∀ h, h <:+ own (.node k) w.trace → Unbinds h) ?_ ?_ hr
  · intro h hs _ _ _ _ _ hmem
    rw [List.suffix_nil.1 hs] at hmem
    cases hmem
  · intro cfg i c o r s hr hI hmay _ _ h hs
    rw [World.push_trace] at hs
    by_cases hi : i = .node k
    · subst hi
      rw [own_cons_self] at hs
      rcases List.suffix_cons_iff.1 hs with rfl | hs
      · exact (hI _ List.suffix_rfl).step hmay (unanswered_of_closing hr k)
      · exact hI h hs
    · rw [own_cons_of_ne hi] at hs
      exact hI h hs

/-- **Once it is done with a `TunnelClosed`**, the handler has removed the binding behind it. -/
theorem unbound_of_handled (hr : (machine S).Reach A (start rows users clock) cfg)
    (hreg : Registered cfg.world.trace k n)
    (hdone : Handled cfg.world.trace k (.tunnelClosed protocol cid sid msgId)) :
    ∃ m r past, m.nodeFrame? = some (.tunnelClosed protocol cid sid msgId) ∧
      ⟨.node k, .tunnelSessions (.remove ⟨n, sid⟩), r⟩ :: past <:+ cfg.world.trace ∧
      (⟨.node k, .ws .next, m⟩ : Ev Tid Resp) ∈ past := by
  obtain ⟨m, h, hm, hs, hin, hnone⟩ := hdone
  rcases unbinds hr k h hs m protocol cid sid msgId hin hm with hopen | hu
  · rw [hnone] at hopen
    cases hopen
  · obtain ⟨n', conn, r, r', h', hinsert, hremove, hin'⟩ := hu
    obtain rfl := registered_unique hr hreg ⟨conn, r, mem_own.1 (hs.subset hinsert)⟩
    obtain ⟨past, hpast, rfl⟩ := exists_past_of_own (hremove.trans hs)
    exact ⟨m, r', past, hm, hpast, mem_own.1 hin'⟩

/-- **A session its handler has unbound**, and that is open over its socket again, the handler has
read to be open since. -/
theorem reopened_of_bound (hr : (machine S).Reach A (start rows users clock) cfg)
    {key : TunnelSessionKey} {r : Option (Uuid × Uuid)} {past : List (Ev Tid Resp)}
    (hs : ⟨.node k, .tunnelSessions (.remove key), r⟩ :: past <:+ cfg.world.trace)
    (hover : openedOver key cfg.world.trace = some k) :
    ∃ m protocol cid msgId before, ⟨.node k, .ws .next, m⟩ :: before <:+ cfg.world.trace ∧
      m.nodeFrame? = some (.tunnelOpened protocol cid key.sid msgId) ∧ past <:+ before := by
  have hgone : openedOver key (⟨.node k, .tunnelSessions (.remove key), r⟩ :: past) ≠ some k := by
    simp [openedOver]
  obtain ⟨v, r', before, hbehind, hinsert⟩ := inserted_since hs hgone hover
  have hbefore := (List.suffix_cons _ _).trans hinsert
  obtain ⟨k', n', m, protocol, cid, sid, msgId, h', heq, -, rfl, -, hown, hm⟩ :=
    (may_of_event hr hinsert).bind
  cases heq
  have hlast : ⟨.ws .next, m⟩ :: h' <:+ own (.node k) before := by rw [hown]
  obtain ⟨read, hread, hownRead⟩ := exists_past_of_own hlast
  refine ⟨m, protocol, cid, msgId, read, hread.trans hbefore, hm, ?_⟩
  -- what comes right before the binding is the reading, not the removal
  have hremove := own_suffix (.node k) hbehind
  rw [own_cons_self, hown, ← hownRead] at hremove
  refine (List.suffix_cons _ _).trans (suffix_of_own hs ((List.suffix_cons _ _).trans
    (hread.trans hbefore)) ((List.suffix_cons_iff.1 hremove).resolve_left fun heq => ?_))
  cases heq

end Unbinding

end Phirepass.Server
