/-
# `Phirepass.Server.Heartbeats` — which heartbeats keep a node registered

`cleanup_dangling_connections` removes a node whose `last_heartbeat` is more
than `CONNECTION_TIMEOUT` old.  `handle_node_heartbeat` sets that field last,
behind the write of the stats to Redis, and returns early when the write
fails.  So a node can send heartbeats all the time and be removed
(`failed_writes_evict`); it is the heartbeats that are *written* that count
(`written_beats_suffice`).

The handler holds the entry's `get_mut` guard from its first line to its
last, and `retain` waits for it; that is documented behaviour of the map and
stands as an assumption (`BeatsInTime.guarded`).
-/
import Phirepass.Interleave.Path
import Phirepass.Server.Identity
import Phirepass.Server.Registries

namespace Phirepass.Server

open Rust Interleave Prog

/-! ## When a heartbeat was heard -/

/-- The handler of a node is inside `handle_node_heartbeat` and holds the guard of `n`. -/
def beating (n : Uuid) : Hist Resp → Bool
  | ⟨.nodes (.get n'), found⟩ :: _ => found.isSome && n' == n
  | ⟨.now, _⟩ :: h | ⟨.node (.send _ (.heartbeatAck _ _)), _⟩ :: h
  | ⟨.memoryDb (.updateNodeStats _ _), true⟩ :: h => beating n h
  | _ => false

/-- The handler has just taken the guard. -/
def entering (n : Uuid) : Hist Resp → Bool
  | ⟨.nodes (.get n'), found⟩ :: _ => found.isSome && n' == n
  | _ => false

/-- When it had taken it, once the write has succeeded and the clock was read again. -/
def arrival : Hist Resp → Option Time
  | ⟨.now, _⟩ :: ⟨.memoryDb _, _⟩ :: ⟨.now, _⟩ :: ⟨.node _, _⟩ :: ⟨.now, t⟩ :: _ => some t
  | _ => none

/-- When the last heartbeat of `n` reached `handle_node_heartbeat`; the registration counts
as one. -/
def lastReached (n : Uuid) : List (Ev Tid Resp) → Option Time
  | [] => none
  | ⟨_, .nodes (.insert n' conn), _⟩ :: past =>
      if n' = n then some conn.node.connectedAt else lastReached n past
  | ⟨.node k, .now, t⟩ :: past =>
      if entering n (own (.node k) past) then some t else lastReached n past
  | _ :: past => lastReached n past

/-- When the last of those reached it whose stats were written. -/
def lastWritten (n : Uuid) : List (Ev Tid Resp) → Option Time
  | [] => none
  | ⟨_, .nodes (.insert n' conn), _⟩ :: past =>
      if n' = n then some conn.node.connectedAt else lastWritten n past
  | ⟨i, .nodes (.modify n' _), found⟩ :: past =>
      if n' = n ∧ found = true then arrival (own i past) else lastWritten n past
  | _ :: past => lastWritten n past

/-- The heartbeats that `last` tells of come less than the timeout apart, on a clock that does
not go back: whenever none is being handled, the last one is younger than that. -/
structure BeatsInTime (last : Uuid → List (Ev Tid Resp) → Option Time) (n : Uuid)
    (w : World State Tid Resp) (_ : Tid) (c : Cmd) (r : Resp c) : Prop where
  /-- `retain` waits for the guard of a heartbeat. -/
  guarded : ∀ p r', (⟨c, r⟩ : Sigma Resp) = ⟨.nodes (.removeIf n p), r'⟩ →
    ∀ k, beating n (own (.node k) w.trace) = false
  clock : ∀ around : Surroundings, (⟨c, r⟩ : Sigma Resp) = ⟨.environment, around⟩ →
    w.state.clock ≤ around.clock
  inTime : (w.state.nodes.lookup n).isSome = true →
    (∀ k, beating n (own (.node k) w.trace) = false) →
      ∃ t, last n w.trace = some t ∧ w.state.clock - t < CONNECTION_TIMEOUT

/-- The cleanup never removed `n`. -/
def NeverEvicted (n : Uuid) (tr : List (Ev Tid Resp)) : Prop :=
  ∀ i p, (⟨i, .nodes (.removeIf n p), true⟩ : Ev Tid Resp) ∉ tr

section Clock

variable {S : Setup} {A : Restriction} {rows : DashMap Uuid NodeRow} {users : List Uuid}
  {clock : Time} {cfg : Config State Tid Resp Label}
  {last : Uuid → List (Ev Tid Resp) → Option Time} {n : Uuid}

/-! ## The clock -/

theorem exec_clock {i : Tid} {c : Cmd} {o : Choice} {r : Resp c} {s s' : State}
    (h : exec S i c o s = some (r, s')) : s'.clock = s.clock ∨
      ∃ around : Surroundings, (⟨c, r⟩ : Sigma Resp) = ⟨.environment, around⟩ ∧
        s'.clock = around.clock := by
  cases c with
  | environment =>
      cases h
      exact .inr ⟨_, rfl, rfl⟩
  | ws op => cases op <;> cases h <;> exact .inl rfl
  | web | node | webWriter | nodeWriter | nodes | connections | tunnelSessions =>
      obtain ⟨x, -, hx⟩ := Option.map_eq_some_iff.1 h
      cases hx
      exact .inl rfl
  | memoryDb op =>
      simp only [exec] at h
      split at h
      · split at h <;> cases h <;> exact .inl rfl
      · cases h
        exact .inl rfl
  | newV4 =>
      simp only [exec] at h
      split at h
      · cases h
        exact .inl rfl
      · cases h
  | db | now | generateChallenge | decodeWebJwt | decodeNodeJwt | encodeNodeJwt | respond
  | finish =>
      cases h
      exact .inl rfl

/-- On a clock that does not go back, no time that was read is later than the clock. -/
theorem nows_le (hr : (machine S).Reach (BeatsInTime last n) (start rows users clock) cfg) :
    ∀ i t, (⟨i, .now, t⟩ : Ev Tid Resp) ∈ cfg.world.trace → t ≤ cfg.world.state.clock := by
  refine server_inv (fun w => ∀ i t, (⟨i, .now, t⟩ : Ev Tid Resp) ∈ w.trace → t ≤ w.state.clock)
    ?_ ?_ hr
  · exact fun _ _ hmem => nomatch hmem
  · intro cfg j c o r s _ hI _ hA hexec i t hmem
    rw [World.push_state]
    have hmono : cfg.world.state.clock ≤ s.clock := by
      rcases exec_clock hexec with hsame | ⟨around, heq, hclock⟩
      · exact Int.le_of_eq hsame.symm
      · rw [hclock]
        exact hA.clock around heq
    rcases List.mem_cons.1 hmem with heq | hmem
    · cases heq
      cases hexec
      exact Int.le_refl _
    · exact Int.le_trans (hI i t hmem) hmono

/-- Times are read in order. -/
theorem now_mono (hr : (machine S).Reach (BeatsInTime last n) (start rows users clock) cfg) {i j : Tid}
    {t t' : Time} {past : List (Ev Tid Resp)} (hs : ⟨i, .now, t⟩ :: past <:+ cfg.world.trace)
    (hmem : (⟨j, .now, t'⟩ : Ev Tid Resp) ∈ past) : t' ≤ t := by
  refine server_events (fun past e => ∀ i t, e = ⟨i, .now, t⟩ →
    ∀ j t', (⟨j, .now, t'⟩ : Ev Tid Resp) ∈ past → t' ≤ t) ?_ hr _ past hs i t rfl j t' hmem
  intro cfg i c o r s hr _ _ hexec i' t heq j t' hmem
  cases heq
  cases hexec
  exact nows_le hr j t' hmem

/-! ## The cleanup's time -/

/-- A node is evicted by a sweep, at the time it read when it began. -/
def EvictsAt (h : Hist Resp) : Cmd → Prop
  | .nodes (.removeIf _ p) => ∃ now, (⟨.now, now⟩ : Sigma Resp) ∈ h ∧
      p = fun conn => isStale now conn.node.lastHeartbeat
  | _ => True

/-- What the cleanup knows at its labels. -/
def SweepAt : Label → Hist Resp → Prop
  | .evictConnections now _ _, h | .evictNodes now _ _, h => ⟨.now, now⟩ ∈ h
  | .refresh, _ | .refreshConnections _ _, _ => True
  | _, _ => False

theorem sweep_body {h : Hist Resp} (l : Label) (hat : SweepAt l h) :
    (body S l).Conforms (Issues EvictsAt) SweepAt h := by
  cases l with
  | refresh =>
      refine conforms_call.2 ⟨trivial, fun now => conforms_call.2 ⟨trivial, fun begun => ?_⟩⟩
      exact List.mem_cons_of_mem _ List.mem_cons_self
  | evictConnections now begun visited =>
      refine conforms_call.2 ⟨trivial, fun met => ?_⟩
      match met with
      | some (cid, _) =>
          refine conforms_call.2 ⟨trivial, fun _ => ?_⟩
          exact List.mem_cons_of_mem _ (List.mem_cons_of_mem _ hat)
      | none =>
          refine conforms_call.2 ⟨trivial, fun _ => ?_⟩
          exact List.mem_cons_of_mem _ (List.mem_cons_of_mem _ hat)
  | evictNodes now begun visited =>
      refine conforms_call.2 ⟨trivial, fun met => ?_⟩
      match met with
      | some (id, _) =>
          refine conforms_call.2 ⟨⟨now, List.mem_cons_of_mem _ hat, rfl⟩, fun _ => ?_⟩
          exact List.mem_cons_of_mem _ (List.mem_cons_of_mem _ hat)
      | none => exact conforms_call.2 ⟨trivial, fun _ => trivial⟩
  | refreshConnections begun visited =>
      refine conforms_call.2 ⟨trivial, fun met => ?_⟩
      match met with
      | some (cid, conn) => exact conforms_call.2 ⟨trivial, fun _ => trivial⟩
      | none => trivial
  | _ => exact hat.elim

/-- The rules on the cleanup's task. -/
def sweepRules : Tid → Rules Resp
  | .refresh => Issues EvictsAt
  | _ => Issues fun _ _ => True

theorem sweep_follows : (machine S).Follows sweepRules
    (fun i => match i with | .refresh => SweepAt | _ => fun _ _ => True)
    (start rows users clock) where
  body i l h hat := by
    cases i with
    | refresh => exact sweep_body l hat
    | _ => exact conforms_does.mono fun _ _ _ => trivial
  start i := by
    cases i with
    | refresh => trivial
    | _ => trivial

theorem sweepRules_hears {i : Tid} {h : Hist Resp} {c : Cmd} {r : Resp c} :
    (sweepRules i).hears h c r := by
  cases i <;> trivial

/-- A node is removed for being stale by the cleanup. -/
theorem May.evicts {i : Tid} {h : Hist Resp} {p : NodeConnection → Bool}
    (hm : May S i h (.nodes (.removeIf n p))) : i = .refresh := by
  cases i with
  | refresh => rfl
  | node k => cases hm with | login _ hc | loop _ _ hc | close _ _ hc => cases hc
  | web j => rcases hm with hc | ⟨_, -, hc⟩ <;> cases hc
  | request r =>
      cases hm with
      | create _ hc | verify _ hc | heartbeat _ hc => cases hc
  | _ => cases hm

/-! ## Entries -/

/-- A new entry was heard of when it was connected. -/
theorem May.registers {i : Tid} {h : Hist Resp} {conn : NodeConnection}
    (hm : May S i h (.nodes (.insert n conn))) :
    conn.node.connectedAt = conn.node.lastHeartbeat := by
  obtain ⟨k, rfl, hm⟩ := hm.byNode rfl
  cases hm with
  | login hj hc =>
      cases hc with
      | insert ha => rfl
  | loop _ _ hc | close _ _ hc => cases hc

/-- An entry is changed in place at the end of a heartbeat, to the time read last. -/
theorem May.beats {i : Tid} {h : Hist Resp} {f : NodeConnection → NodeConnection}
    (hm : May S i h (.nodes (.modify n f))) :
    ∃ t now h', arrival h = some t ∧ h = ⟨.now, now⟩ :: h' ∧ (⟨.now, t⟩ : Sigma Resp) ∈ h' ∧
      ∀ conn, (f conn).node.lastHeartbeat = now := by
  obtain ⟨k, rfl, hm⟩ := hm.byNode rfl
  cases hm with
  | loop _ _ hc =>
      cases hc with
      | beat => exact ⟨_, _, _, rfl, rfl, by simp, fun _ => rfl⟩
  | login _ hc | close _ _ hc => cases hc

theorem lastWritten_cons {i : Tid} {c : Cmd} {r : Resp c} {tr : List (Ev Tid Resp)}
    (hinsert : ∀ conn, c ≠ .nodes (.insert n conn)) (hmodify : ∀ f, c ≠ .nodes (.modify n f)) :
    lastWritten n (⟨i, c, r⟩ :: tr) = lastWritten n tr := by
  cases c with
  | nodes op =>
      cases op with
      | insert n' conn => exact if_neg fun hn => hinsert conn (by rw [hn])
      | modify n' f => exact if_neg fun hn => hmodify f (by rw [hn.1])
      | _ => rfl
  | _ => rfl

/-- **The entry is as fresh as the last written heartbeat.** -/
theorem lastWritten_le (hr : (machine S).Reach (BeatsInTime last n) (start rows users clock) cfg) :
    ∀ conn t, cfg.world.state.nodes.lookup n = some conn → lastWritten n cfg.world.trace = some t →
      t ≤ conn.node.lastHeartbeat := by
  refine server_inv (fun w => ∀ conn t, w.state.nodes.lookup n = some conn →
    lastWritten n w.trace = some t → t ≤ conn.node.lastHeartbeat) ?_ ?_ hr
  · exact fun _ _ hlook _ => nomatch hlook
  · intro cfg i c o r s hr hI hmay _ hexec conn t hlook hlast
    rw [World.push_state, (exec_effect hexec).nodes] at hlook
    rw [World.push_trace] at hlast
    by_cases hinsert : ∃ conn', c = .nodes (.insert n conn')
    · obtain ⟨conn', rfl⟩ := hinsert
      rw [Cmd.nodesAfter, MapOp.apply, AList.lookup_insert] at hlook
      cases hlook
      rw [lastWritten, if_pos rfl] at hlast
      cases hlast
      exact Int.le_of_eq hmay.registers
    by_cases hmodify : ∃ f, c = .nodes (.modify n f)
    · obtain ⟨f, rfl⟩ := hmodify
      obtain ⟨t', now, h', harrival, hown, hmem, hf⟩ := hmay.beats
      have hanswer := exec_nodes_answer hexec
      cases hanswer
      simp only [Cmd.nodesAfter, MapOp.apply] at hlook
      split at hlook
      · next old hold =>
          rw [AList.lookup_insert] at hlook
          cases hlook
          rw [lastWritten, hold, if_pos ⟨rfl, rfl⟩, harrival] at hlast
          cases hlast
          rw [hf]
          obtain ⟨past, hpast, rfl⟩ := exists_past_of_own (by rw [hown])
          exact now_mono hr hpast (mem_own.1 hmem)
      · next hnone =>
          rw [hnone] at hlook
          cases hlook
    · rw [lastWritten_cons (fun conn' heq => hinsert ⟨conn', heq⟩)
        (fun f heq => hmodify ⟨f, heq⟩)] at hlast
      refine hI conn t ?_ hlast
      cases c with
      | nodes op =>
          rcases MapOp.lookup_apply hlook with hold | rfl | ⟨f, old, rfl, -, -⟩
          · exact hold
          · exact absurd ⟨_, rfl⟩ hinsert
          · exact absurd ⟨_, rfl⟩ hmodify
      | _ => exact hlook

theorem evicted_by_refresh (hr : (machine S).Reach A (start rows users clock) cfg) {i : Tid}
    {p : NodeConnection → Bool} {r : Bool}
    (hmem : (⟨i, .nodes (.removeIf n p), r⟩ : Ev Tid Resp) ∈ cfg.world.trace) : i = .refresh := by
  obtain ⟨past, hs⟩ := exists_past hmem
  refine server_events (fun _ e => ∀ i p r, e = ⟨i, .nodes (.removeIf n p), r⟩ → i = .refresh)
    ?_ hr _ past hs i p r rfl
  intro cfg i c o r s _ hmay _ _ i p r heq
  cases heq
  exact hmay.evicts

theorem stale_iff {now t : Int} : isStale now t = true ↔ CONNECTION_TIMEOUT < now - t := by
  unfold isStale durationSince
  by_cases hle : t ≤ now
  · rw [if_pos hle]
    exact decide_eq_true_iff
  · rw [if_neg hle]
    constructor
    · intro h
      cases h
    · intro h
      have hlt : now < t := Int.not_le.1 hle
      unfold CONNECTION_TIMEOUT at h
      omega

/-- **Written heartbeats suffice.**  In every run in which the heartbeats of a node whose stats
are written come less than the timeout apart, the cleanup does not remove the node. -/
theorem written_beats_suffice
    (hr : (machine S).Reach (BeatsInTime lastWritten n) (start rows users clock) cfg) :
    NeverEvicted n cfg.world.trace := by
  intro i p hmem
  obtain ⟨past, hs⟩ := exists_past hmem
  obtain rfl := evicted_by_refresh hr hmem
  refine hr.events sweep_follows (fun _ _ _ _ _ => sweepRules_hears)
    (fun past e => ∀ p, e ≠ ⟨.refresh, .nodes (.removeIf n p), true⟩) rfl ?_ _ past hs p rfl
  intro cfg i c o r s hr hmay hA hexec p heq
  cases heq
  obtain ⟨now, hnow, rfl⟩ := hmay
  have hanswer : (MapOp.removeIf n fun conn => isStale now conn.node.lastHeartbeat).answer
      cfg.world.state.nodes o.pick = some true := exec_nodes_answer (S := S) (i := .refresh) hexec
  cases hlook : cfg.world.state.nodes.lookup n with
  | none =>
      rw [MapOp.answer, hlook] at hanswer
      cases hanswer
  | some conn =>
      rw [MapOp.answer, hlook, Option.any_some, Option.some.injEq] at hanswer
      -- no heartbeat is under way, so the last written one is young
      obtain ⟨t, hlast, hyoung⟩ := hA.inTime (by rw [hlook]; rfl) (hA.guarded _ _ rfl)
      have hfresh := lastWritten_le hr conn t hlook hlast
      have hpast := nows_le hr _ now (mem_own.1 hnow)
      have hstale := stale_iff.1 hanswer
      have hle := Int.lt_of_lt_of_le hstale (Int.sub_le_sub hpast hfresh)
      exact Int.lt_irrefl _ (Int.lt_trans hle hyoung)

end Clock

/-! ## Writes that succeed, and writes that fail -/

/-- Whether no heartbeat of `n` is being handled. -/
def restful (n : Uuid) (tr : List (Ev Tid Resp)) : Bool :=
  tr.all fun e => match e.tid with
    | .node k => !beating n (own (.node k) tr)
    | _ => true

theorem restful_iff {n : Uuid} {tr : List (Ev Tid Resp)} :
    restful n tr = true ↔ ∀ k, beating n (own (.node k) tr) = false := by
  constructor
  · intro h k
    cases hown : own (.node k) tr with
    | nil => rfl
    | cons e h' =>
        obtain ⟨c, r⟩ := e
        have hmem : (⟨.node k, c, r⟩ : Ev Tid Resp) ∈ tr := by
          rw [← mem_own, hown]
          exact List.mem_cons_self
        have hall := List.all_eq_true.1 h _ hmem
        rw [← hown]
        simpa using hall
  · intro h
    refine List.all_eq_true.2 fun e _ => ?_
    split
    · next k _ => rw [h k, Bool.not_false]
    · rfl

/-- Whether a step respects the guards and the clock. -/
def guardKept (n : Uuid) (w : World State Tid Resp) : (c : Cmd) → Resp c → Bool
  | .nodes (.removeIf n' _), _ => n' != n || restful n w.trace
  | .environment, around => decide (w.state.clock ≤ around.clock)
  | _, _ => true

/-- Whether a step meets `BeatsInTime`. -/
def inTime (last : Uuid → List (Ev Tid Resp) → Option Time) (n : Uuid) (w : World State Tid Resp)
    (_ : Tid) (c : Cmd) (r : Resp c) : Bool :=
  guardKept n w c r && ((w.state.nodes.lookup n).isNone || !restful n w.trace ||
    (last n w.trace).any fun t => decide (w.state.clock - t < CONNECTION_TIMEOUT))

theorem inTime_sound (last : Uuid → List (Ev Tid Resp) → Option Time) (n : Uuid)
    (w : World State Tid Resp) (i : Tid) (c : Cmd) (r : Resp c) (h : inTime last n w i c r = true) :
    BeatsInTime last n w i c r := by
  rw [inTime, Bool.and_eq_true] at h
  obtain ⟨hstep, hyoung⟩ := h
  refine ⟨?_, ?_, fun hsome hrest => ?_⟩
  · intro p r' heq
    cases heq
    rw [← restful_iff]
    simpa [guardKept] using hstep
  · intro around heq
    cases heq
    exact of_decide_eq_true hstep
  · rw [restful_iff.2 hrest, Option.isNone_eq_false_iff.2 hsome] at hyoung
    cases hlast : last n w.trace with
    | none =>
        rw [hlast] at hyoung
        cases hyoung
    | some t =>
        rw [hlast] at hyoung
        exact ⟨t, rfl, of_decide_eq_true hyoung⟩

def sampleStats : Stats :=
  ⟨0, "1", 8, 0, 0, 0, "host-a", "192.168.1.2", "00:00:5e:00:53:01", 0, 0, 0, 0, (0, 0, 0), "Linux",
    0, 0⟩

/-- The time becomes `t` milliseconds. -/
def waitUntil (t : Time) : List (Tid × Choice) :=
  idle .environment 1 ++ [(.environment, { around := ⟨t, sampleRows, [1, 2]⟩ })]

/-- Socket `0` sends a heartbeat; whether the write to Redis fails. -/
def sendBeat (fail : Bool) : List (Tid × Choice) :=
  idle (.node 0) 1 ++ [(.node 0, fromNode (.heartbeat sampleStats 0))] ++ idle (.node 0) 4 ++
    [(.node 0, { fail := fail })]

/-- The cleanup looks at node `10`. -/
def sweepNode : List (Tid × Choice) :=
  idle .refresh 7 ++ [(.refresh, { pick := some 10 })] ++ idle .refresh 1

/-- Node `10` sends a heartbeat after 100 s, which is written, and the cleanup comes after
another 100 s. -/
def writtenSchedule : List (Tid × Choice) :=
  nodeLogin 0 10 ++ waitUntil 1100000 ++ sendBeat false ++ idle (.node 0) 2 ++ waitUntil 1200000 ++
    sweepNode

theorem written_beats_suffice_of_beat :
    ∃ cfg, (machine (sample loginRequests)).Reach (BeatsInTime lastWritten 10) sampleStart cfg ∧
      cfg.world.state.clock = 1200000 ∧ NeverEvicted 10 cfg.world.trace := by
  have hrun : ((machine (sample loginRequests)).run (inTime lastWritten 10) writtenSchedule
      sampleStart).any (fun cfg => decide (cfg.world.state.clock = 1200000)) = true := by
    decide +kernel
  obtain ⟨cfg, hr, hclock⟩ := Machine.reach_of_run (inTime_sound lastWritten 10) hrun
  exact ⟨cfg, hr, of_decide_eq_true hclock, written_beats_suffice hr⟩

/-- The same with a write that fails; the cleanup comes 30 s after it. -/
def failedSchedule : List (Tid × Choice) :=
  nodeLogin 0 10 ++ waitUntil 1100000 ++ sendBeat true ++ waitUntil 1130000 ++ sweepNode

/-- Node `10` was just evicted. -/
def evictsTen : List (Ev Tid Resp) → Bool
  | ⟨_, .nodes (.removeIf 10 _), true⟩ :: _ => true
  | _ => false

/-- **Failed writes evict.**  A node whose heartbeats all come in time is removed. -/
theorem failed_writes_evict :
    ¬ ∀ cfg, (machine (sample loginRequests)).Reach (BeatsInTime lastReached 10) sampleStart cfg →
      NeverEvicted 10 cfg.world.trace := by
  have hrun : ((machine (sample loginRequests)).run (inTime lastReached 10) failedSchedule
      sampleStart).any (fun cfg => evictsTen cfg.world.trace) = true := by
    decide +kernel
  obtain ⟨cfg, hr, hend⟩ := Machine.reach_of_run (inTime_sound lastReached 10) hrun
  intro hall
  unfold evictsTen at hend
  split at hend
  · next i p past htrace =>
      refine hall cfg hr i p ?_
      rw [htrace]
      exact List.mem_cons_self
  · cases hend

end Phirepass.Server
