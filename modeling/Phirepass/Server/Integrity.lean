/-
# `Phirepass.Server.Integrity` — every session belongs to a registered node

`disconnect_node` unregisters a node and then closes the sessions it finds for
it, one by one, with other tasks in between.  While it does, the sessions it
has still to close are the ones without a node; `Sweep.Owes` names them, from
the handler's own history.  So in a state in which no `disconnect_node` is
under way every session has its node (`sessions_registered`), whatever the
order in which sockets come, go and replace each other, as long as

    the cleanup evicts no node that has sessions, and
    TunnelOpened is handled only while its node is registered.

The code checks neither.  `eviction_leaves_sessions` is a run in which the
cleanup evicts a silent node and its session stays.
-/
import Phirepass.Server.Identity
import Phirepass.Server.Registries

namespace Phirepass.Server

open Rust Interleave

/-! ## Sessions of registered nodes -/

/-- The handler of socket `k` is in `disconnect_node`. -/
def Disconnecting (tr : List (Ev Tid Resp)) (k : Nat) : Prop :=
  (∃ n r, (⟨.node k, .nodes (.remove n), r⟩ : Ev Tid Resp) ∈ tr) ∧
    (⟨.node k, .finish, ()⟩ : Ev Tid Resp) ∉ tr

/-- Every session is one of a registered node. -/
def State.SessionsRegistered (s : State) : Prop :=
  ∀ key, (s.tunnelSessions.lookup key).isSome = true → (s.nodes.lookup key.nodeId).isSome = true

/-- What the code leaves to luck: a node the cleanup evicts has no sessions, and a session is
entered while its node is registered. -/
structure NodesOutlive (w : World State Tid Resp) (i : Tid) (c : Cmd) (r : Resp c) : Prop where
  evicted : ∀ n stale conn sid, c = .nodes (.removeIf n stale) →
    w.state.nodes.lookup n = some conn → stale conn = true →
      w.state.tunnelSessions.lookup ⟨n, sid⟩ = none
  opened : ∀ key value, c = .tunnelSessions (.insert key value) →
    (w.state.nodes.lookup key.nodeId).isSome = true

/-! ## What a handler has still to close -/

def Sweep.Owes (key : TunnelSessionKey) : Sweep → Prop
  | .idle => False
  | .begun n => key.nodeId = n
  | .walking n start _ _ => key.nodeId = n ∧ key ∈ start
  | .closing todo => ∃ value, (key, value) ∈ todo

/-- The walk collects every session of the node that it meets. -/
theorem found_of_visited {n : Uuid} {start visited : List TunnelSessionKey}
    {found : List (TunnelSessionKey × Uuid × Uuid)} {key : TunnelSessionKey} :
    ∀ {h : Hist Resp}, sweepOf h = .walking n start visited found → key ∈ visited →
      key.nodeId = n → ∃ value, (key, value) ∈ found := by
  intro h
  induction h generalizing visited found with
  | nil =>
      intro hsweep
      cases hsweep
  | cons e h ih =>
      intro hsweep hvisited hnode
      obtain ⟨c, r⟩ := e
      rw [sweepOf] at hsweep
      unfold Sweep.after at hsweep
      split at hsweep
      all_goals try cases hsweep
      · cases hvisited
      · next key' value hold =>
          rcases List.mem_cons.1 hvisited with rfl | hvisited
          · rw [if_pos hnode]
            exact ⟨value, List.mem_append_right _ List.mem_cons_self⟩
          · obtain ⟨value', hmem⟩ := ih hold hvisited hnode
            split
            · exact ⟨value', List.mem_append_left _ hmem⟩
            · exact ⟨value', hmem⟩
      · exact ih hsweep hvisited hnode

/-- A sweep begins with unregistering a node. -/
theorem removed_of_sweep :
    ∀ {h : Hist Resp}, sweepOf h ≠ .idle → ∃ n r, (⟨.nodes (.remove n), r⟩ : Sigma Resp) ∈ h := by
  intro h
  induction h with
  | nil =>
      intro hsweep
      exact absurd rfl hsweep
  | cons e h ih =>
      intro hsweep
      obtain ⟨c, r⟩ := e
      have hold (hne : sweepOf h ≠ .idle) :
          ∃ n r', (⟨.nodes (.remove n), r'⟩ : Sigma Resp) ∈ ⟨c, r⟩ :: h := by
        obtain ⟨n, r', hmem⟩ := ih hne
        exact ⟨n, r', List.mem_cons_of_mem _ hmem⟩
      rw [sweepOf] at hsweep
      unfold Sweep.after at hsweep
      split at hsweep
      · exact absurd rfl hsweep
      · exact ⟨_, _, List.mem_cons_self⟩
      · next heq => exact hold (by simp [heq])
      · next heq => exact hold (by simp [heq])
      · next heq => exact hold (by simp [heq])
      · next heq => exact hold (by simp [heq])
      · exact hold hsweep

section Owes

variable {S : Setup} {i : Tid} {o : Choice} {s s' : State} {n : Uuid} {h : Hist Resp} {c : Cmd}
  {r : Resp c} {key : TunnelSessionKey}

/-- A step of `disconnect_node` leaves the handler owing every session it owed that is still
there; so it does not end before they are gone. -/
theorem owes_after (hc : NodeClose n h c) (hexec : exec S i c o s = some (r, s'))
    (hkey : (s'.tunnelSessions.lookup key).isSome = true) (howes : (sweepOf h).Owes key) :
    (sweepOf (⟨c, r⟩ :: h)).Owes key ∧ c ≠ .finish := by
  have heffect := exec_effect hexec
  cases hc with
  | remove hsweep =>
      rw [hsweep] at howes
      exact howes.elim
  | memoryDb => exact ⟨howes, fun hc => by cases hc⟩
  | keys hsweep =>
      refine ⟨?_, fun hc => by cases hc⟩
      have hans := exec_tunnelSessions_answer hexec
      simp only [MapOp.answer, Option.some.injEq] at hans
      subst hans
      rw [heffect.tunnelSessions] at hkey
      rw [hsweep] at howes
      rw [sweepOf, hsweep]
      exact ⟨howes, AList.mem_keys.1 (AList.lookup_isSome.1 hkey)⟩
  | @walk _ start visited found hsweep =>
      refine ⟨?_, fun hc => by cases hc⟩
      have hans := exec_tunnelSessions_answer hexec
      rw [heffect.tunnelSessions] at hkey
      rw [hsweep] at howes
      rw [sweepOf, hsweep]
      cases r with
      | some met => exact howes
      | none =>
          -- the walk ends when every session that was there at its start and still is was met
          have hvisited : key ∈ visited := by
            simp only [MapOp.answer] at hans
            split at hans
            · split at hans
              · cases hans
              · simp at hans
            · split at hans
              · next hall => exact hall key howes.2 (AList.mem_keys.1 (AList.lookup_isSome.1 hkey))
              · cases hans
          exact found_of_visited hsweep hvisited howes.1
  | @unbind _ key' value todo _ hsweep =>
      refine ⟨?_, fun hc => by cases hc⟩
      rw [heffect.tunnelSessions] at hkey
      rw [hsweep] at howes
      rw [sweepOf, hsweep]
      obtain ⟨value', hmem⟩ := howes
      rcases List.mem_cons.1 hmem with heq | hmem
      · cases heq
        simp [Cmd.tunnelSessionsAfter, MapOp.apply] at hkey
      · exact ⟨value', hmem⟩
  | connection | notify => exact ⟨howes, fun hc => by cases hc⟩
  | finish hsweep =>
      rcases hsweep with hsweep | hsweep
      · rw [hsweep] at howes
        exact howes.elim
      · rw [hsweep] at howes
        obtain ⟨value, hmem⟩ := howes
        cases hmem

end Owes

/-! ## The invariant -/

section Integrity

variable {S : Setup} {rows : DashMap Uuid NodeRow} {users : List Uuid} {clock : Time}
  {cfg : Config State Tid Resp Label}

/-- A handler unregisters its node after its loop. -/
theorem not_looping_of_removed {A : Restriction}
    (hr : (machine S).Reach A (start rows users clock) cfg) {k : Nat} {n : Uuid}
    {r : Option NodeConnection}
    (hmem : (⟨.node k, .nodes (.remove n), r⟩ : Ev Tid Resp) ∈ cfg.world.trace) :
    ¬ Looping (own (.node k) cfg.world.trace) := by
  obtain ⟨past, hsuf⟩ := exists_past hmem
  have hclosing := server_events (fun past e => ∀ k n r, e = ⟨.node k, .nodes (.remove n), r⟩ →
    Closing k n (own (.node k) past)) ?_ hr _ past hsuf k n r rfl
  · obtain ⟨h', habort, -⟩ := hclosing
    have hpast := own_suffix (.node k) ((List.suffix_cons _ _).trans hsuf)
    intro hloop
    exact hloop k () (hpast.subset (habort.subset List.mem_cons_self))
  · intro cfg i c o r s _ hmay _ _ k n r' heq
    cases heq
    obtain ⟨k', heq, -, hcl⟩ := hmay.unregister
    cases heq
    exact hcl

/-- The handler of socket `k` has the session still to close. -/
def Owed (tr : List (Ev Tid Resp)) (key : TunnelSessionKey) (k : Nat) : Prop :=
  (sweepOf (own (.node k) tr)).Owes key ∧ (⟨.node k, .finish, ()⟩ : Ev Tid Resp) ∉ tr

theorem Owed.disconnecting {tr : List (Ev Tid Resp)} {key : TunnelSessionKey} {k : Nat}
    (h : Owed tr key k) : Disconnecting tr k := by
  refine ⟨?_, h.2⟩
  have hne : sweepOf (own (.node k) tr) ≠ .idle := by
    intro hidle
    have howes := h.1
    rw [hidle] at howes
    exact howes
  obtain ⟨n, r, hmem⟩ := removed_of_sweep hne
  exact ⟨n, r, mem_own.1 hmem⟩

/-- A session that is owed stays owed for as long as it is there. -/
theorem owed_push {A : Restriction} (hr : (machine S).Reach A (start rows users clock) cfg) {i : Tid}
    {c : Cmd} {o : Choice} {r : Resp c} {s : State} {key : TunnelSessionKey} {k : Nat}
    (hmay : May S i (own i cfg.world.trace) c) (hexec : exec S i c o cfg.world.state = some (r, s))
    (hkey : (s.tunnelSessions.lookup key).isSome = true) (h : Owed cfg.world.trace key k) :
    Owed (cfg.world.push i c r s).trace key k := by
  rw [World.push_trace]
  by_cases hi : i = .node k
  · subst hi
    obtain ⟨⟨n, r', hmem⟩, -⟩ := h.disconnecting
    have hout := not_looping_of_removed hr hmem
    have hclose : ∃ n, NodeClose n (own (.node k) cfg.world.trace) c := by
      cases hmay with
      | login hj _ => exact absurd hj.looping hout
      | loop _ hl _ => exact absurd hl hout
      | close _ _ hc => exact ⟨_, hc⟩
    obtain ⟨n, hc⟩ := hclose
    obtain ⟨howes, hne⟩ := owes_after hc hexec hkey h.1
    refine ⟨?_, ?_⟩
    · rw [own_cons_self]
      exact howes
    · intro hfin
      rcases List.mem_cons.1 hfin with heq | hfin
      · cases heq
        exact hne rfl
      · exact h.2 hfin
  · refine ⟨?_, ?_⟩
    · rw [own_cons_of_ne hi]
      exact h.1
    · intro hfin
      rcases List.mem_cons.1 hfin with heq | hfin
      · cases heq
        exact hi rfl
      · exact h.2 hfin

/-- A registered node stays registered, unless it is unregistered by a handler that then owes
all its sessions, or evicted. -/
theorem registered_or_owed {i : Tid} {c : Cmd} {o : Choice} {r : Resp c} {s : State}
    {w : World State Tid Resp} {key : TunnelSessionKey} (hmay : May S i (own i w.trace) c)
    (hA : NodesOutlive w i c r) (hexec : exec S i c o w.state = some (r, s))
    (hkey : (w.state.tunnelSessions.lookup key).isSome = true)
    (hnode : (w.state.nodes.lookup key.nodeId).isSome = true) :
    (s.nodes.lookup key.nodeId).isSome = true ∨ ∃ k, Owed (w.push i c r s).trace key k := by
  have heffect := exec_effect hexec
  rw [heffect.nodes]
  cases c with
  | nodes op =>
      cases op with
      | remove n =>
          by_cases hn : key.nodeId = n
          · subst hn
            obtain ⟨k, rfl, hs, -⟩ := hmay.unregister
            have hans := exec_nodes_answer hexec
            simp only [MapOp.answer, Option.some.injEq] at hans
            rw [hans] at hnode
            obtain ⟨conn, rfl⟩ := Option.isSome_iff_exists.1 hnode
            refine .inr ⟨k, ?_, ?_⟩
            · rw [World.push_trace, own_cons_self]
              exact rfl
            · intro hfin
              rcases List.mem_cons.1 hfin with heq | hfin
              · cases heq
              · exact hs.alive _ (mem_own.2 hfin)
          · left
            rw [Cmd.nodesAfter, MapOp.apply, AList.lookup_erase_ne hn]
            exact hnode
      | removeIf n stale =>
          left
          rw [Cmd.nodesAfter, MapOp.apply]
          split
          · next conn hconn =>
              split
              · next hstale =>
                  by_cases hn : key.nodeId = n
                  · subst hn
                    rw [hA.evicted _ stale conn key.sid rfl hconn hstale] at hkey
                    cases hkey
                  · rw [AList.lookup_erase_ne hn]
                    exact hnode
              · exact hnode
          · exact hnode
      | insert n conn =>
          left
          by_cases hn : key.nodeId = n
          · subst hn
            simp [Cmd.nodesAfter, MapOp.apply]
          · rw [Cmd.nodesAfter, MapOp.apply, AList.lookup_insert_ne hn]
            exact hnode
      | modify n f =>
          left
          rw [Cmd.nodesAfter, MapOp.apply]
          split
          · by_cases hn : key.nodeId = n
            · subst hn
              simp
            · rw [AList.lookup_insert_ne hn]
              exact hnode
          · exact hnode
      | get | keys | next => exact .inl hnode
  | _ => exact .inl hnode

/-- Every session has its node or is owed. -/
theorem covered (hr : (machine S).Reach NodesOutlive (start rows users clock) cfg) :
    ∀ key, (cfg.world.state.tunnelSessions.lookup key).isSome = true →
      (cfg.world.state.nodes.lookup key.nodeId).isSome = true ∨
        ∃ k, Owed cfg.world.trace key k := by
  refine server_inv (fun w => ∀ key, (w.state.tunnelSessions.lookup key).isSome = true →
    (w.state.nodes.lookup key.nodeId).isSome = true ∨ ∃ k, Owed w.trace key k) ?_ ?_ hr
  · intro key hkey
    cases hkey
  · intro cfg i c o r s hr hI hmay hA hexec key hkey
    have heffect := exec_effect hexec
    have hold (h : (cfg.world.state.tunnelSessions.lookup key).isSome = true) :
        (s.nodes.lookup key.nodeId).isSome = true ∨
          ∃ k, Owed (cfg.world.push i c r s).trace key k := by
      rcases hI key h with hnode | ⟨k, howed⟩
      · exact registered_or_owed hmay hA hexec h hnode
      · exact .inr ⟨k, owed_push hr hmay hexec hkey howed⟩
    have hkey' := hkey
    rw [World.push_state, heffect.tunnelSessions] at hkey'
    cases c with
    | tunnelSessions op =>
        rcases MapOp.isSome_apply hkey' with h | ⟨value, rfl⟩
        · exact hold h
        · left
          rw [World.push_state, heffect.nodes]
          exact hA.opened key value rfl
    | _ => exact hold hkey'

/-- **Every session belongs to a registered node**, in every state a run reaches in which no
`disconnect_node` is under way, if the cleanup evicts no node with sessions and no session is
entered for a node that is not registered. -/
theorem sessions_registered (hr : (machine S).Reach NodesOutlive (start rows users clock) cfg)
    (hquiet : ∀ k, ¬ Disconnecting cfg.world.trace k) : cfg.world.state.SessionsRegistered := by
  intro key hkey
  rcases covered hr key hkey with hnode | ⟨k, howed⟩
  · exact hnode
  · exact absurd howed.disconnecting (hquiet k)

end Integrity

/-! ## A session of a registered node, and one that is left behind -/

/-- Whether nothing is evicted, and sessions are entered for registered nodes. -/
def outlives (w : World State Tid Resp) (_ : Tid) (c : Cmd) (_ : Resp c) : Bool :=
  match c with
  | .nodes (.removeIf _ _) => false
  | .tunnelSessions (.insert key _) => (w.state.nodes.lookup key.nodeId).isSome
  | _ => true

theorem outlives_sound (w : World State Tid Resp) (i : Tid) (c : Cmd) (r : Resp c)
    (h : outlives w i c r = true) : NodesOutlive w i c r := by
  constructor
  · rintro n stale conn sid rfl
    cases h
  · rintro key value rfl
    exact h

/-- Whether no handler has begun `disconnect_node`. -/
def undisconnected (tr : List (Ev Tid Resp)) : Bool :=
  tr.all fun
    | ⟨_, .nodes (.remove _), _⟩ => false
    | _ => true

theorem not_disconnecting {tr : List (Ev Tid Resp)} (h : undisconnected tr = true) (k : Nat) :
    ¬ Disconnecting tr k := by
  rintro ⟨⟨n, r, hmem⟩, -⟩
  exact absurd (List.all_eq_true.1 h _ hmem) Bool.false_ne_true

/-- Node `10` logs in and opens session 5. -/
def openedSchedule : List (Tid × Choice) :=
  nodeLogin 0 10 ++ idle (.node 0) 1 ++ [(.node 0, fromNode (.tunnelOpened 0 77 5 none))] ++
    idle (.node 0) 1

theorem sessions_registered_of_open :
    ∃ cfg, (machine (sample loginRequests)).Reach NodesOutlive sampleStart cfg ∧
      (cfg.world.state.tunnelSessions.lookup ⟨10, 5⟩).isSome = true ∧
      cfg.world.state.SessionsRegistered := by
  have hrun : ((machine (sample loginRequests)).run outlives openedSchedule sampleStart).any
      (fun cfg => (cfg.world.state.tunnelSessions.lookup ⟨10, 5⟩).isSome &&
        undisconnected cfg.world.trace) = true := by
    decide +kernel
  obtain ⟨cfg, hr, hend⟩ := Machine.reach_of_run outlives_sound hrun
  rw [Bool.and_eq_true] at hend
  exact ⟨cfg, hr, hend.1, sessions_registered hr (not_disconnecting hend.2)⟩

/-- Node `10` logs in, opens session 5 and is silent for 121 seconds; then the cleanup runs. -/
def silentSchedule : List (Tid × Choice) :=
  openedSchedule ++ idle .environment 1 ++
    [(.environment, { around := ⟨1121000, sampleRows, [1, 2]⟩ })] ++ idle .refresh 7 ++
    [(.refresh, { pick := some 10 })] ++ idle .refresh 1

/-- **The cleanup leaves sessions behind.**  Without the condition, a silent node is evicted
and its session stays, with no `disconnect_node` under way. -/
theorem eviction_leaves_sessions :
    ¬ ∀ cfg, (machine (sample loginRequests)).Reach Free sampleStart cfg →
      (∀ k, ¬ Disconnecting cfg.world.trace k) → cfg.world.state.SessionsRegistered := by
  have hrun : ((machine (sample loginRequests)).run (fun _ _ _ _ => true) silentSchedule
      sampleStart).any
      (fun cfg => (cfg.world.state.tunnelSessions.lookup ⟨10, 5⟩).isSome &&
        (cfg.world.state.nodes.lookup 10).isNone && undisconnected cfg.world.trace) = true := by
    decide +kernel
  obtain ⟨cfg, hr, hend⟩ := Machine.reach_of_run (fun _ _ _ _ _ => trivial) hrun
  rw [Bool.and_eq_true, Bool.and_eq_true] at hend
  obtain ⟨⟨hsession, hgone⟩, hquiet⟩ := hend
  intro hall
  have hnode := hall cfg hr (not_disconnecting hquiet) ⟨10, 5⟩ hsession
  rw [Option.isNone_iff_eq_none.1 hgone] at hnode
  cases hnode

end Phirepass.Server
