/-
# `Phirepass.Server.Disconnect` — what `disconnect_node` closes

`disconnect_node` removes the node, takes a snapshot of its tunnel sessions
and closes them one by one, each removal followed by a notice to the client.
Here it runs with nothing in between, from any state:

    the sessions it collects are the node's, each once     (`Collected`)
    closing a list of sessions removes just these and
    sends one notice for each to its client                (`closeSessions_runs`)

The walk over the map comes in any order, so the notices a client gets are
determined up to their order.
-/
import Phirepass.Interleave.Solo
import Phirepass.Server.OwnClients

namespace Phirepass.Server

open Rust Interleave

/-! ## What is to be closed -/

/-- The entries of a session table that belong to node `n`. -/
def sessionsOf (n : Uuid) (m : DashMap TunnelSessionKey (Uuid × Uuid)) :
    List (TunnelSessionKey × Uuid × Uuid) :=
  (m.entries.map fun e => (e.1, e.2)).filter fun e => e.1.nodeId = n

/-- The queue through which a client in `connections` can still be reached. -/
def State.openQueue (s : State) (cid : Uuid) : Option Nat :=
  ((s.connections.lookup cid).map WebConnection.tx).filter fun x => !(s.webChans x).closed

/-- The notice for a session that is closed because its node is gone. -/
def closedNotice (e : TunnelSessionKey × Uuid × Uuid) : WebFrameData := .tunnelClosed 0 e.1.sid none

/-- Every open queue has room for the notices that go there. -/
def State.HasRoom (s : State) (n : Uuid) : Prop :=
  ∀ x, (s.webChans x).queue.length +
    (sessionsOf n s.tunnelSessions).countP (fun e => s.openQueue e.2.1 = some x) ≤ CHANNEL_CAPACITY

/-- `disconnect_node(n)` in the task of socket `k` leads from `s` to `s'` and counts `count`
notified clients, no other task taking a step. -/
inductive DisconnectsNode (S : Setup) (k : Nat) (n : Uuid) (s : State) (count : UInt32)
    (s' : State) : Prop
  | intro {start visited : List TunnelSessionKey} {found : List (TunnelSessionKey × Uuid × Uuid)}
      {s₁ s₂ : State} {o : Choice}
      (hcollect : (machine S).Alone (.node k) (.nodeClosing k n) s
        (.nodeCollect k n start visited found) s₁)
      (hend : exec S (.node k) (.tunnelSessions (.next start visited)) o s₁ = some (none, s₂))
      (hclose : (closeSessions found 0).Runs (exec S (.node k)) s₂ count s')

/-- What `disconnect_node(n)` is to achieve. -/
structure NodeDisconnected (n : Uuid) (count : UInt32) (s s' : State) : Prop where
  /-- Exactly the node's sessions are gone. -/
  sessions : ∀ key, s'.tunnelSessions.lookup key =
    if key.nodeId = n then none else s.tunnelSessions.lookup key
  connections : s'.connections = s.connections
  /-- A client that can be reached is sent one notice for each of its sessions. -/
  notices : ∀ cid conn, s.connections.lookup cid = some conn → (s.webChans conn.tx).closed = false →
    ∃ sent, (s'.webChans conn.tx).queue = (s.webChans conn.tx).queue ++ sent ∧
      sent.Perm (((sessionsOf n s.tunnelSessions).filter fun e => e.2.1 = cid).map closedNotice)
  count : count = UInt32.ofNat
    ((sessionsOf n s.tunnelSessions).countP fun e => (s.openQueue e.2.1).isSome)

section Disconnect

variable {S : Setup} {i : Tid} {k : Nat} {n cid : Uuid} {s s' : State}

theorem mem_sessionsOf {m : DashMap TunnelSessionKey (Uuid × Uuid)}
    {e : TunnelSessionKey × Uuid × Uuid} :
    e ∈ sessionsOf n m ↔ m.lookup e.1 = some e.2 ∧ e.1.nodeId = n := by
  obtain ⟨key, v⟩ := e
  simp only [sessionsOf, List.mem_filter, List.mem_map, Prod.mk.injEq, decide_eq_true_eq,
    and_congr_left_iff]
  intro _
  constructor
  · rintro ⟨⟨key', v'⟩, hmem, rfl, rfl⟩
    exact AList.mem_lookup_iff.2 hmem
  · intro hlook
    exact ⟨⟨key, v⟩, AList.mem_lookup_iff.1 hlook, rfl, rfl⟩

/-! ## One notice -/

theorem openQueue_eq_some {x : Nat} : s.openQueue cid = some x ↔
    ∃ conn, s.connections.lookup cid = some conn ∧ conn.tx = x ∧
      (s.webChans x).closed = false := by
  simp only [State.openQueue, Option.filter_eq_some_iff, Option.map_eq_some_iff]
  constructor
  · rintro ⟨⟨conn, hconn, rfl⟩, hopen⟩
    exact ⟨conn, hconn, rfl, by simpa using hopen⟩
  · rintro ⟨conn, hconn, rfl, hopen⟩
    exact ⟨⟨conn, hconn, rfl⟩, by simpa using hopen⟩

/-- The state after a notice to `cid`. -/
def State.notified (s : State) (cid : Uuid) (frame : WebFrameData) : State :=
  match s.openQueue cid with
  | some x =>
      { s with
        webChans := Function.update s.webChans x
          { s.webChans x with queue := (s.webChans x).queue ++ [frame] } }
  | none => s

@[simp] theorem notified_connections (frame : WebFrameData) :
    (s.notified cid frame).connections = s.connections := by
  unfold State.notified
  split <;> rfl

@[simp] theorem notified_tunnelSessions (frame : WebFrameData) :
    (s.notified cid frame).tunnelSessions = s.tunnelSessions := by
  unfold State.notified
  split <;> rfl

@[simp] theorem notified_closed (frame : WebFrameData) (x : Nat) :
    ((s.notified cid frame).webChans x).closed = (s.webChans x).closed := by
  unfold State.notified
  split
  · next y _ =>
      rcases eq_or_ne x y with rfl | hx
      · simp
      · simp [hx]
  · rfl

theorem notified_queue (frame : WebFrameData) (x : Nat) :
    ((s.notified cid frame).webChans x).queue =
      (s.webChans x).queue ++ if s.openQueue cid = some x then [frame] else [] := by
  unfold State.notified
  split
  · next y hy =>
      rcases eq_or_ne x y with rfl | hx
      · simp [hy]
      · simp [hy, hx, hx.symm]
  · next hnone => simp [hnone]

theorem notified_openQueue (frame : WebFrameData) (cid' : Uuid) :
    (s.notified cid frame).openQueue cid' = s.openQueue cid' := by
  simp only [State.openQueue, notified_connections, notified_closed]

/-- `connections.get` only reads. -/
theorem exec_get (o : Choice) :
    exec S i (.connections (.get cid)) o s = some (s.connections.lookup cid, s) := rfl

/-- `notify_client_by_cid` puts the frame into the queue of a client that can be reached, and
reports whether it did. -/
theorem notifyClientByCid_runs {frame : WebFrameData} {res : Except String Unit}
    (h : (notifyClientByCid cid frame).Runs (exec S i) s res s') :
    s' = s.notified cid frame ∧ res.isOk = (s.openQueue cid).isSome := by
  unfold notifyClientByCid at h
  obtain ⟨o, found, s₁, hget, hrest⟩ := Prog.runs_perform.1 h
  rw [exec_get] at hget
  cases hget
  cases hconn : s.connections.lookup cid with
  | none =>
      rw [hconn] at hrest
      obtain ⟨rfl, rfl⟩ := Prog.runs_ret.1 hrest
      have hnone : s'.openQueue cid = none := by simp [State.openQueue, hconn]
      simp [State.notified, hnone, Except.isOk, Except.toBool]
  | some conn =>
      rw [hconn] at hrest
      obtain ⟨o', sent, s₂, hsend, hres⟩ := Prog.runs_perform.1 hrest
      obtain ⟨⟨sent', chans⟩, hchan, hx⟩ := Option.map_eq_some_iff.1 hsend
      cases hx
      simp only [ChanOp.exec] at hchan
      split at hchan
      · next hclosed =>
          cases hchan
          obtain ⟨rfl, rfl⟩ := Prog.runs_ret.1 hres
          have hnone : s.openQueue cid = none := by simp [State.openQueue, hconn, hclosed]
          simp [State.notified, hnone, Except.isOk, Except.toBool]
      · next hopen =>
          have hsome : s.openQueue cid = some conn.tx := by
            exact openQueue_eq_some.2 ⟨conn, hconn, rfl, by simpa using hopen⟩
          split at hchan
          · cases hchan
            obtain ⟨rfl, rfl⟩ := Prog.runs_ret.1 hres
            simp [State.notified, hsome, Except.isOk, Except.toBool]
          · cases hchan

/-! ## Closing a list of sessions -/

/-- The sessions of `found` are gone, and their clients have been told. -/
structure Closed (found : List (TunnelSessionKey × Uuid × Uuid)) (s s' : State) : Prop where
  sessions : ∀ key, s'.tunnelSessions.lookup key =
    if key ∈ found.map Prod.fst then none else s.tunnelSessions.lookup key
  connections : s'.connections = s.connections
  closed : ∀ x, (s'.webChans x).closed = (s.webChans x).closed
  queue : ∀ x, (s'.webChans x).queue = (s.webChans x).queue ++
    (found.filter fun e => s.openQueue e.2.1 = some x).map closedNotice

theorem Closed.openQueue {found : List (TunnelSessionKey × Uuid × Uuid)} (h : Closed found s s')
    (cid : Uuid) : s'.openQueue cid = s.openQueue cid := by
  simp only [State.openQueue, h.connections, h.closed]

/-- The state without the session `key`. -/
def State.without (s : State) (key : TunnelSessionKey) : State :=
  { s with tunnelSessions := s.tunnelSessions.erase key }

/-- One session, and then the rest. -/
theorem Closed.cons {e : TunnelSessionKey × Uuid × Uuid}
    {rest : List (TunnelSessionKey × Uuid × Uuid)}
    (h : Closed rest ((s.without e.1).notified e.2.1 (closedNotice e)) s') :
    Closed (e :: rest) s s' := by
  have hopen (cid : Uuid) :
      ((s.without e.1).notified e.2.1 (closedNotice e)).openQueue cid = s.openQueue cid :=
    notified_openQueue (closedNotice e) cid
  refine ⟨fun key => ?_, ?_, fun x => ?_, fun x => ?_⟩
  · rw [h.sessions, notified_tunnelSessions, List.map_cons]
    by_cases hrest : key ∈ rest.map Prod.fst
    · rw [if_pos hrest, if_pos (List.mem_cons_of_mem _ hrest)]
    · rw [if_neg hrest]
      by_cases hkey : key = e.1
      · subst hkey
        rw [if_pos List.mem_cons_self]
        exact AList.lookup_erase _ _
      · rw [if_neg (fun hmem => (List.mem_cons.1 hmem).elim hkey hrest)]
        exact AList.lookup_erase_ne hkey
  · rw [h.connections, notified_connections]
    rfl
  · rw [h.closed, notified_closed]
    rfl
  · rw [h.queue, notified_queue]
    simp only [hopen]
    have hself : (s.without e.1).openQueue e.2.1 = s.openQueue e.2.1 := rfl
    rw [hself, List.filter_cons]
    by_cases hx : s.openQueue e.2.1 = some x
    · simp [hx, State.without]
    · simp [hx, State.without]

/-- **Closing sessions.**  The loop over `sessions_to_close` removes them, sends a notice for
each one whose client can be reached, and counts the notices. -/
theorem closeSessions_runs :
    ∀ {found : List (TunnelSessionKey × Uuid × Uuid)} {count total : UInt32} {s : State},
      (closeSessions found count).Runs (exec S i) s total s' →
      Closed found s s' ∧
        total = count + UInt32.ofNat (found.countP fun e => (s.openQueue e.2.1).isSome) := by
  intro found
  induction found with
  | nil =>
      intro count total s h
      obtain ⟨rfl, rfl⟩ := Prog.runs_ret.1 h
      exact ⟨⟨fun _ => by simp, rfl, fun _ => rfl, fun _ => by simp⟩, by simp⟩
  | cons e rest ih =>
      intro count total s h
      obtain ⟨key, cid, n⟩ := e
      rw [closeSessions] at h
      obtain ⟨o, old, s₁, hremove, hrest⟩ := Prog.runs_perform.1 h
      have hs₁ : s₁ = s.without key := by
        have hexec : exec S i (.tunnelSessions (.remove key)) o s =
          some (s.tunnelSessions.lookup key, s.without key) := rfl
        rw [hexec] at hremove
        cases hremove
        rfl
      subst hs₁
      obtain ⟨res, s₂, hnotify, hgo⟩ := Prog.runs_bind.1 hrest
      obtain ⟨rfl, hres⟩ := notifyClientByCid_runs hnotify
      have hopen (cid' : Uuid) : ((s.without key).notified cid (closedNotice (key, cid, n))).openQueue
          cid' = s.openQueue cid' := notified_openQueue (closedNotice (key, cid, n)) cid'
      have hcount : (rest.countP fun e => (((s.without key).notified cid
          (closedNotice (key, cid, n))).openQueue e.2.1).isSome) =
          rest.countP fun e => (s.openQueue e.2.1).isSome := by
        simp only [hopen]
      have hself : (s.without key).openQueue cid = s.openQueue cid := rfl
      cases res with
      | ok u =>
          obtain ⟨hclosed, htotal⟩ := ih hgo
          refine ⟨Closed.cons (e := (key, cid, n)) hclosed, ?_⟩
          have hsome : (s.openQueue cid).isSome = true := by
            rw [← hself, ← hres]
            rfl
          rw [htotal, List.countP_cons_of_pos (by exact hsome), Nat.add_comm, UInt32.ofNat_add,
            ← UInt32.add_assoc]
          exact congrArg (fun m => count + 1 + UInt32.ofNat m) hcount
      | error err =>
          obtain ⟨hclosed, htotal⟩ := ih hgo
          refine ⟨Closed.cons (e := (key, cid, n)) hclosed, ?_⟩
          have hnone : ¬ (s.openQueue cid).isSome = true := by
            rw [← hself, ← hres]
            exact Bool.false_ne_true
          rw [htotal, List.countP_cons_of_neg (by exact hnone)]
          exact congrArg (fun m => count + UInt32.ofNat m) hcount

/-! ## The snapshot -/

/-- The turns of the walk over the session table `m` so far. -/
structure Collected (n : Uuid) (m : DashMap TunnelSessionKey (Uuid × Uuid))
    (visited : List TunnelSessionKey) (found : List (TunnelSessionKey × Uuid × Uuid)) : Prop where
  sessions : ∀ e ∈ found, e ∈ sessionsOf n m
  seen : ∀ e ∈ found, e.1 ∈ visited
  nodup : found.Nodup
  all : ∀ e ∈ sessionsOf n m, e.1 ∈ visited → e ∈ found

theorem Collected.nil {m : DashMap TunnelSessionKey (Uuid × Uuid)} : Collected n m [] [] :=
  ⟨by simp, by simp, List.nodup_nil, by simp⟩

/-- One turn. -/
theorem Collected.next {m : DashMap TunnelSessionKey (Uuid × Uuid)}
    {visited : List TunnelSessionKey} {found : List (TunnelSessionKey × Uuid × Uuid)}
    (h : Collected n m visited found) {key : TunnelSessionKey} {v : Uuid × Uuid}
    (hnew : key ∉ visited) (hlook : m.lookup key = some v) :
    Collected n m (key :: visited) (if key.nodeId = n then found ++ [(key, v)] else found) := by
  have hvisited : ∀ e ∈ found, e.1 ∈ key :: visited :=
    fun e he => List.mem_cons_of_mem _ (h.seen e he)
  have hval {e : TunnelSessionKey × Uuid × Uuid} (he : e ∈ sessionsOf n m) (hkey : e.1 = key) :
      e = (key, v) := by
    obtain ⟨key', v'⟩ := e
    obtain ⟨hlook', -⟩ := mem_sessionsOf.1 he
    cases hkey
    rw [hlook] at hlook'
    cases hlook'
    rfl
  split
  · next hn =>
      refine ⟨?_, ?_, ?_, ?_⟩
      · intro e he
        rcases List.mem_append.1 he with he | he
        · exact h.sessions e he
        · rw [List.mem_singleton.1 he]
          exact mem_sessionsOf.2 ⟨hlook, hn⟩
      · intro e he
        rcases List.mem_append.1 he with he | he
        · exact hvisited e he
        · rw [List.mem_singleton.1 he]
          exact List.mem_cons_self
      · refine List.nodup_append.2 ⟨h.nodup, List.nodup_singleton _, ?_⟩
        intro e he e' he' heq
        rw [List.mem_singleton.1 he'] at heq
        subst heq
        exact hnew (h.seen _ he)
      · intro e he hvis
        rcases List.mem_cons.1 hvis with hkey | hvis
        · exact List.mem_append_right _ (List.mem_singleton.2 (hval he hkey))
        · exact List.mem_append_left _ (h.all e he hvis)
  · next hn =>
      refine ⟨h.sessions, hvisited, h.nodup, fun e he hvis => ?_⟩
      rcases List.mem_cons.1 hvis with hkey | hvis
      · exact absurd ((mem_sessionsOf.1 he).2) (hkey ▸ hn)
      · exact h.all e he hvis

theorem nodup_sessionsOf (m : DashMap TunnelSessionKey (Uuid × Uuid)) :
    (sessionsOf n m).Nodup := by
  refine List.Nodup.filter _ (List.Nodup.of_map Prod.fst ?_)
  rw [List.map_map]
  exact m.nodupKeys

/-- The finished walk has found the sessions of the node, each once. -/
theorem Collected.perm {m : DashMap TunnelSessionKey (Uuid × Uuid)}
    {visited : List TunnelSessionKey} {found : List (TunnelSessionKey × Uuid × Uuid)}
    (h : Collected n m visited found) (hall : ∀ key ∈ m.keys, key ∈ visited) :
    found.Perm (sessionsOf n m) := by
  refine (List.perm_ext_iff_of_nodup h.nodup (nodup_sessionsOf m)).2 fun e => ?_
  refine ⟨h.sessions e, fun he => h.all e he (hall e.1 ?_)⟩
  obtain ⟨hlook, -⟩ := mem_sessionsOf.1 he
  exact AList.mem_keys.1 (AList.lookup_isSome.1 (by rw [hlook]; rfl))

/-- What the walk is about stays the same while it is under way. -/
structure SameTunnels (s s' : State) : Prop where
  sessions : s'.tunnelSessions = s.tunnelSessions
  connections : s'.connections = s.connections
  webChans : s'.webChans = s.webChans

theorem SameTunnels.openQueue (h : SameTunnels s s') (cid : Uuid) :
    s'.openQueue cid = s.openQueue cid := by
  simp only [State.openQueue, h.connections, h.webChans]

/-- Where `disconnect_node` stands when it runs alone from `s`. -/
def Disconnecting.At (k : Nat) (n : Uuid) (s : State) : Label → State → Prop
  | .nodeClosing j m, t => j = k ∧ m = n ∧ t = s
  | .nodeCollect j m start visited found, t =>
      j = k ∧ m = n ∧ SameTunnels s t ∧ start = s.tunnelSessions.keys ∧
        Collected n s.tunnelSessions visited found
  | .done, _ => True
  | _, _ => False

/-- The first part of `disconnect_node`, for a node that is registered. -/
theorem closeNodeSocket_runs (hn : (s.nodes.lookup n).isSome = true) {l : Label}
    (h : (closeNodeSocket k n).Runs (exec S i) s l s') : Disconnecting.At k n s l s' := by
  unfold closeNodeSocket at h
  obtain ⟨o, ended, s₁, habort, h⟩ := Prog.runs_perform.1 h
  cases habort
  obtain ⟨o, found, s₂, hremove, h⟩ := Prog.runs_perform.1 h
  obtain ⟨info, hinfo⟩ := Option.isSome_iff_exists.1 hn
  have hexec : exec S i (.nodes (.remove n)) o { s with
      nodeWriters := Function.update s.nodeWriters k .aborted } = some (s.nodes.lookup n, { s with
      nodeWriters := Function.update s.nodeWriters k .aborted, nodes := s.nodes.erase n }) := rfl
  rw [hexec] at hremove
  cases hremove
  rw [hinfo] at h
  obtain ⟨o, written, s₃, hwrite, h⟩ := Prog.runs_perform.1 h
  have hsame : SameTunnels s s₃ := by
    simp only [exec] at hwrite
    split at hwrite
    · split at hwrite <;> cases hwrite <;> exact ⟨rfl, rfl, rfl⟩
    · cases hwrite
      exact ⟨rfl, rfl, rfl⟩
  obtain ⟨o, start, s₄, hkeys, h⟩ := Prog.runs_perform.1 h
  have hexec : exec S i (.tunnelSessions .keys) o s₃ = some (s₃.tunnelSessions.keys, s₃) := rfl
  rw [hexec] at hkeys
  cases hkeys
  obtain ⟨rfl, rfl⟩ := Prog.runs_ret.1 h
  exact ⟨rfl, rfl, hsame, by rw [hsame.sessions], .nil⟩

/-- One turn of the walk. -/
theorem exec_next {start visited : List TunnelSessionKey} {o : Choice}
    {r : Option (TunnelSessionKey × Uuid × Uuid)}
    (h : exec S i (.tunnelSessions (.next start visited)) o s = some (r, s')) :
    s' = s ∧
      (∀ key v, r = some (key, v) → key ∉ visited ∧ s.tunnelSessions.lookup key = some v) ∧
      (r = none → ∀ key ∈ start, key ∈ s.tunnelSessions.keys → key ∈ visited) := by
  obtain ⟨⟨answer, sessions⟩, hexec, hx⟩ := Option.map_eq_some_iff.1 h
  cases hx
  obtain ⟨hanswer, hm⟩ := MapOp.exec_eq_some.1 hexec
  cases hm
  exact ⟨rfl, MapOp.answer_next hanswer⟩

theorem notifyAllClients_runs {start visited : List TunnelSessionKey}
    {found : List (TunnelSessionKey × Uuid × Uuid)} {t t' : State} {l : Label}
    (hat : Disconnecting.At k n s (.nodeCollect k n start visited found) t)
    (h : (notifyAllClientsForClosedTunnel k n start visited found).Runs (exec S i) t l t') :
    Disconnecting.At k n s l t' := by
  obtain ⟨-, -, hsame, hstart, hcol⟩ := hat
  unfold notifyAllClientsForClosedTunnel at h
  obtain ⟨o, r, t₁, hnext, h⟩ := Prog.runs_perform.1 h
  obtain ⟨rfl, hyield, -⟩ := exec_next hnext
  cases r with
  | none =>
      obtain ⟨count, t₂, -, h⟩ := Prog.runs_bind.1 h
      obtain ⟨o, -, t₃, -, h⟩ := Prog.runs_perform.1 h
      obtain ⟨rfl, rfl⟩ := Prog.runs_ret.1 h
      trivial
  | some e =>
      obtain ⟨key, v⟩ := e
      obtain ⟨hnew, hlook⟩ := hyield key v rfl
      rw [hsame.sessions] at hlook
      have hmore := hcol.next hnew hlook
      simp only at h
      split at h
      · next hkey =>
          obtain ⟨rfl, rfl⟩ := Prog.runs_ret.1 h
          rw [if_pos hkey] at hmore
          exact ⟨rfl, rfl, hsame, hstart, hmore⟩
      · next hkey =>
          obtain ⟨rfl, rfl⟩ := Prog.runs_ret.1 h
          rw [if_neg hkey] at hmore
          exact ⟨rfl, rfl, hsame, hstart, hmore⟩

/-- Running alone, the task of a registered node stays within `disconnect_node`. -/
theorem disconnecting_at (hn : (s.nodes.lookup n).isSome = true) {l : Label}
    (h : (machine S).Alone i (.nodeClosing k n) s l s') : Disconnecting.At k n s l s' := by
  refine h.inv (I := Disconnecting.At k n s) ?_ ⟨rfl, rfl, rfl⟩
  intro l t l' t' hat hrun
  cases l with
  | nodeClosing j m =>
      obtain ⟨rfl, rfl, rfl⟩ := hat
      exact closeNodeSocket_runs (i := i) hn hrun
  | nodeCollect j m start visited found =>
      obtain ⟨rfl, rfl, hrest⟩ := hat
      have hat : Disconnecting.At j m s (.nodeCollect j m start visited found) t :=
        ⟨rfl, rfl, hrest⟩
      exact notifyAllClients_runs (i := i) hat hrun
  | done =>
      obtain ⟨rfl, rfl⟩ := Prog.runs_ret.1 hrun
      trivial
  | _ => exact hat.elim

/-- From any state in which the node is registered, `disconnect_node` closes its sessions, in
some order. -/
theorem DisconnectsNode.closed {count : UInt32} (h : DisconnectsNode S k n s count s')
    (hn : (s.nodes.lookup n).isSome = true) :
    ∃ found, found.Perm (sessionsOf n s.tunnelSessions) ∧ Closed found s s' ∧
      count = UInt32.ofNat (found.countP fun e => (s.openQueue e.2.1).isSome) := by
  obtain ⟨hcollect, hend, hclose⟩ := h
  obtain ⟨-, -, hsame, rfl, hcol⟩ := disconnecting_at hn hcollect
  obtain ⟨rfl, -, hall⟩ := exec_next hend
  obtain ⟨hclosed, hcount⟩ := closeSessions_runs hclose
  have hopen := hsame.openQueue
  refine ⟨_, hcol.perm fun key hkey => hall rfl key hkey (hsame.sessions ▸ hkey), ?_, ?_⟩
  · refine ⟨fun key => ?_, ?_, fun x => ?_, fun x => ?_⟩
    · rw [hclosed.sessions, hsame.sessions]
    · rw [hclosed.connections, hsame.connections]
    · rw [hclosed.closed, hsame.webChans]
    · rw [hclosed.queue, hsame.webChans]
      simp only [hopen]
  · rw [hcount, UInt32.zero_add]
    simp only [hopen]

/-! ## It finishes -/

/-- A notice for which there is room is sent. -/
theorem notifyClientByCid_finishes (frame : WebFrameData)
    (hroom : ∀ x, s.openQueue cid = some x → (s.webChans x).queue.length < CHANNEL_CAPACITY) :
    ∃ res s', (notifyClientByCid cid frame).Runs (exec S i) s res s' ∧
      s' = s.notified cid frame := by
  refine Prog.exists_runs (exec_get {}) ?_
  cases hconn : s.connections.lookup cid with
  | none =>
      have hnone : s.openQueue cid = none := by simp [State.openQueue, hconn]
      exact ⟨_, _, .ret _ _, by rw [State.notified, hnone]⟩
  | some conn =>
      by_cases hclosed : (s.webChans conn.tx).closed = true
      · have hnone : s.openQueue cid = none := by simp [State.openQueue, hconn, hclosed]
        have hsend : exec S i (.web (.send conn.tx frame)) {} s = some (false, s) := by
          simp [exec, ChanOp.exec, hclosed]
        exact Prog.exists_runs hsend ⟨_, _, .ret _ _, by rw [State.notified, hnone]⟩
      · have hsome : s.openQueue cid = some conn.tx :=
          openQueue_eq_some.2 ⟨conn, hconn, rfl, by simpa using hclosed⟩
        have hsend : exec S i (.web (.send conn.tx frame)) {} s =
            some (true, s.notified cid frame) := by
          simp [exec, ChanOp.exec, hclosed, hroom conn.tx hsome, State.notified, hsome]
        exact Prog.exists_runs hsend ⟨_, _, .ret _ _, rfl⟩

/-- The loop finishes where there is room for its notices. -/
theorem closeSessions_finishes :
    ∀ {found : List (TunnelSessionKey × Uuid × Uuid)} (count : UInt32) {s : State},
      (∀ x, (s.webChans x).queue.length +
        found.countP (fun e => s.openQueue e.2.1 = some x) ≤ CHANNEL_CAPACITY) →
      ∃ total s', (closeSessions found count).Runs (exec S i) s total s' := by
  intro found
  induction found with
  | nil => exact fun count s _ => ⟨count, s, .ret _ _⟩
  | cons e rest ih =>
      intro count s hroom
      obtain ⟨key, cid, n⟩ := e
      have hself : (s.without key).openQueue cid = s.openQueue cid := rfl
      have hfits : ∀ x, (s.without key).openQueue cid = some x →
          ((s.without key).webChans x).queue.length < CHANNEL_CAPACITY := by
        intro x hx
        have hle := hroom x
        rw [List.countP_cons_of_pos (by simpa using hself ▸ hx)] at hle
        show (s.webChans x).queue.length < CHANNEL_CAPACITY
        omega
      obtain ⟨res, s₁, hnotify, rfl⟩ :=
        notifyClientByCid_finishes (S := S) (i := i) (closedNotice (key, cid, n)) hfits
      have hnext : ∀ x, (((s.without key).notified cid
          (closedNotice (key, cid, n))).webChans x).queue.length +
          rest.countP (fun e => ((s.without key).notified cid
            (closedNotice (key, cid, n))).openQueue e.2.1 = some x) ≤ CHANNEL_CAPACITY := by
        intro x
        have hle := hroom x
        simp only [notified_openQueue]
        rw [notified_queue, hself]
        by_cases hx : s.openQueue cid = some x
        · rw [List.countP_cons_of_pos (by simpa using hx)] at hle
          rw [if_pos hx, List.length_append, List.length_singleton]
          have hq : ((s.without key).webChans x).queue = (s.webChans x).queue := rfl
          have hrest : (rest.countP fun e => (s.without key).openQueue e.2.1 = some x) =
            rest.countP fun e => s.openQueue e.2.1 = some x := rfl
          rw [hq, hrest]
          omega
        · rw [List.countP_cons_of_neg (by simpa using hx)] at hle
          rw [if_neg hx, List.append_nil]
          exact hle
      have hremove : exec S i (.tunnelSessions (.remove key)) {} s =
        some (s.tunnelSessions.lookup key, s.without key) := rfl
      cases res with
      | ok u =>
          obtain ⟨total, s', hrest⟩ := ih (count + 1) hnext
          exact ⟨total, s', Prog.runs_perform.2 ⟨{}, _, _, hremove,
            Prog.runs_bind.2 ⟨_, _, hnotify, hrest⟩⟩⟩
      | error err =>
          obtain ⟨total, s', hrest⟩ := ih count hnext
          exact ⟨total, s', Prog.runs_perform.2 ⟨{}, _, _, hremove,
            Prog.runs_bind.2 ⟨_, _, hnotify, hrest⟩⟩⟩

/-- The walk can always go on until it has seen every key. -/
theorem collect_finishes {start : List TunnelSessionKey} {t : State} :
    ∀ (rest visited : List TunnelSessionKey) (found : List (TunnelSessionKey × Uuid × Uuid)),
      (machine S).Alone (.node k) (.nodeClosing k n) s (.nodeCollect k n start visited found) t →
      ∃ visited' found', (∀ key ∈ rest, key ∈ t.tunnelSessions.keys → key ∈ visited') ∧
        (∀ key ∈ visited, key ∈ visited') ∧
        (machine S).Alone (.node k) (.nodeClosing k n) s
          (.nodeCollect k n start visited' found') t := by
  intro rest
  induction rest with
  | nil => exact fun visited found h => ⟨visited, found, by simp, fun _ h => h, h⟩
  | cons key rest ih =>
      intro visited found h
      by_cases hvis : key ∈ visited ∨ key ∉ t.tunnelSessions.keys
      · obtain ⟨visited', found', hrest, hmore, halone⟩ := ih visited found h
        refine ⟨visited', found', fun key' hmem hin => ?_, hmore, halone⟩
        rcases List.mem_cons.1 hmem with rfl | hmem
        · exact hvis.elim (hmore _) (fun hout => absurd hin hout)
        · exact hrest key' hmem hin
      · rw [not_or, not_not] at hvis
        obtain ⟨hnew, hin⟩ := hvis
        obtain ⟨v, hv⟩ := Option.isSome_iff_exists.1 (AList.lookup_isSome.2 (AList.mem_keys.2 hin))
        have hexec : exec S (.node k) (.tunnelSessions (.next start visited))
            { pickSession := some key } t = some (some (key, v), t) := by
          simp only [exec, MapOp.exec, MapOp.answer, if_neg hnew, hv]
          rfl
        have hturn : (notifyAllClientsForClosedTunnel k n start visited found).Runs
            (exec S (.node k)) t (.nodeCollect k n start (key :: visited)
              (if key.nodeId = n then found ++ [(key, v)] else found)) t := by
          refine Prog.runs_perform.2 ⟨_, _, _, hexec, ?_⟩
          by_cases hkey : key.nodeId = n
          · simp only [if_pos hkey]
            exact .ret _ _
          · simp only [if_neg hkey]
            exact .ret _ _
        obtain ⟨visited', found', hrest, hmore, halone⟩ := ih _ _ (h.tail hturn)
        refine ⟨visited', found', fun key' hmem hin => ?_,
          fun key' hmem => hmore key' (List.mem_cons_of_mem _ hmem), halone⟩
        rcases List.mem_cons.1 hmem with rfl | hmem
        · exact hmore _ List.mem_cons_self
        · exact hrest key' hmem hin

/-- `disconnect_node` of a registered node returns, unless a client's queue is too full for the
notices it gets. -/
theorem disconnectsNode_finishes (hn : (s.nodes.lookup n).isSome = true) (hroom : s.HasRoom n) :
    ∃ count s', DisconnectsNode S k n s count s' := by
  obtain ⟨info, hinfo⟩ := Option.isSome_iff_exists.1 hn
  obtain ⟨l, t, hfirst, rfl⟩ : ∃ l t, (closeNodeSocket k n).Runs (exec S (.node k)) s l t ∧
      l = .nodeCollect k n s.tunnelSessions.keys [] [] := by
    refine Prog.exists_runs (o := {}) (r := ()) rfl (Prog.exists_runs (o := {}) rfl ?_)
    simp only [hinfo]
    refine Prog.exists_runs (o := {}) (r := true) rfl (Prog.exists_runs (o := {}) rfl ?_)
    exact ⟨_, _, .ret _ _, rfl⟩
  have hstart : (machine S).Alone (.node k) (.nodeClosing k n) s
      (.nodeCollect k n s.tunnelSessions.keys [] []) t := .tail .refl hfirst
  obtain ⟨visited, found, hall, -, halone⟩ := collect_finishes s.tunnelSessions.keys [] [] hstart
  obtain ⟨-, -, hsame, -, hcol⟩ := disconnecting_at hn halone
  rw [hsame.sessions] at hall
  have hend : exec S (.node k) (.tunnelSessions (.next s.tunnelSessions.keys visited)) {} t =
      some (none, t) := by
    simp only [exec, MapOp.exec, MapOp.answer, hsame.sessions]
    rw [if_pos hall]
    simp [MapOp.apply, ← hsame.sessions]
  have hperm := hcol.perm fun key hkey => hall key hkey hkey
  have hfits : ∀ x, (t.webChans x).queue.length +
      found.countP (fun e => t.openQueue e.2.1 = some x) ≤ CHANNEL_CAPACITY := by
    intro x
    simp only [hsame.openQueue, hsame.webChans]
    rw [hperm.countP_eq]
    exact hroom x
  obtain ⟨count, s', hclose⟩ := closeSessions_finishes (S := S) (i := .node k) 0 hfits
  exact ⟨count, s', halone, hend, hclose⟩

/-- It is what the machine does when only that task is scheduled. -/
theorem DisconnectsNode.reach {count : UInt32} (h : DisconnectsNode S k n s count s')
    {cfg : Config State Tid Resp Label} (hl : cfg.threads (.node k) = .ret (.nodeClosing k n))
    (hs : cfg.world.state = s) :
    ∃ cfg', (machine S).Reach (Machine.Only (.node k)) cfg cfg' ∧
      cfg'.threads (.node k) = .ret .done ∧ cfg'.world.state = s' := by
  obtain ⟨hcollect, hend, hclose⟩ := h
  refine Machine.reach_of_alone (hcollect.tail ?_) hl hs
  refine Prog.runs_perform.2 ⟨_, _, _, hend, Prog.runs_bind.2 ⟨_, _, hclose, ?_⟩⟩
  exact Prog.runs_perform.2 ⟨{}, (), _, rfl, .ret _ _⟩

end Disconnect

/-! ## Where each client has a queue of its own -/

section Reachable

variable {S : Setup} {A : Restriction} {rows : DashMap Uuid NodeRow} {users : List Uuid}
  {clock : Time} {cfg : Config State Tid Resp Label}

/-- No two clients share a queue. -/
theorem queue_unique (hr : (machine S).Reach A (start rows users clock) cfg) {cid cid' : Uuid}
    {conn conn' : WebConnection} (hconn : cfg.world.state.connections.lookup cid = some conn)
    (hconn' : cfg.world.state.connections.lookup cid' = some conn') (htx : conn.tx = conn'.tx) :
    cid = cid' := by
  have hdrew := drew_of_connection hr cid conn hconn
  have hdrew' := drew_of_connection hr cid' conn' hconn'
  rw [← htx] at hdrew'
  exact drew_once hr hdrew hdrew'

/-- **A node that disconnects closes its tunnels.**  In every state of the server in which the
node is registered, `disconnect_node` removes exactly the node's sessions, sends each of their
clients one notice for each of them and nothing else, and returns the number of notices.  It
does return where the queues have room. -/
theorem disconnect_closes (hr : (machine S).Reach A (start rows users clock) cfg) (k : Nat)
    {n : Uuid} (hn : (cfg.world.state.nodes.lookup n).isSome = true) :
    (cfg.world.state.HasRoom n → ∃ count s', DisconnectsNode S k n cfg.world.state count s') ∧
      ∀ count s', DisconnectsNode S k n cfg.world.state count s' →
        NodeDisconnected n count cfg.world.state s' := by
  refine ⟨disconnectsNode_finishes hn, fun count s' h => ?_⟩
  obtain ⟨found, hperm, hclosed, hcount⟩ := h.closed hn
  have hmem (key : TunnelSessionKey) : key ∈ found.map Prod.fst ↔
      key.nodeId = n ∧ (cfg.world.state.tunnelSessions.lookup key).isSome = true := by
    rw [(hperm.map Prod.fst).mem_iff, List.mem_map]
    constructor
    · rintro ⟨e, he, rfl⟩
      obtain ⟨hlook, hkey⟩ := mem_sessionsOf.1 he
      exact ⟨hkey, by rw [hlook]; rfl⟩
    · rintro ⟨hkey, hsome⟩
      obtain ⟨v, hv⟩ := Option.isSome_iff_exists.1 hsome
      exact ⟨(key, v), mem_sessionsOf.2 ⟨hv, hkey⟩, rfl⟩
  refine ⟨fun key => ?_, hclosed.connections, fun cid conn hconn hopen => ?_, ?_⟩
  · rw [hclosed.sessions]
    by_cases hkey : key.nodeId = n
    · rw [if_pos hkey]
      by_cases hin : key ∈ found.map Prod.fst
      · rw [if_pos hin]
      · rw [if_neg hin]
        rw [hmem, not_and] at hin
        simpa using hin hkey
    · rw [if_neg hkey, if_neg (fun hin => hkey ((hmem key).1 hin).1)]
  · refine ⟨_, hclosed.queue conn.tx, List.Perm.map _ ?_⟩
    have hsame : ∀ e : TunnelSessionKey × Uuid × Uuid,
        cfg.world.state.openQueue e.2.1 = some conn.tx ↔ e.2.1 = cid := by
      intro e
      rw [openQueue_eq_some]
      constructor
      · rintro ⟨conn', hconn', htx, -⟩
        exact queue_unique hr hconn' hconn htx
      · intro heq
        exact ⟨conn, heq ▸ hconn, rfl, hopen⟩
    simp only [hsame]
    exact hperm.filter _
  · rw [hcount, hperm.countP_eq]

end Reachable

/-- Node `10` disconnects while session 5 of client `77` is open. -/
theorem disconnect_closes_of_tunnel :
    ∃ cfg, (machine (sample loginRequests)).Reach Free sampleStart cfg ∧
      cfg.world.state.tunnelSessions.lookup ⟨10, 5⟩ = some (77, 10) ∧
      (cfg.world.state.HasRoom 10 → ∃ count s',
        DisconnectsNode (sample loginRequests) 0 10 cfg.world.state count s') ∧
      ∀ count s', DisconnectsNode (sample loginRequests) 0 10 cfg.world.state count s' →
        NodeDisconnected 10 count cfg.world.state s' := by
  have hrun : ((machine (sample loginRequests)).run (fun _ _ _ _ => true) tunnelSchedule
      sampleStart).any (fun cfg =>
        decide (cfg.world.state.tunnelSessions.lookup ⟨10, 5⟩ = some (77, 10)) &&
          (cfg.world.state.nodes.lookup 10).isSome) = true := by
    decide +kernel
  obtain ⟨cfg, hr, hend⟩ := Machine.reach_of_run (A := Free) (fun _ _ _ _ _ => trivial) hrun
  rw [Bool.and_eq_true, decide_eq_true_eq] at hend
  exact ⟨cfg, hr, hend.1, disconnect_closes hr 0 hend.2⟩

end Phirepass.Server
