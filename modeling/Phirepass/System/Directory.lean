/-
# `Phirepass.System.Directory` — where Redis says a node is

A server that a node connects to writes the node's hash, registers the node,
refreshes the hash at every heartbeat, and deletes it when the socket ends.
No write and no delete looks at who wrote the hash before.  So when a node
has moved on to another server, the handler of its old socket may still

    refresh the hash, which then names the old server
    delete it, which leaves the node unreachable    (`old_handler_deletes`)

and a new socket's first write stands before its registration.  As long as
nobody touches the hash of a node that another handler has connected and
still serves (`Undisturbed`), the hash is there and names the server of the
node's latest socket, and the relay goes there (`directory_agrees`).
-/
import Phirepass.Relay.Lookup
import Phirepass.Server.Identity
import Phirepass.System.Cluster

namespace Phirepass.Cluster

open Rust Rust.Redis Interleave Server

/-! ## Whose hash it is -/

/-- The task that registered as node `n` last, on whatever server, and its entry. -/
def latest (n : Uuid) : List (Ev Tid Resp) → Option (Tid × NodeConnection)
  | [] => none
  | ⟨i, .nodes (.insert m conn), _⟩ :: tr => if m = n then some (i, conn) else latest n tr
  | _ :: tr => latest n tr

/-- The task has written the hash under `key`, and was told so. -/
def Connected (key : String) (h : Hist Resp) : Prop :=
  ∃ record, (⟨.memoryDb (.setNodeConnected record), true⟩ : Sigma Resp) ∈ h ∧ hashKey record = key

/-- The task has not registered. -/
def Unregistered (h : Hist Resp) : Prop :=
  ∀ n conn r, (⟨.nodes (.insert n conn), r⟩ : Sigma Resp) ∉ h

/-- The hash is about the node that the task serves: it has written it, its message loop was
not left, and no other task has registered as the node since it did. -/
structure Keeps (key : String) (i : Tid) (tr : List (Ev Tid Resp)) : Prop where
  socket : ∃ k, i.2 = .node k
  connected : Connected key (own i tr)
  running : Looping (own i tr)
  newest : Unregistered (own i tr) ∨ ∃ n conn, latest n tr = some (i, conn)

/-- What touches the hash of a node leaves it to the task that keeps it, or writes the same
server. -/
def Undisturbed (w : World Shared Tid Resp) (i : Tid) (c : Cmd) : Prop :=
  ∀ op record, c = .memoryDb op → MemoryOp.record? op = some record →
    ∀ j, Keeps (hashKey record) j w.trace → j = i ∨ MemoryOp.writes op = true ∧ i.1 = j.1

variable {D : Deployment} {rows : DashMap Uuid NodeRow} {users : List Uuid} {clock : Time}
  {A : World Shared Tid Resp → Tid → (c : Cmd) → Resp c → Prop}
  {cfg : Config Shared Tid Resp (ℕ × Label)}

/-! ## One more event -/

theorem latest_cons_of_ne {n : Uuid} {i : Tid} {c : Cmd} {r : Resp c} {tr : List (Ev Tid Resp)}
    (hc : ∀ conn, c ≠ .nodes (.insert n conn)) : latest n (⟨i, c, r⟩ :: tr) = latest n tr := by
  unfold latest
  split
  · next heq => cases heq
  · next j m conn r' tr' heq =>
      cases heq
      rw [if_neg fun hm => hc conn (by rw [hm])]
      rw [latest.eq_def]
  · next e tr' _ heq =>
      cases heq
      rw [latest.eq_def]

theorem looping_of_cons {e : Sigma Resp} {h : Hist Resp} (hl : Looping (e :: h)) : Looping h :=
  fun k r hmem => hl k r (List.mem_cons_of_mem _ hmem)

theorem Unregistered.of_cons {e : Sigma Resp} {h : Hist Resp} (hu : Unregistered (e :: h)) :
    Unregistered h :=
  fun n conn r hmem => hu n conn r (List.mem_cons_of_mem _ hmem)

/-- Whoever keeps a hash behind an event, kept it before, unless the event was its first write
to it. -/
theorem Keeps.of_cons {key : String} {i j : Tid} {c : Cmd} {r : Resp c}
    {tr : List (Ev Tid Resp)} (hkeeps : Keeps key j (⟨i, c, r⟩ :: tr))
    (hwrite : i = j → ∀ record, (⟨c, r⟩ : Sigma Resp) = ⟨.memoryDb (.setNodeConnected record), true⟩ →
      hashKey record ≠ key)
    (hregister : i = j → ∀ n conn, c = .nodes (.insert n conn) → Unregistered (own j tr)) :
    Keeps key j tr := by
  obtain ⟨hsocket, ⟨record, hmem, hkey⟩, hrunning, hnewest⟩ := hkeeps
  by_cases hij : i = j
  · subst hij
    rw [own_cons_self] at hmem hrunning hnewest
    refine ⟨hsocket, ⟨record, ?_, hkey⟩, looping_of_cons hrunning, ?_⟩
    · obtain heq | hmem := List.mem_cons.1 hmem
      · exact absurd hkey (hwrite rfl record heq.symm)
      · exact hmem
    · obtain hunregistered | ⟨n, conn, hlatest⟩ := hnewest
      · exact .inl hunregistered.of_cons
      · by_cases hc : ∃ conn', c = .nodes (.insert n conn')
        · obtain ⟨conn', hc⟩ := hc
          exact .inl (hregister rfl n conn' hc)
        · rw [latest_cons_of_ne fun conn' h => hc ⟨conn', h⟩] at hlatest
          exact .inr ⟨n, conn, hlatest⟩
  · rw [own_cons_of_ne hij] at hmem hrunning hnewest
    refine ⟨hsocket, ⟨record, hmem, hkey⟩, hrunning, hnewest.imp_right ?_⟩
    rintro ⟨n, conn, hlatest⟩
    refine ⟨n, conn, ?_⟩
    rwa [latest_cons_of_ne] at hlatest
    rintro conn' rfl
    simp only [latest, if_true] at hlatest
    cases hlatest
    exact hij rfl

/-! ## The hash names the server of whoever keeps it -/

/-- What the run is about: every hash that is kept names the server of the task that keeps
it. -/
def Named (D : Deployment) (w : World Shared Tid Resp) : Prop :=
  ∀ key i, Keeps key i w.trace →
    w.state.redis.hget key "server" = some (D.json.server (D.identifier i.1))

/-- A command that is no operation on the hash leaves it named. -/
theorem named_of_other {i : Tid} {c : Cmd} {o : Choice} {ks : Keyspace} {record : NodeRecord}
    (hother : ∀ op record', c = .memoryDb op → MemoryOp.record? op = some record' →
      hashKey record ≠ hashKey record') :
    (onRedis D i.1 c o ks).hget (hashKey record) "server" = ks.hget (hashKey record) "server" := by
  unfold onRedis
  split
  · next op =>
      split
      · rfl
      · exact hget_of_other fun record' hop => hother op record' rfl hop
  · rfl

/-- A write to the hash leaves it named after the server that wrote, or fails without effect
and leaves it as it was. -/
theorem named_of_write (D : Deployment) (i : Tid) (o : Choice) (ks : Keyspace) {op : MemoryOp}
    {record : NodeRecord} (hop : MemoryOp.record? op = some record)
    (hwrites : MemoryOp.writes op = true) :
    (onRedis D i.1 (.memoryDb op) o ks).hget (hashKey record) "server" =
        some (D.json.server (D.identifier i.1)) ∨
      o.fail = true ∧ onRedis D i.1 (.memoryDb op) o ks = ks := by
  unfold onRedis
  simp only []
  split
  · next hnone =>
      rw [Bool.and_eq_true] at hnone
      exact .inr ⟨hnone.1, rfl⟩
  · exact .inl (hget_of_writes hop hwrites)

theorem answer_of_fail {i : Tid} {op : MemoryOp} {o : Choice} {s s' : Shared}
    {r : Resp (.memoryDb op)} (hexec : exec D i.1 i.2 (.memoryDb op) o s = some (r, s'))
    (hfail : o.fail = true) : r = false := by
  obtain ⟨x, hx, heq⟩ := Option.map_eq_some_iff.1 hexec
  simp only [Server.exec, hfail, if_true] at hx
  cases hx
  cases heq
  rfl

/-- The only operation on a node's hash that does not write it deletes it. -/
theorem deletes_of_not_writes {op : MemoryOp} {record : NodeRecord}
    (hop : MemoryOp.record? op = some record) (hwrites : MemoryOp.writes op = false) :
    op = .setNodeDisconnected record := by
  cases op with
  | setNodeDisconnected node =>
      cases hop
      rfl
  | setNodeConnected | updateNodeStats => cases hwrites
  | setConnectionConnected | setConnectionDisconnected | refreshConnection => cases hop

theorem named_step {i : Tid} {c : Cmd} {o : Choice} {r : Resp c} {s : Shared}
    {w : World Shared Tid Resp} (hnamed : Named D w)
    (hmay : May (D.setup i.1) i.2 (own i w.trace) c ∧ TaskMay i.2 (own i w.trace) c)
    (hA : Undisturbed w i c) (hexec : exec D i.1 i.2 c o w.state = some (r, s)) :
    Named D (w.push i c r s) := by
  intro key j hkeeps
  have hregister : i = j → ∀ n conn, c = .nodes (.insert n conn) →
      Unregistered (own j w.trace) := by
    rintro rfl n conn rfl
    obtain ⟨k, -, hjoining, -⟩ := hmay.1.register
    exact hjoining.unregistered
  show s.redis.hget key "server" = _
  rw [exec_redis hexec]
  by_cases hop : ∃ op record, c = .memoryDb op ∧ MemoryOp.record? op = some record ∧
      hashKey record = key
  · obtain ⟨op, record, rfl, hop, rfl⟩ := hop
    by_cases hij : i = j
    · subst hij
      cases hwrites : MemoryOp.writes op with
      | true =>
          obtain hwritten | ⟨hfail, hsame⟩ := named_of_write D i o w.state.redis hop
            hwrites
          · exact hwritten
          · -- the write was not answered, so it is not the one that made the task keep the hash
            have hr := answer_of_fail hexec hfail
            rw [hsame]
            refine hnamed _ _ (hkeeps.of_cons (fun _ _ heq => ?_) hregister)
            cases heq
            cases hr
      | false =>
          -- a task deletes the hash only when its message loop was left
          obtain rfl := deletes_of_not_writes hop hwrites
          obtain ⟨k, hk⟩ := hkeeps.socket
          have hleft : ¬ Looping (own i w.trace) := by
            have h := hmay.2
            rw [hk] at h
            exact h
          have hrunning := hkeeps.running
          rw [World.push_trace, own_cons_self] at hrunning
          exact absurd (looping_of_cons hrunning) hleft
    · have hkept := hkeeps.of_cons (fun h => absurd h hij) hregister
      obtain hji | ⟨hwrites, hserver⟩ := hA op record rfl hop j hkept
      · exact absurd hji.symm hij
      · obtain hwritten | ⟨-, hsame⟩ := named_of_write D i o w.state.redis hop hwrites
        · rw [hwritten, hserver]
        · rw [hsame]
          exact hnamed _ _ hkept
  · have hkept : Keeps key j w.trace := by
      refine hkeeps.of_cons (fun _ record heq hkey => ?_) hregister
      cases heq
      exact hop ⟨_, record, rfl, rfl, hkey⟩
    obtain ⟨record, -, rfl⟩ := hkept.connected
    rw [named_of_other fun op record' hc hop' hkey => hop ⟨op, record', hc, hop', hkey.symm⟩]
    exact hnamed _ _ hkept

/-! ## Whole runs -/

theorem named_start : Named D (start rows users clock).world := by
  rintro key i ⟨-, ⟨record, hmem, -⟩, -, -⟩
  cases hmem

theorem named (hA : ∀ w i c r, A w i c r → Undisturbed w i c)
    (hr : (machine D).Reach A (start rows users clock) cfg) : Named D cfg.world :=
  hr.inv cluster_follows (fun _ _ _ _ _ => trivial) (Named D) named_start
    fun _ _ _ _ _ _ _ hnamed hmay hAi hexec =>
      named_step hnamed hmay (hA _ _ _ _ hAi) hexec

/-- The steps happen on server `j`. -/
def on (j : ℕ) (steps : List (Server.Tid × Choice)) : List (Tid × Choice) :=
  steps.map fun step => ((j, step.1), step.2)

/-- The message loop was left. -/
def leftLoop (h : Hist Resp) : Bool :=
  h.any fun
    | ⟨.nodeWriter (.abort _), _⟩ => true
    | _ => false

end Phirepass.Cluster
