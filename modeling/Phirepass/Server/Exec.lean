/-
# `Phirepass.Server.Exec` — what the commands do

`exec` runs one command of one task on the shared state.  The lemmas below it
say, component by component, which commands touch what; every invariant of
the server is proved through them and never unfolds `exec` again.

`Uuid::new_v4` draws an id that occurs nowhere on the server yet: 122 random
bits do not repeat and are not guessed.

A text parameter of Postgres must not contain the null character: a working
database refuses the statement, as it would any other that is not well formed.
-/
import Phirepass.Rust.Base64
import Phirepass.Server.State

namespace Phirepass.Server

open Rust Interleave

/-- `mpsc::channel(256)`. -/
def CHANNEL_CAPACITY : Nat := 256

/-- An error of `db/postgres.rs` is the context its function adds. -/
def DbOp.context : DbOp → String
  | .getNodeById _ => "failed to retrieve node by id"
  | .getNodeClaimById _ | .getNodeClaimByIdOptional _ => "failed to retrieve node claim by id"
  | .userExists _ => "failed to check user existence"
  | .upsertAuthChallenge _ _ _ => "failed to upsert auth challenge"
  | .getAuthChallenge _ _ => "failed to get auth challenge"
  | .consumeAuthChallenge _ _ => "failed to consume auth challenge"
  | .touchNodeLastSeen _ => "failed to update node last_seen"

/-- The text contains the null character. -/
def hasNul (text : String) : Bool := text.toList.contains '\x00'

/-- The rows after the statement. -/
def DbOp.apply (clock : Time) (db : Database) : DbOp → Database
  | .upsertAuthChallenge n challenge expiresAt =>
      if hasNul challenge then db
      else { db with authChallenges := db.authChallenges.insert n ⟨n, challenge, expiresAt⟩ }
  | .consumeAuthChallenge n challenge =>
      if hasNul challenge then db
      else
        match db.authChallenges.lookup n with
        | some row =>
            if row.challenge = challenge then
              { db with authChallenges := db.authChallenges.erase n }
            else db
        | none => db
  | .touchNodeLastSeen n =>
      match db.nodes.lookup n with
      | some row => { db with nodes := db.nodes.insert n { row with lastSeen := some clock } }
      | none => db
  | .getNodeById _ | .getNodeClaimById _ | .getNodeClaimByIdOptional _ | .userExists _
  | .getAuthChallenge _ _ => db

/-- The answer of a statement that reached the database.  `fetch_one` fails without a row. -/
def DbOp.answer (db : Database) : (op : DbOp) → op.Resp
  | .getNodeById n =>
      match db.nodes.lookup n with
      | some row => .ok row.toRecord
      | none => .error (context (.getNodeById n))
  | .getNodeClaimById n =>
      match db.nodes.lookup n with
      | some row => .ok row.toClaim
      | none => .error (context (.getNodeClaimById n))
  | .getNodeClaimByIdOptional n => .ok ((db.nodes.lookup n).map NodeRow.toClaim)
  | .userExists u => .ok (decide (u ∈ db.users))
  | .getAuthChallenge n challenge =>
      if hasNul challenge then .error (context (.getAuthChallenge n challenge))
      else .ok ((db.authChallenges.lookup n).filter fun row => row.challenge = challenge)
  | .upsertAuthChallenge n challenge expiresAt =>
      if hasNul challenge then .error (context (.upsertAuthChallenge n challenge expiresAt))
      else .ok ()
  | .consumeAuthChallenge n challenge =>
      if hasNul challenge then .error (context (.consumeAuthChallenge n challenge)) else .ok ()
  | .touchNodeLastSeen _ => .ok ()

/-- The answer of one that failed. -/
def DbOp.failed : (op : DbOp) → op.Resp
  | .getNodeById n => .error (context (.getNodeById n))
  | .getNodeClaimById n => .error (context (.getNodeClaimById n))
  | .getNodeClaimByIdOptional n => .error (context (.getNodeClaimByIdOptional n))
  | .userExists u => .error (context (.userExists u))
  | .upsertAuthChallenge n c t => .error (context (.upsertAuthChallenge n c t))
  | .getAuthChallenge n c => .error (context (.getAuthChallenge n c))
  | .consumeAuthChallenge n c => .error (context (.consumeAuthChallenge n c))
  | .touchNodeLastSeen n => .error (context (.touchNodeLastSeen n))

/-- A statement: it fails, with or without its effect, or it runs. -/
def DbOp.exec (o : Choice) (clock : Time) (db : Database) (op : DbOp) : op.Resp × Database :=
  if o.fail then (op.failed, if o.lost then op.apply clock db else db)
  else (op.answer db, op.apply clock db)

/-- An id that nothing on the server names. -/
def State.Fresh (s : State) (id : Uuid) : Prop :=
  id ∉ s.issued ∧ ∀ e ∈ s.tunnelSessions.entries, e.2.1 ≠ id

instance (s : State) (id : Uuid) : Decidable (s.Fresh id) :=
  inferInstanceAs (Decidable (_ ∧ _))

/-- Only a task that was aborted stops at a `recv`. -/
def stops {α : Type} (o : Choice) (writers : Nat → Phase) : ChanOp α → Bool
  | .recv rx => o.fail && writers rx == .aborted
  | _ => false

/-- One command of one task. -/
def exec (S : Setup) (_i : Tid) : (c : Cmd) → Choice → State → Option (Resp c × State)
  | .ws .next, o, s => some (o.incoming, s)
  | .ws (.send _), o, s => some (!o.fail, s)
  | .ws .close, _, s => some ((), s)
  | .web op, o, s =>
      (op.exec CHANNEL_CAPACITY (stops o s.webWriters op) s.webChans).map fun x =>
        (x.1, { s with webChans := x.2 })
  | .node op, o, s =>
      (op.exec CHANNEL_CAPACITY (stops o s.nodeWriters op) s.nodeChans).map fun x =>
        (x.1, { s with nodeChans := x.2 })
  | .webWriter op, _, s =>
      (op.exec s.webWriters).map fun x => (x.1, { s with webWriters := x.2 })
  | .nodeWriter op, _, s =>
      (op.exec s.nodeWriters).map fun x => (x.1, { s with nodeWriters := x.2 })
  | .nodes op, o, s =>
      (op.exec s.nodes o.pick).map fun x => (x.1, { s with nodes := x.2 })
  | .connections op, o, s =>
      (op.exec s.connections o.pick).map fun x => (x.1, { s with connections := x.2 })
  | .tunnelSessions op, o, s =>
      (op.exec s.tunnelSessions o.pickSession).map fun x =>
        (x.1, { s with tunnelSessions := x.2 })
  | .db op, o, s =>
      some ((op.exec o s.clock s.database).1,
        { s with database := (op.exec o s.clock s.database).2 })
  | .memoryDb op, o, s =>
      if o.fail then
        some (false, if o.lost then { s with memoryDb := op.apply S.id s.memoryDb } else s)
      else some (true, { s with memoryDb := op.apply S.id s.memoryDb })
  | .now, _, s => some (s.clock, s)
  | .newV4, o, s =>
      if s.Fresh o.uuid then some (o.uuid, { s with issued := o.uuid :: s.issued }) else none
  | .generateChallenge, o, s => some (Base64.encode o.random.1, s)
  | .decodeWebJwt token, _, s => some (S.crates.decodeWebJwt token s.clock, s)
  | .decodeNodeJwt token, _, s => some (S.crates.decodeNodeJwt token s.clock, s)
  | .encodeNodeJwt claims, _, s => some (S.crates.encodeNodeJwt claims, s)
  | .respond _, _, s | .finish, _, s => some ((), s)
  | .environment, o, s =>
      some (o.around, { s with
        clock := o.around.clock
        database := { s.database with nodes := o.around.rows, users := o.around.users } })

/-! ## Which command touches what -/

def Cmd.nodesAfter (m : DashMap Uuid NodeConnection) : Cmd → DashMap Uuid NodeConnection
  | .nodes op => op.apply m
  | _ => m

def Cmd.connectionsAfter (m : DashMap Uuid WebConnection) : Cmd → DashMap Uuid WebConnection
  | .connections op => op.apply m
  | _ => m

def Cmd.tunnelSessionsAfter (m : DashMap TunnelSessionKey (Uuid × Uuid)) :
    Cmd → DashMap TunnelSessionKey (Uuid × Uuid)
  | .tunnelSessions op => op.apply m
  | _ => m

def Cmd.issuedAfter (ids : List Uuid) : (c : Cmd) → Resp c → List Uuid
  | .newV4, id => id :: ids
  | _, _ => ids

/-- The challenge rows after a command: statements act on them, whether or not they report
failure; nothing else does. -/
def Cmd.challengesAfter (o : Choice) (s : State) : Cmd → DashMap Uuid AuthChallengeRecord
  | .db op => (op.exec o s.clock s.database).2.authChallenges
  | _ => s.database.authChallenges

/-- The node rows after a command. -/
def Cmd.rowsAfter (o : Choice) (s : State) : (c : Cmd) → Resp c → DashMap Uuid NodeRow
  | .db op, _ => (op.exec o s.clock s.database).2.nodes
  | .environment, around => around.rows
  | _, _ => s.database.nodes

/-- What one executed command did to the components the invariants are about. -/
structure Effect (c : Cmd) (o : Choice) (r : Resp c) (s s' : State) : Prop where
  nodes : s'.nodes = c.nodesAfter s.nodes
  connections : s'.connections = c.connectionsAfter s.connections
  tunnelSessions : s'.tunnelSessions = c.tunnelSessionsAfter s.tunnelSessions
  issued : s'.issued = c.issuedAfter s.issued r
  challenges : s'.database.authChallenges = c.challengesAfter o s
  rows : s'.database.nodes = c.rowsAfter o s r

section Exec

variable {S : Setup} {i : Tid} {o : Choice} {s s' : State}

theorem exec_effect {c : Cmd} {r : Resp c} (h : exec S i c o s = some (r, s')) :
    Effect c o r s s' := by
  cases c with
  | ws op =>
      cases op <;> cases h <;> exact ⟨rfl, rfl, rfl, rfl, rfl, rfl⟩
  | web op | node op | webWriter op | nodeWriter op =>
      obtain ⟨x, -, hx⟩ := Option.map_eq_some_iff.1 h
      cases hx
      exact ⟨rfl, rfl, rfl, rfl, rfl, rfl⟩
  | nodes op | connections op | tunnelSessions op =>
      obtain ⟨x, hexec, hx⟩ := Option.map_eq_some_iff.1 h
      obtain ⟨-, hm⟩ := MapOp.exec_eq_some.1 hexec
      cases hx
      refine ⟨?_, ?_, ?_, rfl, rfl, rfl⟩
      all_goals first | rfl | exact hm
  | memoryDb op =>
      simp only [exec] at h
      split at h
      · split at h <;> cases h <;> exact ⟨rfl, rfl, rfl, rfl, rfl, rfl⟩
      · cases h
        exact ⟨rfl, rfl, rfl, rfl, rfl, rfl⟩
  | newV4 =>
      simp only [exec] at h
      split at h
      · cases h
        exact ⟨rfl, rfl, rfl, rfl, rfl, rfl⟩
      · cases h
  | db | now | generateChallenge | decodeWebJwt | decodeNodeJwt | encodeNodeJwt | respond | finish
  | environment =>
      cases h
      exact ⟨rfl, rfl, rfl, rfl, rfl, rfl⟩

/-- A frame in the queue of a node socket was there before, or has just been enqueued. -/
theorem exec_nodeChans {c : Cmd} {r : Resp c} (h : exec S i c o s = some (r, s')) {k : Nat}
    {g : NodeFrameData} (hg : g ∈ (s'.nodeChans k).queue) :
    g ∈ (s.nodeChans k).queue ∨ ∃ op r', (⟨c, r⟩ : Sigma Resp) = ⟨.node op, r'⟩ ∧
      op.Enqueues k g r' := by
  cases c with
  | node op =>
      obtain ⟨x, hexec, hx⟩ := Option.map_eq_some_iff.1 h
      cases hx
      rcases ChanOp.mem_queue_exec hexec hg with hold | hnew
      · exact .inl hold
      · exact .inr ⟨op, _, rfl, hnew⟩
  | ws op => cases op <;> cases h <;> exact .inl hg
  | web | webWriter | nodeWriter | nodes | connections | tunnelSessions =>
      obtain ⟨x, -, hx⟩ := Option.map_eq_some_iff.1 h
      cases hx
      exact .inl hg
  | memoryDb op =>
      simp only [exec] at h
      split at h
      · split at h <;> cases h <;> exact .inl hg
      · cases h
        exact .inl hg
  | newV4 =>
      simp only [exec] at h
      split at h
      · cases h
        exact .inl hg
      · cases h
  | db | now | generateChallenge | decodeWebJwt | decodeNodeJwt | encodeNodeJwt | respond | finish
  | environment =>
      cases h
      exact .inl hg

/-- A frame that was received had been in the queue. -/
theorem exec_node_recv {k : Nat} {g : NodeFrameData}
    (h : exec S i (.node (.recv k)) o s = some (some g, s')) : g ∈ (s.nodeChans k).queue := by
  obtain ⟨⟨answer, chans⟩, hexec, hx⟩ := Option.map_eq_some_iff.1 h
  cases hx
  exact ChanOp.mem_queue_of_recv hexec

theorem exec_nodes_answer {op : MapOp Uuid NodeConnection} {r : op.Resp}
    (h : exec S i (.nodes op) o s = some (r, s')) : op.answer s.nodes o.pick = some r := by
  obtain ⟨x, hexec, hx⟩ := Option.map_eq_some_iff.1 h
  cases hx
  exact (MapOp.exec_eq_some.1 hexec).1

theorem exec_connections_answer {op : MapOp Uuid WebConnection} {r : op.Resp}
    (h : exec S i (.connections op) o s = some (r, s')) :
    op.answer s.connections o.pick = some r := by
  obtain ⟨x, hexec, hx⟩ := Option.map_eq_some_iff.1 h
  cases hx
  exact (MapOp.exec_eq_some.1 hexec).1

theorem exec_tunnelSessions_answer {op : MapOp TunnelSessionKey (Uuid × Uuid)} {r : op.Resp}
    (h : exec S i (.tunnelSessions op) o s = some (r, s')) :
    op.answer s.tunnelSessions o.pickSession = some r := by
  obtain ⟨x, hexec, hx⟩ := Option.map_eq_some_iff.1 h
  cases hx
  exact (MapOp.exec_eq_some.1 hexec).1

/-- What a delete leaves was there before. -/
theorem lookup_of_consume {db : Database} {t : Time} {n n' : Uuid} {challenge : String}
    {row : AuthChallengeRecord}
    (h : ((DbOp.consumeAuthChallenge n' challenge).apply t db).authChallenges.lookup n = some row) :
    db.authChallenges.lookup n = some row := by
  simp only [DbOp.apply] at h
  split at h
  · exact h
  · split at h
    · split at h
      · by_cases hn : n = n'
        · subst hn
          rw [AList.lookup_erase] at h
          cases h
        · rw [AList.lookup_erase_ne hn] at h
          exact h
      · exact h
    · exact h

/-- Only the touch of a node writes the table of nodes. -/
theorem apply_nodes {db : Database} {t : Time} {op : DbOp}
    (hop : ∀ n, op ≠ .touchNodeLastSeen n) : (op.apply t db).nodes = db.nodes := by
  cases op with
  | touchNodeLastSeen n => exact absurd rfl (hop n)
  | upsertAuthChallenge n challenge expiresAt =>
      simp only [DbOp.apply]
      split <;> rfl
  | consumeAuthChallenge n challenge =>
      simp only [DbOp.apply]
      split
      · rfl
      · split
        · split <;> rfl
        · rfl
  | _ => rfl

/-- A challenge row is an old one or the one a statement has just stored. -/
theorem challenges_lookup {c : Cmd} {n : Uuid} {row : AuthChallengeRecord}
    (h : (c.challengesAfter o s).lookup n = some row) :
    s.database.authChallenges.lookup n = some row ∨
      ∃ challenge expiresAt, c = .db (.upsertAuthChallenge n challenge expiresAt) ∧
        row = ⟨n, challenge, expiresAt⟩ := by
  cases c with
  | db op =>
      have happly : (op.apply s.clock s.database).authChallenges.lookup n = some row →
          s.database.authChallenges.lookup n = some row ∨
            ∃ challenge expiresAt, Cmd.db op = .db (.upsertAuthChallenge n challenge expiresAt) ∧
              row = ⟨n, challenge, expiresAt⟩ := by
        intro h
        cases op with
        | upsertAuthChallenge n' challenge expiresAt =>
            simp only [DbOp.apply] at h
            split at h
            · exact .inl h
            · by_cases hn : n = n'
              · subst hn
                rw [AList.lookup_insert] at h
                cases h
                exact .inr ⟨challenge, expiresAt, rfl, rfl⟩
              · rw [AList.lookup_insert_ne hn] at h
                exact .inl h
        | consumeAuthChallenge n' challenge => exact .inl (lookup_of_consume h)
        | touchNodeLastSeen n' =>
            simp only [DbOp.apply] at h
            split at h
            · exact .inl h
            · exact .inl h
        | _ => exact .inl h
      simp only [Cmd.challengesAfter, DbOp.exec] at h
      split at h
      · split at h
        · exact happly h
        · exact .inl h
      · exact happly h
  | _ => exact .inl h

/-- A challenge row stays, unless a statement stores another for the node or deletes it. -/
theorem challenges_kept {c : Cmd} {n : Uuid} {row : AuthChallengeRecord}
    (hrow : s.database.authChallenges.lookup n = some row)
    (hup : ∀ challenge expiresAt, c ≠ .db (.upsertAuthChallenge n challenge expiresAt))
    (hdel : c ≠ .db (.consumeAuthChallenge n row.challenge)) :
    (c.challengesAfter o s).lookup n = some row := by
  cases c with
  | db op =>
      have happly : (op.apply s.clock s.database).authChallenges.lookup n = some row := by
        cases op with
        | upsertAuthChallenge n' challenge expiresAt =>
            have hne : n ≠ n' := by
              rintro rfl
              exact hup challenge expiresAt rfl
            simp only [DbOp.apply]
            split
            · exact hrow
            · rw [AList.lookup_insert_ne hne]
              exact hrow
        | consumeAuthChallenge n' challenge =>
            by_cases hn : n = n'
            · subst hn
              have hne : row.challenge ≠ challenge := by
                rintro rfl
                exact hdel rfl
              simp only [DbOp.apply, hrow, if_neg hne, ite_self]
            · simp only [DbOp.apply]
              split
              · exact hrow
              · split
                · split
                  · rw [AList.lookup_erase_ne hn]
                    exact hrow
                  · exact hrow
                · exact hrow
        | touchNodeLastSeen n' =>
            simp only [DbOp.apply]
            split
            · exact hrow
            · exact hrow
        | _ => exact hrow
      simp only [Cmd.challengesAfter, DbOp.exec]
      split
      · split
        · exact happly
        · exact hrow
      · exact happly
  | _ => exact hrow

/-- A node row keeps its key and its owner, unless another service writes it. -/
theorem rows_lookup {c : Cmd} {r : Resp c} {n : Uuid} {row : NodeRow}
    (h : (c.rowsAfter o s r).lookup n = some row) :
    (∃ old, s.database.nodes.lookup n = some old ∧ row.publicKey = old.publicKey ∧
        row.userId = old.userId) ∨
      ∃ around : Surroundings, (⟨c, r⟩ : Sigma Resp) = ⟨.environment, around⟩ ∧
        around.rows.lookup n = some row := by
  cases c with
  | environment => exact .inr ⟨r, rfl, h⟩
  | db op =>
      have happly : (op.apply s.clock s.database).nodes.lookup n = some row →
          ∃ old, s.database.nodes.lookup n = some old ∧ row.publicKey = old.publicKey ∧
            row.userId = old.userId := by
        intro h
        cases op with
        | touchNodeLastSeen n' =>
            simp only [DbOp.apply] at h
            split at h
            · next old hold =>
                by_cases hn : n = n'
                · subst hn
                  rw [AList.lookup_insert] at h
                  cases h
                  exact ⟨old, hold, rfl, rfl⟩
                · rw [AList.lookup_insert_ne hn] at h
                  exact ⟨row, h, rfl, rfl⟩
            · exact ⟨row, h, rfl, rfl⟩
        | _ =>
            rw [apply_nodes (by simp)] at h
            exact ⟨row, h, rfl, rfl⟩
      simp only [Cmd.rowsAfter, DbOp.exec] at h
      split at h
      · split at h
        · exact .inl (happly h)
        · exact .inl ⟨row, h, rfl, rfl⟩
      · exact .inl (happly h)
  | _ => exact .inl ⟨row, h, rfl, rfl⟩

/-- A statement answers for the rows that are there, or reports failure. -/
theorem exec_db_answer {op : DbOp} {r : op.Resp} (h : exec S i (.db op) o s = some (r, s')) :
    r = op.failed ∨ r = op.answer s.database := by
  simp only [exec, Option.some.injEq, Prod.mk.injEq] at h
  obtain ⟨rfl, -⟩ := h
  unfold DbOp.exec
  split
  · exact .inl rfl
  · exact .inr rfl

/-- A successful `get_node_claim_by_id` read the row that is there. -/
theorem exec_getNodeClaimById {n : Uuid} {node : NodeClaimRecord}
    (h : exec S i (.db (.getNodeClaimById n)) o s = some (.ok node, s')) :
    ∃ row, s.database.nodes.lookup n = some row ∧ node = row.toClaim := by
  rcases exec_db_answer h with hr | hr
  · cases hr
  · simp only [DbOp.answer] at hr
    split at hr
    · next row hrow =>
        cases hr
        exact ⟨row, hrow, rfl⟩
    · cases hr

/-- A challenge that was found is the node's row, with that text. -/
theorem exec_getAuthChallenge {n : Uuid} {challenge : String} {row : AuthChallengeRecord}
    (h : exec S i (.db (.getAuthChallenge n challenge)) o s = some (.ok (some row), s')) :
    s.database.authChallenges.lookup n = some row ∧ row.challenge = challenge := by
  rcases exec_db_answer h with hr | hr
  · cases hr
  · simp only [DbOp.answer] at hr
    split at hr
    · cases hr
    · simpa [Option.filter_eq_some_iff] using (Except.ok.inj hr).symm

/-- A delete that ran leaves no row with that challenge. -/
theorem apply_consume {db : Database} {t : Time} {n : Uuid} {challenge : String}
    {row : AuthChallengeRecord} (hnul : hasNul challenge = false)
    (h : ((DbOp.consumeAuthChallenge n challenge).apply t db).authChallenges.lookup n = some row) :
    row.challenge ≠ challenge := by
  have hold := lookup_of_consume h
  intro heq
  simp only [DbOp.apply, hnul, Bool.false_eq_true, if_false, hold, if_pos heq,
    AList.lookup_erase] at h
  cases h

theorem exec_consume {n : Uuid} {challenge : String} {row : AuthChallengeRecord}
    (h : exec S i (.db (.consumeAuthChallenge n challenge)) o s = some (.ok (), s'))
    (hrow : s'.database.authChallenges.lookup n = some row) : row.challenge ≠ challenge := by
  cases hf : o.fail with
  | true => simp [exec, DbOp.exec, hf, DbOp.failed] at h
  | false =>
      simp only [exec, DbOp.exec, hf, Bool.false_eq_true, if_false, Option.some.injEq,
        Prod.mk.injEq] at h
      obtain ⟨hanswer, rfl⟩ := h
      cases hnul : hasNul challenge with
      | true => simp [DbOp.answer, hnul] at hanswer
      | false => exact apply_consume (t := s.clock) hnul hrow

/-- A challenge is the encoding of what was drawn. -/
theorem exec_generateChallenge {challenge : String}
    (h : exec S i .generateChallenge o s = some (challenge, s')) :
    ∃ random : ChallengeBytes, challenge = Base64.encode random.1 := by
  cases h
  exact ⟨o.random, rfl⟩

theorem hasNul_encode (bytes : Bytes) : hasNul (Base64.encode bytes) = false := by
  rw [hasNul, List.contains_eq_mem, decide_eq_false_iff_not]
  exact Base64.null_not_mem_encode bytes

theorem exec_newV4 {id : Uuid} (h : exec S i .newV4 o s = some (id, s')) : s.Fresh id := by
  simp only [exec] at h
  split at h
  · next hfresh =>
      cases h
      exact hfresh
  · cases h

end Exec

end Phirepass.Server
