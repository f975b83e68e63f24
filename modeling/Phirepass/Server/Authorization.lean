/-
# `Phirepass.Server.Authorization` — whose nodes a browser can address

Ownership is checked at login, for the node the `Auth` frame names.  Nine
later frames each name a node of their own.  Eight of them are forwarded only
through a tunnel that is bound to the sender (`WebLoop.forward`); the ninth,
`OpenTunnel`, is forwarded to whatever node it names (`WebLoop.openTunnel`),
so any user opens a tunnel to any connected node (`foreign_node_addressed`).

What is missing is therefore one check at `OpenTunnel`, and one at
`TunnelOpened`, which is where a binding comes from.  Where both would have
passed, every frame for a node is on behalf of its owner (`web_authorized`).
-/
import Phirepass.Server.OwnClients

namespace Phirepass.Server

open Rust Interleave

/-! ## Whose frames reach a node -/

/-- The connection on whose behalf a frame is sent to a node: the nine frames of a
browser. -/
def onBehalfOf : NodeFrameData → Option Uuid
  | .openTunnel _ cid _ _ _ | .tunnelData _ cid _ _ | .sshWindowResize cid _ _ _ _ _
  | .sftpList cid _ _ _ | .sftpDownloadStart cid _ _ _ | .sftpDownloadChunkRequest cid _ _ _ _
  | .sftpUploadStart cid _ _ _ | .sftpUpload cid _ _ _ | .sftpDelete cid _ _ _ => some cid
  | _ => none

/-- Every frame enqueued to node `n` on behalf of a connection: the user whose token logged
the connection in owns `n`. -/
def WebAuthorized (S : Setup) (owner : Uuid → Uuid) (tr : List (Ev Tid Resp)) : Prop :=
  ∀ j k g past n cid, (⟨j, .node (.send k g), true⟩ : Ev Tid Resp) :: past <:+ tr →
    onBehalfOf g = some cid → Registered past k n →
      ∃ i u, j = .web i ∧ Authenticated S (own (.web i) past) cid u ∧ owner n = u

/-- The rows of the table carry the owners `owner`. -/
def OwnersAre (owner : Uuid → Uuid) (rows : DashMap Uuid NodeRow) : Prop :=
  ∀ n row, rows.lookup n = some row → row.userId = owner n

/-- Other services do not change `nodes.user_id`. -/
def OwnersFixed (owner : Uuid → Uuid) : Restriction := fun _ _ c r =>
  ∀ around, (⟨c, r⟩ : Sigma Resp) = ⟨.environment, around⟩ → OwnersAre owner around.rows

/-- The check `validate_user_node` makes at login. -/
def Owns (db : Database) (u n : Uuid) : Prop :=
  ∃ row, db.nodes.lookup n = some row ∧ row.userId = u

/-- When an `OpenTunnel` finds its target connected, the sender's user owns the target. -/
def OpensOwnNodes (S : Setup) : Restriction := fun w i c r =>
  ∀ j n info m protocol target username password msgId h cid u, i = .web j →
    (⟨c, r⟩ : Sigma Resp) = ⟨.nodes (.get n), some info⟩ →
    own (.web j) w.trace = ⟨.ws .next, m⟩ :: h →
    Incoming.webFrame? m = some (.openTunnel protocol target username password msgId) →
    Authenticated S (own (.web j) w.trace) cid u → Owns w.state.database u n

/-- When a node reports a tunnel open for a connection of this server, the connection had
logged in as a user who owns the node. -/
def ReportsOwnedTunnels (S : Setup) : Restriction := fun w i c r =>
  ∀ k n m protocol cid sid msgId, i = .node k → (⟨c, r⟩ : Sigma Resp) = ⟨.ws .next, m⟩ →
    Registered w.trace k n →
    Incoming.nodeFrame? m = some (.tunnelOpened protocol cid sid msgId) →
    cid ∈ w.state.issued →
      ∃ j u, Authenticated S (own (.web j) w.trace) cid u ∧ Owns w.state.database u n

/-- Ids are not guessed, owners stay, and the two checks are made. -/
structure Checked (S : Setup) (owner : Uuid → Uuid) (w : World State Tid Resp) (i : Tid) (c : Cmd)
    (r : Resp c) : Prop where
  fixed : OwnersFixed owner w i c r
  unguessed : IdsUnguessed w i c r
  opens : OpensOwnNodes S w i c r
  reports : ReportsOwnedTunnels S w i c r

section Login

variable {S : Setup} {h : Hist Resp} {cid u : Uuid}

/-- The login stands at the beginning of the history. -/
theorem Authenticated.of_cons {e : Sigma Resp} (ha : Authenticated S (e :: h) cid u)
    (hne : ∀ token res, e ≠ ⟨.decodeWebJwt token, res⟩) : Authenticated S h cid u := by
  obtain ⟨token, claims, nodeId, version, msgId, m, hsuf, hm, hp⟩ := ha
  rw [List.suffix_cons_iff] at hsuf
  rcases hsuf with heq | hsuf
  · cases heq
    exact absurd rfl (hne token (.ok claims))
  · exact ⟨token, claims, nodeId, version, msgId, m, hsuf, hm, hp⟩

theorem Authenticated.drew {tr : List (Ev Tid Resp)} {i : Nat}
    (ha : Authenticated S (own (.web i) tr) cid u) : Drew tr i cid := by
  obtain ⟨token, claims, nodeId, version, msgId, m, hsuf, -⟩ := ha
  exact mem_own.1 (hsuf.subset (by simp))

/-- Outside debug builds every connection logged in as some user. -/
theorem LoggedIn.authenticated (hrelease : S.debugAssertions = false) (hl : LoggedIn S h cid) :
    ∃ u, Authenticated S h cid u := by
  obtain ⟨u, ha, -⟩ := hl.2 hrelease
  exact ⟨u, ha⟩

theorem onBehalfOf_relayed {f : WebFrameData} {target : String} {sid : UInt32} {g : NodeFrameData}
    (h : relayed cid f = some (target, sid, g)) : onBehalfOf g = some cid := by
  cases f <;> cases h <;> rfl

/-- Frames on behalf of a connection are sent by web sockets only. -/
theorem May.onBehalf {j : Tid} {k : Nat} {g : NodeFrameData} (hm : May S j h (.node (.send k g)))
    (hg : onBehalfOf g = some cid) : ∃ i, j = .web i := by
  cases j with
  | web i => exact ⟨i, rfl⟩
  | node k =>
      cases hm with
      | login _ hc | loop _ _ hc =>
          cases hc
          cases hg
      | close _ _ hc => cases hc
  | request r =>
      cases hm with
      | create _ hc | verify _ hc | heartbeat _ hc => cases hc
  | _ => cases hm

end Login

section Authorization

variable {S : Setup} {owner : Uuid → Uuid} {rows : DashMap Uuid NodeRow} {users : List Uuid}
  {clock : Time} {cfg : Config State Tid Resp Label}

/-- The table keeps the owners it started with. -/
theorem rows_ownersAre (hrows : OwnersAre owner rows)
    (hr : (machine S).Reach (Checked S owner) (start rows users clock) cfg) :
    OwnersAre owner cfg.world.state.database.nodes := by
  refine server_inv (fun w => OwnersAre owner w.state.database.nodes) hrows ?_ hr
  intro cfg i c o r s _ hI _ hA hexec n row hrow
  rw [World.push_state, (exec_effect hexec).rows] at hrow
  rcases rows_lookup hrow with ⟨old, hold, -, huser⟩ | ⟨around, heq, haround⟩
  · rw [huser]
    exact hI n old hold
  · exact hA.fixed around heq n row haround

theorem owner_of_owns {u n : Uuid} (hrows : OwnersAre owner rows)
    (hr : (machine S).Reach (Checked S owner) (start rows users clock) cfg)
    (h : Owns cfg.world.state.database u n) : owner n = u := by
  obtain ⟨row, hrow, rfl⟩ := h
  exact (rows_ownersAre hrows hr n row hrow).symm

/-- A node that an `OpenTunnel` found is the sender's. -/
theorem owner_of_target (hrows : OwnersAre owner rows)
    (hr : (machine S).Reach (Checked S owner) (start rows users clock) cfg) {i : Nat} {n cid u : Uuid}
    {info : NodeConnection} {m : Incoming} {protocol : UInt8} {target : String}
    {username password : Option String} {msgId : Option UInt32} {h : Hist Resp}
    (hsuf : ⟨.nodes (.get n), some info⟩ :: ⟨.ws .next, m⟩ :: h <:+ own (.web i) cfg.world.trace)
    (hm : m.webFrame? = some (.openTunnel protocol target username password msgId))
    (ha : Authenticated S (⟨.ws .next, m⟩ :: h) cid u) : owner n = u := by
  obtain ⟨past, hpast, hown⟩ := exists_past_of_own hsuf
  refine server_events (fun past e => ∀ h, e = ⟨.web i, .nodes (.get n), some info⟩ →
    own (.web i) past = ⟨.ws .next, m⟩ :: h → Authenticated S (own (.web i) past) cid u →
      owner n = u) ?_ hr _ past hpast h rfl hown (hown ▸ ha)
  intro cfg j c o r s hr _ hA _ h heq hown ha
  cases heq
  exact owner_of_owns hrows hr (hA.opens i n info m _ _ _ _ _ h cid u rfl rfl hown hm ha)

/-- A tunnel that was reported open for a connection is with a node of the connection's user. -/
theorem owner_of_opened (hrows : OwnersAre owner rows)
    (hr : (machine S).Reach (Checked S owner) (start rows users clock) cfg) :
    ∀ n sid cid, Opened cfg.world.trace n sid cid → cid ∈ cfg.world.state.issued →
      ∃ j u, Authenticated S (own (.web j) cfg.world.trace) cid u ∧ owner n = u := by
  refine server_inv (fun w => ∀ n sid cid, Opened w.trace n sid cid → cid ∈ w.state.issued →
    ∃ j u, Authenticated S (own (.web j) w.trace) cid u ∧ owner n = u) ?_ ?_ hr
  · rintro n sid cid ⟨k, protocol, msgId, m, past, hpast, -⟩
    exact absurd (List.suffix_nil.1 hpast) (List.cons_ne_nil _ _)
  · rintro cfg i c o r s hr hI _ hA hexec n sid cid ⟨k, protocol, msgId, hsent⟩ hissued
    rw [World.push_state, (exec_effect hexec).issued] at hissued
    suffices h : ∃ j u, Authenticated S (own (.web j) cfg.world.trace) cid u ∧ owner n = u by
      obtain ⟨j, u, ha, hu⟩ := h
      exact ⟨j, u, ha.mono (own_suffix_cons _ _ _), hu⟩
    rcases sent_cons hsent with hold | ⟨m, heq, hreg, hm⟩
    · have hopened : Opened cfg.world.trace n sid cid := ⟨k, protocol, msgId, hold⟩
      cases c with
      | newV4 =>
          rcases List.mem_cons.1 hissued with rfl | hissued
          · exact absurd rfl (hA.unguessed _ rfl k n _ hold)
          · exact hI n sid cid hopened hissued
      | _ => exact hI n sid cid hopened hissued
    · cases heq
      obtain ⟨j, u, ha, hu⟩ := hA.reports k n m protocol cid sid msgId rfl rfl hreg hm hissued
      exact ⟨j, u, ha, owner_of_owns hrows hr hu⟩

/-- What the task of a web socket sends to a node is on behalf of an owner of the node. -/
theorem owner_of_send (hrelease : S.debugAssertions = false) (hrows : OwnersAre owner rows)
    (hr : (machine S).Reach (Checked S owner) (start rows users clock) cfg) {i k : Nat}
    {g : NodeFrameData} {n cid : Uuid}
    (hmay : WebMay S i (own (.web i) cfg.world.trace) (.node (.send k g)))
    (hg : onBehalfOf g = some cid) (hreg : Registered cfg.world.trace k n) :
    ∃ u, Authenticated S (own (.web i) cfg.world.trace) cid u ∧ owner n = u := by
  have hmem {e : Sigma Resp} (h : e ∈ own (.web i) cfg.world.trace) :
      (⟨.web i, e.1, e.2⟩ : Ev Tid Resp) ∈ cfg.world.trace := mem_own.1 h
  generalize hown : own (.web i) cfg.world.trace = h at hmay hmem
  rcases hmay with hc | ⟨cid', hl, hc⟩
  · cases hc
  · obtain ⟨u, ha⟩ := hl.authenticated hrelease
    cases hc with
    | @forward h m f target sid g t m' info hm hf ht =>
        obtain rfl := Option.some.inj ((onBehalfOf_relayed hf).symm.trans hg)
        obtain rfl := registered_unique hr hreg (registered_of_get hr (hmem List.mem_cons_self))
        obtain ⟨rfl, hopened⟩ := opened_of_get hr
          (hmem (List.mem_cons_of_mem _ List.mem_cons_self))
        rw [← hown] at hl
        obtain ⟨j, u', ha', hu⟩ := owner_of_opened hrows hr _ _ _ hopened
          ((mem_issued_iff hr).2 ⟨i, hl.drew⟩)
        obtain rfl := drew_unique hr hl.drew ha'.drew
        exact ⟨u', hown ▸ ha', hu⟩
    | openTunnel hm ht =>
        cases hg
        obtain rfl := registered_unique hr hreg (registered_of_get hr (hmem List.mem_cons_self))
        have hsuf := List.suffix_rfl (l := own (Tid.web i) cfg.world.trace)
        nth_rewrite 1 [hown] at hsuf
        refine ⟨u, ha, owner_of_target hrows hr hsuf hm (ha.of_cons ?_)⟩
        intro token res heq
        cases heq
    | disconnect => cases hg

/-- **Web-to-node authorization.**  In a release build, in every run in which the two missing
checks would have passed, whatever is enqueued to a node on behalf of a connection is on
behalf of the node's owner. -/
theorem web_authorized (hrelease : S.debugAssertions = false) (hrows : OwnersAre owner rows)
    (hr : (machine S).Reach (Checked S owner) (start rows users clock) cfg) :
    WebAuthorized S owner cfg.world.trace := by
  intro j k g past n cid hsuf
  refine server_events (fun past e => e = ⟨j, .node (.send k g), true⟩ → onBehalfOf g = some cid →
    Registered past k n → ∃ i u, j = .web i ∧ Authenticated S (own (.web i) past) cid u ∧
      owner n = u) ?_ hr _ past hsuf rfl
  intro cfg j c o r s hr hmay _ _ heq hg hreg
  cases heq
  obtain ⟨i, rfl⟩ := hmay.onBehalf hg
  obtain ⟨u, ha, hu⟩ := owner_of_send hrelease hrows hr hmay hg hreg
  exact ⟨i, u, rfl, ha, hu⟩

end Authorization

/-! ## An owner, and someone else -/

/-- The connection and the user a history logged in, if it did. -/
def authenticatedAs (S : Setup) (h : Hist Resp) : Option (Uuid × Uuid) :=
  match h.reverse with
  | ⟨.ws .next, m⟩ :: ⟨.newV4, cid⟩ :: ⟨.decodeWebJwt token, .ok claims⟩ :: _ =>
      match Incoming.webFrame? m, S.crates.parseUuid claims.sub with
      | some (.auth token' _ _ _), .ok u => if token' = token then some (cid, u) else none
      | _, _ => none
  | _ => none

theorem authenticatedAs_eq_some {S : Setup} {h : Hist Resp} {cid u : Uuid} :
    authenticatedAs S h = some (cid, u) ↔ Authenticated S h cid u := by
  constructor
  · intro heq
    unfold authenticatedAs at heq
    split at heq
    · next m cid' token claims rest hrev =>
        split at heq
        · next token' nodeId version msgId u' hm hp =>
            split at heq
            · next htoken =>
                cases heq
                subst htoken
                refine ⟨token', claims, nodeId, version, msgId, m, ?_, hm, hp⟩
                rw [← List.reverse_prefix, hrev]
                exact ⟨rest, rfl⟩
            · cases heq
        · cases heq
    · cases heq
  · rintro ⟨token, claims, nodeId, version, msgId, m, hsuf, hm, hp⟩
    obtain ⟨rest, hrest⟩ := List.reverse_prefix.2 hsuf
    have hrev : h.reverse = ⟨.ws .next, m⟩ :: ⟨.newV4, cid⟩ :: ⟨.decodeWebJwt token, .ok claims⟩ ::
        rest := hrest.symm
    simp [authenticatedAs, hrev, hm, hp]

instance (S : Setup) (h : Hist Resp) (cid u : Uuid) : Decidable (Authenticated S h cid u) :=
  decidable_of_iff _ authenticatedAs_eq_some

instance (db : Database) (u n : Uuid) : Decidable (Owns db u n) :=
  decidable_of_iff ((db.nodes.lookup n).any (fun row => row.userId == u) = true) (by
    simp [Owns, Option.any_eq_true])

/-- The owners of the sample's nodes. -/
def sampleOwner (n : Uuid) : Uuid := if n = 11 then 2 else 1

theorem sampleRows_ownersAre : OwnersAre sampleOwner sampleRows := by
  intro n row hrow
  by_cases h11 : n = 11
  · subst h11
    rw [sampleRows, AList.lookup_insert] at hrow
    cases hrow
    rfl
  · rw [sampleRows, AList.lookup_insert_ne h11] at hrow
    by_cases h10 : n = 10
    · subst h10
      rw [AList.lookup_insert] at hrow
      cases hrow
      rfl
    · rw [AList.lookup_insert_ne h10, AList.lookup_empty] at hrow
      cases hrow

def Cmd.isEnvironment : Cmd → Bool
  | .environment => true
  | _ => false

/-- Whether a command of the sample meets the assumptions: the table is not written, and ids
are not guessed. -/
def assumed (w : World State Tid Resp) (i : Tid) (c : Cmd) (r : Resp c) : Bool :=
  unguessed w i c r && !c.isEnvironment

theorem assumed_sound (w : World State Tid Resp) (i : Tid) (c : Cmd) (r : Resp c)
    (h : assumed w i c r = true) : OwnersFixed sampleOwner w i c r ∧ IdsUnguessed w i c r := by
  rw [assumed, Bool.and_eq_true] at h
  refine ⟨?_, unguessed_sound w i c r h.1⟩
  intro around heq
  cases heq
  exact absurd h.2 Bool.false_ne_true

/-- Whether a lookup by a web socket is for a node of its user. -/
def opensOwn (S : Setup) (w : World State Tid Resp) : Tid → (c : Cmd) → Resp c → Bool
  | .web j, .nodes (.get n), _ =>
      match authenticatedAs S (own (.web j) w.trace) with
      | some (_, u) => decide (Owns w.state.database u n)
      | none => true
  | _, _, _ => true

theorem opensOwn_sound (S : Setup) (w : World State Tid Resp) (i : Tid) (c : Cmd) (r : Resp c)
    (h : opensOwn S w i c r = true) : OpensOwnNodes S w i c r := by
  rintro j n info m protocol target username password msgId hist cid u rfl heq - - ha
  cases heq
  simp only [opensOwn, authenticatedAs_eq_some.2 ha] at h
  exact of_decide_eq_true h

/-- Whether a tunnel is reported for the first browser, logged in as user `1`, by a node of
user `1`. -/
def reportsOwned (S : Setup) (w : World State Tid Resp) : Tid → (c : Cmd) → Resp c → Bool
  | .node k, .ws .next, m =>
      match Incoming.nodeFrame? m with
      | some (.tunnelOpened _ cid _ _) =>
          decide (Authenticated S (own (.web 0) w.trace) cid 1) && w.trace.all fun
            | ⟨.node j, .nodes (.insert n _), _⟩ => j != k || decide (Owns w.state.database 1 n)
            | _ => true
      | _ => true
  | _, _, _ => true

theorem reportsOwned_sound (S : Setup) (w : World State Tid Resp) (i : Tid) (c : Cmd) (r : Resp c)
    (h : reportsOwned S w i c r = true) : ReportsOwnedTunnels S w i c r := by
  rintro k n m protocol cid sid msgId rfl heq ⟨conn, r', hmem⟩ hm -
  cases heq
  simp only [reportsOwned, hm, Bool.and_eq_true, decide_eq_true_eq] at h
  have howns := List.all_eq_true.1 h.2 _ hmem
  refine ⟨0, 1, h.1, ?_⟩
  simpa using howns

/-- User `1` sends a byte through the tunnel of `tunnelSchedule`. -/
def dataSchedule : List (Tid × Choice) :=
  tunnelSchedule ++ idle (.web 0) 1 ++
    [(.web 0, fromWeb (.tunnelData 0 (Uuid.display 10) 5 [104]))] ++ idle (.web 0) 3

/-- What client `77` typed was just forwarded to node `10`. -/
def forwardsData : List (Ev Tid Resp) → Bool
  | ⟨.web 0, .node (.send 0 (.tunnelData 0 77 5 [104])), true⟩ :: past =>
      decide (Registered past 0 10)
  | _ => false

theorem web_authorized_of_data :
    ∃ cfg past, (machine (sample loginRequests)).Reach
        (Checked (sample loginRequests) sampleOwner) sampleStart cfg ∧
      (⟨.web 0, .node (.send 0 (.tunnelData 0 77 5 [104])), true⟩ : Ev Tid Resp) :: past
        <:+ cfg.world.trace ∧
      ∃ u, Authenticated (sample loginRequests) (own (.web 0) past) 77 u ∧ sampleOwner 10 = u := by
  have hrun : ((machine (sample loginRequests)).run
      (fun w i c r => assumed w i c r && opensOwn (sample loginRequests) w i c r &&
        reportsOwned (sample loginRequests) w i c r) dataSchedule sampleStart).any
      (fun cfg => forwardsData cfg.world.trace) = true := by
    decide +kernel
  obtain ⟨cfg, hr, hend⟩ := Machine.reach_of_run (A := Checked (sample loginRequests) sampleOwner)
    (fun w i c r h => by
      rw [Bool.and_eq_true, Bool.and_eq_true] at h
      exact ⟨(assumed_sound w i c r h.1.1).1, (assumed_sound w i c r h.1.1).2,
        opensOwn_sound _ w i c r h.1.2, reportsOwned_sound _ w i c r h.2⟩) hrun
  unfold forwardsData at hend
  split at hend
  · next past htrace =>
      have hsuf : (⟨.web 0, .node (.send 0 (.tunnelData 0 77 5 [104])), true⟩ : Ev Tid Resp) :: past
          <:+ cfg.world.trace := by
        rw [htrace]
        exact List.suffix_rfl
      obtain ⟨i, u, heq, ha, hu⟩ := web_authorized rfl sampleRows_ownersAre hr _ _ _ past 10 77 hsuf
        rfl (of_decide_eq_true hend)
      cases heq
      exact ⟨cfg, past, hr, hsuf, u, ha, hu⟩
  · cases hend

/-- User `2` opens a tunnel to node `10` of user `1`. -/
def foreignSchedule : List (Tid × Choice) :=
  nodeLogin 0 10 ++ webLogin 0 2 11 77 ++ idle (.web 0) 1 ++
    [(.web 0, fromWeb (.openTunnel 0 (Uuid.display 10) none none none))] ++ idle (.web 0) 2

/-- A request to open a tunnel on node `10` was just forwarded for a client that is not known to
be of user `1`. -/
def opensForeign : List (Ev Tid Resp) → Bool
  | ⟨.web 0, .node (.send 0 (.openTunnel _ 77 _ _ _)), true⟩ :: past =>
      decide (Registered past 0 10) &&
        decide (¬ Authenticated (sample loginRequests) (own (.web 0) past) 77 1)
  | _ => false

/-- **A foreign node is addressed.**  Without the check any user opens a tunnel to any
connected node. -/
theorem foreign_node_addressed :
    ¬ ∀ cfg, (machine (sample loginRequests)).Reach
        (fun w i c r => OwnersFixed sampleOwner w i c r ∧ IdsUnguessed w i c r) sampleStart cfg →
      WebAuthorized (sample loginRequests) sampleOwner cfg.world.trace := by
  have hrun : ((machine (sample loginRequests)).run assumed foreignSchedule sampleStart).any
      (fun cfg => opensForeign cfg.world.trace) = true := by
    decide +kernel
  obtain ⟨cfg, hr, hend⟩ := Machine.reach_of_run assumed_sound hrun
  intro hall
  unfold opensForeign at hend
  split at hend
  · next protocol username password msgId past htrace =>
      have hsuf : (⟨.web 0, .node (.send 0 (.openTunnel protocol 77 username password msgId)),
          true⟩ : Ev Tid Resp) :: past <:+ cfg.world.trace := by
        rw [htrace]
        exact List.suffix_rfl
      rw [Bool.and_eq_true, decide_eq_true_eq, decide_eq_true_eq] at hend
      obtain ⟨i, u, heq, ha, hu⟩ := hall cfg hr _ _ _ past 10 77 hsuf rfl hend.1
      cases heq
      cases hu
      exact hend.2 ha
  · cases hend

end Phirepass.Server
