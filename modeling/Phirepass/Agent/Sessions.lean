/-
# `Phirepass.Agent.Sessions` — what the maps and queues of the agent stand for

In every reachable world

    tunnels[t]                        never changes, and is what task t runs
    sessions[(cid, sid)] = handle     the handle of a tunnel with that cid, sid
    uploads[(cid, id)]                was started by a tunnel of cid
    the socket was sent a frame       that a task put into its queue

and a session id determines its tunnel within one process, as long as the
counter has not come round (`tunnel_of_sid`).
-/
import Phirepass.Agent.Rules

namespace Phirepass.Agent

open Rust Interleave

/-- The task `t` runs the tunnel `tn`. -/
def IsTunnel (tr : List (Ev Tid Resp)) (t : Nat) (tn : Tunnel) : Prop :=
  (⟨.tunnel t, .begin t, tn⟩ : Ev Tid Resp) ∈ tr

/-- The reader of connection `k` read the frame `g`. -/
def Read (tr : List (Ev Tid Resp)) (k : Nat) (g : NodeFrameData) : Prop :=
  ∃ m, (⟨.reader k, .ws k .next, m⟩ : Ev Tid Resp) ∈ tr ∧ m.nodeFrame? = some g

/-- Task `i` put the frame `g` into the queue of connection `k`. -/
def Emitted (tr : List (Ev Tid Resp)) (i : Tid) (k : Nat) (g : NodeFrameData) : Prop :=
  ∃ c r, (⟨i, c, r⟩ : Ev Tid Resp) ∈ tr ∧ c.Emits k g r

/-- The tunnel task `t` started the upload `key` of connection `k`. -/
def StartedUpload (tr : List (Ev Tid Resp)) (t k : Nat) (key : Key) : Prop :=
  ∃ upload r, (⟨.tunnel t, .uploads k (.insert key upload), r⟩ : Ev Tid Resp) ∈ tr

/-- The tunnel task `t` started the download `key` of connection `k`. -/
def StartedDownload (tr : List (Ev Tid Resp)) (t k : Nat) (key : Key) : Prop :=
  ∃ download r, (⟨.tunnel t, .downloads k (.insert key download), r⟩ : Ev Tid Resp) ∈ tr

section Monotone

variable {tr tr' : List (Ev Tid Resp)} {t k : Nat} {tn : Tunnel} {g : NodeFrameData} {i : Tid}

theorem IsTunnel.mono (hs : tr <:+ tr') (h : IsTunnel tr t tn) : IsTunnel tr' t tn := hs.subset h

theorem Emitted.mono (hs : tr <:+ tr') (h : Emitted tr i k g) : Emitted tr' i k g := by
  obtain ⟨c, r, hmem, hemit⟩ := h
  exact ⟨c, r, hs.subset hmem, hemit⟩

theorem Began.isTunnel (hb : Began t tn (own (.tunnel t) tr)) : IsTunnel tr t tn :=
  mem_own.1 (hb.subset List.mem_cons_self)

end Monotone

section Sessions

variable {S : Setup} {A : Restriction} {cfg : Config State Tid Resp Label}

/-! ## Tunnels -/

/-- A tunnel stays what it is. -/
theorem tunnels_mono {i : Tid} {c : Cmd} {o : Choice} {r : Resp c} {s s' : State} {t : Nat}
    {tn : Tunnel} (hexec : exec S i c o s = some (r, s')) (h : s.tunnels[t]? = some tn) :
    s'.tunnels[t]? = some tn := by
  rw [(exec_effect hexec).tunnels]
  cases c with
  | spawnTunnel new =>
      obtain ⟨hlt, -⟩ := List.getElem?_eq_some_iff.1 h
      rw [Cmd.tunnelsAfter, List.getElem?_append_left hlt, h]
  | _ => exact h

/-- The number a spawned tunnel got is its place. -/
theorem tunnel_of_spawn (hr : (machine S).Reach A start cfg) :
    ∀ i t tn, (⟨i, .spawnTunnel tn, t⟩ : Ev Tid Resp) ∈ cfg.world.trace →
      cfg.world.state.tunnels[t]? = some tn := by
  refine agent_inv (fun w => ∀ i t tn, (⟨i, .spawnTunnel tn, t⟩ : Ev Tid Resp) ∈ w.trace →
    w.state.tunnels[t]? = some tn) ?_ ?_ hr
  · intro i t tn hmem
    cases hmem
  · intro cfg j c o r s _ hI _ _ hexec i t tn hmem
    rw [World.push_trace, List.mem_cons] at hmem
    rcases hmem with heq | hmem
    · cases heq
      exact exec_spawnTunnel hexec
    · exact tunnels_mono hexec (hI i t tn hmem)

/-- A task runs the tunnel at its place. -/
theorem tunnel_of_begin (hr : (machine S).Reach A start cfg) :
    ∀ t tn, IsTunnel cfg.world.trace t tn → cfg.world.state.tunnels[t]? = some tn := by
  refine agent_inv (fun w => ∀ t tn, IsTunnel w.trace t tn → w.state.tunnels[t]? = some tn)
    ?_ ?_ hr
  · intro t tn hmem
    cases hmem
  · intro cfg j c o r s _ hI _ _ hexec t tn hmem
    rw [IsTunnel, World.push_trace, List.mem_cons] at hmem
    rcases hmem with heq | hmem
    · cases heq
      exact tunnels_mono hexec (exec_begin hexec)
    · exact tunnels_mono hexec (hI t tn hmem)

theorem isTunnel_unique (hr : (machine S).Reach A start cfg) {t : Nat} {tn tn' : Tunnel}
    (h : IsTunnel cfg.world.trace t tn) (h' : IsTunnel cfg.world.trace t tn') : tn = tn' := by
  have heq := tunnel_of_begin hr t tn h
  rw [tunnel_of_begin hr t tn' h'] at heq
  exact (Option.some_inj.1 heq).symm

/-- A tunnel was spawned by the reader of its connection, and got its place as its number. -/
theorem spawned_of_tunnel (hr : (machine S).Reach A start cfg) :
    ∀ t tn, cfg.world.state.tunnels[t]? = some tn →
      (⟨.reader tn.conn, .spawnTunnel tn, t⟩ : Ev Tid Resp) ∈ cfg.world.trace := by
  refine agent_inv (fun w => ∀ t tn, w.state.tunnels[t]? = some tn →
    (⟨.reader tn.conn, .spawnTunnel tn, t⟩ : Ev Tid Resp) ∈ w.trace) ?_ ?_ hr
  · intro t tn htn
    cases htn
  · intro cfg i c o r s _ hI hmay _ hexec t tn htn
    rw [World.push_state, (exec_effect hexec).tunnels] at htn
    have hold (h : cfg.world.state.tunnels[t]? = some tn) :
        (⟨.reader tn.conn, .spawnTunnel tn, t⟩ : Ev Tid Resp) ∈ (cfg.world.push i c r s).trace :=
      List.mem_cons_of_mem _ (hI t tn h)
    cases c with
    | spawnTunnel new =>
        obtain ⟨rfl, -⟩ := hmay.spawns
        rw [Cmd.tunnelsAfter, List.getElem?_append] at htn
        split at htn
        · exact hold htn
        · next hge =>
            rw [List.getElem?_singleton] at htn
            split at htn
            · next hzero =>
                cases htn
                cases hexec
                obtain rfl : t = cfg.world.state.tunnels.length := by omega
                exact List.mem_cons_self
            · cases htn
    | _ => exact hold htn

/-! ## Sessions -/

@[simp] theorem Tunnel.task_handle (tn : Tunnel) (t : Nat) : (tn.handle t).task = t := by
  unfold Tunnel.handle
  split <;> rfl

/-- An entry of `sessions` belongs to a tunnel with its connection id and session id. -/
theorem tunnel_of_session (hr : (machine S).Reach A start cfg) :
    ∀ k key handle, (cfg.world.state.sessions k).lookup key = some handle →
      ∃ tn, cfg.world.state.tunnels[handle.task]? = some tn ∧ tn.conn = k ∧
        key = (tn.cid, tn.sid) ∧ handle = tn.handle handle.task := by
  refine agent_inv (fun w => ∀ k key handle, (w.state.sessions k).lookup key = some handle →
    ∃ tn, w.state.tunnels[handle.task]? = some tn ∧ tn.conn = k ∧ key = (tn.cid, tn.sid) ∧
      handle = tn.handle handle.task) ?_ ?_ hr
  · intro k key handle hentry
    cases hentry
  · intro cfg i c o r s hr hI hmay _ hexec k key handle hentry
    rw [World.push_state, (exec_effect hexec).sessions] at hentry
    have hold (h : (cfg.world.state.sessions k).lookup key = some handle) :
        ∃ tn, s.tunnels[handle.task]? = some tn ∧ tn.conn = k ∧ key = (tn.cid, tn.sid) ∧
          handle = tn.handle handle.task := by
      obtain ⟨tn, htn, hconn, hkey, hhandle⟩ := hI k key handle h
      exact ⟨tn, tunnels_mono hexec htn, hconn, hkey, hhandle⟩
    cases c with
    | sessions j op =>
        rcases eq_or_ne k j with rfl | hj
        · rw [Cmd.sessionsAfter, Function.update_self] at hentry
          rcases MapOp.lookup_apply hentry with h | rfl | ⟨f, old, rfl, -, -⟩
          · exact hold h
          · obtain ⟨tn, t, h', rfl, hown, hconn, hkey, rfl⟩ := hmay.enters
            have hspawn : (⟨.spawnTunnel tn, t⟩ : Sigma Resp) ∈ own (.reader k) cfg.world.trace := by
              rw [hown]
              exact List.mem_cons_self
            rw [World.push_state, Tunnel.task_handle]
            exact ⟨tn, tunnels_mono hexec (tunnel_of_spawn hr _ t tn (mem_own.1 hspawn)), hconn,
              hkey, rfl⟩
          · exact absurd hmay May.not_modify
        · rw [Cmd.sessionsAfter, Function.update_of_ne hj] at hentry
          exact hold hentry
    | _ => exact hold hentry

/-- So does one that was found. -/
theorem tunnel_of_get (hr : (machine S).Reach A start cfg) :
    ∀ i k key handle, (⟨i, .sessions k (.get key), some handle⟩ : Ev Tid Resp) ∈ cfg.world.trace →
      ∃ tn, cfg.world.state.tunnels[handle.task]? = some tn ∧ tn.conn = k ∧
        key = (tn.cid, tn.sid) ∧ handle = tn.handle handle.task := by
  refine agent_inv (fun w => ∀ i k key handle,
    (⟨i, .sessions k (.get key), some handle⟩ : Ev Tid Resp) ∈ w.trace →
      ∃ tn, w.state.tunnels[handle.task]? = some tn ∧ tn.conn = k ∧ key = (tn.cid, tn.sid) ∧
        handle = tn.handle handle.task) ?_ ?_ hr
  · intro i k key handle hmem
    cases hmem
  · intro cfg j c o r s hr hI _ _ hexec i k key handle hmem
    have hkeep {tn : Tunnel} (h : cfg.world.state.tunnels[handle.task]? = some tn) :=
      tunnels_mono hexec h
    rw [World.push_trace, List.mem_cons] at hmem
    rcases hmem with heq | hmem
    · cases heq
      have hget := exec_sessions_answer hexec
      simp only [MapOp.answer, Option.some.injEq] at hget
      obtain ⟨tn, htn, hrest⟩ := tunnel_of_session hr k key handle hget
      exact ⟨tn, hkeep htn, hrest⟩
    · obtain ⟨tn, htn, hrest⟩ := hI i k key handle hmem
      exact ⟨tn, hkeep htn, hrest⟩

/-! ## Transfers -/

/-- An upload that was found had been started by a tunnel of the connection in its key. -/
theorem startedUpload_of_finds (hr : (machine S).Reach A start cfg) {i : Tid} {k : Nat}
    {op : MapOp Key FileUpload} {r : op.Resp} {key : Key} (hf : op.Finds key r)
    (hmem : (⟨i, .uploads k op, r⟩ : Ev Tid Resp) ∈ cfg.world.trace) :
    ∃ t tn, IsTunnel cfg.world.trace t tn ∧ tn.conn = k ∧ tn.cid = key.1 ∧
      StartedUpload cfg.world.trace t k key := by
  obtain ⟨past, hsuf⟩ := exists_past hmem
  have hev := agent_events (fun past e => ∀ i k op r key, e = ⟨i, .uploads k op, r⟩ →
    op.Finds key r → ∃ i upload r', (⟨i, .uploads k (.insert key upload), r'⟩ : Ev Tid Resp) ∈ past)
    ?_ hr _ past hsuf i k op r key rfl hf
  · obtain ⟨i, upload, r', hins⟩ := hev
    have hins' := ((List.suffix_cons _ _).trans hsuf).subset hins
    obtain ⟨past', hsuf'⟩ := exists_past hins'
    obtain ⟨t, tn, rfl, htn, hconn, hcid⟩ := agent_events (fun past e => ∀ i k key upload r,
      e = ⟨i, .uploads k (.insert key upload), r⟩ → ∃ t tn, i = .tunnel t ∧ IsTunnel past t tn ∧
        tn.conn = k ∧ key.1 = tn.cid) (by
          intro cfg j c o r s _ hmay _ _ i k key upload r' heq
          cases heq
          obtain ⟨t, tn, rfl, hb, hconn, hcid⟩ := hmay.startsUpload
          exact ⟨t, tn, rfl, hb.isTunnel, hconn, hcid⟩) hr _ past' hsuf' i k key upload r' rfl
    exact ⟨t, tn, htn.mono ((List.suffix_cons _ _).trans hsuf'), hconn, hcid.symm, upload, r', hins'⟩
  · intro cfg j c o r s hr _ _ hexec i k op r' key heq hf
    cases heq
    have hfound := MapOp.isSome_of_finds (exec_uploads_answer hexec) hf
    have horigin := hr.origin (fun s b => ((s.uploads b.1).lookup b.2).isSome = true)
      (fun e b => ∃ upload r, (⟨e.cmd, e.resp⟩ : Sigma Resp) =
        ⟨.uploads b.1 (.insert b.2 upload), r⟩) ?_ ?_ (b := (k, key)) hfound
    · obtain ⟨⟨i, c, r⟩, hmem, upload, r', heq⟩ := horigin
      cases heq
      exact ⟨i, upload, _, hmem⟩
    · intro b hb
      cases hb
    · intro i c o s r s' b hexec hb
      rw [(exec_effect (i := i) hexec).uploads] at hb
      cases c with
      | uploads j op =>
          rcases eq_or_ne b.1 j with rfl | hj
          · rw [Cmd.uploadsAfter, Function.update_self] at hb
            rcases MapOp.isSome_apply hb with hold | ⟨upload, rfl⟩
            · exact .inl hold
            · exact .inr ⟨upload, r, rfl⟩
          · rw [Cmd.uploadsAfter, Function.update_of_ne hj] at hb
            exact .inl hb
      | _ => exact .inl hb

/-- So had a download. -/
theorem startedDownload_of_finds (hr : (machine S).Reach A start cfg) {i : Tid} {k : Nat}
    {op : MapOp Key FileDownload} {r : op.Resp} {key : Key} (hf : op.Finds key r)
    (hmem : (⟨i, .downloads k op, r⟩ : Ev Tid Resp) ∈ cfg.world.trace) :
    ∃ t tn, IsTunnel cfg.world.trace t tn ∧ tn.conn = k ∧ tn.cid = key.1 ∧
      StartedDownload cfg.world.trace t k key := by
  obtain ⟨past, hsuf⟩ := exists_past hmem
  have hev := agent_events (fun past e => ∀ i k op r key, e = ⟨i, .downloads k op, r⟩ →
    op.Finds key r →
      ∃ i download r', (⟨i, .downloads k (.insert key download), r'⟩ : Ev Tid Resp) ∈ past)
    ?_ hr _ past hsuf i k op r key rfl hf
  · obtain ⟨i, download, r', hins⟩ := hev
    have hins' := ((List.suffix_cons _ _).trans hsuf).subset hins
    obtain ⟨past', hsuf'⟩ := exists_past hins'
    obtain ⟨t, tn, rfl, htn, hconn, hcid⟩ := agent_events (fun past e => ∀ i k key download r,
      e = ⟨i, .downloads k (.insert key download), r⟩ → ∃ t tn, i = .tunnel t ∧ IsTunnel past t tn ∧
        tn.conn = k ∧ key.1 = tn.cid) (by
          intro cfg j c o r s _ hmay _ _ i k key download r' heq
          cases heq
          obtain ⟨t, tn, rfl, hb, hconn, hcid⟩ := hmay.startsDownload
          exact ⟨t, tn, rfl, hb.isTunnel, hconn, hcid⟩) hr _ past' hsuf' i k key download r' rfl
    exact ⟨t, tn, htn.mono ((List.suffix_cons _ _).trans hsuf'), hconn, hcid.symm, download, r',
      hins'⟩
  · intro cfg j c o r s hr _ _ hexec i k op r' key heq hf
    cases heq
    have hfound := MapOp.isSome_of_finds (exec_downloads_answer hexec) hf
    have horigin := hr.origin (fun s b => ((s.downloads b.1).lookup b.2).isSome = true)
      (fun e b => ∃ download r, (⟨e.cmd, e.resp⟩ : Sigma Resp) =
        ⟨.downloads b.1 (.insert b.2 download), r⟩) ?_ ?_ (b := (k, key)) hfound
    · obtain ⟨⟨i, c, r⟩, hmem, download, r', heq⟩ := horigin
      cases heq
      exact ⟨i, download, _, hmem⟩
    · intro b hb
      cases hb
    · intro i c o s r s' b hexec hb
      rw [(exec_effect (i := i) hexec).downloads] at hb
      cases c with
      | downloads j op =>
          rcases eq_or_ne b.1 j with rfl | hj
          · rw [Cmd.downloadsAfter, Function.update_self] at hb
            rcases MapOp.isSome_apply hb with hold | ⟨download, rfl⟩
            · exact .inl hold
            · exact .inr ⟨download, r, rfl⟩
          · rw [Cmd.downloadsAfter, Function.update_of_ne hj] at hb
            exact .inl hb
      | _ => exact .inl hb

/-! ## What goes out -/

/-- What is sent on a connection, the login apart, was put into its queue. -/
theorem emitted_of_written (hr : (machine S).Reach A start cfg) {j : Tid} {k : Nat} {f : Frame}
    {g : NodeFrameData} {sent : Bool} (hf : f.data = .node g)
    (hg : ∀ token nodeId version, g ≠ .auth token nodeId version)
    (hmem : (⟨j, .ws k (.send f), sent⟩ : Ev Tid Resp) ∈ cfg.world.trace) :
    ∃ i, Emitted cfg.world.trace i k g := by
  have hrecv : (⟨.writer k, .out (.recv k), some g⟩ : Ev Tid Resp) ∈ cfg.world.trace := by
    obtain ⟨past, hsuf⟩ := exists_past hmem
    refine ((List.suffix_cons _ _).trans hsuf).subset (agent_events (fun past e =>
      e = ⟨j, .ws k (.send f), sent⟩ →
        (⟨.writer k, .out (.recv k), some g⟩ : Ev Tid Resp) ∈ past) ?_ hr _ past hsuf rfl)
    intro cfg i c o r s _ hmay _ _ heq
    cases heq
    rcases hmay.writes with ⟨g', h', rfl, rfl, hown⟩ | ⟨token, nodeId, version, rfl⟩
    · cases hf
      rw [← mem_own, hown]
      exact List.mem_cons_self
    · cases hf
      exact absurd rfl (hg token nodeId version)
  obtain ⟨past, hsuf⟩ := exists_past hrecv
  have hev := agent_events (fun past e => e = ⟨.writer k, .out (.recv k), some g⟩ →
    ∃ i, Emitted past i k g) ?_ hr _ past hsuf rfl
  · obtain ⟨i, hemit⟩ := hev
    exact ⟨i, hemit.mono ((List.suffix_cons _ _).trans hsuf)⟩
  · intro cfg i c o r s hr _ _ hexec heq
    cases heq
    obtain ⟨⟨i, c, r⟩, hmem, hemit⟩ := hr.origin (fun s b => b.2 ∈ (s.out b.1).queue)
      (fun e b => e.cmd.Emits b.1 b.2 e.resp) (fun _ hb => absurd hb List.not_mem_nil)
      (fun i _ _ _ _ _ b hexec hb => (exec_effect (i := i) hexec).out b.1 b.2 hb)
      (b := (k, g)) (exec_out_recv hexec)
    exact ⟨i, c, r, hmem, hemit⟩

/-- What names a session was emitted by the tunnel of that session, on its own connection. -/
theorem tunnel_of_emitted (hr : (machine S).Reach A start cfg) {i : Tid} {k : Nat}
    {g : NodeFrameData} (h : Emitted cfg.world.trace i k g) :
    (∃ t tn, i = .tunnel t ∧ IsTunnel cfg.world.trace t tn ∧ tn.conn = k ∧ Emits tn g) ∨
      (∃ frame cid, g = .webFrame frame (.connectionId cid) ∧ frame.reportsTunnel = false) ∨
      ∃ stats sentAt, g = .heartbeat stats sentAt := by
  obtain ⟨c, r, hmem, hemit⟩ := h
  obtain ⟨past, hsuf⟩ := exists_past hmem
  have hev := agent_events (fun past e => e.cmd.Emits k g e.resp →
    (∃ t tn, e.tid = .tunnel t ∧ IsTunnel past t tn ∧ tn.conn = k ∧ Emits tn g) ∨
      (∃ frame cid, g = .webFrame frame (.connectionId cid) ∧ frame.reportsTunnel = false) ∨
      ∃ stats sentAt, g = .heartbeat stats sentAt) ?_ hr _ past hsuf hemit
  · rcases hev with ⟨t, tn, hi, htn, hconn, hg⟩ | hother
    · exact .inl ⟨t, tn, hi, htn.mono ((List.suffix_cons _ _).trans hsuf), hconn, hg⟩
    · exact .inr hother
  · intro cfg i c o r s _ hmay _ _ hemit
    rcases hmay.emits hemit with ⟨t, tn, rfl, hb, hconn, hg⟩ | hother
    · exact .inl ⟨t, tn, rfl, hb.isTunnel, hconn, hg⟩
    · exact .inr hother

end Sessions

/-! ## Session ids -/

/-- The event draws a session id in process `p`. -/
def drawsSid (S : Setup) (p : Nat) : Ev Tid Resp → Bool
  | ⟨_, .generateSessionId k, _⟩ => S.proc k == p
  | _ => false

/-- How many session ids process `p` has drawn. -/
def drawn (S : Setup) (p : Nat) (tr : List (Ev Tid Resp)) : Nat := tr.countP (drawsSid S p)

/-- A session id is only drawn while the counter of the process has not come round. -/
def CounterLasts (S : Setup) : Restriction := fun w _ c _ =>
  ∀ k, c = .generateSessionId k → drawn S (S.proc k) w.trace < 2 ^ 32

section Sids

variable {S : Setup} {A : Restriction} {cfg : Config State Tid Resp Label}

theorem drawn_draw {i : Tid} {k : Nat} {sid : UInt32} {tr : List (Ev Tid Resp)} :
    drawn S (S.proc k) (⟨i, .generateSessionId k, sid⟩ :: tr) = drawn S (S.proc k) tr + 1 :=
  List.countP_cons_of_pos (beq_self_eq_true (S.proc k))

theorem drawn_draw_of_ne {i : Tid} {k p : Nat} {sid : UInt32} {tr : List (Ev Tid Resp)}
    (hp : p ≠ S.proc k) : drawn S p (⟨i, .generateSessionId k, sid⟩ :: tr) = drawn S p tr :=
  List.countP_cons_of_neg fun h => hp (beq_iff_eq.1 h).symm

/-- The counter stands one above the number of ids drawn. -/
theorem sessionId_eq (hr : (machine S).Reach A start cfg) (p : Nat) :
    cfg.world.state.sessionId p = UInt32.ofNat (1 + drawn S p cfg.world.trace) := by
  refine agent_inv (fun w => w.state.sessionId p = UInt32.ofNat (1 + drawn S p w.trace)) rfl ?_ hr
  intro cfg i c o r s _ hI _ _ hexec
  rw [World.push_state, World.push_trace, (exec_effect hexec).sessionId]
  cases c with
  | generateSessionId k =>
      rcases eq_or_ne p (S.proc k) with rfl | hp
      · rw [Cmd.sessionIdAfter, Function.update_self, hI, drawn_draw, ← Nat.add_assoc,
          UInt32.ofNat_add _ 1]
        rfl
      · rw [Cmd.sessionIdAfter, Function.update_of_ne hp, hI, drawn_draw_of_ne hp]
  | _ => exact hI

/-- The id that was drawn. -/
theorem sid_of_draw (hr : (machine S).Reach A start cfg) {i : Tid} {k : Nat} {sid : UInt32}
    {past : List (Ev Tid Resp)} (h : ⟨i, .generateSessionId k, sid⟩ :: past <:+ cfg.world.trace) :
    sid = UInt32.ofNat (1 + drawn S (S.proc k) past) := by
  refine agent_events (fun past e => ∀ i k sid, e = ⟨i, .generateSessionId k, sid⟩ →
    sid = UInt32.ofNat (1 + drawn S (S.proc k) past)) ?_ hr _ past h i k sid rfl
  intro cfg j c o r s hr _ _ hexec i k sid heq
  cases heq
  cases hexec
  exact sessionId_eq hr (S.proc k)

/-- No two draws of one process return the same id. -/
theorem draw_unique (hA : ∀ w i c r, A w i c r → CounterLasts S w i c r)
    (hr : (machine S).Reach A start cfg) {i i' : Tid} {k k' : Nat} {sid : UInt32}
    {past past' : List (Ev Tid Resp)}
    (h : ⟨i, .generateSessionId k, sid⟩ :: past <:+ cfg.world.trace)
    (h' : ⟨i', .generateSessionId k', sid⟩ :: past' <:+ cfg.world.trace)
    (hp : S.proc k = S.proc k') :
    (⟨i, .generateSessionId k, sid⟩ : Ev Tid Resp) :: past =
      ⟨i', .generateSessionId k', sid⟩ :: past' := by
  have hlast {i : Tid} {k : Nat} {past : List (Ev Tid Resp)}
      (h : ⟨i, .generateSessionId k, sid⟩ :: past <:+ cfg.world.trace) :
      drawn S (S.proc k) past < 2 ^ 32 := by
    refine agent_events (fun past e => ∀ i k sid, e = ⟨i, .generateSessionId k, sid⟩ →
      drawn S (S.proc k) past < 2 ^ 32) ?_ hr _ past h i k sid rfl
    intro cfg j c o r s _ _ hAi _ i k sid heq
    cases heq
    exact hA _ _ _ _ hAi k rfl
  -- one of the two draws comes after the other, and then more ids had been drawn
  have hless {i : Tid} {k k' : Nat} {past past' : List (Ev Tid Resp)}
      (h : ⟨i, .generateSessionId k, sid⟩ :: past <:+ past') (hp : S.proc k = S.proc k') :
      drawn S (S.proc k) past < drawn S (S.proc k') past' := by
    have hle := h.sublist.countP_le (p := drawsSid S (S.proc k))
    rw [← hp]
    refine Nat.lt_of_lt_of_le (Nat.lt_succ_self _) (Nat.le_trans (Nat.le_of_eq ?_) hle)
    exact drawn_draw.symm
  have hcount : drawn S (S.proc k) past = drawn S (S.proc k') past' := by
    have heq := (sid_of_draw hr h).symm.trans (sid_of_draw hr h')
    have hlt := hlast h
    have hlt' := hlast h'
    have hnat := congrArg UInt32.toNat heq
    simp only [UInt32.toNat_ofNat'] at hnat
    omega
  rcases List.suffix_or_suffix_of_suffix h h' with hs | hs
  · rcases List.suffix_cons_iff.1 hs with heq | hs
    · exact heq
    · exact absurd hcount (Nat.ne_of_lt (hless hs hp))
  · rcases List.suffix_cons_iff.1 hs with heq | hs
    · exact heq.symm
    · exact absurd hcount.symm (Nat.ne_of_lt (hless hs hp.symm))

/-- A tunnel was spawned for the `OpenTunnel` its reader had read, under the id it then drew. -/
theorem draw_of_spawn (hr : (machine S).Reach A start cfg) {i : Tid} {tn : Tunnel} {t : Nat}
    {past : List (Ev Tid Resp)} (hs : ⟨i, .spawnTunnel tn, t⟩ :: past <:+ cfg.world.trace) :
    ∃ before m protocol username password h',
      ⟨.reader tn.conn, .generateSessionId tn.conn, tn.sid⟩ :: before <:+ past ∧
      own (.reader tn.conn) before = ⟨.ws tn.conn .next, m⟩ :: h' ∧
      m.nodeFrame? = some (.openTunnel protocol tn.cid username password tn.msgId) ∧
      (own (.reader tn.conn) past).length = (own (.reader tn.conn) before).length + 1 := by
  obtain ⟨rfl, m, protocol, username, password, h', hown, hm⟩ := (may_of_event hr hs).spawns
  have hdraw : ⟨.generateSessionId tn.conn, tn.sid⟩ :: ⟨.ws tn.conn .next, m⟩ :: h' <:+
      own (.reader tn.conn) past := by
    rw [hown]
  obtain ⟨before, hbefore, hh'⟩ := exists_past_of_own hdraw
  refine ⟨before, m, protocol, username, password, h', hbefore, hh', hm, ?_⟩
  rw [hown, hh']
  rfl

/-- A tunnel was asked for over its connection, for its client. -/
theorem request_of_tunnel (hr : (machine S).Reach A start cfg) {t : Nat} {tn : Tunnel}
    (h : IsTunnel cfg.world.trace t tn) : ∃ protocol username password,
      Read cfg.world.trace tn.conn (.openTunnel protocol tn.cid username password tn.msgId) := by
  obtain ⟨past, hs⟩ := exists_past (spawned_of_tunnel hr t tn (tunnel_of_begin hr t tn h))
  obtain ⟨before, m, protocol, username, password, h', hdraw, hown, hm, -⟩ := draw_of_spawn hr hs
  refine ⟨protocol, username, password, m, ?_, hm⟩
  have hbefore := (List.suffix_cons _ _).trans (hdraw.trans ((List.suffix_cons _ _).trans hs))
  refine hbefore.subset (mem_own.1 ?_)
  rw [hown]
  exact List.mem_cons_self

/-- Two spawns whose session ids come from one draw are one event. -/
theorem spawn_of_draws (hr : (machine S).Reach A start cfg) {i i' : Tid} {t t' : Nat}
    {tn tn' : Tunnel} {past past' : List (Ev Tid Resp)}
    (hs : ⟨i, .spawnTunnel tn, t⟩ :: past <:+ cfg.world.trace)
    (hs' : ⟨i', .spawnTunnel tn', t'⟩ :: past' <:+ cfg.world.trace)
    (hone : ∀ before before',
      ⟨.reader tn.conn, .generateSessionId tn.conn, tn.sid⟩ :: before <:+ cfg.world.trace →
      ⟨.reader tn'.conn, .generateSessionId tn'.conn, tn'.sid⟩ :: before' <:+ cfg.world.trace →
      (⟨.reader tn.conn, .generateSessionId tn.conn, tn.sid⟩ : Ev Tid Resp) :: before =
        ⟨.reader tn'.conn, .generateSessionId tn'.conn, tn'.sid⟩ :: before') :
    (⟨i, .spawnTunnel tn, t⟩ : Ev Tid Resp) :: past = ⟨i', .spawnTunnel tn', t'⟩ :: past' := by
  obtain ⟨rfl, -⟩ := (may_of_event hr hs).spawns
  obtain ⟨rfl, -⟩ := (may_of_event hr hs').spawns
  obtain ⟨before, _, _, _, _, _, hdraw, -, -, hlen⟩ := draw_of_spawn hr hs
  obtain ⟨before', _, _, _, _, _, hdraw', -, -, hlen'⟩ := draw_of_spawn hr hs'
  have heq := hone before before' (hdraw.trans ((List.suffix_cons _ _).trans hs))
    (hdraw'.trans ((List.suffix_cons _ _).trans hs'))
  simp only [List.cons.injEq, Ev.mk.injEq, Tid.reader.injEq] at heq
  obtain ⟨⟨hconn, -, -⟩, rfl⟩ := heq
  rw [← hconn] at hs' hlen' ⊢
  exact eq_of_own_length hs hs' (hlen.trans hlen'.symm)

/-- Two tunnels that one process spawned under one session id are one tunnel. -/
theorem spawn_once (hA : ∀ w i c r, A w i c r → CounterLasts S w i c r)
    (hr : (machine S).Reach A start cfg) {i i' : Tid} {t t' : Nat} {tn tn' : Tunnel}
    (h : (⟨i, .spawnTunnel tn, t⟩ : Ev Tid Resp) ∈ cfg.world.trace)
    (h' : (⟨i', .spawnTunnel tn', t'⟩ : Ev Tid Resp) ∈ cfg.world.trace)
    (hp : S.proc tn.conn = S.proc tn'.conn) (hsid : tn.sid = tn'.sid) : t = t' ∧ tn = tn' := by
  obtain ⟨past, hs⟩ := exists_past h
  obtain ⟨past', hs'⟩ := exists_past h'
  cases spawn_of_draws hr hs hs' fun before before' hdraw hdraw' => by
    rw [← hsid] at hdraw' ⊢
    exact draw_unique hA hr hdraw hdraw' hp
  exact ⟨rfl, rfl⟩

/-- **A session id stands for one tunnel** within a process whose counter has not come round. -/
theorem tunnel_of_sid (hA : ∀ w i c r, A w i c r → CounterLasts S w i c r)
    (hr : (machine S).Reach A start cfg) {t t' : Nat} {tn tn' : Tunnel}
    (h : IsTunnel cfg.world.trace t tn) (h' : IsTunnel cfg.world.trace t' tn')
    (hp : S.proc tn.conn = S.proc tn'.conn) (hsid : tn.sid = tn'.sid) : t = t' ∧ tn = tn' :=
  spawn_once hA hr (spawned_of_tunnel hr t tn (tunnel_of_begin hr t tn h))
    (spawned_of_tunnel hr t' tn' (tunnel_of_begin hr t' tn' h')) hp hsid

end Sids

end Phirepass.Agent
