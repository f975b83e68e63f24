/-
# `Phirepass.Agent.NoPanic` — what it takes to crash an agent

The agent is built with `panic = "abort"`, so one panic ends every tunnel.
Of the partial operations on the path of a relayed frame

    the two `expect`s          are covered by `ensure_credentials`
    `Protocol::try_from`       is not: it is `unreachable!` from byte 2 on
    `chunk_index + 1`          overflows at the largest index, for an upload
                               that exists, and in a `debug!` of a download

and there are no others: a run that avoids these three (`Harmless`) never
comes to a panic or an overflow, in any task.
-/
import Phirepass.Agent.Rules

namespace Phirepass.Agent

open Rust Interleave

/-- The task is about to panic, or to overflow a `u32`. -/
def panics : Action Label → Bool
  | .op (.panic _) _ | .op .overflow _ => true
  | _ => false

/-- What a step must not bring. -/
structure Harmless (S : Setup) (w : World State Tid Resp) (i : Tid) (c : Cmd) (r : Resp c) :
    Prop where
  /-- An `OpenTunnel` with credentials names one of the two protocols. -/
  protocol : ∀ k m protocol cid username password msgId,
    (⟨i, c, r⟩ : Ev Tid Resp) = ⟨.reader k, .ws k .next, m⟩ →
    m.nodeFrame? = some (.openTunnel protocol cid username password msgId) →
    hasCredentials S username password = true → protocol = 0 ∨ protocol = 1
  /-- An upload chunk with the largest index is for no upload in progress. -/
  upload : ∀ t k key chunk msgId h, i = .tunnel t → c = .uploads k (.get key) →
    own (.tunnel t) w.trace = ⟨.select t, .sftp (.upload chunk msgId)⟩ :: h →
    chunk.chunkIndex = 0xFFFFFFFF → (w.state.uploads k).lookup key = none
  /-- A file has no byte at the offset of the largest index, or `debug!` is off. -/
  download : ∀ t file bytes chunk msgId e e' h,
    (⟨i, c, r⟩ : Ev Tid Resp) = ⟨.tunnel t, .sftp (.read file), .ok bytes⟩ →
    own (.tunnel t) w.trace = e :: e' :: ⟨.select t, .sftp (.downloadChunk chunk msgId)⟩ :: h →
    chunk.chunkIndex = 0xFFFFFFFF → S.debugLog = true → bytes = []

section NoPanic

variable {S : Setup} {A : Restriction} {cfg : Config State Tid Resp Label}

/-- Both known protocol bytes are converted. -/
theorem tryFrom_of_known {protocol : UInt8} (h : protocol = 0 ∨ protocol = 1) (message : String) :
    Protocol.tryFrom protocol ≠ .error (.panic message) := by
  rcases h with rfl | rfl
  · intro heq
    cases heq
  · intro heq
    cases heq

/-- No reader stands before a panic. -/
theorem not_may_panic (hr : (machine S).Reach (Harmless S) start cfg) {i : Tid} {message : String}
    (hmay : May S i (own i cfg.world.trace) (.panic message)) : False := by
  obtain ⟨k, m, protocol, cid, username, password, msgId, h', rfl, hown, hm, hcred, hp⟩ := hmay.panics
  have hmem : (⟨.ws k .next, m⟩ : Sigma Resp) ∈ own (.reader k) cfg.world.trace := by
    rw [hown]
    exact List.mem_cons_self
  obtain ⟨past, hsuf⟩ := exists_past (mem_own.1 hmem)
  have hknown := agent_events (fun _ e => ∀ k m protocol cid username password msgId,
    e = ⟨.reader k, .ws k .next, m⟩ →
    m.nodeFrame? = some (.openTunnel protocol cid username password msgId) →
    hasCredentials S username password = true → protocol = 0 ∨ protocol = 1) ?_ hr _ past hsuf k m
    protocol cid username password msgId rfl hm hcred
  · exact tryFrom_of_known hknown message hp
  · intro cfg j c o r s _ _ hA _ k m protocol cid username password msgId heq
    exact hA.protocol k m protocol cid username password msgId heq

/-- No tunnel stands before an overflow. -/
theorem not_may_overflow (hr : (machine S).Reach (Harmless S) start cfg) {i : Tid}
    (hmay : May S i (own i cfg.world.trace) .overflow) : False := by
  obtain ⟨t, tn, rfl, -, hover⟩ := hmay.overflows
  generalize hown : own (.tunnel t) cfg.world.trace = h at hover
  cases hover with
  | @uploadOverflow h' chunk msgId upload hmax =>
      have hlast : ⟨.uploads tn.conn (.get (tn.cid, chunk.uploadId)), some upload⟩ ::
          ⟨.select t, .sftp (.upload chunk msgId)⟩ :: h' <:+ own (.tunnel t) cfg.world.trace := by
        rw [hown]
      obtain ⟨past, hsuf, hpast⟩ := exists_past_of_own hlast
      -- what the lookup found was there before it
      have hev := agent_events (fun past e => ∀ t k key chunk msgId upload h,
        e = ⟨.tunnel t, .uploads k (.get key), some upload⟩ →
        own (.tunnel t) past = ⟨.select t, .sftp (.upload chunk msgId)⟩ :: h →
        chunk.chunkIndex ≠ 0xFFFFFFFF) ?_ hr _ past hsuf t tn.conn _ chunk msgId upload h' rfl hpast
      · exact hev hmax
      · intro cfg j c o r s _ _ hA hexec t k key chunk msgId upload h heq hown hmax
        cases heq
        have hnone := hA.upload t k key chunk msgId h rfl rfl hown hmax
        have hfound := exec_uploads_answer hexec
        simp only [MapOp.answer, hnone, Option.some.injEq, reduceCtorEq] at hfound
  | @downloadOverflow h' chunk msgId download position bytes now found hmax hbytes hdebug =>
      have hlast : ⟨.sftp (.read download.sftpFile), .ok bytes⟩ ::
          ⟨.sftp (.seek download.sftpFile position), .ok ()⟩ ::
          ⟨.downloads tn.conn (.get (tn.cid, chunk.downloadId)), some download⟩ ::
          ⟨.select t, .sftp (.downloadChunk chunk msgId)⟩ :: h' <:+
            own (.tunnel t) cfg.world.trace := by
        rw [hown]
        exact (List.suffix_cons _ _).trans (List.suffix_cons _ _)
      obtain ⟨past, hsuf, hpast⟩ := exists_past_of_own hlast
      have hev := agent_events (fun past e => ∀ t file bytes chunk msgId e₁ e₂ h,
        e = ⟨.tunnel t, .sftp (.read file), .ok bytes⟩ →
        own (.tunnel t) past = e₁ :: e₂ :: ⟨.select t, .sftp (.downloadChunk chunk msgId)⟩ :: h →
        chunk.chunkIndex = 0xFFFFFFFF → S.debugLog = true → bytes = []) ?_ hr _ past hsuf t _ bytes
        chunk msgId _ _ h' rfl hpast hmax hdebug
      · exact hbytes hev
      · intro cfg j c o r s _ _ hA _ t file bytes chunk msgId e₁ e₂ h heq
        exact hA.download t file bytes chunk msgId e₁ e₂ h heq
  | sweep hc => cases hc

/-- **No remote crash.**  Where no step is harmful, no task of any process of the agent ever
stands before a panic or an overflowing addition. -/
theorem agent_never_panics (hr : (machine S).Reach (Harmless S) start cfg) (i : Tid) :
    panics (cfg.threads i) = false := by
  cases hp : cfg.threads i with
  | ret l => rfl
  | op c next =>
      have hmay : May S i (own i cfg.world.trace) c :=
        hr.may agent_follows (fun _ _ _ _ _ => trivial) hp
      cases c with
      | panic message => exact (not_may_panic hr hmay).elim
      | overflow => exact (not_may_overflow hr hmay).elim
      | _ => rfl

end NoPanic

/-- Whether a step of the sample agent is harmless. -/
def harmless (w : World State Tid Resp) (i : Tid) : (c : Cmd) → Resp c → Bool
  | .ws _ .next, m =>
      match Incoming.nodeFrame? m with
      | some (.openTunnel protocol _ _ _ _) => protocol == 0 || protocol == 1
      | _ => true
  | .uploads _ (.get _), _ =>
      match own i w.trace with
      | ⟨.select _, .sftp (.upload chunk _)⟩ :: _ => chunk.chunkIndex != 0xFFFFFFFF
      | _ => true
  | _, _ => true

theorem harmless_sound (w : World State Tid Resp) (i : Tid) (c : Cmd) (r : Resp c)
    (h : harmless w i c r = true) : Harmless (sample fun _ => 0) w i c r := by
  refine ⟨?_, ?_, ?_⟩
  · intro k m protocol cid username password msgId heq hm _
    cases heq
    rw [harmless, hm, Bool.or_eq_true, beq_iff_eq, beq_iff_eq] at h
    exact h
  · intro t k key chunk msgId h' hi hc hown hmax
    subst hi
    subst hc
    rw [harmless, hown] at h
    exact absurd hmax (bne_iff_ne.1 h)
  · intro t file bytes chunk msgId e e' h' _ _ _ hdebug
    cases hdebug

/-- An upload of two chunks, of which one has arrived. -/
def uploadSchedule : List (Tid × Choice) :=
  login 0 ++ request 0 .sftp 77 ++ comeUp 0 ++
    deliver 0 (.sftpUploadStart 77 1 (some 2) ⟨"notes.txt", "/srv", 2, 4⟩) ++ obeyStart 0 5 ++
    deliver 0 (.sftpUpload 77 1 (some 3) ⟨1, 0, 2, [104, 105]⟩) ++ obey 0 7

theorem agent_never_panics_of_upload :
    ∃ cfg, (machine (sample fun _ => 0)).Reach (Harmless (sample fun _ => 0)) start cfg ∧
      (cfg.world.state.uploads 0).keys = [(77, 1)] ∧ panics (cfg.threads (.tunnel 0)) = false := by
  have hrun : ((machine (sample fun _ => 0)).run harmless uploadSchedule start).any
      (fun cfg => (cfg.world.state.uploads 0).keys = [(77, 1)]) = true := by
    decide +kernel
  obtain ⟨cfg, hr, hkeys⟩ := Machine.reach_of_run harmless_sound hrun
  exact ⟨cfg, hr, of_decide_eq_true hkeys, agent_never_panics hr (.tunnel 0)⟩

/-- An `OpenTunnel` with protocol 2, which the server relays as it is, panics the reader. -/
theorem unknown_protocol_panics :
    ∃ cfg, (machine (sample fun _ => 0)).Reach Free start cfg ∧
      panics (cfg.threads (.reader 0)) = true := by
  have hrun : ((machine (sample fun _ => 0)).run (fun _ _ _ _ => true) (login 0 ++
      [(.reader 0, fromServer (.openTunnel 2 77 (some "root") (some "secret") (some 1)))]) start).any
      (fun cfg => panics (cfg.threads (.reader 0))) = true := by
    decide +kernel
  exact Machine.reach_of_run (fun _ _ _ _ _ => trivial) hrun

end Phirepass.Agent
