/-
# `Phirepass.Agent.Guards` — `upload_file_chunk` with the guards it holds

`get` and `get_mut` of the uploads hand out a guard, and a task that asks for
an entry whose guard it holds waits for itself.  `Phirepass.Agent.Sftp` leaves
the guards out; here `upload_file_chunk` is written with them, where the
source takes and drops them, and

    without its guards     it is the function of `Sftp`
                           (`erase_guardedUploadFileChunk`)
    where it runs through  it does what that function does (`run_erase`)

A guard is dropped with the entry it guards, so other tasks may change the map
as soon as it is.
-/
import Phirepass.Agent.Alone

namespace Phirepass.Agent

open Rust Interleave

/-! ## Commands -/

/-- A command of the agent, or the taking or dropping of a guard of the uploads. -/
inductive GuardCmd where
  | act (c : Cmd)
  | hold (key : Key)
  | drop (key : Key)

@[reducible] def GuardCmd.Resp : GuardCmd → Type
  | .act c => Agent.Resp c
  | .hold _ | .drop _ => Unit

/-- Code of the agent, with its guards. -/
abbrev Guarded (α : Type) : Type := Prog GuardCmd GuardCmd.Resp α

abbrev guard (c : GuardCmd) : Guarded (GuardCmd.Resp c) := Prog.perform c

/-- Code that takes no guard. -/
def unguarded {α : Type} : Action α → Guarded α
  | .ret a => .ret a
  | .op c k => .op (.act c) fun r => unguarded (k r)

/-- The code without its guards. -/
def erase {α : Type} : Guarded α → Action α
  | .ret a => .ret a
  | .op (.act c) k => .op c fun r => erase (k r)
  | .op (.hold _) k => erase (k ())
  | .op (.drop _) k => erase (k ())

/-- `uploads.get(&key)` and `uploads.get_mut(&key)`: the entry comes with its guard. -/
def getGuarded (k : Nat) (key : Key) : Guarded (Option FileUpload) := do
  match ← guard (.act (.uploads k (.get key))) with
  | none => return none
  | some upload =>
      guard (.hold key)
      return some upload

/-! ## `upload_file_chunk` -/

/-- Any chunk but the last: the guard of `get_mut` is held to the end. -/
def guardedContinueUpload (tunnel : Tunnel) (chunk : SFTPUploadChunk) (msgId : Option UInt32) :
    Guarded Unit := do
  let key := (tunnel.cid, chunk.uploadId)
  match ← getGuarded tunnel.conn key with
  | none => unguarded (replyError tunnel s!"Upload ID {chunk.uploadId.toNat} not found" msgId)
  | some upload =>
  match ← guard (.act (.sftp (.writeAll upload.sftpFile chunk.data))) with
  | .error err =>
      let _ ← guard (.act (.uploads tunnel.conn (.remove key)))
      unguarded (replyError tunnel s!"Failed to write chunk: {err}" msgId)
      guard (.drop key)
  | .ok () =>
      let now ← guard (.act .now)
      let _ ← guard (.act (.uploads tunnel.conn (.modify key fun u => { u with lastUpdated := now })))
      unguarded (reply tunnel (.sftpUploadChunkAck tunnel.sid chunk.uploadId chunk.chunkIndex))
      guard (.drop key)

/-- `upload_file_chunk`: the guard of `get` is dropped before the chunk is written. -/
def guardedUploadFileChunk (tunnel : Tunnel) (chunk : SFTPUploadChunk) (msgId : Option UInt32) :
    Guarded Unit := do
  let key := (tunnel.cid, chunk.uploadId)
  match ← getGuarded tunnel.conn key with
  | none => unguarded (replyError tunnel s!"Upload ID {chunk.uploadId.toNat} not found" msgId)
  | some upload =>
      let next ← unguarded (addU32 chunk.chunkIndex 1)
      guard (.drop key)
      if upload.totalChunks ≤ next then unguarded (finishUpload tunnel chunk msgId)
      else guardedContinueUpload tunnel chunk msgId

section Erase

variable {α β : Type}

theorem erase_unguarded : ∀ p : Action α, erase (unguarded p) = p
  | .ret _ => rfl
  | .op c k => congrArg (Prog.op c) (funext fun r => erase_unguarded (k r))

theorem erase_bind {f : α → Guarded β} :
    ∀ p : Guarded α, erase (p >>= f) = erase p >>= fun a => erase (f a)
  | .ret _ => rfl
  | .op (.act c) k => congrArg (Prog.op c) (funext fun r => erase_bind (k r))
  | .op (.hold _) k => erase_bind (k ())
  | .op (.drop _) k => erase_bind (k ())

theorem erase_getGuarded {k : Nat} {key : Key} {f : Option FileUpload → Guarded β} :
    erase (getGuarded k key >>= f) = call (.uploads k (.get key)) >>= fun r => erase (f r) := by
  refine congrArg (Prog.op (Cmd.uploads k (.get key))) (funext fun found => ?_)
  cases found <;> rfl

theorem erase_guardedContinueUpload {tunnel : Tunnel} {chunk : SFTPUploadChunk}
    {msgId : Option UInt32} :
    erase (guardedContinueUpload tunnel chunk msgId) = continueUpload tunnel chunk msgId := by
  unfold guardedContinueUpload continueUpload
  rw [erase_getGuarded]
  congr 1
  funext found
  cases found with
  | none => exact erase_unguarded _
  | some upload =>
      refine congrArg (Prog.op (Cmd.sftp (.writeAll upload.sftpFile chunk.data)))
        (funext fun written => ?_)
      cases written <;> rfl

/-- **Without its guards** it is the function of `Sftp`. -/
theorem erase_guardedUploadFileChunk {tunnel : Tunnel} {chunk : SFTPUploadChunk}
    {msgId : Option UInt32} :
    erase (guardedUploadFileChunk tunnel chunk msgId) = uploadFileChunk tunnel chunk msgId := by
  unfold guardedUploadFileChunk uploadFileChunk
  rw [erase_getGuarded]
  congr 1
  funext found
  cases found with
  | none => exact erase_unguarded _
  | some upload =>
      dsimp only
      rw [erase_bind, erase_unguarded]
      congr 1
      funext next
      show erase (if _ then _ else _) = _
      split
      · exact erase_unguarded _
      · exact erase_guardedContinueUpload

end Erase

/-! ## Running -/

/-- The maps of a connection, and the entries whose guards the task holds. -/
structure Locked (η : Type) where
  base : Local η
  held : List Key

/-- The command waits for a guard that the task itself holds. -/
def Cmd.waitsForItself (held : List Key) : Cmd → Bool
  | .uploads _ (.get key) | .uploads _ (.insert key _) | .uploads _ (.remove key)
  | .uploads _ (.removeIf key _) => decide (key ∈ held)
  | _ => false

/-- One command of a task with guards.  A task that waits for itself gets no further; `others` is
what other tasks do to the map once a guard is dropped. -/
def Remote.guardedExec {η : Type} (H : Remote η) (S : Setup) (k : Nat)
    (others : DashMap Key FileUpload → DashMap Key FileUpload) :
    (c : GuardCmd) → Locked η → Option (GuardCmd.Resp c × Locked η)
  | .act c, w =>
      if c.waitsForItself w.held then none
      else (H.exec S k c w.base).map fun x => (x.1, { w with base := x.2 })
  | .hold key, w => some ((), { w with held := key :: w.held })
  | .drop key, w =>
      some ((), ⟨{ w.base with uploads := others w.base.uploads }, w.held.erase key⟩)

section Run

variable {η α β : Type} {H : Remote η} {S : Setup} {tn : Tunnel}
  {others : DashMap Key FileUpload → DashMap Key FileUpload} {w : Locked η} {base : Local η}

/-- What a function of the tunnel `tn` does with its guards. -/
abbrev runGuarded (H : Remote η) (S : Setup) (tn : Tunnel)
    (others : DashMap Key FileUpload → DashMap Key FileUpload) (p : Guarded α) (w : Locked η) :
    Option (α × Locked η) :=
  p.run (H.guardedExec S tn.conn others) w

/-- Without guards nothing waits. -/
theorem waitsForItself_nil {c : Cmd} : c.waitsForItself [] = false := by
  cases c with
  | uploads k op => cases op <;> rfl
  | _ => rfl

/-- **Code without guards**, in a task that holds none. -/
theorem run_unguarded : ∀ (p : Action α) (base : Local η),
    runGuarded H S tn others (unguarded p) ⟨base, []⟩ =
      (runLocal H S tn p base).map fun x => (x.1, ⟨x.2, []⟩)
  | .ret a, base => rfl
  | .op c k, base => by
      unfold runGuarded runLocal
      rw [unguarded, Prog.run, Prog.run]
      simp only [Remote.guardedExec, waitsForItself_nil, Bool.false_eq_true, if_false]
      cases H.exec S tn.conn c base with
      | none => rfl
      | some x => exact run_unguarded (k x.1) x.2

/-- **Where it runs through**, the guards change nothing, if no other task does. -/
theorem run_erase : ∀ {p : Guarded α} {w w' : Locked η} {a : α},
    runGuarded H S tn id p w = some (a, w') → runLocal H S tn (erase p) w.base = some (a, w'.base)
  | .ret b, w, w', a, h => by
      cases h
      rfl
  | .op (.act c) k, w, w', a, h => by
      unfold runGuarded at h
      rw [Prog.run] at h
      unfold runLocal
      rw [erase, Prog.run]
      simp only [Remote.guardedExec] at h
      split at h
      · next x hx =>
          split at hx
          · cases hx
          · obtain ⟨y, hy, heq⟩ := Option.map_eq_some_iff.1 hx
            cases heq
            rw [hy]
            exact run_erase h
      · cases h
  | .op (.hold key) k, w, w', a, h =>
      run_erase (p := k ()) (w := { w with held := key :: w.held }) h
  | .op (.drop key) k, w, w', a, h =>
      run_erase (p := k ()) (w := ⟨w.base, w.held.erase key⟩) h

end Run

end Phirepass.Agent
