/-
# `Rust.Channel` — tasks and the bounded queues between them

`tokio::sync::mpsc::channel` as the code uses it: many senders, one receiver.
`send` waits while the queue is full and fails once the receiver is gone;
`trySend` never waits.  A receiver whose task was aborted stops at its next
`recv`; that the last sender is gone is only ever noticed by a task that is
aborted in the same breath, so it is not modelled apart.

A spawned task runs until it returns or is aborted, and an abort takes effect
when the task next waits.
-/
import Mathlib.Data.List.Basic
import Mathlib.Logic.Function.Basic

namespace Rust

structure Chan (α : Type) where
  queue : List α
  closed : Bool

/-- A fresh channel. -/
def Chan.empty {α : Type} : Chan α := ⟨[], false⟩

/-- Why `try_send` gave the value back. -/
inductive TrySendError where
  | full
  | closed
  deriving DecidableEq, Repr

inductive ChanOp (α : Type) where
  | send (tx : Nat) (a : α)
  | trySend (tx : Nat) (a : α)
  | recv (rx : Nat)
  /-- Drop the receiver. -/
  | close (rx : Nat)

namespace ChanOp

variable {α : Type}

@[reducible] def Resp : ChanOp α → Type
  | .send _ _ => Bool
  | .trySend _ _ => Except TrySendError Unit
  | .recv _ => Option α
  | .close _ => Unit

/-- Run an operation on the channels `cs`; `none` means the task waits. -/
def exec (capacity : Nat) (cancelled : Bool) (cs : Nat → Chan α) :
    (op : ChanOp α) → Option (op.Resp × (Nat → Chan α))
  | .send tx a =>
      if (cs tx).closed then some (false, cs)
      else if (cs tx).queue.length < capacity then
        some (true, Function.update cs tx { cs tx with queue := (cs tx).queue ++ [a] })
      else none
  | .trySend tx a =>
      if (cs tx).closed then some (.error .closed, cs)
      else if (cs tx).queue.length < capacity then
        some (.ok (), Function.update cs tx { cs tx with queue := (cs tx).queue ++ [a] })
      else some (.error .full, cs)
  | .recv rx =>
      if cancelled then some (none, cs)
      else
        match (cs rx).queue with
        | a :: rest => some (some a, Function.update cs rx { cs rx with queue := rest })
        | [] => none
  | .close rx => some ((), Function.update cs rx { cs rx with closed := true })

/-- The operation, answered so, put `a` into the queue `x`. -/
def Enqueues (x : Nat) (a : α) : (op : ChanOp α) → op.Resp → Prop
  | .send tx b, sent => tx = x ∧ b = a ∧ sent = true
  | .trySend tx b, sent => tx = x ∧ b = a ∧ sent = .ok ()
  | .recv _, _ | .close _, _ => False

/-- What the operation put into the queue `x`. -/
def puts (x : Nat) : (op : ChanOp α) → op.Resp → List α
  | .send tx a, sent => if tx = x ∧ sent = true then [a] else []
  | .trySend tx a, sent => if tx = x ∧ sent.isOk = true then [a] else []
  | .recv _, _ | .close _, _ => []

/-- What it took out of it. -/
def takes (x : Nat) : (op : ChanOp α) → op.Resp → List α
  | .recv rx, received => if rx = x then received.toList else []
  | .send _ _, _ | .trySend _ _, _ | .close _, _ => []

variable {capacity : Nat} {cancelled : Bool} {cs cs' : Nat → Chan α} {x : Nat} {a : α}

theorem mem_puts_iff {op : ChanOp α} {r : op.Resp} : a ∈ op.puts x r ↔ op.Enqueues x a r := by
  cases op with
  | send tx b =>
      simp only [puts, Enqueues]
      split
      · next h => simp [h, eq_comm]
      · next h =>
          simp only [List.not_mem_nil, false_iff]
          exact fun h' => h ⟨h'.1, h'.2.2⟩
  | trySend tx b =>
      simp only [puts, Enqueues]
      cases r with
      | error e => simp [Except.isOk, Except.toBool]
      | ok u =>
          by_cases htx : tx = x
          · simp [htx, Except.isOk, Except.toBool, eq_comm]
          · simp [htx]
  | recv rx | close rx => simp [puts, Enqueues]

/-- It is one element at most. -/
theorem pairwise_puts {ρ : α → α → Prop} {op : ChanOp α} {r : op.Resp} :
    (op.puts x r).Pairwise ρ := by
  cases op with
  | send tx b | trySend tx b =>
      simp only [puts]
      split
      · exact List.pairwise_singleton _ _
      · exact .nil
  | recv rx | close rx => exact .nil

/-- **A queue keeps what is in it, in order.** -/
theorem queue_exec {op : ChanOp α} {r : op.Resp}
    (h : exec capacity cancelled cs op = some (r, cs')) :
    op.takes x r ++ (cs' x).queue = (cs x).queue ++ op.puts x r := by
  have happend {tx : Nat} {b : α} :
      (Function.update cs tx { cs tx with queue := (cs tx).queue ++ [b] } x).queue =
        (cs x).queue ++ if tx = x then [b] else [] := by
    rcases eq_or_ne x tx with rfl | hx
    · rw [Function.update_self, if_pos rfl]
    · rw [Function.update_of_ne hx, if_neg hx.symm, List.append_nil]
  cases op with
  | send tx b =>
      simp only [exec] at h
      split at h
      · cases h
        simp [takes, puts]
      · split at h
        · cases h
          simpa [takes, puts] using happend
        · cases h
  | trySend tx b =>
      simp only [exec] at h
      split at h
      · cases h
        simp [takes, puts, Except.isOk, Except.toBool]
      · split at h
        · cases h
          simpa [takes, puts, Except.isOk, Except.toBool] using happend
        · cases h
          simp [takes, puts, Except.isOk, Except.toBool]
  | recv rx =>
      simp only [exec] at h
      split at h
      · cases h
        simp [takes, puts]
      · split at h
        · next b rest hq =>
            cases h
            rcases eq_or_ne x rx with rfl | hx
            · simp [takes, puts, hq]
            · simp [takes, puts, hx, hx.symm]
        · cases h
  | close rx =>
      cases h
      rcases eq_or_ne x rx with rfl | hx
      · simp [takes, puts]
      · simp [takes, puts, hx]

/-- A closed channel stays closed. -/
theorem closed_exec {op : ChanOp α} {r : op.Resp}
    (h : exec capacity cancelled cs op = some (r, cs')) (hclosed : (cs x).closed = true) :
    (cs' x).closed = true := by
  have hupdate {tx : Nat} {q : List α} :
      (Function.update cs tx { cs tx with queue := q } x).closed = true := by
    rcases eq_or_ne x tx with rfl | hx
    · rw [Function.update_self]
      exact hclosed
    · rw [Function.update_of_ne hx]
      exact hclosed
  cases op with
  | send tx b | trySend tx b =>
      simp only [exec] at h
      split at h
      · cases h
        exact hclosed
      · split at h
        · cases h
          exact hupdate
        · cases h
          try exact hclosed
  | recv rx =>
      simp only [exec] at h
      split at h
      · cases h
        exact hclosed
      · split at h
        · cases h
          exact hupdate
        · cases h
  | close rx =>
      cases h
      rcases eq_or_ne x rx with rfl | hx
      · rw [Function.update_self]
      · rw [Function.update_of_ne hx]
        exact hclosed

/-- Nothing is put into a closed channel. -/
theorem puts_of_closed {op : ChanOp α} {r : op.Resp}
    (h : exec capacity cancelled cs op = some (r, cs')) (hclosed : (cs x).closed = true) :
    op.puts x r = [] := by
  cases op with
  | send tx b | trySend tx b =>
      simp only [puts, ite_eq_right_iff, List.cons_ne_nil, imp_false, not_and]
      rintro rfl
      rw [exec, if_pos hclosed] at h
      cases h
      simp [Except.isOk, Except.toBool]
  | recv rx | close rx => rfl

/-- A failed `send` and a `try_send` refused so found the channel closed. -/
theorem closed_of_send (h : exec capacity cancelled cs (.send x a) = some (false, cs')) :
    (cs' x).closed = true := by
  simp only [exec] at h
  split at h
  · next hclosed =>
      cases h
      exact hclosed
  · split at h <;> cases h

theorem closed_of_trySend
    (h : exec capacity cancelled cs (.trySend x a) = some (.error .closed, cs')) :
    (cs' x).closed = true := by
  simp only [exec] at h
  split at h
  · next hclosed =>
      cases h
      exact hclosed
  · split at h <;> cases h

/-- One refused as full found it open and full. -/
theorem full_of_trySend (h : exec capacity cancelled cs (.trySend x a) = some (.error .full, cs')) :
    (cs x).closed = false ∧ ¬ (cs x).queue.length < capacity := by
  simp only [exec] at h
  split at h
  · cases h
  · next hclosed =>
      split at h
      · cases h
      · next hfull => exact ⟨eq_false_of_ne_true hclosed, hfull⟩

/-- Appending to one queue adds one element to that queue. -/
theorem mem_queue_append {tx : Nat} {b : α}
    (ha : a ∈ (Function.update cs tx { cs tx with queue := (cs tx).queue ++ [b] } x).queue) :
    a ∈ (cs x).queue ∨ tx = x ∧ b = a := by
  rcases eq_or_ne x tx with rfl | hx
  · rw [Function.update_self, List.mem_append, List.mem_singleton] at ha
    rcases ha with ha | ha
    · exact .inl ha
    · exact .inr ⟨rfl, ha.symm⟩
  · rw [Function.update_of_ne hx] at ha
    exact .inl ha

/-- What a queue holds was there before, or has just been put there. -/
theorem mem_queue_exec {op : ChanOp α} {r : op.Resp}
    (h : exec capacity cancelled cs op = some (r, cs')) (ha : a ∈ (cs' x).queue) :
    a ∈ (cs x).queue ∨ op.Enqueues x a r := by
  cases op with
  | send tx b =>
      simp only [exec] at h
      split at h
      · cases h
        exact .inl ha
      · split at h
        · cases h
          exact (mem_queue_append ha).imp_right fun hb => ⟨hb.1, hb.2, rfl⟩
        · cases h
  | trySend tx b =>
      simp only [exec] at h
      split at h
      · cases h
        exact .inl ha
      · split at h
        · cases h
          exact (mem_queue_append ha).imp_right fun hb => ⟨hb.1, hb.2, rfl⟩
        · cases h
          exact .inl ha
  | recv rx =>
      simp only [exec] at h
      split at h
      · cases h
        exact .inl ha
      · split at h
        · next b rest hq =>
            cases h
            rcases eq_or_ne x rx with rfl | hx
            · rw [Function.update_self] at ha
              rw [hq]
              exact .inl (List.mem_cons_of_mem _ ha)
            · rw [Function.update_of_ne hx] at ha
              exact .inl ha
        · cases h
  | close rx =>
      cases h
      rcases eq_or_ne x rx with rfl | hx
      · rw [Function.update_self] at ha
        exact .inl ha
      · rw [Function.update_of_ne hx] at ha
        exact .inl ha

/-- What was received was in the queue. -/
theorem mem_queue_of_recv
    (h : exec capacity cancelled cs (.recv x) = some (some a, cs')) : a ∈ (cs x).queue := by
  simp only [exec] at h
  split at h
  · cases h
  · split at h
    · next b rest hq =>
        cases h
        rw [hq]
        exact List.mem_cons_self
    · cases h

end ChanOp

/-! ## Spawned tasks -/

inductive Phase where
  | unborn
  | running
  | aborted
  deriving DecidableEq, Repr

inductive TaskOp where
  | spawn (i : Nat)
  | abort (i : Nat)
  /-- The task's own first step; it is not reached by a task aborted before. -/
  | start (i : Nat)

namespace TaskOp

@[reducible] def Resp : TaskOp → Type
  | .spawn _ | .abort _ => Unit
  | .start _ => Bool

def exec (ps : Nat → Phase) : (op : TaskOp) → Option (op.Resp × (Nat → Phase))
  | .spawn i => some ((), Function.update ps i .running)
  | .abort i => some ((), Function.update ps i .aborted)
  | .start i =>
      match ps i with
      | .unborn => none
      | .running => some (true, ps)
      | .aborted => some (false, ps)

section Exec

variable {ps ps' : Nat → Phase} {i : Nat}

/-- A task that runs was running or has just been spawned. -/
theorem exec_running {op : TaskOp} {r : op.Resp} (h : op.exec ps = some (r, ps'))
    (hrun : ps' i = .running) : ps i = .running ∨ op = .spawn i := by
  cases op with
  | spawn j =>
      cases h
      by_cases hj : i = j
      · exact .inr (by rw [hj])
      · rw [Function.update_of_ne hj] at hrun
        exact .inl hrun
  | abort j =>
      cases h
      by_cases hj : i = j
      · rw [hj, Function.update_self] at hrun
        cases hrun
      · rw [Function.update_of_ne hj] at hrun
        exact .inl hrun
  | start j =>
      simp only [exec] at h
      split at h
      · cases h
      · cases h
        exact .inl hrun
      · cases h
        exact .inl hrun

/-- A task starts while it runs. -/
theorem running_of_start (h : (TaskOp.start i).exec ps = some (true, ps')) :
    ps i = .running := by
  simp only [exec] at h
  split at h
  · cases h
  · assumption
  · cases h

end Exec

end TaskOp

end Rust
