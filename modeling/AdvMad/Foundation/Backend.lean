import Mathlib.Logic.Function.Basic
import Mathlib.Order.Nat

/-!
# What is relied on of a shared store

Apps on several devices write to one store through a client library.  A
`Backend` is the library on every device together with the server.  Its first
fields are what an app and its users can do and ask; the last four are what an
app relies on, and all that is assumed.  `queues` is a backend of this kind.
-/

namespace AdvMad.Foundation

/-- A device and the user signed in on it when the write was made. -/
structure Author (υ : Type) where
  device : Nat
  user : υ
  deriving DecidableEq, Repr

/-- `β` are the states of the backend, `ε` the events in it that no app takes part in. -/
structure Backend (β ε υ ω : Type) [DecidableEq υ] where
  start : β
  write : β → Nat → ω → β
  next : β → ε → Option β
  isRejection : ε → Bool
  user : β → Nat → υ
  queued : β → Author υ → List ω
  accepted : β → List (Author υ × ω)
  /-- How many of the accepted writes the device has learnt of. -/
  known : β → Nat → Nat
  /-- The writes whose effect the device sees. -/
  visible : β → Nat → List (Author υ × ω)
  starts_empty : accepted start = [] ∧ ∀ author, queued start author = []
  /-- A write waits in the queue of its author. -/
  write_waits : ∀ b device op, accepted (write b device op) = accepted b ∧
    queued (write b device op) = Function.update (queued b) ⟨device, user b device⟩
      (queued b ⟨device, user b device⟩ ++ [op])
  /-- Only the first write of a queue is accepted, behind all others, or rejected. -/
  takes_heads : ∀ b e b', next b e = some b' →
    (accepted b' = accepted b ∧ queued b' = queued b) ∨
      ∃ author op ops, queued b author = op :: ops ∧
        queued b' = Function.update (queued b) author ops ∧
        (accepted b' = accepted b ++ [(author, op)] ∨
          isRejection e = true ∧ accepted b' = accepted b)
  /-- The accepted writes that the device has learnt of, then its own others, then those
  that its user has in the queue. -/
  sees_own : ∀ b device, visible b device =
    (accepted b).take (known b device) ++
      ((accepted b).drop (known b device)).filter (fun entry => entry.1.device = device) ++
      (queued b ⟨device, user b device⟩).map fun op => (⟨device, user b device⟩, op)

namespace Backend

variable {β ε υ ω : Type} [DecidableEq υ] (B : Backend β ε υ ω)

def acceptedFrom (b : β) (author : Author υ) : List ω :=
  ((B.accepted b).filter fun entry => entry.1 = author).map Prod.snd

theorem start_acceptedFrom (author : Author υ) :
    B.acceptedFrom B.start author ++ B.queued B.start author = [] := by
  simp [acceptedFrom, B.starts_empty.1, B.starts_empty.2 author]

theorem write_acceptedFrom (b : β) (device : Nat) (op : ω) (author : Author υ) :
    B.acceptedFrom (B.write b device op) author ++ B.queued (B.write b device op) author =
      B.acceptedFrom b author ++ B.queued b author ++
        if ⟨device, B.user b device⟩ = author then [op] else [] := by
  obtain ⟨haccepted, hqueued⟩ := B.write_waits b device op
  rw [acceptedFrom, haccepted, hqueued, ← acceptedFrom]
  by_cases hauthor : ⟨device, B.user b device⟩ = author
  · subst hauthor
    simp
  · simp [hauthor, Ne.symm hauthor]

/-- Behind the app the writes of an author only move on or, if one is rejected, get fewer. -/
theorem next_acceptedFrom {b b' : β} {e : ε} (h : B.next b e = some b') (author : Author υ) :
    (B.acceptedFrom b' author ++ B.queued b' author).Sublist
        (B.acceptedFrom b author ++ B.queued b author) ∧
      (B.isRejection e = false →
        B.acceptedFrom b' author ++ B.queued b' author =
          B.acceptedFrom b author ++ B.queued b author) := by
  rcases B.takes_heads b e b' h with
    ⟨haccepted, hqueued⟩ | ⟨writer, op, ops, hhead, hqueued, htaken⟩
  · simp [acceptedFrom, haccepted, hqueued]
  · by_cases hwriter : author = writer
    · subst hwriter
      rcases htaken with haccepted | ⟨hrejection, haccepted⟩
      · simp [acceptedFrom, haccepted, hqueued, hhead]
      · simp [acceptedFrom, haccepted, hqueued, hhead, hrejection]
    · rcases htaken with haccepted | ⟨-, haccepted⟩
      · simp [acceptedFrom, haccepted, hqueued, hwriter, Ne.symm hwriter]
      · simp [acceptedFrom, haccepted, hqueued, hwriter]

/-- A device sees the writes of its user, in their order, whatever it has learnt of others. -/
theorem visible_own (b : β) (device : Nat) :
    ((B.visible b device).filter fun entry => entry.1 = ⟨device, B.user b device⟩).map Prod.snd =
      B.acceptedFrom b ⟨device, B.user b device⟩ ++ B.queued b ⟨device, B.user b device⟩ := by
  have hdevice : ∀ entry : Author υ × ω,
      (decide (entry.1 = ⟨device, B.user b device⟩) && decide (entry.1.device = device)) =
        decide (entry.1 = ⟨device, B.user b device⟩) := by
    intro entry
    by_cases hauthor : entry.1 = ⟨device, B.user b device⟩
    · simp [hauthor]
    · simp [hauthor]
  have hsplit : B.acceptedFrom b ⟨device, B.user b device⟩ =
      (((B.accepted b).take (B.known b device)).filter
          fun entry => entry.1 = ⟨device, B.user b device⟩).map Prod.snd ++
        (((B.accepted b).drop (B.known b device)).filter
          fun entry => entry.1 = ⟨device, B.user b device⟩).map Prod.snd := by
    rw [← List.map_append, ← List.filter_append, List.take_append_drop]
    rfl
  rw [hsplit, B.sees_own]
  simp [List.filter_map, Function.comp_def, hdevice]

theorem visible_of_caught_up {b : β} {device : Nat}
    (hknown : B.known b device = (B.accepted b).length)
    (hqueued : B.queued b ⟨device, B.user b device⟩ = []) :
    B.visible b device = B.accepted b := by
  simp [B.sees_own, hknown, hqueued]

end Backend

/-! ## Queues and a log -/

structure Queues (υ ω : Type) where
  accepted : List (Author υ × ω)
  queued : Author υ → List ω
  known : Nat → Nat
  user : Nat → υ

inductive QueueEvent (υ : Type) where
  | accept (device : Nat)
  | reject (device : Nat)
  | fetch (device count : Nat)
  | signIn (device : Nat) (user : υ)
  deriving DecidableEq, Repr

namespace Queues

variable {υ ω : Type} [DecidableEq υ]

def signedIn (b : Queues υ ω) (device : Nat) : Author υ := ⟨device, b.user device⟩

def setQueue (b : Queues υ ω) (author : Author υ) (ops : List ω) : Queues υ ω :=
  { b with queued := Function.update b.queued author ops }

def next (b : Queues υ ω) : QueueEvent υ → Option (Queues υ ω)
  | .accept device =>
      match b.queued (b.signedIn device) with
      | [] => none
      | op :: ops =>
          some { b.setQueue (b.signedIn device) ops with
            accepted := b.accepted ++ [(b.signedIn device, op)] }
  | .reject device =>
      match b.queued (b.signedIn device) with
      | [] => none
      | _ :: ops => some (b.setQueue (b.signedIn device) ops)
  | .fetch device count =>
      if b.known device ≤ count ∧ count ≤ b.accepted.length then
        some { b with known := Function.update b.known device count }
      else none
  | .signIn device user => some { b with user := Function.update b.user device user }

theorem next_takes_heads {b b' : Queues υ ω} {e : QueueEvent υ} (h : b.next e = some b') :
    (b'.accepted = b.accepted ∧ b'.queued = b.queued) ∨
      ∃ author op ops, b.queued author = op :: ops ∧
        b'.queued = Function.update b.queued author ops ∧
        (b'.accepted = b.accepted ++ [(author, op)] ∨
          (∃ device, e = .reject device) ∧ b'.accepted = b.accepted) := by
  cases e with
  | accept device =>
      cases hqueue : b.queued (b.signedIn device) with
      | nil => simp [next, hqueue] at h
      | cons op ops =>
          simp only [next, hqueue] at h
          cases h
          exact .inr ⟨_, op, ops, hqueue, rfl, .inl rfl⟩
  | reject device =>
      cases hqueue : b.queued (b.signedIn device) with
      | nil => simp [next, hqueue] at h
      | cons op ops =>
          simp only [next, hqueue] at h
          cases h
          exact .inr ⟨_, op, ops, hqueue, rfl, .inr ⟨⟨device, rfl⟩, rfl⟩⟩
  | fetch device count =>
      obtain ⟨-, hb'⟩ := Option.ite_none_right_eq_some.mp h
      cases hb'
      exact .inl ⟨rfl, rfl⟩
  | signIn device user =>
      cases h
      exact .inl ⟨rfl, rfl⟩

end Queues

/-- Every user of every device has a queue, and `nobody` is signed in at the start. -/
def queues {υ ω : Type} [DecidableEq υ] (nobody : υ) :
    Backend (Queues υ ω) (QueueEvent υ) υ ω where
  start := ⟨[], fun _ => [], fun _ => 0, fun _ => nobody⟩
  write b device op := b.setQueue (b.signedIn device) (b.queued (b.signedIn device) ++ [op])
  next := Queues.next
  isRejection
    | .reject _ => true
    | .accept _ | .fetch _ _ | .signIn _ _ => false
  user := Queues.user
  queued := Queues.queued
  accepted := Queues.accepted
  known := Queues.known
  visible b device :=
    b.accepted.take (b.known device) ++
      (b.accepted.drop (b.known device)).filter (fun entry => entry.1.device = device) ++
      (b.queued (b.signedIn device)).map fun op => (b.signedIn device, op)
  starts_empty := ⟨rfl, fun _ => rfl⟩
  write_waits _ _ _ := ⟨rfl, rfl⟩
  takes_heads b e b' h := by
    rcases Queues.next_takes_heads h with hsame | ⟨author, op, ops, hhead, hqueued, htaken⟩
    · exact .inl hsame
    · refine .inr ⟨author, op, ops, hhead, hqueued, htaken.imp_right ?_⟩
      rintro ⟨⟨device, rfl⟩, haccepted⟩
      exact ⟨rfl, haccepted⟩
  sees_own _ _ := rfl

end AdvMad.Foundation
