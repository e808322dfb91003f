import Mathlib.Data.List.Induction
import AdvMad.Foundation.Backend
import AdvMad.Foundation.PartialStep

/-!
# Clients of a shared store

Clients write to one store and watch it, with any `Backend` between them.  The
accepted writes take effect in their order; the views of a device are handed
snapshots of the store as the writes visible on the device have made it.
-/

namespace AdvMad.Foundation

variable {β ε υ σ ω κ τ ν : Type} [DecidableEq υ]

/-- The store, and the views on it: what a view opened for `key` starts with, what
snapshots it may be handed, and what it makes of one. -/
structure Replication (υ σ ω κ τ ν : Type) where
  empty : σ
  apply : σ → υ → ω → σ
  ValidWrite : ω → Prop
  fresh : υ → κ → ν
  IsSnapshot : ν → σ → τ → Prop
  receive : ν → τ → Option ν

structure Replicas (β ν : Type) where
  backend : β
  view : Nat → Nat → Option ν

inductive ReplicaEvent (ε υ ω κ τ : Type) where
  | write (author : Author υ) (op : ω)
  | behind (event : ε)
  | openView (device i : Nat) (key : κ)
  | deliver (device i : Nat) (snapshot : τ)
  deriving DecidableEq, Repr

namespace ReplicaEvent

def isDelivery : ReplicaEvent ε υ ω κ τ → Bool
  | .deliver _ _ _ => true
  | .write _ _ | .behind _ | .openView _ _ _ => false

def issuedBy (author : Author υ) : ReplicaEvent ε υ ω κ τ → Option ω
  | .write writer op => if writer = author then some op else none
  | .behind _ | .openView _ _ _ | .deliver _ _ _ => none

end ReplicaEvent

def issued (author : Author υ) (events : List (ReplicaEvent ε υ ω κ τ)) : List ω :=
  events.filterMap (ReplicaEvent.issuedBy author)

def Unrejected (B : Backend β ε υ ω) (events : List (ReplicaEvent ε υ ω κ τ)) : Prop :=
  ∀ e, .behind e ∈ events → B.isRejection e = false

namespace Replicas

def start (B : Backend β ε υ ω) : Replicas β ν := ⟨B.start, fun _ _ => none⟩

def setView (s : Replicas β ν) (device i : Nat) (v : ν) : Replicas β ν :=
  { s with view := Function.update s.view device (Function.update (s.view device) i (some v)) }

end Replicas

namespace Replication

variable (R : Replication υ σ ω κ τ ν) (B : Backend β ε υ ω)

def applyAll (writes : List (Author υ × ω)) : σ :=
  writes.foldl (fun st entry => R.apply st entry.1.user entry.2) R.empty

def store (b : β) : σ := R.applyAll (B.accepted b)

def seen (b : β) (device : Nat) : σ := R.applyAll (B.visible b device)

def step (s : Replicas β ν) : ReplicaEvent ε υ ω κ τ → Option (Replicas β ν)
  | .write author op => some { s with backend := B.write s.backend author.device op }
  | .behind e => (B.next s.backend e).map fun b => { s with backend := b }
  | .openView device i key => some (s.setView device i (R.fresh (B.user s.backend device) key))
  | .deliver device i snapshot => do
      let v ← s.view device i
      let v' ← R.receive v snapshot
      some (s.setView device i v')

/-- The author is the user signed in, the backend can do what happens in it, and a snapshot
is one of what the device sees. -/
def Admissible (s : Replicas β ν) : ReplicaEvent ε υ ω κ τ → Prop
  | .write author op => author.user = B.user s.backend author.device ∧ R.ValidWrite op
  | .behind e => (B.next s.backend e).isSome = true
  | .openView _ _ _ => True
  | .deliver device i snapshot =>
      ∃ v, s.view device i = some v ∧ R.IsSnapshot v (R.seen B s.backend device) snapshot

/-- Every snapshot of a well-formed store is received, and the view then shows the store. -/
structure Faithful (Ok : σ → Prop) (Shows : ν → σ → Prop) : Prop where
  empty : Ok R.empty
  apply : ∀ st user op, Ok st → Ok (R.apply st user op)
  receive : ∀ v st snapshot, Ok st → R.IsSnapshot v st snapshot →
    ∃ v', R.receive v snapshot = some v' ∧ Shows v' st

variable {R B} {Ok : σ → Prop} {Shows : ν → σ → Prop}

omit [DecidableEq υ] in
/-- The induction over the writes that made the store. -/
theorem applyAll_induction {motive : σ → List (Author υ × ω) → Prop}
    (hempty : motive R.empty [])
    (happly : ∀ st writes entry, motive st writes →
      motive (R.apply st entry.1.user entry.2) (writes ++ [entry]))
    (writes : List (Author υ × ω)) : motive (R.applyAll writes) writes := by
  induction writes using List.reverseRecOn with
  | nil => exact hempty
  | append_singleton writes entry ih =>
      have hlast := happly _ writes entry ih
      rwa [applyAll, List.foldl_append]

omit [DecidableEq υ] in
theorem Faithful.applyAll (h : R.Faithful Ok Shows) (writes : List (Author υ × ω)) :
    Ok (R.applyAll writes) :=
  applyAll_induction h.empty (fun st _ _ hst => h.apply st _ _ hst) writes

theorem Faithful.step_deliver (h : R.Faithful Ok Shows) {s : Replicas β ν} {device i : Nat}
    {snapshot : τ} (hadm : R.Admissible B s (.deliver device i snapshot)) :
    ∃ v, R.step B s (.deliver device i snapshot) = some (s.setView device i v) ∧
      Shows v (R.seen B s.backend device) := by
  obtain ⟨v, hview, hsnapshot⟩ := hadm
  obtain ⟨v', hv', hshows⟩ := h.receive v _ snapshot (h.applyAll _) hsnapshot
  exact ⟨v', by simp [step, hview, hv'], hshows⟩

theorem Faithful.step_isSome (h : R.Faithful Ok Shows) {s : Replicas β ν}
    {event : ReplicaEvent ε υ ω κ τ} (hadm : R.Admissible B s event) :
    ∃ s', R.step B s event = some s' := by
  cases event with
  | write author op | openView device i key => exact ⟨_, rfl⟩
  | deliver device i snapshot =>
      obtain ⟨v, hv, -⟩ := h.step_deliver hadm
      exact ⟨_, hv⟩
  | behind e =>
      obtain ⟨b, hb⟩ := Option.isSome_iff_exists.mp hadm
      exact ⟨{ s with backend := b }, by simp [step, hb]⟩

theorem Faithful.run_isSome (h : R.Faithful Ok Shows) {s : Replicas β ν}
    {events : List (ReplicaEvent ε υ ω κ τ)}
    (hadm : EveryStep (R.step B) (R.Admissible B) s events) :
    (run (R.step B) s events).isSome := by
  have hstep : ∀ s event, True → R.Admissible B s event →
      ∃ s', R.step B s event = some s' ∧ True := by
    intro s event _ hevent
    obtain ⟨s', hs'⟩ := h.step_isSome hevent
    exact ⟨s', hs', trivial⟩
  obtain ⟨t, ht, -⟩ := (always_of_step hstep trivial hadm).final
  simp [ht]

/-! ## Order of arrival -/

theorem step_backend {s s' : Replicas β ν} {event : ReplicaEvent ε υ ω κ τ}
    (h : R.step B s event = some s') :
    (∃ author op, event = .write author op ∧
        s'.backend = B.write s.backend author.device op) ∨
      (∃ e, event = .behind e ∧ B.next s.backend e = some s'.backend) ∨
      ((∀ author, event.issuedBy author = none) ∧ s'.backend = s.backend) := by
  cases event with
  | write author op =>
      cases h
      exact .inl ⟨author, op, rfl, rfl⟩
  | behind e =>
      obtain ⟨b, hb, rfl⟩ := Option.map_eq_some_iff.mp h
      exact .inr (.inl ⟨e, rfl, hb⟩)
  | openView device i key =>
      cases h
      exact .inr (.inr ⟨fun _ => rfl, rfl⟩)
  | deliver device i snapshot =>
      obtain ⟨v, -, hv⟩ := Option.bind_eq_some_iff.mp h
      obtain ⟨v', -, hs'⟩ := Option.bind_eq_some_iff.mp hv
      cases hs'
      exact .inr (.inr ⟨fun _ => rfl, rfl⟩)

theorem step_acceptedFrom {s s' : Replicas β ν} {event : ReplicaEvent ε υ ω κ τ}
    (hadm : R.Admissible B s event) (h : R.step B s event = some s') (author : Author υ) :
    (B.acceptedFrom s'.backend author ++ B.queued s'.backend author).Sublist
        (B.acceptedFrom s.backend author ++ B.queued s.backend author ++
          (event.issuedBy author).toList) ∧
      ((∀ e, event = .behind e → B.isRejection e = false) →
        B.acceptedFrom s'.backend author ++ B.queued s'.backend author =
          B.acceptedFrom s.backend author ++ B.queued s.backend author ++
            (event.issuedBy author).toList) := by
  rcases step_backend h with ⟨writer, op, rfl, hwrite⟩ | ⟨e, rfl, hnext⟩ | ⟨hnone, hsame⟩
  · have hwriter : (⟨writer.device, B.user s.backend writer.device⟩ : Author υ) = writer := by
      rw [← hadm.1]
    have heq := B.write_acceptedFrom s.backend writer.device op author
    rw [hwriter] at heq
    have hissued : (ReplicaEvent.issuedBy author
        (.write writer op : ReplicaEvent ε υ ω κ τ)).toList =
          if writer = author then [op] else [] := by
      by_cases hauthor : writer = author <;> simp [ReplicaEvent.issuedBy, hauthor]
    rw [hwrite, heq, hissued]
    exact ⟨List.Sublist.refl _, fun _ => rfl⟩
  · obtain ⟨hsub, heq⟩ := B.next_acceptedFrom hnext author
    have hissued : (ReplicaEvent.issuedBy author
        (.behind e : ReplicaEvent ε υ ω κ τ)).toList = [] := rfl
    rw [hissued, List.append_nil]
    exact ⟨hsub, fun hunrejected => heq (hunrejected e rfl)⟩
  · rw [hsame, hnone author]
    simp

theorem issued_cons (author : Author υ) (event : ReplicaEvent ε υ ω κ τ)
    (events : List (ReplicaEvent ε υ ω κ τ)) :
    issued author (event :: events) = (event.issuedBy author).toList ++ issued author events := by
  unfold issued
  cases hevent : event.issuedBy author with
  | none => simp [hevent]
  | some op => simp [hevent]

theorem run_acceptedFrom {s t : Replicas β ν} {events : List (ReplicaEvent ε υ ω κ τ)}
    (hadm : EveryStep (R.step B) (R.Admissible B) s events)
    (h : run (R.step B) s events = some t) (author : Author υ) :
    (B.acceptedFrom t.backend author ++ B.queued t.backend author).Sublist
        (B.acceptedFrom s.backend author ++ B.queued s.backend author ++
          issued author events) ∧
      (Unrejected B events →
        B.acceptedFrom t.backend author ++ B.queued t.backend author =
          B.acceptedFrom s.backend author ++ B.queued s.backend author ++
            issued author events) := by
  induction events generalizing s with
  | nil =>
      cases h
      simp [issued]
  | cons event events ih =>
      obtain ⟨s', hs', hrest⟩ := Option.bind_eq_some_iff.mp h
      obtain ⟨hsub, heq⟩ := step_acceptedFrom hadm.1 hs' author
      obtain ⟨hsub', heq'⟩ := ih (hadm.2 s' hs') hrest
      rw [issued_cons, ← List.append_assoc]
      constructor
      · exact hsub'.trans (hsub.append_right _)
      · intro hunrejected
        rw [heq' fun e he => hunrejected e (List.mem_cons_of_mem _ he),
          heq fun e he => hunrejected e (he ▸ List.mem_cons_self)]

/-- Every write is accepted at most once, and those of one author in the order in which
they were made; if none is rejected, a write is accepted or waits. -/
theorem accepted_sublist_issued {t : Replicas β ν} {events : List (ReplicaEvent ε υ ω κ τ)}
    (hadm : EveryStep (R.step B) (R.Admissible B) (.start B) events)
    (h : run (R.step B) (.start B) events = some t) (author : Author υ) :
    (B.acceptedFrom t.backend author ++ B.queued t.backend author).Sublist
        (issued author events) ∧
      (Unrejected B events →
        B.acceptedFrom t.backend author ++ B.queued t.backend author =
          issued author events) := by
  have hstart : B.acceptedFrom (Replicas.start B : Replicas β ν).backend author ++
      B.queued (Replicas.start B : Replicas β ν).backend author = [] :=
    B.start_acceptedFrom author
  have hrun := run_acceptedFrom hadm h author
  rwa [hstart, List.nil_append] at hrun

/-! ## Once writes have ceased -/

theorem step_of_isDelivery {s s' : Replicas β ν} {event : ReplicaEvent ε υ ω κ τ}
    (hevent : event.isDelivery = true) (h : R.step B s event = some s') :
    s'.backend = s.backend := by
  rcases step_backend h with ⟨author, op, rfl, -⟩ | ⟨e, rfl, -⟩ | ⟨-, hsame⟩
  · cases hevent
  · cases hevent
  · exact hsame

theorem seen_of_caught_up {b : β} {device : Nat}
    (hknown : B.known b device = (B.accepted b).length)
    (hqueued : B.queued b ⟨device, B.user b device⟩ = []) :
    R.seen B b device = R.store B b := by
  rw [seen, B.visible_of_caught_up hknown hqueued, store]

/-- Deliveries alone bring every view that gets one up to date. -/
theorem Faithful.shows_of_deliveries (h : R.Faithful Ok Shows) {s t : Replicas β ν}
    {events : List (ReplicaEvent ε υ ω κ τ)} (hrun : run (R.step B) s events = some t)
    (hadm : EveryStep (R.step B) (R.Admissible B) s events)
    (honly : ∀ event ∈ events, event.isDelivery = true) {device i : Nat}
    (hreached : (∃ snapshot, .deliver device i snapshot ∈ events) ∨
      ∃ v, s.view device i = some v ∧ Shows v (R.seen B s.backend device)) :
    ∃ v, t.view device i = some v ∧ Shows v (R.seen B s.backend device) := by
  induction events generalizing s with
  | nil =>
      cases hrun
      simpa using hreached
  | cons event events ih =>
      obtain ⟨s', hs', hrest⟩ := Option.bind_eq_some_iff.mp hrun
      have hevent := honly event List.mem_cons_self
      have hseen : R.seen B s'.backend device = R.seen B s.backend device := by
        rw [step_of_isDelivery hevent hs']
      rw [← hseen] at hreached ⊢
      apply ih hrest (hadm.2 s' hs') fun later hlater =>
        honly later (List.mem_cons_of_mem _ hlater)
      cases event with
      | write author op | behind e | openView other j key => cases hevent
      | deliver other j snapshot =>
          obtain ⟨v, hv, hshows⟩ := h.step_deliver hadm.1
          obtain rfl : s' = s.setView other j v := Option.some.inj (hs'.symm.trans hv)
          by_cases hview : other = device ∧ j = i
          · obtain ⟨rfl, rfl⟩ := hview
            rw [hseen]
            exact .inr ⟨v, by simp [Replicas.setView], hshows⟩
          · rcases hreached with ⟨found, hfound⟩ | hshown
            · rcases List.mem_cons.mp hfound with heq | hlater
              · cases heq
                exact absurd ⟨rfl, rfl⟩ hview
              · exact .inl ⟨found, hlater⟩
            · refine .inr ?_
              have hsame : (s.setView other j v).view device i = s.view device i := by
                by_cases hdevice : device = other
                · subst hdevice
                  have hne : i ≠ j := fun heq => hview ⟨rfl, heq.symm⟩
                  simp [Replicas.setView, hne]
                · simp [Replicas.setView, hdevice]
              rwa [hsame]

end Replication

end AdvMad.Foundation
