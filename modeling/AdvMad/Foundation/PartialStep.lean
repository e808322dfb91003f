import Mathlib.Data.List.Basic

/-!
# Runs of a partial step function

A component is given by `step : σ → ε → Option σ`: what one event does to its
state.  `none` stands for an event that cannot happen in the state or that
traps (an index out of range, a forced unwrap of a missing value).  A run is
the list of its events.  `Always` speaks about the states of a run and
`EveryStep` about its events; the rules below reduce both to one step.
-/

namespace AdvMad.Foundation

variable {σ ε : Type*} {step : σ → ε → Option σ}

/-- Execute the events in order; `none` as soon as one of them traps. -/
def run (step : σ → ε → Option σ) : σ → List ε → Option σ
  | s, [] => some s
  | s, e :: es => (step s e).bind fun s' => run step s' es

/-- No event of the run traps, and `P` holds of every state, the first included. -/
def Always (step : σ → ε → Option σ) (P : σ → Prop) : σ → List ε → Prop
  | s, [] => P s
  | s, e :: es => P s ∧ ∃ s', step s e = some s' ∧ Always step P s' es

/-- Every event of the run satisfies `G` in the state in which it is taken. -/
def EveryStep (step : σ → ε → Option σ) (G : σ → ε → Prop) : σ → List ε → Prop
  | _, [] => True
  | s, e :: es => G s e ∧ ∀ s', step s e = some s' → EveryStep step G s' es

@[simp] theorem run_nil (s : σ) : run step s [] = some s := rfl

@[simp] theorem run_cons (s : σ) (e : ε) (es : List ε) :
    run step s (e :: es) = (step s e).bind fun s' => run step s' es := rfl

@[simp] theorem always_nil {P : σ → Prop} {s : σ} :
    Always step P s [] ↔ P s := Iff.rfl

theorem always_cons {P : σ → Prop} {s : σ} {e : ε} {es : List ε} :
    Always step P s (e :: es) ↔
      P s ∧ ∃ s', step s e = some s' ∧ Always step P s' es := Iff.rfl

@[simp] theorem everyStep_nil {G : σ → ε → Prop} {s : σ} :
    EveryStep step G s [] := trivial

theorem everyStep_cons {G : σ → ε → Prop} {s : σ} {e : ε} {es : List ε} :
    EveryStep step G s (e :: es) ↔
      G s e ∧ ∀ s', step s e = some s' → EveryStep step G s' es := Iff.rfl

theorem run_append (s : σ) (es fs : List ε) :
    run step s (es ++ fs) = (run step s es).bind fun s' => run step s' fs := by
  induction es generalizing s with
  | nil => rfl
  | cons e es ih =>
      simp only [List.cons_append, run_cons]
      cases step s e with
      | none => rfl
      | some s' => exact ih s'

theorem run_isSome_of_prefixes {s : σ} {es : List ε}
    (h : ∀ before e after t, es = before ++ e :: after → run step s before = some t →
      (step t e).isSome = true) : (run step s es).isSome = true := by
  induction es generalizing s with
  | nil => rfl
  | cons e es ih =>
      obtain ⟨s', hs'⟩ := Option.isSome_iff_exists.mp (h [] e es s rfl rfl)
      rw [run_cons, hs', Option.bind_some]
      apply ih
      intro before later after t hes hrun
      exact h (e :: before) later after t (by simp [hes]) (by simp [hs', hrun])

theorem run_flatMap_of_run {τ δ : Type*} {step' : τ → δ → Option τ} {f : σ → τ}
    {g : ε → List δ}
    (hstep : ∀ s e s', step s e = some s' → run step' (f s) (g e) = some (f s'))
    {s t : σ} {es : List ε} (hrun : run step s es = some t) :
    run step' (f s) (es.flatMap g) = some (f t) := by
  induction es generalizing s with
  | nil =>
      cases hrun
      rfl
  | cons e es ih =>
      obtain ⟨s', hs', hrest⟩ := Option.bind_eq_some_iff.mp hrun
      simp [run_append, hstep s e s' hs', ih hrest]

theorem Always.head {P : σ → Prop} {s : σ} {es : List ε}
    (h : Always step P s es) : P s := by
  cases es with
  | nil => exact h
  | cons e es => exact h.1

instance Always.decidable {P : σ → Prop} [DecidablePred P] :
    ∀ (s : σ) (es : List ε), Decidable (Always step P s es)
  | s, [] => inferInstanceAs (Decidable (P s))
  | s, e :: es =>
      match h : step s e with
      | none => isFalse (by simp [always_cons, h])
      | some s' =>
          have := Always.decidable (P := P) s' es
          decidable_of_iff (P s ∧ Always step P s' es) (by simp [always_cons, h])

instance EveryStep.decidable {G : σ → ε → Prop} [∀ s e, Decidable (G s e)] :
    ∀ (s : σ) (es : List ε), Decidable (EveryStep step G s es)
  | _, [] => isTrue trivial
  | s, e :: es =>
      match h : step s e with
      | none => decidable_of_iff (G s e) (by simp [everyStep_cons, h])
      | some s' =>
          have := EveryStep.decidable (G := G) s' es
          decidable_of_iff (G s e ∧ EveryStep step G s' es)
            (by simp [everyStep_cons, h])

theorem always_iff_prefixes {P : σ → Prop} {s : σ} {es : List ε} :
    Always step P s es ↔
      ∀ fs, fs <+: es → ∃ s', run step s fs = some s' ∧ P s' := by
  induction es generalizing s with
  | nil => simp
  | cons e es ih =>
      constructor
      · rintro ⟨hP, s', hs', hrest⟩ fs hfs
        cases fs with
        | nil => exact ⟨s, rfl, hP⟩
        | cons f fs =>
            obtain ⟨rfl, htail⟩ := List.cons_prefix_cons.mp hfs
            obtain ⟨t, ht, hPt⟩ := ih.mp hrest fs htail
            exact ⟨t, by simp [hs', ht], hPt⟩
      · intro h
        obtain ⟨t, ht, hPt⟩ := h [] List.nil_prefix
        obtain rfl : s = t := by simpa using ht
        obtain ⟨u, hu, -⟩ := h [e] (by simp)
        obtain ⟨s', hs', -⟩ := Option.bind_eq_some_iff.mp hu
        refine ⟨hPt, s', hs', ih.mpr fun fs hfs => ?_⟩
        obtain ⟨t, ht, hPt⟩ := h (e :: fs) (List.cons_prefix_cons.mpr ⟨rfl, hfs⟩)
        exact ⟨t, by simpa [hs'] using ht, hPt⟩

theorem Always.final {P : σ → Prop} {s : σ} {es : List ε} (h : Always step P s es) :
    ∃ t, run step s es = some t ∧ P t :=
  always_iff_prefixes.mp h es List.prefix_rfl

theorem EveryStep.final {G : σ → ε → Prop} {s t : σ} {es : List ε} {e : ε}
    (h : EveryStep step G s (es ++ [e])) (hrun : run step s es = some t) : G t e := by
  induction es generalizing s with
  | nil =>
      cases hrun
      exact h.1
  | cons first es ih =>
      obtain ⟨s', hs', hrest⟩ := Option.bind_eq_some_iff.mp hrun
      exact ih (h.2 s' hs') hrest

theorem EveryStep.after {G : σ → ε → Prop} {s t : σ} {es fs : List ε}
    (h : EveryStep step G s (es ++ fs)) (hrun : run step s es = some t) :
    EveryStep step G t fs := by
  induction es generalizing s with
  | nil =>
      cases hrun
      exact h
  | cons first es ih =>
      obtain ⟨s', hs', hrest⟩ := Option.bind_eq_some_iff.mp hrun
      exact ih (h.2 s' hs') hrest

theorem EveryStep.before {G : σ → ε → Prop} {s : σ} {es fs : List ε}
    (h : EveryStep step G s (es ++ fs)) : EveryStep step G s es := by
  induction es generalizing s with
  | nil => trivial
  | cons e es ih => exact ⟨h.1, fun s' hs' => ih (h.2 s' hs')⟩

theorem EveryStep.mono {G H : σ → ε → Prop} (hGH : ∀ s e, G s e → H s e)
    {s : σ} {es : List ε} (h : EveryStep step G s es) : EveryStep step H s es := by
  induction es generalizing s with
  | nil => trivial
  | cons e es ih => exact ⟨hGH s e h.1, fun s' hs' => ih (h.2 s' hs')⟩

theorem EveryStep.and {G H : σ → ε → Prop} {s : σ} {es : List ε}
    (hG : EveryStep step G s es) (hH : EveryStep step H s es) :
    EveryStep step (fun s e => G s e ∧ H s e) s es := by
  induction es generalizing s with
  | nil => trivial
  | cons e es ih =>
      exact ⟨⟨hG.1, hH.1⟩, fun s' hs' => ih (hG.2 s' hs') (hH.2 s' hs')⟩

theorem everyStep_of_forall_mem {G : σ → ε → Prop} {es : List ε}
    (h : ∀ e ∈ es, ∀ s, G s e) (s : σ) : EveryStep step G s es := by
  induction es generalizing s with
  | nil => trivial
  | cons e es ih =>
      exact ⟨h e (by simp) s, fun s' _ => ih (fun f hf => h f (by simp [hf])) s'⟩

theorem Always.everyStep {P : σ → Prop} {G : σ → ε → Prop}
    {s : σ} {es : List ε} (h : Always step P s es) (hPG : ∀ s e, P s → G s e) :
    EveryStep step G s es := by
  induction es generalizing s with
  | nil => trivial
  | cons e es ih =>
      obtain ⟨hP, s', hs', hrest⟩ := h
      refine ⟨hPG s e hP, fun t ht => ?_⟩
      obtain rfl : s' = t := Option.some.inj (hs'.symm.trans ht)
      exact ih hrest

theorem Always.mono {P Q : σ → Prop} {s : σ} {es : List ε}
    (h : Always step P s es) (hPQ : ∀ s, P s → Q s) : Always step Q s es := by
  induction es generalizing s with
  | nil => exact hPQ s h
  | cons e es ih =>
      obtain ⟨hP, s', hs', hrest⟩ := h
      exact ⟨hPQ s hP, s', hs', ih hrest⟩

theorem everyStep_isSome_of_run {s : σ} {es : List ε}
    (h : (run step s es).isSome) :
    EveryStep step (fun s e => (step s e).isSome) s es := by
  induction es generalizing s with
  | nil => trivial
  | cons e es ih =>
      obtain ⟨t, ht⟩ := Option.isSome_iff_exists.mp h
      obtain ⟨s', hs', hrest⟩ := Option.bind_eq_some_iff.mp ht
      refine ⟨by simp [hs'], fun u hu => ?_⟩
      obtain rfl : s' = u := Option.some.inj (hs'.symm.trans hu)
      exact ih (by simp [hrest])

/-- The invariant rule: along a run that goes through, steps that meet `G` keep `P`. -/
theorem always_of_run {P : σ → Prop} {G : σ → ε → Prop}
    (hstep : ∀ s e s', P s → G s e → step s e = some s' → P s')
    {s : σ} {es : List ε} (hs : P s) (hrun : (run step s es).isSome)
    (hG : EveryStep step G s es) : Always step P s es := by
  induction es generalizing s with
  | nil => exact hs
  | cons e es ih =>
      obtain ⟨t, ht⟩ := Option.isSome_iff_exists.mp hrun
      obtain ⟨s', hs', hrest⟩ := Option.bind_eq_some_iff.mp ht
      exact ⟨hs, s', hs', ih (hstep s e s' hs hG.1 hs') (by simp [hrest])
        (hG.2 s' hs')⟩

/-- Where every admissible step from `P` goes through and keeps `P`, no run traps. -/
theorem always_of_step {P : σ → Prop} {Adm : σ → ε → Prop}
    (hstep : ∀ s e, P s → Adm s e → ∃ s', step s e = some s' ∧ P s')
    {s : σ} {es : List ε} (hs : P s) (hadm : EveryStep step Adm s es) :
    Always step P s es := by
  induction es generalizing s with
  | nil => exact hs
  | cons e es ih =>
      obtain ⟨s', hs', hP'⟩ := hstep s e hs hadm.1
      exact ⟨hs, s', hs', ih hP' (hadm.2 s' hs')⟩

theorem Always.and_inv {P Inv : σ → Prop} {Adm : σ → ε → Prop}
    (hstep : ∀ s e s', Inv s → Adm s e → step s e = some s' → Inv s')
    {s : σ} {es : List ε} (h : Always step P s es) (hs : Inv s)
    (hadm : EveryStep step Adm s es) : Always step (fun t => Inv t ∧ P t) s es := by
  induction es generalizing s with
  | nil => exact ⟨hs, h⟩
  | cons e es ih =>
      obtain ⟨hP, s', hs', hrest⟩ := h
      have hinv' := hstep s e s' hs hadm.1 hs'
      exact ⟨⟨hs, hP⟩, s', hs', ih hrest hinv' (hadm.2 s' hs')⟩

theorem inv_of_run {Inv : σ → Prop} {Adm : σ → ε → Prop}
    (hstep : ∀ s e s', Inv s → Adm s e → step s e = some s' → Inv s')
    {s t : σ} {es : List ε} (hs : Inv s) (hadm : EveryStep step Adm s es)
    (hrun : run step s es = some t) : Inv t := by
  induction es generalizing s with
  | nil =>
      cases hrun
      exact hs
  | cons e es ih =>
      obtain ⟨s', hs', hrest⟩ := Option.bind_eq_some_iff.mp hrun
      have hinv' := hstep s e s' hs hadm.1 hs'
      exact ih hinv' (hadm.2 s' hs') hrest

theorem run_keeps {Inv : σ → Prop}
    (hstep : ∀ s e s', Inv s → step s e = some s' → Inv s')
    {s t : σ} {es : List ε} (hs : Inv s) (hrun : run step s es = some t) : Inv t :=
  inv_of_run (fun s e s' h (_ : True) => hstep s e s' h) hs
    (everyStep_of_forall_mem (fun _ _ _ => trivial) s) hrun

theorem length_le_of_run {measure : σ → Nat}
    (hstep : ∀ s e s', step s e = some s' → measure s' < measure s)
    {s t : σ} {es : List ε} (hrun : run step s es = some t) :
    measure t + es.length ≤ measure s := by
  induction es generalizing s with
  | nil =>
      cases hrun
      simp
  | cons e es ih =>
      obtain ⟨s', hs', hrest⟩ := Option.bind_eq_some_iff.mp hrun
      have hlt := hstep s e s' hs'
      have hle := ih hrest
      rw [List.length_cons]
      omega

theorem everyStep_of_run_eq {s t : σ} {es : List ε} (hrun : run step s es = some t) :
    EveryStep step (fun s e => ∃ s' rest, step s e = some s' ∧ run step s' rest = some t)
      s es := by
  induction es generalizing s with
  | nil => trivial
  | cons e es ih =>
      obtain ⟨s', hs', hrest⟩ := Option.bind_eq_some_iff.mp hrun
      refine ⟨⟨s', es, hs', hrest⟩, fun u hu => ?_⟩
      obtain rfl : s' = u := Option.some.inj (hs'.symm.trans hu)
      exact ih hrest

theorem everyStep_of_run {G H : σ → ε → Prop}
    (hstep : ∀ s e s', G s e → step s e = some s' → H s e)
    {s : σ} {es : List ε} (hrun : (run step s es).isSome)
    (hG : EveryStep step G s es) : EveryStep step H s es := by
  induction es generalizing s with
  | nil => trivial
  | cons e es ih =>
      obtain ⟨t, ht⟩ := Option.isSome_iff_exists.mp hrun
      obtain ⟨s', hs', hrest⟩ := Option.bind_eq_some_iff.mp ht
      refine ⟨hstep s e s' hG.1 hs', fun u hu => ?_⟩
      obtain rfl : s' = u := Option.some.inj (hs'.symm.trans hu)
      exact ih (by simp [hrest]) (hG.2 s' hs')

/--
The exact rule.  Where a step from a good state leads to a good state exactly
if it meets `G`, a run stays good exactly if all its steps meet `G`.
-/
theorem always_iff_everyStep (Inv : σ → Prop) {P : σ → Prop} {Adm G : σ → ε → Prop}
    (hstep : ∀ s e, Inv s → P s → Adm s e →
      ∃ s', step s e = some s' ∧ Inv s' ∧ (P s' ↔ G s e))
    {s : σ} {es : List ε} (hinv : Inv s) (hP : P s)
    (hadm : EveryStep step Adm s es) :
    Always step P s es ↔ EveryStep step G s es := by
  induction es generalizing s with
  | nil => simp [hP]
  | cons e es ih =>
      obtain ⟨s', hs', hinv', hiff⟩ := hstep s e hinv hP hadm.1
      constructor
      · rintro ⟨-, t, ht, hrest⟩
        obtain rfl : s' = t := Option.some.inj (hs'.symm.trans ht)
        have hP' : P s' := hrest.head
        refine ⟨hiff.mp hP', fun u hu => ?_⟩
        obtain rfl : s' = u := Option.some.inj (hs'.symm.trans hu)
        exact (ih hinv' hP' (hadm.2 s' hs')).mp hrest
      · rintro ⟨hGe, hrest⟩
        have hP' : P s' := hiff.mpr hGe
        exact ⟨hP, s', hs',
          (ih hinv' hP' (hadm.2 s' hs')).mpr (hrest s' hs')⟩

theorem everyStep_congr_of_run (Inv : σ → Prop) {G H : σ → ε → Prop}
    (hinv : ∀ s e s', Inv s → step s e = some s' → Inv s')
    (hGH : ∀ s e s', Inv s → step s e = some s' → (G s e ↔ H s e))
    {s : σ} {es : List ε} (hs : Inv s) (hrun : (run step s es).isSome) :
    EveryStep step G s es ↔ EveryStep step H s es := by
  induction es generalizing s with
  | nil => simp
  | cons e es ih =>
      obtain ⟨t, ht⟩ := Option.isSome_iff_exists.mp hrun
      obtain ⟨s', hs', hrest⟩ := Option.bind_eq_some_iff.mp ht
      rw [everyStep_cons, everyStep_cons, hGH s e s' hs hs']
      refine and_congr_right fun _ => forall_congr' fun u => forall_congr' fun hu => ?_
      obtain rfl : s' = u := Option.some.inj (hs'.symm.trans hu)
      exact ih (hinv s e s' hs hs') (by simp [hrest])

end AdvMad.Foundation
