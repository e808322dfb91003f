import AdvMad.Foundation.PartialStep

/-!
# History beside a run

Some properties speak about the past of a run, such as what was saved last.
`recording` keeps a record of it beside the state.  The steps of the component
are given without the record and cannot read it: `run_recording` says that
recording changes no run.
-/

namespace AdvMad.Foundation

variable {σ ε η : Type*} {step : σ → ε → Option σ} {record : η → σ → ε → η}

/-- `record h s e` is the record after the event `e` in the state `s`. -/
def recording (step : σ → ε → Option σ) (record : η → σ → ε → η) (s : σ × η) (e : ε) :
    Option (σ × η) :=
  (step s.1 e).map fun s' => (s', record s.2 s.1 e)

theorem recording_eq_some_iff {s t : σ × η} {e : ε} :
    recording step record s e = some t ↔ step s.1 e = some t.1 ∧ t.2 = record s.2 s.1 e := by
  obtain ⟨s', h'⟩ := t
  simp only [recording, Option.map_eq_some_iff, Prod.mk.injEq]
  constructor
  · rintro ⟨found, hfound, rfl, rfl⟩
    exact ⟨hfound, rfl⟩
  · rintro ⟨hstep, rfl⟩
    exact ⟨s', hstep, rfl, rfl⟩

@[simp] theorem recording_isSome (s : σ × η) (e : ε) :
    (recording step record s e).isSome = (step s.1 e).isSome := by
  simp [recording]

theorem run_recording (s : σ) (h : η) (es : List ε) :
    (run (recording step record) (s, h) es).map Prod.fst = run step s es := by
  induction es generalizing s h with
  | nil => rfl
  | cons e es ih =>
      cases hstep : step s e with
      | none => simp [recording, hstep]
      | some s' => simpa [recording, hstep] using ih s' (record h s e)

theorem run_recording_isSome (s : σ) (h : η) (es : List ε) :
    (run (recording step record) (s, h) es).isSome = (run step s es).isSome := by
  rw [← run_recording s h es, Option.isSome_map]

theorem Always.of_recording {P : σ → Prop} {s : σ} {h : η} {es : List ε}
    (halways : Always (recording step record) (fun t => P t.1) (s, h) es) :
    Always step P s es := by
  induction es generalizing s h with
  | nil => exact halways
  | cons e es ih =>
      obtain ⟨hP, t, ht, hrest⟩ := halways
      obtain ⟨hstep, -⟩ := recording_eq_some_iff.mp ht
      exact ⟨hP, t.1, hstep, ih hrest⟩

end AdvMad.Foundation
