import AdvMad.Shared.StateSearch
import AdvMad.Translator.Request

/-!
# projects/lab4: picking a dialect

The picker offers the dialects, and `didSelectRow` shows the translation found
at the picked row of `data`, the list that the last search handed over.  The
parser of the responses repeats that of lab4.  In the app as it stands runs end
sooner: nothing in `Main.storyboard` is connected to `translatedTextLabel`, which
a pick unwraps, and it has no segue `SearchResults`, which `searchDone` performs.
Both are taken to be there, so that runs of the app are runs here.
-/

namespace AdvMad.Translator

open AdvMad.Foundation
open AdvMad.Shared

structure Translate where
  translated : String
  text : String
  translation : String
  deriving DecidableEq, Repr

/-- The fields of `ViewController` and the current list of `AlertDataController`. -/
structure ViewController where
  selectedState : String
  data : List Translate
  currentTranslation : List Translate
  translatedTextLabel : Option String
  deriving DecidableEq, Repr

inductive PickEvent (Data : Type) where
  | didSelectRow (row : Nat)
  | complete (rawData : Data)
  deriving DecidableEq, Repr

variable {Data : Type}

namespace ViewController

def viewDidLoad : Option ViewController := do
  let selectedState ← stateOptions[0]?
  some ⟨selectedState, [], [], none⟩

def searchDone (vc : ViewController) (translate : List Translate) : ViewController :=
  { vc with data := translate }

def complete (platform : SearchPlatform Translate Data) (vc : ViewController)
    (rawData : Data) : ViewController :=
  let currentTranslation := parseJson platform vc.currentTranslation rawData
  searchDone { vc with currentTranslation := currentTranslation } currentTranslation

/-- The row of a dialect is used as an index into `data`. -/
def didSelectRow (vc : ViewController) (row : Nat) : Option ViewController := do
  let state ← stateOptions[row]?
  let translate ← vc.data[row]?
  some { vc with
    selectedState := state
    translatedTextLabel := some translate.translation }

def step (platform : SearchPlatform Translate Data) (vc : ViewController) :
    PickEvent Data → Option ViewController
  | .didSelectRow row => vc.didSelectRow row
  | .complete rawData => some (vc.complete platform rawData)

def RowInPicker (_ : ViewController) : PickEvent Data → Prop
  | .didSelectRow row => row < stateOptions.length
  | .complete _ => True

def AccessInRange (vc : ViewController) : PickEvent Data → Prop
  | .didSelectRow row => row < vc.data.length
  | .complete _ => True

instance (vc : ViewController) (event : PickEvent Data) :
    Decidable (RowInPicker vc event) := by
  cases event <;> unfold RowInPicker <;> infer_instance

instance (vc : ViewController) (event : PickEvent Data) :
    Decidable (AccessInRange vc event) := by
  cases event <;> unfold AccessInRange <;> infer_instance

end ViewController

/-- Every row picked is below the length of the translation list decoded last before it;
`last` is that list at the beginning. -/
def PicksTranslations (platform : SearchPlatform Translate Data) (last : List Translate) :
    List (PickEvent Data) → Prop
  | [] => True
  | .didSelectRow row :: events =>
      row < last.length ∧ PicksTranslations platform last events
  | .complete rawData :: events =>
      PicksTranslations platform ((platform.decode rawData).getD last) events

instance PicksTranslations.decidable (platform : SearchPlatform Translate Data) :
    ∀ (last : List Translate) (events : List (PickEvent Data)),
      Decidable (PicksTranslations platform last events)
  | _, [] => isTrue trivial
  | last, .didSelectRow row :: events =>
      have := PicksTranslations.decidable platform last events
      inferInstanceAs (Decidable (row < last.length ∧ PicksTranslations platform last events))
  | last, .complete rawData :: events =>
      PicksTranslations.decidable platform ((platform.decode rawData).getD last) events

namespace ViewController

theorem complete_data (platform : SearchPlatform Translate Data) (vc : ViewController)
    (rawData : Data) :
    (vc.complete platform rawData).data =
        (platform.decode rawData).getD vc.currentTranslation ∧
      (vc.complete platform rawData).currentTranslation =
        (platform.decode rawData).getD vc.currentTranslation := by
  cases hdecode : platform.decode rawData with
  | none => simp [complete, searchDone, parseJson_none hdecode]
  | some parsed => simp [complete, searchDone, parseJson_some hdecode]

theorem didSelectRow_of_lt {vc : ViewController} {row : Nat}
    (hrow : row < stateOptions.length) (hdata : row < vc.data.length) :
    ∃ vc', vc.didSelectRow row = some vc' ∧ vc'.data = vc.data ∧
      vc'.currentTranslation = vc.currentTranslation ∧
      vc'.translatedTextLabel = vc.data[row]?.map Translate.translation := by
  refine ⟨{ vc with
    selectedState := stateOptions[row]
    translatedTextLabel := some vc.data[row].translation }, ?_, rfl, rfl, ?_⟩
  · simp [didSelectRow, hrow, hdata]
  · simp [hdata]

theorem run_inRange_iff {platform : SearchPlatform Translate Data} {vc : ViewController}
    {last : List Translate} (hdata : vc.data = last) (hcurrent : vc.currentTranslation = last)
    {events : List (PickEvent Data)}
    (hrows : EveryStep (step platform) RowInPicker vc events) :
    EveryStep (step platform) AccessInRange vc events ↔
      PicksTranslations platform last events := by
  induction events generalizing vc last with
  | nil => simp [PicksTranslations]
  | cons event events ih =>
      obtain ⟨hrow, hrest⟩ := hrows
      cases event with
      | didSelectRow row =>
          simp only [everyStep_cons, PicksTranslations, AccessInRange, hdata]
          refine and_congr_right fun hlt => ?_
          obtain ⟨vc', hvc', hdata', hcurrent', -⟩ := didSelectRow_of_lt hrow (hdata ▸ hlt)
          have hnext := ih (hdata'.trans hdata) (hcurrent'.trans hcurrent) (hrest vc' hvc')
          simp only [step, hvc', Option.some.injEq, forall_eq', hnext]
      | complete rawData =>
          obtain ⟨hdata', hcurrent'⟩ := complete_data platform vc rawData
          rw [hcurrent] at hdata' hcurrent'
          have hnext := ih hdata' hcurrent' (hrest _ rfl)
          simp only [everyStep_cons, PicksTranslations, AccessInRange, step,
            Option.some.injEq, forall_eq', true_and, hnext]

/-- Along every run from the start: every access `data[row]` is in range exactly if every
row picked is below the length of the translation list decoded last before it. -/
theorem picks_in_range_iff (platform : SearchPlatform Translate Data)
    (start : ViewController) (events : List (PickEvent Data))
    (hstart : viewDidLoad = some start)
    (hrows : EveryStep (step platform) RowInPicker start events) :
    EveryStep (step platform) AccessInRange start events ↔
      PicksTranslations platform [] events := by
  cases hstart
  exact run_inRange_iff rfl rfl hrows

def decodedBodies : SearchPlatform Translate (Option (List Translate)) where
  isURL _ := true
  decode body := body

def greeting : Translate := ⟨"yoda", "hello", "Hello, hmm"⟩

def firstDialect : ViewController := ⟨"Yoda", [], [], none⟩

theorem picks_in_range_greeting :
    let events : List (PickEvent (Option (List Translate))) :=
      [.complete (some [greeting]), .didSelectRow 0, .complete none, .didSelectRow 0]
    EveryStep (step decodedBodies) AccessInRange firstDialect events ↔
      PicksTranslations decodedBodies [] events :=
  picks_in_range_iff _ _ _ (by decide) (by decide)

/-- Picking any dialect before the first answer traps, and so does picking the second
dialect after an answer with one translation. -/
theorem pick_out_of_range :
    let early : List (PickEvent (Option (List Translate))) := [.didSelectRow 1]
    let late : List (PickEvent (Option (List Translate))) :=
      [.complete (some [greeting]), .didSelectRow 1]
    run (step decodedBodies) firstDialect early = none ∧
      ¬ EveryStep (step decodedBodies) AccessInRange firstDialect early ∧
      run (step decodedBodies) firstDialect late = none ∧
      ¬ EveryStep (step decodedBodies) AccessInRange firstDialect late := by
  decide

end ViewController

end AdvMad.Translator
