import Mathlib.Tactic.Common
import AdvMad.Foundation.PartialStep

/-!
# Searching by state

lab4 and campsites share one search: a picker selects a state, a request is
sent under a modal alert, the data controller parses the body and calls back,
and the results screen opens with a title read from the picker and rows read
from the data controller.
-/

namespace AdvMad.Shared

open AdvMad.Foundation

structure SearchApp where
  stateOptions : List String
  urlPath : String → String
  titleSuffix : String

/-- `URL(string:)` and `JSONDecoder` of the platform; `decode` gives the decoded `data`. -/
structure SearchPlatform (Item Data : Type) where
  isURL : String → Bool
  decode : Data → Option (List Item)

/-- The fields of both controllers and the screens on top; `answered` records the state
and the body of the last search that came back and is read by no function. -/
structure SearchScreen (Item Data : Type) where
  selectedState : String
  data : List Item
  current : List Item
  inFlight : Option String
  searching : Bool
  results : Option (String × List Item)
  answered : Option (String × Data)
  deriving DecidableEq, Repr

inductive SearchEvent (Data : Type) where
  | didSelectRow (row : Nat)
  | search
  | complete (data : Option Data) (statusCode : Option Int)
  | back
  deriving DecidableEq, Repr

variable {Item Data : Type}

def viewDidLoad (app : SearchApp) : Option (SearchScreen Item Data) := do
  let selectedState ← app.stateOptions[0]?
  some ⟨selectedState, [], [], none, false, none, none⟩

def Reachable (s : SearchScreen Item Data) : Prop :=
  s.searching = false ∧ s.results = none

instance (s : SearchScreen Item Data) : Decidable (Reachable s) := by
  unfold Reachable
  cases s.results <;> infer_instance

def didSelectRow (app : SearchApp) (s : SearchScreen Item Data) (row : Nat) :
    Option (SearchScreen Item Data) := do
  let state ← app.stateOptions[row]?
  some { s with selectedState := state }

/-- Send the request, if the path is a URL, and present the alert in either case. -/
def search (app : SearchApp) (platform : SearchPlatform Item Data)
    (s : SearchScreen Item Data) : SearchScreen Item Data :=
  { s with
    inFlight :=
      if platform.isURL (app.urlPath s.selectedState) then some s.selectedState
      else none
    searching := true }

/-- Replace the current entries on success; on a decoding error they stay. -/
def parseJson (platform : SearchPlatform Item Data) (current : List Item)
    (rawData : Data) : List Item :=
  match platform.decode rawData with
  | some parsed => parsed.foldl (fun entries item => entries ++ [item]) []
  | none => current

def searchDone (app : SearchApp) (s : SearchScreen Item Data) (entries : List Item) :
    SearchScreen Item Data :=
  { s with
    searching := false
    data := entries
    results := some (s.selectedState ++ app.titleSuffix, entries) }

/-- The completion handler: the cast of a missing response and the unwrap of a missing
body trap, any status but 200 only ends the request. -/
def complete (app : SearchApp) (platform : SearchPlatform Item Data)
    (s : SearchScreen Item Data) (data : Option Data) (statusCode : Option Int) :
    Option (SearchScreen Item Data) := do
  let state ← s.inFlight
  let code ← statusCode
  if code = 200 then
    let rawData ← data
    let current := parseJson platform s.current rawData
    some (searchDone app
      { s with current := current, inFlight := none, answered := some (state, rawData) }
      current)
  else some { s with inFlight := none }

def back (s : SearchScreen Item Data) : Option (SearchScreen Item Data) := do
  let _ ← s.results
  some { s with results := none }

def searchStep (app : SearchApp) (platform : SearchPlatform Item Data)
    (s : SearchScreen Item Data) : SearchEvent Data → Option (SearchScreen Item Data)
  | .didSelectRow row => if Reachable s then didSelectRow app s row else none
  | .search => if Reachable s then some (search app platform s) else none
  | .complete data statusCode => complete app platform s data statusCode
  | .back => back s

def ResultsMatchTitle (app : SearchApp) (platform : SearchPlatform Item Data)
    (s : SearchScreen Item Data) : Prop :=
  match s.results, s.answered with
  | none, _ => True
  | some (title, rows), some (state, body) =>
      title = state ++ app.titleSuffix ∧ platform.decode body = some rows
  | some _, none => False

def ShowsNothingEarlier (app : SearchApp) (platform : SearchPlatform Item Data)
    (s : SearchScreen Item Data) : SearchEvent Data → Prop
  | .complete (some body) (some 200) =>
      platform.decode body = none →
        ((complete app platform s (some body) (some 200)).bind (·.results)).map
          Prod.snd = some []
  | _ => True

def BodyDecodes (platform : SearchPlatform Item Data)
    (_ : SearchScreen Item Data) : SearchEvent Data → Prop
  | .complete (some body) (some 200) => (platform.decode body).isSome = true
  | _ => True

def DecodesOrNothingKept (platform : SearchPlatform Item Data)
    (s : SearchScreen Item Data) : SearchEvent Data → Prop
  | .complete (some body) (some 200) =>
      (platform.decode body).isSome = true ∨ s.current = []
  | _ => True

def Blocked (s : SearchScreen Item Data) : Prop :=
  ∀ state, s.inFlight = some state → s.searching = true ∧ s.selectedState = state

section
variable [DecidableEq Item] (app : SearchApp) (platform : SearchPlatform Item Data)

instance : DecidablePred (ResultsMatchTitle app platform) := by
  intro s
  unfold ResultsMatchTitle
  split <;> infer_instance

instance (s : SearchScreen Item Data) (event : SearchEvent Data) :
    Decidable (ShowsNothingEarlier app platform s event) := by
  unfold ShowsNothingEarlier
  split <;> infer_instance

end

theorem parseJson_some {platform : SearchPlatform Item Data} {current parsed : List Item}
    {rawData : Data} (h : platform.decode rawData = some parsed) :
    parseJson platform current rawData = parsed := by
  simp [parseJson, h, ← List.flatMap_def]

theorem parseJson_none {platform : SearchPlatform Item Data} {current : List Item}
    {rawData : Data} (h : platform.decode rawData = none) :
    parseJson platform current rawData = current := by
  simp [parseJson, h]

theorem complete_cases {app : SearchApp} {platform : SearchPlatform Item Data}
    {s s' : SearchScreen Item Data} {data : Option Data} {statusCode : Option Int}
    (h : complete app platform s data statusCode = some s') :
    (∃ code, statusCode = some code ∧ code ≠ 200 ∧ s' = { s with inFlight := none }) ∨
    (∃ state rawData, s.inFlight = some state ∧ statusCode = some 200 ∧
      data = some rawData ∧
      s' = { s with
        current := parseJson platform s.current rawData
        inFlight := none
        searching := false
        data := parseJson platform s.current rawData
        results := some (s.selectedState ++ app.titleSuffix,
          parseJson platform s.current rawData)
        answered := some (state, rawData) }) := by
  simp only [complete, Option.bind_eq_bind, Option.bind_eq_some_iff] at h
  obtain ⟨state, hstate, code, hcode, h⟩ := h
  split at h
  · case isTrue h200 =>
      subst h200
      obtain ⟨rawData, hraw, hs'⟩ := Option.bind_eq_some_iff.mp h
      exact .inr ⟨state, rawData, hstate, hcode, hraw, (Option.some.inj hs').symm⟩
  · case isFalse h200 =>
      exact .inl ⟨code, hcode, h200, (Option.some.inj h).symm⟩

theorem complete_matches_iff {app : SearchApp} {platform : SearchPlatform Item Data}
    {s s' : SearchScreen Item Data} {data : Option Data} {statusCode : Option Int}
    (hblocked : Blocked s) (h : ResultsMatchTitle app platform s)
    (hcomplete : complete app platform s data statusCode = some s') :
    Blocked s' ∧ (ResultsMatchTitle app platform s' ↔
      BodyDecodes platform s (.complete data statusCode)) := by
  rcases complete_cases hcomplete with ⟨code, rfl, hcode, rfl⟩ |
    ⟨state, rawData, hstate, rfl, rfl, rfl⟩
  · refine ⟨fun state hstate => by simp at hstate, ?_⟩
    have hother : BodyDecodes platform s (.complete data (some code)) := by
      unfold BodyDecodes
      split
      · case h_1 heq => simp_all
      · trivial
    exact iff_of_true h hother
  · refine ⟨fun next hnext => by simp at hnext, ?_⟩
    have hselected := (hblocked state hstate).2
    cases hdecode : platform.decode rawData with
    | none => simp [ResultsMatchTitle, BodyDecodes, hdecode]
    | some parsed =>
        simp [ResultsMatchTitle, BodyDecodes, hdecode, parseJson_some hdecode, hselected]

theorem searchStep_matches_iff {app : SearchApp} {platform : SearchPlatform Item Data}
    {s s' : SearchScreen Item Data} {event : SearchEvent Data} (hblocked : Blocked s)
    (h : ResultsMatchTitle app platform s)
    (hstep : searchStep app platform s event = some s') :
    Blocked s' ∧ (ResultsMatchTitle app platform s' ↔ BodyDecodes platform s event) := by
  cases event with
  | didSelectRow row =>
      simp only [searchStep, didSelectRow, Option.ite_none_right_eq_some,
        Option.bind_eq_bind, Option.bind_eq_some_iff] at hstep
      obtain ⟨⟨hidle, -⟩, state, -, hs'⟩ := hstep
      cases hs'
      refine ⟨fun pending hpending => ?_, iff_of_true h trivial⟩
      -- nothing is in flight while the picker can be reached
      have hsearching := (hblocked pending hpending).1
      simp [hidle] at hsearching
  | search =>
      simp only [searchStep, Option.ite_none_right_eq_some] at hstep
      obtain ⟨-, hs'⟩ := hstep
      cases hs'
      exact ⟨fun state hstate => by simp_all [search], iff_of_true h trivial⟩
  | complete data statusCode => exact complete_matches_iff hblocked h hstep
  | back =>
      simp only [searchStep, back, Option.bind_eq_bind, Option.bind_eq_some_iff] at hstep
      obtain ⟨shown, -, hs'⟩ := hstep
      cases hs'
      exact ⟨hblocked, iff_of_true trivial trivial⟩

theorem showsNothingEarlier_iff {app : SearchApp} {platform : SearchPlatform Item Data}
    {s s' : SearchScreen Item Data} {event : SearchEvent Data}
    (hstep : searchStep app platform s event = some s') :
    ShowsNothingEarlier app platform s event ↔
      DecodesOrNothingKept platform s event := by
  unfold ShowsNothingEarlier DecodesOrNothingKept
  split
  · case h_1 body =>
      rcases complete_cases hstep with ⟨code, hcode, hne, -⟩ |
        ⟨state, rawData, -, -, hraw, rfl⟩
      · exact absurd (Option.some.inj hcode).symm hne
      · cases hraw
        change complete app platform s (some body) (some 200) = _ at hstep
        rw [hstep]
        cases hdecode : platform.decode body with
        | none => simp [parseJson_none hdecode]
        | some parsed => simp
  · simp

theorem results_match_title_iff {app : SearchApp} {platform : SearchPlatform Item Data}
    {start : SearchScreen Item Data} {events : List (SearchEvent Data)}
    (hstart : viewDidLoad app = some start)
    (hrun : (run (searchStep app platform) start events).isSome) :
    (Always (searchStep app platform) (ResultsMatchTitle app platform) start events ↔
        EveryStep (searchStep app platform) (BodyDecodes platform) start events) ∧
      (EveryStep (searchStep app platform) (ShowsNothingEarlier app platform)
          start events ↔
        EveryStep (searchStep app platform) (DecodesOrNothingKept platform)
          start events) := by
  simp only [viewDidLoad, Option.bind_eq_bind, Option.bind_eq_some_iff] at hstart
  obtain ⟨selectedState, -, hstart⟩ := hstart
  cases hstart
  constructor
  · apply always_iff_everyStep Blocked
    · intro s event hblocked h hsome
      obtain ⟨s', hs'⟩ := Option.isSome_iff_exists.mp hsome
      exact ⟨s', hs', searchStep_matches_iff hblocked h hs'⟩
    · intro state hstate
      cases hstate
    · trivial
    · exact everyStep_isSome_of_run hrun
  · apply everyStep_congr_of_run (fun _ => True)
    · intro s event s' _ _
      trivial
    · intro s event s' _ hs'
      exact showsNothingEarlier_iff hs'
    · trivial
    · exact hrun

/-! ## One completion -/

/-- What `completionHandler` leads to: the calls of `onDataUpdate`, each with its
argument.  `error` is not looked at; every exit but the last one calls nothing. -/
def completionHandler {Failure : Type} (platform : SearchPlatform Item Data)
    (current : List Item) (data : Option Data) (response : Option Int)
    (_error : Option Failure) : Option (List (List Item)) := do
  let statusCode ← response
  if statusCode = 200 then
    let rawData ← data
    some [parseJson platform current rawData]
  else some []

def deliver (app : SearchApp) (s : SearchScreen Item Data) (answered : Option (String × Data))
    (calls : List (List Item)) : SearchScreen Item Data :=
  let onDataUpdate (s : SearchScreen Item Data) (entries : List Item) :=
    searchDone app { s with current := entries, answered := answered } entries
  calls.foldl onDataUpdate { s with inFlight := none }

theorem complete_eq_deliver {Failure : Type} {app : SearchApp}
    {platform : SearchPlatform Item Data} {s : SearchScreen Item Data} {state : String}
    (h : s.inFlight = some state) (data : Option Data) (response : Option Int)
    (error : Option Failure) :
    complete app platform s data response =
      (completionHandler platform s.current data response error).map
        (deliver app s (data.map fun rawData => (state, rawData))) := by
  cases response with
  | none => simp [complete, completionHandler, h]
  | some code =>
      by_cases hcode : code = 200
      · cases data with
        | none => simp [complete, completionHandler, h, hcode]
        | some rawData => simp [complete, completionHandler, deliver, h, hcode]
      · simp [complete, completionHandler, deliver, h, hcode]

/-- The search begun at `s` ends without a trap, with one call of `onDataUpdate`, so that
the results open and the alert is dismissed. -/
def EndsOnce {Failure : Type} (app : SearchApp) (platform : SearchPlatform Item Data)
    (s : SearchScreen Item Data) (data : Option Data) (response : Option Int)
    (error : Option Failure) : Prop :=
  (∃ entries, completionHandler platform s.current data response error = some [entries]) ∧
    ∃ s', complete app platform s data response = some s' ∧
      s'.searching = false ∧ s'.results.isSome

theorem endsOnce_iff {Failure : Type} {app : SearchApp}
    {platform : SearchPlatform Item Data} {s : SearchScreen Item Data}
    (hflight : s.inFlight.isSome) (data : Option Data) (response : Option Int)
    (error : Option Failure) :
    EndsOnce app platform s data response error ↔ response = some 200 ∧ data.isSome := by
  obtain ⟨state, hstate⟩ := Option.isSome_iff_exists.mp hflight
  constructor
  · rintro ⟨⟨entries, hcalls⟩, -⟩
    cases response with
    | none => simp [completionHandler] at hcalls
    | some code =>
        by_cases hcode : code = 200
        · cases data with
          | none => simp [completionHandler, hcode] at hcalls
          | some rawData => simp [hcode]
        · simp [completionHandler, hcode] at hcalls
  · rintro ⟨rfl, hdata⟩
    obtain ⟨rawData, rfl⟩ := Option.isSome_iff_exists.mp hdata
    have hcalls : completionHandler platform s.current (some rawData) (some 200) error =
        some [parseJson platform s.current rawData] := by simp [completionHandler]
    refine ⟨⟨_, hcalls⟩, ?_⟩
    rw [complete_eq_deliver hstate _ _ error, hcalls]
    exact ⟨_, rfl, rfl, rfl⟩

theorem search_endsOnce_iff {Failure : Type} (app : SearchApp)
    (platform : SearchPlatform Item Data) (s : SearchScreen Item Data)
    (hurl : platform.isURL (app.urlPath s.selectedState) = true) (data : Option Data)
    (response : Option Int) (error : Option Failure) :
    EndsOnce app platform (search app platform s) data response error ↔
      response = some 200 ∧ data.isSome := by
  have hflight : (search app platform s).inFlight.isSome := by simp [search, hurl]
  exact endsOnce_iff hflight data response error

/-! ## A search that does not end -/

def Stuck (app : SearchApp) (platform : SearchPlatform Item Data)
    (s : SearchScreen Item Data) : Prop :=
  ∀ event, searchStep app platform s event = none

def FailsSearch (app : SearchApp) (platform : SearchPlatform Item Data)
    (s : SearchScreen Item Data) : SearchEvent Data → Prop
  | .search => platform.isURL (app.urlPath s.selectedState) = false
  | .complete _ (some code) => code ≠ 200
  | .didSelectRow _ | .complete _ none | .back => False

structure Modal (s : SearchScreen Item Data) : Prop where
  alert : s.inFlight.isSome = true → s.searching = true
  main : s.searching = true → s.results = none

section
variable {app : SearchApp} {platform : SearchPlatform Item Data} {s s' : SearchScreen Item Data}

theorem searchStep_modal {event : SearchEvent Data} (h : Modal s)
    (hstep : searchStep app platform s event = some s') : Modal s' := by
  cases event with
  | didSelectRow row =>
      simp only [searchStep, didSelectRow, Option.ite_none_right_eq_some,
        Option.bind_eq_bind, Option.bind_eq_some_iff] at hstep
      obtain ⟨-, state, -, hs'⟩ := hstep
      cases hs'
      exact ⟨h.alert, h.main⟩
  | search =>
      simp only [searchStep, Option.ite_none_right_eq_some] at hstep
      obtain ⟨hreachable, hs'⟩ := hstep
      cases hs'
      exact ⟨fun _ => rfl, fun _ => hreachable.2⟩
  | complete data statusCode =>
      rcases complete_cases hstep with ⟨code, -, -, rfl⟩ | ⟨state, rawData, -, -, -, rfl⟩
      · exact ⟨by simp, h.main⟩
      · exact ⟨by simp, by simp⟩
  | back =>
      simp only [searchStep, back, Option.bind_eq_bind, Option.bind_eq_some_iff] at hstep
      obtain ⟨shown, -, hs'⟩ := hstep
      cases hs'
      exact ⟨h.alert, fun _ => rfl⟩

theorem stuck_iff (h : Modal s) :
    Stuck app platform s ↔ s.searching = true ∧ s.inFlight = none := by
  constructor
  · intro hstuck
    have hresults : s.results = none := by
      have hback := hstuck .back
      cases hresults : s.results with
      | none => rfl
      | some shown => simp [searchStep, back, hresults] at hback
    have hsearching : s.searching = true := by
      have hsearch := hstuck .search
      by_contra hidle
      simp [searchStep, Reachable, hresults, hidle] at hsearch
    refine ⟨hsearching, ?_⟩
    have hcomplete := hstuck (.complete none (some 404))
    cases hflight : s.inFlight with
    | none => rfl
    | some state => simp [searchStep, complete, hflight] at hcomplete
  · rintro ⟨hsearching, hflight⟩ event
    have hresults := h.main hsearching
    cases event with
    | didSelectRow row | search => simp [searchStep, Reachable, hsearching]
    | complete data statusCode => simp [searchStep, complete, hflight]
    | back => simp [searchStep, back, hresults]

theorem searchStep_stuck_iff {event : SearchEvent Data} (h : Modal s)
    (hstep : searchStep app platform s event = some s') :
    Stuck app platform s' ↔ FailsSearch app platform s event := by
  rw [stuck_iff (searchStep_modal h hstep)]
  cases event with
  | didSelectRow row =>
      simp only [searchStep, didSelectRow, Option.ite_none_right_eq_some,
        Option.bind_eq_bind, Option.bind_eq_some_iff] at hstep
      obtain ⟨hreachable, state, -, hs'⟩ := hstep
      cases hs'
      simp [FailsSearch, hreachable.1]
  | search =>
      simp only [searchStep, Option.ite_none_right_eq_some] at hstep
      obtain ⟨-, hs'⟩ := hstep
      cases hs'
      simp [FailsSearch, search]
  | complete data statusCode =>
      have hflight : s.inFlight.isSome = true := by
        obtain ⟨state, hstate, -⟩ := Option.bind_eq_some_iff.mp hstep
        simp [hstate]
      rcases complete_cases hstep with ⟨code, rfl, hne, rfl⟩ | ⟨state, rawData, -, rfl, rfl, rfl⟩
      · simp [FailsSearch, hne, h.alert hflight]
      · simp [FailsSearch]
  | back =>
      simp only [searchStep, back, Option.bind_eq_bind, Option.bind_eq_some_iff] at hstep
      obtain ⟨shown, hshown, hs'⟩ := hstep
      cases hs'
      have hidle : ¬ s.searching = true := by
        intro hsearching
        simp [h.main hsearching] at hshown
      simp [FailsSearch, hidle]

theorem run_stuck_iff {start : SearchScreen Item Data} {events : List (SearchEvent Data)}
    (hstart : viewDidLoad app = some start)
    (hrun : run (searchStep app platform) start events = some s) :
    Stuck app platform s ↔ ∃ before event t, events = before ++ [event] ∧
      run (searchStep app platform) start before = some t ∧ FailsSearch app platform t event := by
  simp only [viewDidLoad, Option.bind_eq_bind, Option.bind_eq_some_iff] at hstart
  obtain ⟨selectedState, -, hstart⟩ := hstart
  cases hstart
  have hmodal : Modal (⟨selectedState, [], [], none, false, none, none⟩ :
      SearchScreen Item Data) := ⟨by simp, by simp⟩
  rcases List.eq_nil_or_concat events with rfl | ⟨before, event, rfl⟩
  · cases hrun
    simp [stuck_iff hmodal]
  · rw [List.concat_eq_append, run_append] at hrun
    obtain ⟨t, ht, hlast⟩ := Option.bind_eq_some_iff.mp hrun
    have hstep : searchStep app platform t event = some s := by simpa using hlast
    have ht' : Modal t := run_keeps (fun _ _ _ => searchStep_modal) hmodal ht
    rw [searchStep_stuck_iff ht' hstep, List.concat_eq_append]
    constructor
    · exact fun hfails => ⟨before, event, t, rfl, ht, hfails⟩
    · rintro ⟨other, last, u, hsplit, hu, hfails⟩
      obtain ⟨rfl, hevent⟩ := List.append_inj' hsplit rfl
      cases hevent
      cases ht.symm.trans hu
      exact hfails

end

end AdvMad.Shared
