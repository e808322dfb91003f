import AdvMad.Lab8.OverlappingSearches
import AdvMad.Lab8.SearchResults

/-!
# lab8: the results screen over overlapping searches

The repository of `OverlappingSearches` below the screens of `SearchResults`.
Requests end in any order, the main thread sets what was posted last, and the
results screen is opened, covered and left meanwhile.
-/

namespace AdvMad.Lab8

open AdvMad.Foundation

/-! ## Repository and screens -/

/-- `postedFor` is the search whose alerts were posted last. -/
structure SearchScreens where
  repo : AlertRepository
  flow : SearchFlow
  postedFor : Option Search

/-- The steps of the two models; answers come from the repository only. -/
inductive SearchScreensEvent where
  | screen (event : FlowEvent)
  | complete (request : Nat) (completion : Completion)
  | deliver
  deriving DecidableEq, Repr

namespace SearchScreens

def new : SearchScreens := ⟨.new, .new, none⟩

def searchAlerts (s : SearchScreens) (text : String) : Option SearchScreens := do
  let flow ← s.flow.step (.searchAlerts text)
  some { s with
    repo := if text = "" then s.repo else s.repo.searchTermEntered text
    flow := flow }

def searchOf (s : SearchScreens) (request : Nat) : Search :=
  ⟨request + 1, (s.repo.submitted[request]?).getD ""⟩

def complete (s : SearchScreens) (request : Nat) (completion : Completion) :
    Option SearchScreens := do
  let repo ← s.repo.getAlertData request completion
  match completion with
  | .response _ (some _) => some { s with repo := repo, postedFor := some (s.searchOf request) }
  | _ => some { s with repo := repo }

def deliver (s : SearchScreens) : Option SearchScreens := do
  let alerts ← s.repo.alertData.pending
  let search ← s.postedFor
  let repo ← s.repo.step .deliver
  some { s with
    repo := repo
    flow := SearchFlow.receive (s.flow.viewModel.answered search (some alerts)) s.flow.results }

def step (s : SearchScreens) : SearchScreensEvent → Option SearchScreens
  | .screen (.searchAlerts text) => s.searchAlerts text
  | .screen (.response _) => none
  | .screen event => do
      let flow ← s.flow.step event
      some { s with flow := flow }
  | .complete request completion => s.complete request completion
  | .deliver => s.deliver

end SearchScreens

def SearchScreensEvent.repoEvents : SearchScreensEvent → List SearchEvent
  | .screen (.searchAlerts text) => if text = "" then [] else [.searchUserInput text]
  | .screen _ => []
  | .complete request completion => [.complete request completion]
  | .deliver => [.deliver]

def repoEvents (events : List SearchScreensEvent) : List SearchEvent :=
  events.flatMap SearchScreensEvent.repoEvents

/-! ## The repository goes its own way -/

namespace AlertRepository

theorem step_isSome {repo repo' : AlertRepository} {event : SearchEvent}
    (h : repo.step event = some repo') :
    repo'.alertData.data.value.isSome = true ↔
      event = .deliver ∨ repo.alertData.data.value.isSome = true := by
  cases event with
  | searchUserInput searchTerm =>
      cases h
      simp [searchTermEntered]
  | complete request completion =>
      simp only [step, getAlertData, Option.ite_none_right_eq_some] at h
      obtain ⟨-, h⟩ := h
      split at h <;> cases h <;> simp [PostedLiveData.postValue]
  | deliver =>
      obtain ⟨alertData, hdeliver, hrepo'⟩ := Option.bind_eq_some_iff.mp h
      cases hrepo'
      obtain ⟨alerts, -, halerts⟩ := Option.bind_eq_some_iff.mp hdeliver
      cases halerts
      simp

theorem run_value_isSome {repo repo' : AlertRepository} {events : List SearchEvent}
    (h : run step repo events = some repo') :
    repo'.alertData.data.value.isSome = true ↔
      .deliver ∈ events ∨ repo.alertData.data.value.isSome = true := by
  induction events generalizing repo with
  | nil =>
      cases h
      simp
  | cons event events ih =>
      obtain ⟨next, hnext, hrest⟩ := Option.bind_eq_some_iff.mp h
      rw [ih hrest, step_isSome hnext, List.mem_cons, ← or_assoc]
      simp only [eq_comm (a := SearchEvent.deliver), or_comm]

end AlertRepository

namespace SearchScreens

theorem step_repo {s s' : SearchScreens} {event : SearchScreensEvent}
    (h : s.step event = some s') :
    run AlertRepository.step s.repo event.repoEvents = some s'.repo := by
  cases event with
  | screen event =>
      cases event with
      | searchAlerts text =>
          obtain ⟨flow, -, hs'⟩ := Option.bind_eq_some_iff.mp h
          cases hs'
          by_cases htext : text = ""
          · simp [SearchScreensEvent.repoEvents, htext]
          · simp [SearchScreensEvent.repoEvents, htext, AlertRepository.step]
      | response body => cases h
      | onCreateView | onStart | onResume | onPause | onStop | onDestroyView =>
          obtain ⟨flow, -, hs'⟩ := Option.bind_eq_some_iff.mp h
          cases hs'
          rfl
  | complete request completion =>
      obtain ⟨repo, hrepo, hs'⟩ := Option.bind_eq_some_iff.mp h
      have hkeeps : s'.repo = repo := by
        split at hs' <;> cases hs' <;> rfl
      simp [SearchScreensEvent.repoEvents, AlertRepository.step, hrepo, hkeeps]
  | deliver =>
      obtain ⟨alerts, -, h⟩ := Option.bind_eq_some_iff.mp h
      obtain ⟨search, -, h⟩ := Option.bind_eq_some_iff.mp h
      obtain ⟨repo, hrepo, hs'⟩ := Option.bind_eq_some_iff.mp h
      cases hs'
      simp [SearchScreensEvent.repoEvents, hrepo]

/-- The screens never influence what the repository does. -/
theorem run_repo {s s' : SearchScreens} {events : List SearchScreensEvent}
    (h : run step s events = some s') :
    run AlertRepository.step s.repo (repoEvents events) = some s'.repo :=
  run_flatMap_of_run (fun _ _ _ => step_repo) h

theorem deliver_mem_repoEvents {events : List SearchScreensEvent} :
    .deliver ∈ repoEvents events ↔ .deliver ∈ events := by
  simp only [repoEvents, List.mem_flatMap]
  constructor
  · rintro ⟨event, hevent, hdeliver⟩
    cases event with
    | screen event =>
        cases event <;> simp [SearchScreensEvent.repoEvents] at hdeliver
    | complete request completion => simp [SearchScreensEvent.repoEvents] at hdeliver
    | deliver => exact hevent
  · exact fun hdeliver => ⟨_, hdeliver, by simp [SearchScreensEvent.repoEvents]⟩

end SearchScreens

/-! ## What the screens hold and show -/

namespace SearchFlow

theorem receive_alertData (vm : SharedSearchViewModel)
    (results : Option SearchResultsFragment) :
    (receive vm results).viewModel.alertData = vm.alertData := by
  cases results with
  | none => rfl
  | some fragment =>
      simp only [receive]
      split
      · rfl
      · exact (dispatch_frame vm fragment).1

theorem step_alertData {flow flow' : SearchFlow} {event : FlowEvent}
    (h : step flow event = some flow') (hevent : ∀ body, event ≠ .response body) :
    flow'.viewModel.alertData = flow.viewModel.alertData := by
  cases event with
  | searchAlerts text =>
      obtain ⟨-, rfl⟩ := whenClosed_eq_some_iff.mp h
      by_cases htext : text = "" <;>
        simp [SharedSearchViewModel.searchAlerts, SharedSearchViewModel.submit, htext]
  | response body => exact absurd rfl (hevent body)
  | onCreateView =>
      obtain ⟨-, rfl⟩ := whenClosed_eq_some_iff.mp h
      rfl
  | onStart =>
      obtain ⟨fragment, -, -, rfl⟩ := whenIn_eq_some_iff.mp h
      exact (dispatch_frame flow.viewModel fragment).1
  | onResume =>
      obtain ⟨fragment, -, -, rfl⟩ := whenIn_eq_some_iff.mp h
      exact (toggleLoading_frame true flow.viewModel fragment).1
  | onPause | onStop | onDestroyView =>
      obtain ⟨fragment, -, -, rfl⟩ := whenIn_eq_some_iff.mp h
      rfl

theorem Inv.resumed {flow : SearchFlow} (h : flow.Inv) {fragment : SearchResultsFragment}
    (hfragment : fragment ∈ flow.results) (hresumed : fragment.lifecycle = .resumed) :
    fragment.adapter = flow.viewModel.alertData.value ∧
      (fragment.loadingVisible = true ↔ flow.viewModel.alertData.value = none) ∧
      (fragment.loadingVisible = false → fragment.recyclerVisible = true) := by
  have hview := h.consistent fragment hfragment
  have hseen : fragment.seen = flow.viewModel.alertData.version := by
    apply hview.active
    rw [hresumed]
    decide
  have hversion := flow.viewModel.alertData.value_eq_none_iff
  have hbar : fragment.loadingVisible = true ↔ fragment.seen = 0 := by
    constructor
    · intro hloading
      by_contra hne
      have hshown := (hview.shown (Nat.pos_of_ne_zero hne)).2
      simp [hloading] at hshown
    · exact hview.waiting hresumed
  refine ⟨hview.current hseen, by rw [hbar, hseen, hversion], fun hloading => ?_⟩
  have hpos : 0 < fragment.seen := by
    apply Nat.pos_of_ne_zero
    intro hzero
    simp [hbar.mpr hzero] at hloading
  by_contra hinvisible
  have hsearching := hview.hidden (by simpa using hinvisible)
  simp [(hview.shown hpos).1] at hsearching

end SearchFlow

namespace SearchScreens

structure Inv (s : SearchScreens) : Prop where
  flow : s.flow.Inv
  value : s.flow.viewModel.alertData.value.map Answer.alerts = s.repo.alertData.data.value

theorem new_inv : new.Inv := ⟨SearchFlow.new_inv, rfl⟩

theorem step_inv {s s' : SearchScreens} {event : SearchScreensEvent} (h : s.Inv)
    (hstep : s.step event = some s') : s'.Inv := by
  cases event with
  | screen event =>
      cases event with
      | searchAlerts text =>
          obtain ⟨flow, hflow, hs'⟩ := Option.bind_eq_some_iff.mp hstep
          cases hs'
          refine ⟨SearchFlow.step_inv h.flow hflow, ?_⟩
          rw [SearchFlow.step_alertData hflow (by simp), h.value]
          split <;> rfl
      | response body => cases hstep
      | onCreateView | onStart | onResume | onPause | onStop | onDestroyView =>
          obtain ⟨flow, hflow, hs'⟩ := Option.bind_eq_some_iff.mp hstep
          cases hs'
          refine ⟨SearchFlow.step_inv h.flow hflow, ?_⟩
          rw [SearchFlow.step_alertData hflow (by simp), h.value]
  | complete request completion =>
      obtain ⟨repo, hrepo, hs'⟩ := Option.bind_eq_some_iff.mp hstep
      have hkeeps : s'.flow = s.flow ∧ s'.repo = repo := by
        split at hs' <;> cases hs' <;> exact ⟨rfl, rfl⟩
      have hvalue : repo.alertData.data = s.repo.alertData.data := by
        simp only [AlertRepository.getAlertData, Option.ite_none_right_eq_some] at hrepo
        obtain ⟨-, hrepo⟩ := hrepo
        split at hrepo <;> cases hrepo <;> rfl
      constructor
      · exact hkeeps.1 ▸ h.flow
      · rw [hkeeps.1, hkeeps.2, hvalue, h.value]
  | deliver =>
      obtain ⟨alerts, halerts, hstep⟩ := Option.bind_eq_some_iff.mp hstep
      obtain ⟨search, -, hstep⟩ := Option.bind_eq_some_iff.mp hstep
      obtain ⟨repo, hrepo, hs'⟩ := Option.bind_eq_some_iff.mp hstep
      cases hs'
      refine ⟨SearchFlow.receive_inv h.flow search (some alerts), ?_⟩
      simp only [AlertRepository.step, PostedLiveData.deliver, halerts, Option.bind_eq_bind,
        Option.bind_some, Option.some.injEq] at hrepo
      rw [SearchFlow.receive_alertData, ← hrepo]
      rfl

/--
With searches that overlap, a resumed results screen lists what `alertData`
holds.  Its loading bar is shown only as long as nothing was ever delivered,
not for later searches, and once no request is in flight the list is that of
the body that arrived last.
-/
theorem resumed_screen_lists_last_arrival (events : List SearchScreensEvent)
    (s : SearchScreens) (hrun : run step new events = some s)
    (fragment : SearchResultsFragment) (hfragment : fragment ∈ s.flow.results)
    (hresumed : fragment.lifecycle = .resumed) :
    (fragment.loadingVisible = true ↔ .deliver ∉ events) ∧
      (fragment.loadingVisible = false → fragment.recyclerVisible = true) ∧
      fragment.adapter.map Answer.alerts = s.repo.alertData.data.value ∧
      (s.repo.Idle →
        fragment.adapter.map Answer.alerts = lastArrival (repoEvents events)) := by
  have hinv : s.Inv := run_keeps (fun _ _ _ => step_inv) new_inv hrun
  obtain ⟨hadapter, hbar, hlist⟩ := hinv.flow.resumed hfragment hresumed
  have hrepo := run_repo hrun
  have hdelivered := AlertRepository.run_value_isSome hrepo
  rw [deliver_mem_repoEvents, ← hinv.value, Option.isSome_map] at hdelivered
  have hlatest := AlertRepository.run_latest hrepo
  refine ⟨?_, hlist, by rw [hadapter, hinv.value], fun hidle => ?_⟩
  · rw [hbar, ← Option.not_isSome_iff_eq_none, hdelivered]
    simp [new, AlertRepository.new, PostedLiveData.unset, LiveData.unset]
  · rw [hadapter, hinv.value, ← PostedLiveData.latest_of_delivered hidle.2, hlatest]
    exact Option.or_none

theorem resumed_screen_lists_last_arrival_fire :
    let events : List SearchScreensEvent :=
      [.screen (.searchAlerts "fire"), .screen .onCreateView, .screen .onStart,
        .screen .onResume, .screen .onPause, .screen .onStop, .screen .onDestroyView,
        .screen (.searchAlerts "closure"),
        .complete 1 (.response 200 (some AlertRepository.closureFound)),
        .deliver, .screen .onCreateView, .screen .onStart, .screen .onResume,
        .complete 0 (.response 200 (some AlertRepository.fireBanFound)), .deliver]
    let fire : Answer := ⟨⟨1, "fire"⟩, [fireBan.toAlert]⟩
    let fragment : SearchResultsFragment := ⟨.resumed, 2, some fire, true, false⟩
    let repo : AlertRepository :=
      ⟨["fire", "closure"], [], ⟨⟨some fire.alerts, 2, by decide⟩, none⟩⟩
    (fragment.loadingVisible = true ↔ .deliver ∉ events) ∧
      (fragment.loadingVisible = false → fragment.recyclerVisible = true) ∧
      fragment.adapter.map Answer.alerts = repo.alertData.data.value ∧
      (repo.Idle →
        fragment.adapter.map Answer.alerts = lastArrival (repoEvents events)) := by
  intro events fire fragment repo
  let s : SearchScreens :=
    ⟨repo, ⟨⟨some ⟨2, "closure"⟩, false, ⟨some fire, 2, by decide⟩, none⟩, some fragment⟩,
      some fire.search⟩
  have hrun : run step new events = some s := by rfl
  exact resumed_screen_lists_last_arrival events s hrun fragment rfl rfl

end SearchScreens

end AdvMad.Lab8
