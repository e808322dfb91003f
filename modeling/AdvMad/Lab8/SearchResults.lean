import AdvMad.Foundation.LiveData
import AdvMad.Foundation.PartialStep
import AdvMad.Lab8.Alert

/-!
# lab8: search results

`SearchFragment` submits a term, `AlertRepository` posts the alerts returned
for it to `alertData`, and `SearchResultsFragment` observes `alertData` while
it is started.  The view model outlives the fragment's view, so `alertData`
keeps the alerts of one search until those of a later one replace them.
-/

namespace AdvMad.Lab8

open AdvMad.Foundation

/-! ## The view model and the repository -/

structure Search where
  number : Nat
  term : String
  deriving DecidableEq, Repr

structure Answer where
  search : Search
  alerts : List Alert
  deriving DecidableEq, Repr

structure SharedSearchViewModel where
  searchUserInput : Option Search
  searchLoading : Bool
  alertData : LiveData Answer
  inFlight : Option Search

namespace SharedSearchViewModel

def new : SharedSearchViewModel := ⟨none, true, .unset, none⟩

def submit (vm : SharedSearchViewModel) (term : String) : SharedSearchViewModel :=
  let search : Search := ⟨(vm.searchUserInput.map (·.number)).getD 0 + 1, term⟩
  { vm with
    searchUserInput := some search
    inFlight := some search
    searchLoading := true }

def searchAlerts (vm : SharedSearchViewModel) (text : String) : SharedSearchViewModel :=
  if text = "" then vm else vm.submit text

/-- The end of `getAlertData`: `none` when there is no network, no body or an error. -/
def answered (vm : SharedSearchViewModel) (search : Search) :
    Option (List Alert) → SharedSearchViewModel
  | none => { vm with inFlight := none }
  | some alerts =>
      { vm with inFlight := none, alertData := vm.alertData.setValue ⟨search, alerts⟩ }

/-- The alerts held, if any, were returned for the last search submitted, as far as
`about` tells searches apart. -/
def HoldsLast {τ : Type} (about : Search → τ) (vm : SharedSearchViewModel) : Prop :=
  ∀ answer ∈ vm.alertData.value, vm.searchUserInput.map about = some (about answer.search)

end SharedSearchViewModel

/-! ## The fragment -/

inductive Lifecycle where
  | created
  | started
  | resumed
  deriving DecidableEq, Repr

structure SearchResultsFragment where
  lifecycle : Lifecycle
  seen : Nat
  adapter : Option Answer
  recyclerVisible : Bool
  loadingVisible : Bool
  deriving DecidableEq, Repr

namespace SearchResultsFragment

def onCreateView : SearchResultsFragment := ⟨.created, 0, none, true, true⟩

def toggleLoading (loading : Bool) (vm : SharedSearchViewModel)
    (fragment : SearchResultsFragment) : SharedSearchViewModel × SearchResultsFragment :=
  if loading && vm.searchLoading then
    (vm, { fragment with recyclerVisible := false, loadingVisible := true })
  else if !loading && vm.searchLoading then
    ({ vm with searchLoading := false },
      { fragment with recyclerVisible := true, loadingVisible := false })
  else
    (vm, { fragment with loadingVisible := false })

def dispatch (vm : SharedSearchViewModel) (fragment : SearchResultsFragment) :
    SharedSearchViewModel × SearchResultsFragment :=
  match vm.alertData.unseen fragment.seen with
  | none => (vm, fragment)
  | some answer =>
      toggleLoading false vm
        { fragment with seen := vm.alertData.version, adapter := some answer }

end SearchResultsFragment

structure SearchFlow where
  viewModel : SharedSearchViewModel
  results : Option SearchResultsFragment

inductive FlowEvent where
  | searchAlerts (text : String)
  | response (body : Option (List Alert))
  | onCreateView
  | onStart
  | onResume
  | onPause
  | onStop
  | onDestroyView
  deriving DecidableEq, Repr

namespace SearchFlow

open SearchResultsFragment

def new : SearchFlow := ⟨.new, none⟩

def whenClosed (flow : SearchFlow) (next : SearchFlow) : Option SearchFlow :=
  if flow.results = none then some next else none

def whenIn (flow : SearchFlow) (source : Lifecycle)
    (next : SearchResultsFragment → SearchFlow) : Option SearchFlow :=
  flow.results.bind fun fragment =>
    if fragment.lifecycle = source then some (next fragment) else none

def withFragment (target : Lifecycle)
    (next : SharedSearchViewModel × SearchResultsFragment) : SearchFlow :=
  ⟨next.1, some { next.2 with lifecycle := target }⟩

/-- `setValue` of the answer: an observer that is not started is called later. -/
def receive (vm : SharedSearchViewModel) : Option SearchResultsFragment → SearchFlow
  | none => ⟨vm, none⟩
  | some fragment =>
      if fragment.lifecycle = .created then ⟨vm, some fragment⟩
      else withFragment fragment.lifecycle (dispatch vm fragment)

def step (flow : SearchFlow) : FlowEvent → Option SearchFlow
  | .searchAlerts text =>
      flow.whenClosed { flow with viewModel := flow.viewModel.searchAlerts text }
  | .response body =>
      flow.viewModel.inFlight.map fun search =>
        receive (flow.viewModel.answered search body) flow.results
  | .onCreateView =>
      flow.whenClosed { flow with results := some SearchResultsFragment.onCreateView }
  | .onStart =>
      flow.whenIn .created fun fragment =>
        withFragment .started (dispatch flow.viewModel fragment)
  | .onResume =>
      flow.whenIn .started fun fragment =>
        withFragment .resumed (toggleLoading true flow.viewModel fragment)
  | .onPause =>
      flow.whenIn .resumed fun fragment => withFragment .started (flow.viewModel, fragment)
  | .onStop =>
      flow.whenIn .started fun fragment => withFragment .created (flow.viewModel, fragment)
  | .onDestroyView => flow.whenIn .created fun _ => { flow with results := none }

theorem whenClosed_eq_some_iff {flow flow' next : SearchFlow} :
    flow.whenClosed next = some flow' ↔ flow.results = none ∧ next = flow' := by
  simp [whenClosed]

theorem whenIn_eq_some_iff {flow flow' : SearchFlow} {source : Lifecycle}
    {next : SearchResultsFragment → SearchFlow} :
    flow.whenIn source next = some flow' ↔
      ∃ fragment, flow.results = some fragment ∧ fragment.lifecycle = source ∧
        next fragment = flow' := by
  simp [whenIn, Option.bind_eq_some_iff]

/-- A resumed screen with a visible list and no loading bar lists what was returned for
the last search submitted. -/
def ListsLast {τ : Type} (about : Search → τ) (flow : SearchFlow) : Prop :=
  ∀ fragment ∈ flow.results, fragment.lifecycle = .resumed →
    fragment.loadingVisible = false → fragment.recyclerVisible = true →
    ∃ answer, fragment.adapter = some answer ∧
      flow.viewModel.searchUserInput.map about = some (about answer.search)

def ResumesWithLast {τ : Type} (about : Search → τ) (flow : SearchFlow)
    (event : FlowEvent) : Prop :=
  event = .onResume → flow.viewModel.HoldsLast about

/-! ## Invariants -/

structure Delivered (vm : SharedSearchViewModel) (fragment : SearchResultsFragment) :
    Prop where
  seen_le : fragment.seen ≤ vm.alertData.version
  current : fragment.seen = vm.alertData.version → fragment.adapter = vm.alertData.value
  hidden : fragment.recyclerVisible = false → vm.searchLoading = true
  shown : 0 < fragment.seen → vm.searchLoading = false ∧ fragment.loadingVisible = false

structure Consistent (vm : SharedSearchViewModel) (fragment : SearchResultsFragment) :
    Prop extends Delivered vm fragment where
  active : fragment.lifecycle ≠ .created → fragment.seen = vm.alertData.version
  waiting : fragment.lifecycle = .resumed → fragment.seen = 0 →
    fragment.loadingVisible = true

structure Inv (flow : SearchFlow) : Prop where
  loading : flow.viewModel.alertData.version = 0 → flow.viewModel.searchLoading = true
  awaited : ∀ search ∈ flow.viewModel.inFlight,
    flow.viewModel.searchUserInput = some search
  consistent : ∀ fragment ∈ flow.results, Consistent flow.viewModel fragment

theorem new_inv : new.Inv where
  loading := fun _ => rfl
  awaited := by simp [new, SharedSearchViewModel.new]
  consistent := by simp [new]

theorem toggleLoading_frame (loading : Bool) (vm : SharedSearchViewModel)
    (fragment : SearchResultsFragment) :
    (toggleLoading loading vm fragment).1.alertData = vm.alertData ∧
      (toggleLoading loading vm fragment).1.searchUserInput = vm.searchUserInput ∧
      (toggleLoading loading vm fragment).1.inFlight = vm.inFlight := by
  unfold toggleLoading
  split
  · simp
  · split <;> simp

theorem dispatch_frame (vm : SharedSearchViewModel) (fragment : SearchResultsFragment) :
    (dispatch vm fragment).1.alertData = vm.alertData ∧
      (dispatch vm fragment).1.searchUserInput = vm.searchUserInput ∧
      (dispatch vm fragment).1.inFlight = vm.inFlight := by
  unfold dispatch
  split
  · simp
  · exact toggleLoading_frame false vm _

theorem dispatch_of_version_le {vm : SharedSearchViewModel}
    {fragment : SearchResultsFragment} (h : vm.alertData.version ≤ fragment.seen) :
    dispatch vm fragment = (vm, fragment) := by
  have hnone := (vm.alertData.unseen_eq_none_iff fragment.seen).mpr h
  simp [dispatch, hnone]

theorem dispatch_of_unseen {vm : SharedSearchViewModel} {fragment : SearchResultsFragment}
    {answer : Answer} (h : vm.alertData.unseen fragment.seen = some answer)
    (hhidden : fragment.recyclerVisible = false → vm.searchLoading = true) :
    dispatch vm fragment =
      ({ vm with searchLoading := false },
        { fragment with
          seen := vm.alertData.version
          adapter := some answer
          recyclerVisible := true
          loadingVisible := false }) := by
  unfold dispatch
  rw [h]
  cases hloading : vm.searchLoading with
  | true => simp [toggleLoading, hloading]
  | false =>
      have hvisible : fragment.recyclerVisible = true := by
        cases hrecycler : fragment.recyclerVisible with
        | true => rfl
        | false => simp [hloading] at hhidden; simp [hhidden] at hrecycler
      simp [toggleLoading, hloading, hvisible]
      rw [← hloading]

theorem dispatch_consistent {vm : SharedSearchViewModel}
    {fragment : SearchResultsFragment} {target : Lifecycle} (h : Delivered vm fragment)
    (hwaiting : target = .resumed → fragment.seen = 0 → fragment.loadingVisible = true) :
    Consistent (dispatch vm fragment).1
      { (dispatch vm fragment).2 with lifecycle := target } := by
  cases hunseen : vm.alertData.unseen fragment.seen with
  | none =>
      have hle := (vm.alertData.unseen_eq_none_iff fragment.seen).mp hunseen
      have hseen : fragment.seen = vm.alertData.version := Nat.le_antisymm h.seen_le hle
      rw [dispatch_of_version_le hle]
      exact ⟨⟨h.seen_le, h.current, h.hidden, h.shown⟩, fun _ => hseen, hwaiting⟩
  | some answer =>
      have hvalue := LiveData.unseen_eq_some hunseen
      rw [dispatch_of_unseen hunseen h.hidden]
      refine ⟨⟨Nat.le_refl _, fun _ => hvalue.2.symm, by simp, by simp⟩, fun _ => rfl, ?_⟩
      intro _ hzero
      have hpos : 0 < vm.alertData.version := Nat.zero_lt_of_lt hvalue.1
      exact absurd hzero (Nat.ne_of_gt hpos)

theorem dispatch_loading {vm : SharedSearchViewModel} (fragment : SearchResultsFragment)
    (hloading : vm.alertData.version = 0 → vm.searchLoading = true)
    (h : (dispatch vm fragment).1.alertData.version = 0) :
    (dispatch vm fragment).1.searchLoading = true := by
  rw [(dispatch_frame vm fragment).1] at h
  have hle : vm.alertData.version ≤ fragment.seen := by omega
  rw [dispatch_of_version_le hle]
  exact hloading h

theorem withFragment_dispatch_inv {vm : SharedSearchViewModel}
    {fragment : SearchResultsFragment} {target : Lifecycle}
    (hloading : vm.alertData.version = 0 → vm.searchLoading = true)
    (hawaited : ∀ search ∈ vm.inFlight, vm.searchUserInput = some search)
    (h : Delivered vm fragment)
    (hwaiting : target = .resumed → fragment.seen = 0 → fragment.loadingVisible = true) :
    (withFragment target (dispatch vm fragment)).Inv := by
  have hframe := dispatch_frame vm fragment
  refine ⟨fun hzero => dispatch_loading fragment hloading hzero, ?_, ?_⟩
  · intro search hsearch
    change search ∈ (dispatch vm fragment).1.inFlight at hsearch
    change (dispatch vm fragment).1.searchUserInput = some search
    rw [hframe.2.2] at hsearch
    rw [hframe.2.1]
    exact hawaited search hsearch
  · intro current hcurrent
    cases hcurrent
    exact dispatch_consistent h hwaiting

theorem onResume_inv {vm : SharedSearchViewModel} {fragment : SearchResultsFragment}
    (h : (⟨vm, some fragment⟩ : SearchFlow).Inv) (hstarted : fragment.lifecycle = .started) :
    (withFragment .resumed (toggleLoading true vm fragment)).Inv := by
  have hview : Consistent vm fragment := h.consistent fragment rfl
  have hseen : fragment.seen = vm.alertData.version := by
    apply hview.active
    rw [hstarted]
    decide
  cases hloading : vm.searchLoading with
  | true =>
      simp only [toggleLoading, hloading, withFragment, Bool.and_self, if_true]
      refine ⟨h.loading, h.awaited, ?_⟩
      intro current hcurrent
      cases hcurrent
      refine ⟨⟨hview.seen_le, hview.current, fun _ => hloading, ?_⟩, fun _ => hseen,
        fun _ _ => rfl⟩
      intro hpos
      have hfalse := (hview.shown hpos).1
      rw [hloading] at hfalse
      cases hfalse
  | false =>
      simp only [toggleLoading, hloading, withFragment, Bool.and_false, Bool.false_eq_true,
        if_false]
      refine ⟨h.loading, h.awaited, ?_⟩
      intro current hcurrent
      cases hcurrent
      refine ⟨⟨hview.seen_le, hview.current, hview.hidden, fun _ => ⟨hloading, rfl⟩⟩,
        fun _ => hseen, ?_⟩
      intro _ hzero
      have htrue := h.loading (hseen.symm.trans hzero)
      rw [hloading] at htrue
      cases htrue

theorem moveTo_inv {vm : SharedSearchViewModel} {fragment : SearchResultsFragment}
    {target : Lifecycle} (h : (⟨vm, some fragment⟩ : SearchFlow).Inv)
    (htarget : target ≠ .resumed)
    (hactive : target ≠ .created → fragment.lifecycle ≠ .created) :
    (withFragment target (vm, fragment)).Inv := by
  have hview : Consistent vm fragment := h.consistent fragment rfl
  refine ⟨h.loading, h.awaited, ?_⟩
  intro current hcurrent
  cases hcurrent
  refine ⟨⟨hview.seen_le, hview.current, hview.hidden, hview.shown⟩, ?_, ?_⟩
  · exact fun hne => hview.active (hactive hne)
  · exact fun hresumed => absurd hresumed htarget

theorem receive_inv {flow : SearchFlow} (h : flow.Inv) (search : Search)
    (body : Option (List Alert)) :
    (receive (flow.viewModel.answered search body) flow.results).Inv := by
  have hloading : (flow.viewModel.answered search body).alertData.version = 0 →
      (flow.viewModel.answered search body).searchLoading = true := by
    cases body with
    | none => exact h.loading
    | some alerts => simp [SharedSearchViewModel.answered]
  have hawaited : ∀ other ∈ (flow.viewModel.answered search body).inFlight,
      (flow.viewModel.answered search body).searchUserInput = some other := by
    cases body <;> simp [SharedSearchViewModel.answered]
  cases hresults : flow.results with
  | none => exact ⟨hloading, hawaited, by simp [receive]⟩
  | some fragment =>
      have hview := h.consistent fragment hresults
      have hdelivered : Delivered (flow.viewModel.answered search body) fragment := by
        cases body with
        | none => exact ⟨hview.seen_le, hview.current, hview.hidden, hview.shown⟩
        | some alerts =>
            have hle := hview.seen_le
            refine ⟨?_, ?_, hview.hidden, hview.shown⟩
            · simp only [SharedSearchViewModel.answered, LiveData.version_setValue]
              omega
            · simp only [SharedSearchViewModel.answered, LiveData.version_setValue]
              omega
      simp only [receive]
      split
      · case isTrue hcreated =>
          refine ⟨hloading, hawaited, ?_⟩
          intro current hcurrent
          cases hcurrent
          refine ⟨hdelivered, fun hne => absurd hcreated hne, ?_⟩
          rw [hcreated]
          exact fun hresumed => by cases hresumed
      · exact withFragment_dispatch_inv hloading hawaited hdelivered hview.waiting

theorem searchAlerts_inv {vm : SharedSearchViewModel}
    (h : (⟨vm, none⟩ : SearchFlow).Inv) (text : String) :
    (⟨vm.searchAlerts text, none⟩ : SearchFlow).Inv := by
  unfold SharedSearchViewModel.searchAlerts
  split
  · exact h
  · exact ⟨fun _ => rfl, fun search hsearch => hsearch, nofun⟩

theorem onCreateView_inv {vm : SharedSearchViewModel} (h : (⟨vm, none⟩ : SearchFlow).Inv) :
    (⟨vm, some SearchResultsFragment.onCreateView⟩ : SearchFlow).Inv := by
  refine ⟨h.loading, h.awaited, ?_⟩
  intro fragment hfragment
  cases hfragment
  refine ⟨⟨Nat.zero_le _, ?_, nofun, nofun⟩, by simp [onCreateView], nofun⟩
  intro hzero
  have hnone : vm.alertData.value = none :=
    (LiveData.value_eq_none_iff _).mpr hzero.symm
  exact hnone.symm

theorem step_inv {flow flow' : SearchFlow} {event : FlowEvent} (h : flow.Inv)
    (hstep : step flow event = some flow') : flow'.Inv := by
  obtain ⟨vm, results⟩ := flow
  cases event with
  | searchAlerts text =>
      obtain ⟨rfl, rfl⟩ := whenClosed_eq_some_iff.mp hstep
      exact searchAlerts_inv h text
  | response body =>
      obtain ⟨search, -, rfl⟩ := Option.map_eq_some_iff.mp hstep
      exact receive_inv h search body
  | onCreateView =>
      obtain ⟨rfl, rfl⟩ := whenClosed_eq_some_iff.mp hstep
      exact onCreateView_inv h
  | onStart =>
      obtain ⟨fragment, rfl, -, rfl⟩ := whenIn_eq_some_iff.mp hstep
      have hview : Consistent vm fragment := h.consistent fragment rfl
      exact withFragment_dispatch_inv h.loading h.awaited hview.toDelivered nofun
  | onResume =>
      obtain ⟨fragment, rfl, hstarted, rfl⟩ := whenIn_eq_some_iff.mp hstep
      exact onResume_inv h hstarted
  | onPause =>
      obtain ⟨fragment, rfl, hresumed, rfl⟩ := whenIn_eq_some_iff.mp hstep
      exact moveTo_inv h (by decide) (by simp [hresumed])
  | onStop =>
      obtain ⟨fragment, rfl, -, rfl⟩ := whenIn_eq_some_iff.mp hstep
      exact moveTo_inv h (by decide) (by simp)
  | onDestroyView =>
      obtain ⟨fragment, rfl, -, rfl⟩ := whenIn_eq_some_iff.mp hstep
      exact ⟨h.loading, h.awaited, nofun⟩

/-! ## What a resumed screen lists -/

section LastSearch

variable {τ : Type} {about : Search → τ}

theorem listsLast_iff {flow : SearchFlow} (h : flow.Inv) :
    ListsLast about flow ↔
      ∀ fragment ∈ flow.results, fragment.lifecycle = .resumed →
        flow.viewModel.HoldsLast about := by
  refine forall_congr' fun fragment => forall_congr' fun hfragment =>
    forall_congr' fun hresumed => ?_
  have hview := h.consistent fragment hfragment
  have hseen : fragment.seen = flow.viewModel.alertData.version := by
    apply hview.active
    rw [hresumed]
    decide
  have hadapter := hview.current hseen
  constructor
  · intro hlists answer hanswer
    have hpos : 0 < fragment.seen := by
      rw [hseen]
      exact flow.viewModel.alertData.isSome_iff.mp (by rw [hanswer]; rfl)
    have hshown := hview.shown hpos
    have hvisible : fragment.recyclerVisible = true := by
      cases hrecycler : fragment.recyclerVisible with
      | true => rfl
      | false =>
          have hloading := hview.hidden hrecycler
          rw [hshown.1] at hloading
          cases hloading
    obtain ⟨other, hother, habout⟩ := hlists hshown.2 hvisible
    have heq : other = answer :=
      Option.some.inj (hother.symm.trans (hadapter.trans hanswer))
    rwa [heq] at habout
  · intro hholds hloading _
    have hne : fragment.seen ≠ 0 := by
      intro hzero
      have hwaiting := hview.waiting hresumed hzero
      rw [hloading] at hwaiting
      cases hwaiting
    rw [hseen] at hne
    obtain ⟨answer, hanswer⟩ := flow.viewModel.alertData.exists_value hne
    exact ⟨answer, hadapter.trans hanswer, hholds answer hanswer⟩

theorem withFragment_dispatch_holdsLast (vm : SharedSearchViewModel)
    (fragment : SearchResultsFragment) (target : Lifecycle) :
    (withFragment target (dispatch vm fragment)).viewModel.HoldsLast about ↔
      vm.HoldsLast about := by
  have hframe := dispatch_frame vm fragment
  simp [SharedSearchViewModel.HoldsLast, withFragment, hframe]

theorem onResume_holdsLast (vm : SharedSearchViewModel)
    (fragment : SearchResultsFragment) (target : Lifecycle) :
    (withFragment target (toggleLoading true vm fragment)).viewModel.HoldsLast about ↔
      vm.HoldsLast about := by
  have hframe := toggleLoading_frame true vm fragment
  simp [SharedSearchViewModel.HoldsLast, withFragment, hframe]

theorem receive_holdsLast (vm : SharedSearchViewModel)
    (results : Option SearchResultsFragment) :
    (receive vm results).viewModel.HoldsLast about ↔ vm.HoldsLast about := by
  cases results with
  | none => rfl
  | some fragment =>
      simp only [receive]
      split
      · rfl
      · exact withFragment_dispatch_holdsLast vm fragment fragment.lifecycle

theorem receive_lifecycle {vm : SharedSearchViewModel}
    {results : Option SearchResultsFragment} {fragment : SearchResultsFragment}
    (h : fragment ∈ (receive vm results).results) :
    ∃ before ∈ results, before.lifecycle = fragment.lifecycle := by
  cases results with
  | none => cases h
  | some before =>
      simp only [receive] at h
      split at h
      · cases h
        exact ⟨_, rfl, rfl⟩
      · cases h
        exact ⟨_, rfl, rfl⟩

theorem receive_listsLast {flow : SearchFlow} {search : Search}
    {body : Option (List Alert)} (h : flow.Inv) (hlists : ListsLast about flow)
    (hsearch : flow.viewModel.inFlight = some search) :
    ListsLast about (receive (flow.viewModel.answered search body) flow.results) := by
  rw [listsLast_iff (receive_inv h search body)]
  intro fragment hfragment hresumed
  rw [receive_holdsLast]
  cases body with
  | none =>
      obtain ⟨before, hbefore, hlifecycle⟩ := receive_lifecycle hfragment
      exact (listsLast_iff h).mp hlists before hbefore (hlifecycle.trans hresumed)
  | some alerts =>
      intro answer hanswer
      cases hanswer
      have hinput := h.awaited search hsearch
      simp [SharedSearchViewModel.answered, hinput]

theorem listsLast_of_not_resumed {flow : SearchFlow}
    (h : ∀ fragment ∈ flow.results, fragment.lifecycle ≠ .resumed) :
    ListsLast about flow := by
  intro fragment hfragment hresumed
  exact absurd hresumed (h fragment hfragment)

/-- Only `onResume` can bring an earlier search back. -/
theorem step_listsLast_iff {flow flow' : SearchFlow} {event : FlowEvent} (h : flow.Inv)
    (hlists : ListsLast about flow) (hstep : step flow event = some flow') :
    ListsLast about flow' ↔ ResumesWithLast about flow event := by
  have hinv' := step_inv h hstep
  cases event with
  | response body =>
      obtain ⟨search, hsearch, rfl⟩ := Option.map_eq_some_iff.mp hstep
      exact iff_of_true (receive_listsLast h hlists hsearch) nofun
  | onResume =>
      obtain ⟨fragment, -, -, rfl⟩ := whenIn_eq_some_iff.mp hstep
      rw [listsLast_iff hinv', onResume_holdsLast]
      simp [ResumesWithLast, withFragment]
  | searchAlerts text =>
      obtain ⟨hnone, rfl⟩ := whenClosed_eq_some_iff.mp hstep
      exact iff_of_true (listsLast_of_not_resumed (by simp [hnone])) nofun
  | onCreateView =>
      obtain ⟨-, rfl⟩ := whenClosed_eq_some_iff.mp hstep
      exact iff_of_true (listsLast_of_not_resumed (by simp [onCreateView])) nofun
  | onStart | onPause | onStop =>
      obtain ⟨fragment, -, -, rfl⟩ := whenIn_eq_some_iff.mp hstep
      exact iff_of_true (listsLast_of_not_resumed (by simp [withFragment])) nofun
  | onDestroyView =>
      obtain ⟨fragment, -, -, rfl⟩ := whenIn_eq_some_iff.mp hstep
      exact iff_of_true (listsLast_of_not_resumed nofun) nofun

theorem always_listsLast_iff {events : List FlowEvent}
    (hrun : (run step new events).isSome) :
    Always step (ListsLast about) new events ↔
      EveryStep step (ResumesWithLast about) new events := by
  apply always_iff_everyStep Inv
  · intro flow event hinv hlists hsome
    obtain ⟨flow', hstep⟩ := Option.isSome_iff_exists.mp hsome
    exact ⟨flow', hstep, step_inv hinv hstep, step_listsLast_iff hinv hlists hstep⟩
  · exact new_inv
  · exact listsLast_of_not_resumed (by simp [new])
  · exact everyStep_isSome_of_run hrun

end LastSearch

/--
The results screen lists what was returned for the term submitted last,
exactly if at each `onResume` no answer with alerts has been received or the
last such answer was for that term.  The same holds with the submission for
the term.
-/
theorem lists_last_search_iff (events : List FlowEvent)
    (hrun : (run step new events).isSome) :
    (Always step (ListsLast Search.term) new events ↔
        EveryStep step (ResumesWithLast Search.term) new events) ∧
      (Always step (ListsLast id) new events ↔
        EveryStep step (ResumesWithLast id) new events) :=
  ⟨always_listsLast_iff hrun, always_listsLast_iff hrun⟩

def answeredSearch (text : String) (alerts : List Alert) : List FlowEvent :=
  [.searchAlerts text, .onCreateView, .response (some alerts), .onStart, .onResume]

def navigateUp : List FlowEvent := [.onPause, .onStop, .onDestroyView]

theorem lists_last_search_fire :
    let events := answeredSearch "fire" [fireBan.toAlert] ++ navigateUp ++
      answeredSearch "closure" [closure.toAlert]
    (Always step (ListsLast Search.term) new events ↔
        EveryStep step (ResumesWithLast Search.term) new events) ∧
      (Always step (ListsLast id) new events ↔
        EveryStep step (ResumesWithLast id) new events) :=
  lists_last_search_iff _ (by decide)

/-- The second search is not answered yet when its screen is resumed: the list of the
first is shown without the loading bar. -/
theorem earlier_search_listed :
    let events := answeredSearch "fire" [fireBan.toAlert] ++ navigateUp ++
      [.searchAlerts "closure", .onCreateView, .onStart, .onResume]
    ((run step new events).bind (·.results)) =
        some ⟨.resumed, 1, some ⟨⟨1, "fire"⟩, [fireBan.toAlert]⟩, true, false⟩ ∧
      ((run step new events).bind (·.viewModel.searchUserInput)) =
        some ⟨2, "closure"⟩ ∧
      ¬ Always step (ListsLast Search.term) new events ∧
      ¬ Always step (ListsLast id) new events := by
  refine ⟨by decide, by decide, fun h => ?_, fun h => ?_⟩
  · obtain ⟨flow, hrun, hlists⟩ := h.final
    cases hrun
    obtain ⟨answer, hanswer, hterm⟩ := hlists _ rfl rfl rfl rfl
    cases hanswer
    exact absurd hterm (by decide)
  · obtain ⟨flow, hrun, hlists⟩ := h.final
    cases hrun
    obtain ⟨answer, hanswer, hsearch⟩ := hlists _ rfl rfl rfl rfl
    cases hanswer
    exact absurd hsearch (by decide)

end SearchFlow

end AdvMad.Lab8
