import AdvMad.Lab8.FavoriteRepository

/-!
# lab8: the detail screen

The favourites list asks the view model of its own fragment for the details of
the selected alert, the search results note the alert in the search view model,
and `AlertDetailFragment` observes the favourites view model of the activity.
-/

namespace AdvMad.Lab8

open AdvMad.Foundation
open FavoriteRepository

/-! ## View models -/

/-- Who a `SharedFavoritesViewModel` is requested for: `requireActivity()` or `this` of
the `n`-th `FavoritesFragment`. -/
inductive Owner where
  | activity
  | favoritesFragment (n : Nat)
  deriving DecidableEq, Repr

abbrev ViewModels := Owner → Option FavoriteRepository

namespace ViewModels

def get (viewModels : ViewModels) (owner : Owner) : FavoriteRepository :=
  (viewModels owner).getD .new

def put (viewModels : ViewModels) (owner : Owner) (repo : FavoriteRepository) :
    ViewModels :=
  Function.update viewModels owner (some repo)

def request (viewModels : ViewModels) (owner : Owner) : ViewModels :=
  viewModels.put owner (viewModels.get owner)

@[simp] theorem get_put (viewModels : ViewModels) (owner : Owner)
    (repo : FavoriteRepository) : (viewModels.put owner repo).get owner = repo := by
  simp [get, put]

@[simp] theorem get_put_of_ne (viewModels : ViewModels) {owner other : Owner}
    (h : other ≠ owner) (repo : FavoriteRepository) :
    (viewModels.put owner repo).get other = viewModels.get other := by
  simp [get, put, h]

@[simp] theorem get_request (viewModels : ViewModels) (owner other : Owner) :
    (viewModels.request owner).get other = viewModels.get other := by
  unfold request
  by_cases h : other = owner
  · rw [h, get_put]
  · rw [get_put_of_ne viewModels h]

end ViewModels

/-! ## Screens -/

inductive Screen where
  | search
  | results
  | favorites (n : Nat)
  deriving DecidableEq, Repr

inductive ItemTitle where
  | save
  | remove
  deriving DecidableEq, Repr

structure AlertDetailFragment where
  /-- The id of the alert whose selection opened the screen. -/
  opened : String
  currentAlert : Option AlertDetails
  seenDetails : Nat
  seenFavorite : Nat
  itemTitle : ItemTitle
  confirming : Bool
  deriving DecidableEq, Repr

structure DetailFlow where
  viewModels : ViewModels
  searchResults : List Alert
  selectedAlert : Option Alert
  screen : Screen
  detail : Option AlertDetailFragment
  favorites : Collection

inductive DetailEvent where
  | openSearch
  | showResults (alerts : List Alert)
  | showFavorites (n : Nat)
  | listen (owner : Owner) (event : ListenerEvent)
  | onAlertItemClick (alert : Alert)
  | deliver
  | onOptionsItemSelected
  | confirmYes
  | confirmNo
  | navigateUp
  deriving DecidableEq, Repr

namespace DetailFlow

def new : DetailFlow := ⟨fun _ => none, [], none, .search, none, .empty⟩

/-- `onCreateView` of the detail fragment: both observers are registered with the view
model of the activity. -/
def openDetail (flow : DetailFlow) (alert : Alert) : DetailFlow :=
  { flow with
    viewModels := flow.viewModels.request .activity
    detail := some ⟨alert.id, none, 0, 0, .save, false⟩ }

def onAlertItemClick (flow : DetailFlow) (alert : Alert) : DetailFlow :=
  match flow.screen with
  | .search => flow
  | .results => { flow with selectedAlert := some alert }.openDetail alert
  | .favorites n =>
      let owner := Owner.favoritesFragment n
      let repo := (flow.viewModels.get owner).getDetailsForAlert alert
      { flow with viewModels := flow.viewModels.put owner repo }.openDetail alert

/-- The observer `updateViewWithDetails`: `none` for the exception of `it.id` on null. -/
def updateViewWithDetails (repo : FavoriteRepository) (detail : AlertDetailFragment) :
    Option AlertDetails → Option (FavoriteRepository × AlertDetailFragment)
  | none => none
  | some details =>
      some (repo.isAlertFavoriteId details.id, { detail with currentAlert := some details })

def deliverDetails (repo : FavoriteRepository) (detail : AlertDetailFragment) :
    Option (FavoriteRepository × AlertDetailFragment) :=
  match repo.favoriteDetails.unseen detail.seenDetails with
  | none => some (repo, detail)
  | some details =>
      updateViewWithDetails repo { detail with seenDetails := repo.favoriteDetails.version }
        details

def deliverFavorite (repo : FavoriteRepository) (detail : AlertDetailFragment) :
    AlertDetailFragment :=
  match repo.alertIsFavorite.unseen detail.seenFavorite with
  | none => detail
  | some isFavorite =>
      { detail with
        seenFavorite := repo.alertIsFavorite.version
        itemTitle := if isFavorite then .remove else .save }

def deliver (flow : DetailFlow) (detail : AlertDetailFragment) : Option DetailFlow := do
  let (repo, detail) ← deliverDetails (flow.viewModels.get .activity) detail
  some { flow with
    viewModels := flow.viewModels.put .activity repo
    detail := some (deliverFavorite repo detail) }

/-- The star is tapped: `none` for the access to an uninitialised `currentAlert`. -/
def onOptionsItemSelected (flow : DetailFlow) (detail : AlertDetailFragment) :
    Option DetailFlow :=
  match detail.itemTitle with
  | .save => do
      let currentAlert ← detail.currentAlert
      some { flow with
        detail := some { detail with itemTitle := .remove }
        favorites := addFavorite flow.favorites currentAlert }
  | .remove => some { flow with detail := some { detail with confirming := true } }

def confirmYes (flow : DetailFlow) (detail : AlertDetailFragment) : Option DetailFlow := do
  let currentAlert ← detail.currentAlert
  some { flow with
    detail := some { detail with itemTitle := .save, confirming := false }
    favorites := removeAlertFromFavorites flow.favorites currentAlert.id }

def step (flow : DetailFlow) : DetailEvent → Option DetailFlow
  | .openSearch => some { flow with screen := .search }
  | .showResults alerts => some { flow with screen := .results, searchResults := alerts }
  | .showFavorites n =>
      some { flow with
        screen := .favorites n
        viewModels := flow.viewModels.request (.favoritesFragment n) }
  | .listen owner event => do
      let repo ← (flow.viewModels.get owner).listener event
      some { flow with viewModels := flow.viewModels.put owner repo }
  | .onAlertItemClick alert => some (flow.onAlertItemClick alert)
  | .deliver => flow.detail.bind flow.deliver
  | .onOptionsItemSelected => flow.detail.bind flow.onOptionsItemSelected
  | .confirmYes => flow.detail.bind flow.confirmYes
  | .confirmNo =>
      some { flow with detail := flow.detail.map ({ · with confirming := false }) }
  | .navigateUp => some { flow with detail := none }

/-! ## Runs -/

def listed (flow : DetailFlow) : List Alert :=
  match flow.screen with
  | .search => []
  | .results => flow.searchResults
  | .favorites n =>
      ((flow.viewModels.get (.favoritesFragment n)).favoriteList.value).getD []

def Possible (flow : DetailFlow) : DetailEvent → Prop
  | .openSearch | .showResults _ | .showFavorites _ => flow.detail = none
  | .listen owner (.snapshot docs) =>
      (flow.viewModels owner).isSome = true ∧ ∀ doc ∈ docs, WellFormed doc
  | .listen owner _ => (flow.viewModels owner).isSome = true
  | .onAlertItemClick alert => flow.detail = none ∧ alert ∈ flow.listed
  | .deliver | .onOptionsItemSelected | .navigateUp => flow.detail.isSome = true
  | .confirmYes | .confirmNo => flow.detail.any (·.confirming) = true

instance (flow : DetailFlow) : ∀ event, Decidable (flow.Possible event)
  | .openSearch | .showResults _ | .showFavorites _ =>
      decidable_of_iff (flow.detail.isNone = true) Option.isNone_iff_eq_none
  | .listen owner (.snapshot docs) =>
      inferInstanceAs (Decidable
        ((flow.viewModels owner).isSome = true ∧ ∀ doc ∈ docs, ∀ field ∈ fields,
          (doc.getString field).isSome = true))
  | .listen owner .error | .listen owner .noSnapshot =>
      inferInstanceAs (Decidable ((flow.viewModels owner).isSome = true))
  | .onAlertItemClick alert =>
      inferInstanceAs (Decidable (flow.detail = none ∧ alert ∈ flow.listed))
  | .deliver | .onOptionsItemSelected | .navigateUp =>
      inferInstanceAs (Decidable (flow.detail.isSome = true))
  | .confirmYes | .confirmNo =>
      inferInstanceAs (Decidable (flow.detail.any (·.confirming) = true))

def ShowsSelected (flow : DetailFlow) : Prop :=
  ∀ detail ∈ flow.detail,
    (flow.viewModels.get .activity).favoriteDetails.unseen detail.seenDetails = none →
    ∃ alert, detail.currentAlert = some alert ∧ alert.id = detail.opened

def StarActsOnSelected (flow : DetailFlow) (event : DetailEvent) : Prop :=
  event = .onOptionsItemSelected ∨ event = .confirmYes →
    ∀ detail ∈ flow.detail, ∃ flow', step flow event = some flow' ∧
      ∀ id ≠ detail.opened, flow'.favorites.get id = flow.favorites.get id

def SelectsNothing (_ : DetailFlow) (event : DetailEvent) : Prop :=
  ∀ alert, event ≠ .onAlertItemClick alert

/-! ## The view model of the activity -/

/-- Neither observable of the activity's view model is ever set, so the fragment stays as
it was created. -/
structure Untouched (flow : DetailFlow) : Prop where
  details : (flow.viewModels.get .activity).favoriteDetails.version = 0
  favorite : (flow.viewModels.get .activity).alertIsFavorite.version = 0
  blank : ∀ detail ∈ flow.detail, detail.currentAlert = none ∧ detail.itemTitle = .save ∧
    detail.confirming = false

theorem new_untouched : new.Untouched := by
  constructor <;> simp [new, ViewModels.get, FavoriteRepository.new]

theorem shows_iff {flow : DetailFlow} (h : flow.Untouched) :
    flow.ShowsSelected ↔ flow.detail = none := by
  constructor
  · intro hshows
    cases hdetail : flow.detail with
    | none => rfl
    | some detail =>
        have hunseen : (flow.viewModels.get .activity).favoriteDetails.unseen
            detail.seenDetails = none := by
          rw [LiveData.unseen_eq_none_iff, h.details]
          exact Nat.zero_le _
        obtain ⟨alert, halert, -⟩ := hshows detail hdetail hunseen
        have hblank := (h.blank detail hdetail).1
        rw [halert] at hblank
        cases hblank
  · intro hnone detail hdetail
    rw [hnone] at hdetail
    cases hdetail

theorem openDetail_untouched {flow : DetailFlow} (h : flow.Untouched) (alert : Alert) :
    (flow.openDetail alert).Untouched := by
  refine ⟨?_, ?_, ?_⟩
  · simpa [openDetail] using h.details
  · simpa [openDetail] using h.favorite
  · simp [openDetail]

theorem onAlertItemClick_untouched {flow : DetailFlow} (h : flow.Untouched)
    (alert : Alert) : (flow.onAlertItemClick alert).Untouched := by
  unfold onAlertItemClick
  split
  · exact h
  · apply openDetail_untouched
    exact ⟨h.details, h.favorite, h.blank⟩
  · apply openDetail_untouched
    refine ⟨?_, ?_, h.blank⟩
    · simpa using h.details
    · simpa using h.favorite

theorem parseAllData_frame {repo repo' : FavoriteRepository} {docs : List Document}
    (h : repo.parseAllData docs = some repo') :
    repo'.favoriteDetails = repo.favoriteDetails ∧
      repo'.alertIsFavorite = repo.alertIsFavorite := by
  obtain ⟨loop, -, hrepo⟩ := Option.bind_eq_some_iff.mp h
  cases hrepo
  exact ⟨rfl, rfl⟩

theorem listener_frame {repo repo' : FavoriteRepository} {event : ListenerEvent}
    (h : repo.listener event = some repo') :
    repo'.favoriteDetails = repo.favoriteDetails ∧
      repo'.alertIsFavorite = repo.alertIsFavorite := by
  cases event with
  | error | noSnapshot =>
      cases h
      exact ⟨rfl, rfl⟩
  | snapshot docs => exact parseAllData_frame h

theorem listen_untouched {flow : DetailFlow} {owner : Owner} {event : ListenerEvent}
    {repo : FavoriteRepository} (h : flow.Untouched)
    (hrepo : (flow.viewModels.get owner).listener event = some repo) :
    ({ flow with viewModels := flow.viewModels.put owner repo } : DetailFlow).Untouched := by
  have hframe := listener_frame hrepo
  by_cases howner : Owner.activity = owner
  · subst howner
    refine ⟨?_, ?_, h.blank⟩
    · simpa [hframe.1] using h.details
    · simpa [hframe.2] using h.favorite
  · refine ⟨?_, ?_, h.blank⟩
    · simpa [howner] using h.details
    · simpa [howner] using h.favorite

theorem listener_isSome {flow : DetailFlow} {owner : Owner} {event : ListenerEvent}
    (h : flow.Possible (.listen owner event)) :
    ∃ repo, (flow.viewModels.get owner).listener event = some repo := by
  cases event with
  | error | noSnapshot => exact ⟨_, rfl⟩
  | snapshot docs =>
      obtain ⟨repo, hrepo, -⟩ := parseAllData_keys (flow.viewModels.get owner) h.2
      exact ⟨repo, hrepo⟩

theorem deliver_untouched {flow : DetailFlow} {detail : AlertDetailFragment}
    (h : flow.Untouched) (hdetail : flow.detail = some detail) :
    ∃ flow', flow.deliver detail = some flow' ∧ flow'.Untouched := by
  have hdetails : deliverDetails (flow.viewModels.get .activity) detail =
      some (flow.viewModels.get .activity, detail) := by
    have hunseen := (LiveData.unseen_eq_none_iff
      (flow.viewModels.get .activity).favoriteDetails detail.seenDetails).mpr
      (by rw [h.details]; exact Nat.zero_le _)
    simp [deliverDetails, hunseen]
  have hfavorite : deliverFavorite (flow.viewModels.get .activity) detail = detail := by
    have hunseen := (LiveData.unseen_eq_none_iff
      (flow.viewModels.get .activity).alertIsFavorite detail.seenFavorite).mpr
      (by rw [h.favorite]; exact Nat.zero_le _)
    simp [deliverFavorite, hunseen]
  refine ⟨_, by simp only [deliver, hdetails]; rfl, ?_⟩
  refine ⟨?_, ?_, ?_⟩
  · simpa using h.details
  · simpa using h.favorite
  · rw [hfavorite, ← hdetail]
    exact h.blank

theorem star_traps {flow : DetailFlow} (h : flow.Untouched)
    (hopen : flow.detail.isSome = true) : step flow .onOptionsItemSelected = none := by
  obtain ⟨detail, hdetail⟩ := Option.isSome_iff_exists.mp hopen
  have hblank := h.blank detail hdetail
  simp [step, hdetail, onOptionsItemSelected, hblank]

theorem step_untouched {flow flow' : DetailFlow} {event : DetailEvent}
    (h : flow.Untouched) (hpossible : flow.Possible event)
    (hstep : step flow event = some flow') : flow'.Untouched := by
  cases event with
  | openSearch | showResults alerts =>
      cases hstep
      exact ⟨h.details, h.favorite, h.blank⟩
  | showFavorites n =>
      cases hstep
      refine ⟨?_, ?_, h.blank⟩
      · simpa using h.details
      · simpa using h.favorite
  | listen owner event =>
      obtain ⟨repo, hrepo, hflow⟩ := Option.bind_eq_some_iff.mp hstep
      cases hflow
      exact listen_untouched h hrepo
  | onAlertItemClick alert =>
      cases hstep
      exact onAlertItemClick_untouched h alert
  | deliver =>
      obtain ⟨detail, hdetail, hdeliver⟩ := Option.bind_eq_some_iff.mp hstep
      obtain ⟨next, hnext, huntouched⟩ := deliver_untouched h hdetail
      obtain rfl := Option.some.inj (hnext.symm.trans hdeliver)
      exact huntouched
  | onOptionsItemSelected =>
      rw [star_traps h hpossible] at hstep
      cases hstep
  | confirmYes | confirmNo =>
      obtain ⟨detail, hdetail, hconfirming⟩ := (Option.any_eq_true _ _).mp hpossible
      have hblank := (h.blank detail hdetail).2.2
      rw [hconfirming] at hblank
      cases hblank
  | navigateUp =>
      cases hstep
      exact ⟨h.details, h.favorite, by simp⟩

theorem onAlertItemClick_opens {flow : DetailFlow} {alert : Alert}
    (h : alert ∈ flow.listed) : (flow.onAlertItemClick alert).detail ≠ none := by
  unfold onAlertItemClick
  split
  · case h_1 hsearch => simp [listed, hsearch] at h
  · simp [openDetail]
  · simp [openDetail]

theorem step_shows_iff {flow : DetailFlow} {event : DetailEvent} (h : flow.Untouched)
    (hshows : flow.ShowsSelected) (hpossible : flow.Possible event) :
    ∃ flow', step flow event = some flow' ∧ flow'.Untouched ∧
      (flow'.ShowsSelected ↔ flow.SelectsNothing event) := by
  have hclosed := (shows_iff h).mp hshows
  have hstays : ∀ {flow' : DetailFlow}, step flow event = some flow' →
      flow'.detail = none → flow.SelectsNothing event →
      ∃ flow', step flow event = some flow' ∧ flow'.Untouched ∧
        (flow'.ShowsSelected ↔ flow.SelectsNothing event) := by
    intro flow' hstep hnone hselects
    have huntouched := step_untouched h hpossible hstep
    exact ⟨flow', hstep, huntouched, iff_of_true ((shows_iff huntouched).mpr hnone) hselects⟩
  cases event with
  | openSearch | showResults alerts | showFavorites n =>
      exact hstays rfl hclosed nofun
  | listen owner event =>
      obtain ⟨repo, hrepo⟩ := listener_isSome hpossible
      have hlisten : step flow (.listen owner event) =
          some { flow with viewModels := flow.viewModels.put owner repo } := by
        simp [step, hrepo]
      exact hstays hlisten hclosed nofun
  | onAlertItemClick alert =>
      have huntouched := onAlertItemClick_untouched h alert
      refine ⟨_, rfl, huntouched, ?_⟩
      rw [shows_iff huntouched]
      exact iff_of_false (onAlertItemClick_opens hpossible.2)
        (fun hselects => hselects alert rfl)
  | deliver | onOptionsItemSelected | navigateUp =>
      have hopen : flow.detail.isSome = true := hpossible
      simp [hclosed] at hopen
  | confirmYes | confirmNo =>
      have hconfirming : flow.detail.any (·.confirming) = true := hpossible
      simp [hclosed] at hconfirming

/--
The detail screen shows the selected alert and its star acts on it in the runs
that select no alert, and in no other: wherever the screen is open, it has no
alert and a tap on the star traps.
-/
theorem shows_selected_iff (events : List DetailEvent)
    (hpossible : EveryStep step Possible new events) :
    (Always step ShowsSelected new events ∧ EveryStep step StarActsOnSelected new events ↔
        EveryStep step SelectsNothing new events) ∧
      ∀ flow, run step new events = some flow → ∀ detail ∈ flow.detail,
        detail.currentAlert = none ∧ step flow .onOptionsItemSelected = none := by
  have hiff : Always step ShowsSelected new events ↔
      EveryStep step SelectsNothing new events := by
    apply always_iff_everyStep Untouched
    · intro flow event huntouched hshows hpossible
      exact step_shows_iff huntouched hshows hpossible
    · exact new_untouched
    · exact (shows_iff new_untouched).mpr rfl
    · exact hpossible
  have hstep : ∀ (flow : DetailFlow) (event : DetailEvent) (flow' : DetailFlow),
      flow.Untouched → flow.Possible event → step flow event = some flow' →
      flow'.Untouched := fun _ _ _ => step_untouched
  refine ⟨⟨fun h => hiff.mp h.1, fun h => ?_⟩, ?_⟩
  · have halways := hiff.mpr h
    refine ⟨halways, ?_⟩
    apply (halways.and_inv hstep new_untouched hpossible).everyStep
    intro flow event hflow _ detail hdetail
    have hclosed := (shows_iff hflow.1).mp hflow.2
    simp [hclosed] at hdetail
  · intro flow hrun detail hdetail
    have huntouched := inv_of_run hstep new_untouched hpossible hrun
    have hopen : flow.detail.isSome = true := by
      rw [hdetail]
      rfl
    exact ⟨(huntouched.blank detail hdetail).1, star_traps huntouched hopen⟩

def plain : AlertDetails := ⟨"a1", "a1", "a1", "a1", "a1", "a1"⟩

def selectFavorite : List DetailEvent :=
  [.showFavorites 0,
    .listen (.favoritesFragment 0) (.snapshot [alertDetailsToHashMap plain]),
    .onAlertItemClick plain.toAlert, .deliver]

def selectResult : List DetailEvent :=
  [.showResults [closure.toAlert], .onAlertItemClick closure.toAlert, .deliver]

theorem shows_selected_favorite :
    (Always step ShowsSelected new selectFavorite ∧
          EveryStep step StarActsOnSelected new selectFavorite ↔
        EveryStep step SelectsNothing new selectFavorite) ∧
      ∀ flow, run step new selectFavorite = some flow → ∀ detail ∈ flow.detail,
        detail.currentAlert = none ∧ step flow .onOptionsItemSelected = none :=
  shows_selected_iff selectFavorite (by decide)

/-- On both ways to the detail screen it opens without an alert, although the favourite's
details were published in the view model of the favourites fragment. -/
theorem selected_not_shown :
    EveryStep step Possible new (selectFavorite ++ [.onOptionsItemSelected]) ∧
      EveryStep step Possible new (selectResult ++ [.onOptionsItemSelected]) ∧
      ((run step new selectFavorite).bind fun flow =>
        (flow.viewModels.get (.favoritesFragment 0)).favoriteDetails.value) =
          some (some plain) ∧
      ((run step new selectFavorite).bind (·.detail)) =
        some ⟨"a1", none, 0, 0, .save, false⟩ ∧
      ((run step new selectResult).bind (·.detail)) =
        some ⟨"a1", none, 0, 0, .save, false⟩ ∧
      ¬ Always step ShowsSelected new selectFavorite ∧
      ¬ Always step ShowsSelected new selectResult ∧
      ¬ EveryStep step StarActsOnSelected new (selectFavorite ++ [.onOptionsItemSelected]) ∧
      ¬ EveryStep step StarActsOnSelected new (selectResult ++ [.onOptionsItemSelected]) := by
  refine ⟨by decide, by decide, by decide, by decide, by decide, ?_, ?_, ?_, ?_⟩
  · intro h
    obtain ⟨flow, hrun, hshows⟩ := h.final
    cases hrun
    obtain ⟨alert, halert, -⟩ := hshows _ rfl rfl
    cases halert
  · intro h
    obtain ⟨flow, hrun, hshows⟩ := h.final
    cases hrun
    obtain ⟨alert, halert, -⟩ := hshows _ rfl rfl
    cases halert
  · intro h
    obtain ⟨flow', hstep, -⟩ := h.final rfl (.inl rfl) _ rfl
    cases hstep
  · intro h
    obtain ⟨flow', hstep, -⟩ := h.final rfl (.inl rfl) _ rfl
    cases hstep

end DetailFlow

end AdvMad.Lab8
