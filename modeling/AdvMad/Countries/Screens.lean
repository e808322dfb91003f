import AdvMad.Countries.DetailViewController
import AdvMad.Countries.LiveControllers

/-!
# countries: the screens of the app

The list of continents, the detail and the info screen that it pushes, the
form over the detail screen, and below them the shared controller with its
file.  The detail screen keeps its own copy of the countries.
-/

namespace AdvMad.Countries

open AdvMad.Foundation
open AdvMad.Shared

variable {β : Type}

structure DetailView where
  title : String
  countryList : List String
  deriving DecidableEq, Repr

structure ContinentInfo where
  continent : String
  number : String
  title : String
  deriving DecidableEq, Repr

/-- The screens above the list, `addedCountry` standing for the form. -/
structure Screens (β : Type) where
  device : Device β
  detail : Option DetailView
  addedCountry : Option String
  info : Option ContinentInfo

inductive ScreenEvent where
  | launch
  | countrySegue (row : Nat)
  | continentSegue (row : Nat)
  | viewWillAppear
  | commit (editingStyle : EditingStyle) (row : Nat)
  | moveRow (fromRow toRow : Nat)
  | addSegue
  | unwindSegue (identifier : Option String) (countryTextField : String)
  | back
  | willResignActive (succeeds : Nat → Bool)
  | terminate

def prepareForm (addedCountry : String) (identifier : Option String)
    (countryTextField : String) : String :=
  if identifier = some "save" then
    if countryTextField.isEmpty = false then countryTextField else addedCountry
  else addedCountry

namespace Screens

def installed (files : FileSystem β) : Screens β := ⟨.installed files, none, none, none⟩

def detailVC (s : Screens β) : Option DetailViewController := do
  let detail ← s.detail
  let app ← s.device.app
  let screen ← app.details.head?
  let allData ← app.dataOf screen.continentsData
  some ⟨allData, screen.selectedContinent, detail.countryList⟩

def onDetail (s : Screens β)
    (handler : DetailViewController → Option DetailViewController) : Option (Screens β) := do
  let detail ← s.detail
  let vc ← s.detailVC
  let vc ← handler vc
  let device ← s.device.onApp fun app => some (app.setData app.editor vc.allData)
  some { s with device := device, detail := some { detail with countryList := vc.list } }

/-- `prepare` hands over the title, and the screen reads its countries when it appears. -/
def countrySegue (s : Screens β) (row : Nat) : Option (Screens β) := do
  let app ← s.device.app
  let title ← app.continentsList[row]?
  let device ← s.device.onApp fun app => app.openDetail row
  onDetail { s with device := device, detail := some ⟨title, []⟩ }
    DetailViewController.viewWillAppear

def continentSegue (s : Screens β) (row : Nat) : Option (Screens β) := do
  let app ← s.device.app
  let continent ← app.continentsList[row]?
  let allData ← app.sharedData
  let countryList ← getCountries allData row
  some { s with info := some ⟨continent, toString countryList.length, continent⟩ }

def unwindSegue (s : Screens β) (identifier : Option String) (countryTextField : String) :
    Option (Screens β) := do
  let addedCountry ← s.addedCountry
  onDetail { s with addedCountry := none } fun vc =>
    vc.unwindSegue identifier (prepareForm addedCountry identifier countryTextField)

def back (s : Screens β) : Option (Screens β) :=
  match s.detail with
  | some _ => do
      let device ← s.device.onApp RunningApp.closeDetail
      some { s with device := device, detail := none }
  | none => some { s with info := none }

def step (codec : PlistCodec ContinentsDataModel β) (s : Screens β) :
    ScreenEvent → Option (Screens β)
  | .launch => (s.device.launch codec).map fun device => ⟨device, none, none, none⟩
  | .countrySegue row => s.countrySegue row
  | .continentSegue row => s.continentSegue row
  | .viewWillAppear => s.onDetail DetailViewController.viewWillAppear
  | .commit editingStyle row => s.onDetail fun vc => vc.commit editingStyle row
  | .moveRow fromRow toRow => s.onDetail fun vc => vc.moveRow fromRow toRow
  | .addSegue => some { s with addedCountry := some "" }
  | .unwindSegue identifier countryTextField => s.unwindSegue identifier countryTextField
  | .back => s.back
  | .willResignActive succeeds =>
      (s.device.willResignActive codec succeeds).map fun device => { s with device := device }
  | .terminate => s.device.terminate.map fun device => ⟨device, none, none, none⟩

def Possible (s : Screens β) : ScreenEvent → Prop
  | .launch => s.device.app = none
  | .countrySegue row | .continentSegue row =>
      s.detail = none ∧ s.info = none ∧
        ∃ app, s.device.app = some app ∧ row < app.continentsList.length
  | .viewWillAppear | .addSegue => s.detail ≠ none ∧ s.addedCountry = none
  | .commit _ row =>
      s.addedCountry = none ∧ ∃ detail, s.detail = some detail ∧ row < detail.countryList.length
  | .moveRow fromRow toRow =>
      s.addedCountry = none ∧ ∃ detail, s.detail = some detail ∧
        fromRow < detail.countryList.length ∧ toRow < detail.countryList.length
  | .unwindSegue _ _ => s.addedCountry ≠ none
  | .back => s.addedCountry = none ∧ (s.detail ≠ none ∨ s.info ≠ none)
  | .willResignActive _ | .terminate => s.device.app ≠ none

instance {α : Type} (o : Option α) (p : α → Prop) [DecidablePred p] :
    Decidable (∃ a, o = some a ∧ p a) :=
  match o with
  | none => isFalse (by simp)
  | some a => decidable_of_iff (p a) (by simp)

instance (s : Screens β) (event : ScreenEvent) : Decidable (Possible s event) := by
  cases event <;> unfold Possible <;> infer_instance

/-! ## What the screens show -/

structure Shows (bundled : List ContinentsDataModel) (s : Screens β) (app : RunningApp)
    (allData : List ContinentsDataModel) : Prop where
  live : app.live = [⟨app.continentsDataController, allData⟩]
  titles : getContinents allData = getContinents bundled
  continentsList : app.continentsList = getContinents bundled
  listOnly : s.detail = none → app.details = []
  detail : ∀ detail, s.detail = some detail → ∃ selected,
    app.details = [⟨app.continentsDataController, selected⟩] ∧
      (getContinents bundled)[selected]? = some detail.title ∧
      SameLength countryList ⟨allData, selected, detail.countryList⟩
  form : s.addedCountry ≠ none → s.detail ≠ none
  info : ∀ info, s.info = some info → s.detail = none ∧ ∃ item ∈ allData,
    info.continent = item.continent ∧ info.title = item.continent ∧
      info.number = toString item.countries.length

structure Fits (codec : PlistCodec ContinentsDataModel β) (bundled : List ContinentsDataModel)
    (s : Screens β) : Prop where
  saved : Device.Saved codec bundled s.device
  lastTitles : ∀ last, s.device.stored codec = some last →
    getContinents last = getContinents bundled
  ended : s.device.app = none → s.detail = none ∧ s.addedCountry = none ∧ s.info = none
  running : ∀ app, s.device.app = some app → ∃ allData, Shows bundled s app allData

theorem setData_live {app : RunningApp} {allData : List ContinentsDataModel}
    (hlive : app.live = [⟨app.continentsDataController, allData⟩])
    (edited : List ContinentsDataModel) :
    (app.setData app.continentsDataController edited).live =
      [⟨app.continentsDataController, edited⟩] := by
  simp [RunningApp.setData, hlive]

theorem setData_saved {codec : PlistCodec ContinentsDataModel β}
    {bundled : List ContinentsDataModel} {device : Device β} {app : RunningApp}
    (h : Device.Saved codec bundled device) (happ : device.app = some app)
    (edited : List ContinentsDataModel) :
    Device.Saved codec bundled
      { device with app := some (app.setData app.continentsDataController edited) } := by
  refine ⟨h.user, h.bundle, fun next hnext => ?_⟩
  cases hnext
  exact ((h.live app happ).setData edited).1

structure Open (bundled : List ContinentsDataModel) (s : Screens β) (app : RunningApp)
    (detail : DetailView) (allData : List ContinentsDataModel) (selected : Nat) : Prop where
  running : s.device.app = some app
  shown : s.detail = some detail
  shows : Shows bundled s app allData
  details : app.details = [⟨app.continentsDataController, selected⟩]
  title : (getContinents bundled)[selected]? = some detail.title
  sameLength : SameLength countryList ⟨allData, selected, detail.countryList⟩

theorem Fits.open_of_detail {codec : PlistCodec ContinentsDataModel β}
    {bundled : List ContinentsDataModel} {s : Screens β} (h : Fits codec bundled s)
    {detail : DetailView} (hdetail : s.detail = some detail) :
    ∃ app allData selected, Open bundled s app detail allData selected := by
  cases happ : s.device.app with
  | none =>
      rw [(h.ended happ).1] at hdetail
      cases hdetail
  | some app =>
      obtain ⟨allData, hshows⟩ := h.running app happ
      obtain ⟨selected, hdetails, htitle, hlength⟩ := hshows.detail detail hdetail
      exact ⟨app, allData, selected, happ, hdetail, hshows, hdetails, htitle, hlength⟩

section
variable {bundled : List ContinentsDataModel} {s : Screens β} {app : RunningApp}
  {detail : DetailView} {allData : List ContinentsDataModel} {selected : Nat}

def edited (s : Screens β) (app : RunningApp) (detail : DetailView)
    (vc : DetailViewController) : Screens β :=
  { s with
    device := { s.device with
      app := some (app.setData app.continentsDataController vc.allData) }
    detail := some { detail with countryList := vc.list } }

theorem detailVC_eq (happ : s.device.app = some app) (hdetail : s.detail = some detail)
    (hlive : app.live = [⟨app.continentsDataController, allData⟩])
    (hdetails : app.details = [⟨app.continentsDataController, selected⟩]) :
    s.detailVC = some ⟨allData, selected, detail.countryList⟩ := by
  have hdata : app.dataOf app.continentsDataController = some allData :=
    OnlyShared.sharedData_eq hlive
  simp [detailVC, hdetail, happ, hdetails, hdata]

theorem onDetail_eq (happ : s.device.app = some app) (hdetail : s.detail = some detail)
    (hlive : app.live = [⟨app.continentsDataController, allData⟩])
    (hdetails : app.details = [⟨app.continentsDataController, selected⟩])
    (handler : DetailViewController → Option DetailViewController) :
    s.onDetail handler =
      (handler ⟨allData, selected, detail.countryList⟩).map (edited s app detail) := by
  have heditor : app.editor = app.continentsDataController := by
    simp [RunningApp.editor, hdetails]
  have hvc := detailVC_eq happ hdetail hlive hdetails
  cases hhandler : handler ⟨allData, selected, detail.countryList⟩ with
  | none => simp [onDetail, hdetail, hvc, hhandler]
  | some vc => simp [onDetail, hdetail, hvc, hhandler, Device.onApp, happ, heditor, edited]

theorem Open.detailVC_eq (h : Open bundled s app detail allData selected) :
    s.detailVC = some ⟨allData, selected, detail.countryList⟩ :=
  Screens.detailVC_eq h.running h.shown h.shows.live h.details

theorem Open.edited (h : Open bundled s app detail allData selected)
    {vc : DetailViewController} (hlength : SameLength countryList vc)
    (hedits : EditsSelected countryList ⟨allData, selected, detail.countryList⟩ vc) :
    Open bundled (edited s app detail vc)
      (app.setData app.continentsDataController vc.allData)
      { detail with countryList := vc.list } vc.allData selected := by
  have hselected : vc.selected = selected := hedits.selected
  have hlength' : SameLength countryList ⟨vc.allData, selected, vc.list⟩ := by
    rw [← hselected]
    exact hlength
  have hshows : Shows bundled (Screens.edited s app detail vc)
      (app.setData app.continentsDataController vc.allData) vc.allData := {
    live := setData_live h.shows.live vc.allData
    titles := hedits.edits.titles.trans h.shows.titles
    continentsList := h.shows.continentsList
    listOnly := by intro hnone; cases hnone
    detail := by
      intro found hfound
      cases hfound
      exact ⟨selected, h.details, h.title, hlength'⟩
    form := fun _ => by simp [Screens.edited]
    info := by
      intro info hinfo
      -- no info screen is open together with the detail screen
      have hnone := (h.shows.info info hinfo).1
      rw [h.shown] at hnone
      cases hnone }
  exact ⟨rfl, rfl, hshows, h.details, h.title, hlength'⟩

end

def InOrder (s : Screens β) : Prop := ∀ vc, s.detailVC = some vc → vc.Mirrors

theorem inOrder_iff {s : Screens β} {vc : DetailViewController} (h : s.detailVC = some vc) :
    InOrder s ↔ vc.Mirrors := by
  simp [InOrder, h]

theorem inOrder_of_none {s : Screens β} (h : s.detail = none) : InOrder s := by
  simp [InOrder, detailVC, h]

theorem onDetail_fits {codec : PlistCodec ContinentsDataModel β}
    {bundled : List ContinentsDataModel} {s : Screens β} {app : RunningApp}
    {detail : DetailView} {allData : List ContinentsDataModel} {selected : Nat}
    (h : Fits codec bundled s) (hopen : Open bundled s app detail allData selected)
    {event : TableEvent} (hrows : RowsInTable ⟨allData, selected, detail.countryList⟩ event) :
    ∃ s', s.onDetail (fun vc => vc.step event) = some s' ∧ Fits codec bundled s' ∧
      (InOrder s →
        (InOrder s' ↔ MovesJumpEqual ⟨allData, selected, detail.countryList⟩ event)) := by
  obtain ⟨vc, hvc, hlength, hedits⟩ := tableStep_edits hopen.sameLength hrows
  have hedited := hopen.edited hlength hedits
  have hfits : Fits codec bundled (edited s app detail vc) := {
    saved := setData_saved h.saved hopen.running vc.allData
    lastTitles := h.lastTitles
    ended := by intro hnone; cases hnone
    running := by
      intro next hnext
      cases hnext
      exact ⟨vc.allData, hedited.shows⟩ }
  refine ⟨edited s app detail vc, ?_, hfits, fun horder => ?_⟩
  · rw [onDetail_eq hopen.running hopen.shown hopen.shows.live hopen.details,
      DetailViewController.step_eq, hvc]
    rfl
  · have hmirrors : Mirrors countryList ⟨allData, selected, detail.countryList⟩ :=
      (inOrder_iff hopen.detailVC_eq).mp horder
    obtain ⟨vc', hvc', hiff⟩ := tableStep_mirrors_iff hmirrors hrows
    obtain rfl : vc = vc' := Option.some.inj (hvc.symm.trans hvc')
    have hselected : vc.selected = selected := hedits.selected
    have hsame : (⟨vc.allData, selected, vc.list⟩ : DetailViewController) = vc := by
      rw [← hselected]
    rw [inOrder_iff hedited.detailVC_eq, ← hiff]
    change DetailViewController.Mirrors ⟨vc.allData, selected, vc.list⟩ ↔ _
    rw [hsame]
    rfl

/-! ## Steps of the app -/

def MovesOverEqual (s : Screens β) : ScreenEvent → Prop
  | .moveRow fromRow toRow =>
      ∀ detail, s.detail = some detail → JumpsEqual detail.countryList fromRow toRow
  | .launch | .countrySegue _ | .continentSegue _ | .viewWillAppear | .commit _ _ | .addSegue
  | .unwindSegue _ _ | .back | .willResignActive _ | .terminate => True

/-- A step that the screens offer succeeds, keeps what they show, and keeps the order of
the countries unless it moves one over others. -/
def Goes (codec : PlistCodec ContinentsDataModel β) (bundled : List ContinentsDataModel)
    (s : Screens β) (event : ScreenEvent) : Prop :=
  ∃ s', step codec s event = some s' ∧ Fits codec bundled s' ∧
    (InOrder s → (InOrder s' ↔ MovesOverEqual s event))

section
variable {codec : PlistCodec ContinentsDataModel β} {bundled : List ContinentsDataModel}
  {s : Screens β}

theorem goes_launch (h : Fits codec bundled s) (happ : s.device.app = none) :
    Goes codec bundled s .launch := by
  have hload := h.saved.loadData_eq
  let device : Device β := { s.device with
    app := some (RunningApp.started.viewDidLoad codec s.device.files) }
  have hlaunch : s.device.launch codec = some device := by simp [Device.launch, happ, device]
  obtain ⟨hsaved, -⟩ := Device.launch_saved h.saved hlaunch
  have htitles : getContinents ((s.device.stored codec).getD bundled) =
      getContinents bundled := by
    cases hlast : s.device.stored codec with
    | none => rfl
    | some last => exact h.lastTitles last hlast
  refine ⟨⟨device, none, none, none⟩, by simp [step, hlaunch],
    ⟨hsaved, h.lastTitles, ?_, ?_⟩, ?_⟩
  · simp
  · intro app hsome
    cases hsome
    refine ⟨(s.device.stored codec).getD bundled, ?_⟩
    simp only [RunningApp.viewDidLoad, hload]
    constructor
    · simp [RunningApp.started, RunningApp.newController, RunningApp.setData]
    · exact htitles
    · exact htitles
    · exact fun _ => rfl
    · simp
    · exact fun hform => absurd rfl hform
    · simp
  · exact fun _ => iff_of_true (inOrder_of_none rfl) trivial

def pushed (app : RunningApp) (row : Nat) : RunningApp :=
  { app with
    nextId := app.nextId + 1
    details := [⟨app.continentsDataController, row⟩] }

theorem openDetail_eq {app : RunningApp} (h : OnlyShared app)
    {allData : List ContinentsDataModel}
    (hlive : app.live = [⟨app.continentsDataController, allData⟩]) (hdetails : app.details = [])
    {row : Nat} (hrow : row < app.continentsList.length) :
    app.openDetail row = some (pushed app row) := by
  have hnext : app.nextId ≠ app.continentsDataController := by
    have hfresh := h.fresh
    omega
  simp [RunningApp.openDetail, RunningApp.instantiateDetail, RunningApp.prepare,
    RunningApp.newController, RunningApp.release, RunningApp.refersTo, hlive, hdetails, hrow,
    hnext, hnext.symm, pushed]

theorem countrySegue_eq (h : Fits codec bundled s) {app : RunningApp}
    (happ : s.device.app = some app) {allData : List ContinentsDataModel}
    (hshows : Shows bundled s app allData) (hdetail : s.detail = none) {row : Nat}
    (hrow : row < app.continentsList.length) {names : List String}
    (hnames : getCountries allData row = some names) :
    s.countrySegue row = some { s with
      device := { s.device with
        app := some ((pushed app row).setData app.continentsDataController allData) }
      detail := some ⟨app.continentsList[row], names⟩ } := by
  have hopenDetail := openDetail_eq (h.saved.live app happ) hshows.live
    (hshows.listOnly hdetail) hrow
  let s₁ : Screens β := { s with
    device := { s.device with app := some (pushed app row) }
    detail := some ⟨app.continentsList[row], []⟩ }
  have happear : s₁.onDetail DetailViewController.viewWillAppear =
      (DetailViewController.viewWillAppear ⟨allData, row, []⟩).map
        (edited s₁ (pushed app row) ⟨app.continentsList[row], []⟩) := by
    have hlive : (pushed app row).live =
        [⟨(pushed app row).continentsDataController, allData⟩] := hshows.live
    exact onDetail_eq rfl rfl hlive rfl _
  have hviewWillAppear : DetailViewController.viewWillAppear ⟨allData, row, []⟩ =
      some ⟨allData, row, names⟩ := by
    have hget : getNames countryList allData row = some names := hnames
    simp [DetailViewController.viewWillAppear, Shared.viewWillAppear, hget]
  rw [hviewWillAppear] at happear
  simpa [countrySegue, happ, hrow, Device.onApp, hopenDetail, edited, pushed, s₁] using happear

theorem goes_countrySegue (h : Fits codec bundled s) {row : Nat}
    (hpossible : Possible s (.countrySegue row)) : Goes codec bundled s (.countrySegue row) := by
  obtain ⟨hdetail, hinfo, app, happ, hrow⟩ := hpossible
  obtain ⟨allData, hshows⟩ := h.running app happ
  have hrow' : row < allData.length := by
    have hlength := congrArg List.length (hshows.continentsList.trans hshows.titles.symm)
    simp only [getContinents, List.length_map] at hlength
    omega
  have hnames : getCountries allData row = some allData[row].countries := by
    simp [getCountries, getNames, hrow', countryList]
  have hopenDetail := openDetail_eq (h.saved.live app happ) hshows.live
    (hshows.listOnly hdetail) hrow
  have honApp : s.device.onApp (fun app => app.openDetail row) =
      some { s.device with app := some (pushed app row) } := by
    simp [Device.onApp, happ, hopenDetail]
  have hpushed := Device.onApp_saved h.saved (fun app app' happ => happ.openDetail) honApp
  have htitle : (getContinents bundled)[row]? = some app.continentsList[row] := by
    rw [← hshows.continentsList, List.getElem?_eq_getElem hrow]
  have hlength : SameLength countryList ⟨allData, row, allData[row].countries⟩ :=
    ⟨_, hnames, rfl⟩
  refine ⟨_, countrySegue_eq h happ hshows hdetail hrow hnames,
    ⟨setData_saved hpushed rfl allData, h.lastTitles, by simp, ?_⟩, fun _ => ?_⟩
  · intro next hnext
    cases hnext
    refine ⟨allData, ?_⟩
    constructor
    · exact setData_live hshows.live allData
    · exact hshows.titles
    · exact hshows.continentsList
    · simp
    · intro found hfound
      cases hfound
      exact ⟨row, rfl, htitle, hlength⟩
    · simp
    · intro info hsome
      rw [hinfo] at hsome
      cases hsome
  · have hvc := detailVC_eq (s := { s with
        device := { s.device with
          app := some ((pushed app row).setData app.continentsDataController allData) }
        detail := some ⟨app.continentsList[row], allData[row].countries⟩ })
      rfl rfl (setData_live hshows.live allData) rfl
    exact iff_of_true ((inOrder_iff hvc).mpr hnames) trivial

theorem goes_continentSegue (h : Fits codec bundled s) {row : Nat}
    (hpossible : Possible s (.continentSegue row)) :
    Goes codec bundled s (.continentSegue row) := by
  obtain ⟨hdetail, -, app, happ, hrow⟩ := hpossible
  obtain ⟨allData, hshows⟩ := h.running app happ
  have hcontinents : app.continentsList = getContinents allData :=
    hshows.continentsList.trans hshows.titles.symm
  have hrow' : row < allData.length := by
    simpa [hcontinents, getContinents] using hrow
  have hdata : app.sharedData = some allData := OnlyShared.sharedData_eq hshows.live
  have hcontinent : app.continentsList[row]? = some allData[row].continent := by
    simp [hcontinents, getContinents, hrow']
  let info : ContinentInfo :=
    ⟨allData[row].continent, toString allData[row].countries.length, allData[row].continent⟩
  have hstep : s.continentSegue row = some { s with info := some info } := by
    simp [continentSegue, happ, hcontinent, hdata, getCountries, getNames, hrow', countryList,
      info]
  refine ⟨_, hstep, ⟨h.saved, h.lastTitles, fun hnone => ?_, ?_⟩, fun _ => ?_⟩
  · cases happ.symm.trans hnone
  · intro next hnext
    cases happ.symm.trans hnext
    refine ⟨allData, { hshows with info := ?_ }⟩
    intro found hfound
    cases hfound
    exact ⟨hdetail, allData[row], List.getElem_mem hrow', rfl, rfl, rfl⟩
  · exact iff_of_true (inOrder_of_none hdetail) trivial

theorem goes_onDetail (h : Fits codec bundled s) {detail : DetailView}
    (hdetail : s.detail = some detail) {event : ScreenEvent} (tableEvent : TableEvent)
    (hevent : step codec s event = s.onDetail fun vc => vc.step tableEvent)
    (hrows : ∀ vc : DetailViewController, vc.list = detail.countryList →
      RowsInTable vc tableEvent)
    (hmoves : ∀ vc : DetailViewController, vc.list = detail.countryList →
      (MovesJumpEqual vc tableEvent ↔ MovesOverEqual s event)) :
    Goes codec bundled s event := by
  obtain ⟨app, allData, selected, hopen⟩ := h.open_of_detail hdetail
  obtain ⟨s', hs', hfits, hiff⟩ := onDetail_fits h hopen (hrows _ rfl)
  refine ⟨s', hevent.trans hs', hfits, fun horder => ?_⟩
  rw [hiff horder, hmoves _ rfl]

theorem closeDetail_eq {app : RunningApp} {allData : List ContinentsDataModel}
    (hlive : app.live = [⟨app.continentsDataController, allData⟩]) {selected : Nat}
    (hdetails : app.details = [⟨app.continentsDataController, selected⟩]) :
    app.closeDetail = some { app with details := [] } := by
  simp [RunningApp.closeDetail, RunningApp.release, RunningApp.refersTo, hlive, hdetails]

theorem goes_back (h : Fits codec bundled s) (hpossible : Possible s .back) :
    Goes codec bundled s .back := by
  obtain ⟨hform, hscreen⟩ := hpossible
  cases hdetail : s.detail with
  | none =>
      have hstep : step codec s .back = some { s with info := none } := by
        simp [step, back, hdetail]
      refine ⟨_, hstep, ⟨h.saved, h.lastTitles, fun hnone => ?_, ?_⟩, fun _ => ?_⟩
      · obtain ⟨-, hadded, -⟩ := h.ended hnone
        exact ⟨hdetail, hadded, rfl⟩
      · intro app happ
        obtain ⟨allData, hshows⟩ := h.running app happ
        exact ⟨allData, { hshows with info := by simp }⟩
      · exact iff_of_true (inOrder_of_none hdetail) trivial
  | some detail =>
      obtain ⟨app, allData, selected, hopen⟩ := h.open_of_detail hdetail
      have hclose := closeDetail_eq hopen.shows.live hopen.details
      have honApp : s.device.onApp RunningApp.closeDetail =
          some { s.device with app := some { app with details := [] } } := by
        simp [Device.onApp, hopen.running, hclose]
      have hstep : step codec s .back = some { s with
          device := { s.device with app := some { app with details := [] } }
          detail := none } := by
        simp [step, back, hdetail, honApp]
      have hsaved := Device.onApp_saved h.saved (fun app app' happ => happ.closeDetail) honApp
      refine ⟨_, hstep, ⟨hsaved, h.lastTitles, by simp, ?_⟩, fun _ => ?_⟩
      · intro next hnext
        cases hnext
        refine ⟨allData, ⟨hopen.shows.live, hopen.shows.titles, hopen.shows.continentsList,
          fun _ => rfl, by simp, fun hsome => absurd hform hsome, ?_⟩⟩
        intro info hinfo
        obtain ⟨-, hitem⟩ := hopen.shows.info info hinfo
        exact ⟨rfl, hitem⟩
      · refine iff_of_true (inOrder_of_none ?_) trivial
        rfl

theorem willResignActive_eq (h : Fits codec bundled s) {app : RunningApp}
    (happ : s.device.app = some app) {allData : List ContinentsDataModel}
    (hshows : Shows bundled s app allData) (succeeds : Nat → Bool) :
    ∃ files, s.device.willResignActive codec succeeds = some { s.device with files := files } ∧
      Device.stored codec { s.device with files := files } =
        if succeeds app.continentsDataController then some allData else s.device.stored codec := by
  have hdata : app.sharedData = some allData := OnlyShared.sharedData_eq hshows.live
  obtain ⟨files, hfiles⟩ : ∃ files,
      RunningApp.writeAll codec succeeds s.device.files app.live = some files := by
    rw [writeAll_onlyShared hshows.live]
    cases succeeds app.continentsDataController with
    | true => exact ⟨_, rfl⟩
    | false => exact ⟨_, rfl⟩
  have hresign : s.device.willResignActive codec succeeds =
      some { s.device with files := files } := by
    simp [Device.willResignActive, happ, hfiles]
  refine ⟨files, hresign, ?_⟩
  rw [(Device.willResignActive_saved h.saved hresign).2]
  simp [Device.lastSave, happ, hdata]

theorem goes_willResignActive (h : Fits codec bundled s) (succeeds : Nat → Bool)
    (hpossible : Possible s (.willResignActive succeeds)) :
    Goes codec bundled s (.willResignActive succeeds) := by
  obtain ⟨app, happ⟩ := Option.ne_none_iff_exists'.mp hpossible
  obtain ⟨allData, hshows⟩ := h.running app happ
  obtain ⟨files, hresign, hstored⟩ := willResignActive_eq h happ hshows succeeds
  have hsaved := (Device.willResignActive_saved h.saved hresign).1
  have hstep : step codec s (.willResignActive succeeds) =
      some { s with device := { s.device with files := files } } := by
    simp [step, hresign]
  refine ⟨_, hstep, ⟨hsaved, fun last hlast => ?_, h.ended, fun next hnext => ?_⟩,
    fun horder => ?_⟩
  · rw [hstored] at hlast
    split at hlast
    · cases hlast
      exact hshows.titles
    · exact h.lastTitles last hlast
  · obtain ⟨data, hnextShows⟩ := h.running next hnext
    exact ⟨data, { hnextShows with }⟩
  · exact iff_of_true horder trivial

theorem goes_terminate (h : Fits codec bundled s) (hpossible : Possible s .terminate) :
    Goes codec bundled s .terminate := by
  obtain ⟨app, happ⟩ := Option.ne_none_iff_exists'.mp hpossible
  have hterminate : s.device.terminate = some { s.device with app := none } := by
    simp [Device.terminate, happ]
  have hsaved := Device.terminate_saved h.saved hterminate
  have hstep : step codec s .terminate =
      some ⟨{ s.device with app := none }, none, none, none⟩ := by
    simp [step, hterminate]
  refine ⟨_, hstep, ⟨hsaved, h.lastTitles, fun _ => ⟨rfl, rfl, rfl⟩, ?_⟩, fun _ => ?_⟩
  · simp
  · refine iff_of_true (inOrder_of_none ?_) trivial
    rfl

theorem goes_form (h : Fits codec bundled s) (hdetail : s.detail ≠ none)
    (addedCountry : Option String) :
    Fits codec bundled { s with addedCountry := addedCountry } where
  saved := h.saved
  lastTitles := h.lastTitles
  ended hnone := absurd (h.ended hnone).1 hdetail
  running app happ := by
    obtain ⟨allData, hshows⟩ := h.running app happ
    exact ⟨allData, { hshows with form := fun _ => hdetail }⟩

theorem goes_unwindSegue (h : Fits codec bundled s) {identifier : Option String}
    {countryTextField : String}
    (hpossible : Possible s (.unwindSegue identifier countryTextField)) :
    Goes codec bundled s (.unwindSegue identifier countryTextField) := by
  obtain ⟨addedCountry, hadded⟩ := Option.ne_none_iff_exists'.mp hpossible
  have hdetail : s.detail ≠ none := by
    cases happ : s.device.app with
    | none => exact absurd (h.ended happ).2.1 hpossible
    | some app =>
        obtain ⟨allData, hshows⟩ := h.running app happ
        exact hshows.form hpossible
  let closed : Screens β := { s with addedCountry := none }
  have hclosed : Fits codec bundled closed := goes_form h hdetail none
  obtain ⟨detail, hshown⟩ := Option.ne_none_iff_exists'.mp hdetail
  obtain ⟨app, allData, selected, hopen⟩ := hclosed.open_of_detail hshown
  let event : TableEvent :=
    .unwindSegue identifier (prepareForm addedCountry identifier countryTextField)
  have hrows : RowsInTable (⟨allData, selected, detail.countryList⟩ : DetailViewController)
      event := trivial
  obtain ⟨s', hs', hfits, hiff⟩ := onDetail_fits hclosed hopen hrows
  have hstep : step codec s (.unwindSegue identifier countryTextField) =
      closed.onDetail fun vc => vc.step event := by
    simp only [step, unwindSegue, hadded]
    rfl
  exact ⟨s', hstep.trans hs', hfits, hiff⟩

theorem step_goes (h : Fits codec bundled s) {event : ScreenEvent}
    (hpossible : Possible s event) : Goes codec bundled s event := by
  cases event with
  | launch => exact goes_launch h hpossible
  | countrySegue row => exact goes_countrySegue h hpossible
  | continentSegue row => exact goes_continentSegue h hpossible
  | back => exact goes_back h hpossible
  | willResignActive succeeds => exact goes_willResignActive h succeeds hpossible
  | terminate => exact goes_terminate h hpossible
  | unwindSegue identifier countryTextField => exact goes_unwindSegue h hpossible
  | addSegue =>
      refine ⟨{ s with addedCountry := some "" }, rfl, goes_form h hpossible.1 _, fun horder => ?_⟩
      exact iff_of_true horder trivial
  | viewWillAppear =>
      obtain ⟨detail, hdetail⟩ := Option.ne_none_iff_exists'.mp hpossible.1
      exact goes_onDetail h hdetail .viewWillAppear rfl (fun _ _ => trivial) fun _ _ => Iff.rfl
  | commit editingStyle row =>
      obtain ⟨-, detail, hdetail, hrow⟩ := hpossible
      refine goes_onDetail h hdetail (.commit editingStyle row) rfl (fun vc hvc => ?_)
        fun _ _ => Iff.rfl
      rwa [RowsInTable, hvc]
  | moveRow fromRow toRow =>
      obtain ⟨-, detail, hdetail, hfrom, hto⟩ := hpossible
      refine goes_onDetail h hdetail (.moveRow fromRow toRow) rfl (fun vc hvc => ?_)
        fun vc hvc => ?_
      · rw [RowsInTable, hvc]
        exact ⟨hfrom, hto⟩
      · simp [MovesJumpEqual, MovesOverEqual, hvc, hdetail]

end

theorem installed_fits {codec : PlistCodec ContinentsDataModel β} {files : FileSystem β}
    {bundled : List ContinentsDataModel} (h : Installed codec files bundled) :
    Fits codec bundled (installed files) where
  saved := Device.installed_saved h
  lastTitles last hlast := by
    simp [installed, Device.installed, Device.stored, h.user] at hlast
  ended _ := ⟨rfl, rfl, rfl⟩
  running app happ := by cases happ

/--
Every run of steps that the screens offer goes through: no row, no continent
and no controller is missing.  The list names the bundled continents, the
detail screen has the title of its continent and a row for each stored country,
and the info screen gives the name of a continent and the number of its
countries.
-/
theorem screens_show_data (codec : PlistCodec ContinentsDataModel β) (files : FileSystem β)
    (bundled : List ContinentsDataModel) (events : List ScreenEvent)
    (hinstalled : Installed codec files bundled)
    (hpossible : EveryStep (step codec) Possible (installed files) events) :
    ∃ s, run (step codec) (installed files) events = some s ∧
      ∀ app, s.device.app = some app → ∃ allData, app.sharedData = some allData ∧
        app.continentsList = getContinents allData ∧
        (∀ detail, s.detail = some detail → ∃ selected names,
          app.details = [⟨app.continentsDataController, selected⟩] ∧
          app.continentsList[selected]? = some detail.title ∧
          getCountries allData selected = some names ∧
          names.length = detail.countryList.length) ∧
        ∀ info, s.info = some info → ∃ item ∈ allData, info.continent = item.continent ∧
          info.title = item.continent ∧ info.number = toString item.countries.length := by
  have halways : Always (step codec) (Fits codec bundled) (installed files) events := by
    apply always_of_step _ (installed_fits hinstalled) hpossible
    intro s event h hevent
    obtain ⟨s', hs', hfits, -⟩ := step_goes h hevent
    exact ⟨s', hs', hfits⟩
  obtain ⟨s, hrun, hfits⟩ := halways.final
  refine ⟨s, hrun, fun app happ => ?_⟩
  obtain ⟨allData, hshows⟩ := hfits.running app happ
  refine ⟨allData, OnlyShared.sharedData_eq hshows.live,
    hshows.continentsList.trans hshows.titles.symm, ?_, fun info hinfo => ?_⟩
  · intro detail hdetail
    obtain ⟨selected, hdetails, htitle, names, hnames, hlength⟩ := hshows.detail detail hdetail
    exact ⟨selected, names, hdetails, hshows.continentsList ▸ htitle, hnames, hlength⟩
  · exact (hshows.info info hinfo).2

theorem screens_show_data_africa :
    let codec := terminatedCodec ContinentsDataModel
    let events : List ScreenEvent :=
      [.launch, .continentSegue 1, .back, .countrySegue 1, .viewWillAppear, .moveRow 0 1,
        .addSegue, .unwindSegue (some "save") "Egypt", .commit .delete 0,
        .willResignActive fun _ => true, .terminate, .launch, .countrySegue 0]
    ∃ s, run (step codec) (installed Device.newDevice) events = some s ∧
      ∀ app, s.device.app = some app → ∃ allData, app.sharedData = some allData ∧
        app.continentsList = getContinents allData ∧
        (∀ detail, s.detail = some detail → ∃ selected names,
          app.details = [⟨app.continentsDataController, selected⟩] ∧
          app.continentsList[selected]? = some detail.title ∧
          getCountries allData selected = some names ∧
          names.length = detail.countryList.length) ∧
        ∀ info, s.info = some info → ∃ item ∈ allData, info.continent = item.continent ∧
          info.title = item.continent ∧ info.number = toString item.countries.length :=
  screens_show_data _ _ Device.bundledContinents _ ⟨by decide, by decide⟩ (by decide)

/-! ## Save, terminate, launch and open again -/

def relaunch (row : Nat) : List ScreenEvent :=
  [.willResignActive fun _ => true, .terminate, .launch, .countrySegue row]

/-- An open detail screen is shown again as it is now when the app is left, ended,
launched and the continent selected. -/
def SurvivesRelaunch (codec : PlistCodec ContinentsDataModel β) (s : Screens β) : Prop :=
  ∀ app screen detail, s.device.app = some app → app.details.head? = some screen →
    s.detail = some detail →
    (run (step codec) s (relaunch screen.selectedContinent)).bind (·.detail) = some detail

section
variable {codec : PlistCodec ContinentsDataModel β} {bundled : List ContinentsDataModel}
  {s : Screens β}

theorem launch_loads (h : Fits codec bundled s) (happ : s.device.app = none)
    {last : List ContinentsDataModel} (hlast : s.device.stored codec = some last) :
    ∃ s' app, step codec s .launch = some s' ∧ Fits codec bundled s' ∧ s'.detail = none ∧
      s'.device.app = some app ∧ Shows bundled s' app last := by
  obtain ⟨s', hs', hfits, -⟩ := goes_launch h happ
  obtain ⟨device, hlaunch, rfl⟩ := Option.map_eq_some_iff.mp hs'
  have hloaded := (Device.launch_saved h.saved hlaunch).2
  obtain ⟨app, happ', hdata⟩ := Option.bind_eq_some_iff.mp hloaded
  obtain ⟨allData, hshows⟩ := hfits.running app happ'
  have hsame : allData = last := by
    have hdata' := OnlyShared.sharedData_eq hshows.live
    rw [hdata, hlast, Option.getD_some] at hdata'
    exact (Option.some.inj hdata').symm
  exact ⟨_, app, hs', hfits, rfl, happ', hsame ▸ hshows⟩

theorem leave_saves (h : Fits codec bundled s) {app : RunningApp}
    (happ : s.device.app = some app) {allData : List ContinentsDataModel}
    (hshows : Shows bundled s app allData) :
    ∃ s₁ s₂, step codec s (.willResignActive fun _ => true) = some s₁ ∧
      step codec s₁ .terminate = some s₂ ∧ Fits codec bundled s₂ ∧
      s₂.device.app = none ∧ s₂.device.stored codec = some allData := by
  obtain ⟨files, hresign, hstored⟩ := willResignActive_eq h happ hshows fun _ => true
  have hleft : Possible s (.willResignActive fun _ => true) := by simp [Possible, happ]
  obtain ⟨s₁, hs₁, hfits₁, -⟩ := goes_willResignActive h _ hleft
  have hs₁' : s₁ = { s with device := { s.device with files := files } } := by
    rw [step, hresign] at hs₁
    exact (Option.some.inj hs₁).symm
  have happ₁ : s₁.device.app = some app := by
    rw [hs₁']
    exact happ
  obtain ⟨s₂, hs₂, hfits₂, -⟩ := goes_terminate hfits₁ (by simp [Possible, happ₁])
  have hs₂' : s₂ = ⟨{ s₁.device with app := none }, none, none, none⟩ := by
    rw [step, Device.terminate, happ₁] at hs₂
    exact (Option.some.inj hs₂).symm
  refine ⟨s₁, s₂, hs₁, hs₂, hfits₂, by rw [hs₂'], ?_⟩
  rw [hs₂', hs₁']
  exact hstored

theorem run_relaunch (h : Fits codec bundled s) {app : RunningApp} {detail : DetailView}
    {allData : List ContinentsDataModel} {selected : Nat}
    (hopen : Open bundled s app detail allData selected) :
    ∃ names, getCountries allData selected = some names ∧
      (run (step codec) s (relaunch selected)).bind (·.detail) = some ⟨detail.title, names⟩ := by
  obtain ⟨s₁, s₂, hs₁, hs₂, hfits₂, happ₂, hlast₂⟩ := leave_saves h hopen.running hopen.shows
  obtain ⟨s₃, app₃, hs₃, hfits₃, hdetail₃, happ₃, hshows₃⟩ := launch_loads hfits₂ happ₂ hlast₂
  obtain ⟨names, hnames, -⟩ := hopen.sameLength
  have htitle : app₃.continentsList[selected]? = some detail.title := by
    rw [hshows₃.continentsList]
    exact hopen.title
  obtain ⟨hrow, hget⟩ := List.getElem?_eq_some_iff.mp htitle
  have hs₄ : step codec s₃ (.countrySegue selected) = _ :=
    countrySegue_eq hfits₃ happ₃ hshows₃ hdetail₃ hrow hnames
  refine ⟨names, hnames, ?_⟩
  simp only [relaunch, run_cons, run_nil, hs₁, hs₂, hs₃, hs₄, Option.bind_some, hget]

theorem survivesRelaunch_iff (h : Fits codec bundled s) :
    SurvivesRelaunch codec s ↔ InOrder s := by
  cases hdetail : s.detail with
  | none => simp [SurvivesRelaunch, hdetail, inOrder_of_none hdetail]
  | some detail =>
      obtain ⟨app, allData, selected, hopen⟩ := h.open_of_detail hdetail
      obtain ⟨names, hnames, hrun⟩ := run_relaunch h hopen
      have hmirrors : InOrder s ↔ names = detail.countryList := by
        rw [inOrder_iff hopen.detailVC_eq, DetailViewController.Mirrors, hnames,
          Option.some.injEq]
      have hagain : (run (step codec) s (relaunch selected)).bind (·.detail) = some detail ↔
          names = detail.countryList := by
        rw [hrun, Option.some.injEq, DetailView.mk.injEq]
        exact and_iff_right rfl
      rw [hmirrors, ← hagain]
      constructor
      · intro hsurvives
        exact hsurvives app ⟨_, selected⟩ detail hopen.running (by rw [hopen.details]; rfl) hdetail
      · intro hshown app' screen detail' happ hscreen hdetail'
        cases hopen.running.symm.trans happ
        cases hdetail.symm.trans hdetail'
        rw [hopen.details] at hscreen
        cases hscreen
        exact hshown

end

/--
At every point of every run from a new installation: leaving the app, ending
it, launching it and selecting the continent again shows the detail screen as
it was, exactly if every move so far was over rows of the same country.
-/
theorem details_survive_relaunch_iff (codec : PlistCodec ContinentsDataModel β)
    (files : FileSystem β) (bundled : List ContinentsDataModel) (events : List ScreenEvent)
    (hinstalled : Installed codec files bundled)
    (hpossible : EveryStep (step codec) Possible (installed files) events) :
    Always (step codec) (SurvivesRelaunch codec) (installed files) events ↔
      EveryStep (step codec) MovesOverEqual (installed files) events := by
  apply always_iff_everyStep (Fits codec bundled)
  · intro s event h hsurvives hevent
    obtain ⟨s', hs', hfits, hiff⟩ := step_goes h hevent
    have horder := (survivesRelaunch_iff h).mp hsurvives
    exact ⟨s', hs', hfits, (survivesRelaunch_iff hfits).trans (hiff horder)⟩
  · exact installed_fits hinstalled
  · exact (survivesRelaunch_iff (installed_fits hinstalled)).mpr (inOrder_of_none rfl)
  · exact hpossible

theorem details_survive_relaunch_africa :
    let codec := terminatedCodec ContinentsDataModel
    let events : List ScreenEvent :=
      [.launch, .countrySegue 1, .moveRow 0 1, .addSegue,
        .unwindSegue (some "save") "Egypt", .moveRow 0 2]
    Always (step codec) (SurvivesRelaunch codec) (installed Device.newDevice) events ↔
      EveryStep (step codec) MovesOverEqual (installed Device.newDevice) events :=
  details_survive_relaunch_iff _ _ Device.bundledContinents _ ⟨by decide, by decide⟩
    (by decide)

end Screens

end AdvMad.Countries
