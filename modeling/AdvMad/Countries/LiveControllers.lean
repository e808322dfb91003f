import AdvMad.Countries.Continents
import AdvMad.Foundation.History

/-!
# countries: which controllers write the file

Every `ContinentsDataController` registers for `willResignActive` when it is
made and writes the one user file.  The list screen makes one and shares it; a
detail screen makes another as the default of its property, which `prepare`
replaces by the shared one.  A controller lives as long as a screen refers to
it.  The list of the last successful write of the shared controller is a
record beside the run.
-/

namespace AdvMad.Countries

open AdvMad.Foundation
open AdvMad.Shared

variable {β : Type}

structure LiveController where
  id : Nat
  allData : List ContinentsDataModel
  deriving DecidableEq, Repr

structure DetailScreen where
  continentsData : Nat
  selectedContinent : Nat
  deriving DecidableEq, Repr

/-- The controllers alive, in the order in which they registered, and the screens that
refer to them, the detail screen on top first. -/
structure RunningApp where
  live : List LiveController
  nextId : Nat
  continentsDataController : Nat
  continentsList : List String
  details : List DetailScreen
  deriving DecidableEq, Repr

structure Device (β : Type) where
  files : FileSystem β
  app : Option RunningApp

inductive DeviceEvent where
  | launch
  | openDetail (row : Nat)
  | closeDetail
  | addCountry (dataIdx : Nat) (newCountry : String) (countryIdx : Nat)
  | deleteCountry (dataIdx countryIdx : Nat)
  | willResignActive (succeeds : Nat → Bool)
  | terminate

namespace RunningApp

def newController (app : RunningApp) : RunningApp :=
  { app with
    live := app.live ++ [⟨app.nextId, []⟩]
    nextId := app.nextId + 1 }

def refersTo (app : RunningApp) (id : Nat) : Bool :=
  id == app.continentsDataController || app.details.any fun screen => screen.continentsData == id

/-- Controllers that no screen refers to are freed and no longer observe. -/
def release (app : RunningApp) : RunningApp :=
  { app with live := app.live.filter fun controller => app.refersTo controller.id }

def dataOf (app : RunningApp) (id : Nat) : Option (List ContinentsDataModel) :=
  (app.live.find? fun controller => controller.id == id).map LiveController.allData

def setData (app : RunningApp) (id : Nat) (allData : List ContinentsDataModel) : RunningApp :=
  { app with
    live := app.live.map fun controller =>
      if controller.id = id then { controller with allData := allData } else controller }

def sharedData (app : RunningApp) : Option (List ContinentsDataModel) :=
  app.dataOf app.continentsDataController

def started : RunningApp :=
  newController ⟨[], 0, 0, [], []⟩

def viewDidLoad (codec : PlistCodec ContinentsDataModel β) (files : FileSystem β)
    (app : RunningApp) : RunningApp :=
  match loadData codec files files with
  | .ok allData =>
      { app.setData app.continentsDataController allData with
        continentsList := getContinents allData }
  | .error _ => app

def instantiateDetail (app : RunningApp) : RunningApp :=
  { app.newController with details := ⟨app.nextId, 0⟩ :: app.details }

def prepare (app : RunningApp) (row : Nat) : Option RunningApp := do
  let _title ← app.continentsList[row]?
  match app.details with
  | [] => none
  | _ :: below =>
      let detailVC : DetailScreen := ⟨app.continentsDataController, row⟩
      some { app with details := detailVC :: below }.release

def openDetail (app : RunningApp) (row : Nat) : Option RunningApp :=
  app.instantiateDetail.prepare row

def closeDetail (app : RunningApp) : Option RunningApp :=
  match app.details with
  | [] => none
  | _ :: below => some { app with details := below }.release

def editor (app : RunningApp) : Nat :=
  match app.details with
  | [] => app.continentsDataController
  | screen :: _ => screen.continentsData

def edit (app : RunningApp)
    (change : List ContinentsDataModel → Option (List ContinentsDataModel)) :
    Option RunningApp := do
  let allData ← app.dataOf app.editor
  let edited ← change allData
  some (app.setData app.editor edited)

/-- The notification reaches the controllers in the order in which they registered. -/
def writeAll (codec : PlistCodec ContinentsDataModel β) (succeeds : Nat → Bool)
    (files : FileSystem β) : List LiveController → Option (FileSystem β)
  | [] => some files
  | controller :: rest => do
      let outcome : WriteOutcome := if succeeds controller.id then .complete else .throws
      let files ← writeData codec files controller.allData outcome
      writeAll codec succeeds files rest

end RunningApp

namespace Device

def launch (codec : PlistCodec ContinentsDataModel β) (s : Device β) : Option (Device β) :=
  match s.app with
  | some _ => none
  | none => some { s with app := some (RunningApp.started.viewDidLoad codec s.files) }

def onApp (s : Device β) (action : RunningApp → Option RunningApp) : Option (Device β) := do
  let app ← s.app
  let app ← action app
  some { s with app := some app }

def willResignActive (codec : PlistCodec ContinentsDataModel β) (s : Device β)
    (succeeds : Nat → Bool) : Option (Device β) := do
  let app ← s.app
  let files ← RunningApp.writeAll codec succeeds s.files app.live
  some { s with files := files }

def terminate (s : Device β) : Option (Device β) := do
  let _ ← s.app
  some { s with app := none }

def step (codec : PlistCodec ContinentsDataModel β) (s : Device β) :
    DeviceEvent → Option (Device β)
  | .launch => s.launch codec
  | .openDetail row => s.onApp fun app => app.openDetail row
  | .closeDetail => s.onApp RunningApp.closeDetail
  | .addCountry dataIdx newCountry countryIdx =>
      s.onApp fun app => app.edit fun allData =>
        Countries.addCountry allData dataIdx newCountry countryIdx
  | .deleteCountry dataIdx countryIdx =>
      s.onApp fun app => app.edit fun allData =>
        Countries.deleteCountry allData dataIdx countryIdx
  | .willResignActive succeeds => s.willResignActive codec succeeds
  | .terminate => s.terminate

end Device

/-! ## The shared controller is the only one alive -/

structure OnlyShared (app : RunningApp) : Prop where
  live : ∃ allData, app.live = [⟨app.continentsDataController, allData⟩]
  details : ∀ screen ∈ app.details, screen.continentsData = app.continentsDataController
  fresh : app.continentsDataController < app.nextId

namespace OnlyShared

variable {app app' : RunningApp}

theorem dataOf_eq (h : OnlyShared app) {id : Nat}
    {allData : List ContinentsDataModel} (hdata : app.dataOf id = some allData) :
    id = app.continentsDataController ∧
      app.live = [⟨app.continentsDataController, allData⟩] := by
  obtain ⟨held, hlive⟩ := h.live
  by_cases hid : app.continentsDataController = id
  · subst hid
    simp only [RunningApp.dataOf, hlive] at hdata
    simp at hdata
    exact ⟨rfl, by rw [hlive, hdata]⟩
  · simp [RunningApp.dataOf, hlive, hid] at hdata

theorem sharedData_eq {allData : List ContinentsDataModel}
    (hlive : app.live = [⟨app.continentsDataController, allData⟩]) :
    app.sharedData = some allData := by
  simp [RunningApp.sharedData, RunningApp.dataOf, hlive]

theorem setData (h : OnlyShared app) (allData : List ContinentsDataModel) :
    OnlyShared (app.setData app.continentsDataController allData) ∧
      (app.setData app.continentsDataController allData).sharedData = some allData := by
  obtain ⟨held, hlive⟩ := h.live
  have hlive' : (app.setData app.continentsDataController allData).live =
      [⟨app.continentsDataController, allData⟩] := by
    simp [RunningApp.setData, hlive]
  exact ⟨⟨⟨allData, hlive'⟩, h.details, h.fresh⟩, sharedData_eq hlive'⟩

/-- The controller made for the detail screen is gone as soon as `prepare` has run. -/
theorem openDetail (h : OnlyShared app) {row : Nat} (hopen : app.openDetail row = some app') :
    OnlyShared app' := by
  obtain ⟨allData, hlive⟩ := h.live
  obtain ⟨title, -, hrest⟩ := Option.bind_eq_some_iff.mp hopen
  cases hrest
  have hfresh := h.fresh
  have hnext : app.nextId ≠ app.continentsDataController := by omega
  have hdetails : ∀ screen ∈ app.details, ¬ screen.continentsData = app.nextId := by
    intro screen hscreen
    have hshared := h.details screen hscreen
    omega
  constructor
  · exact ⟨allData, by
      simpa [RunningApp.release, RunningApp.refersTo, RunningApp.instantiateDetail,
        RunningApp.newController, hlive, hnext, hnext.symm] using hdetails⟩
  · intro screen hscreen
    rcases List.mem_cons.mp hscreen with rfl | hbelow
    · rfl
    · exact h.details screen hbelow
  · exact Nat.lt_succ_of_lt h.fresh

theorem closeDetail (h : OnlyShared app) (hclose : app.closeDetail = some app') :
    OnlyShared app' := by
  obtain ⟨allData, hlive⟩ := h.live
  unfold RunningApp.closeDetail at hclose
  split at hclose
  · cases hclose
  · case h_2 screen below hdetails =>
      cases hclose
      constructor
      · exact ⟨allData, by simp [RunningApp.release, RunningApp.refersTo, hlive]⟩
      · intro other hother
        have hbelow : other ∈ below := hother
        exact h.details other (by simp [hdetails, hbelow])
      · exact h.fresh

theorem edit (h : OnlyShared app)
    {change : List ContinentsDataModel → Option (List ContinentsDataModel)}
    (hedit : app.edit change = some app') : OnlyShared app' := by
  obtain ⟨allData, hdata, hchange⟩ := Option.bind_eq_some_iff.mp hedit
  obtain ⟨edited, -, happ'⟩ := Option.bind_eq_some_iff.mp hchange
  cases happ'
  rw [(h.dataOf_eq hdata).1]
  exact (h.setData edited).1

end OnlyShared

theorem started_onlyShared : OnlyShared RunningApp.started where
  live := ⟨[], rfl⟩
  details screen hscreen := by cases hscreen
  fresh := by decide

theorem viewDidLoad_onlyShared {codec : PlistCodec ContinentsDataModel β}
    {files : FileSystem β} {app : RunningApp} (h : OnlyShared app)
    {allData : List ContinentsDataModel} (hload : loadData codec files files = .ok allData) :
    OnlyShared (app.viewDidLoad codec files) ∧
      (app.viewDidLoad codec files).sharedData = some allData := by
  obtain ⟨hshared, hdata⟩ := h.setData allData
  unfold RunningApp.viewDidLoad
  rw [hload]
  exact ⟨⟨hshared.live, hshared.details, hshared.fresh⟩, hdata⟩

theorem writeAll_onlyShared {codec : PlistCodec ContinentsDataModel β} {app : RunningApp}
    {allData : List ContinentsDataModel}
    (hlive : app.live = [⟨app.continentsDataController, allData⟩]) (succeeds : Nat → Bool)
    (files : FileSystem β) :
    RunningApp.writeAll codec succeeds files app.live =
      if succeeds app.continentsDataController then
        some (Function.update files (getDataFile dataFileName) (some (codec.encode allData)))
      else some files := by
  rw [hlive]
  cases hsucceeds : succeeds app.continentsDataController <;>
    simp [RunningApp.writeAll, hsucceeds, writeData, writeList]

/-! ## What is loaded -/

def bundleURL : FileURL := .bundle (fileName ++ "." ++ "plist")

/-- A new installation: no user file, and the list `bundled` in the bundle. -/
structure Installed (codec : PlistCodec ContinentsDataModel β) (files : FileSystem β)
    (bundled : List ContinentsDataModel) : Prop where
  user : files (getDataFile dataFileName) = none
  bundle : (files bundleURL).bind codec.decode = some bundled

namespace Device

def installed (files : FileSystem β) : Device β := ⟨files, none⟩

def OnlySharedLive (s : Device β) : Prop := ∀ app, s.app = some app → OnlyShared app

def lastSave (last : Option (List ContinentsDataModel)) (s : Device β) :
    DeviceEvent → Option (List ContinentsDataModel)
  | .willResignActive succeeds => do
      let app ← s.app
      if succeeds app.continentsDataController then app.sharedData else last
  | .launch | .openDetail _ | .closeDetail | .addCountry _ _ _ | .deleteCountry _ _
  | .terminate => last

abbrev Recorded (β : Type) := Device β × Option (List ContinentsDataModel)

def recordedStep (codec : PlistCodec ContinentsDataModel β) :
    Recorded β → DeviceEvent → Option (Recorded β) :=
  recording (step codec) lastSave

def RestoresLastSave (codec : PlistCodec ContinentsDataModel β)
    (bundled : List ContinentsDataModel) (s : Recorded β) : DeviceEvent → Prop
  | .launch =>
      ((s.1.launch codec).bind (·.app)).bind RunningApp.sharedData =
        some (s.2.getD bundled)
  | _ => True

def stored (codec : PlistCodec ContinentsDataModel β) (s : Device β) :
    Option (List ContinentsDataModel) :=
  (s.files (getDataFile dataFileName)).bind codec.decode

structure Saved (codec : PlistCodec ContinentsDataModel β)
    (bundled : List ContinentsDataModel) (s : Device β) : Prop where
  user : s.files (getDataFile dataFileName) = (s.stored codec).map codec.encode
  bundle : (s.files bundleURL).bind codec.decode = some bundled
  live : s.OnlySharedLive

theorem installed_saved {codec : PlistCodec ContinentsDataModel β} {files : FileSystem β}
    {bundled : List ContinentsDataModel} (h : Installed codec files bundled) :
    Saved codec bundled (installed files) where
  user := by simp [stored, installed, h.user]
  bundle := h.bundle
  live app happ := by cases happ

theorem Saved.loadData_eq {codec : PlistCodec ContinentsDataModel β}
    {bundled : List ContinentsDataModel} {s : Device β} (h : Saved codec bundled s) :
    loadData codec s.files s.files = .ok ((s.stored codec).getD bundled) := by
  have huser := h.user
  cases hstored : s.stored codec with
  | some allData =>
      rw [hstored, Option.map_some] at huser
      simp [loadData, FileSystem.fileExists, huser]
  | none =>
      rw [hstored, Option.map_none] at huser
      obtain ⟨bytes, hbytes, hdecode⟩ := Option.bind_eq_some_iff.mp h.bundle
      have hbundle : s.files (.bundle (fileName ++ "." ++ "plist")) = some bytes := hbytes
      simp [loadData, FileSystem.fileExists, FileSystem.urlForResource, huser, hbundle, hdecode]

theorem launch_saved {codec : PlistCodec ContinentsDataModel β}
    {bundled : List ContinentsDataModel} {s s' : Device β} (h : Saved codec bundled s)
    (hlaunch : s.launch codec = some s') :
    Saved codec bundled s' ∧
      s'.app.bind RunningApp.sharedData = some ((s.stored codec).getD bundled) := by
  obtain ⟨hshared, hdata⟩ := viewDidLoad_onlyShared started_onlyShared h.loadData_eq
  unfold launch at hlaunch
  split at hlaunch
  · cases hlaunch
  · cases hlaunch
    refine ⟨⟨h.user, h.bundle, fun app happ => ?_⟩, hdata⟩
    cases happ
    exact hshared

theorem onApp_saved {codec : PlistCodec ContinentsDataModel β}
    {bundled : List ContinentsDataModel} {s s' : Device β}
    {action : RunningApp → Option RunningApp} (h : Saved codec bundled s)
    (haction : ∀ app app', OnlyShared app → action app = some app' → OnlyShared app')
    (hstep : s.onApp action = some s') : Saved codec bundled s' := by
  obtain ⟨app, happ, hrest⟩ := Option.bind_eq_some_iff.mp hstep
  obtain ⟨app', happ', hs'⟩ := Option.bind_eq_some_iff.mp hrest
  cases hs'
  refine ⟨h.user, h.bundle, fun next hnext => ?_⟩
  cases hnext
  exact haction app app' (h.live app happ) happ'

theorem willResignActive_saved {codec : PlistCodec ContinentsDataModel β}
    {bundled : List ContinentsDataModel} {s s' : Device β} {succeeds : Nat → Bool}
    (h : Saved codec bundled s) (hresign : s.willResignActive codec succeeds = some s') :
    Saved codec bundled s' ∧
      s'.stored codec = lastSave (s.stored codec) s (.willResignActive succeeds) := by
  obtain ⟨app, happ, hrest⟩ := Option.bind_eq_some_iff.mp hresign
  obtain ⟨files, hwrite, hs'⟩ := Option.bind_eq_some_iff.mp hrest
  cases hs'
  obtain ⟨allData, hlive⟩ := (h.live app happ).live
  rw [writeAll_onlyShared hlive] at hwrite
  cases hsucceeds : succeeds app.continentsDataController with
  | true =>
      rw [hsucceeds, if_pos rfl] at hwrite
      cases hwrite
      have hother : bundleURL ≠ getDataFile dataFileName := by simp [bundleURL, getDataFile]
      refine ⟨⟨by simp [stored], ?_, h.live⟩, ?_⟩
      · simpa [hother] using h.bundle
      · simp [stored, lastSave, happ, hsucceeds, OnlyShared.sharedData_eq hlive]
  | false =>
      rw [hsucceeds, if_neg Bool.false_ne_true] at hwrite
      cases hwrite
      exact ⟨⟨h.user, h.bundle, h.live⟩, by simp [stored, lastSave, happ, hsucceeds]⟩

theorem terminate_saved {codec : PlistCodec ContinentsDataModel β}
    {bundled : List ContinentsDataModel} {s s' : Device β} (h : Saved codec bundled s)
    (hterminate : s.terminate = some s') : Saved codec bundled s' := by
  obtain ⟨app, -, hs'⟩ := Option.bind_eq_some_iff.mp hterminate
  cases hs'
  exact ⟨h.user, h.bundle, fun next hnext => by cases hnext⟩

theorem step_files {codec : PlistCodec ContinentsDataModel β} {s s' : Device β}
    {event : DeviceEvent} (hstep : step codec s event = some s')
    (hevent : ∀ succeeds, event ≠ .willResignActive succeeds) : s'.files = s.files := by
  have honApp : ∀ {action}, s.onApp action = some s' → s'.files = s.files := by
    intro action h
    obtain ⟨app, -, hrest⟩ := Option.bind_eq_some_iff.mp h
    obtain ⟨app', -, hs'⟩ := Option.bind_eq_some_iff.mp hrest
    cases hs'
    rfl
  cases event with
  | launch =>
      simp only [step, launch] at hstep
      split at hstep <;> cases hstep
      rfl
  | openDetail row | closeDetail | addCountry dataIdx newCountry countryIdx
  | deleteCountry dataIdx countryIdx => exact honApp hstep
  | willResignActive succeeds => exact absurd rfl (hevent succeeds)
  | terminate =>
      obtain ⟨app, -, hs'⟩ := Option.bind_eq_some_iff.mp hstep
      cases hs'
      rfl

theorem step_saved {codec : PlistCodec ContinentsDataModel β}
    {bundled : List ContinentsDataModel} {s s' : Device β} {event : DeviceEvent}
    (h : Saved codec bundled s) (hstep : step codec s event = some s') :
    Saved codec bundled s' ∧ s'.stored codec = lastSave (s.stored codec) s event := by
  have hkeeps : (∀ succeeds, event ≠ .willResignActive succeeds) →
      s'.stored codec = s.stored codec := by
    intro hevent
    rw [stored, step_files hstep hevent, stored]
  cases event with
  | launch => exact ⟨(launch_saved h hstep).1, hkeeps (by simp)⟩
  | openDetail row =>
      exact ⟨onApp_saved h (fun app app' happ => happ.openDetail) hstep, hkeeps (by simp)⟩
  | closeDetail =>
      exact ⟨onApp_saved h (fun app app' happ => happ.closeDetail) hstep, hkeeps (by simp)⟩
  | addCountry dataIdx newCountry countryIdx | deleteCountry dataIdx countryIdx =>
      exact ⟨onApp_saved h (fun app app' happ => happ.edit) hstep, hkeeps (by simp)⟩
  | willResignActive succeeds => exact willResignActive_saved h hstep
  | terminate => exact ⟨terminate_saved h hstep, hkeeps (by simp)⟩

structure SavedAs (codec : PlistCodec ContinentsDataModel β)
    (bundled : List ContinentsDataModel) (s : Recorded β) : Prop where
  saved : Saved codec bundled s.1
  last : s.2 = s.1.stored codec

theorem step_restores {codec : PlistCodec ContinentsDataModel β}
    {bundled : List ContinentsDataModel} {s s' : Recorded β} {event : DeviceEvent}
    (h : SavedAs codec bundled s) (hstep : recordedStep codec s event = some s') :
    SavedAs codec bundled s' ∧ RestoresLastSave codec bundled s event := by
  obtain ⟨hdevice, hrecord⟩ := recording_eq_some_iff.mp hstep
  obtain ⟨hsaved, hstored⟩ := step_saved h.saved hdevice
  refine ⟨⟨hsaved, ?_⟩, ?_⟩
  · rw [hrecord, h.last, hstored]
  · cases event with
    | launch =>
        change ((s.1.launch codec).bind (·.app)).bind RunningApp.sharedData = _
        rw [show s.1.launch codec = some s'.1 from hdevice, h.last]
        exact (launch_saved h.saved hdevice).2
    | openDetail | closeDetail | addCountry | deleteCountry | willResignActive | terminate =>
        trivial

/-- In every run from a new installation the shared controller is the only one alive
between events, and every launch loads the last list it wrote, or else the bundled one. -/
theorem launches_restore_last_save (codec : PlistCodec ContinentsDataModel β)
    (files : FileSystem β) (bundled : List ContinentsDataModel) (events : List DeviceEvent)
    (hinstalled : Installed codec files bundled)
    (hrun : (run (step codec) (installed files) events).isSome) :
    Always (step codec) OnlySharedLive (installed files) events ∧
      EveryStep (recordedStep codec) (RestoresLastSave codec bundled) (installed files, none)
        events := by
  have hstart : SavedAs codec bundled (installed files, none) :=
    ⟨installed_saved hinstalled, by simp [stored, installed, hinstalled.user]⟩
  have hrecorded : (run (recordedStep codec) (installed files, none) events).isSome := by
    rwa [recordedStep, run_recording_isSome]
  have halways : Always (recordedStep codec) (SavedAs codec bundled) (installed files, none)
      events :=
    always_of_run (fun s event s' h (_ : True) hs' => (step_restores h hs').1) hstart hrecorded
      (everyStep_of_forall_mem (fun _ _ _ => trivial) _)
  refine ⟨(halways.mono fun s h => h.saved.live).of_recording, ?_⟩
  have hsaved : EveryStep (recordedStep codec) (fun s _ => SavedAs codec bundled s)
      (installed files, none) events := halways.everyStep fun _ _ h => h
  exact everyStep_of_run (fun s event s' h hs' => (step_restores h hs').2) hrecorded hsaved

def bundledContinents : List ContinentsDataModel :=
  [⟨"Asia", ["Japan"]⟩, ⟨"Africa", ["Kenya", "Ghana"]⟩]

def newDevice : FileSystem (Option ContinentsDataModel) := fun url =>
  if url = bundleURL then
    some ((terminatedCodec ContinentsDataModel).encode bundledContinents)
  else none

theorem launches_restore_last_save_africa :
    let codec := terminatedCodec ContinentsDataModel
    let events : List DeviceEvent :=
      [.launch, .openDetail 1, .addCountry 1 "Egypt" 2, .willResignActive fun _ => false,
        .closeDetail, .openDetail 0, .deleteCountry 0 0, .willResignActive fun _ => true,
        .addCountry 0 "Nepal" 0, .terminate, .launch, .terminate, .launch]
    Always (step codec) OnlySharedLive (installed newDevice) events ∧
      EveryStep (recordedStep codec) (RestoresLastSave codec bundledContinents)
        (installed newDevice, none) events :=
  launches_restore_last_save _ _ _ _ ⟨by decide, by decide⟩ (by decide)

end Device

end AdvMad.Countries
