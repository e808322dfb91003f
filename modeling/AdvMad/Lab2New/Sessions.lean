import AdvMad.Foundation.History
import AdvMad.Lab2New.States
import AdvMad.Shared.PlistFile

/-!
# lab2New: edits across sessions

`StatesDataController` loads its data when the app is launched and writes
`data.plist` when the app resigns active.  A run is made of launches, edits,
notifications and terminations.  What the last successful write saved is a
record beside the run.
-/

namespace AdvMad.Lab2New

open AdvMad.Foundation
open AdvMad.Shared

variable {β : Type}

def fileName : String := "usStates"
def userDataFileName : String := "data.plist"

/-- `loadData` chooses a path, but reads the bundled file whatever it chose. -/
def loadData (codec : PlistCodec StatesDataModel β) (files : FileSystem β) :
    Except DataError (List StatesDataModel) :=
  let dataFileUrl := getDataFile userDataFileName
  let _pathURL :=
    if files.fileExists dataFileUrl then some dataFileUrl
    else files.urlForResource fileName "plist"
  match files.urlForResource fileName "plist" with
  | some dataURL =>
      match (files dataURL).bind codec.decode with
      | some allData => .ok allData
      | none => .error .CouldNotDecode
  | none => .error .NoDataFile

def writeData (codec : PlistCodec StatesDataModel β) (files : FileSystem β)
    (allData : List StatesDataModel) (outcome : WriteOutcome) :
    Option (FileSystem β) :=
  writeList codec files (getDataFile userDataFileName) allData outcome

structure Phone (β : Type) where
  files : FileSystem β
  controller : Option (List StatesDataModel)

inductive SessionEvent where
  | launch
  | addCity (dataIdx : Nat) (newCity : String) (cityIdx : Nat)
  | deleteCity (dataIdx cityIdx : Nat)
  | willResignActive (outcome : WriteOutcome)
  | terminate
  deriving DecidableEq, Repr

namespace Phone

/-- A new controller starts empty and keeps the empty list if `loadData` throws. -/
def launch (codec : PlistCodec StatesDataModel β) (s : Phone β) : Option (Phone β) :=
  match s.controller with
  | some _ => none
  | none =>
      match loadData codec s.files with
      | .ok allData => some { s with controller := some allData }
      | .error _ => some { s with controller := some [] }

def edit (s : Phone β)
    (change : List StatesDataModel → Option (List StatesDataModel)) :
    Option (Phone β) := do
  let allData ← s.controller
  let edited ← change allData
  some { s with controller := some edited }

def willResignActive (codec : PlistCodec StatesDataModel β) (s : Phone β)
    (outcome : WriteOutcome) : Option (Phone β) := do
  let allData ← s.controller
  let files ← writeData codec s.files allData outcome
  some { s with files := files }

def terminate (s : Phone β) : Option (Phone β) := do
  let _ ← s.controller
  some { s with controller := none }

def step (codec : PlistCodec StatesDataModel β) (s : Phone β) :
    SessionEvent → Option (Phone β)
  | .launch => s.launch codec
  | .addCity dataIdx newCity cityIdx =>
      s.edit fun allData => addCity allData dataIdx newCity cityIdx
  | .deleteCity dataIdx cityIdx =>
      s.edit fun allData => deleteCity allData dataIdx cityIdx
  | .willResignActive outcome => s.willResignActive codec outcome
  | .terminate => s.terminate

def installed (files : FileSystem β) : Phone β := ⟨files, none⟩

/-! ## What was written -/

def lastWritten (last : Option (List StatesDataModel)) (s : Phone β) :
    SessionEvent → Option (List StatesDataModel)
  | .willResignActive .complete => s.controller
  | .willResignActive .throws | .willResignActive (.cutShort _) => last
  | .launch | .addCity _ _ _ | .deleteCity _ _ | .terminate => last

abbrev Recorded (β : Type) := Phone β × Option (List StatesDataModel)

def recordedStep (codec : PlistCodec StatesDataModel β) :
    Recorded β → SessionEvent → Option (Recorded β) :=
  recording (step codec) lastWritten

def Restores (codec : PlistCodec StatesDataModel β)
    (usStates : List StatesDataModel) (s : Recorded β) : SessionEvent → Prop
  | .launch => (s.1.launch codec).bind controller = some (s.2.getD usStates)
  | _ => True

def NothingToRestore (usStates : List StatesDataModel) (s : Recorded β) :
    SessionEvent → Prop
  | .launch => s.2 = none ∨ s.2 = some usStates
  | _ => True

instance (codec : PlistCodec StatesDataModel β) (usStates : List StatesDataModel)
    (s : Recorded β) (event : SessionEvent) :
    Decidable (Restores codec usStates s event) := by
  cases event <;> unfold Restores <;> infer_instance

instance (usStates : List StatesDataModel) (s : Recorded β) (event : SessionEvent) :
    Decidable (NothingToRestore usStates s event) := by
  cases event <;> unfold NothingToRestore <;> infer_instance

def Bundled (codec : PlistCodec StatesDataModel β) (usStates : List StatesDataModel)
    (s : Phone β) : Prop :=
  (s.files (.bundle "usStates.plist")).bind codec.decode = some usStates

theorem loadData_eq {codec : PlistCodec StatesDataModel β} {s : Phone β}
    {usStates : List StatesDataModel} (h : Bundled codec usStates s) :
    loadData codec s.files = .ok usStates := by
  unfold Bundled at h
  obtain ⟨bytes, hbytes, hdecode⟩ := Option.bind_eq_some_iff.mp h
  have hurl : s.files.urlForResource fileName "plist" =
      some (.bundle "usStates.plist") := by
    have hname : fileName ++ "." ++ "plist" = "usStates.plist" := by decide
    simp [FileSystem.urlForResource, FileSystem.fileExists, hname, hbytes]
  simp [loadData, hurl, hbytes, hdecode]

theorem launch_files {codec : PlistCodec StatesDataModel β} {s s' : Phone β}
    (h : s.launch codec = some s') : s'.files = s.files := by
  unfold launch at h
  split at h
  · cases h
  · split at h <;> cases h <;> rfl

theorem edit_files {s s' : Phone β}
    {change : List StatesDataModel → Option (List StatesDataModel)}
    (h : s.edit change = some s') : s'.files = s.files := by
  obtain ⟨allData, -, hchange⟩ := Option.bind_eq_some_iff.mp h
  obtain ⟨edited, -, hs'⟩ := Option.bind_eq_some_iff.mp hchange
  cases hs'
  rfl

theorem terminate_files {s s' : Phone β} (h : s.terminate = some s') :
    s'.files = s.files := by
  obtain ⟨allData, -, hs'⟩ := Option.bind_eq_some_iff.mp h
  cases hs'
  rfl

theorem step_files {codec : PlistCodec StatesDataModel β} {s s' : Phone β}
    {event : SessionEvent} {url : FileURL} (hurl : url ≠ getDataFile userDataFileName)
    (hstep : step codec s event = some s') : s'.files url = s.files url := by
  cases event with
  | launch => rw [launch_files hstep]
  | addCity dataIdx newCity cityIdx | deleteCity dataIdx cityIdx =>
      simp only [step] at hstep
      rw [edit_files hstep]
  | willResignActive outcome =>
      obtain ⟨allData, -, hwrite⟩ := Option.bind_eq_some_iff.mp hstep
      obtain ⟨files, hfiles, hs'⟩ := Option.bind_eq_some_iff.mp hwrite
      cases hs'
      exact writeList_other hurl hfiles
  | terminate => rw [terminate_files hstep]

theorem step_bundled {codec : PlistCodec StatesDataModel β}
    {usStates : List StatesDataModel} {s s' : Phone β} {event : SessionEvent}
    (h : Bundled codec usStates s) (hstep : step codec s event = some s') :
    Bundled codec usStates s' := by
  unfold Bundled
  rw [step_files (by simp [getDataFile]) hstep]
  exact h

theorem launch_controller {codec : PlistCodec StatesDataModel β}
    {usStates : List StatesDataModel} {s : Phone β} (h : Bundled codec usStates s)
    (hlaunch : (s.launch codec).isSome) :
    (s.launch codec).bind controller = some usStates := by
  unfold launch at hlaunch ⊢
  rw [loadData_eq h] at hlaunch ⊢
  split
  · case h_1 _ hrunning => simp [hrunning] at hlaunch
  · rfl

theorem restores_iff {codec : PlistCodec StatesDataModel β}
    {usStates : List StatesDataModel} {s : Recorded β} {event : SessionEvent}
    (h : Bundled codec usStates s.1) (hsome : (step codec s.1 event).isSome) :
    Restores codec usStates s event ↔ NothingToRestore usStates s event := by
  cases event with
  | launch =>
      simp only [Restores, NothingToRestore, launch_controller h hsome]
      cases s.2 with
      | none => simp
      | some lastWritten => simp [eq_comm]
  | addCity dataIdx newCity cityIdx | deleteCity dataIdx cityIdx =>
      simp [Restores, NothingToRestore]
  | willResignActive outcome => simp [Restores, NothingToRestore]
  | terminate => simp [Restores, NothingToRestore]

/--
In every run of an installed app, each launch sets `allData` to what the last
successful write saved, or to the bundled list before any, exactly if each
launch comes before any successful write or after one of the bundled list.
-/
theorem launch_restores_iff (codec : PlistCodec StatesDataModel β)
    (files : FileSystem β) (usStates : List StatesDataModel)
    (events : List SessionEvent)
    (hbundle : (files (.bundle "usStates.plist")).bind codec.decode = some usStates)
    (hrun : (run (step codec) (installed files) events).isSome) :
    EveryStep (recordedStep codec) (Restores codec usStates) (installed files, none) events ↔
      EveryStep (recordedStep codec) (NothingToRestore usStates) (installed files, none)
        events := by
  refine everyStep_congr_of_run (fun s : Recorded β => Bundled codec usStates s.1) ?_ ?_ hbundle ?_
  · intro s event s' h hstep
    exact step_bundled h (recording_eq_some_iff.mp hstep).1
  · intro s event s' h hstep
    exact restores_iff h (by simp [(recording_eq_some_iff.mp hstep).1])
  · rwa [recordedStep, run_recording_isSome]

def texasFiles : FileSystem (Option StatesDataModel) := fun url =>
  if url = .bundle "usStates.plist" then
    some ((terminatedCodec StatesDataModel).encode [⟨"Texas", ["Dallas"]⟩])
  else none

theorem launch_restores_texas :
    let codec := terminatedCodec StatesDataModel
    let usStates : List StatesDataModel := [⟨"Texas", ["Dallas"]⟩]
    let events : List SessionEvent :=
      [.launch, .willResignActive .complete, .addCity 0 "Waco" 1, .terminate, .launch]
    EveryStep (recordedStep codec) (Restores codec usStates) (installed texasFiles, none)
        events ↔
      EveryStep (recordedStep codec) (NothingToRestore usStates) (installed texasFiles, none)
        events :=
  launch_restores_iff _ _ _ _ (by decide) (by decide)

theorem launch_forgets_save :
    let codec := terminatedCodec StatesDataModel
    let usStates : List StatesDataModel := [⟨"Texas", ["Dallas"]⟩]
    let events : List SessionEvent :=
      [.launch, .addCity 0 "Waco" 1, .willResignActive .complete, .terminate, .launch]
    (run (recordedStep codec) (installed texasFiles, none) events).bind Prod.snd =
        some [⟨"Texas", ["Dallas", "Waco"]⟩] ∧
      (run (step codec) (installed texasFiles) events).bind controller =
        some usStates ∧
      ¬ EveryStep (recordedStep codec) (Restores codec usStates) (installed texasFiles, none)
          events := by
  decide

end Phone

end AdvMad.Lab2New
