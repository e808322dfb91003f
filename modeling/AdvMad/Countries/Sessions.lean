import AdvMad.Countries.Continents
import AdvMad.Foundation.History

/-!
# countries: saved data across sessions

`ViewController.viewDidLoad` loads the data and only prints an error of
`loadData`; the controller then stays registered for `willResignActive` with
an empty list.  Beside the run stands what is asked about its past: whether
the load threw, whether the list in memory goes back to the user's saves (or
to the bundled list when no user file existed), and the bytes of the complete
saves of such a list.  A user file that decodes before the run is one of them.
-/

namespace AdvMad.Countries

open AdvMad.Foundation
open AdvMad.Shared

variable {β : Type}

structure Session where
  allData : List ContinentsDataModel
  continentsList : List String
  deriving DecidableEq, Repr

structure Phone (β : Type) where
  files : FileSystem β
  session : Option Session

inductive SessionEvent where
  | launch (readable : Bool)
  | addCountry (dataIdx : Nat) (newCountry : String) (countryIdx : Nat)
  | deleteCountry (dataIdx countryIdx : Nat)
  | willResignActive (outcome : WriteOutcome)
  | terminate
  deriving DecidableEq, Repr

def dataURL : FileURL := getDataFile dataFileName

def readFile (files : FileSystem β) (readable : Bool) (url : FileURL) :
    Option (List β) :=
  if url = dataURL ∧ readable = false then none else files url

theorem readFile_eq_some {files : FileSystem β} {readable : Bool} {url : FileURL}
    {bytes : List β} (h : readFile files readable url = some bytes) : files url = some bytes := by
  unfold readFile at h
  split at h
  · cases h
  · exact h

def viewDidLoad (codec : PlistCodec ContinentsDataModel β) (files : FileSystem β)
    (readable : Bool) : Session :=
  match loadData codec files (readFile files readable) with
  | .ok allData => ⟨allData, getContinents allData⟩
  | .error _ => ⟨[], []⟩

namespace Phone

def launch (codec : PlistCodec ContinentsDataModel β) (s : Phone β)
    (readable : Bool) : Option (Phone β) :=
  match s.session with
  | some _ => none
  | none => some { s with session := some (viewDidLoad codec s.files readable) }

def edit (s : Phone β)
    (change : List ContinentsDataModel → Option (List ContinentsDataModel)) :
    Option (Phone β) := do
  let session ← s.session
  let edited ← change session.allData
  some { s with session := some { session with allData := edited } }

def willResignActive (codec : PlistCodec ContinentsDataModel β) (s : Phone β)
    (outcome : WriteOutcome) : Option (Phone β) := do
  let session ← s.session
  let files ← writeData codec s.files session.allData outcome
  some { s with files := files }

def terminate (s : Phone β) : Option (Phone β) := do
  let _ ← s.session
  some { s with session := none }

def step (codec : PlistCodec ContinentsDataModel β) (s : Phone β) :
    SessionEvent → Option (Phone β)
  | .launch readable => s.launch codec readable
  | .addCountry dataIdx newCountry countryIdx =>
      s.edit fun allData => Countries.addCountry allData dataIdx newCountry countryIdx
  | .deleteCountry dataIdx countryIdx =>
      s.edit fun allData => Countries.deleteCountry allData dataIdx countryIdx
  | .willResignActive outcome => s.willResignActive codec outcome
  | .terminate => s.terminate

def installed (files : FileSystem β) : Phone β := ⟨files, none⟩

/-! ## The saves of a run -/

structure Saves (β : Type) where
  threw : Bool
  usersWork : Bool
  saved : List (List β)

def before (codec : PlistCodec ContinentsDataModel β) (files : FileSystem β) : Saves β where
  threw := false
  usersWork := false
  saved := (files dataURL).toList.filter fun bytes => (codec.decode bytes).isSome

def record (codec : PlistCodec ContinentsDataModel β) (past : Saves β) (s : Phone β) :
    SessionEvent → Saves β
  | .launch readable =>
      match loadData codec s.files (readFile s.files readable) with
      | .ok allData =>
          { past with
            threw := false
            usersWork := !s.files.fileExists dataURL ||
              past.saved.any fun bytes => codec.decode bytes = some allData }
      | .error _ => { past with threw := true, usersWork := false }
  | .willResignActive .complete =>
      match s.session with
      | some session =>
          if past.usersWork then { past with saved := past.saved ++ [codec.encode session.allData] }
          else past
      | none => past
  | .willResignActive .throws | .willResignActive (.cutShort _) => past
  | .addCountry _ _ _ | .deleteCountry _ _ => past
  | .terminate => { past with threw := false, usersWork := false }

abbrev Recorded (β : Type) := Phone β × Saves β

def recordedStep (codec : PlistCodec ContinentsDataModel β) :
    Recorded β → SessionEvent → Option (Recorded β) :=
  recording (step codec) (record codec)

def started (codec : PlistCodec ContinentsDataModel β) (files : FileSystem β) : Recorded β :=
  (installed files, before codec files)

/-- Once a user's list was saved, the user file is one of the user's complete saves. -/
def KeepsSaves (s : Recorded β) : Prop :=
  s.2.saved ≠ [] → ∃ bytes ∈ s.2.saved, s.1.files dataURL = some bytes

def LeavesFile (codec : PlistCodec ContinentsDataModel β) (s : Recorded β)
    (event : SessionEvent) : Prop :=
  s.2.saved ≠ [] → s.2.threw = true →
    (step codec s.1 event).bind (·.files dataURL) = s.1.files dataURL

def WritesSafely (s : Recorded β) : SessionEvent → Prop
  | .willResignActive outcome =>
      s.2.saved ≠ [] → outcome = .throws ∨ (outcome = .complete ∧ s.2.threw = false)
  | _ => True

instance [DecidableEq β] : DecidablePred (@KeepsSaves β) := by
  intro s
  unfold KeepsSaves
  infer_instance

instance [DecidableEq β] (codec : PlistCodec ContinentsDataModel β) (s : Recorded β)
    (event : SessionEvent) : Decidable (LeavesFile codec s event) := by
  unfold LeavesFile
  infer_instance

instance [DecidableEq β] (s : Recorded β) (event : SessionEvent) :
    Decidable (WritesSafely s event) := by
  cases event <;> unfold WritesSafely <;> infer_instance

def Traced (s : Recorded β) : Prop :=
  s.2.saved ≠ [] → s.1.session ≠ none → s.2.threw = false → s.2.usersWork = true

theorem started_keeps (codec : PlistCodec ContinentsDataModel β) (files : FileSystem β) :
    KeepsSaves (started codec files) := by
  intro hsaved
  obtain ⟨bytes, hbytes⟩ := List.exists_mem_of_ne_nil _ hsaved
  have hfile : bytes ∈ (files dataURL).toList := (List.mem_filter.mp hbytes).1
  exact ⟨bytes, hbytes, Option.mem_toList.mp hfile⟩

theorem launch_keeps {codec : PlistCodec ContinentsDataModel β} {s : Recorded β} {s' : Phone β}
    {readable : Bool} (h : KeepsSaves s) (hlaunch : s.1.launch codec readable = some s') :
    KeepsSaves (s', record codec s.2 s.1 (.launch readable)) ∧
      Traced (s', record codec s.2 s.1 (.launch readable)) := by
  unfold launch at hlaunch
  split at hlaunch
  · cases hlaunch
  · cases hlaunch
    cases hload : loadData codec s.1.files (readFile s.1.files readable) with
    | error e =>
        simp only [record, hload]
        exact ⟨h, fun _ _ hthrew => by cases hthrew⟩
    | ok allData =>
        simp only [record, hload]
        refine ⟨h, fun hsaved _ _ => ?_⟩
        obtain ⟨bytes, hbytes, hfile⟩ := h hsaved
        have hdecode : codec.decode bytes = some allData :=
          decode_of_loadData hfile (fun _ _ => readFile_eq_some) hload
        have hany : (s.2.saved.any fun bytes => codec.decode bytes = some allData) = true :=
          List.any_eq_true.mpr ⟨bytes, hbytes, by simp [hdecode]⟩
        simp [hany]

theorem edit_keeps {s : Recorded β} {s' : Phone β}
    {change : List ContinentsDataModel → Option (List ContinentsDataModel)}
    (h : KeepsSaves s) (htraced : Traced s) (hedit : s.1.edit change = some s') :
    KeepsSaves (s', s.2) ∧ Traced (s', s.2) := by
  obtain ⟨session, hsession, hedit⟩ := Option.bind_eq_some_iff.mp hedit
  obtain ⟨edited, -, hs'⟩ := Option.bind_eq_some_iff.mp hedit
  cases hs'
  exact ⟨h, fun hsaved _ hthrew => htraced hsaved (by simp [hsession]) hthrew⟩

theorem terminate_keeps {codec : PlistCodec ContinentsDataModel β} {s : Recorded β}
    {s' : Phone β} (h : KeepsSaves s) (hterminate : s.1.terminate = some s') :
    KeepsSaves (s', record codec s.2 s.1 .terminate) ∧
      Traced (s', record codec s.2 s.1 .terminate) := by
  obtain ⟨session, -, hs'⟩ := Option.bind_eq_some_iff.mp hterminate
  cases hs'
  exact ⟨h, fun _ hrunning => absurd rfl hrunning⟩

theorem willResignActive_keeps {codec : PlistCodec ContinentsDataModel β} {s : Recorded β}
    {s' : Phone β} {outcome : WriteOutcome} (h : KeepsSaves s) (htraced : Traced s)
    (hsafe : WritesSafely s (.willResignActive outcome))
    (hresign : s.1.willResignActive codec outcome = some s') :
    KeepsSaves (s', record codec s.2 s.1 (.willResignActive outcome)) ∧
      Traced (s', record codec s.2 s.1 (.willResignActive outcome)) := by
  obtain ⟨session, hsession, hresign⟩ := Option.bind_eq_some_iff.mp hresign
  obtain ⟨files, hwrite, hs'⟩ := Option.bind_eq_some_iff.mp hresign
  cases hs'
  cases outcome with
  | throws =>
      cases hwrite
      exact ⟨h, htraced⟩
  | cutShort count =>
      -- only before the first save: nothing is promised yet
      have hnone : s.2.saved = [] := by
        by_contra hsaved
        simpa using hsafe hsaved
      exact ⟨fun hsaved => absurd hnone hsaved, fun hsaved => absurd hnone hsaved⟩
  | complete =>
      cases hwrite
      simp only [record, hsession]
      cases hwork : s.2.usersWork with
      | true =>
          refine ⟨fun _ => ⟨codec.encode session.allData, by simp, by simp [dataURL]⟩, ?_⟩
          simp [Traced]
      | false =>
          have hnone : s.2.saved = [] := by
            by_contra hsaved
            have hthrew : s.2.threw = false := by simpa using hsafe hsaved
            simp [htraced hsaved (by simp [hsession]) hthrew] at hwork
          exact ⟨fun hsaved => absurd hnone hsaved, fun hsaved => absurd hnone hsaved⟩

theorem step_keeps {codec : PlistCodec ContinentsDataModel β} {s s' : Recorded β}
    {event : SessionEvent} (h : KeepsSaves s ∧ Traced s) (hsafe : WritesSafely s event)
    (hstep : recordedStep codec s event = some s') : KeepsSaves s' ∧ Traced s' := by
  obtain ⟨hphone, hrecord⟩ := recording_eq_some_iff.mp hstep
  rw [← Prod.eta s', hrecord]
  cases event with
  | launch readable => exact launch_keeps h.1 hphone
  | addCountry dataIdx newCountry countryIdx | deleteCountry dataIdx countryIdx =>
      simp only [step] at hphone
      exact edit_keeps h.1 h.2 hphone
  | willResignActive outcome => exact willResignActive_keeps h.1 h.2 hsafe hphone
  | terminate => exact terminate_keeps h.1 hphone

theorem launch_files {codec : PlistCodec ContinentsDataModel β} {s s' : Phone β}
    {readable : Bool} (h : s.launch codec readable = some s') : s'.files = s.files := by
  unfold launch at h
  split at h <;> cases h
  rfl

theorem edit_files {s s' : Phone β}
    {change : List ContinentsDataModel → Option (List ContinentsDataModel)}
    (h : s.edit change = some s') : s'.files = s.files := by
  obtain ⟨session, -, hchange⟩ := Option.bind_eq_some_iff.mp h
  obtain ⟨edited, -, hs'⟩ := Option.bind_eq_some_iff.mp hchange
  cases hs'
  rfl

theorem terminate_files {s s' : Phone β} (h : s.terminate = some s') :
    s'.files = s.files := by
  obtain ⟨session, -, hs'⟩ := Option.bind_eq_some_iff.mp h
  cases hs'
  rfl

theorem step_leavesFile {codec : PlistCodec ContinentsDataModel β} {s s' : Recorded β}
    {event : SessionEvent} (hsafe : WritesSafely s event)
    (hstep : recordedStep codec s event = some s') : LeavesFile codec s event := by
  intro hsaved hthrew
  obtain ⟨phone, past⟩ := s'
  obtain ⟨hphone, -⟩ := recording_eq_some_iff.mp hstep
  rw [hphone]
  change phone.files dataURL = s.1.files dataURL
  cases event with
  | launch readable => rw [launch_files hphone]
  | addCountry dataIdx newCountry countryIdx | deleteCountry dataIdx countryIdx =>
      simp only [step] at hphone
      rw [edit_files hphone]
  | willResignActive outcome =>
      have houtcome : outcome = .throws := by simpa [hthrew] using hsafe hsaved
      subst houtcome
      obtain ⟨session, -, hwrite⟩ := Option.bind_eq_some_iff.mp hphone
      cases hwrite
      rfl
  | terminate => rw [terminate_files hphone]

def asiaFiles : FileSystem (Option ContinentsDataModel) := fun url =>
  if url = .bundle "continents2.plist" then
    some ((terminatedCodec ContinentsDataModel).encode [⟨"Asia", ["Japan"]⟩])
  else none

end Phone

end AdvMad.Countries
