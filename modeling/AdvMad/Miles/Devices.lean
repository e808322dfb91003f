import Mathlib.Data.List.Perm.Basic
import AdvMad.Foundation.Replicas
import AdvMad.Miles.AddRun
import AdvMad.Miles.RunTable

/-!
# miles: users on several devices

Whoever is signed in when Save is pressed gets a document in the own `runs`
collection, and a table listens to the collection of the user who was signed
in when it was loaded.  Firestore is any `Backend`, with a queue for every user
of a device: on a change of user the writes of the one before are neither sent
nor seen until that user is back.
-/

namespace AdvMad.Miles

open AdvMad.Foundation
open RunDataController

variable {β ε Date Mileage : Type}

/-- The form when Save is pressed, the time, and the id that `addDocument` chooses. -/
structure SavePressed (Date : Type) where
  now : Date
  documentID : String
  form : RunForm Date

def SavePressed.context (pressed : SavePressed Date) (currentUser : Option String) :
    SaveContext Date :=
  ⟨currentUser, pressed.now, pressed.documentID⟩

structure UserTable (Date Mileage : Type) where
  currentUser : Option String
  vc : RunTableViewController Date Mileage

/-! ## Runs and their documents -/

section
variable (conversion : DateConversion Date)

def toDocument (run : Run Date Mileage) : Document Mileage :=
  ⟨run.id, runFields conversion run.date run.miles run.notes⟩

/-- The run with its date as it comes back from a timestamp. -/
def readBack (run : Run Date Mileage) : Run Date Mileage :=
  { run with date := conversion.stored run.date }

def Stores (db : Firestore Mileage) (runs : String → List (Run Date Mileage)) : Prop :=
  ∀ userID, db userID = (runs userID).map (toDocument conversion)

theorem parseRun_toDocument (run : Run Date Mileage) :
    parseRun conversion (toDocument conversion run) = some (readBack conversion run) :=
  parseRun_runFields conversion run.id run.date run.miles run.notes

theorem mapM_parseRun_toDocument (runs : List (Run Date Mileage)) :
    (runs.map (toDocument conversion)).mapM (parseRun conversion) =
      some (runs.map (readBack conversion)) := by
  induction runs with
  | nil => rfl
  | cons run runs ih => simp [ih, parseRun_toDocument]

variable {conversion}

theorem Stores.readBack_eq {db : Firestore Mileage} {runs other : String → List (Run Date Mileage)}
    (hruns : Stores conversion db runs) (hother : Stores conversion db other) (userID : String) :
    (other userID).map (readBack conversion) = (runs userID).map (readBack conversion) := by
  have hdocuments := (hother userID).symm.trans (hruns userID)
  have hparse := congrArg (List.mapM (parseRun conversion)) hdocuments
  rwa [mapM_parseRun_toDocument, mapM_parseRun_toDocument, Option.some.injEq] at hparse

end

/-! ## What is saved -/

section
variable [Zero Mileage]

def savedRun (double : String → Option Mileage) (pressed : SavePressed Date) :
    Run Date Mileage :=
  match double pressed.form.milesTextField with
  | some userMiles =>
      ⟨pressed.form.datePicker, userMiles, pressed.form.notesTextView, pressed.documentID⟩
  | none => ⟨pressed.now, 0, "", pressed.documentID⟩

abbrev SaveBy (Date : Type) := Author (Option String) × SavePressed Date

def savedRuns (double : String → Option Mileage) (saves : List (SaveBy Date))
    (userID : String) : List (Run Date Mileage) :=
  (saves.filter fun entry => entry.1.user = some userID).map fun entry =>
    savedRun double entry.2

variable {conversion : DateConversion Date} {double : String → Option Mileage}

theorem save_eq (db : Firestore Mileage) (userID : String) (pressed : SavePressed Date) :
    save conversion double db (pressed.context (some userID)) pressed.form =
      Function.update db userID (db userID ++
        [toDocument conversion (savedRun double pressed)]) := by
  cases hdouble : double pressed.form.milesTextField with
  | some userMiles =>
      rw [SavePressed.context, save_of_number conversion hdouble]
      simp [savedRun, hdouble, toDocument]
  | none =>
      rw [SavePressed.context, save_of_noNumber conversion hdouble]
      simp [savedRun, hdouble, toDocument]

theorem save_stores {db : Firestore Mileage} {runs : String → List (Run Date Mileage)}
    (h : Stores conversion db runs) (entry : SaveBy Date) :
    Stores conversion
      (save conversion double db (entry.2.context entry.1.user) entry.2.form)
      (fun userID => runs userID ++ savedRuns double [entry] userID) := by
  obtain ⟨⟨device, user⟩, pressed⟩ := entry
  intro other
  cases user with
  | none => simp [save, unwindSegue, writeData, SavePressed.context, savedRuns, h other]
  | some userID =>
      rw [save_eq]
      by_cases hother : other = userID
      · subst hother
        simp [savedRuns, h other]
      · simp [savedRuns, h other, hother, Ne.symm hother]

theorem savedRuns_append_singleton (saves : List (SaveBy Date)) (entry : SaveBy Date)
    (userID : String) : savedRuns double (saves ++ [entry]) userID =
      savedRuns double saves userID ++ savedRuns double [entry] userID := by
  simp [savedRuns]

end

/-! ## The tables -/

variable [LinearOrder Date]

structure ShowsRuns (vc : RunTableViewController Date Mileage)
    (runs : List (Run Date Mileage)) : Prop where
  perm : vc.runData.Perm runs
  sorted : vc.runData.Pairwise fun r1 r2 => r2.date ≤ r1.date

theorem newData_sorts (sortBy : SortBy (Run Date Mileage))
    (vc : RunTableViewController Date Mileage) (data : List (Run Date Mileage)) :
    ShowsRuns (vc.newData sortBy data) data where
  perm := sortBy.perm _ RunTableViewController.newerFirst_strictWeakOrder data
  sorted := by
    apply (sortBy.sorted _ RunTableViewController.newerFirst_strictWeakOrder data).imp
    intro r1 r2 h
    have hnewer : ¬ RunTableViewController.newerFirst r2 r1 = true := by simp [h]
    simpa [RunTableViewController.newerFirst_iff] using hnewer

theorem step_showsRuns (conversion : DateConversion Date) (sortBy : SortBy (Run Date Mileage))
    (vc : RunTableViewController Date Mileage) {runs : List (Run Date Mileage)}
    {documents : List (Document Mileage)}
    (h : documents.Perm (runs.map (toDocument conversion))) :
    ∃ vc', vc.step conversion sortBy (.snapshot documents) = some vc' ∧
      ShowsRuns vc' (runs.map (readBack conversion)) := by
  have hreordered := congrFun₂ (List.eq_map_comp_perm (toDocument conversion)) documents runs
  obtain ⟨order, rfl, horder⟩ := hreordered.mpr h
  have hparse := mapM_parseRun_toDocument conversion order
  let data := order.map (readBack conversion)
  obtain ⟨hperm, hsorted⟩ := newData_sorts sortBy { vc with dcRunData := data } data
  refine ⟨RunTableViewController.newData sortBy { vc with dcRunData := data } data, ?_,
    hperm.trans (horder.map _), hsorted⟩
  simp [RunTableViewController.step, appendRuns_eq, hparse, data]

variable [Zero Mileage] (conversion : DateConversion Date) (double : String → Option Mileage)
  (sortBy : SortBy (Run Date Mileage))

def UserTable.Shows (table : UserTable Date Mileage) (db : Firestore Mileage) : Prop :=
  ∃ userID, table.currentUser = some userID ∧
    ∀ runs, Stores conversion db runs →
      ShowsRuns table.vc ((runs userID).map (readBack conversion))

/-- Without a signed-in user `loadData` attaches no listener. -/
def runsDb : Replication (Option String) (Firestore Mileage) (SavePressed Date) Unit
    (List (Document Mileage)) (UserTable Date Mileage) where
  empty _ := []
  apply db user pressed := save conversion double db (pressed.context user) pressed.form
  ValidWrite _ := True
  fresh user _ := ⟨user, .new⟩
  IsSnapshot table db documents :=
    ∃ userID, table.currentUser = some userID ∧ documents.Perm (db userID)
  receive table documents := do
    let vc ← table.vc.step conversion sortBy (.snapshot documents)
    some { table with vc := vc }

theorem applyAll_stores (saves : List (SaveBy Date)) :
    Stores conversion ((runsDb conversion double sortBy).applyAll saves)
      (savedRuns double saves) := by
  refine Replication.applyAll_induction
    (motive := fun db saves => Stores conversion db (savedRuns double saves))
    (fun _ => rfl) (fun db saves entry h => ?_) saves
  intro userID
  rw [savedRuns_append_singleton]
  exact save_stores h entry userID

theorem runsDb_faithful :
    (runsDb conversion double sortBy).Faithful
      (fun db => ∃ runs : String → List (Run Date Mileage), Stores conversion db runs)
      (UserTable.Shows conversion) where
  empty := ⟨fun _ => [], fun _ => rfl⟩
  apply := fun _ user pressed ⟨_, h⟩ => ⟨_, save_stores h (⟨0, user⟩, pressed)⟩
  receive := by
    rintro table db documents ⟨runs, hruns⟩ ⟨userID, huser, hdocuments⟩
    rw [hruns userID] at hdocuments
    obtain ⟨vc, hvc, hshows⟩ := step_showsRuns conversion sortBy table.vc hdocuments
    refine ⟨{ table with vc := vc }, by simp [runsDb, hvc], userID, huser, ?_⟩
    intro other hother
    rwa [hruns.readBack_eq hother userID]

abbrev RunDevices (β Date Mileage : Type) := Replicas β (UserTable Date Mileage)

abbrev RunDeviceEvent (ε Date Mileage : Type) :=
  ReplicaEvent ε (Option String) (SavePressed Date) Unit (List (Document Mileage))

instance [DecidableEq Mileage] (B : Backend β ε (Option String) (SavePressed Date))
    (devices : RunDevices β Date Mileage) (event : RunDeviceEvent ε Date Mileage) :
    Decidable ((runsDb conversion double sortBy).Admissible B devices event) :=
  match event with
  | .write author _ =>
      inferInstanceAs (Decidable (author.user = B.user devices.backend author.device ∧ True))
  | .behind e => inferInstanceAs (Decidable ((B.next devices.backend e).isSome = true))
  | .openView _ _ _ => isTrue trivial
  | .deliver device i documents =>
      match hview : devices.view device i with
      | some ⟨some userID, vc⟩ =>
          decidable_of_iff (documents.Perm
            ((runsDb conversion double sortBy).seen B devices.backend device userID)) (by
              simp [Replication.Admissible, runsDb, hview])
      | some ⟨none, vc⟩ => isFalse (by simp [Replication.Admissible, runsDb, hview])
      | none => isFalse (by simp [Replication.Admissible, hview])

/--
Whatever users do on whatever devices, no cast of a listener fails.  Once only
deliveries follow, each table that gets one shows, newest first, exactly the
runs of its user that its device sees, with their dates as timestamps keep
them: those saved on the device by that user, if still signed in and unless one
was rejected, and, when the device is up to date, all that were accepted.
-/
theorem tables_show_saved_runs (B : Backend β ε (Option String) (SavePressed Date))
    (events quiet : List (RunDeviceEvent ε Date Mileage))
    (hadm : EveryStep ((runsDb conversion double sortBy).step B)
      ((runsDb conversion double sortBy).Admissible B) (.start B) (events ++ quiet))
    (honly : ∀ event ∈ quiet, event.isDelivery = true) :
    ∃ s t : RunDevices β Date Mileage,
      run ((runsDb conversion double sortBy).step B) (.start B) events = some s ∧
      run ((runsDb conversion double sortBy).step B) s quiet = some t ∧
      ∀ device i documents, .deliver device i documents ∈ quiet →
        ∃ userID vc, t.view device i = some ⟨some userID, vc⟩ ∧
          ShowsRuns vc ((savedRuns double (B.visible s.backend device) userID).map
            (readBack conversion)) ∧
          (Unrejected B events → B.user s.backend device = some userID →
            ∀ pressed ∈ issued ⟨device, some userID⟩ events,
              readBack conversion (savedRun double pressed) ∈ vc.runData) ∧
          (B.known s.backend device = (B.accepted s.backend).length →
            B.queued s.backend ⟨device, B.user s.backend device⟩ = [] →
            ShowsRuns vc ((savedRuns double (B.accepted s.backend) userID).map
              (readBack conversion))) := by
  have hfaithful := runsDb_faithful conversion double sortBy
  obtain ⟨t, hrun⟩ := Option.isSome_iff_exists.mp (hfaithful.run_isSome hadm)
  rw [run_append] at hrun
  obtain ⟨s, hs, ht⟩ := Option.bind_eq_some_iff.mp hrun
  refine ⟨s, t, hs, ht, fun device i documents hdocuments => ?_⟩
  obtain ⟨⟨currentUser, vc⟩, hview, userID, huser, hshows⟩ :=
    hfaithful.shows_of_deliveries ht (hadm.after hs) honly (.inl ⟨documents, hdocuments⟩)
  cases huser
  have hvisible := hshows _ (applyAll_stores conversion double sortBy _)
  refine ⟨userID, vc, hview, hvisible, ?_, fun hknown hqueued => ?_⟩
  · intro hunrejected hsignedIn pressed hpressed
    have hown : pressed ∈ ((B.visible s.backend device).filter
        fun entry => entry.1 = ⟨device, B.user s.backend device⟩).map Prod.snd := by
      rw [B.visible_own, hsignedIn,
        (Replication.accepted_sublist_issued hadm.before hs _).2 hunrejected]
      exact hpressed
    obtain ⟨entry, hentry, rfl⟩ := List.mem_map.mp hown
    obtain ⟨hmem, hauthor⟩ := List.mem_filter.mp hentry
    have hauthor' : entry.1.user = some userID := by
      rw [of_decide_eq_true hauthor, hsignedIn]
    apply hvisible.perm.mem_iff.mpr
    refine List.mem_map_of_mem (List.mem_map.mpr ⟨entry, List.mem_filter.mpr ⟨hmem, ?_⟩, rfl⟩)
    exact decide_eq_true hauthor'
  · rw [Replication.seen_of_caught_up hknown hqueued] at hshows
    exact hshows _ (applyAll_stores conversion double sortBy _)

def firestore : Backend (Queues (Option String) (SavePressed Int)) (QueueEvent (Option String))
    (Option String) (SavePressed Int) :=
  queues none

/-- Ann saves a run, Bob signs in on her device before it is sent, and Ann is back. -/
def twoUsers : List (RunDeviceEvent (QueueEvent (Option String)) Int Nat) :=
  [.behind (.signIn 0 (some "ann")), .openView 0 0 (),
    .write ⟨0, some "ann"⟩ ⟨1583020800000000000, "a1", 1582761600000001234, "5", "creek"⟩,
    .behind (.signIn 0 (some "bob")), .deliver 0 0 [], .openView 0 1 (),
    .write ⟨0, some "bob"⟩ ⟨1583107200000000000, "b1", 1583107200000000000, "five", ""⟩,
    .behind (.accept 0), .behind (.signIn 0 (some "ann")), .behind (.accept 0),
    .behind (.fetch 0 2)]

theorem tables_show_saved_runs_two :
    let double : String → Option Nat := fun text => if text = "5" then some 5 else none
    let db := runsDb nanosecondDates double (mergeSortBy _)
    let saved : Document Nat :=
      toDocument nanosecondDates ⟨1582761600000001000, 5, "creek", "a1"⟩
    let quiet : List (RunDeviceEvent (QueueEvent (Option String)) Int Nat) :=
      [.deliver 0 0 [saved]]
    ∃ s t : RunDevices _ Int Nat,
      run (db.step firestore) (.start firestore) twoUsers = some s ∧
      run (db.step firestore) s quiet = some t ∧
      ∀ device i documents, .deliver device i documents ∈ quiet →
        ∃ userID vc, t.view device i = some ⟨some userID, vc⟩ ∧
          ShowsRuns vc ((savedRuns double (firestore.visible s.backend device) userID).map
            (readBack nanosecondDates)) ∧
          (Unrejected firestore twoUsers → firestore.user s.backend device = some userID →
            ∀ pressed ∈ issued ⟨device, some userID⟩ twoUsers,
              readBack nanosecondDates (savedRun double pressed) ∈ vc.runData) ∧
          (firestore.known s.backend device = (firestore.accepted s.backend).length →
            firestore.queued s.backend ⟨device, firestore.user s.backend device⟩ = [] →
            ShowsRuns vc ((savedRuns double (firestore.accepted s.backend) userID).map
              (readBack nanosecondDates))) :=
  tables_show_saved_runs _ _ _ firestore twoUsers _ (by decide) (by decide)

end AdvMad.Miles
