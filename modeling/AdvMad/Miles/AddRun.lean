import Mathlib.Algebra.GroupWithZero.Nat
import AdvMad.Miles.RunDataController

/-!
# miles: saving a run

`AddRunController.prepare` reads the form when Save is pressed, and
`RunTableViewController.unwindSegue` hands what it finds to `writeData`, with
defaults for what is missing.  `Double(_:)` is any partial function.
-/

namespace AdvMad.Miles

open RunDataController

variable {Date Mileage : Type}

structure RunForm (Date : Type) where
  datePicker : Date
  milesTextField : String
  notesTextView : String

structure AddRunController (Date Mileage : Type) where
  notes : Option String
  date : Option Date
  miles : Option Mileage

namespace AddRunController

def new : AddRunController Date Mileage := ⟨none, none, none⟩

/-- The message about an invalid mileage belongs to the inner `else`; for a text that is
no number nothing is set. -/
def prepare (double : String → Option Mileage) (vc : AddRunController Date Mileage)
    (identifier : Option String) (form : RunForm Date) : AddRunController Date Mileage :=
  if identifier = some "SaveSegue" then
    match double form.milesTextField with
    | some userMiles =>
        let vc := { vc with miles := some userMiles, date := some form.datePicker }
        if form.notesTextView.isEmpty = false then
          { vc with notes := some form.notesTextView }
        else vc
    | none => vc
  else vc

theorem prepare_of_number {double : String → Option Mileage} {form : RunForm Date}
    {userMiles : Mileage} (h : double form.milesTextField = some userMiles) :
    let source := new.prepare double (some "SaveSegue") form
    source.date = some form.datePicker ∧ source.miles = some userMiles ∧
      source.notes.getD "" = form.notesTextView := by
  cases hempty : form.notesTextView.isEmpty with
  | false => simp [prepare, h, hempty]
  | true =>
      have hnotes : form.notesTextView = "" := by simpa using hempty
      simp [prepare, new, h, hnotes]

end AddRunController

structure SaveContext (Date : Type) where
  currentUser : Option String
  now : Date
  documentID : String

section
variable [Zero Mileage] (conversion : DateConversion Date) (double : String → Option Mileage)

def unwindSegue (db : Firestore Mileage) (context : SaveContext Date)
    (identifier : Option String) (source : AddRunController Date Mileage) :
    Firestore Mileage :=
  if identifier = some "SaveSegue" then
    writeData conversion db context.currentUser context.documentID
      (source.date.getD context.now) (source.miles.getD 0) (source.notes.getD "")
  else db

def save (db : Firestore Mileage) (context : SaveContext Date) (form : RunForm Date) :
    Firestore Mileage :=
  let source := AddRunController.new.prepare double (some "SaveSegue") form
  unwindSegue conversion db context (some "SaveSegue") source

structure StoresInput (userID : String) (form : RunForm Date)
    (before after : Firestore Mileage) : Prop where
  number : ∀ userMiles, double form.milesTextField = some userMiles →
    ∃ documentID, after = Function.update before userID (before userID ++
      [⟨documentID, runFields conversion form.datePicker userMiles form.notesTextView⟩])
  noNumber : double form.milesTextField = none → after = before

variable {double}

theorem save_of_number {form : RunForm Date} {userMiles : Mileage}
    (h : double form.milesTextField = some userMiles) (db : Firestore Mileage)
    (userID : String) (now : Date) (documentID : String) :
    save conversion double db ⟨some userID, now, documentID⟩ form =
      Function.update db userID (db userID ++
        [⟨documentID,
          runFields conversion form.datePicker userMiles form.notesTextView⟩]) := by
  obtain ⟨hdate, hmiles, hnotes⟩ := AddRunController.prepare_of_number h
  simp [save, unwindSegue, writeData, hdate, hmiles, hnotes]

theorem save_of_noNumber {form : RunForm Date} (h : double form.milesTextField = none)
    (db : Firestore Mileage) (userID : String) (now : Date) (documentID : String) :
    save conversion double db ⟨some userID, now, documentID⟩ form =
      Function.update db userID
        (db userID ++ [⟨documentID, runFields conversion now 0 ""⟩]) := by
  simp [save, unwindSegue, writeData, AddRunController.prepare, AddRunController.new, h]

variable (double)

/-- Save stores what the user entered exactly if the mileage is a number. -/
theorem save_storesInput_iff (db : Firestore Mileage) (userID : String) (now : Date)
    (documentID : String) (form : RunForm Date) :
    StoresInput conversion double userID form db
        (save conversion double db ⟨some userID, now, documentID⟩ form) ↔
      (double form.milesTextField).isSome := by
  cases hdouble : double form.milesTextField with
  | some userMiles =>
      refine iff_of_true ⟨fun found hfound => ?_, fun hnone => ?_⟩ rfl
      · obtain rfl : userMiles = found := Option.some.inj (hdouble.symm.trans hfound)
        exact ⟨documentID, save_of_number conversion hdouble db userID now documentID⟩
      · cases hdouble.symm.trans hnone
  | none =>
      refine iff_of_false (fun hstores => ?_) (by simp)
      -- a document is added although nothing was to be added
      have hsame := congrFun (hstores.noNumber hdouble) userID
      rw [save_of_noNumber conversion hdouble] at hsame
      simp at hsame

end

/-- "abc" is saved as a run of 0 miles at the present moment, without the notes. -/
theorem save_stores_other_run :
    let double : String → Option Nat := fun text => if text = "5" then some 5 else none
    let form : RunForm Int := ⟨1582761600000000000, "abc", "along the creek"⟩
    let after := save nanosecondDates double (fun _ => [])
      ⟨some "user", 1583020800000000000, "a1"⟩ form
    after "user" = [⟨"a1", [("Date", .timestamp ⟨1583020800, 0⟩), ("Miles", .number 0),
        ("Notes", .string "")]⟩] ∧
      ¬ StoresInput nanosecondDates double "user" form (fun _ => []) after := by
  constructor
  · decide
  · intro hstores
    have hsame := congrFun (hstores.noNumber rfl) "user"
    cases hsame

end AdvMad.Miles
