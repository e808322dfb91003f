import Mathlib.Data.List.Forall2
import Mathlib.Logic.Function.Basic
import AdvMad.Miles.Timestamp

/-!
# miles: runs and their documents

The `Run` of `RunDataController.swift`, the documents of a user's `runs`
collection, the parsing loop of the listener that `loadData` attaches, and
`writeData`.
-/

namespace AdvMad.Miles

variable {Date Mileage : Type}

structure Run (Date Mileage : Type) where
  date : Date
  miles : Mileage
  notes : String
  id : String
  deriving DecidableEq, Repr

inductive FieldValue (Mileage : Type) where
  | timestamp (t : Timestamp)
  | number (value : Mileage)
  | string (text : String)
  | null
  deriving DecidableEq, Repr

structure Document (Mileage : Type) where
  documentID : String
  data : List (String × FieldValue Mileage)
  deriving DecidableEq, Repr

namespace FieldValue

/-! The casts `as! Timestamp`, `as! Double` and `as! String`. -/

def asTimestamp : FieldValue Mileage → Option Timestamp
  | .timestamp t => some t
  | .number _ | .string _ | .null => none

def asDouble : FieldValue Mileage → Option Mileage
  | .number value => some value
  | .timestamp _ | .string _ | .null => none

def asString : FieldValue Mileage → Option String
  | .string text => some text
  | .timestamp _ | .number _ | .null => none

end FieldValue

namespace RunDataController

/-- The body of the loop over the documents; `none` where a cast fails. -/
def parseRun (conversion : DateConversion Date) (doc : Document Mileage) :
    Option (Run Date Mileage) := do
  let timestamp ← (doc.data.lookup "Date").bind FieldValue.asTimestamp
  let miles ← (doc.data.lookup "Miles").bind FieldValue.asDouble
  let notes ← (doc.data.lookup "Notes").bind FieldValue.asString
  some
    { date := conversion.dateValue timestamp
      miles := miles
      notes := notes
      id := doc.documentID }

def appendRuns (conversion : DateConversion Date) (runData : List (Run Date Mileage)) :
    List (Document Mileage) → Option (List (Run Date Mileage))
  | [] => some runData
  | doc :: docs => do
      let newRun ← parseRun conversion doc
      appendRuns conversion (runData ++ [newRun]) docs

abbrev Firestore (Mileage : Type) := String → List (Document Mileage)

/-- The fields that `writeData` passes on, as the client stores them. -/
def runFields (conversion : DateConversion Date) (date : Date) (miles : Mileage)
    (notes : String) : List (String × FieldValue Mileage) :=
  [("Date", .timestamp (conversion.timestampWithDate date).truncate), ("Miles", .number miles),
    ("Notes", .string notes)]

def writeData (conversion : DateConversion Date) (db : Firestore Mileage)
    (currentUser : Option String) (documentID : String) (date : Date) (miles : Mileage)
    (notes : String) : Firestore Mileage :=
  match currentUser with
  | some userID =>
      Function.update db userID
        (db userID ++ [⟨documentID, runFields conversion date miles notes⟩])
  | none => db

def WellTyped (doc : Document Mileage) : Prop :=
  ∃ timestamp miles notes, doc.data.lookup "Date" = some (.timestamp timestamp) ∧
    doc.data.lookup "Miles" = some (.number miles) ∧
    doc.data.lookup "Notes" = some (.string notes)

/-- The run has the fields of the document, with the date of its timestamp. -/
structure IsRunOf (conversion : DateConversion Date) (doc : Document Mileage)
    (run : Run Date Mileage) : Prop where
  date : ∃ timestamp, doc.data.lookup "Date" = some (.timestamp timestamp) ∧
    run.date = conversion.dateValue timestamp
  miles : doc.data.lookup "Miles" = some (.number run.miles)
  notes : doc.data.lookup "Notes" = some (.string run.notes)
  id : run.id = doc.documentID

theorem parseRun_wellTyped (conversion : DateConversion Date) {doc : Document Mileage}
    (h : WellTyped doc) :
    ∃ newRun, parseRun conversion doc = some newRun ∧ IsRunOf conversion doc newRun := by
  obtain ⟨timestamp, miles, notes, hdate, hmiles, hnotes⟩ := h
  refine ⟨⟨conversion.dateValue timestamp, miles, notes, doc.documentID⟩, ?_,
    ⟨timestamp, hdate, rfl⟩, hmiles, hnotes, rfl⟩
  simp [parseRun, hdate, hmiles, hnotes, FieldValue.asTimestamp, FieldValue.asDouble,
    FieldValue.asString]

/-- What `writeData` stores is read back as the run that was written, up to its date. -/
theorem parseRun_runFields (conversion : DateConversion Date) (documentID : String) (date : Date)
    (miles : Mileage) (notes : String) :
    parseRun conversion ⟨documentID, runFields conversion date miles notes⟩ =
      some ⟨conversion.stored date, miles, notes, documentID⟩ := by
  rfl

theorem appendRuns_eq (conversion : DateConversion Date) (runData : List (Run Date Mileage))
    (docs : List (Document Mileage)) :
    appendRuns conversion runData docs =
      (docs.mapM (parseRun conversion)).map (runData ++ ·) := by
  induction docs generalizing runData with
  | nil => simp [appendRuns]
  | cons doc docs ih =>
      cases hparse : parseRun conversion doc with
      | none => simp [appendRuns, hparse]
      | some newRun =>
          cases hrest : docs.mapM (parseRun conversion) with
          | none => simp [appendRuns, hparse, hrest, ih]
          | some rest => simp [appendRuns, hparse, hrest, ih]

theorem mapM_parseRun_wellTyped (conversion : DateConversion Date)
    {docs : List (Document Mileage)} (h : ∀ doc ∈ docs, WellTyped doc) :
    ∃ runs, docs.mapM (parseRun conversion) = some runs ∧
      List.Forall₂ (IsRunOf conversion) docs runs := by
  induction docs with
  | nil => exact ⟨[], rfl, .nil⟩
  | cons doc docs ih =>
      obtain ⟨newRun, hparse, hrun⟩ := parseRun_wellTyped conversion (h doc (by simp))
      obtain ⟨runs, hruns, hrest⟩ := ih fun other hother => h other (by simp [hother])
      exact ⟨newRun :: runs, by simp [hparse, hruns], .cons hrun hrest⟩

theorem ids_of_isRunOf {conversion : DateConversion Date} {docs : List (Document Mileage)}
    {runs : List (Run Date Mileage)} (h : List.Forall₂ (IsRunOf conversion) docs runs) :
    runs.map Run.id = docs.map Document.documentID := by
  induction h with
  | nil => rfl
  | cons hrun _ ih => simp [hrun.id, ih]

end RunDataController

end AdvMad.Miles
