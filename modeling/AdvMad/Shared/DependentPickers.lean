import Mathlib.Logic.Function.Basic
import AdvMad.Foundation.PartialStep

/-!
# A picker whose second wheel depends on the first

lab1 and the music app show a wheel of names next to a wheel of the items that
belong to the selected name, and a label that words the choice.  The picker
itself keeps the selected row and the row count last supplied for every
component.
-/

namespace AdvMad.Shared

open AdvMad.Foundation

/-- Where a record keeps its name and its items, and how the label words a choice. -/
structure PickerSource (R : Type) where
  name : R → String
  items : R → List String
  label : String → String → String

inductive PickerDataError where
  | BadFilePath
  | CouldNotDecodeData
  | NoData
  deriving DecidableEq, Repr

structure DependentPickers (R : Type) where
  data : Option (List R)
  names : List String
  items : List String
  selectedRow : Nat → Nat
  supplied : Nat → Int
  label : Option String

structure Pick where
  row : Nat
  component : Nat
  deriving DecidableEq, Repr

def namesComp : Nat := 0
def itemsComp : Nat := 1
def numberOfComponents : Nat := 2

variable {R : Type}

def getAllNames (source : PickerSource R) (data : Option (List R)) :
    Except PickerDataError (List String) :=
  match data with
  | some data => .ok (data.map source.name)
  | none => .error .NoData

/-- `none` for an index out of range. -/
def getItems (source : PickerSource R) (data : Option (List R)) (idx : Nat) :
    Option (Except PickerDataError (List String)) :=
  match data with
  | some data => data[idx]?.map fun record => .ok (source.items record)
  | none => some (.error .NoData)

namespace DependentPickers

def numberOfRows (s : DependentPickers R) (component : Nat) : Int :=
  if component = itemsComp then s.items.length
  else if component = namesComp then s.names.length
  else -1

/-! The picker view: it asks for the counts of its components and keeps the rows. -/

def reloadComponent (s : DependentPickers R) (component : Nat) : DependentPickers R :=
  { s with supplied := Function.update s.supplied component (s.numberOfRows component) }

def reloadAllComponents (s : DependentPickers R) : DependentPickers R :=
  { s with
    supplied := fun component =>
      if component < numberOfComponents then s.numberOfRows component else 0 }

def selectRow (s : DependentPickers R) (row component : Nat) : DependentPickers R :=
  { s with selectedRow := Function.update s.selectedRow component row }

def new : DependentPickers R := ⟨none, [], [], fun _ => 0, fun _ => 0, none⟩

/-- Load the records; an error is only printed.  Then the picker appears. -/
def viewDidLoad (source : PickerSource R) (loadData : Except PickerDataError (List R)) :
    Option (DependentPickers R) := do
  let s : DependentPickers R := new
  match loadData with
  | .error _ => some s.reloadAllComponents
  | .ok records =>
      let s := { s with data := some records }
      let items ← getItems source s.data 0
      match items, getAllNames source s.data with
      | .ok items, .ok names =>
          let s := { s with items := items, names := names }
          some s.reloadAllComponents
      | _, _ => some s.reloadAllComponents

def nameSelected (source : PickerSource R) (s : DependentPickers R) (row : Nat) :
    Option (DependentPickers R) := do
  let items ← getItems source s.data row
  let s :=
    match items with
    | .ok items => { s with items := items }
    | .error _ => s
  some ((s.reloadComponent itemsComp).selectRow 0 itemsComp)

def updateLabel (source : PickerSource R) (s : DependentPickers R) :
    Option (DependentPickers R) := do
  let item ← s.items[s.selectedRow itemsComp]?
  let name ← s.names[s.selectedRow namesComp]?
  some { s with label := some (source.label item name) }

def didSelectRow (source : PickerSource R) (s : DependentPickers R) (row component : Nat) :
    Option (DependentPickers R) := do
  let s ← if component = namesComp then nameSelected source s row else some s
  updateLabel source s

/-- The user turns a wheel: the picker keeps the row and calls back. -/
def step (source : PickerSource R) (s : DependentPickers R) (pick : Pick) :
    Option (DependentPickers R) :=
  didSelectRow source (s.selectRow pick.row pick.component) pick.row pick.component

def RowSupplied (s : DependentPickers R) (pick : Pick) : Prop :=
  (pick.row : Int) < s.supplied pick.component

instance (s : DependentPickers R) (pick : Pick) : Decidable (RowSupplied s pick) := by
  unfold RowSupplied
  infer_instance

def LabelShowsSelection (source : PickerSource R) (records : List R)
    (s : DependentPickers R) : Prop :=
  ∃ record item, records[s.selectedRow namesComp]? = some record ∧
    (source.items record)[s.selectedRow itemsComp]? = some item ∧
    s.label = some (source.label item (source.name record))

/-- A pick in the wheel of names takes the other wheel to its first item. -/
def pickedRows (rows : Nat × Nat) (pick : Pick) : Nat × Nat :=
  if pick.component = namesComp then (pick.row, 0) else (rows.1, pick.row)

def lastPicked (picks : List Pick) : Nat × Nat := picks.foldl pickedRows (0, 0)

def rows (s : DependentPickers R) : Nat × Nat := (s.selectedRow namesComp, s.selectedRow itemsComp)

structure Consistent (source : PickerSource R) (records : List R)
    (s : DependentPickers R) : Prop where
  data : s.data = some records
  names : s.names = records.map source.name
  selected : ∃ record, records[s.selectedRow namesComp]? = some record ∧
    s.items = source.items record ∧ s.selectedRow itemsComp < (source.items record).length
  suppliedNames : s.supplied namesComp = records.length
  suppliedItems : s.supplied itemsComp = s.items.length
  suppliedOther : ∀ component, component ≠ namesComp → component ≠ itemsComp →
    s.supplied component ≤ 0

theorem viewDidLoad_consistent {source : PickerSource R} {records : List R}
    (hrecords : records ≠ []) (hitems : ∀ record ∈ records, source.items record ≠ []) :
    ∃ s, viewDidLoad source (.ok records) = some s ∧ Consistent source records s ∧
      s.rows = (0, 0) := by
  obtain ⟨first, rest, rfl⟩ := List.exists_cons_of_ne_nil hrecords
  have hpos : 0 < (source.items first).length :=
    List.length_pos_of_ne_nil (hitems first List.mem_cons_self)
  refine ⟨_, rfl, ⟨rfl, rfl, ⟨first, rfl, rfl, hpos⟩, ?_, ?_, ?_⟩, rfl⟩
  · simp [reloadAllComponents, numberOfComponents, numberOfRows, namesComp, itemsComp]
  · simp [reloadAllComponents, numberOfComponents, numberOfRows, itemsComp]
  · intro component hnames hitems
    simp only [namesComp, itemsComp] at hnames hitems
    have hother : ¬ component < numberOfComponents := by
      simp only [numberOfComponents]
      omega
    simp [reloadAllComponents, hother]

theorem Consistent.updateLabel {source : PickerSource R} {records : List R}
    {s : DependentPickers R} (h : Consistent source records s) :
    ∃ s', DependentPickers.updateLabel source s = some s' ∧
      Consistent source records s' ∧ LabelShowsSelection source records s' ∧
      s'.rows = s.rows := by
  obtain ⟨record, hrecord, hitems, hlt⟩ := h.selected
  have hitem : (source.items record)[s.selectedRow itemsComp]? =
      some (source.items record)[s.selectedRow itemsComp] := List.getElem?_eq_getElem hlt
  refine ⟨{ s with label := some (source.label (source.items record)[s.selectedRow itemsComp]
    (source.name record)) }, ?_, ⟨h.data, h.names, h.selected, h.suppliedNames,
      h.suppliedItems, h.suppliedOther⟩, ⟨record, _, hrecord, hitem, rfl⟩, rfl⟩
  simp [DependentPickers.updateLabel, hitems, hitem, h.names, hrecord]

theorem nameSelected_consistent {source : PickerSource R} {records : List R}
    (hitems : ∀ record ∈ records, source.items record ≠ []) {s : DependentPickers R}
    (h : Consistent source records s) {row : Nat} (hrow : row < records.length) :
    ∃ s', nameSelected source (s.selectRow row namesComp) row = some s' ∧
      Consistent source records s' ∧ s'.rows = (row, 0) := by
  have hrecord : records[row]? = some records[row] := List.getElem?_eq_getElem hrow
  have hpos : 0 < (source.items records[row]).length :=
    List.length_pos_of_ne_nil (hitems _ (List.getElem_mem hrow))
  have hne : itemsComp ≠ namesComp := by decide
  let shown : DependentPickers R :=
    { s.selectRow row namesComp with items := source.items records[row] }
  have hshown : nameSelected source (s.selectRow row namesComp) row =
      some ((shown.reloadComponent itemsComp).selectRow 0 itemsComp) := by
    simp [nameSelected, getItems, selectRow, h.data, hrecord, shown]
  refine ⟨_, hshown, ?_, ?_⟩
  · constructor
    · exact h.data
    · exact h.names
    · refine ⟨records[row], ?_, rfl, ?_⟩
      · simp [shown, reloadComponent, selectRow, hne.symm]
      · simpa [shown, reloadComponent, selectRow] using hpos
    · simpa [shown, reloadComponent, selectRow, hne.symm] using h.suppliedNames
    · simp [shown, reloadComponent, selectRow, numberOfRows]
    · intro component hnames hitemsComp
      simpa [shown, reloadComponent, selectRow, hitemsComp] using
        h.suppliedOther component hnames hitemsComp
  · simp [rows, shown, reloadComponent, selectRow, hne.symm]

theorem itemSelected_consistent {source : PickerSource R} {records : List R}
    {s : DependentPickers R} (h : Consistent source records s) {row : Nat}
    (hrow : row < s.items.length) : Consistent source records (s.selectRow row itemsComp) where
  data := h.data
  names := h.names
  selected := by
    obtain ⟨record, hrecord, hitems, -⟩ := h.selected
    refine ⟨record, ?_, hitems, ?_⟩
    · simpa [selectRow, namesComp, itemsComp] using hrecord
    · simpa [selectRow, ← hitems] using hrow
  suppliedNames := h.suppliedNames
  suppliedItems := h.suppliedItems
  suppliedOther := h.suppliedOther

theorem step_consistent {source : PickerSource R} {records : List R}
    (hitems : ∀ record ∈ records, source.items record ≠ []) {s : DependentPickers R}
    (h : Consistent source records s) {pick : Pick} (hrow : RowSupplied s pick) :
    ∃ s', step source s pick = some s' ∧ Consistent source records s' ∧
      LabelShowsSelection source records s' ∧ s'.rows = pickedRows s.rows pick := by
  obtain ⟨row, component⟩ := pick
  simp only [RowSupplied] at hrow
  by_cases hnames : component = namesComp
  · subst hnames
    have hlt : row < records.length := by
      rw [h.suppliedNames] at hrow
      omega
    obtain ⟨next, hnext, hconsistent, hrows⟩ := nameSelected_consistent hitems h hlt
    obtain ⟨s', hs', hconsistent', hlabel, hsame⟩ := hconsistent.updateLabel
    refine ⟨s', by simp [step, didSelectRow, hnext, hs'], hconsistent', hlabel, ?_⟩
    simp [hsame, hrows, pickedRows]
  · by_cases hitemsComp : component = itemsComp
    · subst hitemsComp
      have hlt : row < s.items.length := by
        rw [h.suppliedItems] at hrow
        omega
      obtain ⟨s', hs', hconsistent', hlabel, hsame⟩ :=
        (itemSelected_consistent h hlt).updateLabel
      refine ⟨s', by simp [step, didSelectRow, hnames, hs'], hconsistent', hlabel, ?_⟩
      rw [hsame]
      simp [rows, pickedRows, hnames, selectRow, Ne.symm hnames]
    · -- the picker has no other component
      have hnone := h.suppliedOther component hnames hitemsComp
      omega

theorem run_consistent {source : PickerSource R} {records : List R}
    (hitems : ∀ record ∈ records, source.items record ≠ []) {s : DependentPickers R}
    (h : Consistent source records s) {picks : List Pick}
    (hrows : EveryStep (step source) RowSupplied s picks) :
    ∃ s', run (step source) s picks = some s' ∧ Consistent source records s' ∧
      s'.rows = picks.foldl pickedRows s.rows ∧
      (picks ≠ [] → LabelShowsSelection source records s') := by
  induction picks generalizing s with
  | nil => exact ⟨s, rfl, h, rfl, fun hempty => absurd rfl hempty⟩
  | cons pick picks ih =>
      obtain ⟨next, hnext, hconsistent, hlabel, hpicked⟩ := step_consistent hitems h hrows.1
      obtain ⟨s', hs', hconsistent', hrows', hlabel'⟩ := ih hconsistent (hrows.2 next hnext)
      refine ⟨s', by simp [hnext, hs'], hconsistent', ?_, fun _ => ?_⟩
      · rw [hrows', hpicked, List.foldl_cons]
      · cases picks with
        | nil =>
            cases hs'
            exact hlabel
        | cons other picks => exact hlabel' (by simp)

/-- The screen loads, every run of picks goes through, and after each of them the wheels
have the rows picked and the label shows them. -/
theorem picks_stay_consistent {source : PickerSource R} {records : List R}
    (hrecords : records ≠ []) (hitems : ∀ record ∈ records, source.items record ≠ []) :
    ∃ start, viewDidLoad source (.ok records) = some start ∧
      ∀ picks, EveryStep (step source) RowSupplied start picks →
        ∃ s, run (step source) start picks = some s ∧ s.rows = lastPicked picks ∧
          (picks ≠ [] → LabelShowsSelection source records s) := by
  obtain ⟨start, hstart, hconsistent, hrows⟩ := viewDidLoad_consistent hrecords hitems
  refine ⟨start, hstart, fun picks hpicks => ?_⟩
  obtain ⟨s, hs, -, hlast, hlabel⟩ := run_consistent hitems hconsistent hpicks
  exact ⟨s, hs, by rw [hlast, hrows, lastPicked], hlabel⟩

end DependentPickers

end AdvMad.Shared
