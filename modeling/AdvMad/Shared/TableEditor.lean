import AdvMad.Foundation.ArrayOps
import AdvMad.Foundation.PartialStep

/-!
# A table that edits one stored list of names

The city editor of lab2New and the country editors repeat one set of handlers:
a data controller keeps `allData`, the table shows a working copy of one
record's list, and every handler updates both.  `NameList` says where a record
keeps its list; the handlers are written once over it.
-/

namespace AdvMad.Shared

open AdvMad.Foundation

structure NameList (M : Type) where
  title : M → String
  names : M → List String
  withNames : M → List String → M
  names_withNames : ∀ item list, names (withNames item list) = list
  title_withNames : ∀ item list, title (withNames item list) = title item

attribute [simp] NameList.names_withNames NameList.title_withNames

variable {M : Type}

/-! ## Data controller -/

def getNames (L : NameList M) (allData : List M) (idx : Nat) :
    Option (List String) :=
  allData[idx]?.map L.names

def addName (L : NameList M) (allData : List M) (dataIdx : Nat)
    (newName : String) (nameIdx : Nat) : Option (List M) := do
  let item ← allData[dataIdx]?
  let names ← insertAt? (L.names item) newName nameIdx
  some (allData.set dataIdx (L.withNames item names))

def deleteName (L : NameList M) (allData : List M) (dataIdx nameIdx : Nat) :
    Option (List M) := do
  let item ← allData[dataIdx]?
  let names ← removeAt? (L.names item) nameIdx
  some (allData.set dataIdx (L.withNames item names))

/-! ## Table view controller -/

/-- The screen: the shared controller's data, the selected record, the working copy. -/
structure TableScreen (M : Type) where
  allData : List M
  selected : Nat
  list : List String
  deriving DecidableEq, Repr

inductive EditingStyle where
  | none
  | delete
  | insert
  deriving DecidableEq, Repr

inductive TableEvent where
  | viewWillAppear
  | unwindSegue (identifier : Option String) (added : String)
  | commit (editingStyle : EditingStyle) (row : Nat)
  | moveRow (fromRow toRow : Nat)
  deriving DecidableEq, Repr

def viewWillAppear (L : NameList M) (s : TableScreen M) :
    Option (TableScreen M) := do
  let list ← getNames L s.allData s.selected
  some { s with list := list }

def unwindSegue (L : NameList M) (s : TableScreen M)
    (identifier : Option String) (added : String) : Option (TableScreen M) :=
  if identifier = some "save" then
    if added.isEmpty = false then do
      let allData ← addName L s.allData s.selected added s.list.length
      some { s with allData := allData, list := s.list ++ [added] }
    else some s
  else some s

def commit (L : NameList M) (s : TableScreen M) (editingStyle : EditingStyle)
    (row : Nat) : Option (TableScreen M) :=
  if editingStyle = .delete then do
    let list ← removeAt? s.list row
    let allData ← deleteName L s.allData s.selected row
    some { s with allData := allData, list := list }
  else some s

/-- The working copy swaps the two rows; the stored list deletes and inserts. -/
def moveRow (L : NameList M) (s : TableScreen M) (fromRow toRow : Nat) :
    Option (TableScreen M) := do
  let moved ← s.list[fromRow]?
  let list ← swapAt? s.list fromRow toRow
  let allData ← deleteName L s.allData s.selected fromRow
  let allData ← addName L allData s.selected moved toRow
  some { s with allData := allData, list := list }

def tableStep (L : NameList M) (s : TableScreen M) :
    TableEvent → Option (TableScreen M)
  | .viewWillAppear => viewWillAppear L s
  | .unwindSegue identifier added => unwindSegue L s identifier added
  | .commit editingStyle row => commit L s editingStyle row
  | .moveRow fromRow toRow => moveRow L s fromRow toRow

def opened (L : NameList M) (allData : List M) (selected : Nat) : TableScreen M :=
  ⟨allData, selected, (getNames L allData selected).getD []⟩

/-! ## Reading and writing one stored list -/

def storeNames (L : NameList M) (allData : List M) (idx : Nat)
    (names : List String) : List M :=
  match allData[idx]? with
  | some item => allData.set idx (L.withNames item names)
  | none => allData

theorem lt_of_getNames {L : NameList M} {allData : List M} {idx : Nat}
    {names : List String} (h : getNames L allData idx = some names) :
    idx < allData.length := by
  obtain ⟨item, hitem, -⟩ := Option.map_eq_some_iff.mp h
  exact (List.getElem?_eq_some_iff.mp hitem).1

theorem getNames_storeNames {L : NameList M} {allData : List M} {idx : Nat}
    (h : idx < allData.length) (names : List String) :
    getNames L (storeNames L allData idx names) idx = some names := by
  simp [getNames, storeNames, h]

@[simp] theorem length_storeNames (L : NameList M) (allData : List M) (idx : Nat)
    (names : List String) : (storeNames L allData idx names).length = allData.length := by
  unfold storeNames
  split <;> simp

theorem addName_eq {L : NameList M} {allData : List M} {dataIdx : Nat}
    {names : List String} (h : getNames L allData dataIdx = some names)
    (newName : String) (nameIdx : Nat) :
    addName L allData dataIdx newName nameIdx =
      (insertAt? names newName nameIdx).map (storeNames L allData dataIdx) := by
  obtain ⟨item, hitem, rfl⟩ := Option.map_eq_some_iff.mp h
  cases hins : insertAt? (L.names item) newName nameIdx <;>
    simp [addName, hitem, hins, storeNames]

theorem deleteName_eq {L : NameList M} {allData : List M} {dataIdx : Nat}
    {names : List String} (h : getNames L allData dataIdx = some names)
    (nameIdx : Nat) :
    deleteName L allData dataIdx nameIdx =
      (removeAt? names nameIdx).map (storeNames L allData dataIdx) := by
  obtain ⟨item, hitem, rfl⟩ := Option.map_eq_some_iff.mp h
  cases hrem : removeAt? (L.names item) nameIdx <;>
    simp [deleteName, hitem, hrem, storeNames]

structure EditsOnly (L : NameList M) (idx : Nat) (before after : List M) : Prop where
  titles : after.map L.title = before.map L.title
  others : ∀ other, other ≠ idx → after[other]? = before[other]?

theorem EditsOnly.refl (L : NameList M) (idx : Nat) (allData : List M) :
    EditsOnly L idx allData allData := ⟨rfl, fun _ _ => rfl⟩

theorem EditsOnly.trans {L : NameList M} {idx : Nat} {first second third : List M}
    (h : EditsOnly L idx first second) (h' : EditsOnly L idx second third) :
    EditsOnly L idx first third where
  titles := h'.titles.trans h.titles
  others other hother := (h'.others other hother).trans (h.others other hother)

theorem EditsOnly.length_eq {L : NameList M} {idx : Nat} {before after : List M}
    (h : EditsOnly L idx before after) : after.length = before.length := by
  simpa using congrArg List.length h.titles

theorem EditsOnly.storeNames (L : NameList M) (idx : Nat) (allData : List M)
    (names : List String) : EditsOnly L idx allData (storeNames L allData idx names) := by
  unfold Shared.storeNames
  cases hitem : allData[idx]? with
  | none => exact EditsOnly.refl L idx allData
  | some item =>
      refine ⟨?_, fun other hother => List.getElem?_set_ne (Ne.symm hother)⟩
      have htitle : (allData.map L.title)[idx]? = some (L.title item) := by simp [hitem]
      obtain ⟨hidx, hget⟩ := List.getElem?_eq_some_iff.mp htitle
      rw [List.map_set, L.title_withNames, ← hget, List.set_getElem_self]

/-! ## The working copy and the stored list -/

def Mirrors (L : NameList M) (s : TableScreen M) : Prop :=
  getNames L s.allData s.selected = some s.list

def RowsInTable (s : TableScreen M) : TableEvent → Prop
  | .commit _ row => row < s.list.length
  | .moveRow fromRow toRow => fromRow < s.list.length ∧ toRow < s.list.length
  | .viewWillAppear | .unwindSegue _ _ => True

def MovesJumpEqual (s : TableScreen M) : TableEvent → Prop
  | .moveRow fromRow toRow => JumpsEqual s.list fromRow toRow
  | .viewWillAppear | .unwindSegue _ _ | .commit _ _ => True

def MovesAdjacent (_ : TableScreen M) : TableEvent → Prop
  | .moveRow fromRow toRow => fromRow = toRow ∨ fromRow + 1 = toRow ∨ toRow + 1 = fromRow
  | .viewWillAppear | .unwindSegue _ _ | .commit _ _ => True

def DeletesShown (L : NameList M) (s : TableScreen M) : TableEvent → Prop
  | .commit .delete row =>
      (getNames L s.allData s.selected).bind (·[row]?) = s.list[row]?
  | _ => True

instance (s : TableScreen M) (event : TableEvent) :
    Decidable (RowsInTable s event) := by
  cases event <;> unfold RowsInTable <;> infer_instance

instance (s : TableScreen M) (event : TableEvent) :
    Decidable (MovesJumpEqual s event) := by
  cases event <;> unfold MovesJumpEqual <;> infer_instance

instance (L : NameList M) (s : TableScreen M) (event : TableEvent) :
    Decidable (DeletesShown L s event) := by
  rcases event with _ | _ | ⟨_ | _ | _, row⟩ | _ <;> unfold DeletesShown <;>
    infer_instance

theorem opened_mirrors {L : NameList M} {allData : List M} {selected : Nat}
    (h : selected < allData.length) : Mirrors L (opened L allData selected) := by
  simp [Mirrors, opened, getNames, h]

theorem viewWillAppear_opened {L : NameList M} {allData : List M} {selected : Nat}
    (h : selected < allData.length) (list : List String) :
    viewWillAppear L ⟨allData, selected, list⟩ = some (opened L allData selected) := by
  simp [viewWillAppear, opened, getNames, h]

theorem Mirrors.selected_lt {L : NameList M} {s : TableScreen M}
    (h : Mirrors L s) : s.selected < s.allData.length := lt_of_getNames h

private theorem mirrors_store {L : NameList M} {s : TableScreen M}
    (h : s.selected < s.allData.length) (stored shown : List String) :
    Mirrors L { s with allData := storeNames L s.allData s.selected stored,
                       list := shown } ↔ stored = shown := by
  simp [Mirrors, getNames_storeNames h]

theorem unwindSegue_mirrors {L : NameList M} {s : TableScreen M}
    (h : Mirrors L s) (identifier : Option String) (added : String) :
    ∃ s', unwindSegue L s identifier added = some s' ∧ Mirrors L s' := by
  unfold unwindSegue
  split
  · split
    · rw [addName_eq h, insertAt?_length]
      exact ⟨_, rfl, (mirrors_store h.selected_lt _ _).mpr rfl⟩
    · exact ⟨s, rfl, h⟩
  · exact ⟨s, rfl, h⟩

theorem commit_mirrors {L : NameList M} {s : TableScreen M} (h : Mirrors L s)
    (editingStyle : EditingStyle) {row : Nat} (hrow : row < s.list.length) :
    ∃ s', commit L s editingStyle row = some s' ∧ Mirrors L s' := by
  unfold commit
  split
  · rw [deleteName_eq h, removeAt?_of_lt hrow]
    exact ⟨_, rfl, (mirrors_store h.selected_lt _ _).mpr rfl⟩
  · exact ⟨s, rfl, h⟩

theorem moveRow_eq {L : NameList M} {s : TableScreen M} {names : List String}
    (h : getNames L s.allData s.selected = some names)
    (hlen : names.length = s.list.length) {fromRow toRow : Nat}
    (hfrom : fromRow < s.list.length) (hto : toRow < s.list.length) :
    ∃ allData', moveRow L s fromRow toRow = some { s with
        allData := allData',
        list := (s.list.set fromRow s.list[toRow]).set toRow s.list[fromRow] } ∧
      getNames L allData' s.selected =
        some ((names.eraseIdx fromRow).insertIdx toRow s.list[fromRow]) ∧
      EditsOnly L s.selected s.allData allData' := by
  have hsel : s.selected < s.allData.length := lt_of_getNames h
  have hfrom' : fromRow < names.length := hlen ▸ hfrom
  have hto' : toRow ≤ (names.eraseIdx fromRow).length := by
    rw [List.length_eraseIdx_of_lt hfrom']
    omega
  have hdelete : deleteName L s.allData s.selected fromRow =
      some (storeNames L s.allData s.selected (names.eraseIdx fromRow)) := by
    rw [deleteName_eq h, removeAt?_of_lt hfrom']
    rfl
  have hstored : getNames L
      (storeNames L s.allData s.selected (names.eraseIdx fromRow)) s.selected =
        some (names.eraseIdx fromRow) := getNames_storeNames hsel _
  refine ⟨storeNames L
    (storeNames L s.allData s.selected (names.eraseIdx fromRow)) s.selected
    ((names.eraseIdx fromRow).insertIdx toRow s.list[fromRow]), ?_,
    getNames_storeNames (by simpa using hsel) _,
    (EditsOnly.storeNames L _ _ _).trans (EditsOnly.storeNames L _ _ _)⟩
  simp [moveRow, hfrom, swapAt?_of_lt hfrom hto, hdelete, addName_eq hstored,
    insertAt?_of_le hto']

theorem moveRow_mirrors_iff {L : NameList M} {s : TableScreen M}
    (h : Mirrors L s) {fromRow toRow : Nat} (hfrom : fromRow < s.list.length)
    (hto : toRow < s.list.length) :
    ∃ s', moveRow L s fromRow toRow = some s' ∧
      (Mirrors L s' ↔ JumpsEqual s.list fromRow toRow) := by
  obtain ⟨allData', hmove, hstored, -⟩ := moveRow_eq h rfl hfrom hto
  refine ⟨_, hmove, ?_⟩
  rw [← swapAt?_eq_moveAt?_iff hfrom hto, swapAt?_of_lt hfrom hto,
    moveAt?_of_lt hfrom hto]
  simp only [Mirrors, hstored, Option.some.injEq]
  exact eq_comm

theorem tableStep_mirrors_iff {L : NameList M} {s : TableScreen M}
    {event : TableEvent} (h : Mirrors L s) (hrows : RowsInTable s event) :
    ∃ s', tableStep L s event = some s' ∧
      (Mirrors L s' ↔ MovesJumpEqual s event) := by
  cases event with
  | viewWillAppear =>
      refine ⟨s, ?_, by simp [MovesJumpEqual, h]⟩
      simp [tableStep, viewWillAppear, show getNames L s.allData s.selected = _ from h]
  | unwindSegue identifier added =>
      obtain ⟨s', hs', hmirrors⟩ := unwindSegue_mirrors h identifier added
      exact ⟨s', hs', by simp [MovesJumpEqual, hmirrors]⟩
  | commit editingStyle row =>
      obtain ⟨s', hs', hmirrors⟩ := commit_mirrors h editingStyle hrows
      exact ⟨s', hs', by simp [MovesJumpEqual, hmirrors]⟩
  | moveRow fromRow toRow => exact moveRow_mirrors_iff h hrows.1 hrows.2

/-- The working copy stays equal to the stored list exactly if every move jumps over
equal rows only. -/
theorem always_mirrors_iff {L : NameList M} {s : TableScreen M}
    {events : List TableEvent} (h : Mirrors L s)
    (hrows : EveryStep (tableStep L) RowsInTable s events) :
    Always (tableStep L) (Mirrors L) s events ↔
      EveryStep (tableStep L) MovesJumpEqual s events := by
  refine always_iff_everyStep (fun _ => True) ?_ trivial h hrows
  intro s event _ hmirrors hrow
  obtain ⟨s', hs', hiff⟩ := tableStep_mirrors_iff hmirrors hrow
  exact ⟨s', hs', trivial, hiff⟩

theorem always_mirrors_of_adjacent {L : NameList M} {s : TableScreen M}
    {events : List TableEvent} (h : Mirrors L s)
    (hrows : EveryStep (tableStep L) RowsInTable s events)
    (hadjacent : EveryStep (tableStep L) MovesAdjacent s events) :
    Always (tableStep L) (Mirrors L) s events := by
  apply (always_mirrors_iff h hrows).mpr
  apply hadjacent.mono
  intro s event hevent
  cases event with
  | moveRow fromRow toRow => exact JumpsEqual.of_adjacent hevent
  | viewWillAppear | unwindSegue identifier added | commit editingStyle row => trivial

theorem deletesShown_of_mirrors {L : NameList M} {s : TableScreen M}
    (h : Mirrors L s) (event : TableEvent) : DeletesShown L s event := by
  rcases event with _ | _ | ⟨_ | _ | _, row⟩ | _ <;>
    simp [DeletesShown, show getNames L s.allData s.selected = _ from h]

/-! ## Every access in range -/

def SameLength (L : NameList M) (s : TableScreen M) : Prop :=
  ∃ names, getNames L s.allData s.selected = some names ∧ names.length = s.list.length

structure EditsSelected (L : NameList M) (start s : TableScreen M) : Prop where
  selected : s.selected = start.selected
  edits : EditsOnly L start.selected start.allData s.allData

theorem EditsSelected.refl (L : NameList M) (s : TableScreen M) : EditsSelected L s s :=
  ⟨rfl, EditsOnly.refl L s.selected s.allData⟩

theorem EditsSelected.trans {L : NameList M} {first second third : TableScreen M}
    (h : EditsSelected L first second) (h' : EditsSelected L second third) :
    EditsSelected L first third where
  selected := h'.selected.trans h.selected
  edits := h.edits.trans (h.selected ▸ h'.edits)

theorem Mirrors.sameLength {L : NameList M} {s : TableScreen M} (h : Mirrors L s) :
    SameLength L s := ⟨s.list, h, rfl⟩

private theorem stored_edits {L : NameList M} {s : TableScreen M} {names : List String}
    (h : getNames L s.allData s.selected = some names) (stored shown : List String)
    (hlen : stored.length = shown.length) :
    let s' : TableScreen M :=
      { s with allData := storeNames L s.allData s.selected stored, list := shown }
    SameLength L s' ∧ EditsSelected L s s' := by
  have hsel : s.selected < s.allData.length := lt_of_getNames h
  constructor
  · exact ⟨stored, getNames_storeNames hsel stored, hlen⟩
  · exact ⟨rfl, EditsOnly.storeNames L s.selected s.allData stored⟩

theorem viewWillAppear_edits {L : NameList M} {s : TableScreen M} (h : SameLength L s) :
    ∃ s', viewWillAppear L s = some s' ∧ SameLength L s' ∧ EditsSelected L s s' := by
  obtain ⟨names, hnames, -⟩ := h
  refine ⟨{ s with list := names }, by simp [viewWillAppear, hnames], ?_, ?_⟩
  · exact ⟨names, hnames, rfl⟩
  · exact ⟨rfl, EditsOnly.refl L s.selected s.allData⟩

theorem unwindSegue_edits {L : NameList M} {s : TableScreen M} (h : SameLength L s)
    (identifier : Option String) (added : String) :
    ∃ s', unwindSegue L s identifier added = some s' ∧ SameLength L s' ∧
      EditsSelected L s s' := by
  obtain ⟨names, hnames, hlen⟩ := h
  unfold unwindSegue
  split
  · split
    · -- the new name goes behind the last row, which is also the end of the stored list
      have hinsert : insertAt? names added s.list.length = some (names ++ [added]) := by
        rw [← hlen, insertAt?_length]
      rw [addName_eq hnames, hinsert]
      exact ⟨_, rfl, stored_edits hnames _ _ (by simp [hlen])⟩
    · exact ⟨s, rfl, ⟨names, hnames, hlen⟩, EditsSelected.refl L s⟩
  · exact ⟨s, rfl, ⟨names, hnames, hlen⟩, EditsSelected.refl L s⟩

theorem commit_edits {L : NameList M} {s : TableScreen M} (h : SameLength L s)
    (editingStyle : EditingStyle) {row : Nat} (hrow : row < s.list.length) :
    ∃ s', commit L s editingStyle row = some s' ∧ SameLength L s' ∧
      EditsSelected L s s' := by
  obtain ⟨names, hnames, hlen⟩ := h
  have hrow' : row < names.length := by omega
  unfold commit
  split
  · rw [deleteName_eq hnames, removeAt?_of_lt hrow, removeAt?_of_lt hrow']
    refine ⟨_, rfl, stored_edits hnames _ _ ?_⟩
    rw [List.length_eraseIdx_of_lt hrow, List.length_eraseIdx_of_lt hrow', hlen]
  · exact ⟨s, rfl, ⟨names, hnames, hlen⟩, EditsSelected.refl L s⟩

theorem moveRow_edits {L : NameList M} {s : TableScreen M} (h : SameLength L s)
    {fromRow toRow : Nat} (hfrom : fromRow < s.list.length)
    (hto : toRow < s.list.length) :
    ∃ s', moveRow L s fromRow toRow = some s' ∧ SameLength L s' ∧
      EditsSelected L s s' := by
  obtain ⟨names, hnames, hlen⟩ := h
  obtain ⟨allData', hmove, hstored, hedits⟩ := moveRow_eq hnames hlen hfrom hto
  have herase : (names.eraseIdx fromRow).length = names.length - 1 :=
    List.length_eraseIdx_of_lt (by omega)
  refine ⟨_, hmove, ⟨_, hstored, ?_⟩, ⟨rfl, hedits⟩⟩
  rw [List.length_insertIdx_of_le_length (by omega)]
  simp only [List.length_set]
  omega

theorem tableStep_edits {L : NameList M} {s : TableScreen M} {event : TableEvent}
    (h : SameLength L s) (hrows : RowsInTable s event) :
    ∃ s', tableStep L s event = some s' ∧ SameLength L s' ∧ EditsSelected L s s' := by
  cases event with
  | viewWillAppear => exact viewWillAppear_edits h
  | unwindSegue identifier added => exact unwindSegue_edits h identifier added
  | commit editingStyle row => exact commit_edits h editingStyle hrows
  | moveRow fromRow toRow => exact moveRow_edits h hrows.1 hrows.2

theorem always_edits {L : NameList M} {start : TableScreen M} {events : List TableEvent}
    (h : SameLength L start) (hrows : EveryStep (tableStep L) RowsInTable start events) :
    Always (tableStep L) (fun s => SameLength L s ∧ EditsSelected L start s)
      start events := by
  have hstep : ∀ s event, SameLength L s ∧ EditsSelected L start s → RowsInTable s event →
      ∃ s', tableStep L s event = some s' ∧
        (SameLength L s' ∧ EditsSelected L start s') := by
    rintro s event ⟨hlen, hedits⟩ hevent
    obtain ⟨s', hs', hlen', hedits'⟩ := tableStep_edits hlen hevent
    exact ⟨s', hs', hlen', hedits.trans hedits'⟩
  exact always_of_step hstep ⟨h, EditsSelected.refl L start⟩ hrows

/-! ## The same names in another order -/

def SameNames (L : NameList M) (s : TableScreen M) : Prop :=
  ∃ names, getNames L s.allData s.selected = some names ∧ names.Perm s.list

def StartsAtShown (L : NameList M) (s : TableScreen M) : TableEvent → Prop
  | .commit .delete row | .moveRow row _ =>
      (getNames L s.allData s.selected).bind (·[row]?) = s.list[row]?
  | .commit .none _ | .commit .insert _ | .viewWillAppear | .unwindSegue _ _ => True

instance (L : NameList M) (s : TableScreen M) (event : TableEvent) :
    Decidable (StartsAtShown L s event) := by
  rcases event with _ | _ | ⟨_ | _ | _, row⟩ | _ <;> unfold StartsAtShown <;>
    infer_instance

theorem SameNames.sameLength {L : NameList M} {s : TableScreen M} (h : SameNames L s) :
    SameLength L s := by
  obtain ⟨names, hnames, hperm⟩ := h
  exact ⟨names, hnames, hperm.length_eq⟩

private theorem sameNames_store {L : NameList M} {s : TableScreen M}
    (h : s.selected < s.allData.length) (stored shown : List String) :
    SameNames L { s with allData := storeNames L s.allData s.selected stored,
                         list := shown } ↔ stored.Perm shown := by
  simp [SameNames, getNames_storeNames h]

theorem unwindSegue_sameNames {L : NameList M} {s : TableScreen M} (h : SameNames L s)
    (identifier : Option String) (added : String) :
    ∃ s', unwindSegue L s identifier added = some s' ∧ SameNames L s' := by
  obtain ⟨names, hnames, hperm⟩ := h
  unfold unwindSegue
  split
  · split
    · have hinsert : insertAt? names added s.list.length = some (names ++ [added]) := by
        rw [← hperm.length_eq, insertAt?_length]
      rw [addName_eq hnames, hinsert]
      exact ⟨_, rfl, (sameNames_store (lt_of_getNames hnames) _ _).mpr (hperm.append_right _)⟩
    · exact ⟨s, rfl, names, hnames, hperm⟩
  · exact ⟨s, rfl, names, hnames, hperm⟩

theorem commit_sameNames_iff {L : NameList M} {s : TableScreen M} (h : SameNames L s)
    (editingStyle : EditingStyle) {row : Nat} (hrow : row < s.list.length) :
    ∃ s', commit L s editingStyle row = some s' ∧
      (SameNames L s' ↔ StartsAtShown L s (.commit editingStyle row)) := by
  obtain ⟨names, hnames, hperm⟩ := h
  have hrow' : row < names.length := hperm.length_eq ▸ hrow
  have hsel := lt_of_getNames hnames
  cases editingStyle with
  | none | insert => exact ⟨s, rfl, iff_of_true ⟨names, hnames, hperm⟩ trivial⟩
  | delete =>
      refine ⟨{ s with
          allData := storeNames L s.allData s.selected (names.eraseIdx row)
          list := s.list.eraseIdx row }, ?_, ?_⟩
      · simp [commit, deleteName_eq hnames, removeAt?_of_lt hrow, removeAt?_of_lt hrow']
      · rw [sameNames_store hsel, eraseIdx_perm_iff hperm hrow' hrow]
        simp [StartsAtShown, hnames, hrow, hrow']

theorem moveRow_sameNames_iff {L : NameList M} {s : TableScreen M} (h : SameNames L s)
    {fromRow toRow : Nat} (hfrom : fromRow < s.list.length) (hto : toRow < s.list.length) :
    ∃ s', moveRow L s fromRow toRow = some s' ∧
      (SameNames L s' ↔ StartsAtShown L s (.moveRow fromRow toRow)) := by
  obtain ⟨names, hnames, hperm⟩ := h
  have hfrom' : fromRow < names.length := hperm.length_eq ▸ hfrom
  obtain ⟨allData', hmove, hstored, -⟩ := moveRow_eq hnames hperm.length_eq hfrom hto
  refine ⟨_, hmove, ?_⟩
  have hiff := move_perm_swap_iff hperm hfrom hto hfrom'
  simpa [SameNames, hstored, StartsAtShown, hnames, hfrom, hfrom'] using hiff

theorem tableStep_sameNames_iff {L : NameList M} {s : TableScreen M} {event : TableEvent}
    (h : SameNames L s) (hrows : RowsInTable s event) :
    ∃ s', tableStep L s event = some s' ∧ (SameNames L s' ↔ StartsAtShown L s event) := by
  cases event with
  | viewWillAppear =>
      obtain ⟨names, hnames, -⟩ := h
      refine ⟨{ s with list := names }, by simp [tableStep, viewWillAppear, hnames], ?_⟩
      exact iff_of_true ⟨names, hnames, List.Perm.refl names⟩ trivial
  | unwindSegue identifier added =>
      obtain ⟨s', hs', hsame⟩ := unwindSegue_sameNames h identifier added
      exact ⟨s', hs', iff_of_true hsame trivial⟩
  | commit editingStyle row => exact commit_sameNames_iff h editingStyle hrows
  | moveRow fromRow toRow => exact moveRow_sameNames_iff h hrows.1 hrows.2

/-- The table shows the stored names in some order exactly as long as every delete and
every move starts at a row that shows the name stored there. -/
theorem always_sameNames_iff {L : NameList M} {s : TableScreen M} {events : List TableEvent}
    (h : SameNames L s) (hrows : EveryStep (tableStep L) RowsInTable s events) :
    Always (tableStep L) (SameNames L) s events ↔
      EveryStep (tableStep L) (StartsAtShown L) s events := by
  refine always_iff_everyStep (fun _ => True) ?_ trivial h hrows
  intro s event _ hsame hrow
  obtain ⟨s', hs', hiff⟩ := tableStep_sameNames_iff hsame hrow
  exact ⟨s', hs', trivial, hiff⟩

/-! ## Where the names come from -/

def StoredNames (L : NameList M) (P : String → Prop) (allData : List M) : Prop :=
  ∀ item ∈ allData, ∀ name ∈ L.names item, P name

structure AllNames (L : NameList M) (P : String → Prop) (s : TableScreen M) : Prop where
  stored : StoredNames L P s.allData
  shown : ∀ name ∈ s.list, P name

section
variable {L : NameList M} {P : String → Prop}

theorem StoredNames.set {allData : List M} (h : StoredNames L P allData) {item : M}
    {names : List String} (hnames : ∀ name ∈ names, P name) (dataIdx : Nat) :
    StoredNames L P (allData.set dataIdx (L.withNames item names)) := by
  intro other hother
  rcases List.mem_or_eq_of_mem_set hother with hmem | rfl
  · exact h other hmem
  · simpa using hnames

theorem StoredNames.addName {allData allData' : List M} (h : StoredNames L P allData)
    {newName : String} (hnew : P newName) {dataIdx nameIdx : Nat}
    (hadd : addName L allData dataIdx newName nameIdx = some allData') :
    StoredNames L P allData' := by
  obtain ⟨item, hitem, hadd⟩ := Option.bind_eq_some_iff.mp hadd
  obtain ⟨names, hnames, hallData'⟩ := Option.bind_eq_some_iff.mp hadd
  cases hallData'
  refine h.set (fun name hname => ?_) dataIdx
  rcases List.mem_cons.mp (insertAt?_subset hnames hname) with rfl | hold
  · exact hnew
  · exact h item (List.mem_of_getElem? hitem) name hold

theorem StoredNames.deleteName {allData allData' : List M} (h : StoredNames L P allData)
    {dataIdx nameIdx : Nat} (hdelete : deleteName L allData dataIdx nameIdx = some allData') :
    StoredNames L P allData' := by
  obtain ⟨item, hitem, hdelete⟩ := Option.bind_eq_some_iff.mp hdelete
  obtain ⟨names, hnames, hallData'⟩ := Option.bind_eq_some_iff.mp hdelete
  cases hallData'
  refine h.set (fun name hname => ?_) dataIdx
  exact h item (List.mem_of_getElem? hitem) name (removeAt?_subset hnames hname)

theorem tableStep_allNames {s s' : TableScreen M} (h : AllNames L P s) {event : TableEvent}
    (hadded : ∀ added, event = .unwindSegue (some "save") added → added ≠ "" → P added)
    (hstep : tableStep L s event = some s') : AllNames L P s' := by
  cases event with
  | viewWillAppear =>
      obtain ⟨list, hlist, hs'⟩ := Option.bind_eq_some_iff.mp hstep
      cases hs'
      obtain ⟨item, hitem, rfl⟩ := Option.map_eq_some_iff.mp hlist
      exact ⟨h.stored, h.stored item (List.mem_of_getElem? hitem)⟩
  | unwindSegue identifier added =>
      simp only [tableStep, unwindSegue] at hstep
      split at hstep
      · case isTrue hsave =>
          split at hstep
          · case isTrue hnonempty =>
              obtain ⟨allData, hallData, hs'⟩ := Option.bind_eq_some_iff.mp hstep
              cases hs'
              have hP : P added := by
                apply hadded added (by rw [hsave])
                rintro rfl
                simp at hnonempty
              refine ⟨h.stored.addName hP hallData, fun name hname => ?_⟩
              rcases List.mem_append.mp hname with hold | hnew
              · exact h.shown name hold
              · rwa [List.mem_singleton.mp hnew]
          · cases hstep
            exact h
      · cases hstep
        exact h
  | commit editingStyle row =>
      simp only [tableStep, commit] at hstep
      split at hstep
      · obtain ⟨list, hlist, hstep⟩ := Option.bind_eq_some_iff.mp hstep
        obtain ⟨allData, hallData, hs'⟩ := Option.bind_eq_some_iff.mp hstep
        cases hs'
        refine ⟨h.stored.deleteName hallData, fun name hname => ?_⟩
        exact h.shown name (removeAt?_subset hlist hname)
      · cases hstep
        exact h
  | moveRow fromRow toRow =>
      obtain ⟨moved, hmoved, hstep⟩ := Option.bind_eq_some_iff.mp hstep
      obtain ⟨list, hlist, hstep⟩ := Option.bind_eq_some_iff.mp hstep
      obtain ⟨deleted, hdeleted, hstep⟩ := Option.bind_eq_some_iff.mp hstep
      obtain ⟨allData, hallData, hs'⟩ := Option.bind_eq_some_iff.mp hstep
      cases hs'
      have hP : P moved := h.shown moved (List.mem_of_getElem? hmoved)
      refine ⟨(h.stored.deleteName hdeleted).addName hP hallData, fun name hname => ?_⟩
      exact h.shown name (swapAt?_subset hlist hname)

end

end AdvMad.Shared
