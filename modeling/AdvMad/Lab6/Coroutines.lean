import AdvMad.Foundation.Interleaving
import AdvMad.Lab6.FavoriteRepository

/-!
# lab6: calls that run at the same time

Each call of `FavoriteRepository` launches a coroutine of its own on
`Dispatchers.IO`, and nothing orders the coroutines.  A coroutine makes one
call of the DAO; those that read post what they found in a second step.  The
`i`-th call issued is coroutine `i`.
-/

namespace AdvMad.Lab6

open AdvMad.Foundation

inductive Call where
  | change (change : Change)
  | isAlertFavoriteId (id : String)
  | getDetailsForAlert (alert : Alert)
  deriving DecidableEq, Repr

def FavoriteRepository.perform (repo : FavoriteRepository) :
    Call → Option FavoriteRepository
  | .change change => some (repo.change change)
  | .isAlertFavoriteId id => some (repo.isAlertFavoriteId id)
  | .getDetailsForAlert alert => repo.getDetailsForAlert alert

/-! ## Coroutines -/

inductive Phase where
  | dao
  | post
  deriving DecidableEq, Repr

structure Action where
  coroutine : Nat
  phase : Phase
  deriving DecidableEq, Repr

def Call.phases : Call → List Phase
  | .change _ => [.dao]
  | .isAlertFavoriteId _ | .getDetailsForAlert _ => [.dao, .post]

/-- `found i` is what coroutine `i` has read. -/
structure Coroutines where
  repo : FavoriteRepository
  found : Nat → Option (Option Favorite)

namespace Coroutines

def launched (repo : FavoriteRepository) : Coroutines := ⟨repo, fun _ => none⟩

def read (state : Coroutines) (i : Nat) (id : String) : Coroutines :=
  { state with
    found := Function.update state.found i
      (some (FavoriteDAO.getFavorite state.repo.favorites id)) }

def dao (state : Coroutines) (i : Nat) : Call → Coroutines
  | .change change => { state with repo := state.repo.change change }
  | .isAlertFavoriteId id => state.read i id
  | .getDetailsForAlert alert => state.read i alert.id

def post (state : Coroutines) (favorite : Option Favorite) : Call → Option Coroutines
  | .change _ => none
  | .isAlertFavoriteId _ => some { state with repo := state.repo.postIsFavorite favorite }
  | .getDetailsForAlert _ =>
      (state.repo.postDetails favorite).map fun repo => { state with repo := repo }

def step (calls : List Call) (state : Coroutines) (action : Action) : Option Coroutines :=
  calls[action.coroutine]?.bind fun call =>
    match action.phase with
    | .dao => some (state.dao action.coroutine call)
    | .post => (state.found action.coroutine).bind fun favorite => state.post favorite call

@[simp] theorem step_of_none {calls : List Call} {i : Nat} (h : calls[i]? = none)
    (state : Coroutines) (phase : Phase) : step calls state ⟨i, phase⟩ = none := by
  simp [step, h]

@[simp] theorem step_dao {calls : List Call} {i : Nat} {call : Call}
    (h : calls[i]? = some call) (state : Coroutines) :
    step calls state ⟨i, .dao⟩ = some (state.dao i call) := by
  simp [step, h]

@[simp] theorem step_post {calls : List Call} {i : Nat} {call : Call}
    (h : calls[i]? = some call) (state : Coroutines) :
    step calls state ⟨i, .post⟩ = (state.found i).bind fun favorite =>
      state.post favorite call := by
  simp [step, h]

end Coroutines

/-! ## Orders of execution -/

def program (calls : List Call) (i : Nat) : List Action :=
  ((calls[i]?.map Call.phases).getD []).map fun phase => ⟨i, phase⟩

/-- All coroutines are executed to their end, each in its own order. -/
def Interleaves (calls : List Call) (actions : List Action) : Prop :=
  ∀ i, actions.filter (·.coroutine = i) = program calls i

theorem interleaves_iff {calls : List Call} {actions : List Action} :
    Interleaves calls actions ↔
      (∀ i < calls.length, actions.filter (·.coroutine = i) = program calls i) ∧
        ∀ action ∈ actions, action.coroutine < calls.length := by
  have hempty : ∀ i, calls.length ≤ i → program calls i = [] := by
    intro i hi
    have hnone : calls[i]? = none := List.getElem?_eq_none hi
    simp [program, hnone]
  constructor
  · intro h
    refine ⟨fun i _ => h i, fun action haction => ?_⟩
    apply Nat.lt_of_not_le
    intro hle
    have hnil := h action.coroutine
    rw [hempty _ hle, List.filter_eq_nil_iff] at hnil
    simpa using hnil action haction
  · rintro ⟨hprograms, hlt⟩ i
    by_cases hi : i < calls.length
    · exact hprograms i hi
    · rw [hempty i (Nat.le_of_not_lt hi), List.filter_eq_nil_iff]
      intro action haction
      have hlt := hlt action haction
      simpa using (by omega : action.coroutine ≠ i)

instance (calls : List Call) (actions : List Action) :
    Decidable (Interleaves calls actions) :=
  decidable_of_iff _ interleaves_iff.symm

def Call.id : Call → String
  | .change c => c.id
  | .isAlertFavoriteId id => id
  | .getDetailsForAlert alert => alert.id

def Call.writes : Call → Bool
  | .change _ => true
  | .isAlertFavoriteId _ | .getDetailsForAlert _ => false

inductive Target where
  | recipeIsFavorite
  | favoriteDetails
  deriving DecidableEq, Repr

def Call.target : Call → Option Target
  | .change _ => none
  | .isAlertFavoriteId _ => some .recipeIsFavorite
  | .getDetailsForAlert _ => some .favoriteDetails

def Conflict (c d : Call) : Phase → Phase → Prop
  | .dao, .dao => c.id = d.id ∧ (c.writes = true ∨ d.writes = true)
  | .post, .post => c.target = d.target
  | .dao, .post | .post, .dao => False

def InIssueOrder (calls : List Call) (actions : List Action) : Prop :=
  actions.Pairwise fun a b => ∀ c ∈ calls[a.coroutine]?, ∀ d ∈ calls[b.coroutine]?,
    Conflict c d a.phase b.phase → a.coroutine ≤ b.coroutine

def visible (repo : FavoriteRepository) :
    (String → Option Favorite) × LiveData Bool × LiveData Alert :=
  (repo.favorites.get, repo.recipeIsFavorite, repo.favoriteDetails)

def Call.toChange : Call → Option Change
  | .change c => some c
  | .isAlertFavoriteId _ | .getDetailsForAlert _ => none

def changeOf (calls : List Call) (action : Action) : Option Change :=
  match action.phase with
  | .dao => calls[action.coroutine]?.bind Call.toChange
  | .post => none

def changesIn (calls : List Call) (actions : List Action) : List Change :=
  actions.filterMap (changeOf calls)

def tableAfter (repo : FavoriteRepository) (calls : List Call) (actions : List Action) :
    FavoritesTable :=
  (changesIn calls actions).foldl Change.write repo.favorites

def Shows (repo : FavoriteRepository) (favorite : Option Favorite) : Target → Prop
  | .recipeIsFavorite => repo.recipeIsFavorite.value = some favorite.isSome
  | .favoriteDetails => ∃ fav, favorite = some fav ∧
      repo.favoriteDetails.value = some (Alert.fromRoomFavorite fav)

def PostsElsewhere (calls : List Call) (target : Target) (action : Action) : Prop :=
  action.phase = .post → ∀ call ∈ calls[action.coroutine]?, call.target ≠ some target

/-! ## Exchanging actions -/

namespace Coroutines

def observed (state : Coroutines) :
    ((String → Option Favorite) × LiveData Bool × LiveData Alert) ×
      (Nat → Option (Option Favorite)) :=
  (visible state.repo, state.found)

theorem observed_eq_iff {state other : Coroutines} :
    state.observed = other.observed ↔
      state.repo.favorites.get = other.repo.favorites.get ∧
        state.repo.recipeIsFavorite = other.repo.recipeIsFavorite ∧
        state.repo.favoriteDetails = other.repo.favoriteDetails ∧
        state.found = other.found := by
  simp [observed, visible, and_assoc]

theorem dao_congr {state other : Coroutines} (h : state.observed = other.observed)
    (i : Nat) (call : Call) :
    (state.dao i call).observed = (other.dao i call).observed := by
  rw [observed_eq_iff] at h ⊢
  cases call <;>
    simp [dao, read, FavoriteRepository.change, Change.get_write, FavoriteDAO.getFavorite, h]

theorem post_congr {state other : Coroutines} (h : state.observed = other.observed)
    (favorite : Option Favorite) (call : Call) :
    (state.post favorite call).map observed = (other.post favorite call).map observed := by
  rw [observed_eq_iff] at h
  cases call <;> cases favorite <;>
    simp [post, observed_eq_iff, FavoriteRepository.postIsFavorite,
      FavoriteRepository.postDetails, h]

theorem step_congruent (calls : List Call) : Congruent (step calls) observed := by
  rintro state other ⟨i, phase⟩ h
  cases hcall : calls[i]? with
  | none => rw [step_of_none hcall, step_of_none hcall]
  | some call =>
      cases phase with
      | dao =>
          rw [step_dao hcall, step_dao hcall]
          exact congrArg some (dao_congr h i call)
      | post =>
          rw [step_post hcall, step_post hcall, (observed_eq_iff.mp h).2.2.2]
          cases other.found i with
          | none => rfl
          | some favorite => exact post_congr h favorite call

theorem found_dao_of_ne (state : Coroutines) {i j : Nat} (h : j ≠ i) (call : Call) :
    (state.dao i call).found j = state.found j := by
  cases call <;> simp [dao, read, h]

theorem found_post {state state' : Coroutines} {favorite : Option Favorite} {call : Call}
    (h : state.post favorite call = some state') : state'.found = state.found := by
  cases call with
  | change change => cases h
  | isAlertFavoriteId id =>
      cases h
      rfl
  | getDetailsForAlert alert =>
      obtain ⟨repo, -, rfl⟩ := Option.map_eq_some_iff.mp h
      rfl

theorem post_dao (state : Coroutines) (i : Nat) (call other : Call)
    (favorite : Option Favorite) :
    (state.dao i call).post favorite other =
      (state.post favorite other).map (·.dao i call) := by
  cases call <;> cases other <;> cases favorite <;> rfl

theorem post_post (state : Coroutines) {call other : Call} (favorite found : Option Favorite)
    (h : call.target ≠ other.target) :
    (state.post favorite call).bind (·.post found other) =
      (state.post found other).bind (·.post favorite call) := by
  cases call <;> cases other <;> cases favorite <;> cases found <;>
    first | rfl | exact absurd rfl h

theorem dao_of_reads {call : Call} (h : call.writes = false) (state : Coroutines) (i : Nat) :
    state.dao i call = state.read i call.id := by
  cases call with
  | change change => cases h
  | isAlertFavoriteId id => rfl
  | getDetailsForAlert alert => rfl

theorem change_change (state : Coroutines) (i j : Nat) {first second : Change}
    (h : first.id ≠ second.id) :
    ((state.dao i (.change first)).dao j (.change second)).observed =
      ((state.dao j (.change second)).dao i (.change first)).observed := by
  simp only [observed_eq_iff, dao, FavoriteRepository.change, Change.get_write, and_true]
  exact Function.update_comm h _ _ _

theorem change_read (state : Coroutines) (i j : Nat) {change : Change} {id : String}
    (h : change.id ≠ id) :
    ((state.dao i (.change change)).read j id).observed =
      ((state.read j id).dao i (.change change)).observed := by
  have hget : (change.write state.repo.favorites).get id = state.repo.favorites.get id := by
    rw [Change.get_write, Function.update_of_ne h.symm]
  simp [dao, read, FavoriteRepository.change, FavoriteDAO.getFavorite, hget]

theorem dao_dao (state : Coroutines) {i j : Nat} {call other : Call} (hij : i ≠ j)
    (h : ¬ Conflict call other .dao .dao) :
    ((state.dao i call).dao j other).observed =
      ((state.dao j other).dao i call).observed := by
  have hcases : call.id ≠ other.id ∨ call.writes = false ∧ other.writes = false := by
    simp only [Conflict, not_and_or, not_or, Bool.not_eq_true] at h
    exact h
  cases hcall : call.writes with
  | false =>
      cases hother : other.writes with
      | false =>
          simp only [dao_of_reads hcall, dao_of_reads hother, observed_eq_iff, read, true_and]
          exact Function.update_comm hij _ _ _
      | true =>
          have hid := hcases.resolve_right (by simp [hother])
          cases other with
          | change change =>
              simp only [dao_of_reads hcall]
              exact (change_read state j i hid.symm).symm
          | isAlertFavoriteId id | getDetailsForAlert alert => cases hother
  | true =>
      have hid := hcases.resolve_right (by simp [hcall])
      cases call with
      | change change =>
          cases other with
          | change second => exact change_change state i j hid
          | isAlertFavoriteId id | getDetailsForAlert alert =>
              exact change_read state i j hid
      | isAlertFavoriteId id | getDetailsForAlert alert => cases hcall

theorem exchange_dao_post {calls : List Call} {i j : Nat} {c d : Call} (hij : i ≠ j)
    (hc : calls[i]? = some c) (hd : calls[j]? = some d) :
    Exchange (step calls) observed ⟨i, .dao⟩ ⟨j, .post⟩ := by
  intro state
  have hfound := found_dao_of_ne state hij.symm c
  cases hj : state.found j with
  | none => simp [hc, hd, hfound, hj]
  | some favorite => simp [hc, hd, hfound, hj, post_dao, Option.map_eq_bind]

theorem run_post_post {calls : List Call} {i j : Nat} {c d : Call} (hc : calls[i]? = some c)
    (hd : calls[j]? = some d) (state : Coroutines) :
    run (step calls) state [⟨i, .post⟩, ⟨j, .post⟩] =
      (state.found i).bind fun favorite => (state.found j).bind fun found =>
        (state.post favorite c).bind (·.post found d) := by
  cases hi : state.found i with
  | none => simp [hc, hi]
  | some favorite =>
      cases hpost : state.post favorite c with
      | none => cases state.found j <;> simp [hc, hi, hpost]
      | some state' =>
          have hfound := found_post hpost
          cases hj : state.found j <;> simp [hc, hd, hi, hpost, hfound, hj]

theorem exchange_post_post {calls : List Call} {i j : Nat} {c d : Call}
    (hc : calls[i]? = some c) (hd : calls[j]? = some d) (h : c.target ≠ d.target) :
    Exchange (step calls) observed ⟨i, .post⟩ ⟨j, .post⟩ := by
  intro state
  rw [run_post_post hc hd, run_post_post hd hc]
  cases state.found i with
  | none => cases state.found j <;> rfl
  | some favorite =>
      cases state.found j with
      | none => rfl
      | some found => exact congrArg (Option.map observed) (post_post state favorite found h)

theorem exchange_of_not_conflict {calls : List Call} {i j : Nat} {phase phase' : Phase}
    (hij : i ≠ j)
    (h : ∀ c ∈ calls[i]?, ∀ d ∈ calls[j]?, ¬ Conflict c d phase phase') :
    Exchange (step calls) observed ⟨i, phase⟩ ⟨j, phase'⟩ := by
  cases hc : calls[i]? with
  | none =>
      intro state
      cases hb : step calls state ⟨j, phase'⟩ <;> simp [hc, hb]
  | some c =>
      cases hd : calls[j]? with
      | none =>
          intro state
          cases ha : step calls state ⟨i, phase⟩ <;> simp [hd, ha]
      | some d =>
          have hconflict := h c hc d hd
          cases phase with
          | dao =>
              cases phase' with
              | dao =>
                  intro state
                  simp [hc, hd, dao_dao state hij hconflict]
              | post => exact exchange_dao_post hij hc hd
          | post =>
              cases phase' with
              | dao => exact (exchange_dao_post hij.symm hd hc).symm
              | post => exact exchange_post_post hc hd hconflict

end Coroutines

/-! ## One coroutine after another -/

open Coroutines

def serial (calls : List Call) : List Action :=
  (List.range calls.length).flatMap (program calls)

theorem coroutine_of_mem_program {calls : List Call} {i : Nat} {action : Action}
    (h : action ∈ program calls i) : action.coroutine = i := by
  obtain ⟨phase, -, rfl⟩ := List.mem_map.mp h
  rfl

theorem serial_sorted (calls : List Call) :
    (serial calls).Pairwise fun a b => a.coroutine ≤ b.coroutine := by
  rw [serial, List.pairwise_flatMap]
  constructor
  · intro i _
    apply List.pairwise_of_forall_mem_list
    intro a ha b hb
    rw [coroutine_of_mem_program ha, coroutine_of_mem_program hb]
  · apply List.pairwise_lt_range.imp
    intro i j hij a ha b hb
    rw [coroutine_of_mem_program ha, coroutine_of_mem_program hb]
    exact Nat.le_of_lt hij

theorem filter_program (calls : List Call) (i j : Nat) :
    (program calls j).filter (·.coroutine = i) = if j = i then program calls i else [] := by
  split
  · case isTrue h =>
      subst h
      apply List.filter_eq_self.mpr
      intro action haction
      simpa using coroutine_of_mem_program haction
  · case isFalse h =>
      apply List.filter_eq_nil_iff.mpr
      intro action haction
      rw [coroutine_of_mem_program haction]
      simpa using h

theorem serial_interleaves (calls : List Call) : Interleaves calls (serial calls) := by
  intro i
  have hprefix : ∀ n, ((List.range n).flatMap (program calls)).filter (·.coroutine = i) =
      if i < n then program calls i else [] := by
    intro n
    induction n with
    | zero => rfl
    | succ n ih =>
        rw [List.range_succ, List.flatMap_append, List.filter_append, ih,
          List.flatMap_singleton, filter_program]
        grind
  rw [serial, hprefix]
  split
  · rfl
  · case isFalse h =>
      have hnone : calls[i]? = none := List.getElem?_eq_none (Nat.le_of_not_lt h)
      simp [program, hnone]

theorem run_program {calls : List Call} {i : Nat} {call : Call} (h : calls[i]? = some call)
    (state : Coroutines) :
    (run (step calls) state (program calls i)).map (·.repo) = state.repo.perform call := by
  cases call with
  | change change => simp [program, Call.phases, h, dao, FavoriteRepository.perform]
  | isAlertFavoriteId id =>
      simp [program, Call.phases, h, dao, Coroutines.read, post, FavoriteRepository.perform,
        FavoriteRepository.isAlertFavoriteId]
  | getDetailsForAlert alert =>
      cases hpost : state.repo.getDetailsForAlert alert <;>
        simp_all [program, Call.phases, dao, Coroutines.read, post, FavoriteRepository.perform,
          FavoriteRepository.getDetailsForAlert]

theorem run_serial (calls : List Call) (repo : FavoriteRepository) :
    (run (step calls) (launched repo) (serial calls)).map (·.repo) =
      run FavoriteRepository.perform repo calls := by
  have hprefix : ∀ n, (run (step calls) (launched repo)
      ((List.range n).flatMap (program calls))).map (·.repo) =
        run FavoriteRepository.perform repo (calls.take n) := by
    intro n
    induction n with
    | zero => rfl
    | succ n ih =>
        rw [List.range_succ, List.flatMap_append, run_append, List.flatMap_singleton,
          List.take_add_one, run_append, ← ih]
        cases run (step calls) (launched repo) ((List.range n).flatMap (program calls)) with
        | none => rfl
        | some state =>
            cases hcall : calls[n]? with
            | none => simp [program, hcall]
            | some call => simpa using run_program hcall state
  rw [serial, hprefix, List.take_length]

/-! ## Any order of execution -/

theorem InIssueOrder.exchange {calls : List Call} {actions : List Action}
    (h : InIssueOrder calls actions) :
    actions.Pairwise fun a b =>
      a.coroutine ≤ b.coroutine ∨ Exchange (step calls) observed a b := by
  apply h.imp
  intro a b hab
  by_cases hle : a.coroutine ≤ b.coroutine
  · exact .inl hle
  · have hne : a.coroutine ≠ b.coroutine := by omega
    exact .inr (exchange_of_not_conflict hne fun c hc d hd hconflict =>
      hle (hab c hc d hd hconflict))

theorem run_inIssueOrder {calls : List Call} {actions : List Action}
    (hall : Interleaves calls actions) (horder : InIssueOrder calls actions)
    (repo : FavoriteRepository) :
    (run (step calls) (launched repo) actions).map (fun state => visible state.repo) =
      (run FavoriteRepository.perform repo calls).map visible := by
  have hthreads : ∀ i, actions.filter (·.coroutine = i) =
      (serial calls).filter (·.coroutine = i) := by
    intro i
    rw [hall i, serial_interleaves calls i]
  have hserial := run_eq_serial (step_congruent calls) (serial_sorted calls) hthreads
    horder.exchange (launched repo)
  have hvisible := congrArg (Option.map Prod.fst) hserial
  rw [← run_serial, Option.map_map]
  simpa [Function.comp_def, observed] using hvisible

theorem step_cases {calls : List Call} {state state' : Coroutines} {action : Action}
    (h : step calls state action = some state') :
    ∃ call, calls[action.coroutine]? = some call ∧
      (action.phase = .dao ∧ state' = state.dao action.coroutine call ∨
        action.phase = .post ∧ ∃ favorite, state.post favorite call = some state') := by
  obtain ⟨call, hcall, hphase⟩ := Option.bind_eq_some_iff.mp h
  refine ⟨call, hcall, ?_⟩
  cases haction : action.phase with
  | dao =>
      rw [haction] at hphase
      exact .inl ⟨rfl, (Option.some.inj hphase).symm⟩
  | post =>
      rw [haction] at hphase
      obtain ⟨favorite, -, hpost⟩ := Option.bind_eq_some_iff.mp hphase
      exact .inr ⟨rfl, favorite, hpost⟩

theorem favorites_post {state state' : Coroutines} {favorite : Option Favorite} {call : Call}
    (h : state.post favorite call = some state') :
    state'.repo.favorites = state.repo.favorites := by
  cases call with
  | change change => cases h
  | isAlertFavoriteId id =>
      cases h
      rfl
  | getDetailsForAlert alert =>
      obtain ⟨repo, hrepo, rfl⟩ := Option.map_eq_some_iff.mp h
      obtain ⟨fav, -, rfl⟩ := Option.map_eq_some_iff.mp hrepo
      rfl

theorem step_favorites {calls : List Call} {state state' : Coroutines} {action : Action}
    (h : step calls state action = some state') :
    state'.repo.favorites = tableAfter state.repo calls [action] := by
  obtain ⟨call, hcall, ⟨hphase, rfl⟩ | ⟨hphase, favorite, hpost⟩⟩ := step_cases h
  · cases call <;>
      simp [tableAfter, changesIn, changeOf, hphase, hcall, Call.toChange, dao,
        Coroutines.read, FavoriteRepository.change]
  · rw [favorites_post hpost]
    simp [tableAfter, changesIn, changeOf, hphase]

theorem run_favorites {calls : List Call} {actions : List Action}
    {state state' : Coroutines} (h : run (step calls) state actions = some state') :
    state'.repo.favorites = tableAfter state.repo calls actions := by
  induction actions generalizing state with
  | nil =>
      cases h
      rfl
  | cons action actions ih =>
      obtain ⟨next, hnext, hrest⟩ := Option.bind_eq_some_iff.mp h
      have hsplit : changesIn calls (action :: actions) =
          changesIn calls [action] ++ changesIn calls actions :=
        List.filterMap_append (l := [action])
      rw [ih hrest, tableAfter, step_favorites hnext, tableAfter, tableAfter, hsplit,
        List.foldl_append]

theorem changesIn_serial (calls : List Call) :
    changesIn calls (serial calls) = calls.filterMap Call.toChange := by
  have hprefix : ∀ n, changesIn calls ((List.range n).flatMap (program calls)) =
      (calls.take n).filterMap Call.toChange := by
    intro n
    induction n with
    | zero => rfl
    | succ n ih =>
        have hprogram : (program calls n).filterMap (changeOf calls) =
            (calls[n]?.toList).filterMap Call.toChange := by
          cases hcall : calls[n]? with
          | none => simp [program, hcall]
          | some call =>
              cases call <;>
                simp [program, hcall, Call.phases, changeOf, Call.toChange, List.filterMap_cons]
        rw [List.range_succ, List.flatMap_append, List.flatMap_singleton, List.take_add_one,
          List.filterMap_append, ← ih, ← hprogram]
        exact List.filterMap_append
  rw [serial, hprefix, List.take_length]

theorem changesIn_perm {calls : List Call} {actions : List Action}
    (h : Interleaves calls actions) :
    (changesIn calls actions).Perm (calls.filterMap Call.toChange) := by
  have hperm : actions.Perm (serial calls) := by
    apply perm_serial (serial_sorted calls)
    intro i
    rw [h i, serial_interleaves calls i]
  rw [← changesIn_serial]
  exact hperm.filterMap (changeOf calls)

/-! ## The last posts -/

theorem step_found_of_ne {calls : List Call} {state state' : Coroutines} {action : Action}
    {i : Nat} (hne : action.coroutine ≠ i) (h : step calls state action = some state') :
    state'.found i = state.found i := by
  obtain ⟨call, -, ⟨-, rfl⟩ | ⟨-, favorite, hpost⟩⟩ := step_cases h
  · exact found_dao_of_ne state hne.symm call
  · rw [found_post hpost]

theorem observables_dao (state : Coroutines) (i : Nat) (call : Call) :
    (state.dao i call).repo.recipeIsFavorite = state.repo.recipeIsFavorite ∧
      (state.dao i call).repo.favoriteDetails = state.repo.favoriteDetails := by
  cases call <;> exact ⟨rfl, rfl⟩

theorem shows_post {state state' : Coroutines} {favorite : Option Favorite} {call : Call}
    {target : Target} (h : state.post favorite call = some state')
    (htarget : call.target = some target) : Shows state'.repo favorite target := by
  cases call with
  | change change => cases htarget
  | isAlertFavoriteId id =>
      cases h
      cases htarget
      rfl
  | getDetailsForAlert alert =>
      cases htarget
      obtain ⟨repo, hrepo, rfl⟩ := Option.map_eq_some_iff.mp h
      obtain ⟨fav, rfl, rfl⟩ := Option.map_eq_some_iff.mp hrepo
      exact ⟨fav, rfl, rfl⟩

theorem shows_post_of_ne {state state' : Coroutines} {favorite other : Option Favorite}
    {call : Call} {target : Target} (h : state.post other call = some state')
    (htarget : call.target ≠ some target) (hshows : Shows state.repo favorite target) :
    Shows state'.repo favorite target := by
  cases call with
  | change change => cases h
  | isAlertFavoriteId id =>
      cases h
      cases target with
      | recipeIsFavorite => exact absurd rfl htarget
      | favoriteDetails => exact hshows
  | getDetailsForAlert alert =>
      obtain ⟨repo, hrepo, rfl⟩ := Option.map_eq_some_iff.mp h
      obtain ⟨fav, rfl, rfl⟩ := Option.map_eq_some_iff.mp hrepo
      cases target with
      | recipeIsFavorite => exact hshows
      | favoriteDetails => exact absurd rfl htarget

theorem step_shows {calls : List Call} {state state' : Coroutines} {action : Action}
    {favorite : Option Favorite} {target : Target}
    (hshows : Shows state.repo favorite target)
    (helsewhere : PostsElsewhere calls target action)
    (h : step calls state action = some state') : Shows state'.repo favorite target := by
  obtain ⟨call, hcall, ⟨-, rfl⟩ | ⟨hphase, other, hpost⟩⟩ := step_cases h
  · have hframe := observables_dao state action.coroutine call
    cases target with
    | recipeIsFavorite => simpa [Shows, hframe.1] using hshows
    | favoriteDetails => simpa [Shows, hframe.2] using hshows
  · exact shows_post_of_ne hpost (helsewhere hphase call hcall) hshows

theorem Interleaves.between {calls : List Call} {before between after : List Action} {i : Nat}
    (h : Interleaves calls
      (before ++ ⟨i, .dao⟩ :: (between ++ ⟨i, .post⟩ :: after))) :
    ∀ action ∈ between, action.coroutine ≠ i := by
  have hlength : (program calls i).length ≤ 2 := by
    unfold program
    cases calls[i]? with
    | none => simp
    | some call => cases call <;> simp [Call.phases]
  rw [← h i] at hlength
  simp only [List.filter_append, List.filter_cons, decide_true, if_true, List.length_append,
    List.length_cons] at hlength
  have hempty : (between.filter (·.coroutine = i)).length = 0 := by omega
  intro action haction
  simpa using List.filter_eq_nil_iff.mp (List.length_eq_zero_iff.mp hempty) action haction

theorem found_after_dao {state : Coroutines} {i : Nat} {call : Call} {target : Target}
    (h : call.target = some target) :
    (state.dao i call).found i =
      some (FavoriteDAO.getFavorite state.repo.favorites call.id) := by
  cases call with
  | change change => cases h
  | isAlertFavoriteId id | getDetailsForAlert alert =>
      simp [dao, Coroutines.read, Call.id]

/-- The last post to an observable is of the row its coroutine found in the table. -/
theorem shows_last_post {calls : List Call} {before between after : List Action} {i : Nat}
    {call : Call} {target : Target} {state : Coroutines} {repo : FavoriteRepository}
    (hall : Interleaves calls
      (before ++ ⟨i, .dao⟩ :: (between ++ ⟨i, .post⟩ :: after)))
    (hcall : calls[i]? = some call) (htarget : call.target = some target)
    (hlast : ∀ action ∈ after, PostsElsewhere calls target action)
    (hrun : run (step calls) (launched repo)
      (before ++ ⟨i, .dao⟩ :: (between ++ ⟨i, .post⟩ :: after)) = some state) :
    Shows state.repo ((tableAfter repo calls before).get call.id) target := by
  rw [run_append] at hrun
  obtain ⟨first, hfirst, hrun⟩ := Option.bind_eq_some_iff.mp hrun
  rw [run_cons, step_dao hcall, Option.bind_some, run_append] at hrun
  obtain ⟨second, hsecond, hrun⟩ := Option.bind_eq_some_iff.mp hrun
  have htable : first.repo.favorites = tableAfter repo calls before := run_favorites hfirst
  have hkeeps : ∀ (s : Coroutines) (action : Action) (s' : Coroutines),
      s.found i = (first.dao i call).found i → action.coroutine ≠ i →
      step calls s action = some s' → s'.found i = (first.dao i call).found i := by
    intro s action s' hs hne hstep
    rw [step_found_of_ne hne hstep, hs]
  have hfound : second.found i = some ((tableAfter repo calls before).get call.id) := by
    have hsame := inv_of_run hkeeps rfl
      (everyStep_of_forall_mem (fun action haction _ => hall.between action haction) _) hsecond
    rw [hsame, found_after_dao htarget, htable, FavoriteDAO.getFavorite]
  rw [run_cons, step_post hcall, hfound, Option.bind_some] at hrun
  obtain ⟨third, hthird, hrun⟩ := Option.bind_eq_some_iff.mp hrun
  have hshows := shows_post hthird htarget
  have hstep : ∀ (s : Coroutines) (action : Action) (s' : Coroutines),
      Shows s.repo ((tableAfter repo calls before).get call.id) target →
      PostsElsewhere calls target action → step calls s action = some s' →
      Shows s'.repo ((tableAfter repo calls before).get call.id) target :=
    fun _ _ _ => step_shows
  exact inv_of_run hstep hshows
    (everyStep_of_forall_mem (fun action haction _ => hlast action haction) _) hrun

/--
What the calls leave behind in any order of execution.  The changes take effect
once each, in the order of their DAO calls, and an observable ends with what
the coroutine that posted last had found.  Where conflicting actions were
executed in the order of issue, all is as if each call had waited for the one
before.
-/
theorem calls_take_effect (repo : FavoriteRepository) (calls : List Call)
    (actions : List Action) (hall : Interleaves calls actions) :
    (InIssueOrder calls actions →
        (run (step calls) (launched repo) actions).map (fun state => visible state.repo) =
          (run FavoriteRepository.perform repo calls).map visible) ∧
      (changesIn calls actions).Perm (calls.filterMap Call.toChange) ∧
      ∀ state, run (step calls) (launched repo) actions = some state →
        state.repo.favorites = tableAfter repo calls actions ∧
          ∀ before between after i call target,
            actions = before ++ ⟨i, .dao⟩ :: (between ++ ⟨i, .post⟩ :: after) →
            calls[i]? = some call → call.target = some target →
            (∀ action ∈ after, PostsElsewhere calls target action) →
            Shows state.repo ((tableAfter repo calls before).get call.id) target := by
  refine ⟨fun horder => run_inIssueOrder hall horder repo, changesIn_perm hall, ?_⟩
  intro state hrun
  refine ⟨run_favorites hrun, ?_⟩
  rintro before between after i call target rfl hcall htarget hlast
  exact shows_last_post hall hcall htarget hlast hrun

def addLookupRemove : List Call :=
  [.change (.addFavorite closure), .isAlertFavoriteId "a1",
    .change (.removeAlertFromFavorites "a1")]

theorem calls_take_effect_overtaken :
    let actions : List Action := [⟨0, .dao⟩, ⟨1, .dao⟩, ⟨2, .dao⟩, ⟨1, .post⟩]
    (InIssueOrder addLookupRemove actions →
        (run (step addLookupRemove) (launched .new) actions).map
            (fun state => visible state.repo) =
          (run FavoriteRepository.perform .new addLookupRemove).map visible) ∧
      (changesIn addLookupRemove actions).Perm
        (addLookupRemove.filterMap Call.toChange) ∧
      ∀ state, run (step addLookupRemove) (launched .new) actions = some state →
        state.repo.favorites = tableAfter .new addLookupRemove actions ∧
          ∀ before between after i call target,
            actions = before ++ ⟨i, .dao⟩ :: (between ++ ⟨i, .post⟩ :: after) →
            addLookupRemove[i]? = some call → call.target = some target →
            (∀ action ∈ after, PostsElsewhere addLookupRemove target action) →
            Shows state.repo ((tableAfter .new addLookupRemove before).get call.id) target :=
  calls_take_effect .new addLookupRemove _ (by decide)

/-- The remove that was issued second is executed first: the favourite stays. -/
theorem removed_favorite_stays :
    let calls : List Call :=
      [.change (.addFavorite closure), .change (.removeAlertFromFavorites "a1")]
    let actions : List Action := [⟨1, .dao⟩, ⟨0, .dao⟩]
    Interleaves calls actions ∧
      ((run (step calls) (launched .new) actions).bind fun state =>
          state.repo.favorites.get "a1") = some closure.getRoomFavorite ∧
      ((run FavoriteRepository.perform .new calls).bind fun repo =>
          repo.favorites.get "a1") = none ∧
      (run (step calls) (launched .new) actions).map (fun state => visible state.repo) ≠
        (run FavoriteRepository.perform .new calls).map visible := by
  refine ⟨by decide, by decide, by decide, fun h => ?_⟩
  have hrows := congrArg (Option.map fun contents => contents.1 "a1") h
  exact absurd hrows (by decide)

end AdvMad.Lab6
