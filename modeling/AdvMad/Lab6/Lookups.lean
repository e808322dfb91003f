import AdvMad.Lab6.Coroutines

/-!
# lab6: lookups of details

`getDetailsForAlert` converts the row it has read, and the conversion of null
throws in a coroutine that nobody watches, which ends the app.
-/

namespace AdvMad.Lab6

open AdvMad.Foundation
open Coroutines

/-! ## The two actions of a lookup -/

theorem append_cons_eq_pair {α : Type} {xs ys : List α} {y a b : α}
    (h : xs ++ y :: ys = [a, b]) :
    (xs = [] ∧ y = a ∧ ys = [b]) ∨ (xs = [a] ∧ y = b ∧ ys = []) := by
  cases xs with
  | nil => exact .inl (by simpa using h)
  | cons x xs =>
      obtain ⟨rfl, htail⟩ := List.cons.inj h
      obtain ⟨rfl, hy⟩ := List.append_eq_singleton_iff.mp htail |>.resolve_right (by simp)
      exact .inr (by simpa using hy)

section
variable {calls : List Call} {call : Call} {target : Target} {i : Nat}

theorem program_of_target (hcall : calls[i]? = some call) (htarget : call.target = some target) :
    program calls i = [⟨i, .dao⟩, ⟨i, .post⟩] := by
  cases call with
  | change change => cases htarget
  | isAlertFavoriteId id | getDetailsForAlert alert => simp [program, hcall, Call.phases]

theorem target_of_post_mem (h : ⟨i, .post⟩ ∈ program calls i) :
    ∃ call target, calls[i]? = some call ∧ call.target = some target := by
  cases hcall : calls[i]? with
  | none => simp [program, hcall] at h
  | some call =>
      cases call with
      | change change => simp [program, hcall, Call.phases] at h
      | isAlertFavoriteId id => exact ⟨_, .recipeIsFavorite, rfl, rfl⟩
      | getDetailsForAlert alert => exact ⟨_, .favoriteDetails, rfl, rfl⟩

theorem Interleaves.post_after_dao {before after : List Action}
    (h : Interleaves calls (before ++ ⟨i, .dao⟩ :: after)) (hcall : calls[i]? = some call)
    (htarget : call.target = some target) :
    ∃ between rest, after = between ++ ⟨i, .post⟩ :: rest ∧
      ∀ action ∈ between, action.coroutine ≠ i := by
  have hactions := h i
  rw [program_of_target hcall htarget, List.filter_append, List.filter_cons] at hactions
  simp only [decide_true, if_true] at hactions
  have hafter : after.filter (·.coroutine = i) = [⟨i, .post⟩] := by
    rcases append_cons_eq_pair hactions with ⟨-, -, hpost⟩ | ⟨-, hphase, -⟩
    · exact hpost
    · simp at hphase
  obtain ⟨between, rest, rfl, hbetween, -, -⟩ := List.filter_eq_cons_iff.mp hafter
  exact ⟨between, rest, rfl, by simpa using hbetween⟩

theorem Interleaves.dao_before_post {before after : List Action}
    (h : Interleaves calls (before ++ ⟨i, .post⟩ :: after)) :
    ∃ first between call target, before = first ++ ⟨i, .dao⟩ :: between ∧
      (∀ action ∈ between, action.coroutine ≠ i) ∧
      calls[i]? = some call ∧ call.target = some target := by
  have hactions := h i
  have hmem : (⟨i, .post⟩ : Action) ∈ program calls i := by
    rw [← hactions]
    simp
  obtain ⟨call, target, hcall, htarget⟩ := target_of_post_mem hmem
  rw [program_of_target hcall htarget, List.filter_append, List.filter_cons] at hactions
  simp only [decide_true, if_true] at hactions
  have hbefore : before.filter (·.coroutine = i) = [⟨i, .dao⟩] := by
    rcases append_cons_eq_pair hactions with ⟨-, hphase, -⟩ | ⟨hdao, -, -⟩
    · simp at hphase
    · exact hdao
  obtain ⟨first, between, rfl, -, -, hbetween⟩ := List.filter_eq_cons_iff.mp hbefore
  refine ⟨first, between, call, target, rfl, fun action haction => ?_, hcall, htarget⟩
  simpa using List.filter_eq_nil_iff.mp hbetween action haction

/-- Until it posts, a coroutine keeps what was in the table at its DAO call. -/
theorem found_since_dao {before between : List Action} {repo : FavoriteRepository}
    {state : Coroutines} (hcall : calls[i]? = some call) (htarget : call.target = some target)
    (hbetween : ∀ action ∈ between, action.coroutine ≠ i)
    (hrun : run (step calls) (launched repo) (before ++ ⟨i, .dao⟩ :: between) = some state) :
    state.found i = some ((tableAfter repo calls before).get call.id) := by
  rw [run_append] at hrun
  obtain ⟨first, hfirst, hrun⟩ := Option.bind_eq_some_iff.mp hrun
  rw [run_cons, step_dao hcall, Option.bind_some] at hrun
  have htable : first.repo.favorites = tableAfter repo calls before := run_favorites hfirst
  have hkeeps : ∀ (s : Coroutines) (action : Action) (s' : Coroutines),
      s.found i = (first.dao i call).found i → action.coroutine ≠ i →
      step calls s action = some s' → s'.found i = (first.dao i call).found i := by
    intro s action s' hs hne hstep
    rw [step_found_of_ne hne hstep, hs]
  have hsame := inv_of_run hkeeps rfl
    (everyStep_of_forall_mem (fun action haction _ => hbetween action haction) _) hrun
  rw [hsame, found_after_dao htarget, htable, FavoriteDAO.getFavorite]

end

/-! ## When no lookup throws -/

def LookupsFind (repo : FavoriteRepository) (calls : List Call) (actions : List Action) : Prop :=
  ∀ before i after alert, actions = before ++ ⟨i, .dao⟩ :: after →
    calls[i]? = some (.getDetailsForAlert alert) →
    ((tableAfter repo calls before).get alert.id).isSome = true

theorem lookup_finds {repo : FavoriteRepository} {calls : List Call} {before after : List Action}
    {i : Nat} {alert : Alert} (hall : Interleaves calls (before ++ ⟨i, .dao⟩ :: after))
    (hcall : calls[i]? = some (.getDetailsForAlert alert))
    (hrun : (run (step calls) (launched repo) (before ++ ⟨i, .dao⟩ :: after)).isSome = true) :
    ((tableAfter repo calls before).get alert.id).isSome = true := by
  obtain ⟨between, rest, rfl, hbetween⟩ := hall.post_after_dao hcall rfl
  obtain ⟨last, hrun⟩ := Option.isSome_iff_exists.mp hrun
  rw [← List.cons_append, ← List.append_assoc, run_append] at hrun
  obtain ⟨state, hstate, hpost⟩ := Option.bind_eq_some_iff.mp hrun
  have hfound := found_since_dao hcall rfl hbetween hstate
  rw [run_cons, step_post hcall, hfound, Option.bind_some] at hpost
  obtain ⟨posted, hposted, -⟩ := Option.bind_eq_some_iff.mp hpost
  obtain ⟨repo', hrepo', -⟩ := Option.map_eq_some_iff.mp hposted
  obtain ⟨fav, hfav, -⟩ := Option.map_eq_some_iff.mp hrepo'
  change ((tableAfter repo calls before).get alert.id) = some fav at hfav
  rw [hfav, Option.isSome_some]

theorem step_isSome_of_lookupsFind {repo : FavoriteRepository} {calls : List Call}
    {before after : List Action} {action : Action} {state : Coroutines}
    (hall : Interleaves calls (before ++ action :: after))
    (hfinds : LookupsFind repo calls (before ++ action :: after))
    (hrun : run (step calls) (launched repo) before = some state) :
    (step calls state action).isSome = true := by
  obtain ⟨i, phase⟩ := action
  cases phase with
  | dao =>
      have hlt : i < calls.length := (interleaves_iff.mp hall).2 ⟨i, .dao⟩ (by simp)
      simp [step_dao (List.getElem?_eq_getElem hlt)]
  | post =>
      obtain ⟨first, between, call, target, rfl, hbetween, hcall, htarget⟩ := hall.dao_before_post
      have hfound := found_since_dao hcall htarget hbetween hrun
      rw [step_post hcall, hfound, Option.bind_some]
      cases call with
      | change change => cases htarget
      | isAlertFavoriteId id => rfl
      | getDetailsForAlert alert =>
          have hsome := hfinds first i (between ++ ⟨i, .post⟩ :: after) alert (by simp) hcall
          obtain ⟨fav, hfav⟩ := Option.isSome_iff_exists.mp hsome
          have hfav' : (tableAfter repo calls first).get (Call.getDetailsForAlert alert).id =
              some fav := hfav
          simp [hfav', post, FavoriteRepository.postDetails]

/--
Whatever the order in which the coroutines execute, none of them throws exactly
if every lookup of details makes its DAO call while a favourite of that id is
in the table.  Lookups of membership never throw.
-/
theorem lookups_throw_nothing_iff (repo : FavoriteRepository) (calls : List Call)
    (actions : List Action) (hall : Interleaves calls actions) :
    (run (step calls) (launched repo) actions).isSome = true ↔
      LookupsFind repo calls actions := by
  constructor
  · rintro hrun before i after alert rfl hcall
    exact lookup_finds hall hcall hrun
  · intro hfinds
    apply run_isSome_of_prefixes
    rintro before action after state rfl hrun
    exact step_isSome_of_lookupsFind hall hfinds hrun

theorem lookups_throw_nothing_removed :
    let calls : List Call :=
      [.change (.addFavorite closure), .getDetailsForAlert closure,
        .change (.removeAlertFromFavorites "a1"), .isAlertFavoriteId "a1"]
    let actions : List Action :=
      [⟨0, .dao⟩, ⟨1, .dao⟩, ⟨2, .dao⟩, ⟨3, .dao⟩, ⟨3, .post⟩, ⟨1, .post⟩]
    (run (step calls) (launched .new) actions).isSome = true ↔ LookupsFind .new calls actions :=
  lookups_throw_nothing_iff .new _ _ (by decide)

end AdvMad.Lab6
