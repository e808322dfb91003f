import AdvMad.Foundation.ArrayOps
import AdvMad.Translator.Request
import AdvMad.Translator.ViewController

/-!
# projects/lab4: requests, answers and picks

A tap on the search button sends the text for the dialect picked last.  Any
number of requests may be under way, and each ends with the call of its
completion handler.  A session is a run of taps, picks and ended requests.  As
with picks alone, the label and the segue that `Main.storyboard` lacks are taken
to be there, and there are more sessions than the app as it stands lets happen.
-/

namespace AdvMad.Translator

open AdvMad.Foundation
open AdvMad.Shared

variable {Data : Type}

structure Session where
  vc : ViewController
  inFlight : List String
  requested : List String
  deriving DecidableEq, Repr

inductive SessionEvent (Data : Type) where
  | searchAlerts (inputText : String)
  | didSelectRow (row : Nat)
  | complete (request : Nat) (data : Option Data) (statusCode : Option Int)
  deriving DecidableEq, Repr

namespace Session

def viewDidLoad : Option Session := do
  let vc ← ViewController.viewDidLoad
  some ⟨vc, [], []⟩

def searchAlerts (platform : SearchPlatform Translate Data) (s : Session)
    (inputText : String) : Session :=
  match Translator.searchAlerts platform.isURL inputText s.vc.selectedState with
  | some url => { s with inFlight := s.inFlight ++ [url], requested := s.requested ++ [url] }
  | none => s

/-- The completion handler: without a response its cast traps, and with status 200 and
no body the unwrap. -/
def complete (platform : SearchPlatform Translate Data) (s : Session) (request : Nat)
    (data : Option Data) (statusCode : Option Int) : Option Session := do
  let inFlight ← removeAt? s.inFlight request
  let code ← statusCode
  if code = 200 then
    let rawData ← data
    some { s with vc := s.vc.complete platform rawData, inFlight := inFlight }
  else some { s with inFlight := inFlight }

def step (platform : SearchPlatform Translate Data) (s : Session) :
    SessionEvent Data → Option Session
  | .searchAlerts inputText => some (s.searchAlerts platform inputText)
  | .didSelectRow row => do
      let vc ← s.vc.didSelectRow row
      some { s with vc := vc }
  | .complete request data statusCode => s.complete platform request data statusCode

end Session

def Received (platform : SearchPlatform Translate Data) (events : List (SessionEvent Data))
    (translate : Translate) : Prop :=
  ∃ request rawData parsed, .complete request (some rawData) (some 200) ∈ events ∧
    platform.decode rawData = some parsed ∧ translate ∈ parsed

def BodiesWithin (platform : SearchPlatform Translate Data) (n : Nat)
    (events : List (SessionEvent Data)) : Prop :=
  ∀ request rawData parsed, .complete request (some rawData) (some 200) ∈ events →
    platform.decode rawData = some parsed → parsed.length ≤ n

namespace Session

section
variable {platform : SearchPlatform Translate Data} {n : Nat}
  {events : List (SessionEvent Data)} {s s' : Session}

structure Held (platform : SearchPlatform Translate Data) (n : Nat)
    (events : List (SessionEvent Data)) (translations : List Translate) : Prop where
  length : translations.length ≤ n
  received : ∀ translate ∈ translations, Received platform events translate

structure Fits (platform : SearchPlatform Translate Data) (n : Nat)
    (events : List (SessionEvent Data)) (s : Session) : Prop where
  selected : s.vc.selectedState ∈ stateOptions.take (max 1 n)
  data : Held platform n events s.vc.data
  current : Held platform n events s.vc.currentTranslation
  requested : ∀ url ∈ s.requested, ∃ dialect ∈ stateOptions.take (max 1 n), ∃ text,
    .searchAlerts text ∈ events ∧ url = urlPath (addingPercentEncoding text) dialect
  shown : ∀ text, s.vc.translatedTextLabel = some text →
    ∃ translate, Received platform events translate ∧ translate.translation = text

theorem viewDidLoad_fits (h : viewDidLoad = some s) : Fits platform n events s := by
  cases h
  have hempty : Held platform n events [] := ⟨Nat.zero_le n, by simp⟩
  have hfirst : "Yoda" ∈ stateOptions.take (max 1 n) := by
    have hpos : 0 < max 1 n := by omega
    obtain ⟨k, hk⟩ := Nat.exists_eq_succ_of_ne_zero (Nat.pos_iff_ne_zero.mp hpos)
    simp [hk, stateOptions]
  exact ⟨hfirst, hempty, hempty, by simp, by simp⟩

theorem fits_searchAlerts (h : Fits platform n events s) {inputText : String}
    (hevent : .searchAlerts inputText ∈ events) :
    Fits platform n events (s.searchAlerts platform inputText) := by
  unfold searchAlerts
  split
  · case h_1 url hurl =>
      refine ⟨h.selected, h.data, h.current, fun other hother => ?_, h.shown⟩
      rcases List.mem_append.mp hother with hold | hnew
      · exact h.requested other hold
      · obtain rfl := List.mem_singleton.mp hnew
        exact ⟨_, h.selected, inputText, hevent, searchAlerts_eq_some hurl⟩
  · exact h

theorem didSelectRow_cases {vc vc' : ViewController} {row : Nat}
    (h : vc.didSelectRow row = some vc') :
    ∃ state translate, stateOptions[row]? = some state ∧ vc.data[row]? = some translate ∧
      vc' = { vc with
        selectedState := state
        translatedTextLabel := some translate.translation } := by
  obtain ⟨state, hstate, h⟩ := Option.bind_eq_some_iff.mp h
  obtain ⟨translate, htranslate, hvc'⟩ := Option.bind_eq_some_iff.mp h
  exact ⟨state, translate, hstate, htranslate, (Option.some.inj hvc').symm⟩

theorem lt_of_didSelectRow (h : Fits platform n events s) {vc : ViewController} {row : Nat}
    (hpick : s.vc.didSelectRow row = some vc) : row < n := by
  obtain ⟨state, translate, -, htranslate, -⟩ := didSelectRow_cases hpick
  have hrow := (List.getElem?_eq_some_iff.mp htranslate).1
  have hlength := h.data.length
  omega

theorem fits_didSelectRow (h : Fits platform n events s) {vc : ViewController} {row : Nat}
    (hpick : s.vc.didSelectRow row = some vc) : Fits platform n events { s with vc := vc } := by
  have hrow := lt_of_didSelectRow h hpick
  obtain ⟨state, translate, hstate, htranslate, rfl⟩ := didSelectRow_cases hpick
  refine ⟨?_, h.data, h.current, h.requested, fun text htext => ?_⟩
  · have htake : (stateOptions.take (max 1 n))[row]? = some state := by
      rw [List.getElem?_take_of_lt (by omega), hstate]
    exact List.mem_of_getElem? htake
  · cases htext
    exact ⟨translate, h.data.received translate (List.mem_of_getElem? htranslate), rfl⟩

theorem fits_complete (h : Fits platform n events s) (hbodies : BodiesWithin platform n events)
    {request : Nat} {data : Option Data} {statusCode : Option Int}
    (hevent : .complete request data statusCode ∈ events)
    (hstep : s.complete platform request data statusCode = some s') :
    Fits platform n events s' := by
  obtain ⟨inFlight, -, hcast⟩ := Option.bind_eq_some_iff.mp hstep
  obtain ⟨code, rfl, hended⟩ := Option.bind_eq_some_iff.mp hcast
  split at hended
  · case isTrue hcode =>
      obtain ⟨rawData, rfl, hs'⟩ := Option.bind_eq_some_iff.mp hended
      cases hs'
      subst hcode
      obtain ⟨hdata, hcurrent⟩ := s.vc.complete_data platform rawData
      have hheld : Held platform n events
          ((platform.decode rawData).getD s.vc.currentTranslation) := by
        cases hdecode : platform.decode rawData with
        | none => exact h.current
        | some parsed =>
            exact ⟨hbodies request rawData parsed hevent hdecode, fun translate hmem =>
              ⟨request, rawData, parsed, hevent, hdecode, hmem⟩⟩
      exact ⟨h.selected, hdata ▸ hheld, hcurrent ▸ hheld, h.requested, h.shown⟩
  · cases hended
    exact ⟨h.selected, h.data, h.current, h.requested, h.shown⟩

theorem step_fits (h : Fits platform n events s) (hbodies : BodiesWithin platform n events)
    {event : SessionEvent Data} (hevent : event ∈ events)
    (hstep : s.step platform event = some s') : Fits platform n events s' := by
  cases event with
  | searchAlerts inputText =>
      cases hstep
      exact fits_searchAlerts h hevent
  | didSelectRow row =>
      obtain ⟨vc, hvc, hs'⟩ := Option.bind_eq_some_iff.mp hstep
      cases hs'
      exact fits_didSelectRow h hvc
  | complete request data statusCode => exact fits_complete h hbodies hevent hstep

theorem run_fits (h : Fits platform n events s) (hbodies : BodiesWithin platform n events)
    {es : List (SessionEvent Data)} (hes : es ⊆ events)
    (hrun : run (step platform) s es = some s') :
    Fits platform n events s' ∧ ∀ row, .didSelectRow row ∈ es → row < n := by
  induction es generalizing s with
  | nil =>
      cases hrun
      exact ⟨h, by simp⟩
  | cons event es ih =>
      obtain ⟨hevent, hes⟩ := List.cons_subset.mp hes
      obtain ⟨next, hnext, hrest⟩ := Option.bind_eq_some_iff.mp hrun
      obtain ⟨hfits, hrows⟩ := ih (step_fits h hbodies hevent hnext) hes hrest
      refine ⟨hfits, fun row hrow => ?_⟩
      rcases List.mem_cons.mp hrow with rfl | hlater
      · obtain ⟨vc, hpick, -⟩ := Option.bind_eq_some_iff.mp hnext
        exact lt_of_didSelectRow h hpick
      · exact hrows row hlater

end

/--
As long as no body has more than `n` translations, a session goes on only
while the dialects picked are among the first `n`, so that all requests are for
these or for the one selected at the beginning, and carry texts that were
entered.  Every translation shown was received.
-/
theorem sessions_use_first_dialects (platform : SearchPlatform Translate Data) (n : Nat)
    (start s : Session) (events : List (SessionEvent Data)) (hstart : viewDidLoad = some start)
    (hbodies : BodiesWithin platform n events)
    (hrun : run (step platform) start events = some s) :
    (∀ row, .didSelectRow row ∈ events → row < n) ∧
      (∀ url ∈ s.requested, ∃ dialect ∈ stateOptions.take (max 1 n), ∃ text,
        .searchAlerts text ∈ events ∧ url = urlPath (addingPercentEncoding text) dialect) ∧
      ∀ text, s.vc.translatedTextLabel = some text →
        ∃ translate, Received platform events translate ∧ translate.translation = text := by
  obtain ⟨hfits, hrows⟩ :=
    run_fits (viewDidLoad_fits hstart) hbodies (List.Subset.refl events) hrun
  exact ⟨hrows, hfits.requested, hfits.shown⟩

theorem sessions_use_first_dialects_yoda :
    let platform := ViewController.decodedBodies
    let greeting := ViewController.greeting
    let events : List (SessionEvent (Option (List Translate))) :=
      [.searchAlerts "hello", .searchAlerts "a&b", .complete 1 none (some 429),
        .complete 0 (some (some [greeting])) (some 200), .didSelectRow 0, .searchAlerts "again",
        .complete 0 (some none) (some 200), .didSelectRow 0]
    ∃ start s, viewDidLoad = some start ∧ run (step platform) start events = some s ∧
      (∀ row, .didSelectRow row ∈ events → row < 1) ∧
      (∀ url ∈ s.requested, ∃ dialect ∈ stateOptions.take (max 1 1), ∃ text,
        .searchAlerts text ∈ events ∧ url = urlPath (addingPercentEncoding text) dialect) ∧
      ∀ text, s.vc.translatedTextLabel = some text →
        ∃ translate, Received platform events translate ∧ translate.translation = text := by
  intro platform greeting events
  have hbodies : BodiesWithin platform 1 events := by
    intro request rawData parsed hevent hdecode
    simp only [events, List.mem_cons, SessionEvent.complete.injEq, reduceCtorEq, List.not_mem_nil,
      Option.some.injEq, false_or, or_false] at hevent
    rcases hevent with h | ⟨-, rfl, -⟩ | ⟨-, rfl, -⟩
    · simp at h
    · cases hdecode
      decide
    · cases hdecode
  exact ⟨_, _, rfl, rfl, sessions_use_first_dialects platform 1 _ _ events rfl hbodies rfl⟩

end Session

end AdvMad.Translator
