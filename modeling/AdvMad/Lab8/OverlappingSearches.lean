import AdvMad.Foundation.LiveData
import AdvMad.Foundation.PartialStep
import AdvMad.Lab8.Alert

/-!
# lab8: searches that overlap

`searchTermEntered` of `AlertRepository` launches `getAlertData` for every
term submitted through `searchUserInput`.  The requests run at the same time
on `Dispatchers.IO`, and each posts the alerts it receives to `alertData`.
Requests are numbered in the order of submission.  (`SearchResults` follows the
screen over searches that do not overlap.)
-/

namespace AdvMad.Lab8

open AdvMad.Foundation

/-- The body of a response; `data` is a set, listed in the order of its iteration. -/
structure SearchResponse where
  data : List Alert
  nodup : data.Nodup
  deriving DecidableEq, Repr

inductive Completion where
  | offline
  | response (code : Nat) (body : Option SearchResponse)
  deriving DecidableEq, Repr

inductive SearchEvent where
  | searchUserInput (searchTerm : String)
  | complete (request : Nat) (completion : Completion)
  | deliver
  deriving DecidableEq, Repr

structure AlertRepository where
  submitted : List String
  inFlight : List Nat
  alertData : PostedLiveData (List Alert)

namespace AlertRepository

def new : AlertRepository := ⟨[], [], .unset⟩

def searchTermEntered (repo : AlertRepository) (searchTerm : String) : AlertRepository :=
  { repo with
    submitted := repo.submitted ++ [searchTerm]
    inFlight := repo.inFlight ++ [repo.submitted.length] }

/-- The end of `getAlertData`: only a body is posted, whatever was submitted meanwhile. -/
def getAlertData (repo : AlertRepository) (request : Nat) (completion : Completion) :
    Option AlertRepository :=
  if request ∈ repo.inFlight then
    let repo := { repo with inFlight := repo.inFlight.erase request }
    match completion with
    | .offline => some repo
    | .response _ none => some repo
    | .response _ (some responseBody) =>
        some { repo with alertData := repo.alertData.postValue responseBody.data }
  else none

def step (repo : AlertRepository) : SearchEvent → Option AlertRepository
  | .searchUserInput searchTerm => some (repo.searchTermEntered searchTerm)
  | .complete request completion => repo.getAlertData request completion
  | .deliver => do
      let alertData ← repo.alertData.deliver
      some { repo with alertData := alertData }

def Idle (repo : AlertRepository) : Prop :=
  repo.inFlight = [] ∧ repo.alertData.pending = none

instance (repo : AlertRepository) : Decidable repo.Idle := by
  unfold Idle
  infer_instance

end AlertRepository

namespace SearchEvent

def arrival : SearchEvent → Option (Nat × List Alert)
  | .complete request (.response _ (some responseBody)) => some (request, responseBody.data)
  | _ => none

def isSubmission : SearchEvent → Bool
  | .searchUserInput _ => true
  | _ => false

end SearchEvent

def arrivals (events : List SearchEvent) : List (Nat × List Alert) :=
  events.filterMap SearchEvent.arrival

def lastRequest (events : List SearchEvent) : Nat :=
  events.countP SearchEvent.isSubmission - 1

def LastSearchWins (events : List SearchEvent) (repo : AlertRepository) : Prop :=
  repo.Idle → ∀ alerts, (lastRequest events, alerts) ∈ arrivals events →
    repo.alertData.data.value = some alerts

def LastArrivesLast (events : List SearchEvent) : Prop :=
  ∀ before after alerts, arrivals events = before ++ (lastRequest events, alerts) :: after →
    after = []

def lastArrival (events : List SearchEvent) : Option (List Alert) :=
  (arrivals events).getLast?.map Prod.snd

theorem lastArrival_cons (event : SearchEvent) (events : List SearchEvent) :
    lastArrival (event :: events) =
      (lastArrival events).or (event.arrival.map Prod.snd) := by
  unfold lastArrival arrivals
  cases harrival : event.arrival with
  | none => simp [harrival]
  | some arrived =>
      rw [List.filterMap_cons_some harrival, List.getLast?_cons]
      cases hlast : (events.filterMap SearchEvent.arrival).getLast? <;> simp

namespace AlertRepository

theorem step_latest {repo repo' : AlertRepository} {event : SearchEvent}
    (h : repo.step event = some repo') :
    repo'.alertData.latest = (event.arrival.map Prod.snd).or repo.alertData.latest := by
  cases event with
  | searchUserInput searchTerm =>
      cases h
      rfl
  | complete request completion =>
      simp only [step, getAlertData, Option.ite_none_right_eq_some] at h
      obtain ⟨-, h⟩ := h
      cases completion with
      | offline =>
          cases h
          rfl
      | response code body =>
          cases body with
          | none =>
              cases h
              rfl
          | some responseBody =>
              cases h
              rfl
  | deliver =>
      obtain ⟨alertData, hdeliver, hrepo'⟩ := Option.bind_eq_some_iff.mp h
      cases hrepo'
      exact PostedLiveData.latest_deliver hdeliver

theorem run_latest {repo repo' : AlertRepository} {events : List SearchEvent}
    (h : run step repo events = some repo') :
    repo'.alertData.latest = (lastArrival events).or repo.alertData.latest := by
  induction events generalizing repo with
  | nil =>
      cases h
      rfl
  | cons event events ih =>
      obtain ⟨next, hnext, hrest⟩ := Option.bind_eq_some_iff.mp h
      rw [ih hrest, step_latest hnext, lastArrival_cons, Option.or_assoc]

/--
In every run, once it is idle, `alertData` holds the alerts of the body that
arrived last, whichever search it was for.  So the search submitted last wins
if no body of another search arrives after its own.
-/
theorem holds_last_arrival (events : List SearchEvent) (repo : AlertRepository)
    (hrun : run step new events = some repo) :
    (repo.Idle → repo.alertData.data.value = lastArrival events) ∧
      (LastArrivesLast events → LastSearchWins events repo) := by
  have hlatest : repo.alertData.latest = lastArrival events := by
    have hrun' := run_latest hrun
    rwa [show (new.alertData).latest = none from rfl, Option.or_none] at hrun'
  have hidle : repo.Idle → repo.alertData.data.value = lastArrival events := by
    intro hidle
    rw [← PostedLiveData.latest_of_delivered hidle.2, hlatest]
  refine ⟨hidle, fun hlast hquiet alerts hmem => ?_⟩
  obtain ⟨before, after, hsplit⟩ := List.append_of_mem hmem
  obtain rfl : after = [] := hlast before after alerts hsplit
  rw [hidle hquiet, lastArrival, hsplit]
  simp

def fireBanFound : SearchResponse := ⟨[fireBan.toAlert], by decide⟩
def closureFound : SearchResponse := ⟨[closure.toAlert], by decide⟩

theorem holds_last_arrival_fire :
    let events : List SearchEvent :=
      [.searchUserInput "closure", .searchUserInput "fire",
        .complete 1 (.response 200 (some fireBanFound)), .deliver,
        .complete 0 (.response 500 none)]
    ∃ repo, run step new events = some repo ∧
      (repo.Idle → repo.alertData.data.value = lastArrival events) ∧
      (LastArrivesLast events → LastSearchWins events repo) :=
  ⟨_, rfl, holds_last_arrival _ _ rfl⟩

/-- The answer for "closure", submitted first, arrives after that for "fire". -/
theorem earlier_search_held :
    let events : List SearchEvent :=
      [.searchUserInput "closure", .searchUserInput "fire",
        .complete 1 (.response 200 (some fireBanFound)), .deliver,
        .complete 0 (.response 200 (some closureFound)), .deliver]
    ∃ repo, run step new events = some repo ∧ repo.Idle ∧
      repo.alertData.data.value = some [closure.toAlert] ∧
      ¬ LastSearchWins events repo := by
  refine ⟨_, rfl, by decide, rfl, fun hwins => ?_⟩
  have hheld := hwins (by decide) [fireBan.toAlert] (by decide)
  exact absurd hheld (by decide)

end AlertRepository

end AdvMad.Lab8
