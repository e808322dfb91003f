import AdvMad.Lab8.FavoriteRepository

/-!
# lab8: favourite membership

`favoriteList` is rebuilt by every snapshot, `allData` is only added to, and
membership is read from `allData`.  `Feed` pairs the repository with the
documents of the last snapshot delivered to it.
-/

namespace AdvMad.Lab8

open AdvMad.Foundation
open FavoriteRepository

structure Feed where
  repo : FavoriteRepository
  latest : List Document

namespace Feed

def new : Feed := ⟨.new, []⟩

def step (feed : Feed) (event : ListenerEvent) : Option Feed := do
  let repo ← feed.repo.listener event
  match event with
  | .error | .noSnapshot => some { feed with repo := repo }
  | .snapshot docs => some ⟨repo, docs⟩

def AnswersLatest (feed : Feed) : Prop :=
  ∀ id, (feed.repo.isAlertFavoriteId id).alertIsFavorite.value = some true ↔
    id ∈ ids feed.latest

def SnapshotWellFormed (_ : Feed) : ListenerEvent → Prop
  | .snapshot docs => ∀ doc ∈ docs, WellFormed doc
  | .error | .noSnapshot => True

def KeepsIds (feed : Feed) : ListenerEvent → Prop
  | .snapshot docs => ∀ id ∈ ids feed.latest, id ∈ ids docs
  | .error | .noSnapshot => True

instance (feed : Feed) (event : ListenerEvent) :
    Decidable (SnapshotWellFormed feed event) := by
  cases event <;> unfold SnapshotWellFormed <;> unfold WellFormed <;> infer_instance

instance (feed : Feed) (event : ListenerEvent) : Decidable (KeepsIds feed event) := by
  cases event <;> unfold KeepsIds <;> infer_instance

theorem answersLatest_iff_keys (feed : Feed) :
    feed.AnswersLatest ↔
      ∀ id, (feed.repo.allData id).isSome = true ↔ id ∈ ids feed.latest := by
  simp [AnswersLatest, isAlertFavoriteId]

theorem new_answersLatest : new.AnswersLatest := by
  simp [answersLatest_iff_keys, new, FavoriteRepository.new, ids]

theorem step_answersLatest_iff {feed : Feed} {event : ListenerEvent}
    (h : feed.AnswersLatest) (hwell : SnapshotWellFormed feed event) :
    ∃ feed', step feed event = some feed' ∧
      (feed'.AnswersLatest ↔ KeepsIds feed event) := by
  cases event with
  | error | noSnapshot => exact ⟨feed, rfl, iff_of_true h trivial⟩
  | snapshot docs =>
      obtain ⟨repo', hparse, hkeys⟩ := parseAllData_keys feed.repo hwell
      refine ⟨⟨repo', docs⟩, by simp [step, listener, hparse], ?_⟩
      rw [answersLatest_iff_keys] at h ⊢
      simp only [hkeys, h, or_iff_right_iff_imp]
      rfl

/--
After every delivery of well-formed documents `isAlertFavoriteId` answers for
the last snapshot, exactly if each snapshot keeps the ids of the one before.
-/
theorem membership_follows_snapshots_iff (events : List ListenerEvent)
    (hwell : EveryStep step SnapshotWellFormed new events) :
    Always step AnswersLatest new events ↔ EveryStep step KeepsIds new events := by
  apply always_iff_everyStep (fun _ => True)
  · intro feed event _ h hevent
    obtain ⟨feed', hstep, hiff⟩ := step_answersLatest_iff h hevent
    exact ⟨feed', hstep, trivial, hiff⟩
  · trivial
  · exact new_answersLatest
  · exact hwell

theorem membership_follows_snapshots_growing :
    let events : List ListenerEvent :=
      [.snapshot [alertDetailsToHashMap closure], .error,
        .snapshot [alertDetailsToHashMap closure, alertDetailsToHashMap fireBan]]
    Always step AnswersLatest new events ↔ EveryStep step KeepsIds new events :=
  membership_follows_snapshots_iff _ (by decide)

theorem removed_favorite_remains :
    let events : List ListenerEvent :=
      [.snapshot [alertDetailsToHashMap closure], .snapshot []]
    EveryStep step SnapshotWellFormed new events ∧
      ((run step new events).bind fun feed =>
        (feed.repo.isAlertFavoriteId "a1").alertIsFavorite.value) = some true ∧
      (run step new events).map (fun feed => ids feed.latest) = some [] ∧
      ¬ Always step AnswersLatest new events := by
  refine ⟨by decide, by decide, by decide, fun h => ?_⟩
  obtain ⟨feed, hrun, hanswers⟩ := h.final
  have hid := (hanswers "a1").mp
  cases hrun
  exact absurd (hid (by decide)) (by decide)

end Feed

/-! ## What the repository remembers -/

inductive RepositoryEvent where
  | listen (event : ListenerEvent)
  | isAlertFavoriteId (id : String)
  | getDetailsForAlert (alert : Alert)
  deriving DecidableEq, Repr

def FavoriteRepository.step (repo : FavoriteRepository) :
    RepositoryEvent → Option FavoriteRepository
  | .listen event => repo.listener event
  | .isAlertFavoriteId id => some (repo.isAlertFavoriteId id)
  | .getDetailsForAlert alert => some (repo.getDetailsForAlert alert)

def RepositoryEvent.snapshot : RepositoryEvent → Option (List Document)
  | .listen (.snapshot docs) => some docs
  | .listen .error | .listen .noSnapshot => none
  | .isAlertFavoriteId _ | .getDetailsForAlert _ => none

def snapshots (events : List RepositoryEvent) : List (List Document) :=
  events.filterMap RepositoryEvent.snapshot

/-! The fields of a document, where the constructor calls of `parseAllData` put them. -/

def field (doc : Document) (name : String) : String := (doc.getString name).getD ""

def listedAs (doc : Document) : Alert where
  category := field doc "id"
  description := field doc "title"
  id := field doc "parkCode"
  parkCode := field doc "url"
  title := field doc "category"
  url := field doc "description"

def detailedAs (doc : Document) : AlertDetails where
  id := field doc "id"
  category := field doc "title"
  description := field doc "parkCode"
  parkCode := field doc "url"
  title := field doc "category"
  url := field doc "description"

def lastWithId (docs : List Document) (id : String) : Option Document :=
  docs.reverse.find? fun doc => doc.getString "id" = some id

theorem parseDocument_isSome_iff (doc : Document) :
    (parseDocument doc).isSome = true ↔ WellFormed doc := by
  constructor
  · intro h
    obtain ⟨entry, hentry⟩ := Option.isSome_iff_exists.mp h
    simp only [parseDocument, Option.bind_eq_bind, Option.bind_eq_some_iff] at hentry
    obtain ⟨id, hid, title, htitle, category, hcategory, description, hdescription,
      parkCode, hparkCode, url, hurl, -⟩ := hentry
    simp [WellFormed, fields, hid, htitle, hcategory, hdescription, hparkCode, hurl]
  · intro h
    obtain ⟨entry, hentry, -⟩ := parseDocument_wellFormed h
    simp [hentry]

theorem getString_eq_field {doc : Document} (h : WellFormed doc) {name : String}
    (hname : name ∈ fields) : doc.getString name = some (field doc name) := by
  obtain ⟨value, hvalue⟩ := Option.isSome_iff_exists.mp (h name hname)
  rw [field, hvalue, Option.getD_some]

theorem parseDocument_eq {doc : Document} (h : WellFormed doc) :
    parseDocument doc = some (field doc "id", listedAs doc, detailedAs doc) := by
  have hfield : ∀ name ∈ fields, doc.getString name = some (field doc name) :=
    fun name hname => getString_eq_field h hname
  rw [parseDocument, hfield "id" (by decide), hfield "title" (by decide),
    hfield "category" (by decide), hfield "description" (by decide),
    hfield "parkCode" (by decide), hfield "url" (by decide)]
  rfl

theorem parseLoop_isSome_iff (docs : List Document) (allFavorites : List Alert)
    (allData : String → Option AlertDetails) :
    (parseLoop docs allFavorites allData).isSome = true ↔ ∀ doc ∈ docs, WellFormed doc := by
  induction docs generalizing allFavorites allData with
  | nil => simp [parseLoop]
  | cons doc docs ih =>
      rw [List.forall_mem_cons, ← parseDocument_isSome_iff]
      cases hdoc : parseDocument doc with
      | none => simp [parseLoop, hdoc]
      | some entry => simp [parseLoop, hdoc, ih]

theorem lastWithId_append (earlier later : List Document) (id : String) :
    lastWithId (earlier ++ later) id = (lastWithId later id).or (lastWithId earlier id) := by
  simp [lastWithId]

theorem parseLoop_eq {docs : List Document} (h : ∀ doc ∈ docs, WellFormed doc)
    (allFavorites : List Alert) (allData : String → Option AlertDetails) :
    ∃ allData', parseLoop docs allFavorites allData =
        some (allFavorites ++ docs.map listedAs, allData') ∧
      ∀ id, allData' id = ((lastWithId docs id).map detailedAs).or (allData id) := by
  induction docs generalizing allFavorites allData with
  | nil => exact ⟨allData, by simp [parseLoop], fun id => by simp [lastWithId]⟩
  | cons doc docs ih =>
      obtain ⟨hdoc, hdocs⟩ := List.forall_mem_cons.mp h
      obtain ⟨allData', hloop, hdata⟩ := ih hdocs (allFavorites ++ [listedAs doc])
        (Function.update allData (field doc "id") (some (detailedAs doc)))
      refine ⟨allData', ?_, fun id => ?_⟩
      · simp [parseLoop, parseDocument_eq hdoc, hloop]
      · have hid : doc.getString "id" = some (field doc "id") :=
          getString_eq_field hdoc (by decide)
        have hhead : lastWithId [doc] id = if id = field doc "id" then some doc else none := by
          by_cases heq : id = field doc "id"
          · simp [lastWithId, hid, heq]
          · simp [lastWithId, hid, heq, Ne.symm heq]
        rw [hdata id, ← List.singleton_append, lastWithId_append, hhead]
        by_cases heq : id = field doc "id"
        · subst heq
          cases lastWithId docs (field doc "id") <;> simp
        · simp [heq]

structure Remembers (repo : FavoriteRepository) (delivered : List (List Document)) : Prop where
  listed : repo.favoriteList.value = delivered.getLast?.map fun docs => docs.map listedAs
  details : ∀ id, repo.allData id = (lastWithId delivered.flatten id).map detailedAs

theorem step_isSome_iff (repo : FavoriteRepository) (event : RepositoryEvent) :
    (repo.step event).isSome = true ↔
      ∀ docs, event.snapshot = some docs → ∀ doc ∈ docs, WellFormed doc := by
  cases event with
  | isAlertFavoriteId id | getDetailsForAlert alert =>
      simp [FavoriteRepository.step, RepositoryEvent.snapshot]
  | listen event =>
      cases event with
      | error | noSnapshot =>
          simp [FavoriteRepository.step, listener, RepositoryEvent.snapshot]
      | snapshot docs =>
          have hparse : (repo.parseAllData docs).isSome =
              (parseLoop docs [] repo.allData).isSome := by
            unfold parseAllData
            cases parseLoop docs [] repo.allData <;> rfl
          simp [FavoriteRepository.step, listener, RepositoryEvent.snapshot, hparse,
            parseLoop_isSome_iff]

theorem step_remembers {repo repo' : FavoriteRepository} {delivered : List (List Document)}
    {event : RepositoryEvent} (h : Remembers repo delivered)
    (hstep : repo.step event = some repo') :
    Remembers repo' (delivered ++ event.snapshot.toList) := by
  cases event with
  | isAlertFavoriteId id | getDetailsForAlert alert =>
      cases hstep
      rw [RepositoryEvent.snapshot, Option.toList_none, List.append_nil]
      exact ⟨h.listed, h.details⟩
  | listen event =>
      cases event with
      | error | noSnapshot =>
          cases hstep
          simpa [RepositoryEvent.snapshot] using h
      | snapshot docs =>
          have hdocs : ∀ doc ∈ docs, WellFormed doc :=
            (step_isSome_iff repo (.listen (.snapshot docs))).mp (by simp [hstep]) docs rfl
          obtain ⟨allData, hloop, hdata⟩ := parseLoop_eq hdocs [] repo.allData
          have hparse : repo.parseAllData docs = some repo' := hstep
          rw [parseAllData, hloop] at hparse
          cases hparse
          constructor
          · simp [RepositoryEvent.snapshot]
          · intro id
            calc allData id
                _ = ((lastWithId docs id).map detailedAs).or (repo.allData id) := hdata id
                _ = ((lastWithId docs id).map detailedAs).or
                    ((lastWithId delivered.flatten id).map detailedAs) := by rw [h.details id]
                _ = (lastWithId (delivered ++ [docs]).flatten id).map detailedAs := by
                  rw [List.flatten_append, lastWithId_append, List.flatten_singleton,
                    Option.map_or]

theorem snapshots_cons (event : RepositoryEvent) (events : List RepositoryEvent) :
    snapshots (event :: events) = event.snapshot.toList ++ snapshots events := by
  unfold snapshots
  cases hevent : event.snapshot with
  | none => simp [hevent]
  | some docs => simp [hevent]

theorem run_remembers {repo repo' : FavoriteRepository} {delivered : List (List Document)}
    {events : List RepositoryEvent} (h : Remembers repo delivered)
    (hrun : run FavoriteRepository.step repo events = some repo') :
    Remembers repo' (delivered ++ snapshots events) := by
  induction events generalizing repo delivered with
  | nil =>
      cases hrun
      simpa [snapshots] using h
  | cons event events ih =>
      obtain ⟨next, hnext, hrest⟩ := Option.bind_eq_some_iff.mp hrun
      have hevents := ih (step_remembers h hnext) hrest
      rwa [snapshots_cons, ← List.append_assoc]

theorem run_isSome_iff (repo : FavoriteRepository) (events : List RepositoryEvent) :
    (run FavoriteRepository.step repo events).isSome = true ↔
      ∀ docs ∈ snapshots events, ∀ doc ∈ docs, WellFormed doc := by
  induction events generalizing repo with
  | nil => simp [snapshots]
  | cons event events ih =>
      have hhead : (repo.step event).isSome = true ↔
          ∀ docs ∈ event.snapshot.toList, ∀ doc ∈ docs, WellFormed doc := by
        simp only [step_isSome_iff, Option.mem_toList]
      rw [snapshots_cons, List.forall_mem_append, ← hhead]
      cases hstep : repo.step event with
      | none => simp [hstep]
      | some next => simp [hstep, ih]

theorem lastWithId_isSome_iff (docs : List Document) (id : String) :
    (lastWithId docs id).isSome = true ↔ id ∈ ids docs := by
  simp [lastWithId, ids]

/--
The listener fails exactly on a document with a missing field.  Otherwise the
list has an entry for each document of the last snapshot, an alert counts as a
favourite as soon as any snapshot had it, and its details are read from its last
document; `listedAs` and `detailedAs` say which field comes where.
-/
theorem repository_remembers_snapshots (events : List RepositoryEvent) :
    ((run FavoriteRepository.step .new events).isSome = true ↔
        ∀ docs ∈ snapshots events, ∀ doc ∈ docs, WellFormed doc) ∧
      ∀ repo, run FavoriteRepository.step .new events = some repo →
        repo.favoriteList.value = (snapshots events).getLast?.map
            (fun docs => docs.map listedAs) ∧
          (∀ id, (repo.isAlertFavoriteId id).alertIsFavorite.value =
            some (decide (id ∈ ids (snapshots events).flatten))) ∧
          ∀ alert, (repo.getDetailsForAlert alert).favoriteDetails.value =
            some ((lastWithId (snapshots events).flatten alert.id).map detailedAs) := by
  refine ⟨run_isSome_iff .new events, fun repo hrun => ?_⟩
  have hnew : Remembers .new [] := ⟨rfl, fun _ => rfl⟩
  have hrepo : Remembers repo (snapshots events) := run_remembers hnew hrun
  refine ⟨hrepo.listed, fun id => ?_, fun alert => ?_⟩
  · have hid := lastWithId_isSome_iff (snapshots events).flatten id
    simp [isAlertFavoriteId, hrepo.details, ← hid]
  · simp [getDetailsForAlert, hrepo.details]

theorem repository_remembers_snapshots_removed :
    let events : List RepositoryEvent :=
      [.listen (.snapshot [alertDetailsToHashMap closure]), .isAlertFavoriteId "a1",
        .listen (.snapshot [])]
    ((run FavoriteRepository.step .new events).isSome = true ↔
        ∀ docs ∈ snapshots events, ∀ doc ∈ docs, WellFormed doc) ∧
      ∀ repo, run FavoriteRepository.step .new events = some repo →
        repo.favoriteList.value = (snapshots events).getLast?.map
            (fun docs => docs.map listedAs) ∧
          (∀ id, (repo.isAlertFavoriteId id).alertIsFavorite.value =
            some (decide (id ∈ ids (snapshots events).flatten))) ∧
          ∀ alert, (repo.getDetailsForAlert alert).favoriteDetails.value =
            some ((lastWithId (snapshots events).flatten alert.id).map detailedAs) :=
  repository_remembers_snapshots _

end AdvMad.Lab8
