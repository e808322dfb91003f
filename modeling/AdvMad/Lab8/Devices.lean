import AdvMad.Foundation.Replicas
import AdvMad.Lab8.Codec

/-!
# lab8: favourites on several devices

Every device writes to the collection `favorites`, and every view model has a
repository that listens to it.  What the collection is for is `saved`: the
alerts that were added and not removed since.  Firestore is any `Backend`; the
app signs nobody in.
-/

namespace AdvMad.Lab8

open AdvMad.Foundation
open FavoriteRepository

variable {β ε : Type}

inductive FavoriteWrite where
  | addFavorite (alert : AlertDetails)
  | removeAlertFromFavorites (id : String)
  deriving DecidableEq, Repr

def applyWrite (favorites : Collection) : FavoriteWrite → Collection
  | .addFavorite alert => addFavorite favorites alert
  | .removeAlertFromFavorites id => removeAlertFromFavorites favorites id

def FavoriteWrite.id : FavoriteWrite → String
  | .addFavorite alert => alert.id
  | .removeAlertFromFavorites id => id

/-- `document(id)` throws on an empty id and reads a path where there is a slash. -/
def IsDocumentId (id : String) : Prop := id ≠ "" ∧ '/' ∉ id.toList

/-- Every repository listens to the whole collection; the documents of a snapshot come in
no particular order. -/
def favoritesDb :
    Replication Unit Collection FavoriteWrite Unit (List Document) FavoriteRepository where
  empty := .empty
  apply favorites _ op := applyWrite favorites op
  ValidWrite op := IsDocumentId op.id
  fresh _ _ := .new
  IsSnapshot _ favorites docs := docs.Perm (favorites.rows.map Prod.snd)
  receive repo docs := repo.listener (.snapshot docs)

/-! ## What is saved -/

abbrev SavedAlerts := String → Option AlertDetails

def SavedAlerts.write (alerts : SavedAlerts) : FavoriteWrite → SavedAlerts
  | .addFavorite alert => Function.update alerts alert.id (some alert)
  | .removeAlertFromFavorites id => Function.update alerts id none

def saved (writes : List FavoriteWrite) : SavedAlerts :=
  writes.foldl SavedAlerts.write fun _ => none

def row (alert : AlertDetails) : String × Document := (alert.id, alertDetailsToHashMap alert)

theorem row_injective : Function.Injective row := fun _ _ h =>
  alertDetailsToHashMap_injective (congrArg Prod.snd h)

def Represents (favorites : Collection) (alerts : SavedAlerts) : Prop :=
  ∀ id, favorites.get id = (alerts id).map row

/-- One entry for each of these alerts and no other, with the fields of the alert in the
places where `parseAllData` puts them. -/
structure HoldsAsRead (repo : FavoriteRepository) (alerts : SavedAlerts) : Prop where
  listed : ∃ list : List AlertDetails, list.Nodup ∧
    (∀ alert, alert ∈ list ↔ alerts alert.id = some alert) ∧
    repo.favoriteList.value = some (list.map fun alert =>
      { category := alert.id
        description := alert.title
        id := alert.parkCode
        parkCode := alert.url
        title := alert.category
        url := alert.description })
  details : ∀ id alert, alerts id = some alert → repo.allData id = some
    { id := alert.id
      category := alert.title
      description := alert.parkCode
      parkCode := alert.url
      title := alert.category
      url := alert.description }

structure Unchanged (repo : FavoriteRepository) (alerts : SavedAlerts) : Prop where
  listed : (∀ alert, alerts alert.id = some alert → Uniform alert) →
    ∃ list : List AlertDetails, (∀ alert, alert ∈ list ↔ alerts alert.id = some alert) ∧
      repo.favoriteList.value = some (list.map AlertDetails.toAlert)
  details : ∀ id alert, alerts id = some alert →
    (repo.allData id = some alert ↔ alert.title = alert.category ∧
      alert.parkCode = alert.description ∧ alert.url = alert.description)

theorem HoldsAsRead.unchanged {repo : FavoriteRepository} {alerts : SavedAlerts}
    (h : HoldsAsRead repo alerts) : Unchanged repo alerts where
  listed huniform := by
    obtain ⟨list, -, hmem, hvalue⟩ := h.listed
    refine ⟨list, hmem, hvalue.trans (congrArg some (List.map_congr_left fun alert halert => ?_))⟩
    exact (readAlert_eq_iff alert).mpr (huniform alert ((hmem alert).mp halert))
  details id alert halert := by
    rw [h.details id alert halert, Option.some.injEq]
    exact readDetails_eq_iff alert

theorem empty_represents : Represents .empty (saved []) := fun _ => rfl

theorem applyWrite_represents {favorites : Collection} {alerts : SavedAlerts}
    (h : Represents favorites alerts) (op : FavoriteWrite) :
    Represents (applyWrite favorites op) (alerts.write op) := by
  intro id
  cases op with
  | addFavorite alert =>
      simp only [applyWrite, addFavorite, SavedAlerts.write, KeyedRows.get_upsert]
      by_cases hid : id = alert.id
      · subst hid
        simp [row]
      · simp [hid, h id]
  | removeAlertFromFavorites other =>
      simp only [applyWrite, removeAlertFromFavorites, SavedAlerts.write, KeyedRows.get_delete]
      by_cases hid : id = other
      · subst hid
        simp
      · simp [hid, h id]

theorem applyAll_represents (writes : List (Author Unit × FavoriteWrite)) :
    Represents (favoritesDb.applyAll writes) (saved (writes.map Prod.snd)) := by
  refine Replication.applyAll_induction
    (motive := fun favorites writes => Represents favorites (saved (writes.map Prod.snd)))
    empty_represents (fun favorites writes entry h => ?_) writes
  have hsaved : saved ((writes ++ [entry]).map Prod.snd) =
      (saved (writes.map Prod.snd)).write entry.2 := by
    simp [saved]
  rw [hsaved]
  exact applyWrite_represents h entry.2

theorem Represents.id_eq {favorites : Collection} {alerts : SavedAlerts}
    (h : Represents favorites alerts) {id : String} {alert : AlertDetails}
    (halert : alerts id = some alert) : alert.id = id := by
  have hget : favorites.get id = some (row alert) := by
    rw [h id, halert]
    rfl
  have hkey : Prod.fst (row alert) = id := KeyedRows.key_of_get hget
  exact hkey

theorem Represents.mem_rows {favorites : Collection} {alerts : SavedAlerts}
    (h : Represents favorites alerts) {entry : String × Document} :
    entry ∈ favorites.rows ↔ ∃ alert, alerts alert.id = some alert ∧ entry = row alert := by
  have hget : entry ∈ favorites.rows ↔ favorites.get entry.1 = some entry := by
    simp [KeyedRows.get_eq_some_iff]
  rw [hget, h entry.1, Option.map_eq_some_iff]
  constructor
  · rintro ⟨alert, halert, rfl⟩
    exact ⟨alert, halert, rfl⟩
  · rintro ⟨alert, halert, rfl⟩
    exact ⟨alert, halert, rfl⟩

theorem Represents.snapshot {favorites : Collection} {alerts : SavedAlerts}
    (h : Represents favorites alerts) {docs : List Document}
    (hdocs : docs.Perm (favorites.rows.map Prod.snd)) :
    ∃ list : List AlertDetails, docs = list.map alertDetailsToHashMap ∧
      (list.map (·.id)).Nodup ∧ ∀ alert, alert ∈ list ↔ alerts alert.id = some alert := by
  have hrows : favorites.rows ∈ Set.range (List.map row) := by
    rw [Set.range_list_map]
    intro entry hentry
    obtain ⟨alert, -, heq⟩ := h.mem_rows.mp hentry
    exact ⟨alert, heq.symm⟩
  obtain ⟨all, hall⟩ := hrows
  have hmem : ∀ alert, alert ∈ all ↔ alerts alert.id = some alert := by
    intro alert
    rw [← List.mem_map_of_injective row_injective, hall, h.mem_rows]
    constructor
    · rintro ⟨other, hother, heq⟩
      rwa [row_injective heq]
    · exact fun hsaved => ⟨alert, hsaved, rfl⟩
  have hids : (all.map (·.id)).Nodup := by
    simpa [← hall, Function.comp_def, row] using favorites.nodup_keys
  have hall' : docs.Perm (all.map alertDetailsToHashMap) := by
    simpa [← hall, Function.comp_def, row] using hdocs
  have hreordered := congrFun₂ (List.eq_map_comp_perm alertDetailsToHashMap) docs all
  obtain ⟨list, rfl, hperm⟩ := hreordered.mpr hall'
  refine ⟨list, rfl, (hperm.map _).nodup_iff.mpr hids, fun alert => ?_⟩
  rw [hperm.mem_iff, hmem]

/-! ## Devices -/

theorem listener_holds (repo : FavoriteRepository) {favorites : Collection}
    {alerts : SavedAlerts} (h : Represents favorites alerts) {docs : List Document}
    (hdocs : docs.Perm (favorites.rows.map Prod.snd)) :
    ∃ repo', repo.listener (.snapshot docs) = some repo' ∧ HoldsAsRead repo' alerts := by
  obtain ⟨list, rfl, hids, hmem⟩ := h.snapshot hdocs
  obtain ⟨repo', hparse, hlist, hdata⟩ := parseAllData_toHashMap repo hids
  refine ⟨repo', hparse, ⟨list, hids.of_map _, hmem, hlist⟩, ?_⟩
  intro id alert halert
  have hid := h.id_eq halert
  subst hid
  exact hdata alert ((hmem alert).mpr halert)

theorem favoritesDb_faithful :
    favoritesDb.Faithful (fun favorites => ∃ alerts, Represents favorites alerts)
      (fun repo favorites => ∀ alerts, Represents favorites alerts →
        HoldsAsRead repo alerts) where
  empty := ⟨_, empty_represents⟩
  apply := fun _ _ op ⟨_, h⟩ => ⟨_, applyWrite_represents h op⟩
  receive := by
    rintro repo favorites docs ⟨alerts, h⟩ hdocs
    obtain ⟨repo', hlistener, hholds⟩ := listener_holds repo h hdocs
    refine ⟨repo', hlistener, fun other hother => ?_⟩
    have hsame : other = alerts := by
      funext id
      exact Option.map_injective row_injective ((hother id).symm.trans (h id))
    rwa [hsame]

abbrev Devices (β : Type) := Replicas β FavoriteRepository

abbrev DeviceEvent (ε : Type) := ReplicaEvent ε Unit FavoriteWrite Unit (List Document)

def device (n : Nat) : Author Unit := ⟨n, ()⟩

instance (id : String) : Decidable (IsDocumentId id) := by
  unfold IsDocumentId
  infer_instance

instance (B : Backend β ε Unit FavoriteWrite) (devices : Devices β) (event : DeviceEvent ε) :
    Decidable (favoritesDb.Admissible B devices event) :=
  match event with
  | .write author op =>
      inferInstanceAs (Decidable (author.user = B.user devices.backend author.device ∧
        IsDocumentId op.id))
  | .behind e => inferInstanceAs (Decidable ((B.next devices.backend e).isSome = true))
  | .openView _ _ _ => isTrue trivial
  | .deliver n i docs =>
      decidable_of_iff ((devices.view n i).isSome = true ∧
          docs.Perm ((favoritesDb.seen B devices.backend n).rows.map Prod.snd)) (by
        simp [Replication.Admissible, favoritesDb, Option.isSome_iff_exists])

/--
Whatever the devices write, learn of and are shown, no listener fails on a
missing field.  The collection has the alerts that the accepted writes saved,
and the writes of one device are accepted in the order in which it made them.
-/
theorem devices_never_fail (B : Backend β ε Unit FavoriteWrite) (events : List (DeviceEvent ε))
    (hadm : EveryStep (favoritesDb.step B) (favoritesDb.Admissible B) (.start B) events) :
    ∃ t : Devices β, run (favoritesDb.step B) (.start B) events = some t ∧
      Represents (favoritesDb.store B t.backend)
        (saved ((B.accepted t.backend).map Prod.snd)) ∧
      ∀ n,
        (B.acceptedFrom t.backend (device n) ++ B.queued t.backend (device n)).Sublist
          (issued (device n) events) ∧
        (Unrejected B events →
          B.acceptedFrom t.backend (device n) ++ B.queued t.backend (device n) =
            issued (device n) events) := by
  obtain ⟨t, hrun⟩ := Option.isSome_iff_exists.mp (favoritesDb_faithful.run_isSome hadm)
  exact ⟨t, hrun, applyAll_represents _,
    fun n => Replication.accepted_sublist_issued hadm hrun (device n)⟩

def firestore : Backend (Queues Unit FavoriteWrite) (QueueEvent Unit) Unit FavoriteWrite :=
  queues ()

/-- The second device removes the alert of the first before it has learnt of another. -/
def twoDevices : List (DeviceEvent (QueueEvent Unit)) :=
  [.openView 0 0 (), .write (device 0) (.addFavorite closure),
    .deliver 0 0 [alertDetailsToHashMap closure], .behind (.accept 0), .behind (.fetch 1 1),
    .openView 1 0 (), .deliver 1 0 [alertDetailsToHashMap closure],
    .write (device 0) (.addFavorite fireBan),
    .write (device 1) (.removeAlertFromFavorites "a1"), .behind (.accept 0),
    .behind (.accept 1), .behind (.fetch 0 3), .openView 1 0 (), .behind (.fetch 1 3)]

theorem devices_never_fail_two :
    ∃ t : Devices _, run (favoritesDb.step firestore) (.start firestore) twoDevices = some t ∧
      Represents (favoritesDb.store firestore t.backend)
        (saved ((firestore.accepted t.backend).map Prod.snd)) ∧
      ∀ n,
        (firestore.acceptedFrom t.backend (device n) ++
            firestore.queued t.backend (device n)).Sublist (issued (device n) twoDevices) ∧
        (Unrejected firestore twoDevices →
          firestore.acceptedFrom t.backend (device n) ++ firestore.queued t.backend (device n) =
            issued (device n) twoDevices) :=
  devices_never_fail firestore twoDevices (by decide)

end AdvMad.Lab8
