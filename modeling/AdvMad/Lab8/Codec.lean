import Mathlib.Data.List.Forall2
import Mathlib.Data.List.Perm.Basic
import Mathlib.Data.Set.List
import AdvMad.Lab8.FavoriteRepository

/-!
# lab8: favourites written and read back

`addFavorite` writes the fields by name.  `parseAllData` passes them on by
position, in one order for two classes that declare them in different orders.
-/

namespace AdvMad.Lab8

open AdvMad.Foundation
open FavoriteRepository

def stored (alerts : List AlertDetails) : Collection :=
  alerts.foldl addFavorite .empty

def readAlert (alert : AlertDetails) : Alert :=
  ⟨alert.id, alert.title, alert.parkCode, alert.url, alert.category, alert.description⟩

def readDetails (alert : AlertDetails) : AlertDetails :=
  ⟨alert.id, alert.title, alert.parkCode, alert.url, alert.category, alert.description⟩

def Uniform (alert : AlertDetails) : Prop :=
  alert.category = alert.id ∧ alert.description = alert.id ∧ alert.parkCode = alert.id ∧
    alert.title = alert.id ∧ alert.url = alert.id

def OpensFrom (repo : FavoriteRepository) (alerts : List AlertDetails)
    (doc : Document) (e : Alert) : Prop :=
  ∃ alert ∈ alerts, doc = alertDetailsToHashMap alert ∧ e = alert.toAlert ∧
    (repo.getDetailsForAlert e).favoriteDetails.value = some (some alert)

def ReadBack (repo : FavoriteRepository) (alerts : List AlertDetails)
    (docs : List Document) : Prop :=
  (∀ alert ∈ alerts, repo.allData alert.id = some alert) ∧
    ∃ list, repo.favoriteList.value = some list ∧
      List.Forall₂ (OpensFrom repo alerts) docs list

/-! ## The documents of a snapshot -/

theorem rows_stored {alerts : List AlertDetails} (h : (alerts.map (·.id)).Nodup) :
    (stored alerts).rows =
      alerts.map fun alert => (alert.id, alertDetailsToHashMap alert) := by
  have hfold : stored alerts =
      (alerts.map fun alert => (alert.id, alertDetailsToHashMap alert)).foldl
        KeyedRows.upsert .empty := by
    rw [List.foldl_map]
    rfl
  rw [hfold, KeyedRows.rows_foldl_upsert]
  · rfl
  · simpa [KeyedRows.empty, Function.comp_def] using h

theorem alertDetailsToHashMap_injective : Function.Injective alertDetailsToHashMap := by
  intro a b h
  cases a
  cases b
  simp only [alertDetailsToHashMap, List.cons.injEq, Prod.mk.injEq] at h
  simp [h]

theorem snapshot_of_stored {alerts : List AlertDetails} {docs : List Document}
    (hids : (alerts.map (·.id)).Nodup)
    (hdocs : docs.Perm ((stored alerts).rows.map Prod.snd)) :
    ∃ order : List AlertDetails,
      order.Perm alerts ∧ docs = order.map alertDetailsToHashMap := by
  have hperm : docs.Perm (alerts.map alertDetailsToHashMap) := by
    simpa [rows_stored hids, Function.comp_def] using hdocs
  have hrange : docs ∈ Set.range (List.map alertDetailsToHashMap) := by
    rw [Set.range_list_map]
    intro doc hdoc
    obtain ⟨alert, -, halert⟩ := List.mem_map.mp (hperm.mem_iff.mp hdoc)
    exact ⟨alert, halert⟩
  obtain ⟨order, rfl⟩ := hrange
  exact ⟨order, (List.map_perm_map_iff alertDetailsToHashMap_injective).mp hperm, rfl⟩

/-! ## Reading them -/

theorem parseDocument_toHashMap (alert : AlertDetails) :
    parseDocument (alertDetailsToHashMap alert) =
      some (alert.id, readAlert alert, readDetails alert) := rfl

def readMap (allData : String → Option AlertDetails) (alerts : List AlertDetails) :
    String → Option AlertDetails :=
  alerts.foldl
    (fun data alert => Function.update data alert.id (some (readDetails alert))) allData

theorem parseLoop_toHashMap (alerts : List AlertDetails) (allFavorites : List Alert)
    (allData : String → Option AlertDetails) :
    parseLoop (alerts.map alertDetailsToHashMap) allFavorites allData =
      some (allFavorites ++ alerts.map readAlert, readMap allData alerts) := by
  induction alerts generalizing allFavorites allData with
  | nil => simp [parseLoop, readMap]
  | cons alert alerts ih =>
      simp only [List.map_cons, parseLoop, parseDocument_toHashMap]
      rw [Option.bind_eq_bind, Option.bind_some, ih]
      simp [readMap]

theorem readMap_of_notMem {alerts : List AlertDetails} {id : String}
    (h : id ∉ alerts.map (·.id)) (allData : String → Option AlertDetails) :
    readMap allData alerts id = allData id := by
  induction alerts generalizing allData with
  | nil => rfl
  | cons alert alerts ih =>
      rw [List.map_cons, List.mem_cons, not_or] at h
      have hrest := ih h.2 (Function.update allData alert.id (some (readDetails alert)))
      rwa [Function.update_of_ne h.1] at hrest

theorem readMap_of_mem {alerts : List AlertDetails} (hids : (alerts.map (·.id)).Nodup)
    {alert : AlertDetails} (h : alert ∈ alerts)
    (allData : String → Option AlertDetails) :
    readMap allData alerts alert.id = some (readDetails alert) := by
  induction alerts generalizing allData with
  | nil => cases h
  | cons first alerts ih =>
      rw [List.map_cons, List.nodup_cons] at hids
      cases h with
      | head =>
          have hrest := readMap_of_notMem hids.1
            (Function.update allData alert.id (some (readDetails alert)))
          rwa [Function.update_self] at hrest
      | tail _ htail =>
          exact ih hids.2 htail (Function.update allData first.id (some (readDetails first)))

theorem parseAllData_toHashMap (repo : FavoriteRepository) {alerts : List AlertDetails}
    (hids : (alerts.map (·.id)).Nodup) :
    ∃ repo', repo.parseAllData (alerts.map alertDetailsToHashMap) = some repo' ∧
      repo'.favoriteList.value = some (alerts.map readAlert) ∧
      ∀ alert ∈ alerts, repo'.allData alert.id = some (readDetails alert) := by
  refine ⟨{ repo with
      allData := readMap repo.allData alerts
      favoriteList := repo.favoriteList.setValue (alerts.map readAlert) }, ?_, rfl, ?_⟩
  · simp [parseAllData, parseLoop_toHashMap]
  · intro alert halert
    exact readMap_of_mem hids halert repo.allData

/-! ## The round trip -/

theorem readDetails_eq_iff (alert : AlertDetails) :
    readDetails alert = alert ↔
      alert.title = alert.category ∧ alert.parkCode = alert.description ∧
        alert.url = alert.description := by
  cases alert
  simp only [readDetails, AlertDetails.mk.injEq, true_and]
  constructor
  · rintro ⟨htitle, hparkCode, hurl, -, -⟩
    exact ⟨htitle, hparkCode, hurl.trans hparkCode⟩
  · rintro ⟨rfl, rfl, rfl⟩
    exact ⟨rfl, rfl, rfl, rfl, rfl⟩

theorem readAlert_eq_iff (alert : AlertDetails) :
    readAlert alert = alert.toAlert ↔ Uniform alert := by
  cases alert
  simp only [readAlert, AlertDetails.toAlert, Uniform, Alert.mk.injEq]
  constructor
  · rintro ⟨rfl, rfl, rfl, rfl, rfl, -⟩
    exact ⟨rfl, rfl, rfl, rfl, rfl⟩
  · rintro ⟨rfl, rfl, rfl, rfl, rfl⟩
    exact ⟨rfl, rfl, rfl, rfl, rfl, rfl⟩

theorem Uniform.readDetails_eq {alert : AlertDetails} (h : Uniform alert) :
    readDetails alert = alert := by
  obtain ⟨hcategory, hdescription, hparkCode, htitle, hurl⟩ := h
  rw [readDetails_eq_iff, hcategory, hdescription]
  exact ⟨htitle, hparkCode, hurl⟩

theorem opensFrom_iff {repo : FavoriteRepository} {alerts : List AlertDetails}
    {alert : AlertDetails} (halert : alert ∈ alerts)
    (hdata : repo.allData alert.id = some (readDetails alert)) :
    OpensFrom repo alerts (alertDetailsToHashMap alert) (readAlert alert) ↔
      Uniform alert := by
  constructor
  · rintro ⟨other, -, hdoc, hread, -⟩
    have hother : other = alert := alertDetailsToHashMap_injective hdoc.symm
    rw [hother] at hread
    exact (readAlert_eq_iff alert).mp hread
  · intro huniform
    have hread := (readAlert_eq_iff alert).mpr huniform
    have hdetails := huniform.readDetails_eq
    refine ⟨alert, halert, rfl, hread, ?_⟩
    have hid : (readAlert alert).id = alert.id := by rw [hread]; rfl
    simp [getDetailsForAlert, hid, hdata, hdetails]

/--
A snapshot of the stored favourites gives them back, in the map, in the list
and through `getDetailsForAlert`, exactly if each of them is uniform.
-/
theorem favorites_read_back_iff (repo : FavoriteRepository) (alerts : List AlertDetails)
    (docs : List Document) (hids : (alerts.map (·.id)).Nodup)
    (hdocs : docs.Perm ((stored alerts).rows.map Prod.snd)) :
    ∃ repo', repo.parseAllData docs = some repo' ∧
      (ReadBack repo' alerts docs ↔ ∀ alert ∈ alerts, Uniform alert) := by
  obtain ⟨order, horder, rfl⟩ := snapshot_of_stored hids hdocs
  have hmem : ∀ alert, alert ∈ order ↔ alert ∈ alerts := fun alert => horder.mem_iff
  have horderIds : (order.map (·.id)).Nodup := (horder.map _).nodup_iff.mpr hids
  obtain ⟨repo', hparse, hlist, hdata⟩ := parseAllData_toHashMap repo horderIds
  have hopens : List.Forall₂ (OpensFrom repo' alerts)
      (order.map alertDetailsToHashMap) (order.map readAlert) ↔
      ∀ alert ∈ alerts, Uniform alert := by
    rw [List.forall₂_map_left_iff, List.forall₂_map_right_iff, List.forall₂_same]
    refine forall_congr' fun alert => ?_
    rw [hmem]
    refine forall_congr' fun halert => ?_
    exact opensFrom_iff halert (hdata alert ((hmem alert).mpr halert))
  refine ⟨repo', hparse, ?_⟩
  constructor
  · rintro ⟨-, list, hvalue, hforall⟩
    have heq : list = order.map readAlert := by
      rw [hlist] at hvalue
      exact (Option.some.inj hvalue).symm
    rw [heq] at hforall
    exact hopens.mp hforall
  · intro huniform
    refine ⟨fun alert halert => ?_, order.map readAlert, hlist, hopens.mpr huniform⟩
    rw [hdata alert ((hmem alert).mpr halert), (huniform alert halert).readDetails_eq]

theorem favorites_read_back_two :
    let docs := [alertDetailsToHashMap fireBan, alertDetailsToHashMap closure]
    ∃ repo', FavoriteRepository.new.parseAllData docs = some repo' ∧
      (ReadBack repo' [closure, fireBan] docs ↔
        ∀ alert ∈ [closure, fireBan], Uniform alert) :=
  favorites_read_back_iff _ [closure, fireBan] _ (by decide)
    (List.Perm.swap _ _ [])

/-- The one favourite comes back with its fields in other places, listed under the park
code as its id, so that opening it finds nothing. -/
theorem favorite_not_read_back :
    let docs := (stored [closure]).rows.map Prod.snd
    ∃ repo', FavoriteRepository.new.parseAllData docs = some repo' ∧
      repo'.allData "a1" =
        some ⟨"a1", "Closure", "yell", "nps.gov/a1", "Park Closure", "Road closed"⟩ ∧
      repo'.favoriteList.value =
        some [⟨"a1", "Closure", "yell", "nps.gov/a1", "Park Closure", "Road closed"⟩] ∧
      (repo'.getDetailsForAlert (readAlert closure)).favoriteDetails.value = some none ∧
      ¬ ReadBack repo' [closure] docs := by
  refine ⟨_, rfl, by decide, by decide, by decide, ?_⟩
  rintro ⟨hdata, -⟩
  have hclosure := hdata closure (by decide)
  exact absurd hclosure (by decide)

end AdvMad.Lab8
