import AdvMad.Foundation.KeyedRows
import AdvMad.Foundation.LiveData
import AdvMad.Lab6.Alert

/-!
# lab6: the favourites store

`FavoriteRepository` keeps favourites as rows of a Room table and reads them
back as alerts.  Its calls complete one after another here; `Coroutines` has
the calls that run at the same time.
-/

namespace AdvMad.Lab6

open AdvMad.Foundation

/-! ## FavoriteDAO -/

abbrev FavoritesTable := KeyedRows Favorite.alertId

namespace FavoriteDAO

/-- An insert with `OnConflictStrategy.REPLACE`. -/
def insertFavorite (favorites : FavoritesTable) (favorite : Favorite) : FavoritesTable :=
  favorites.upsert favorite

def getAllFavorites (favorites : FavoritesTable) : List Favorite :=
  favorites.rows

def getFavorite (favorites : FavoritesTable) (id : String) : Option Favorite :=
  favorites.get id

def removeFavorite (favorites : FavoritesTable) (id : String) : FavoritesTable :=
  favorites.delete id

end FavoriteDAO

/-! ## FavoriteRepository -/

structure FavoriteRepository where
  favorites : FavoritesTable
  favoriteDetails : LiveData Alert
  recipeIsFavorite : LiveData Bool

inductive Change where
  | addFavorite (alert : Alert)
  | removeAlertFromFavorites (id : String)
  deriving DecidableEq, Repr

def Change.write (favorites : FavoritesTable) : Change → FavoritesTable
  | .addFavorite alert => FavoriteDAO.insertFavorite favorites alert.getRoomFavorite
  | .removeAlertFromFavorites id => FavoriteDAO.removeFavorite favorites id

def Change.id : Change → String
  | .addFavorite alert => alert.id
  | .removeAlertFromFavorites id => id

def Change.row : Change → Option Favorite
  | .addFavorite alert => some alert.getRoomFavorite
  | .removeAlertFromFavorites _ => none

theorem Change.get_write (favorites : FavoritesTable) (change : Change) :
    (change.write favorites).get = Function.update favorites.get change.id change.row := by
  cases change with
  | addFavorite alert => exact KeyedRows.get_upsert favorites alert.getRoomFavorite
  | removeAlertFromFavorites id => exact KeyedRows.get_delete favorites id

namespace FavoriteRepository

def new : FavoriteRepository := ⟨.empty, .unset, .unset⟩

def change (repo : FavoriteRepository) (change : Change) : FavoriteRepository :=
  { repo with favorites := change.write repo.favorites }

def postIsFavorite (repo : FavoriteRepository) (favorite : Option Favorite) :
    FavoriteRepository :=
  { repo with recipeIsFavorite := repo.recipeIsFavorite.setValue favorite.isSome }

/-- `none` for the exception of `fromRoomFavorite` on null. -/
def postDetails (repo : FavoriteRepository) (favorite : Option Favorite) :
    Option FavoriteRepository :=
  favorite.map fun fav =>
    { repo with
      favoriteDetails := repo.favoriteDetails.setValue (Alert.fromRoomFavorite fav) }

def isAlertFavoriteId (repo : FavoriteRepository) (id : String) : FavoriteRepository :=
  repo.postIsFavorite (FavoriteDAO.getFavorite repo.favorites id)

def getDetailsForAlert (repo : FavoriteRepository) (alert : Alert) :
    Option FavoriteRepository :=
  repo.postDetails (FavoriteDAO.getFavorite repo.favorites alert.id)

end FavoriteRepository

def favoriteListObserver (favorites : List Favorite) : List Alert :=
  favorites.map Alert.fromRoomFavorite

def favoriteAlertList (repo : FavoriteRepository) : List Alert :=
  favoriteListObserver (FavoriteDAO.getAllFavorites repo.favorites)

/-! ## What the store is for -/

/-- The alert last added under an id and not removed since. -/
abbrev Saved := String → Option Alert

def Change.save (saved : Saved) : Change → Saved
  | .addFavorite alert => Function.update saved alert.id (some alert)
  | .removeAlertFromFavorites id => Function.update saved id none

def savedBy (changes : List Change) : Saved :=
  changes.foldl Change.save fun _ => none

def KeepsAlerts (repo : FavoriteRepository) (saved : Saved) : Prop :=
  (favoriteAlertList repo).Nodup ∧
    (∀ alert, alert ∈ favoriteAlertList repo ↔ saved alert.id = some alert) ∧
    ∀ alert ∈ favoriteAlertList repo, ∃ repo',
      repo.getDetailsForAlert alert = some repo' ∧
        repo'.favoriteDetails.value = some alert

/-! ## The rows of the saved alerts -/

def Represents (favorites : FavoritesTable) (saved : Saved) : Prop :=
  ∀ id, favorites.get id = (saved id).map Alert.getRoomFavorite

theorem Represents.write {favorites : FavoritesTable} {saved : Saved}
    (h : Represents favorites saved) (change : Change) :
    Represents (change.write favorites) (change.save saved) := by
  intro id
  rw [Change.get_write]
  by_cases hid : id = change.id
  · subst hid
    cases change <;> simp [Change.save, Change.row, Change.id]
  · rw [Function.update_of_ne hid, h id]
    cases change <;> simp_all [Change.save, Change.id]

theorem Represents.writeAll {favorites : FavoritesTable} {saved : Saved}
    (h : Represents favorites saved) (changes : List Change) :
    Represents (changes.foldl Change.write favorites) (changes.foldl Change.save saved) := by
  induction changes generalizing favorites saved with
  | nil => exact h
  | cons change changes ih => exact ih (h.write change)

theorem favorites_foldl_change (repo : FavoriteRepository) (changes : List Change) :
    (changes.foldl .change repo).favorites = changes.foldl Change.write repo.favorites := by
  induction changes generalizing repo with
  | nil => rfl
  | cons change changes ih => exact ih (repo.change change)

theorem represents_savedBy (changes : List Change) :
    Represents (changes.foldl .change FavoriteRepository.new).favorites
      (savedBy changes) := by
  rw [favorites_foldl_change]
  have hempty : Represents FavoriteRepository.new.favorites fun _ => none := fun _ => rfl
  exact hempty.writeAll changes

theorem Represents.id_eq {favorites : FavoritesTable} {saved : Saved}
    (h : Represents favorites saved) {id : String} {alert : Alert}
    (halert : saved id = some alert) : alert.id = id := by
  have hrow : favorites.get id = some alert.getRoomFavorite := by
    rw [h id, halert]
    rfl
  have hkey : alert.getRoomFavorite.alertId = id := KeyedRows.key_of_get hrow
  exact hkey

theorem Represents.mem_rows_iff {favorites : FavoritesTable} {saved : Saved}
    (h : Represents favorites saved) (row : Favorite) :
    row ∈ favorites.rows ↔
      ∃ alert, saved alert.id = some alert ∧ row = alert.getRoomFavorite := by
  have hget : favorites.get row.alertId = some row ↔ row ∈ favorites.rows := by
    rw [KeyedRows.get_eq_some_iff]
    exact and_iff_left rfl
  rw [← hget, h, Option.map_eq_some_iff]
  constructor
  · rintro ⟨alert, hsaved, rfl⟩
    exact ⟨alert, hsaved, rfl⟩
  · rintro ⟨alert, hsaved, rfl⟩
    exact ⟨alert, hsaved, rfl⟩

theorem mem_favoriteAlertList_iff {repo : FavoriteRepository} {saved : Saved}
    (h : Represents repo.favorites saved) (listed : Alert) :
    listed ∈ favoriteAlertList repo ↔ ∃ alert, saved alert.id = some alert ∧
      listed = Alert.fromRoomFavorite alert.getRoomFavorite := by
  have hmap : listed ∈ favoriteAlertList repo ↔
      ∃ row ∈ repo.favorites.rows, Alert.fromRoomFavorite row = listed := List.mem_map
  rw [hmap]
  constructor
  · rintro ⟨row, hrow, rfl⟩
    obtain ⟨alert, hsaved, rfl⟩ := (h.mem_rows_iff row).mp hrow
    exact ⟨alert, hsaved, rfl⟩
  · rintro ⟨alert, hsaved, rfl⟩
    exact ⟨_, (h.mem_rows_iff _).mpr ⟨alert, hsaved, rfl⟩, rfl⟩

theorem getDetailsForAlert_saved {repo : FavoriteRepository} {saved : Saved}
    (h : Represents repo.favorites saved) {listed alert : Alert}
    (hsaved : saved listed.id = some alert) :
    ∃ repo', repo.getDetailsForAlert listed = some repo' ∧
      repo'.favoriteDetails.value =
        some (Alert.fromRoomFavorite alert.getRoomFavorite) := by
  have hrow : FavoriteDAO.getFavorite repo.favorites listed.id =
      some alert.getRoomFavorite := by
    have hget := h listed.id
    rwa [hsaved] at hget
  simp [FavoriteRepository.getDetailsForAlert, FavoriteRepository.postDetails, hrow]

/-- A uniform alert keeps its id in the list, so the keys of the rows tell the listed
alerts apart. -/
theorem favoriteAlertList_nodup {repo : FavoriteRepository} {saved : Saved}
    (h : Represents repo.favorites saved)
    (huniform : ∀ id alert, saved id = some alert → alert.Uniform) :
    (favoriteAlertList repo).Nodup := by
  have hids : (favoriteAlertList repo).map Alert.id =
      repo.favorites.rows.map Favorite.alertId := by
    rw [favoriteAlertList, favoriteListObserver, FavoriteDAO.getAllFavorites, List.map_map]
    apply List.map_congr_left
    intro row hrow
    obtain ⟨alert, hsaved, rfl⟩ := (h.mem_rows_iff row).mp hrow
    have hround := (Alert.roundTrip_iff alert).mpr (huniform _ _ hsaved)
    simp [hround]
  have hnodup := repo.favorites.nodup_keys
  rw [← hids] at hnodup
  exact hnodup.of_map

theorem keepsAlerts_iff {repo : FavoriteRepository} {saved : Saved}
    (h : Represents repo.favorites saved) :
    KeepsAlerts repo saved ↔ ∀ id alert, saved id = some alert → alert.Uniform := by
  constructor
  · rintro ⟨-, hmem, hdetails⟩ id alert halert
    -- The alert is listed and opens as itself; but it opens as its round trip.
    have hsaved : saved alert.id = some alert := by
      rw [h.id_eq halert]
      exact halert
    obtain ⟨repo', hopen, hvalue⟩ := hdetails alert ((hmem alert).mpr hsaved)
    obtain ⟨other, hother, hround⟩ := getDetailsForAlert_saved h hsaved
    obtain rfl := Option.some.inj (hopen.symm.trans hother)
    rw [hround] at hvalue
    exact (Alert.roundTrip_iff alert).mp (Option.some.inj hvalue)
  · intro huniform
    have hmem : ∀ alert, alert ∈ favoriteAlertList repo ↔ saved alert.id = some alert := by
      intro listed
      rw [mem_favoriteAlertList_iff h]
      constructor
      · rintro ⟨alert, hsaved, rfl⟩
        rwa [(Alert.roundTrip_iff alert).mpr (huniform _ _ hsaved)]
      · intro hsaved
        exact ⟨listed, hsaved,
          ((Alert.roundTrip_iff listed).mpr (huniform _ _ hsaved)).symm⟩
    refine ⟨favoriteAlertList_nodup h huniform, hmem, ?_⟩
    intro alert hlisted
    have hsaved := (hmem alert).mp hlisted
    obtain ⟨repo', hopen, hround⟩ := getDetailsForAlert_saved h hsaved
    rw [(Alert.roundTrip_iff alert).mpr (huniform _ _ hsaved)] at hround
    exact ⟨repo', hopen, hround⟩

/--
After any sequence of changes the favourites are the alerts last added and not
removed since, exactly if the way to a row and back changes none of them.
-/
theorem favorites_keep_alerts_iff (changes : List Change) :
    KeepsAlerts (changes.foldl .change FavoriteRepository.new) (savedBy changes) ↔
      ∀ id alert, savedBy changes id = some alert → alert.Uniform :=
  keepsAlerts_iff (represents_savedBy changes)

theorem added_alert_not_kept :
    let repo := FavoriteRepository.new.change (.addFavorite closure)
    favoriteAlertList repo =
        [⟨"a1", "Closure", "Road closed", "Park Closure", "yell", "nps.gov/a1"⟩] ∧
      savedBy [.addFavorite closure] "a1" = some closure ∧
      (favoriteAlertList repo).map (fun alert => (repo.getDetailsForAlert alert).isSome) =
        [false] ∧
      ¬ KeepsAlerts repo (savedBy [.addFavorite closure]) := by
  refine ⟨by decide, by decide, by decide, ?_⟩
  rintro ⟨-, hmem, -⟩
  have hlisted := (hmem closure).mpr (by decide)
  exact absurd hlisted (by decide)

end AdvMad.Lab6
