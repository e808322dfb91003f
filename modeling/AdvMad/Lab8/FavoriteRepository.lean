import Mathlib.Logic.Function.Basic
import AdvMad.Foundation.KeyedRows
import AdvMad.Foundation.LiveData
import AdvMad.Foundation.PartialStep
import AdvMad.Lab8.Alert

/-!
# lab8: the favourites repository

`FavoriteRepository` stores a favourite as a Firestore document of six string
fields and rebuilds its list and its map from the snapshots of the collection.
-/

namespace AdvMad.Lab8

open AdvMad.Foundation

/-! ## Documents and the collection -/

abbrev Document := List (String × String)

def Document.getString (doc : Document) (field : String) : Option String :=
  doc.lookup field

def alertDetailsToHashMap (alert : AlertDetails) : Document :=
  [("id", alert.id),
   ("title", alert.title),
   ("category", alert.category),
   ("description", alert.description),
   ("parkCode", alert.parkCode),
   ("url", alert.url)]

abbrev Collection := KeyedRows (Prod.fst : String × Document → String)

/-- `document(id).set(map)`: replace the document of that name or add it. -/
def addFavorite (favorites : Collection) (alert : AlertDetails) : Collection :=
  favorites.upsert (alert.id, alertDetailsToHashMap alert)

def removeAlertFromFavorites (favorites : Collection) (id : String) : Collection :=
  favorites.delete id

/-! ## The repository -/

structure FavoriteRepository where
  favoriteList : LiveData (List Alert)
  favoriteDetails : LiveData (Option AlertDetails)
  allData : String → Option AlertDetails
  alertIsFavorite : LiveData Bool

namespace FavoriteRepository

def new : FavoriteRepository := ⟨.unset, .unset, fun _ => none, .unset⟩

/-- One turn of the loop of `parseAllData`: `none` for the exception of `!!` on a missing
field.  Both constructor calls list the fields in the same order. -/
def parseDocument (doc : Document) : Option (String × Alert × AlertDetails) := do
  let id ← doc.getString "id"
  let title ← doc.getString "title"
  let category ← doc.getString "category"
  let description ← doc.getString "description"
  let parkCode ← doc.getString "parkCode"
  let url ← doc.getString "url"
  some (id,
    Alert.mk id title parkCode url category description,
    AlertDetails.mk id title parkCode url category description)

def parseLoop : List Document → List Alert → (String → Option AlertDetails) →
    Option (List Alert × (String → Option AlertDetails))
  | [], allFavorites, allData => some (allFavorites, allData)
  | doc :: docs, allFavorites, allData => do
      let (id, alert, details) ← parseDocument doc
      parseLoop docs (allFavorites ++ [alert])
        (Function.update allData id (some details))

def parseAllData (repo : FavoriteRepository) (result : List Document) :
    Option FavoriteRepository := do
  let (allFavorites, allData) ← parseLoop result [] repo.allData
  some { repo with
    allData := allData
    favoriteList := repo.favoriteList.setValue allFavorites }

def isAlertFavoriteId (repo : FavoriteRepository) (id : String) : FavoriteRepository :=
  { repo with alertIsFavorite := repo.alertIsFavorite.setValue (repo.allData id).isSome }

def getDetailsForAlert (repo : FavoriteRepository) (alert : Alert) : FavoriteRepository :=
  { repo with favoriteDetails := repo.favoriteDetails.setValue (repo.allData alert.id) }

inductive ListenerEvent where
  | error
  | noSnapshot
  | snapshot (docs : List Document)
  deriving DecidableEq, Repr

def listener (repo : FavoriteRepository) : ListenerEvent → Option FavoriteRepository
  | .error | .noSnapshot => some repo
  | .snapshot docs => repo.parseAllData docs

/-! ## What one snapshot does -/

def fields : List String := ["id", "title", "category", "description", "parkCode", "url"]

def WellFormed (doc : Document) : Prop :=
  ∀ field ∈ fields, (doc.getString field).isSome = true

def ids (docs : List Document) : List String :=
  docs.filterMap fun doc => doc.getString "id"

theorem parseDocument_wellFormed {doc : Document} (h : WellFormed doc) :
    ∃ entry, parseDocument doc = some entry ∧ doc.getString "id" = some entry.1 := by
  have hfield : ∀ field ∈ fields, ∃ value, doc.getString field = some value :=
    fun field hmem => Option.isSome_iff_exists.mp (h field hmem)
  obtain ⟨id, hid⟩ := hfield "id" (by decide)
  obtain ⟨title, htitle⟩ := hfield "title" (by decide)
  obtain ⟨category, hcategory⟩ := hfield "category" (by decide)
  obtain ⟨description, hdescription⟩ := hfield "description" (by decide)
  obtain ⟨parkCode, hparkCode⟩ := hfield "parkCode" (by decide)
  obtain ⟨url, hurl⟩ := hfield "url" (by decide)
  exact ⟨(id, ⟨id, title, parkCode, url, category, description⟩,
      ⟨id, title, parkCode, url, category, description⟩),
    by simp [parseDocument, hid, htitle, hcategory, hdescription, hparkCode, hurl], hid⟩

theorem parseLoop_keys {docs : List Document} (h : ∀ doc ∈ docs, WellFormed doc)
    (allFavorites : List Alert) (allData : String → Option AlertDetails) :
    ∃ list allData', parseLoop docs allFavorites allData = some (list, allData') ∧
      ∀ id, (allData' id).isSome = true ↔ (allData id).isSome = true ∨ id ∈ ids docs := by
  induction docs generalizing allFavorites allData with
  | nil => exact ⟨allFavorites, allData, rfl, by simp [ids]⟩
  | cons doc docs ih =>
      obtain ⟨⟨key, alert, details⟩, hparse, hkey⟩ := parseDocument_wellFormed (h doc (by simp))
      obtain ⟨list, allData', hloop, hkeys⟩ := ih
        (fun other hother => h other (by simp [hother]))
        (allFavorites ++ [alert]) (Function.update allData key (some details))
      refine ⟨list, allData', by simp [parseLoop, hparse, hloop], fun id => ?_⟩
      have hids : ids (doc :: docs) = key :: ids docs := by
        simp [ids, hkey]
      rw [hkeys, hids, List.mem_cons]
      by_cases hid : id = key
      · simp [hid]
      · simp [hid]

theorem parseAllData_keys (repo : FavoriteRepository) {docs : List Document}
    (h : ∀ doc ∈ docs, WellFormed doc) :
    ∃ repo', repo.parseAllData docs = some repo' ∧
      ∀ id, (repo'.allData id).isSome = true ↔
        (repo.allData id).isSome = true ∨ id ∈ ids docs := by
  obtain ⟨list, allData', hloop, hkeys⟩ := parseLoop_keys h [] repo.allData
  exact ⟨{ repo with
      allData := allData'
      favoriteList := repo.favoriteList.setValue list },
    by simp [parseAllData, hloop], hkeys⟩

end FavoriteRepository

end AdvMad.Lab8
