import Mathlib.Tactic.Common

/-!
# lab6: alerts and their rows

`Alert.kt` converts an alert to a row of `favorites_table` and back with
positional constructor calls; the two classes declare the six fields in
different orders.
-/

namespace AdvMad.Lab6

structure Alert where
  category : String
  description : String
  id : String
  parkCode : String
  title : String
  url : String
  deriving DecidableEq, Repr

structure Favorite where
  alertId : String
  title : String
  description : String
  category : String
  parkCode : String
  url : String
  deriving DecidableEq, Repr

namespace Alert

def getRoomFavorite (alert : Alert) : Favorite :=
  ⟨alert.id, alert.title, alert.category, alert.description, alert.parkCode, alert.url⟩

def fromRoomFavorite (fav : Favorite) : Alert :=
  ⟨fav.alertId, fav.title, fav.category, fav.description, fav.parkCode, fav.url⟩

def Uniform (alert : Alert) : Prop :=
  alert.category = alert.id ∧ alert.description = alert.id ∧ alert.parkCode = alert.id ∧
    alert.title = alert.id

@[simp] theorem alertId_getRoomFavorite (alert : Alert) :
    alert.getRoomFavorite.alertId = alert.id := rfl

/-- The way to a row and back moves the first five fields around. -/
theorem fromRoomFavorite_getRoomFavorite (alert : Alert) :
    fromRoomFavorite alert.getRoomFavorite =
      ⟨alert.id, alert.title, alert.description, alert.category, alert.parkCode,
        alert.url⟩ := rfl

theorem roundTrip_iff (alert : Alert) :
    fromRoomFavorite alert.getRoomFavorite = alert ↔ alert.Uniform := by
  cases alert
  simp only [fromRoomFavorite_getRoomFavorite, Uniform, Alert.mk.injEq, and_true]
  constructor
  · rintro ⟨hcategory, hdescription, hid, hparkCode, -⟩
    exact ⟨hcategory.symm, hid, (hcategory.trans hparkCode).symm, hdescription.trans hid⟩
  · rintro ⟨rfl, rfl, rfl, rfl⟩
    exact ⟨rfl, rfl, rfl, rfl, rfl⟩

end Alert

/-! ## Two alerts -/

def closure : Alert :=
  ⟨"Park Closure", "Road closed", "a1", "yell", "Closure", "nps.gov/a1"⟩

def fireBan : Alert := ⟨"Danger", "No fires", "a2", "romo", "Fire ban", "nps.gov/a2"⟩

end AdvMad.Lab6
