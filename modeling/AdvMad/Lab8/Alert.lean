/-!
# lab8: alerts

The two data classes of `Alert.kt`.  They declare the same six fields in
different orders; every constructor call of the app is positional.
-/

namespace AdvMad.Lab8

structure Alert where
  category : String
  description : String
  id : String
  parkCode : String
  title : String
  url : String
  deriving DecidableEq, Repr

structure AlertDetails where
  id : String
  category : String
  description : String
  parkCode : String
  title : String
  url : String
  deriving DecidableEq, Repr

def AlertDetails.toAlert (details : AlertDetails) : Alert where
  category := details.category
  description := details.description
  id := details.id
  parkCode := details.parkCode
  title := details.title
  url := details.url

/-! ## Two alerts -/

def closure : AlertDetails :=
  ⟨"a1", "Park Closure", "Road closed", "yell", "Closure", "nps.gov/a1"⟩

def fireBan : AlertDetails :=
  ⟨"a2", "Danger", "No fires", "romo", "Fire ban", "nps.gov/a2"⟩

end AdvMad.Lab8
