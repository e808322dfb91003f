import AdvMad.Shared.TableEditor

/-!
# lab2New: states and their cities

The data model of `States.swift` and the accessors of `StatesDataController`.
-/

namespace AdvMad.Lab2New

open AdvMad.Foundation
open AdvMad.Shared

structure StatesDataModel where
  state : String
  cities : List String
  deriving DecidableEq, Repr

def cityList : NameList StatesDataModel where
  title := StatesDataModel.state
  names := StatesDataModel.cities
  withNames item cities := { item with cities := cities }
  names_withNames _ _ := rfl
  title_withNames _ _ := rfl

def getCities (allData : List StatesDataModel) (idx : Nat) : Option (List String) :=
  getNames cityList allData idx

def addCity (allData : List StatesDataModel) (dataIdx : Nat) (newCity : String)
    (cityIdx : Nat) : Option (List StatesDataModel) :=
  addName cityList allData dataIdx newCity cityIdx

def deleteCity (allData : List StatesDataModel) (dataIdx cityIdx : Nat) :
    Option (List StatesDataModel) :=
  deleteName cityList allData dataIdx cityIdx

end AdvMad.Lab2New
