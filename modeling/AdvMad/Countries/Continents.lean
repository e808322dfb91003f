import AdvMad.Shared.PlistFile
import AdvMad.Shared.TableEditor

/-!
# countries: continents and their countries

The data model of `Continents.swift`, the accessors of
`ContinentsDataController` and its two file operations.
-/

namespace AdvMad.Countries

open AdvMad.Foundation
open AdvMad.Shared

variable {β : Type}

structure ContinentsDataModel where
  continent : String
  countries : List String
  deriving DecidableEq, Repr

def countryList : NameList ContinentsDataModel where
  title := ContinentsDataModel.continent
  names := ContinentsDataModel.countries
  withNames item countries := { item with countries := countries }
  names_withNames _ _ := rfl
  title_withNames _ _ := rfl

def fileName : String := "continents2"
def dataFileName : String := "data.plist"

def getContinents (allData : List ContinentsDataModel) : List String :=
  allData.map ContinentsDataModel.continent

def getCountries (allData : List ContinentsDataModel) (idx : Nat) :
    Option (List String) :=
  getNames countryList allData idx

def addCountry (allData : List ContinentsDataModel) (dataIdx : Nat)
    (newCountry : String) (countryIdx : Nat) : Option (List ContinentsDataModel) :=
  addName countryList allData dataIdx newCountry countryIdx

def deleteCountry (allData : List ContinentsDataModel) (dataIdx countryIdx : Nat) :
    Option (List ContinentsDataModel) :=
  deleteName countryList allData dataIdx countryIdx

/-- `loadData`; `read` is `Data(contentsOf:)`, which throws on an unreadable file. -/
def loadData (codec : PlistCodec ContinentsDataModel β) (files : FileSystem β)
    (read : FileURL → Option (List β)) : Except DataError (List ContinentsDataModel) :=
  let dataFileURL := getDataFile dataFileName
  let pathURL :=
    if files.fileExists dataFileURL then some dataFileURL
    else files.urlForResource fileName "plist"
  match pathURL with
  | some dataURL =>
      match (read dataURL).bind codec.decode with
      | some allData => .ok allData
      | none => .error .CouldNotDecode
  | none => .error .NoDataFile

def writeData (codec : PlistCodec ContinentsDataModel β) (files : FileSystem β)
    (allData : List ContinentsDataModel) (outcome : WriteOutcome) :
    Option (FileSystem β) :=
  writeList codec files (getDataFile dataFileName) allData outcome

theorem decode_of_loadData {codec : PlistCodec ContinentsDataModel β}
    {files : FileSystem β} {read : FileURL → Option (List β)}
    {saved : List β} {allData : List ContinentsDataModel}
    (hfile : files (getDataFile dataFileName) = some saved)
    (hread : ∀ url bytes, read url = some bytes → files url = some bytes)
    (hload : loadData codec files read = .ok allData) : codec.decode saved = some allData := by
  simp only [loadData, FileSystem.fileExists, hfile, Option.isSome_some, if_true] at hload
  cases hbytes : read (getDataFile dataFileName) with
  | none => simp [hbytes] at hload
  | some bytes =>
      obtain rfl : bytes = saved := Option.some.inj ((hread _ _ hbytes).symm.trans hfile)
      rw [hbytes, Option.bind_some] at hload
      cases hdecode : codec.decode bytes with
      | none => simp [hdecode] at hload
      | some found => simpa [hdecode] using hload

end AdvMad.Countries
