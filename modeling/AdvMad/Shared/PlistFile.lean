import Mathlib.Logic.Function.Basic
import AdvMad.Foundation.PartialStep

/-!
# Property-list files

The files an app reads and writes: the plist in its bundle and the user's
`data.plist` in the documents directory.  The encoder and the decoder belong
to the platform; of them only the round trip is used.  Bytes have any type.
-/

namespace AdvMad.Shared

variable {M β : Type}

/-- `PropertyListEncoder` and `PropertyListDecoder` for the records of an app. -/
structure PlistCodec (M β : Type) where
  encode : List M → List β
  decode : List β → Option (List M)
  decode_encode : ∀ allData, decode (encode allData) = some allData

attribute [simp] PlistCodec.decode_encode

inductive FileURL where
  | document (name : String)
  | bundle (name : String)
  deriving DecidableEq, Repr

abbrev FileSystem (β : Type) := FileURL → Option (List β)

inductive DataError where
  | NoDataFile
  | CouldNotDecode
  | CouldNotEncode
  deriving DecidableEq, Repr

namespace FileSystem

def fileExists (files : FileSystem β) (url : FileURL) : Bool := (files url).isSome

def urlForResource (files : FileSystem β) (resource ext : String) : Option FileURL :=
  let url := FileURL.bundle (resource ++ "." ++ ext)
  if files.fileExists url then some url else none

end FileSystem

def getDataFile (dataFile : String) : FileURL := .document dataFile

/-- How `data.write(to:)` ends: it may throw with the file as it was, or be cut short. -/
inductive WriteOutcome where
  | complete
  | throws
  | cutShort (count : Nat)
  deriving DecidableEq, Repr

/-- Encode and write; a write cut short leaves a proper prefix of the new bytes. -/
def writeList (codec : PlistCodec M β) (files : FileSystem β) (url : FileURL)
    (allData : List M) : WriteOutcome → Option (FileSystem β)
  | .complete => some (Function.update files url (some (codec.encode allData)))
  | .throws => some files
  | .cutShort count =>
      let bytes := codec.encode allData
      if count < bytes.length then
        some (Function.update files url (some (bytes.take count)))
      else none

theorem writeList_other {codec : PlistCodec M β} {files files' : FileSystem β}
    {url other : FileURL} {allData : List M} {outcome : WriteOutcome}
    (hother : other ≠ url)
    (h : writeList codec files url allData outcome = some files') :
    files' other = files other := by
  cases outcome with
  | complete =>
      cases h
      exact Function.update_of_ne hother _ _
  | throws =>
      cases h
      rfl
  | cutShort count =>
      simp only [writeList, Option.ite_none_right_eq_some, Option.some.injEq] at h
      obtain ⟨-, rfl⟩ := h
      exact Function.update_of_ne hother _ _

/-! ## A codec to run the model with -/

def decodeTerminated : List (Option M) → Option (List M)
  | [none] => some []
  | some item :: rest => (decodeTerminated rest).map (item :: ·)
  | _ => none

/-- Records followed by an end mark: bytes that are cut short do not decode. -/
def terminatedCodec (M : Type) : PlistCodec M (Option M) where
  encode allData := allData.map some ++ [none]
  decode := decodeTerminated
  decode_encode allData := by
    induction allData with
    | nil => rfl
    | cons item rest ih => simp [decodeTerminated, ih]

end AdvMad.Shared
