import Mathlib.Data.List.Basic

/-!
# Percent-encoding and query items

Text is percent-encoded character by character: the characters of a given set
stand for themselves, the UTF-8 bytes of all others are written as `%XX`.  A
server cuts the query out of a URL, splits it at `&`, every item at its first
`=`, and decodes the parts.
-/

namespace AdvMad.Foundation

/-! ## Bytes in hexadecimal -/

def hexDigit (n : Nat) : Char :=
  if n < 10 then Char.ofNat (48 + n) else Char.ofNat (55 + n)

def hexValue (c : Char) : Option Nat :=
  if '0' ≤ c ∧ c ≤ '9' then some (c.toNat - 48)
  else if 'A' ≤ c ∧ c ≤ 'F' then some (c.toNat - 55)
  else if 'a' ≤ c ∧ c ≤ 'f' then some (c.toNat - 87)
  else none

theorem hexValue_hexDigit : ∀ n < 16, hexValue (hexDigit n) = some n := by decide

def encodeByte (byte : UInt8) : List Char :=
  ['%', hexDigit (byte.toNat / 16), hexDigit (byte.toNat % 16)]

theorem mem_encodeByte {byte : UInt8} {c : Char} (h : c ∈ encodeByte byte) :
    c = '%' ∨ (hexValue c).isSome := by
  have hbyte : byte.toNat < 256 := byte.toNat_lt
  have hdigits : c = '%' ∨ c = hexDigit (byte.toNat / 16) ∨
      c = hexDigit (byte.toNat % 16) := by simpa [encodeByte] using h
  rcases hdigits with rfl | rfl | rfl
  · exact .inl rfl
  · exact .inr (by simp [hexValue_hexDigit (byte.toNat / 16) (by omega)])
  · exact .inr (by simp [hexValue_hexDigit (byte.toNat % 16) (by omega)])

/-! ## Text -/

def encodeChar (allowed : Char → Bool) (c : Char) : List Char :=
  if allowed c then [c] else (String.utf8EncodeChar c).flatMap encodeByte

def percentEncode (allowed : Char → Bool) (text : List Char) : List Char :=
  text.flatMap (encodeChar allowed)

/-- The bytes of an encoded text; `none` after a `%` without two hexadecimal digits. -/
def decodeBytes : List Char → Option (List UInt8)
  | [] => some []
  | c :: rest =>
      if c = '%' then
        match rest with
        | high :: low :: rest => do
            let high ← hexValue high
            let low ← hexValue low
            let bytes ← decodeBytes rest
            some (UInt8.ofNat (16 * high + low) :: bytes)
        | _ => none
      else (decodeBytes rest).map (String.utf8EncodeChar c ++ ·)

def percentDecode (text : List Char) : Option (List Char) := do
  let bytes ← decodeBytes text
  let chars ← bytes.toByteArray.utf8Decode?
  some chars.toList

theorem decodeBytes_cons {c : Char} (h : c ≠ '%') (rest : List Char) :
    decodeBytes (c :: rest) = (decodeBytes rest).map (String.utf8EncodeChar c ++ ·) := by
  cases rest with
  | nil => simp [decodeBytes, h]
  | cons high rest => cases rest <;> simp [decodeBytes, h]

theorem decodeBytes_encodeByte (byte : UInt8) (rest : List Char) :
    decodeBytes (encodeByte byte ++ rest) = (decodeBytes rest).map (byte :: ·) := by
  have hbyte : byte.toNat < 256 := byte.toNat_lt
  have hhigh := hexValue_hexDigit (byte.toNat / 16) (by omega)
  have hlow := hexValue_hexDigit (byte.toNat % 16) (by omega)
  have hsum : 16 * (byte.toNat / 16) + byte.toNat % 16 = byte.toNat := by omega
  simp only [encodeByte, List.cons_append, List.nil_append, decodeBytes, if_true, hhigh,
    hlow, Option.bind_eq_bind, Option.bind_some, hsum, UInt8.ofNat_toNat]
  cases decodeBytes rest <;> rfl

theorem decodeBytes_encodeBytes (bytes : List UInt8) (rest : List Char) :
    decodeBytes (bytes.flatMap encodeByte ++ rest) =
      (decodeBytes rest).map (bytes ++ ·) := by
  induction bytes with
  | nil => simp
  | cons byte bytes ih =>
      rw [List.flatMap_cons, List.append_assoc, decodeBytes_encodeByte, ih, Option.map_map]
      rfl

theorem decodeBytes_percentEncode {allowed : Char → Bool} (hpercent : allowed '%' = false)
    (text rest : List Char) :
    decodeBytes (percentEncode allowed text ++ rest) =
      (decodeBytes rest).map (text.flatMap String.utf8EncodeChar ++ ·) := by
  induction text with
  | nil => simp [percentEncode]
  | cons c text ih =>
      have hcons : percentEncode allowed (c :: text) ++ rest =
          encodeChar allowed c ++ (percentEncode allowed text ++ rest) := by
        simp [percentEncode]
      have hchar : decodeBytes (encodeChar allowed c ++ (percentEncode allowed text ++ rest)) =
          (decodeBytes (percentEncode allowed text ++ rest)).map
            (String.utf8EncodeChar c ++ ·) := by
        cases hallowed : allowed c with
        | true =>
            have hne : c ≠ '%' := by
              rintro rfl
              simp [hpercent] at hallowed
            simp only [encodeChar, hallowed]
            exact decodeBytes_cons hne _
        | false =>
            simp only [encodeChar, hallowed]
            exact decodeBytes_encodeBytes _ _
      rw [hcons, hchar, ih, Option.map_map]
      simp [Function.comp_def]

theorem percentDecode_percentEncode {allowed : Char → Bool}
    (hpercent : allowed '%' = false) (text : List Char) :
    percentDecode (percentEncode allowed text) = some text := by
  have hbytes := decodeBytes_percentEncode hpercent text []
  have hutf8 : (text.flatMap String.utf8EncodeChar).toByteArray.utf8Decode? =
      some text.toArray := List.utf8Decode?_utf8Encode
  simp only [List.append_nil, decodeBytes, Option.map_some] at hbytes
  simp [percentDecode, hbytes, hutf8]

theorem percentEncode_injective {allowed : Char → Bool} (hpercent : allowed '%' = false)
    {text other : List Char} (h : percentEncode allowed text = percentEncode allowed other) :
    text = other := by
  have hdecode := percentDecode_percentEncode hpercent text
  rw [h, percentDecode_percentEncode hpercent] at hdecode
  exact (Option.some.inj hdecode).symm

theorem mem_percentEncode_iff {allowed : Char → Bool} {c : Char} (hpercent : c ≠ '%')
    (hhex : hexValue c = none) (text : List Char) :
    c ∈ percentEncode allowed text ↔ c ∈ text ∧ allowed c = true := by
  have hescape : ∀ byte, c ∉ encodeByte byte := by
    intro byte hmem
    rcases mem_encodeByte hmem with h | h
    · exact hpercent h
    · simp [hhex] at h
  constructor
  · intro hmem
    obtain ⟨source, hsource, hc⟩ := List.mem_flatMap.mp hmem
    cases hallowed : allowed source with
    | true =>
        simp only [encodeChar, hallowed, if_true, List.mem_singleton] at hc
        subst hc
        exact ⟨hsource, hallowed⟩
    | false =>
        simp only [encodeChar, hallowed] at hc
        obtain ⟨byte, -, hbyte⟩ := List.mem_flatMap.mp hc
        exact absurd hbyte (hescape byte)
  · rintro ⟨hmem, hallowed⟩
    exact List.mem_flatMap.mpr ⟨c, hmem, by simp [encodeChar, hallowed]⟩

/-! ## Query items -/

def splitFirst (sep : Char) : List Char → List Char × Option (List Char)
  | [] => ([], none)
  | c :: rest =>
      if c = sep then ([], some rest)
      else (c :: (splitFirst sep rest).1, (splitFirst sep rest).2)

theorem splitFirst_of_notMem {sep : Char} {text : List Char} (h : sep ∉ text) :
    splitFirst sep text = (text, none) := by
  induction text with
  | nil => rfl
  | cons c rest ih =>
      have hboth : sep ≠ c ∧ sep ∉ rest := by simpa using h
      simp [splitFirst, hboth.1.symm, ih hboth.2]

theorem splitFirst_append {sep : Char} {before : List Char} (h : sep ∉ before)
    (after : List Char) : splitFirst sep (before ++ sep :: after) = (before, some after) := by
  induction before with
  | nil => simp [splitFirst]
  | cons c rest ih =>
      have hboth : sep ≠ c ∧ sep ∉ rest := by simpa using h
      simp [splitFirst, hboth.1.symm, ih hboth.2]

/-- The query of a URL: without the fragment, what follows the first `?`. -/
def urlQuery (url : List Char) : Option (List Char) :=
  (splitFirst '?' (splitFirst '#' url).1).2

structure QueryItem where
  name : String
  value : Option String
  deriving DecidableEq, Repr

def decodeItem (item : List Char) : Option QueryItem := do
  let name ← percentDecode (splitFirst '=' item).1
  match (splitFirst '=' item).2 with
  | some value => do
      let value ← percentDecode value
      some ⟨String.ofList name, some (String.ofList value)⟩
  | none => some ⟨String.ofList name, none⟩

def queryItems (url : List Char) : Option (List QueryItem) := do
  let query ← urlQuery url
  (query.splitOn '&').mapM decodeItem

theorem urlQuery_append {base query : List Char} (hbase : '?' ∉ base) (hhash : '#' ∉ base)
    (hquery : '#' ∉ query) : urlQuery (base ++ '?' :: query) = some query := by
  have hnone : '#' ∉ base ++ '?' :: query := by simp [hhash, hquery]
  rw [urlQuery, splitFirst_of_notMem hnone, splitFirst_append hbase]

theorem length_eq_of_mapM {α β : Type*} {f : α → Option β} {xs : List α} {ys : List β}
    (h : xs.mapM f = some ys) : ys.length = xs.length := by
  induction xs generalizing ys with
  | nil =>
      cases h
      rfl
  | cons x xs ih =>
      simp only [List.mapM_cons, Option.bind_eq_bind, Option.bind_eq_some_iff] at h
      obtain ⟨y, -, rest, hrest, hys⟩ := h
      cases hys
      simp [ih hrest]

theorem decodeItem_append {name : List Char} {plain : String} {allowed : Char → Bool}
    (hequals : '=' ∉ name) (hname : percentDecode name = some plain.toList)
    (hpercent : allowed '%' = false) (text : String) :
    decodeItem (name ++ '=' :: percentEncode allowed text.toList) =
      some ⟨plain, some text⟩ := by
  simp [decodeItem, splitFirst_append hequals, hname, percentDecode_percentEncode hpercent]

/-- A query `name=text` is read back as this one item exactly if no `&` of the text is left
to stand for itself. -/
theorem queryItems_eq_iff {base name : List Char} {plain : String} {allowed : Char → Bool}
    (hbase : '?' ∉ base ∧ '#' ∉ base) (hdelimiters : '#' ∉ name ∧ '&' ∉ name ∧ '=' ∉ name)
    (hname : percentDecode name = some plain.toList) (hpercent : allowed '%' = false)
    (hhash : allowed '#' = false) (text : String) :
    queryItems (base ++ '?' :: (name ++ '=' :: percentEncode allowed text.toList)) =
        some [⟨plain, some text⟩] ↔
      (allowed '&' = true → '&' ∉ text.toList) := by
  have hampersand : '&' ∈ percentEncode allowed text.toList ↔
      '&' ∈ text.toList ∧ allowed '&' = true :=
    mem_percentEncode_iff (by decide) (by decide) text.toList
  have hfragment : '#' ∉ percentEncode allowed text.toList := by
    rw [mem_percentEncode_iff (by decide) (by decide)]
    simp [hhash]
  have hquery : '#' ∉ name ++ '=' :: percentEncode allowed text.toList := by
    simp [hdelimiters.1, hfragment]
  rw [queryItems, urlQuery_append hbase.1 hbase.2 hquery]
  change ((name ++ '=' :: percentEncode allowed text.toList).splitOn '&').mapM decodeItem =
    some [⟨plain, some text⟩] ↔ _
  constructor
  · intro hitems hallowed hmem
    obtain ⟨before, after, hsplit⟩ :=
      List.append_of_mem (hampersand.mpr ⟨hmem, hallowed⟩)
    -- at this `&` the query falls apart into at least two items
    have hparts : name ++ '=' :: percentEncode allowed text.toList =
        (name ++ '=' :: before) ++ '&' :: after := by simp [hsplit]
    have hlen := length_eq_of_mapM hitems
    rw [hparts, List.splitOn_append_cons_self, List.length_append] at hlen
    have hbefore := List.length_pos_of_ne_nil (List.splitOn_ne_nil '&' (name ++ '=' :: before))
    have hafter := List.length_pos_of_ne_nil (List.splitOn_ne_nil '&' after)
    simp only [List.length_singleton] at hlen
    omega
  · intro hfree
    have hnone : '&' ∉ name ++ '=' :: percentEncode allowed text.toList := by
      simp only [List.mem_append, List.mem_cons, hdelimiters.2.1, hampersand, false_or, not_or]
      exact ⟨by decide, fun h => hfree h.2 h.1⟩
    rw [List.splitOn_eq_singleton hnone]
    simp [decodeItem_append hdelimiters.2.2 hname hpercent text]

end AdvMad.Foundation
