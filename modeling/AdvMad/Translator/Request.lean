import AdvMad.Foundation.PercentEncoding

/-!
# projects/lab4: the translation request

`searchAlerts` of `ViewController` percent-encodes the text to translate and
`loadJson` of `AlertDataController` puts it into the query of a URL.
-/

namespace AdvMad.Translator

open AdvMad.Foundation

def stateOptions : List String :=
  ["Yoda", "Oldenglish", "Shakespeare", "Pirate", "Ermahgerd", "Minion", "Groot",
    "Ferb-latin", "Na&apos;vi", "Romulan", "Vulcan", "Klingon", "Sith", "Mandalorian",
    "Dothraki", "Valyrian"]

/-- `CharacterSet.urlQueryAllowed`, the characters of a query in RFC 3986. -/
def urlQueryAllowed (c : Char) : Bool :=
  c.isAlphanum || "-._~!$&'()*+,;=:@/?".toList.contains c

def addingPercentEncoding (text : String) : String :=
  String.ofList (percentEncode urlQueryAllowed text.toList)

/-- `lowercased()` on the ASCII names of the dialects. -/
def lowercased (dialect : String) : String :=
  String.ofList (dialect.toList.map Char.toLower)

def translateURL : String := "https://api.funtranslations.com/translate/"
def textQuery : String := ".json?text="

def urlPath (stateCode dialect : String) : String :=
  translateURL ++ lowercased dialect ++ textQuery ++ stateCode

/-- The URL requested; `isURL` says which strings `URL(string:)` accepts. -/
def loadJson (isURL : String → Bool) (stateCode dialect : String) : Option String :=
  if isURL (urlPath stateCode dialect) then some (urlPath stateCode dialect) else none

def searchAlerts (isURL : String → Bool) (inputText selectedState : String) : Option String :=
  loadJson isURL (addingPercentEncoding inputText) selectedState

def resource (dialect : String) : List Char :=
  translateURL.toList ++ (lowercased dialect).toList ++ ['.', 'j', 's', 'o', 'n']

theorem resource_delimiters {dialect : String} (h : dialect ∈ stateOptions) :
    '?' ∉ resource dialect ∧ '#' ∉ resource dialect := by
  have hdialects : ∀ dialect ∈ stateOptions,
      '?' ∉ (lowercased dialect).toList ∧ '#' ∉ (lowercased dialect).toList := by
    simp [stateOptions, lowercased]
  have hurl : '?' ∉ translateURL.toList ∧ '#' ∉ translateURL.toList := by
    simp [translateURL]
  simp [resource, hurl, hdialects dialect h]

theorem urlPath_toList (text dialect : String) :
    (urlPath (addingPercentEncoding text) dialect).toList =
      resource dialect ++ '?' ::
        (['t', 'e', 'x', 't'] ++ '=' :: percentEncode urlQueryAllowed text.toList) := by
  have hquery : textQuery.toList = ['.', 'j', 's', 'o', 'n', '?', 't', 'e', 'x', 't', '='] := by
    simp [textQuery]
  simp [urlPath, addingPercentEncoding, resource, hquery]

theorem searchAlerts_eq_some {isURL : String → Bool} {text dialect url : String}
    (h : searchAlerts isURL text dialect = some url) :
    url = urlPath (addingPercentEncoding text) dialect := by
  simp only [searchAlerts, loadJson, Option.ite_none_right_eq_some, Option.some.injEq] at h
  exact h.2.symm

/--
A server reads the text back as the one item `text` of the query exactly if it
has no `&`.  Different texts give different requests in any case.
-/
theorem text_survives_url_iff (isURL : String → Bool) (dialect : String)
    (hdialect : dialect ∈ stateOptions) (text url : String)
    (hurl : searchAlerts isURL text dialect = some url) :
    (queryItems url.toList = some [⟨"text", some text⟩] ↔ '&' ∉ text.toList) ∧
      ∀ other, searchAlerts isURL other dialect = some url → other = text := by
  have hpercent : urlQueryAllowed '%' = false := by decide
  obtain rfl := searchAlerts_eq_some hurl
  constructor
  · rw [urlPath_toList, queryItems_eq_iff (resource_delimiters hdialect) (by decide)
      (by decide) hpercent (by decide)]
    have hampersand : urlQueryAllowed '&' = true := by decide
    simp [hampersand]
  · intro other hother
    have hsame := congrArg String.toList (searchAlerts_eq_some hother)
    rw [urlPath_toList, urlPath_toList] at hsame
    have hencoded : percentEncode urlQueryAllowed text.toList =
        percentEncode urlQueryAllowed other.toList := by simpa using hsame
    exact String.toList_inj.mp (percentEncode_injective hpercent hencoded).symm

theorem text_survives_url_yoda :
    let text := "2+2=4? 100% größer #1"
    let url := urlPath (addingPercentEncoding text) "Yoda"
    (queryItems url.toList = some [⟨"text", some text⟩] ↔ '&' ∉ text.toList) ∧
      ∀ other, searchAlerts (fun _ => true) other "Yoda" = some url → other = text :=
  text_survives_url_iff (fun _ => true) "Yoda" (by decide) _ _ rfl

theorem ampersand_splits_text :
    searchAlerts (fun _ => true) "a&b" "Pirate" =
        some "https://api.funtranslations.com/translate/pirate.json?text=a&b" ∧
      queryItems (urlPath (addingPercentEncoding "a&b") "Pirate").toList =
        some [⟨"text", some "a"⟩, ⟨"b", none⟩] := by
  decide +kernel

end AdvMad.Translator
