import Mathlib.Data.Finset.Insert
import MultiAddonRss.Foundations.CommaObject
import MultiAddonRss.Preferences.Scanner

/-!
# The strict JSONC parser

`ParseRssAssetPreferences` runs the same loop twice: over the pairs of the
document and, inside the opt-out object, over its identifier entries. Both
write their results into variables of the enclosing scope, which are the state
of the loop here. A `std::set` is a finite set.
-/

namespace MultiAddonRss
namespace RssPrefs

open Foundations

/-- The sets `parsed` and `seenIds`. -/
structure ParsedIds where
  parsed : Finset RssSteamId := ∅
  seenIds : Finset RssSteamId := ∅
deriving DecidableEq

/-- The variables of the outer loop. -/
structure ParsedDocument where
  ids : ParsedIds := {}
  seenVersion : Bool := false
  seenOptOut : Bool := false
deriving DecidableEq

/-- One entry of the opt-out object, up to and including its boolean. -/
def parseIdEntry (doc : CString) (st : ParsedIds) : Option (CString × ParsedIds) := do
  let (idText, doc) ← parseQuotedString doc
  let id ← parseDecimalUll idText
  if id ∈ st.seenIds then
    none
  else do
    let seenIds := insert id st.seenIds
    let doc ← skipWsAndComments doc
    let doc ← consumeChar doc 58
    let doc ← skipWsAndComments doc
    if doc.take 4 = ascii "true" && isTokenDelimiter (doc.drop 4) then
      some (doc.drop 4, ⟨insert id st.parsed, seenIds⟩)
    else if doc.take 5 = ascii "false" && isTokenDelimiter (doc.drop 5) then
      some (doc.drop 5, ⟨st.parsed, seenIds⟩)
    else
      none

/-- The inner loop, which ends just past the closing brace of the object. -/
def parseIdEntries (doc : CString) (st : ParsedIds) : Option (CString × ParsedIds) :=
  commaLoop skipWsAndComments parseIdEntry 44 125 (doc.length + 1) true doc st

/-- One pair of the document. -/
def parsePair (doc : CString) (st : ParsedDocument) : Option (CString × ParsedDocument) := do
  let (key, doc) ← parseQuotedString doc
  let doc ← skipWsAndComments doc
  let doc ← consumeChar doc 58
  let doc ← skipWsAndComments doc
  if key = ascii "version" then
    if st.seenVersion then
      none
    else do
      let doc ← consumeChar doc 49
      if !isTokenDelimiter doc then none else some (doc, { st with seenVersion := true })
  else if key = ascii "opt_out_steam_ids" then
    if st.seenOptOut then
      none
    else do
      let doc ← consumeChar doc 123
      let (doc, ids) ← parseIdEntries doc st.ids
      some (doc, { st with ids := ids, seenOptOut := true })
  else
    none

def parsePairs (doc : CString) (st : ParsedDocument) : Option (CString × ParsedDocument) :=
  commaLoop skipWsAndComments parsePair 44 125 (doc.length + 1) true doc st

def parseDocument (doc : CString) : Option (Finset RssSteamId) := do
  if doc.any (· = 0) then
    none
  else do
    let doc ← skipWsAndComments doc
    let doc ← consumeChar doc 123
    let (doc, st) ← parsePairs doc {}
    if !st.seenVersion || !st.seenOptOut then
      none
    else do
      let doc ← skipWsAndComments doc
      if doc ≠ [] then none else some st.ids.parsed

/-- The answer and the value left in `out`. -/
def parseRssAssetPreferences (doc : CString) (out : Finset RssSteamId) :
    Bool × Finset RssSteamId :=
  match parseDocument doc with
  | none => (false, out)
  | some parsed => (true, parsed)

end RssPrefs
end MultiAddonRss
