import Mathlib.Data.Nat.Notation
import MultiAddonRss.Strings

/-!
# Lexical level of the preference file

The functions of `rss_prefs::detail`. A position in the document is represented
by the bytes from it to the end; a function that moves the position returns the
remaining bytes, and `none` where the source returns false.
-/

namespace MultiAddonRss
namespace RssPrefs

abbrev RssSteamId := UInt64

def isDigitChar (c : UInt8) : Bool := 48 ≤ c && c ≤ 57

def isWsChar (c : UInt8) : Bool := c = 32 || c = 9 || c = 10 || c = 13

/-- Inside a line comment: up to the first LF or CR, or to the end. -/
def skipLineComment : CString → Option CString
  | [] => some []
  | c :: cs =>
    if c = 10 || c = 13 then some (c :: cs)
    else if c = 0 then none
    else skipLineComment cs

/-- Inside a block comment: just past the first closing mark. -/
def skipBlockComment : CString → Option CString
  | [] => none
  | c :: cs =>
    if c = 0 then none
    else if c = 42 && cs.head? = some 47 then some cs.tail
    else skipBlockComment cs

def skipLoop : ℕ → CString → Option CString
  | 0, _ => none
  | _ + 1, [] => some []
  | fuel + 1, c :: cs =>
    if c = 0 then none
    else if isWsChar c then skipLoop fuel cs
    else if c = 47 && cs.head? = some 47 then do
      skipLoop fuel (← skipLineComment cs.tail)
    else if c = 47 && cs.head? = some 42 then do
      skipLoop fuel (← skipBlockComment cs.tail)
    else some (c :: cs)

/-- Every turn of the loop advances, so the length of the text bounds it. -/
def skipWsAndComments (doc : CString) : Option CString :=
  skipLoop (doc.length + 1) doc

def consumeChar (doc : CString) (want : UInt8) : Option CString :=
  match doc with
  | [] => none
  | c :: cs => if c = want then some cs else none

def quotedLoop : CString → CString → Option (CString × CString)
  | [], _ => none
  | c :: cs, out =>
    if c = 0 then none
    else if c = 92 then none
    else if c = 34 then some (out, cs)
    else quotedLoop cs (out ++ [c])

/-- The content of a double-quoted string without escapes, and what follows it. -/
def parseQuotedString (doc : CString) : Option (CString × CString) := do
  quotedLoop (← consumeChar doc 34) []

def isTokenDelimiter (doc : CString) : Bool :=
  match doc with
  | [] => true
  | c :: _ => c = 32 || c = 9 || c = 10 || c = 13 || c = 44 || c = 125 || c = 58 ||
      c = 47 || c = 34

def decimalLoop : CString → RssSteamId → Option RssSteamId
  | [], value => some value
  | c :: cs, value =>
    let digit : RssSteamId := (c - 48).toUInt64
    if value > (18446744073709551615 - digit) / 10 then none
    else decimalLoop cs (value * 10 + digit)

def parseDecimalUll (text : CString) : Option RssSteamId :=
  if text.isEmpty || text.length > 20 then none
  else if !text.all isDigitChar then none
  else do
    let value ← decimalLoop text 0
    if value = 0 then none else some value

end RssPrefs
end MultiAddonRss
