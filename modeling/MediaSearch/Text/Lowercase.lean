import MediaSearch.Text.CaseIgnorable
import MediaSearch.Text.Cased
import MediaSearch.Text.Lowercase.Table

set_option autoImplicit false

namespace MediaSearch.Text

/-- The lower case form of one character, where it does not depend on the characters around it. The
dotted capital `İ` is the one character whose form is two characters. -/
def lowerChar (c : Char) : List Char :=
  if c.toNat = 0x130 then ['i', '\u0307']
  else
    match lowercaseRuns.findSome? (·.lower? c.toNat) with
    | some code => [Char.ofNat code]
    | none => [c]

def startsCased (text : List Char) : Bool :=
  match text.dropWhile isCaseIgnorable with
  | [] => false
  | c :: _ => isCased c

/-- The lower case form of a capital sigma: `ς` at the end of a word, `σ` elsewhere. `before` is the
text before the sigma, read backwards. -/
def lowerSigma (before after : List Char) : Char :=
  if startsCased before && !startsCased after then 'ς' else 'σ'

def lowercaseAfter (before : List Char) : List Char → List Char
  | [] => []
  | c :: rest =>
    (if c = 'Σ' then [lowerSigma before rest] else lowerChar c) ++ lowercaseAfter (c :: before) rest

def lowercase (text : String) : String := String.ofList (lowercaseAfter [] text.toList)

end MediaSearch.Text
