import GaleraOperator.Dict

/-!
# Selectors

A selector is the text of a dictionary of labels; what carries all of them is selected. As long as neither keys nor
values contain the two separators and no key is empty, the text determines the labels.
-/

namespace GaleraOperator

/-- Names attached to an object. -/
abbrev Labels := Dict String

namespace Labels

/-- One label of a selector. -/
def pairText (pair : String × String) : String := pair.1 ++ "=" ++ pair.2

/-- The selector of a dictionary of labels. -/
def selector (labels : Labels) : String := String.intercalate "," (labels.toList.map pairText)

end Labels

namespace Selector

/-- Cut characters at every separator. -/
def splitAll (separator : Char) : List Char → List (List Char)
  | [] => [[]]
  | c :: cs =>
    if c = separator then [] :: splitAll separator cs
    else
      match splitAll separator cs with
      | [] => [[c]]
      | part :: parts => (c :: part) :: parts

/-- Cut characters at the first separator. -/
def splitFirst (separator : Char) (cs : List Char) : List Char × List Char :=
  (cs.takeWhile (· ≠ separator), (cs.dropWhile (· ≠ separator)).drop 1)

/-- The labels that a selector asks for; the empty text asks for none. -/
def parse (text : String) : List (String × String) :=
  if text.isEmpty then []
  else (splitAll ',' text.toList).map fun part ↦
    let (key, value) := splitFirst '=' part
    (String.ofList key, String.ofList value)

/-- Whether labels include all that a selector asks for. -/
def accepts (text : String) (labels : Labels) : Bool :=
  (parse text).all fun (key, value) ↦ labels.get? key = some value

end Selector

end GaleraOperator
