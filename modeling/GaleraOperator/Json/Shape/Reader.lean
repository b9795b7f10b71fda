import GaleraOperator.Json.Reader
import GaleraOperator.Json.Shape.Basic

/-!
# Reading a document of a shape

A text is read for a document of a given shape, and the answer is its normal form. The shape says at every place what
to look for, so the first fault in the order of the text is the one that is found, be it one of the text or one of
the shape; and what the shape does not name is passed over.
-/

namespace GaleraOperator.Json

open Reader

namespace Leaf

/-- What opens a container, as a document. -/
def container? : Octets → Option Json
  | '[' :: _ => some (.array [])
  | '\x7b' :: _ => some (.object [])
  | _ => none

/-- Nothing but a container would have done; a fault shows before a container of the wrong type is read, and after
any other value. -/
def refuse {α : Type} (expected : String) (cs : Octets) : Read α :=
  match container? cs with
  | some found => misfit (.wrongType found expected) cs
  | none => do
    let (found, rest) ← scalar cs
    misfit (.wrongType found expected) rest

/-- Read a value. Where several types will do, a container is opened before it is refused. -/
def read (leaf : Leaf) (depth : Nat) (cs : Octets) : Read (Json × Octets) :=
  let cs := skipSpace cs
  match leaf, container? cs with
  | .integerOrText, some found =>
    if depth = 0 then failAhead .tooDeep cs
    else
      let past := if found = .array [] then pastList else pastObject
      settle past (unsettled (.wrongType found leaf.expected) (cs.drop 1))
  | _, some found => misfit (.wrongType found leaf.expected) cs
  | _, none => do
    let (found, rest) ← scalar cs
    match leaf.fit found with
    | .ok value => return (value, rest)
    | .error fault => misfit fault rest

end Leaf

namespace Shape

/-- Read one of several names in the form of an object, behind its brace. -/
def readWordObject (names : List String) (cs : Octets) : Read (Json × Octets) := do
  let (name, cs) ← (Leaf.choice names).read maxDepth cs
  let cs := skipSpace (← colon cs)
  match Leaf.container? cs with
  | some found => misfit (.wrongType found "unit") cs
  | none =>
    match ← scalar cs with
    | (.null, cs) =>
      match skipSpace cs with
      | '\x7d' :: rest => return (name, rest)
      | [] => failHere .endInObject []
      | cs => failHere .expectedValue cs
    | (found, cs) => misfit (.wrongType found "unit") cs

/-- Read one of several names. -/
def readWord (names : List String) (depth : Nat) (cs : Octets) : Read (Json × Octets) :=
  match skipSpace cs, depth with
  | '"' :: rest, _ => (Leaf.choice names).read depth ('"' :: rest)
  | '\x7b' :: rest, 0 => failAhead .tooDeep ('\x7b' :: rest)
  | '\x7b' :: rest, _ => readWordObject names rest
  | [], _ => failAhead .endInValue []
  | cs, _ => failAhead .expectedValue cs

/-- Take a fault that was found in what was read already. -/
def liftFit {α : Type} (result : Except ShapeFault α) (rest : Octets) : Read α :=
  match result with
  | .ok a => .ok a
  | .error fault => unsettled fault rest

/-- Read a text that has to be this one. -/
def readLiteral (value : String) (depth : Nat) (cs : Octets) : Read (Json × Octets) := do
  let (found, rest) ← Leaf.text.read depth cs
  if found = .string value then return (found, rest) else unsettled (.wrongValue found value) rest

/-- What is found of a tagged record: its tag and its other members, the last found first. -/
abbrev Tagged := Option Json × Members

/-- Take in a member of a tagged record. -/
def takeTagged (size depth : Nat) (tag : String) (names : List String) (found : Tagged) (name : String)
    (cs : Octets) : Read (Tagged × Octets) := do
  if name = tag then
    if found.1.isSome then unsettled (.repeatedMember tag) cs
    else
      let (value, cs) ← (Leaf.choice names).read depth (← colon cs)
      return ((some value, found.2), cs)
  else
    let (value, cs) ← Reader.document size depth (← colon cs)
    return ((found.1, (name, value) :: found.2), cs)

/-- Read a tagged record as the document of its tag and that of the rest, at the most `depth` deep from its bracket
on. -/
def readTagged (size depth : Nat) (kind tag : String) (names : List String) (cs : Octets) :
    Read ((Json × Json) × Octets) :=
  match skipSpace cs, depth with
  | '\x7b' :: rest, depth + 1 => inObject do
    match ← members (takeTagged size depth tag names) size true (none, []) rest with
    | ((some value, found), cs) => return ((value, .object found.reverse), cs)
    | ((none, _), cs) => unsettled (.missingMember tag) cs
  | '[' :: rest, depth + 1 => inList do
    match ← nextItem true rest with
    | (false, cs) => unsettled (.missingMember tag) cs
    | (true, cs) =>
      let (value, cs) ← (Leaf.choice names).read depth cs
      let (found, cs) ← items (Reader.document size depth) size false cs
      return ((value, .array found), cs)
  | '\x7b' :: rest, 0 => failAhead .tooDeep ('\x7b' :: rest)
  | '[' :: rest, 0 => failAhead .tooDeep ('[' :: rest)
  | cs, _ => Leaf.refuse ("internally tagged enum " ++ kind) cs

mutual

/-- Read a document of a shape. Containers are nested at most `depth` deep, and each has fewer parts than `size`. -/
def read (size : Nat) : Shape → (depth : Nat) → Octets → Read (Json × Octets)
  | .document, depth, cs => Reader.document size depth cs
  | .leaf kind, depth, cs => kind.read depth cs
  | .literal value, depth, cs => readLiteral value depth cs
  | .word names, depth, cs => readWord names depth cs
  | .orNull value, depth, cs =>
    match skipSpace cs with
    | 'n' :: rest => do return (.null, ← Reader.word ['u', 'l', 'l'] rest)
    | cs => read size value depth cs
  | .orBlank value, depth, cs =>
    match skipSpace cs with
    | 'n' :: rest => do return (value.blank, ← Reader.word ['u', 'l', 'l'] rest)
    | cs => read size value depth cs
  | .list item, depth, cs =>
    match skipSpace cs, depth with
    | '[' :: rest, depth + 1 => do
      let (found, cs) ← inList (items (read size item depth) size true rest)
      return (.array found, cs)
    | '[' :: rest, 0 => failAhead .tooDeep ('[' :: rest)
    | cs, _ => Leaf.refuse "a sequence" cs
  | .dict item, depth, cs =>
    match skipSpace cs, depth with
    | '\x7b' :: rest, depth + 1 => do
      let take (found : Dict Json) (name : String) (cs : Octets) : Read (Dict Json × Octets) := do
        let (value, cs) ← read size item depth (← colon cs)
        return (found.insert name value, cs)
      let (found, cs) ← inObject (members take size true .empty rest)
      return (.object found.toList, cs)
    | '\x7b' :: rest, 0 => failAhead .tooDeep ('\x7b' :: rest)
    | cs, _ => Leaf.refuse "a map" cs
  | .record style kind fields, depth, cs =>
    match skipSpace cs, depth with
    | '\x7b' :: rest, depth + 1 => inObject do
      let take (found : Members) (name : String) (cs : Octets) : Read (Members × Octets) := do
        if isKnown fields name then
          if style ≠ .lenient && isThere found name then unsettled (.repeatedMember name) cs
          else
            let (value, cs) ← readNamed size name fields depth (← colon cs)
            return ((name, value) :: found, cs)
        else if style = .wrapper then
          let (_, cs) ← Reader.document size depth (← colon cs)
          return (found, cs)
        else return (found, ← skip size (← colon cs))
      let (found, cs) ← members take size true [] rest
      return (.object (← liftFit (complete fields found) cs), cs)
    | '[' :: rest, depth + 1 =>
      match style with
      | .strict => inList do
        let (found, cs) ← readItems size (expectedItems kind fields) 0 fields depth rest
        return (.object (← liftFit (complete fields found.reverse) cs), cs)
      | .lenient => settle pastList (unsettled (.wrongType (.array []) (style.expected kind)) rest)
      | .wrapper => Leaf.refuse (style.expected kind) ('[' :: rest)
    | '\x7b' :: rest, 0 => failAhead .tooDeep ('\x7b' :: rest)
    | '[' :: rest, 0 =>
      if style = .wrapper then Leaf.refuse (style.expected kind) ('[' :: rest) else failAhead .tooDeep ('[' :: rest)
    | cs, _ => Leaf.refuse (style.expected kind) cs
  | .tagged kind tag variants, depth, cs => do
    let ((value, found), cs) ← readTagged size depth kind tag (variants.map (·.1)) cs
    return (← liftFit (fitVariant tag (variants.map (·.1)) value found variants) cs, cs)

/-- Read the value of a member. -/
def readNamed (size : Nat) (name : String) :
    List (Slot Shape) → (depth : Nat) → Octets → Read (Json × Octets)
  | [], depth, cs => Reader.document size depth cs
  | ⟨other, _, shape⟩ :: rest, depth, cs =>
    if other = name then read size shape depth cs else readNamed size name rest depth cs

/-- Read members that are given in order, from position `index` on. -/
def readItems (size : Nat) (expected : String) (index : Nat) :
    List (Slot Shape) → (depth : Nat) → Octets → Read (Members × Octets)
  | [], _, cs => .ok ([], cs)
  | ⟨name, absence, shape⟩ :: rest, depth, cs => do
    match ← nextItem (index = 0) cs with
    | (true, cs) =>
      let (value, cs) ← read size shape depth cs
      let (found, cs) ← readItems size expected (index + 1) rest depth cs
      return ((name, value) :: found, cs)
    | (false, cs) =>
      if absence = .refused ∨ absence = .refusedInList then unsettled (.wrongLength index expected) cs
      else readItems size expected (index + 1) rest depth cs

end

/-- Read a text that is one document of a shape. -/
def readText (shape : Shape) (text : Octets) : Except TextFault Json :=
  let result : Read Json := do
    let (value, rest) ← shape.read (text.length + 1) maxDepth text
    finish rest
    return value
  result.mapError (·.toTextFault text)

end Shape

end GaleraOperator.Json
