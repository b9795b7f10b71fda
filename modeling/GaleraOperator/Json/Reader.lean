import GaleraOperator.Json.Fault
import GaleraOperator.Text.Digit
import GaleraOperator.Text.Utf8

/-!
# Reading JSON

A text is read octet by octet. Every reader takes what is left of the text and answers with what it has read and
what is left then, or stops at the first fault. What has no reader of its own is read as a document (`document`) or
is passed over (`skip`); passing over is more lenient, because nothing is made of what stands there.
-/

namespace GaleraOperator.Json

/-- The octets of a text, each as the character of that code. -/
abbrev Octets := List Char

namespace Octets

/-- Bytes as octets. -/
def ofBytes (bytes : List UInt8) : Octets := bytes.map fun b ↦ Char.ofNat b.toNat

/-- A text as octets. -/
def ofString (s : String) : Octets := ofBytes s.toUTF8.toList

/-- Octets as bytes. -/
def toBytes (cs : Octets) : List UInt8 := cs.map fun c ↦ UInt8.ofNat c.toNat

/-- The position after one more octet. -/
def next (p : Position) (c : Char) : Position :=
  if c = '\n' then ⟨p.line + 1, 0⟩ else ⟨p.line, p.column + 1⟩

/-- The position behind octets. -/
def position (cs : Octets) : Position := cs.foldl next ⟨1, 0⟩

end Octets

/-- Where reading has stopped, and why. -/
structure Stop where
  fault : Fault
  /-- What was not read. -/
  rest : Octets
  /-- Whether the next octet counts as read, because the fault showed when it was looked at. -/
  ahead : Bool
  /-- Whether the place is the one to report. The place of a fault that is no single value's is settled only where
  the container ends that it is found in. -/
  settled : Bool
  deriving DecidableEq, Repr

/-- The place of a stop in its text. -/
def Stop.position (s : Stop) (text : Octets) : Position :=
  Octets.position (text.take (text.length - s.rest.length + if s.ahead then 1 else 0))

/-- A stop as a fault of its text. -/
def Stop.toTextFault (s : Stop) (text : Octets) : TextFault := ⟨s.fault, s.position text⟩

/-- What a reader answers, unless it stops. -/
abbrev Read := Except Stop

namespace Reader

variable {α : Type}

/-- A fault that shows when the next octet is looked at. -/
def failAhead (fault : SyntaxFault) (rest : Octets) : Read α :=
  .error ⟨.malformed fault, rest, true, true⟩

/-- A fault that shows after what was read. -/
def failHere (fault : SyntaxFault) (rest : Octets) : Read α :=
  .error ⟨.malformed fault, rest, false, true⟩

/-- What was read does not have the right shape. -/
def misfit (fault : ShapeFault) (rest : Octets) : Read α :=
  .error ⟨.misfit fault, rest, false, true⟩

/-- What has been read of a container does not have the right shape. -/
def unsettled (fault : ShapeFault) (rest : Octets) : Read α :=
  .error ⟨.misfit fault, rest, false, false⟩

/-! ## Words, strings and numbers -/

/-- White space between tokens. -/
def isSpace (c : Char) : Bool := c = ' ' || c = '\n' || c = '\t' || c = '\r'

/-- Drop white space. -/
def skipSpace (cs : Octets) : Octets := cs.dropWhile isSpace

/-- The rest of a word whose first letter has been read. -/
def word : List Char → Octets → Read Octets
  | [], rest => .ok rest
  | _ :: _, [] => failHere .endInValue []
  | expected :: more, c :: rest =>
    if c = expected then word more rest else failAhead .expectedIdent (c :: rest)

/-- The value of a hexadecimal digit. -/
def hexValue? (c : Char) : Option Nat :=
  if c.isDigit then some (Text.digitValue c)
  else if 'a' ≤ c ∧ c ≤ 'f' then some (c.toNat - 'a'.toNat + 10)
  else if 'A' ≤ c ∧ c ≤ 'F' then some (c.toNat - 'A'.toNat + 10)
  else none

/-- The value of four hexadecimal digits. -/
def hexUnit? (a b c d : Char) : Option Nat := do
  let a ← hexValue? a
  let b ← hexValue? b
  let c ← hexValue? c
  let d ← hexValue? d
  return ((a * 16 + b) * 16 + c) * 16 + d

/-- The octets of a character, the last one first. -/
def reversedOctets (code : Nat) : Octets := (Octets.ofString (String.ofList [Char.ofNat code])).reverse

/-- The octets that a string denotes after its opening quotation mark, put behind `done` (which is reversed). -/
def stringTail (done : Octets) : Octets → Read (Octets × Octets)
  | [] => failHere .endInString []
  | '"' :: rest => .ok (done.reverse, rest)
  | '\\' :: rest =>
    match rest with
    | [] => failHere .endInString []
    | '"' :: rest => stringTail ('"' :: done) rest
    | '\\' :: rest => stringTail ('\\' :: done) rest
    | '/' :: rest => stringTail ('/' :: done) rest
    | 'b' :: rest => stringTail ('\x08' :: done) rest
    | 'f' :: rest => stringTail ('\x0c' :: done) rest
    | 'n' :: rest => stringTail ('\n' :: done) rest
    | 'r' :: rest => stringTail ('\r' :: done) rest
    | 't' :: rest => stringTail ('\t' :: done) rest
    | 'u' :: a :: b :: c :: d :: rest =>
      match hexUnit? a b c d with
      | none => failHere .invalidEscape rest
      | some unit =>
        if 0xdc00 ≤ unit ∧ unit ≤ 0xdfff then failHere .loneSurrogate rest
        else if unit < 0xd800 ∨ 0xdbff < unit then stringTail (reversedOctets unit ++ done) rest
        else
          match rest with
          | [] => failHere .endInString []
          | '\\' :: 'u' :: a :: b :: c :: d :: rest =>
            match hexUnit? a b c d with
            | none => failHere .invalidEscape rest
            | some low =>
              if low < 0xdc00 ∨ 0xdfff < low then failHere .loneSurrogate rest
              else
                stringTail (reversedOctets ((unit - 0xd800) * 0x400 + (low - 0xdc00) + 0x10000) ++ done) rest
          | '\\' :: 'u' :: _ => failHere .endInString []
          | ['\\'] => failHere .endInString []
          | '\\' :: rest => failAhead .unexpectedEndOfHexEscape rest
          | rest => failAhead .unexpectedEndOfHexEscape rest
    | 'u' :: _ => failHere .endInString []
    | rest => failAhead .invalidEscape rest
  | c :: rest =>
    if c < ' ' then failAhead .controlCharacter (c :: rest) else stringTail (c :: done) rest

/-- A string after its opening quotation mark. -/
def string (cs : Octets) : Read (String × Octets) := do
  let (octets, rest) ← stringTail [] cs
  match Text.textOfBytes (Octets.toBytes octets) with
  | .ok s => return (s, rest)
  | .error valid => failAhead .invalidCodePoint (cs.drop valid)

/-- Take in digits as long as the number stays below `2 ^ 64`; the answer is the number, how many digits it has
taken in, and what is left. -/
def absorb : (value count : Nat) → Octets → Nat × Nat × Octets
  | value, count, [] => (value, count, [])
  | value, count, c :: rest =>
    let more := value * 10 + Text.digitValue c
    if c.isDigit ∧ more < Nat.pow 2 64 then absorb more (count + 1) rest else (value, count, c :: rest)

/-- Drop digits. -/
def skipDigits (cs : Octets) : Octets := cs.dropWhile Char.isDigit

/-- Whether the next octet is a digit. -/
def digitNext (cs : Octets) : Bool := cs.head?.any Char.isDigit

/-- The digits of an exponent, on from `value`. One beyond 32 bits makes a number too large or nothing. -/
def exponentDigits (tooLarge : Bool) : (value : Nat) → Octets → Read (Nat × Octets)
  | value, [] => .ok (value, [])
  | value, c :: rest =>
    if c.isDigit then
      let more := value * 10 + Text.digitValue c
      if more < Nat.pow 2 31 then exponentDigits tooLarge more rest
      else if tooLarge then failHere .numberOutOfRange rest
      else .ok (more, skipDigits rest)
    else .ok (value, c :: rest)

/-- The exponent of a number behind its `e`. -/
def exponent (significand : Nat) (cs : Octets) : Read (Int × Octets) := do
  let (negative, cs) := match cs with
    | '-' :: rest => (true, rest)
    | '+' :: rest => (false, rest)
    | rest => (false, rest)
  match cs with
  | [] => failHere .endInValue []
  | c :: rest =>
    if c.isDigit then do
      let (value, rest) ← exponentDigits (!negative && significand ≠ 0) (Text.digitValue c) rest
      return (if negative then -value else value, rest)
    else failAhead .invalidNumber (c :: rest)

/-- A number that is no integer, unless it is too large. -/
def decimal (negative : Bool) (significand : Nat) (exponent : Int) (rest : Octets) : Read (Number × Octets) :=
  let n := Number.decimal negative significand exponent
  if n.toFloat?.isSome then .ok (n, rest) else failHere .numberOutOfRange rest

/-- What may follow the digits of a number that is no integer. -/
def decimalTail (negative : Bool) (significand : Nat) (scale : Int) : Octets → Read (Number × Octets)
  | 'e' :: rest | 'E' :: rest => do
    let (e, rest) ← exponent significand rest
    decimal negative significand (scale + e) rest
  | rest => decimal negative significand scale rest

/-- A number behind its sign. Digits that would take it beyond 64 bits only count as places before the point. -/
def number (negative : Bool) (cs : Octets) : Read (Number × Octets) :=
  match cs with
  | [] => failHere .endInValue []
  | c :: rest =>
    if !c.isDigit then failAhead .invalidNumber cs
    else if c = '0' && digitNext rest then failAhead .invalidNumber rest
    else
      let (significand, _, rest) := absorb 0 0 cs
      let dropped : Nat := (rest.takeWhile Char.isDigit).length
      match skipDigits rest with
      | '.' :: rest =>
        let (significand, places, rest) := absorb significand 0 rest
        if places = 0 && !digitNext rest then
          failAhead (if rest.isEmpty then .endInValue else .invalidNumber) rest
        else decimalTail negative significand ((dropped : Int) - places) (skipDigits rest)
      | 'e' :: rest => decimalTail negative significand dropped ('e' :: rest)
      | 'E' :: rest => decimalTail negative significand dropped ('E' :: rest)
      | rest =>
        if dropped ≠ 0 || (negative && (significand = 0 || Nat.pow 2 63 < significand)) then
          decimal negative significand dropped rest
        else .ok (.integer (if negative then -significand else significand), rest)

/-- A value that is no container. -/
def scalar (cs : Octets) : Read (Json × Octets) :=
  match cs with
  | [] => failAhead .endInValue []
  | 'n' :: rest => do return (.null, ← word ['u', 'l', 'l'] rest)
  | 't' :: rest => do return (.bool true, ← word ['r', 'u', 'e'] rest)
  | 'f' :: rest => do return (.bool false, ← word ['a', 'l', 's', 'e'] rest)
  | '"' :: rest => do
    let (s, rest) ← string rest
    return (.string s, rest)
  | '-' :: rest => do
    let (n, rest) ← number true rest
    return (.number n, rest)
  | c :: _ =>
    if c.isDigit then do
      let (n, rest) ← number false cs
      return (.number n, rest)
    else failAhead .expectedValue cs

/-! ## Containers -/

/-- Whether a list goes on with another item. -/
def nextItem (first : Bool) (cs : Octets) : Read (Bool × Octets) :=
  match skipSpace cs with
  | [] => failAhead .endInList []
  | ']' :: rest => .ok (false, ']' :: rest)
  | cs =>
    if first then .ok (true, cs)
    else
      match cs with
      | ',' :: rest =>
        match skipSpace rest with
        | [] => failAhead .endInValue []
        | ']' :: rest => failAhead .trailingComma (']' :: rest)
        | rest => .ok (true, rest)
      | cs => failAhead .expectedListCommaOrEnd cs

/-- The name of a member behind its opening quotation mark, where a member has to begin. -/
def memberName (cs : Octets) : Read (Option String × Octets) :=
  match cs with
  | [] => failAhead .endInValue []
  | '"' :: rest => do
    let (name, rest) ← string rest
    return (some name, rest)
  | '\x7d' :: rest => failAhead .trailingComma ('\x7d' :: rest)
  | cs => failAhead .keyMustBeString cs

/-- The name of the next member of an object, if it goes on with one. -/
def nextName (first : Bool) (cs : Octets) : Read (Option String × Octets) :=
  match skipSpace cs with
  | [] => failAhead .endInObject []
  | '\x7d' :: rest => .ok (none, '\x7d' :: rest)
  | cs =>
    if first then memberName cs
    else
      match cs with
      | ',' :: rest => memberName (skipSpace rest)
      | cs => failAhead .expectedObjectCommaOrEnd cs

/-- The colon behind the name of a member. -/
def colon (cs : Octets) : Read Octets :=
  match skipSpace cs with
  | ':' :: rest => .ok rest
  | [] => failAhead .endInObject []
  | cs => failAhead .expectedColon cs

/-- The end of a list. -/
def closeList (cs : Octets) : Read Octets :=
  match skipSpace cs with
  | ']' :: rest => .ok rest
  | [] => failAhead .endInList []
  | ',' :: rest =>
    match skipSpace rest with
    | ']' :: rest => failAhead .trailingComma (']' :: rest)
    | rest => failAhead .trailingCharacters rest
  | cs => failAhead .trailingCharacters cs

/-- The end of an object. -/
def closeObject (cs : Octets) : Read Octets :=
  match skipSpace cs with
  | '\x7d' :: rest => .ok rest
  | [] => failAhead .endInObject []
  | ',' :: rest => failAhead .trailingComma (',' :: rest)
  | cs => failAhead .trailingCharacters cs

/-- What is left behind the end of a list, or as near to it as one gets without reading another item. -/
def pastList (cs : Octets) : Octets :=
  match skipSpace cs with
  | ']' :: rest => rest
  | ',' :: rest => skipSpace rest
  | cs => cs

/-- What is left behind the end of an object, or as near to it as one gets without reading another member. -/
def pastObject (cs : Octets) : Octets :=
  match skipSpace cs with
  | '\x7d' :: rest => rest
  | cs => cs

/-- Settle where a fault is reported that was found in a container. -/
def settle (past : Octets → Octets) : Read α → Read α
  | .ok a => .ok a
  | .error s => .error (if s.settled then s else { s with rest := past s.rest, settled := true })

/-- What stands in a list, up to its end. -/
def inList (inner : Read (α × Octets)) : Read (α × Octets) :=
  settle pastList do
    let (a, rest) ← inner
    return (a, ← closeList rest)

/-- What stands in an object, up to its end. -/
def inObject (inner : Read (α × Octets)) : Read (α × Octets) :=
  settle pastObject do
    let (a, rest) ← inner
    return (a, ← closeObject rest)

/-- The items of a list up to its end, of which there are fewer than `fuel`. -/
def items (item : Octets → Read (α × Octets)) : (fuel : Nat) → (first : Bool) → Octets → Read (List α × Octets)
  | 0, _, cs => failAhead .endInList cs
  | fuel + 1, first, cs => do
    match ← nextItem first cs with
    | (false, cs) => return ([], cs)
    | (true, cs) =>
      let (a, cs) ← item cs
      let (as, cs) ← items item fuel false cs
      return (a :: as, cs)

/-- Take in the members of an object up to its end, of which there are fewer than `fuel`. A member is taken in from
behind its name. -/
def members (take : α → String → Octets → Read (α × Octets)) : (fuel : Nat) → (first : Bool) → α → Octets → Read (α × Octets)
  | 0, _, _, cs => failAhead .endInObject cs
  | fuel + 1, first, a, cs => do
    match ← nextName first cs with
    | (none, cs) => return (a, cs)
    | (some name, cs) =>
      let (a, cs) ← take a name cs
      members take fuel false a cs

/-- Put a member into an object, in the place of one of the same name. -/
def putMember (name : String) (value : Json) : Members → Members
  | [] => [(name, value)]
  | (other, old) :: rest =>
    if other = name then (name, value) :: rest else (other, old) :: putMember name value rest

/-- Any document with containers nested at most `depth` deep; of repeated members the last one counts. A container
has fewer parts than `size`. -/
def document (size depth : Nat) (cs : Octets) : Read (Json × Octets) :=
  match skipSpace cs with
  | '[' :: rest =>
    match depth with
    | 0 => failAhead .tooDeep ('[' :: rest)
    | depth + 1 => do
      let (found, rest) ← inList (items (document size depth) size true rest)
      return (.array found, rest)
  | '\x7b' :: rest =>
    match depth with
    | 0 => failAhead .tooDeep ('\x7b' :: rest)
    | depth + 1 => do
      let take (found : Members) (name : String) (cs : Octets) : Read (Members × Octets) := do
        let (value, cs) ← document size depth (← colon cs)
        return (putMember name value found, cs)
      let (found, rest) ← inObject (members take size true [] rest)
      return (.object found, rest)
  | cs => scalar cs

/-- The deepest nesting of containers that is read. -/
def maxDepth : Nat := 127

/-- What stands behind a document: nothing but white space. -/
def finish (rest : Octets) : Read Unit :=
  match skipSpace rest with
  | [] => .ok ()
  | rest => failAhead .trailingCharacters rest

/-! ## Passing over values -/

/-- Pass over a string behind its opening quotation mark. -/
def skipString : Octets → Read Octets
  | [] => failHere .endInString []
  | '"' :: rest => .ok rest
  | '\\' :: rest =>
    match rest with
    | [] => failHere .endInString []
    | 'u' :: a :: b :: c :: d :: rest =>
      if (hexUnit? a b c d).isSome then skipString rest else failHere .invalidEscape rest
    | 'u' :: _ => failHere .endInString []
    | c :: rest =>
      if ['"', '\\', '/', 'b', 'f', 'n', 'r', 't'].contains c then skipString rest
      else failHere .invalidEscape rest
  | c :: rest => if c < ' ' then failHere .controlCharacter (c :: rest) else skipString rest

/-- Pass over an exponent behind its `e`. -/
def skipExponent (cs : Octets) : Read Octets :=
  let cs := match cs with
    | '-' :: rest | '+' :: rest => rest
    | rest => rest
  if digitNext cs then .ok (skipDigits cs) else failAhead .invalidNumber cs

/-- Pass over a number behind its sign. -/
def skipNumber (cs : Octets) : Read Octets := do
  if !digitNext cs then failAhead .invalidNumber cs
  else if cs.head? = some '0' && digitNext (cs.drop 1) then failAhead .invalidNumber (cs.drop 1)
  else
    match skipDigits cs with
    | '.' :: rest =>
      if !digitNext rest then failAhead .invalidNumber rest
      else
        match skipDigits rest with
        | 'e' :: rest | 'E' :: rest => skipExponent rest
        | rest => return rest
    | 'e' :: rest | 'E' :: rest => skipExponent rest
    | rest => return rest

/-- Pass over a value that is no container. -/
def skipScalar (cs : Octets) : Read Octets :=
  match cs with
  | [] => failAhead .endInValue []
  | 'n' :: rest => word ['u', 'l', 'l'] rest
  | 't' :: rest => word ['r', 'u', 'e'] rest
  | 'f' :: rest => word ['a', 'l', 's', 'e'] rest
  | '"' :: rest => skipString rest
  | '-' :: rest => skipNumber rest
  | c :: _ => if c.isDigit then skipNumber cs else failAhead .expectedValue cs

/-- A container that is passed over. -/
inductive Bracket where
  | list
  | object
  deriving DecidableEq, Repr

/-- What closes a container. -/
def Bracket.closing : Bracket → Char
  | .list => ']'
  | .object => '\x7d'

/-- The fault of a text that ends in a container. -/
def Bracket.endFault : Bracket → SyntaxFault
  | .list => .endInList
  | .object => .endInObject

/-- The fault of a part of a container that nothing separates from the one before. -/
def Bracket.separatorFault : Bracket → SyntaxFault
  | .list => .expectedListCommaOrEnd
  | .object => .expectedObjectCommaOrEnd

/-- Pass over what stands before a value in a container: the name of a member with its colon. -/
def Bracket.skipName : Bracket → Octets → Read Octets
  | .list, cs => .ok cs
  | .object, cs =>
    match skipSpace cs with
    | [] => failAhead .endInObject []
    | '"' :: rest => do colon (← skipString rest)
    | cs => failAhead .keyMustBeString cs

/-- What is to be passed over next: a value, or what stands behind one in the containers that are open. -/
inductive Skip where
  | value
  | behindBracket
  | behindValue
  deriving DecidableEq, Repr

/-- Pass over the rest of a value, given the containers that are open, the innermost first. Every octet takes at most
two steps. -/
def skipFrom : (steps : Nat) → Skip → List Bracket → Octets → Read Octets
  | 0, _, _, cs => failAhead .endInValue cs
  | steps + 1, .value, inside, cs =>
    match skipSpace cs with
    | '[' :: rest => skipFrom steps .behindBracket (.list :: inside) rest
    | '\x7b' :: rest => skipFrom steps .behindBracket (.object :: inside) rest
    | cs => do skipFrom steps .behindValue inside (← skipScalar cs)
  | _ + 1, _, [], cs => .ok cs
  | steps + 1, state, b :: inside, cs =>
    match skipSpace cs with
    | [] => failAhead b.endFault []
    | c :: rest =>
      if c = b.closing then skipFrom steps .behindValue inside rest
      else if state = .behindBracket then do skipFrom steps .value (b :: inside) (← b.skipName (c :: rest))
      else if c = ',' then do skipFrom steps .value (b :: inside) (← b.skipName rest)
      else failAhead b.separatorFault (c :: rest)

/-- Pass over a value in a text of fewer than `size` octets. -/
def skip (size : Nat) (cs : Octets) : Read Octets := skipFrom (2 * size) .value [] cs

end Reader

end GaleraOperator.Json
