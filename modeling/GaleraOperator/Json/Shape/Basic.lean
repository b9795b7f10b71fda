import GaleraOperator.Dict
import GaleraOperator.Instant.Printer
import GaleraOperator.Instant.Reader
import GaleraOperator.Json.Fault

/-!
# Shapes of documents

A shape says which documents are values of a type. A document that fits a shape has a normal form: members that the
shape does not name are gone, members that stand for nothing are gone too, what has to be there is there, and
dictionaries are in order. `Shape.fit` takes a document to its normal form.

Three kinds of records differ in how forgiving they are. What users write is read *strictly*: a repeated member is
refused, and the record may also be given as the list of its members in order. What the cluster's interface writes
is read *leniently*: the last of repeated members counts, and only an object will do. A *wrapper* is strict, but only
an object will do, and members that it does not name have to be documents all the same.
-/

namespace GaleraOperator.Json

/-- The values that are no containers. -/
inductive Leaf where
  | text
  | truth
  /-- An integer within bounds; the name is that of its type. -/
  | integer (low high : Int) (name : String)
  /-- A point in time, which is kept as it is written. -/
  | instant
  /-- A point in time, which is written to the second. -/
  | seconds
  /-- A point in time, which is written to the microsecond. -/
  | micros
  | integerOrText
  /-- One of several names. -/
  | choice (names : List String)
  deriving DecidableEq, Repr

/-- How forgiving a record is. -/
inductive Style where
  | strict
  | lenient
  | wrapper
  deriving DecidableEq, Repr

/-- What is made of a member that is not there. -/
inductive Absence where
  /-- It stays away. -/
  | omitted
  /-- It is put in blank. -/
  | filled
  /-- It is missed. -/
  | refused
  /-- It is missed only in a list of members. -/
  | refusedInList
  deriving DecidableEq, Repr

/-- The slot of a record for a member; `σ` is the type of the shape of its value. -/
structure Slot (σ : Type) where
  name : String
  absence : Absence
  shape : σ

/-- Which documents are values of a type. -/
inductive Shape where
  /-- Any document. -/
  | document
  | leaf (kind : Leaf)
  /-- A text that has to be this one. -/
  | literal (value : String)
  /-- One of several names, also as an object whose only member has that name and the value `null`. -/
  | word (names : List String)
  /-- `null`, which stands for nothing, or a value. -/
  | orNull (value : Shape)
  /-- A value, for which `null` may stand if it is blank. -/
  | orBlank (value : Shape)
  | list (item : Shape)
  | dict (item : Shape)
  | record (style : Style) (kind : String) (fields : List (Slot Shape))
  /-- A record whose shape is named in one of its own members, or in its first item. -/
  | tagged (kind tag : String) (variants : List (String × Shape))

instance : Inhabited Shape := ⟨.document⟩

namespace Leaf

/-- What is asked for, as a message names it. -/
def expected : Leaf → String
  | .text => "a string"
  | .truth => "a boolean"
  | .integer _ _ name => name
  | .instant | .seconds | .micros => "an RFC 3339 formatted date and time string"
  | .integerOrText => "IntOrString"
  | .choice _ => "variant identifier"

/-- A point in time, written anew. -/
def fitInstant (write : Instant → String) (s : String) : Except ShapeFault Json :=
  match Instant.ofRelaxed s with
  | .ok t => .ok (.string (write t))
  | .error e => .error (.badText e.message)

/-- The normal form of a value. -/
def fit : Leaf → Json → Except ShapeFault Json
  | .text, .string s => .ok (.string s)
  | .truth, .bool b => .ok (.bool b)
  | .integer low high name, .number (.integer n) =>
    if low ≤ n ∧ n ≤ high then .ok (.int n) else .error (.wrongValue (.int n) name)
  | .instant, .string s => fitInstant (fun _ ↦ s) s
  | .seconds, .string s => fitInstant Instant.toSecondsText s
  | .micros, .string s => fitInstant Instant.toMicrosText s
  | .integerOrText, .string s => .ok (.string s)
  | .integerOrText, .number (.integer n) =>
    if -2147483648 ≤ n ∧ n ≤ 2147483647 then .ok (.int n) else .error (.wrongValue (.int n) "a 32-bit integer")
  | .choice names, .string s =>
    if names.contains s then .ok (.string s) else .error (.unknownVariant s names)
  | leaf, found => .error (.wrongType found leaf.expected)

/-- The value that stands for nothing in particular. -/
def blank : Leaf → Json
  | .text | .instant | .seconds | .micros | .choice _ => .string ""
  | .truth => .bool false
  | .integer .. | .integerOrText => .int 0

end Leaf

/-- What a record is called where another type is found. -/
def Style.expected (style : Style) (kind : String) : String :=
  match style with
  | .strict | .wrapper => "struct " ++ kind
  | .lenient => kind

/-- A number of members. -/
def countElements (n : Nat) : String := toString n ++ if n = 1 then " element" else " elements"

/-- What a record is called where too few items are found. -/
def expectedItems (kind : String) (fields : List (Slot Shape)) : String :=
  "struct " ++ kind ++ " with " ++ countElements fields.length

namespace Shape

/-- Text. -/
def text : Shape := .leaf .text

/-- A truth value. -/
def truth : Shape := .leaf .truth

/-- An integer of a given number of bits, with a sign or without one. -/
def integer (signed : Bool) (bits : Nat) : Shape :=
  if signed then
    let half : Int := Nat.pow 2 (bits - 1)
    .leaf (.integer (-half) (half - 1) ("i" ++ toString bits))
  else .leaf (.integer 0 (Nat.pow 2 bits - 1 : Nat) ("u" ++ toString bits))

/-- A signed integer of 32 bits. -/
def int32 : Shape := integer true 32

/-- A signed integer of 64 bits. -/
def int64 : Shape := integer true 64

/-- A point in time, which is written to the second. -/
def seconds : Shape := .leaf .seconds

/-- A point in time, which is written to the microsecond. -/
def micros : Shape := .leaf .micros

/-- A dictionary of texts. -/
def texts : Shape := .dict text

/-- A lenient record. -/
def lenient (kind : String) (fields : List (Slot Shape)) : Shape := .record .lenient kind fields

mutual

/-- The value that stands for nothing in particular. -/
def blank : Shape → Json
  | .document | .orNull _ => .null
  | .leaf kind => kind.blank
  | .literal value => .string value
  | .word _ => .string ""
  | .orBlank value => value.blank
  | .list _ => .array []
  | .dict _ | .tagged .. => .object []
  | .record _ _ fields => .object (blankMembers fields)

/-- The members that have to be there, blank. -/
def blankMembers : List (Slot Shape) → Members
  | [] => []
  | ⟨name, absence, shape⟩ :: rest =>
    if absence = .filled then (name, shape.blank) :: blankMembers rest else blankMembers rest

end

/-- Whether a record may have a member of the name. -/
def isKnown (fields : List (Slot Shape)) (name : String) : Bool := fields.any (·.name = name)

/-- Whether a member of the name was found. -/
def isThere (found : Members) (name : String) : Bool := found.any (·.1 = name)

/-- A record of what was found, the last found first, in normal form. -/
def complete : List (Slot Shape) → Members → Except ShapeFault Members
  | [], _ => .ok []
  | ⟨name, absence, shape⟩ :: rest, found =>
    match found.lookup name, absence with
    | none, .filled => do return (name, shape.blank) :: (← complete rest found)
    | none, .refused | some .null, .refused => .error (.missingMember name)
    | none, .omitted | none, .refusedInList | some .null, _ => complete rest found
    | some value, _ => do return (name, value) :: (← complete rest found)

mutual

/-- The normal form of a document. -/
def fit : Shape → Json → Except ShapeFault Json
  | .document, j => .ok j
  | .leaf kind, j => kind.fit j
  | .literal value, j =>
    match Leaf.text.fit j with
    | .ok found => if found = .string value then .ok found else .error (.wrongValue found value)
    | .error fault => .error fault
  | .word names, .object [(name, .null)] => (Leaf.choice names).fit (.string name)
  | .word names, j => (Leaf.choice names).fit j
  | .orNull _, .null => .ok .null
  | .orNull value, j => fit value j
  | .orBlank value, .null => .ok value.blank
  | .orBlank value, j => fit value j
  | .list item, .array found => (found.mapM (fit item)).map .array
  | .list _, j => .error (.wrongType j "a sequence")
  | .dict item, .object found => do
    let entries ← found.mapM fun (name, value) ↦ (fit item value).map (name, ·)
    return .object (Dict.ofList entries).toList
  | .dict _, j => .error (.wrongType j "a map")
  | .record style _ fields, .object found => do
    let fitted ← found.foldlM (fun done (name, value) ↦
      if isKnown fields name then
        if style ≠ .lenient && isThere done name then .error (.repeatedMember name)
        else (fitNamed name value fields).map fun value ↦ (name, value) :: done
      else .ok done) []
    return .object (← complete fields fitted)
  | .record .strict kind fields, .array found => do
    let fitted ← fitItems (expectedItems kind fields) 0 found fields
    if fields.length < found.length then
      .error (.wrongLength found.length (countElements fields.length ++ " in sequence"))
    else return .object (← complete fields fitted.reverse)
  | .record style kind _, j => .error (.wrongType j (style.expected kind))
  | .tagged _ tag variants, .object found =>
    match found.filter (·.1 = tag) with
    | [] => .error (.missingMember tag)
    | [(_, value)] => fitVariant tag (variants.map (·.1)) value (.object (found.filter (·.1 ≠ tag))) variants
    | _ => .error (.repeatedMember tag)
  | .tagged _ tag _, .array [] => .error (.missingMember tag)
  | .tagged _ tag variants, .array (value :: found) => fitVariant tag (variants.map (·.1)) value (.array found) variants
  | .tagged kind _ _, j => .error (.wrongType j ("internally tagged enum " ++ kind))

/-- The normal form of a member. -/
def fitNamed (name : String) (value : Json) : List (Slot Shape) → Except ShapeFault Json
  | [] => .ok value
  | ⟨other, _, shape⟩ :: rest => if other = name then fit shape value else fitNamed name value rest

/-- The normal forms of members that are given in order, from position `index` on. -/
def fitItems (expected : String) (index : Nat) (found : List Json) :
    List (Slot Shape) → Except ShapeFault Members
  | [] => .ok []
  | ⟨name, absence, shape⟩ :: rest =>
    match found with
    | value :: found => do
      let value ← fit shape value
      return (name, value) :: (← fitItems expected (index + 1) found rest)
    | [] =>
      if absence = .refused ∨ absence = .refusedInList then .error (.wrongLength index expected)
      else fitItems expected (index + 1) [] rest

/-- The normal form of a record of the shape that `value` names. -/
def fitVariant (tag : String) (names : List String) (value rest : Json) :
    List (String × Shape) → Except ShapeFault Json
  | [] => (Leaf.choice names).fit value
  | (name, shape) :: variants =>
    if value = .string name then do
      match ← fit shape rest with
      | .object members => return .object ((tag, value) :: members)
      | other => return other
    else fitVariant tag names value rest variants

end

end Shape

namespace Slot

/-- A member that may be absent or `null`. -/
def optional (name : String) (shape : Shape) : Slot Shape := ⟨name, .omitted, .orNull shape⟩

/-- A member that may be absent. -/
def defaulted (name : String) (shape : Shape) : Slot Shape := ⟨name, .omitted, shape⟩

/-- A member that has a value even where it is absent or `null`. -/
def filled (name : String) (shape : Shape) : Slot Shape := ⟨name, .filled, .orBlank shape⟩

/-- A member that has to be there. -/
def required (name : String) (shape : Shape) : Slot Shape := ⟨name, .refused, shape⟩

/-- Members of one shape that may be absent or `null`. -/
def optionals (shape : Shape) (names : List String) : List (Slot Shape) := names.map (optional · shape)

/-- Members of one shape that have a value even where they are absent or `null`. -/
def filledAll (shape : Shape) (names : List String) : List (Slot Shape) := names.map (filled · shape)

end Slot

end GaleraOperator.Json
