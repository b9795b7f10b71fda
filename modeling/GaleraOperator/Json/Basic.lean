import GaleraOperator.Json.Number

/-!
# JSON documents

Objects keep their members in the order of the text, repeated names included: which of two members of one name
counts is for the reader of a particular type to say. An integer and a number written with a point or an exponent
are different values.
-/

namespace GaleraOperator

/-- A JSON document. -/
inductive Json where
  | null
  | bool (value : Bool)
  | number (value : Json.Number)
  | string (value : String)
  | array (items : List Json)
  | object (members : List (String × Json))
  deriving Repr

namespace Json

/-- Named parts of an object. -/
abbrev Members := List (String × Json)

instance : Inhabited Json := ⟨.null⟩

mutual

/-- Decide whether two documents are the same. -/
def decEq : (a b : Json) → Decidable (a = b)
  | .null, .null => .isTrue rfl
  | .bool a, .bool b => if h : a = b then .isTrue (h ▸ rfl) else .isFalse fun e ↦ h (Json.bool.inj e)
  | .number a, .number b => if h : a = b then .isTrue (h ▸ rfl) else .isFalse fun e ↦ h (Json.number.inj e)
  | .string a, .string b => if h : a = b then .isTrue (h ▸ rfl) else .isFalse fun e ↦ h (Json.string.inj e)
  | .array a, .array b =>
    match decEqItems a b with
    | .isTrue h => .isTrue (h ▸ rfl)
    | .isFalse h => .isFalse fun e ↦ h (Json.array.inj e)
  | .object a, .object b =>
    match decEqMembers a b with
    | .isTrue h => .isTrue (h ▸ rfl)
    | .isFalse h => .isFalse fun e ↦ h (Json.object.inj e)
  | .null, .bool _ | .null, .number _ | .null, .string _ | .null, .array _ | .null, .object _
  | .bool _, .null | .bool _, .number _ | .bool _, .string _ | .bool _, .array _ | .bool _, .object _
  | .number _, .null | .number _, .bool _ | .number _, .string _ | .number _, .array _ | .number _, .object _
  | .string _, .null | .string _, .bool _ | .string _, .number _ | .string _, .array _ | .string _, .object _
  | .array _, .null | .array _, .bool _ | .array _, .number _ | .array _, .string _ | .array _, .object _
  | .object _, .null | .object _, .bool _ | .object _, .number _ | .object _, .string _ | .object _, .array _ =>
    .isFalse fun e ↦ nomatch e

/-- Decide whether two lists of documents are the same. -/
def decEqItems : (a b : List Json) → Decidable (a = b)
  | [], [] => .isTrue rfl
  | [], _ :: _ => .isFalse fun e ↦ nomatch e
  | _ :: _, [] => .isFalse fun e ↦ nomatch e
  | a :: as, b :: bs =>
    match decEq a b, decEqItems as bs with
    | .isTrue h, .isTrue hs => .isTrue (h ▸ hs ▸ rfl)
    | .isFalse h, _ => .isFalse fun e ↦ h (List.cons.inj e).1
    | _, .isFalse hs => .isFalse fun e ↦ hs (List.cons.inj e).2

/-- Decide whether two lists of members are the same. -/
def decEqMembers : (a b : List (String × Json)) → Decidable (a = b)
  | [], [] => .isTrue rfl
  | [], _ :: _ => .isFalse fun e ↦ nomatch e
  | _ :: _, [] => .isFalse fun e ↦ nomatch e
  | (x, a) :: as, (y, b) :: bs =>
    if hn : x = y then
      match decEq a b, decEqMembers as bs with
      | .isTrue h, .isTrue hs => .isTrue (hn ▸ h ▸ hs ▸ rfl)
      | .isFalse h, _ => .isFalse fun e ↦ h (Prod.mk.inj (List.cons.inj e).1).2
      | _, .isFalse hs => .isFalse fun e ↦ hs (List.cons.inj e).2
    else .isFalse fun e ↦ hn (Prod.mk.inj (List.cons.inj e).1).1

end

instance : DecidableEq Json := decEq

/-- An integer as a document. -/
def int (value : Int) : Json := .number (.integer value)

/-- A natural number as a document. -/
def nat (value : Nat) : Json := .number (.integer value)

/-- An object of the members that are there. -/
def ofFields (fields : List (String × Option Json)) : Json :=
  .object (fields.filterMap fun (name, value) ↦ value.map (name, ·))

/-- The value of the last member of a name. -/
def member? (name : String) : Json → Option Json
  | .object members => members.reverse.lookup name
  | _ => none

end Json

end GaleraOperator
