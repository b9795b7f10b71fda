import GaleraOperator.Json.Shape.Reader

/-!
# From documents to values

A decoder takes documents to values of a domain type. It goes by a shape: a document is brought into its normal form
first, and what is then left to do is to view that as a value, which cannot go wrong in the documents of the shape.
Decoders of records are put together from the decoders of their members, and the shape comes with them.
-/

namespace GaleraOperator.Json

/-- A decoder: the shape of the documents, and the values that those in normal form stand for. -/
structure Decoder (α : Type) where
  shape : Shape
  view : Json → Option α

namespace Decoder

variable {α β : Type}

/-- The value of a document, if it has the shape. -/
def ofJson (d : Decoder α) (j : Json) : Option α := (d.shape.fit j).toOption.bind d.view

/-- Read a text, given in octets, as a value. -/
def readOctets (d : Decoder α) (text : Octets) : Except TextFault α := do
  match d.view (← d.shape.readText text) with
  | some a => .ok a
  | none => .error ⟨.malformed .expectedValue, text.position⟩

/-- Read a text as a value. -/
def read (d : Decoder α) (text : String) : Except TextFault α := d.readOctets (.ofString text)

/-- Any document. -/
def document : Decoder Json := ⟨.document, some⟩

/-- Text. -/
def text : Decoder String where
  shape := .text
  view
    | .string s => some s
    | _ => none

/-- A truth value. -/
def truth : Decoder Bool where
  shape := .truth
  view
    | .bool b => some b
    | _ => none

/-- An integer. -/
def integer (signed : Bool) (bits : Nat) (ofInt : Int → α) : Decoder α where
  shape := .integer signed bits
  view
    | .number (.integer n) => some (ofInt n)
    | _ => none

/-- A signed 32-bit integer. -/
def int32 : Decoder Int32 := integer true 32 Int32.ofInt

/-- A signed 64-bit integer. -/
def int64 : Decoder Int64 := integer true 64 Int64.ofInt

/-- An unsigned 16-bit integer. -/
def uint16 : Decoder UInt16 := integer false 16 fun n ↦ .ofNat n.toNat

/-- An unsigned 32-bit integer. -/
def uint32 : Decoder UInt32 := integer false 32 fun n ↦ .ofNat n.toNat

/-- A point in time of a shape. -/
def time (leaf : Leaf) : Decoder Instant where
  shape := .leaf leaf
  view
    | .string s => (Instant.ofRelaxed s).toOption
    | _ => none

/-- A point in time. -/
def instant : Decoder Instant := time .instant

/-- A point in time to the second. -/
def seconds : Decoder Instant := time .seconds

/-- A list. -/
def list (item : Decoder α) : Decoder (List α) where
  shape := .list item.shape
  view
    | .array found => found.mapM item.view
    | _ => none

/-- A dictionary; the last of repeated members counts. -/
def dict (item : Decoder α) : Decoder (Dict α) where
  shape := .dict item.shape
  view
    | .object found => (found.mapM fun entry ↦ (item.view entry.2).map (entry.1, ·)).map Dict.ofList
    | _ => none

/-- One of several names. -/
def variant (table : List (String × α)) : Decoder α where
  shape := .word (table.map Prod.fst)
  view
    | .string name => table.lookup name
    | _ => none

/-- A value, for which `null` may stand if it is the blank one. -/
def orBlank (d : Decoder α) : Decoder α := ⟨.orBlank d.shape, d.view⟩

/-- A value that something is made of. -/
def map (f : α → β) (d : Decoder α) : Decoder β := ⟨d.shape, fun j ↦ (d.view j).map f⟩

end Decoder

/-- Decoders of some members of a record together. -/
structure Fields (α : Type) where
  fields : List (Slot Shape)
  view : Members → Option α

namespace Fields

variable {α : Type}

instance : Applicative Fields where
  pure a := ⟨[], fun _ ↦ some a⟩
  seq f a := ⟨f.fields ++ (a ()).fields, fun found ↦ do return (← f.view found) (← (a ()).view found)⟩

/-- A member that has to be there. -/
def required (name : String) (d : Decoder α) : Fields α where
  fields := [.required name d.shape]
  view found := (found.lookup name).bind d.view

/-- A member that has a value even where it is absent or `null`. -/
def filled (name : String) (d : Decoder α) : Fields α where
  fields := [.filled name d.shape]
  view found := (found.lookup name).bind d.view

/-- A member with a value that stands for it where it is absent. -/
def defaulted (name : String) (value : α) (d : Decoder α) : Fields α where
  fields := [.defaulted name d.shape]
  view found :=
    match found.lookup name with
    | some j => d.view j
    | none => some value

/-- The value of a member, if there is one. -/
def viewOptional (name : String) (d : Decoder α) (found : Members) : Option (Option α) :=
  match found.lookup name with
  | some j => (d.view j).map some
  | none => some none

/-- A member that may be absent or `null`. -/
def optional (name : String) (d : Decoder α) : Fields (Option α) where
  fields := [.optional name d.shape]
  view := viewOptional name d

/-- A member that may be `null`, but not absent from a list of members. -/
def nullable (name : String) (d : Decoder α) : Fields (Option α) where
  fields := [⟨name, .refusedInList, .orNull d.shape⟩]
  view := viewOptional name d

/-- The members of which nothing is read, as they are. -/
def carried (fields : List (Slot Shape)) : Fields Members where
  fields := fields
  view found := some (found.filter fun (name, _) ↦ Shape.isKnown fields name)

/-- Members that say nothing new. -/
def known (fields : List (Slot Shape)) : Fields Unit := ⟨fields, fun _ ↦ some ()⟩

/-- A record of the members. -/
def record (style : Style) (kind : String) (fs : Fields α) : Decoder α where
  shape := .record style kind fs.fields
  view
    | .object found => fs.view found
    | _ => none

/-- A strict record of the members. -/
def strict (kind : String) (fs : Fields α) : Decoder α := fs.record .strict kind

/-- A lenient record of the members. -/
def lenient (kind : String) (fs : Fields α) : Decoder α := fs.record .lenient kind

end Fields

/-- A record that says in the member `tag` which of several it is. -/
def Decoder.tagged {α : Type} (kind tag : String) (variants : List (String × Decoder α)) : Decoder α where
  shape := .tagged kind tag (variants.map fun (name, d) ↦ (name, d.shape))
  view
    | .object ((_, .string name) :: found) => (variants.lookup name).bind (·.view (.object found))
    | _ => none

end GaleraOperator.Json
