import GaleraOperator.Error
import GaleraOperator.Json.Basic
import GaleraOperator.Text.Form

/-!
# Requests

Requests of the cluster's interface. A target is written as it stands: what may not stand in one makes the request
impossible, and so does too great a length; a question mark begins the query, and a number sign ends the target.
-/

namespace GaleraOperator.Http

/-- What a request is for. -/
inductive Method where
  | get
  | put
  | post
  | delete
  deriving DecidableEq, Repr

/-- How a method is written. -/
def Method.text : Method → String
  | .get => "GET"
  | .put => "PUT"
  | .post => "POST"
  | .delete => "DELETE"

/-- A request. -/
structure Request where
  method : Method
  target : String
  body : Option Json
  deriving DecidableEq, Repr

namespace Target

/-- A character that may stand in the path of a target. -/
def isPathChar (c : Char) : Bool :=
  let n := c.toNat
  n = 0x21 || n = 0x22 || (0x24 ≤ n && n ≤ 0x3B) || n = 0x3D || (0x40 ≤ n && n ≤ 0x5F) || (0x61 ≤ n && n ≠ 0x7F)

/-- A character that may stand in the query of a target. -/
def isQueryChar (c : Char) : Bool :=
  let n := c.toNat
  n = 0x21 || (0x24 ≤ n && n ≤ 0x3B) || n = 0x3D || (0x3F ≤ n && n ≠ 0x7F)

/-- The query of a target up to a number sign. -/
def readQuery : List Char → Except RequestFault (List Char)
  | [] | '#' :: _ => .ok []
  | c :: cs => if isQueryChar c then (readQuery cs).map (c :: ·) else .error .invalidUri

/-- A target up to a number sign. -/
def read : List Char → Except RequestFault (List Char)
  | [] | '#' :: _ => .ok []
  | '?' :: cs => (readQuery cs).map ('?' :: ·)
  | c :: cs => if isPathChar c then (read cs).map (c :: ·) else .error .invalidUri

/-- The greatest number of octets in a target. -/
def maxOctets : Nat := 65534

/-- The path of a target. -/
def path (target : String) : String := String.ofList (target.toList.takeWhile (· ≠ '?'))

end Target

/-- A request with the given target. -/
def Request.build (method : Method) (target : String) (body : Option Json) : Except RequestFault Request :=
  if Target.maxOctets < target.utf8ByteSize then .error .longUri
  else (Target.read target.toList).map fun cs ↦ ⟨method, String.ofList cs, body⟩

/-- The target of an object, or of a part of it. -/
def Target.object (collection name rest : String) : String := collection ++ "/" ++ name ++ rest

/-- A request about an object, which has to have a name. -/
def Request.named (method : Method) (collection name rest : String) (body : Option Json) :
    Except RequestFault Request :=
  if name.isEmpty then .error .emptyName else Request.build method (Target.object collection name rest) body

end GaleraOperator.Http
