import GaleraOperator.Error
import GaleraOperator.Text.Digit
import GaleraOperator.Text.Integer
import GaleraOperator.Text.Search

/-!
# What a crashed pod writes

When all database pods lose each other at once, none of them can tell whether it has the latest data. Each writes a
banner with the number of its last transaction, and waits to be told to start a new cluster.
-/

namespace GaleraOperator.CrashLog

/-- The line at the top and at the bottom of the banner. -/
def border : List Char := List.replicate 128 '#' ++ ['\n']

/-- What the banner says. -/
def notice : List Char := "You have the situation of a full PXC cluster crash.".toList

/-- The number of lines of the banner. -/
def lineCount : Int := 7

/-- Whether a log is the banner: it begins and ends with the border, and says what the banner says. -/
def isBanner (log : String) : Bool :=
  let cs := log.toList
  border.isPrefixOf cs && border.isSuffixOf cs && Text.occursIn notice cs

/-- What stands before the number of the last transaction. -/
def seqnoMarker : List Char := "node with sequence number (seqno): ".toList

/-- The sign and the digits, of any script, that a text begins with. -/
def signedDigits? (cs : List Char) : Option (List Char) :=
  let (sign, rest) := match cs with
    | '-' :: rest => (['-'], rest)
    | rest => ([], rest)
  let digits := rest.takeWhile Text.isDecimalDigit
  if digits.isEmpty then none else some (sign ++ digits)

/-- What stands behind the marker, where a text begins with the marker and a number. -/
def seqnoHere? (cs : List Char) : Option (List Char) :=
  if seqnoMarker.isPrefixOf cs then signedDigits? (cs.drop seqnoMarker.length) else none

/-- What stands behind the first marker that is followed by a number. -/
def seqnoText? : List Char → Option (List Char)
  | [] => none
  | c :: cs => seqnoHere? (c :: cs) <|> seqnoText? cs

/-- The number of the last transaction of a pod. -/
def seqno (pod log : String) : Except Error Int :=
  match seqnoText? log.toList with
  | none => .error (.crashLog pod "no sequence number line")
  | some text =>
    match Text.readInteger Text.maxI64 text with
    | .ok n => .ok n
    | .error fault =>
      .error (.crashLog pod
        ("invalid sequence number " ++ Text.quoted (String.ofList text) ++ ": " ++ fault.message))

end GaleraOperator.CrashLog
