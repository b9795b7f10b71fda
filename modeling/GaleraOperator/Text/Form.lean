/-!
# Form encoding

The names and values of a query are sent in the encoding of HTML forms: letters, digits and `*-._` stand for
themselves, a space becomes a plus sign and every other byte of the UTF-8 text becomes `%XX`.
-/

namespace GaleraOperator.Text

/-- An upper-case hexadecimal digit. -/
def upperHexDigit (n : Nat) : Char := (Nat.digitChar n).toUpper

/-- How one byte is written in a form. -/
def formByte (b : UInt8) : List Char :=
  let c := Char.ofNat b.toNat
  if b = 0x20 then ['+']
  else if b < 0x80 && (c.isAlphanum || c = '*' || c = '-' || c = '.' || c = '_') then [c]
  else ['%', upperHexDigit (b.toNat / 16), upperHexDigit (b.toNat % 16)]

/-- A text in form encoding. -/
def formEncoded (s : String) : String :=
  String.ofList (s.toUTF8.toList.flatMap formByte)

/-- The query part of a request line: every pair follows an ampersand. -/
def formQuery (pairs : List (String × String)) : String :=
  "?" ++ String.join (pairs.map fun (name, value) ↦ "&" ++ formEncoded name ++ "=" ++ formEncoded value)

end GaleraOperator.Text
