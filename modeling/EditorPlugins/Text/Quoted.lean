import EditorPlugins.Octets
import EditorPlugins.Text.Digit
import EditorPlugins.Text.Printable

/-! # Quoted literals

A literal stands between single quotes, or between double quotes when the text holds single quotes
and no double ones. The backslash and the quote in use are escaped, as are the characters that are
not printable; octets are written in the same way with everything outside ASCII escaped.
-/

namespace EditorPlugins.Text

/-- The quote that needs the fewest escapes; the single one where both would do. -/
def literalQuote (cs : List Char) : Char :=
  if cs.contains '\'' && !cs.contains '"' then '"' else '\''

/-- The escapes that have a letter of their own. -/
def letterEscape? (quote c : Char) : Option (List Char) :=
  if c = quote || c = '\\' then some ['\\', c]
  else if c = '\n' then some ['\\', 'n']
  else if c = '\r' then some ['\\', 'r']
  else if c = '\t' then some ['\\', 't']
  else none

/-- The escape of a character by its number, as short as the number allows. -/
def numberEscape (n : Nat) : List Char :=
  if n < 0x100 then '\\' :: 'x' :: hexDigits 2 n
  else if n < 0x10000 then '\\' :: 'u' :: hexDigits 4 n
  else '\\' :: 'U' :: hexDigits 8 n

/-- A character as it stands in a literal with the given quote. -/
def literalChar (quote c : Char) : List Char :=
  match letterEscape? quote c with
  | some escape => escape
  | none => if isPrintable c then [c] else numberEscape c.toNat

def literal (s : String) : String :=
  let quote := literalQuote s.toList
  String.ofList (quote :: s.toList.flatMap (literalChar quote) ++ [quote])

/-- An octet as it stands in a literal with the given quote. -/
def literalOctet (quote : Char) (b : UInt8) : List Char :=
  let c := Char.ofNat b.toNat
  match letterEscape? quote c with
  | some escape => escape
  | none => if 0x20 ≤ b.toNat && b.toNat < 0x7F then [c] else numberEscape b.toNat

def literalOctets (octets : Octets) : String :=
  let quote := literalQuote (octets.map fun b => Char.ofNat b.toNat)
  String.ofList ('b' :: quote :: octets.flatMap (literalOctet quote) ++ [quote])

end EditorPlugins.Text
