import Treewalk.Text.Unprintable

/-!
# Quoted text

Diagnostics put text between double quotes. The quote and the backslash are marked by a backslash,
four controls have a letter of their own, and every other character without a glyph is given by its
code point in hexadecimal.
-/

namespace Treewalk.Text

/-- A character by its code point in hexadecimal. -/
def byCodePoint (character : Char) : String :=
  "\\u\x7b" ++ String.ofList (Nat.toDigits 16 character.toNat) ++ "\x7d"

/-- How a character is written between quotes. -/
def quoteChar (character : Char) : String :=
  match character with
  | '"' => "\\\""
  | '\\' => "\\\\"
  | '\n' => "\\n"
  | '\r' => "\\r"
  | '\t' => "\\t"
  | '\x00' => "\\0"
  | other => if isUnprintable other then byCodePoint other else other.toString

/-- Text between double quotes. -/
def quoted (text : String) : String :=
  "\"" ++ String.join (text.toList.map quoteChar) ++ "\""

end Treewalk.Text
