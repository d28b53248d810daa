import Chip8.Text.Hex
import Chip8.Text.Unseen

/-!
# Text between quotes

A character or a text is shown between quotes so that it can be read off unambiguously: the quote
itself and the backslash follow a backslash, the common controls have letters, and a character
without a shape of its own is shown by its number.
-/

namespace Chip8.Text

/-- A character between quotes of the kind `quote`. -/
def escape (quote c : Char) : String :=
  if c = Char.ofNat 0 then "\\0"
  else if c = '\t' then "\\t"
  else if c = '\r' then "\\r"
  else if c = '\n' then "\\n"
  else if c = '\\' ∨ c = quote then "\\" ++ String.singleton c
  else if isUnseen c then "\\u\x7b" ++ hex 1 c.toNat ++ "\x7d"
  else String.singleton c

/-- The quote around a single character. -/
def singleQuote : Char := Char.ofNat 39

/-- The quote around a text. -/
def doubleQuote : Char := Char.ofNat 34

/-- A character between single quotes. -/
def quotedChar (c : Char) : String :=
  String.singleton singleQuote ++ escape singleQuote c ++ String.singleton singleQuote

/-- A text between double quotes. -/
def quoted (text : String) : String :=
  String.singleton doubleQuote ++ String.join (text.toList.map (escape doubleQuote)) ++
    String.singleton doubleQuote

end Chip8.Text
