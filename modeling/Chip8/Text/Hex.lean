/-!
# Hexadecimal text

Every address, word and byte that is shown to a person is written in lowercase hexadecimal:

* `hex width n` — with zeros in front up to `width` digits, and never cut;
* `hexPrefixed width n` — the same after `0x`.
-/

namespace Chip8.Text

/-- The lowercase hexadecimal digits of `n`, with zeros in front up to `width` digits. -/
def hex (width n : Nat) : String :=
  let digits := Nat.toDigits 16 n
  String.ofList (List.replicate (width - digits.length) '0' ++ digits)

/-- The digits of `hex` after the mark `0x`, which does not count towards the width. -/
def hexPrefixed (width n : Nat) : String :=
  "0x" ++ hex width n

end Chip8.Text
