/-!
# Blanks and decimal digits

The characters that count as blank around a number, and the decimal digits of
all scripts, which come in runs of ten.
-/

namespace Vivarium.Text

/-- The blanks beyond the first 128 characters, as ranges. -/
private def wideBlanks : Array (Nat × Nat) :=
  #[(0x85, 0x85), (0xA0, 0xA0), (0x1680, 0x1680), (0x2000, 0x200A),
    (0x2028, 0x2029), (0x202F, 0x202F), (0x205F, 0x205F), (0x3000, 0x3000)]

/-- The zeros of the scripts beyond the first 128 characters; the other nine
digits follow each of them. -/
private def wideZeros : Array Nat :=
  #[0x660, 0x6F0, 0x7C0, 0x966, 0x9E6, 0xA66, 0xAE6, 0xB66,
   0xBE6, 0xC66, 0xCE6, 0xD66, 0xDE6, 0xE50, 0xED0, 0xF20,
   0x1040, 0x1090, 0x17E0, 0x1810, 0x1946, 0x19D0, 0x1A80, 0x1A90,
   0x1B50, 0x1BB0, 0x1C40, 0x1C50, 0xA620, 0xA8D0, 0xA900, 0xA9D0,
   0xA9F0, 0xAA50, 0xABF0, 0xFF10, 0x104A0, 0x10D30, 0x11066, 0x110F0,
   0x11136, 0x111D0, 0x112F0, 0x11450, 0x114D0, 0x11650, 0x116C0, 0x11730,
   0x118E0, 0x11950, 0x11C50, 0x11D50, 0x11DA0, 0x16A60, 0x16AC0, 0x16B50,
   0x1D7CE, 0x1D7D8, 0x1D7E2, 0x1D7EC, 0x1D7F6, 0x1E140, 0x1E2F0, 0x1E950,
   0x1FBF0]

/-- Whether a character may stand around a number: a blank, a tab or a line
break of any kind. -/
def isBlank (char : Char) : Bool :=
  let value := char.toNat
  value == 0x20 || (0x9 ≤ value && value ≤ 0xD) ||
    wideBlanks.any fun (first, last) => first ≤ value && value ≤ last

def digitValue? (char : Char) : Option Nat :=
  let value := char.toNat
  if 0x30 ≤ value && value ≤ 0x39 then some (value - 0x30)
  else
    (wideZeros.find? fun first => first ≤ value && value < first + 10).map
      fun first => value - first

end Vivarium.Text
