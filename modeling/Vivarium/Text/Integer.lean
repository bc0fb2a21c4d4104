import Vivarium.Text.Numeral

/-!
# Written integers

An integer is written with decimal digits of any script, with at most one `_`
between two of them, after an optional sign, and with blanks around the
whole.
-/

namespace Vivarium.Text

/-- The most digits that a written integer may have. -/
def maxDigits : Nat := 4300

/-- The digits of a numeral: one or more, with at most one `_` between two. -/
def digits? : List Char → Option (List Nat)
  | [] => none
  | [char] => (digitValue? char).map ([·])
  | char :: '_' :: rest => do
    let digit ← digitValue? char
    let following ← digits? rest
    return digit :: following
  | char :: next :: rest => do
    let digit ← digitValue? char
    let following ← digits? (next :: rest)
    return digit :: following

/-- The value of a list of decimal digits, the highest one first. -/
def valueOfDigits (digits : List Nat) : Nat :=
  digits.foldl (fun value digit => 10 * value + digit) 0

def natural? (chars : List Char) : Option Nat := do
  let digits ← digits? chars
  if digits.length ≤ maxDigits then some (valueOfDigits digits) else none

def trimBlanks (chars : List Char) : List Char :=
  ((chars.dropWhile isBlank).reverse.dropWhile isBlank).reverse

def integer? (text : String) : Option Int :=
  match trimBlanks text.toList with
  | '-' :: rest => (natural? rest).map fun value => -(value : Int)
  | '+' :: rest => (natural? rest).map fun value => (value : Int)
  | rest => (natural? rest).map fun value => (value : Int)

end Vivarium.Text
