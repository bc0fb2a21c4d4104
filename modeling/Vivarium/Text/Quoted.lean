import Vivarium.Text.Printable

/-!
# Quoted text

A text between quotes, on one line and with a visible form for every
character. The quotes are single ones, unless the text holds single quotes
and no double ones.
-/

namespace Vivarium.Text

def quoteFor (text : String) : Char :=
  if text.contains '\'' && !text.contains '"' then '"' else '\''

def hexDigits : (width : Nat) → Nat → List Char
  | 0, _ => []
  | width + 1, value =>
    hexDigits width (value / 16) ++ [Nat.digitChar (value % 16)]

def escape (quote char : Char) : List Char :=
  if char == quote || char == '\\' then ['\\', char]
  else if char == '\t' then ['\\', 't']
  else if char == '\n' then ['\\', 'n']
  else if char == '\r' then ['\\', 'r']
  else if isPrintable char then [char]
  else
    let value := char.toNat
    if value < 0x100 then '\\' :: 'x' :: hexDigits 2 value
    else if value < 0x10000 then '\\' :: 'u' :: hexDigits 4 value
    else '\\' :: 'U' :: hexDigits 8 value

def quoted (text : String) : String :=
  let quote := quoteFor text
  String.ofList (quote :: text.toList.flatMap (escape quote) ++ [quote])

end Vivarium.Text
