import SitePresets.Numeral.Binary64
import SitePresets.Numeral.Integer

/-!
# Decimal numerals

Decimal numerals with a point and an exponent, the names of infinity and of what is no number, and
the double precision number that each stands for.
-/

namespace SitePresets.Numeral.Decimal

/-- The exponent after its letter; `none` if it is not a signed run of digits. -/
def readExponent : List Char → Option Int
  | [] => some 0
  | c :: rest =>
    if c = 'e' ∨ c = 'E' then
      let (negative, digits) := takeSign rest
      if digits ≠ [] ∧ digits.all Char.isDigit then
        some (Integer.signed negative (Nat.ofDigitChars 10 digits 0))
      else none
    else none

/-- Reads an unsigned numeral: digits on at least one side of an optional point, then an optional
exponent. -/
def readUnsigned (negative : Bool) (chars : List Char) : Option Binary64 :=
  let whole := chars.takeWhile Char.isDigit
  let rest := chars.dropWhile Char.isDigit
  let (fraction, rest) := match rest with
    | '.' :: tail => (tail.takeWhile Char.isDigit, tail.dropWhile Char.isDigit)
    | _ => ([], rest)
  if whole = [] ∧ fraction = [] then none
  else (readExponent rest).map fun exponent =>
    Binary64.ofScientific negative (Nat.ofDigitChars 10 (whole ++ fraction) 0)
      (exponent - fraction.length)

/-- Reads a numeral without blanks or underscores. -/
def readChars (chars : List Char) : Option Binary64 :=
  let (negative, rest) := takeSign chars
  let name := rest.map Char.toLower
  if name = ['i', 'n', 'f'] ∨ name = ['i', 'n', 'f', 'i', 'n', 'i', 't', 'y'] then
    some (.infinite negative)
  else if name = ['n', 'a', 'n'] then some .nan
  else readUnsigned negative rest

def read? (text : String) : Option Binary64 :=
  (numeralChars text).bind readChars

end SitePresets.Numeral.Decimal
