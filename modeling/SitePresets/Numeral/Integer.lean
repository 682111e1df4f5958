import SitePresets.Text.Blank
import SitePresets.Text.Digit

/-!
# Numerals of whole numbers

Decimal numerals of whole numbers: how they are written, and the wider set of spellings that is read.
-/

namespace SitePresets.Numeral

def takeSign : List Char → Bool × List Char
  | '-' :: rest => (true, rest)
  | '+' :: rest => (false, rest)
  | chars => (false, chars)

/-- Removes the underscores between digits; `none` if one stands elsewhere. -/
def dropUnderscores (previous : Option Char) : List Char → Option (List Char)
  | [] => some []
  | '_' :: rest =>
    if previous.any Char.isDigit ∧ rest.head?.any Char.isDigit then
      dropUnderscores (some '_') rest
    else none
  | c :: rest => (dropUnderscores (some c) rest).map (c :: ·)

/-- The characters of a numeral in a text: white space at the ends is dropped, and the digits of
every script count. -/
def numeralChars (text : String) : Option (List Char) :=
  dropUnderscores none ((Text.trimBy Text.isWhite text.toList).map Text.plainDigit)

namespace Integer

def chars : Int → List Char
  | .ofNat n => Nat.toDigits 10 n
  | .negSucc n => '-' :: Nat.toDigits 10 (n + 1)

def text (z : Int) : String :=
  String.ofList (chars z)

def maxDigits : Nat := 4300

inductive Fault where
  | malformed
  | tooLong (digits : Nat)
  deriving DecidableEq, Repr

def signed (negative : Bool) (n : Nat) : Int :=
  if negative then -(n : Int) else n

def read (text : String) : Except Fault Int :=
  match numeralChars text with
  | none => .error .malformed
  | some chars =>
    let (negative, rest) := takeSign chars
    let digits := rest.takeWhile Char.isDigit
    if digits = [] then .error .malformed
    else if maxDigits < digits.length then .error (.tooLong digits.length)
    else if rest.length ≠ digits.length then .error .malformed
    else .ok (signed negative (Nat.ofDigitChars 10 digits 0))

def read? (text : String) : Option Int :=
  (read text).toOption

end Integer

end SitePresets.Numeral
