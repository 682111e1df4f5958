import SitePresets.Error

/-!
# Whole numbers of values

Any value as a whole number.
-/

namespace SitePresets.Value

open Numeral

def wholeOfText (s : String) : Except Error Int :=
  (Integer.read s).mapError fun
    | .malformed => .noInteger s
    | .tooLong digits => .integerTooLong digits

/-- A whole number: of a flag zero or one, of a number what stands before its point, of a text the
numeral that it is. -/
def toWhole : Value → Except Error Int
  | integer z => .ok z
  | flag b => .ok (if b then 1 else 0)
  | real x =>
    match x with
    | .nan => .error .notANumber
    | x => match x.truncate? with
      | some z => .ok z
      | none => .error .infinite
  | text s => wholeOfText s
  | _ => .error .invalidModel

end SitePresets.Value
