import SitePresets.Text.Case
import SitePresets.Text.UnprintableTable

/-!
# Literals of texts

Quoted literals of texts. Single quotes stand around the text, or double ones if it holds a single
quote and no double one; what has no visible form is written by its code point.
-/

namespace SitePresets.Text.Literal

def hexDigit (n : Nat) : Char :=
  Char.ofNat (if n < 10 then 48 + n else 87 + n)

/-- The last `width` hexadecimal digits of a number. -/
def hexDigits : Nat → Nat → List Char
  | 0, _ => []
  | width + 1, n => hexDigits width (n / 16) ++ [hexDigit (n % 16)]

def isUnprintable (c : Char) : Bool :=
  c.toNat < 32 || (126 < c.toNat && inRuns unprintableRuns c.toNat)

def byCode (n : Nat) : List Char :=
  if n < 0x100 then '\\' :: 'x' :: hexDigits 2 n
  else if n < 0x10000 then '\\' :: 'u' :: hexDigits 4 n
  else '\\' :: 'U' :: hexDigits 8 n

def encodeChar (mark c : Char) : List Char :=
  if c = '\\' ∨ c = mark then ['\\', c]
  else if c = '\n' then ['\\', 'n']
  else if c = '\r' then ['\\', 'r']
  else if c = '\t' then ['\\', 't']
  else if isUnprintable c then byCode c.toNat
  else [c]

def quoteOf (chars : List Char) : Char :=
  if '\'' ∈ chars ∧ '"' ∉ chars then '"' else '\''

def encode (text : String) : String :=
  let chars := text.toList
  let mark := quoteOf chars
  String.ofList (mark :: (chars.flatMap (encodeChar mark) ++ [mark]))

end SitePresets.Text.Literal
