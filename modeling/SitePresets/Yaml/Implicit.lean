import SitePresets.Text.Pattern

/-!
# Implicit YAML scalars

Texts that a reader of YAML takes for something else: flags, numbers, points in time, missing values
and marks. They have to stand in quotes.
-/

namespace SitePresets.Yaml

open Text Text.Pattern

namespace Implicit

def words (choices : List String) : Pattern :=
  anyOf (choices.map exactly)

def flag : Pattern :=
  words ["yes", "Yes", "YES", "no", "No", "NO", "true", "True", "TRUE", "false", "False", "FALSE",
    "on", "On", "ON", "off", "Off", "OFF"]

def missing : Pattern :=
  words ["", "~", "null", "Null", "NULL"]

/-- Marks for merging, for values, and for tags and references. -/
def mark : Pattern :=
  words ["<<", "=", "!", "&", "*"]

def sign : Pattern :=
  optional (oneOf "+-")

def digitsFrom (first : Pattern) : Pattern :=
  seq first (many (oneOf "0123456789_"))

def sixties : Pattern :=
  some (sequence [exactly ":", optional (oneOf "012345"), digit])

def integer : Pattern :=
  seq sign (anyOf [
    seq (exactly "0b") (some (oneOf "01_")),
    seq (exactly "0") (some (oneOf "01234567_")),
    exactly "0",
    digitsFrom (oneOf "123456789"),
    seq (exactly "0x") (some (oneOf "0123456789abcdefABCDEF_")),
    seq (digitsFrom (oneOf "123456789")) sixties])

def exponent : Pattern :=
  optional (sequence [oneOf "eE", oneOf "+-", some digit])

def real : Pattern :=
  anyOf [
    sequence [sign, digitsFrom digit, exactly ".", many (oneOf "0123456789_"), exponent],
    sequence [exactly ".", digitsFrom digit, exponent],
    sequence [sign, digitsFrom digit, sixties, exactly ".", many (oneOf "0123456789_")],
    sequence [sign, exactly ".", words ["inf", "Inf", "INF"]],
    sequence [exactly ".", words ["nan", "NaN", "NAN"]]]

def date : Pattern :=
  sequence [digit, digit, digit, digit, exactly "-", digit, digit, exactly "-", digit, digit]

def shortNumber : Pattern :=
  seq digit (optional digit)

def blank : Pattern :=
  oneOf " \t"

def zone : Pattern :=
  seq (many blank) (either (exactly "Z")
    (sequence [oneOf "+-", shortNumber, optional (sequence [exactly ":", digit, digit])]))

def moment : Pattern :=
  sequence [digit, digit, digit, digit, exactly "-", shortNumber, exactly "-", shortNumber,
    either (oneOf "Tt") (some blank),
    shortNumber, exactly ":", digit, digit, exactly ":", digit, digit,
    optional (seq (exactly ".") (many digit)), optional zone]

end Implicit

/-- Whether a text without quotes would be read as something else. -/
def isImplicit (chars : List Char) : Bool :=
  [Implicit.flag, Implicit.missing, Implicit.mark, Implicit.integer, Implicit.real, Implicit.date,
    Implicit.moment].any fun pattern =>
    pattern.accepts chars

end SitePresets.Yaml
