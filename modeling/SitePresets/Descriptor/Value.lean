import SitePresets.Descriptor.Kind
import SitePresets.Numeral.Decimal
import SitePresets.Text.Blank
import SitePresets.Text.Split
import SitePresets.Value.Text

/-!
# Values of settings

The rules for the values of each family: cleaning, which rejects what is no value, equality of
meaning, and the form shown to people.
-/

namespace SitePresets

open Numeral

/-- What a declaration says about the values: numbers for text settings, and the choices. -/
structure ValueRule where
  family : Family
  numeric : Option String
  choices : Option (List (String × String))
  deriving Repr

namespace ValueRule

def isNumeric (rule : ValueRule) : Bool :=
  rule.numeric = some "int" || rule.numeric = some "float"

def isWhole (rule : ValueRule) : Bool :=
  rule.numeric = some "int"

/-- A number in its stored form: whole ones as plain digits, others without blanks around. -/
def cleanNumber (rule : ValueRule) (value : String) : Option String :=
  let trimmed := Text.trim value
  match Decimal.read? trimmed with
  | none => none
  | some x =>
    if rule.isWhole then x.whole?.map Integer.text
    else if x.isFinite then some trimmed
    else none

/-- The parts of a list of choices: between commas, without blanks around, and not empty. -/
def tokens (value : String) : List String :=
  (((Text.splitAt ',' value.toList).map (Text.trimBy Text.isBlank)).filter (· ≠ [])).map
    String.ofList

/-- Whether a text is one of the choices; without choices everything is. -/
def isChoice (rule : ValueRule) (value : String) : Bool :=
  match rule.choices with
  | none => true
  | some choices => choices.any fun choice => choice.1 = value

/-- The stored form of a text, if it is a value of the setting. -/
def cleanText (rule : ValueRule) (value : String) : Option String :=
  match rule.family with
  | .plain => some value
  | .text | .lines | .secret => if rule.isNumeric then rule.cleanNumber value else some value
  | .flag => some (Value.flagText (Value.textIsOn value))
  | .choice => if rule.isChoice value then some value else none
  | .choices =>
    let parts := tokens value
    if parts.all rule.isChoice then some (Text.joinBy "," parts) else none

def clean (rule : ValueRule) (value : Option String) : Option String :=
  value.bind rule.cleanText

end ValueRule

/-- Whether two stored texts differ, also as numbers if both are. -/
def textsDiffer : Option String → Option String → Bool
  | some a, some b =>
    a ≠ b && match Decimal.read? a, Decimal.read? b with
      | some x, some y => !x.same y
      | _, _ => true
  | a, b => a ≠ b

def unifyLineEnds (s : String) : List Char :=
  Text.replacePair '\r' '\n' ['\n'] s.toList

namespace ValueRule

/-- Whether a stored text means the same as a value of the setting. -/
def same (rule : ValueRule) (value other : Option String) : Bool :=
  match rule.family with
  | .plain | .choice => value = other
  | .text | .secret => if rule.isNumeric then !textsDiffer value other else value = other
  | .lines =>
    match value, other with
    | some a, some b => unifyLineEnds a = unifyLineEnds b
    | a, b => a = b
  | .flag =>
    match other with
    | some b => value = some (Value.flagText (Value.textIsOn b))
    | none => value = none
  | .choices =>
    match value, other with
    | some a, some b => (tokens a).isPerm (tokens b)
    | a, b => a = b

/-- The label of a choice; a text that is none stands for itself. -/
def labelOf (rule : ValueRule) (value : String) : String :=
  (Table.find? value (rule.choices.getD [])).getD value

/-- The form shown to people, without the marks of facets. -/
def display (rule : ValueRule) (value : Option String) : String :=
  match rule.family with
  | .plain | .text | .lines => value.getD ""
  | .secret => if value.getD "" = "" then "" else "********"
  | .flag => if value = some "1" then "Yes" else "No"
  | .choice => (value.map rule.labelOf).getD ""
  | .choices => Text.joinBy ", " ((tokens (value.getD "")).map rule.labelOf)

end ValueRule

end SitePresets
