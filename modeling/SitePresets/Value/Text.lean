import SitePresets.Value.Basic
import SitePresets.Numeral.Shortest
import SitePresets.Text.Blank
import SitePresets.Text.Literal
import SitePresets.Text.Split

/-!
# Texts of values

The texts of values: as stored in the configuration, as a flag, and as a literal.
-/

namespace SitePresets.Value

open Numeral

mutual

/-- A value as a literal: texts in quotes, lists in brackets, records in braces. -/
def literal : Value → String
  | null => "None"
  | flag b => if b then "True" else "False"
  | integer z => Integer.text z
  | real x => Shortest.text x
  | text s => Text.Literal.encode s
  | halfText => "''"
  | list items => "[" ++ Text.joinBy ", " (literals items) ++ "]"
  | record fields => "\x7b" ++ Text.joinBy ", " (fieldLiterals fields) ++ "\x7d"

def literals : List Value → List String
  | [] => []
  | item :: rest => literal item :: literals rest

def fieldLiterals : List (String × Value) → List String
  | [] => []
  | (name, item) :: rest => (Text.Literal.encode name ++ ": " ++ literal item) :: fieldLiterals rest

end

/-- The text that the configuration stores for a value: flags as digits, texts as they are, null as
nothing. -/
def configText? : Value → Option String
  | null => none
  | flag b => some (if b then "1" else "0")
  | text s => some s
  | value => some value.literal

def offSpellings : List String := ["", "0", "false", "no", "off"]

def textIsOn (s : String) : Bool :=
  Text.lower (Text.trim s) ∉ offSpellings

def isOn : Value → Bool
  | text s => textIsOn s
  | value => value.isSet

def flagText (b : Bool) : String :=
  if b then "1" else "0"

@[simp]
theorem textIsOn_flagText (b : Bool) : textIsOn (flagText b) = b := by
  cases b <;> decide +kernel

end SitePresets.Value
