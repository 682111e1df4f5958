import SitePresets.Store.Change
import SitePresets.Value.Text

/-!
# Errors

The ways in which an operation fails as a whole, with their texts. What happens to a single setting
is no failure: it is reported.
-/

namespace SitePresets

inductive PresetFault where
  | notXml
  | unexpectedRoot (tag : String)
  | noName
  | nothingSelected
  | nothingKnown
  deriving DecidableEq, Repr

inductive Error where
  /-- The lock of a target was not free in time. -/
  | lockTimeout (target : String) (timeout : Int)
  | presetNotFound (id : Int)
  | applicationNotFound (id : Int)
  | invalidPreset (fault : PresetFault)
  /-- A record lacks a field, or has one of the wrong type. -/
  | invalidModel
  /-- A row with the same key is there already. -/
  | duplicate
  /-- A text that should be a whole number is none. -/
  | noInteger (text : String)
  | integerTooLong (digits : Nat)
  /-- A number that should be whole is infinite or no number. -/
  | infinite
  | notANumber
  /-- A name has a brace that is never closed. -/
  | unclosedBrace
  /-- A text is not the code of an error. -/
  | unknownCode (text : String)
  | refused (refusal : Refusal)
  deriving DecidableEq, Repr

/-- Why something failed, and what it has left. -/
structure Failure (ε σ : Type) where
  cause : ε
  left : σ

/-- A result that leaves everything as it is if it fails. -/
def leaving {ε σ α : Type} (left : σ) (result : Except ε α) : Except (Failure ε σ) α :=
  result.mapError (⟨·, left⟩)

@[simp]
theorem leaving_ok {ε σ α : Type} (left : σ) (a : α) :
    leaving left (.ok a : Except ε α) = .ok a := rfl

@[simp]
theorem leaving_error {ε σ α : Type} (left : σ) (cause : ε) :
    leaving left (.error cause : Except ε α) = .error { cause, left } := rfl

@[simp]
theorem leaving_eq_ok {ε σ α : Type} {left : σ} {result : Except ε α} {a : α} :
    leaving left result = .ok a ↔ result = .ok a := by
  cases result <;> simp

theorem left_of_leaving {ε σ α : Type} {left : σ} {result : Except ε α} {failure : Failure ε σ}
    (h : leaving left result = .error failure) : failure.left = left := by
  cases result with
  | ok a => cases h
  | error e =>
    obtain rfl := Except.error.inj h
    rfl

namespace PresetFault

def message : PresetFault → String
  | notXml => "Preset file is not valid XML"
  | unexpectedRoot tag => "Unexpected root element <" ++ tag ++ ">, expected <PRESET>"
  | noName => "Preset file has no name"
  | nothingSelected => "No settings were selected for the preset"
  | nothingKnown => "The preset file contains no settings known to this site"

end PresetFault

inductive ErrorCode where
  | presetNotFound
  | applicationNotFound
  | validation
  | invalidPreset
  | lockTimeout
  | internal
  deriving DecidableEq, Repr

namespace ErrorCode

def all : List ErrorCode :=
  [presetNotFound, applicationNotFound, validation, invalidPreset, lockTimeout, internal]

def text : ErrorCode → String
  | presetNotFound => "PRESET_NOT_FOUND"
  | applicationNotFound => "APPLICATION_NOT_FOUND"
  | validation => "VALIDATION_ERROR"
  | invalidPreset => "INVALID_PRESET"
  | lockTimeout => "LOCK_TIMEOUT"
  | internal => "INTERNAL_ERROR"

def status : ErrorCode → Int
  | presetNotFound | applicationNotFound => 404
  | validation | invalidPreset => 400
  | lockTimeout => 409
  | internal => 500

def ofText? (s : String) : Option ErrorCode :=
  all.find? fun code => code.text = s

end ErrorCode

namespace Error

/-- The first two hundred characters of a literal. -/
def shortLiteral (text : String) : String :=
  String.ofList ((Text.Literal.encode text).toList.take 200)

def message : Error → String
  | lockTimeout target _ => "Another operation holds '" ++ target ++ "', try again later"
  | presetNotFound id => "Preset " ++ Numeral.Integer.text id ++ " not found"
  | applicationNotFound id => "Application " ++ Numeral.Integer.text id ++ " not found"
  | invalidPreset fault => fault.message
  | invalidModel => ""
  | duplicate => ""
  | noInteger text => "invalid literal for int() with base 10: " ++ shortLiteral text
  | integerTooLong digits =>
    "Exceeds the limit (4300 digits) for integer string conversion: value has "
      ++ Numeral.Integer.text digits
      ++ " digits; use sys.set_int_max_str_digits() to increase the limit"
  | infinite => "cannot convert float infinity to integer"
  | notANumber => "cannot convert float NaN to integer"
  | unclosedBrace => "not enough values to unpack (expected 2, got 1)"
  | unknownCode text => Text.Literal.encode text ++ " is not a valid ErrorCode"
  | refused refusal => refusal.message

def details : Error → Option (List (String × Value))
  | lockTimeout target timeout => some [("target", .text target), ("timeout", .integer timeout)]
  | presetNotFound id => some [("preset_id", .integer id)]
  | applicationNotFound id => some [("application_id", .integer id)]
  | _ => none

/-- The code of an error that users are told about; the others are internal. -/
def code? : Error → Option ErrorCode
  | lockTimeout .. => some .lockTimeout
  | presetNotFound _ => some .presetNotFound
  | applicationNotFound _ => some .applicationNotFound
  | invalidPreset _ => some .invalidPreset
  | _ => none

/-- The body of an answer about an error. Empty details are left out. -/
def response (code : ErrorCode) (message : String) (details : Option (List (String × Value))) :
    Value :=
  .record ([("code", .text code.text), ("message", .text message)] ++
    match details with
    | none | some [] => []
    | some fields => [("details", .record fields)])

/-- The text about an error that users are not told about. -/
def failure (context : String) : String :=
  "Failed " ++ context ++ ". Please check logs for details."

end Error

end SitePresets
