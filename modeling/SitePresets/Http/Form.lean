import SitePresets.Http.Message
import SitePresets.Value.Field

/-!
# Forms of requests

What the endpoints read from requests. All that is wrong with a request is found at once: first in its
headers, then in its path and its query, and last in its body.
-/

namespace SitePresets.Http

abbrev Checked (α : Type) := Except (List RequestFault) α

namespace Checked

def both {α β : Type} : Checked α → Checked β → Checked (α × β)
  | .ok a, .ok b => .ok (a, b)
  | .ok _, .error faults => .error faults
  | .error faults, .ok _ => .error faults
  | .error first, .error second => .error (first ++ second)

def all {α : Type} : List (Checked α) → Checked (List α)
  | [] => .ok []
  | item :: rest => (both item (all rest)).map fun (item, rest) => item :: rest

/-- What is read from something that was found in some place of a request. -/
def placed {α : Type} (place : List String) (found : Value) (result : Except Value.Fault α) :
    Checked α :=
  result.mapError fun fault => [{ place, code := fault.code, found }]

end Checked

open Checked

def integerAt (place : List String) (text : String) : Checked Int :=
  Checked.placed place (.text text) (Value.integerOfText text)

/-- The user who makes the request. Nobody is number zero. -/
def userOf (request : Request) : Checked Int :=
  match request.header? "x-user-id" with
  | none => .ok 0
  | some text => integerAt ["header", "X-User-Id"] text

/-- A text with at least and at most so many characters. -/
def asBounded (least : Nat) (most : Option Nat) (value : Value) : Except Value.Fault String := do
  let text ← value.asText
  if text.length < least then throw .tooShort
  else if most.any (· < text.length) then throw .tooLong
  else return text

def asName : Value → Except Value.Fault String :=
  asBounded 1 (some 255)

def required {α : Type} (name : String) (read : Value → Except Value.Fault α) (body : Value) :
    Checked α :=
  Checked.placed ["body", name] ((body.field? name).getD body) (body.require name read)

def optional {α : Type} (name : String) (default : α) (read : Value → Except Value.Fault α)
    (body : Value) : Checked α :=
  Checked.placed ["body", name] ((body.field? name).getD .null) (body.fieldOr name default read)

def optionalText (name : String) : Value → Checked (Option String) :=
  optional name none (Value.asOptional Value.asText)

def optionalTexts (name : String) (body : Value) : Checked (Option (List String)) :=
  match body.field? name with
  | none | some .null => .ok none
  | some (.list items) =>
    (Checked.all (items.mapIdx fun index item =>
      Checked.placed ["body", name, Numeral.Integer.text index] item item.asText)).map some
  | some other => Checked.placed ["body", name] other (.error .noList)

def recordOf {α : Type} (read : Value → Checked α) : Value → Checked α
  | .record fields => read (.record fields)
  | other => Checked.placed ["body"] other (.error .noModel)

def bodyOf {α : Type} (read : Value → Checked α) : Option Value → Checked α
  | none => Checked.placed ["body"] .null (.error .missing)
  | some body => recordOf read body

def bodyOr {α : Type} (default : α) (read : Value → Checked α) : Option Value → Checked α
  | none => .ok default
  | some body => recordOf read body

structure ExportForm where
  name : String
  comments : Option String
  author : Option String
  settings : Option (List String)
  includeSensitive : Bool

def exportForm (body : Value) : Checked ExportForm :=
  (both (required "name" asName body)
    (both (optionalText "comments" body)
      (both (optionalText "author" body)
        (both (optionalTexts "settings" body)
          (optional "include_sensitive" false Value.asFlag body))))).map
    fun (name, comments, author, settings, includeSensitive) =>
      { name, comments, author, settings, includeSensitive }

def importForm (body : Value) : Checked (String × Option String) :=
  both (required "xml" (asBounded 1 none) body) (optionalText "name" body)

def updateForm (body : Value) : Checked (Option String × Option String) :=
  both (optional "name" none (Value.asOptional asName) body) (optionalText "comments" body)

/-- Whether to apply what is excluded too. -/
def applyForm : Value → Checked Bool :=
  optional "override_exclusions" false Value.asFlag

inductive Format where
  | xml
  | yaml
  deriving DecidableEq, Repr

def Format.text : Format → String
  | xml => "xml"
  | yaml => "yaml"

def Format.mediaType : Format → String
  | xml => "application/xml"
  | yaml => "application/x-yaml"

def formatOf (request : Request) : Checked Format :=
  match request.query? "format" with
  | none => .ok .xml
  | some "xml" => .ok .xml
  | some "yaml" => .ok .yaml
  | some other => Checked.placed ["query", "format"] (.text other) (.error .noMatch)

end SitePresets.Http
