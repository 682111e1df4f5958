import SitePresets.Key
import SitePresets.Value.Field

/-!
# Preset documents

Preset documents: named settings with values and attributes, and plugin states. A document is what
travels between sites; it has no number yet.
-/

namespace SitePresets

/-- A setting in a preset. Its attributes are facet variables with their stored texts. -/
structure Item where
  key : Key
  value : Option String
  attributes : List (String × Option String)
  deriving DecidableEq, Repr, Inhabited

structure Document where
  name : String
  comments : Option String := none
  author : Option String := none
  site : Option String := none
  release : Option String := none
  timeCreated : Option Int := none
  items : List Item := []
  plugins : List (Plugin × Int) := []
  deriving DecidableEq, Repr, Inhabited

namespace Item

def ofValue (value : Value) : Except Value.Fault Item := do
  let optional := Value.asOptional Value.asText
  let scope ← value.fieldOr "scope" siteScope Value.asText
  let name ← value.require "name" Value.asText
  return {
    key := ⟨scope, name⟩
    value := ← value.fieldOr "value" none optional
    attributes := ← value.fieldOr "attributes" [] (Value.asMap optional) }

def toValue (item : Item) : Value :=
  .record [
    ("scope", .text item.key.scope),
    ("name", .text item.key.name),
    ("value", .ofText? item.value),
    ("attributes", .ofPairs (item.attributes.map fun (name, text) => (name, .ofText? text)))]

end Item

namespace Document

def pluginOfValue (value : Value) : Except Value.Fault (Plugin × Int) := do
  let type ← value.require "plugin_type" Value.asText
  let name ← value.require "name" Value.asText
  let enabled ← value.require "enabled" Value.asInteger
  return (⟨type, name⟩, enabled)

def asModel {α : Type} (read : Value → Except Value.Fault α) : Value → Except Value.Fault α
  | .record fields => read (.record fields)
  | _ => .error .noModel

def ofValue (value : Value) : Except Value.Fault Document := do
  let optional := Value.asOptional Value.asText
  return {
    name := ← value.require "name" Value.asText
    comments := ← value.fieldOr "comments" none optional
    author := ← value.fieldOr "author" none optional
    site := ← value.fieldOr "site" none optional
    release := ← value.fieldOr "release" none optional
    timeCreated := ← value.fieldOr "time_created" none (Value.asOptional Value.asInteger)
    items := ← value.fieldOr "items" [] (Value.asList (asModel Item.ofValue))
    plugins := ← value.fieldOr "plugins" [] (Value.asList (asModel pluginOfValue)) }

def pluginToValue (row : Plugin × Int) : Value :=
  .record [
    ("plugin_type", .text row.1.type),
    ("name", .text row.1.name),
    ("enabled", .integer row.2)]

def toValue (document : Document) : Value :=
  .record [
    ("name", .text document.name),
    ("comments", .ofText? document.comments),
    ("author", .ofText? document.author),
    ("site", .ofText? document.site),
    ("release", .ofText? document.release),
    ("time_created", .ofInteger? document.timeCreated),
    ("items", .list (document.items.map Item.toValue)),
    ("plugins", .list (document.plugins.map pluginToValue))]

end Document

end SitePresets
