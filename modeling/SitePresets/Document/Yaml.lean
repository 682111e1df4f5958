import SitePresets.Document
import SitePresets.Yaml.Node

/-!
# Preset documents as YAML

Preset documents as YAML.
-/

namespace SitePresets

namespace Document

def optionalText : Option String → Yaml.Node
  | some s => .text s
  | none => .missing

def itemNode (item : Item) : Yaml.Node :=
  .mapping [
    ("scope", .text item.key.scope),
    ("name", .text item.key.name),
    ("value", optionalText item.value),
    ("attributes", .mapping (item.attributes.map fun (name, value) => (name, optionalText value)))]

def pluginNode (row : Plugin × Int) : Yaml.Node :=
  .mapping [
    ("plugin_type", .text row.1.type),
    ("name", .text row.1.name),
    ("enabled", .integer row.2)]

def toYamlNode (document : Document) : Yaml.Node :=
  .mapping [
    ("name", .text document.name),
    ("comments", optionalText document.comments),
    ("author", optionalText document.author),
    ("site", optionalText document.site),
    ("release", optionalText document.release),
    ("time_created", (document.timeCreated.map Yaml.Node.integer).getD .missing),
    ("items", .list (document.items.map itemNode)),
    ("plugins", .list (document.plugins.map pluginNode))]

def toYaml (document : Document) : String :=
  document.toYamlNode.toText

end Document

end SitePresets
