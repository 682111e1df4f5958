import SitePresets.Text.Case
import SitePresets.Text.Split

/-!
# Keys

Keys of the configuration: the name of a variable and the scope it belongs to, which is a plugin or
the site itself.
-/

namespace SitePresets

structure Key where
  scope : String
  name : String
  deriving DecidableEq, Repr, Inhabited

def siteScope : String := "none"

/-- A plugin: its type, and its name within the type. -/
structure Plugin where
  type : String
  name : String
  deriving DecidableEq, Repr, Inhabited

namespace Key

def separator : String := "@@"

def text (key : Key) : String :=
  key.name ++ separator ++ key.scope

def le (a b : Key) : Bool :=
  if a.scope = b.scope then a.name ≤ b.name else a.scope ≤ b.scope

def sort (keys : List Key) : List Key :=
  keys.mergeSort le

end Key

namespace Plugin

/-- The component name: type and name with an underscore between. -/
def text (plugin : Plugin) : String :=
  plugin.type ++ "_" ++ plugin.name

/-- The plugin that a scope names: its type ends at the first underscore. Without one the type is
empty. -/
def ofScope (scope : String) : Plugin :=
  match Text.cutFirst ['_'] scope.toList with
  | some (type, name) => ⟨String.ofList type, String.ofList name⟩
  | none => ⟨"", scope⟩

end Plugin

def secretWords : List String := ["password", "pass", "secret", "privatekey", "token"]

/-- Whether a variable holds a secret: its name contains a secret word, in any case. -/
def isSecretName (name : String) : Bool :=
  let chars := Text.lowerChars name.toList
  secretWords.any fun word => Text.holds word.toList chars

end SitePresets
