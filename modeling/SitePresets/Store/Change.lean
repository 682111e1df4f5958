import SitePresets.Key
import SitePresets.Text.Literal

/-!
# Changes and refusals

What a store reports: the change that a write made, or why it refused.
-/

namespace SitePresets

structure Change where
  id : Nat
  key : Key
  old : Option String
  new : Option String
  deriving DecidableEq, Repr

inductive Refusal where
  /-- The stored text of a secret cannot be decrypted. -/
  | undecryptable (name : String)
  | notInstalled (plugin : Plugin)
  | readOnly
  | pinned
  | noSuchFacet (name : String)
  /-- A number does not fit the columns of the database. -/
  | numberTooLarge
  deriving DecidableEq, Repr

namespace Refusal

def message : Refusal → String
  | undecryptable name => "Failed to decrypt configuration value '" ++ name ++
      "'. This usually means the CONFIG_ENCRYPTION_KEY has changed."
  | notInstalled plugin => "Plugin " ++ plugin.text ++ " is not installed"
  | readOnly => "read-only option"
  | pinned => "plugin is locked"
  | noSuchFacet name => name
  | numberTooLarge => "Python int too large to convert to SQLite INTEGER"

/-- The message within a sentence; what could not be found stands in quotes. -/
def quoted (refusal : Refusal) : String :=
  match refusal with
  | notInstalled _ | noSuchFacet _ => Text.Literal.encode refusal.message
  | _ => refusal.message

end Refusal

/-- Whether a number fits a column of the database, which has 64 bits. -/
def fitsColumn (z : Int) : Bool :=
  -9223372036854775808 ≤ z && z < 9223372036854775808

end SitePresets
