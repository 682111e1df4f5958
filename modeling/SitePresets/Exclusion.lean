import SitePresets.Key
import SitePresets.Text.Blank

/-!
# Exclusion lists

Lists of settings that are neither exported nor applied: keys as texts, between commas. What is no
key is passed over.
-/

namespace SitePresets.Exclusion

open Text

/-- The key that one entry names: exactly one separator, with something on both sides. -/
def ofEntry? (entry : List Char) : Option Key := do
  let mark := Key.separator.toList
  let (name, scope) ← cutFirst mark (trimBy isBlank entry)
  let name := trimBy isBlank name
  let scope := trimBy isBlank scope
  if name = [] ∨ scope = [] ∨ holds mark scope then none
  else some ⟨String.ofList scope, String.ofList name⟩

/-- The keys of a list in order, each once. -/
def parse (raw : String) : List Key :=
  ((splitAt ',' raw.toList).filterMap ofEntry?).eraseDups

end SitePresets.Exclusion
