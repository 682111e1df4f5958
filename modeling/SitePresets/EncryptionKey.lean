import SitePresets.Text.Base64

/-!
# The encryption key

Where the key for secrets comes from: the environment, or the key file, or it is made anew and saved.
-/

namespace SitePresets

namespace EncryptionKey

def size : Nat := 32

def isValid (key : String) : Bool :=
  Text.Base64.decodedLength? key.toUTF8.toList = some size

inductive Source where
  | environment
  | file
  | generated
  deriving DecidableEq, Repr

/-- The first source that has a valid key; a new key can always be made. -/
def source (environment file : Option String) : Source :=
  if environment.any isValid then .environment
  else if file.any isValid then .file
  else .generated

/-- The key of the first source that has a valid one, or else a newly made one. -/
def key (environment file : Option String) (fresh : String) : String :=
  ((environment.filter isValid).or (file.filter isValid)).getD fresh

/-- What the key file holds afterwards: a new key is saved. -/
def saved (environment file : Option String) (fresh : String) : Option String :=
  if source environment file = .generated then some fresh else file

/-- Asked again, with what was saved, one gets the same key. -/
theorem key_saved (environment file : Option String) (fresh other : String)
    (h : isValid fresh = true) :
    key environment (saved environment file fresh) other = key environment file fresh := by
  cases environment <;> cases file <;>
    simp only [key, saved, source, Option.any_none, Option.any_some, Option.filter_none,
      Option.filter_some, Option.none_or, Bool.false_eq_true] <;>
    grind

end EncryptionKey

end SitePresets
