/-!
# Patterns

Patterns of texts: characters of a class, one after another, chosen between, and repeated. A text is
matched character by character, each leaving the pattern of what may follow.
-/

namespace SitePresets.Text

inductive Pattern where
  | never
  | done
  | one (member : Char → Bool)
  | either (a b : Pattern)
  | seq (a b : Pattern)
  | many (a : Pattern)

namespace Pattern

def allowsEnd : Pattern → Bool
  | never => false
  | done => true
  | one _ => false
  | either a b => a.allowsEnd || b.allowsEnd
  | seq a b => a.allowsEnd && b.allowsEnd
  | many _ => true

/-- A choice, without what never matches. -/
def join : Pattern → Pattern → Pattern
  | never, b => b
  | a, never => a
  | a, b => either a b

/-- A sequence, without what is done. -/
def chain : Pattern → Pattern → Pattern
  | never, _ => never
  | done, b => b
  | a, b => seq a b

/-- What may follow a first character. -/
def after (c : Char) : Pattern → Pattern
  | never => never
  | done => never
  | one member => if member c then done else never
  | either a b => join (a.after c) (b.after c)
  | seq a b =>
    if a.allowsEnd then join (chain (a.after c) b) (b.after c) else chain (a.after c) b
  | many a => chain (a.after c) (many a)

def accepts (pattern : Pattern) (chars : List Char) : Bool :=
  (chars.foldl (fun pattern c => pattern.after c) pattern).allowsEnd

def oneOf (members : String) : Pattern :=
  one fun c => members.toList.contains c

def digit : Pattern :=
  one fun c => '0' ≤ c && c ≤ '9'

def exactly (text : String) : Pattern :=
  text.toList.foldr (fun c rest => seq (one (· = c)) rest) done

def optional (a : Pattern) : Pattern :=
  either done a

def some (a : Pattern) : Pattern :=
  seq a (many a)

def sequence (parts : List Pattern) : Pattern :=
  parts.foldr seq done

def anyOf (choices : List Pattern) : Pattern :=
  choices.foldr either never

end Pattern

end SitePresets.Text
