/-!
# Splitting and joining

Cutting texts at separators and joining them again.
-/

namespace SitePresets.Text

/-- The parts between the occurrences of a character; one more part than occurrences. -/
def splitAt (mark : Char) : List Char → List (List Char)
  | [] => [[]]
  | c :: rest =>
    if c = mark then [] :: splitAt mark rest
    else match splitAt mark rest with
      | [] => [[c]]
      | part :: parts => (c :: part) :: parts

/-- What stands before and after the first occurrence of a separator. -/
def cutFirst (mark : List Char) : List Char → Option (List Char × List Char)
  | [] => if mark = [] then some ([], []) else none
  | c :: rest =>
    if mark.isPrefixOf (c :: rest) then some ([], (c :: rest).drop mark.length)
    else (cutFirst mark rest).map fun (before, after) => (c :: before, after)

def holds (mark text : List Char) : Bool :=
  (cutFirst mark text).isSome

/-- Puts a new character for every occurrence of an old one. -/
def replaceChar (old new : Char) (chars : List Char) : List Char :=
  chars.map fun c => if c = old then new else c

/-- Puts `new` for each pair of the characters `first` and `second`, from the left. -/
def replacePair (first second : Char) (new : List Char) : List Char → List Char
  | [] => []
  | [c] => [c]
  | c :: d :: rest =>
    if c = first ∧ d = second then new ++ replacePair first second new rest
    else c :: replacePair first second new (d :: rest)

/-- The texts one after another with a separator between them. -/
def joinBy (mark : String) : List String → String
  | [] => ""
  | [text] => text
  | text :: rest => text ++ mark ++ joinBy mark rest

@[simp]
theorem splitAt_nil (mark : Char) : splitAt mark [] = [[]] := rfl

theorem splitAt_ne_nil (mark : Char) (chars : List Char) : splitAt mark chars ≠ [] := by
  cases chars with
  | nil => simp
  | cons c rest =>
    unfold splitAt
    split
    · simp
    · split <;> simp

end SitePresets.Text
