import SitePresets.Numeral.Integer
import SitePresets.Yaml.Scalar

/-!
# YAML nodes

Block-styled YAML: lists and mappings of texts, whole numbers and missing values. A list stands at the
indentation of its mapping; an entry with an empty or very long key is marked.
-/

namespace SitePresets.Yaml

inductive Node where
  | missing
  | integer (z : Int)
  | text (s : String)
  | list (items : List Node)
  | mapping (entries : List (String × Node))

def lineWidth : Nat := 80

def longestKey : Nat := 122

/-- Whether a key stands without a mark. -/
def isShortKey (key : List Char) : Bool :=
  !key.isEmpty && !key.any isBreak && key.length ≤ longestKey

def writeText (indent column : Nat) (s : String) : List Char :=
  writeScalar { indent, width := some lineWidth } column (styleOf s.toList) s.toList

/-- A key without a mark, on one line. -/
def writeKey (key : List Char) : List Char :=
  writeScalar { indent := 0, width := none } 0 (styleOf key) key

def newLineAt (indent : Nat) : List Char :=
  '\n' :: List.replicate indent ' '

/-- Where a node stands: at the column of its indentation, or behind the key of an entry that has
some indentation and ends at a column. -/
inductive Spot where
  | start (indent : Nat)
  | behindKey (indent column : Nat)

namespace Spot

/-- What goes before a node on the same line. -/
def lead : Spot → List Char
  | start _ => []
  | behindKey _ _ => [' ']

def text : Spot → String → List Char
  | start indent, s => writeText indent indent s
  | behindKey indent column, s => ' ' :: writeText (indent + 2) (column + 1) s

def listIndent : Spot → Nat
  | start indent => indent
  | behindKey indent _ => indent

def entryIndent : Spot → Nat
  | start indent => indent
  | behindKey indent _ => indent + 2

/-- What goes before the first of several lines with some indentation. -/
def opening (indent : Nat) : Spot → List Char
  | start _ => []
  | behindKey _ _ => newLineAt indent

end Spot

/-- The key of an entry with its marks, and where its value stands. -/
def writeEntryKey (indent : Nat) (key : String) : List Char × Spot :=
  if isShortKey key.toList then
    let written := writeKey key.toList ++ [':']
    (written, .behindKey indent (indent + written.length))
  else
    ('?' :: ' ' :: (writeText (indent + 2) (indent + 2) key ++ newLineAt indent ++ [':', ' ']),
      .start (indent + 2))

namespace Node

mutual

def render (spot : Spot) : Node → List Char
  | missing => spot.lead ++ ['n', 'u', 'l', 'l']
  | integer z => spot.lead ++ (Numeral.Integer.text z).toList
  | text s => spot.text s
  | list [] => spot.lead ++ ['[', ']']
  | list (item :: rest) =>
    renderItems spot.listIndent (spot.opening spot.listIndent) (item :: rest)
  | mapping [] => spot.lead ++ ['\x7b', '\x7d']
  | mapping (entry :: rest) =>
    renderEntries spot.entryIndent (spot.opening spot.entryIndent) (entry :: rest)

/-- The items of a list, the first one after an opening. -/
def renderItems (indent : Nat) (opening : List Char) : List Node → List Char
  | [] => []
  | item :: rest =>
    opening ++ '-' :: ' ' :: (render (.start (indent + 2)) item
      ++ renderItems indent (newLineAt indent) rest)

/-- The entries of a mapping, the first one after an opening. -/
def renderEntries (indent : Nat) (opening : List Char) : List (String × Node) → List Char
  | [] => []
  | (key, value) :: rest =>
    let (written, spot) := writeEntryKey indent key
    opening ++ written ++ render spot value ++ renderEntries indent (newLineAt indent) rest

end

def toText (root : Node) : String :=
  String.ofList (root.render (.start 0) ++ ['\n'])

end Node

end SitePresets.Yaml
