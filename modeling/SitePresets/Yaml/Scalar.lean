import SitePresets.Text.Literal
import SitePresets.Yaml.Implicit

/-!
# YAML scalars

Texts as YAML scalars. A text stands plain if it can, else in single quotes, else in double quotes
with escapes. A line that grows too wide is broken at a single space, or in double quotes with a
backslash.
-/

namespace SitePresets.Yaml

open Text

def isBreak (c : Char) : Bool :=
  c = '\n' || c = '\x85' || c = '\u2028' || c = '\u2029'

/-- What ends a word: blanks, breaks, and the null character. -/
def endsWord (c : Char) : Bool :=
  isBreak c || c = ' ' || c = '\t' || c = '\r' || c = '\x00'

/-- Characters that may stand without an escape. -/
def isPrintable (c : Char) : Bool :=
  let n := c.toNat
  c = '\n' || (0x20 ≤ n && n ≤ 0x7E) || n = 0x85 || (0xA0 ≤ n && n ≤ 0xD7FF)
    || (0xE000 ≤ n && n ≤ 0xFFFD && n ≠ 0xFEFF) || (0x10000 ≤ n && n < 0x10FFFF)

/-- Characters that mean something at the start of a text. -/
def leadingMarks : List Char :=
  ['#', ',', '[', ']', '\x7b', '\x7d', '&', '*', '!', '|', '>', '\'', '"', '%', '@', '\x60']

def startsWithMark : List Char → Bool
  | [] => false
  | c :: rest =>
    ['-', '-', '-'].isPrefixOf (c :: rest) || ['.', '.', '.'].isPrefixOf (c :: rest)
      || leadingMarks.contains c
      || ((c = '?' || c = ':' || c = '-') && rest.head?.all endsWord)

/-- Whether there is a mark behind the first character: a colon at the end of a word, or a number
sign at its start. -/
def hasInnerMark : List Char → Bool
  | previous :: c :: rest =>
    (c = ':' && rest.head?.all endsWord) || (c = '#' && endsWord previous)
      || hasInnerMark (c :: rest)
  | _ => false

/-- Whether somewhere a character of one class is followed by one of another. -/
def hasPair (first second : Char → Bool) : List Char → Bool
  | c :: d :: rest => (first c && second d) || hasPair first second (d :: rest)
  | _ => false

def isSpace (c : Char) : Bool := c = ' '

def allowsSingle (chars : List Char) : Bool :=
  !hasPair isBreak isSpace chars && !hasPair isSpace isBreak chars && chars.all isPrintable

/-- Whether a text may stand without quotes. -/
def allowsPlain (chars : List Char) : Bool :=
  allowsSingle chars && !chars.any isBreak
    && !chars.head?.any isSpace && !chars.getLast?.any isSpace
    && !startsWithMark chars && !hasInnerMark chars

inductive Style where
  | plain
  | single
  | double
  deriving DecidableEq, Repr

def styleOf (chars : List Char) : Style :=
  if !isImplicit chars && allowsPlain chars then .plain
  else if allowsSingle chars then .single
  else .double

/-- Where lines are broken: the indentation of the next line, and the column behind which a line is
too wide. Without a width no line is broken. -/
structure Fold where
  indent : Nat
  width : Option Nat

namespace Fold

def isFull (fold : Fold) (column : Nat) : Bool :=
  fold.width.any (· < column)

def margin (fold : Fold) : List Char :=
  List.replicate fold.indent ' '

def newLine (fold : Fold) : List Char :=
  '\n' :: fold.margin

end Fold

/-- The characters of a plain or single-quoted text. A line is broken in place of a space that stands
alone between two characters; a break of the text is written twice, unless it follows another. -/
def foldBody (fold : Fold) (write : Char → List Char) (previous : Option Char) (column : Nat) :
    List Char → List Char
  | [] => []
  | c :: rest =>
    if isBreak c then
      (if c = '\n' && !previous.any isBreak then ['\n'] else []) ++ c ::
        (if rest.head?.any isBreak then foldBody fold write (some c) 0 rest
        else fold.margin ++ foldBody fold write (some c) fold.indent rest)
    else if c = ' ' && previous.any (· ≠ ' ') && rest.head?.any (· ≠ ' ') && fold.isFull column then
      fold.newLine ++ foldBody fold write (some c) fold.indent rest
    else write c ++ foldBody fold write (some c) (column + (write c).length) rest

def doubleQuote (c : Char) : List Char :=
  if c = '\'' then ['\'', '\''] else [c]

def upperDigits (width n : Nat) : List Char :=
  (Literal.hexDigits width n).map Char.toUpper

def shortEscapes : List (Char × Char) := [
  ('\x00', '0'), ('\x07', 'a'), ('\x08', 'b'), ('\t', 't'), ('\n', 'n'), ('\x0b', 'v'), ('\x0c', 'f'),
  ('\r', 'r'), ('\x1b', 'e'), ('"', '"'), ('\\', '\\'), ('\x85', 'N'), ('\u2028', 'L'),
  ('\u2029', 'P')]

/-- The escape of a character in double quotes, if it needs one. -/
def escape? (c : Char) : Option (List Char) :=
  let n := c.toNat
  match shortEscapes.lookup c with
  | some mark => some ['\\', mark]
  | none =>
    if (0x20 ≤ n ∧ n ≤ 0x7E) ∨ (0xA0 ≤ n ∧ n ≤ 0xD7FF) ∨ (0xE000 ≤ n ∧ n ≤ 0xFFFD ∧ n ≠ 0xFEFF) then
      none
    else if n ≤ 0xFF then some ('\\' :: 'x' :: upperDigits 2 n)
    else if n ≤ 0xFFFF then some ('\\' :: 'u' :: upperDigits 4 n)
    else some ('\\' :: 'U' :: upperDigits 8 n)

/-- A broken line in double quotes; a space at the start of the next line needs a backslash. -/
def breakDouble (fold : Fold) (next : Option Char) : List Char × Nat :=
  if next = some ' ' then ('\\' :: (fold.newLine ++ ['\\']), fold.indent + 1)
  else ('\\' :: fold.newLine, fold.indent)

/-- The characters of a double-quoted text. Lines are broken behind an escape and in front of a space
or of a character that follows an escape, but not around the first or before the last one. -/
def doubleBody (fold : Fold) (first escaped : Bool) (column : Nat) : List Char → List Char
  | [] => []
  | c :: rest =>
    let inner := !first && !rest.isEmpty
    match escape? c with
    | some written =>
      let column := column + written.length
      if inner && fold.isFull (column - 1) then
        let (cut, column) := breakDouble fold rest.head?
        written ++ cut ++ doubleBody fold false true column rest
      else written ++ doubleBody fold false true column rest
    | none =>
      if inner && (c = ' ' || escaped) && fold.isFull column then
        let (cut, column) := breakDouble fold (some c)
        cut ++ c :: doubleBody fold false false (column + 1) rest
      else c :: doubleBody fold false false (column + 1) rest

def writeScalar (fold : Fold) (column : Nat) (style : Style) (chars : List Char) : List Char :=
  match style with
  | .plain => foldBody fold (fun c => [c]) none column chars
  | .single => '\'' :: (foldBody fold doubleQuote none (column + 1) chars ++ ['\''])
  | .double => '"' :: (doubleBody fold true false (column + 1) chars ++ ['"'])

end SitePresets.Yaml
