import SitePresets.Xml.Token

/-!
# XML declarations

The tokens of declarations in a document type, and the shapes of the declarations that matter: those
of entities and of attributes. The others are only checked.
-/

namespace SitePresets.Xml

inductive DeclToken where
  | name (name : String)
  | qualified (name : String)
  | nmtoken (text : String)
  /-- A name with a sign of repetition after it. -/
  | repeated (name : String)
  | keyword (name : String)
  | literal (text : List Char)
  | opening
  | closing (repetition : Option Char)
  | comma
  | bar
  | percent
  deriving DecidableEq, Repr

namespace DeclToken

def isRepetition (c : Char) : Bool :=
  c = '?' || c = '*' || c = '+'

/-- Whether what follows a token is a blank or one of some signs. -/
def followed (signs : List Char) (rest : List Char) : Bool :=
  match rest with
  | [] => false
  | c :: _ => isSpace c || c ∈ signs

def ofWord (word : List Char) : Option DeclToken :=
  match takeQualified word with
  | some (_, []) => some (if ':' ∈ word then qualified (String.ofList word)
      else name (String.ofList word))
  | _ => if (word.filter (· = ':')).length ≤ 1 then some (nmtoken (String.ofList word)) else none

def take (chars : List Char) : Option (DeclToken × List Char) :=
  match chars with
  | [] => none
  | '(' :: rest => some (opening, rest)
  | ')' :: rest =>
    match rest with
    | [] => none
    | c :: tail =>
      if isRepetition c then some (closing (some c), tail)
      else if followed ['>', ',', '|', ')'] rest then some (closing none, rest)
      else none
  | ',' :: rest => some (comma, rest)
  | '|' :: rest => some (bar, rest)
  | '%' :: rest => if followed [] rest then some (percent, rest) else none
  | '#' :: rest => do
    let (word, rest) ← takeName rest
    if followed [')', '>', '%', '|'] rest then some (keyword (String.ofList word), rest) else none
  | c :: rest =>
    if c = '"' ∨ c = '\'' then
      match rest.dropWhile (· ≠ c) with
      | _ :: tail =>
        if followed ['>', '%', '['] tail then some (literal (rest.takeWhile (· ≠ c)), tail)
        else none
      | [] => none
    else
      let word := chars.takeWhile fun c => isNameChar c || c = ':'
      let rest := chars.drop word.length
      if word = [] then none
      else do
        let token ← ofWord word
        match token, rest with
        | name text, sign :: tail =>
          if isRepetition sign then some (repeated text, tail)
          else if followed ['>', ')', ',', '|', '[', '%'] rest then some (token, rest) else none
        | qualified text, sign :: tail =>
          if isRepetition sign then some (repeated text, tail)
          else if followed ['>', ')', ',', '|', '[', '%'] rest then some (token, rest) else none
        | _, _ => if followed ['>', ')', ',', '|', '[', '%'] rest then some (token, rest) else none

def takeAll : Nat → List Char → Option (List DeclToken × List Char)
  | 0, _ => none
  | bound + 1, chars =>
    match skipSpaces chars with
    | '>' :: rest => some ([], rest)
    | chars => do
      let (token, rest) ← take chars
      let (tokens, rest) ← takeAll bound rest
      return (token :: tokens, rest)

def asName : DeclToken → Option String
  | name n | qualified n => some n
  | _ => none

/-- Whether the tokens are a group of children. `opened` has the connector of each open group,
innermost first; `ready` says that an item comes next. -/
def isGroup (opened : List (Option DeclToken)) (ready : Bool) : List DeclToken → Bool
  | [] => opened.isEmpty && !ready
  | token :: rest =>
    match token, ready, opened with
    | opening, true, _ => isGroup (none :: opened) true rest
    | name _, true, _ :: _ | qualified _, true, _ :: _ | repeated _, true, _ :: _ =>
      isGroup opened false rest
    | closing _, false, _ :: outer => isGroup outer false rest
    | comma, false, connector :: outer =>
      (connector = none || connector = some comma) && isGroup (some comma :: outer) true rest
    | bar, false, connector :: outer =>
      (connector = none || connector = some bar) && isGroup (some bar :: outer) true rest
    | _, _, _ => false

/-- Whether the tokens are the end of a group of text and elements. -/
def isMixed : List DeclToken → Bool
  | [closing none] | [closing (some '*')] => true
  | rest => isAlternatives rest
where
  isAlternatives : List DeclToken → Bool
    | [closing (some '*')] => true
    | bar :: name _ :: rest | bar :: qualified _ :: rest => isAlternatives rest
    | _ => false

/-- Whether the tokens are the content of an element declaration. -/
def isContentModel : List DeclToken → Bool
  | [name word] => word = "EMPTY" || word = "ANY"
  | opening :: keyword word :: rest => word = "PCDATA" && isMixed rest
  | opening :: rest => isGroup [none] true rest
  | _ => false

def isPublicChar (c : Char) : Bool :=
  c.isAlphanum || c ∈ [' ', '\n', '\r', '-', '\'', '(', ')', '+', ',', '.', '/', ':', '=', '?', ';',
    '!', '*', '#', '@', '$', '_', '%']

/-- Reads the identifiers of something external, and gives what follows. -/
def takeExternal : List DeclToken → Option (List DeclToken)
  | name "SYSTEM" :: literal _ :: rest => some rest
  | name "PUBLIC" :: literal identifier :: literal _ :: rest =>
    if identifier.all isPublicChar then some rest else none
  | _ => none

/-- Whether the tokens are the external identifiers of a notation. -/
def isNotation : List DeclToken → Bool
  | [name "PUBLIC", literal identifier] => identifier.all isPublicChar
  | tokens => takeExternal tokens = some []

def valueTypes : List String :=
  ["CDATA", "ID", "IDREF", "IDREFS", "ENTITY", "ENTITIES", "NMTOKEN", "NMTOKENS"]

/-- Skips the items of an enumerated type after its opening. -/
def skipEnumeration (isItem : DeclToken → Bool) : List DeclToken → Option (List DeclToken)
  | item :: closing none :: rest => if isItem item then some rest else none
  | item :: bar :: rest => if isItem item then skipEnumeration isItem rest else none
  | _ => none

/-- Reads the type of an attribute, and whether it is plain character data. -/
def takeType : List DeclToken → Option (Bool × List DeclToken)
  | name "NOTATION" :: opening :: rest =>
    (skipEnumeration (fun item => item matches .name _) rest).map fun rest => (false, rest)
  | name type :: rest =>
    if type ∈ valueTypes then some (type = "CDATA", rest) else none
  | opening :: rest =>
    (skipEnumeration (fun item => item matches .name _ | .qualified _ | .nmtoken _) rest).map
      fun rest => (false, rest)
  | _ => none

def takeDefault : List DeclToken → Option (Option (List Char) × List DeclToken)
  | keyword "REQUIRED" :: rest | keyword "IMPLIED" :: rest => some (none, rest)
  | keyword "FIXED" :: literal text :: rest => some (some text, rest)
  | literal text :: rest => some (some text, rest)
  | _ => none

end DeclToken

structure AttributeRule where
  name : String
  isPlain : Bool
  default : Option (List Char)
  deriving Repr

def readRules : Nat → List DeclToken → Option (List AttributeRule)
  | _, [] => some []
  | 0, _ => none
  | bound + 1, token :: rest => do
    let name ← token.asName
    let (isPlain, rest) ← DeclToken.takeType rest
    let (default, rest) ← DeclToken.takeDefault rest
    let rules ← readRules bound rest
    return { name, isPlain, default } :: rules

/-- What an entity stands for: a text of the document, or something outside. -/
inductive EntityValue where
  | internal (text : List Char)
  | external
  deriving DecidableEq, Repr

inductive Declared where
  | entity (name : String) (value : EntityValue)
  /-- An entity for use within declarations. -/
  | parameter (value : EntityValue)
  | attributes (element : String) (rules : List AttributeRule)
  | other
  deriving Repr

def readEntityValue (mayHaveData : Bool) : List DeclToken → Option EntityValue
  | [.literal text] => some (.internal text)
  | tokens => do
    match ← DeclToken.takeExternal tokens with
    | [] => some .external
    | [.name "NDATA", .name _] => if mayHaveData then some .external else none
    | _ => none

def readDeclared (keyword : List Char) (tokens : List DeclToken) : Option Declared :=
  match String.ofList keyword, tokens with
  | "ENTITY", .percent :: .name _ :: rest => (readEntityValue false rest).map .parameter
  | "ENTITY", .name name :: rest => (readEntityValue true rest).map (.entity name)
  | "ATTLIST", element :: rest => do
    let element ← element.asName
    let rules ← readRules (rest.length + 1) rest
    return .attributes element rules
  | "ELEMENT", element :: rest => do
    let _ ← element.asName
    if DeclToken.isContentModel rest then some .other else none
  | "NOTATION", .name _ :: rest => if DeclToken.isNotation rest then some .other else none
  | _, _ => none

end SitePresets.Xml
