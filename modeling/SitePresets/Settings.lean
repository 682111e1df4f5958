import SitePresets.Declaration.Stock
import SitePresets.Numeral.Shortest

/-!
# Settings of the program

The settings of the program itself. Each comes from a variable of the environment, whose name counts
in any case, or else has a default.
-/

namespace SitePresets

open Numeral

structure Settings where
  appName : String
  appVersion : String
  debug : Bool
  host : String
  port : Int
  databaseUrl : String
  dataDir : String
  siteUrl : String
  release : String
  sensitiveSettings : String
  lockTimeout : Binary64
  seedDefaultPresets : Bool
  defaultPreset : String
  deriving Repr

namespace Settings

/-- The path without what makes no difference: repeated slashes, single dots, and a slash at the end.
Two slashes at the start stay. -/
def tidyPath (path : String) : String :=
  let chars := path.toList
  let slashes := (chars.takeWhile (· = '/')).length
  let root := if slashes = 2 then "//" else if slashes = 0 then "" else "/"
  let parts := ((Text.splitAt '/' chars).map String.ofList).filter fun part => part ≠ "" ∧ part ≠ "."
  if root = "" ∧ parts = [] then "." else root ++ Text.joinBy "/" parts

def hasDoubleUnderscore : List Char → Bool
  | '_' :: '_' :: _ => true
  | _ :: rest => hasDoubleUnderscore rest
  | [] => false

/-- The number that a text spells between white space. Single underscores inside are passed over. -/
def readReal? (text : String) : Option Binary64 :=
  let chars := text.toList
  let trimmed := Text.trimBy Text.isWhite chars
  match Decimal.readChars trimmed with
  | some x => some x
  | none =>
    if chars.head? = some '_' ∨ chars.getLast? = some '_' ∨ hasDoubleUnderscore chars then none
    else Decimal.readChars (Text.trimBy Text.isWhite (chars.filter (· ≠ '_')))

/-- A number that is not below zero. -/
def readTimeout? (text : String) : Option Binary64 :=
  (readReal? text).filter fun x =>
    match x with
    | .finite negative units => !negative || units = 0
    | .infinite negative => !negative
    | .nan => false

/-- The last variable with a name, in any case. -/
def find? (environment : List (String × String)) (name : String) : Option String :=
  (environment.reverse.find? fun row => Text.lower row.1 = name).map Prod.snd

def read {α : Type} (environment : List (String × String)) (name : String) (default : α)
    (reader : String → Option α) : Except String α :=
  match find? environment name with
  | none => .ok default
  | some text => match reader text with
    | some value => .ok value
    | none => .error name

def wrong (results : List (Except String Unit)) : List String :=
  results.filterMap fun
    | .error name => some name
    | .ok _ => none

/-- Reads the settings from the environment; else gives the names of all fields that are wrong. -/
def ofEnvironment (environment : List (String × String)) : Except (List String) Settings :=
  let text (name default : String) : String := (find? environment name).getD default
  let flag (name : String) (default : Bool) :=
    read environment name default fun s => (Value.flagOfText s).toOption
  let debug := flag "debug" false
  let port := read environment "port" 9595 fun s => (Value.integerOfText s).toOption
  let lockTimeout := read environment "lock_timeout_seconds"
    (Binary64.ofScientific false 5 0) readTimeout?
  let seeded := flag "seed_default_presets" true
  match debug, port, lockTimeout, seeded with
  | .ok debug, .ok port, .ok lockTimeout, .ok seedDefaultPresets => .ok {
      appName := text "app_name" "Presetarr"
      appVersion := text "app_version" "1.0.0"
      debug
      host := text "host" "0.0.0.0"
      port
      databaseUrl := text "database_url" "sqlite+aiosqlite:///./data/presetarr.db"
      dataDir := tidyPath (text "data_dir" "./data")
      siteUrl := text "site_url" "http://localhost"
      release := text "release" "4.0"
      sensitiveSettings := text "sensitive_settings" Stock.sensitiveSettings
      lockTimeout
      seedDefaultPresets
      defaultPreset := text "default_preset" "" }
  | _, _, _, _ => .error (wrong [
      debug.map fun _ => (), port.map fun _ => (), lockTimeout.map fun _ => (),
      seeded.map fun _ => ()])

end Settings

end SitePresets
