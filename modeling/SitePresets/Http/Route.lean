import SitePresets.Text.Split

/-!
# Routes

Routes: which endpoint a method and a path lead to. Routes are tried in order; a segment of a path
that stands for a number takes any text here.
-/

namespace SitePresets.Http

open Text

inductive Endpoint where
  | health
  | ready
  | listPresets
  | exportPreset
  | importPreset
  | exclusions
  | siteTree
  | rollback
  | purge
  | preset
  | updatePreset
  | deletePreset
  | download
  | presetTree
  | preview
  | apply
  | applications
  deriving DecidableEq, Repr

inductive Segment where
  | word (text : String)
  | parameter
  deriving DecidableEq, Repr

structure Route where
  method : String
  path : List Segment
  endpoint : Endpoint
  deriving Repr

namespace Route

def presetsPath (rest : List Segment) : List Segment :=
  [.word "api", .word "presets"] ++ rest

def all : List Route := [
  ⟨"GET", [.word "api", .word "status", .word "health"], .health⟩,
  ⟨"GET", [.word "api", .word "status", .word "ready"], .ready⟩,
  ⟨"GET", presetsPath [], .listPresets⟩,
  ⟨"POST", presetsPath [], .exportPreset⟩,
  ⟨"POST", presetsPath [.word "import"], .importPreset⟩,
  ⟨"GET", presetsPath [.word "exclusions"], .exclusions⟩,
  ⟨"GET", presetsPath [.word "site", .word "tree"], .siteTree⟩,
  ⟨"POST", presetsPath [.word "applications", .parameter, .word "rollback"], .rollback⟩,
  ⟨"DELETE", presetsPath [.word "applications", .parameter], .purge⟩,
  ⟨"GET", presetsPath [.parameter], .preset⟩,
  ⟨"PATCH", presetsPath [.parameter], .updatePreset⟩,
  ⟨"DELETE", presetsPath [.parameter], .deletePreset⟩,
  ⟨"GET", presetsPath [.parameter, .word "download"], .download⟩,
  ⟨"GET", presetsPath [.parameter, .word "tree"], .presetTree⟩,
  ⟨"POST", presetsPath [.parameter, .word "preview"], .preview⟩,
  ⟨"POST", presetsPath [.parameter, .word "apply"], .apply⟩,
  ⟨"GET", presetsPath [.parameter, .word "applications"], .applications⟩]

/-- The parameters of a path that a list of segments matches. -/
def parameters? : List Segment → List String → Option (List String)
  | [], [] => some []
  | .word word :: segments, part :: parts =>
    if part = word then parameters? segments parts else none
  | .parameter :: segments, part :: parts =>
    if part = "" then none else (parameters? segments parts).map (part :: ·)
  | _, _ => none

/-- The parts of a path between its slashes; `none` without a slash at the start. -/
def partsOf (path : String) : Option (List String) :=
  match path.toList with
  | '/' :: rest => some ((splitAt '/' rest).map String.ofList)
  | _ => none

inductive Target where
  | endpoint (endpoint : Endpoint) (parameter : String)
  /-- There is a route for the path, but not with the method. -/
  | wrongMethod
  /-- There is a route for the path without the slashes at its end. -/
  | redirect
  | missing
  deriving DecidableEq, Repr

def matching (path : String) : List (Route × String) :=
  match partsOf path with
  | none => []
  | some parts => all.filterMap fun route =>
    (parameters? route.path parts).map fun parameters => (route, parameters.headD "")

def dropSlashes (path : String) : String :=
  String.ofList (path.toList.reverse.dropWhile (· = '/')).reverse

def resolve (method path : String) : Target :=
  let found := matching path
  match found.find? fun row => row.1.method = method with
  | some (route, parameter) => .endpoint route.endpoint parameter
  | none =>
    if ¬ found.isEmpty then .wrongMethod
    else if path.endsWith "/" ∧ ¬ (matching (dropSlashes path)).isEmpty then .redirect
    else .missing

end Route

end SitePresets.Http
