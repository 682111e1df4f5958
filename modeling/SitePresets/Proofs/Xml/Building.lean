import SitePresets.Proofs.Xml.Rendering

/-!
# Building elements

What the events of plain elements build: an open element takes its characters up to its first child, and
an element that is closed goes to the one around it.
-/

namespace SitePresets.Xml

/-! ### Open elements -/

namespace OpenElement

/-- The element that a start tag without name spaces opens. -/
def plain (tag : String) (attributes : List (String × String)) : OpenElement :=
  { name := tag, tag, attributes, scope := NameScope.initial }

theorem declaredBy?_eq_none {name : String} (h : isName name.toList = true) (hne : name ≠ "xmlns") :
    NameScope.declaredBy? name = none := by
  rw [NameScope.declaredBy?, if_neg hne, NameScope.split_of_isName h]

theorem extend_eq_self (scope : NameScope) {attributes : List (String × String)}
    (h : PlainAttributes attributes) : scope.extend attributes = some scope := by
  have hnone : ∀ row ∈ attributes, NameScope.declaredBy? row.1 = none :=
    fun row hrow => declaredBy?_eq_none (h.name row hrow) (h.ne_xmlns row hrow)
  clear h
  unfold NameScope.extend
  induction attributes with
  | nil => rfl
  | cons row others ih =>
    have hrow := hnone row List.mem_cons_self
    have hothers := ih fun row hmem => hnone row (List.mem_cons_of_mem _ hmem)
    simpa [hrow] using hothers

theorem resolve_eq_self (scope : NameScope) {attributes : List (String × String)}
    (h : PlainAttributes attributes) : scope.resolve attributes = some attributes := by
  have hkept : attributes.filter (fun row => (NameScope.declaredBy? row.1).isNone) = attributes := by
    rw [List.filter_eq_self]
    intro row hrow
    rw [declaredBy?_eq_none (h.name row hrow) (h.ne_xmlns row hrow)]
    rfl
  have hnames : attributes.mapM (fun row => (scope.attributeOf row.1).map (·, row.2)) =
      some attributes := by
    have hname := h.name
    clear h hkept
    induction attributes with
    | nil => rfl
    | cons row others ih =>
      have hrow : scope.attributeOf row.1 = some row.1 := by
        rw [NameScope.attributeOf, NameScope.split_of_isName (hname row List.mem_cons_self)]
      rw [List.mapM_cons, hrow, ih fun row hmem => hname row (List.mem_cons_of_mem _ hmem)]
      rfl
  unfold NameScope.resolve
  simp [h.nodup, hkept, hnames]

theorem ofStart_of_plain {tag : String} (htag : isName tag.toList = true)
    {attributes : List (String × String)} (h : PlainAttributes attributes) :
    ofStart NameScope.initial tag attributes = some (plain tag attributes) := by
  have hname : NameScope.initial.tagOf tag = some tag := by
    rw [NameScope.tagOf, NameScope.split_of_isName htag]
    rfl
  simp [ofStart, extend_eq_self NameScope.initial h, hname, resolve_eq_self NameScope.initial h,
    plain]

/-- An open element after some characters. -/
def addText (frame : OpenElement) (chars : List Char) : OpenElement :=
  chars.foldl addChar frame

theorem addText_same (frame : OpenElement) (chars : List Char) :
    (frame.addText chars).scope = frame.scope ∧ (frame.addText chars).name = frame.name := by
  unfold addText
  induction chars generalizing frame with
  | nil => exact ⟨rfl, rfl⟩
  | cons c rest ih =>
    obtain ⟨hscope, hname⟩ := ih (frame.addChar c)
    rw [List.foldl_cons, hscope, hname, addChar]
    split <;> exact ⟨rfl, rfl⟩

theorem addText_of_children {frame : OpenElement} (h : frame.children ≠ []) (chars : List Char) :
    frame.addText chars = frame := by
  have hchar (c : Char) : frame.addChar c = frame := by
    simp [addChar, h]
  unfold addText
  induction chars with
  | nil => rfl
  | cons c rest ih => rw [List.foldl_cons, hchar, ih]

theorem addText_of_nil {frame : OpenElement} (h : frame.children = []) (chars : List Char) :
    frame.addText chars = { frame with text := chars.reverse ++ frame.text } := by
  unfold addText
  induction chars generalizing frame with
  | nil => rfl
  | cons c rest ih =>
    have hchar : frame.addChar c = { frame with text := c :: frame.text } := by
      simp [addChar, h]
    have hrest := @ih { frame with text := c :: frame.text } h
    rw [List.foldl_cons, hchar, hrest, List.reverse_cons, List.append_assoc, List.singleton_append]

end OpenElement

/-! ### Indented elements -/

mutual

/-- An element at some level of indentation, with the texts that it is read with. -/
def Element.indent (level : Nat) : Element → Element
  | ⟨tag, attributes, text, []⟩ => ⟨tag, attributes, text, []⟩
  | ⟨tag, attributes, _, child :: rest⟩ =>
    ⟨tag, attributes, String.ofList (newLine (level + 1)),
      Element.indentAll (level + 1) (child :: rest)⟩

def Element.indentAll (level : Nat) : List Element → List Element
  | [] => []
  | child :: rest => child.indent level :: Element.indentAll level rest

end

theorem Element.indentAll_eq_map (level : Nat) (elements : List Element) :
    Element.indentAll level elements = elements.map (Element.indent level) := by
  induction elements with
  | nil => rw [Element.indentAll, List.map_nil]
  | cons element rest ih => rw [Element.indentAll, ih, List.map_cons]

namespace OpenElement

/-- An open element after some children, each on a line of its own. -/
def addChildren (level : Nat) (frame : OpenElement) (children : List Element) : OpenElement :=
  children.foldl (fun frame child => (frame.addText (newLine level)).addChild (child.indent level))
    frame

theorem name_addChildren (level : Nat) (frame : OpenElement) (children : List Element) :
    (frame.addChildren level children).name = frame.name := by
  unfold addChildren
  induction children generalizing frame with
  | nil => rfl
  | cons child rest ih =>
    rw [List.foldl_cons, ih]
    exact (addText_same frame (newLine level)).2

theorem addChildren_of_children (level : Nat) {frame : OpenElement} (h : frame.children ≠ [])
    (children : List Element) :
    frame.addChildren level children =
      { frame with
        children := (children.map (Element.indent level)).reverse ++ frame.children } := by
  unfold addChildren
  induction children generalizing frame with
  | nil => rfl
  | cons child rest ih =>
    rw [List.foldl_cons, addText_of_children h, ih (by simp [addChild])]
    simp [addChild]

/-- A branch closes with the indentation before its first child as its text. -/
theorem close_branch (level : Nat) (tag : String) (attributes : List (String × String))
    (text : String) (child : Element) (rest : List Element) :
    (((plain tag attributes).addChildren (level + 1) (child :: rest)).addText (newLine level)).close =
      Element.indent level ⟨tag, attributes, text, child :: rest⟩ := by
  have hfirst : (plain tag attributes).addText (newLine (level + 1)) =
      { plain tag attributes with text := (newLine (level + 1)).reverse } := by
    rw [addText_of_nil rfl]
    simp [plain]
  have hchildren : (plain tag attributes).addChildren (level + 1) (child :: rest) =
      { plain tag attributes with
        text := (newLine (level + 1)).reverse
        children := ((child :: rest).map (Element.indent (level + 1))).reverse } := by
    rw [addChildren, List.foldl_cons, hfirst, ← addChildren,
      addChildren_of_children (level + 1) (by simp [addChild])]
    simp [addChild, plain]
  rw [hchildren, addText_of_children (by simp), Element.indent, Element.indentAll_eq_map]
  simp [close, plain]

/-- A leaf closes with its text. -/
theorem close_leaf (level : Nat) (tag : String) (attributes : List (String × String))
    (text : String) :
    ((plain tag attributes).addText text.toList).close =
      Element.indent level ⟨tag, attributes, text, []⟩ := by
  rw [addText_of_nil rfl, Element.indent]
  simp [close, plain]

end OpenElement

/-! ### Builders -/

/-- How far a document is built: the root, once it is closed, and the open elements, innermost first. -/
structure Builder where
  root : Option Element
  opened : List OpenElement

namespace Builder

def build (builder : Builder) (events : List Event) : Option Element :=
  Element.build builder.root builder.opened events

def enter (builder : Builder) (frame : OpenElement) : Builder :=
  { builder with opened := frame :: builder.opened }

/-- An element goes to the innermost open one; the first of all is the root. -/
def add (builder : Builder) (element : Element) : Builder :=
  match builder.opened with
  | [] => ⟨some element, []⟩
  | outer :: others => ⟨builder.root, outer.addChild element :: others⟩

/-- Whether an element may come next, with no name space declared around it. -/
def IsReady (builder : Builder) : Prop :=
  match builder.opened with
  | [] => builder.root = none
  | outer :: _ => outer.scope = NameScope.initial

theorem add_enter (builder : Builder) (frame : OpenElement) (element : Element) :
    (builder.enter frame).add element = builder.enter (frame.addChild element) := rfl

theorem build_start {builder : Builder} (hready : builder.IsReady) {tag : String}
    (htag : isName tag.toList = true) {attributes : List (String × String)}
    (h : PlainAttributes attributes) (rest : List Event) :
    builder.build (.start tag attributes :: rest) =
      (builder.enter (.plain tag attributes)).build rest := by
  obtain ⟨root, opened⟩ := builder
  cases opened with
  | nil =>
    have hroot : root = none := hready
    simp [build, enter, Element.build, hroot, OpenElement.ofStart_of_plain htag h]
  | cons outer others =>
    have hscope : outer.scope = NameScope.initial := hready
    simp [build, enter, Element.build, hscope, OpenElement.ofStart_of_plain htag h]

theorem build_stop (builder : Builder) (frame : OpenElement) (rest : List Event) :
    (builder.enter frame).build (.stop frame.name :: rest) =
      (builder.add frame.close).build rest := by
  obtain ⟨root, opened⟩ := builder
  cases opened <;> simp [build, enter, add, Element.build]

theorem build_char (builder : Builder) (frame : OpenElement) (c : Char) (isData : Bool)
    (rest : List Event) :
    (builder.enter frame).build (.char c isData :: rest) =
      (builder.enter (frame.addChar c)).build rest := by
  simp [build, enter, Element.build]

end Builder

end SitePresets.Xml
