import SitePresets.Proofs.Xml.Building
import SitePresets.Proofs.Xml.Reading

/-!
# Elements read back

A written element is read back with its line ends unified. Only the text of an element that has children
differs: it is the indentation of the first child.
-/

namespace SitePresets.Xml

/-! ### Completing a document -/

/-- Some content completes a document, after what a builder has of it. No closing bracket comes before
the first tag of the content, so that a text may stand before it. -/
def Completes (inner : String → Nat → Option (List Event × Nat)) (chars : List Char)
    (builder : Builder) (root : Element) : Prop :=
  '>' ∉ leadingText chars ∧
    ∃ tokens events, (∀ bound, chars.length < bound → readContent bound chars = some tokens) ∧
      (∀ budget, Event.ofTokens {} inner budget tokens = some (events, budget)) ∧
      builder.build events = some root

namespace Completes

variable {inner : String → Nat → Option (List Event × Nat)} {builder next : Builder}
  {chars rest : List Char} {root : Element}

theorem nil : Completes inner [] ⟨some root, []⟩ root := by
  refine ⟨List.not_mem_nil, [], [], ?_, fun budget => rfl, rfl⟩
  intro bound hbound
  obtain ⟨bound, rfl⟩ := Nat.exists_eq_succ_of_ne_zero (Nat.ne_of_gt hbound)
  rfl

/-- One piece of markup, whose events take one builder to the next. -/
theorem markup {tokens : List Token} {events : List Event}
    (h : Completes inner rest next root) (hread : readMarkup chars = some (tokens, rest))
    (hlength : rest.length ≤ chars.length) (hevents : Event.Of inner tokens events)
    (hbuild : ∀ more, builder.build (events ++ more) = next.build more) :
    Completes inner ('<' :: chars) builder root := by
  obtain ⟨-, later, after, htokens, hafter, hroot⟩ := h
  refine ⟨by simp [leadingText], tokens ++ later, events ++ after, ?_, ?_, ?_⟩
  · intro bound hbound
    obtain ⟨bound, rfl⟩ := Nat.exists_eq_succ_of_ne_zero (Nat.ne_of_gt (Nat.zero_lt_of_lt hbound))
    have hlater : readContent bound rest = some later := by
      apply htokens
      rw [List.length_cons] at hbound
      omega
    rw [readContent_tag, hread, Option.bind_some, hlater, Option.map_some]
  · intro budget
    rw [hevents, hafter, Option.map_some]
  · rw [hbuild, hroot]

theorem text_char {frame : OpenElement} (c : Char)
    (h : Completes inner rest (builder.enter (frame.addChar c)) root) :
    Completes inner (escapeTextChar c ++ rest) (builder.enter frame) root := by
  obtain ⟨hbracket, tokens, events, htokens, hevents, hroot⟩ := h
  obtain ⟨isData, hchar⟩ := @Event.exists_of_textPiece inner c
  refine ⟨not_mem_leadingText hbracket c, .piece (textPiece c) :: tokens,
    .char c isData :: events, ?_, ?_, ?_⟩
  · intro bound hbound
    obtain ⟨bound, rfl⟩ := Nat.exists_eq_succ_of_ne_zero (Nat.ne_of_gt (Nat.zero_lt_of_lt hbound))
    have hrest : readContent (bound + 1) rest = some tokens := by
      apply htokens
      rw [List.length_append] at hbound
      omega
    rw [readContent_escapeTextChar hbracket, hrest, Option.map_some]
  · intro budget
    have hread := hchar budget tokens
    rw [hevents, Option.map_some] at hread
    exact hread
  · rw [Builder.build_char, hroot]

theorem text {frame : OpenElement} (chars : List Char)
    (h : Completes inner rest (builder.enter (frame.addText chars)) root) :
    Completes inner (escapeText chars ++ rest) (builder.enter frame) root := by
  induction chars generalizing frame with
  | nil => exact h
  | cons c chars ih =>
    have hchars := ih h
    rw [escapeText, List.flatMap_cons, List.append_assoc]
    exact text_char c hchars

theorem start (hready : builder.IsReady) {tag : String} (htag : isName tag.toList = true)
    {attributes : List (String × String)} (hattributes : PlainAttributes attributes)
    (h : Completes inner rest (builder.enter (.plain tag attributes)) root) :
    Completes inner (startTag tag attributes ++ '>' :: rest) builder root := by
  have hread := @readMarkup_startTag tag htag attributes hattributes false _ rfl rest
  have hevents := @Event.of_start inner tag attributes
  rw [startTag, List.cons_append, List.append_assoc]
  exact h.markup hread (by simp; omega) hevents (Builder.build_start hready htag hattributes)

theorem stop {frame : OpenElement} {tag : String} (hname : frame.name = tag)
    (htag : isName tag.toList = true) (h : Completes inner rest (builder.add frame.close) root) :
    Completes inner (endTag tag ++ rest) (builder.enter frame) root := by
  subst hname
  have hread := readMarkup_endTag htag rest
  have hevents := @Event.of_stop inner frame.name
  rw [endTag, List.cons_append, List.cons_append, List.append_assoc]
  exact h.markup hread (by simp; omega) hevents (Builder.build_stop builder frame)

theorem empty (hready : builder.IsReady) {tag : String} (htag : isName tag.toList = true)
    {attributes : List (String × String)} (hattributes : PlainAttributes attributes)
    (h : Completes inner rest (builder.add (OpenElement.plain tag attributes).close) root) :
    Completes inner (startTag tag attributes ++ ' ' :: '/' :: '>' :: rest) builder root := by
  have hread := @readMarkup_startTag tag htag attributes hattributes true _ rfl rest
  have hstart := @Event.of_start inner tag attributes
  have hevents := hstart.append (Event.of_stop tag)
  rw [startTag, List.cons_append, List.append_assoc]
  refine h.markup hread (by simp; omega) hevents fun more => ?_
  have hbuild := Builder.build_start hready htag hattributes (.stop tag :: more)
  rw [List.append_assoc, List.singleton_append]
  exact hbuild.trans (Builder.build_stop builder (.plain tag attributes) more)

theorem line {frame : OpenElement} (level : Nat)
    (h : Completes inner rest (builder.enter (frame.addText (newLine level))) root) :
    Completes inner (newLine level ++ rest) (builder.enter frame) root := by
  rw [newLine_eq_escapeText]
  exact h.text _

/-- Rendered children go to the open element one by one, if each of them is read back. -/
theorem children {children : List Element} {level : Nat} {frame : OpenElement}
    (hchild : ∀ child ∈ children, ∀ {builder : Builder} {rest : List Char}, builder.IsReady →
      Completes inner rest (builder.add (child.indent level)) root →
      Completes inner (render [] level [] child ++ rest) builder root)
    (hscope : frame.scope = NameScope.initial)
    (h : Completes inner rest (builder.enter (frame.addChildren level children)) root) :
    Completes inner (renderAll [] level children ++ rest) (builder.enter frame) root := by
  induction children generalizing frame with
  | nil => simpa [renderAll, OpenElement.addChildren] using h
  | cons child others ih =>
    have hline : (frame.addText (newLine level)).scope = NameScope.initial :=
      (OpenElement.addText_same frame (newLine level)).1.trans hscope
    have hothers := @ih ((frame.addText (newLine level)).addChild (child.indent level))
      (fun child hmem => hchild child (List.mem_cons_of_mem _ hmem)) hline h
    rw [← Builder.add_enter] at hothers
    rw [renderAll, List.append_assoc, List.append_assoc]
    apply line
    exact hchild child List.mem_cons_self hline hothers

/-- A rendered element takes a builder to the one with the element read back. -/
theorem element {element : Element} (helement : element.Plain) (level : Nat)
    (hready : builder.IsReady)
    (h : Completes inner rest (builder.add (element.indent level)) root) :
    Completes inner (render [] level [] element ++ rest) builder root := by
  -- Each child is read back one level deeper, whatever the builder and the content after it.
  induction helement generalizing builder level rest with
  | @mk tag attributes text children htag hattributes htext hchildren ih =>
    cases children with
    | nil =>
      rw [← OpenElement.close_leaf] at h
      by_cases hempty : text = ""
      · subst hempty
        rw [render_empty htag, List.append_assoc]
        exact h.empty hready htag hattributes
      · have hname := (OpenElement.addText_same (.plain tag attributes) text.toList).2
        rw [render_leaf htag level attributes hempty]
        simp only [List.append_assoc, List.cons_append]
        exact start hready htag hattributes (.text _ (stop hname htag h))
    | cons child others =>
      rw [← OpenElement.close_branch] at h
      have hname : (((OpenElement.plain tag attributes).addChildren (level + 1)
          (child :: others)).addText (newLine level)).name = tag := by
        rw [(OpenElement.addText_same _ _).2, OpenElement.name_addChildren]
        rfl
      rw [render_branch htag]
      simp only [List.append_assoc, List.cons_append]
      apply start hready htag hattributes
      apply Completes.children
      · intro child hmem builder rest hready h
        exact ih child hmem (level + 1) hready h
      · rfl
      · exact line level (stop hname htag h)

end Completes

/-! ### Documents -/

theorem takeDeclaration_line (chars : List Char) :
    takeDeclaration (declarationLine.toList ++ chars) = some (false, '\n' :: chars) := rfl

theorem render_head {element : Element} (h : element.Plain) (level : Nat) :
    ∃ c rest, isNameStart c = true ∧ render [] level [] element = '<' :: c :: rest := by
  obtain @⟨tag, attributes, text, children, htag, -, -, -⟩ := h
  obtain ⟨c, rest, hchars, hc, -⟩ := isName_iff.1 htag
  cases children with
  | nil =>
    by_cases hempty : text = ""
    · rw [hempty, render_empty htag, startTag, hchars]
      exact ⟨c, _, hc, rfl⟩
    · rw [render_leaf htag level attributes hempty, startTag, hchars]
      exact ⟨c, _, hc, rfl⟩
  | cons child others =>
    rw [render_branch htag, startTag, hchars]
    exact ⟨c, _, hc, rfl⟩

theorem takeProlog_line {c : Char} (hc : isNameStart c = true) (budget bound : Nat)
    (rest : List Char) :
    takeProlog false budget (bound + 1) ('\n' :: '<' :: c :: rest) =
      some ({}, '<' :: c :: rest) := by
  have hbang : c ≠ '!' := ne_of_isNameStart hc (by decide)
  have hquestion : c ≠ '?' := ne_of_isNameStart hc (by decide)
  have hskip : skipSpaces ('\n' :: '<' :: c :: rest) = '<' :: c :: rest := by
    simp [skipSpaces, isSpace]
  rw [takeProlog, hskip]
  split <;> simp_all

/-- The tokens of a rendered element make up the element as it is read back. -/
theorem build_render {element : Element} (h : element.Plain) (budget : Nat) :
    ∃ tokens events, tokens? (render [] 0 [] element) = some tokens ∧
      Event.ofContent {} budget tokens = some events ∧
      Element.build none [] events = some (element.indent 0) := by
  have hcompletes := @Completes.element (Event.ofEntity {} 1) ⟨none, []⟩ [] (element.indent 0)
    element h 0 rfl .nil
  rw [List.append_nil] at hcompletes
  obtain ⟨-, tokens, events, htokens, hevents, hroot⟩ := hcompletes
  refine ⟨tokens, events, htokens _ (Nat.lt_succ_self _), ?_, hroot⟩
  have hread : Event.ofTokens {} (Event.ofEntity {} 1) budget tokens = some (events, budget) :=
    hevents budget
  simp [Event.ofContent, hread]

/-- A text that begins with a bracket has no byte order mark. -/
theorem read?_eq {text : String} {chars : List Char} (htext : text.toList = '<' :: chars)
    (hlegal : ∀ c ∈ '<' :: chars, isLegal c = true) :
    read? text =
      (takeDeclaration (unifyLineEnds ('<' :: chars))).bind fun declared =>
        (takeProlog declared.1 (entityBudget (byteSize ('<' :: chars))) (declared.2.length + 1)
          declared.2).bind fun prolog =>
            (tokens? prolog.2).bind fun tokens =>
              (Event.ofContent prolog.1 (entityBudget (byteSize ('<' :: chars))) tokens).bind
                (Element.build none []) := by
  have hall : ('<' :: chars).all isLegal = true := List.all_eq_true.2 hlegal
  unfold read?
  rw [htext]
  exact if_neg (not_not.2 hall)

theorem read?_write {element : Element} (h : element.Plain) :
    read? (declarationLine ++ String.ofList (render [] 0 [] element)) =
      some (element.unify.indent 0) := by
  have hlegal : ∀ c ∈ declarationLine.toList ++ render [] 0 [] element, isLegal c = true := by
    have hline : ∀ c ∈ declarationLine.toList, isLegal c = true := List.all_eq_true.1 (by decide)
    exact List.forall_mem_append.2 ⟨hline, isLegal_of_mem_render h 0⟩
  have hunified : unifyLineEnds (declarationLine.toList ++ render [] 0 [] element) =
      declarationLine.toList ++ render [] 0 [] element.unify := by
    have hreturn : '\r' ∉ declarationLine.toList := by decide
    have hrender := unifyLineEnds_render h 0 []
    rw [List.append_nil, unifyLineEnds_eq_self List.not_mem_nil, List.append_nil] at hrender
    rw [unifyLineEnds_append hreturn, hrender]
  obtain ⟨c, rest, hc, hhead⟩ := render_head h.unify 0
  have htext : (declarationLine ++ String.ofList (render [] 0 [] element)).toList =
      declarationLine.toList ++ render [] 0 [] element := by
    rw [String.toList_append, String.toList_ofList]
  obtain ⟨tail, htail⟩ : ∃ tail, declarationLine.toList ++ render [] 0 [] element = '<' :: tail :=
    ⟨_, rfl⟩
  obtain ⟨tokens, events, htokens, hevents, hroot⟩ :=
    build_render h.unify (entityBudget (byteSize ('<' :: tail)))
  rw [htail] at htext hunified hlegal
  rw [hhead] at htokens hunified
  rw [read?_eq htext hlegal, hunified, takeDeclaration_line]
  simp [takeProlog_line hc, htokens, hevents, hroot]

/-! ### What is kept of an element -/

namespace Element

/-- An element at some level as it is read back. -/
def readBack (level : Nat) (element : Element) : Element :=
  element.unify.indent level

variable (level : Nat) (element : Element)

@[simp]
theorem tag_readBack : (element.readBack level).tag = element.tag := by
  obtain ⟨tag, attributes, text, children⟩ := element
  cases children <;> simp [readBack, unify, unifyAll, indent]

@[simp]
theorem attributes_readBack : (element.readBack level).attributes = element.attributes := by
  obtain ⟨tag, attributes, text, children⟩ := element
  cases children <;> simp [readBack, unify, unifyAll, indent]

@[simp]
theorem children_readBack :
    (element.readBack level).children = element.children.map (readBack (level + 1)) := by
  obtain ⟨tag, attributes, text, children⟩ := element
  cases children with
  | nil => simp [readBack, unify, unifyAll, indent]
  | cons child rest =>
    simp [readBack, unify, unifyAll, indent, indentAll, indentAll_eq_map, unifyAll_eq_map,
      Function.comp_def]

/-- Only the text of a leaf comes back. -/
theorem text_readBack (h : element.children = []) :
    (element.readBack level).text = unified element.text := by
  obtain ⟨tag, attributes, text, children⟩ := element
  obtain rfl : children = [] := h
  simp [readBack, unify, unifyAll, indent]

theorem child?_readBack (tag : String) :
    (element.readBack level).child? tag = (element.child? tag).map (readBack (level + 1)) := by
  simp [child?, List.find?_map, Function.comp_def]

end Element

theorem read?_write? {element : Element} (h : element.Plain) :
    (write? element).bind read? = some (element.readBack 0) := by
  rw [write?_of_plain h, Option.bind_some, read?_write h, Element.readBack]

end SitePresets.Xml
