import Mathlib.Tactic.Tauto
import SitePresets.Proofs.Xml.Escapes

/-!
# Rendered elements

Elements with plain names and legal texts: what is written of them needs no name spaces, its characters
are legal, and it has no line ends of other systems except those of the texts.
-/

namespace SitePresets.Xml

/-! ### Line ends -/

theorem unifyLineEnds_cons {c : Char} (hc : c ≠ '\r') (rest : List Char) :
    unifyLineEnds (c :: rest) = c :: unifyLineEnds rest := by
  simp [unifyLineEnds, hc]

theorem unifyLineEnds_append {chars : List Char} (h : '\r' ∉ chars) (rest : List Char) :
    unifyLineEnds (chars ++ rest) = chars ++ unifyLineEnds rest := by
  induction chars with
  | nil => rfl
  | cons c chars ih =>
    have hc : c ≠ '\r' := fun heq => h (heq ▸ List.mem_cons_self)
    have hchars : '\r' ∉ chars := fun hmem => h (List.mem_cons_of_mem c hmem)
    rw [List.cons_append, unifyLineEnds_cons hc, ih hchars, List.cons_append]

theorem unifyLineEnds_eq_self {chars : List Char} (h : '\r' ∉ chars) :
    unifyLineEnds chars = chars := by
  simpa [unifyLineEnds] using unifyLineEnds_append h []

theorem not_mem_unifyLineEnds (chars : List Char) : '\r' ∉ unifyLineEnds chars := by
  fun_induction unifyLineEnds chars <;> simp_all [eq_comm]

theorem unifyLineEnds_eq_nil {chars : List Char} : unifyLineEnds chars = [] ↔ chars = [] := by
  fun_cases unifyLineEnds chars <;> simp_all

theorem mem_unifyLineEnds {chars : List Char} {c : Char} (h : c ∈ unifyLineEnds chars) :
    c ∈ chars ∨ c = '\n' := by
  fun_induction unifyLineEnds chars <;> grind

theorem unifyLineEnds_return {chars : List Char} (h : chars.head? ≠ some '\n') :
    unifyLineEnds ('\r' :: chars) = '\n' :: unifyLineEnds chars := by
  cases chars with
  | nil => rfl
  | cons c rest =>
    have hc : c ≠ '\n' := by simpa using h
    simp [unifyLineEnds, hc]

theorem head_escapeText {text : List Char} {c : Char} (htext : text.head? ≠ some '\n')
    (hc : c ≠ '\n') (rest : List Char) : (escapeText text ++ c :: rest).head? ≠ some '\n' := by
  cases text with
  | nil => simpa [escapeText] using hc
  | cons d text =>
    have hd : d ≠ '\n' := by simpa using htext
    unfold escapeText escapeTextChar
    rw [List.flatMap_cons]
    split_ifs <;> simp_all

/-- A line end in a text is no part of an escape; the markup after the text does not join it. -/
theorem unifyLineEnds_escapeText (text : List Char) {c : Char} (hc : c ≠ '\n') (rest : List Char) :
    unifyLineEnds (escapeText text ++ c :: rest) =
      escapeText (unifyLineEnds text) ++ unifyLineEnds (c :: rest) := by
  have escape_cons (d : Char) (text : List Char) :
      escapeText (d :: text) = escapeTextChar d ++ escapeText text := List.flatMap_cons
  have hreturn : escapeTextChar '\r' = ['\r'] := by decide
  have hline : escapeTextChar '\n' = ['\n'] := by decide
  fun_induction unifyLineEnds text with
  | case1 => rfl
  | case2 text ih =>
    simp [escape_cons, hreturn, hline, unifyLineEnds, ih]
  | case3 text hne ih =>
    have htext : text.head? ≠ some '\n' := by
      cases text with
      | nil => simp
      | cons d text =>
        intro heq
        exact hne text (congrArg (· :: text) (Option.some.inj heq))
    simp only [escape_cons, hreturn, hline, List.nil_append, List.cons_append]
    rw [unifyLineEnds_return (head_escapeText htext hc rest), ih]
  | case4 d text _ hd ih =>
    have hescape : '\r' ∉ escapeTextChar d := by
      unfold escapeTextChar
      split_ifs <;> simp_all [eq_comm]
    rw [escape_cons, escape_cons, List.append_assoc, List.append_assoc,
      unifyLineEnds_append hescape, ih]

/-- A text with the line ends that a document is read with. -/
def unified (text : String) : String :=
  String.ofList (unifyLineEnds text.toList)

@[simp]
theorem toList_unified (text : String) : (unified text).toList = unifyLineEnds text.toList :=
  String.toList_ofList

@[simp]
theorem unified_eq_empty {text : String} : unified text = "" ↔ text = "" := by
  rw [← String.toList_inj, toList_unified, String.toList_empty, unifyLineEnds_eq_nil,
    ← String.toList_empty, String.toList_inj]

@[simp]
theorem unified_unified (text : String) : unified (unified text) = unified text := by
  rw [unified, toList_unified, unifyLineEnds_eq_self (not_mem_unifyLineEnds _), unified]

/-! ### Plain elements -/

def IsLegalText (text : String) : Prop := ∀ c ∈ text.toList, isLegal c = true

instance (text : String) : Decidable (IsLegalText text) :=
  decidable_of_iff (text.toList.all isLegal = true) List.all_eq_true

theorem IsLegalText.unified {text : String} (h : IsLegalText text) : IsLegalText (unified text) := by
  intro c hc
  rw [toList_unified] at hc
  rcases mem_unifyLineEnds hc with hc | rfl
  · exact h c hc
  · decide

/-- Attributes that declare no name space, none of them given twice. -/
structure PlainAttributes (attributes : List (String × String)) : Prop where
  name : ∀ row ∈ attributes, isName row.1.toList = true
  ne_xmlns : ∀ row ∈ attributes, row.1 ≠ "xmlns"
  nodup : (attributes.map Prod.fst).Nodup
  legal : ∀ row ∈ attributes, IsLegalText row.2

/-- An element whose names have no colons, with the characters that documents may hold. -/
inductive Element.Plain : Element → Prop
  | mk {tag : String} {attributes : List (String × String)} {text : String}
      {children : List Element} (htag : isName tag.toList = true)
      (hattributes : PlainAttributes attributes) (htext : IsLegalText text)
      (hchildren : ∀ child ∈ children, Plain child) : Plain ⟨tag, attributes, text, children⟩

/-! ### Tags -/

/-- A start tag up to its end, which depends on what follows. -/
def startTag (tag : String) (attributes : List (String × String)) : List Char :=
  '<' :: (tag.toList ++ renderAttributes [] attributes)

def endTag (tag : String) : List Char :=
  '<' :: '/' :: (tag.toList ++ ['>'])

section Render

variable {tag : String} (htag : isName tag.toList = true) (level : Nat)
  (attributes : List (String × String))

include htag

theorem render_empty :
    render [] level [] ⟨tag, attributes, "", []⟩ = startTag tag attributes ++ [' ', '/', '>'] := by
  simp [render, startTag, ShortNames.written_of_isName [] htag]

theorem render_leaf {text : String} (htext : text ≠ "") :
    render [] level [] ⟨tag, attributes, text, []⟩ =
      startTag tag attributes ++ '>' :: (escapeText text.toList ++ endTag tag) := by
  simp [render, startTag, endTag, ShortNames.written_of_isName [] htag, htext]

theorem render_branch (text : String) (child : Element) (rest : List Element) :
    render [] level [] ⟨tag, attributes, text, child :: rest⟩ =
      startTag tag attributes ++
        '>' :: (renderAll [] (level + 1) (child :: rest) ++ (newLine level ++ endTag tag)) := by
  simp [render, startTag, endTag, ShortNames.written_of_isName [] htag]

end Render

theorem newLine_eq_escapeText (level : Nat) : newLine level = escapeText (newLine level) := by
  have hline : escapeTextChar '\n' = ['\n'] := by decide
  have hspace : escapeTextChar ' ' = [' '] := by decide
  simp [newLine, escapeText, hline, hspace, List.flatMap_replicate]

/-! ### No name spaces -/

theorem ShortNames.collect_of_plain {element : Element} (h : element.Plain) (names : ShortNames) :
    names.collect element = some names := by
  induction h with
  | @mk tag attributes text children htag hattributes htext hchildren ih =>
    have hrows : attributes.foldlM (fun names row => ShortNames.add names row.1) names =
        some names := by
      have hname := hattributes.name
      clear hattributes
      induction attributes with
      | nil => rfl
      | cons row rest ihrows =>
        have hrow := ShortNames.add_of_isName names (hname row List.mem_cons_self)
        rw [List.foldlM_cons, hrow]
        exact ihrows fun row hmem => hname row (List.mem_cons_of_mem _ hmem)
    have hall : names.collectAll children = some names := by
      clear hchildren
      induction children with
      | nil => rw [ShortNames.collectAll]
      | cons child rest ihall =>
        rw [ShortNames.collectAll, ih child List.mem_cons_self]
        exact ihall fun child hmem => ih child (List.mem_cons_of_mem _ hmem)
    rw [ShortNames.collect, ShortNames.add_of_isName names htag]
    simp [hrows, hall]

theorem write?_of_plain {element : Element} (h : element.Plain) :
    write? element = some (declarationLine ++ String.ofList (render [] 0 [] element)) := by
  rw [write?, ShortNames.collect_of_plain h]
  simp [ShortNames.declarations]

/-! ### Legal characters -/

theorem isLegal_of_mem_escapeTextChar {c d : Char} (hc : isLegal c = true)
    (hd : d ∈ escapeTextChar c) : isLegal d = true := by
  unfold escapeTextChar at hd
  split_ifs at hd
  · exact List.all_eq_true.1 (by decide : "&amp;".toList.all isLegal = true) d hd
  · exact List.all_eq_true.1 (by decide : "&lt;".toList.all isLegal = true) d hd
  · exact List.all_eq_true.1 (by decide : "&gt;".toList.all isLegal = true) d hd
  · exact List.mem_singleton.1 hd ▸ hc

theorem isLegal_of_mem_escapeValueChar {c d : Char} (hc : isLegal c = true)
    (hd : d ∈ escapeValueChar c) : isLegal d = true := by
  unfold escapeValueChar at hd
  split_ifs at hd
  · exact List.all_eq_true.1 (by decide : "&quot;".toList.all isLegal = true) d hd
  · exact List.all_eq_true.1 (by decide : "&#13;".toList.all isLegal = true) d hd
  · exact List.all_eq_true.1 (by decide : "&#10;".toList.all isLegal = true) d hd
  · exact List.all_eq_true.1 (by decide : "&#09;".toList.all isLegal = true) d hd
  · exact isLegal_of_mem_escapeTextChar hc hd

theorem isLegal_of_mem_newLine {level : Nat} {c : Char} (h : c ∈ newLine level) :
    isLegal c = true := by
  have hchar : c = '\n' ∨ c = ' ' := by
    simp only [newLine, List.mem_cons, List.mem_replicate] at h
    tauto
  rcases hchar with rfl | rfl <;> decide

theorem isLegal_of_mem_name {name : String} (h : isName name.toList = true) {c : Char}
    (hc : c ∈ name.toList) : isLegal c = true :=
  isLegal_of_isNameChar (isNameChar_of_mem h hc)

theorem isLegal_of_mem_renderAttributes {attributes : List (String × String)}
    (h : PlainAttributes attributes) {c : Char} (hc : c ∈ renderAttributes [] attributes) :
    isLegal c = true := by
  rcases mem_renderAttributes h.name hc with hsign | ⟨row, hrow, hc | hc⟩
  · exact List.all_eq_true.1 (by decide : [' ', '=', '"'].all isLegal = true) c hsign
  · exact isLegal_of_mem_name (h.name row hrow) hc
  · obtain ⟨d, hd, hc⟩ := List.mem_flatMap.1 hc
    exact isLegal_of_mem_escapeValueChar (h.legal row hrow d hd) hc

theorem isLegal_of_mem_render {element : Element} (h : element.Plain) (level : Nat) :
    ∀ c ∈ render [] level [] element, isLegal c = true := by
  induction h generalizing level with
  | @mk tag attributes text children htag hattributes htext hchildren ih =>
    have hname : ∀ c ∈ tag.toList, isLegal c = true := fun c hc => isLegal_of_mem_name htag hc
    have hrows : ∀ c ∈ renderAttributes [] attributes, isLegal c = true :=
      fun c hc => isLegal_of_mem_renderAttributes hattributes hc
    have hline (level : Nat) : ∀ c ∈ newLine level, isLegal c = true :=
      fun c hc => isLegal_of_mem_newLine hc
    have hescaped : ∀ c ∈ escapeText text.toList, isLegal c = true := by
      intro c hc
      obtain ⟨d, hd, hc⟩ := List.mem_flatMap.1 hc
      exact isLegal_of_mem_escapeTextChar (htext d hd) hc
    have hsigns : ∀ c ∈ ['<', '>', '/', ' '], isLegal c = true := List.all_eq_true.1 (by decide)
    have hall (level : Nat) : ∀ c ∈ renderAll [] level children, isLegal c = true := by
      clear hchildren
      induction children with
      | nil => simp [renderAll]
      | cons child rest ihall =>
        have hchild := ih child List.mem_cons_self level
        have hrest := ihall fun child hmem => ih child (List.mem_cons_of_mem _ hmem)
        rw [renderAll]
        exact List.forall_mem_append.2 ⟨List.forall_mem_append.2 ⟨hline level, hchild⟩, hrest⟩
    have hstart : ∀ c ∈ startTag tag attributes, isLegal c = true := by
      rw [startTag]
      grind
    have hend : ∀ c ∈ endTag tag, isLegal c = true := by
      rw [endTag]
      grind
    cases children with
    | nil =>
      by_cases hempty : text = ""
      · rw [hempty, render_empty htag]
        grind
      · rw [render_leaf htag level attributes hempty]
        grind
    | cons child rest =>
      rw [render_branch htag]
      grind

/-! ### Line ends of texts -/

mutual

/-- An element with the line ends that its texts are read with. -/
def Element.unify : Element → Element
  | ⟨tag, attributes, text, children⟩ => ⟨tag, attributes, unified text, unifyAll children⟩

def Element.unifyAll : List Element → List Element
  | [] => []
  | child :: rest => child.unify :: unifyAll rest

end

theorem Element.unifyAll_eq_map (elements : List Element) :
    Element.unifyAll elements = elements.map Element.unify := by
  induction elements with
  | nil => rw [Element.unifyAll, List.map_nil]
  | cons element rest ih => rw [Element.unifyAll, ih, List.map_cons]

theorem Element.Plain.unify {element : Element} (h : element.Plain) : element.unify.Plain := by
  induction h with
  | @mk tag attributes text children htag hattributes htext hchildren ih =>
    rw [Element.unify, Element.unifyAll_eq_map]
    refine .mk htag hattributes htext.unified fun child hchild => ?_
    obtain ⟨child, hmem, rfl⟩ := List.mem_map.1 hchild
    exact ih child hmem

theorem not_mem_renderAttributes {attributes : List (String × String)}
    (h : PlainAttributes attributes) : '\r' ∉ renderAttributes [] attributes := by
  intro hmem
  rcases mem_renderAttributes h.name hmem with hsign | ⟨row, hrow, hc | hc⟩
  · revert hsign
    decide
  · exact not_mem_of_isName (h.name row hrow) (by decide) hc
  · exact not_mem_escapeValue (.inr (.inr rfl)) _ hc

/-- Of what is written, only the texts change when the line ends are unified. -/
theorem unifyLineEnds_render {element : Element} (h : element.Plain) (level : Nat)
    (rest : List Char) :
    unifyLineEnds (render [] level [] element ++ rest) =
      render [] level [] element.unify ++ unifyLineEnds rest := by
  induction h generalizing level rest with
  | @mk tag attributes text children htag hattributes htext hchildren ih =>
    have hname : '\r' ∉ tag.toList := not_mem_of_isName htag (by decide)
    have hrows : '\r' ∉ renderAttributes [] attributes := not_mem_renderAttributes hattributes
    have hstart : '\r' ∉ startTag tag attributes := by
      simp [startTag, hname, hrows]
    have hend : '\r' ∉ endTag tag := by
      simp [endTag, hname]
    have hline (level : Nat) : '\r' ∉ newLine level := by
      simp [newLine]
    have hall (level : Nat) (rest : List Char) :
        unifyLineEnds (renderAll [] level children ++ rest) =
          renderAll [] level (Element.unifyAll children) ++ unifyLineEnds rest := by
      clear hchildren
      induction children with
      | nil => simp [renderAll, Element.unifyAll]
      | cons child others ihall =>
        have hothers := ihall fun child hmem => ih child (List.mem_cons_of_mem _ hmem)
        rw [renderAll, Element.unifyAll, renderAll, List.append_assoc, List.append_assoc,
          unifyLineEnds_append (hline level), ih child List.mem_cons_self, hothers]
        simp only [List.append_assoc]
    cases children with
    | nil =>
      rw [Element.unify, Element.unifyAll]
      by_cases hempty : text = ""
      · have hunified : unified text = "" := unified_eq_empty.2 hempty
        have hclosing : '\r' ∉ [' ', '/', '>'] := by decide
        rw [hunified, hempty, render_empty htag, List.append_assoc, unifyLineEnds_append hstart,
          unifyLineEnds_append hclosing, List.append_assoc]
      · have hunified : unified text ≠ "" := fun h => hempty (unified_eq_empty.1 h)
        have hinside : unifyLineEnds (escapeText text.toList ++ (endTag tag ++ rest)) =
            escapeText (unifyLineEnds text.toList) ++ (endTag tag ++ unifyLineEnds rest) := by
          rw [← unifyLineEnds_append hend]
          exact unifyLineEnds_escapeText text.toList (by decide) _
        rw [render_leaf htag level attributes hempty, render_leaf htag level attributes hunified]
        simp only [List.append_assoc, List.cons_append]
        rw [unifyLineEnds_append hstart, unifyLineEnds_cons (by decide), hinside, toList_unified]
    | cons child others =>
      rw [render_branch htag, Element.unify, Element.unifyAll, render_branch htag,
        ← Element.unifyAll]
      simp only [List.append_assoc, List.cons_append]
      rw [unifyLineEnds_append hstart, unifyLineEnds_cons (by decide), hall,
        unifyLineEnds_append (hline level), unifyLineEnds_append hend]

end SitePresets.Xml
