import SitePresets.Proofs.Xml.Rendering

/-!
# Reading rendered elements

What is read from a rendered element, step by step: a character of a text, a start tag, an end tag. The
events that these stand for do not depend on what follows.
-/

namespace SitePresets.Xml

/-! ### Markup -/

theorem length_le_renderAttributes {attributes : List (String × String)}
    (hnames : ∀ row ∈ attributes, isName row.1.toList = true) :
    attributes.length ≤ (renderAttributes [] attributes).length := by
  induction attributes with
  | nil => simp
  | cons row others ih =>
    have hothers := ih fun row hmem => hnames row (List.mem_cons_of_mem _ hmem)
    rw [renderAttributes_cons (hnames row List.mem_cons_self)]
    simp only [List.length_cons, List.length_append]
    omega

/-- Markup that begins with a name is a start tag. -/
theorem readMarkup_of_isNameStart {c : Char} (hc : isNameStart c = true) (chars : List Char) :
    readMarkup (c :: chars) =
      (takeQualified (c :: chars)).bind fun taken =>
        (takeAttributes (taken.2.length + 1) taken.2).map fun read =>
          (.start (String.ofList taken.1) read.1 ::
            (if read.2.1 then [.stop (String.ofList taken.1)] else []), read.2.2) := by
  have hbang : c ≠ '!' := ne_of_isNameStart hc (by decide)
  have hquestion : c ≠ '?' := ne_of_isNameStart hc (by decide)
  have hslash : c ≠ '/' := ne_of_isNameStart hc (by decide)
  unfold readMarkup
  split
  · simp_all
  · simp_all
  · simp_all
  · simp_all
  · simp [Option.map_eq_bind, Function.comp_def]

/-- The attributes of a start tag with the pieces that their values are read as. -/
def givenAttributes (attributes : List (String × String)) : List (String × List Piece) :=
  attributes.map fun row => (row.1, row.2.toList.map valuePiece)

theorem readMarkup_startTag {tag : String} (htag : isName tag.toList = true)
    {attributes : List (String × String)} (hattributes : PlainAttributes attributes)
    {isEmpty : Bool} {ending : List Char}
    (hending : ending = if isEmpty then [' ', '/', '>'] else ['>']) (rest : List Char) :
    readMarkup (tag.toList ++ (renderAttributes [] attributes ++ (ending ++ rest))) =
      some (.start tag (givenAttributes attributes) :: (if isEmpty then [.stop tag] else []),
        rest) := by
  have hhead : ∀ c ∈ (renderAttributes [] attributes ++ (ending ++ rest)).head?,
      isNameChar c = false ∧ c ≠ ':' := by
    have hblank : isNameChar ' ' = false ∧ ' ' ≠ ':' := by decide
    have hgt : isNameChar '>' = false ∧ '>' ≠ ':' := by decide
    cases attributes with
    | nil => cases isEmpty <;> simp_all [renderAttributes]
    | cons row others =>
      rw [renderAttributes_cons (hattributes.name row List.mem_cons_self)]
      simpa using hblank
  have htaken := takeQualified_append htag hhead
  have hlength := length_le_renderAttributes hattributes.name
  have hattr := @takeAttributes_render attributes hattributes.name isEmpty ending rest hending
    ((renderAttributes [] attributes ++ (ending ++ rest)).length + 1)
    (by rw [List.length_append]; omega)
  obtain ⟨c, tail, hchars, hc, -⟩ := isName_iff.1 htag
  have hmarkup := readMarkup_of_isNameStart hc
    (tail ++ (renderAttributes [] attributes ++ (ending ++ rest)))
  rw [← List.cons_append, ← hchars, htaken] at hmarkup
  rw [hmarkup, Option.bind_some, hattr, Option.map_some, String.ofList_toList, givenAttributes]

theorem readMarkup_endTag {tag : String} (htag : isName tag.toList = true) (rest : List Char) :
    readMarkup ('/' :: (tag.toList ++ '>' :: rest)) = some ([.stop tag], rest) := by
  have hname : ∀ c ∈ tag.toList, (isNameChar c || decide (c = ':')) = true := by
    intro c hc
    simp [isNameChar_of_mem htag hc]
  have htake : (tag.toList ++ '>' :: rest).takeWhile (fun c => isNameChar c || c = ':') =
      tag.toList := by
    have hgt : isNameChar '>' = false := by decide
    rw [List.takeWhile_append_of_pos hname]
    simp [hgt]
  have hgt : isSpace '>' = false := by decide
  rw [readMarkup]
  simp [htake, skipSpaces, hgt]

/-! ### Content -/

theorem readContent_tag (bound : Nat) (chars : List Char) :
    readContent (bound + 1) ('<' :: chars) =
      (readMarkup chars).bind fun read => (readContent bound read.2).map (read.1 ++ ·) := by
  have hholds : Text.holds [']', ']', '>'] [] = false := rfl
  simp [readContent, hholds, readPieces, Option.map_eq_bind, Function.comp_def]

/-- The text before the next tag. -/
def leadingText (chars : List Char) : List Char :=
  chars.takeWhile fun c => !decide (c = '<')

theorem all_ne_opening (c : Char) : ∀ d ∈ escapeTextChar c, (!decide (d = '<')) = true := by
  intro d hd
  have hne : d ≠ '<' := fun heq => not_mem_escapeTextChar (.inl rfl) (heq ▸ hd)
  simpa using hne

theorem leadingText_escapeTextChar (c : Char) (rest : List Char) :
    leadingText (escapeTextChar c ++ rest) = escapeTextChar c ++ leadingText rest :=
  List.takeWhile_append_of_pos (all_ne_opening c)

theorem not_mem_leadingText {rest : List Char} (h : '>' ∉ leadingText rest) (c : Char) :
    '>' ∉ leadingText (escapeTextChar c ++ rest) := by
  rw [leadingText_escapeTextChar, List.mem_append]
  rintro (hmem | hmem)
  · exact not_mem_escapeTextChar (.inr rfl) hmem
  · exact h hmem

theorem holds_leadingText {chars : List Char} (h : '>' ∉ leadingText chars) :
    Text.holds [']', ']', '>'] (leadingText chars) = false := by
  rw [Text.holds, cutFirst_eq_none_of_not_mem (by decide) h]
  rfl

/-- A character before content whose leading text has no closing bracket is read on its own. -/
theorem readContent_escapeTextChar {rest : List Char} (h : '>' ∉ leadingText rest) (c : Char)
    (bound : Nat) :
    readContent (bound + 1) (escapeTextChar c ++ rest) =
      (readContent (bound + 1) rest).map (.piece (textPiece c) :: ·) := by
  -- Without a closing bracket no end of a section of character data can come about.
  have hlater := holds_leadingText h
  have hholds := holds_leadingText (not_mem_leadingText h c)
  have hpieces := readPieces_escapeTextChar c (leadingText rest)
  have hdrop : (escapeTextChar c ++ rest).dropWhile (fun d => !decide (d = '<')) =
      rest.dropWhile (fun d => !decide (d = '<')) :=
    List.dropWhile_append_of_pos (all_ne_opening c)
  rw [← leadingText_escapeTextChar] at hpieces
  unfold leadingText at hlater hholds hpieces
  simp only [readContent, ne_eq, decide_not, hlater, hholds, hpieces, hdrop]
  cases readPieces none (rest.takeWhile fun d => !decide (d = '<')) with
  | none => rfl
  | some pieces =>
    cases rest.dropWhile fun d => !decide (d = '<') with
    | nil => rfl
    | cons d rest =>
      simp [Option.map_eq_bind, Option.bind_assoc, Function.comp_def]

/-! ### Events -/

namespace Event

variable {inner : String → Nat → Option (List Event × Nat)}

/-- A start tag without entities of its own has the values that were written. -/
theorem attributesOf_given (element : String) (budget : Nat) (attributes : List (String × String)) :
    attributesOf {} element budget (givenAttributes attributes) = some (attributes, budget) := by
  have htypes : Doctype.typesOf {} element = [] := rfl
  have hvalue (value : String) : Doctype.valueOf {} true budget (value.toList.map valuePiece) =
      some (value, budget) := by
    simp [Doctype.valueOf, expandPieces_valuePiece]
  have hfold (before : List (String × String)) :
      (givenAttributes attributes).foldlM
        (fun (state : List (String × String) × Nat) row =>
          (Doctype.valueOf {} true state.2 row.2).bind fun read =>
            some (state.1 ++ [(row.1, read.1)], read.2)) (before, budget) =
        some (before ++ attributes, budget) := by
    induction attributes generalizing before with
    | nil => simp [givenAttributes]
    | cons row others ih =>
      have hothers := ih (before ++ [row])
      rw [List.append_assoc, List.singleton_append] at hothers
      rw [givenAttributes, List.map_cons, List.foldlM_cons]
      simp only [hvalue, Option.bind_some]
      exact hothers
  unfold attributesOf
  rw [htypes]
  simp [hfold]

/-- What some tokens stand for, whatever comes after them, if no entity was declared. -/
def Of (inner : String → Nat → Option (List Event × Nat)) (tokens : List Token)
    (events : List Event) : Prop :=
  ∀ budget rest, ofTokens {} inner budget (tokens ++ rest) =
    (ofTokens {} inner budget rest).map fun read => (events ++ read.1, read.2)

theorem Of.append {first second : List Token} {before after : List Event}
    (hfirst : Of inner first before) (hsecond : Of inner second after) :
    Of inner (first ++ second) (before ++ after) := by
  intro budget rest
  rw [List.append_assoc, hfirst, hsecond, Option.map_map]
  simp [Function.comp_def]

theorem of_start (name : String) (attributes : List (String × String)) :
    Of inner [.start name (givenAttributes attributes)] [start name attributes] := by
  intro budget rest
  simp [ofTokens, attributesOf_given, Option.map_eq_bind, Function.comp_def]

theorem of_stop (name : String) : Of inner [.stop name] [stop name] := by
  intro budget rest
  simp [ofTokens, Option.map_eq_bind, Function.comp_def]

theorem exists_of_textPiece (c : Char) :
    ∃ isData, Of inner [.piece (textPiece c)] [char c isData] := by
  have entity {name : String} {c : Char} (h : predefined.lookup name = some c) :
      Of inner [.piece (.entity name)] [char c false] := by
    intro budget rest
    simp [ofTokens, h, Option.map_eq_bind, Function.comp_def]
  unfold textPiece
  split_ifs with hamp hlt hgt
  · subst hamp
    exact ⟨false, entity (by decide)⟩
  · subst hlt
    exact ⟨false, entity (by decide)⟩
  · subst hgt
    exact ⟨false, entity (by decide)⟩
  · refine ⟨true, fun budget rest => ?_⟩
    simp [ofTokens, Option.map_eq_bind, Function.comp_def]

end Event

end SitePresets.Xml
