import SitePresets.Proofs.Xml.Names
import SitePresets.Xml.Document

/-!
# Escapes

What is read back from an escaped text is the text, and from an escaped value the value. No escaped
text holds a bracket, and no escaped value ends before its quotation mark.
-/

namespace SitePresets.Xml

/-! ### References -/

theorem readPieces_pending {name rest : List Char} (hmark : ';' ∉ name) (pending : List Char) :
    readPieces (some pending) (name ++ ';' :: rest) =
      (readReference (pending.reverse ++ name)).bind fun piece =>
        (readPieces none rest).map (piece :: ·) := by
  induction name generalizing pending with
  | nil =>
    simp [readPieces, Option.map_eq_bind, Function.comp_def]
  | cons c name ih =>
    have hc : c ≠ ';' := fun heq => hmark (heq ▸ List.mem_cons_self)
    have hname : ';' ∉ name := fun hmem => hmark (List.mem_cons_of_mem c hmem)
    have hnext := ih hname (c :: pending)
    rw [List.reverse_cons, List.append_assoc] at hnext
    simpa [readPieces, hc] using hnext

theorem readPieces_reference {piece : Piece} (name rest : List Char) (hmark : ';' ∉ name)
    (href : readReference name = some piece) :
    readPieces none ('&' :: (name ++ ';' :: rest)) = (readPieces none rest).map (piece :: ·) := by
  have hpending := @readPieces_pending name rest hmark []
  rw [List.reverse_nil, List.nil_append, href] at hpending
  simpa [readPieces] using hpending

theorem readPieces_data {c : Char} (hc : c ≠ '&') (rest : List Char) :
    readPieces none (c :: rest) = (readPieces none rest).map (.data c :: ·) := by
  simp [readPieces, hc]

/-- A text whose characters are written one by one is read one by one. -/
theorem readPieces_flatMap {escape : Char → List Char} {piece : Char → Piece}
    (h : ∀ c rest, readPieces none (escape c ++ rest) = (readPieces none rest).map (piece c :: ·))
    (chars : List Char) : readPieces none (chars.flatMap escape) = some (chars.map piece) := by
  induction chars with
  | nil => rfl
  | cons c rest ih => rw [List.flatMap_cons, h, ih, Option.map_some, List.map_cons]

/-! ### Texts -/

/-- The piece that the escaped form of a character in a text is read as. -/
def textPiece (c : Char) : Piece :=
  if c = '&' then .entity "amp"
  else if c = '<' then .entity "lt"
  else if c = '>' then .entity "gt"
  else .data c

theorem readPieces_escapeTextChar (c : Char) (rest : List Char) :
    readPieces none (escapeTextChar c ++ rest) = (readPieces none rest).map (textPiece c :: ·) := by
  unfold escapeTextChar textPiece
  split_ifs with hamp
  · exact readPieces_reference "amp".toList rest (by decide) (by decide)
  · exact readPieces_reference "lt".toList rest (by decide) (by decide)
  · exact readPieces_reference "gt".toList rest (by decide) (by decide)
  · exact readPieces_data hamp rest

theorem not_mem_escapeTextChar {c d : Char} (hd : d = '<' ∨ d = '>') : d ∉ escapeTextChar c := by
  unfold escapeTextChar
  split_ifs with hamp hlt hgt
  · rcases hd with rfl | rfl <;> decide
  · rcases hd with rfl | rfl <;> decide
  · rcases hd with rfl | rfl <;> decide
  · rcases hd with rfl | rfl <;> simp_all [eq_comm]

/-! ### Values -/

/-- The piece that the escaped form of a character in a value is read as. -/
def valuePiece (c : Char) : Piece :=
  if c = '"' then .entity "quot"
  else if c = '\r' then .escaped '\r'
  else if c = '\n' then .escaped '\n'
  else if c = '\t' then .escaped '\t'
  else textPiece c

theorem readPieces_escapeValueChar (c : Char) (rest : List Char) :
    readPieces none (escapeValueChar c ++ rest) = (readPieces none rest).map (valuePiece c :: ·) := by
  unfold escapeValueChar valuePiece
  split_ifs
  · exact readPieces_reference "quot".toList rest (by decide) (by decide)
  · exact readPieces_reference "#13".toList rest (by decide) (by decide)
  · exact readPieces_reference "#10".toList rest (by decide) (by decide)
  · exact readPieces_reference "#09".toList rest (by decide) (by decide)
  · exact readPieces_escapeTextChar c rest

theorem readPieces_escapeValue (chars : List Char) :
    readPieces none (escapeValue chars) = some (chars.map valuePiece) :=
  readPieces_flatMap readPieces_escapeValueChar chars

theorem not_mem_escapeValue {d : Char} (hd : d = '<' ∨ d = '"' ∨ d = '\r') (chars : List Char) :
    d ∉ escapeValue chars := by
  have char (c : Char) : d ∉ escapeValueChar c := by
    unfold escapeValueChar escapeTextChar
    rcases hd with rfl | rfl | rfl <;> split_ifs <;> simp_all [eq_comm]
  intro hmem
  obtain ⟨c, -, hc⟩ := List.mem_flatMap.1 hmem
  exact char c hc

/-- In a value only a space is a blank that is not written by its number. -/
theorem expandPieces_cons_valuePiece (inner : String → Nat → Option (List Char × Nat)) (budget : Nat)
    (c : Char) (rest : List Piece) :
    Doctype.expandPieces inner budget (valuePiece c :: rest) =
      (Doctype.expandPieces inner budget rest).map fun row => (c :: row.1, row.2) := by
  have entity {name : String} (h : predefined.lookup name = some c) :
      Doctype.expandPieces inner budget (.entity name :: rest) =
        (Doctype.expandPieces inner budget rest).map fun row => (c :: row.1, row.2) := by
    simp [Doctype.expandPieces, h]
  unfold valuePiece textPiece
  split_ifs with hquote hreturn hline htab hamp hlt hgt
  · exact entity (hquote ▸ rfl)
  · simp [Doctype.expandPieces, hreturn]
  · simp [Doctype.expandPieces, hline]
  · simp [Doctype.expandPieces, htab]
  · exact entity (hamp ▸ rfl)
  · exact entity (hlt ▸ rfl)
  · exact entity (hgt ▸ rfl)
  · have hblank : (if isSpace c then ' ' else c) = c := by
      by_cases hc : c = ' '
      · simp [hc]
      · simp [isSpace, hc, htab, hline, hreturn]
    simp [Doctype.expandPieces, hblank]

theorem expandPieces_valuePiece (inner : String → Nat → Option (List Char × Nat)) (budget : Nat)
    (chars : List Char) :
    Doctype.expandPieces inner budget (chars.map valuePiece) = some (chars, budget) := by
  induction chars with
  | nil => rfl
  | cons c rest ih => rw [List.map_cons, expandPieces_cons_valuePiece, ih, Option.map_some]

/-! ### Attributes -/

theorem renderAttributes_cons {row : String × String} (hname : isName row.1.toList = true)
    (others : List (String × String)) :
    renderAttributes [] (row :: others) =
      ' ' :: (row.1.toList ++ '=' :: '"' ::
        (escapeValue row.2.toList ++ '"' :: renderAttributes [] others)) := by
  simp [renderAttributes, ShortNames.written_of_isName [] hname]

theorem mem_renderAttributes {attributes : List (String × String)}
    (hnames : ∀ row ∈ attributes, isName row.1.toList = true) {c : Char}
    (hc : c ∈ renderAttributes [] attributes) :
    c ∈ [' ', '=', '"'] ∨
      ∃ row ∈ attributes, c ∈ row.1.toList ∨ c ∈ escapeValue row.2.toList := by
  induction attributes with
  | nil => exact absurd hc List.not_mem_nil
  | cons row others ih =>
    have hothers := ih fun row hmem => hnames row (List.mem_cons_of_mem _ hmem)
    rw [renderAttributes_cons (hnames row List.mem_cons_self)] at hc
    grind

theorem takeAttribute_render {name : List Char} (hname : isName name = true)
    (value rest : List Char) :
    takeAttribute (name ++ '=' :: '"' :: (escapeValue value ++ '"' :: rest)) =
      some ((String.ofList name, value.map valuePiece), rest) := by
  have hquote : ∀ c ∈ escapeValue value, (!decide (c = '"')) = true := by
    intro c hc
    have hne : c ≠ '"' := fun heq => not_mem_escapeValue (.inr (.inl rfl)) value (heq ▸ hc)
    simpa using hne
  have htake : (escapeValue value ++ '"' :: rest).takeWhile (fun c => !decide (c = '"')) =
      escapeValue value := by
    rw [List.takeWhile_append_of_pos hquote]
    simp
  have hdrop : (escapeValue value ++ '"' :: rest).dropWhile (fun c => !decide (c = '"')) =
      '"' :: rest := by
    rw [List.dropWhile_append_of_pos hquote]
    simp
  have hopening : '<' ∉ escapeValue value := not_mem_escapeValue (.inl rfl) value
  have htaken := @takeQualified_append name ('=' :: '"' :: (escapeValue value ++ '"' :: rest)) hname
    (by simp; decide)
  unfold takeAttribute
  simp [htaken, skipSpaces, isSpace, htake, hdrop, hopening, readPieces_escapeValue]

theorem isSpace_of_isNameStart {c : Char} (h : isNameStart c = true) : isSpace c = false := by
  have hspace : c ≠ ' ' := ne_of_isNameStart h (by decide)
  have htab : c ≠ '\t' := ne_of_isNameStart h (by decide)
  have hline : c ≠ '\n' := ne_of_isNameStart h (by decide)
  have hreturn : c ≠ '\r' := ne_of_isNameStart h (by decide)
  simp [isSpace, hspace, htab, hline, hreturn]

/-- After a blank the first attribute is read, then the others. -/
theorem takeAttributes_space {name : List Char} (hname : isName name = true)
    (value rest : List Char) (bound : Nat) :
    takeAttributes (bound + 1)
        (' ' :: (name ++ '=' :: '"' :: (escapeValue value ++ '"' :: rest))) =
      (takeAttributes bound rest).map fun row =>
        ((String.ofList name, value.map valuePiece) :: row.1, row.2) := by
  have htaken := takeAttribute_render hname value rest
  obtain ⟨c, tail, rfl, hc, -⟩ := isName_iff.1 hname
  have hgt : c ≠ '>' := ne_of_isNameStart hc (by decide)
  have hslash : c ≠ '/' := ne_of_isNameStart hc (by decide)
  have hskip (chars : List Char) : skipSpaces (' ' :: c :: chars) = c :: chars := by
    have hspace : isSpace ' ' = true := rfl
    simp [skipSpaces, hspace, isSpace_of_isNameStart hc]
  rw [List.cons_append] at htaken ⊢
  rw [takeAttributes, hskip]
  split
  · simp_all
  · simp_all
  · simp [htaken, Option.map_eq_bind, Function.comp_def]

/-- The attributes of a start tag as they are read, up to one of its two ends. -/
theorem takeAttributes_render {attributes : List (String × String)}
    (hnames : ∀ row ∈ attributes, isName row.1.toList = true) {isEmpty : Bool}
    {ending rest : List Char} (hending : ending = if isEmpty then [' ', '/', '>'] else ['>'])
    (bound : Nat) (hbound : attributes.length < bound) :
    takeAttributes bound (renderAttributes [] attributes ++ (ending ++ rest)) =
      some (attributes.map fun row => (row.1, row.2.toList.map valuePiece), isEmpty, rest) := by
  induction attributes generalizing bound with
  | nil =>
    obtain ⟨bound, rfl⟩ := Nat.exists_eq_succ_of_ne_zero (Nat.ne_of_gt hbound)
    cases isEmpty <;> subst hending <;>
      simp [renderAttributes, takeAttributes, skipSpaces, isSpace]
  | cons row others ih =>
    obtain ⟨bound, rfl⟩ := Nat.exists_eq_succ_of_ne_zero (Nat.ne_of_gt (Nat.zero_lt_of_lt hbound))
    have hrow : isName row.1.toList = true := hnames row List.mem_cons_self
    have hothers := ih (fun row hrow => hnames row (List.mem_cons_of_mem _ hrow)) bound
      (by simpa using hbound)
    rw [renderAttributes_cons hrow]
    simp only [List.cons_append, List.append_assoc]
    rw [takeAttributes_space hrow, hothers, Option.map_some, List.map_cons, String.ofList_toList]

end SitePresets.Xml
