import SitePresets.Text.Blank
import SitePresets.Text.Split

/-!
# Trimmed parts

Trimming once is enough, and parts that hold no separator come back when the text that joins them is
split again. A text is cut at the first separator in it, which may begin within what looks like the part
before it.
-/

namespace SitePresets.Text

section Trim

variable {member : Char → Bool}

theorem head_dropWhile_not_member {chars : List Char} {c : Char}
    (h : (chars.dropWhile member).head? = some c) : member c = false := by
  have := List.head?_dropWhile_not member chars
  rw [h] at this
  simpa using this

theorem getLast_trimBy_not_member {chars : List Char} {c : Char}
    (h : (trimBy member chars).getLast? = some c) : member c = false := by
  unfold trimBy at h
  rw [List.getLast?_reverse] at h
  exact head_dropWhile_not_member h

theorem head_trimBy_not_member {chars : List Char} {c : Char}
    (h : (trimBy member chars).head? = some c) : member c = false := by
  unfold trimBy at h
  rw [List.head?_reverse] at h
  -- The last character of what is left after a suffix is dropped is the last of the whole.
  have hsuffix := List.dropWhile_suffix member (l := (chars.dropWhile member).reverse)
  obtain ⟨dropped, hdropped⟩ := hsuffix
  have hlast : (chars.dropWhile member).reverse.getLast? = some c := by
    rw [← hdropped, List.getLast?_append, h]
    rfl
  rw [List.getLast?_reverse] at hlast
  exact head_dropWhile_not_member hlast

theorem trimBy_trimBy (member : Char → Bool) (chars : List Char) :
    trimBy member (trimBy member chars) = trimBy member chars :=
  trimBy_eq_self (fun _ h => head_trimBy_not_member h) fun _ h => getLast_trimBy_not_member h

theorem mem_of_mem_trimBy {chars : List Char} {c : Char} (h : c ∈ trimBy member chars) :
    c ∈ chars := by
  unfold trimBy at h
  have hdropped := List.dropWhile_subset _ (List.mem_reverse.1 h)
  exact List.dropWhile_subset _ (List.mem_reverse.1 hdropped)

theorem trimBy_padded {before chars after : List Char} (hbefore : ∀ c ∈ before, member c)
    (hafter : ∀ c ∈ after, member c) :
    trimBy member (before ++ chars ++ after) = trimBy member chars := by
  unfold trimBy
  rw [List.append_assoc, List.dropWhile_append_of_pos hbefore, List.dropWhile_append]
  split
  · rename_i hempty
    have hdropped : (after ++ []).dropWhile member = [].dropWhile member :=
      List.dropWhile_append_of_pos hafter
    rw [List.append_nil] at hdropped
    rw [List.isEmpty_iff.1 hempty, hdropped]
    rfl
  · rw [List.reverse_append, List.dropWhile_append_of_pos fun c hc => hafter c (List.mem_reverse.1 hc)]

end Trim

@[simp]
theorem trim_trim (text : String) : trim (trim text) = trim text := by
  simp [trim, trimBy_trimBy]

section Split

variable {mark : Char}

theorem splitAt_cons_of_ne {c : Char} {rest part : List Char} {parts : List (List Char)}
    (hc : c ≠ mark) (h : splitAt mark rest = part :: parts) :
    splitAt mark (c :: rest) = (c :: part) :: parts := by
  rw [splitAt, if_neg hc, h]

theorem not_mem_of_mem_splitAt {chars part : List Char} (h : part ∈ splitAt mark chars) :
    mark ∉ part := by
  induction chars generalizing part with
  | nil => simp_all
  | cons c rest ih =>
    by_cases hc : c = mark
    · rw [splitAt, if_pos hc] at h
      rcases List.mem_cons.1 h with rfl | h
      · simp
      · exact ih h
    · obtain ⟨first, others, heq⟩ := List.exists_cons_of_ne_nil (splitAt_ne_nil mark rest)
      rw [splitAt_cons_of_ne hc heq] at h
      rcases List.mem_cons.1 h with rfl | h
      · have hfirst := ih (heq ▸ List.mem_cons_self)
        simpa [Ne.symm hc] using hfirst
      · exact ih (heq ▸ List.mem_cons_of_mem first h)

theorem splitAt_of_not_mem {part : List Char} (h : mark ∉ part) : splitAt mark part = [part] := by
  induction part with
  | nil => rfl
  | cons c part ih =>
    have hc : c ≠ mark := fun heq => h (heq ▸ List.mem_cons_self)
    exact splitAt_cons_of_ne hc (ih fun hmem => h (List.mem_cons_of_mem c hmem))

theorem splitAt_append (mark : Char) (left right : List Char) :
    splitAt mark (left ++ mark :: right) = splitAt mark left ++ splitAt mark right := by
  induction left with
  | nil => simp [splitAt]
  | cons c rest ih =>
    by_cases hc : c = mark
    · rw [List.cons_append, splitAt, splitAt, if_pos hc, if_pos hc, ih]
      rfl
    · obtain ⟨part, parts, heq⟩ := List.exists_cons_of_ne_nil (splitAt_ne_nil mark rest)
      rw [splitAt_cons_of_ne hc heq, List.cons_append]
      rw [heq] at ih
      exact splitAt_cons_of_ne hc ih

theorem splitAt_append_mark {part : List Char} (h : mark ∉ part) (rest : List Char) :
    splitAt mark (part ++ mark :: rest) = part :: splitAt mark rest := by
  rw [splitAt_append, splitAt_of_not_mem h]
  rfl

/-- Parts without the separator are what the text that joins them is split into. -/
theorem splitAt_joinBy (parts : List (List Char)) (hne : parts ≠ [])
    (hfree : ∀ part ∈ parts, mark ∉ part) :
    splitAt mark (joinBy (String.singleton mark) (parts.map String.ofList)).toList = parts := by
  induction parts with
  | nil => contradiction
  | cons part rest ih =>
    have hpart : mark ∉ part := hfree part List.mem_cons_self
    cases rest with
    | nil => simpa [joinBy] using splitAt_of_not_mem hpart
    | cons next others =>
      have hrest := ih (by simp) fun part hmem => hfree part (List.mem_cons_of_mem _ hmem)
      have hjoin : (joinBy (String.singleton mark)
          ((part :: next :: others).map String.ofList)).toList =
            part ++ mark ::
              (joinBy (String.singleton mark) ((next :: others).map String.ofList)).toList := by
        simp [joinBy]
      rw [hjoin, splitAt_append_mark hpart, hrest]

end Split

section Cut

variable {mark text before after : List Char}

theorem holds_iff : holds mark text ↔ mark <:+: text := by
  unfold holds
  induction text with
  | nil => by_cases hmark : mark = [] <;> simp [cutFirst, hmark]
  | cons c rest ih =>
    rw [cutFirst, List.infix_cons_iff, ← List.isPrefixOf_iff_prefix]
    split
    · rename_i hstarts
      simp [hstarts]
    · rename_i hstarts
      rw [Option.isSome_map, ih]
      simp [hstarts]

/-- A text is cut at a separator unless there is one before it, which may end within that separator. -/
theorem cutFirst_append (hmark : mark ≠ []) (h : ¬ mark <:+: before ++ mark.dropLast) :
    cutFirst mark (before ++ (mark ++ after)) = some (before, after) := by
  induction before with
  | nil =>
    obtain ⟨c, rest, rfl⟩ := List.exists_cons_of_ne_nil hmark
    have hstarts : (c :: rest).isPrefixOf (c :: (rest ++ after)) = true :=
      List.isPrefixOf_iff_prefix.2 (List.prefix_append (c :: rest) after)
    show cutFirst (c :: rest) (c :: (rest ++ after)) = some ([], after)
    rw [cutFirst, if_pos hstarts]
    exact congrArg (fun after => some ([], after)) List.drop_left
  | cons c rest ih =>
    have hstarts : ¬ mark.isPrefixOf (c :: (rest ++ (mark ++ after))) = true := by
      rw [List.isPrefixOf_iff_prefix]
      intro hstarts
      have hshort : c :: (rest ++ mark.dropLast) <+: c :: (rest ++ (mark ++ after)) :=
        (List.prefix_append_right_inj (c :: rest)).2
          ((List.dropLast_prefix mark).trans (List.prefix_append mark after))
      refine h (List.prefix_of_prefix_length_le hstarts hshort ?_).isInfix
      have hlength := List.length_pos_iff.2 hmark
      simp only [List.length_cons, List.length_append, List.length_dropLast]
      omega
    have hrest : ¬ mark <:+: rest ++ mark.dropLast := fun hinside =>
      h (hinside.trans (List.suffix_cons c _).isInfix)
    show cutFirst mark (c :: (rest ++ (mark ++ after))) = some (c :: rest, after)
    rw [cutFirst, if_neg hstarts, ih hrest]
    rfl

end Cut

end SitePresets.Text
