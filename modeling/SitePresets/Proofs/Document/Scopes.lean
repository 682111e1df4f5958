import SitePresets.Proofs.Document.Names

/-!
# Scopes that share a tag

Which scopes come back from their tags. Of the scopes in lower case that share a tag, exactly one has no
underscore before another underscore or a slash. It is the one that is read from the tag, so it alone comes
back, and the others are taken for it.
-/

namespace SitePresets.Document

/-- Only ASCII characters, none of them in upper case. -/
def IsLower (chars : List Char) : Prop :=
  ∀ c ∈ chars, c.toNat < 128 ∧ c.isUpper = false

/-- What follows an underscore is neither an underscore nor a slash. -/
def IsApart (chars : List Char) : Prop :=
  chars.IsChain fun c d => c = '_' → d ≠ '_' ∧ d ≠ '/'

instance (chars : List Char) : Decidable (IsLower chars) :=
  decidable_of_iff ((chars.all fun c => c.toNat < 128 ∧ c.isUpper = false) = true) (by simp [IsLower])

instance (chars : List Char) : Decidable (IsApart chars) :=
  inferInstanceAs (Decidable (chars.IsChain fun c d => c = '_' → d ≠ '_' ∧ d ≠ '/'))

/-! ### Reading pairs of underscores

Once its slashes are coded, a scope holds none. Reading the pairs of such a text is then inverse to coding
slashes, and what is read has its underscores apart: the pairs are taken from the left, so an underscore is left
over only before the end or before a character that is neither an underscore nor a slash. -/

section Pairs

variable {chars : List Char}

theorem slash_notMem_codeSlashes (chars : List Char) : '/' ∉ codeSlashes chars := by
  intro hslash
  rcases mem_codeSlashes hslash with heq | ⟨-, hne⟩
  · exact absurd heq (by decide)
  · exact hne rfl

theorem mem_replacePair {first second c : Char} {new : List Char}
    (h : c ∈ Text.replacePair first second new chars) : c ∈ new ∨ c ∈ chars := by
  fun_induction Text.replacePair first second new chars with
  | case1 => exact .inr h
  | case2 d => exact .inr h
  | case3 d e rest hpair ih =>
    rcases List.mem_append.1 h with hnew | hrest
    · exact .inl hnew
    · exact (ih hrest).imp_right fun hmem => List.mem_cons_of_mem d (List.mem_cons_of_mem e hmem)
  | case4 d e rest hpair ih =>
    rcases List.mem_cons.1 h with rfl | hrest
    · exact .inr List.mem_cons_self
    · exact (ih hrest).imp_right (List.mem_cons_of_mem d)

theorem isApart_replacePair (h : '/' ∉ chars) :
    IsApart (Text.replacePair '_' '_' ['/'] chars) := by
  fun_induction Text.replacePair '_' '_' ['/'] chars with
  | case1 => exact List.isChain_nil
  | case2 c => exact List.isChain_singleton c
  | case3 c d rest hpair ih =>
    have hrest : '/' ∉ rest := List.not_mem_of_not_mem_cons (List.not_mem_of_not_mem_cons h)
    exact List.isChain_cons.2 ⟨fun e _ hslash => absurd hslash (by decide), ih hrest⟩
  | case4 c d rest hpair ih =>
    have hrest : '/' ∉ d :: rest := List.not_mem_of_not_mem_cons h
    refine List.isChain_cons.2 ⟨fun e he hc => ?_, ih hrest⟩
    -- A pair would have been taken, so the next character begins none and is read as it stands.
    have hd : d ≠ '_' := fun heq => hpair ⟨hc, heq⟩
    rw [replacePair_cons fun heq => absurd heq hd, List.head?_cons, Option.mem_some_iff] at he
    subst he
    exact ⟨hd, (List.ne_of_not_mem_cons hrest).symm⟩

theorem codeSlashes_replacePair (h : '/' ∉ chars) :
    codeSlashes (Text.replacePair '_' '_' ['/'] chars) = chars := by
  fun_induction Text.replacePair '_' '_' ['/'] chars with
  | case1 => rfl
  | case2 c => exact codeSlashes_cons (List.ne_of_not_mem_cons h).symm []
  | case3 c d rest hpair ih =>
    have hrest : '/' ∉ rest := List.not_mem_of_not_mem_cons (List.not_mem_of_not_mem_cons h)
    rw [List.singleton_append, codeSlashes_slash, ih hrest, hpair.1, hpair.2]
  | case4 c d rest hpair ih =>
    have hrest : '/' ∉ d :: rest := List.not_mem_of_not_mem_cons h
    rw [codeSlashes_cons (List.ne_of_not_mem_cons h).symm, ih hrest]

theorem replacePair_codeSlashes_iff :
    Text.replacePair '_' '_' ['/'] (codeSlashes chars) = chars ↔ IsApart chars := by
  refine ⟨fun heq => ?_, replacePair_codeSlashes⟩
  rw [← heq]
  exact isApart_replacePair (slash_notMem_codeSlashes chars)

end Pairs

/-! ### The scope read from a tag -/

section Tag

variable {scope : String} (h : IsLower scope.toList)

include h

theorem tagScope_scopeTag_iff : tagScope (scopeTag scope) = scope ↔ IsApart scope.toList := by
  rw [← String.toList_inj, toList_tagScope_scopeTag h, replacePair_codeSlashes_iff]

theorem isLower_tagScope : IsLower (tagScope (scopeTag scope)).toList := by
  intro c hc
  rw [toList_tagScope_scopeTag h] at hc
  rcases mem_replacePair hc with hslash | hcode
  · obtain rfl := List.mem_singleton.1 hslash
    decide
  · exact lower_codeSlashes h c hcode

theorem isApart_tagScope : IsApart (tagScope (scopeTag scope)).toList := by
  rw [toList_tagScope_scopeTag h]
  exact isApart_replacePair (slash_notMem_codeSlashes scope.toList)

theorem scopeTag_tagScope : scopeTag (tagScope (scopeTag scope)) = scopeTag scope := by
  rw [← String.toList_inj, toList_scopeTag, toList_tagScope_scopeTag h,
    codeSlashes_replacePair (slash_notMem_codeSlashes scope.toList), toList_scopeTag]

end Tag

/-- The first two of three underscores are read as the slash. -/
example : scopeTag "tool_/data" = "TOOL___DATA" ∧ scopeTag "tool/_data" = "TOOL___DATA" ∧
    tagScope "TOOL___DATA" = "tool/_data" := by
  decide +kernel

/-! ### Scopes told by their tags -/

/-- A scope in lower case comes back from its tag exactly if its underscores stand apart. So two such scopes
never share a tag. Any other scope in lower case shares its tag with one of them, so no reading of tags gives
both of them back. -/
theorem scopes_told_by_tags :
    (∀ scope : String, IsLower scope.toList →
      (tagScope (scopeTag scope) = scope ↔ IsApart scope.toList)) ∧
      (∀ first second : String, IsLower first.toList → IsLower second.toList →
        IsApart first.toList → IsApart second.toList → first ≠ second →
          scopeTag first ≠ scopeTag second) ∧
      ∀ scope : String, IsLower scope.toList → ¬ IsApart scope.toList →
        ∃ other : String, IsLower other.toList ∧ IsApart other.toList ∧ other ≠ scope ∧
          scopeTag other = scopeTag scope := by
  refine ⟨fun scope => tagScope_scopeTag_iff, ?_, ?_⟩
  · intro first second hfirst hsecond hfirst_apart hsecond_apart hne htag
    apply hne
    calc first = tagScope (scopeTag first) := ((tagScope_scopeTag_iff hfirst).2 hfirst_apart).symm
      _ = tagScope (scopeTag second) := congrArg tagScope htag
      _ = second := (tagScope_scopeTag_iff hsecond).2 hsecond_apart
  · intro scope hlower hapart
    have hne : tagScope (scopeTag scope) ≠ scope :=
      fun heq => hapart ((tagScope_scopeTag_iff hlower).1 heq)
    exact ⟨tagScope (scopeTag scope), isLower_tagScope hlower, isApart_tagScope hlower, hne,
      scopeTag_tagScope hlower⟩

theorem tools_told_by_tags :
    tagScope (scopeTag "tool/_data/a_b_") = "tool/_data/a_b_" ∧
      tagScope (scopeTag "tool_/data") ≠ "tool_/data" ∧
      scopeTag "tool/_data" ≠ scopeTag "tool_data" ∧
      ∃ other : String, IsLower other.toList ∧ IsApart other.toList ∧ other ≠ "tool_/data" ∧
        scopeTag other = scopeTag "tool_/data" := by
  obtain ⟨hback, hdiffer, hshare⟩ := scopes_told_by_tags
  have hlower : IsLower "tool_/data".toList := by decide +kernel
  have hapart : ¬ IsApart "tool_/data".toList := by decide +kernel
  refine ⟨(hback _ (by decide +kernel)).2 (by decide +kernel), fun heq => ?_, ?_, ?_⟩
  · exact hapart ((hback _ hlower).1 heq)
  · exact hdiffer _ _ (by decide +kernel) (by decide +kernel) (by decide +kernel)
      (by decide +kernel) (by decide +kernel)
  · exact hshare _ hlower hapart

end SitePresets.Document
