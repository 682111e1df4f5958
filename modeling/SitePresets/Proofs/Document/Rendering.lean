import SitePresets.Proofs.Document.Canonical

/-!
# Documents as plain elements

The element of a document that can be written is plain: its tags are names, and its texts are legal.
-/

namespace SitePresets.Document

open Xml Numeral

theorem plainAttributes_nil : PlainAttributes [] := by
  constructor <;> simp

theorem plain_leaf {tag text : String} (htag : isName tag.toList = true) (htext : IsLegalText text) :
    (leaf tag text).Plain :=
  .mk htag plainAttributes_nil htext (by simp)

theorem plain_branch {tag : String} {children : List Element} (htag : isName tag.toList = true)
    (hchildren : ∀ child ∈ children, child.Plain) : (branch tag children).Plain :=
  .mk htag plainAttributes_nil (by simp [IsLegalText]) hchildren

theorem plain_itemElement {item : Item} (h : item.IsWritable) : (itemElement item).Plain := by
  refine .mk (isName_upper h.name) ?_ h.value (by simp)
  constructor
  · intro row hrow
    obtain ⟨row, hmem, rfl⟩ := List.mem_map.1 hrow
    exact (h.attributes row hmem).1.isName
  · intro row hrow
    obtain ⟨row, hmem, rfl⟩ := List.mem_map.1 hrow
    exact (h.attributes row hmem).2.1
  · simpa [Function.comp_def] using h.nodup
  · intro row hrow
    obtain ⟨row, hmem, rfl⟩ := List.mem_map.1 hrow
    exact (h.attributes row hmem).2.2

theorem isLegalText_integer (z : Int) : IsLegalText (Integer.text z) := by
  intro c hc
  rw [Integer.text, String.toList_ofList] at hc
  rcases Integer.mem_chars hc with hdigit | rfl
  · have hrange := Char.isDigit_iff_toNat.1 hdigit
    have hlow : 48 ≤ c.toNat := hrange.1
    have hhigh : c.toNat ≤ 57 := hrange.2
    simp only [isLegal, isLegalCode, Bool.or_eq_true, Bool.and_eq_true, decide_eq_true_eq]
    omega
  · decide

theorem plain_scopeElement {scope : String} {items : List Item} (hscope : IsScope scope.toList)
    (h : ∀ item ∈ items, item.IsWritable) : (scopeElement scope items).Plain := by
  refine plain_branch (isName_scopeTag hscope) fun child hchild => ?_
  obtain rfl := List.mem_singleton.1 hchild
  refine plain_branch (by decide) fun child hchild => ?_
  obtain ⟨item, hitem, rfl⟩ := List.mem_map.1 hchild
  exact plain_itemElement (h item hitem)

theorem plain_pluginElements {type : String} {rows : List (Plugin × Int)}
    (htype : IsLowerName type.toList) (h : ∀ row ∈ rows, IsLowerName row.1.name.toList) :
    (branch (Text.upper type) (rows.map pluginElement)).Plain := by
  refine plain_branch (isName_upper htype) fun child hchild => ?_
  obtain ⟨row, hrow, rfl⟩ := List.mem_map.1 hchild
  exact plain_leaf (isName_upper (h row hrow)) (isLegalText_integer row.2)

theorem plain_settings {items : List Item} (h : ∀ item ∈ items, item.IsWritable) :
    (branch "ADMIN_SETTINGS" ((Grouping.groups (fun item : Item => item.key.scope) items).map
      fun group => scopeElement group.1 group.2)).Plain := by
  refine plain_branch (by decide) fun child hchild => ?_
  obtain ⟨group, hgroup, rfl⟩ := List.mem_map.1 hchild
  obtain ⟨⟨item, hitem, hkey⟩, hmembers⟩ := Grouping.mem_groups hgroup
  refine plain_scopeElement (hkey ▸ (h item hitem).scope) fun item hmem => ?_
  rw [hmembers] at hmem
  exact h item (Grouping.mem_members.1 hmem).1

theorem plain_plugins {rows : List (Plugin × Int)}
    (h : ∀ row ∈ rows, IsLowerName row.1.type.toList ∧ IsLowerName row.1.name.toList ∧
      Integer.Fits row.2) :
    (branch "PLUGINS" ((Grouping.groups (fun row : Plugin × Int => row.1.type) rows).map
      fun group => branch (Text.upper group.1) (group.2.map pluginElement))).Plain := by
  refine plain_branch (by decide) fun child hchild => ?_
  obtain ⟨group, hgroup, rfl⟩ := List.mem_map.1 hchild
  obtain ⟨⟨row, hrow, hkey⟩, hmembers⟩ := Grouping.mem_groups hgroup
  refine plain_pluginElements (hkey ▸ (h row hrow).1) fun row hmem => ?_
  rw [hmembers] at hmem
  exact (h row (Grouping.mem_members.1 hmem).1).2.1

theorem plain_toElement {document : Document} (h : document.IsWritable) :
    document.toElement.Plain := by
  have htext {text : String} (hmem : text ∈ document.header) : IsLegalText text := h.header text hmem
  have htime : IsLegalText ((document.timeCreated.map Integer.text).getD "") := by
    cases document.timeCreated with
    | none => simp [IsLegalText]
    | some time => exact isLegalText_integer time
  refine plain_branch (by decide) fun child hchild => ?_
  rcases List.mem_append.1 hchild with hchild | hchild
  · simp only [List.mem_cons, List.not_mem_nil, or_false] at hchild
    rcases hchild with rfl | rfl | rfl | rfl | rfl | rfl | rfl
    · exact plain_leaf (by decide) (htext (by simp [header]))
    · exact plain_leaf (by decide) (htext (by simp [header]))
    · exact plain_leaf (by decide) htime
    · exact plain_leaf (by decide) (htext (by simp [header]))
    · exact plain_leaf (by decide) (htext (by simp [header]))
    · exact plain_leaf (by decide) (htext (by simp [header]))
    · exact plain_settings h.items
  · split at hchild
    · exact absurd hchild List.not_mem_nil
    · obtain rfl := List.mem_singleton.1 hchild
      exact plain_plugins h.plugins

end SitePresets.Document
