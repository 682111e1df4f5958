import SitePresets.Proofs.Document.Rendering
import SitePresets.Proofs.Table
import SitePresets.Proofs.Xml.RoundTrip

/-!
# Documents read back from XML

A document that can be written as XML comes back from it in its canonical form.
-/

namespace SitePresets.Document

open Xml Numeral

/-! ### Reading the element -/

theorem fieldText?_readBack {root : Element} {tag text : String} (level : Nat)
    (h : root.child? tag = some (leaf tag text)) :
    fieldText? (root.readBack level) tag = if text = "" then none else some (unified text) := by
  have hleaf : ((leaf tag text).readBack (level + 1)).text = unified text :=
    Element.text_readBack _ _ rfl
  rw [fieldText?, Element.child?_readBack, h]
  simp [hleaf]

theorem itemOfElement_readBack {item : Item} (h : item.IsWritable) (level : Nat) :
    itemOfElement item.key.scope ((itemElement item).readBack level) = item.canonical := by
  have htext : ((itemElement item).readBack level).text = unified (item.value.getD "") :=
    Element.text_readBack _ _ rfl
  have hrows : (itemElement item).attributes.map (fun row => (Text.lower row.1, some row.2)) =
      item.canonical.attributes := by
    rw [itemElement, List.map_map]
    refine List.map_congr_left fun row hrow => ?_
    rw [Function.comp_apply, lower_eq_self (h.attributes row hrow).1]
  have hnodup : (item.canonical.attributes.map Prod.fst).Nodup := h.canonical.nodup
  have hname : Text.lower (itemElement item).tag = item.key.name := lower_upper h.name
  rw [itemOfElement, htext, Element.tag_readBack, Element.attributes_readBack, hrows, hname,
    Table.rows_ofList hnodup]
  rfl

theorem itemsOfScope_readBack {scope : String} {items : List Item} (hscope : IsScope scope.toList)
    (h : ∀ item ∈ items, item.IsWritable ∧ item.key.scope = scope) (level : Nat) :
    itemsOfScope ((scopeElement scope items).readBack level) = items.map Item.canonical := by
  have htag : tagScope (scopeElement scope items).tag = scope := tagScope_scopeTag hscope
  have hsettings : ((((scopeElement scope items).readBack level).children.filter fun child =>
      child.tag = "SETTINGS").flatMap Element.children) =
        items.map fun item => (itemElement item).readBack (level + 2) := by
    simp [scopeElement, branch, Function.comp_def]
  rw [itemsOfScope, hsettings, Element.tag_readBack, htag, List.map_map]
  refine List.map_congr_left fun item hitem => ?_
  obtain ⟨hwritable, rfl⟩ := h item hitem
  exact itemOfElement_readBack hwritable (level + 2)

theorem unified_integer (z : Int) : unified (Integer.text z) = Integer.text z := by
  have hreturn : '\r' ∉ (Integer.text z).toList := by
    rw [Integer.text, String.toList_ofList]
    intro hmem
    rcases Integer.mem_chars hmem with h | h <;> revert h <;> decide
  rw [unified, unifyLineEnds_eq_self hreturn, String.ofList_toList]

theorem read?_pluginElement {row : Plugin × Int} (h : Integer.Fits row.2) (level : Nat) :
    Integer.read? (Text.trim ((pluginElement row).readBack level).text) = some row.2 := by
  have htext : ((pluginElement row).readBack level).text = Integer.text row.2 :=
    (Element.text_readBack _ _ rfl).trans (unified_integer row.2)
  rw [htext, Integer.trim_text, Integer.read?_text h]

theorem pluginsOfType_readBack {type : String} {rows : List (Plugin × Int)} (level : Nat)
    (htype : IsLowerName type.toList)
    (h : ∀ row ∈ rows, IsLowerName row.1.name.toList ∧ Integer.Fits row.2 ∧ row.1.type = type) :
    pluginsOfType ((branch (Text.upper type) (rows.map pluginElement)).readBack level) = rows := by
  have htag : Text.lower (branch (Text.upper type) (rows.map pluginElement)).tag = type :=
    lower_upper htype
  have hchildren : ((branch (Text.upper type) (rows.map pluginElement)).readBack level).children =
      rows.map fun row => (pluginElement row).readBack (level + 1) := by
    simp [branch, Function.comp_def]
  rw [pluginsOfType, hchildren, Element.tag_readBack, htag, List.filterMap_map]
  refine (List.filterMap_congr fun row hmem => ?_).trans List.filterMap_some
  obtain ⟨hname, hfits, rfl⟩ := h row hmem
  have hrow : Text.lower (pluginElement row).tag = row.1.name := lower_upper hname
  rw [Function.comp_apply, read?_pluginElement hfits, Element.tag_readBack, hrow, Option.map_some]

theorem settings_readBack {items : List Item} (h : ∀ item ∈ items, item.IsWritable) (level : Nat) :
    ((Grouping.groups (fun item : Item => item.key.scope) items).flatMap fun group =>
      itemsOfScope ((scopeElement group.1 group.2).readBack level)) =
        (Grouping.grouped (fun item : Item => item.key.scope) items).map Item.canonical := by
  refine Grouping.flatMap_groups fun group hgroup => ?_
  obtain ⟨⟨item, hitem, hkey⟩, hmembers⟩ := Grouping.mem_groups hgroup
  refine itemsOfScope_readBack (hkey ▸ (h item hitem).scope) (fun item hmem => ?_) level
  rw [hmembers, Grouping.mem_members] at hmem
  exact ⟨h item hmem.1, hmem.2⟩

theorem plugins_readBack {rows : List (Plugin × Int)}
    (h : ∀ row ∈ rows, IsLowerName row.1.type.toList ∧ IsLowerName row.1.name.toList ∧
      Integer.Fits row.2) (level : Nat) :
    ((Grouping.groups (fun row : Plugin × Int => row.1.type) rows).flatMap fun group =>
      pluginsOfType ((branch (Text.upper group.1) (group.2.map pluginElement)).readBack level)) =
        Grouping.grouped (fun row : Plugin × Int => row.1.type) rows := by
  have hgroups := @Grouping.flatMap_groups _ _ _ (fun row : Plugin × Int => row.1.type) rows _ id
    (fun group =>
      pluginsOfType ((branch (Text.upper group.1) (group.2.map pluginElement)).readBack level))
  rw [List.map_id] at hgroups
  refine hgroups fun group hgroup => ?_
  obtain ⟨⟨row, hrow, hkey⟩, hmembers⟩ := Grouping.mem_groups hgroup
  rw [List.map_id]
  refine pluginsOfType_readBack level (hkey ▸ (h row hrow).1) fun row hmem => ?_
  rw [hmembers, Grouping.mem_members] at hmem
  exact ⟨(h row hmem.1).2.1, (h row hmem.1).2.2, hmem.2⟩

theorem time_readBack {document : Document} (h : document.IsWritable) :
    (fieldText? (document.toElement.readBack 0) "PRESET_DATE").bind Integer.read? =
      document.timeCreated := by
  have hfield : fieldText? (document.toElement.readBack 0) "PRESET_DATE" =
      if (document.timeCreated.map Integer.text).getD "" = "" then none
      else some (unified ((document.timeCreated.map Integer.text).getD "")) :=
    fieldText?_readBack 0 rfl
  rw [hfield]
  cases htime : document.timeCreated with
  | none => rfl
  | some time =>
    have hread : Integer.read? (Integer.text time) = some time :=
      Integer.read?_text (h.timeCreated time htime)
    have hempty : Integer.text time ≠ "" := by
      intro heq
      have hnone : Integer.read? "" = none := by decide
      rw [heq, hnone] at hread
      cases hread
    simp [hempty, unified_integer, hread]

theorem child?_plugins (document : Document) :
    document.toElement.child? "PLUGINS" = if document.plugins.isEmpty = true then none else
      some (branch "PLUGINS"
        ((Grouping.groups (fun row : Plugin × Int => row.1.type) document.plugins).map
          fun group => branch (Text.upper group.1) (group.2.map pluginElement))) := by
  by_cases hempty : document.plugins.isEmpty = true
  · simp [toElement, branch, Element.child?, leaf, hempty]
  · simp [toElement, branch, Element.child?, leaf, hempty]

theorem ofElement_readBack {document : Document} (h : document.IsWritable) :
    ofElement (document.toElement.readBack 0) = .ok document.canonical := by
  have htag : (document.toElement.readBack 0).tag = "PRESET" := Element.tag_readBack 0 _
  have hname : fieldText? (document.toElement.readBack 0) "NAME" = some (unified document.name) := by
    rw [fieldText?_readBack 0 rfl, if_neg h.named]
  have hcomments : fieldText? (document.toElement.readBack 0) "COMMENTS" =
      canonicalField document.comments := fieldText?_readBack 0 rfl
  have hauthor : fieldText? (document.toElement.readBack 0) "AUTHOR" =
      canonicalField document.author := fieldText?_readBack 0 rfl
  have hsite : fieldText? (document.toElement.readBack 0) "SITE_URL" =
      canonicalField document.site := fieldText?_readBack 0 rfl
  have hrelease : fieldText? (document.toElement.readBack 0) "RELEASE" =
      canonicalField document.release := fieldText?_readBack 0 rfl
  have hsettings : document.toElement.child? "ADMIN_SETTINGS" = some (branch "ADMIN_SETTINGS"
      ((Grouping.groups (fun item : Item => item.key.scope) document.items).map
        fun group => scopeElement group.1 group.2)) := rfl
  have hitems : (((document.toElement.readBack 0).child? "ADMIN_SETTINGS").map fun settings =>
      settings.children.flatMap itemsOfScope).getD [] = document.canonical.items := by
    rw [Element.child?_readBack, hsettings]
    simp only [Option.map_some, Option.getD_some, Element.children_readBack, branch]
    rw [List.map_map, List.flatMap_map]
    exact (settings_readBack h.items 2).trans document.items_canonical.symm
  have hplugins : (((document.toElement.readBack 0).child? "PLUGINS").map fun plugins =>
      plugins.children.flatMap pluginsOfType).getD [] = document.canonical.plugins := by
    rw [Element.child?_readBack, child?_plugins]
    by_cases hempty : document.plugins.isEmpty = true
    · have hnil : document.plugins = [] := List.isEmpty_iff.1 hempty
      rw [if_pos hempty, canonical, hnil]
      rfl
    · rw [if_neg hempty]
      simp only [Option.map_some, Option.getD_some, Element.children_readBack, branch]
      rw [List.map_map, List.flatMap_map]
      exact plugins_readBack h.plugins 2
  rw [ofElement, htag, if_neg (by simp), hname, hcomments, hauthor, hsite, hrelease,
    time_readBack h, hitems, hplugins]
  rfl

/-! ### The round trip -/

theorem ofXml_toXml {document : Document} (h : document.IsWritable) :
    ∃ text, document.toXml = .ok text ∧ ofXml text = .ok document.canonical := by
  have hplain := plain_toElement h
  have hwrite := write?_of_plain hplain
  have hread := read?_write? hplain
  rw [hwrite, Option.bind_some] at hread
  refine ⟨_, by rw [toXml, hwrite], ?_⟩
  rw [ofXml, hread]
  exact ofElement_readBack h

/-- A document that is written and read back comes back in its canonical form, which stays as it is when
it is written and read back once more. -/
theorem xml_round_trip {document : Document} (h : document.IsWritable) :
    (∃ text, document.toXml = .ok text ∧ ofXml text = .ok document.canonical) ∧
      ∃ text, document.canonical.toXml = .ok text ∧ ofXml text = .ok document.canonical := by
  refine ⟨ofXml_toXml h, ?_⟩
  obtain ⟨text, hwrite, hread⟩ := ofXml_toXml h.canonical
  rw [canonical_canonical] at hread
  exact ⟨text, hwrite, hread⟩

/-- Scopes and types in turns, line ends of every kind, signs of markup, and missing texts. -/
def mixed : Document where
  name := "Back\r\nup"
  comments := some ""
  author := some "A & B"
  site := some "http://\ra"
  timeCreated := some (-5)
  items := [
    ⟨⟨"core", "debug"⟩, none, [("locked", none), ("note", some "a\r\n\"b\"")]⟩,
    ⟨⟨"mod/forum", "_x"⟩, some "]]>\r2", []⟩,
    ⟨⟨"core", "lang-1.5"⟩, some "", []⟩]
  plugins := [(⟨"auth", "ldap"⟩, 1), (⟨"block", "html"⟩, -1), (⟨"auth", "cas"⟩, 0)]

/-- The same, as it comes back. -/
def tidied : Document where
  name := "Back\nup"
  author := some "A & B"
  site := some "http://\na"
  timeCreated := some (-5)
  items := [
    ⟨⟨"core", "debug"⟩, some "", [("locked", some ""), ("note", some "a\r\n\"b\"")]⟩,
    ⟨⟨"core", "lang-1.5"⟩, some "", []⟩,
    ⟨⟨"mod/forum", "_x"⟩, some "]]>\n2", []⟩]
  plugins := [(⟨"auth", "ldap"⟩, 1), (⟨"auth", "cas"⟩, 0), (⟨"block", "html"⟩, -1)]

theorem xml_round_trip_mixed :
    mixed.IsWritable ∧ (∃ text, mixed.toXml = .ok text ∧ ofXml text = .ok tidied) ∧
      ∃ text, tidied.toXml = .ok text ∧ ofXml text = .ok tidied := by
  have hwritable : mixed.IsWritable := by decide
  have hcanonical : mixed.canonical = tidied := by decide
  have hround := xml_round_trip hwritable
  rw [hcanonical] at hround
  exact ⟨hwritable, hround⟩

end SitePresets.Document
