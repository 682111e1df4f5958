import SitePresets.Proofs.Document.Names
import SitePresets.Proofs.Grouping
import SitePresets.Proofs.Numeral.Reading
import SitePresets.Proofs.Xml.Rendering

/-!
# Canonical documents

The form in which a document comes back from XML, and the documents that come back. A canonical document
comes back as it is.
-/

namespace SitePresets

open Xml Numeral

/-! ### Settings -/

namespace Item

/-- Whether the name and the scope of a setting make tags, and its texts may stand in a document. -/
structure IsWritable (item : Item) : Prop where
  scope : Document.IsScope item.key.scope.toList
  name : Document.IsLowerName item.key.name.toList
  value : IsLegalText (item.value.getD "")
  attributes : ∀ row ∈ item.attributes,
    Document.IsLowerName row.1.toList ∧ row.1 ≠ "xmlns" ∧ IsLegalText (row.2.getD "")
  nodup : (item.attributes.map Prod.fst).Nodup

instance (item : Item) : Decidable item.IsWritable :=
  decidable_of_iff (Document.IsScope item.key.scope.toList ∧
      Document.IsLowerName item.key.name.toList ∧ IsLegalText (item.value.getD "") ∧
      (∀ row ∈ item.attributes, Document.IsLowerName row.1.toList ∧ row.1 ≠ "xmlns" ∧
        IsLegalText (row.2.getD "")) ∧ (item.attributes.map Prod.fst).Nodup)
    ⟨fun h => ⟨h.1, h.2.1, h.2.2.1, h.2.2.2.1, h.2.2.2.2⟩,
      fun h => ⟨h.scope, h.name, h.value, h.attributes, h.nodup⟩⟩

/-- A setting with empty texts for missing ones. Line ends stay as they are in attributes. -/
def canonical (item : Item) : Item :=
  { item with
    value := some (unified (item.value.getD ""))
    attributes := item.attributes.map fun row => (row.1, some (row.2.getD "")) }

@[simp]
theorem canonical_canonical (item : Item) : item.canonical.canonical = item.canonical := by
  simp [canonical]

theorem IsWritable.canonical {item : Item} (h : item.IsWritable) : item.canonical.IsWritable where
  scope := h.scope
  name := h.name
  value := h.value.unified
  attributes row hrow := by
    obtain ⟨row, hmem, rfl⟩ := List.mem_map.1 hrow
    exact h.attributes row hmem
  nodup := by
    simpa [Item.canonical, Function.comp_def] using h.nodup

end Item

/-! ### Documents -/

namespace Document

/-- The texts of the header. -/
def header (document : Document) : List String :=
  [document.name, document.comments.getD "", document.author.getD "", document.site.getD "",
    document.release.getD ""]

/-- Whether every name makes a tag, every text may stand in a document, and every number is short enough
to be read back. -/
structure IsWritable (document : Document) : Prop where
  named : document.name ≠ ""
  header : ∀ text ∈ document.header, IsLegalText text
  timeCreated : ∀ time ∈ document.timeCreated, Integer.Fits time
  items : ∀ item ∈ document.items, item.IsWritable
  plugins : ∀ row ∈ document.plugins,
    IsLowerName row.1.type.toList ∧ IsLowerName row.1.name.toList ∧ Integer.Fits row.2

instance (document : Document) : Decidable document.IsWritable :=
  decidable_of_iff (document.name ≠ "" ∧ (∀ text ∈ document.header, IsLegalText text) ∧
      (∀ time ∈ document.timeCreated, Integer.Fits time) ∧
      (∀ item ∈ document.items, item.IsWritable) ∧
      ∀ row ∈ document.plugins, IsLowerName row.1.type.toList ∧ IsLowerName row.1.name.toList ∧
        Integer.Fits row.2)
    ⟨fun h => ⟨h.1, h.2.1, h.2.2.1, h.2.2.2.1, h.2.2.2.2⟩,
      fun h => ⟨h.named, h.header, h.timeCreated, h.items, h.plugins⟩⟩

/-- A field of the header: an empty one is missing. -/
def canonicalField (field : Option String) : Option String :=
  if field.getD "" = "" then none else some (unified (field.getD ""))

/-- A document with its settings grouped by scope and its plugins by type. -/
def canonical (document : Document) : Document :=
  { document with
    name := unified document.name
    comments := canonicalField document.comments
    author := canonicalField document.author
    site := canonicalField document.site
    release := canonicalField document.release
    items := Grouping.grouped (fun item => item.key.scope) (document.items.map Item.canonical)
    plugins := Grouping.grouped (fun row => row.1.type) document.plugins }

theorem items_canonical (document : Document) : document.canonical.items =
    (Grouping.grouped (fun item => item.key.scope) document.items).map Item.canonical :=
  Grouping.grouped_map (fun _ => rfl) document.items

theorem canonicalField_getD (field : Option String) :
    (canonicalField field).getD "" = unified (field.getD "") := by
  unfold canonicalField
  split
  · next h => rw [Option.getD_none, h]; rfl
  · rfl

@[simp]
theorem canonicalField_canonicalField (field : Option String) :
    canonicalField (canonicalField field) = canonicalField field := by
  rw [canonicalField, canonicalField_getD]
  simp only [unified_eq_empty, unified_unified]
  rfl

theorem header_canonical (document : Document) :
    document.canonical.header = document.header.map unified := by
  simp [header, canonical, canonicalField_getD]

/-- The canonical form can be written again. -/
theorem IsWritable.canonical {document : Document} (h : document.IsWritable) :
    document.canonical.IsWritable where
  named := fun hempty => h.named (unified_eq_empty.1 hempty)
  header text htext := by
    rw [header_canonical] at htext
    obtain ⟨text, hmem, rfl⟩ := List.mem_map.1 htext
    exact (h.header text hmem).unified
  timeCreated := h.timeCreated
  items item hitem := by
    obtain ⟨item, hmem, rfl⟩ := List.mem_map.1 (Grouping.mem_grouped.1 hitem)
    exact (h.items item hmem).canonical
  plugins row hrow := h.plugins row (Grouping.mem_grouped.1 hrow)

/-- The canonical form is its own canonical form. -/
@[simp]
theorem canonical_canonical (document : Document) :
    document.canonical.canonical = document.canonical := by
  have hgrouped (items : List Item) :
      Grouping.grouped (fun item => item.key.scope) (items.map Item.canonical) =
        (Grouping.grouped (fun item => item.key.scope) items).map Item.canonical :=
    Grouping.grouped_map (fun _ => rfl) items
  simp [canonical, hgrouped, Function.comp_def]

end Document

end SitePresets
