import Mathlib.Data.Nat.Digits.Defs
import SitePresets.Proofs.Document.Canonical
import SitePresets.Proofs.Service.Exporting

/-!
# Exports as XML

An export can be written as XML if the names of the settings make tags and their values are legal. It comes
back with its settings in their order, and only the line ends of their values may have changed.
-/

namespace SitePresets

open Xml

/-! ### Names and numbers -/

theorem Numeral.Integer.fits_of_fitsColumn {z : Int} (h : fitsColumn z) : Fits z := by
  have hbounds : -9223372036854775808 ≤ z ∧ z < 9223372036854775808 := by
    simpa [fitsColumn] using h
  have hsmall : z.natAbs < 10 ^ 19 := by omega
  exact (Nat.toDigits_length 10 z.natAbs 19 (by decide) hsmall).trans (by decide)

namespace Document

theorem IsLowerName.append {chars more : List Char} (h : IsLowerName chars)
    (hmore : ∀ c ∈ more, isNameChar c = true ∧ c.toNat < 128 ∧ c.isUpper = false) :
    IsLowerName (chars ++ more) := by
  constructor
  · obtain ⟨c, rest, rfl, hc, hrest⟩ := isName_iff.1 h.isName
    exact isName_iff.2 ⟨c, rest ++ more, rfl, hc,
      List.forall_mem_append.2 ⟨hrest, fun d hd => (hmore d hd).1⟩⟩
  · exact List.forall_mem_append.2 ⟨h.lower, fun d hd => (hmore d hd).2⟩

end Document

namespace Facet

variable (facet : Facet) {name : String}

theorem toList_variableOf (name : String) :
    (facet.variableOf name).toList = name.toList ++ '_' :: facet.field.toList := by
  simp [variableOf]

theorem isLowerName_variableOf (h : Document.IsLowerName name.toList) :
    Document.IsLowerName (facet.variableOf name).toList := by
  have hend : (('_' :: facet.field.toList).all fun c =>
      isNameChar c = true ∧ c.toNat < 128 ∧ c.isUpper = false) = true := by
    cases facet <;> decide
  rw [toList_variableOf]
  exact h.append fun c hc => by simpa using List.all_eq_true.1 hend c hc

theorem variableOf_ne_xmlns (name : String) : facet.variableOf name ≠ "xmlns" := by
  intro heq
  have hmem : '_' ∈ (facet.variableOf name).toList := by
    rw [toList_variableOf]
    exact List.mem_append_right _ List.mem_cons_self
  rw [heq] at hmem
  revert hmem
  decide

end Facet

/-! ### Settings -/

/-- The text that an export has for the value of a setting. -/
def Exchange.exportText (live : Descriptor) : String :=
  live.value.getD (live.raw.getD "")

/-- Whether the names of a setting make tags, and the text that is exported for it is legal. -/
structure Descriptor.IsPortable (live : Descriptor) : Prop where
  scope : Document.IsScope live.key.scope.toList
  name : Document.IsLowerName live.key.name.toList
  text : IsLegalText (Exchange.exportText live)

instance (live : Descriptor) : Decidable live.IsPortable :=
  decidable_of_iff (Document.IsScope live.key.scope.toList ∧
      Document.IsLowerName live.key.name.toList ∧ IsLegalText (Exchange.exportText live))
    ⟨fun h => ⟨h.1, h.2.1, h.2.2⟩, fun h => ⟨h.scope, h.name, h.text⟩⟩

namespace Exchange

variable {live : Descriptor}

/-- A setting as it comes back from XML: the line ends of its value are unified. -/
def returnedItem (live : Descriptor) : Item :=
  { exportItem live with value := some (unified (exportText live)) }

theorem isWritable_exportItem (h : live.IsPortable) (harranged : live.Arranged) :
    (exportItem live).IsWritable where
  scope := h.scope
  name := h.name
  value := h.text
  attributes row hrow := by
    obtain ⟨⟨facet, on⟩, -, rfl⟩ := List.mem_map.1 hrow
    have hflag : ∀ on, IsLegalText (Value.flagText on) := by decide
    exact ⟨facet.isLowerName_variableOf h.name, facet.variableOf_ne_xmlns _, hflag on⟩
  nodup := nodup_attributes_exportItem live harranged

theorem canonical_exportItem (live : Descriptor) : (exportItem live).canonical = returnedItem live := by
  unfold Item.canonical returnedItem exportItem
  rw [List.map_map]
  rfl

/-- A value without carriage returns comes back as it is. -/
theorem returnedItem_eq (h : '\r' ∉ (exportText live).toList) :
    returnedItem live = exportItem live := by
  unfold returnedItem unified
  rw [unifyLineEnds_eq_self h, String.ofList_toList]
  rfl

end Exchange

/-! ### Exports -/

namespace Service

variable {service : Service} {request : ExportRequest} {snapshot : Snapshot}

/-- The settings that a request exports. -/
def selection (service : Service) (request : ExportRequest) (snapshot : Snapshot) : List Descriptor :=
  snapshot.inOrder.filter (Exchange.isWanted request service.exclusions)

/-- An export with something in it that can be written as XML and stored. -/
structure Ships (service : Service) (request : ExportRequest) (snapshot : Snapshot) : Prop where
  reads : Snapshot.ofSite service.site = .ok snapshot
  nonempty : service.selection request snapshot ≠ []
  portable : ∀ live ∈ service.selection request snapshot, live.IsPortable
  named : request.name ≠ ""
  header : ∀ text ∈ (service.exported request snapshot).header, IsLegalText text
  clock : fitsColumn service.clock
  user : request.user.all fitsColumn

theorem grouped_selection (service : Service) (request : ExportRequest) (snapshot : Snapshot) :
    Grouping.grouped (fun live => live.key.scope) (service.selection request snapshot) =
      service.selection request snapshot :=
  Grouping.grouped_filter_grouped _ _

/-- The settings of an export come back in their order. -/
theorem items_canonical_exported (service : Service) (request : ExportRequest) (snapshot : Snapshot) :
    (service.exported request snapshot).canonical.items =
      (service.selection request snapshot).map Exchange.returnedItem := by
  have hgrouped : Grouping.grouped (fun item : Item => item.key.scope)
      (service.exported request snapshot).items = (service.exported request snapshot).items := by
    have hmap := @Grouping.grouped_map _ _ _ (fun live : Descriptor => live.key.scope) _
      Exchange.exportItem (fun item => item.key.scope) (fun _ => rfl) (service.selection request snapshot)
    rw [grouped_selection] at hmap
    exact hmap
  rw [Document.items_canonical, hgrouped]
  show ((service.selection request snapshot).map Exchange.exportItem).map Item.canonical = _
  rw [List.map_map]
  exact List.map_congr_left fun live _ => Exchange.canonical_exportItem live

namespace Ships

theorem mem_inOrder {live : Descriptor} (hlive : live ∈ service.selection request snapshot) :
    live ∈ snapshot.inOrder :=
  (List.mem_filter.1 hlive).1

theorem isWritable (h : service.Ships request snapshot) :
    (service.exported request snapshot).IsWritable where
  named := h.named
  header := h.header
  timeCreated time htime := by
    obtain rfl := Option.some.inj htime
    exact Numeral.Integer.fits_of_fitsColumn h.clock
  items := by
    refine List.forall_mem_map.2 fun live hlive => ?_
    obtain ⟨declared, hread⟩ := Snapshot.read_of_mem h.reads (mem_inOrder hlive)
    exact Exchange.isWritable_exportItem (h.portable live hlive) (Site.arranged_of_read hread)
  plugins row hrow := absurd hrow List.not_mem_nil

end Ships

end Service

end SitePresets
