import SitePresets.Proofs.Apply.Restoring
import SitePresets.Proofs.Service.Advance
import SitePresets.Proofs.Service.Importing

/-!
# Over XML and back

An export comes through XML with its settings in their order, and only the line ends of their values are
unified. So the site that it comes from applies nothing of it, except where other line ends make another
value of a setting.
-/

namespace SitePresets

open Exchange

/-- Whether unified line ends make another value of a setting. -/
def Descriptor.isAltered (live : Descriptor) : Bool :=
  (live.rule.clean (returnedItem live).value).any fun value => !live.equals (some value)

namespace Apply

variable {request : ApplyRequest} {site : Site} {snapshot : Snapshot} {live : Descriptor}

theorem isAltered_eq_false (hraw : live.raw.isSome)
    (h : '\r' ∉ (exportText live).toList) : live.isAltered = false := by
  have hclean : live.rule.clean (returnedItem live).value = live.value := by
    rw [returnedItem_eq h]
    exact value_exportItem (.refl live) hraw []
  unfold Descriptor.isAltered
  rw [hclean]
  cases hvalue : live.value with
  | none => rfl
  | some value =>
    obtain ⟨source, -, hsource⟩ := Option.bind_eq_some_iff.1 hvalue
    have hequals : live.equals (some value) = true := by
      unfold Descriptor.equals
      rw [hvalue]
      exact ValueRule.same_cleaned hsource
    simp [hequals]

/-- Only an altered value is planned to be written for a setting that comes back. -/
theorem isEmpty_plan_returnedItem (hoverride : request.override)
    (hlive : snapshot.get? live.key = some live) (harranged : live.Arranged) :
    (plan request snapshot (returnedItem live)).isEmpty = !live.isAltered := by
  have hfacets : planFacets live
      (live.withStored (returnedItem live).value (returnedItem live).attributes) = [] := by
    refine List.eq_nil_iff_forall_not_mem.2 fun planned hplanned => ?_
    obtain ⟨facet, on, hfacet, hdiffers, -⟩ := mem_planFacets.1 hplanned
    have hsame : (live.withStored (returnedItem live).value (returnedItem live).attributes).facets =
        live.facets := facets_exportItem (.refl live) harranged _
    rw [hsame] at hfacet
    exact Bool.false_ne_true (hdiffers.symm.trans (facetEquals_of_mem harranged hfacet))
  have hvalue : (live.withStored (returnedItem live).value (returnedItem live).attributes).value =
      live.rule.clean (returnedItem live).value := rfl
  have hvalid : (live.withStored (returnedItem live).value (returnedItem live).attributes).isValid =
      (live.rule.clean (returnedItem live).value).isSome := rfl
  have hkey : (returnedItem live).key = live.key := rfl
  unfold plan judge
  rw [if_neg fun hexcluded => hexcluded.2 hoverride, hkey, hlive]
  dsimp only
  unfold Descriptor.isAltered
  rw [hvalid]
  cases hclean : live.rule.clean (returnedItem live).value with
  | none => rfl
  | some value =>
    rw [hclean] at hvalue
    simp only [Option.isSome_some, if_true, Option.any_some]
    unfold planWanted
    rw [hfacets, hvalue]
    cases live.equals (some value) <;> rfl

end Apply

namespace Service

variable {service : Service} {request : ExportRequest} {snapshot : Snapshot}

/-- An apply that nothing stands in the way of succeeds. If it applies nothing, it changes nothing. -/
theorem exists_apply {id : Int} {preset : Preset} {again : ApplyRequest}
    (hunhindered : Apply.Unhindered again service.site) (hpreset : service.library.getPreset id = .ok preset)
    (hlock : service.locked = false) (hclock : fitsColumn service.clock)
    (hsnapshot : Snapshot.ofSite service.site = .ok snapshot) (hstates : preset.plugins = [])
    (timeout : Option Int) :
    ∃ report last, service.apply id again timeout = (.ok report, last) ∧
      report.applied.map Entry.brief =
        ((preset.items.map StoredItem.item).filter fun item =>
          !(Apply.plan again snapshot item).isEmpty).map (fun item => (item.key, .applied, none)) ∧
      (report.applied = [] → last = service) := by
  obtain ⟨report, progress, hrun, happlied, hidle⟩ := hunhindered.run_eq hsnapshot hstates
  have hrecordable : Library.canRecord service.clock again.user = true :=
    Library.canRecord_iff.2 ⟨hclock, hunhindered.user⟩
  have happly : service.apply id again timeout = _ :=
    apply_of_run hpreset hlock hrun fun _ => hrecordable
  by_cases hrows : progress.rows = []
  · rw [record_of_nil hrows] at happly
    refine ⟨report, _, happly, happlied, fun hnil => ?_⟩
    rw [hidle hnil]
  · obtain ⟨application, recorded, -, hrecord⟩ :=
      record_of_ne_nil preset report hrows hrecordable
        (Apply.fits_of_run_items hunhindered.real hrun hstates)
    rw [hrecord] at happly
    refine ⟨_, _, happly, happlied, fun hnil => ?_⟩
    have hnil : report.applied = [] := hnil
    rw [hidle hnil] at hrows
    exact absurd rfl hrows

namespace Ships

theorem nodup_keys (h : service.Ships request snapshot) :
    (((service.exported request snapshot).canonical.items).map fun item => item.placed.key).Nodup := by
  have hkeys : ((service.selection request snapshot).map Descriptor.key).Nodup :=
    (Snapshot.nodup_inOrder h.reads).sublist (List.filter_sublist.map _)
  rw [items_canonical_exported, List.map_map]
  refine (List.map_congr_left fun live _ => ?_) ▸ hkeys
  exact (congrArg Item.key (placed_returnedItem live)).symm

/-- An export is stored and written as a text. -/
theorem exists_text (h : service.Ships request snapshot) (horderly : service.library.Orderly {}) :
    ∃ preset library text,
      service.exportSite request = .ok (preset, service.withLibrary library) ∧
      preset ∈ library.presets ∧ library.Orderly {} ∧
      preset.items.map StoredItem.item = (service.selection request snapshot).map exportItem ∧
      preset.document.toXml = .ok text ∧
      Document.ofXml text = .ok (service.exported request snapshot).canonical := by
  have hsome : (service.exported request snapshot).items ≠ [] := fun hnil =>
    h.nonempty (List.map_eq_nil_iff.1 hnil)
  obtain ⟨preset, library, hexport, -, hdocument⟩ := exists_exportSite h.reads h.clock h.user hsome
  obtain ⟨text, hwrite, hread⟩ := Document.ofXml_toXml h.isWritable
  have hopen : service.library.Open {} := fun _ _ => trivial
  obtain ⟨hadvances, hpreset⟩ := Advances.of_exportSite hopen (fun _ => trivial) hexport
  exact ⟨preset, library, text, hexport, hpreset, hadvances.orderly horderly,
    congrArg Document.items hdocument, hdocument ▸ hwrite, hread⟩

variable {later : Service} {text : String} {user : Option Int} {imported : Preset}

/-- The site imports what it has exported. -/
theorem exists_importXml (h : service.Ships request snapshot)
    (htext : Document.ofXml text = .ok (service.exported request snapshot).canonical)
    (hsite : later.site = service.site) (horderly : later.library.Orderly {})
    (hclock : fitsColumn later.clock) (huser : user.all fitsColumn)
    (hroom : fitsColumn later.library.nextPresetId) (name : Option String) :
    ∃ imported stored, later.importXml text user name = .ok (imported, later.withLibrary stored) ∧
      stored.getPreset imported.id = .ok imported ∧ imported.plugins = [] ∧
        imported.items.map StoredItem.item =
          (service.selection request snapshot).map returnedItem := by
  have hitems := service.items_canonical_exported request snapshot
  have hsome : (service.exported request snapshot).canonical.items ≠ [] := by
    rw [hitems]
    exact fun hnil => h.nonempty (List.map_eq_nil_iff.1 hnil)
  have hknown : importItems snapshot (service.exported request snapshot).canonical.items =
      (service.exported request snapshot).canonical.items := by
    rw [hitems]
    exact importItems_returned h.reads fun live hlive => mem_inOrder hlive
  have hcore : fitsColumn 0 := by decide
  obtain ⟨imported, stored, himport, hid, hstates, hrows⟩ := @Service.exists_importXml later snapshot
    text _ user name htext (hsite ▸ h.reads) hsome hknown h.nodup_keys rfl
    ⟨hclock, hcore, hclock, h.clock, huser⟩
  have hopen : later.library.Open {} := fun _ _ => trivial
  obtain ⟨hadvances, himported⟩ := Advances.of_importXml hopen (fun _ => trivial) himport
  refine ⟨imported, stored, himport, ?_, hstates, hrows.trans ?_⟩
  · exact Library.getPreset_of_preset (hid ▸ hroom)
      ((hadvances.orderly horderly).preset_of_mem himported)
  · rw [hitems, List.map_map]
    exact List.map_congr_left fun live _ => placed_returnedItem live

/-- An apply of what came back applies the altered settings. -/
theorem exists_apply (h : service.Ships request snapshot) (hsite : later.site = service.site)
    {id : Int} (hpreset : later.library.getPreset id = .ok imported) (hstates : imported.plugins = [])
    (hitems : imported.items.map StoredItem.item =
      (service.selection request snapshot).map returnedItem)
    {again : ApplyRequest} (hunhindered : Apply.Unhindered again later.site)
    (hlock : later.locked = false) (hclock : fitsColumn later.clock) (timeout : Option Int) :
    ∃ report last, later.apply id again timeout = (.ok report, last) ∧
      report.applied.map Entry.brief =
        ((service.selection request snapshot).filter Descriptor.isAltered).map (fun live =>
          (live.key, .applied, none)) ∧
      (report.applied = [] → last = later) := by
  obtain ⟨report, last, happly, happlied, hidle⟩ := Service.exists_apply hunhindered hpreset hlock
    hclock (hsite ▸ h.reads) hstates timeout
  have haltered : ((service.selection request snapshot).map returnedItem).filter (fun item =>
      !(Apply.plan again snapshot item).isEmpty) =
        ((service.selection request snapshot).filter Descriptor.isAltered).map returnedItem := by
    rw [List.filter_map]
    refine congrArg (List.map returnedItem) (List.filter_congr fun live hlive => ?_)
    have hlive := mem_inOrder hlive
    obtain ⟨declared, hread⟩ := Snapshot.read_of_mem h.reads hlive
    show (!(Apply.plan again snapshot (returnedItem live)).isEmpty) = live.isAltered
    rw [Apply.isEmpty_plan_returnedItem hunhindered.override ((Snapshot.mem_inOrder h.reads).1 hlive)
      (Site.arranged_of_read hread), Bool.not_not]
  rw [hitems, haltered, List.map_map] at happlied
  exact ⟨report, last, happly, happlied, hidle⟩

theorem altered_eq_nil (h : service.Ships request snapshot)
    (hplain : ∀ live ∈ service.selection request snapshot,
      '\r' ∉ (exportText live).toList) :
    (service.selection request snapshot).filter Descriptor.isAltered = [] := by
  refine List.filter_eq_nil_iff.2 fun live hlive => ?_
  obtain ⟨declared, hread⟩ := Snapshot.read_of_mem h.reads (mem_inOrder hlive)
  obtain ⟨value, -, hraw⟩ := (Site.shows_of_read hread).raw_eq
  rw [Apply.isAltered_eq_false (hraw ▸ rfl) (hplain live hlive)]
  exact Bool.false_ne_true

end Ships

/-- An export comes back from its XML as it is, but for the line ends of its values. An apply of what came
back applies the settings for which this makes another value. So nothing is applied and nothing changes if
no value has a carriage return. -/
theorem xml_transports (h : service.Ships request snapshot) (horderly : service.library.Orderly {}) :
    ∃ preset library text,
      service.exportSite request = .ok (preset, service.withLibrary library) ∧
      preset ∈ library.presets ∧ library.Orderly {} ∧
      preset.items.map StoredItem.item = (service.selection request snapshot).map exportItem ∧
      preset.document.toXml = .ok text ∧
      ∀ (later : Service) (user : Option Int) (name : Option String), later.site = service.site →
        later.library.Orderly {} → fitsColumn later.clock → user.all fitsColumn →
        fitsColumn later.library.nextPresetId →
        ∃ imported stored, later.importXml text user name = .ok (imported, later.withLibrary stored) ∧
          imported.items.map StoredItem.item =
            (service.selection request snapshot).map returnedItem ∧
          ∀ (again : ApplyRequest) (timeout : Option Int),
            Apply.Unhindered again later.site → later.locked = false →
            ∃ report last,
              (later.withLibrary stored).apply imported.id again timeout = (.ok report, last) ∧
              report.applied.map Entry.brief =
                ((service.selection request snapshot).filter Descriptor.isAltered).map (fun live =>
                  (live.key, .applied, none)) ∧
              ((∀ live ∈ service.selection request snapshot,
                  '\r' ∉ (exportText live).toList) →
                imported.items.map StoredItem.item = preset.items.map StoredItem.item ∧
                  report.applied = [] ∧ last = later.withLibrary stored) := by
  obtain ⟨preset, library, text, hexport, hpreset, horderly, hitems, hwrite, hread⟩ :=
    h.exists_text horderly
  refine ⟨preset, library, text, hexport, hpreset, horderly, hitems, hwrite, ?_⟩
  intro later user name hsite horderly hclock huser hroom
  obtain ⟨imported, stored, himport, hget, hstates, hreturned⟩ :=
    h.exists_importXml hread hsite horderly hclock huser hroom name
  refine ⟨imported, stored, himport, hreturned, fun again timeout hunhindered hlock => ?_⟩
  have hsite : (later.withLibrary stored).site = service.site := hsite
  obtain ⟨report, last, happly, happlied, hidle⟩ :=
    h.exists_apply hsite hget hstates hreturned hunhindered hlock hclock timeout
  refine ⟨report, last, happly, happlied, fun hplain => ?_⟩
  have hnil : report.applied = [] := by
    rw [h.altered_eq_nil hplain] at happlied
    exact List.map_eq_nil_iff.1 happlied
  refine ⟨?_, hnil, hidle hnil⟩
  rw [hreturned, hitems]
  exact List.map_congr_left fun live hlive => returnedItem_eq (hplain live hlive)

end Service

/-! ### A site with a text -/

namespace SmallSite

/-- The small site with a text for its notice. -/
def noted (text : String) : Service where
  site := { store := .memory (.ofLists [(notice, some text), (comments, some "1")] [(chat, 1)]), tree }

def everything : ExportRequest := { name := "All", includeSensitive := true }

theorem exists_ships {text : String} (check : List Descriptor → Bool)
    (h : (Snapshot.ofSite (noted text).site).map (fun snapshot =>
      !((noted text).selection everything snapshot).isEmpty &&
        ((noted text).selection everything snapshot).all (fun live => decide live.IsPortable) &&
          check ((noted text).selection everything snapshot)) = .ok true) :
    ∃ snapshot, (noted text).Ships everything snapshot ∧
      check ((noted text).selection everything snapshot) = true := by
  obtain ⟨snapshot, hsnapshot, h⟩ := map_eq_ok.1 h
  simp only [Bool.and_eq_true, Bool.not_eq_true', List.all_eq_true, decide_eq_true_eq] at h
  obtain ⟨⟨hsome, hportable⟩, hcheck⟩ := h
  have hheader : ∀ text ∈ ["All", "", "", "http://localhost", "4.0"], Xml.IsLegalText text := by
    decide
  have hclock : fitsColumn 0 := by decide
  refine ⟨snapshot, ⟨hsnapshot, fun hnil => ?_, hportable, by decide, hheader, hclock, rfl⟩, hcheck⟩
  rw [hnil] at hsome
  cases hsome

theorem room_noted {text : String} {preset : Preset} {library : Library}
    (hnext : ((noted text).exportSite everything).map (fun result => result.2.library.nextPresetId) =
      .ok 2)
    (hexport : (noted text).exportSite everything = .ok (preset, (noted text).withLibrary library)) :
    fitsColumn library.nextPresetId := by
  rw [hexport] at hnext
  have hnext : library.nextPresetId = 2 := Except.ok.inj hnext
  rw [hnext]
  decide

def markup : String := " <b>Closed</b> & ]]>\n\t\"soon\" "

theorem markup_transported :
    ∃ snapshot preset library text imported stored report,
      (noted markup).Ships everything snapshot ∧
      (noted markup).exportSite everything = .ok (preset, (noted markup).withLibrary library) ∧
      preset.document.toXml = .ok text ∧
      ((noted markup).withLibrary library).importXml text none none =
        .ok (imported, (noted markup).withLibrary stored) ∧
      imported.items.map StoredItem.item = preset.items.map StoredItem.item ∧
      ((noted markup).withLibrary stored).apply imported.id { override := true } none =
        (.ok report, (noted markup).withLibrary stored) ∧
      report.applied = [] := by
  obtain ⟨snapshot, hships, hplain⟩ := @exists_ships markup
    (fun settings => settings.all fun live => !(exportText live).toList.contains '\r')
    (by decide +kernel)
  have hplain : ∀ live ∈ (noted markup).selection everything snapshot,
      '\r' ∉ (exportText live).toList := by
    simpa using hplain
  obtain ⟨preset, library, text, hexport, -, horderly, -, hwrite, himports⟩ :=
    Service.xml_transports hships (Library.orderly_empty _)
  have hclock : fitsColumn 0 := by decide
  have hroom : fitsColumn library.nextPresetId := room_noted (by decide +kernel) hexport
  obtain ⟨imported, stored, himport, -, happlies⟩ :=
    himports ((noted markup).withLibrary library) none none rfl horderly hclock rfl hroom
  obtain ⟨report, last, happly, -, hidle⟩ :=
    happlies { override := true } none ⟨rfl, rfl, rfl, rfl, rfl⟩ rfl
  obtain ⟨hitems, hnil, rfl⟩ := hidle hplain
  exact ⟨snapshot, preset, library, text, imported, stored, report, hships, hexport, hwrite, himport,
    hitems, happly, hnil⟩

def brokenLine : String := "closed\r\nfor now"

/-- A line end of two characters comes back as one character, and is written to the site that it comes
from. -/
theorem line_end_lost :
    ∃ snapshot preset library text imported stored report last,
      (noted brokenLine).Ships everything snapshot ∧
      (noted brokenLine).exportSite everything = .ok (preset, (noted brokenLine).withLibrary library) ∧
      preset.document.toXml = .ok text ∧
      ((noted brokenLine).withLibrary library).importXml text none none =
        .ok (imported, (noted brokenLine).withLibrary stored) ∧
      imported.items.map StoredItem.item ≠ preset.items.map StoredItem.item ∧
      ((noted brokenLine).withLibrary stored).apply imported.id { override := true } none =
        (.ok report, last) ∧
      report.applied.map Entry.key = [notice] := by
  obtain ⟨snapshot, hships, hcheck⟩ := @exists_ships brokenLine
    (fun settings => decide (settings.map returnedItem ≠ settings.map exportItem ∧
      (settings.filter Descriptor.isAltered).map Descriptor.key = [notice]))
    (by decide +kernel)
  obtain ⟨hdiffers, haltered⟩ := of_decide_eq_true hcheck
  obtain ⟨preset, library, text, hexport, -, horderly, hitems, hwrite, hread⟩ :=
    hships.exists_text (Library.orderly_empty _)
  have hclock : fitsColumn 0 := by decide
  have hroom : fitsColumn library.nextPresetId := room_noted (by decide +kernel) hexport
  obtain ⟨imported, stored, himport, hget, hstates, hreturned⟩ :=
    @Service.Ships.exists_importXml _ _ _ ((noted brokenLine).withLibrary library) text none hships hread
      rfl horderly hclock rfl hroom none
  obtain ⟨report, last, happly, happlied, -⟩ :=
    @Service.Ships.exists_apply _ _ _ ((noted brokenLine).withLibrary stored) _ hships rfl _ hget hstates
      hreturned { override := true } ⟨rfl, rfl, rfl, rfl, rfl⟩ rfl hclock none
  refine ⟨snapshot, preset, library, text, imported, stored, report, last, hships, hexport, hwrite,
    himport, ?_, happly, ?_⟩
  · rw [hreturned, hitems]
    exact hdiffers
  · have hkeys := congrArg (List.map Prod.fst) happlied
    rw [List.map_map, List.map_map] at hkeys
    exact hkeys.trans haltered

end SmallSite

end SitePresets
