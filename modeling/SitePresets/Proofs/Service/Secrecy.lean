import SitePresets.Proofs.Service.Exporting
import SitePresets.Proofs.Site.Persisting

/-!
# What an export does not tell

An export without the excluded settings is the same on two sites that differ in those settings only, in
their values and their facets.
-/

namespace SitePresets

/-- Whether a key belongs to an excluded setting of a tree: its own, or the one of a facet of it. -/
def Node.Guards (root : Node) (exclusions : List Key) (key : Key) : Prop :=
  ∃ declared ∈ root.declarations, declared.key ∈ exclusions ∧
    (key = declared.key ∨ ∃ facet : Facet, key = ⟨declared.scope, facet.variableOf declared.name⟩)

/-- Two stores that agree on everything but some values: what the one holds there may be something else than
what the other holds, but it can be read there if it can be read here. -/
structure Store.DiffersOn (store other : Store) (guarded : Key → Prop) : Prop where
  get_eq : ∀ key, ¬ guarded key → other.get key = store.get key
  readable_eq : ∀ key, (other.get key).map (fun _ => ()) = (store.get key).map fun _ => ()
  plugins : store.SamePlugins other

/-- Two descriptors of one setting that are exported alike, unless it is excluded. -/
def Descriptor.LooksLike (exclusions : List Key) (live now : Descriptor) : Prop :=
  now.key = live.key ∧ (live.key ∉ exclusions → Exchange.exportItem now = Exchange.exportItem live)

theorem Exchange.exportItem_eq {live now : Descriptor} (h : live.Alike now) (hraw : now.raw = live.raw)
    (hfacets : now.facets = live.facets) : exportItem now = exportItem live := by
  have hvalue : now.value = live.value := by
    unfold Descriptor.value
    rw [h.clean_eq, hraw]
  unfold exportItem
  simp only [h.key_eq, hvalue, hraw, hfacets, h.facetKey_eq]

namespace Site

variable {site : Site} {store : Store} {exclusions : List Key} {declared : Declaration}

/-! ### Reading -/

theorem not_guards_key (hroot : site.tree.FacetsApart) (hdeclared : declared ∈ site.tree.declarations)
    (hkept : declared.key ∉ exclusions) : ¬ site.tree.Guards exclusions declared.key := by
  rintro ⟨other, hother, hexcluded, heq | ⟨facet, heq⟩⟩
  · exact hkept (heq ▸ hexcluded)
  · exact hroot declared hdeclared other hother facet (congrArg Key.scope heq) (congrArg Key.name heq)

theorem not_guards_facet (hroot : site.tree.FacetsApart)
    (hdeclared : declared ∈ site.tree.declarations) (hkept : declared.key ∉ exclusions)
    (facet : Facet) :
    ¬ site.tree.Guards exclusions ⟨declared.scope, facet.variableOf declared.name⟩ := by
  rintro ⟨other, hother, hexcluded, heq | ⟨otherFacet, heq⟩⟩
  · exact hroot other hother declared hdeclared facet (congrArg Key.scope heq).symm
      (congrArg Key.name heq).symm
  · have hname := (Facet.variableOf_inj (congrArg Key.name heq)).2
    have hscope : declared.scope = other.scope := congrArg Key.scope heq
    have hkey : declared.key = other.key := by
      show (⟨declared.scope, declared.name⟩ : Key) = ⟨other.scope, other.name⟩
      rw [hscope, hname]
    exact hkept (hkey ▸ hexcluded)

/-- Under a key both stores hold something that can be read or neither does, and the same if the key is not
guarded. -/
theorem sameOutcome_get {other : Store} {guarded : Key → Prop}
    (h : store.DiffersOn other guarded) (kept : Prop) {key : Key} (hkey : kept → ¬ guarded key) :
    SameOutcome (fun stored found => kept → found = stored) (store.get key) (other.get key) := by
  have hreadable := h.readable_eq key
  by_cases hkept : kept
  · rw [h.get_eq key (hkey hkept)]
    cases store.get key with
    | ok stored => exact .ok fun _ => rfl
    | error refusal => exact .error refusal
  · cases hstored : store.get key with
    | ok stored =>
      rw [hstored] at hreadable
      obtain ⟨found, hfound, -⟩ := map_eq_ok.1 hreadable
      rw [hfound]
      exact .ok fun h => absurd h hkept
    | error refusal =>
      rw [hstored] at hreadable
      cases hfound : other.get key with
      | ok found =>
        rw [hfound] at hreadable
        cases hreadable
      | error failed =>
        rw [hfound] at hreadable
        rw [Except.error.inj hreadable]
        exact .error refusal

theorem sameOutcome_readFacet (hroot : site.tree.FacetsApart)
    (hdeclared : declared ∈ site.tree.declarations)
    (h : site.store.DiffersOn store (site.tree.Guards exclusions)) (facet : Facet) :
    SameOutcome (fun row found => declared.key ∉ exclusions → found = row)
      (readFacet site.store declared facet) (readFacet store declared facet) := by
  unfold readFacet
  refine (sameOutcome_get h (declared.key ∉ exclusions) fun hkept =>
    not_guards_facet hroot hdeclared hkept facet).bind fun stored found hsame => ?_
  exact .ok fun hkept => by rw [hsame hkept]

/-- A setting that is not excluded is exported alike from both sites. -/
theorem sameOutcome_read (hroot : site.tree.FacetsApart)
    (hdeclared : declared ∈ site.tree.declarations)
    (h : site.store.DiffersOn store (site.tree.Guards exclusions)) :
    SameOutcome (Descriptor.LooksLike exclusions) (site.read declared)
      ({ site with store }.read declared) := by
  unfold read
  refine (sameOutcome_get h (declared.key ∉ exclusions) fun hkept =>
    not_guards_key hroot hdeclared hkept).bind fun stored found hstored => ?_
  refine (SameOutcome.mapM fun facet _ => sameOutcome_readFacet hroot hdeclared h facet).bind
    fun given others hgiven => ?_
  refine .ok ⟨rfl, fun hkept => ?_⟩
  have hsame : others = given := by
    have hrows : List.Forall₂ Eq given others :=
      hgiven.imp fun row found hrow => (hrow hkept).symm
    exact (List.forall₂_eq_eq_eq ▸ hrows : given = others).symm
  rw [hsame, hstored hkept]
  have hplugins : site.store.SamePlugins ({ site with store } : Site).store := h.plugins
  exact Exchange.exportItem_eq ⟨rfl, rfl, Persists.isChoice_choicesOf hplugins _ _ _ _⟩ rfl rfl

end Site

/-! ### Snapshots -/

/-- Two snapshots with the same keys in their order, that show alike what is not excluded. -/
def Snapshot.LooksLike (exclusions : List Key) (snapshot other : Snapshot) : Prop :=
  List.Forall₂ (fun row found => found.1 = row.1 ∧ row.2.LooksLike exclusions found.2)
    snapshot.rows other.rows

namespace Snapshot

variable {site : Site} {store : Store} {exclusions : List Key} {snapshot other : Snapshot}

theorem LooksLike.contains_eq (h : snapshot.LooksLike exclusions other) (key : Key) :
    other.contains key = snapshot.contains key := by
  obtain ⟨rows⟩ := snapshot
  obtain ⟨others⟩ := other
  show (Table.find? key others).isSome = (Table.find? key rows).isSome
  have hrows : List.Forall₂ _ rows others := h
  induction hrows with
  | nil => rfl
  | @cons row found rest more hrow hrest ih =>
    rw [Table.find?, Table.find?, hrow.1]
    split
    · rfl
    · exact ih hrest

theorem LooksLike.put {live now : Descriptor} (h : snapshot.LooksLike exclusions other)
    (hlive : live.LooksLike exclusions now) (key : Key) :
    LooksLike exclusions (snapshot.put key live) (other.put key now) := by
  obtain ⟨rows⟩ := snapshot
  obtain ⟨others⟩ := other
  show List.Forall₂ _ (Table.write key live rows) (Table.write key now others)
  have hrows : List.Forall₂ _ rows others := h
  induction hrows with
  | nil => exact .cons ⟨rfl, hlive⟩ .nil
  | @cons row found rest more hrow hrest ih =>
    rw [Table.write, Table.write, hrow.1]
    split
    · exact .cons ⟨rfl, hlive⟩ hrest
    · exact .cons ⟨rfl, hrow.2⟩ (ih hrest)

theorem sameOutcome_add (hroot : site.tree.FacetsApart) {declared : Declaration}
    (hdeclared : declared ∈ site.tree.declarations)
    (h : site.store.DiffersOn store (site.tree.Guards exclusions))
    (hlike : snapshot.LooksLike exclusions other) :
    SameOutcome (LooksLike exclusions) (add site snapshot declared)
      (add { site with store } other declared) := by
  unfold add
  rw [hlike.contains_eq, h.plugins.scopeAvailable_eq]
  split
  · exact .ok hlike
  · refine (Site.sameOutcome_read hroot hdeclared h).bind fun live now hsame => .ok ?_
    exact hlike.put hsame declared.key

/-- The snapshots of both sites look alike. -/
theorem sameOutcome_ofSite (hroot : site.tree.FacetsApart)
    (h : site.store.DiffersOn store (site.tree.Guards exclusions)) :
    SameOutcome (LooksLike exclusions) (ofSite site) (ofSite { site with store }) :=
  SameOutcome.foldlM (fun _ _ _ hdeclared hlike => sameOutcome_add hroot hdeclared h hlike) .nil

end Snapshot

/-! ### Exports -/

namespace Exchange

variable {request : ExportRequest} {exclusions : List Key} {snapshot other : Snapshot}

theorem not_mem_of_isWanted (hsensitive : request.includeSensitive = false) {live : Descriptor}
    (hwanted : isWanted request exclusions live) : live.key ∉ exclusions := by
  unfold isWanted at hwanted
  rw [hsensitive, Bool.false_or, Bool.and_eq_true] at hwanted
  simpa using hwanted.2

theorem exportItems_eq (hsensitive : request.includeSensitive = false)
    (h : snapshot.LooksLike exclusions other) :
    exportItems request exclusions other = exportItems request exclusions snapshot := by
  have hrows : List.Forall₂ (Descriptor.LooksLike exclusions) (snapshot.rows.map Prod.snd)
      (other.rows.map Prod.snd) :=
    List.forall₂_map_left_iff.2 (List.forall₂_map_right_iff.2 (h.imp fun _ _ hrow => hrow.2))
  have horder : List.Forall₂ (Descriptor.LooksLike exclusions) snapshot.inOrder other.inOrder :=
    Grouping.forall₂_grouped (fun live now hlike => congrArg Key.scope hlike.1) hrows
  unfold exportItems
  generalize snapshot.inOrder = lives, other.inOrder = founds at horder
  induction horder with
  | nil => rfl
  | @cons live now rest more hlike _ ih =>
    have hwanted : isWanted request exclusions now = isWanted request exclusions live := by
      unfold isWanted
      rw [hlike.1]
    rw [List.filter_cons, List.filter_cons, hwanted]
    split
    · rename_i hlive
      -- What is wanted is not excluded, so it is exported alike.
      rw [List.map_cons, List.map_cons, ih, hlike.2 (not_mem_of_isWanted hsensitive hlive)]
    · exact ih

theorem not_mem_of_exportItems (hsensitive : request.includeSensitive = false) {item : Item}
    (hitem : item ∈ exportItems request exclusions snapshot) : item.key ∉ exclusions := by
  obtain ⟨live, hlive, rfl⟩ := List.mem_map.1 hitem
  exact not_mem_of_isWanted hsensitive (List.mem_filter.1 hlive).2

end Exchange

namespace Service

variable {service : Service} {store : Store} {request : ExportRequest}

/-- An export comes to a preset, or there was nothing to export, if the site can be read. -/
theorem exportSite_cases (hread : ∃ snapshot, Snapshot.ofSite service.site = .ok snapshot)
    (hclock : fitsColumn service.clock) (huser : request.user.all fitsColumn) :
    (∃ preset after, service.exportSite request = .ok (preset, after)) ∨
      service.exportSite request = .error (.invalidPreset .nothingSelected) := by
  obtain ⟨snapshot, hsnapshot⟩ := hread
  by_cases hsome : (service.exported request snapshot).items = []
  · have hzero : fitsColumn 0 := by decide
    have hfits : (service.exportHeading request).Fits service.clock :=
      ⟨hclock, hzero, hzero, rfl, huser⟩
    have hnone : Exchange.exportItems request service.exclusions snapshot = [] := hsome
    refine .inr ?_
    unfold exportSite Service.snapshot
    rw [ofStore_eq_ok.2 hsnapshot, ok_bind, hnone]
    show (service.library.create service.clock (service.exportHeading request) >>= _) = _
    rw [Library.create_of_fits hfits, ok_bind]
    rfl
  · obtain ⟨preset, library, hexport, -⟩ := exists_exportSite hsnapshot hclock huser hsome
    exact .inl ⟨preset, _, hexport⟩

/-- An export without the excluded settings tells nothing of them: neither their values nor their facets
make a difference to the preset, or to the error, and no item is one of them. -/
theorem exportSite_tells_nothing (request : ExportRequest) (hroot : service.site.tree.FacetsApart)
    (hsensitive : request.includeSensitive = false)
    (h : service.site.store.DiffersOn store (service.site.tree.Guards service.exclusions)) :
    ((service.withStore store).exportSite request).map
          (fun result => (result.1, result.2.library)) =
        (service.exportSite request).map (fun result => (result.1, result.2.library)) ∧
      (∀ preset after, service.exportSite request = .ok (preset, after) →
        ∀ row ∈ preset.items, row.item.key ∉ service.exclusions) ∧
      ((∀ key, ∃ value, service.site.store.get key = .ok value) → fitsColumn service.clock →
        request.user.all fitsColumn →
          (∃ preset after, service.exportSite request = .ok (preset, after)) ∨
            service.exportSite request = .error (.invalidPreset .nothingSelected)) := by
  refine ⟨?_, fun preset after hexport row hrow => ?_, fun hread => exportSite_cases ?_⟩
  · have hsnapshot : SameOutcome (Snapshot.LooksLike service.exclusions) service.snapshot
        (service.withStore store).snapshot :=
      (Snapshot.sameOutcome_ofSite hroot h).mapError _
    have hsame : SameOutcome
        (fun (result found : Preset × Service) =>
          found.1 = result.1 ∧ found.2.library = result.2.library)
        (service.exportSite request) ((service.withStore store).exportSite request) := by
      refine hsnapshot.bind fun snapshot other hlike => ?_
      -- The rest of an export depends on the snapshot by its items only.
      have hitems : Exchange.exportItems request (service.withStore store).exclusions other =
          Exchange.exportItems request service.exclusions snapshot :=
        Exchange.exportItems_eq hsensitive hlike
      rw [hitems]
      refine (SameOutcome.refl _).bind fun created _ hcreated => hcreated ▸ ?_
      refine (SameOutcome.refl _).bind fun filled _ hfilled => hfilled ▸ ?_
      obtain ⟨preset, library⟩ := filled
      dsimp only
      split
      · exact .error _
      · exact .ok ⟨rfl, rfl⟩
    exact hsame.map_eq fun result found hresult => Prod.ext hresult.1 hresult.2
  · obtain ⟨snapshot, -, hitem⟩ := mem_exportItems hexport hrow
    exact Exchange.not_mem_of_exportItems hsensitive hitem
  · exact Snapshot.exists_ofSite fun _ declared _ =>
      Site.exists_read (hread declared.key) fun facet _ => hread _

end Service

namespace SmallSite

/-- The small site with a notice that nobody is to see. -/
def confidential : Service :=
  { service with
    site := { service.site with
      store := .memory (.ofLists [(comments, some "1"), (notice, some "secret")] [(chat, 1)]) }
    exclusions := [notice] }

theorem differs_on_notice :
    confidential.site.store.DiffersOn service.site.store
      (confidential.site.tree.Guards confidential.exclusions) where
  get_eq key hkey := by
    have hne : notice ≠ key := by
      rintro rfl
      exact hkey ⟨{ name := "notice" }, List.mem_cons_self, List.mem_cons_self, .inl rfl⟩
    show Except.ok (Option.join (Table.get? _ key)) = Except.ok (Option.join (Table.get? _ key))
    rw [Memory.ofLists, Memory.ofLists, Table.get?_ofList, Table.get?_ofList]
    simp [Table.find?, hne]
  readable_eq _ := rfl
  plugins := ⟨fun _ => rfl, fun _ => .refl _⟩

theorem notice_untold :
    ((confidential.withStore service.site.store).exportSite { name := "All" }).map
          (fun result => (result.1, result.2.library)) =
        (confidential.exportSite { name := "All" }).map (fun result => (result.1, result.2.library)) ∧
      ∃ preset after, confidential.exportSite { name := "All" } = .ok (preset, after) ∧
        ∀ row ∈ preset.items, row.item.key ≠ notice := by
  obtain ⟨hsame, hkept, hexports⟩ := Service.exportSite_tells_nothing { name := "All" }
    tree_facetsApart rfl differs_on_notice
  refine ⟨hsame, ?_⟩
  rcases hexports (fun _ => ⟨_, rfl⟩) rfl rfl with ⟨preset, after, hexport⟩ | hnone
  · refine ⟨preset, after, hexport, fun row hrow heq => ?_⟩
    exact hkept preset after hexport row hrow (heq ▸ List.mem_cons_self)
  · have hsome : (confidential.exportSite { name := "All" }).toOption.isSome := by decide
    rw [hnone] at hsome
    cases hsome

def password : Key := ⟨siteScope, "password"⟩

/-- The small site in a database, with a password that nobody is to see. -/
def passworded (stored : Stored) : Service where
  site := {
    store := .rows { Rows.empty with values := ⟨[(password, { stored, updatedBy := none })]⟩ }
    tree := .category "root" "" [.page "door" "" [.setting { name := "password" }], tree] }
  exclusions := [password]

/-- A password that cannot be decrypted is told: the export of the other settings fails. -/
theorem undecryptable_told :
    (passworded (.plain "secret")).site.tree.FacetsApart ∧
      (∀ key, ¬ (passworded (.plain "secret")).site.tree.Guards [password] key →
        (passworded (.plain "secret")).site.store.get key =
          (passworded (.sealed "secret")).site.store.get key) ∧
      ((passworded (.sealed "secret")).exportSite { name := "All" }).map
          (fun result => result.1.items.map fun row => row.item.key) = .ok [notice, comments] ∧
      ((passworded (.plain "secret")).exportSite { name := "All" }).map
          (fun result => result.1.items.map fun row => row.item.key) =
        .error (.refused (.undecryptable "password")) := by
  refine ⟨by decide, fun key hkey => ?_, by decide +kernel, by decide +kernel⟩
  have hne : password ≠ key := by
    rintro rfl
    exact hkey ⟨{ name := "password" }, List.mem_cons_self, List.mem_cons_self, .inl rfl⟩
  have hnone (stored : Stored) : (passworded stored).site.store.get key = .ok none := by
    show Stored.decode? _ (Option.map _ (if password = key then _ else none)) = _
    rw [if_neg hne]
    rfl
  rw [hnone, hnone]

end SmallSite

end SitePresets
