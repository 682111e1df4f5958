import SitePresets.Proofs.Descriptor.Facets
import SitePresets.Proofs.Outcome
import SitePresets.Snapshot

/-!
# Reading a site

What a setting is that was read from a site, and what the snapshot of a site holds: under each key
the first declared setting with it, if its scope is available, as the site reads it.
-/

namespace SitePresets

namespace Site

/-- What a setting is that was read from a site. -/
structure Shows (site : Site) (declared : Declaration) (live : Descriptor) : Prop where
  declared_eq : live.declared = declared
  kind_eq : live.kind = Resolver.kindOf site.chain declared
  choices_eq : live.choices = choicesOf site.store live.kind declared
  raw_eq : ∃ stored, site.store.get declared.key = .ok stored ∧
    live.raw = some (stored.getD declared.defaultText)
  facet_eq : ∀ facet ∈ live.kind.facets, ∃ stored, site.store.get (live.facetKey facet) = .ok stored ∧
    live.facet? facet =
      some (Value.textIsOn ((stored.or (declared.defaultOf? facet.field)).getD "0"))

variable {site : Site} {declared : Declaration} {live : Descriptor}

/-- A setting has the same choices on every site, unless it chooses among the handlers of a type. -/
theorem choicesOf_cases (kind : Kind) (declared : Declaration) :
    (∀ store after, choicesOf after kind declared = choicesOf store kind declared) ∨
      kind = .handlerSelect ∧ ∃ type, declared.handlerType = some type ∧
        ∀ store, choicesOf store kind declared =
          some ((store.handlersOf type).map fun handler => (handler, (Plugin.ofScope handler).name)) := by
  cases kind with
  | handlerSelect =>
    unfold choicesOf
    cases declared.handlerType with
    | none => exact .inl fun _ _ => rfl
    | some type =>
      by_cases htype : type = ""
      · exact .inl fun _ _ => by simp [htype]
      · exact .inr ⟨rfl, type, rfl, fun _ => by simp [htype]⟩
  | _ => exact .inl fun _ _ => rfl

theorem isChoice_handlers {rule : ValueRule} {handlers : List String}
    (h : rule.choices = some (handlers.map fun handler => (handler, (Plugin.ofScope handler).name)))
    (value : String) : rule.isChoice value = decide (value ∈ handlers) := by
  unfold ValueRule.isChoice
  rw [h, Bool.eq_iff_iff]
  simp

theorem find?_of_forall_readFacet {store : Store} {facets : List Facet}
    {given : List (Facet × Option String)} {facet : Facet}
    (h : List.Forall₂ (fun facet row => readFacet store declared facet = .ok row) facets given)
    (hfacet : facet ∈ facets) :
    ∃ stored, store.get ⟨declared.scope, facet.variableOf declared.name⟩ = .ok stored ∧
      Table.find? facet given =
        some (some ((stored.or (declared.defaultOf? facet.field)).getD "0")) := by
  induction h with
  | nil => cases hfacet
  | @cons first row rest rows hrow hrows ih =>
    obtain ⟨stored, hstored, hrow⟩ := bind_eq_ok.1 hrow
    obtain rfl := Except.ok.inj hrow
    by_cases hfirst : first = facet
    · subst hfirst
      exact ⟨stored, hstored, by simp [Table.find?]⟩
    · rw [Table.find?, if_neg hfirst]
      exact ih ((List.mem_cons.1 hfacet).resolve_left (Ne.symm hfirst))

theorem shows_of_read (h : site.read declared = .ok live) : site.Shows declared live := by
  obtain ⟨stored, hstored, h⟩ := bind_eq_ok.1 h
  obtain ⟨given, hgiven, h⟩ := bind_eq_ok.1 h
  obtain rfl := Except.ok.inj h
  exact {
    declared_eq := rfl
    kind_eq := rfl
    choices_eq := rfl
    raw_eq := ⟨stored, hstored, rfl⟩
    facet_eq := by
      intro facet hfacet
      obtain ⟨text, htext, hfind⟩ := find?_of_forall_readFacet (mapM_eq_ok.1 hgiven) hfacet
      refine ⟨text, htext, ?_⟩
      refine (Descriptor.find?_facetsOf hfacet).trans ?_
      rw [hfind]
      rfl }

theorem exists_read (hvalue : ∃ stored, site.store.get declared.key = .ok stored)
    (hfacets : ∀ facet ∈ (Resolver.kindOf site.chain declared).facets,
      ∃ stored, site.store.get ⟨declared.scope, facet.variableOf declared.name⟩ = .ok stored) :
    ∃ live, site.read declared = .ok live := by
  obtain ⟨stored, hstored⟩ := hvalue
  have hread : ∀ facet ∈ (Resolver.kindOf site.chain declared).facets,
      ∃ row, readFacet site.store declared facet = .ok row ∧ row.1 = facet := by
    intro facet hfacet
    obtain ⟨text, htext⟩ := hfacets facet hfacet
    exact ⟨_, bind_eq_ok.2 ⟨text, htext, rfl⟩, rfl⟩
  obtain ⟨given, hgiven, -⟩ := exists_mapM hread
  exact ⟨_, bind_eq_ok.2 ⟨stored, hstored, bind_eq_ok.2 ⟨given, hgiven, rfl⟩⟩⟩

/-- Whether the settings with a key are offered: not without a name, and not those of a disabled
plugin. -/
def offers (site : Site) (key : Key) : Bool :=
  key.name ≠ "" ∧ site.store.scopeAvailable key.scope

theorem offers_iff {key : Key} :
    site.offers key ↔ key.name ≠ "" ∧ site.store.scopeAvailable key.scope :=
  decide_eq_true_iff

/-- The declared setting that is offered under a key. -/
def offered? (site : Site) (key : Key) : Option Declaration :=
  if site.offers key then site.tree.find? key else none

/-- The setting that the site has under a key. -/
def lookup (site : Site) (key : Key) : Except Refusal (Option Descriptor) :=
  (site.offered? key).elim (.ok none) fun declared => (site.read declared).map some

theorem lookup_eq_some {key : Key} :
    site.lookup key = .ok (some live) ↔
      ∃ declared, site.offered? key = some declared ∧ site.read declared = .ok live := by
  unfold lookup
  cases site.offered? key <;> simp [map_eq_ok]

theorem offered_eq_some {key : Key} : site.offered? key = some declared ↔
    site.offers key ∧ site.tree.find? key = some declared := by
  unfold offered?
  split
  · rename_i hoffers
    exact (and_iff_right hoffers).symm
  · rename_i hoffers
    exact iff_of_false (fun h => nomatch h) fun h => hoffers h.1

theorem mem_of_offered {key : Key} (h : site.offered? key = some declared) :
    declared ∈ site.tree.declarations ∧ declared.key = key := by
  have hfound := (offered_eq_some.1 h).2
  exact ⟨List.mem_of_find?_eq_some hfound, by simpa using List.find?_some hfound⟩

end Site

namespace Snapshot

open Site

variable {site : Site} {snapshot after : Snapshot} {declared : Declaration}

theorem add_of_skip (h : ¬ site.offers declared.key ∨ snapshot.contains declared.key) :
    add site snapshot declared = .ok snapshot := by
  unfold add
  rw [if_pos]
  rcases h with h | h
  · by_cases hname : declared.name = ""
    · exact .inl hname
    · refine .inr (.inl fun havailable => h ?_)
      exact offers_iff.2 ⟨hname, havailable⟩
  · exact .inr (.inr h)

theorem add_of_offers (hoffers : site.offers declared.key) (hnew : ¬ snapshot.contains declared.key) :
    add site snapshot declared = (site.read declared).map (snapshot.put declared.key) := by
  have h := offers_iff.1 hoffers
  unfold add
  rw [if_neg]
  · cases site.read declared <;> rfl
  · rintro (hname | havailable | hcontains)
    · exact h.1 hname
    · exact havailable h.2
    · exact hnew hcontains

/-- The rest of a snapshot, for what it does not have yet. -/
theorem foldlM_add {declarations : List Declaration}
    (h : declarations.foldlM (add site) snapshot = .ok after) (key : Key) :
    match snapshot.get? key with
    | some live => after.get? key = some live
    | none =>
      (if site.offers key then declarations.find? fun declared => declared.key = key else none).elim
        (.ok none) (fun declared => (site.read declared).map some) = .ok (after.get? key) := by
  induction declarations generalizing snapshot with
  | nil =>
    obtain rfl := Except.ok.inj h
    cases hkey : snapshot.get? key <;> simp
  | cons declared rest ih =>
    rw [List.foldlM_cons] at h
    obtain ⟨next, hnext, hrest⟩ := bind_eq_ok.1 h
    have ih := ih hrest
    by_cases hskip : ¬ site.offers declared.key ∨ snapshot.contains declared.key
    · rw [add_of_skip hskip] at hnext
      obtain rfl := Except.ok.inj hnext
      cases hkey : snapshot.get? key with
      | some live => simpa [hkey] using ih
      | none =>
        simp only [hkey] at ih
        by_cases heq : declared.key = key
        · subst heq
          have hoffers : ¬ site.offers declared.key := by
            simpa [Table.contains, hkey] using hskip
          simpa [hoffers] using ih
        · simpa [List.find?_cons, heq] using ih
    · simp only [not_or, not_not] at hskip
      rw [add_of_offers hskip.1 hskip.2] at hnext
      obtain ⟨live, hlive, rfl⟩ := map_eq_ok.1 hnext
      by_cases heq : declared.key = key
      · subst heq
        have hnone : snapshot.get? declared.key = none := by
          simpa [Table.contains] using hskip.2
        simp only [Table.get?_put_self] at ih
        simp [hnone, hskip.1, hlive, ih, Except.map]
      · rw [Table.get?_put_of_ne _ _ (Ne.symm heq)] at ih
        cases hkey : snapshot.get? key with
        | some live => simpa [hkey] using ih
        | none => simpa [hkey, List.find?_cons, heq] using ih

theorem lookup_eq_get (h : Snapshot.ofSite site = .ok snapshot) (key : Key) :
    site.lookup key = .ok (snapshot.get? key) :=
  foldlM_add h key

/-- A setting that a snapshot does not have yet, and that is the first of those to come with its key. -/
structure Lacks (site : Site) (snapshot : Snapshot) (declarations : List Declaration)
    (declared : Declaration) : Prop where
  offers : site.offers declared.key
  find_eq : (declarations.find? fun other => other.key = declared.key) = some declared
  get_eq : snapshot.get? declared.key = none

namespace Lacks

variable {rest : List Declaration} {found : Declaration}

theorem head (hoffers : site.offers declared.key) (hnew : ¬ snapshot.contains declared.key) :
    Lacks site snapshot (declared :: rest) declared where
  offers := hoffers
  find_eq := by simp
  get_eq := by simpa [Table.contains] using hnew

theorem of_skip (h : Lacks site snapshot rest found)
    (hskip : ¬ site.offers declared.key ∨ snapshot.contains declared.key) :
    Lacks site snapshot (declared :: rest) found := by
  have hne : declared.key ≠ found.key := by
    intro heq
    rw [heq] at hskip
    rcases hskip with hskip | hskip
    · exact hskip h.offers
    · simp [Table.contains, h.get_eq] at hskip
  exact ⟨h.offers, by simpa [List.find?_cons, hne] using h.find_eq, h.get_eq⟩

theorem of_put {live : Descriptor}
    (h : Lacks site (snapshot.put declared.key live) rest found) :
    Lacks site snapshot (declared :: rest) found := by
  have hne : found.key ≠ declared.key := by
    intro heq
    have hget := h.get_eq
    rw [heq, Table.get?_put_self] at hget
    cases hget
  refine ⟨h.offers, by simpa [List.find?_cons, Ne.symm hne] using h.find_eq, ?_⟩
  rw [← Table.get?_put_of_ne snapshot live hne]
  exact h.get_eq

end Lacks

theorem exists_foldlM_add {declarations : List Declaration}
    (h : ∀ declared, Lacks site snapshot declarations declared →
      ∃ live, site.read declared = .ok live) :
    ∃ after, declarations.foldlM (add site) snapshot = .ok after := by
  induction declarations generalizing snapshot with
  | nil => exact ⟨snapshot, rfl⟩
  | cons declared rest ih =>
    rw [List.foldlM_cons]
    by_cases hskip : ¬ site.offers declared.key ∨ snapshot.contains declared.key
    · rw [add_of_skip hskip]
      exact ih fun found hlacks => h found (hlacks.of_skip hskip)
    · simp only [not_or, not_not] at hskip
      obtain ⟨live, hlive⟩ := h declared (.head hskip.1 hskip.2)
      rw [add_of_offers hskip.1 hskip.2, hlive]
      exact ih fun found hlacks => h found hlacks.of_put

theorem exists_ofSite (h : ∀ key declared, site.offered? key = some declared →
    ∃ live, site.read declared = .ok live) : ∃ snapshot, Snapshot.ofSite site = .ok snapshot :=
  exists_foldlM_add fun declared hlacks =>
    h declared.key declared (offered_eq_some.2 ⟨hlacks.offers, hlacks.find_eq⟩)

theorem read_of_get (h : Snapshot.ofSite site = .ok snapshot) {key : Key} {live : Descriptor}
    (hlive : snapshot.get? key = some live) :
    ∃ declared, site.offered? key = some declared ∧ site.read declared = .ok live :=
  lookup_eq_some.1 (hlive ▸ lookup_eq_get h key)

theorem exists_read_of_ofSite (h : Snapshot.ofSite site = .ok snapshot) {key : Key}
    (hoffered : site.offered? key = some declared) :
    ∃ live, site.read declared = .ok live ∧ snapshot.get? key = some live := by
  have hlookup := lookup_eq_get h key
  unfold lookup at hlookup
  rw [hoffered] at hlookup
  obtain ⟨live, hlive, hget⟩ := map_eq_ok.1 hlookup
  exact ⟨live, hlive, hget.symm⟩

end Snapshot

end SitePresets
