import SitePresets.Descriptor.Basic

/-!
# Facets and their variables

A variable holds one facet of one setting, so the attributes of an item say without ambiguity which
facets it gives: those with a text, and of two texts for one facet the later one.
-/

namespace SitePresets

namespace Table

variable {κ ν : Type} [DecidableEq κ] {key : κ}

theorem find?_eq_none {rows : List (κ × ν)} (h : ∀ row ∈ rows, row.1 ≠ key) :
    find? key rows = none := by
  induction rows with
  | nil => rfl
  | cons row rest ih =>
    rw [find?, if_neg (h row List.mem_cons_self)]
    exact ih fun other hother => h other (List.mem_cons_of_mem _ hother)

theorem find?_append (rows more : List (κ × ν)) :
    find? key (rows ++ more) = (find? key rows).or (find? key more) := by
  induction rows with
  | nil => rfl
  | cons row rest ih =>
    rw [List.cons_append, find?, find?]
    split
    · rfl
    · exact ih

theorem get?_foldl_put (pairs : List (κ × ν)) (table : Table κ ν) :
    (pairs.foldl (fun table (key, value) => table.put key value) table).get? key =
      (find? key pairs.reverse).or (table.get? key) := by
  induction pairs generalizing table with
  | nil => rfl
  | cons pair rest ih =>
    rw [List.foldl_cons, ih, List.reverse_cons, find?_append, Option.or_assoc, get?_put]
    by_cases h : pair.1 = key
    · simp [find?, h]
    · simp [find?, h, Ne.symm h]

/-- Of two pairs with one key the later one counts. -/
theorem get?_ofList (pairs : List (κ × ν)) : (ofList pairs).get? key = find? key pairs.reverse := by
  unfold ofList
  rw [get?_foldl_put, get?_empty, Option.or_none]

theorem find?_filterMap (f : κ → Option ν) {keys : List κ} (h : key ∈ keys) :
    find? key (keys.filterMap fun k => (f k).map fun v => (k, v)) = f key := by
  induction keys with
  | nil => cases h
  | cons k rest ih =>
    by_cases hrest : key ∈ rest
    · by_cases hk : k = key
      · subst hk
        cases hf : f k with
        | some v => simp [hf, find?]
        | none => simpa [hf] using ih hrest
      · cases hf : f k with
        | some v => simpa [hf, find?, hk] using ih hrest
        | none => simpa [hf] using ih hrest
    · obtain rfl := (List.mem_cons.1 h).resolve_right hrest
      cases hf : f key with
      | some v => simp [hf, find?]
      | none =>
        rw [List.filterMap_cons, hf]
        refine find?_eq_none fun row hrow heq => hrest ?_
        obtain ⟨k, hk, hrow⟩ := List.mem_filterMap.1 hrow
        obtain ⟨v, -, rfl⟩ := Option.map_eq_some_iff.1 hrow
        exact heq ▸ hk

theorem nodup_filterMap {κ ν : Type} (f : κ → Option ν) {keys : List κ} (h : keys.Nodup) :
    ((keys.filterMap fun k => (f k).map fun v => (k, v)).map Prod.fst).Nodup := by
  refine List.Nodup.sublist ?_ h
  clear h
  induction keys with
  | nil => exact List.Sublist.refl _
  | cons k rest ih =>
    cases hf : f k with
    | none => simpa [hf] using ih.cons k
    | some v => simpa [hf] using ih

end Table

namespace Facet

variable {facet other : Facet} {a b : String}

theorem variableOf_inj (h : facet.variableOf a = other.variableOf b) : facet = other ∧ a = b := by
  have hchars := congrArg String.toList h
  simp only [variableOf, String.toList_append] at hchars
  cases facet <;> cases other
  case advanced.advanced | locked.locked =>
    refine ⟨rfl, String.toList_inj.1 ?_⟩
    simpa only [List.append_cancel_right_eq] using hchars
  -- The names of the variables of different facets end in different letters.
  all_goals
    have hlast := congrArg List.getLast? hchars
    simp [field] at hlast

end Facet

theorem Kind.nodup_facets (kind : Kind) : kind.facets.Nodup := by
  cases kind <;> decide

instance (p : Facet → Prop) [DecidablePred p] : Decidable (∀ facet, p facet) :=
  decidable_of_iff (∀ facet ∈ Facet.all, p facet)
    ⟨fun h facet => h facet (Facet.mem_all facet), fun h facet _ => h facet⟩

/-- No declared setting bears the name of a facet variable of another one of its scope. -/
def Node.FacetsApart (root : Node) : Prop :=
  ∀ declared ∈ root.declarations, ∀ other ∈ root.declarations, ∀ facet : Facet,
    declared.scope = other.scope → declared.name ≠ facet.variableOf other.name

instance (root : Node) : Decidable root.FacetsApart :=
  inferInstanceAs (Decidable (∀ declared ∈ root.declarations, ∀ other ∈ root.declarations,
    ∀ facet : Facet, declared.scope = other.scope → declared.name ≠ facet.variableOf other.name))

namespace Descriptor

variable {kind : Kind} {given : List (Facet × Option String)} {facet : Facet} {on : Bool}
  {d : Descriptor}

theorem find?_facetsOf (hfacet : facet ∈ kind.facets) :
    Table.find? facet (facetsOf kind given) =
      (Table.find? facet given).join.map Value.textIsOn := by
  have h := Table.find?_filterMap
    (fun facet => (Table.find? facet given).join.map Value.textIsOn) hfacet
  simpa [facetsOf, Option.map_map, Function.comp_def] using h

theorem mem_facetsOf : (facet, on) ∈ facetsOf kind given ↔
    facet ∈ kind.facets ∧ ∃ text, Table.find? facet given = some (some text) ∧
      on = Value.textIsOn text := by
  unfold facetsOf
  rw [List.mem_filterMap]
  constructor
  · rintro ⟨facet', hfacet, h⟩
    obtain ⟨text, htext, h⟩ := Option.map_eq_some_iff.1 h
    obtain ⟨rfl, rfl⟩ := Prod.mk.inj h
    exact ⟨hfacet, text, by simpa [Option.join_eq_some_iff] using htext, rfl⟩
  · rintro ⟨hfacet, text, htext, hon⟩
    exact ⟨facet, hfacet, by rw [htext, hon]; rfl⟩

theorem nodup_facetsOf : ((facetsOf kind given).map Prod.fst).Nodup := by
  have h := Table.nodup_filterMap (fun facet => (Table.find? facet given).join.map Value.textIsOn)
    kind.nodup_facets
  simpa [facetsOf, Option.map_map, Function.comp_def] using h

theorem facetOfVariable_eq_some {name : String} :
    d.facetOfVariable? name = some facet ↔
      facet ∈ d.kind.facets ∧ name = facet.variableOf d.declared.name := by
  unfold facetOfVariable?
  constructor
  · intro h
    have hname : facet.variableOf d.declared.name = name := by
      simpa using List.find?_some h
    exact ⟨List.mem_of_find?_eq_some h, hname.symm⟩
  · rintro ⟨hfacet, rfl⟩
    cases hfind : d.kind.facets.find? fun other =>
        other.variableOf d.declared.name = facet.variableOf d.declared.name with
    | none => simpa using List.find?_eq_none.1 hfind facet hfacet
    | some other =>
      have hname : other.variableOf d.declared.name = facet.variableOf d.declared.name := by
        simpa using List.find?_some hfind
      exact congrArg some (Facet.variableOf_inj hname).1

/-- What attributes give for a facet is what the last one with its variable says. -/
theorem find?_given (hfacet : facet ∈ d.kind.facets) (attributes : List (String × Option String)) :
    Table.find? facet (attributes.filterMap fun (name, text) =>
        (d.facetOfVariable? name).map fun facet => (facet, text)) =
      Table.find? (facet.variableOf d.declared.name) attributes := by
  induction attributes with
  | nil => rfl
  | cons pair rest ih =>
    obtain ⟨name, text⟩ := pair
    by_cases hname : name = facet.variableOf d.declared.name
    · subst hname
      simp [facetOfVariable_eq_some.2 ⟨hfacet, rfl⟩, Table.find?]
    · cases hother : d.facetOfVariable? name with
      | none => simpa [hother, Table.find?, hname] using ih
      | some other =>
        have hne : other ≠ facet := by
          rintro rfl
          exact hname (facetOfVariable_eq_some.1 hother).2
        simpa [hother, Table.find?, hname, hne] using ih

theorem get?_given (hfacet : facet ∈ d.kind.facets) (attributes : List (String × Option String)) :
    (Table.ofList (attributes.filterMap fun (name, text) =>
        (d.facetOfVariable? name).map fun facet => (facet, text))).get? facet =
      Table.find? (facet.variableOf d.declared.name) attributes.reverse := by
  rw [Table.get?_ofList, ← List.filterMap_reverse, find?_given hfacet]

theorem mem_facets_withStored {raw : Option String} {attributes : List (String × Option String)} :
    (facet, on) ∈ (d.withStored raw attributes).facets ↔
      facet ∈ d.kind.facets ∧ ∃ text,
        Table.find? (facet.variableOf d.declared.name) attributes.reverse = some (some text) ∧
          on = Value.textIsOn text := by
  show (facet, on) ∈ facetsOf d.kind _ ↔ _
  rw [mem_facetsOf]
  refine and_congr_right fun hfacet => ?_
  show (∃ text, Table.get? _ facet = some (some text) ∧ _) ↔ _
  rw [get?_given hfacet]

end Descriptor

end SitePresets
