import SitePresets.Proofs.Service.Operating
import SitePresets.Proofs.Store.Mirror

/-!
# The blog menu

The blog menu is shown or hidden by the writes of the blog level, each for the value that it writes. So it
follows the level unless a write takes the value away: that shows the menu, whatever the level is by
default then.
-/

namespace SitePresets

/-- The last change to a key. -/
def Change.last? (changes : List Change) (key : Key) : Option Change :=
  changes.reverse.find? fun change => change.key = key

theorem Change.last?_cons (change : Change) (rest : List Change) (key : Key) :
    last? (change :: rest) key =
      (last? rest key).or (if change.key = key then some change else none) := by
  unfold last?
  rw [List.reverse_cons, List.find?_append, List.find?_singleton]
  simp only [decide_eq_true_eq]

namespace Site

variable {site after : Site} {changes : List Change} {change : Change} {key : Key}
  {value : Option String} {user : Option Int} {live : Descriptor} {level : Declaration}

/-! ### One write -/

theorem isVisible_of_set (h : site.set key value user = .ok (change, after)) (component : String) :
    after.store.isVisible component = site.store.isVisible component := by
  unfold set at h
  split at h
  · cases h
  · obtain ⟨⟨written, store⟩, hset, h⟩ := bind_eq_ok.1 h
    obtain ⟨-, rfl⟩ := Prod.mk.inj (Except.ok.inj h)
    exact Store.isVisible_congr (Store.visibility_of_set hset) component

/-- A write of the blog level shows the menu for every value but one. No other write touches it. -/
theorem isVisible_of_write (h : site.write live value user = .ok (change, after)) :
    after.store.isVisible blogMenu =
      if live.kind = .blogLevel then decide (value ≠ some blogsDisabled)
      else site.store.isVisible blogMenu := by
  obtain ⟨⟨written, middle⟩, hset, h⟩ := bind_eq_ok.1 h
  dsimp only at h
  split at h
  · rename_i hkind
    obtain ⟨-, rfl⟩ := Prod.mk.inj (Except.ok.inj h)
    rw [if_pos hkind, Store.isVisible_setVisible, if_pos rfl]
  · rename_i hkind
    obtain ⟨-, rfl⟩ := Prod.mk.inj (Except.ok.inj h)
    rw [if_neg hkind, isVisible_of_set hset]

/-- The blog level of a site: its only setting of that kind, whose key is no variable of a facet. -/
structure HasLevel (site : Site) (level : Declaration) : Prop where
  find_eq : site.tree.find? level.key = some level
  kind_eq : Resolver.kindOf site.chain level = .blogLevel
  only : ∀ declared ∈ site.tree.declarations, Resolver.kindOf site.chain declared = .blogLevel →
    declared.key = level.key
  apart : ∀ declared ∈ site.tree.declarations,
    ∀ facet ∈ (Resolver.kindOf site.chain declared).facets,
      (⟨declared.scope, facet.variableOf declared.name⟩ : Key) ≠ level.key

theorem HasLevel.congr (h : site.HasLevel level) (htree : after.tree = site.tree)
    (hchain : after.chain = site.chain) : after.HasLevel level where
  find_eq := htree ▸ h.find_eq
  kind_eq := hchain ▸ h.kind_eq
  only := htree ▸ hchain ▸ h.only
  apart := htree ▸ hchain ▸ h.apart

theorem Declares.mem (h : site.Declares live) : live.declared ∈ site.tree.declarations :=
  List.mem_of_find?_eq_some h.find_eq

theorem Declares.kind_iff (h : site.Declares live) (hlevel : site.HasLevel level) :
    live.kind = .blogLevel ↔ live.key = level.key := by
  constructor
  · intro hkind
    exact hlevel.only _ h.mem (h.kind_eq ▸ hkind)
  · intro hkey
    have hfind := h.find_eq
    rw [hkey, hlevel.find_eq] at hfind
    rw [h.kind_eq, ← Option.some.inj hfind, hlevel.kind_eq]

/-- A write changes what the menu shows exactly if it changes the level. -/
theorem isVisible_of_perform {planned : Planned} (hlevel : site.HasLevel level)
    (hadmits : site.Admits planned) (h : planned.perform user site = .ok (change, after)) :
    after.store.isVisible blogMenu =
      if change.key = level.key then decide (change.new ≠ some blogsDisabled)
      else site.store.isVisible blogMenu := by
  obtain ⟨-, hkey, hnew⟩ := Planned.wrote_of_perform h
  rw [hkey, hnew]
  obtain ⟨live, facet, text⟩ := planned
  have hdeclares : site.Declares live := hadmits.declares
  cases facet with
  | none =>
    have hkind := hdeclares.kind_iff hlevel
    rw [isVisible_of_write h]
    exact if_congr hkind rfl rfl
  | some facet =>
    have hfacet : facet ∈ live.kind.facets := hadmits.facet_mem facet rfl
    rw [hdeclares.kind_eq] at hfacet
    have hapart : live.facetKey facet ≠ level.key := hlevel.apart _ hdeclares.mem facet hfacet
    rw [isVisible_of_set h]
    exact (if_neg hapart).symm

/-! ### A run -/

namespace Operates

theorem get_eq (h : site.Operates changes after) (key : Key) :
    after.store.get key = (Change.last? changes key).elim (site.store.get key) (.ok ·.new) := by
  induction h with
  | nil => rfl
  | @write site middle after planned user change rest _ hperform _ ih =>
    rw [ih, (Planned.wrote_of_perform hperform).1.store.get_eq, Change.last?_cons]
    cases Change.last? rest key with
    | some last => rfl
    | none =>
      rw [Option.none_or, Option.elim_none]
      by_cases hkey : change.key = key
      · rw [if_pos hkey, if_pos hkey.symm]
        rfl
      · rw [if_neg hkey, if_neg (Ne.symm hkey)]
        rfl
  | switch hset _ ih => rw [ih, (switches_of_setPlugin hset).values.get_eq]

theorem isVisible_eq (h : site.Operates changes after) (hlevel : site.HasLevel level) :
    after.store.isVisible blogMenu = (Change.last? changes level.key).elim
      (site.store.isVisible blogMenu) fun change => decide (change.new ≠ some blogsDisabled) := by
  induction h with
  | nil => rfl
  | @write site middle after planned user change rest hadmits hperform _ ih =>
    have hkeeps := (Planned.wrote_of_perform hperform).1.keeps
    rw [ih (hlevel.congr hkeeps.tree_eq hkeeps.chain_eq),
      isVisible_of_perform hlevel hadmits hperform, Change.last?_cons]
    cases Change.last? rest level.key with
    | some last => rfl
    | none =>
      simp only [Option.none_or]
      split <;> rfl
  | switch hset _ ih =>
    have hswitches := switches_of_setPlugin hset
    rw [ih (hlevel.congr hswitches.tree_eq hswitches.chain_eq)]
    obtain ⟨-, -, -, rfl⟩ := setPlugin_eq_ok.1 hset
    rw [Store.isVisible_congr (Store.visibility_withPlugins _ _)]

end Operates

/-- The menu is shown exactly if the level, the stored one or else the default, does not disable
blogs. -/
def MenuFollows (site : Site) (level : Declaration) : Prop :=
  ∃ stored, site.store.get level.key = .ok stored ∧
    (site.store.isVisible blogMenu ↔ stored.getD level.defaultText ≠ blogsDisabled)

theorem menuFollows_iff {stored : Option String} (h : site.store.get level.key = .ok stored) :
    site.MenuFollows level ↔
      (site.store.isVisible blogMenu ↔ stored.getD level.defaultText ≠ blogsDisabled) := by
  unfold MenuFollows
  rw [h]
  simp only [Except.ok.injEq, exists_eq_left']

/-- After a run the menu follows the level, unless the level is disabled by default and its value was
taken away last. -/
theorem Operates.menuFollows_iff (h : site.Operates changes after) (hlevel : site.HasLevel level)
    (hstart : site.MenuFollows level) :
    after.MenuFollows level ↔ ¬ (level.defaultText = blogsDisabled ∧
      ∃ change, Change.last? changes level.key = some change ∧ change.new = none) := by
  have hget := h.get_eq level.key
  have hvisible := h.isVisible_eq hlevel
  cases hlast : Change.last? changes level.key with
  | none =>
    obtain ⟨stored, hstored, hfollows⟩ := hstart
    rw [hlast, Option.elim_none] at hget hvisible
    rw [Site.menuFollows_iff (hget.trans hstored), hvisible]
    exact iff_of_true hfollows fun hlost => nomatch hlost.2
  | some change =>
    rw [hlast, Option.elim_some] at hget hvisible
    rw [Site.menuFollows_iff hget, hvisible, decide_eq_true_eq]
    simp only [Option.some.injEq, exists_eq_left']
    cases change.new with
    | none => simp
    | some text => simp

end Site

namespace Service

/-- Applies and rollbacks, in any order, leave a menu that follows the level, unless the level is disabled
by default and the last change that they made to it took its value away. Then the menu is shown. -/
theorem menu_follows {service : Service} {level : Declaration} {steps : List Step}
    (hlevel : service.site.HasLevel level) (hsteps : ∀ step ∈ steps, step.IsOperation)
    (hstart : service.site.MenuFollows level) :
    ∃ changes, (service.run steps).2.site.store.changes =
        service.site.store.changes ++ changes.map .ok ∧
      ((service.run steps).2.site.MenuFollows level ↔
        ¬ (level.defaultText = blogsDisabled ∧
          ∃ change, Change.last? changes level.key = some change ∧ change.new = none)) ∧
      (¬ (service.run steps).2.site.MenuFollows level →
        (service.run steps).2.site.store.get level.key = .ok none ∧
          (service.run steps).2.site.store.isVisible blogMenu) := by
  obtain ⟨changes, hoperates⟩ := service.operates_steps hsteps
  have hiff := hoperates.menuFollows_iff hlevel hstart
  refine ⟨changes, hoperates.changes_eq, hiff, fun hlost => ?_⟩
  obtain ⟨-, change, hlast, hnew⟩ := not_not.1 (mt hiff.2 hlost)
  rw [hoperates.get_eq, hoperates.isVisible_eq hlevel, hlast, Option.elim_some, Option.elim_some, hnew]
  exact ⟨rfl, rfl⟩

end Service

namespace SmallSite

/-- The blog level with a default. -/
def blogLevel (default : String) : Declaration where
  name := "bloglevel"
  component := some "core"
  settingClass := "admin_setting_bloglevel"
  default := .text default
  choices := some [("0", "Nobody"), ("1", "Oneself"), ("5", "The site")]

/-- A site whose blog level is the default, with a preset that sets it. -/
def blogService (default wanted : String) : Service where
  site := {
    store := (Store.memory (.ofLists [] [])).setVisible blogMenu (default ≠ blogsDisabled)
    tree := .category "root" "" [.page "front" "" [.setting (blogLevel default)]] }
  library := { presets := [{ preset 1 [] with
    items := [⟨1, { key := (blogLevel default).key, value := some wanted, attributes := [] }⟩] }] }

/-- The preset is applied and rolled back. -/
def thereAndBack : List Step := [.apply 1 {} none, .rollback 1 none .never none]

theorem blogService_hasLevel (default wanted : String) :
    (blogService default wanted).site.HasLevel (blogLevel default) where
  find_eq := rfl
  kind_eq := rfl
  only := by
    intro declared hdeclared _
    obtain rfl := List.mem_singleton.1 hdeclared
    rfl
  apart := by
    intro declared hdeclared facet hfacet
    obtain rfl := List.mem_singleton.1 hdeclared
    cases hfacet

theorem blogService_menuFollows (default wanted : String) :
    (blogService default wanted).site.MenuFollows (blogLevel default) := by
  have hdefault : (blogLevel default).defaultText = default := rfl
  refine ⟨none, rfl, ?_⟩
  unfold blogService
  rw [Store.isVisible_setVisible, if_pos rfl, decide_eq_true_eq, Option.getD_none, hdefault]

/-- With blogs for oneself by default, a preset that disables blogs hides the menu, and its rollback shows
it. -/
theorem menu_back_with_default :
    (blogService "1" "0").site.HasLevel (blogLevel "1") ∧
      (blogService "1" "0").site.MenuFollows (blogLevel "1") ∧
        ((blogService "1" "0").run thereAndBack).2.site.MenuFollows (blogLevel "1") := by
  have hlevel := blogService_hasLevel "1" "0"
  have hstart := blogService_menuFollows "1" "0"
  have hsteps : ∀ step ∈ thereAndBack, step.IsOperation := by
    simp [thereAndBack, Step.IsOperation]
  obtain ⟨changes, -, hiff, -⟩ :=
    Service.menu_follows hlevel hsteps hstart
  exact ⟨hlevel, hstart, hiff.2 fun hlost => absurd hlost.1 (by decide)⟩

/-- With blogs disabled by default, the rollback of a preset that enables them leaves the menu shown. -/
theorem menu_left_shown :
    (blogService "0" "5").site.HasLevel (blogLevel "0") ∧
      (blogService "0" "5").site.MenuFollows (blogLevel "0") ∧
        ¬ ((blogService "0" "5").run thereAndBack).2.site.MenuFollows (blogLevel "0") ∧
          ((blogService "0" "5").run thereAndBack).2.library.applications = [] := by
  refine ⟨blogService_hasLevel "0" "5", blogService_menuFollows "0" "5", ?_, by decide +kernel⟩
  have hstored : ((blogService "0" "5").run thereAndBack).2.site.store.get (blogLevel "0").key =
      .ok none := by
    decide +kernel
  rw [Site.menuFollows_iff hstored]
  decide +kernel

/-- A blog level that is stored where a facet of another setting is. -/
def sharedLevel : Declaration :=
  { blogLevel "1" with name := Facet.advanced.variableOf "blog" }

/-- A site with both settings, and a preset that gives a flag to the facet. -/
def sharedService : Service where
  site := {
    store := .memory (.ofLists [(sharedLevel.key, some "1")] [])
    tree := .category "root" "" [.page "front" "" [
      .setting { name := "blog", settingClass := "admin_setting_configtext_with_advanced" },
      .setting sharedLevel]] }
  library := { presets := [{ preset 1 [] with
    items := [⟨1, {
      key := ⟨siteScope, "blog"⟩, value := some "", attributes := [("blog_adv", some "0")] }⟩] }] }

/-- A level that is written as the facet of another setting disables blogs, and leaves the menu shown. -/
theorem menu_missed_by_facet :
    sharedService.site.MenuFollows sharedLevel ∧
      ¬ (sharedService.after (.apply 1 {} none)).site.MenuFollows sharedLevel := by
  have hbefore : sharedService.site.store.get sharedLevel.key = .ok (some "1") := by
    decide +kernel
  have hafter : (sharedService.after (.apply 1 {} none)).site.store.get sharedLevel.key =
      .ok (some "0") := by
    decide +kernel
  rw [Site.menuFollows_iff hbefore, Site.menuFollows_iff hafter]
  decide +kernel

end SmallSite

end SitePresets
