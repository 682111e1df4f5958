import SitePresets.Proofs.Service.Recording
import SitePresets.Proofs.Store.Mirror
import SitePresets.Service.Step

/-!
# A memory and a database give the same answers

A session that only uses the store cannot tell a memory from a database, as long as the numbers that it
hands over fit the columns of the database. The order of lists of plugins is the one thing that differs.
-/

namespace SitePresets

/-- Answers that say the same; lists of plugins may come in another order. -/
inductive Answer.Same : Answer → Answer → Prop
  | refl (answer : Answer) : Same answer answer
  | states {found other : List (String × Int)} (hperm : other.Perm found) :
    Same (.states found) (.states other)
  | texts {found other : List String} (hperm : other.Perm found) :
    Same (.texts found) (.texts other)

/-- Results of a step that say the same. -/
inductive SameResult : Except Error Answer → Except Error Answer → Prop
  | ok {answer other : Answer} (hsame : answer.Same other) : SameResult (.ok answer) (.ok other)
  | error (error : Error) : SameResult (.error error) (.error error)

namespace SiteStep

/-- A step that uses nothing but the store. -/
def OnStore : SiteStep → Prop
  | .set .. | .get _ | .log _ | .plugin _ | .setPlugin .. | .plugins _ | .handlers _
  | .scopeAvailable _ | .visible _ | .setVisible .. => True
  | _ => False

/-- The states of plugins that a step sets. -/
def states : SiteStep → List Int
  | .setPlugin _ enabled => [enabled]
  | _ => []

/-- The numbers of users and of changes that a step hands over. -/
def ids : SiteStep → List Int
  | .set _ _ user => user.toList
  | .log id => [id]
  | _ => []

end SiteStep

namespace Service

/-- Two services that protect the same, with stores that mirror each other. -/
structure Mirrors (service other : Service) (changes : List Change) : Prop where
  store : service.site.store.Mirrors other.site.store changes
  readOnly_eq : other.site.readOnly = service.site.readOnly
  pinned_eq : other.site.pinned = service.site.pinned

variable {service other : Service} {changes : List Change} {step : SiteStep} {answer : Answer}

/-- Two steps that end alike: both fail for the same reason and leave their services as they were, or the
services that they leave mirror each other and the answers say the same. -/
inductive EndAlike (service other : Service) : Except (Failure Error Service) (Answer × Service) →
    Except (Failure Error Service) (Answer × Service) → Prop
  | error (cause : Error) :
    EndAlike service other (.error { cause, left := service }) (.error { cause, left := other })
  | ok {found same : Answer} {after next : Service} {changes : List Change} (hsame : found.Same same)
    (hmirrors : after.Mirrors next changes) :
    EndAlike service other (.ok (found, after)) (.ok (same, next))

namespace Mirrors

theorem endAlike_unchanged {found same : Answer} (h : service.Mirrors other changes)
    (hsame : found.Same same) : EndAlike service other (service.unchanged found) (other.unchanged same) :=
  .ok hsame h

theorem endAlike_set (h : service.Mirrors other changes) {key : Key} {value : Option String}
    {user : Option Int} (huser : user.all fitsColumn) :
    EndAlike service other (service.siteStep (.set key value user))
      (other.siteStep (.set key value user)) := by
  obtain ⟨change, after, next, hset, hother, hmirrors⟩ := h.store.exists_set huser key value
  simp only [siteStep, ofWrite, Site.set]
  rw [h.readOnly_eq, hset, hother]
  by_cases hkey : key ∈ service.site.readOnly
  · rw [if_pos hkey, if_pos hkey]
    exact .error _
  · rw [if_neg hkey, if_neg hkey]
    exact .ok (.refl _) ⟨hmirrors, rfl, h.pinned_eq⟩

theorem endAlike_setPlugin (h : service.Mirrors other changes) {plugin : Plugin} {enabled : Int}
    (hfits : fitsColumn enabled) :
    EndAlike service other (service.siteStep (.setPlugin plugin enabled))
      (other.siteStep (.setPlugin plugin enabled)) := by
  simp only [siteStep, Site.setPlugin]
  rw [h.pinned_eq]
  by_cases hpinned : plugin ∈ service.site.pinned
  · rw [if_pos hpinned, if_pos hpinned]
    exact .error _
  · rw [if_neg hpinned, if_neg hpinned]
    have hplugin := h.store.samePlugins.plugin_eq plugin
    cases hold : service.site.store.plugin? plugin with
    | none =>
      unfold Store.setPlugin
      rw [hplugin, hold]
      exact .error _
    | some old =>
      have hset := Store.setPlugin_eq_ok.2 ⟨hold, Store.holds_of_fits hfits _, rfl⟩
      have hother := Store.setPlugin_eq_ok.2
        ⟨hplugin.trans hold, Store.holds_of_fits hfits _, rfl⟩
      rw [hset, hother]
      exact .ok (.refl _)
        ⟨h.store.withPlugins (h.store.plugins.put plugin enabled), h.readOnly_eq, rfl⟩

theorem endAlike_siteStep (h : service.Mirrors other changes) (hstore : step.OnStore)
    (hstates : ∀ z ∈ step.states, fitsColumn z) (hids : ∀ z ∈ step.ids, fitsColumn z) :
    EndAlike service other (service.siteStep step) (other.siteStep step) := by
  cases step with
  | set key value user =>
    refine h.endAlike_set ?_
    cases user with
    | none => rfl
    | some z => exact hids z List.mem_cons_self
  | setPlugin plugin enabled => exact h.endAlike_setPlugin (hstates enabled List.mem_cons_self)
  | get key =>
    simp only [siteStep]
    rw [h.store.records.get_eq, h.store.records_other.get_eq]
    exact h.endAlike_unchanged (.refl _)
  | log id =>
    have hid : fitsColumn id := hids id List.mem_cons_self
    simp only [siteStep]
    rw [h.store.change_eq hid, h.store.records.change_eq (Store.holds_of_fits hid _)]
    exact h.endAlike_unchanged (.refl _)
  | plugin plugin =>
    simp only [siteStep]
    rw [h.store.samePlugins.plugin_eq]
    exact h.endAlike_unchanged (.refl _)
  | plugins type => exact h.endAlike_unchanged (.states (h.store.samePlugins.pluginsOf_perm type))
  | handlers type => exact h.endAlike_unchanged (.texts (h.store.samePlugins.handlersOf_perm type))
  | scopeAvailable scope =>
    simp only [siteStep]
    rw [h.store.samePlugins.scopeAvailable_eq]
    exact h.endAlike_unchanged (.refl _)
  | visible component =>
    simp only [siteStep]
    rw [h.store.isVisible_eq]
    exact h.endAlike_unchanged (.refl _)
  | setVisible component visible =>
    exact .ok (.refl _) ⟨h.store.setVisible component visible, h.readOnly_eq, h.pinned_eq⟩
  | read | write | settings | tree | install | installPlugins => exact hstore.elim

end Mirrors

theorem step_of_siteStep_ok {after : Service} (h : service.siteStep step = .ok (answer, after)) :
    service.step (.site step) = (.ok answer, after) :=
  step_of_ok (congrArg settle h)

/-- A step that leaves the site as it was and fails leaves the whole service as it was. -/
theorem step_of_siteStep_error {error : Error}
    (h : service.siteStep step = .error { cause := error, left := service }) :
    service.step (.site step) = (.error error, service) := by
  have hattempt : service.attempt (.site step) = (.error error, service) := congrArg settle h
  rw [step_of_error hattempt, takeBack_of_site_eq rfl]

theorem Mirrors.sameResult_step (h : service.Mirrors other changes) (hstore : step.OnStore)
    (hstates : ∀ z ∈ step.states, fitsColumn z) (hids : ∀ z ∈ step.ids, fitsColumn z) :
    SameResult (service.step (.site step)).1 (other.step (.site step)).1 ∧
      ∃ changes, (service.step (.site step)).2.Mirrors (other.step (.site step)).2 changes := by
  have halike := h.endAlike_siteStep hstore hstates hids
  generalize hleft : service.siteStep step = left at halike
  generalize hright : other.siteStep step = right at halike
  cases halike with
  | error error =>
    rw [step_of_siteStep_error hleft, step_of_siteStep_error hright]
    exact ⟨.error error, changes, h⟩
  | @ok _ _ _ _ changes hsame hmirrors =>
    rw [step_of_siteStep_ok hleft, step_of_siteStep_ok hright]
    exact ⟨.ok hsame, changes, hmirrors⟩

theorem Mirrors.sameResult_run {steps : List SiteStep} (h : service.Mirrors other changes)
    (hstore : ∀ step ∈ steps, step.OnStore)
    (hstates : ∀ step ∈ steps, ∀ z ∈ step.states, fitsColumn z)
    (hids : ∀ step ∈ steps, ∀ z ∈ step.ids, fitsColumn z) :
    List.Forall₂ SameResult (service.run (steps.map .site)).1 (other.run (steps.map .site)).1 := by
  induction steps generalizing service other changes with
  | nil => exact .nil
  | cons step rest ih =>
    obtain ⟨hsame, changes, hnext⟩ :=
      h.sameResult_step (hstore step List.mem_cons_self)
        (hstates step List.mem_cons_self) (hids step List.mem_cons_self)
    refine .cons hsame (ih hnext ?_ ?_ ?_)
    · exact fun step hstep => hstore step (List.mem_cons_of_mem _ hstep)
    · exact fun step hstep => hstates step (List.mem_cons_of_mem _ hstep)
    · exact fun step hstep => hids step (List.mem_cons_of_mem _ hstep)

theorem setPlugin_of_not_installed {plugin : Plugin} {enabled : Int}
    (hpinned : plugin ∉ service.site.pinned) (hplugin : service.site.store.plugin? plugin = none) :
    service.step (.site (.setPlugin plugin enabled)) =
      (.error (.refused (.notInstalled plugin)), service) := by
  refine step_of_siteStep_error ?_
  simp only [siteStep, Site.setPlugin]
  rw [if_neg hpinned]
  unfold Store.setPlugin
  rw [hplugin]
  rfl

/-- Starting empty but for the same plugins, a memory and a database give the same answers at every
step that uses the store. A plugin that is not installed is refused, and nothing changes. -/
theorem memory_and_rows_agree (service : Service) {plugins installed : List (Plugin × Int)}
    (hplugins : ∀ plugin,
      (Table.ofList installed).get? plugin = (Table.ofList plugins).get? plugin)
    {steps : List SiteStep} (hstore : ∀ step ∈ steps, step.OnStore)
    (hstates : ∀ step ∈ steps, ∀ z ∈ step.states, fitsColumn z)
    (hids : ∀ step ∈ steps, ∀ z ∈ step.ids, fitsColumn z) :
    List.Forall₂ SameResult
      ((service.withStore (.memory (.ofLists [] plugins))).run (steps.map .site)).1
      ((service.withStore (.rows { Rows.empty with plugins := .ofList installed })).run
        (steps.map .site)).1 ∧
    ∀ (reached : Service) (plugin : Plugin) (enabled : Int), plugin ∉ reached.site.pinned →
      reached.site.store.plugin? plugin = none →
        reached.step (.site (.setPlugin plugin enabled)) =
          (.error (.refused (.notInstalled plugin)), reached) := by
  refine ⟨?_, fun _ _ _ => setPlugin_of_not_installed⟩
  have hmirrors : Mirrors (service.withStore (.memory (.ofLists [] plugins)))
      (service.withStore (.rows { Rows.empty with plugins := .ofList installed })) [] :=
    ⟨.of_empty hplugins, rfl, rfl⟩
  exact hmirrors.sameResult_run hstore hstates hids

end Service

namespace SmallSite

def quiz : Plugin := ⟨"mod", "quiz"⟩

/-- A secret is written and read, plugins are listed and switched, and an unknown one is refused. -/
def storeSteps : List SiteStep := [
  .set ⟨siteScope, "smtppass"⟩ (some "hush") (some 2),
  .get ⟨siteScope, "smtppass"⟩,
  .set ⟨siteScope, "smtppass"⟩ none none,
  .log 1,
  .setPlugin quiz (-1),
  .setPlugin ⟨"mod", "wiki"⟩ 1,
  .plugins "mod",
  .handlers "mod",
  .setVisible "block" false,
  .visible "block"]

theorem storeSteps_agree :
    List.Forall₂ SameResult
      ((service.withStore (.memory (.ofLists [] [(quiz, 1), (chat, 0)]))).run
        (storeSteps.map .site)).1
      ((service.withStore (.rows { Rows.empty with plugins := .ofList [(chat, 0), (quiz, 1)] })).run
        (storeSteps.map .site)).1 ∧
    service.step (.site (.setPlugin quiz 1)) = (.error (.refused (.notInstalled quiz)), service) := by
  have hplugins (plugin : Plugin) : (Table.ofList [(chat, (0 : Int)), (quiz, 1)]).get? plugin =
      (Table.ofList [(quiz, (1 : Int)), (chat, 0)]).get? plugin := by
    have hne : quiz ≠ chat := by decide
    show Table.find? plugin [(chat, (0 : Int)), (quiz, 1)] =
      Table.find? plugin [(quiz, (1 : Int)), (chat, 0)]
    simp only [Table.find?]
    by_cases hchat : chat = plugin
    · subst hchat
      simp [hne]
    · simp [hchat]
  have hstore : ∀ step ∈ storeSteps, step.OnStore := by
    simp [storeSteps, SiteStep.OnStore]
  have hstates : ∀ step ∈ storeSteps, ∀ z ∈ step.states, fitsColumn z := by decide
  have hids : ∀ step ∈ storeSteps, ∀ z ∈ step.ids, fitsColumn z := by decide
  obtain ⟨hrun, hrefused⟩ :=
    Service.memory_and_rows_agree service hplugins hstore hstates hids
  exact ⟨hrun, hrefused service quiz 1 (by decide) (by decide)⟩

/-- A number that does not fit the columns is refused by the database alone. -/
theorem wide_numbers_differ :
    ¬ List.Forall₂ SameResult
      ((service.withStore (.memory (.ofLists [] []))).run [.site (.log 9223372036854775808)]).1
      ((service.withStore (.rows .empty)).run [.site (.log 9223372036854775808)]).1 ∧
    ¬ List.Forall₂ SameResult
      ((service.withStore (.memory (.ofLists [] []))).run
        [.site (.set notice (some "open") (some 9223372036854775808))]).1
      ((service.withStore (.rows .empty)).run
        [.site (.set notice (some "open") (some 9223372036854775808))]).1 := by
  constructor
  · rintro (_ | ⟨hsame, -⟩)
    cases hsame
  · rintro (_ | ⟨hsame, -⟩)
    cases hsame

end SmallSite

end SitePresets
