import SitePresets.Proofs.Apply.Plugins
import SitePresets.Proofs.Service.Recording

/-!
# Ledgers and the log

A row of the ledger tells its write by the number that the log gave to it. As long as new changes get
new numbers, the row means the same change, or none if the log has forgotten it. The rows of one
application mean changes of different keys.
-/

namespace SitePresets

namespace Store

/-- The change that a row stands for, if the log has it. -/
def changeOf? (store : Store) (row : LedgerRow) : Option Change :=
  row.logId?.bind fun logId => (store.change? logId).toOption.join

/-- A store later on. Its log may have grown, and it may have forgotten changes. -/
structure Later (store after : Store) : Prop where
  nextChangeId_le : store.nextChangeId ≤ after.nextChangeId
  change_eq : ∀ id : Nat, id < store.nextChangeId →
    after.change? id = store.change? id ∨ after.change? id = .ok none
  holds_eq : after.holds = store.holds

/-- A number that was given out, whose change can be read. -/
structure Knows (store : Store) (logId : Nat) : Prop where
  lt : logId < store.nextChangeId
  readable : store.holds logId → ∃ found, store.change? logId = .ok found

/-- A row that a store can restore, if its write still stands. -/
inductive Tracks (store : Store) : LedgerRow → Prop
  | setting {logId : Nat} (hknows : store.Knows logId) : Tracks store (.setting logId)
  | facet {logId : Nat} {item : String} {facet : Facet} (hknows : store.Knows logId)
    (hname : ∀ change, store.change? logId = .ok (some change) →
      change.key.name = facet.variableOf item) : Tracks store (.facet logId item facet)
  | plugin {plugin : Plugin} {value old : Int} (hold : store.holds old) :
    Tracks store (.plugin plugin value old)

/-- Two rows that do not stand for changes of one key. -/
def RowsApart (store : Store) (a b : LedgerRow) : Prop :=
  ∀ change other, store.changeOf? a = some change → store.changeOf? b = some other →
    change.key ≠ other.key

/-- A store that can restore the rows of one application, each on its own. -/
structure Backs (store : Store) (rows : List LedgerRow) : Prop where
  tracks : ∀ row ∈ rows, store.Tracks row
  apart : rows.Pairwise store.RowsApart

variable {store middle after : Store} {row : LedgerRow} {rows part : List LedgerRow} {change : Change}

theorem changeOf_eq_some : store.changeOf? row = some change ↔
    ∃ logId, row.logId? = some logId ∧ store.change? logId = .ok (some change) := by
  unfold changeOf?
  rw [Option.bind_eq_some_iff]
  simp only [toOption_join_eq_some]

theorem holds_of_change {id : Int} {found : Option Change} (h : store.change? id = .ok found) :
    store.holds id := by
  cases store with
  | memory memory => rfl
  | rows rows =>
    have h : rows.change? id = .ok found := h
    unfold Rows.change? at h
    split at h
    · assumption
    · cases h

theorem holds_of_le {id bound : Nat} (hle : id ≤ bound) (hbound : store.holds bound) :
    store.holds id := by
  cases store with
  | memory memory => rfl
  | rows rows =>
    have hbound : fitsColumn bound := hbound
    show fitsColumn id = true
    unfold fitsColumn at hbound ⊢
    simp only [Bool.and_eq_true, decide_eq_true_eq] at hbound ⊢
    omega

theorem Tracks.lt (h : store.Tracks row) {logId : Nat} (hid : row.logId? = some logId) :
    logId < store.nextChangeId := by
  cases h with
  | setting hknows | facet hknows => exact Option.some.inj hid ▸ hknows.lt
  | plugin => cases hid

/-! ### Later on -/

namespace Later

theorem refl (store : Store) : store.Later store :=
  ⟨Nat.le_refl _, fun _ _ => .inl rfl, rfl⟩

theorem trans (h : store.Later middle) (h' : middle.Later after) : store.Later after where
  nextChangeId_le := Nat.le_trans h.nextChangeId_le h'.nextChangeId_le
  change_eq id hid := by
    rcases h'.change_eq id (Nat.lt_of_lt_of_le hid h.nextChangeId_le) with heq | hnone
    · rw [heq]
      exact h.change_eq id hid
    · exact .inr hnone
  holds_eq := h'.holds_eq.trans h.holds_eq

theorem of_sameValues (h : store.SameValues after) : store.Later after where
  nextChangeId_le := Nat.le_of_eq h.nextChangeId_eq.symm
  change_eq id _ := .inl (h.change_eq id)
  holds_eq := h.holds_eq

theorem of_wroteAll {site next : Site} {changes : List Change} (h : site.WroteAll changes next) :
    site.store.Later next.store where
  nextChangeId_le := by
    rw [h.nextChangeId_eq]
    omega
  change_eq _ hid := .inl (h.change_of_lt hid)
  holds_eq := h.keeps.holds_eq

theorem change_of_change (h : store.Later after) {logId : Nat} (hlt : logId < store.nextChangeId)
    (hchange : after.change? logId = .ok (some change)) :
    store.change? logId = .ok (some change) := by
  rcases h.change_eq logId hlt with heq | hnone
  · rw [← heq]
    exact hchange
  · rw [hnone] at hchange
    cases hchange

theorem knows (h : store.Later after) {logId : Nat} (hknows : store.Knows logId) :
    after.Knows logId where
  lt := Nat.lt_of_lt_of_le hknows.lt h.nextChangeId_le
  readable hholds := by
    rw [h.holds_eq] at hholds
    rcases h.change_eq logId hknows.lt with heq | hnone
    · rw [heq]
      exact hknows.readable hholds
    · exact ⟨none, hnone⟩

theorem tracks (h : store.Later after) (htracks : store.Tracks row) : after.Tracks row := by
  cases htracks with
  | setting hknows => exact .setting (h.knows hknows)
  | facet hknows hname =>
    exact .facet (h.knows hknows) fun change hchange =>
      hname change (h.change_of_change hknows.lt hchange)
  | plugin hold =>
    refine .plugin ?_
    rw [h.holds_eq]
    exact hold

theorem changeOf_of_changeOf (h : store.Later after) (htracks : store.Tracks row)
    (hchange : after.changeOf? row = some change) : store.changeOf? row = some change := by
  obtain ⟨logId, hid, hchange⟩ := changeOf_eq_some.1 hchange
  refine changeOf_eq_some.2 ⟨logId, hid, ?_⟩
  cases htracks with
  | setting hknows | facet hknows hname =>
    obtain rfl := Option.some.inj hid
    exact h.change_of_change hknows.lt hchange
  | plugin hold => cases hid

theorem backs (h : store.Later after) (hbacks : store.Backs rows) : after.Backs rows where
  tracks row hrow := h.tracks (hbacks.tracks row hrow)
  apart := hbacks.apart.imp_of_mem fun ha hb hapart change other hchange hother =>
    hapart change other (h.changeOf_of_changeOf (hbacks.tracks _ ha) hchange)
      (h.changeOf_of_changeOf (hbacks.tracks _ hb) hother)

end Later

theorem Backs.sublist (h : store.Backs rows) (hpart : part.Sublist rows) : store.Backs part where
  tracks row hrow := h.tracks row (hpart.subset hrow)
  apart := h.apart.sublist hpart

end Store

/-! ### The ledger of a new application -/

namespace LedgerRow

def rank : LedgerRow → Nat
  | setting _ => 0
  | facet .. => 1
  | plugin .. => 2

/-- Values first, then facets, then plugins. -/
def Arranged (rows : List LedgerRow) : Prop :=
  rows.Pairwise fun a b => a.rank ≤ b.rank

theorem arranged_arrange (rows : List LedgerRow) : Arranged (arrange rows) := by
  have hconst {test : LedgerRow → Bool} {rank : Nat} (htest : ∀ row, test row → row.rank = rank) :
      (rows.filter test).Pairwise fun a b => a.rank ≤ b.rank := by
    refine List.Pairwise.imp_of_mem (fun ha hb _ => ?_) (List.pairwise_of_forall fun _ _ => trivial)
    exact Nat.le_of_eq
      ((htest _ (List.mem_filter.1 ha).2).trans (htest _ (List.mem_filter.1 hb).2).symm)
  have hsetting (row : LedgerRow) (h : row.isSetting) : row.rank = 0 := by cases row <;> trivial
  have hfacet (row : LedgerRow) (h : row.isFacet) : row.rank = 1 := by cases row <;> trivial
  have hplugin (row : LedgerRow) (h : row.isPlugin) : row.rank = 2 := by cases row <;> trivial
  refine List.pairwise_append.2 ⟨List.pairwise_append.2 ⟨hconst hsetting, hconst hfacet, ?_⟩,
    hconst hplugin, ?_⟩
  · intro a ha b _
    rw [hsetting a (List.mem_filter.1 ha).2]
    exact Nat.zero_le _
  · intro a _ b hb
    rw [hplugin b (List.mem_filter.1 hb).2]
    cases a with
    | setting => exact Nat.zero_le 2
    | facet => exact Nat.le_succ 1
    | plugin => exact Nat.le_refl 2

end LedgerRow

theorem LedgerRow.arrange_perm (rows : List LedgerRow) : (arrange rows).Perm rows := by
  induction rows with
  | nil => exact .refl _
  | cons row rest ih =>
    cases row with
    | setting logId => exact ih.cons _
    | facet logId item facet =>
      have hmiddle : (rest.filter isSetting ++ LedgerRow.facet logId item facet :: rest.filter isFacet).Perm
          (LedgerRow.facet logId item facet :: (rest.filter isSetting ++ rest.filter isFacet)) :=
        List.perm_middle
      exact (hmiddle.append_right (rest.filter isPlugin)).trans (ih.cons _)
    | plugin plugin value old => exact List.perm_middle.trans (ih.cons _)

namespace Progress.Made

variable {before middle : Progress} {after : Store} {writes : List (Planned × Change)}
  {write : Planned × Change}

theorem changeOf_row (h : before.Made writes middle) (hafter : middle.site.store.SameValues after)
    (hwrite : write ∈ writes) {change : Change}
    (hchange : after.changeOf? (write.1.row write.2.id) = some change) : change = write.2 := by
  obtain ⟨logId, hid, hfound⟩ := Store.changeOf_eq_some.1 hchange
  have hrow : (write.1.row write.2.id).logId? = some write.2.id := by
    unfold Planned.row
    cases write.1.facet <;> rfl
  obtain rfl := Option.some.inj (hrow.symm.trans hid)
  have hholds := Store.holds_of_change hfound
  rw [hafter.change_eq] at hfound
  rw [hafter.holds_eq, h.wrote.keeps.holds_eq] at hholds
  have hself := h.wrote.change_of_mem (List.mem_map_of_mem hwrite) hholds
  rw [hself] at hfound
  exact (Option.some.inj (Except.ok.inj hfound)).symm

theorem tracks_row (h : before.Made writes middle) (hafter : middle.site.store.SameValues after)
    (hwrite : write ∈ writes) : after.Tracks (write.1.row write.2.id) := by
  have hknows : after.Knows write.2.id := by
    refine ⟨?_, fun hholds => ⟨some write.2, ?_⟩⟩
    · rw [hafter.nextChangeId_eq]
      exact (h.wrote.id_of_mem (List.mem_map_of_mem hwrite)).2
    · rw [hafter.change_eq]
      rw [hafter.holds_eq, h.wrote.keeps.holds_eq] at hholds
      exact h.wrote.change_of_mem (List.mem_map_of_mem hwrite) hholds
  have hkey := (h.fulfils write hwrite).1
  have hrow (change : Change) (hchange : after.changeOf? (write.1.row write.2.id) = some change) :
      change = write.2 := h.changeOf_row hafter hwrite hchange
  obtain ⟨⟨live, facet, text⟩, written⟩ := write
  cases facet with
  | none => exact .setting hknows
  | some facet =>
    refine .facet hknows fun change hchange => ?_
    rw [hrow change (Store.changeOf_eq_some.2 ⟨written.id, rfl, hchange⟩), hkey]
    rfl

/-- The ledger of a run that writes no key twice can be restored row by row. -/
theorem backs_arrange (h : before.Made writes middle) (hafter : middle.site.store.SameValues after)
    (hnodup : ((writes.map Prod.snd).map Change.key).Nodup) {rows : List LedgerRow}
    (hrows : ∀ row ∈ rows, ∃ plugin value old, row = .plugin plugin value old ∧ after.holds old) :
    after.Backs (LedgerRow.arrange ((writes.map fun write => write.1.row write.2.id) ++ rows)) where
  tracks row hrow := by
    rcases List.mem_append.1 (LedgerRow.mem_arrange.1 hrow) with hrow | hrow
    · obtain ⟨write, hwrite, rfl⟩ := List.mem_map.1 hrow
      exact h.tracks_row hafter hwrite
    · obtain ⟨plugin, value, old, rfl, hold⟩ := hrows row hrow
      exact .plugin hold
  apart := by
    refine (LedgerRow.arrange_perm _).symm.pairwise (List.pairwise_append.2 ⟨?_, ?_, ?_⟩)
      fun hab change other hchange hother => (hab other change hother hchange).symm
    · rw [List.map_map, List.Nodup, List.pairwise_map] at hnodup
      rw [List.pairwise_map]
      refine hnodup.imp_of_mem fun ha hb hne change other hchange hother => ?_
      rw [h.changeOf_row hafter ha hchange, h.changeOf_row hafter hb hother]
      exact hne
    · refine List.Pairwise.imp_of_mem (fun ha _ _ change other hchange _ => ?_)
        (List.pairwise_of_forall fun _ _ => trivial)
      obtain ⟨plugin, value, old, rfl, -⟩ := hrows _ ha
      cases hchange
    · intro a _ b hb change other _ hother
      obtain ⟨plugin, value, old, rfl, -⟩ := hrows b hb
      cases hother

end Progress.Made

end SitePresets
