import Mathlib.Data.List.Forall2
import Mathlib.Data.List.Induction
import Mathlib.Logic.Function.Basic
import SitePresets.Proofs.Store.Plugins

/-!
# The log as a history

A log that accounts for everything in its store. Its numbers run from one without a gap, each change
starts from what the one before it has left under its key, and the store holds what the last changes
have left. Such a log can be replayed, and undone.
-/

namespace SitePresets

/-- What there is under each key. -/
abbrev Contents := Key → Option String

namespace Contents

def blank : Contents := fun _ => none

end Contents

namespace Change

def redo (contents : Contents) (change : Change) : Contents :=
  Function.update contents change.key change.new

def undo (change : Change) (contents : Contents) : Contents :=
  Function.update contents change.key change.old

/-- What changes leave under a key: the new value of its last change. -/
def lastOf (changes : List Change) (key : Key) : Option String :=
  (changes.reverse.find? fun change => change.key = key).bind Change.new

/-- Changes each of which starts from what the ones before it have left. -/
def Chained (changes : List Change) : Prop :=
  ∀ before change rest, changes = before ++ change :: rest →
    change.old = lastOf before change.key

variable {changes more : List Change} {change : Change}

@[simp]
theorem lastOf_nil : lastOf [] = Contents.blank := rfl

theorem lastOf_snoc (changes : List Change) (change : Change) :
    lastOf (changes ++ [change]) = change.redo (lastOf changes) := by
  funext key
  unfold lastOf redo
  rw [List.reverse_append, List.reverse_singleton, List.singleton_append, List.find?_cons]
  by_cases hkey : change.key = key
  · subst hkey
    simp
  · simp [hkey, Function.update_of_ne (Ne.symm hkey)]

theorem chained_nil : Chained [] := by
  intro before change rest h
  simp at h

theorem chained_snoc (h : Chained changes) (hold : change.old = lastOf changes change.key) :
    Chained (changes ++ [change]) := by
  intro before other rest heq
  rcases List.eq_nil_or_concat rest with rfl | ⟨rest, last, rfl⟩
  · obtain ⟨rfl, hother⟩ := List.append_inj' heq rfl
    obtain rfl := (List.cons.inj hother).1
    exact hold
  · have heq : changes ++ [change] = (before ++ other :: rest) ++ [last] := by
      rw [heq, List.append_assoc, List.cons_append, List.concat_eq_append]
    exact h before other rest (List.append_inj' heq rfl).1

/-- Replaying changes leaves under each key what its last change has left. -/
theorem foldl_redo (changes : List Change) : changes.foldl redo Contents.blank = lastOf changes := by
  induction changes using List.reverseRecOn with
  | nil => rfl
  | append_singleton changes change ih =>
    rw [List.foldl_append, ih, lastOf_snoc]
    rfl

theorem undo_redo {contents : Contents} (hold : change.old = contents change.key) :
    change.undo (change.redo contents) = contents := by
  unfold undo redo
  rw [Function.update_idem, hold, Function.update_eq_self]

/-- Undoing changes from the last to the first leaves nothing. -/
theorem foldr_undo (h : Chained changes) : changes.foldr undo (lastOf changes) = Contents.blank := by
  induction changes using List.reverseRecOn with
  | nil => rfl
  | append_singleton changes change ih =>
    have hfront : Chained changes := by
      intro before other rest heq
      refine h before other (rest ++ [change]) ?_
      rw [heq, List.append_assoc, List.cons_append]
    have hundo : change.undo (lastOf (changes ++ [change])) = lastOf changes := by
      rw [lastOf_snoc]
      exact undo_redo (h changes change [] rfl)
    calc (changes ++ [change]).foldr undo (lastOf (changes ++ [change]))
        = changes.foldr undo (change.undo (lastOf (changes ++ [change]))) := List.foldr_append
      _ = changes.foldr undo (lastOf changes) := by rw [hundo]
      _ = Contents.blank := ih hfront

/-- A change is found by its number at its place. -/
theorem find?_of_ids {start : Nat} (h : changes.map id = List.range' start changes.length) (z : Int) :
    changes.find? (fun change => change.id = z) =
      if start ≤ z then changes[(z - start).toNat]? else none := by
  induction changes generalizing start with
  | nil => simp
  | cons change rest ih =>
    rw [List.map_cons, List.length_cons, List.range'_succ] at h
    obtain ⟨hid, hrest⟩ := List.cons.inj h
    rw [List.find?_cons, hid, ih hrest]
    rcases Int.lt_trichotomy start z with hlt | heq | hgt
    · have hne : decide ((start : Int) = z) = false := decide_eq_false (by omega)
      have hplace : (z - start).toNat = (z - (start + 1 : Nat)).toNat + 1 := by omega
      rw [hne, hplace, List.getElem?_cons_succ, if_pos (by omega), if_pos (by omega)]
    · simp [heq]
    · have hne : decide ((start : Int) = z) = false := decide_eq_false (by omega)
      rw [hne, if_neg (by omega), if_neg (by omega)]

end Change

theorem Numbering.next_range' (n : Nat) : next (List.range' 1 n) = n + 1 := by
  induction n with
  | zero => rfl
  | succ n ih =>
    have hlast : 1 + 1 * n = next (List.range' 1 n) := by omega
    rw [List.range'_concat, hlast, next_append_next, ih]

namespace Store

open Change

/-- A store whose log is its history. -/
structure Records (store : Store) (changes : List Change) : Prop where
  changes_eq : store.changes = changes.map .ok
  ids_eq : changes.map Change.id = List.range' 1 changes.length
  chained : Chained changes
  get_eq : ∀ key, store.get key = .ok (lastOf changes key)

theorem changes_rows {rows : Rows} {changes : List Change} :
    (Store.rows rows).changes = changes.map .ok ↔ rows.log.mapM Rows.readRow = .ok changes := by
  rw [mapM_eq_ok, ← List.forall₂_eq_eq_eq]
  exact List.forall₂_map_left_iff.trans List.forall₂_map_right_iff

theorem id_of_readRow {row : LogRow} {change : Change} (h : Rows.readRow row = .ok change) :
    change.id = row.id := by
  obtain ⟨old, -, h⟩ := bind_eq_ok.1 h
  obtain ⟨new, -, h⟩ := bind_eq_ok.1 h
  obtain rfl := Except.ok.inj h
  rfl

theorem ids_of_readRows {rows : List LogRow} {changes : List Change}
    (h : List.Forall₂ (fun row change => Rows.readRow row = .ok change) rows changes) :
    rows.map LogRow.id = changes.map Change.id := by
  induction h with
  | nil => rfl
  | cons hrow _ ih => rw [List.map_cons, List.map_cons, ih, id_of_readRow hrow]

/-- A row is found by its number where its change is. -/
theorem find?_of_readRows {rows : List LogRow} {changes : List Change} (z : Int)
    (h : List.Forall₂ (fun row change => Rows.readRow row = .ok change) rows changes) :
    Option.Rel (fun row change => Rows.readRow row = .ok change)
      (rows.find? fun row => row.id = z) (changes.find? fun change => change.id = z) := by
  induction h with
  | nil => exact .none
  | @cons row change _ _ hrow _ ih =>
    rw [List.find?_cons, List.find?_cons, id_of_readRow hrow]
    by_cases hid : (row.id : Int) = z
    · rw [decide_eq_true hid]
      exact .some hrow
    · rw [decide_eq_false hid]
      exact ih

namespace Records

variable {store after : Store} {changes : List Change} {key : Key} {value : Option String}
  {change : Change}

theorem nextChangeId_eq (h : store.Records changes) : store.nextChangeId = changes.length + 1 := by
  cases store with
  | memory memory =>
    have hlength := congrArg List.length h.changes_eq
    simpa [Store.changes, nextChangeId] using hlength
  | rows rows =>
    have hids := ids_of_readRows (mapM_eq_ok.1 (changes_rows.1 h.changes_eq))
    show Numbering.next (rows.log.map LogRow.id) = _
    rw [hids, h.ids_eq, Numbering.next_range']

/-- The changes are found by their numbers. -/
theorem change_eq (h : store.Records changes) {id : Int} (hid : store.holds id) :
    store.change? id = .ok (if 1 ≤ id then changes[(id - 1).toNat]? else none) := by
  cases store with
  | memory memory =>
    have hlog : memory.log = changes :=
      List.map_injective_iff.2 (fun _ _ => Except.ok.inj) h.changes_eq
    show Except.ok (memory.change? id) = _
    have hplace : (id - 1).toNat = id.toNat - 1 := by omega
    unfold Memory.change?
    rw [hlog, hplace]
    rfl
  | rows rows =>
    have hid : fitsColumn id := hid
    have hfound := find?_of_readRows id (mapM_eq_ok.1 (changes_rows.1 h.changes_eq))
    rw [find?_of_ids h.ids_eq] at hfound
    change rows.change? id = .ok (if (1 : Nat) ≤ id then changes[(id - (1 : Nat)).toNat]? else none)
    unfold Rows.change?
    rw [if_pos hid]
    revert hfound
    generalize rows.log.find? _ = row
    generalize (if ((1 : Nat) : Int) ≤ id then _ else _) = found
    rintro (hrow | _)
    · simp [hrow, Except.map]
    · rfl

theorem of_blank (hchanges : store.changes = []) (hget : ∀ key, store.get key = .ok none) :
    store.Records [] :=
  ⟨hchanges, rfl, chained_nil, hget⟩

/-- The history of an empty database is empty. -/
theorem of_empty {rows : Rows} (hvalues : rows.values = .empty) (hlog : rows.log = []) :
    (Store.rows rows).Records [] := by
  refine .of_blank ?_ fun key => ?_
  · show rows.log.map Rows.readRow = []
    rw [hlog, List.map_nil]
  · show Stored.decode? key.name (rows.stored? key) = .ok none
    rw [Rows.stored?, hvalues]
    rfl

/-- A write continues the history. -/
theorem wrote (h : store.Records changes) (hwrote : store.Wrote key value change after) :
    after.Records (changes ++ [change]) where
  changes_eq := by rw [hwrote.changes_eq, h.changes_eq, List.map_append, List.map_singleton]
  ids_eq := by
    have hid : change.id = 1 + 1 * changes.length := by
      rw [hwrote.id_eq, h.nextChangeId_eq]
      omega
    rw [List.map_append, h.ids_eq, List.length_append, List.length_singleton, List.range'_concat,
      List.map_singleton, hid]
  chained := by
    refine chained_snoc h.chained ?_
    have hold := hwrote.old_eq
    rw [h.get_eq, ← hwrote.key_eq] at hold
    exact (Except.ok.inj hold).symm
  get_eq other := by
    rw [hwrote.get_eq, lastOf_snoc, h.get_eq, redo, hwrote.key_eq, hwrote.new_eq]
    by_cases hother : other = key
    · rw [if_pos hother, hother, Function.update_self]
    · rw [if_neg hother, Function.update_of_ne hother]

theorem sameValues (h : store.Records changes) (hsame : store.SameValues after) :
    after.Records changes where
  changes_eq := hsame.changes_eq.trans h.changes_eq
  ids_eq := h.ids_eq
  chained := h.chained
  get_eq key := (hsame.get_eq key).trans (h.get_eq key)

end Records

/-! ### Growing histories -/

/-- The store stays where it is kept, and its history is only continued. -/
structure Extends (store after : Store) : Prop where
  holds_eq : after.holds = store.holds
  records : ∀ changes, store.Records changes → ∃ more, after.Records (changes ++ more)

namespace Extends

variable {store middle after : Store} {key : Key} {value : Option String} {change : Change}

theorem refl (store : Store) : store.Extends store :=
  ⟨rfl, fun changes h => ⟨[], (List.append_nil changes).symm ▸ h⟩⟩

theorem trans (h : store.Extends middle) (h' : middle.Extends after) : store.Extends after where
  holds_eq := h'.holds_eq.trans h.holds_eq
  records changes hrecords := by
    obtain ⟨more, hmore⟩ := h.records changes hrecords
    obtain ⟨rest, hrest⟩ := h'.records _ hmore
    exact ⟨more ++ rest, List.append_assoc changes more rest ▸ hrest⟩

theorem of_wrote (h : store.Wrote key value change after) : store.Extends after :=
  ⟨h.holds_eq, fun _ hrecords => ⟨[change], hrecords.wrote h⟩⟩

theorem of_sameValues (h : store.SameValues after) : store.Extends after :=
  ⟨h.holds_eq, fun changes hrecords => ⟨[], (List.append_nil changes).symm ▸ hrecords.sameValues h⟩⟩

/-- A database stays a database. -/
theorem exists_rows {rows : Rows} (h : (Store.rows rows).Extends after) :
    ∃ rows, after = .rows rows := by
  cases after with
  | memory memory =>
    have htop := congrFun h.holds_eq 9223372036854775808
    cases htop
  | rows rows => exact ⟨rows, rfl⟩

end Extends

end Store

end SitePresets
