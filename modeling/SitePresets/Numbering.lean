/-!
# Numbering of rows

Numbers of rows: a new row gets one more than the greatest number in use, so the number of a deleted
last row comes again.
-/

namespace SitePresets.Numbering

def next (used : List Nat) : Nat :=
  used.foldl max 0 + 1

theorem le_foldl_max (used : List Nat) : ∀ start, start ≤ used.foldl max start := by
  induction used with
  | nil => intro start; exact Nat.le_refl start
  | cons n rest ih => intro start; exact Nat.le_trans (Nat.le_max_left start n) (ih (max start n))

theorem mem_le_foldl_max {used : List Nat} {n : Nat} :
    ∀ {start}, n ∈ used → n ≤ used.foldl max start := by
  induction used with
  | nil => intro start h; simp at h
  | cons m rest ih =>
    intro start h
    rcases List.mem_cons.1 h with rfl | h
    · exact Nat.le_trans (Nat.le_max_right start n) (le_foldl_max rest _)
    · exact ih h

theorem lt_next {used : List Nat} {n : Nat} (h : n ∈ used) : n < next used :=
  Nat.lt_succ_of_le (mem_le_foldl_max h)

theorem next_not_mem (used : List Nat) : next used ∉ used :=
  fun h => Nat.lt_irrefl _ (lt_next h)

theorem next_pos (used : List Nat) : 0 < next used :=
  Nat.succ_pos _

end SitePresets.Numbering
