import Mathlib.Data.Finset.Dedup
import Mathlib.Data.Finset.Insert
import Mathlib.Data.Finset.Lattice.Basic
import SitePresets.Exclusion
import SitePresets.Proofs.Text.Parts

/-!
# Exclusion lists read back

Keys that are listed as texts between commas come back, in whatever order and however often they are listed,
and with any blanks around them. What a list says is what its entries say, each by itself.
-/

namespace SitePresets

open Text

/-- A part of a key that an entry of a list can hold: a text that is not empty, without commas and separators
in it and without blanks around it. -/
structure Key.IsPart (part : String) : Prop where
  ne_empty : part ≠ ""
  comma : ',' ∉ part.toList
  separator : ¬ Key.separator.toList <:+: part.toList
  first : ∀ c ∈ part.toList.head?, isBlank c = false
  last : ∀ c ∈ part.toList.getLast?, isBlank c = false

/-- A key that can be told from its text in a list. -/
structure Key.Listable (key : Key) : Prop where
  name : Key.IsPart key.name
  scope : Key.IsPart key.scope
  /-- A name with this end would be cut before it, as the separator begins alike. -/
  name_end : key.name.toList.getLast? ≠ some '@'

theorem Key.toList_text (key : Key) :
    key.text.toList = key.name.toList ++ (Key.separator.toList ++ key.scope.toList) := by
  simp [Key.text]

namespace Exclusion

/-- A key in a list, with the blanks before and after it. -/
structure Entry where
  key : Key
  before : String := ""
  after : String := ""

def Entry.text (entry : Entry) : String :=
  entry.before ++ entry.key.text ++ entry.after

/-- A list as it is written, entry by entry. -/
def write (entries : List Entry) : String :=
  joinBy "," (entries.map Entry.text)

structure Entry.Proper (entry : Entry) : Prop where
  key : entry.key.Listable
  before : ∀ c ∈ entry.before.toList, isBlank c
  after : ∀ c ∈ entry.after.toList, isBlank c

variable {entry : Entry} {entries : List Entry} {key : Key} {raw left right : String}

/-! ### One entry -/

theorem not_separator_of_name (h : key.Listable) :
    ¬ Key.separator.toList <:+: key.name.toList ++ Key.separator.toList.dropLast := by
  have hmark : Key.separator.toList = ['@'] ++ ['@'] := by decide
  have hname := h.name.separator
  rw [hmark] at hname ⊢
  rw [List.dropLast_concat, List.infix_concat_iff]
  rintro (hsuffix | hinside)
  · -- The second half is that of the separator that follows, so the name ends with the first.
    obtain ⟨⟨front, hfront⟩, -⟩ := (List.suffix_append_inj_of_length_eq rfl).1 hsuffix
    exact h.name_end (by rw [← hfront, List.getLast?_concat])
  · exact hname hinside

theorem Entry.Proper.ofEntry (h : entry.Proper) : ofEntry? entry.text.toList = some entry.key := by
  have hpart {part : String} (hpart : Key.IsPart part) : trimBy isBlank part.toList = part.toList :=
    trimBy_eq_self hpart.first hpart.last
  have hne {part : String} (hpart : Key.IsPart part) : part.toList ≠ [] :=
    fun heq => hpart.ne_empty (String.toList_eq_nil_iff.1 heq)
  have htext : entry.text.toList =
      entry.before.toList ++ entry.key.text.toList ++ entry.after.toList := by
    simp [Entry.text]
  have htrim : trimBy isBlank entry.key.text.toList = entry.key.text.toList := by
    rw [Key.toList_text]
    refine trimBy_eq_self (fun c hc => h.key.name.first c ?_) fun c hc => h.key.scope.last c ?_
    · rwa [List.head?_append_of_ne_nil _ (hne h.key.name)] at hc
    · rwa [List.getLast?_append_of_ne_nil _ (by simp [hne h.key.scope]),
        List.getLast?_append_of_ne_nil _ (hne h.key.scope)] at hc
  have hscope : holds Key.separator.toList entry.key.scope.toList = false :=
    Bool.eq_false_iff.2 fun hholds => h.key.scope.separator (holds_iff.1 hholds)
  unfold ofEntry?
  dsimp only
  rw [htext, trimBy_padded h.before h.after, htrim, Key.toList_text,
    cutFirst_append (by decide) (not_separator_of_name h.key)]
  simp [hpart h.key.name, hpart h.key.scope, hscope, h.key.name.ne_empty, h.key.scope.ne_empty]

theorem Entry.Proper.comma (h : entry.Proper) : ',' ∉ entry.text.toList := by
  have hblank : isBlank ',' = false := by decide
  have hmark : ',' ∉ Key.separator.toList := by decide
  have hbefore : ',' ∉ entry.before.toList := fun hmem =>
    Bool.false_ne_true (hblank.symm.trans (h.before ',' hmem))
  have hafter : ',' ∉ entry.after.toList := fun hmem =>
    Bool.false_ne_true (hblank.symm.trans (h.after ',' hmem))
  simp [Entry.text, Key.toList_text, hbefore, hafter, hmark, h.key.name.comma, h.key.scope.comma]

/-! ### Lists -/

theorem mem_parse : key ∈ parse raw ↔ ∃ entry ∈ splitAt ',' raw.toList, ofEntry? entry = some key := by
  unfold parse
  rw [List.mem_eraseDups, List.mem_filterMap]

/-- A list of entries that are kept apart by a comma says what the parts say. -/
theorem toFinset_parse_append (left right : String) :
    (parse (left ++ "," ++ right)).toFinset = (parse left).toFinset ∪ (parse right).toFinset := by
  have hchars : (left ++ "," ++ right).toList = left.toList ++ ',' :: right.toList := by
    simp
  ext key
  rw [Finset.mem_union, List.mem_toFinset, List.mem_toFinset, List.mem_toFinset, mem_parse, mem_parse,
    mem_parse, hchars, splitAt_append]
  simp only [List.mem_append, or_and_right, exists_or]

theorem toFinset_parse_write (h : ∀ entry ∈ entries, entry.Proper) :
    (parse (write entries)).toFinset = (entries.map Entry.key).toFinset := by
  cases entries with
  | nil => decide
  | cons first rest =>
    have hsplit : splitAt ',' (write (first :: rest)).toList =
        (first :: rest).map fun entry => entry.text.toList := by
      have hwrite : write (first :: rest) = joinBy (String.singleton ',')
          (((first :: rest).map fun entry => entry.text.toList).map String.ofList) := by
        unfold write
        rw [List.map_map]
        exact congrArg (joinBy ",") (List.map_congr_left fun _ _ => (String.ofList_toList).symm)
      rw [hwrite]
      refine splitAt_joinBy _ (by simp) fun part hpart => ?_
      obtain ⟨entry, hentry, rfl⟩ := List.mem_map.1 hpart
      exact (h entry hentry).comma
    ext key
    rw [List.mem_toFinset, List.mem_toFinset, mem_parse, hsplit]
    simp only [List.mem_map, exists_exists_and_eq_and]
    refine exists_congr fun entry => and_congr_right fun hentry => ?_
    rw [(h entry hentry).ofEntry]
    exact Option.some_inj

/-- Keys are read back from a list of them: whatever their order, their repetitions and the blanks around them,
the list names exactly the keys. And of two lists with a comma between, each is read as if it stood alone, so
what is no key there takes nothing away and adds nothing. -/
theorem lists_read_back :
    (∀ (keys : Finset Key) (entries : List Entry), (∀ key ∈ keys, key.Listable) →
      (entries.map Entry.key).toFinset = keys →
        (∀ entry ∈ entries, ∀ c ∈ entry.before.toList ++ entry.after.toList, isBlank c) →
          (parse (write entries)).toFinset = keys) ∧
      ∀ left right, (parse (left ++ "," ++ right)).toFinset =
        (parse left).toFinset ∪ (parse right).toFinset := by
  refine ⟨fun keys entries hkeys hentries hblank => ?_, toFinset_parse_append⟩
  rw [toFinset_parse_write fun entry hentry => ?_, hentries]
  have hblank := List.forall_mem_append.1 (hblank entry hentry)
  refine ⟨hkeys _ ?_, hblank.1, hblank.2⟩
  rw [← hentries]
  exact List.mem_toFinset.2 (List.mem_map_of_mem hentry)

/-- The first separator counts, so a scope may begin with its character. -/
example : parse "pass word@@@quiz" = [⟨"@quiz", "pass word"⟩] := by decide +kernel

/-- Two keys, one of them listed twice. -/
def twice : List Entry := [
  { key := ⟨"none", "smtppass"⟩, after := " " },
  { key := ⟨"@quiz", "pass word"⟩, before := "\t\u00a0" },
  { key := ⟨"none", "smtppass"⟩ }]

theorem twice_read_back :
    (parse (write twice)).toFinset = {⟨"none", "smtppass"⟩, ⟨"@quiz", "pass word"⟩} := by
  have hpart (part : String) (h : part = "none" ∨ part = "smtppass" ∨ part = "@quiz" ∨ part = "pass word") :
      Key.IsPart part := by
    have hends : part.toList.head?.all (!isBlank ·) ∧ part.toList.getLast?.all (!isBlank ·) := by
      rcases h with rfl | rfl | rfl | rfl <;> decide +kernel
    refine ⟨?_, ?_, ?_, fun c hc => ?_, fun c hc => ?_⟩
    · rcases h with rfl | rfl | rfl | rfl <;> decide +kernel
    · rcases h with rfl | rfl | rfl | rfl <;> decide +kernel
    · rcases h with rfl | rfl | rfl | rfl <;> decide +kernel
    · simpa using (Option.all_eq_true _ _).1 hends.1 c hc
    · simpa using (Option.all_eq_true _ _).1 hends.2 c hc
  have hkeys : ∀ key ∈ ({⟨"none", "smtppass"⟩, ⟨"@quiz", "pass word"⟩} : Finset Key), key.Listable := by
    intro key hkey
    rcases Finset.mem_insert.1 hkey with rfl | hkey
    · exact ⟨hpart _ (by simp), hpart _ (by simp), by decide +kernel⟩
    · obtain rfl := Finset.mem_singleton.1 hkey
      exact ⟨hpart _ (by simp), hpart _ (by simp), by decide +kernel⟩
  have hblank : twice.all fun entry => (entry.before.toList ++ entry.after.toList).all isBlank := by
    decide +kernel
  exact lists_read_back.1 _ twice hkeys (by decide +kernel) fun entry hentry =>
    List.all_eq_true.1 (List.all_eq_true.1 hblank entry hentry)

end Exclusion

end SitePresets
