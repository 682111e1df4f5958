/-!
# Blanks

Blank characters and trimming. Settings are trimmed of every separating character; numerals only of
the white space proper, which leaves out the four separators of information.
-/

namespace SitePresets.Text

/-- White space: the spaces, tabs and line ends of any script. -/
def isWhite (c : Char) : Bool :=
  let n := c.toNat
  (9 ≤ n && n ≤ 13) || n = 0x20 || n = 0x85 || n = 0xA0 || n = 0x1680
    || (0x2000 ≤ n && n ≤ 0x200A) || n = 0x2028 || n = 0x2029 || n = 0x202F || n = 0x205F
    || n = 0x3000

/-- Blanks: white space and the separators of files, groups, records and units. -/
def isBlank (c : Char) : Bool :=
  isWhite c || (0x1C ≤ c.toNat && c.toNat ≤ 0x1F)

def trimBy (member : Char → Bool) (chars : List Char) : List Char :=
  ((chars.dropWhile member).reverse.dropWhile member).reverse

def trim (text : String) : String :=
  String.ofList (trimBy isBlank text.toList)

theorem isBlank_of_isWhite {c : Char} (h : isWhite c = true) : isBlank c = true := by
  simp [isBlank, h]

@[simp]
theorem trimBy_nil (member : Char → Bool) : trimBy member [] = [] := rfl

/-- A text whose ends are outside the class stays as it is. -/
theorem trimBy_eq_self {member : Char → Bool} {chars : List Char}
    (first : ∀ c, chars.head? = some c → member c = false)
    (last : ∀ c, chars.getLast? = some c → member c = false) :
    trimBy member chars = chars := by
  have dropped : ∀ {l : List Char}, (∀ c, l.head? = some c → member c = false) →
      l.dropWhile member = l := by
    intro l h
    cases l with
    | nil => rfl
    | cons c r => simp [List.dropWhile, h c rfl]
  unfold trimBy
  rw [dropped first, dropped (by simpa [List.head?_reverse] using last), List.reverse_reverse]

end SitePresets.Text
