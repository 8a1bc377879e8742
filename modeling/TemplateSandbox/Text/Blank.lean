/-
# White space

The characters with the Unicode property `White_Space`: the six controls and
the space of the ASCII range, and the separators beyond it. Zero-width
characters (`U+200B`, `U+FEFF`) and the information separators
(`U+001C` … `U+001F`) are not among them.
-/

import TemplateSandbox.Text.Ranges

namespace TemplateSandbox
namespace Text

/-- The ranges of the Unicode property `White_Space`. -/
def blankRanges : Ranges :=
  [(0x09, 0x0D), (0x20, 0x20), (0x85, 0x85), (0xA0, 0xA0), (0x1680, 0x1680), (0x2000, 0x200A),
   (0x2028, 0x2029), (0x202F, 0x202F), (0x205F, 0x205F), (0x3000, 0x3000)]

/-- The property has 25 characters. -/
example : blankRanges.count = 25 := by decide

/-- Whether `c` is white space. -/
def isBlank (c : Char) : Bool := blankRanges.contains c

/-- A letter of the ASCII alphabet, of either case, is never blank. -/
theorem isBlank_eq_false_of_letter {c : Char}
    (h : 0x41 ≤ c.toNat ∧ c.toNat ≤ 0x5A ∨ 0x61 ≤ c.toNat ∧ c.toNat ≤ 0x7A) :
    isBlank c = false := by
  rw [isBlank, Bool.eq_false_iff, ne_eq, Ranges.contains_iff]
  rintro ⟨range, hmem, hlo, hhi⟩
  simp only [blankRanges, List.mem_cons, List.not_mem_nil, or_false] at hmem
  rcases hmem with rfl | rfl | rfl | rfl | rfl | rfl | rfl | rfl | rfl | rfl <;>
    simp only at hlo hhi <;> omega

end Text
end TemplateSandbox
