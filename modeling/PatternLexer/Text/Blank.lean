/-!
# Blanks at the end of a text
-/

namespace PatternLexer.Text

/-- The characters with the property `White_Space` of Unicode. -/
def isBlank (c : Char) : Bool :=
  let n := c.toNat
  (0x9 ≤ n && n ≤ 0xd) || n = 0x20 || n = 0x85 || n = 0xa0 || n = 0x1680 ||
    (0x2000 ≤ n && n ≤ 0x200a) || n = 0x2028 || n = 0x2029 || n = 0x202f || n = 0x205f ||
    n = 0x3000

/-- A text without the blanks at its end. -/
def trimEnd (text : String) : String :=
  String.ofList (text.toList.reverse.dropWhile isBlank).reverse

/-- A text that ends with a character that is not blank loses the blanks behind it. -/
theorem trimEnd_of_getLast? {text blanks : List Char} {c : Char} (last : text.getLast? = some c)
    (solid : isBlank c = false) (blank : ∀ d ∈ blanks, isBlank d = true) :
    trimEnd (String.ofList (text ++ blanks)) = String.ofList text := by
  obtain ⟨before, rfl⟩ := List.getLast?_eq_some_iff.mp last
  have reversed : (before ++ [c] ++ blanks).reverse = blanks.reverse ++ c :: before.reverse := by
    simp
  rw [trimEnd, String.toList_ofList, reversed, List.dropWhile_append_of_pos (by simpa using blank),
    List.dropWhile_cons_of_neg (by simp [solid])]
  simp

end PatternLexer.Text
