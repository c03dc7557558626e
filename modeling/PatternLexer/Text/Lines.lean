/-!
# Lines of a text

A line feed ends a line, and a carriage return directly before it belongs to the
line end. A text that does not finish with a line feed has a last line without a
line end, in which a carriage return is an ordinary character. There is no empty
line after the last line end.
-/

namespace PatternLexer.Text

/-- The lines of a text, without their line ends. -/
def lines : List Char → List (List Char)
  | [] => []
  | '\n' :: cs => [] :: lines cs
  | '\r' :: '\n' :: cs => [] :: lines cs
  | c :: cs =>
      match lines cs with
      | [] => [[c]]
      | line :: others => (c :: line) :: others

@[simp] theorem lines_nil : lines [] = [] := by
  simp [lines]

@[simp] theorem lines_newline (cs : List Char) : lines ('\n' :: cs) = [] :: lines cs := by
  simp [lines]

@[simp] theorem lines_return_newline (cs : List Char) :
    lines ('\r' :: '\n' :: cs) = [] :: lines cs := by
  simp [lines]

/-- Only the empty text has no lines. -/
theorem lines_eq_nil_iff {cs : List Char} : lines cs = [] ↔ cs = [] := by
  constructor
  · intro none
    fun_cases lines cs with
    | case1 => rfl
    | case2 rest => cases (lines_newline rest).symm.trans none
    | case3 rest => cases (lines_return_newline rest).symm.trans none
    | case4 c rest => simp_all [lines]
    | case5 c rest => simp_all [lines]
  · rintro rfl
    exact lines_nil

/-- A character before a line belongs to it, unless it ends one itself. -/
theorem lines_cons {c : Char} {cs line : List Char} {others : List (List Char)}
    (inside : c ≠ '\n') (unreturned : c = '\r' → cs.head? ≠ some '\n')
    (further : lines cs = line :: others) : lines (c :: cs) = (c :: line) :: others := by
  rw [lines, further]
  · exact inside
  · intro rest returned ends
    exact unreturned returned (by rw [ends]; rfl)

/-- A text without line ends is a line, where a line feed follows. -/
theorem lines_append_newline {line : List Char} (rest : List Char) (inside : '\n' ∉ line)
    (unreturned : line.getLast? ≠ some '\r') :
    lines (line ++ '\n' :: rest) = line :: lines rest := by
  induction line with
  | nil => exact lines_newline rest
  | cons c line ih =>
      rw [List.mem_cons, not_or] at inside
      cases line with
      | nil =>
          refine lines_cons (Ne.symm inside.1) ?_ (lines_newline rest)
          intro returned
          rw [returned] at unreturned
          exact absurd rfl unreturned
      | cons d line =>
          refine lines_cons (Ne.symm inside.1) ?_ (ih inside.2 unreturned)
          intro _ ends
          cases ends
          exact inside.2 List.mem_cons_self

/-- A carriage return before the line feed is not part of the line. -/
theorem lines_append_return_newline {line : List Char} (rest : List Char) (inside : '\n' ∉ line) :
    lines (line ++ '\r' :: '\n' :: rest) = line :: lines rest := by
  induction line with
  | nil => exact lines_return_newline rest
  | cons c line ih =>
      rw [List.mem_cons, not_or] at inside
      refine lines_cons (Ne.symm inside.1) ?_ (ih inside.2)
      intro _ ends
      cases line with
      | nil => cases ends
      | cons d line =>
          cases ends
          exact inside.2 List.mem_cons_self

/-- A text without line ends that is not empty is a line. -/
theorem lines_eq_singleton {line : List Char} (nonempty : line ≠ []) (inside : '\n' ∉ line) :
    lines line = [line] := by
  induction line with
  | nil => exact absurd rfl nonempty
  | cons c line ih =>
      rw [List.mem_cons, not_or] at inside
      cases line with
      | nil => simp [lines, Ne.symm inside.1]
      | cons d line =>
          refine lines_cons (Ne.symm inside.1) ?_ (ih (List.cons_ne_nil _ _) inside.2)
          intro _ ends
          cases ends
          exact inside.2 List.mem_cons_self

end PatternLexer.Text
