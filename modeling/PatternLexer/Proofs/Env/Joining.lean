import PatternLexer.Proofs.Env.Parse
import PatternLexer.Proofs.Env.Trailing

/-!
# Files put together

Two files become one with a line feed between them. The last line of the first file then has
a line end, and a carriage return there, which was an ordinary character before, belongs to
it. A carriage return is a blank, so this makes no difference: a file is scanned between its
line feeds, whatever stands before them (`flatMap_scan_lines`).

Main statement: `parse_append_newline`, the variables of the second file are entered behind
those of the first.
-/

namespace PatternLexer.Env

/-- Scanning a file line by line is scanning it between its line feeds. -/
theorem flatMap_scan_lines (text : List Char) :
    (Text.lines text).flatMap scan = (text.splitOn '\n').flatMap scan := by
  by_cases ends : '\n' ∈ text
  · rcases List.eq_append_cons_of_mem ends with ⟨line, rest, rfl, inside⟩
    rw [List.splitOn_append_cons_self_of_not_mem inside, List.flatMap_cons,
      ← flatMap_scan_lines rest]
    by_cases returned : line.getLast? = some '\r'
    · rcases List.getLast?_eq_some_iff.mp returned with ⟨line, rfl⟩
      have before : '\n' ∉ line := fun present => inside (List.mem_append_left _ present)
      rw [List.append_assoc, List.singleton_append,
        Text.lines_append_return_newline rest before, List.flatMap_cons,
        scan_append_blanks line (by simp)]
    · rw [Text.lines_append_newline rest inside returned, List.flatMap_cons]
  · rw [List.splitOn_eq_singleton ends]
    by_cases empty : text = []
    · rw [empty]
      simp
    · rw [Text.lines_eq_singleton empty ends]
termination_by text.length

theorem parse_eq_enter_splitOn (contents : String) :
    parse contents = .ok (enter ∅ ((contents.toList.splitOn '\n').flatMap scan)) := by
  rw [← flatMap_scan_lines]
  exact foldlM_enterLine ∅ (Text.lines contents.toList)

/-- Assignments that are entered replace what is known already. -/
theorem enter_eq_union (known : Variables) (assignments : List (String × String)) :
    enter known assignments = known ∪ enter ∅ assignments := by
  apply Std.ExtTreeMap.ext_getElem?
  intro name
  rw [Std.ExtTreeMap.getElem?_union, getElem?_enter, getElem?_enter,
    Std.ExtTreeMap.getElem?_empty, Option.or_none]

/-- Two files with a line feed between them are read one after the other: a variable has the
value of the second file, and of the first where the second does not assign to it. -/
theorem parse_append_newline (first second : String) :
    ∃ known further joined, parse first = .ok known ∧ parse second = .ok further ∧
      parse (first ++ "\n" ++ second) = .ok joined ∧
      ∀ name : String, joined[name]? = further[name]?.or known[name]? := by
  have split : (first ++ "\n" ++ second).toList = first.toList ++ '\n' :: second.toList := by
    simp
  refine ⟨_, _, _, parse_eq_enter_splitOn first, parse_eq_enter_splitOn second,
    parse_eq_enter_splitOn _, ?_⟩
  intro name
  rw [split, List.splitOn_append_cons_self, List.flatMap_append, enter_append, enter_eq_union,
    Std.ExtTreeMap.getElem?_union]

-- The quote that is not closed ends with its line, and the carriage return is not in the value.
example : (parse ("a=\"x\r" ++ "\n" ++ "b=y\" a=")).toOption.map (·.toList) =
    some [("a", ""), ("b", "y")] := by decide +kernel

end PatternLexer.Env
