import PatternLexer.Proofs.Cursor.Advance

/-!
# Segments of a pattern

A pattern is written as literal text mixed with references to classes, each a
class name between braces. Read from the left, a segment that starts with an
opening brace ends with the next closing brace, and any other segment ends before
the next opening brace. There is no way to escape a brace.

Main statements: `segmentsFrom_reference`, `segmentsFrom_unclosed` and
`segmentsFrom_literal`, which read the three kinds of segments, and `induction`, which
walks through a pattern segment by segment.
-/

namespace PatternLexer

/-- A piece of a pattern with its byte offset in the pattern. -/
inductive Segment where
  /-- Text outside braces. -/
  | literal (offset : Nat) (text : List Char)
  /-- A name between braces; the offset is that of the opening brace. -/
  | reference (offset : Nat) (name : List Char)
  /-- An opening brace and what follows it, without any closing brace. -/
  | unclosed (offset : Nat) (text : List Char)
  deriving DecidableEq, Repr

namespace Segment

open Text

/-- The segments of a pattern from `offset` on. The first `skip` characters belong
to a segment already found. -/
def segmentsFrom (skip offset : Nat) : (pattern : List Char) → List Segment
  | [] => []
  | c :: cs =>
      if 0 < skip then
        segmentsFrom (skip - 1) (offset + c.utf8Size) cs
      else if c = '{' then
        if '}' ∈ cs then
          let name := cs.takeWhile (· != '}')
          reference offset name :: segmentsFrom (name.length + 1) (offset + c.utf8Size) cs
        else
          [unclosed offset cs]
      else
        let others := cs.takeWhile (· != '{')
        literal offset (c :: others) :: segmentsFrom others.length (offset + c.utf8Size) cs

/-- The segments of a pattern. -/
def segments (pattern : String) : List Segment :=
  segmentsFrom 0 0 pattern.toList

@[simp] theorem segmentsFrom_nil (skip offset : Nat) : segmentsFrom skip offset [] = [] := rfl

/-- The characters of a segment that was found are passed over. -/
theorem segmentsFrom_append (offset : Nat) (passed rest : List Char) :
    segmentsFrom passed.length offset (passed ++ rest) =
      segmentsFrom 0 (offset + size passed) rest := by
  induction passed generalizing offset with
  | nil => simp
  | cons c passed ih => simp [segmentsFrom, ih, Nat.add_assoc]

/-- A name between braces is a reference, and segments follow behind it. -/
theorem segmentsFrom_reference {name : List Char} (unbraced : '}' ∉ name) (offset : Nat)
    (rest : List Char) :
    segmentsFrom 0 offset ('{' :: (name ++ '}' :: rest)) =
      reference offset name :: segmentsFrom 0 (offset + size name + 2) rest := by
  have taken : (name ++ '}' :: rest).takeWhile (· != '}') = name := by
    rw [takeWhile_bne_append unbraced]
    simp
  have behind := segmentsFrom_append (offset + '{'.utf8Size) (name ++ ['}']) rest
  have brace : '{'.utf8Size = 1 ∧ '}'.utf8Size = 1 := by decide
  simp only [List.length_append, List.length_singleton, List.append_assoc,
    List.singleton_append, size_append, size_cons, size_nil, brace.1, brace.2] at behind
  have total : offset + 1 + (size name + (1 + 0)) = offset + size name + 2 := by omega
  rw [total] at behind
  simp [segmentsFrom, taken, brace.1, behind]

/-- An opening brace that is not closed ends the segments. -/
theorem segmentsFrom_unclosed {rest : List Char} (absent : '}' ∉ rest) (offset : Nat) :
    segmentsFrom 0 offset ('{' :: rest) = [unclosed offset rest] := by
  simp [segmentsFrom, absent]

/-- Text up to an opening brace or the end is a literal, and segments follow
behind it. -/
theorem segmentsFrom_literal {text rest : List Char} (nonempty : text ≠ [])
    (unbraced : '{' ∉ text) (boundary : rest.head?.all (· = '{') = true) (offset : Nat) :
    segmentsFrom 0 offset (text ++ rest) =
      literal offset text :: segmentsFrom 0 (offset + size text) rest := by
  cases text with
  | nil => exact absurd rfl nonempty
  | cons c text =>
      simp only [List.mem_cons, not_or] at unbraced
      have stops : rest.takeWhile (· != '{') = [] := by
        cases rest with
        | nil => rfl
        | cons d rest => simp_all
      have taken : (text ++ rest).takeWhile (· != '{') = text := by
        rw [takeWhile_bne_append unbraced.2, stops, List.append_nil]
      have behind := segmentsFrom_append (offset + c.utf8Size) text rest
      simp only [List.cons_append, segmentsFrom, Nat.lt_irrefl, if_false, taken,
        Ne.symm unbraced.1, behind, size_cons, Nat.add_assoc]

/-- Induction over a pattern, segment by segment. -/
theorem induction {motive : List Char → Prop} (nil : motive [])
    (reference : ∀ name rest, '}' ∉ name → motive rest → motive ('{' :: (name ++ '}' :: rest)))
    (unclosed : ∀ rest, '}' ∉ rest → motive ('{' :: rest))
    (literal : ∀ text rest, text ≠ [] → '{' ∉ text → rest.head?.all (· = '{') = true →
      motive rest → motive (text ++ rest))
    (pattern : List Char) : motive pattern := by
  match pattern with
  | [] => exact nil
  | c :: cs =>
      by_cases brace : c = '{'
      · subst brace
        by_cases closed : '}' ∈ cs
        · rcases List.eq_append_cons_of_mem closed with ⟨name, rest, split, unbraced⟩
          have shorter : rest.length < cs.length := by simp [split]; omega
          rw [split]
          exact reference name rest unbraced
            (induction nil reference unclosed literal rest)
        · exact unclosed cs closed
      · have split := List.takeWhile_append_dropWhile (p := (· != '{')) (l := cs)
        have shorter := (List.dropWhile_suffix (l := cs) (· != '{')).length_le
        rw [← split, ← List.cons_append]
        refine literal _ _ (List.cons_ne_nil _ _) ?_ ?_
          (induction nil reference unclosed literal (cs.dropWhile (· != '{')))
        · intro member
          rcases List.mem_cons.mp member with same | member
          · exact brace same.symm
          · simpa using List.all_eq_true.mp List.all_takeWhile _ member
        · have := List.head?_dropWhile_not (· != '{') cs
          cases head : (cs.dropWhile (· != '{')).head? <;> simp_all
termination_by pattern.length

end Segment

end PatternLexer
