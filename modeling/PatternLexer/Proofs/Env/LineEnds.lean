import PatternLexer.Proofs.Env.Joining

/-!
# Blanks before line ends

Blanks at the end of a line are no part of its assignments. So spaces, tabs and carriage returns
may be put in before the line ends of a file, and at its end, without changing what is read from
it. Line ends with a carriage return are read like those without one.

Main statement: `parse_padded`.
-/

namespace PatternLexer.Env

/-- The text is at a line end, with or without a carriage return, or at its own end. -/
def AtLineEnd (text : List Char) : Prop :=
  text = [] ∨ text.head? = some '\n' ∨ ['\r', '\n'] <+: text

/-- The second text is the first one with spaces, tabs and carriage returns put in, each of them
directly before a line end or at the end. -/
inductive Padded : List Char → List Char → Prop where
  | nil : Padded [] []
  | keep {text padded : List Char} (c : Char) (further : Padded text padded) :
      Padded (c :: text) (c :: padded)
  | pad {text padded : List Char} {c : Char} (ends : AtLineEnd text)
      (blank : c = ' ' ∨ c = '\t' ∨ c = '\r') (further : Padded text padded) :
      Padded text (c :: padded)

/-- The text with a carriage return before each of its line feeds. -/
def withReturns (text : List Char) : List Char :=
  text.flatMap fun c => if c = '\n' then ['\r', '\n'] else [c]

theorem padded_withReturns (text : List Char) : Padded text (withReturns text) := by
  induction text with
  | nil => exact .nil
  | cons c text ih =>
      rw [withReturns, List.flatMap_cons]
      split
      · rename_i newline
        rw [newline]
        exact .pad (.inr (.inl rfl)) (.inr (.inr rfl)) (.keep '\n' ih)
      · exact .keep c ih

section

variable {line text padded : List Char} {c : Char}

theorem blank_of_pad (blank : c = ' ' ∨ c = '\t' ∨ c = '\r') :
    CharClass.blank c = true ∧ '\n' ≠ c := by
  rcases blank with rfl | rfl | rfl <;> decide

/-- A line is scanned without the blanks before its line end. -/
theorem flatMap_scan_blanks {tail : List Char} (inside : '\n' ∉ line) (insideToo : '\n' ∉ tail)
    (blanks : ∀ c ∈ tail, CharClass.blank c = true) (rest : List Char) :
    ((line ++ (tail ++ '\n' :: rest)).splitOn '\n').flatMap scan =
      scan line ++ (rest.splitOn '\n').flatMap scan := by
  have whole : '\n' ∉ line ++ tail := by simp [inside, insideToo]
  rw [← List.append_assoc, List.splitOn_append_cons_self_of_not_mem whole, List.flatMap_cons,
    scan_append_blanks line blanks]

/-- A blank that is put in at a line end makes no difference. -/
theorem flatMap_scan_pad (inside : '\n' ∉ line) (ends : AtLineEnd text)
    (blank : c = ' ' ∨ c = '\t' ∨ c = '\r') :
    ((line ++ c :: text).splitOn '\n').flatMap scan =
      ((line ++ text).splitOn '\n').flatMap scan := by
  rcases blank_of_pad blank with ⟨isBlank, unbroken⟩
  have none : ∀ d ∈ ([] : List Char), CharClass.blank d = true := by simp
  have single : ∀ d ∈ [c], CharClass.blank d = true := List.forall_mem_singleton.mpr isBlank
  have returned : ∀ d ∈ ['\r'], CharClass.blank d = true := by simp
  have double : ∀ d ∈ [c, '\r'], CharClass.blank d = true :=
    List.forall_mem_cons.mpr ⟨isBlank, returned⟩
  rcases ends with rfl | newline | ⟨rest, rfl⟩
  · have whole : '\n' ∉ line ++ [c] := by simp [inside, unbroken]
    rw [List.append_nil, List.splitOn_eq_singleton whole, List.splitOn_eq_singleton inside,
      List.flatMap_singleton, List.flatMap_singleton, scan_append_blanks line single]
  · rcases List.head?_eq_some_iff.mp newline with ⟨rest, rfl⟩
    have padded := flatMap_scan_blanks inside (by simp [unbroken]) single rest
    have plain := flatMap_scan_blanks inside (by simp) none rest
    exact padded.trans plain.symm
  · have padded := flatMap_scan_blanks inside (by simp [unbroken]) double rest
    have plain := flatMap_scan_blanks inside (by simp) returned rest
    exact padded.trans plain.symm

/-- Whatever stands before them in their line, a text and one with blanks put in are scanned
alike. -/
theorem flatMap_scan_padded (changed : Padded text padded) (inside : '\n' ∉ line) :
    ((line ++ padded).splitOn '\n').flatMap scan = ((line ++ text).splitOn '\n').flatMap scan := by
  induction changed generalizing line with
  | nil => rfl
  | @keep text padded c further ih =>
      by_cases newline : c = '\n'
      · have others := ih List.not_mem_nil
        subst newline
        rw [List.splitOn_append_cons_self_of_not_mem inside,
          List.splitOn_append_cons_self_of_not_mem inside, List.flatMap_cons, List.flatMap_cons]
        exact congrArg (scan line ++ ·) others
      · have whole : '\n' ∉ line ++ [c] := by simp [inside, Ne.symm newline]
        simpa using ih whole
  | @pad text padded c ends blank further ih =>
      have whole : '\n' ∉ line ++ [c] := by simp [inside, (blank_of_pad blank).2]
      rw [← flatMap_scan_pad inside ends blank]
      simpa using ih whole

end

theorem parse_eq_of_padded {contents changed : String}
    (padded : Padded contents.toList changed.toList) : parse changed = parse contents := by
  have nothing : '\n' ∉ ([] : List Char) := List.not_mem_nil
  have scanned := flatMap_scan_padded padded nothing
  rw [List.nil_append, List.nil_append] at scanned
  rw [parse_eq_enter_splitOn, parse_eq_enter_splitOn, scanned]

/-- Every file is read, and the same is read from it when spaces, tabs and carriage returns are
put in before line ends and at the end, and when each line feed gets a carriage return. -/
theorem parse_padded (contents : String) :
    ∃ known, parse contents = .ok known ∧
      (∀ changed : String, Padded contents.toList changed.toList → parse changed = .ok known) ∧
      parse (String.ofList (withReturns contents.toList)) = .ok known := by
  have reads := parse_eq contents
  refine ⟨_, reads, ?_, ?_⟩
  · intro changed padded
    rw [parse_eq_of_padded padded, reads]
  · have padded : Padded contents.toList
        (String.ofList (withReturns contents.toList)).toList := by
      rw [String.toList_ofList]
      exact padded_withReturns contents.toList
    rw [parse_eq_of_padded padded, reads]

/-- Blanks behind a missing value, within a line end, behind a quote that is not closed, and at
the end of the file. -/
theorem parse_padded_quote :
    ∃ known, parse "a=\r\nb=\"x\nc" = .ok known ∧ known.toList = [("a", ""), ("b", "x")] ∧
      Padded "a=\r\nb=\"x\nc".toList "a= \r\r\nb=\"x\t\r\nc ".toList ∧
      parse "a= \r\r\nb=\"x\t\r\nc " = .ok known := by
  obtain ⟨known, reads, unchanged, -⟩ := parse_padded "a=\r\nb=\"x\nc"
  have listed : (parse "a=\r\nb=\"x\nc").toOption.map (·.toList) =
      some [("a", ""), ("b", "x")] := by decide +kernel
  rw [reads] at listed
  have returned : AtLineEnd ('\r' :: '\n' :: "b=\"x\nc".toList) := .inr (.inr ⟨_, rfl⟩)
  have padded : Padded "a=\r\nb=\"x\nc".toList "a= \r\r\nb=\"x\t\r\nc ".toList :=
    .keep 'a' (.keep '=' (.pad returned (.inl rfl) (.keep '\r'
      (.pad (.inr (.inl rfl)) (.inr (.inr rfl)) (.keep '\n' (.keep 'b' (.keep '=' (.keep '"'
        (.keep 'x' (.pad (.inr (.inl rfl)) (.inr (.inl rfl)) (.pad (.inr (.inl rfl))
          (.inr (.inr rfl)) (.keep '\n' (.keep 'c' (.pad (.inl rfl) (.inl rfl) .nil))))))))))))))
  exact ⟨known, reads, Option.some.inj listed, padded, unchanged _ padded⟩

end PatternLexer.Env
