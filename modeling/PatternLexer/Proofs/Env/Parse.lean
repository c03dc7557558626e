import PatternLexer.Proofs.Env.Items
import PatternLexer.Proofs.Tokenizer.Emission

/-!
# Reading environment files

The tokenizer of environment files emits just what `scan` reads off a line: at every
visit it emits what is scanned from there to the next visit (`scan_visit`). So a file is
always read, and its variables are those of the assignments that are scanned, entered in
order (`parse_eq`).
-/

namespace PatternLexer.Env

theorem patterns_tokenizer : tokenizer.patterns = [Items.line] := by
  rw [Tokenizer.patterns, rules_tokenizer]
  rfl

theorem callback_tokenizer (token : Token) : tokenizer.callback 0 token = assign token := by
  rw [Tokenizer.callback, rules_tokenizer]
  rfl

section Visits

variable (runOn : String → Option (Outcome (String × String) RunError Unit)) (source : String)
  {place : Place} {behind rest : List Char}

/-- Where the pattern does not match, nothing is emitted and a character is dropped. -/
theorem visit_of_none (fails : Items.line.leaves? place.rest = none) :
    tokenizer.emittedAt runOn (.of tokenizer.patterns source place) = [] ∧
      (place.past (Visit.passedFrom tokenizer.patterns place.rest)).rest = place.rest.tail := by
  have first : Sequence.firstOf? tokenizer.patterns place.rest = none := by
    rw [Sequence.leaves?_eq_none_iff] at fails
    rw [patterns_tokenizer, Sequence.firstOf?, fails]
    rfl
  constructor
  · simp [Tokenizer.emittedAt, Visit.of, Visit.foundAt, first]
  · cases left : place.rest <;> simp_all [Visit.passedFrom, Place.past]

/-- Where the pattern matches, the callback is called and what the pattern leaves is
visited next. -/
theorem visit_of_some (leaves : Items.line.leaves? place.rest = some behind)
    (shorter : behind.length < place.rest.length) :
    ∃ taken, Items.line.consumed? place.rest = some taken ∧
      tokenizer.emittedAt runOn (.of tokenizer.patterns source place) =
        ((assign ((Items.line.matched source place taken).toToken source)).perform runOn
          tokenizer.accepts).emitted ∧
      (place.past (Visit.passedFrom tokenizer.patterns place.rest)).rest = behind := by
  rcases Sequence.leaves?_eq_some_iff.mp leaves with ⟨taken, consumed, left⟩
  have first : Sequence.firstOf? tokenizer.patterns place.rest =
      some (0, Items.line, taken) := by
    rw [patterns_tokenizer, Sequence.firstOf?, consumed]
  refine ⟨taken, consumed, ?_, ?_⟩
  · simp [Tokenizer.emittedAt, Visit.of, Visit.foundAt, first, callback_tokenizer]
  · cases taken with
    | nil =>
        rw [← left] at shorter
        exact absurd shorter (Nat.lt_irrefl _)
    | cons c taken =>
        rw [Visit.passedFrom, first]
        exact left

/-- At a comment nothing is emitted, and nothing is left. -/
theorem visit_of_comment (marked : place.rest = '#' :: rest) :
    tokenizer.emittedAt runOn (.of tokenizer.patterns source place) = [] ∧
      (place.past (Visit.passedFrom tokenizer.patterns place.rest)).rest = [] := by
  have comment := Items.leaves?_comment_hash rest
  have line := Items.leaves?_line ('#' :: rest)
  rw [comment] at line
  by_cases alone : rest = []
  · -- The sign alone is neither a comment nor an assignment.
    subst alone
    have fails : Items.line.leaves? place.rest = none := by
      rw [marked, line]
      rfl
    rcases visit_of_none runOn source fails with ⟨silent, next⟩
    rw [marked] at next
    exact ⟨silent, by rw [marked]; exact next⟩
  · simp only [alone, if_false, Option.some_or] at comment line
    rw [← marked] at comment line
    have shorter : ([] : List Char).length < place.rest.length := by simp [marked]
    rcases visit_of_some runOn source line shorter with ⟨taken, consumed, emits, next⟩
    rcases Sequence.leaves?_eq_some_iff.mp comment with ⟨passed, remark, -⟩
    rw [emits, Items.assign_comment remark consumed]
    exact ⟨rfl, next⟩

/-- What is emitted at a visit is what is scanned from there to the next visit. -/
theorem scan_visit (place : Place) :
    (tokenizer.emittedAt runOn (.of tokenizer.patterns source place)).map (·.2) ++
        scan (place.past (Visit.passedFrom tokenizer.patterns place.rest)).rest =
      scan place.rest := by
  by_cases marked : place.rest.head? = some '#'
  · rcases List.head?_eq_some_iff.mp marked with ⟨rest, marked⟩
    rcases visit_of_comment runOn source marked with ⟨silent, next⟩
    rw [silent, next, marked]
    simp
  · have unmarked := Items.leaves?_comment_of_ne marked
    have line := Items.leaves?_line place.rest
    rw [unmarked, Option.none_or] at line
    cases reads : assignment? place.rest with
    | none =>
        rw [reads, Option.map_none] at line
        rcases visit_of_none runOn source line with ⟨silent, next⟩
        rw [silent, next]
        cases left : place.rest with
        | nil => rfl
        | cons c rest =>
            rw [left] at marked reads
            have other : c ≠ '#' := by simpa using marked
            simp [scan_of_no_assignment other reads]
    | some found =>
        rw [reads, Option.map_some] at line
        rcases visit_of_some runOn source line (length_rest_lt reads) with
          ⟨taken, consumed, emits, next⟩
        rw [emits, next,
          Items.assign_assignment (Sequence.leaves?_eq_none_iff.mp unmarked) reads consumed]
        cases left : place.rest with
        | nil =>
            rw [left] at reads
            cases reads
        | cons c rest =>
            rw [left] at marked reads
            have other : c ≠ '#' := by simpa using marked
            rw [scan_of_assignment other reads]
            rfl

end Visits

theorem map_emitted_tile (runOn : String → Option (Outcome (String × String) RunError Unit))
    {source : String} {place : Place} {path : List Visit}
    (tile : Visit.Tile tokenizer.patterns source place path) :
    (path.flatMap (tokenizer.emittedAt runOn)).map (·.2) = scan place.rest := by
  induction tile with
  | finish ends => simp [ends]
  | visit nonempty further ih => rw [List.flatMap_cons, List.map_append, ih, scan_visit]

/-- The callback never fails. -/
theorem callbacksSucceed (runOn : String → Option (Outcome (String × String) RunError Unit))
    (outcome : Outcome (String × String) RunError Unit) :
    tokenizer.CallbacksSucceed runOn outcome := by
  intro rule token _
  cases rule with
  | zero =>
      rw [callback_tokenizer, assign]
      split <;> rfl
  | succ rule =>
      rw [Tokenizer.callback, rules_tokenizer]
      rfl

/-- Every line is read, and what is emitted is what is scanned. -/
theorem run_line (line : List Char) :
    (tokenizer.run 0 (String.ofList line)).result = .ok () ∧
      (tokenizer.run 0 (String.ofList line)).emitted.map (·.2) = scan line := by
  have passesOver : tokenizer.unmatched ≠ .error := by
    rw [unmatched_tokenizer]
    decide
  have succeeds : (tokenizer.run 0 (String.ofList line)).result = .ok () := by
    rw [Tokenizer.run_eq_runWith, Tokenizer.runWith_eq_follow pending_tokenizer]
    exact (Tokenizer.follow_eq passesOver _ (callbacksSucceed _ _)).1
  refine ⟨succeeds, ?_⟩
  rw [Tokenizer.emitted_run succeeds]
  by_cases empty : line = []
  · subst empty
    have whole := scan_visit (tokenizer.answers 0) "" (.start [])
    rw [Place.start, scan_nil, List.append_eq_nil_iff] at whole
    rw [scan_nil, ← whole.1]
    simp [Visit.visits_empty, Place.start]
  · have nonempty : String.ofList line ≠ "" := by simpa using empty
    have scanned := map_emitted_tile (tokenizer.answers 0)
      (Visit.tile_visits tokenizer.patterns nonempty)
    simpa [Place.start] using scanned

/-- Enter assignments in order. -/
def enter (known : Variables) (assignments : List (String × String)) : Variables :=
  assignments.foldl (fun known (key, value) => known.insert key value) known

theorem enter_append (known : Variables) (first second : List (String × String)) :
    enter known (first ++ second) = enter (enter known first) second :=
  List.foldl_append

/-- The last assignment to a variable holds. -/
theorem getElem?_enter (known : Variables) (assignments : List (String × String)) (key : String) :
    (enter known assignments)[key]? = (assignments.reverse.lookup key).or known[key]? := by
  induction assignments generalizing known with
  | nil => rfl
  | cons assignment assignments ih =>
      rcases assignment with ⟨name, value⟩
      have step : enter known ((name, value) :: assignments) =
          enter (known.insert name value) assignments := rfl
      rw [step, ih, List.reverse_cons, List.lookup_append, Option.or_assoc]
      congr 1
      by_cases same : name = key
      · simp [same]
      · have different : (key == name) = false := by simpa using Ne.symm same
        simp [Std.ExtTreeMap.getElem?_insert, same, List.lookup_cons, different]

/-- A variable that is known has been assigned its value. -/
theorem mem_of_getElem?_enter {assignments : List (String × String)} {name value : String}
    (known : (enter ∅ assignments)[name]? = some value) : (name, value) ∈ assignments := by
  rw [getElem?_enter, Std.ExtTreeMap.getElem?_empty, Option.or_none] at known
  obtain ⟨later, earlier, split, -⟩ := List.lookup_eq_some_iff.mp known
  rw [← List.mem_reverse, split]
  exact List.mem_append_right _ List.mem_cons_self

theorem enterLine_eq (known : Variables) (line : List Char) :
    enterLine known line = .ok (enter known (scan line)) := by
  rcases run_line line with ⟨succeeds, emits⟩
  rw [enterLine, succeeds, ← emits, enter, List.foldl_map]
  rfl

/-- Every line is read, and its assignments are entered before those of the next one. -/
theorem foldlM_enterLine (known : Variables) (lines : List (List Char)) :
    lines.foldlM enterLine known = .ok (enter known (lines.flatMap scan)) := by
  induction lines generalizing known with
  | nil => rfl
  | cons line lines ih =>
      rw [List.foldlM_cons, enterLine_eq, List.flatMap_cons, enter_append]
      exact ih (enter known (scan line))

/-- Every file is read, and its variables are those of the assignments that are scanned
in its lines: of several assignments to a variable the last one holds. -/
theorem parse_eq (contents : String) :
    parse contents = .ok (enter ∅ ((Text.lines contents.toList).flatMap scan)) :=
  foldlM_enterLine ∅ (Text.lines contents.toList)

-- The first line assigns twice, and on the second one a character is dropped.
example : (parse "a = \"x y\" b=\n? a=1#\n#b=2").toOption.map (·.toList) =
    some [("a", "1#"), ("b", "")] := by decide +kernel

end PatternLexer.Env
