import Mathlib.Data.List.TakeWhile
import PatternLexer.Proofs.Cursor.Advance
import PatternLexer.Proofs.Env.Scan

/-!
# What follows the assignments of a line

A line may go on with blanks, and behind a blank with a comment. Such a text is trailing: it
ends every run before it and makes no assignment. So a line is scanned as if it were not
there (`Trailing.scan_append`), unless the last value of the line is missing. Then a comment
is not trailing any more: its first word is read as the value (`Trailing.assignment?_of_missing`).
-/

namespace PatternLexer.Env

/-- The parts of an assignment up to its sign, and what stands behind the sign. -/
theorem exists_parts {text : List Char} {found : Assignment}
    (reads : assignment? text = some found) :
    ∃ leading between behind, text = leading ++ (found.key ++ (between ++ '=' :: behind)) ∧
      (∀ c ∈ leading, CharClass.blank c = true) ∧ (∀ c ∈ found.key, isKeyChar c = true) ∧
      (∀ c ∈ between, CharClass.blank c = true) ∧
      found = .ofValue found.key (behind.dropWhile CharClass.blank) := by
  simp only [assignment?] at reads
  split at reads
  · cases reads
  · rcases Option.map_eq_some_iff.mp reads with ⟨behind, sign, rfl⟩
    rw [pastSign?.eq_def] at sign
    split at sign
    · rename_i signed
      cases sign
      refine ⟨text.takeWhile CharClass.blank,
        ((text.dropWhile CharClass.blank).dropWhile isKeyChar).takeWhile CharClass.blank,
        behind, ?_, fun _ => List.mem_takeWhile_imp, fun _ => List.mem_takeWhile_imp,
        fun _ => List.mem_takeWhile_imp, rfl⟩
      simp only [← signed, List.takeWhile_append_dropWhile]
    · cases sign

/-- An assignment has an opening, behind which anything may stand. -/
theorem exists_opening {text : List Char} {found : Assignment}
    (reads : assignment? text = some found) :
    ∃ opening behind, text = opening ++ behind ∧
      found = .ofValue found.key (behind.dropWhile CharClass.blank) ∧
      ∀ more, assignment? (opening ++ more) =
        some (.ofValue found.key (more.dropWhile CharClass.blank)) := by
  rcases exists_parts reads with
    ⟨leading, between, behind, rfl, leadingBlank, keyChars, betweenBlank, same⟩
  refine ⟨leading ++ (found.key ++ (between ++ ['='])), behind, by simp, same, ?_⟩
  intro more
  have opened := assignment?_opening more leadingBlank (key_ne_nil reads) keyChars betweenBlank
  simpa using opened

theorem assignment?_eq_none_iff {text : List Char} :
    assignment? text = none ↔
      (text.dropWhile CharClass.blank).takeWhile isKeyChar = [] ∨
        pastSign? (((text.dropWhile CharClass.blank).dropWhile isKeyChar).dropWhile
          CharClass.blank) = none := by
  simp only [assignment?]
  split
  · rename_i unnamed
    simp [unnamed]
  · rename_i named
    simp [named]

theorem pastSign?_append {text : List Char} (nonempty : text ≠ []) (more : List Char) :
    pastSign? (text ++ more) = (pastSign? text).map (· ++ more) := by
  cases text with
  | nil => exact absurd rfl nonempty
  | cons c text =>
      by_cases sign : c = '='
      · subst sign
        rfl
      · simp [pastSign?.eq_def, sign]

theorem rawValue_isPrefix (text : List Char) : rawValue text <+: text := by
  unfold rawValue
  split
  · rename_i inside
    split
    · rename_i closed
      rcases List.eq_append_cons_of_mem closed with ⟨before, after, rfl, absent⟩
      rw [Text.takeWhile_bne_append absent]
      exact ⟨after, by simp⟩
    · exact List.takeWhile_prefix _
  · exact List.takeWhile_prefix _

/-- A character that is not blank is a value, or begins one. -/
theorem rawValue_cons_ne_nil {c : Char} (unblank : CharClass.blank c = false) (text : List Char) :
    rawValue (c :: text) ≠ [] := by
  unfold rawValue
  split
  · split <;> simp [unblank]
  · simp [unblank]

theorem dropWhile_blank_cases (text : List Char) :
    text.dropWhile CharClass.blank = [] ∨
      ∃ c rest, text.dropWhile CharClass.blank = c :: rest ∧ CharClass.blank c = false := by
  have stops := List.head?_dropWhile_not CharClass.blank text
  cases left : text.dropWhile CharClass.blank with
  | nil => exact .inl rfl
  | cons c rest =>
      rw [left] at stops
      exact .inr ⟨c, rest, rfl, stops⟩

/-- A value is missing where nothing but blanks follows. -/
theorem rawValue_dropWhile_blank_eq_nil_iff {text : List Char} :
    rawValue (text.dropWhile CharClass.blank) = [] ↔ text.dropWhile CharClass.blank = [] := by
  constructor
  · intro missing
    rcases dropWhile_blank_cases text with nothing | ⟨c, rest, left, unblank⟩
    · exact nothing
    · rw [left] at missing
      exact absurd missing (rawValue_cons_ne_nil unblank rest)
  · intro nothing
    rw [nothing]
    rfl

/-- The value of an assignment and what is left behind it are the end of the text. -/
theorem value_append_rest_isSuffix {text : List Char} {found : Assignment}
    (reads : assignment? text = some found) : found.value ++ found.rest <:+ text := by
  rcases exists_opening reads with ⟨opening, behind, rfl, same, -⟩
  have whole : found.value ++ found.rest = behind.dropWhile CharClass.blank := by
    rw [same]
    exact List.prefix_iff_eq_append.mp (rawValue_isPrefix _)
  rw [whole]
  exact (List.dropWhile_suffix _).trans (List.suffix_append _ _)

/-! ## Trailing text -/

/-- Text that starts with a blank, if it is not empty, and holds nothing but a comment behind
its blanks. -/
structure Trailing (tail : List Char) : Prop where
  apart : tail.head?.all CharClass.blank = true
  remark : (tail.dropWhile CharClass.blank).head?.all (· = '#') = true

theorem trailing_of_blanks {tail : List Char} (blanks : ∀ c ∈ tail, CharClass.blank c = true) :
    Trailing tail where
  apart := by
    cases tail with
    | nil => rfl
    | cons c tail => exact blanks c List.mem_cons_self
  remark := by
    rw [List.dropWhile_eq_nil_iff.mpr blanks]
    rfl

theorem trailing_comment (remark : List Char) : Trailing (' ' :: '#' :: remark) where
  apart := rfl
  remark := rfl

section

variable {text tail : List Char} {found : Assignment}

/-- Neither a key nor a sign stands at the beginning of a comment. -/
theorem unopened_of_remark (remark : text.head?.all (· = '#') = true) :
    text.takeWhile isKeyChar = [] ∧ pastSign? text = none := by
  cases text with
  | nil => exact ⟨rfl, rfl⟩
  | cons c rest =>
      obtain rfl : c = '#' := by simpa using remark
      exact ⟨List.takeWhile_cons_of_neg (by decide), rfl⟩

/-- A line without assignments: it is blank up to a comment. -/
theorem scan_eq_nil (remark : (text.dropWhile CharClass.blank).head?.all (· = '#') = true) :
    scan text = [] := by
  induction text with
  | nil => exact scan_nil
  | cons c text ih =>
      by_cases marked : c = '#'
      · rw [marked, scan_comment]
      · have blank : CharClass.blank c = true := by
          by_contra unblank
          rw [List.dropWhile_cons_of_neg unblank] at remark
          simp [marked] at remark
        rw [List.dropWhile_cons_of_pos blank] at remark
        have absent : assignment? (c :: text) = none := by
          rw [assignment?_eq_none_iff, List.dropWhile_cons_of_pos blank]
          exact .inl (unopened_of_remark remark).1
        rw [scan_of_no_assignment marked absent, ih remark]

namespace Trailing

theorem takeWhile_append (trailing : Trailing tail) {accepts : Char → Bool}
    (unblank : ∀ c, accepts c = true → CharClass.blank c = false) (text : List Char) :
    (text ++ tail).takeWhile accepts = text.takeWhile accepts := by
  induction text with
  | nil =>
      cases tail with
      | nil => rfl
      | cons c tail =>
          have blank : CharClass.blank c = true := trailing.apart
          have rejects : accepts c ≠ true := by
            intro accepted
            rw [unblank c accepted] at blank
            cases blank
          exact List.takeWhile_cons_of_neg rejects
  | cons c text ih => simp only [List.cons_append, List.takeWhile_cons, ih]

theorem dropWhile_append (trailing : Trailing tail) {accepts : Char → Bool}
    (unblank : ∀ c, accepts c = true → CharClass.blank c = false) (text : List Char) :
    (text ++ tail).dropWhile accepts = text.dropWhile accepts ++ tail := by
  have taken := trailing.takeWhile_append unblank text
  have whole : (text ++ tail).takeWhile accepts ++ (text ++ tail).dropWhile accepts =
      text.takeWhile accepts ++ (text.dropWhile accepts ++ tail) := by
    rw [List.takeWhile_append_dropWhile, ← List.append_assoc, List.takeWhile_append_dropWhile]
  rw [taken] at whole
  exact List.append_cancel_left whole

/-- Where no assignment stands, trailing text does not make one. -/
theorem assignment?_eq_none (trailing : Trailing tail) (absent : assignment? text = none) :
    assignment? (text ++ tail) = none := by
  have unopened := unopened_of_remark trailing.remark
  rw [assignment?_eq_none_iff] at absent ⊢
  rw [List.dropWhile_append]
  split
  · exact .inl unopened.1
  · rw [trailing.takeWhile_append (fun _ => blank_of_isKeyChar),
      trailing.dropWhile_append (fun _ => blank_of_isKeyChar)]
    apply absent.imp_right
    intro unsigned
    rw [List.dropWhile_append]
    split
    · exact unopened.2
    · rename_i nonempty
      rw [pastSign?_append (by simpa using nonempty), unsigned]
      rfl

/-- A value ends before trailing text. That it is not empty excludes the text from being read
as the value itself, and a double quote in the value from being closed behind it. -/
theorem rawValue_append (trailing : Trailing tail) (nonempty : text ≠ [])
    (unquoted : '"' ∈ text → '"' ∉ tail) : rawValue (text ++ tail) = rawValue text := by
  have plain : (text ++ tail).takeWhile (fun c => !CharClass.blank c) =
      text.takeWhile fun c => !CharClass.blank c := trailing.takeWhile_append (by simp) text
  cases text with
  | nil => exact absurd rfl nonempty
  | cons c inside =>
      by_cases opens : c = '"'
      · subst opens
        have outside := unquoted List.mem_cons_self
        rw [List.cons_append, rawValue, rawValue]
        by_cases closed : '"' ∈ inside
        · rcases List.eq_append_cons_of_mem closed with ⟨before, after, rfl, absent⟩
          simp [Text.takeWhile_bne_append absent]
        · rw [if_neg (by simp [closed, outside]), if_neg closed]
          exact plain
      · rw [rawValue_of_ne (by simpa using opens), rawValue_of_ne (by simpa using opens)]
        exact plain

/-- An assignment with a value stays what it is, and leaves the trailing text. -/
theorem assignment?_eq_some (trailing : Trailing tail) (reads : assignment? text = some found)
    (valued : found.value ≠ []) (unquoted : '"' ∈ text → '"' ∉ tail) :
    assignment? (text ++ tail) = some ⟨found.key, found.value, found.rest ++ tail⟩ := by
  rcases exists_opening reads with ⟨opening, behind, rfl, same, opened⟩
  have value : found.value = rawValue (behind.dropWhile CharClass.blank) :=
    congrArg Assignment.value same
  have rest : found.rest =
      (behind.dropWhile CharClass.blank).drop (rawValue (behind.dropWhile CharClass.blank)).length :=
    congrArg Assignment.rest same
  rw [value, ne_eq, rawValue_dropWhile_blank_eq_nil_iff] at valued
  have inside : '"' ∈ behind.dropWhile CharClass.blank → '"' ∉ tail := by
    intro present
    apply unquoted
    exact List.mem_append_right _ ((List.dropWhile_suffix _).subset present)
  have within := (rawValue_isPrefix (behind.dropWhile CharClass.blank)).length_le
  rw [List.append_assoc, opened, List.dropWhile_append, if_neg (by simpa using valued),
    Assignment.ofValue, trailing.rawValue_append valued inside,
    List.drop_append_of_le_length within, ← rest, ← value]

/-- Where the value is missing, the trailing text is read for it. -/
theorem assignment?_of_missing (tail : List Char) (reads : assignment? text = some found)
    (missing : found.value = []) :
    found.rest = [] ∧ assignment? (text ++ tail) =
      some (.ofValue found.key (tail.dropWhile CharClass.blank)) := by
  rcases exists_opening reads with ⟨opening, behind, rfl, same, opened⟩
  have nothing : behind.dropWhile CharClass.blank = [] := by
    rw [same] at missing
    exact rawValue_dropWhile_blank_eq_nil_iff.mp missing
  constructor
  · rw [same, nothing]
    rfl
  · rw [List.append_assoc, opened, List.dropWhile_append, nothing]
    rfl

/-- Trailing text makes no difference to a line, if blanks are all that follows a missing
value. -/
theorem scan_append (trailing : Trailing tail) (unquoted : '"' ∈ text → '"' ∉ tail)
    (missing : ∀ assignment ∈ scan text, assignment.2 = "" → tail.dropWhile CharClass.blank = []) :
    scan (text ++ tail) = scan text := by
  fun_induction scan text with
  | case1 => exact scan_eq_nil trailing.remark
  | case2 text => rw [List.cons_append, scan_comment]
  | case3 c text unmarked found reads ih =>
      rw [List.forall_mem_cons] at missing
      by_cases valued : found.value = []
      · have nothing : tail.dropWhile CharClass.blank = [] := by
          apply missing.1
          rw [valued]
          rfl
        rcases assignment?_of_missing tail reads valued with ⟨ends, also⟩
        rw [List.cons_append] at also ⊢
        rw [scan_of_assignment unmarked also, nothing, ends, valued]
        rfl
      · have also := trailing.assignment?_eq_some reads valued unquoted
        have left : found.rest <:+ c :: text :=
          (List.suffix_append _ _).trans (value_append_rest_isSuffix reads)
        have further := ih (fun present => unquoted (left.subset present)) missing.2
        rw [List.cons_append] at also ⊢
        rw [scan_of_assignment unmarked also, further]
  | case4 c text unmarked reads ih =>
      have also := trailing.assignment?_eq_none reads
      have further := ih (fun present => unquoted (List.mem_cons_of_mem c present)) missing
      rw [List.cons_append] at also ⊢
      rw [scan_of_no_assignment unmarked also, further]

end Trailing

/-- Blanks at the end of a line are ignored, wherever in a line they stand. -/
theorem scan_append_blanks (text : List Char) (blanks : ∀ c ∈ tail, CharClass.blank c = true) :
    scan (text ++ tail) = scan text := by
  apply (trailing_of_blanks blanks).scan_append
  · intro _ present
    exact absurd (blanks _ present) (by decide)
  · intro _ _ _
    exact List.dropWhile_eq_nil_iff.mpr blanks

end

end PatternLexer.Env
