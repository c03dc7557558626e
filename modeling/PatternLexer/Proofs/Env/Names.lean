import PatternLexer.Proofs.Env.RoundTrip
import PatternLexer.Proofs.Env.Trailing

/-!
# Where variables get their names

A variable is named by a whole run of characters of names in some line, with the sign `=`
behind it. The tokenizer goes on one character further where no assignment stands, and directly
behind a value, so the text that it looks at may begin inside such a run. There is never an
assignment then: one that begins inside a run begins before it as well (`unsplit_concat`), and
no run goes on behind a value (`getLast?_rawValue`).

Main statement: `assignedIn_of_parse`.
-/

namespace PatternLexer.Env

/-- A whole run of characters of names that stands in a line, with blanks and the sign `=`
behind it. -/
def AssignedIn (line name : List Char) : Prop :=
  ∃ before between behind, line = before ++ (name ++ (between ++ '=' :: behind)) ∧
    (∀ c ∈ before.getLast?, isKeyChar c = false) ∧
    (∀ c ∈ (between ++ '=' :: behind).head?, isKeyChar c = false) ∧
    ∀ c ∈ between, CharClass.blank c = true

/-- Where a run of characters of names goes on from the first text into the second one, no
assignment stands at the beginning of the second one. -/
def Unsplit (before text : List Char) : Prop :=
  before.getLast?.any isKeyChar = true → text.head?.any isKeyChar = true →
    assignment? text = none

variable {before text : List Char} {c : Char} {found : Assignment}

theorem not_isKeyChar_of_blank (blank : CharClass.blank c = true) : isKeyChar c = false := by
  apply eq_false_of_ne_true
  intro keyChar
  rw [blank_of_isKeyChar keyChar] at blank
  cases blank

/-- An assignment that begins inside a run begins before it as well. -/
theorem unsplit_concat (absent : assignment? (c :: text) = none) (before : List Char) :
    Unsplit (before ++ [c]) text := by
  intro last first
  cases text with
  | nil => cases first
  | cons d text =>
      have keyChar : isKeyChar c = true := by simpa using last
      have further : isKeyChar d = true := first
      rw [assignment?_eq_none_iff] at absent ⊢
      simpa [keyChar, further, blank_of_isKeyChar] using absent

/-- A value ends with a double quote or before a blank. -/
theorem rawValue_cases (text : List Char) :
    (rawValue text).getLast? = some '"' ∨
      rawValue text = text.takeWhile fun c => !CharClass.blank c := by
  rw [rawValue.eq_def]
  split
  · split
    · left
      rw [← List.cons_append, List.getLast?_concat]
    · exact .inr rfl
  · exact .inr rfl

/-- Only behind a double quote a character of names follows a value directly. -/
theorem getLast?_rawValue
    (further : (text.drop (rawValue text).length).head?.any isKeyChar = true) :
    (rawValue text).getLast? = some '"' := by
  apply (rawValue_cases text).resolve_right
  intro plain
  have stops := List.head?_dropWhile_not (fun c => !CharClass.blank c) text
  rw [plain, Text.drop_takeWhile] at further
  cases left : text.dropWhile (fun c => !CharClass.blank c) with
  | nil =>
      rw [left] at further
      cases further
  | cons c rest =>
      rw [left] at stops further
      have keyChar : isKeyChar c = true := further
      rw [not_isKeyChar_of_blank (by simpa using stops)] at keyChar
      cases keyChar

theorem unsplit_behind (reads : assignment? text = some found) (before : List Char) :
    Unsplit (before ++ found.value) found.rest := by
  rcases exists_parts reads with ⟨-, -, behind, -, -, -, -, same⟩
  intro last first
  have quoted : found.value.getLast? = some '"' := by
    rw [same] at first ⊢
    exact getLast?_rawValue first
  rw [List.getLast?_append, quoted, Option.some_or] at last
  exact absurd last (by decide)

/-- The key of an assignment is a whole run. -/
theorem assignedIn_key (unsplit : Unsplit before text) (reads : assignment? text = some found) :
    AssignedIn (before ++ text) found.key := by
  rcases exists_parts reads with
    ⟨leading, between, behind, split, leadingBlank, keyChars, betweenBlank, -⟩
  refine ⟨before ++ leading, between, behind, by simp [split], ?_, ?_, betweenBlank⟩
  · intro c last
    rcases List.eq_nil_or_concat' leading with rfl | ⟨earlier, d, rfl⟩
    · -- The key begins the text, where it would go on with a run from before.
      rw [List.append_nil, Option.mem_def] at last
      apply eq_false_of_ne_true
      intro keyChar
      have first : text.head?.any isKeyChar = true := by
        cases key : found.key with
        | nil => exact absurd key (key_ne_nil reads)
        | cons d key =>
            rw [split, key]
            exact keyChars d (by simp [key])
      rw [unsplit (by simp [last, keyChar]) first] at reads
      cases reads
    · rw [← List.append_assoc, List.getLast?_concat] at last
      cases last
      exact not_isKeyChar_of_blank (leadingBlank c (by simp))
  · intro c first
    cases between with
    | nil =>
        cases first
        rfl
    | cons d between =>
        cases first
        exact not_isKeyChar_of_blank (betweenBlank c List.mem_cons_self)

/-- Wherever in a line the scan has come to, it finds names that are whole runs of the line. -/
theorem assignedIn_of_mem_scan (unsplit : Unsplit before text) :
    ∀ assignment ∈ scan text, AssignedIn (before ++ text) assignment.1.toList := by
  fun_induction scan text generalizing before with
  | case1 => simp
  | case2 text => simp
  | case3 c text unmarked found reads ih =>
      rcases value_append_rest_isSuffix reads with ⟨opening, split⟩
      have whole : before ++ c :: text = (before ++ opening ++ found.value) ++ found.rest := by
        simp [← split]
      rw [List.forall_mem_cons]
      constructor
      · rw [String.toList_ofList]
        exact assignedIn_key unsplit reads
      · rw [whole]
        exact ih (unsplit_behind reads (before ++ opening))
  | case4 c text unmarked reads ih =>
      rw [← List.singleton_append, ← List.append_assoc]
      exact ih (unsplit_concat reads before)

/-- Every file is read. Each of its variables has a name that stands in some line as a whole
run of characters of names, with blanks and the sign `=` behind it, and its value has neither a
double quote nor a backslash with an `n` behind it. -/
theorem assignedIn_of_parse (contents : String) :
    ∃ known, parse contents = .ok known ∧ ∀ name value : String, known[name]? = some value →
      Writable (name, value) ∧
        ∃ line ∈ Text.lines contents.toList, AssignedIn line name.toList := by
  refine ⟨_, parse_eq contents, ?_⟩
  intro name value defined
  rcases List.mem_flatMap.mp (mem_of_getElem?_enter defined) with ⟨line, inFile, present⟩
  have start : Unsplit [] line := by
    intro last
    cases last
  exact ⟨writable_scan line _ present, line, inFile, assignedIn_of_mem_scan start _ present⟩

/-- A pair that only appears when the quote in it is left out, and a name directly behind a
value. -/
theorem assignedIn_of_parse_quotes :
    ∃ known, parse "?A_1 =x\\\"n\r\nK=\"v\"L=" = .ok known ∧
      known.toList = [("A_1", "x\n"), ("K", "v"), ("L", "")] ∧ Writable ("A_1", "x\n") ∧
      ∃ line ∈ Text.lines "?A_1 =x\\\"n\r\nK=\"v\"L=".toList, AssignedIn line "L".toList := by
  obtain ⟨known, reads, named⟩ := assignedIn_of_parse "?A_1 =x\\\"n\r\nK=\"v\"L="
  have listed : (parse "?A_1 =x\\\"n\r\nK=\"v\"L=").toOption.map (·.toList) =
      some [("A_1", "x\n"), ("K", "v"), ("L", "")] := by decide +kernel
  rw [reads] at listed
  have listed : known.toList = [("A_1", "x\n"), ("K", "v"), ("L", "")] := Option.some.inj listed
  have defined (name value : String) (present : (name, value) ∈ known.toList) :
      known[name]? = some value := Std.ExtTreeMap.mem_toList_iff_getElem?_eq_some.mp present
  exact ⟨known, reads, listed, (named "A_1" "x\n" (defined _ _ (by simp [listed]))).1,
    (named "L" "" (defined _ _ (by simp [listed]))).2⟩

end PatternLexer.Env
