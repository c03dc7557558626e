import PatternLexer.CharClass
import PatternLexer.Env

/-!
# Scanning environment files directly

The assignments of a line can be read off without classes, patterns and a tokenizer:
`scan` goes through a line from the left and drops a character wherever no assignment
stands. It is what the tokenizer of environment files is compared with.
-/

namespace PatternLexer.Env

/-- The value at the beginning of a text as it is written: from one double quote through
the next, or all characters up to a blank. -/
def rawValue (text : List Char) : List Char :=
  match text with
  | '"' :: inside =>
      if '"' ∈ inside then '"' :: (inside.takeWhile (· != '"') ++ ['"'])
      else text.takeWhile fun c => !CharClass.blank c
  | _ => text.takeWhile fun c => !CharClass.blank c

theorem rawValue_of_ne {text : List Char} (unquoted : text.head? ≠ some '"') :
    rawValue text = text.takeWhile fun c => !CharClass.blank c := by
  unfold rawValue
  split
  · exact absurd rfl unquoted
  · rfl

/-- An assignment at the beginning of a text, with its value as it is written, and what is
left of the text behind it. -/
structure Assignment where
  key : List Char
  value : List Char
  rest : List Char

/-- The text behind a sign `=` at its beginning. -/
def pastSign? : List Char → Option (List Char)
  | '=' :: text => some text
  | _ => none

/-- Read an assignment: a key and a value with the sign `=` between them, and blanks before
each of the three. -/
def assignment? (text : List Char) : Option Assignment :=
  let text := text.dropWhile CharClass.blank
  let key := text.takeWhile isKeyChar
  if key = [] then none
  else
    (pastSign? ((text.dropWhile isKeyChar).dropWhile CharClass.blank)).map fun text =>
      let text := text.dropWhile CharClass.blank
      let value := rawValue text
      ⟨key, value, text.drop value.length⟩

theorem blank_of_isKeyChar {c : Char} (keyChar : isKeyChar c = true) :
    CharClass.blank c = false := by
  apply eq_false_of_ne_true
  intro blank
  rcases CharClass.blank_iff.mp blank with rfl | rfl | rfl | rfl <;>
    exact absurd keyChar (by decide)

theorem key_ne_nil {text : List Char} {found : Assignment}
    (reads : assignment? text = some found) : found.key ≠ [] := by
  simp only [assignment?] at reads
  split at reads
  · cases reads
  · rename_i present
    rcases Option.map_eq_some_iff.mp reads with ⟨behind, -, rfl⟩
    exact present

theorem length_pastSign?_lt {text behind : List Char} (sign : pastSign? text = some behind) :
    behind.length < text.length := by
  rw [pastSign?.eq_def] at sign
  split at sign
  · cases sign
    exact Nat.lt_succ_self _
  · cases sign

/-- What is left behind an assignment is shorter. -/
theorem length_rest_lt {text : List Char} {found : Assignment}
    (reads : assignment? text = some found) : found.rest.length < text.length := by
  have shorter (accepts : Char → Bool) (cs : List Char) :
      (cs.dropWhile accepts).length ≤ cs.length := (List.dropWhile_suffix accepts).length_le
  simp only [assignment?] at reads
  split at reads
  · cases reads
  · rcases Option.map_eq_some_iff.mp reads with ⟨behind, sign, rfl⟩
    have leading := shorter CharClass.blank text
    have keys := shorter isKeyChar (text.dropWhile CharClass.blank)
    have blanks := shorter CharClass.blank ((text.dropWhile CharClass.blank).dropWhile isKeyChar)
    have signs := length_pastSign?_lt sign
    have trailing := shorter CharClass.blank behind
    simp only [List.length_drop]
    omega

/-- The assignment to a key whose value is at the beginning of a text. -/
def Assignment.ofValue (key text : List Char) : Assignment :=
  ⟨key, rawValue text, text.drop (rawValue text).length⟩

/-- Up to its sign an assignment is read in the same way whatever follows. -/
theorem assignment?_opening {leading key between : List Char} (more : List Char)
    (leadingBlank : ∀ c ∈ leading, CharClass.blank c = true) (named : key ≠ [])
    (keyChars : ∀ c ∈ key, isKeyChar c = true)
    (betweenBlank : ∀ c ∈ between, CharClass.blank c = true) :
    assignment? (leading ++ (key ++ (between ++ '=' :: more))) =
      some (.ofValue key (more.dropWhile CharClass.blank)) := by
  have start : (leading ++ (key ++ (between ++ '=' :: more))).dropWhile CharClass.blank =
      key ++ (between ++ '=' :: more) := by
    rw [List.dropWhile_append_of_pos leadingBlank]
    cases key with
    | nil => exact absurd rfl named
    | cons c key =>
        have first := blank_of_isKeyChar (keyChars c List.mem_cons_self)
        rw [List.cons_append, List.dropWhile_cons_of_neg (by simp [first])]
  have behindKey : (between ++ '=' :: more).takeWhile isKeyChar = [] ∧
      (between ++ '=' :: more).dropWhile isKeyChar = between ++ '=' :: more := by
    cases between with
    | nil => exact ⟨List.takeWhile_cons_of_neg (by decide), List.dropWhile_cons_of_neg (by decide)⟩
    | cons c between =>
        have other : isKeyChar c ≠ true := by
          intro keyChar
          have blank := betweenBlank c List.mem_cons_self
          rw [blank_of_isKeyChar keyChar] at blank
          cases blank
        exact ⟨List.takeWhile_cons_of_neg other, List.dropWhile_cons_of_neg other⟩
  have sign : (between ++ '=' :: more).dropWhile CharClass.blank = '=' :: more := by
    rw [List.dropWhile_append_of_pos betweenBlank, List.dropWhile_cons_of_neg (by decide)]
  simp only [assignment?, start, List.takeWhile_append_of_pos keyChars,
    List.dropWhile_append_of_pos keyChars, behindKey.1, behindKey.2, List.append_nil, sign,
    if_neg named]
  rfl

/-- The assignments of a line, each with the value that is meant. -/
def scan : List Char → List (String × String)
  | [] => []
  | '#' :: _ => []
  | c :: text =>
      match _ : assignment? (c :: text) with
      | some found =>
          (String.ofList found.key, unquote (String.ofList found.value)) :: scan found.rest
      | none => scan text
termination_by text => text.length
decreasing_by
  · exact length_rest_lt ‹_›
  · simp

@[simp] theorem scan_nil : scan [] = [] := by
  rw [scan]

@[simp] theorem scan_comment (text : List Char) : scan ('#' :: text) = [] := by
  rw [scan]

section Equations

variable {c : Char} {text : List Char}

theorem scan_of_assignment {found : Assignment} (unmarked : c ≠ '#')
    (reads : assignment? (c :: text) = some found) :
    scan (c :: text) =
      (String.ofList found.key, unquote (String.ofList found.value)) :: scan found.rest := by
  rw [scan]
  · split
    · rename_i also
      rw [reads] at also
      cases also
      rfl
    · rename_i absent
      rw [reads] at absent
      cases absent
  · exact unmarked

theorem scan_of_no_assignment (unmarked : c ≠ '#') (reads : assignment? (c :: text) = none) :
    scan (c :: text) = scan text := by
  rw [scan]
  · split
    · rename_i found
      rw [reads] at found
      cases found
    · rfl
  · exact unmarked

end Equations

end PatternLexer.Env
