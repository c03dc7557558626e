import PatternLexer.Proofs.Env.Scan
import PatternLexer.Proofs.Pattern.Lookup
import PatternLexer.Proofs.Pattern.Remainder

/-!
# The patterns of environment files

The classes of the tokenizer of environment files, compiled, with what they leave and
capture. A comment leaves nothing of a line that has something behind the sign `#`. An
assignment leaves what `assignment?` leaves and fails where it does, and the key and the
value are the only captures of their classes.
-/

namespace PatternLexer.Env

open Text

namespace Items

/-- Any number of blanks. -/
def blanks : Matcher := Builtin.whitespace.matcher

/-- The name of a variable. -/
def key : Matcher := .run (.custom isKeyChar) 1 none

/-- A text in double quotes, or one without blanks, or nothing. -/
def value : Matcher :=
  .alternation [[⟨Builtin.string.matcher, some "string"⟩], [⟨Builtin.text.matcher, some "text"⟩],
    []]

/-- An assignment up to its value. -/
def opening : Sequence :=
  [⟨blanks, some "ws"⟩, ⟨key, some "key"⟩, ⟨blanks, some "ws"⟩, ⟨.literal ['='], none⟩,
    ⟨blanks, some "ws"⟩]

/-- An assignment. -/
def assignment : Sequence := opening ++ [⟨value, some "value"⟩]

/-- A comment. -/
def comment : Sequence := [⟨.literal ['#'], none⟩, ⟨Builtin.any.matcher, some "any"⟩]

/-- A comment or an assignment. -/
def expression : Matcher :=
  .alternation [[⟨.pattern comment, some "comment"⟩], [⟨.pattern assignment, some "keyValue"⟩]]

/-- The pattern of the tokenizer. -/
def line : Sequence := [⟨expression, some "expression"⟩]

end Items

/-- All classes are defined and the pattern compiles. -/
theorem pending_tokenizer : tokenizer.pending = none := rfl

theorem rules_tokenizer : tokenizer.rules = [⟨Items.line, assign⟩] := rfl

theorem unmatched_tokenizer : tokenizer.unmatched = .skip := rfl

namespace Items

variable {text : List Char} {found : Assignment}

theorem leaves?_comment_hash (text : List Char) :
    comment.leaves? ('#' :: text) = if text = [] then none else some [] := by
  have whole : (Builtin.any.matcher).leaves? text = if text = [] then none else some [] := by
    have all : text.takeWhile (fun _ => true) = text := List.takeWhile_eq_self_iff.mpr (by simp)
    have nothing : text.dropWhile (fun _ => true) = [] := List.dropWhile_eq_nil_iff.mpr (by simp)
    rw [Builtin.matcher, Builtin.many, Matcher.leaves?_run_one, CharTest.accepts_builtin, all,
      nothing]
  rw [comment, Sequence.leaves?_cons, Matcher.leaves?_literal_cons, if_pos rfl, Option.bind_some,
    Sequence.leaves?_cons, whole]
  split
  · rfl
  · rw [Option.bind_some, Sequence.leaves?_nil]

theorem leaves?_comment_of_ne (unmarked : text.head? ≠ some '#') : comment.leaves? text = none := by
  cases text with
  | nil => simp [comment, Sequence.leaves?_cons]
  | cons c text =>
      have other : '#' ≠ c := fun same => unmarked (by rw [same]; rfl)
      simp [comment, Sequence.leaves?_cons, other]

/-- A run that may be missing. -/
theorem consumed?_run_or_nothing (test : CharTest) (text : List Char) :
    ((Matcher.run test 1 none).consumed? text).or (some []) =
      some (text.takeWhile test.accepts) := by
  rw [Matcher.consumed?_run_one]
  split
  · rename_i empty
    rw [empty]
    rfl
  · rfl

theorem consumed?_value (text : List Char) : value.consumed? text = some (rawValue text) := by
  have plain := consumed?_run_or_nothing (.builtin fun c => !CharClass.blank c) text
  have split : value.consumed? text = ((Matcher.quoted '"').consumed? text).or
      (some (text.takeWhile fun c => !CharClass.blank c)) := by
    rw [value, Matcher.consumed?, Sequence.firstConsumed?, Sequence.firstConsumed?,
      Sequence.firstConsumed?, Sequence.firstConsumed?, Sequence.consumed?_singleton,
      Sequence.consumed?_singleton, Sequence.consumed?, Option.or_none]
    exact congrArg _ plain
  rw [split]
  cases text with
  | nil => rfl
  | cons c inside =>
      by_cases opens : c = '"'
      · subst opens
        by_cases closed : '"' ∈ inside <;> simp [Matcher.consumed?, through?_eq, rawValue, closed]
      · rw [Matcher.consumed?, if_neg opens, Option.none_or, rawValue_of_ne (by simpa using opens)]

theorem leaves?_blanks (others : Sequence) (text : List Char) :
    Sequence.leaves? (⟨blanks, some "ws"⟩ :: others) text =
      others.leaves? (text.dropWhile CharClass.blank) := by
  rw [Sequence.leaves?_cons, blanks, Builtin.matcher, Matcher.leaves?_run_zero]
  rfl

theorem leaves?_sign (text : List Char) :
    (Matcher.literal ['=']).leaves? text = pastSign? text := by
  cases text with
  | nil => exact Matcher.leaves?_literal_nil '='
  | cons c behind =>
      rw [Matcher.leaves?_literal_cons, pastSign?.eq_def]
      split
      · rename_i same
        subst same
        rfl
      · rename_i other
        split
        · rename_i same
          cases same
          exact absurd rfl other
        · rfl

theorem leaves?_opening (text : List Char) :
    opening.leaves? text =
      if (text.dropWhile CharClass.blank).takeWhile isKeyChar = [] then none
      else
        (pastSign? (((text.dropWhile CharClass.blank).dropWhile isKeyChar).dropWhile
          CharClass.blank)).map (List.dropWhile CharClass.blank) := by
  rw [opening, leaves?_blanks, Sequence.leaves?_cons, key, Matcher.leaves?_run_one,
    CharTest.accepts_custom]
  split
  · rfl
  · rw [Option.bind_some, leaves?_blanks, Sequence.leaves?_cons, leaves?_sign]
    cases pastSign? (((text.dropWhile CharClass.blank).dropWhile isKeyChar).dropWhile
      CharClass.blank) with
    | none => rfl
    | some behind => rw [Option.bind_some, leaves?_blanks, Sequence.leaves?_nil, Option.map_some]

/-- Up to the value an assignment is read as `assignment?` reads it. -/
theorem assignment?_eq (text : List Char) :
    assignment? text = (opening.leaves? text).map fun behind =>
      ⟨(text.dropWhile CharClass.blank).takeWhile isKeyChar, rawValue behind,
        behind.drop (rawValue behind).length⟩ := by
  rw [leaves?_opening]
  simp only [assignment?]
  split
  · rfl
  · rw [Option.map_map]
    rfl

theorem leaves?_assignment (text : List Char) :
    assignment.leaves? text = (assignment? text).map (·.rest) := by
  have last (behind : List Char) : Sequence.leaves? [⟨value, some "value"⟩] behind =
      some (behind.drop (rawValue behind).length) := by
    simp [Sequence.leaves?, consumed?_value]
  rw [assignment, Sequence.leaves?_append, assignment?_eq]
  cases opening.leaves? text with
  | none => rfl
  | some behind => exact last behind

section Captures

variable {source : String} {place : Place} {token : Token}

/-- The key is looked up in what an assignment captures. -/
theorem lexeme_get_key (captures : token.captures = assignment.captured source place)
    (reads : assignment? place.rest = some found) :
    (token.get "key").lexeme = String.ofList found.key := by
  have present := key_ne_nil reads
  rw [assignment?_eq, Option.map_eq_some_iff] at reads
  rcases reads with ⟨behind, -, rfl⟩
  have split : assignment = [⟨blanks, some "ws"⟩] ++
      ⟨key, some "key"⟩ :: (opening.drop 2 ++ [⟨value, some "value"⟩]) := rfl
  rw [split] at captures
  have early : Sequence.Lacks "key" [⟨blanks, some "ws"⟩] := by
    simp [blanks, Builtin.matcher, Matcher.Everywhere]
  have late : Sequence.Lacks "key" (opening.drop 2 ++ [⟨value, some "value"⟩]) := by
    simp [opening, blanks, value, Builtin.matcher, Builtin.many,
      Matcher.Everywhere, Sequence.EachEverywhere]
  have passes : Sequence.consumed? [⟨blanks, some "ws"⟩] place.rest =
      some (place.rest.takeWhile CharClass.blank) := by
    simp [blanks, Builtin.matcher, Matcher.consumed?, Text.run]
  have consumed : key.consumed? (place.past (place.rest.takeWhile CharClass.blank)).rest =
      some ((place.rest.dropWhile CharClass.blank).takeWhile isKeyChar) := by
    rw [key, Matcher.consumed?_run_one, Place.past, drop_takeWhile]
    exact if_neg present
  rw [Sequence.get_of_captured_once captures early trivial late passes consumed,
    Matcher.lexeme_toToken_matched consumed]
  rfl

/-- The value is looked up in what an assignment captures. -/
theorem lexeme_get_value (captures : token.captures = assignment.captured source place)
    (reads : assignment? place.rest = some found) :
    (token.get "value").lexeme = String.ofList found.value := by
  rw [assignment?_eq, Option.map_eq_some_iff] at reads
  rcases reads with ⟨behind, leaves, rfl⟩
  rcases Sequence.leaves?_eq_some_iff.mp leaves with ⟨passed, passes, left⟩
  have early : opening.Lacks "value" := by
    simp [opening, blanks, key, Builtin.matcher, Matcher.Everywhere]
  have inside : value.Lacks "value" := by
    simp [value, Builtin.matcher, Builtin.many, Matcher.Everywhere, Sequence.EachEverywhere]
  have consumed : value.consumed? (place.past passed).rest = some (rawValue behind) := by
    rw [Place.past, left, consumed?_value]
  rw [Sequence.get_of_captured_once captures early inside trivial passes consumed,
    Matcher.lexeme_toToken_matched consumed]
  rfl

end Captures

theorem consumed?_expression (text : List Char) :
    expression.consumed? text = (comment.consumed? text).or (assignment.consumed? text) := by
  rw [expression, Matcher.consumed?, Sequence.firstConsumed?, Sequence.firstConsumed?,
    Sequence.firstConsumed?, Sequence.consumed?_reference, Sequence.consumed?_reference,
    Option.or_none]

theorem consumed?_line (text : List Char) :
    line.consumed? text = (comment.consumed? text).or (assignment.consumed? text) := by
  rw [line, Sequence.consumed?_singleton, consumed?_expression]

theorem leaves?_line (text : List Char) :
    line.leaves? text = (comment.leaves? text).or ((assignment? text).map (·.rest)) := by
  rw [← leaves?_assignment, Sequence.leaves?, consumed?_line, Option.map_or]
  rfl

section Reactions

variable {source : String} {place : Place} {taken : List Char}

theorem get_expression (consumed : line.consumed? place.rest = some taken) :
    ((line.matched source place taken).toToken source).get "expression" =
      (expression.matched source place taken).toToken source := by
  have inside : expression.Lacks "expression" := by
    simp [expression, comment, assignment, opening, blanks, key, value, Builtin.matcher,
      Builtin.many, Matcher.Everywhere, Sequence.EachEverywhere]
  rw [line, Sequence.consumed?_singleton] at consumed
  exact Sequence.get_of_captured_alone rfl inside consumed

/-- A comment is not an assignment. -/
theorem assign_comment {passed : List Char} (remark : comment.consumed? place.rest = some passed)
    (consumed : line.consumed? place.rest = some taken) :
    assign ((line.matched source place taken).toToken source) = .done () := by
  have other : Sequence.Lacks "keyValue" [⟨.pattern comment, some "comment"⟩] := by
    simp [comment, Builtin.matcher, Builtin.many, Matcher.Everywhere]
  have first : Sequence.consumed? [⟨.pattern comment, some "comment"⟩] place.rest =
      some passed := by
    rwa [Sequence.consumed?_reference]
  have nothing : ((expression.matched source place taken).toToken source).get "keyValue" =
      .empty := by
    apply Token.get_of_absent
    rw [expression, Matcher.matched_alternation_of_some first]
    exact Sequence.ofClass_captured source _ place other
  simp [assign, get_expression consumed, nothing]

theorem get_keyValue (unmarked : comment.consumed? place.rest = none)
    (consumed : assignment.consumed? place.rest = some taken) :
    ((expression.matched source place taken).toToken source).get "keyValue" =
      ((Matcher.pattern assignment).matched source place taken).toToken source := by
  have inside : (Matcher.pattern assignment).Lacks "keyValue" := by
    simp [assignment, opening, blanks, key, value, Builtin.matcher, Builtin.many,
      Matcher.Everywhere, Sequence.EachEverywhere]
  have first : Sequence.consumed? [⟨.pattern comment, some "comment"⟩] place.rest = none := by
    rwa [Sequence.consumed?_reference]
  have second : Sequence.consumed? [⟨.pattern assignment, some "keyValue"⟩] place.rest =
      some taken := by
    rwa [Sequence.consumed?_reference]
  have captures : ((expression.matched source place taken).toToken source).captures =
      Sequence.captured source [⟨.pattern assignment, some "keyValue"⟩] place := by
    rw [expression, Matcher.matched_alternation_of_none first,
      Matcher.matched_alternation_of_some second]
    rfl
  apply Sequence.get_of_captured_alone captures inside
  rwa [Matcher.consumed?]

/-- An assignment is emitted. -/
theorem assign_assignment (unmarked : comment.consumed? place.rest = none)
    (reads : assignment? place.rest = some found)
    (consumed : line.consumed? place.rest = some taken) :
    assign ((line.matched source place taken).toToken source) =
      .report (String.ofList found.key, unquote (String.ofList found.value)) := by
  have inner : assignment.consumed? place.rest = some taken := by
    rwa [consumed?_line, unmarked, Option.none_or] at consumed
  rw [assign, get_expression consumed, get_keyValue unmarked inner]
  generalize made : ((Matcher.pattern assignment).matched source place taken).toToken source = token
  have captures : token.captures = assignment.captured source place := by
    rw [← made]
    rfl
  have keyed := lexeme_get_key captures reads
  have valued := lexeme_get_value captures reads
  have present : token.isEmpty = false := by
    by_contra empty
    rw [Token.get_of_isEmpty (by simpa using empty), Token.lexeme_empty] at keyed
    exact key_ne_nil reads (by simpa using keyed.symm)
  simp only [present, keyed, valued]
  rfl

end Reactions

end Items

end PatternLexer.Env
