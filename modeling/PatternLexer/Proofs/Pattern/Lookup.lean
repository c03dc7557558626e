import PatternLexer.Proofs.Registry.Inlining

/-!
# Looking up captures

A class that a sequence refers to in one place only, and nowhere inside other items, is
captured once, where its matcher matched (`Sequence.ofClass_captured_once`), and a lookup
of it gives this token (`Sequence.get_of_captured_once`). The lexeme of the token is what
the matcher consumed, without the line feed at the end of a line
(`Matcher.lexeme_toToken_matched`).
-/

namespace PatternLexer

namespace Token

variable {token found : Token} {name : String}

theorem get_of_ofClass (captured : Captures.ofClass name token.captures = [found]) :
    token.get name = found := by
  simp [get, getAt, getAll, captured]

theorem get_of_absent (captured : Captures.ofClass name token.captures = []) :
    token.get name = empty := by
  simp [get, getAt, getAll, captured]

/-- Inside an empty token nothing is found. -/
theorem get_of_isEmpty (nothing : token.isEmpty = true) (name : String) :
    token.get name = empty := by
  simp only [isEmpty, Bool.and_eq_true, List.isEmpty_iff] at nothing
  apply get_of_absent
  rw [nothing.2, Captures.ofClass_nil]

end Token

namespace Matcher

variable {source : String} {place : Place} {taken : List Char}

theorem isPrefix_of_consumed? {matcher : Matcher} {text : List Char}
    (consumed : matcher.consumed? text = some taken) : taken <+: text := by
  have settled : (Cursor.behind [] text []).Settled := rfl
  have follows := matcher.follows_scan settled
  have left : (Cursor.behind [] text []).position.rest = text := rfl
  rw [left, consumed] at follows
  exact follows.1

theorem lexeme_isPrefix (matcher : Matcher) (taken : List Char) :
    matcher.lexeme taken <+: taken := by
  cases matcher with
  | line => exact List.dropLast_prefix taken
  | _ => exact List.prefix_refl taken

theorem lexeme_toToken_matched {matcher : Matcher}
    (consumed : matcher.consumed? place.rest = some taken) :
    ((matcher.matched source place taken).toToken source).lexeme =
      String.ofList (matcher.lexeme taken) := by
  have begins := (matcher.lexeme_isPrefix taken).trans (isPrefix_of_consumed? consumed)
  simp [matched, Match.toToken, Token.lexeme, Place.between_past begins]

end Matcher

namespace Sequence

variable {source name : String} {place : Place} {before after : Sequence} {matcher : Matcher}
  {passed taken : List Char}

/-- A class that is referred to once is captured once. -/
theorem ofClass_captured_once (early : before.Lacks name) (inside : matcher.Lacks name)
    (late : after.Lacks name) (passes : before.consumed? place.rest = some passed)
    (consumed : matcher.consumed? (place.past passed).rest = some taken) :
    Captures.ofClass name (captured source (before ++ ⟨matcher, some name⟩ :: after) place) =
      [(matcher.matched source (place.past passed) taken).toToken source] := by
  have here : (⟨matcher, some name⟩ : Item).matcher.consumed? (place.past passed).rest =
      some taken := consumed
  have below := Matcher.ofClass_captured source matcher (place.past passed) inside
  rw [captured_append passes, captured_cons_of_some here]
  simp [Sequence.ofClass_captured source before place early,
    Sequence.ofClass_captured source after _ late, Matcher.matched, below]

/-- A lookup of the class gives the token of its one match. -/
theorem get_of_captured_once {token : Token}
    (captures : token.captures = captured source (before ++ ⟨matcher, some name⟩ :: after) place)
    (early : before.Lacks name) (inside : matcher.Lacks name)
    (late : after.Lacks name) (passes : before.consumed? place.rest = some passed)
    (consumed : matcher.consumed? (place.past passed).rest = some taken) :
    token.get name = (matcher.matched source (place.past passed) taken).toToken source := by
  apply Token.get_of_ofClass
  rw [captures]
  exact ofClass_captured_once early inside late passes consumed

/-- So it does where the reference stands alone. -/
theorem get_of_captured_alone {token : Token}
    (captures : token.captures = captured source [⟨matcher, some name⟩] place)
    (inside : matcher.Lacks name)
    (consumed : matcher.consumed? place.rest = some taken) :
    token.get name = (matcher.matched source place taken).toToken source := by
  have none : Sequence.Lacks name [] := trivial
  rw [← Place.past_nil place] at consumed ⊢
  exact get_of_captured_once captures none inside none rfl consumed

end Sequence

end PatternLexer
