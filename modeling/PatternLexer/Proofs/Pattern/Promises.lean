import PatternLexer.Proofs.Pattern.Lookup
import PatternLexer.Proofs.Pattern.Paths

/-!
# What predefined classes promise

A token that is filed under the name of a predefined class has the form that this class
stands for: a run of characters of its set that could not be longer, one character of its
set, the rest of a line, or a quoted text. `Builtin.Promises` says so of a lexeme and the
text behind it.

Such a token can be filed far above the place where it was captured, in a class inside
other classes. It still is what the matcher of the class consumed there
(`Captures.Path.comesFrom`), and no class can be defined that takes the name of a predefined
one. Main statement: `promises_of_match?`.
-/

namespace PatternLexer

open Text

/-- All characters of a text pass a test, and the character behind it, if there is one, does
not. -/
def Text.Longest (accepts : Char → Bool) (lexeme later : List Char) : Prop :=
  (∀ c ∈ lexeme, accepts c = true) ∧ ∀ c, later.head? = some c → accepts c = false

/-- What a predefined class promises of a lexeme and the text behind it. -/
def Builtin.Promises (lexeme later : List Char) : Builtin → Prop
  | .any => lexeme ≠ [] ∧ Longest (fun _ => true) lexeme later
  | .base64 => lexeme ≠ [] ∧ Longest CharClass.base64 lexeme later
  | .char => ∃ c, lexeme = [c] ∧ CharClass.letter c = true
  | .float => lexeme ≠ [] ∧ Longest (fun c => CharClass.digit c || c = '.') lexeme later
  | .hex => lexeme ≠ [] ∧ Longest CharClass.hex lexeme later
  | .leftBrace => lexeme = ['{']
  | .line => '\n' ∉ lexeme ∧ later.head? = some '\n'
  | .number => lexeme ≠ [] ∧ Longest CharClass.digit lexeme later
  | .rightBrace => lexeme = ['}']
  | .string => ∃ inside, lexeme = '"' :: (inside ++ ['"']) ∧ '"' ∉ inside
  | .symbol => ∃ c, lexeme = [c] ∧ CharClass.symbol c = true
  | .text => lexeme ≠ [] ∧ Longest (fun c => !CharClass.blank c) lexeme later
  | .var =>
      lexeme ≠ [] ∧ Longest (fun c => CharClass.letter c || c = '$' || c = '_') lexeme later
  | .word => lexeme ≠ [] ∧ Longest CharClass.letter lexeme later
  | .whitespace => Longest CharClass.blank lexeme later

/-- A token is a lexeme at its place in its source, with the form that a predefined class
promises. -/
def Builtin.Describes (builtin : Builtin) (token : Token) : Prop :=
  ∃ before lexeme later, token.source.toList = before ++ lexeme ++ later ∧
    token.pos = size before ∧ token.length = size lexeme ∧
      token.lexeme = String.ofList lexeme ∧ builtin.Promises lexeme later

theorem Text.longest_takeWhile (accepts : Char → Bool) (text : List Char) :
    Longest accepts (text.takeWhile accepts) (text.dropWhile accepts) := by
  constructor
  · exact List.all_eq_true.mp List.all_takeWhile
  · intro c first
    have stops := List.head?_dropWhile_not accepts text
    rwa [first] at stops

section Consumed

variable {test : CharTest} {min : Nat} {quote : Char} {text taken : List Char}

theorem exists_later_of_consumed?_run
    (consumed : (Matcher.run test min none).consumed? text = some taken) :
    ∃ later, text = taken ++ later ∧ min ≤ taken.length ∧ Longest test.accepts taken later := by
  simp only [Matcher.consumed?, Option.ite_none_left_eq_some, Option.some.injEq] at consumed
  obtain ⟨enough, rfl⟩ := consumed
  exact ⟨text.dropWhile test.accepts, List.takeWhile_append_dropWhile.symm,
    Nat.le_of_not_lt enough, longest_takeWhile _ text⟩

theorem exists_later_of_consumed?_many {accepts : Char → Bool}
    (consumed : (Builtin.many accepts).consumed? text = some taken) :
    ∃ later, text = taken ++ later ∧ taken ≠ [] ∧ Longest accepts taken later := by
  obtain ⟨later, split, enough, longest⟩ := exists_later_of_consumed?_run consumed
  exact ⟨later, split, List.length_pos_iff.mp enough, longest⟩

theorem exists_later_of_consumed?_one {accepts : Char → Bool}
    (consumed : (Builtin.one accepts).consumed? text = some taken) :
    ∃ c later, text = taken ++ later ∧ taken = [c] ∧ accepts c = true := by
  simp only [Builtin.one, Matcher.consumed?, Option.ite_none_left_eq_some, Option.some.injEq]
    at consumed
  obtain ⟨enough, rfl⟩ := consumed
  cases text with
  | nil => simp at enough
  | cons c later =>
      by_cases passes : accepts c = true
      · exact ⟨c, later, by simp [run, passes], by simp [run, passes], passes⟩
      · simp [run, passes] at enough

theorem exists_later_of_consumed?_line (consumed : Matcher.line.consumed? text = some taken) :
    ∃ later, text = taken.dropLast ++ later ∧ '\n' ∉ taken.dropLast ∧
      later.head? = some '\n' := by
  rw [Matcher.consumed?, through?_eq] at consumed
  split at consumed
  · rename_i member
    cases consumed
    obtain ⟨before, after, rfl, absent⟩ := List.eq_append_cons_of_mem member
    refine ⟨'\n' :: after, ?_, ?_, rfl⟩ <;> simp [takeWhile_bne_append absent, absent]
  · cases consumed

theorem exists_later_of_consumed?_quoted
    (consumed : (Matcher.quoted quote).consumed? text = some taken) :
    ∃ inside later, text = taken ++ later ∧ taken = quote :: (inside ++ [quote]) ∧
      quote ∉ inside := by
  cases text with
  | nil => cases consumed
  | cons c rest =>
      rw [Matcher.consumed?, through?_eq] at consumed
      split at consumed
      · rename_i same
        split at consumed
        · rename_i member
          cases consumed
          obtain ⟨before, after, rfl, absent⟩ := List.eq_append_cons_of_mem member
          exact ⟨before, after, by simp [takeWhile_bne_append absent],
            by simp [takeWhile_bne_append absent, same], absent⟩
        · cases consumed
      · cases consumed

end Consumed

/-- What the matcher of a predefined class consumes keeps the promise. -/
theorem Builtin.promises_of_consumed? (builtin : Builtin) {text taken : List Char}
    (consumed : builtin.matcher.consumed? text = some taken) :
    ∃ later, text = builtin.matcher.lexeme taken ++ later ∧
      builtin.Promises (builtin.matcher.lexeme taken) later := by
  cases builtin with
  | any | base64 | float | hex | number | text | var | word =>
      obtain ⟨later, split, nonempty, longest⟩ := exists_later_of_consumed?_many consumed
      exact ⟨later, split, nonempty, longest⟩
  | char | symbol =>
      obtain ⟨c, later, split, single, passes⟩ := exists_later_of_consumed?_one consumed
      exact ⟨later, split, c, single, passes⟩
  | leftBrace | rightBrace =>
      obtain ⟨c, later, split, rfl, same⟩ := exists_later_of_consumed?_one consumed
      exact ⟨later, split, congrArg (fun c => [c]) (of_decide_eq_true same)⟩
  | line => exact exists_later_of_consumed?_line consumed
  | string =>
      obtain ⟨inside, later, split, quoted, absent⟩ := exists_later_of_consumed?_quoted consumed
      exact ⟨later, split, inside, quoted, absent⟩
  | whitespace =>
      obtain ⟨later, split, -, longest⟩ := exists_later_of_consumed?_run consumed
      exact ⟨later, split, longest⟩

/-! ## Where tokens come from -/

/-- The token comes from an item of its name with the property: it is what the matcher of
this item consumed at a place of the text. -/
def Token.ComesFrom (property : Item → Prop) (source : String) (first : Place) (name : String)
    (token : Token) : Prop :=
  ∃ matcher place taken, property ⟨matcher, some name⟩ ∧ matcher.Everywhere property ∧
    first.Reaches place ∧ matcher.consumed? place.rest = some taken ∧
      token = (matcher.matched source place taken).toToken source

variable {property : Item → Prop} {source : String}

theorem Token.ComesFrom.of_reaches {first place : Place} {name : String} {token : Token}
    (comes : token.ComesFrom property source place name) (reaches : first.Reaches place) :
    token.ComesFrom property source first name := by
  obtain ⟨matcher, further, taken, holds, everywhere, behind, consumed⟩ := comes
  exact ⟨matcher, further, taken, holds, everywhere, reaches.trans behind, consumed⟩

mutual

theorem Matcher.comesFrom_captured (matcher : Matcher) (place : Place)
    (everywhere : matcher.Everywhere property) :
    ∀ name token, (name, token) ∈ matcher.captured source place →
      token.ComesFrom property source place name := by
  cases matcher with
  | literal | run | line | quoted => simp [Matcher.captured]
  | alternation alternatives =>
      exact Sequence.comesFrom_firstCaptured alternatives place everywhere
  | pattern items => exact Sequence.comesFrom_captured items place everywhere

theorem Sequence.comesFrom_firstCaptured (alternatives : List Sequence) (place : Place)
    (everywhere : Sequence.EachEverywhere property alternatives) :
    ∀ name token, (name, token) ∈ Sequence.firstCaptured source alternatives place →
      token.ComesFrom property source place name := by
  cases alternatives with
  | nil => simp [Sequence.firstCaptured]
  | cons items others =>
      rw [Sequence.firstCaptured]
      split
      · exact Sequence.comesFrom_captured items place everywhere.1
      · exact Sequence.comesFrom_firstCaptured others place everywhere.2

theorem Sequence.comesFrom_captured (items : Sequence) (place : Place)
    (everywhere : items.Everywhere property) :
    ∀ name token, (name, token) ∈ Sequence.captured source items place →
      token.ComesFrom property source place name := by
  cases items with
  | nil => simp [Sequence.captured]
  | cons item others =>
      obtain ⟨matcher, capture⟩ := item
      obtain ⟨here, inside, further⟩ := everywhere
      have below := Matcher.comesFrom_captured matcher place inside
      rw [Sequence.captured]
      cases consumed : matcher.consumed? place.rest with
      | none => simp
      | some taken =>
          have reaches := Place.reaches_past (Matcher.isPrefix_of_consumed? consumed)
          have behind := Sequence.comesFrom_captured others (place.past taken) further
          intro name token member
          rcases List.mem_append.mp member with filed | later
          · cases capture with
            | none => cases filed
            | some tag =>
                rcases List.mem_append.mp filed with deeper | own
                · exact below name token deeper
                · cases List.mem_singleton.mp own
                  exact ⟨matcher, place, taken, here, inside, .refl place, consumed, rfl⟩
          · exact (behind name token later).of_reaches reaches

end

/-- A token on a path comes from an item, however deep the path leads. -/
theorem Captures.Path.comesFrom {captures : Captures} {path : List (String × Token)}
    {first : Place} {name : String} {token : Token} (isPath : captures.Path path)
    (comes : ∀ name token, (name, token) ∈ captures → token.ComesFrom property source first name)
    (member : (name, token) ∈ path) : token.ComesFrom property source first name := by
  induction isPath generalizing first with
  | nil => cases member
  | cons here _ ih =>
      have outer := comes _ _ here
      cases member with
      | head => exact outer
      | tail _ deeper =>
          obtain ⟨matcher, place, taken, -, everywhere, reaches, -, rfl⟩ := outer
          have inner := ih (Matcher.comesFrom_captured matcher place everywhere) deeper
          exact inner.of_reaches reaches

/-- A token of the matcher of a predefined class is as this class promises. -/
theorem Builtin.describes_matched (builtin : Builtin) {place : Place} {taken : List Char}
    (reaches : (Place.start source.toList).Reaches place)
    (consumed : builtin.matcher.consumed? place.rest = some taken) :
    builtin.Describes ((builtin.matcher.matched source place taken).toToken source) := by
  obtain ⟨later, split, promises⟩ := builtin.promises_of_consumed? consumed
  obtain ⟨before, text, offset⟩ := reaches
  simp only [Place.start, Nat.zero_add] at text offset
  refine ⟨before, builtin.matcher.lexeme taken, later, ?_, offset, ?_,
    Matcher.lexeme_toToken_matched consumed, promises⟩
  · rw [List.append_assoc, ← split]
    exact text
  · simp [Matcher.matched, Match.toToken, Token.length, Place.past]

namespace Cursor

/-- Every token that a match of a compiled pattern files under the name of a predefined
class, at any depth, is as this class promises. -/
theorem promises_of_match? (registrations : List (String × Definition)) {pattern : String}
    {items : Sequence} (before rest : List Char) (saved : List Place) {found : Match}
    {next : Cursor} {path : List (String × Token)} {builtin : Builtin} {token : Token}
    (compiled : (Registry.empty.registerAll registrations).compile pattern = .ok items)
    (matched : (behind before rest saved).match? items = (some found, next))
    (isPath : found.captures.Path path) (member : (builtin.name, token) ∈ path) :
    token.source = String.ofList (before ++ rest) ∧ builtin.Describes token := by
  have settled : (behind before rest saved).Settled := rfl
  have made := (Registry.coherent_registerAll registrations).everywhere_of_compile compiled
  have ofText : (Place.start (String.ofList (before ++ rest)).toList).Reaches ⟨size before, rest⟩ :=
    ⟨before, by simp [Place.start], by simp [Place.start]⟩
  have follows := settled.follows items
  cases consumed : items.consumed? (behind before rest saved).position.rest with
  | none =>
      rw [consumed, Follows, matched] at follows
      cases follows
  | some taken =>
      rw [consumed] at follows
      cases matched.symm.trans follows.2
      obtain ⟨matcher, place, passed, resolves, -, reaches, passes, rfl⟩ :=
        isPath.comesFrom (Sequence.comesFrom_captured items _ made) member
      have same : builtin.matcher = matcher :=
        Option.some.inj ((Registry.find?_builtin _ builtin).symm.trans resolves)
      subst same
      exact ⟨rfl, builtin.describes_matched (ofText.trans reaches) passes⟩

/-- The number inside the pair ends before the blank, although the line goes on. -/
theorem promises_of_match?_number :
    ∃ items found next path token,
      (Registry.empty.registerAll [("pair", .pattern "{word}{ws}:{number}")]).compile
          "{pair}{line}" = .ok items ∧
      (behind ['£'] "ab :12 c\n".toList []).match? items = (some found, next) ∧
      found.captures.Path path ∧ path.map (·.1) = ["pair", "number"] ∧
      ("number", token) ∈ path ∧ Builtin.number.Describes token := by
  have leads : (((Registry.empty.registerAll
      [("pair", .pattern "{word}{ws}:{number}")]).compile "{pair}{line}").toOption.bind
    fun items => ((behind ['£'] "ab :12 c\n".toList []).match? items).1).any
      (fun found => found.captures.leadsTo ["pair", "number"]) = true := by decide +kernel
  obtain ⟨items, found, next, path, compiled, matched, isPath, names⟩ :=
    Captures.exists_path_of_match? leads
  have named : "number" ∈ path.map (·.1) := by simp [names]
  obtain ⟨⟨_, token⟩, member, rfl⟩ := List.mem_map.mp named
  have filed : (Builtin.number.name, token) ∈ path := member
  exact ⟨items, found, next, path, token, compiled, matched, isPath, names, member,
    (promises_of_match? _ _ _ _ compiled matched isPath filed).2⟩

end Cursor

end PatternLexer
