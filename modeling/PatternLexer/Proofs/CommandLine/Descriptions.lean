import PatternLexer.CommandLine.Command
import PatternLexer.Proofs.Text.Delimiting

/-!
# Descriptions of tokens

A token is told on a line: its offset, its length and its lexeme between tabs, and behind them its
captures between blanks, each as a name and a lexeme around an equals sign. Lexemes are quoted, and
numbers have digits only. The names of classes stand as they are, so they can hold blanks, tabs,
quotes and line feeds, but the first equals sign ends them. So every part of a line shows where it
ends, and lines can be read back one after another (`delimits_line`, `descriptions_of_listTokens`).

A line ends with the quote behind a lexeme. So the blanks that are left out at its end are the tab
behind the lexeme of a token without captures and nothing else (`toList_describe`, `fullLine_eq`).
-/

namespace PatternLexer.CommandLine

open Text

/-- What is told about a token: its offset, length and lexeme, and the lexemes of its captures with
their classes, in the order of the class names. -/
structure Description where
  pos : Nat
  length : Nat
  lexeme : String
  captures : List (String × String)
  deriving DecidableEq, Repr

/-- The lexemes of the captures of a token with their classes, in the order of the class names. -/
def capturedLexemes (token : Token) : List (String × String) :=
  (Captures.byClass token.captures).flatMap fun (name, tokens) =>
    tokens.map fun captured => (name, captured.lexeme)

/-- What is told about a token. -/
def Description.of (token : Token) : Description :=
  ⟨token.pos, token.length, token.lexeme, capturedLexemes token⟩

/-- Tokens one to a line. -/
def listTokens (tokens : List Token) : String :=
  String.join (tokens.map fun token => describe token ++ "\n")

/-- The description of a token before the blanks at its end are left out. -/
def fullLine (token : Token) : String :=
  s!"{token.pos}\t{token.length}\t{quoted token.lexeme}\t{describeCaptures token}"

/-- A capture as it is written. -/
def entry (capture : String × String) : List Char :=
  capture.1.toList ++ '=' :: (quoted capture.2).toList

/-- The captures behind a lexeme, each behind a character that separates it from what comes
before it. -/
def entries : List (String × String) → List Char
  | [] => []
  | first :: others => '\t' :: (entry first ++ others.flatMap fun capture => ' ' :: entry capture)

/-- The line of a description. -/
def Description.line (description : Description) : List Char :=
  Nat.toDigits 10 description.pos ++ '\t' :: (Nat.toDigits 10 description.length ++ '\t' ::
    ((quoted description.lexeme).toList ++ entries description.captures))

theorem intercalate_blank (first : List Char) (others : List (List Char)) :
    [' '].intercalate (first :: others) = first ++ others.flatMap (' ' :: ·) := by
  induction others generalizing first with
  | nil => simp
  | cons second others ih => simp [ih]

theorem toList_describeCaptures (token : Token) :
    (describeCaptures token).toList = [' '].intercalate ((capturedLexemes token).map entry) := by
  have each (capture : String × String) :
      s!"{capture.1}={quoted capture.2}" = String.ofList (entry capture) := by
    have joined : s!"{capture.1}={quoted capture.2}" = capture.1 ++ "=" ++ quoted capture.2 := rfl
    rw [joined]
    apply String.toList_inj.mp
    simp [entry]
  have listed : describeCaptures token =
      " ".intercalate
        ((capturedLexemes token).map fun capture => String.ofList (entry capture)) := by
    simp only [describeCaptures, capturedLexemes, List.map_flatMap, List.map_map, ← each]
    rfl
  rw [listed, String.toList_intercalate, List.map_map]
  simp [Function.comp_def]

theorem toList_fullLine (token : Token) :
    (fullLine token).toList =
      (Description.of token).line ++ if capturedLexemes token = [] then ['\t'] else [] := by
  have joined : fullLine token = toString token.pos ++ "\t" ++ toString token.length ++ "\t" ++
      quoted token.lexeme ++ "\t" ++ describeCaptures token := rfl
  simp only [joined, String.toList_append, toList_describeCaptures, Nat.toString_eq_ofList_toDigits,
    Description.line, Description.of]
  cases capturedLexemes token with
  | nil => simp [entries]
  | cons first others => simp [entries, intercalate_blank, List.flatMap_map]

theorem getLast?_quoted (text : String) : (quoted text).toList.getLast? = some '"' := by
  rw [quoted, String.toList_ofList, List.getLast?_concat]

theorem getLast?_entry (capture : String × String) : (entry capture).getLast? = some '"' := by
  simp [entry, List.getLast?_append, List.getLast?_cons, getLast?_quoted]

theorem getLast?_entries {captures : List (String × String)} (nonempty : captures ≠ []) :
    (entries captures).getLast? = some '"' := by
  cases captures with
  | nil => exact absurd rfl nonempty
  | cons first others =>
      rcases others.eq_nil_or_concat with rfl | ⟨others, last, rfl⟩
      · simp [entries, getLast?_entry, List.getLast?_cons]
      · simp [entries, List.getLast?_append, List.getLast?_cons, getLast?_entry]

theorem getLast?_line (description : Description) : description.line.getLast? = some '"' := by
  rw [Description.line]
  cases description.captures with
  | nil => simp [entries, List.getLast?_append, List.getLast?_cons, getLast?_quoted]
  | cons first others =>
      simp [List.getLast?_append, List.getLast?_cons, getLast?_entries, getLast?_quoted]

/-! ## Reading descriptions back -/

/-- The name of a capture ends with the first equals sign behind it. -/
def Named (capture : String × String) : Prop := '=' ∉ capture.1.toList

theorem delimits_entry : Delimits Named entry := by
  intro capture other named named' rest rest' same
  rw [entry, entry, List.append_assoc, List.append_assoc] at same
  obtain ⟨name, behind⟩ := eq_of_append_cons named named' same
  obtain ⟨lexeme, left⟩ := eq_of_quoted behind
  exact ⟨Prod.ext (String.toList_inj.mp name) lexeme, left⟩

/-- Captures end where the line ends. -/
theorem eq_of_entries {captures others : List (String × String)} {rest rest' : List Char}
    (named : ∀ capture ∈ captures, Named capture) (named' : ∀ other ∈ others, Named other)
    (same : entries captures ++ '\n' :: rest = entries others ++ '\n' :: rest') :
    captures = others ∧ rest = rest' := by
  cases captures with
  | nil =>
      cases others with
      | nil => exact ⟨rfl, List.tail_eq_of_cons_eq same⟩
      | cons first' others => cases same
  | cons first captures =>
      cases others with
      | nil => cases same
      | cons first' others =>
          have separated : Delimits Named fun capture => ' ' :: entry capture := by
            intro capture other here here' rest rest' same
            exact delimits_entry capture other here here' rest rest' (List.tail_eq_of_cons_eq same)
          have stops (rest : List Char) :
              Stops Named (fun capture => ' ' :: entry capture) ('\n' :: rest) := by
            intro capture _ more begins
            cases begins
          obtain ⟨here, further⟩ := List.forall_mem_cons.mp named
          obtain ⟨here', further'⟩ := List.forall_mem_cons.mp named'
          simp only [entries, List.cons_append, List.append_assoc, List.cons.injEq,
            true_and] at same
          obtain ⟨rfl, behind⟩ := delimits_entry _ _ here here' _ _ same
          obtain ⟨rfl, left⟩ := separated.flatMap further further' (stops _) (stops _) behind
          exact ⟨rfl, List.tail_eq_of_cons_eq left⟩

/-- A line can be read back, and it shows where it ends. -/
theorem delimits_line :
    Delimits (fun description => ∀ capture ∈ description.captures, Named capture)
      fun description : Description => description.line ++ ['\n'] := by
  intro description other named named' rest rest' same
  obtain ⟨pos, length, lexeme, captures⟩ := description
  obtain ⟨pos', length', lexeme', captures'⟩ := other
  simp only [Description.line, List.append_assoc, List.cons_append, List.nil_append] at same
  obtain ⟨rfl, behindPos⟩ := eq_of_decimal same
  obtain ⟨rfl, behindLength⟩ := eq_of_decimal behindPos
  obtain ⟨rfl, behindLexeme⟩ := eq_of_quoted behindLength
  obtain ⟨rfl, left⟩ := eq_of_entries named named' behindLexeme
  exact ⟨rfl, left⟩

/-- The blanks that are left out at the end are the tab behind a lexeme without captures. -/
theorem toList_describe (token : Token) :
    (describe token).toList = (Description.of token).line := by
  have trimmed : describe token = trimEnd (String.ofList (fullLine token).toList) := by
    rw [String.ofList_toList]
    rfl
  have blank : ∀ c ∈ (if capturedLexemes token = [] then ['\t'] else []), isBlank c = true := by
    split
    · simp [isBlank]
    · simp
  rw [trimmed, toList_fullLine, trimEnd_of_getLast? (getLast?_line _) (by decide) blank,
    String.toList_ofList]

theorem toList_listTokens (tokens : List Token) :
    (listTokens tokens).toList =
      (tokens.map Description.of).flatMap fun description => description.line ++ ['\n'] := by
  simp [listTokens, String.toList_join, List.flatMap_map, toList_describe]

/-- The names of the classes of the captures have no equals signs. -/
def ClearNames (token : Token) : Prop :=
  ∀ name captured, (name, captured) ∈ token.captures → '=' ∉ name.toList

theorem ClearNames.named {token : Token} (clear : ClearNames token) {capture : String × String}
    (member : capture ∈ (Description.of token).captures) : Named capture := by
  obtain ⟨⟨name, tokens⟩, entry, inside⟩ := List.mem_flatMap.mp member
  obtain ⟨captured, among, rfl⟩ := List.mem_map.mp inside
  obtain ⟨-, rfl⟩ := Captures.mem_byClass.mp entry
  exact clear name captured (Captures.mem_ofClass.mp among)

/-- Tokens whose lines are the same are described alike. -/
theorem descriptions_of_listTokens {tokens others : List Token}
    (clear : ∀ token ∈ tokens, ClearNames token) (clear' : ∀ other ∈ others, ClearNames other)
    (same : listTokens tokens = listTokens others) :
    tokens.map Description.of = others.map Description.of := by
  have written := congrArg String.toList same
  rw [toList_listTokens, toList_listTokens] at written
  have named {tokens : List Token} (clear : ∀ token ∈ tokens, ClearNames token) :
      ∀ description ∈ tokens.map Description.of,
        ∀ capture ∈ description.captures, Named capture := by
    intro description member capture inside
    obtain ⟨token, among, rfl⟩ := List.mem_map.mp member
    exact (clear token among).named inside
  -- Nothing follows the last line, and no line is empty.
  have stops : Stops (fun description => ∀ capture ∈ description.captures, Named capture)
      (fun description : Description => description.line ++ ['\n']) [] := by
    intro description _ rest begins
    simp at begins
  refine (delimits_line.flatMap (named clear) (named clear') stops stops ?_).1
  rw [List.append_nil, List.append_nil, written]

theorem capturedLexemes_eq_nil_iff {token : Token} :
    capturedLexemes token = [] ↔ token.captures = [] := by
  constructor
  · intro nothing
    apply List.eq_nil_iff_forall_not_mem.mpr
    rintro ⟨name, captured⟩ member
    have among := Captures.mem_ofClass.mpr member
    have entry := Captures.mem_byClass.mpr ⟨List.ne_nil_of_mem among, rfl⟩
    have told : (name, captured.lexeme) ∈ capturedLexemes token :=
      List.mem_flatMap.mpr ⟨_, entry, List.mem_map.mpr ⟨captured, among, rfl⟩⟩
    rw [nothing] at told
    cases told
  · intro nothing
    rw [capturedLexemes, nothing]
    rfl

/-- What is left out at the end of a line is the tab behind a lexeme without captures. -/
theorem fullLine_eq (token : Token) :
    fullLine token = describe token ++ if token.captures = [] then "\t" else "" := by
  apply String.toList_inj.mp
  rw [toList_fullLine, String.toList_append, toList_describe]
  by_cases nothing : token.captures = [] <;> simp [nothing, capturedLexemes_eq_nil_iff]

end PatternLexer.CommandLine
