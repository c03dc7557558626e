import Mathlib.Data.List.Basic
import PatternLexer.Proofs.CommandLine.Preparation
import PatternLexer.Proofs.Text.Delimiting

/-!
# Reports on patterns that do not compile

A pattern that does not compile is found out by the first run of the tokenizer. A text as a whole
is always run over, even if it is empty. Line by line there is one run for each line, and an empty
text has no lines. So the pattern is reported except for an empty text that is taken line by line,
for which nothing is reported at all (`rejects_plan`).

An error of a run over a line is shown below the number of the line, and the lines of its message
are indented. The pattern is still named as it is, since quoted texts have no line feeds
(`newline_not_mem_quoted`).
-/

namespace PatternLexer.CommandLine

open Text

variable {options : Options} {tokenizer : Tokenizer String} {pattern : String}
  {error : PatternError}

/-- The beginning of a message about a pattern. -/
def naming (pattern : String) : String := s!"in pattern {quoted pattern}: "

/-- A report that turns down a pattern: nothing is printed, and the errors name the pattern. -/
structure Report.Rejects (report : Report) (pattern : String) : Prop where
  code_eq : report.code = 1
  stdout_eq : report.stdout = ""
  names : (naming pattern).toList <:+: report.stderr.toList

theorem newline_not_mem_naming (pattern : String) : '\n' ∉ (naming pattern).toList := by
  have joined : naming pattern = "in pattern " ++ quoted pattern ++ ": " := rfl
  rw [joined, String.toList_append, String.toList_append]
  simp [newline_not_mem_quoted]

theorem message_pattern (pattern : String) (error : PatternError) :
    (RegistrationError.pattern pattern error).message = naming pattern ++ error.message := rfl

theorem toList_indented (text : String) : (indented text).toList = text.toList.flatMap fun c =>
    if c = '\n' then ['\n', ' ', ' ', ' ', ' '] else [c] := by
  rw [indented, String.toList_ofList]
  rfl

/-- What has no line feeds is not changed where lines are indented. -/
theorem isPrefix_indented {text : String} {first : List Char} (unbroken : '\n' ∉ first)
    (begins : first <+: text.toList) : first <+: (indented text).toList := by
  obtain ⟨rest, split⟩ := begins
  have same (c : Char) (member : c ∈ first) :
      (if c = '\n' then ['\n', ' ', ' ', ' ', ' '] else [c]) = [c] :=
    if_neg (ne_of_mem_of_not_mem member unbroken)
  rw [toList_indented, ← split, List.flatMap_append, List.flatMap_congr same,
    List.flatMap_singleton']
  exact List.prefix_append _ _

/-- An error about a pattern, as the message or as its cause, with nothing printed before. The
lines of a cause are indented, but the pattern is named on the first one. -/
theorem rejects_abort (pattern : String) (error : PatternError) (message : String) :
    let failure := (RegistrationError.pattern pattern error).message
    (abort failure none "" "").Rejects pattern ∧
      (abort message (some failure) "" "").Rejects pattern := by
  intro failure
  have begins : (naming pattern).toList <+: failure.toList := by
    simp only [failure, message_pattern, String.toList_append]
    exact List.prefix_append _ _
  constructor
  · have shown : (abort failure none "" "").stderr = "Error: " ++ failure ++ "\n" ++ "" := rfl
    refine ⟨rfl, rfl, ?_⟩
    simp only [shown, String.toList_append]
    refine List.infix_append_of_infix_left (List.infix_append_of_infix_left ?_)
    exact List.infix_append_of_infix_right begins.isInfix
  · have shown : (abort message (some failure) "" "").stderr =
        "Error: " ++ message ++ "\n" ++ ("\nCaused by:\n    " ++ indented failure ++ "\n") := rfl
    have indents := isPrefix_indented (newline_not_mem_naming pattern) begins
    refine ⟨rfl, rfl, ?_⟩
    simp only [shown, String.toList_append]
    refine List.infix_append_of_infix_right (List.infix_append_of_infix_left ?_)
    exact List.infix_append_of_infix_right indents.isInfix

theorem rejects_tokenizeText (options : Options)
    (pending : tokenizer.pending = some (.pattern pattern error)) (text : String) :
    (tokenizeText options tokenizer text).Rejects pattern := by
  have report : tokenizeText options tokenizer text =
      abort (RegistrationError.pattern pattern error).message none "" "" := by
    rw [tokenizeText, Tokenizer.run_of_pending pending]
    simp [reportRun, listEmitted, log, Outcome.emitted, Outcome.of, RunError.message]
  rw [report]
  exact (rejects_abort pattern error "").1

theorem rejects_tokenizeLines (options : Options)
    (pending : tokenizer.pending = some (.pattern pattern error)) {text : String}
    (nonempty : text ≠ "") :
    (tokenizeLines options tokenizer text).Rejects pattern := by
  obtain ⟨line, others, first⟩ : ∃ line others, lines text.toList = line :: others := by
    apply List.exists_cons_of_ne_nil
    simpa [lines_eq_nil_iff] using nonempty
  have report : tokenizeLines options tokenizer text =
      abort s!"line {1}" (some (RegistrationError.pattern pattern error).message) "" "" := by
    have failed : runLines tokenizer 1 (line :: others) =
        .of (.error (1, .registration (.pattern pattern error))) := by
      rw [runLines, Tokenizer.run_of_pending pending]
      rfl
    rw [tokenizeLines, first, failed]
    simp [reportRun, listEmitted, log, Outcome.emitted, Outcome.of, RunError.message]
  rw [report]
  exact (rejects_abort pattern error _).2

/-- An empty text has no lines to run over. -/
theorem tokenizeLines_empty (options : Options) (tokenizer : Tokenizer String) :
    tokenizeLines options tokenizer "" = ⟨0, "", ""⟩ := by
  have empty : ("" : String).toList = [] := rfl
  rw [tokenizeLines, empty, lines_nil, runLines]
  simp [reportRun, listEmitted, log, Outcome.emitted, Outcome.of]

/-- Arguments count only through the options that they stand for. -/
theorem plan_of_parse {arguments : List String} (parsed : Options.parse arguments = .ok options) :
    plan arguments = options.plan := by
  rw [plan, parsed]

/-- Whatever the patterns are, a text is read and then processed, except where the classes are
listed. -/
theorem exists_plan_eq_read (prepared : prepare options = .ok tokenizer)
    (unlisted : options.has .listClasses = false) :
    ∃ next, options.plan = .read options.file next ∧
      ∀ text, next (.ok text) = process options tokenizer text := by
  simp only [Options.plan, prepared, unlisted]
  exact ⟨_, rfl, fun _ => rfl⟩

/-- Where a pattern does not compile, in a mode that shows tokens, nothing is printed and the
first such pattern is reported, whatever the text is. Only of an empty text that is taken line by
line nothing is reported. This holds for all options, however they were given. -/
theorem rejects_plan (prepared : prepare options = .ok tokenizer)
    (tokens : options.has .env = false) (unlisted : options.has .listClasses = false)
    (first : options.patterns.find? (fun pattern => (failure? tokenizer.classes pattern).isSome) =
      some pattern) :
    ∃ next, options.plan = .read options.file next ∧ ∀ text,
      if options.has .lines = true ∧ text = "" then next (.ok text) = ⟨0, "", ""⟩
      else (next (.ok text)).Rejects pattern := by
  obtain ⟨error, found⟩ := findSome?_failure? first
  have given : options.patterns.isEmpty = false := by
    apply List.isEmpty_eq_false_iff.mpr
    intro none
    rw [none] at first
    cases first
  have pending : (addPatterns options tokenizer).pending = some (.pattern pattern error) := by
    rw [addPatterns_eq, given, pending_addDescribed, (ready_of_prepare prepared).pending]
    exact found
  obtain ⟨next, reads, processes⟩ := exists_plan_eq_read prepared unlisted
  refine ⟨next, reads, ?_⟩
  intro text
  simp only [processes, process, tokens]
  cases lines : options.has .lines with
  | false => simpa using rejects_tokenizeText options pending text
  | true =>
      by_cases empty : text = ""
      · simpa [empty] using tokenizeLines_empty options _
      · simpa [empty] using rejects_tokenizeLines options pending empty

/-- Of three patterns, two do not compile, and the first of these is reported for a line. -/
theorem rejects_plan_number :
    let arguments := ["-l", "-p", "{n}", "-pa\x7d", "-c", "n={number}", "--pattern=\x7b"]
    let options : Options := ⟨none, ["{n}", "a\x7d", "\x7b"], ["n={number}"], [.lines], none⟩
    Options.parse arguments = .ok options ∧
      ∃ tokenizer next, prepare options = .ok tokenizer ∧
        options.patterns.find? (fun pattern => (failure? tokenizer.classes pattern).isSome) =
          some "a\x7d" ∧
        plan arguments = .read none next ∧
        (next (.ok "1\n")).Rejects "a\x7d" ∧ next (.ok "") = ⟨0, "", ""⟩ := by
  intro arguments options
  have parsed : Options.parse arguments = .ok options := rfl
  have prepares : (prepare options).toOption.isSome = true := by decide +kernel
  obtain ⟨tokenizer, present⟩ := Option.isSome_iff_exists.mp prepares
  have prepared := eq_ok_of_toOption_eq_some present
  have rejected : ((prepare options).toOption.bind fun tokenizer =>
      options.patterns.find? fun pattern => (failure? tokenizer.classes pattern).isSome) =
        some "a\x7d" := by
    decide +kernel
  have first : options.patterns.find?
      (fun pattern => (failure? tokenizer.classes pattern).isSome) = some "a\x7d" := by
    rwa [present] at rejected
  obtain ⟨next, reads, reports⟩ := rejects_plan prepared (by decide) (by decide) first
  rw [← plan_of_parse parsed] at reads
  exact ⟨parsed, tokenizer, next, prepared, first, reads, by simpa using reports "1\n",
    by simpa [options, Options.has] using reports ""⟩

/-- A closing brace without an opening one is not reported for an empty text that is taken line
by line. -/
theorem not_rejects_plan_brace :
    let arguments := ["-p", "a\x7d", "-l"]
    let options : Options := ⟨none, ["a\x7d"], [], [.lines], none⟩
    Options.parse arguments = .ok options ∧
      ∃ tokenizer next, prepare options = .ok tokenizer ∧
        options.patterns.find? (fun pattern => (failure? tokenizer.classes pattern).isSome) =
          some "a\x7d" ∧
        plan arguments = .read none next ∧ ¬ (next (.ok "")).Rejects "a\x7d" := by
  intro arguments options
  have parsed : Options.parse arguments = .ok options := rfl
  have prepared : prepare options = .ok (.empty : Tokenizer String) := rfl
  obtain ⟨next, reads, processes⟩ := exists_plan_eq_read prepared (by decide)
  rw [← plan_of_parse parsed] at reads
  refine ⟨parsed, .empty, next, prepared, by decide +kernel, reads, ?_⟩
  intro rejects
  have code := rejects.code_eq
  have silent : process options .empty "" = ⟨0, "", ""⟩ := tokenizeLines_empty options _
  rw [processes, silent] at code
  cases code

end PatternLexer.CommandLine
