import PatternLexer.Tokenizer.Basic

/-!
# Command line options

Options are written with one dash and a letter or with two dashes and a name.
Letters can be joined behind one dash. A setting takes its value from the same
argument, after the letter or after an equals sign, or else from the next one. An
argument of two dashes ends the options. The only other argument is the file.

Each flag, and the choice for unmatched input, can be given once; patterns and
classes can be given many times.
-/

namespace PatternLexer.CommandLine

/-- Options without a value. -/
inductive Flag where
  | lines
  | env
  | listClasses
  | verbose
  deriving DecidableEq, Repr

/-- Options with a value. -/
inductive Setting where
  | pattern
  | className
  | unmatched
  deriving DecidableEq, Repr

/-- What a command line asks for. -/
structure Options where
  /-- The file to read; without one, the standard input. -/
  file : Option String := none
  /-- The patterns, in the order in which they are tried. -/
  patterns : List String := []
  /-- The class definitions, in order. -/
  classes : List String := []
  flags : List Flag := []
  unmatched : Option UnmatchedPolicy := none
  deriving DecidableEq, Repr

/-- Why a command line cannot be read. -/
inductive UsageError where
  | unknownOption (text : String)
  | missingValue (setting : Setting)
  | unexpectedValue (flag : Flag)
  | repeatedFlag (flag : Flag)
  | repeatedSetting (setting : Setting)
  | unknownPolicy (text : String)
  | emptyFile
  | extraArgument (text : String)
  deriving DecidableEq, Repr

/-- The name of a flag behind two dashes. -/
def Flag.name : Flag → String
  | .lines => "lines"
  | .env => "env"
  | .listClasses => "list-classes"
  | .verbose => "verbose"

/-- The name of a setting behind two dashes. -/
def Setting.name : Setting → String
  | .pattern => "pattern"
  | .className => "class"
  | .unmatched => "unmatched"

/-- A usage error in words. -/
def UsageError.message : UsageError → String
  | .unknownOption text => s!"unknown option '{text}'"
  | .missingValue setting => s!"a value is required for '--{setting.name}'"
  | .unexpectedValue flag => s!"no value is allowed for '--{flag.name}'"
  | .repeatedFlag flag => s!"'--{flag.name}' cannot be used more than once"
  | .repeatedSetting setting => s!"'--{setting.name}' cannot be used more than once"
  | .unknownPolicy text => s!"'{text}' is none of skip, log and error"
  | .emptyFile => "the file name is empty"
  | .extraArgument text => s!"unexpected argument '{text}'"

/-- The option of a letter. -/
def ofLetter? : Char → Option (Flag ⊕ Setting)
  | 'l' => some (.inl .lines)
  | 'v' => some (.inl .verbose)
  | 'p' => some (.inr .pattern)
  | 'c' => some (.inr .className)
  | _ => none

/-- The option of a name. -/
def ofName? (name : String) : Option (Flag ⊕ Setting) :=
  if name = Flag.lines.name then some (.inl .lines)
  else if name = Flag.env.name then some (.inl .env)
  else if name = Flag.listClasses.name then some (.inl .listClasses)
  else if name = Flag.verbose.name then some (.inl .verbose)
  else if name = Setting.pattern.name then some (.inr .pattern)
  else if name = Setting.className.name then some (.inr .className)
  else if name = Setting.unmatched.name then some (.inr .unmatched)
  else none

/-- The policy of a word. -/
def policyOf? : String → Option UnmatchedPolicy
  | "skip" => some .skip
  | "log" => some .log
  | "error" => some .error
  | _ => none

namespace Options

/-- Whether a flag is given. -/
def has (options : Options) (flag : Flag) : Bool := flag ∈ options.flags

/-- Give a flag. -/
def raise (options : Options) (flag : Flag) : Except UsageError Options :=
  if options.has flag then .error (.repeatedFlag flag)
  else .ok { options with flags := options.flags ++ [flag] }

/-- Give a setting. -/
def set (options : Options) (value : String) : Setting → Except UsageError Options
  | .pattern => .ok { options with patterns := options.patterns ++ [value] }
  | .className => .ok { options with classes := options.classes ++ [value] }
  | .unmatched =>
      if options.unmatched.isSome then
        .error (.repeatedSetting .unmatched)
      else
        match policyOf? value with
        | some policy => .ok { options with unmatched := some policy }
        | none => .error (.unknownPolicy value)

/-- Give the file. -/
def setFile (options : Options) (path : String) : Except UsageError Options :=
  if options.file.isSome then .error (.extraArgument path)
  else if path.isEmpty then .error .emptyFile
  else .ok { options with file := some path }

end Options

/-- How far a command line has been read. -/
structure Reading where
  options : Options := {}
  /-- The setting whose value is the next argument. -/
  expecting : Option Setting := none
  /-- Whether the options have been ended. -/
  ended : Bool := false

namespace Reading

/-- Read the letters behind one dash. -/
def letters (options : Options) : List Char → Except UsageError Reading
  | [] => .ok { options }
  | c :: rest =>
      match ofLetter? c with
      | none => .error (.unknownOption (String.ofList ['-', c]))
      | some (.inl flag) =>
          match options.raise flag with
          | .error error => .error error
          | .ok options => letters options rest
      | some (.inr setting) =>
          match rest with
          | [] => .ok { options, expecting := some setting }
          | '=' :: value => (options.set (String.ofList value) setting).map ({ options := · })
          | value => (options.set (String.ofList value) setting).map ({ options := · })

/-- Read what stands behind two dashes. -/
def long (options : Options) (text : List Char) : Except UsageError Reading :=
  let name := String.ofList (text.takeWhile (· != '='))
  let value := text.dropWhile (· != '=')
  match ofName? name with
  | none => .error (.unknownOption (String.ofList ('-' :: '-' :: text)))
  | some (.inl flag) =>
      match value with
      | [] => (options.raise flag).map ({ options := · })
      | _ => .error (.unexpectedValue flag)
  | some (.inr setting) =>
      match value with
      | [] => .ok { options, expecting := some setting }
      | _ :: value => (options.set (String.ofList value) setting).map ({ options := · })

/-- Whether an argument has the form of an option or ends the options, and so
cannot be the value of a setting. -/
def isOption : List Char → Bool
  | '-' :: _ :: _ => true
  | _ => false

/-- Read one more argument. -/
def next (reading : Reading) (argument : String) : Except UsageError Reading :=
  let options := reading.options
  match reading.expecting with
  | some setting =>
      if isOption argument.toList then .error (.missingValue setting)
      else (options.set argument setting).map ({ options := · })
  | none =>
      if reading.ended then
        (options.setFile argument).map ({ options := ·, ended := true })
      else
        match argument.toList with
        | ['-', '-'] => .ok { options, ended := true }
        | '-' :: '-' :: text => long options text
        | '-' :: c :: text => letters options (c :: text)
        | _ => (options.setFile argument).map ({ options := · })

end Reading

/-- Read a command line. -/
def Options.parse (arguments : List String) : Except UsageError Options := do
  let reading ← arguments.foldlM Reading.next {}
  match reading.expecting with
  | some setting => throw (.missingValue setting)
  | none => return reading.options

end PatternLexer.CommandLine
