import Mathlib.Data.List.Infix
import PatternLexer.Proofs.Env.Parse

/-!
# Writing environment files

Variables are written with one assignment to a line, the value in double quotes and its
line feeds as pairs. A value can be written so if it has neither a double quote nor a
pair of its own. `unescape_escape` is the reason: a backslash that stands before a line
feed is followed by another one when it is written, and stays what it is.

Reading is the inverse of writing, whatever the order of the lines. All that is ever
read can be written, so every file has a normal form (`parse_write`).
-/

namespace PatternLexer.Env

/-- Turn each line feed into a backslash and an `n`. -/
def escape : List Char → List Char
  | [] => []
  | '\n' :: cs => '\\' :: 'n' :: escape cs
  | c :: cs => c :: escape cs

/-- An `n` at the beginning is never the second half of a pair. -/
theorem head_of_escape {text rest : List Char} (starts : escape text = 'n' :: rest) :
    text.head? = some 'n' := by
  fun_cases escape text with
  | case1 =>
      rw [escape] at starts
      cases starts
  | case2 text =>
      rw [escape] at starts
      cases starts
  | case3 c text inside =>
      rw [escape] at starts
      · cases starts
        rfl
      · exact inside

theorem head_of_unescape {text rest : List Char} (starts : unescape text = 'n' :: rest) :
    text.head? = some 'n' := by
  fun_cases unescape text with
  | case1 =>
      rw [unescape] at starts
      cases starts
  | case2 text =>
      rw [unescape] at starts
      cases starts
  | case3 c text single =>
      rw [unescape] at starts
      · cases starts
        rfl
      · exact single

/-- A pair is a backslash with an `n` behind it. -/
theorem infix_pair_cons {c : Char} {text : List Char} :
    ['\\', 'n'] <:+: c :: text ↔ (c = '\\' ∧ text.head? = some 'n') ∨ ['\\', 'n'] <:+: text := by
  rw [List.infix_cons_iff]
  apply or_congr_left
  cases text <;> simp [List.cons_prefix_cons, eq_comm]

/-- What is escaped is read as it was, unless it has a pair already. -/
theorem unescape_escape {text : List Char} (unpaired : ¬ ['\\', 'n'] <:+: text) :
    unescape (escape text) = text := by
  fun_induction escape text with
  | case1 => rw [unescape]
  | case2 text ih =>
      rw [infix_pair_cons, not_or] at unpaired
      rw [unescape, ih unpaired.2]
  | case3 c text inside ih =>
      rw [infix_pair_cons, not_or] at unpaired
      rw [unescape, ih unpaired.2]
      intro rest backslash starts
      exact unpaired.1 ⟨backslash, head_of_escape starts⟩

/-- Reading leaves no pair: a backslash stays only where no `n` follows. -/
theorem unpaired_unescape (text : List Char) : ¬ ['\\', 'n'] <:+: unescape text := by
  fun_induction unescape text with
  | case1 => simp
  | case2 text ih => simpa [infix_pair_cons] using ih
  | case3 c text single ih =>
      rw [infix_pair_cons, not_or]
      refine ⟨?_, ih⟩
      rintro ⟨backslash, starts⟩
      rcases List.head?_eq_some_iff.mp starts with ⟨rest, starts⟩
      rcases List.head?_eq_some_iff.mp (head_of_unescape starts) with ⟨rest, starts⟩
      exact single rest backslash starts

theorem newline_not_mem_escape (text : List Char) : '\n' ∉ escape text := by
  fun_induction escape text with
  | case1 => exact List.not_mem_nil
  | case2 text ih => simpa using ih
  | case3 c text inside ih => simpa using ⟨Ne.symm inside, ih⟩

theorem quote_not_mem_escape {text : List Char} (unquoted : '"' ∉ text) : '"' ∉ escape text := by
  fun_induction escape text with
  | case1 => exact List.not_mem_nil
  | case2 text ih => simpa using ih (List.not_mem_of_not_mem_cons unquoted)
  | case3 c text inside ih =>
      rw [List.mem_cons, not_or] at unquoted ⊢
      exact ⟨unquoted.1, ih unquoted.2⟩

theorem quote_not_mem_unescape {text : List Char} (unquoted : '"' ∉ text) :
    '"' ∉ unescape text := by
  fun_induction unescape text with
  | case1 => exact List.not_mem_nil
  | case2 text ih =>
      have further := List.not_mem_of_not_mem_cons (List.not_mem_of_not_mem_cons unquoted)
      simpa using ih further
  | case3 c text single ih =>
      rw [List.mem_cons, not_or] at unquoted ⊢
      exact ⟨unquoted.1, ih unquoted.2⟩

/-- Put a text between double quotes. -/
def quote (text : List Char) : List Char := '"' :: (text ++ ['"'])

theorem dropWhile_blank_quote (text : List Char) :
    (quote text).dropWhile CharClass.blank = quote text :=
  List.dropWhile_cons_of_neg (by decide)

section Quotes

variable {text : List Char}

theorem bne_quote_of_mem (unquoted : '"' ∉ text) : ∀ c ∈ text, (c != '"') = true := by
  intro c present
  exact bne_iff_ne.mpr (ne_of_mem_of_not_mem present unquoted)

/-- Such a text is a value as a whole. -/
theorem rawValue_quote (unquoted : '"' ∉ text) : rawValue (quote text) = quote text := by
  have closed : '"' ∈ text ++ ['"'] := by simp
  rw [quote, rawValue, if_pos closed, List.takeWhile_append_of_pos (bne_quote_of_mem unquoted)]
  simp

theorem unquote_quote (unquoted : '"' ∉ text) :
    unquote (String.ofList (quote text)) = String.ofList (unescape text) := by
  have kept : text.filter (· != '"') = text := List.filter_eq_self.mpr (bne_quote_of_mem unquoted)
  simp [unquote, quote, kept]

end Quotes

/-- The key is a name, and the value has neither a double quote nor a pair. -/
structure Writable (assignment : String × String) : Prop where
  named : assignment.1 ≠ ""
  keyChars : assignment.1.toList.all isKeyChar
  unquoted : '"' ∉ assignment.2.toList
  unpaired : ¬ ['\\', 'n'] <:+: assignment.2.toList

instance (assignment : String × String) : Decidable (Writable assignment) :=
  decidable_of_iff
    (assignment.1 ≠ "" ∧ assignment.1.toList.all isKeyChar ∧ '"' ∉ assignment.2.toList ∧
      ¬ ['\\', 'n'] <:+: assignment.2.toList)
    ⟨fun ⟨named, keyChars, unquoted, unpaired⟩ => ⟨named, keyChars, unquoted, unpaired⟩,
      fun ⟨named, keyChars, unquoted, unpaired⟩ => ⟨named, keyChars, unquoted, unpaired⟩⟩

/-- All variables can be written with their values. -/
def Variables.Writable (known : Variables) : Prop :=
  ∀ assignment ∈ known.toList, Env.Writable assignment

instance (known : Variables) : Decidable known.Writable :=
  inferInstanceAs (Decidable (∀ assignment ∈ known.toList, Env.Writable assignment))

/-! ## Reading what is written -/

/-- The line of an assignment: the key, and the value in double quotes. -/
def writeLine (assignment : String × String) : List Char :=
  assignment.1.toList ++ '=' :: quote (escape assignment.2.toList)

/-- The file with the lines of these assignments, in order. -/
def write (assignments : List (String × String)) : String :=
  String.ofList (assignments.flatMap fun assignment => writeLine assignment ++ ['\n'])

/-- A name with the sign directly behind it is read as a key. -/
theorem assignment?_append {key : List Char} (behind : List Char) (named : key ≠ [])
    (keyChars : ∀ c ∈ key, isKeyChar c = true) :
    assignment? (key ++ '=' :: behind) =
      some (.ofValue key (behind.dropWhile CharClass.blank)) := by
  have nothing : ∀ c ∈ ([] : List Char), CharClass.blank c = true := by simp
  exact assignment?_opening behind nothing named keyChars nothing

section Lines

variable {assignment : String × String}

/-- A line is one assignment, and nothing is left of it. -/
theorem assignment?_writeLine (writable : Writable assignment) :
    assignment? (writeLine assignment) =
      some ⟨assignment.1.toList, quote (escape assignment.2.toList), []⟩ := by
  have named : assignment.1.toList ≠ [] := by simpa using writable.named
  have unquoted := quote_not_mem_escape writable.unquoted
  have keyChars := List.all_eq_true.mp writable.keyChars
  rw [writeLine, assignment?_append _ named keyChars, dropWhile_blank_quote, Assignment.ofValue,
    rawValue_quote unquoted, List.drop_length]

theorem scan_writeLine (writable : Writable assignment) :
    scan (writeLine assignment) = [assignment] := by
  have reads := assignment?_writeLine writable
  have means : unquote (String.ofList (quote (escape assignment.2.toList))) = assignment.2 := by
    rw [unquote_quote (quote_not_mem_escape writable.unquoted), unescape_escape writable.unpaired,
      String.ofList_toList]
  cases written : writeLine assignment with
  | nil =>
      rw [written] at reads
      cases reads
  | cons c text =>
      have unmarked : c ≠ '#' := by
        intro marked
        rw [written, marked] at reads
        cases reads
      rw [written] at reads
      rw [scan_of_assignment unmarked reads, means, scan_nil, String.ofList_toList]

theorem newline_not_mem_writeLine (writable : Writable assignment) :
    '\n' ∉ writeLine assignment := by
  have key : '\n' ∉ assignment.1.toList := fun present =>
    absurd (List.all_eq_true.mp writable.keyChars _ present) (by decide)
  simp [writeLine, quote, key, newline_not_mem_escape]

theorem getLast?_writeLine (assignment : String × String) :
    (writeLine assignment).getLast? = some '"' := by
  rw [writeLine, quote, ← List.cons_append, ← List.cons_append, ← List.append_assoc,
    List.getLast?_concat]

end Lines

section Files

variable {assignments : List (String × String)}

theorem lines_write (writable : ∀ assignment ∈ assignments, Writable assignment) :
    Text.lines (write assignments).toList = assignments.map writeLine := by
  rw [write, String.toList_ofList]
  induction assignments with
  | nil => rfl
  | cons assignment assignments ih =>
      rw [List.forall_mem_cons] at writable
      have unreturned : (writeLine assignment).getLast? ≠ some '\r' := by
        rw [getLast?_writeLine]
        decide
      rw [List.flatMap_cons, List.append_assoc, List.singleton_append,
        Text.lines_append_newline _ (newline_not_mem_writeLine writable.1) unreturned,
        ih writable.2, List.map_cons]

/-- Every line is read, and the assignments are entered in order. -/
theorem parse_write_eq_enter (writable : ∀ assignment ∈ assignments, Writable assignment) :
    parse (write assignments) = .ok (enter ∅ assignments) := by
  have scanned : (assignments.map writeLine).flatMap scan = assignments := by
    induction assignments with
    | nil => rfl
    | cons assignment assignments ih =>
        rw [List.forall_mem_cons] at writable
        rw [List.map_cons, List.flatMap_cons, scan_writeLine writable.1, ih writable.2]
        rfl
  rw [parse, foldlM_enterLine, lines_write writable, scanned]

end Files

theorem enter_eq_insertMany (known : Variables) (assignments : List (String × String)) :
    enter known assignments = known.insertMany assignments := by
  induction assignments generalizing known with
  | nil => exact Std.ExtTreeMap.insertMany_nil.symm
  | cons assignment assignments ih =>
      rw [Std.ExtTreeMap.insertMany_cons, ← ih]
      rfl

/-- Variables come from entering each of them once, in any order. -/
theorem enter_perm {known : Variables} {assignments : List (String × String)}
    (listed : assignments.Perm known.toList) : enter ∅ assignments = known := by
  have distinct : assignments.Pairwise fun a b => ¬ compare a.1 b.1 = .eq :=
    listed.symm.pairwise Std.ExtTreeMap.distinct_keys_toList fun different same =>
      different (Std.OrientedCmp.eq_symm same)
  rw [enter_eq_insertMany]
  apply Std.ExtTreeMap.ext_getElem?
  intro key
  cases defined : known[key]? with
  | some value =>
      have present : (key, value) ∈ assignments :=
        listed.mem_iff.mpr (Std.ExtTreeMap.mem_toList_iff_getElem?_eq_some.mpr defined)
      exact Std.ExtTreeMap.getElem?_insertMany_list_of_mem Std.ReflCmp.compare_self distinct present
  | none =>
      have absent : (assignments.map Prod.fst).contains key = false := by
        apply eq_false_of_ne_true
        rw [List.contains_iff_mem, List.mem_map]
        rintro ⟨⟨name, value⟩, present, rfl⟩
        rw [listed.mem_iff, Std.ExtTreeMap.mem_toList_iff_getElem?_eq_some, defined] at present
        cases present
      rw [Std.ExtTreeMap.getElem?_insertMany_list_of_contains_eq_false absent]
      exact Std.ExtTreeMap.getElem?_empty

/-! ## Writing what is read -/

theorem isKeyChar_of_mem_key {text : List Char} {found : Assignment}
    (reads : assignment? text = some found) : ∀ c ∈ found.key, isKeyChar c = true := by
  rw [Items.assignment?_eq, Option.map_eq_some_iff] at reads
  rcases reads with ⟨behind, -, rfl⟩
  intro c present
  exact List.mem_takeWhile_imp present

/-- Whatever stands in the file, the assignment that is meant can be written. -/
theorem writable_of_assignment? {text : List Char} {found : Assignment}
    (reads : assignment? text = some found) :
    Writable (String.ofList found.key, unquote (String.ofList found.value)) where
  named := by simpa using key_ne_nil reads
  keyChars := by simpa using isKeyChar_of_mem_key reads
  unquoted := by
    rw [unquote, String.toList_ofList]
    exact quote_not_mem_unescape (by simp)
  unpaired := by
    rw [unquote, String.toList_ofList]
    exact unpaired_unescape _

theorem writable_scan (line : List Char) : ∀ assignment ∈ scan line, Writable assignment := by
  fun_induction scan line with
  | case1 => simp
  | case2 text => simp
  | case3 c text unmarked found reads ih =>
      exact List.forall_mem_cons.mpr ⟨writable_of_assignment? reads, ih⟩
  | case4 c text unmarked reads ih => exact ih

namespace Variables.Writable

theorem empty : Variables.Writable ∅ := by
  intro assignment present
  rw [Std.ExtTreeMap.toList_eq_nil_iff.mpr rfl] at present
  cases present

theorem insert {known : Variables} {key value : String} (writable : known.Writable)
    (also : Env.Writable (key, value)) : Variables.Writable (known.insert key value) := by
  rintro ⟨name, entry⟩ present
  rw [Std.ExtTreeMap.mem_toList_iff_getElem?_eq_some, Std.ExtTreeMap.getElem?_insert] at present
  split at present
  · rename_i same
    cases present
    rw [← Std.LawfulEqCmp.eq_of_compare same]
    exact also
  · exact writable _ (Std.ExtTreeMap.mem_toList_iff_getElem?_eq_some.mpr present)

theorem enter {known : Variables} {assignments : List (String × String)}
    (writable : known.Writable) (also : ∀ assignment ∈ assignments, Env.Writable assignment) :
    Variables.Writable (enter known assignments) := by
  induction assignments generalizing known with
  | nil => exact writable
  | cons assignment assignments ih =>
      rw [List.forall_mem_cons] at also
      exact ih (writable.insert also.1) also.2

end Variables.Writable

/-- Every file is read, and its variables can be written. -/
theorem exists_writable_of_parse (contents : String) :
    ∃ known, parse contents = .ok known ∧ known.Writable := by
  refine ⟨_, foldlM_enterLine ∅ (Text.lines contents.toList), ?_⟩
  apply Variables.Writable.empty.enter
  intro assignment present
  rcases List.mem_flatMap.mp present with ⟨line, -, present⟩
  exact writable_scan line assignment present

theorem parse_write_of_perm {known : Variables} {assignments : List (String × String)}
    (writable : known.Writable) (listed : assignments.Perm known.toList) :
    parse (write assignments) = .ok known := by
  rw [parse_write_eq_enter, enter_perm listed]
  intro assignment present
  exact writable assignment (listed.mem_iff.mp present)

/-- Writing variables, each on a line of its own and in any order, and reading the file
gives the variables again. All that is read from a file can be written so. -/
theorem parse_write :
    (∀ (known : Variables) (assignments : List (String × String)),
      known.Writable → assignments.Perm known.toList →
        parse (write assignments) = .ok known) ∧
    ∀ contents : String, ∃ known, parse contents = .ok known ∧ known.Writable ∧
      ∀ assignments : List (String × String), assignments.Perm known.toList →
        parse (write assignments) = .ok known := by
  constructor
  · intro known assignments writable listed
    exact parse_write_of_perm writable listed
  · intro contents
    rcases exists_writable_of_parse contents with ⟨known, reads, writable⟩
    refine ⟨known, reads, writable, ?_⟩
    intro assignments listed
    exact parse_write_of_perm writable listed

/-- A backslash before a line feed is kept, and so is a carriage return at the end. -/
theorem parse_write_note :
    write [("path", "C:\\"), ("note", "#\\\nn\r")] = "path=\"C:\\\"\nnote=\"#\\\\nn\r\"\n" ∧
      parse (write [("path", "C:\\"), ("note", "#\\\nn\r")]) =
        .ok (enter ∅ [("path", "C:\\"), ("note", "#\\\nn\r")]) := by
  refine ⟨by decide +kernel, ?_⟩
  exact parse_write.1 _ _ (by decide +kernel) (by decide +kernel)

end PatternLexer.Env
