import PatternLexer.Text.Quoted

/-!
# Texts that show where they end

A way of writing values delimits them when the beginning of a text tells which value was written
and where it ends, whatever follows. Values that are delimited can be written one after another
and told apart again, up to a text that does not begin with such a value
(`Delimits.flatMap`).

Numbers do so before a character that is not one of their digits (`eq_of_decimal`), and quoted
texts do in any case, since their escapes can be read back (`readEscape_escape`,
`eq_of_quoted`).
-/

namespace PatternLexer.Text

section Delimits

variable {α : Type} {valid : α → Prop} {write : α → List Char} {rest rest' : List Char}

/-- Values with the property are written so that two of them can be told apart, and where each
of them ends, whatever follows. -/
def Delimits (valid : α → Prop) (write : α → List Char) : Prop :=
  ∀ value other, valid value → valid other → ∀ rest rest',
    write value ++ rest = write other ++ rest' → value = other ∧ rest = rest'

/-- No value with the property is written at the beginning of a text, so the text stops them. -/
def Stops (valid : α → Prop) (write : α → List Char) (text : List Char) : Prop :=
  ∀ value, valid value → ∀ rest, text ≠ write value ++ rest

/-- What can be read back is delimited. -/
theorem delimits_of_read {read : List Char → Option (α × List Char)}
    (reads : ∀ value rest, read (write value ++ rest) = some (value, rest)) :
    Delimits valid write := by
  intro value other _ _ rest rest' same
  have both := reads value rest
  rw [same, reads other rest'] at both
  cases both
  exact ⟨rfl, rfl⟩

/-- Values written one after another can be told apart up to where they end. -/
theorem Delimits.flatMap (delimits : Delimits valid write) {values others : List α}
    (allValid : ∀ value ∈ values, valid value) (allValid' : ∀ other ∈ others, valid other)
    (stops : Stops valid write rest) (stops' : Stops valid write rest')
    (same : values.flatMap write ++ rest = others.flatMap write ++ rest') :
    values = others ∧ rest = rest' := by
  induction values generalizing others with
  | nil =>
      cases others with
      | nil => exact ⟨rfl, same⟩
      | cons other others =>
          rw [List.flatMap_cons, List.append_assoc] at same
          exact absurd same (stops other (allValid' other List.mem_cons_self) _)
  | cons value values ih =>
      obtain ⟨here, further⟩ := List.forall_mem_cons.mp allValid
      cases others with
      | nil =>
          rw [List.flatMap_cons, List.append_assoc] at same
          exact absurd same.symm (stops' value here _)
      | cons other others =>
          obtain ⟨here', further'⟩ := List.forall_mem_cons.mp allValid'
          rw [List.flatMap_cons, List.flatMap_cons, List.append_assoc, List.append_assoc] at same
          obtain ⟨rfl, left⟩ := delimits value other here here' _ _ same
          obtain ⟨rfl, ends⟩ := ih further further' left
          exact ⟨rfl, ends⟩

end Delimits

/-- A character that two texts do not hold ends them. -/
theorem eq_of_append_cons {stop : Char} {text other rest rest' : List Char} (absent : stop ∉ text)
    (absent' : stop ∉ other) (same : text ++ stop :: rest = other ++ stop :: rest') :
    text = other ∧ rest = rest' := by
  induction text generalizing other with
  | nil =>
      cases other with
      | nil => exact ⟨rfl, List.tail_eq_of_cons_eq same⟩
      | cons d other =>
          cases same
          exact absurd List.mem_cons_self absent'
  | cons c text ih =>
      cases other with
      | nil =>
          cases same
          exact absurd List.mem_cons_self absent
      | cons d other =>
          rw [List.cons_append, List.cons_append, List.cons.injEq] at same
          obtain ⟨rfl, same⟩ := same
          obtain ⟨rfl, left⟩ := ih (List.not_mem_of_not_mem_cons absent)
            (List.not_mem_of_not_mem_cons absent') same
          exact ⟨rfl, left⟩

/-- The digits of a number are those of its base. -/
theorem exists_digit_of_mem_toDigits {base n : Nat} {c : Char} (large : 1 < base)
    (member : c ∈ Nat.toDigits base n) : ∃ digit < base, c = Nat.digitChar digit := by
  induction n using Nat.strongRecOn with
  | ind n ih =>
      rw [Nat.toDigits_eq_if large] at member
      split at member
      · rename_i small
        exact ⟨n, small, List.mem_singleton.mp member⟩
      · rcases List.mem_append.mp member with earlier | last
        · exact ih (n / base) (Nat.div_lt_self (by omega) large) earlier
        · exact ⟨n % base, Nat.mod_lt n (by omega), List.mem_singleton.mp last⟩

/-- The value of a digit, of which there are sixteen. -/
def digitValue (c : Char) : Nat :=
  if c.isDigit then c.toNat - '0'.toNat else c.toNat - 'a'.toNat + 10

/-- The number that some digits stand for. -/
def ofDigits (base : Nat) (digits : List Char) : Nat :=
  digits.foldl (fun value c => base * value + digitValue c) 0

theorem digitValue_digitChar {digit : Nat} (small : digit < 16) :
    digitValue (Nat.digitChar digit) = digit := by
  have all : ∀ digit < 16, digitValue (Nat.digitChar digit) = digit := by decide
  exact all digit small

theorem ofDigits_toDigits {base : Nat} (large : 1 < base) (known : base ≤ 16) (n : Nat) :
    ofDigits base (Nat.toDigits base n) = n := by
  induction n using Nat.strongRecOn with
  | ind n ih =>
      rw [Nat.toDigits_eq_if large]
      split
      · simp [ofDigits, digitValue_digitChar (show n < 16 by omega)]
      · have earlier := ih (n / base) (Nat.div_lt_self (by omega) large)
        have small : n % base < 16 := Nat.lt_of_lt_of_le (Nat.mod_lt n (by omega)) known
        rw [ofDigits] at earlier ⊢
        rw [List.foldl_append, earlier, List.foldl_cons, List.foldl_nil,
          digitValue_digitChar small, Nat.div_add_mod]

/-- A character that is no digit is not in a number. -/
theorem not_mem_toDigits {base n : Nat} {c : Char} (large : 1 < base)
    (other : ∀ digit < base, c ≠ Nat.digitChar digit) : c ∉ Nat.toDigits base n := by
  intro member
  obtain ⟨digit, small, same⟩ := exists_digit_of_mem_toDigits large member
  exact other digit small same

/-- Two numbers before tabs can be told apart. -/
theorem eq_of_decimal {n m : Nat} {rest rest' : List Char}
    (same : Nat.toDigits 10 n ++ '\t' :: rest = Nat.toDigits 10 m ++ '\t' :: rest') :
    n = m ∧ rest = rest' := by
  have absent (n : Nat) : '\t' ∉ Nat.toDigits 10 n := not_mem_toDigits (by decide) (by decide)
  obtain ⟨digits, left⟩ := eq_of_append_cons (absent n) (absent m) same
  have value := congrArg (ofDigits 10) digits
  rw [ofDigits_toDigits (by decide) (by decide), ofDigits_toDigits (by decide) (by decide)] at value
  exact ⟨value, left⟩

/-- Read a character that is written between double quotes, with what follows it. -/
def readEscape : List Char → Option (Char × List Char)
  | [] => none
  | '\\' :: '0' :: rest => some ('\x00', rest)
  | '\\' :: 't' :: rest => some ('\t', rest)
  | '\\' :: 'n' :: rest => some ('\n', rest)
  | '\\' :: 'r' :: rest => some ('\r', rest)
  | '\\' :: 'u' :: '{' :: rest =>
      let digits := rest.takeWhile (· != '}')
      some (Char.ofNat (ofDigits 16 digits), rest.drop (digits.length + 1))
  | '\\' :: c :: rest => some (c, rest)
  | c :: rest => some (c, rest)

theorem readEscape_escape (c : Char) (rest : List Char) :
    readEscape (escape '"' c ++ rest) = some (c, rest) := by
  unfold escape
  repeat' split
  · simp_all [readEscape]
  · simp_all [readEscape]
  · simp_all [readEscape]
  · simp_all [readEscape]
  · rename_i sign
    simp only [Bool.or_eq_true, decide_eq_true_eq] at sign
    rcases sign with rfl | rfl <;> rfl
  · rename_i plain _
    simp only [Bool.or_eq_true, decide_eq_true_eq, not_or] at plain
    simp [readEscape, plain.1]
  · -- The closing brace ends the digits of the code point.
    have unclosed : '}' ∉ Nat.toDigits 16 c.toNat := not_mem_toDigits (by decide) (by decide)
    have taken : (Nat.toDigits 16 c.toNat ++ '}' :: rest).takeWhile (· != '}') =
        Nat.toDigits 16 c.toNat := by
      rw [List.takeWhile_append_of_pos]
      · simp
      · intro digit member
        simpa using ne_of_mem_of_not_mem member unclosed
    simp [readEscape, taken, ofDigits_toDigits]

/-- A text between quotes stands on one line. -/
theorem newline_not_mem_quoted (text : String) : '\n' ∉ (quoted text).toList := by
  have escaped (c : Char) : '\n' ∉ escape '"' c := by
    unfold escape
    repeat' split
    · decide
    · decide
    · decide
    · decide
    · rename_i other _ _
      simpa using Ne.symm other
    · rename_i other _ _ _
      simpa using Ne.symm other
    · have digits : '\n' ∉ Nat.toDigits 16 c.toNat := not_mem_toDigits (by decide) (by decide)
      simpa using digits
  simp [quoted, escaped]

/-- A text between quotes ends with the first quote that is not escaped. -/
theorem eq_of_quoted {text other : String} {rest rest' : List Char}
    (same : (quoted text).toList ++ rest = (quoted other).toList ++ rest') :
    text = other ∧ rest = rest' := by
  have delimits : Delimits (fun _ => True) (escape '"') := delimits_of_read readEscape_escape
  -- No character is written with a quote at its beginning, so the closing quote ends the text.
  have stops (rest : List Char) : Stops (fun _ => True) (escape '"') ('"' :: rest) := by
    intro c _ more begins
    have read := readEscape_escape c more
    rw [← begins] at read
    cases read
    cases begins
  simp only [quoted, String.toList_ofList, List.cons_append, List.append_assoc, List.cons.injEq,
    true_and] at same
  obtain ⟨chars, left⟩ := delimits.flatMap (by simp) (by simp) (stops _) (stops _) same
  exact ⟨String.toList_inj.mp chars, by simpa using left⟩

end PatternLexer.Text
