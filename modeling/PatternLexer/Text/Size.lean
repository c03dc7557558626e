/-!
# Text measured in bytes

A text is a list of characters, and every offset and length in this library
counts the bytes of its UTF-8 form. This module holds that measure, cutting a
text at a byte count, and the byte offset of a character.

Main statements: `size_append`, `size_toList` (the measure is that of strings),
`takeSize_size_append` (cutting at the size of a beginning gives that beginning)
and `offset?_eq_some_iff`.
-/

namespace PatternLexer.Text

/-- Number of bytes of a text in UTF-8. -/
def size : List Char → Nat
  | [] => 0
  | c :: cs => c.utf8Size + size cs

@[simp] theorem size_nil : size [] = 0 := rfl

@[simp] theorem size_cons (c : Char) (cs : List Char) :
    size (c :: cs) = c.utf8Size + size cs := rfl

@[simp] theorem size_append (cs ds : List Char) :
    size (cs ++ ds) = size cs + size ds := by
  induction cs with
  | nil => simp
  | cons c cs ih => simp [ih, Nat.add_assoc]

@[simp] theorem size_eq_zero_iff {cs : List Char} : size cs = 0 ↔ cs = [] := by
  cases cs with
  | nil => simp
  | cons c cs =>
      have := c.utf8Size_pos
      simp
      omega

/-- The measure is that of strings. -/
theorem size_toList (text : String) : size text.toList = text.utf8ByteSize := by
  suffices ∀ cs, size cs = (String.ofList cs).utf8ByteSize by simp [this]
  intro cs
  induction cs with
  | nil => simp
  | cons c cs ih =>
      have split : String.ofList (c :: cs) = String.ofList [c] ++ String.ofList cs := by
        rw [← String.ofList_append, List.singleton_append]
      rw [split, String.utf8ByteSize_append, ← String.singleton_eq_ofList,
        String.utf8ByteSize_singleton, size_cons, ih]

/-- The shortest beginning of a text with at least `n` bytes, or all of a
shorter text. A character is never split. -/
def takeSize (n : Nat) : List Char → List Char
  | [] => []
  | c :: cs => if n = 0 then [] else c :: takeSize (n - c.utf8Size) cs

@[simp] theorem takeSize_nil (n : Nat) : takeSize n [] = [] := rfl

@[simp] theorem takeSize_zero (cs : List Char) : takeSize 0 cs = [] := by
  cases cs <;> simp [takeSize]

theorem takeSize_isPrefix (n : Nat) (cs : List Char) : takeSize n cs <+: cs := by
  induction cs generalizing n with
  | nil => simp
  | cons c cs ih =>
      by_cases zero : n = 0
      · simp [zero]
      · simp [takeSize, zero, List.cons_prefix_cons, ih]

/-- Cutting a text at the size of one of its beginnings gives that beginning. -/
@[simp] theorem takeSize_size_append (cs ds : List Char) :
    takeSize (size cs) (cs ++ ds) = cs := by
  induction cs with
  | nil => simp
  | cons c cs ih =>
      have := c.utf8Size_pos
      have positive : c.utf8Size ≠ 0 := by omega
      simp [takeSize, positive, ih]

/-- Byte offset of the first `target` in a text, if it occurs. -/
def offset? (target : Char) : List Char → Option Nat
  | [] => none
  | c :: cs => if c = target then some 0 else (offset? target cs).map (c.utf8Size + ·)

@[simp] theorem offset?_eq_none_iff {target : Char} {cs : List Char} :
    offset? target cs = none ↔ target ∉ cs := by
  induction cs with
  | nil => simp [offset?]
  | cons c cs ih =>
      by_cases same : c = target
      · simp [offset?, same]
      · simp [offset?, same, ih, Ne.symm same]

theorem mem_of_offset?_eq_some {target : Char} {cs : List Char} {n : Nat}
    (found : offset? target cs = some n) : target ∈ cs := by
  by_cases member : target ∈ cs
  · exact member
  · simp [offset?_eq_none_iff.mpr member] at found

/-- The offset of a character is the size of the text before its first
occurrence. -/
theorem offset?_eq_some_iff {target : Char} {cs : List Char} {n : Nat} :
    offset? target cs = some n ↔
      ∃ before after, cs = before ++ target :: after ∧ target ∉ before ∧ size before = n := by
  induction cs generalizing n with
  | nil => simp [offset?]
  | cons c cs ih =>
      by_cases same : c = target
      · subst same
        constructor
        · intro found
          simp only [offset?, if_pos, Option.some.injEq] at found
          exact ⟨[], cs, rfl, by simp, by simpa using found⟩
        · rintro ⟨before, after, split, absent, rfl⟩
          cases before with
          | nil => simp [offset?]
          | cons b before =>
              simp only [List.cons_append, List.cons.injEq] at split
              simp [split.1] at absent
      · simp only [offset?, same, if_false, Option.map_eq_some_iff, ih]
        constructor
        · rintro ⟨_, ⟨before, after, rfl, absent, rfl⟩, rfl⟩
          exact ⟨c :: before, after, rfl, by simp [absent, Ne.symm same], rfl⟩
        · rintro ⟨before, after, split, absent, rfl⟩
          cases before with
          | nil => simp_all
          | cons b before =>
              simp only [List.cons_append, List.cons.injEq] at split
              rcases split with ⟨rfl, rfl⟩
              exact ⟨size before, ⟨before, after, rfl, by simp_all, rfl⟩, rfl⟩

end PatternLexer.Text
