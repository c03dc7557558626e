import PatternLexer.Text.Size

/-!
# Places in a text

A place is a point between two characters of a text: what is left of the text
from there on, with its byte offset. Since the rest is kept, a place can be read
and moved without the text it belongs to.

`Reaches` orders the places of one text.

Main statements: `between_of_reaches`, the text between two ordered places is what
was passed over to get from one to the other; `seek?_eq`, seeking in one pass finds
what it looks for.
-/

namespace PatternLexer

/-- A byte offset into a text with the text that follows it. -/
structure Place where
  offset : Nat
  rest : List Char
  deriving DecidableEq, Repr

namespace Place

open Text

/-- The beginning of a text. -/
def start (text : List Char) : Place := ⟨0, text⟩

/-- The place behind `passed`, which has to be a beginning of the rest. -/
def past (place : Place) (passed : List Char) : Place :=
  ⟨place.offset + size passed, place.rest.drop passed.length⟩

/-- The character at a place and the place behind it. -/
def next? : Place → Option (Char × Place)
  | ⟨_, []⟩ => none
  | ⟨offset, c :: rest⟩ => some (c, ⟨offset + c.utf8Size, rest⟩)

/-- Move forward by `n` bytes, on to the end of a character that the count would
split, and never beyond the end of the text. -/
def skip (place : Place) (n : Nat) : Place :=
  place.past (takeSize n place.rest)

/-- The place of the first `target` in a text that stands at an offset. -/
def seekFrom (target : Char) (offset : Nat) : List Char → Option Place
  | [] => none
  | c :: rest =>
      if c = target then some ⟨offset, c :: rest⟩ else seekFrom target (offset + c.utf8Size) rest

/-- The next place at which `target` stands. -/
def seek? (place : Place) (target : Char) : Option Place :=
  seekFrom target place.offset place.rest

/-- The text from one place up to a later one. -/
def between (first last : Place) : List Char :=
  takeSize (last.offset - first.offset) first.rest

/-- One place comes before another in the same text, or is the same. -/
def Reaches (first last : Place) : Prop :=
  ∃ passed, first.rest = passed ++ last.rest ∧ last.offset = first.offset + size passed

@[simp] theorem past_nil (place : Place) : place.past [] = place := by
  simp [past]

@[simp] theorem past_cons (offset : Nat) (c : Char) (rest passed : List Char) :
    past ⟨offset, c :: rest⟩ (c :: passed) = past ⟨offset + c.utf8Size, rest⟩ passed := by
  simp [past, Nat.add_assoc]

@[simp] theorem next?_nil (offset : Nat) : next? ⟨offset, []⟩ = none := rfl

@[simp] theorem next?_cons (offset : Nat) (c : Char) (rest : List Char) :
    next? ⟨offset, c :: rest⟩ = some (c, ⟨offset + c.utf8Size, rest⟩) := rfl

theorem Reaches.refl (place : Place) : Reaches place place :=
  ⟨[], by simp⟩

theorem Reaches.trans {first middle last : Place}
    (before : Reaches first middle) (after : Reaches middle last) : Reaches first last := by
  rcases before with ⟨passed, rest, offset⟩
  rcases after with ⟨further, rest', offset'⟩
  exact ⟨passed ++ further, by simp [rest, rest'], by simp [offset, offset', Nat.add_assoc]⟩

theorem Reaches.offset_le {first last : Place} (reaches : Reaches first last) :
    first.offset ≤ last.offset := by
  rcases reaches with ⟨passed, -, offset⟩
  omega

theorem reaches_past {place : Place} {passed : List Char} (beginning : passed <+: place.rest) :
    Reaches place (place.past passed) := by
  rcases beginning with ⟨rest, split⟩
  exact ⟨passed, by simp [past, ← split], rfl⟩

theorem reaches_of_next? {place following : Place} {c : Char}
    (step : place.next? = some (c, following)) : Reaches place following := by
  rcases place with ⟨offset, rest⟩
  cases rest with
  | nil => simp at step
  | cons d rest =>
      simp only [next?_cons, Option.some.injEq, Prod.mk.injEq] at step
      rcases step with ⟨rfl, rfl⟩
      exact ⟨[d], rfl, by simp⟩

theorem reaches_skip (place : Place) (n : Nat) : Reaches place (place.skip n) :=
  reaches_past (takeSize_isPrefix n place.rest)

theorem seekFrom_eq (target : Char) (offset : Nat) (text : List Char) :
    seekFrom target offset text =
      if target ∈ text then some (past ⟨offset, text⟩ (text.takeWhile (· != target)))
      else none := by
  induction text generalizing offset with
  | nil => simp [seekFrom]
  | cons c rest ih =>
      by_cases same : c = target
      · simp [seekFrom, same]
      · simp [seekFrom, same, Ne.symm same, ih]

/-- Seeking passes over all that is not the target. -/
theorem seek?_eq (place : Place) (target : Char) :
    place.seek? target =
      if target ∈ place.rest then some (place.past (place.rest.takeWhile (· != target)))
      else none :=
  seekFrom_eq target place.offset place.rest

theorem reaches_of_seek? {place found : Place} {target : Char}
    (sought : place.seek? target = some found) : Reaches place found := by
  rw [seek?_eq] at sought
  split at sought
  · cases sought
    exact reaches_past (List.takeWhile_prefix _)
  · simp at sought

/-- What lies between two places is what was passed over. -/
theorem between_of_reaches {first last : Place} {passed : List Char}
    (rest : first.rest = passed ++ last.rest)
    (offset : last.offset = first.offset + size passed) : between first last = passed := by
  simp [between, rest, offset]

end Place

end PatternLexer
