import PatternLexer.Proofs.Cursor.Operations

/-!
# Cursors in bytes

A cursor can be kept as numbers alone: the byte offsets of its position, of its lookahead
and of its saved positions, with the text beside them. It then has to cut the text at these
offsets, which can be done between two characters only. `ByteCursor` is such a cursor. Its
operations come to nothing where a cut would split a character or lie outside of the text,
where a saved position would lie ahead of the position, and where the search for the next
boundary of a character would leave the text.

Main statement: `performAll_inBounds`, whatever is asked of a cursor, none of this ever
happens, the numbers stay in order within the text, and each of them is a boundary of a
character.
-/

namespace PatternLexer

open Text

/-- The first `n` bytes of a text and what follows them. There is no such cut inside a
character or behind the end. -/
def Text.cut? : (n : Nat) → List Char → Option (List Char × List Char)
  | 0, text => some ([], text)
  | _ + 1, [] => none
  | n + 1, c :: text =>
      if c.utf8Size ≤ n + 1 then
        (cut? (n + 1 - c.utf8Size) text).map fun (first, rest) => (c :: first, rest)
      else
        none

/-- Whether a text can be cut behind `n` bytes. -/
def Text.isBoundary (text : List Char) (n : Nat) : Bool := (cut? n text).isSome

/-- The text between two offsets. -/
def Text.slice? (text : List Char) (first last : Nat) : Option (List Char) :=
  if first ≤ last then
    (cut? first text).bind fun (_, rest) => (cut? (last - first) rest).map (·.1)
  else
    none

/-- The first boundary at or behind an offset, up to the end of the text. -/
def Text.ceilBoundary? (text : List Char) (n : Nat) : Option Nat :=
  (List.range' n (size text + 1 - n)).find? (isBoundary text)

namespace Text

theorem cut?_eq_some_iff {n : Nat} {text first rest : List Char} :
    cut? n text = some (first, rest) ↔ text = first ++ rest ∧ size first = n := by
  fun_induction cut? n text generalizing first rest with
  | case1 text =>
      constructor
      · intro cut
        cases cut
        exact ⟨rfl, rfl⟩
      · rintro ⟨split, empty⟩
        rw [size_eq_zero_iff] at empty
        simp [split, empty]
  | case2 n =>
      simp only [reduceCtorEq, false_iff, not_and, List.nil_eq, List.append_eq_nil_iff]
      rintro ⟨rfl, -⟩
      simp
  | case3 n c text within ih =>
      have positive := c.utf8Size_pos
      constructor
      · intro cut
        obtain ⟨⟨before, after⟩, cut, same⟩ := Option.map_eq_some_iff.mp cut
        obtain ⟨split, length⟩ := ih.mp cut
        cases same
        simp only [split, size_cons, List.cons_append, true_and]
        omega
      · rintro ⟨split, length⟩
        cases first with
        | nil => simp at length
        | cons d before =>
            simp only [List.cons_append, List.cons.injEq, size_cons] at split length
            obtain ⟨rfl, split⟩ := split
            have cut := ih.mpr ⟨split, by omega⟩
            simp [cut]
  | case4 n c text outside =>
      simp only [reduceCtorEq, false_iff, not_and]
      intro split length
      cases first with
      | nil => simp at length
      | cons d before =>
          simp only [List.cons_append, List.cons.injEq, size_cons] at split length
          obtain ⟨rfl, -⟩ := split
          omega

theorem isBoundary_iff {text : List Char} {n : Nat} :
    isBoundary text n = true ↔ ∃ first rest, text = first ++ rest ∧ size first = n := by
  simp [isBoundary, Option.isSome_iff_exists, cut?_eq_some_iff]

/-- The boundaries are those of the string. -/
theorem isBoundary_toList {text : String} {n : Nat} :
    isBoundary text.toList n = true ↔ (⟨n⟩ : String.Pos.Raw).IsValid text := by
  rw [isBoundary_iff, String.Pos.Raw.isValid_iff_exists_append]
  constructor
  · rintro ⟨first, rest, split, length⟩
    refine ⟨String.ofList first, String.ofList rest, ?_, ?_⟩
    · rw [← String.ofList_append, ← split, String.ofList_toList]
    · simp [String.rawEndPos, ← length, ← size_toList]
  · rintro ⟨first, rest, split, offset⟩
    refine ⟨first.toList, rest.toList, ?_, ?_⟩
    · rw [split, String.toList_append]
    · rw [size_toList]
      exact (congrArg String.Pos.Raw.byteIdx offset).symm

/-- Behind its first character a text has the boundaries of what is left. -/
theorem isBoundary_cons (c : Char) (text : List Char) (n : Nat) :
    isBoundary (c :: text) (c.utf8Size + n) = isBoundary text n := by
  have positive := c.utf8Size_pos
  obtain ⟨less, length⟩ : ∃ less, c.utf8Size + n = less + 1 := ⟨c.utf8Size + n - 1, by omega⟩
  have within : c.utf8Size ≤ less + 1 := by omega
  have left : less + 1 - c.utf8Size = n := by omega
  simp [isBoundary, length, cut?, within, left]

theorem isBoundary_append (passed text : List Char) (n : Nat) :
    isBoundary (passed ++ text) (size passed + n) = isBoundary text n := by
  induction passed with
  | nil => simp
  | cons c passed ih =>
      rw [List.cons_append, size_cons, Nat.add_assoc, isBoundary_cons]
      exact ih

theorem not_isBoundary_inside {c : Char} {n : Nat} (text : List Char) (positive : 0 < n)
    (inside : n < c.utf8Size) : isBoundary (c :: text) n = false := by
  obtain ⟨less, rfl⟩ : ∃ less, n = less + 1 := ⟨n - 1, by omega⟩
  have outside : ¬ c.utf8Size ≤ less + 1 := by omega
  simp [isBoundary, cut?, outside]

theorem size_takeSize_ge (n : Nat) (text : List Char) :
    min n (size text) ≤ size (takeSize n text) := by
  induction text generalizing n with
  | nil => simp
  | cons c text ih =>
      by_cases zero : n = 0
      · simp [zero]
      · have further := ih (n - c.utf8Size)
        simp only [takeSize, zero, if_false, size_cons]
        omega

/-- Passing over `n` bytes stops at the first boundary that is far enough. -/
theorem not_isBoundary_of_lt {n offset : Nat} {text : List Char}
    (reaches : min n (size text) ≤ offset) (before : offset < size (takeSize n text)) :
    isBoundary text offset = false := by
  induction text generalizing n offset with
  | nil => simp at before
  | cons c text ih =>
      have positive := c.utf8Size_pos
      by_cases zero : n = 0
      · simp [zero] at before
      · simp only [takeSize, zero, if_false, size_cons] at before reaches
        by_cases inside : offset < c.utf8Size
        · exact not_isBoundary_inside text (by omega) inside
        · obtain ⟨further, rfl⟩ : ∃ further, offset = c.utf8Size + further :=
            ⟨offset - c.utf8Size, by omega⟩
          rw [isBoundary_cons]
          exact ih (n := n - c.utf8Size) (by omega) (by omega)

end Text

/-! ## Cursors -/

/-- A cursor by byte offsets, with the saved positions, the latest first. -/
structure ByteCursor where
  text : String
  pos : Nat
  peek : Nat
  saved : List Nat

namespace ByteCursor

open Cursor

/-- A cursor at the beginning of a text. -/
def start (text : String) : ByteCursor := ⟨text, 0, 0, []⟩

/-- Whether the position is the end of the text. -/
def atEnd (cursor : ByteCursor) : Bool := cursor.text.utf8ByteSize ≤ cursor.pos

/-- What stands behind an offset. -/
def from? (cursor : ByteCursor) (offset : Nat) : Option (List Char) :=
  (cut? offset cursor.text.toList).map (·.2)

/-- The character at the lookahead, which steps over it. -/
def peekChar? (cursor : ByteCursor) : Option (Answer × ByteCursor) := do
  match ← cursor.from? cursor.peek with
  | [] => return (.char none, cursor)
  | c :: _ => return (.char (some c), { cursor with peek := cursor.peek + c.utf8Size })

/-- Move the lookahead by `n` bytes, no further than the end, and on to the next boundary.
The sum is `largest` where it would be a larger number. -/
def peekBytes? (largest : Nat) (cursor : ByteCursor) (n : Nat) : Option (Answer × ByteCursor) := do
  let target := min (min (cursor.peek + n) largest) cursor.text.utf8ByteSize
  let boundary ← ceilBoundary? cursor.text.toList target
  return (.done, { cursor with peek := boundary })

/-- Move the lookahead to the first `target` behind the position. -/
def seek? (cursor : ByteCursor) (target : Char) : Option (Answer × ByteCursor) := do
  let rest ← cursor.from? cursor.pos
  match offset? target rest with
  | some offset => return (.whether true, { cursor with peek := cursor.pos + offset })
  | none => return (.whether false, cursor)

/-- Where a commit stops. -/
def commitStop? (cursor : ByteCursor) : Option Nat := do
  let stop := min cursor.peek cursor.text.utf8ByteSize
  if stop = cursor.pos then
    match ← cursor.from? cursor.pos with
    | [] => return stop
    | c :: _ => return stop + c.utf8Size
  else
    return stop

/-- Consume the text up to where a commit stops. -/
def commit? (cursor : ByteCursor) : Option (Answer × ByteCursor) := do
  if cursor.atEnd then
    return (.text "", { cursor with peek := cursor.pos })
  else
    let stop ← cursor.commitStop?
    let consumed ← slice? cursor.text.toList cursor.pos stop
    return (.text (String.ofList consumed), { cursor with pos := stop, peek := stop })

/-- Go back to the position saved last. The difference has to be a natural number. -/
def rollback? (cursor : ByteCursor) : Option (Answer × ByteCursor) :=
  match cursor.saved with
  | [] => some (.bytes 0, cursor)
  | offset :: saved =>
      if offset ≤ cursor.pos then
        some (.bytes (cursor.pos - offset), { cursor with pos := offset, peek := offset, saved })
      else
        none

/-- Do one operation, if it is possible, with numbers that are no larger than `largest`. -/
def perform? (largest : Nat) : Operation → ByteCursor → Option (Answer × ByteCursor)
  | .peekChar, cursor => cursor.peekChar?
  | .peek n, cursor => cursor.peekBytes? largest n
  | .seek target, cursor => cursor.seek? target
  | .commit, cursor => cursor.commit?
  | .restore, cursor => some (.done, { cursor with peek := cursor.pos })
  | .save, cursor => some (.done, { cursor with saved := cursor.pos :: cursor.saved })
  | .rollback, cursor => cursor.rollback?
  | .source, cursor => some (.text cursor.text, cursor)
  | .position, cursor => some (.bytes cursor.pos, cursor)
  | .lookahead, cursor => some (.bytes cursor.peek, cursor)
  | .atEnd, cursor => some (.whether cursor.atEnd, cursor)
  | .remainder, cursor =>
      (cursor.from? cursor.pos).map fun rest => (.text (String.ofList rest), cursor)

/-- Do some operations in order, if all of them are possible, with all their answers. -/
def performAll? (largest : Nat) :
    List Operation → ByteCursor → Option (List Answer × ByteCursor)
  | [], cursor => some ([], cursor)
  | operation :: others, cursor => do
      let (answer, next) ← cursor.perform? largest operation
      let (answers, last) ← performAll? largest others next
      return (answer :: answers, last)

/-- The numbers are in order within the text, and each is a boundary of a character. -/
structure InBounds (text : String) (cursor : ByteCursor) : Prop where
  text_eq : cursor.text = text
  pos_le_peek : cursor.pos ≤ cursor.peek
  peek_le_size : cursor.peek ≤ text.utf8ByteSize
  isValid : ∀ offset ∈ cursor.peek :: cursor.pos :: cursor.saved,
    (⟨offset⟩ : String.Pos.Raw).IsValid text
  saved_ordered : cursor.saved.Pairwise fun later earlier => earlier ≤ later
  saved_le_pos : ∀ offset ∈ cursor.saved, offset ≤ cursor.pos

end ByteCursor

/-! ## Places and offsets -/

namespace Place

variable {text : String} {place first last : Place}

theorem cut?_of_reaches (reaches : (start text.toList).Reaches place) :
    ∃ passed, cut? place.offset text.toList = some (passed, place.rest) := by
  obtain ⟨passed, split, offset⟩ := reaches
  refine ⟨passed, cut?_eq_some_iff.mpr ⟨split, ?_⟩⟩
  simpa [start] using offset.symm

theorem isValid_of_reaches (reaches : (start text.toList).Reaches place) :
    (⟨place.offset⟩ : String.Pos.Raw).IsValid text := by
  obtain ⟨passed, cut⟩ := cut?_of_reaches reaches
  apply isBoundary_toList.mp
  simp [isBoundary, cut]

/-- A place of a text with its bytes: those before it and those behind it. -/
theorem size_of_reaches (reaches : (start text.toList).Reaches place) :
    text.utf8ByteSize = place.offset + size place.rest := by
  obtain ⟨passed, split, offset⟩ := reaches
  simp only [start, Nat.zero_add] at split offset
  rw [← size_toList, split, size_append, offset]

/-- Between two places of a text stands what can be cut out at their offsets. -/
theorem slice?_of_reaches (ofText : (start text.toList).Reaches first)
    (reaches : first.Reaches last) :
    slice? text.toList first.offset last.offset = some (first.between last) := by
  obtain ⟨passed, cut⟩ := cut?_of_reaches ofText
  obtain ⟨between, split, offset⟩ := reaches
  have inner : cut? (size between) first.rest = some (between, last.rest) :=
    cut?_eq_some_iff.mpr ⟨split, rfl⟩
  simp [slice?, cut, inner, between_of_reaches split offset, offset]

/-- Moving forward by some bytes leads to the first boundary that is far enough. -/
theorem ceilBoundary?_of_reaches (reaches : (start text.toList).Reaches place) (n : Nat) :
    ceilBoundary? text.toList (min (place.offset + n) text.utf8ByteSize) =
      some (place.skip n).offset := by
  have whole := size_of_reaches reaches
  have valid := isValid_of_reaches (reaches.trans (reaches_skip place n))
  have within := size_of_reaches (reaches.trans (reaches_skip place n))
  have far := size_takeSize_ge n place.rest
  have offset : (place.skip n).offset = place.offset + size (takeSize n place.rest) := rfl
  rw [ceilBoundary?, List.find?_range'_eq_some, size_toList]
  refine ⟨isBoundary_toList.mpr valid, ?_, ?_⟩
  · rw [List.mem_range'_1]
    omega
  · intro earlier le lt
    obtain ⟨passed, split, begins⟩ := reaches
    simp only [start, Nat.zero_add] at split begins
    obtain ⟨further, rfl⟩ : ∃ further, earlier = size passed + further :=
      ⟨earlier - size passed, by omega⟩
    have absent : isBoundary place.rest further = false :=
      not_isBoundary_of_lt (n := n) (by omega) (by omega)
    rw [split, isBoundary_append, absent]
    rfl

end Place

namespace Cursor

/-- The offsets of the places of a cursor. -/
def toBytes (cursor : Cursor) : ByteCursor :=
  ⟨cursor.text, cursor.position.offset, cursor.lookahead.offset, cursor.saved.map (·.offset)⟩

variable {cursor : Cursor} {place : Place}

@[simp] theorem text_toBytes (cursor : Cursor) : cursor.toBytes.text = cursor.text := rfl

@[simp] theorem pos_toBytes (cursor : Cursor) : cursor.toBytes.pos = cursor.position.offset := rfl

@[simp] theorem peek_toBytes (cursor : Cursor) :
    cursor.toBytes.peek = cursor.lookahead.offset := rfl

@[simp] theorem toBytes_lookahead (cursor : Cursor) (place : Place) :
    toBytes { cursor with lookahead := place } =
      { cursor.toBytes with peek := place.offset } := rfl

@[simp] theorem toBytes_moveTo (cursor : Cursor) (place : Place) :
    (cursor.moveTo place).toBytes =
      { cursor.toBytes with pos := place.offset, peek := place.offset } := rfl

theorem from?_toBytes (reaches : (Place.start cursor.text.toList).Reaches place) :
    cursor.toBytes.from? place.offset = some place.rest := by
  obtain ⟨passed, cut⟩ := Place.cut?_of_reaches reaches
  simp [ByteCursor.from?, cut]

namespace WellPlaced

theorem inBounds (placed : cursor.WellPlaced) : cursor.toBytes.InBounds cursor.text where
  text_eq := rfl
  pos_le_peek := placed.proper.offset_le
  peek_le_size := by
    have whole := Place.size_of_reaches placed.lookahead_ofText
    simp only [peek_toBytes]
    omega
  isValid := by
    simp only [toBytes, List.forall_mem_cons, List.forall_mem_map]
    refine ⟨Place.isValid_of_reaches placed.lookahead_ofText,
      Place.isValid_of_reaches placed.ofText, ?_⟩
    intro place member
    exact Place.isValid_of_reaches (placed.saved_ofText place member)
  saved_ordered := by
    apply List.pairwise_map.mpr
    exact placed.saved_ordered.imp Place.Reaches.offset_le
  saved_le_pos := by
    simp only [toBytes, List.forall_mem_map]
    intro place member
    exact (placed.saved_reaches place member).offset_le

theorem atEnd_toBytes (placed : cursor.WellPlaced) : cursor.toBytes.atEnd = cursor.atEnd := by
  have whole := Place.size_of_reaches placed.ofText
  cases left : cursor.position.rest with
  | nil => simp [ByteCursor.atEnd, atEnd, whole, left]
  | cons c rest =>
      have positive := c.utf8Size_pos
      rw [left, size_cons] at whole
      have inside : ¬ cursor.text.utf8ByteSize ≤ cursor.position.offset := by omega
      rw [ByteCursor.atEnd, atEnd, left]
      exact decide_eq_false inside

theorem peekChar?_toBytes (placed : cursor.WellPlaced) :
    cursor.toBytes.peekChar? = some (.char cursor.peekChar.1, cursor.peekChar.2.toBytes) := by
  have read := from?_toBytes placed.lookahead_ofText
  cases left : cursor.lookahead.rest with
  | nil =>
      have ends := Place.next?_of_rest_nil left
      simp [ByteCursor.peekChar?, read, left, peekChar, ends]
  | cons c rest =>
      have next := Place.next?_of_rest left
      simp [ByteCursor.peekChar?, read, left, peekChar, next, Place.past]

theorem peekBytes?_toBytes (placed : cursor.WellPlaced) {largest : Nat}
    (fits : cursor.text.utf8ByteSize ≤ largest) (n : Nat) :
    cursor.toBytes.peekBytes? largest n = some (.done, (cursor.peek n).toBytes) := by
  have found := Place.ceilBoundary?_of_reaches placed.lookahead_ofText n
  have target : min (min (cursor.lookahead.offset + n) largest) cursor.text.utf8ByteSize =
      min (cursor.lookahead.offset + n) cursor.text.utf8ByteSize := by omega
  simp [ByteCursor.peekBytes?, target, found, peek]

theorem seek?_toBytes (placed : cursor.WellPlaced) (target : Char) :
    cursor.toBytes.seek? target =
      some (.whether (cursor.seek target).1, (cursor.seek target).2.toBytes) := by
  have read := from?_toBytes placed.ofText
  cases sought : offset? target cursor.position.rest with
  | none =>
      have absent := seek_of_absent cursor (offset?_eq_none_iff.mp sought)
      simp [ByteCursor.seek?, read, sought, absent]
  | some offset =>
      obtain ⟨before, after, split, absent, rfl⟩ := offset?_eq_some_iff.mp sought
      have found := seek_of_split split absent
      simp [ByteCursor.seek?, read, sought, found, peeked, Place.past]

theorem commitStop?_toBytes (placed : cursor.WellPlaced) :
    cursor.toBytes.commitStop? = some cursor.commitStop.offset := by
  have read := from?_toBytes placed.ofText
  have within := Place.size_of_reaches placed.lookahead_ofText
  have capped : min cursor.toBytes.peek cursor.toBytes.text.utf8ByteSize =
      cursor.lookahead.offset := by
    simp only [peek_toBytes, text_toBytes]
    omega
  rw [ByteCursor.commitStop?, commitStop, capped, pos_toBytes, read]
  by_cases idle : cursor.lookahead.offset = cursor.position.offset
  · cases left : cursor.position.rest with
    | nil => simp [idle, Place.next?_of_rest_nil left]
    | cons c rest => simp [idle, Place.next?_of_rest left, Place.past]
  · simp [idle]

/-- At the end of the text a commit stops where it begins. -/
theorem commitStop_of_end (placed : cursor.WellPlaced) (ends : cursor.position.rest = []) :
    cursor.commitStop = cursor.position := by
  have reaches := placed.proper.reaches_commitStop
  obtain ⟨passed, split, offset⟩ := id reaches
  rw [ends] at split
  obtain ⟨rfl, -⟩ := List.append_eq_nil_iff.mp split.symm
  exact reaches.eq_of_offset offset

theorem commit?_toBytes (placed : cursor.WellPlaced) :
    cursor.toBytes.commit? = some (.text cursor.commit.1, cursor.commit.2.toBytes) := by
  have ends := placed.atEnd_toBytes
  have stop := placed.commitStop?_toBytes
  have consumed := Place.slice?_of_reaches placed.ofText placed.proper.reaches_commitStop
  cases left : cursor.position.rest with
  | nil =>
      have idle := placed.commitStop_of_end left
      simp [ByteCursor.commit?, ends, atEnd, left, commit, idle, Place.between]
  | cons c rest =>
      simp [ByteCursor.commit?, ends, atEnd, left, stop, consumed, commit]

theorem rollback?_toBytes (placed : cursor.WellPlaced) :
    cursor.toBytes.rollback? = some (.bytes cursor.rollback.1, cursor.rollback.2.toBytes) := by
  cases stack : cursor.saved with
  | nil => simp [ByteCursor.rollback?, Cursor.rollback, toBytes, stack]
  | cons place saved =>
      have behind := placed.saved_reaches
      rw [stack] at behind
      have le := (behind place List.mem_cons_self).offset_le
      simp [ByteCursor.rollback?, Cursor.rollback, toBytes, stack, le, moveTo]

/-- Every operation on a well-placed cursor is possible on its offsets, and answers the
same. -/
theorem perform?_toBytes (placed : cursor.WellPlaced) {largest : Nat}
    (fits : cursor.text.utf8ByteSize ≤ largest) (operation : Operation) :
    cursor.toBytes.perform? largest operation =
      some ((cursor.perform operation).1, (cursor.perform operation).2.toBytes) := by
  cases operation with
  | peekChar => exact placed.peekChar?_toBytes
  | peek n => exact placed.peekBytes?_toBytes fits n
  | seek target => exact placed.seek?_toBytes target
  | commit => exact placed.commit?_toBytes
  | rollback => exact placed.rollback?_toBytes
  | atEnd => simp [ByteCursor.perform?, Cursor.perform, placed.atEnd_toBytes]
  | remainder =>
      have read := from?_toBytes placed.ofText
      simp [ByteCursor.perform?, Cursor.perform, read, remainder]
  | restore | save | source | position | lookahead => rfl

theorem performAll?_toBytes (placed : cursor.WellPlaced) {largest : Nat}
    (fits : cursor.text.utf8ByteSize ≤ largest) (operations : List Operation) :
    cursor.toBytes.performAll? largest operations =
      some ((cursor.performAll operations).1, (cursor.performAll operations).2.toBytes) := by
  induction operations generalizing cursor with
  | nil => rfl
  | cons operation others ih =>
      have first := placed.perform?_toBytes fits operation
      rw [← text_perform cursor operation] at fits
      have further := ih (placed.perform operation) fits
      simp [ByteCursor.performAll?, Cursor.performAll, first, further]

end WellPlaced

/-- Whatever is asked of a cursor, its offsets are in order within the text and boundaries of
characters. So every operation on the offsets is possible, and answers what the cursor
answers, with any numbers that are large enough for the size of the text. -/
theorem performAll_inBounds (text : String) (operations : List Operation) :
    (reached text operations).toBytes.InBounds text ∧
      ∀ largest, text.utf8ByteSize ≤ largest →
        (ByteCursor.start text).performAll? largest operations =
          some (((start text).performAll operations).1, (reached text operations).toBytes) := by
  have placed := wellPlaced_reached text operations
  constructor
  · simpa using placed.inBounds
  · intro largest fits
    exact (wellPlaced_start text).performAll?_toBytes fits operations

/-- The lookahead does not split the first character, although one byte was asked for. -/
theorem performAll_inBounds_pound :
    "£a".utf8ByteSize ≤ UInt64.size - 1 ∧
      (reached "£a" [.save, .peek 1, .commit, .rollback]).toBytes.InBounds "£a" ∧
      (ByteCursor.start "£a").performAll? (UInt64.size - 1) [.save, .peek 1, .commit, .rollback] =
        some ([.done, .done, .text "£", .bytes 2], ByteCursor.start "£a") := by
  have fits : "£a".utf8ByteSize ≤ UInt64.size - 1 := by decide
  obtain ⟨inBounds, possible⟩ :=
    performAll_inBounds "£a" [.save, .peek 1, .commit, .rollback]
  exact ⟨fits, inBounds, possible _ fits⟩

end Cursor

end PatternLexer
