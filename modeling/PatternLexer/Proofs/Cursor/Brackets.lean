import Mathlib.Data.List.Basic
import Mathlib.Data.List.Induction
import PatternLexer.Proofs.Cursor.Bytes

/-!
# Going back

A save and the operation that goes back to it enclose what was done in between. Which save
this is, the operations alone decide: they nest like brackets, and going back where no save
is open does nothing. `openSaves?` counts the open ones; operations are `Matched` where each
that goes back has its save among them, and `Closed` where moreover each save is gone back
to.

The stack of saved positions mirrors this. Its entries belong to the saves that are open
(`lt_depth_iff`), and the first `spent` of them are gone back to later on (`lt_spent_iff`). So
a commit is undone exactly where anything is spent (`undone_iff`). The earliest saved position
that is gone back to, or the position itself where there is none, is the one from which the
commits that are kept lead on (`leadsOn_kept`): at the beginning nothing is saved, so what they
consumed is the text up to where they lead.

Main statement: `goesBack_iff_and_kept`, going back behind matched operations undoes all of
them where they are closed, and not otherwise; and what the kept commits consumed is the text
up to the position.
-/

namespace PatternLexer

open Text

namespace Place

variable {first middle last : Place}

/-- What lies between two places is parted at every place in between. -/
theorem between_append_between (before : first.Reaches middle) (after : middle.Reaches last) :
    first.between middle ++ middle.between last = first.between last := by
  obtain ⟨passed, split, offset⟩ := before
  obtain ⟨further, split', offset'⟩ := after
  rw [between_of_reaches split offset, between_of_reaches split' offset']
  refine (between_of_reaches ?_ ?_).symm
  · rw [split, split', List.append_assoc]
  · rw [offset', offset, size_append, Nat.add_assoc]

@[simp] theorem between_self (place : Place) : place.between place = [] := by
  simp [between]

end Place

namespace Cursor

/-- The number of saves that are open behind an operation. There is none where it goes back
and no save is open. -/
def Operation.open? : (opened : Nat) → Operation → Option Nat
  | opened, .save => some (opened + 1)
  | 0, .rollback => none
  | opened + 1, .rollback => some opened
  | opened, _ => some opened

/-- The number of saves that are open behind some operations, if each of them that goes back
finds one open. -/
def openSaves? (opened : Nat) (operations : List Operation) : Option Nat :=
  operations.foldlM Operation.open? opened

/-- Each operation that goes back has its save among the operations. -/
def Matched (operations : List Operation) : Prop := (openSaves? 0 operations).isSome = true

/-- Each operation that goes back has its save among the operations, and each save is gone
back to. -/
def Closed (operations : List Operation) : Prop := openSaves? 0 operations = some 0

/-- A commit between some operations is undone: it stands between a save and the operation
that goes back to this save. -/
def Undone (before after : List Operation) : Prop :=
  ∃ earlier inner later further, before = earlier ++ .save :: inner ∧
    after = later ++ .rollback :: further ∧ Closed (inner ++ .commit :: later)

/-- Saving the position, doing some operations and going back changes nothing but what has
been peeked, which is given up, and answers by how many bytes the operations have moved the
position. -/
def GoesBackFrom (cursor : Cursor) (operations : List Operation) : Prop :=
  ∃ answers n,
    cursor.performAll (.save :: operations ++ [.rollback]) =
        (.done :: answers ++ [.bytes n], cursor.restore) ∧
      cursor.position.offset + n =
        (cursor.performAll (.save :: operations)).2.position.offset

instance (operations : List Operation) : Decidable (Matched operations) :=
  inferInstanceAs (Decidable (_ = _))

instance (operations : List Operation) : Decidable (Closed operations) :=
  inferInstanceAs (Decidable (_ = _))

/-- The operation neither saves nor goes back. -/
def Operation.Plain (operation : Operation) : Prop := operation ≠ .save ∧ operation ≠ .rollback

variable {cursor : Cursor} {operation : Operation} {before after operations others : List Operation}
  {text : String} {top saved : List Place} {opened further count k : Nat}

theorem Operation.save_or_rollback_or_plain (operation : Operation) :
    operation = .save ∨ operation = .rollback ∨ operation.Plain := by
  cases operation <;> simp [Plain]

theorem Operation.Plain.open?_eq (plain : operation.Plain) (opened : Nat) :
    operation.open? opened = some opened := by
  cases operation with
  | save => exact absurd rfl plain.1
  | rollback => exact absurd rfl plain.2
  | _ => rfl

theorem openSaves?_cons (opened : Nat) (operation : Operation) (others : List Operation) :
    openSaves? opened (operation :: others) =
      (operation.open? opened).bind fun further => openSaves? further others :=
  List.foldlM_cons

theorem openSaves?_append (opened : Nat) (first second : List Operation) :
    openSaves? opened (first ++ second) =
      (openSaves? opened first).bind fun further => openSaves? further second :=
  List.foldlM_append

theorem openSaves?_singleton (opened : Nat) (operation : Operation) :
    openSaves? opened [operation] = operation.open? opened := by
  rw [openSaves?_cons]
  exact Option.bind_fun_some _

theorem Operation.Plain.saved_perform (plain : operation.Plain) (cursor : Cursor) :
    (cursor.perform operation).2.saved = cursor.saved := by
  cases operation with
  | save => exact absurd rfl plain.1
  | rollback => exact absurd rfl plain.2
  | peekChar => exact (sameFrame_peekChar cursor).2
  | seek target => exact (sameFrame_seek cursor target).2
  | peek | commit | restore | source | position | lookahead | atEnd | remainder => rfl

theorem saved_rollback (cursor : Cursor) : cursor.rollback.2.saved = cursor.saved.tail := by
  rw [rollback]
  split <;> simp_all

theorem rollback_eq {place : Place} (stack : cursor.saved = place :: saved) :
    cursor.rollback = (cursor.position.offset - place.offset,
      { cursor.moveTo place with saved := saved }) := by
  simp [rollback, stack]

theorem performAll_commit (cursor : Cursor) (others : List Operation) :
    cursor.performAll (.commit :: others) =
      (.text cursor.commit.1 :: (cursor.commit.2.performAll others).1,
        (cursor.commit.2.performAll others).2) := rfl

theorem performAll_append (cursor : Cursor) (first second : List Operation) :
    cursor.performAll (first ++ second) =
      ((cursor.performAll first).1 ++ ((cursor.performAll first).2.performAll second).1,
        ((cursor.performAll first).2.performAll second).2) := by
  induction first generalizing cursor with
  | nil => rfl
  | cons operation others ih => simp [performAll, ih]

theorem reached_concat (text : String) (before : List Operation) (operation : Operation) :
    reached text (before ++ [operation]) = ((reached text before).perform operation).2 := by
  rw [reached, performAll_append]
  rfl

/-- Operations put a position on the stack for each save that they leave open, and do not
touch what was there before. -/
theorem saved_performAll (counts : openSaves? top.length operations = some further)
    (stack : cursor.saved = top ++ saved) :
    ∃ top', top'.length = further ∧ (cursor.performAll operations).2.saved = top' ++ saved := by
  induction operations generalizing cursor top with
  | nil =>
      cases counts
      exact ⟨top, rfl, stack⟩
  | cons operation others ih =>
      rw [openSaves?_cons] at counts
      rcases operation.save_or_rollback_or_plain with rfl | rfl | plain
      · have pushed : cursor.save.saved = (cursor.position :: top) ++ saved := congrArg _ stack
        have counts : openSaves? (cursor.position :: top).length others = some further := counts
        exact ih counts pushed
      · cases top with
        | nil => cases counts
        | cons place top =>
            have popped : cursor.rollback.2.saved = top ++ saved := by
              rw [saved_rollback, stack]
              rfl
            exact ih counts popped
      · rw [plain.open?_eq] at counts
        exact ih counts ((plain.saved_perform cursor).trans stack)

/-- Going back behind matched operations undoes all that they did where they are closed.
Otherwise it goes back to a save among them only. -/
theorem goesBackFrom_iff (placed : cursor.WellPlaced) (matched : Matched operations) :
    cursor.GoesBackFrom operations ↔ Closed operations := by
  obtain ⟨opened, counts⟩ := Option.isSome_iff_exists.mp matched
  have fresh : cursor.save.saved = [] ++ cursor.position :: cursor.saved := rfl
  have inner : openSaves? ([] : List Place).length operations = some opened := counts
  obtain ⟨top, length, stack⟩ := saved_performAll inner fresh
  have whole : cursor.performAll (.save :: operations ++ [.rollback]) =
      (.done :: (cursor.save.performAll operations).1 ++
          [.bytes (cursor.save.performAll operations).2.rollback.1],
        (cursor.save.performAll operations).2.rollback.2) := by
    simp [performAll, performAll_append, perform]
  have closed_iff : Closed operations ↔ top = [] := by
    rw [Closed, counts, Option.some_inj, ← length, List.length_eq_zero_iff]
  rw [closed_iff]
  constructor
  · rintro ⟨answers, n, goesBack, -⟩
    have popped : (cursor.save.performAll operations).2.rollback.2.saved = cursor.saved :=
      congrArg (·.2.saved) (whole.symm.trans goesBack)
    rw [saved_rollback, stack] at popped
    have count := congrArg List.length popped
    simp only [List.length_tail, List.length_append, List.length_cons] at count
    exact List.eq_nil_of_length_eq_zero (by omega)
  · rintro rfl
    have behind := (placed.save.performAll operations).saved_reaches
    rw [stack] at behind
    have le := (behind cursor.position List.mem_cons_self).offset_le
    have back : (cursor.save.performAll operations).2.rollback =
        ((cursor.save.performAll operations).2.position.offset - cursor.position.offset,
          cursor.restore) := by
      rw [rollback_eq stack, moveTo, text_performAll]
      rfl
    rw [back] at whole
    exact ⟨_, _, whole, Nat.add_sub_cancel' le⟩

/-! ## Saves and what goes back to them -/

/-- How many saved positions there are behind an operation. -/
def Operation.depth : (count : Nat) → Operation → Nat
  | count, .save => count + 1
  | count, .rollback => count - 1
  | count, _ => count

/-- How many saved positions there are behind some operations. -/
def depth (operations : List Operation) : Nat := operations.foldl Operation.depth 0

/-- How many of the positions that are saved some operations go back to or beyond. -/
def spent : (count : Nat) → List Operation → Nat
  | _, [] => 0
  | count, .save :: others => spent (count + 1) others - 1
  | 0, .rollback :: others => spent 0 others
  | count + 1, .rollback :: others => spent count others + 1
  | count, _ :: others => spent count others

theorem Operation.Plain.depth_eq (plain : operation.Plain) (count : Nat) :
    operation.depth count = count := by
  cases operation with
  | save => exact absurd rfl plain.1
  | rollback => exact absurd rfl plain.2
  | _ => rfl

theorem Operation.Plain.spent_cons (plain : operation.Plain) (count : Nat)
    (others : List Operation) : spent count (operation :: others) = spent count others := by
  cases operation with
  | save => exact absurd rfl plain.1
  | rollback => exact absurd rfl plain.2
  | _ => rfl

theorem length_saved_perform (cursor : Cursor) (operation : Operation) :
    (cursor.perform operation).2.saved.length = operation.depth cursor.saved.length := by
  rcases operation.save_or_rollback_or_plain with rfl | rfl | plain
  · rfl
  · exact (congrArg List.length (saved_rollback cursor)).trans List.length_tail
  · rw [plain.saved_perform, plain.depth_eq]

@[simp] theorem depth_concat (before : List Operation) (operation : Operation) :
    depth (before ++ [operation]) = operation.depth (depth before) :=
  List.foldl_append

theorem length_saved_reached (text : String) (operations : List Operation) :
    (reached text operations).saved.length = depth operations := by
  induction operations using List.reverseRecOn with
  | nil => rfl
  | append_singleton before operation ih =>
      rw [reached_concat, length_saved_perform, ih, depth_concat]

/-- Among some operations there is a save behind which `opened` others are open. -/
def Saves (opened : Nat) (operations : List Operation) : Prop :=
  ∃ earlier inner, operations = earlier ++ .save :: inner ∧ openSaves? 0 inner = some opened

/-- Some operations behind `opened` saves close all of them and then go back. -/
def Returns (opened : Nat) (operations : List Operation) : Prop :=
  ∃ later further, operations = later ++ .rollback :: further ∧ openSaves? opened later = some 0

theorem saves_concat : Saves opened (before ++ [operation]) ↔
    (operation = .save ∧ opened = 0) ∨
      ∃ previous, Saves previous before ∧ operation.open? previous = some opened := by
  constructor
  · rintro ⟨earlier, inner, split, counts⟩
    rcases List.eq_nil_or_concat' inner with rfl | ⟨inner, last, rfl⟩
    · obtain ⟨-, same⟩ := List.append_singleton_inj.mp split
      exact .inl ⟨same, (Option.some.inj counts).symm⟩
    · rw [← List.cons_append, ← List.append_assoc] at split
      obtain ⟨rfl, rfl⟩ := List.append_singleton_inj.mp split
      rw [openSaves?_append] at counts
      obtain ⟨previous, counts, step⟩ := Option.bind_eq_some_iff.mp counts
      rw [openSaves?_singleton] at step
      exact .inr ⟨previous, ⟨earlier, inner, rfl, counts⟩, step⟩
  · rintro (⟨rfl, rfl⟩ | ⟨previous, ⟨earlier, inner, rfl, counts⟩, step⟩)
    · exact ⟨before, [], rfl, rfl⟩
    · refine ⟨earlier, inner ++ [operation], by simp, ?_⟩
      rw [openSaves?_append, counts]
      exact (openSaves?_singleton previous operation).trans step

theorem returns_cons : Returns opened (operation :: others) ↔
    (operation = .rollback ∧ opened = 0) ∨
      ∃ further, operation.open? opened = some further ∧ Returns further others := by
  constructor
  · rintro ⟨later, further, split, closes⟩
    cases later with
    | nil =>
        cases split
        exact .inl ⟨rfl, Option.some.inj closes⟩
    | cons first later =>
        cases split
        rw [openSaves?_cons] at closes
        obtain ⟨next, step, closes⟩ := Option.bind_eq_some_iff.mp closes
        exact .inr ⟨next, step, later, further, rfl, closes⟩
  · rintro (⟨rfl, rfl⟩ | ⟨next, step, later, further, rfl, closes⟩)
    · exact ⟨[], others, rfl, rfl⟩
    · refine ⟨operation :: later, further, rfl, ?_⟩
      rw [openSaves?_cons, step]
      exact closes

/-- The saved positions are those of the saves that are open. -/
theorem lt_depth_iff : k < depth before ↔ Saves k before := by
  induction before using List.reverseRecOn generalizing k with
  | nil => simp [depth, Saves]
  | append_singleton before operation ih =>
      rw [saves_concat, depth_concat]
      simp only [← ih]
      rcases operation.save_or_rollback_or_plain with rfl | rfl | plain
      · simp only [Operation.depth, Operation.open?, true_and, Option.some.injEq]
        constructor
        · intro lt
          cases k with
          | zero => exact .inl rfl
          | succ k => exact .inr ⟨k, by omega, rfl⟩
        · rintro (rfl | ⟨previous, lt, rfl⟩) <;> omega
      · simp only [Operation.depth, reduceCtorEq, false_and, false_or]
        constructor
        · intro lt
          exact ⟨k + 1, by omega, rfl⟩
        · rintro ⟨previous, lt, step⟩
          cases previous with
          | zero => cases step
          | succ previous =>
              cases step
              omega
      · simp [plain.depth_eq, plain.open?_eq, plain.1]

/-- A saved position is gone back to or beyond where the saves behind it are closed and the
next operation goes back. -/
theorem lt_spent_iff : k < spent count operations ↔ k < count ∧ Returns k operations := by
  induction operations generalizing k count with
  | nil => simp [spent, Returns]
  | cons operation others ih =>
      rw [returns_cons]
      rcases operation.save_or_rollback_or_plain with rfl | rfl | plain
      · simp [spent, Operation.open?, Nat.lt_sub_iff_add_lt, ih]
      · cases count with
        | zero => simp [spent, ih]
        | succ count =>
            cases k with
            | zero => simp [spent]
            | succ k => simp [spent, Operation.open?, ih]
      · simp [plain.spent_cons, plain.open?_eq, plain.2, ih]

/-- A commit is undone where the operations behind it go back beyond it. -/
theorem undone_iff : Undone before after ↔ 0 < spent (depth before) after := by
  constructor
  · rintro ⟨earlier, inner, later, further, splitBefore, splitAfter, closed⟩
    rw [Closed, openSaves?_append] at closed
    obtain ⟨opened, counts, closes⟩ := Option.bind_eq_some_iff.mp closed
    have lt : opened < spent (depth before) after := lt_spent_iff.mpr
      ⟨lt_depth_iff.mpr ⟨earlier, inner, splitBefore, counts⟩, later, further, splitAfter, closes⟩
    exact Nat.zero_lt_of_lt lt
  · intro positive
    obtain ⟨saved, later, further, splitAfter, closes⟩ := lt_spent_iff.mp positive
    obtain ⟨earlier, inner, splitBefore, counts⟩ := lt_depth_iff.mp saved
    refine ⟨earlier, inner, later, further, splitBefore, splitAfter, ?_⟩
    rw [Closed, openSaves?_append, counts]
    exact closes

instance (before after : List Operation) : Decidable (Undone before after) :=
  decidable_of_iff (0 < spent (depth before) after) undone_iff.symm

/-! ## What is kept -/

/-- What the commits among some operations answered that are not undone, in order; `before`
has been done already. -/
def kept (before : List Operation) : List Operation → List Answer → List String
  | .commit :: others, .text consumed :: answers =>
      if Undone before others then
        kept (before ++ [.commit]) others answers
      else
        consumed :: kept (before ++ [.commit]) others answers
  | operation :: others, _ :: answers => kept (before ++ [operation]) others answers
  | _, _ => []

variable {consumed : String} {answers : List Answer}

theorem kept_of_undone (undone : Undone before others) :
    kept before (.commit :: others) (.text consumed :: answers) =
      kept (before ++ [.commit]) others answers :=
  if_pos undone

theorem kept_of_not_undone (stays : ¬ Undone before others) :
    kept before (.commit :: others) (.text consumed :: answers) =
      consumed :: kept (before ++ [.commit]) others answers :=
  if_neg stays

theorem kept_cons (other : operation ≠ .commit) (before others : List Operation)
    (answer : Answer) (answers : List Answer) :
    kept before (operation :: others) (answer :: answers) =
      kept (before ++ [operation]) others answers := by
  cases operation <;> first | rfl | exact absurd rfl other

theorem Operation.Plain.position_perform (plain : operation.Plain) (other : operation ≠ .commit)
    (cursor : Cursor) : (cursor.perform operation).2.position = cursor.position := by
  cases operation with
  | save => exact absurd rfl plain.1
  | rollback => exact absurd rfl plain.2
  | commit => exact absurd rfl other
  | peekChar =>
      simp only [perform, Cursor.peekChar]
      split <;> rfl
  | seek target => exact position_seek cursor target
  | peek | restore | source | position | lookahead | atEnd | remainder => rfl

/-- The texts lead on to a place of the text, from the position where nothing is spent, and
otherwise from the last of the saved positions that are spent. -/
def LeadsOn (cursor : Cursor) (gone : Nat) (last : Place) (texts : List String) : Prop :=
  ∃ base, (cursor.position :: cursor.saved)[gone]? = some base ∧ base.Reaches last ∧
    base.between last = texts.flatMap String.toList

variable {last : Place} {texts : List String} {gone : Nat}

/-- Where nothing is spent, a commit leads on to where it stops. -/
theorem LeadsOn.of_commit (proper : cursor.Proper) (leads : cursor.commit.2.LeadsOn 0 last texts) :
    cursor.LeadsOn 0 last (cursor.commit.1 :: texts) := by
  obtain ⟨base, found, reaches, between⟩ := leads
  obtain rfl : cursor.commitStop = base := Option.some.inj found
  have stop := proper.reaches_commitStop
  refine ⟨cursor.position, rfl, stop.trans reaches, ?_⟩
  rw [List.flatMap_cons, ← between, commit, String.toList_ofList,
    Place.between_append_between stop reaches]

/-- Where anything is spent, it does not matter what a commit has consumed. -/
theorem LeadsOn.of_commit_undone (leads : cursor.commit.2.LeadsOn gone last texts)
    (positive : 0 < gone) : cursor.LeadsOn gone last texts := by
  obtain ⟨base, found, leads⟩ := leads
  cases gone with
  | zero => exact absurd positive (Nat.lt_irrefl 0)
  | succ less => exact ⟨base, found, leads⟩

/-- Any other operation consumes nothing. -/
theorem LeadsOn.of_perform (other : operation ≠ .commit) (length : cursor.saved.length = count)
    (leads : (cursor.perform operation).2.LeadsOn (spent (operation.depth count) others)
      last texts) : cursor.LeadsOn (spent count (operation :: others)) last texts := by
  obtain ⟨base, found, leads⟩ := leads
  refine ⟨base, ?_, leads⟩
  rcases operation.save_or_rollback_or_plain with rfl | rfl | plain
  · -- A save puts the position in front of itself, so the entry behind is the same one.
    have twice : (cursor.position :: cursor.position :: cursor.saved)[spent (count + 1) others]? =
        some base := found
    rw [spent]
    cases later : spent (count + 1) others <;> simpa [later] using twice
  · cases stack : cursor.saved with
    | nil =>
        obtain rfl : count = 0 := by simpa [stack] using length.symm
        simpa [perform, rollback, stack, Operation.depth, spent] using found
    | cons place saved =>
        obtain rfl : count = saved.length + 1 := by simpa [stack] using length.symm
        simpa [perform, rollback_eq stack, moveTo, Operation.depth, spent] using found
  · rw [plain.position_perform other, plain.saved_perform, plain.depth_eq] at found
    rw [plain.spent_cons]
    exact found

/-- What the kept commits consumed leads on to the position. -/
theorem leadsOn_kept (here : cursor = reached text before) (operations : List Operation) :
    cursor.LeadsOn (spent (depth before) operations) (cursor.performAll operations).2.position
      (kept before operations (cursor.performAll operations).1) := by
  -- Whether a commit is kept depends on both sides, so what has been done is moved to `before`.
  induction operations generalizing cursor before with
  | nil => exact ⟨cursor.position, rfl, .refl _, Place.between_self _⟩
  | cons operation others ih =>
      have next : (cursor.perform operation).2 = reached text (before ++ [operation]) := by
        rw [reached_concat, here]
      have leads := ih next
      rw [depth_concat] at leads
      by_cases other : operation = .commit
      · subst other
        have spends : spent (depth before) (.commit :: others) = spent (depth before) others := rfl
        have leads : cursor.commit.2.LeadsOn (spent (depth before) others) _ _ := leads
        rw [performAll_commit, spends]
        by_cases undone : Undone before others
        · rw [kept_of_undone undone]
          exact leads.of_commit_undone (undone_iff.mp undone)
        · have unspent : spent (depth before) others = 0 :=
            Nat.eq_zero_of_not_pos (undone_iff.not.mp undone)
          have proper := (wellPlaced_reached text before).proper
          rw [← here] at proper
          rw [unspent] at leads ⊢
          rw [kept_of_not_undone undone]
          exact leads.of_commit proper
      · have length : cursor.saved.length = depth before := by
          rw [here, length_saved_reached]
        rw [performAll, kept_cons other]
        exact leads.of_perform other length

/-- Going back behind matched operations, from any cursor that operations can lead to, undoes
them exactly where each save among them is gone back to. And whatever is asked of a cursor, the
text up to its position is what its commits answered that are not undone. -/
theorem goesBack_iff_and_kept (text : String) :
    (∀ before operations, Matched operations →
        ((reached text before).GoesBackFrom operations ↔ Closed operations)) ∧
      ∀ operations,
        slice? text.toList 0 (reached text operations).position.offset =
          some ((kept [] operations ((start text).performAll operations).1).flatMap
            String.toList) := by
  constructor
  · intro before operations matched
    exact goesBackFrom_iff (wellPlaced_reached text before) matched
  · intro operations
    have fresh : start text = reached text [] := rfl
    obtain ⟨base, found, reaches, between⟩ := leadsOn_kept fresh operations
    obtain rfl : base = (start text).position :=
      List.mem_singleton.mp (List.mem_of_getElem? found)
    rw [← between]
    exact Place.slice?_of_reaches (.refl _) reaches

/-- What is undone may itself go back, and going back with nothing saved undoes nothing. -/
theorem goesBack_iff_and_kept_nested :
    Matched [.commit, .save, .commit, .rollback] ∧
      (reached "a£b" [.rollback, .commit]).GoesBackFrom [.commit, .save, .commit, .rollback] ∧
      slice? "a£b".toList 0 (reached "a£b" [.commit, .save, .peek 4, .commit, .rollback, .rollback,
        .commit]).position.offset = some ['a', '£'] := by
  have matched : Matched [.commit, .save, .commit, .rollback] := by decide
  have closed : Closed [.commit, .save, .commit, .rollback] := by decide
  obtain ⟨goesBack, consumed⟩ := goesBack_iff_and_kept "a£b"
  refine ⟨matched, (goesBack [.rollback, .commit] _ matched).mpr closed, ?_⟩
  rw [consumed]
  decide +kernel

/-- A save that stays open is the one that is gone back to, so the commit before it is not
undone. -/
theorem not_goesBackFrom_open :
    Matched [.commit, .save] ∧ ¬ (start "ab").GoesBackFrom [.commit, .save] := by
  refine ⟨by decide, ?_⟩
  rintro ⟨answers, n, goesBack, -⟩
  have position : ((start "ab").performAll [.save, .commit, .save, .rollback]).2.position =
      (start "ab").position := congrArg (·.2.position) goesBack
  exact absurd position (by decide)

end Cursor

end PatternLexer
