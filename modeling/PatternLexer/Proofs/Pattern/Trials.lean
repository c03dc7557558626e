import Mathlib.Logic.Relation
import PatternLexer.Proofs.Pattern.Consumption

/-!
# What is tried while a pattern is matched

Matching tries matchers and sequences one after another with one cursor: the items of a sequence
until one fails, and the alternatives of an alternation until one matches. Here these trials are
listed in the order in which they are made, each with the cursor at which it begins.

One trial tries another one directly (`Trial.Tries`) if this is an item behind items that match,
an alternative before which all others fail, or the sequence of a pattern. The list of a trial holds
what it tries, directly or through others, and nothing else (`Trial.mem_trials_iff_transGen`). If
nothing is peeked where it begins, nothing is peeked where any of these begins
(`Cursor.Settled.of_tries`).
-/

namespace PatternLexer

/-- A matcher or a sequence that is tried at a cursor. -/
inductive Trial where
  | matcher (matcher : Matcher) (cursor : Cursor)
  | sequence (items : Sequence) (cursor : Cursor)

mutual

/-- What is tried while a matcher is matched at a cursor. -/
def Matcher.trials : Matcher → Cursor → List Trial
  | .alternation alternatives, cursor => Sequence.trialsFirst alternatives cursor
  | .pattern items, cursor => .sequence items cursor :: Sequence.trialsItems items cursor.save
  | .literal _, _ | .run _ _ _, _ | .line, _ | .quoted _, _ => []

/-- What is tried while the first of some sequences that matches is looked for. -/
def Sequence.trialsFirst : List Sequence → Cursor → List Trial
  | [], _ => []
  | items :: others, cursor =>
      .sequence items cursor :: (Sequence.trialsItems items cursor.save ++
        match cursor.match? items with
        | (some _, _) => []
        | (none, next) => Sequence.trialsFirst others next)

/-- What is tried while items are matched one after another. -/
def Sequence.trialsItems : Sequence → Cursor → List Trial
  | [], _ => []
  | ⟨matcher, _⟩ :: others, cursor =>
      .matcher matcher cursor :: (matcher.trials cursor ++
        match matcher.scan cursor with
        | (none, _) => []
        | (some _, next) => Sequence.trialsItems others next)

end

/-- What is tried while a sequence is matched at a cursor, which is a trial itself. -/
def Cursor.trials (cursor : Cursor) (items : Sequence) : List Trial :=
  .sequence items cursor :: items.trialsItems cursor.save

/-- A step that succeeds leaves nothing peeked. -/
theorem Cursor.Follows.settled {α : Type} {cursor next : Cursor} {consumed : Option (List Char)}
    {value : List Char → α} {result : Option α × Cursor} {found : α}
    (follows : cursor.Follows consumed value result) (succeeds : result = (some found, next)) :
    next.Settled := by
  subst succeeds
  cases consumed with
  | none => cases follows
  | some taken =>
      obtain ⟨-, same⟩ := follows
      cases same
      exact Cursor.settled_advance cursor taken

/-- A matcher that matches with nothing peeked leaves nothing peeked. -/
theorem Matcher.settled_scan (matcher : Matcher) {cursor next : Cursor} {found : Match}
    (settled : cursor.Settled) (matched : matcher.scan cursor = (some found, next)) :
    next.Settled :=
  (matcher.follows_scan settled).settled matched

namespace Sequence

variable {items : Sequence} {alternatives : List Sequence} {cursor next : Cursor} {trial : Trial}
  {captures : Captures}

/-- Items that match with nothing peeked leave nothing peeked. -/
theorem settled_scanItems (items : Sequence) (settled : cursor.Settled)
    (matched : items.scanItems cursor = (some captures, next)) : next.Settled :=
  (items.follows_scanItems settled).settled matched

/-- Items match one after another. -/
theorem scanItems_cons_eq_some_iff {item : Item} {others : Sequence} :
    scanItems (item :: others) cursor = (some captures, next) ↔
      ∃ found moved further, item.matcher.scan cursor = (some found, moved) ∧
        scanItems others moved = (some further, next) ∧
          captures = found.filed cursor.text item.capture ++ further := by
  rw [scanItems]
  rcases matched : item.matcher.scan cursor with ⟨_ | found, moved⟩
  · simp
  · rcases behind : scanItems others moved with ⟨_ | further, last⟩
    · simp [behind]
    · constructor
      · intro same
        simp only [behind, Option.map_some, Prod.mk.injEq, Option.some.injEq] at same
        obtain ⟨rfl, rfl⟩ := same
        exact ⟨found, moved, further, rfl, behind, rfl⟩
      · rintro ⟨_, _, _, ⟨⟩, behind', rfl⟩
        simp [behind']

/-- Items are tried behind the items before them, if these match. -/
theorem mem_trialsItems_iff :
    trial ∈ items.trialsItems cursor ↔
      ∃ earlier item later captures next, items = earlier ++ item :: later ∧
        scanItems earlier cursor = (some captures, next) ∧
          (trial = .matcher item.matcher next ∨ trial ∈ item.matcher.trials next) := by
  induction items generalizing cursor with
  | nil => simp [trialsItems]
  | cons first others ih =>
      rw [trialsItems, List.mem_cons, List.mem_append]
      constructor
      · rintro (here | inside | further)
        · exact ⟨[], first, others, [], cursor, rfl, rfl, .inl here⟩
        · exact ⟨[], first, others, [], cursor, rfl, rfl, .inr inside⟩
        · rcases matched : first.matcher.scan cursor with ⟨_ | found, moved⟩
          · rw [matched] at further
            cases further
          · rw [matched] at further
            obtain ⟨earlier, item, later, captures, next, rfl, behind, tried⟩ := ih.mp further
            have matches' := scanItems_cons_eq_some_iff.mpr
              ⟨found, moved, captures, matched, behind, rfl⟩
            exact ⟨first :: earlier, item, later, _, next, rfl, matches', tried⟩
      · rintro ⟨earlier, item, later, captures, next, split, matched, tried⟩
        cases earlier with
        | nil =>
            cases split
            cases matched
            exact tried.imp_right .inl
        | cons other earlier =>
            cases split
            obtain ⟨found, moved, further, here, behind, -⟩ :=
              scanItems_cons_eq_some_iff.mp matched
            rw [here]
            exact .inr (.inr (ih.mpr ⟨earlier, item, later, further, next, rfl, behind, tried⟩))

/-- Of some sequences, those are tried before which all others fail. -/
theorem mem_trialsFirst_iff (settled : cursor.Settled) :
    trial ∈ trialsFirst alternatives cursor ↔
      ∃ earlier items later, alternatives = earlier ++ items :: later ∧
        (∀ other ∈ earlier, (cursor.match? other).1 = none) ∧ trial ∈ cursor.trials items := by
  induction alternatives with
  | nil => simp [trialsFirst]
  | cons first others ih =>
      rw [trialsFirst, ← List.cons_append, List.mem_append]
      constructor
      · rintro (here | further)
        · exact ⟨[], first, others, rfl, by simp, here⟩
        · rcases matched : cursor.match? first with ⟨_ | found, next⟩
          · -- The sequence that failed has gone back to where it began.
            have failed := congrArg Prod.fst matched
            rw [settled.match?_of_none failed] at further
            obtain ⟨earlier, items, later, rfl, fail, tried⟩ := ih.mp further
            exact ⟨first :: earlier, items, later, rfl, List.forall_mem_cons.mpr ⟨failed, fail⟩,
              tried⟩
          · rw [matched] at further
            cases further
      · rintro ⟨earlier, items, later, split, fail, tried⟩
        cases earlier with
        | nil =>
            cases split
            exact .inl tried
        | cons other earlier =>
            cases split
            obtain ⟨failed, fail⟩ := List.forall_mem_cons.mp fail
            rw [settled.match?_of_none failed]
            exact .inr (ih.mpr ⟨earlier, items, later, rfl, fail, tried⟩)

end Sequence

namespace Trial

/-- The cursor at which a trial begins. -/
def cursor : Trial → Cursor
  | matcher _ cursor | sequence _ cursor => cursor

/-- What is tried during a trial. -/
def trials : Trial → List Trial
  | matcher single cursor => single.trials cursor
  | sequence items cursor => items.trialsItems cursor.save

/-- A trial that begins with nothing peeked tries another one directly: an item behind items that
match, an alternative before which all others fail, or the sequence of a pattern. -/
inductive Tries : Trial → Trial → Prop where
  | item {earlier : Sequence} {cursor next : Cursor} {captures : Captures}
      (matched : earlier.scanItems cursor.save = (some captures, next)) (item : Item)
      (later : Sequence) :
      Tries (sequence (earlier ++ item :: later) cursor) (matcher item.matcher next)
  | alternative {earlier : List Sequence} {cursor : Cursor}
      (fail : ∀ other ∈ earlier, (cursor.match? other).1 = none) (items : Sequence)
      (later : List Sequence) :
      Tries (matcher (.alternation (earlier ++ items :: later)) cursor) (sequence items cursor)
  | pattern (items : Sequence) (cursor : Cursor) :
      Tries (matcher (.pattern items) cursor) (sequence items cursor)

/-- The size of what is tried. -/
noncomputable def weight : Trial → Nat
  | matcher single _ => sizeOf single
  | sequence items _ => sizeOf items

variable {outer inner trial : Trial}

/-- What is tried is part of what tries it. -/
theorem Tries.weight_lt (tries : outer.Tries inner) : inner.weight < outer.weight := by
  cases tries with
  | @item earlier cursor next captures matched item later =>
      have inside : item ∈ earlier ++ item :: later := by simp
      have within := List.sizeOf_lt_of_mem inside
      have part : sizeOf item.matcher < sizeOf item := by
        cases item
        simp
        omega
      simp only [weight]
      omega
  | @alternative earlier cursor fail items later =>
      have inside : items ∈ earlier ++ items :: later := by simp
      have part := List.sizeOf_lt_of_mem inside
      simp only [weight, Matcher.alternation.sizeOf_spec]
      omega
  | pattern items cursor =>
      simp only [weight, Matcher.pattern.sizeOf_spec]
      omega

/-- What is tried begins with nothing peeked if what tries it does. -/
theorem Tries.settled (tries : outer.Tries inner) (settled : outer.cursor.Settled) :
    inner.cursor.Settled := by
  cases tries with
  | @item earlier cursor next captures matched item later =>
      have begins : cursor.save.Settled := settled
      exact earlier.settled_scanItems begins matched
  | alternative | pattern => exact settled

/-- What is tried during a trial is tried directly, or during such a trial. -/
theorem mem_trials_iff (settled : outer.cursor.Settled) :
    trial ∈ outer.trials ↔ ∃ inner, outer.Tries inner ∧ (trial = inner ∨ trial ∈ inner.trials) := by
  cases outer with
  | sequence items cursor =>
      rw [trials, Sequence.mem_trialsItems_iff]
      constructor
      · rintro ⟨earlier, item, later, captures, next, rfl, matched, tried⟩
        exact ⟨_, .item matched item later, tried⟩
      · rintro ⟨inner, tries, tried⟩
        cases tries with
        | item matched item later => exact ⟨_, item, later, _, _, rfl, matched, tried⟩
  | matcher matcher cursor =>
      cases matcher with
      | literal | run | line | quoted =>
          constructor
          · intro absurd
            cases absurd
          · rintro ⟨inner, absurd, -⟩
            cases absurd
      | alternation alternatives =>
          have begins : cursor.Settled := settled
          rw [trials, Matcher.trials, Sequence.mem_trialsFirst_iff begins]
          constructor
          · rintro ⟨earlier, items, later, rfl, fail, tried⟩
            exact ⟨_, .alternative fail items later, List.mem_cons.mp tried⟩
          · rintro ⟨inner, tries, tried⟩
            cases tries with
            | alternative fail items later =>
                exact ⟨_, items, later, rfl, fail, List.mem_cons.mpr tried⟩
      | pattern items =>
          rw [trials, Matcher.trials, List.mem_cons]
          constructor
          · exact fun tried => ⟨_, .pattern items cursor, tried⟩
          · rintro ⟨inner, tries, tried⟩
            cases tries
            exact tried

/-- What is listed is tried, directly or through other trials. -/
theorem transGen_of_mem_trials {outer trial : Trial} (settled : outer.cursor.Settled)
    (member : trial ∈ outer.trials) : Relation.TransGen Tries outer trial := by
  obtain ⟨inner, tries, rfl | inside⟩ := (mem_trials_iff settled).mp member
  · exact .single tries
  · exact .head tries (transGen_of_mem_trials (tries.settled settled) inside)
termination_by outer.weight
decreasing_by exact tries.weight_lt

/-- The list of a trial holds what it tries, directly or through other trials. -/
theorem mem_trials_iff_transGen (settled : outer.cursor.Settled) :
    trial ∈ outer.trials ↔ Relation.TransGen Tries outer trial := by
  constructor
  · exact transGen_of_mem_trials settled
  · intro tried
    induction tried using Relation.TransGen.head_induction_on with
    | single tries => exact (mem_trials_iff settled).mpr ⟨_, tries, .inl rfl⟩
    | head tries _ ih =>
        exact (mem_trials_iff settled).mpr ⟨_, tries, .inr (ih (tries.settled settled))⟩

end Trial

namespace Cursor

variable {cursor : Cursor} {items : Sequence} {trial : Trial}

/-- While a sequence is matched with nothing peeked, the sequence is tried and all that is tried in
it. -/
theorem mem_trials_iff (settled : cursor.Settled) :
    trial ∈ cursor.trials items ↔
      Relation.ReflTransGen Trial.Tries (.sequence items cursor) trial := by
  have begins : (Trial.sequence items cursor).cursor.Settled := settled
  rw [Relation.reflTransGen_iff_eq_or_transGen, trials, List.mem_cons]
  exact or_congr Iff.rfl (Trial.mem_trials_iff_transGen begins)

/-- Nothing is peeked where something is tried while a sequence is matched with nothing peeked. -/
theorem Settled.of_tries (settled : cursor.Settled)
    (tried : Relation.ReflTransGen Trial.Tries (.sequence items cursor) trial) :
    trial.cursor.Settled := by
  induction tried with
  | refl => exact settled
  | tail _ tries ih => exact tries.settled ih

end Cursor

end PatternLexer
