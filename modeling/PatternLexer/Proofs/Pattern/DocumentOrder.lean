import PatternLexer.Proofs.Pattern.References
import PatternLexer.Proofs.Pattern.Spans
import PatternLexer.Proofs.Registry.Acyclicity

/-!
# Captures in document order

The references of a match stand one behind another, and those inside a reference stand
between its ends (`Forest.InOrder`). In post-order a reference comes behind those inside
it, although it starts before them. Under one class name this cannot happen, as long as no
class is referred to inside itself: the tokens of a class are in the order of the text and
do not overlap (`pairwise_captures_of_match?`).
-/

namespace PatternLexer

/-- The references of a forest stand one behind another between two offsets, and so do
those inside each of them between its ends. -/
inductive Forest.InOrder : (first last : Nat) → Forest → Prop where
  | nil {first last : Nat} (le : first ≤ last) : InOrder first last []
  | cons {first last : Nat} {name : String} {start stop : Place} {inside others : Forest}
      (le : first ≤ start.offset) (within : InOrder start.offset stop.offset inside)
      (further : InOrder stop.offset last others) :
      InOrder first last (⟨name, start, stop, inside⟩ :: others)

/-- No reference stands inside another one of the same class, at any depth. -/
def Forest.Acyclic (forest : Forest) : Prop :=
  ∀ outer ∈ forest.postOrder, ∀ inner ∈ Forest.postOrder outer.inside, inner.name ≠ outer.name

theorem Forest.postOrder_append (first second : Forest) :
    Forest.postOrder (first ++ second) = first.postOrder ++ second.postOrder := by
  induction first with
  | nil => simp
  | cons reference first ih => simp [postOrder_cons, ih]

theorem Forest.Acyclic.inside {forest : Forest} {outer : Reference} (acyclic : forest.Acyclic)
    (member : outer ∈ forest.postOrder) : Forest.Acyclic outer.inside := by
  intro middle inOuter
  exact acyclic middle (mem_postOrder_of_inside member inOuter)

namespace Forest.InOrder

variable {first middle last : Nat} {forest others : Forest} {reference : Reference}

theorem le (inOrder : forest.InOrder first last) : first ≤ last := by
  induction inOrder with
  | nil le => exact le
  | cons le _ _ within further => omega

theorem mono {earlier : Nat} (le : earlier ≤ first) (inOrder : forest.InOrder first last) :
    forest.InOrder earlier last := by
  cases inOrder with
  | nil le' => exact .nil (Nat.le_trans le le')
  | cons le' within further => exact .cons (Nat.le_trans le le') within further

theorem append (inOrder : forest.InOrder first middle) (behind : others.InOrder middle last) :
    Forest.InOrder first last (forest ++ others) := by
  induction inOrder with
  | nil le => exact behind.mono le
  | cons le within _ _ ih => exact .cons le within (ih behind)

/-- At any depth the references inside a reference are in order between its ends, which lie
between the ends of the forest. -/
theorem of_mem (inOrder : forest.InOrder first last) (member : reference ∈ forest.postOrder) :
    first ≤ reference.start.offset ∧ reference.stop.offset ≤ last ∧
      Forest.InOrder reference.start.offset reference.stop.offset reference.inside := by
  induction inOrder with
  | nil => simp at member
  | @cons first last name start stop inside others le within further ihInside ihOthers =>
      have forward := within.le
      have onward := further.le
      rw [Forest.postOrder_cons, List.mem_append, List.mem_cons] at member
      rcases member with deeper | rfl | behind
      · rcases ihInside deeper with ⟨starts, stops, below⟩
        exact ⟨by omega, by omega, below⟩
      · exact ⟨le, onward, within⟩
      · rcases ihOthers behind with ⟨starts, stops, below⟩
        exact ⟨by omega, stops, below⟩

/-- In post-order the references of one class stand one behind another. -/
theorem pairwise_filter (inOrder : forest.InOrder first last) (acyclic : forest.Acyclic)
    (name : String) :
    (forest.postOrder.filter (·.name = name)).Pairwise fun earlier later =>
      earlier.stop.offset ≤ later.start.offset := by
  induction inOrder with
  | nil => simp
  | @cons first last tag start stop inside others le within further ihInside ihOthers =>
      have here : (⟨tag, start, stop, inside⟩ : Reference) ∈
          Forest.postOrder (⟨tag, start, stop, inside⟩ :: others) := by
        simp [Forest.postOrder_cons]
      have behind (reference) (member : reference ∈ others.postOrder) :
          reference ∈ Forest.postOrder (⟨tag, start, stop, inside⟩ :: others) := by
        simp [Forest.postOrder_cons, member]
      have later (reference) (member : reference ∈ others.postOrder.filter (·.name = name)) :
          stop.offset ≤ reference.start.offset :=
        (further.of_mem (List.mem_filter.mp member).1).1
      have ordered := ihOthers fun outer member => acyclic outer (behind outer member)
      rw [Forest.postOrder_cons, List.filter_append, List.pairwise_append]
      refine ⟨ihInside (acyclic.inside here), ?_, ?_⟩
      · rw [List.filter_cons]
        split
        · exact List.pairwise_cons.mpr ⟨later, ordered⟩
        · exact ordered
      · intro inner inInside reference member
        rcases List.mem_filter.mp inInside with ⟨deeper, named⟩
        rcases List.mem_filter.mp member with ⟨member, named'⟩
        have ends := (within.of_mem deeper).2.1
        rcases List.mem_cons.mp member with rfl | member
        · -- The enclosing reference would be one of the same class.
          have same : inner.name = tag := by simp_all
          exact absurd same (acyclic _ here inner deeper)
        · exact Nat.le_trans ends (later reference (List.mem_filter.mpr ⟨member, named'⟩))

end Forest.InOrder

/-! ## The references of a match are in order -/

open Cursor

mutual

theorem Matcher.inOrder_references (matcher : Matcher) {cursor next : Cursor} {found : Match}
    (proper : cursor.Proper) (scanned : matcher.scan cursor = (some found, next)) :
    Forest.InOrder found.start.offset found.stop.offset (matcher.references cursor) := by
  have spans := Matcher.spans_scan matcher proper scanned
  cases matcher with
  | literal | run | line | quoted =>
      rw [Matcher.references, spans.start_eq]
      exact .nil spans.reaches_stop.offset_le
  | alternation alternatives => exact Sequence.inOrder_firstReferences alternatives proper scanned
  | pattern items =>
      have saved : cursor.save.Proper := proper
      rcases proper.spans_match? scanned with ⟨last, items, -, stop⟩
      rw [spans.start_eq, stop]
      exact Sequence.inOrder_references _ saved items

theorem Sequence.inOrder_firstReferences (alternatives : List Sequence) {cursor next : Cursor}
    {found : Match} (proper : cursor.Proper)
    (scanned : Sequence.scanFirst alternatives cursor = (some found, next)) :
    Forest.InOrder found.start.offset found.stop.offset
      (Sequence.firstReferences alternatives cursor) := by
  cases alternatives with
  | nil => cases scanned
  | cons items others =>
      rw [Sequence.scanFirst_cons] at scanned
      rw [Sequence.firstReferences]
      cases tried : cursor.match? items with
      | mk first middle =>
          rw [tried] at scanned
          cases first with
          | none =>
              have middleProper : middle.Proper := by
                rw [restore_of_match?_eq_none tried]
                exact (settled_restore cursor).proper
              exact Sequence.inOrder_firstReferences others middleProper scanned
          | some first =>
              have saved : cursor.save.Proper := proper
              cases scanned
              rcases proper.spans_match? tried with ⟨last, read, spans, stop⟩
              rw [spans.start_eq, stop]
              exact Sequence.inOrder_references items saved read

theorem Sequence.inOrder_references (items : Sequence) {cursor next : Cursor}
    {captures : Captures} (proper : cursor.Proper)
    (scanned : Sequence.scanItems items cursor = (some captures, next)) :
    Forest.InOrder cursor.position.offset next.position.offset (items.references cursor) := by
  cases items with
  | nil =>
      cases scanned
      rw [Sequence.references]
      exact .nil (Nat.le_refl _)
  | cons item others =>
      rcases item with ⟨matcher, capture⟩
      rw [Sequence.scanItems] at scanned
      rw [Sequence.references]
      cases first : matcher.scan cursor with
      | mk found middle =>
          rw [first] at scanned
          cases found with
          | none => cases scanned
          | some found =>
              have spans := Matcher.spans_scan matcher proper first
              have inside := Matcher.inOrder_references matcher proper first
              cases read : Sequence.scanItems others middle with
              | mk rest last =>
                  simp only [read, Prod.mk.injEq, Option.map_eq_some_iff] at scanned
                  rcases scanned with ⟨⟨rest, rfl, rfl⟩, rfl⟩
                  have behind := (Sequence.inOrder_references others spans.proper read).mono
                    spans.stop_reaches.offset_le
                  rw [← spans.start_eq]
                  cases capture with
                  | none => exact inside.append behind
                  | some name => exact .cons (Nat.le_refl _) inside behind

end

/-- The reference comes from an item of its name with the property: what stands inside it
are the references of the matcher of this item. -/
def Reference.From (property : Item → Prop) (reference : Reference) : Prop :=
  ∃ matcher cursor, property ⟨matcher, some reference.name⟩ ∧ matcher.Everywhere property ∧
    reference.inside = matcher.references cursor

variable {property : Item → Prop}

mutual

theorem Matcher.from_references (matcher : Matcher) (cursor : Cursor)
    (everywhere : matcher.Everywhere property) :
    ∀ reference ∈ Forest.postOrder (matcher.references cursor), reference.From property := by
  cases matcher with
  | literal | run | line | quoted => simp [Matcher.references]
  | alternation alternatives =>
      exact Sequence.from_firstReferences alternatives cursor everywhere
  | pattern items => exact Sequence.from_references items cursor.save everywhere

theorem Sequence.from_firstReferences (alternatives : List Sequence) (cursor : Cursor)
    (everywhere : Sequence.EachEverywhere property alternatives) :
    ∀ reference ∈ Forest.postOrder (Sequence.firstReferences alternatives cursor),
      reference.From property := by
  cases alternatives with
  | nil => simp [Sequence.firstReferences]
  | cons items others =>
      rw [Sequence.firstReferences]
      split
      · exact Sequence.from_references items cursor.save everywhere.1
      · rename_i next _
        exact Sequence.from_firstReferences others next everywhere.2

theorem Sequence.from_references (items : Sequence) (cursor : Cursor)
    (everywhere : items.Everywhere property) :
    ∀ reference ∈ Forest.postOrder (items.references cursor), reference.From property := by
  cases items with
  | nil => simp [Sequence.references]
  | cons item others =>
      rcases item with ⟨matcher, capture⟩
      rcases everywhere with ⟨here, inside, further⟩
      have below := Matcher.from_references matcher cursor inside
      rw [Sequence.references]
      split
      · simp
      · rename_i found next scanned
        have behind := Sequence.from_references others next further
        rw [Forest.postOrder_append, List.forall_mem_append]
        refine ⟨?_, behind⟩
        cases capture with
        | none => exact below
        | some name =>
            simp only [Forest.postOrder_cons, Forest.postOrder_nil]
            intro reference member
            rcases List.mem_append.mp member with deeper | outer
            · exact below reference deeper
            · rw [List.mem_singleton.mp outer]
              exact ⟨matcher, cursor, here, inside, rfl⟩

end

/-- Where items are as compilation makes them and no class refers to itself, no reference of
a match stands inside another one of the same class. -/
theorem Sequence.acyclic_references {registry : Registry} (acyclic : registry.Acyclic)
    {items : Sequence} (made : items.Everywhere registry.Makes) (cursor : Cursor) :
    Forest.Acyclic (items.references cursor) := by
  intro outer member inner deeper
  rcases Sequence.from_references items cursor made outer member with
    ⟨matcher, place, found, -, inside⟩
  rw [inside] at deeper
  have absent := acyclic outer.name matcher found
  rcases Matcher.from_references matcher place absent inner deeper with ⟨_, _, different, -⟩
  intro same
  rw [same] at different
  exact different rfl

/-- Under each class name the captured tokens are in the order of the text and do not
overlap: of any two, the first one ends before the other starts. -/
def Captures.InOrder (captures : Captures) : Prop :=
  ∀ name, (captures.ofClass name).Pairwise fun earlier later =>
    earlier.pos + earlier.length ≤ later.pos

theorem Captures.Of.inOrder {captures : Captures} {source : String} {forest : Forest}
    {first last : Nat} (of : captures.Of source forest) (inOrder : forest.InOrder first last)
    (acyclic : forest.Acyclic) : captures.InOrder := by
  intro name
  rw [of.ofClass_eq, List.pairwise_map]
  apply (inOrder.pairwise_filter acyclic name).imp_of_mem
  intro earlier later member _ before
  have forward := (inOrder.of_mem (List.mem_filter.mp member).1).2.2.le
  rcases earlier with ⟨tag, start, stop, inside⟩
  rcases later with ⟨tag', start', stop', inside'⟩
  simp only [Reference.token, Token.pos, Token.length] at *
  omega

namespace Cursor

/-- The captures of a match of a compiled pattern are in document order and disjoint, and so
are those of every token at any depth, wherever the lookahead of the cursor stands. -/
theorem pairwise_captures_of_match? (registrations : List (String × Definition))
    {pattern : String} {items : Sequence} {cursor next : Cursor} {found : Match}
    (compiled : (Registry.empty.registerAll registrations).compile pattern = .ok items)
    (proper : cursor.Proper) (matched : cursor.match? items = (some found, next)) :
    found.captures.InOrder ∧
      ∀ token, Captures.Holds token found.captures → Captures.InOrder token.captures := by
  have made := (Registry.coherent_registerAll registrations).everywhere_of_compile compiled
  have acyclic := Sequence.acyclic_references (Registry.acyclic_registerAll registrations) made
    cursor.save
  have saved : cursor.save.Proper := proper
  rcases proper.spans_match? matched with ⟨last, scanned, -⟩
  have inOrder := Sequence.inOrder_references items saved scanned
  have same : found.captures = (cursor.references items).captures cursor.text :=
    Sequence.captures_scanItems items (Sequence.Everywhere.mono wellTagged_of_makes made) scanned
  constructor
  · rw [same]
    exact (Captures.of_forest cursor.text (cursor.references items)).inOrder inOrder acyclic
  · intro token holds
    rcases Captures.of_holds holds same with ⟨reference, member, -, of⟩
    exact of.inOrder (inOrder.of_mem member).2.2 (acyclic.inside member)

/-- The words of the pair are filed at the root as well, before the word behind it. -/
theorem pairwise_captures_of_match?_pair :
    ∃ items found next,
      (Registry.empty.registerAll [("pair", .pattern "{word}:{word}")]).compile "{pair};{word}" =
          .ok items ∧
        (start "a:b;c").Proper ∧ (start "a:b;c").match? items = (some found, next) ∧
        found.captures.InOrder ∧
          ∀ token, Captures.Holds token found.captures → Captures.InOrder token.captures := by
  have succeeds : (((Registry.empty.registerAll [("pair", .pattern "{word}:{word}")]).compile
      "{pair};{word}").toOption.bind fun items => ((start "a:b;c").match? items).1).isSome =
    true := by decide +kernel
  rcases Option.isSome_iff_exists.mp succeeds with ⟨found, succeeds⟩
  rcases Option.bind_eq_some_iff.mp succeeds with ⟨items, compiles, read⟩
  have compiled := eq_ok_of_toOption_eq_some compiles
  have proper : (start "a:b;c").Proper := (settled_start "a:b;c").proper
  have matched : (start "a:b;c").match? items = (some found, ((start "a:b;c").match? items).2) :=
    Prod.ext read rfl
  exact ⟨items, found, _, compiled, proper, matched,
    pairwise_captures_of_match? _ compiled proper matched⟩

end Cursor

end PatternLexer
