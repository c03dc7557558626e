import PatternLexer.Proofs.Pattern.Reading
import PatternLexer.Proofs.Registry.Coherence

/-!
# The references of a match

A match comes about by references to classes that match, inside which further
references match. `Cursor.references` is the forest of those that took part in a
match. What was tried and failed is not in it: only the alternative that matched
counts.

Captures are filed under their class at every level on the way up, and also kept
inside the token of each reference. Main statement: `captures_of_match?`, the captures
of a match, read in order, are the references of the forest in post-order, and so are
those of every token (`Captures.of_holds`).
-/

namespace PatternLexer

/-- A reference that took part in a match: its class, the span it matched, and the
references inside it. -/
structure Reference where
  name : String
  start : Place
  stop : Place
  inside : List Reference

/-- References that matched one after another. -/
abbrev Forest := List Reference

mutual

/-- A reference behind all references inside it. -/
def Reference.postOrder : Reference → List Reference
  | ⟨name, start, stop, inside⟩ => Forest.postOrder inside ++ [⟨name, start, stop, inside⟩]

/-- All references of a forest at any depth, each behind those inside it. -/
def Forest.postOrder : Forest → List Reference
  | [] => []
  | reference :: others => reference.postOrder ++ Forest.postOrder others

end

mutual

/-- The token of a reference in a source text. -/
def Reference.token (source : String) : Reference → Token
  | ⟨_, start, stop, inside⟩ => ⟨start, stop, source, Forest.captures source inside⟩

/-- The captures of a forest, filed on every level of it. -/
def Forest.captures (source : String) : Forest → Captures
  | [] => []
  | ⟨name, start, stop, inside⟩ :: others =>
      Forest.captures source inside ++
        (name, Reference.token source ⟨name, start, stop, inside⟩) ::
          Forest.captures source others

end

@[simp] theorem Reference.captures_token (source : String) (reference : Reference) :
    (reference.token source).captures = Forest.captures source reference.inside := by
  rcases reference with ⟨name, start, stop, inside⟩
  rw [Reference.token]

@[simp] theorem Forest.captures_nil (source : String) : Forest.captures source [] = [] := by
  rw [Forest.captures]

theorem Forest.captures_cons (source : String) (reference : Reference) (others : Forest) :
    Forest.captures source (reference :: others) =
      Forest.captures source reference.inside ++
        (reference.name, reference.token source) :: Forest.captures source others := by
  rcases reference with ⟨name, start, stop, inside⟩
  rw [Forest.captures]

@[simp] theorem Forest.postOrder_nil : Forest.postOrder [] = [] := by
  rw [Forest.postOrder]

theorem Forest.postOrder_cons (reference : Reference) (others : Forest) :
    Forest.postOrder (reference :: others) =
      Forest.postOrder reference.inside ++ reference :: Forest.postOrder others := by
  rcases reference with ⟨name, start, stop, inside⟩
  simp [Forest.postOrder, Reference.postOrder]

theorem Forest.captures_append (source : String) (first second : Forest) :
    Forest.captures source (first ++ second) =
      Forest.captures source first ++ Forest.captures source second := by
  induction first with
  | nil => simp
  | cons reference first ih => simp [captures_cons, ih]

/-- What stands inside a reference of a forest stands in the forest. -/
theorem Forest.mem_postOrder_of_inside {forest : Forest} {outer inner : Reference}
    (outside : outer ∈ forest.postOrder) (inside : inner ∈ Forest.postOrder outer.inside) :
    inner ∈ forest.postOrder := by
  match forest with
  | [] => simp at outside
  | ⟨name, start, stop, below⟩ :: others =>
      rw [postOrder_cons] at outside ⊢
      rcases List.mem_append.mp outside with deeper | outside
      · exact List.mem_append_left _ (mem_postOrder_of_inside deeper inside)
      · rcases List.mem_cons.mp outside with rfl | further
        · exact List.mem_append_left _ inside
        · exact List.mem_append_right _
            (List.mem_cons_of_mem _ (mem_postOrder_of_inside further inside))

/-- Filing on every level makes the list of all references in post-order. -/
theorem Forest.captures_eq_map (source : String) (forest : Forest) :
    Forest.captures source forest =
      forest.postOrder.map fun reference => (reference.name, reference.token source) := by
  match forest with
  | [] => simp
  | ⟨name, start, stop, inside⟩ :: others =>
      rw [captures_cons, postOrder_cons, List.map_append, List.map_cons,
        captures_eq_map source inside, captures_eq_map source others]

namespace Captures

/-- The captures are those of a forest: under a class name stand the tokens of all its
references in the forest, at any depth and in post-order, and there is no entry for a
class without references. -/
structure Of (captures : Captures) (source : String) (forest : Forest) : Prop where
  ofClass_eq (name : String) : captures.ofClass name =
    (forest.postOrder.filter (·.name = name)).map (·.token source)
  entry_iff (name : String) : (∃ tokens, (name, tokens) ∈ captures.byClass) ↔
    ∃ reference ∈ forest.postOrder, reference.name = name

/-- The token is one of the captures or stands, at any depth, inside one of them. -/
inductive Holds (token : Token) : Captures → Prop where
  | here {name : String} {captures : Captures} (member : (name, token) ∈ captures) :
      Holds token captures
  | inside {name : String} {outer : Token} {captures : Captures}
      (member : (name, outer) ∈ captures) (holds : Holds token outer.captures) :
      Holds token captures

theorem ofClass_forest (source : String) (forest : Forest) (name : String) :
    Captures.ofClass name (forest.captures source) =
      (forest.postOrder.filter (·.name = name)).map (·.token source) := by
  rw [Forest.captures_eq_map]
  induction forest.postOrder with
  | nil => rfl
  | cons reference others ih => by_cases same : reference.name = name <;> simp [same, ih]

theorem of_forest (source : String) (forest : Forest) :
    Captures.Of (forest.captures source) source forest where
  ofClass_eq := ofClass_forest source forest
  entry_iff name := by
    simp [mem_byClass, ofClass_forest, List.filter_eq_nil_iff]

/-- A token at any depth is that of a reference, and its captures are those of the
references inside. -/
theorem of_holds {source : String} {token : Token} {captures : Captures} {forest : Forest}
    (holds : Holds token captures) (same : captures = forest.captures source) :
    ∃ reference ∈ forest.postOrder, token = reference.token source ∧
      Captures.Of token.captures source reference.inside := by
  induction holds generalizing forest with
  | here member =>
      rw [same, Forest.captures_eq_map] at member
      rcases List.mem_map.mp member with ⟨reference, inForest, pair⟩
      cases pair
      refine ⟨reference, inForest, rfl, ?_⟩
      rw [Reference.captures_token]
      exact of_forest source reference.inside
  | inside member _ ih =>
      rw [same, Forest.captures_eq_map] at member
      rcases List.mem_map.mp member with ⟨outer, inForest, pair⟩
      cases pair
      rcases ih (outer.captures_token source) with ⟨reference, inOuter, found⟩
      exact ⟨reference, Forest.mem_postOrder_of_inside inForest inOuter, found⟩

end Captures

/-! ## The references of a match -/

mutual

/-- The references inside the match of a matcher at a cursor. -/
def Matcher.references : Matcher → Cursor → Forest
  | .alternation alternatives, cursor => Sequence.firstReferences alternatives cursor
  | .pattern items, cursor => Sequence.references items cursor.save
  | .literal _, _ | .run _ _ _, _ | .line, _ | .quoted _, _ => []

/-- The references of the first of some sequences that matches at a cursor. -/
def Sequence.firstReferences : List Sequence → Cursor → Forest
  | [], _ => []
  | items :: others, cursor =>
      match cursor.match? items with
      | (some _, _) => Sequence.references items cursor.save
      | (none, next) => Sequence.firstReferences others next

/-- The references of some items that match one after another. An item without a name
adds those inside its match. -/
def Sequence.references : Sequence → Cursor → Forest
  | [], _ => []
  | ⟨matcher, capture⟩ :: others, cursor =>
      match matcher.scan cursor with
      | (none, _) => []
      | (some found, next) =>
          (match capture with
            | some name => [⟨name, found.start, found.stop, matcher.references cursor⟩]
            | none => matcher.references cursor) ++ Sequence.references others next

end

/-- The references of the match of a sequence at a cursor. -/
def Cursor.references (cursor : Cursor) (items : Sequence) : Forest :=
  items.references cursor.save

/-- Without a name there is only literal text, inside which nothing is captured. -/
def Item.WellTagged (item : Item) : Prop :=
  item.capture = none → ∃ text, item.matcher = .literal text

namespace Cursor

variable {cursor next : Cursor} {found : Match}

theorem captures_readLiteral {text : List Char}
    (matched : cursor.readLiteral text = (some found, next)) : found.captures = [] := by
  rw [readLiteral] at matched
  split at matched
  · cases matched
    rfl
  · simp only at matched
    split at matched <;> cases matched
    rfl

theorem captures_readRun {test : CharTest} {min : Nat} {max : Option Nat}
    (matched : cursor.readRun test min max = (some found, next)) : found.captures = [] := by
  simp only [readRun] at matched
  split at matched <;> cases matched
  rfl

theorem captures_readLine (matched : cursor.readLine = (some found, next)) :
    found.captures = [] := by
  simp only [readLine] at matched
  split at matched <;> cases matched
  rfl

theorem captures_readQuoted {quote : Char}
    (matched : cursor.readQuoted quote = (some found, next)) : found.captures = [] := by
  simp only [readQuoted] at matched
  split at matched
  · split at matched <;> cases matched
    rfl
  · cases matched

/-- A match of a sequence has the captures of its items. -/
theorem scanItems_of_match? {items : Sequence} (matched : cursor.match? items = (some found, next)) :
    ∃ last, Sequence.scanItems items cursor.save = (some found.captures, last) := by
  cases items with
  | nil =>
      simp only [match?_nil, Prod.mk.injEq, Option.some.injEq] at matched
      exact ⟨cursor.save, by rw [← matched.1]; rfl⟩
  | cons item items =>
      cases scanned : Sequence.scanItems (item :: items) cursor.save with
      | mk read last =>
          cases read with
          | none => simp [match?, conclude, scanned] at matched
          | some captures =>
              simp only [match?, conclude, scanned, List.isEmpty_cons, Bool.false_eq_true, if_false,
                Prod.mk.injEq, Option.some.injEq] at matched
              exact ⟨last, by rw [← matched.1]⟩

end Cursor

mutual

/-- The captures inside a match are those of its references. -/
theorem Matcher.captures_scan (matcher : Matcher) {cursor next : Cursor} {found : Match}
    (tagged : matcher.Everywhere Item.WellTagged)
    (scanned : matcher.scan cursor = (some found, next)) :
    found.captures = (matcher.references cursor).captures cursor.text := by
  cases matcher with
  | literal text => simpa [Matcher.references] using Cursor.captures_readLiteral scanned
  | run test min max => simpa [Matcher.references] using Cursor.captures_readRun scanned
  | line => simpa [Matcher.references] using Cursor.captures_readLine scanned
  | quoted quote => simpa [Matcher.references] using Cursor.captures_readQuoted scanned
  | alternation alternatives => exact Sequence.captures_scanFirst alternatives tagged scanned
  | pattern items =>
      rcases Cursor.scanItems_of_match? scanned with ⟨last, items⟩
      exact Sequence.captures_scanItems _ tagged items

theorem Sequence.captures_scanFirst (alternatives : List Sequence) {cursor next : Cursor}
    {found : Match} (tagged : Sequence.EachEverywhere Item.WellTagged alternatives)
    (scanned : Sequence.scanFirst alternatives cursor = (some found, next)) :
    found.captures = (Sequence.firstReferences alternatives cursor).captures cursor.text := by
  cases alternatives with
  | nil => simp at scanned
  | cons items others =>
      rw [Sequence.scanFirst_cons] at scanned
      rw [Sequence.firstReferences]
      cases tried : cursor.match? items with
      | mk first next =>
          rw [tried] at scanned
          cases first with
          | none =>
              -- The next alternative starts where this one ended, in the same text.
              have text : next.text = cursor.text := by
                simpa [tried] using (Cursor.sameFrame_match? cursor items).1
              rw [← text]
              exact Sequence.captures_scanFirst others tagged.2 scanned
          | some first =>
              cases scanned
              rcases Cursor.scanItems_of_match? tried with ⟨last, read⟩
              exact Sequence.captures_scanItems items tagged.1 read

theorem Sequence.captures_scanItems (items : Sequence) {cursor next : Cursor}
    {captures : Captures} (tagged : items.Everywhere Item.WellTagged)
    (scanned : Sequence.scanItems items cursor = (some captures, next)) :
    captures = (items.references cursor).captures cursor.text := by
  cases items with
  | nil =>
      cases scanned
      simp [Sequence.references]
  | cons item others =>
      rcases item with ⟨matcher, capture⟩
      rcases tagged with ⟨here, inside, further⟩
      rw [Sequence.scanItems] at scanned
      rw [Sequence.references]
      cases first : matcher.scan cursor with
      | mk found middle =>
          rw [first] at scanned
          cases found with
          | none => cases scanned
          | some found =>
              have text : middle.text = cursor.text := by
                simpa [first] using (Matcher.sameFrame_scan matcher cursor).1
              cases read : Sequence.scanItems others middle with
              | mk rest last =>
                  simp only [read, Prod.mk.injEq, Option.map_eq_some_iff] at scanned
                  rcases scanned with ⟨⟨rest, rfl, rfl⟩, -⟩
                  have behind := Sequence.captures_scanItems others further read
                  rw [text] at behind
                  rw [Forest.captures_append, ← behind]
                  congr 1
                  cases capture with
                  | none =>
                      rcases here rfl with ⟨literal, rfl⟩
                      simp [Matcher.references]
                  | some name =>
                      have below := Matcher.captures_scan matcher inside first
                      rw [Match.filed_some, Forest.captures_cons, Forest.captures_nil, ← below]
                      simp [Match.toToken, Reference.token, below]

end

namespace Cursor

theorem wellTagged_of_makes {registry : Registry} (item : Item) (makes : registry.Makes item) :
    item.WellTagged := by
  rcases item with ⟨matcher, capture⟩
  intro unnamed
  subst unnamed
  exact makes

/-- The captures of a match of a compiled pattern are those of the references that took
part in it, and the captures of every token at any depth are those of the references
inside its own. -/
theorem captures_of_match? (registrations : List (String × Definition)) {pattern : String}
    {items : Sequence} {cursor next : Cursor} {found : Match}
    (compiled : (Registry.empty.registerAll registrations).compile pattern = .ok items)
    (matched : cursor.match? items = (some found, next)) :
    Captures.Of found.captures cursor.text (cursor.references items) ∧
      ∀ token, Captures.Holds token found.captures →
        ∃ reference ∈ (cursor.references items).postOrder,
          token = reference.token cursor.text ∧
            Captures.Of token.captures cursor.text reference.inside := by
  have made := (Registry.coherent_registerAll registrations).everywhere_of_compile compiled
  have tagged := Sequence.Everywhere.mono wellTagged_of_makes made
  rcases scanItems_of_match? matched with ⟨last, scanned⟩
  have same : found.captures = (cursor.references items).captures cursor.text :=
    Sequence.captures_scanItems items tagged scanned
  constructor
  · rw [same]
    exact Captures.of_forest cursor.text (cursor.references items)
  · intro token holds
    exact Captures.of_holds holds same

/-- The alternative that fails behind its first reference leaves no capture. -/
theorem captures_of_match?_entry :
    ∃ items found next,
      (Registry.empty.registerAll [("pair", .pattern "{word}:{word}"),
        ("entry", .alternation ["{pair};", "{pair}"])]).compile "{entry}" = .ok items ∧
      (start "a:b").match? items = (some found, next) ∧
      Captures.Of found.captures "a:b" ((start "a:b").references items) := by
  have succeeds : (((Registry.empty.registerAll [("pair", .pattern "{word}:{word}"),
      ("entry", .alternation ["{pair};", "{pair}"])]).compile "{entry}").toOption.bind
    fun items => ((start "a:b").match? items).1).isSome = true := by decide +kernel
  rcases Option.isSome_iff_exists.mp succeeds with ⟨found, succeeds⟩
  rcases Option.bind_eq_some_iff.mp succeeds with ⟨items, compiles, read⟩
  have compiled := eq_ok_of_toOption_eq_some compiles
  have matched : (start "a:b").match? items = (some found, ((start "a:b").match? items).2) :=
    Prod.ext read rfl
  exact ⟨items, found, _, compiled, matched, (captures_of_match? _ compiled matched).1⟩

end Cursor

end PatternLexer
