import PatternLexer.Place
import PatternLexer.Text.Order

/-!
# Tokens

A token is a span of a source text together with the tokens that were captured
inside it. Its offset, length and lexeme are read off the span. Captures are kept
in the order in which they were made, which is the order of the text; the views by
class name select from that list.

Lookups never fail: what is not there is the empty token, so lookups can be
chained.
-/

namespace PatternLexer

/-- A span of a source text with the captures inside it. -/
structure Token where
  start : Place
  stop : Place
  source : String
  /-- Class names with captured tokens, in the order of the text. -/
  captures : List (String × Token)

/-- Captured tokens under their class names, in the order of the text. -/
abbrev Captures := List (String × Token)

namespace Captures

/-- The captures under one class name, in the order of the text. -/
def ofClass (name : String) (captures : Captures) : List Token :=
  captures.filterMap fun (tag, token) => if tag = name then some token else none

/-- The class names with their captures, in the order of the names. -/
def byClass (captures : Captures) : List (String × List Token) :=
  (Text.sorted (captures.map (·.1))).map fun name => (name, captures.ofClass name)

@[simp] theorem ofClass_nil (name : String) : ofClass name [] = [] := rfl

@[simp] theorem ofClass_cons (name tag : String) (token : Token) (captures : Captures) :
    ofClass name ((tag, token) :: captures) =
      if tag = name then token :: ofClass name captures else ofClass name captures := by
  by_cases same : tag = name <;> simp [ofClass, same]

@[simp] theorem ofClass_append (name : String) (first second : Captures) :
    ofClass name (first ++ second) = first.ofClass name ++ second.ofClass name := by
  simp [ofClass]

@[simp] theorem mem_ofClass {name : String} {token : Token} {captures : Captures} :
    token ∈ captures.ofClass name ↔ (name, token) ∈ captures := by
  simp only [ofClass, List.mem_filterMap]
  constructor
  · intro selection
    rcases selection with ⟨⟨tag, found⟩, member, selected⟩
    split at selected
    · rename_i same
      cases selected
      exact same ▸ member
    · simp at selected
  · exact fun member => ⟨(name, token), member, by simp⟩

/-- There is an entry just for the classes with captures, which are all in it. -/
theorem mem_byClass {name : String} {tokens : List Token} {captures : Captures} :
    (name, tokens) ∈ captures.byClass ↔ tokens ≠ [] ∧ tokens = captures.ofClass name := by
  simp only [byClass, List.mem_map, Text.mem_sorted, Prod.mk.injEq]
  constructor
  · intro entry
    rcases entry with ⟨_, ⟨⟨_, token⟩, member, rfl⟩, rfl, rfl⟩
    exact ⟨List.ne_nil_of_mem (mem_ofClass.mpr member), rfl⟩
  · intro both
    rcases both with ⟨nonempty, rfl⟩
    rcases List.exists_mem_of_ne_nil _ nonempty with ⟨token, member⟩
    exact ⟨name, ⟨(name, token), mem_ofClass.mp member, rfl⟩, rfl, rfl⟩

end Captures

namespace Token

/-- The token of a lookup that finds nothing. -/
def empty : Token := ⟨.start [], .start [], "", []⟩

/-- Byte offset of the lexeme in the source. -/
def pos (token : Token) : Nat := token.start.offset

/-- Number of bytes of the lexeme. -/
def length (token : Token) : Nat := token.stop.offset - token.start.offset

/-- The text of the span. -/
def lexeme (token : Token) : String := String.ofList (token.start.between token.stop)

/-- All captures of a class, in the order of the text. -/
def getAll (token : Token) (name : String) : List Token := Captures.ofClass name token.captures

/-- The capture of a class at an index, or the empty token. -/
def getAt (token : Token) (name : String) (index : Nat) : Token :=
  (token.getAll name)[index]?.getD empty

/-- The first capture of a class, or the empty token. -/
def get (token : Token) (name : String) : Token := token.getAt name 0

/-- Whether a token has neither text nor captures. -/
def isEmpty (token : Token) : Bool := token.length = 0 && token.captures.isEmpty

@[simp] theorem isEmpty_empty : empty.isEmpty = true := rfl

@[simp] theorem lexeme_empty : empty.lexeme = "" := rfl

end Token

end PatternLexer
