/-!
# Names in order

Listings show names in the order of their code points, which is the order of
their UTF-8 bytes, and each name once.

Main statements: `mem_sorted` and `pairwise_sorted`, which together determine
the listing of a set of names.
-/

namespace PatternLexer.Text

/-- Put a name at its place in an ordered list that does not hold it yet. -/
def insertSorted (name : String) : List String → List String
  | [] => [name]
  | other :: others =>
      if name < other then name :: other :: others
      else if name = other then other :: others
      else other :: insertSorted name others

/-- The distinct names of a list in increasing order. -/
def sorted (names : List String) : List String :=
  names.foldr insertSorted []

@[simp] theorem sorted_nil : sorted [] = [] := rfl

@[simp] theorem mem_insertSorted {name other : String} {names : List String} :
    other ∈ insertSorted name names ↔ other = name ∨ other ∈ names := by
  induction names with
  | nil => simp [insertSorted]
  | cons first names ih =>
      unfold insertSorted
      split
      · simp
      · split
        · simp_all
        · simp only [List.mem_cons, ih]
          exact or_left_comm

@[simp] theorem mem_sorted {name : String} {names : List String} :
    name ∈ sorted names ↔ name ∈ names := by
  induction names with
  | nil => simp
  | cons first names ih => simpa [sorted] using or_congr_right ih

theorem pairwise_insertSorted {name : String} {names : List String}
    (ordered : names.Pairwise (· < ·)) : (insertSorted name names).Pairwise (· < ·) := by
  induction names with
  | nil => simp [insertSorted]
  | cons first names ih =>
      rcases List.pairwise_cons.mp ordered with ⟨least, ordered⟩
      unfold insertSorted
      split
      · rename_i before
        refine List.pairwise_cons.mpr ⟨?_, List.pairwise_cons.mpr ⟨least, ordered⟩⟩
        intro other member
        rcases List.mem_cons.mp member with rfl | member
        · exact before
        · exact String.lt_trans before (least other member)
      · split
        · exact List.pairwise_cons.mpr ⟨least, ordered⟩
        · rename_i notBefore different
          refine List.pairwise_cons.mpr ⟨?_, ih ordered⟩
          intro other member
          rcases mem_insertSorted.mp member with rfl | member
          · exact String.not_le.mp fun le =>
              different (String.le_antisymm le (String.not_lt.mp notBefore))
          · exact least other member

theorem pairwise_sorted (names : List String) : (sorted names).Pairwise (· < ·) := by
  induction names with
  | nil => simp
  | cons first names ih => exact pairwise_insertSorted ih

end PatternLexer.Text
