import PatternLexer.Proofs.Env.Joining
import PatternLexer.Proofs.Env.RoundTrip

/-!
# Comments behind assignments

A comment may stand behind the assignments of a line, with a blank before it. It is ignored,
unless the last assignment of the line has no value. Then the sign `#` is read as the value.
-/

namespace PatternLexer.Env

theorem unescape_eq_nil_iff {text : List Char} : unescape text = [] ↔ text = [] := by
  fun_cases unescape text with
  | case1 => simp
  | case2 text => simp
  | case3 c text single => simp

/-- Without double quotes a value is empty only if nothing stands there. -/
theorem unquote_eq_empty_iff {value : List Char} (unquoted : '"' ∉ value) :
    unquote (String.ofList value) = "" ↔ value = [] := by
  have kept : value.filter (· != '"') = value :=
    List.filter_eq_self.mpr (bne_quote_of_mem unquoted)
  rw [unquote, String.toList_ofList, kept, String.ofList_eq_empty_iff, unescape_eq_nil_iff]

/-- A value that is missing is the last one of its line, and with a sign `#` behind it this
sign is its value. -/
theorem scan_append_hash {text : List Char} {name : String} (unquoted : '"' ∉ text)
    (missing : (name, "") ∈ scan text) :
    ∃ earlier, scan text = earlier ++ [(name, "")] ∧
      scan (text ++ [' ', '#']) = earlier ++ [(name, "#")] := by
  have trailing := trailing_comment []
  fun_induction scan text with
  | case1 => cases missing
  | case2 text => cases missing
  | case3 c text unmarked found reads ih =>
      have within := value_append_rest_isSuffix reads
      have outside : '"' ∉ found.value ++ found.rest := fun present =>
        unquoted (within.subset present)
      rw [List.mem_append, not_or] at outside
      by_cases valued : found.value = []
      · rcases Trailing.assignment?_of_missing [' ', '#'] reads valued with ⟨ends, also⟩
        have sign : Assignment.ofValue found.key ([' ', '#'].dropWhile CharClass.blank) =
            ⟨found.key, ['#'], []⟩ := rfl
        have means : unquote (String.ofList ['#']) = "#" := rfl
        rw [ends, scan_nil, List.mem_singleton] at missing
        rw [List.cons_append, sign] at also
        have named : name = String.ofList found.key := congrArg Prod.fst missing
        refine ⟨[], ?_, ?_⟩
        · rw [ends, scan_nil, missing]
          rfl
        · rw [List.cons_append, scan_of_assignment unmarked also, scan_nil, means, named]
          rfl
      · have also := trailing.assignment?_eq_some reads valued (fun present => absurd present unquoted)
        have other : (name, "") ≠ (String.ofList found.key, unquote (String.ofList found.value)) := by
          intro same
          apply valued
          rw [← unquote_eq_empty_iff outside.1]
          exact (congrArg Prod.snd same).symm
        rcases ih outside.2 ((List.mem_cons.mp missing).resolve_left other) with
          ⟨earlier, scanned, further⟩
        rw [List.cons_append] at also ⊢
        rw [scan_of_assignment unmarked also]
        exact ⟨_ :: earlier, by rw [scanned]; rfl, by rw [further]; rfl⟩
  | case4 c text unmarked reads ih =>
      have also := trailing.assignment?_eq_none reads
      rcases ih (fun present => unquoted (List.mem_cons_of_mem c present)) missing with
        ⟨earlier, scanned, further⟩
      rw [List.cons_append] at also ⊢
      rw [scan_of_no_assignment unmarked also]
      exact ⟨earlier, scanned, further⟩

/-- The variables of a single line. -/
theorem parse_line {line : String} (single : '\n' ∉ line.toList) :
    parse line = .ok (enter ∅ (scan line.toList)) := by
  rw [parse_eq_enter_splitOn, List.splitOn_eq_singleton single, List.flatMap_singleton]

theorem getElem?_enter_concat (known : Variables) (earlier : List (String × String))
    (name value : String) : (enter known (earlier ++ [(name, value)]))[name]? = some value := by
  rw [getElem?_enter, List.reverse_concat, List.lookup_cons_self, Option.some_or]

/-- A comment with a blank before it makes no difference to a line without double quotes, just
where no variable of the line is empty. -/
theorem parse_comment_iff {line : String} (unquoted : '"' ∉ line.toList)
    (single : '\n' ∉ line.toList) :
    ∃ known, parse line = .ok known ∧
      ((∀ remark : String, '\n' ∉ remark.toList → parse (line ++ " #" ++ remark) = .ok known) ↔
        ∀ name : String, known[name]? ≠ some "") := by
  have split (remark : String) :
      (line ++ " #" ++ remark).toList = line.toList ++ ' ' :: '#' :: remark.toList := by simp
  have apart {remark : String} (inside : '\n' ∉ remark.toList) :
      '\n' ∉ (line ++ " #" ++ remark).toList := by simp [split, single, inside]
  refine ⟨_, parse_line single, ?_⟩
  constructor
  · intro ignored name empty
    rcases scan_append_hash unquoted (mem_of_getElem?_enter empty) with ⟨earlier, -, further⟩
    have same := ignored "" (by simp)
    rw [parse_line (apart (by simp)), split] at same
    have valued : enter ∅ (earlier ++ [(name, "#")]) = enter ∅ (scan line.toList) := by
      rw [← further]
      exact Except.ok.inj same
    rw [← valued, getElem?_enter_concat] at empty
    exact absurd (Option.some.inj empty) (by decide)
  · intro valued remark inside
    rw [parse_line (apart inside), split, (trailing_comment remark.toList).scan_append]
    · exact fun present => absurd present unquoted
    · intro assignment present empty
      rcases assignment with ⟨name, value⟩
      obtain rfl : value = "" := empty
      rcases scan_append_hash unquoted present with ⟨earlier, scanned, -⟩
      have known := getElem?_enter_concat ∅ earlier name ""
      rw [← scanned] at known
      exact absurd known (valued name)

/-- Neither the sign inside a value begins a comment nor the one in the comment an assignment. -/
theorem parse_comment_iff_signs :
    ∃ known, parse "a=1# b =x" = .ok known ∧
      known.toList = [("a", "1#"), ("b", "x")] ∧
      parse ("a=1# b =x" ++ " #" ++ "=y\" c=2") = .ok known := by
  have unquoted : '"' ∉ "a=1# b =x".toList := by decide
  have single : '\n' ∉ "a=1# b =x".toList := by decide
  obtain ⟨known, reads, ignored⟩ := parse_comment_iff unquoted single
  have listed : (parse "a=1# b =x").toOption.map (·.toList) = some [("a", "1#"), ("b", "x")] := by
    decide +kernel
  rw [reads] at listed
  have listed : known.toList = [("a", "1#"), ("b", "x")] := Option.some.inj listed
  refine ⟨known, reads, listed, ignored.mpr ?_ "=y\" c=2" (by decide)⟩
  intro name empty
  have member := Std.ExtTreeMap.mem_toList_iff_getElem?_eq_some.mpr empty
  rw [listed] at member
  simp at member

/-- Behind a missing value the sign of a comment is the value. -/
theorem parse_comment_ne_empty :
    '"' ∉ "EMPTY=".toList ∧ '\n' ∉ "EMPTY=".toList ∧ '\n' ∉ " comment".toList ∧
      parse ("EMPTY=" ++ " #" ++ " comment") ≠ parse "EMPTY=" := by
  refine ⟨by decide, by decide, by decide, ?_⟩
  intro same
  have listed : (parse "EMPTY=").toOption.map (·.toList) = some [("EMPTY", "")] := by
    decide +kernel
  have listedAlso : (parse ("EMPTY=" ++ " #" ++ " comment")).toOption.map (·.toList) =
      some [("EMPTY", "#")] := by decide +kernel
  rw [same, listed] at listedAlso
  exact absurd listedAlso (by decide)

end PatternLexer.Env
