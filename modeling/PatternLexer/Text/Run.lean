/-!
# Runs

The run of a text is its longest beginning whose characters all pass a test, or
the part of that beginning which a maximum length allows.

Main statements: `run_cons`, a run goes on while characters pass and the maximum
allows more, and `isPrefix_run`, a run is a beginning of its text.
-/

namespace PatternLexer.Text

/-- The run of a text for a test, with a maximum length if there is one. -/
def run (accepts : Char → Bool) (max : Option Nat) (text : List Char) : List Char :=
  match max with
  | none => text.takeWhile accepts
  | some max => (text.take max).takeWhile accepts

/-- Whether a run of `count` characters may go on. -/
def mayGrow (max : Option Nat) (count : Nat) : Bool :=
  match max with
  | none => true
  | some max => count < max

@[simp] theorem run_nil (accepts : Char → Bool) (max : Option Nat) : run accepts max [] = [] := by
  cases max <;> simp [run]

/-- A run goes on while characters pass and the maximum allows more. -/
theorem run_cons (accepts : Char → Bool) (max : Option Nat) (c : Char) (text : List Char) :
    run accepts max (c :: text) =
      if mayGrow max 0 && accepts c then c :: run accepts (max.map (· - 1)) text else [] := by
  cases max with
  | none => cases passes : accepts c <;> simp [run, mayGrow, passes]
  | some max => cases max <;> cases passes : accepts c <;> simp [run, mayGrow, passes]

/-- A run of which `count` characters have been taken goes on while the maximum
allows more. -/
theorem run_cons_from (accepts : Char → Bool) (max : Option Nat) (count : Nat) (c : Char)
    (text : List Char) :
    run accepts (max.map (· - count)) (c :: text) =
      if mayGrow max count && accepts c then c :: run accepts (max.map (· - (count + 1))) text
      else [] := by
  have room : mayGrow (max.map (· - count)) 0 = mayGrow max count := by
    cases max with
    | none => rfl
    | some max => exact decide_eq_decide.mpr Nat.sub_pos_iff_lt
  have fewer : (max.map (· - count)).map (· - 1) = max.map (· - (count + 1)) := by
    cases max <;> simp [Nat.sub_sub]
  rw [run_cons, room, fewer]

theorem isPrefix_run (accepts : Char → Bool) (max : Option Nat) (text : List Char) :
    run accepts max text <+: text := by
  cases max with
  | none => exact List.takeWhile_prefix _
  | some max => exact (List.takeWhile_prefix _).trans (List.take_prefix _ _)

end PatternLexer.Text
