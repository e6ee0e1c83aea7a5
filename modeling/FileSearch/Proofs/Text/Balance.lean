/-
This file looks at texts that close their literals and their parentheses. Such texts can be joined,
put in parentheses, and freed of dangling keywords.
-/

import FileSearch.Proofs.Text.Dangling
import FileSearch.Text.Literal
import FileSearch.Text.Scan
import Mathlib.Data.List.Basic

namespace FileSearch.Text

namespace ScanState

/-- A closing parenthesis outside all literals needs an open one. -/
def advance? (state : ScanState) (character : Char) : Option ScanState :=
  if state = start ∧ character = ')' then none else some (state.step character)

/-- This function reads a whole text, unless a parenthesis is closed that was not opened. -/
def runStrictly? (state : ScanState) (text : List Char) : Option ScanState :=
  text.foldlM advance? state

/-- A text is read in the same way inside further parentheses. -/
def deeper (state : ScanState) (levels : Nat) : ScanState :=
  ⟨state.depth + levels, state.quoting⟩

theorem runStrictly?_cons (state : ScanState) (character : Char) (rest : List Char) :
    state.runStrictly? (character :: rest) =
      (state.advance? character).bind fun next => next.runStrictly? rest :=
  List.foldlM_cons

theorem runStrictly?_cons_eq_some_iff {state last : ScanState} {character : Char}
    {rest : List Char} :
    state.runStrictly? (character :: rest) = some last ↔
      ¬ (state = start ∧ character = ')') ∧
        (state.step character).runStrictly? rest = some last := by
  rw [runStrictly?_cons, advance?]
  split_ifs with surplus
  · exact iff_of_false (Option.some_ne_none last).symm fun opened => opened.1 surplus
  · exact (and_iff_right surplus).symm

theorem runStrictly?_append (state : ScanState) (first second : List Char) :
    state.runStrictly? (first ++ second) =
      (state.runStrictly? first).bind fun next => next.runStrictly? second :=
  List.foldlM_append

theorem step_deeper {state : ScanState} {character : Char}
    (opened : ¬ (state = start ∧ character = ')')) (levels : Nat) :
    (state.deeper levels).step character = (state.step character).deeper levels := by
  obtain ⟨depth, quoting⟩ := state
  cases quoting with
  | escaped => rfl
  | inside =>
    simp only [deeper, step]
    split_ifs <;> rfl
  | outside =>
    simp only [deeper, step]
    split_ifs with quote opening closing
    · rfl
    · rw [Nat.add_right_comm]
    · have positive : depth ≠ 0 := fun zero => opened ⟨by rw [zero, start], closing⟩
      rw [show depth + levels - 1 = depth - 1 + levels by omega]
    · rfl

theorem deeper_eq_start_iff (state : ScanState) (levels : Nat) :
    state.deeper levels = start ↔ state = start ∧ levels = 0 := by
  obtain ⟨depth, quoting⟩ := state
  rw [deeper, start, mk.injEq, mk.injEq, Nat.add_eq_zero_iff, and_right_comm]

theorem runStrictly?_deeper {state last : ScanState} {text : List Char}
    (runs : state.runStrictly? text = some last) (levels : Nat) :
    (state.deeper levels).runStrictly? text = some (last.deeper levels) := by
  induction text generalizing state with
  | nil =>
    cases runs
    rfl
  | cons character rest inductionHypothesis =>
    rw [runStrictly?_cons_eq_some_iff] at runs ⊢
    obtain ⟨opened, runs⟩ := runs
    rw [step_deeper opened, deeper_eq_start_iff]
    exact ⟨fun surplus => opened ⟨surplus.1.1, surplus.2⟩, inductionHypothesis runs⟩

/-- A value without backslashes is read inside its literal up to its end. -/
theorem runStrictly?_escape (depth : Nat) {value : List Char} (noBackslash : '\\' ∉ value) :
    runStrictly? ⟨depth, .inside⟩ (escape value) = some ⟨depth, .inside⟩ := by
  induction value with
  | nil => rfl
  | cons character rest inductionHypothesis =>
    rw [List.mem_cons, not_or] at noBackslash
    have behind := inductionHypothesis noBackslash.2
    by_cases quote : character = '\''
    · have protects : runStrictly? ⟨depth, .inside⟩ ['\\', '\''] = some ⟨depth, .inside⟩ := by
        simp [runStrictly?, advance?, step, start]
      have whole := runStrictly?_append ⟨depth, .inside⟩ ['\\', '\''] (escape rest)
      rw [protects, Option.bind_some, behind] at whole
      rw [quote, escape_cons_quote]
      exact whole
    · have stays : advance? ⟨depth, .inside⟩ character = some ⟨depth, .inside⟩ := by
        simp [advance?, step, start, quote, Ne.symm noBackslash.1]
      rw [escape_cons_of_ne quote, runStrictly?_cons, stays, Option.bind_some, behind]

/-- A keyword with a space changes nothing outside all literals, and it closes no literal. -/
theorem eq_start_of_runStrictly?_trailing {state : ScanState} (connective : Connective)
    (runs : state.runStrictly? (' ' :: connective.keyword) = some start) : state = start := by
  obtain ⟨depth, quoting⟩ := state
  cases quoting with
  | outside =>
    have stays : runStrictly? ⟨depth, .outside⟩ (' ' :: connective.keyword) =
        some ⟨depth, .outside⟩ := by
      cases connective <;> simp [runStrictly?, Connective.keyword, advance?, step, start]
    exact Option.some.inj (stays.symm.trans runs)
  | inside =>
    cases connective <;> simp [runStrictly?, Connective.keyword, advance?, step, start] at runs
  | escaped =>
    cases connective <;> simp [runStrictly?, Connective.keyword, advance?, step, start] at runs

end ScanState

open ScanState

/-- The scan of such a text ends outside all literals and parentheses, and no parenthesis is closed
that was not opened. -/
def Balanced (text : List Char) : Prop :=
  start.runStrictly? text = some start

instance (text : List Char) : Decidable (Balanced text) :=
  inferInstanceAs (Decidable (_ = _))

namespace Balanced

variable {first second text rest : List Char}

theorem append (front : Balanced first) (back : Balanced second) : Balanced (first ++ second) := by
  rw [Balanced, runStrictly?_append, front, Option.bind_some, back]

/-- What stands behind a balanced text is balanced when the whole is. -/
theorem of_append (front : Balanced first) (whole : Balanced (first ++ second)) :
    Balanced second := by
  rwa [Balanced, runStrictly?_append, front, Option.bind_some] at whole

theorem bracket (balanced : Balanced text) : Balanced ("(".toList ++ (text ++ ")".toList)) := by
  have inside := runStrictly?_deeper balanced 1
  rw [Balanced, runStrictly?_append]
  show (runStrictly? (start.deeper 1) (text ++ ")".toList)) = some start
  rw [runStrictly?_append, inside]
  rfl

theorem literal {value : List Char} (noBackslash : '\\' ∉ value) :
    Balanced (Text.literal value) := by
  rw [Balanced, Text.literal, runStrictly?_append, runStrictly?_cons]
  show ((runStrictly? ⟨0, .inside⟩ (escape value)).bind _) = some start
  rw [runStrictly?_escape 0 noBackslash]
  rfl

theorem dropLeading? {connective : Connective} (balanced : Balanced text)
    (dropped : Text.dropLeading? connective text = some rest) : Balanced rest := by
  rw [dropLeading?_eq_some_iff, List.append_cons] at dropped
  rw [dropped] at balanced
  refine of_append ?_ balanced
  cases connective <;> decide

theorem dropTrailing? {connective : Connective} (balanced : Balanced text)
    (dropped : Text.dropTrailing? connective text = some rest) : Balanced rest := by
  rw [dropTrailing?_eq_some_iff] at dropped
  rw [dropped, Balanced, runStrictly?_append, Option.bind_eq_some_iff] at balanced
  obtain ⟨last, runs, trailing⟩ := balanced
  rw [Balanced, runs, eq_start_of_runStrictly?_trailing connective trailing]

theorem dropDangling? (balanced : Balanced text)
    (dropped : Text.dropDangling? text = some rest) : Balanced rest := by
  rcases Option.or_eq_some_iff.mp dropped with leading | ⟨_, trailing⟩
  · obtain ⟨connective, _, found⟩ := List.exists_of_findSome?_eq_some leading
    exact balanced.dropLeading? found
  · obtain ⟨connective, _, found⟩ := List.exists_of_findSome?_eq_some trailing
    exact balanced.dropTrailing? found

/-- The removal of dangling keywords cuts no literal and unbalances no parenthesis. -/
theorem stripDangling (balanced : Balanced text) : Balanced (Text.stripDangling text) := by
  induction text using Text.stripDangling.induct with
  | case1 text nothing =>
    rw [stripDangling_eq_self nothing]
    exact balanced
  | case2 text rest dropped inductionHypothesis =>
    rw [stripDangling_of_dropDangling? dropped]
    exact inductionHypothesis (balanced.dropDangling? dropped)

end Balanced

end FileSearch.Text
