/-
This file tells what a reader takes from the front of a text. The statements leave the position in
the text open and name what stands behind the part that is taken.
-/

import FileSearch.Proofs.Json.Spelling

namespace FileSearch.Json.Reader

variable {Result First Second : Type} {condition : Prop}

/-- The reader takes the front of the input for a result and leaves the rest. It can also find a
fault, but only where the condition does not hold. -/
def Takes (condition : Prop) (reader : Reader Result) (input : List Char) (result : Result)
    (rest : List Char) : Prop :=
  ∀ position,
    (∃ behind, reader.run ⟨input, position⟩ = .ok (result, ⟨rest, behind⟩)) ∨
      (¬ condition ∧ ∃ fault, reader.run ⟨input, position⟩ = .error fault)

namespace Takes

/-- A reader that does not fail under one condition does not fail under a stronger one. -/
theorem mono {strong weak : Prop} {reader : Reader Result} {input rest : List Char}
    {result : Result} (taken : Takes weak reader input result rest) (implies : strong → weak) :
    Takes strong reader input result rest := by
  intro position
  exact (taken position).imp_right fun refused => ⟨mt implies refused.1, refused.2⟩

theorem pure (result : Result) (input : List Char) :
    Takes condition (pure result) input result input :=
  fun position => .inl ⟨position, rfl⟩

/-- Where the first reader stops, the next one goes on. -/
theorem bind {first : Reader First} {next : First → Reader Second}
    {input between rest : List Char} {middle : First} {result : Second}
    (takesFirst : Takes condition first input middle between)
    (takesNext : Takes condition (next middle) between result rest) :
    Takes condition (first >>= next) input result rest := by
  intro position
  obtain ⟨passed, ran⟩ | ⟨violated, fault, ran⟩ := takesFirst position
  · obtain ⟨behind, ranNext⟩ | ⟨violated, fault, ranNext⟩ := takesNext passed
    · refine .inl ⟨behind, ?_⟩
      rw [StateT.run_bind, ran]
      exact ranNext
    · refine .inr ⟨violated, fault, ?_⟩
      rw [StateT.run_bind, ran]
      exact ranNext
  · refine .inr ⟨violated, fault, ?_⟩
    rw [StateT.run_bind, ran]
    rfl

/-- A reader that looks at the whole cursor must do its part at every position. -/
theorem get_bind {next : Cursor → Reader Result} {input rest : List Char} {result : Result}
    (takesNext : ∀ position, Takes condition (next ⟨input, position⟩) input result rest) :
    Takes condition (get >>= next) input result rest :=
  fun position => takesNext position position

/-- The result of a reader can be changed behind it. -/
theorem map {reader : Reader First} {input rest : List Char} {middle : First}
    (taken : Takes condition reader input middle rest) (change : First → Second) :
    Takes condition (do return change (← reader)) input (change middle) rest :=
  taken.bind (pure _ _)

end Takes

theorem takes_peek (input : List Char) : Takes condition peek input input.head? input :=
  fun position => .inl ⟨position, rfl⟩

theorem takes_skip (taken rest : List Char) :
    Takes condition (skip taken.length) (taken ++ rest) () rest := by
  intro position
  refine .inl ⟨position.afterText taken, ?_⟩
  have advanced : Cursor.advance ⟨taken ++ rest, position⟩ taken.length =
      ⟨rest, position.afterText taken⟩ := by
    rw [Cursor.advance, List.drop_left, List.take_left]
  rw [skip, StateT.run_modify, advanced]
  rfl

theorem takes_skip_one (character : Char) (rest : List Char) :
    Takes condition (skip 1) (character :: rest) () rest :=
  takes_skip [character] rest

/-- The first character of the text, if there is one, lies outside the class. -/
def Stops (inside : Char → Bool) (text : List Char) : Prop :=
  ∀ character ∈ text.head?, inside character = false

theorem takes_takeWhile {inside : Char → Bool} {taken rest : List Char}
    (all : ∀ character ∈ taken, inside character = true) (stops : Stops inside rest) :
    Takes condition (takeWhile inside) (taken ++ rest) taken rest := by
  refine Takes.get_bind fun position => ?_
  have none : rest.takeWhile inside = [] := by
    cases rest with
    | nil => rfl
    | cons character rest => rw [List.takeWhile_cons, stops character rfl]; rfl
  have cut : (taken ++ rest).takeWhile inside = taken := by
    rw [List.takeWhile_append_of_pos all, none, List.append_nil]
  simp only [cut]
  exact (takes_skip taken rest).bind (.pure taken rest)

theorem takes_token {gap rest : List Char} (blank : Gap gap) (stops : Stops isGap rest) :
    Takes condition token (gap ++ rest) rest.head? rest :=
  (takes_takeWhile blank stops).bind (takes_peek rest)

theorem takes_finish {gap : List Char} (blank : Gap gap) : Takes condition finish gap () [] := by
  have taken : Takes condition token (gap ++ []) none [] :=
    takes_token blank fun _ member => nomatch member
  rw [List.append_nil] at taken
  exact taken.bind (.pure () [])

/-- A numeral ends in front of such a text: nothing at its start can belong to one. -/
def Delimited (text : List Char) : Prop :=
  ∀ character ∈ text.head?,
    character.isDigit = false ∧ character ≠ '.' ∧ character ≠ 'e' ∧ character ≠ 'E'

/-- Every text that writes the value, with a gap in front of it, is taken for the result. -/
def Understands (condition : Prop) (reader : Reader Result) (value : Json) (result : Result) :
    Prop :=
  ∀ gap text rest, Gap gap → Spells value text → Delimited rest →
    Takes condition reader (gap ++ (text ++ rest)) result rest

end FileSearch.Json.Reader
