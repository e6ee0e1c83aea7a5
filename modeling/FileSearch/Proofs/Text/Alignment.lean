/-
This file reads texts whose literals can hold backslashes. Either every literal ends at its own
quote, or a backslash shows up outside all literals, or a literal stays open at the end.
-/

import FileSearch.Proofs.Text.Readback

namespace FileSearch.Text

/-- Such a text closes its literals and has no backslash outside of them. -/
def Closed (text : List Char) : Prop :=
  ∃ symbols, symbols? text = some symbols ∧ .plain '\\' ∉ symbols

theorem closed_word {text : List Char} (noQuote : '\'' ∉ text) (noBackslash : '\\' ∉ text) :
    Closed text := by
  refine ⟨Symbol.word text, symbols?_word noQuote, fun member => ?_⟩
  obtain ⟨character, found, same⟩ := List.mem_map.mp member
  cases same
  exact noBackslash found

/-- Such a text consists of closed texts and of literals, whose values are listed. -/
inductive Written : List Char → List (List Char) → Prop where
  | nil : Written [] []
  | closed {text rest : List Char} {values : List (List Char)} (closed : Closed text)
      (others : Written rest values) : Written (text ++ rest) values
  | literal {value rest : List Char} {values : List (List Char)} (others : Written rest values) :
      Written (Text.literal value ++ rest) (value :: values)

namespace Written

theorem append {first second : List Char} {values others : List (List Char)}
    (front : Written first values) (back : Written second others) :
    Written (first ++ second) (values ++ others) := by
  induction front with
  | nil => exact back
  | closed closed _ inductionHypothesis =>
    rw [List.append_assoc]
    exact .closed closed inductionHypothesis
  | literal _ inductionHypothesis =>
    rw [List.append_assoc]
    exact .literal inductionHypothesis

theorem of_closed {text : List Char} (closed : Closed text) : Written text [] := by
  have written := Written.closed closed .nil
  rwa [List.append_nil] at written

/-- Closed texts around a written text list no further values. -/
theorem bracket {front inner back : List Char} {values : List (List Char)}
    (closedFront : Closed front) (closedBack : Closed back) (written : Written inner values) :
    Written (front ++ (inner ++ back)) values := by
  have whole := Written.closed closedFront (written.append (.of_closed closedBack))
  rwa [List.append_nil] at whole

theorem of_literal (value : List Char) : Written (Text.literal value) [value] := by
  have written : Written (Text.literal value ++ []) [value] := .literal .nil
  rwa [List.append_nil] at written

end Written

namespace Symbol

/-- Such a value is read up to the quote that was written behind it, perhaps as another value. -/
def Enclosed (written : List Char) : Prop :=
  ∃ reading, ∀ value rest,
    readFrom? .inside value (escape written ++ rest) = readFrom? .inside (value ++ reading) rest

theorem enclosed_of_noBackslash {written : List Char} (noBackslash : '\\' ∉ written) :
    Enclosed written :=
  ⟨written, readFrom?_escape noBackslash⟩

theorem Enclosed.cons {character : Char} {written : List Char} (noBackslash : character ≠ '\\')
    (enclosed : Enclosed written) : Enclosed (character :: written) := by
  obtain ⟨reading, read⟩ := enclosed
  refine ⟨character :: reading, fun value rest => ?_⟩
  rw [readFrom?_escape_cons noBackslash, read, List.append_assoc, List.singleton_append]

theorem Enclosed.backslash {next : Char} {written : List Char} (noQuote : next ≠ '\'')
    (enclosed : Enclosed written) : Enclosed ('\\' :: next :: written) := by
  obtain ⟨reading, read⟩ := enclosed
  refine ⟨next :: reading, fun value rest => ?_⟩
  rw [readFrom?_escape_backslash noQuote, read, List.append_assoc, List.singleton_append]

/-- An enclosed value is one literal. -/
theorem Enclosed.exists_literal {written : List Char} (enclosed : Enclosed written) :
    ∃ reading, ∀ rest,
      symbols? (Text.literal written ++ rest) = (symbols? rest).map (.literal reading :: ·) := by
  obtain ⟨reading, read⟩ := enclosed
  refine ⟨reading, fun rest => ?_⟩
  simp only [Text.literal, List.cons_append, List.append_assoc, List.nil_append]
  rw [symbols?, readFrom?_open, read, List.nil_append, readFrom?_close]

/-- Where such a text is read from inside a literal, a backslash shows up outside all literals. -/
def Stray (text : List Char) : Prop :=
  ∀ value found, readFrom? .inside value text = some found → .plain '\\' ∈ found

/-- A value that is read outside all literals opens one at its closing quote. -/
theorem backslash_of_escape_outside {rest : List Char} (stray : Stray rest)
    {written : List Char} {found : List Symbol}
    (read : symbols? (escape written ++ '\'' :: rest) = some found) : .plain '\\' ∈ found := by
  induction written generalizing found with
  | nil =>
    rw [escape, List.nil_append, symbols?, readFrom?_open] at read
    exact stray [] found read
  | cons character others inductionHypothesis =>
    by_cases quote : character = '\''
    · rw [quote, escape_cons_quote, List.cons_append, symbols?, readFrom?_plain (by decide),
        Option.map_eq_some_iff] at read
      obtain ⟨later, _, rfl⟩ := read
      exact List.mem_cons_self
    · rw [escape_cons_of_ne quote, List.cons_append, symbols?, readFrom?_plain quote,
        Option.map_eq_some_iff] at read
      obtain ⟨later, read, rfl⟩ := read
      exact List.mem_cons_of_mem _ (inductionHypothesis read)

theorem stray_literal_append {rest : List Char} (stray : Stray rest) (written : List Char) :
    Stray (Text.literal written ++ rest) := by
  intro value found read
  simp only [Text.literal, List.cons_append, List.append_assoc, List.nil_append] at read
  rw [readFrom?_close, Option.map_eq_some_iff] at read
  obtain ⟨later, read, rfl⟩ := read
  exact List.mem_cons_of_mem _ (backslash_of_escape_outside stray read)

/-- Of two readings of one text, one can be inside a literal where the other one is outside. They
change places at each quote, so that each backslash stands outside for one of them. -/
theorem backslash_of_opposite {rest : List Char} (stray : Stray rest) (text : List Char) :
    (∀ symbols, symbols? text = some symbols → .plain '\\' ∉ symbols → Stray (text ++ rest)) ∧
      ∀ collected symbols, readFrom? .inside collected text = some symbols →
        .plain '\\' ∉ symbols → ∀ found, symbols? (text ++ rest) = some found →
          .plain '\\' ∈ found := by
  induction text with
  | nil =>
    refine ⟨fun _ _ _ => stray, fun collected symbols read => ?_⟩
    cases read
  | cons character others inductionHypothesis =>
    obtain ⟨outside, inside⟩ := inductionHypothesis
    constructor
    · intro symbols read clean value found opposite
      rw [List.cons_append] at opposite
      by_cases quote : character = '\''
      · subst quote
        rw [symbols?, readFrom?_open] at read
        rw [readFrom?_close, Option.map_eq_some_iff] at opposite
        obtain ⟨later, opposite, rfl⟩ := opposite
        exact List.mem_cons_of_mem _ (inside [] symbols read clean later opposite)
      · rw [symbols?, readFrom?_plain quote, Option.map_eq_some_iff] at read
        obtain ⟨behind, read, rfl⟩ := read
        rw [List.mem_cons, not_or, plain.injEq] at clean
        rw [readFrom?_inside quote (Ne.symm clean.1)] at opposite
        exact outside behind read clean.2 _ found opposite
    · intro collected symbols read clean found opposite
      rw [List.cons_append] at opposite
      by_cases quote : character = '\''
      · subst quote
        rw [readFrom?_close, Option.map_eq_some_iff] at read
        obtain ⟨behind, read, rfl⟩ := read
        rw [symbols?, readFrom?_open] at opposite
        rw [List.mem_cons, not_or] at clean
        exact outside behind read clean.2 [] found opposite
      · rw [symbols?, readFrom?_plain quote, Option.map_eq_some_iff] at opposite
        obtain ⟨later, opposite, rfl⟩ := opposite
        by_cases backslash : character = '\\'
        · subst backslash
          exact List.mem_cons_self
        · rw [readFrom?_inside quote backslash] at read
          exact List.mem_cons_of_mem _ (inside _ symbols read clean later opposite)

end Symbol

open FileSearch.Text.Symbol

theorem Written.stray {text : List Char} {values : List (List Char)}
    (written : Written text values) :
    Stray text := by
  induction written with
  | nil =>
    intro value found read
    cases read
  | closed closed _ inductionHypothesis =>
    obtain ⟨symbols, read, clean⟩ := closed
    exact (backslash_of_opposite inductionHypothesis _).1 symbols read clean
  | literal _ inductionHypothesis => exact stray_literal_append inductionHypothesis _

/-- A value is left early where it holds a backslash and a quote, and too late where it ends with a
backslash. -/
theorem Symbol.enclosed_or_backslash {rest : List Char} (stray : Stray rest) (written : List Char)
    {value : List Char} {found : List Symbol}
    (read : readFrom? .inside value (escape written ++ '\'' :: rest) = some found) :
    Enclosed written ∨ .plain '\\' ∈ found := by
  match written with
  | [] => exact .inl (enclosed_of_noBackslash List.not_mem_nil)
  | character :: remaining =>
    by_cases backslash : character = '\\'
    · subst backslash
      cases remaining with
      | nil =>
        rw [readFrom?_escape_backslash_last] at read
        exact .inr (stray _ found read)
      | cons next remaining =>
        by_cases quote : next = '\''
        · subst quote
          rw [readFrom?_escape_backslash_quote, Option.map_eq_some_iff] at read
          obtain ⟨later, read, rfl⟩ := read
          exact .inr (List.mem_cons_of_mem _ (backslash_of_escape_outside stray read))
        · rw [readFrom?_escape_backslash quote] at read
          exact (enclosed_or_backslash stray remaining read).imp_left (.backslash quote)
    · rw [readFrom?_escape_cons backslash] at read
      exact (enclosed_or_backslash stray remaining read).imp_left (.cons backslash)
termination_by written.length

/-- Where a whole text is read as closed, every value in it was read up to its own quote. -/
theorem Written.enclosed {text : List Char} {values : List (List Char)} {found : List Symbol}
    (written : Written text values) (read : symbols? text = some found)
    (clean : .plain '\\' ∉ found) : ∀ value ∈ values, Enclosed value := by
  induction written generalizing found with
  | nil => exact List.forall_mem_nil _
  | closed closed _ inductionHypothesis =>
    obtain ⟨symbols, readFirst, _⟩ := closed
    rw [symbols?_append readFirst, Option.map_eq_some_iff] at read
    obtain ⟨later, read, rfl⟩ := read
    exact inductionHypothesis read fun member => clean (List.mem_append_right _ member)
  | @literal value rest _ others inductionHypothesis =>
    have opened : readFrom? .inside [] (escape value ++ '\'' :: rest) = some found := by
      simpa only [Text.literal, List.cons_append, List.append_assoc, List.nil_append, symbols?,
        readFrom?_open] using read
    have enclosed := (enclosed_or_backslash others.stray value opened).resolve_right clean
    obtain ⟨reading, reads⟩ := enclosed.exists_literal
    rw [reads, Option.map_eq_some_iff] at read
    obtain ⟨later, read, rfl⟩ := read
    refine List.forall_mem_cons.mpr ⟨enclosed, inductionHypothesis read fun member => ?_⟩
    exact clean (List.mem_cons_of_mem _ member)

end FileSearch.Text
