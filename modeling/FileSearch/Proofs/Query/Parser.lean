/-
This file reads queries from texts. The reader finds exactly the queries whose symbols are those of
the text, so that no text has two readings.
-/

import FileSearch.Proofs.Query.Basic

namespace FileSearch

open Text (Symbol)

theorem eq_append_of_dropPrefix? {front symbols rest : List Symbol}
    (dropped : symbols.dropPrefix? front = some rest) : symbols = front ++ rest := by
  obtain ⟨found, rfl, same⟩ := List.dropPrefix?_eq_some_iff.mp dropped
  rw [eq_of_beq same]

theorem dropPrefix?_append (front rest : List Symbol) :
    (front ++ rest).dropPrefix? front = some rest :=
  List.dropPrefix?_append_of_beq rest (beq_self_eq_true front)

theorem dropPrefix?_eq_none {front symbols : List Symbol} (different : ¬front <+: symbols) :
    symbols.dropPrefix? front = none := by
  cases dropped : symbols.dropPrefix? front with
  | none => rfl
  | some rest => exact absurd ⟨rest, (eq_append_of_dropPrefix? dropped).symm⟩ different

namespace Atom

/-- These are the atoms with one literal, and those without. -/
def candidates (value : String) : List Atom :=
  Field.all.map (.matching · value) ++
    Flag.all.flatMap (fun flag => [.marked flag true, .marked flag false]) ++
    [.modifiedNotBefore value, .modifiedBefore value]

/-- An atom has the first literal of the text that it begins. -/
def read? (symbols : List Symbol) : Option (Atom × List Symbol) :=
  (candidates (String.ofList ((Symbol.literals symbols).head?.getD []))).findSome? fun atom =>
    (symbols.dropPrefix? atom.symbols).map (atom, ·)

theorem eq_append_of_read? {symbols rest : List Symbol} {atom : Atom}
    (read : read? symbols = some (atom, rest)) : symbols = atom.symbols ++ rest := by
  obtain ⟨_, candidate, _, _, found, _⟩ := List.findSome?_eq_some_iff.mp read
  rw [Option.map_eq_some_iff] at found
  obtain ⟨behind, dropped, equal⟩ := found
  cases equal
  exact eq_append_of_dropPrefix? dropped

theorem mem_candidates {atom : Atom} {value : String}
    (literal : ∀ found ∈ atom.literal?, found = value) : atom ∈ candidates value := by
  cases atom with
  | matching field found =>
    rw [literal found rfl]
    cases field <;> simp [candidates, Field.all]
  | marked flag set => cases flag <;> cases set <;> simp [candidates, Flag.all]
  | modifiedNotBefore bound =>
    rw [literal bound rfl]
    simp [candidates]
  | modifiedBefore bound =>
    rw [literal bound rfl]
    simp [candidates]

theorem read?_symbols (atom : Atom) (rest : List Symbol) :
    read? (atom.symbols ++ rest) = some (atom, rest) := by
  have member : atom ∈ candidates
      (String.ofList ((Symbol.literals (atom.symbols ++ rest)).head?.getD [])) := by
    apply mem_candidates
    intro value literal
    rw [Option.mem_def] at literal
    rw [Symbol.literals_append, literals_symbols, literal]
    simp
  have found : (read? (atom.symbols ++ rest)).isSome := by
    rw [read?, List.findSome?_isSome_iff]
    refine ⟨atom, member, ?_⟩
    rw [dropPrefix?_append]
    rfl
  obtain ⟨⟨other, others⟩, read⟩ := Option.isSome_iff_exists.mp found
  have same := eq_append_of_read? read
  obtain rfl := eq_of_symbols_append same
  rw [read, List.append_cancel_left same]

/-- No atom begins with a parenthesis, and none with a negation. -/
theorem read?_bracket (rest : List Symbol) :
    read? (Symbol.word "(".toList ++ rest) = none ∧
      read? (Symbol.word "not (".toList ++ rest) = none := by
  have absent (symbols : List Symbol) (others : ∀ (atom : Atom) (behind : List Symbol),
      symbols ≠ atom.symbols ++ behind) : read? symbols = none := by
    cases read : read? symbols with
    | none => rfl
    | some found => exact absurd (eq_append_of_read? read) (others _ _)
  constructor
  · apply absent
    intro atom behind same
    cases atom with
    | matching field value => cases field <;> simp [symbols, fieldSymbols, Symbol.word] at same
    | marked flag value => cases flag <;> simp [symbols, flagSymbols, Symbol.word, Flag.key] at same
    | modifiedNotBefore bound => simp [symbols, Symbol.word] at same
    | modifiedBefore bound => simp [symbols, Symbol.word] at same
  · apply absent
    intro atom behind same
    cases atom with
    | matching field value => cases field <;> simp [symbols, fieldSymbols, Symbol.word] at same
    | marked flag value => cases flag <;> simp [symbols, flagSymbols, Symbol.word, Flag.key] at same
    | modifiedNotBefore bound => simp [symbols, Symbol.word] at same
    | modifiedBefore bound => simp [symbols, Symbol.word] at same

theorem length_symbols_pos (atom : Atom) : 0 < atom.symbols.length := by
  cases atom with
  | matching field value => cases field <;> simp [symbols, fieldSymbols]
  | marked flag value => cases flag <;> simp [symbols, flagSymbols, Symbol.word, Flag.key]
  | modifiedNotBefore bound => simp [symbols]
  | modifiedBefore bound => simp [symbols]

end Atom

namespace Query

/-- A closing parenthesis stands behind a query in parentheses. -/
def closed? (read : Option (Query × List Symbol)) : Option (Query × List Symbol) :=
  read.bind fun (inner, rest) =>
    (rest.dropPrefix? (Symbol.word ")".toList)).map (inner, ·)

mutual

/-- This function reads the longest query that a text begins with. The number bounds the depth of
the reading; three steps for each symbol are enough. -/
def readFrom? : Nat → List Symbol → Option (Query × List Symbol)
  | 0, _ => none
  | depth + 1, symbols => do
    let (first, rest) ← conjunctionFrom? depth symbols
    match rest.dropPrefix? (Symbol.word Connective.disjunction.separator) with
    | none => return (.single first, rest)
    | some behind =>
      let (others, rest) ← readFrom? depth behind
      return (.either first others, rest)

def conjunctionFrom? : Nat → List Symbol → Option (Conjunction × List Symbol)
  | 0, _ => none
  | depth + 1, symbols => do
    let (first, rest) ← factorFrom? depth symbols
    match rest.dropPrefix? (Symbol.word Connective.conjunction.separator) with
    | none => return (.single first, rest)
    | some behind =>
      let (others, rest) ← conjunctionFrom? depth behind
      return (.both first others, rest)

def factorFrom? : Nat → List Symbol → Option (Factor × List Symbol)
  | 0, _ => none
  | depth + 1, symbols =>
    match Atom.read? symbols with
    | some (atom, rest) => some (.atom atom, rest)
    | none =>
      match symbols.dropPrefix? (Symbol.word "(".toList) with
      | some behind => do
        let (inner, rest) ← closed? (readFrom? depth behind)
        return (.grouped inner, rest)
      | none => do
        let behind ← symbols.dropPrefix? (Symbol.word "not (".toList)
        let (inner, rest) ← closed? (readFrom? depth behind)
        return (.negated inner, rest)

end

/-- A text is read as a query when nothing is left behind it. -/
def parse? (text : List Char) : Option Query := do
  let symbols ← Text.symbols? text
  match readFrom? (3 * symbols.length) symbols with
  | some (query, []) => return query
  | _ => none

theorem eq_some_of_closed? {read : Option (Query × List Symbol)} {inner : Query}
    {rest : List Symbol} (closed : closed? read = some (inner, rest)) :
    read = some (inner, Symbol.word ")".toList ++ rest) := by
  rw [closed?, Option.bind_eq_some_iff] at closed
  obtain ⟨⟨found, behind⟩, rfl, closed⟩ := closed
  rw [Option.map_eq_some_iff] at closed
  obtain ⟨left, dropped, equal⟩ := closed
  cases equal
  rw [eq_append_of_dropPrefix? dropped]

mutual

/-- What is read and what is left make up the text. -/
theorem eq_append_of_readFrom? {symbols rest : List Symbol} {query : Query} :
    (depth : Nat) → readFrom? depth symbols = some (query, rest) → symbols = query.symbols ++ rest
  | 0, read => by cases read
  | depth + 1, read => by
    rw [readFrom?, Option.bind_eq_bind, Option.bind_eq_some_iff] at read
    obtain ⟨⟨first, behind⟩, readFirst, read⟩ := read
    rw [eq_append_of_conjunctionFrom? depth readFirst]
    cases dropped : behind.dropPrefix? (Symbol.word Connective.disjunction.separator) with
    | none =>
      simp only [dropped] at read
      cases read
      rfl
    | some later =>
      simp only [dropped, Option.bind_eq_bind, Option.bind_eq_some_iff] at read
      obtain ⟨⟨others, left⟩, readOthers, read⟩ := read
      cases read
      rw [eq_append_of_dropPrefix? dropped, eq_append_of_readFrom? depth readOthers,
        Query.symbols, List.append_assoc, List.append_assoc]

theorem eq_append_of_conjunctionFrom? {symbols rest : List Symbol} {conjunction : Conjunction} :
    (depth : Nat) → conjunctionFrom? depth symbols = some (conjunction, rest) →
      symbols = conjunction.symbols ++ rest
  | 0, read => by cases read
  | depth + 1, read => by
    rw [conjunctionFrom?, Option.bind_eq_bind, Option.bind_eq_some_iff] at read
    obtain ⟨⟨first, behind⟩, readFirst, read⟩ := read
    rw [eq_append_of_factorFrom? depth readFirst]
    cases dropped : behind.dropPrefix? (Symbol.word Connective.conjunction.separator) with
    | none =>
      simp only [dropped] at read
      cases read
      rfl
    | some later =>
      simp only [dropped, Option.bind_eq_bind, Option.bind_eq_some_iff] at read
      obtain ⟨⟨others, left⟩, readOthers, read⟩ := read
      cases read
      rw [eq_append_of_dropPrefix? dropped, eq_append_of_conjunctionFrom? depth readOthers,
        Conjunction.symbols, List.append_assoc, List.append_assoc]

theorem eq_append_of_factorFrom? {symbols rest : List Symbol} {factor : Factor} :
    (depth : Nat) → factorFrom? depth symbols = some (factor, rest) →
      symbols = factor.symbols ++ rest
  | 0, read => by cases read
  | depth + 1, read => by
    rw [factorFrom?] at read
    split at read
    · next atom behind found =>
      cases read
      exact Atom.eq_append_of_read? found
    · split at read
      · next behind dropped =>
        rw [Option.bind_eq_bind, Option.bind_eq_some_iff] at read
        obtain ⟨⟨inner, left⟩, closed, read⟩ := read
        cases read
        rw [eq_append_of_dropPrefix? dropped,
          eq_append_of_readFrom? depth (eq_some_of_closed? closed), Factor.symbols,
          List.append_assoc, List.append_assoc]
      · rw [Option.bind_eq_bind, Option.bind_eq_some_iff] at read
        obtain ⟨behind, dropped, read⟩ := read
        rw [Option.bind_eq_bind, Option.bind_eq_some_iff] at read
        obtain ⟨⟨inner, left⟩, closed, read⟩ := read
        cases read
        rw [eq_append_of_dropPrefix? dropped,
          eq_append_of_readFrom? depth (eq_some_of_closed? closed), Factor.symbols,
          List.append_assoc, List.append_assoc]

end

theorem closed?_symbols (inner : Query) (rest : List Symbol) :
    closed? (some (inner, Symbol.word ")".toList ++ rest)) = some (inner, rest) := by
  simp only [closed?, Option.bind_some, dropPrefix?_append, Option.map_some]

/-- No keyword stands in front of a closing parenthesis. -/
theorem noKeyword_close (connective : Connective) (rest : List Symbol) :
    ¬Symbol.word connective.separator <+: Symbol.word ")".toList ++ rest := by
  simp [Symbol.word, Connective.separator]

end Query

theorem Factor.length_symbols_pos (factor : Factor) : 0 < factor.symbols.length := by
  cases factor with
  | atom atom => exact atom.length_symbols_pos
  | grouped inner => simp [symbols, Symbol.word]
  | negated inner => simp [symbols, Symbol.word]

theorem Conjunction.length_symbols_pos (conjunction : Conjunction) :
    0 < conjunction.symbols.length := by
  cases conjunction with
  | single factor => exact factor.length_symbols_pos
  | both first others =>
    have positive := first.length_symbols_pos
    rw [symbols, List.length_append]
    omega

namespace Query

mutual

/-- A query is read back in front of any text that does not go on with a keyword. -/
theorem readFrom?_symbols : (query : Query) → (rest : List Symbol) → (depth : Nat) →
    3 * query.symbols.length ≤ depth →
    ¬Symbol.word Connective.conjunction.separator <+: rest →
    ¬Symbol.word Connective.disjunction.separator <+: rest →
    readFrom? depth (query.symbols ++ rest) = some (query, rest)
  | .single conjunction, rest, depth, enough, noConjunction, noDisjunction => by
    rw [Query.symbols] at enough
    have positive := conjunction.length_symbols_pos
    obtain ⟨depth, rfl⟩ : ∃ before, depth = before + 1 := ⟨depth - 1, by omega⟩
    have readFirst := conjunctionFrom?_symbols conjunction rest depth (by omega) noConjunction
    simp only [readFrom?, Query.symbols, readFirst, dropPrefix?_eq_none noDisjunction,
      Option.bind_eq_bind, Option.bind_some]
    rfl
  | .either first others, rest, depth, enough, noConjunction, noDisjunction => by
    simp only [Query.symbols, List.length_append, Symbol.length_word] at enough
    have positive := first.length_symbols_pos
    obtain ⟨depth, rfl⟩ : ∃ before, depth = before + 1 := ⟨depth - 1, by omega⟩
    have readFirst := conjunctionFrom?_symbols first
      (Symbol.word Connective.disjunction.separator ++ (others.symbols ++ rest)) depth (by omega)
      (by simp [Symbol.word, Connective.separator, Connective.keyword])
    have readOthers := readFrom?_symbols others rest depth (by omega) noConjunction noDisjunction
    simp only [readFrom?, Query.symbols, List.append_assoc, readFirst, dropPrefix?_append,
      readOthers, Option.bind_eq_bind, Option.bind_some]
    rfl

theorem conjunctionFrom?_symbols : (conjunction : Conjunction) → (rest : List Symbol) →
    (depth : Nat) → 3 * conjunction.symbols.length ≤ depth + 1 →
    ¬Symbol.word Connective.conjunction.separator <+: rest →
    conjunctionFrom? depth (conjunction.symbols ++ rest) = some (conjunction, rest)
  | .single factor, rest, depth, enough, noConjunction => by
    rw [Conjunction.symbols] at enough
    have positive := factor.length_symbols_pos
    obtain ⟨depth, rfl⟩ : ∃ before, depth = before + 1 := ⟨depth - 1, by omega⟩
    have readFirst := factorFrom?_symbols factor rest depth (by omega)
    simp only [conjunctionFrom?, Conjunction.symbols, readFirst, dropPrefix?_eq_none noConjunction,
      Option.bind_eq_bind, Option.bind_some]
    rfl
  | .both first others, rest, depth, enough, noConjunction => by
    simp only [Conjunction.symbols, List.length_append, Symbol.length_word] at enough
    have positive := first.length_symbols_pos
    obtain ⟨depth, rfl⟩ : ∃ before, depth = before + 1 := ⟨depth - 1, by omega⟩
    have readFirst := factorFrom?_symbols first
      (Symbol.word Connective.conjunction.separator ++ (others.symbols ++ rest)) depth (by omega)
    have readOthers := conjunctionFrom?_symbols others rest depth (by omega) noConjunction
    simp only [conjunctionFrom?, Conjunction.symbols, List.append_assoc, readFirst,
      dropPrefix?_append, readOthers, Option.bind_eq_bind, Option.bind_some]
    rfl

theorem factorFrom?_symbols : (factor : Factor) → (rest : List Symbol) → (depth : Nat) →
    3 * factor.symbols.length ≤ depth + 2 →
    factorFrom? depth (factor.symbols ++ rest) = some (factor, rest)
  | .atom atom, rest, depth, enough => by
    have positive := atom.length_symbols_pos
    rw [Factor.symbols] at enough
    obtain ⟨depth, rfl⟩ : ∃ before, depth = before + 1 := ⟨depth - 1, by omega⟩
    rw [factorFrom?, Factor.symbols, Atom.read?_symbols]
  | .grouped inner, rest, depth, enough => by
    simp [Factor.symbols, Symbol.length_word] at enough
    obtain ⟨depth, rfl⟩ : ∃ before, depth = before + 1 := ⟨depth - 1, by omega⟩
    have read := readFrom?_symbols inner (Symbol.word ")".toList ++ rest) depth (by omega)
      (noKeyword_close _ _) (noKeyword_close _ _)
    simp only [factorFrom?, Factor.symbols, List.append_assoc, (Atom.read?_bracket _).1,
      dropPrefix?_append, read, closed?_symbols]
    rfl
  | .negated inner, rest, depth, enough => by
    simp [Factor.symbols, Symbol.length_word] at enough
    obtain ⟨depth, rfl⟩ : ∃ before, depth = before + 1 := ⟨depth - 1, by omega⟩
    have read := readFrom?_symbols inner (Symbol.word ")".toList ++ rest) depth (by omega)
      (noKeyword_close _ _) (noKeyword_close _ _)
    have noGroup : ¬Symbol.word "(".toList <+:
        Symbol.word "not (".toList ++ (inner.symbols ++ (Symbol.word ")".toList ++ rest)) := by
      simp [Symbol.word]
    simp only [factorFrom?, Factor.symbols, List.append_assoc, (Atom.read?_bracket _).2,
      dropPrefix?_eq_none noGroup, dropPrefix?_append, read, closed?_symbols, Option.bind_eq_bind,
      Option.bind_some]
    rfl

end

/-- A text is read as a query exactly when it has the symbols of the query. -/
theorem parse?_eq_some_iff {text : List Char} {query : Query} :
    parse? text = some query ↔ Text.symbols? text = some query.symbols := by
  constructor
  · intro read
    rw [parse?, Option.bind_eq_bind, Option.bind_eq_some_iff] at read
    obtain ⟨symbols, found, read⟩ := read
    split at read
    · next readAll =>
      cases read
      rw [found, eq_append_of_readFrom? _ readAll, List.append_nil]
    · cases read
  · intro found
    have read := readFrom?_symbols query [] (3 * query.symbols.length) (Nat.le_refl _)
      (by simp [Symbol.word, Connective.separator]) (by simp [Symbol.word, Connective.separator])
    rw [List.append_nil] at read
    simp only [parse?, found, read, Option.bind_eq_bind, Option.bind_some]
    rfl

end Query

end FileSearch
