/-
This file shows which literals come back as they were written. A backslash in a value takes its
place in front of a character of the value or in front of the closing quote, and in both cases the
value that is read differs from the one that was written.
-/

import FileSearch.Proofs.Text.Symbol

namespace FileSearch.Text.Symbol

theorem ended?_closing {quoting : Quoting} (opened : quoting ≠ .outside) (value : List Char)
    (character : Char) : ended? quoting .outside value character = some (.literal value) := by
  cases quoting with
  | outside => exact absurd rfl opened
  | inside => rfl
  | escaped => rfl

theorem ended?_open {quoting next : Quoting} (opened : quoting ≠ .outside)
    (staysOpen : next ≠ .outside) (value : List Char) (character : Char) :
    ended? quoting next value character = none := by
  cases quoting <;> cases next <;> first | rfl | contradiction

theorem prefix_collected {quoting next : Quoting} (opened : quoting ≠ .outside)
    (staysOpen : next ≠ .outside) (value : List Char) (character : Char) :
    value <+: collected quoting next value character := by
  cases quoting <;> cases next <;> simp_all [collected]

/-- An open literal keeps what it has collected. -/
theorem literals_of_open {text value : List Char} {symbols : List Symbol} {quoting : Quoting}
    (opened : quoting ≠ .outside) (read : readFrom? quoting value text = some symbols) :
    ∃ first others, literals symbols = first :: others ∧ value <+: first := by
  induction text generalizing quoting value symbols with
  | nil => simp [readFrom?, opened] at read
  | cons character rest inductionHypothesis =>
    rw [readFrom?_cons, Option.map_eq_some_iff] at read
    obtain ⟨later, read, rfl⟩ := read
    by_cases closes : quoting.step character = .outside
    · rw [closes, ended?_closing opened]
      exact ⟨value, literals later, rfl, List.prefix_rfl⟩
    · obtain ⟨first, others, equal, kept⟩ := inductionHypothesis closes read
      rw [ended?_open opened closes]
      exact ⟨first, others, equal, (prefix_collected opened closes value character).trans kept⟩

/-- The character that was collected last is the next one of the value that is read. -/
theorem head_of_read {value expected text : List Char} {taken : Char} {symbols : List Symbol}
    {others : List (List Char)} (read : readFrom? .inside (value ++ [taken]) text = some symbols)
    (same : literals symbols = (value ++ expected) :: others) : expected.head? = some taken := by
  obtain ⟨first, later, equal, kept⟩ := literals_of_open (by decide) read
  rw [same, List.cons.injEq] at equal
  rw [← equal.1, List.prefix_append_right_inj] at kept
  obtain ⟨behind, rfl⟩ := kept
  rfl

/-- A quote and every character but the backslash is read as itself. -/
theorem readFrom?_escape_cons {character : Char} (noBackslash : character ≠ '\\')
    (value written rest : List Char) :
    readFrom? .inside value (escape (character :: written) ++ rest) =
      readFrom? .inside (value ++ [character]) (escape written ++ rest) := by
  have single : escape (character :: written) = escape [character] ++ escape written := by
    rw [← escape_append, List.singleton_append]
  rw [single, List.append_assoc, readFrom?_escape (by simpa using noBackslash.symm)]

/-- A backslash at the end protects the closing quote. -/
theorem readFrom?_escape_backslash_last (value rest : List Char) :
    readFrom? .inside value (escape ['\\'] ++ '\'' :: rest) =
      readFrom? .inside (value ++ ['\'']) rest :=
  readFrom?_protected '\'' value rest

/-- A backslash in front of a quote takes the one that was to protect the quote, which closes the
literal. -/
theorem readFrom?_escape_backslash_quote (value written rest : List Char) :
    readFrom? .inside value (escape ('\\' :: '\'' :: written) ++ rest) =
      (symbols? (escape written ++ rest)).map (.literal (value ++ ['\\']) :: ·) := by
  rw [escape_cons_of_ne (by decide), escape_cons_quote, List.cons_append, List.cons_append,
    List.cons_append, readFrom?_protected, readFrom?_close]

/-- A backslash protects the next character, unless that is a quote. -/
theorem readFrom?_escape_backslash {next : Char} (noQuote : next ≠ '\'')
    (value written rest : List Char) :
    readFrom? .inside value (escape ('\\' :: next :: written) ++ rest) =
      readFrom? .inside (value ++ [next]) (escape written ++ rest) := by
  rw [escape_cons_of_ne (by decide), escape_cons_of_ne noQuote, List.cons_append,
    List.cons_append, readFrom?_protected]

section

variable {value rest : List Char} {symbols : List Symbol} {others : List (List Char)} {lost : Nat}

theorem not_read_of_backslash_last
    (read : readFrom? .inside value (escape ['\\'] ++ '\'' :: rest) = some symbols) :
    literals symbols ≠ (value ++ (List.replicate lost '\\' ++ ['\\'])) :: others := by
  intro same
  rw [readFrom?_escape_backslash_last] at read
  have head := head_of_read read same
  cases lost with
  | zero => exact absurd head (by decide)
  | succ lost =>
    rw [List.replicate_succ, List.cons_append, List.head?_cons] at head
    exact absurd head (by decide)

theorem not_read_of_backslash_quote {remaining : List Char}
    (read : readFrom? .inside value (escape ('\\' :: '\'' :: remaining) ++ '\'' :: rest) =
      some symbols) :
    literals symbols ≠
      (value ++ (List.replicate lost '\\' ++ '\\' :: '\'' :: remaining)) :: others := by
  intro same
  rw [readFrom?_escape_backslash_quote, Option.map_eq_some_iff] at read
  obtain ⟨later, _, rfl⟩ := read
  have length := congrArg (fun values => values.head?.map List.length) same
  simp [literals, literal?] at length
  omega

/-- A backslash in front of any other character is lost, and the next character must be one to make
up for it. -/
theorem read_of_backslash {next : Char} {remaining : List Char} (noQuote : next ≠ '\'')
    (read : readFrom? .inside value (escape ('\\' :: next :: remaining) ++ '\'' :: rest) =
      some symbols)
    (same : literals symbols =
      (value ++ (List.replicate lost '\\' ++ '\\' :: next :: remaining)) :: others) :
    readFrom? .inside (value ++ ['\\']) (escape remaining ++ '\'' :: rest) = some symbols ∧
      literals symbols =
        (value ++ ['\\'] ++ (List.replicate (lost + 1) '\\' ++ remaining)) :: others := by
  rw [readFrom?_escape_backslash noQuote] at read
  have head := head_of_read read same
  have second : next = '\\' := by
    cases lost with
    | zero => exact (Option.some.inj head).symm
    | succ lost => exact (Option.some.inj head).symm
  subst second
  refine ⟨read, ?_⟩
  rw [same, List.append_cons (List.replicate lost '\\'), ← List.replicate_succ',
    List.append_cons (List.replicate (lost + 1) '\\'), ← List.replicate_succ',
    List.replicate_succ, List.cons_append, List.append_cons]

end

/-- A value with a backslash is never read as it was written. The induction carries the backslashes
that the reading has lost so far: once there is one, the value that is read stays behind. -/
theorem noBackslash_of_read (written : List Char) (lost : Nat) {value rest : List Char}
    {symbols : List Symbol} {others : List (List Char)}
    (read : readFrom? .inside value (escape written ++ '\'' :: rest) = some symbols)
    (same : literals symbols = (value ++ (List.replicate lost '\\' ++ written)) :: others) :
    lost = 0 ∧ '\\' ∉ written := by
  match written with
  | [] =>
    rw [escape, List.nil_append, readFrom?_close, Option.map_eq_some_iff] at read
    obtain ⟨later, _, rfl⟩ := read
    have equal : lost = 0 ∧ literals later = others := by simpa [literals, literal?] using same
    exact ⟨equal.1, List.not_mem_nil⟩
  | character :: remaining =>
    by_cases backslash : character = '\\'
    · subst backslash
      cases remaining with
      | nil => exact absurd same (not_read_of_backslash_last read)
      | cons next remaining =>
        by_cases quote : next = '\''
        · subst quote
          exact absurd same (not_read_of_backslash_quote read)
        · obtain ⟨readNext, sameNext⟩ := read_of_backslash quote read same
          have impossible := (noBackslash_of_read remaining (lost + 1) readNext sameNext).1
          omega
    · rw [readFrom?_escape_cons backslash] at read
      have head := head_of_read read same
      have kept : lost = 0 := by
        cases lost with
        | zero => rfl
        | succ lost => exact absurd (Option.some.inj head).symm backslash
      subst kept
      rw [List.replicate_zero, List.nil_append, List.append_cons] at same
      have behind := noBackslash_of_read remaining 0 read same
      exact ⟨rfl, by simpa [Ne.symm backslash] using behind.2⟩
termination_by written.length

/-- The literals of a text that was written from symbols are those of the symbols exactly when none
of them holds a backslash. -/
theorem literals_symbols?_spell_iff {symbols : List Symbol}
    (noQuote : ∀ character, .plain character ∈ symbols → character ≠ '\'') :
    (symbols? (spell symbols)).map literals = some (literals symbols) ↔
      ∀ value ∈ literals symbols, '\\' ∉ value := by
  constructor
  · intro read
    induction symbols with
    | nil => exact List.forall_mem_nil _
    | cons symbol rest inductionHypothesis =>
      have restNoQuote : ∀ character, .plain character ∈ rest → character ≠ '\'' :=
        fun character member => noQuote character (List.mem_cons_of_mem _ member)
      cases symbol with
      | plain character =>
        have outside : (plain character).Faithful := noQuote character List.mem_cons_self
        rw [spell_cons, symbols?_text_append outside, Option.map_map] at read
        exact inductionHypothesis restNoQuote read
      | literal value =>
        rw [spell_cons] at read
        have noBackslash : (literal value).Faithful := by
          rw [Option.map_eq_some_iff] at read
          obtain ⟨found, read, same⟩ := read
          simp only [Symbol.text, Text.literal, List.cons_append, List.append_assoc,
            List.nil_append] at read
          rw [symbols?, readFrom?_open] at read
          exact (noBackslash_of_read value 0 read same).2
        rw [symbols?_text_append noBackslash, Option.map_map, Option.map_eq_some_iff] at read
        obtain ⟨found, read, same⟩ := read
        have others : literals found = literals rest := (List.cons.inj same).2
        refine List.forall_mem_cons.mpr ⟨noBackslash, inductionHypothesis restNoQuote ?_⟩
        rw [read, Option.map_some, others]
  · intro noBackslash
    rw [symbols?_spell, Option.map_some]
    intro symbol member
    cases symbol with
    | plain character => exact noQuote character member
    | literal value => exact noBackslash value (List.mem_filterMap.mpr ⟨_, member, rfl⟩)

end FileSearch.Text.Symbol
