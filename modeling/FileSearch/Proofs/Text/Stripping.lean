/-
This file tells what the removal of dangling keywords comes to: all keywords at the start of a text
go first, and then all keywords at the end of what is left.
-/

import FileSearch.Proofs.Text.Dangling

namespace FileSearch.Text

variable {text rest : List Char}

/-- Each keyword has a space behind it, as at the start of a text. -/
def leading (keywords : List Connective) : List Char :=
  keywords.flatMap fun connective => connective.keyword ++ [' ']

/-- Each keyword has a space in front of it, as at the end of a text. -/
def trailing (keywords : List Connective) : List Char :=
  keywords.flatMap fun connective => ' ' :: connective.keyword

/-- This function makes a number of rounds of the removal, each of which removes one keyword. -/
def afterRounds? : Nat → List Char → Option (List Char)
  | 0, text => some text
  | rounds + 1, text => (dropDangling? text).bind (afterRounds? rounds)

/-- All keywords at the start have been removed from a text. -/
structure LeadingRemoved (text rest : List Char) : Prop where
  removed : ∃ keywords, text = leading keywords ++ rest
  complete : ∀ connective : Connective, ¬ connective.keyword ++ [' '] <+: rest

/-- All keywords at the end have been removed from a text. -/
structure TrailingRemoved (text rest : List Char) : Prop where
  removed : ∃ keywords, text = rest ++ trailing keywords
  complete : ∀ connective : Connective, ¬ ' ' :: connective.keyword <:+ rest

/-- A text begins with one keyword at most. -/
theorem eq_of_leading {first second : Connective} {behind : List Char}
    (same : first.keyword ++ ' ' :: rest = second.keyword ++ ' ' :: behind) : rest = behind := by
  cases first <;> cases second <;> simp_all [Connective.keyword]

/-- A text ends with one keyword at most. -/
theorem eq_of_trailing {first second : Connective} {front : List Char}
    (same : rest ++ ' ' :: first.keyword = front ++ ' ' :: second.keyword) : rest = front := by
  have here : ' ' :: first.keyword <:+ rest ++ ' ' :: first.keyword := List.suffix_append _ _
  have there : ' ' :: second.keyword <:+ rest ++ ' ' :: first.keyword :=
    same ▸ List.suffix_append _ _
  -- The longer one of two ends of a text has the space of the shorter one in its keyword.
  have whole {shorter longer : Connective}
      (ends : ' ' :: shorter.keyword <:+ ' ' :: longer.keyword) :
      ' ' :: shorter.keyword = ' ' :: longer.keyword := by
    refine (List.suffix_cons_iff.mp ends).resolve_right fun inside => ?_
    exact space_notMem_keyword longer (inside.subset List.mem_cons_self)
  have keyword : ' ' :: first.keyword = ' ' :: second.keyword :=
    (List.suffix_or_suffix_of_suffix here there).elim whole fun ends => (whole ends).symm
  rw [keyword] at same
  exact List.append_cancel_right same

/-- A search with one outcome at most finds it whatever is tried first. -/
theorem findSome?_connectives_eq_some_iff {search : Connective → Option (List Char)}
    (unique : ∀ {first second found other}, search first = some found →
      search second = some other → found = other) :
    Connective.all.findSome? search = some rest ↔ ∃ connective, search connective = some rest := by
  constructor
  · intro found
    obtain ⟨connective, _, here⟩ := List.exists_of_findSome?_eq_some found
    exact ⟨connective, here⟩
  · rintro ⟨connective, here⟩
    cases found : Connective.all.findSome? search with
    | none =>
      rw [List.findSome?_eq_none_iff] at found
      cases (found connective connective.mem_all).symm.trans here
    | some other =>
      obtain ⟨another, _, there⟩ := List.exists_of_findSome?_eq_some found
      rw [unique there here]

/-- One round removes a keyword at the start, or else one at the end. -/
theorem dropDangling?_eq_some_iff :
    dropDangling? text = some rest ↔
      (∃ connective : Connective, text = connective.keyword ++ ' ' :: rest) ∨
        (∀ connective : Connective, ¬ connective.keyword ++ [' '] <+: text) ∧
          ∃ connective : Connective, text = rest ++ ' ' :: connective.keyword := by
  have nothing : Connective.all.findSome? (dropLeading? · text) = none ↔
      ∀ connective : Connective, ¬ connective.keyword ++ [' '] <+: text := by
    simp only [List.findSome?_eq_none_iff, dropLeading?_eq_none_iff, Connective.mem_all,
      true_imp_iff]
  rw [dropDangling?, Option.or_eq_some_iff, nothing, findSome?_connectives_eq_some_iff,
    findSome?_connectives_eq_some_iff]
  · simp only [dropLeading?_eq_some_iff, dropTrailing?_eq_some_iff]
  · intro first second found other here there
    rw [dropTrailing?_eq_some_iff] at here there
    exact eq_of_trailing (here.symm.trans there)
  · intro first second found other here there
    rw [dropLeading?_eq_some_iff] at here there
    exact eq_of_leading (here.symm.trans there)

theorem leading_cons (connective : Connective) (keywords : List Connective) (rest : List Char) :
    leading (connective :: keywords) ++ rest =
      connective.keyword ++ ' ' :: (leading keywords ++ rest) := by
  simp [leading]

theorem trailing_concat (connective : Connective) (keywords : List Connective)
    (rest : List Char) :
    rest ++ trailing (keywords ++ [connective]) =
      (rest ++ trailing keywords) ++ ' ' :: connective.keyword := by
  simp [trailing]

theorem stripDangling_of_afterRounds? {rounds : Nat}
    (runs : afterRounds? rounds text = some rest) : stripDangling text = stripDangling rest := by
  induction rounds generalizing text with
  | zero => rw [Option.some.inj runs]
  | succ rounds inductionHypothesis =>
    rw [afterRounds?, Option.bind_eq_some_iff] at runs
    obtain ⟨next, dropped, runs⟩ := runs
    rw [stripDangling_of_dropDangling? dropped, inductionHypothesis runs]

theorem afterRounds?_add (rounds others : Nat) (text : List Char) :
    afterRounds? (rounds + others) text =
      (afterRounds? rounds text).bind (afterRounds? others) := by
  induction rounds generalizing text with
  | zero => rw [Nat.zero_add, afterRounds?, Option.bind_some]
  | succ rounds inductionHypothesis =>
    rw [Nat.succ_add, afterRounds?, afterRounds?, Option.bind_assoc]
    exact Option.bind_congr fun next _ => inductionHypothesis next

/-- Each round removes the first of the keywords at the start, whatever stands behind them. -/
theorem afterRounds?_leading (keywords : List Connective) (rest : List Char) :
    afterRounds? keywords.length (leading keywords ++ rest) = some rest := by
  induction keywords with
  | nil => rfl
  | cons connective keywords inductionHypothesis =>
    have dropped : dropDangling? (leading (connective :: keywords) ++ rest) =
        some (leading keywords ++ rest) :=
      dropDangling?_eq_some_iff.mpr (.inl ⟨connective, leading_cons connective keywords rest⟩)
    rw [List.length_cons, afterRounds?, dropped, Option.bind_some, inductionHypothesis]

/-- Where no keyword stands at the start, each round removes the last of those at the end. -/
theorem afterRounds?_trailing (keywords : List Connective)
    (complete : ∀ connective : Connective,
      ¬ connective.keyword ++ [' '] <+: rest ++ trailing keywords) :
    afterRounds? keywords.length (rest ++ trailing keywords) = some rest := by
  induction keywords using List.reverseRecOn with
  | nil => exact congrArg some (List.append_nil rest)
  | append_singleton keywords connective inductionHypothesis =>
    have shorter := trailing_concat connective keywords rest
    have dropped : dropDangling? (rest ++ trailing (keywords ++ [connective])) =
        some (rest ++ trailing keywords) :=
      dropDangling?_eq_some_iff.mpr (.inr ⟨complete, connective, shorter⟩)
    rw [List.length_append, List.length_singleton, afterRounds?, dropped, Option.bind_some]
    -- A text without a keyword at its end begins as it did with this keyword.
    refine inductionHypothesis fun other leads => complete other ?_
    rw [shorter]
    exact leads.trans (List.prefix_append _ _)

/-- The rounds of both phases come to a text from which nothing is removed. -/
theorem afterRounds?_phases {middle : List Char} (opening : LeadingRemoved text middle)
    (closing : TrailingRemoved middle rest) :
    ∃ front back, text = leading front ++ (rest ++ trailing back) ∧
      afterRounds? (front.length + back.length) text = some rest ∧ dropDangling? rest = none := by
  obtain ⟨⟨front, rfl⟩, noLeading⟩ := opening
  obtain ⟨⟨back, rfl⟩, noTrailing⟩ := closing
  refine ⟨front, back, rfl, ?_, ?_⟩
  · rw [afterRounds?_add, afterRounds?_leading, Option.bind_some,
      afterRounds?_trailing back noLeading]
  · rw [dropDangling?_eq_none_iff]
    intro connective
    refine ⟨fun leads => ?_, noTrailing connective⟩
    exact noLeading connective (leads.trans (List.prefix_append rest _))

/-- The removal goes through both phases: a round at the end exposes no keyword at the start. -/
theorem exists_phases (text : List Char) :
    ∃ middle, LeadingRemoved text middle ∧ TrailingRemoved middle (stripDangling text) := by
  induction text using stripDangling.induct with
  | case1 text nothing =>
    have ends := dropDangling?_eq_none_iff.mp nothing
    rw [stripDangling_eq_self nothing]
    exact ⟨text, ⟨⟨[], rfl⟩, fun connective => (ends connective).1⟩,
      ⟨[], (List.append_nil text).symm⟩, fun connective => (ends connective).2⟩
  | case2 text rest dropped inductionHypothesis =>
    obtain ⟨middle, ⟨⟨front, split⟩, noLeading⟩, closing⟩ := inductionHypothesis
    rw [stripDangling_of_dropDangling? dropped]
    rcases dropDangling?_eq_some_iff.mp dropped with
      ⟨connective, rfl⟩ | ⟨nothing, connective, rfl⟩
    · refine ⟨middle, ⟨⟨connective :: front, ?_⟩, noLeading⟩, closing⟩
      rw [leading_cons, ← split]
    · cases front with
      | nil =>
        obtain ⟨⟨back, remains⟩, noTrailing⟩ := closing
        refine ⟨_, ⟨⟨[], rfl⟩, nothing⟩, ⟨back ++ [connective], ?_⟩, noTrailing⟩
        rw [trailing_concat, ← remains, split]
        rfl
      | cons other front =>
        refine absurd ⟨leading front ++ middle ++ ' ' :: connective.keyword, ?_⟩ (nothing other)
        rw [split, leading_cons]
        simp

/-- The phases determine what is left. -/
theorem stripDangling_eq_iff :
    stripDangling text = rest ↔
      ∃ middle, LeadingRemoved text middle ∧ TrailingRemoved middle rest := by
  constructor
  · rintro rfl
    exact exists_phases text
  · rintro ⟨middle, opening, closing⟩
    obtain ⟨front, back, _, runs, nothing⟩ := afterRounds?_phases opening closing
    rw [stripDangling_of_afterRounds? runs, stripDangling_eq_self nothing]

/-- Two keywords of a text that share a character share their space, and the text has no more. -/
theorem eq_of_overlap {first second : Connective} (leads : first.keyword ++ [' '] <+: text)
    (ends : ' ' :: second.keyword <:+ text)
    (overlap : text.length < (first.keyword ++ [' ']).length + (' ' :: second.keyword).length) :
    text = first.keyword ++ ' ' :: second.keyword := by
  obtain ⟨behind, rfl⟩ := leads
  obtain ⟨front, same⟩ := ends
  rw [List.append_assoc] at same overlap ⊢
  rcases List.append_eq_append_iff.mp same with ⟨more, keyword, spaced⟩ | ⟨more, keyword, spaced⟩
  · cases more with
    | nil => exact congrArg (first.keyword ++ ·) spaced.symm
    | cons character more =>
      have space : ' ' ∈ first.keyword := by
        rw [keyword, (List.cons.inj spaced).1]
        exact List.mem_append_right _ List.mem_cons_self
      exact absurd space (space_notMem_keyword first)
  · have lengths := congrArg List.length spaced
    simp only [List.length_append, List.length_cons, List.length_nil] at lengths overlap
    have nothing : more = [] := List.eq_nil_of_length_eq_zero (by omega)
    rw [spaced, nothing, List.nil_append]

/-- Nothing is removed from a keyword alone. -/
theorem stripDangling_keyword (connective : Connective) :
    stripDangling connective.keyword = connective.keyword := by
  apply stripDangling_eq_self
  cases connective <;> decide

/-- The removal comes to an end, and its rounds are two phases: all keywords at the start go first,
and then those at the end. No keyword is left at either end, so that nothing happens the second
time. Where a keyword at the start and one at the end overlap, the one at the start is removed. -/
theorem stripDangling_in_phases (text : List Char) :
    (∃ front back, text = leading front ++ (stripDangling text ++ trailing back) ∧
      afterRounds? (front.length + back.length) text = some (stripDangling text) ∧
      dropDangling? (stripDangling text) = none) ∧
    (∀ rest, stripDangling text = rest ↔
      ∃ middle, LeadingRemoved text middle ∧ TrailingRemoved middle rest) ∧
    (∀ connective : Connective, ¬ connective.keyword ++ [' '] <+: stripDangling text ∧
      ¬ ' ' :: connective.keyword <:+ stripDangling text) ∧
    stripDangling (stripDangling text) = stripDangling text ∧
    ∀ first second : Connective, first.keyword ++ [' '] <+: text → ' ' :: second.keyword <:+ text →
      text.length < (first.keyword ++ [' ']).length + (' ' :: second.keyword).length →
      dropDangling? text = some second.keyword ∧ stripDangling text = second.keyword := by
  obtain ⟨middle, opening, closing⟩ := exists_phases text
  obtain ⟨front, back, split, runs, nothing⟩ := afterRounds?_phases opening closing
  refine ⟨⟨front, back, split, runs, nothing⟩, fun rest => stripDangling_eq_iff,
    dropDangling?_eq_none_iff.mp nothing, stripDangling_eq_self nothing, ?_⟩
  intro first second leads ends overlap
  have whole := eq_of_overlap leads ends overlap
  have dropped : dropDangling? text = some second.keyword :=
    dropDangling?_eq_some_iff.mpr (.inl ⟨first, whole⟩)
  exact ⟨dropped, (stripDangling_of_dropDangling? dropped).trans (stripDangling_keyword second)⟩

end FileSearch.Text
