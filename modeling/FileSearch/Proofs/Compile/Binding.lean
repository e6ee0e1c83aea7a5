/-
This file shows to what a restriction of a raw text binds, where the text is known to have words and
parentheses only. It binds to the whole text exactly when the text is put in parentheses or has no
disjunction outside of them.
-/

import FileSearch.Proofs.Compile.Scope
import FileSearch.Proofs.Phrase.Reading

namespace FileSearch

open Text (Symbol)

namespace Phrase

/-- A blank text asks for nothing. Any other one is judged as the phrases that it is read as. -/
def satisfies (truth : List Phrase → Bool) (text : List Char) : Bool :=
  Text.isBlank text || (reading? text).any (holds truth)

variable {text : List Char} {phrases : List Phrase}

theorem satisfies_of_reading? (visible : Text.isBlank text = false)
    (read : reading? text = some phrases) (truth : List Phrase → Bool) :
    satisfies truth text = holds truth phrases := by
  rw [satisfies, visible, read, Bool.false_or, Option.any_some]

/-- A text is tight when no disjunction stands outside its parentheses. -/
def Tight (text : List Char) : Prop :=
  Text.isBlank text = false ∧ ∃ phrases, reading? text = some phrases ∧
    ∀ phrase ∈ phrases, phrase.isKeyword .disjunction = false

theorem tight_atom {condition : Atom} (plain : condition.Plain) : Tight condition.text := by
  refine ⟨Query.visible_of_parse? (Clause.parse?_atom plain), ?_⟩
  have closed : Text.symbols? condition.text = some condition.symbols := by
    rw [← condition.spell_symbols]
    exact Symbol.symbols?_spell (Atom.faithful_symbols plain)
  have each (phrases : List Phrase)
      (tokens : ofTokens? (Token.read condition.symbols) = some phrases)
      (tight : phrases.all (fun phrase => !phrase.isKeyword .disjunction) = true) :
      ∃ found, reading? condition.text = some found ∧
        ∀ phrase ∈ found, phrase.isKeyword .disjunction = false := by
    refine ⟨phrases, ?_, fun phrase member => ?_⟩
    · rw [reading?, closed]
      exact tokens
    · exact Bool.not_eq_true' _ |>.mp (List.all_eq_true.mp tight phrase member)
  cases condition with
  | matching field value =>
    cases field with
    | name => exact each _ rfl rfl
    | mimeType => exact each _ rfl rfl
    | fullText => exact each _ rfl rfl
    | parentId => exact each _ rfl rfl
    | owner => exact each _ rfl rfl
  | marked flag value => cases flag <;> cases value <;> exact each _ rfl rfl
  | modifiedNotBefore bound => exact each _ rfl rfl
  | modifiedBefore bound => exact each _ rfl rfl

theorem visible_joined {first : List Char} (visible : Text.isBlank first = false)
    (rest : List Char) : Text.isBlank (first ++ rest) = false := by
  rw [Text.isBlank_append, visible, Bool.false_and]

/-- A tight text that is joined to another one binds to the last disjunct of that. -/
theorem satisfies_joined {second : List Char} {front : List (List Phrase)} {last : List Phrase}
    (visible : Text.isBlank text = false) (read : reading? text = some phrases)
    (split : disjuncts phrases = front ++ [last]) (tight : Tight second)
    (truth : List Phrase → Bool) :
    satisfies truth (text ++ (Connective.conjunction.separator ++ second)) =
      (front.any (conjunctionHolds truth) ||
        (conjunctionHolds truth last && satisfies truth second)) := by
  obtain ⟨visibleSecond, more, readSecond, tightSecond⟩ := tight
  have joined := reading?_joined .conjunction read readSecond
  rw [satisfies_of_reading? (visible_joined visible _) joined,
    satisfies_of_reading? visibleSecond readSecond, holds_append truth tightSecond split]

theorem Tight.joined {first second : List Char} (tight : Tight first) (tightSecond : Tight second) :
    Tight (first ++ (Connective.conjunction.separator ++ second)) := by
  obtain ⟨visible, phrases, read, noOr⟩ := tight
  obtain ⟨_, more, readSecond, noOrSecond⟩ := tightSecond
  refine ⟨visible_joined visible _, _, reading?_joined .conjunction read readSecond, ?_⟩
  rw [List.forall_mem_append, List.forall_mem_cons]
  exact ⟨noOr, by decide, noOrSecond⟩

theorem Tight.satisfies_joined {first second : List Char} (tight : Tight first)
    (tightSecond : Tight second) (truth : List Phrase → Bool) :
    satisfies truth (first ++ (Connective.conjunction.separator ++ second)) =
      (satisfies truth first && satisfies truth second) := by
  obtain ⟨visible, phrases, read, noOr⟩ := tight
  have single : disjuncts phrases = [] ++ [phrases] := List.splitOnP_eq_singleton noOr
  rw [Phrase.satisfies_joined visible read single tightSecond, satisfies_of_reading? visible read,
    holds_of_tight truth noOr]
  rfl

theorem tight_joinedText {first : Clause} {others : List Clause}
    (tight : ∀ part ∈ first :: others, Tight part.text) :
    Tight (Clause.joinedText .conjunction (first :: others)) ∧
      ∀ truth, satisfies truth (Clause.joinedText .conjunction (first :: others)) =
        (first :: others).all fun part => satisfies truth part.text := by
  induction others generalizing first with
  | nil =>
    refine ⟨tight first List.mem_cons_self, fun truth => ?_⟩
    rw [List.all_cons, List.all_nil, Bool.and_true]
    rfl
  | cons second rest inductionHypothesis =>
    rw [List.forall_mem_cons] at tight
    obtain ⟨tightRest, each⟩ := inductionHypothesis tight.2
    have written : Clause.joinedText .conjunction (first :: second :: rest) =
        first.text ++ (Connective.conjunction.separator ++
          Clause.joinedText .conjunction (second :: rest)) := by
      rw [Clause.joinedText, List.append_assoc]
      exact List.cons_ne_nil second rest
    rw [written]
    refine ⟨tight.1.joined tightRest, fun truth => ?_⟩
    rw [tight.1.satisfies_joined tightRest, each]
    rfl

end Phrase

namespace Scope

open Phrase

/-- A scope admits the files that satisfy the texts of its conditions. -/
def admitsBy (scope : Scope) (expression : Expression) (truth : List Phrase → Bool) : Bool :=
  scope.admitsFolder (fun condition => satisfies truth condition.text) &&
    scope.admitsTrashed expression fun condition => satisfies truth condition.text

variable (scope : Scope) (expression : Expression)

theorem all_restrictions (truth : List Phrase → Bool) :
    ((scope.restrictions expression).all fun part => satisfies truth part.text) =
      scope.admitsBy expression truth := by
  rw [admitsBy, ← holds_restrictions, List.all_map, Bool.eq_iff_iff, List.all_eq_true,
    List.all_eq_true]
  refine forall₂_congr fun part member => ?_
  obtain ⟨condition, rfl, _⟩ := scope.exists_atom_of_mem_restrictions expression part member
  rfl

variable {scope}

variable (plainFolder : ∀ folder ∈ scope.folder, '\\' ∉ folder.toList)

include plainFolder

theorem tight_restrictions : ∀ part ∈ scope.restrictions expression, Tight part.text := by
  intro part member
  obtain ⟨condition, rfl, plain⟩ := scope.exists_atom_of_mem_restrictions expression part member
  exact tight_atom (plain plainFolder)

/-- Restrictions in front of which there is a text bind to its last disjunct. -/
theorem satisfies_appended {text : List Char} {phrases : List Phrase} {front : List (List Phrase)}
    {last : List Phrase} (visible : Text.isBlank text = false)
    (read : reading? text = some phrases) (split : disjuncts phrases = front ++ [last]) :
    (∃ whole, reading? (text ++ (scope.restrictions expression).flatMap fun part =>
        Connective.conjunction.separator ++ part.text) = some whole) ∧
      ∀ truth, satisfies truth (text ++ (scope.restrictions expression).flatMap fun part =>
          Connective.conjunction.separator ++ part.text) =
        (front.any (conjunctionHolds truth) ||
          (conjunctionHolds truth last && scope.admitsBy expression truth)) := by
  have tight := tight_restrictions expression plainFolder
  have admits := scope.all_restrictions expression
  cases found : scope.restrictions expression with
  | nil =>
    rw [found] at admits
    rw [List.flatMap_nil, List.append_nil]
    refine ⟨⟨phrases, read⟩, fun truth => ?_⟩
    rw [← admits, List.all_nil, Bool.and_true, satisfies_of_reading? visible read,
      holds_of_split truth split]
  | cons first others =>
    rw [found] at tight admits
    obtain ⟨tightRest, each⟩ := tight_joinedText tight
    have written : ((first :: others).flatMap fun part =>
        Connective.conjunction.separator ++ part.text) =
          Connective.conjunction.separator ++
            Clause.joinedText .conjunction (first :: others) := by
      rw [Clause.joinedText_cons, List.flatMap_cons, List.append_assoc]
    rw [written]
    constructor
    · obtain ⟨_, more, readRest, _⟩ := tightRest
      exact ⟨_, reading?_joined .conjunction read readRest⟩
    · intro truth
      rw [satisfies_joined visible read split tightRest, each, admits]

/-- Without a text in front of them the restrictions stand alone. -/
theorem satisfies_apply_blank {text : String} (blank : Text.isBlank text.toList = true) :
    (∃ whole, reading? (scope.apply text expression).toList = some whole) ∧
      ∀ truth, satisfies truth (scope.apply text expression).toList =
        scope.admitsBy expression truth := by
  rw [toList_apply_of_blank blank]
  have tight := tight_restrictions expression plainFolder
  have admits := scope.all_restrictions expression
  cases found : scope.restrictions expression with
  | nil =>
    rw [found] at admits
    exact ⟨⟨[], rfl⟩, admits⟩
  | cons first others =>
    rw [found] at tight admits
    obtain ⟨⟨_, phrases, read, _⟩, each⟩ := tight_joinedText tight
    exact ⟨⟨phrases, read⟩, fun truth => (each truth).trans (admits truth)⟩

variable {text : String} {phrases : List Phrase} (visible : Text.isBlank text.toList = false)
  (read : reading? text.toList = some phrases)

include visible read

/-- In parentheses a text is a single disjunct, so that the restrictions bind to the whole of it. -/
theorem satisfies_apply_wrapped
    (wraps : (!(scope.restrictions expression).isEmpty &&
      Text.hasTopLevelOperator text.toList) = true) :
    (∃ whole, reading? (scope.apply text expression).toList = some whole) ∧
      ∀ truth, satisfies truth (scope.apply text expression).toList =
        (satisfies truth text.toList && scope.admitsBy expression truth) := by
  rw [toList_apply_of_visible visible, text_queryClause, if_pos wraps]
  have visibleGroup : Text.isBlank ("(".toList ++ (text.toList ++ ")".toList)) = false :=
    visible_joined (by decide) _
  have single : disjuncts [.group phrases] = [] ++ [[.group phrases]] := rfl
  obtain ⟨readable, appended⟩ :=
    satisfies_appended expression plainFolder visibleGroup (reading?_bracket read) single
  refine ⟨readable, fun truth => (appended truth).trans ?_⟩
  rw [satisfies_of_reading? visible read, conjunctionHolds_group]
  rfl

/-- Without parentheses the restrictions bind to the last disjunct of a text. -/
theorem satisfies_apply_bare {front : List (List Phrase)} {last : List Phrase}
    (split : disjuncts phrases = front ++ [last])
    (wraps : (!(scope.restrictions expression).isEmpty &&
      Text.hasTopLevelOperator text.toList) = false) :
    (∃ whole, reading? (scope.apply text expression).toList = some whole) ∧
      ∀ truth, satisfies truth (scope.apply text expression).toList =
        (front.any (conjunctionHolds truth) ||
          (conjunctionHolds truth last && scope.admitsBy expression truth)) := by
  rw [toList_apply_of_visible visible, text_queryClause, if_neg (Bool.eq_false_iff.mp wraps)]
  exact satisfies_appended expression plainFolder visible read split

end Scope

namespace Expression

open Phrase

/-- The restrictions of a raw text bind to the whole of it when the text is put in parentheses, and
that happens when a connective stands between two spaces. In any other text they bind to the last
disjunct, so that the files that satisfy another one escape them. -/
theorem compileWithin_raw_binds {scope : Scope} {text : String} {phrases : List Phrase}
    (plainFolder : ∀ folder ∈ scope.folder, '\\' ∉ folder.toList)
    (read : reading? text.toList = some phrases) :
    ∃ restricted wrapped front last,
      compileWithin scope (.raw text) = .ok restricted ∧
      disjuncts phrases = front ++ [last] ∧
      (wrapped = true ↔ scope.restrictions (.raw text) ≠ [] ∧ Spaced text.toList) ∧
      (Text.isBlank text.toList = false → restricted.queryString.toList =
        (if wrapped = true then "(".toList ++ (text.toList ++ ")".toList) else text.toList) ++
          (scope.restrictions (.raw text)).flatMap fun part =>
            Connective.conjunction.separator ++ part.text) ∧
      (∃ whole, reading? restricted.queryString.toList = some whole) ∧
      ∀ truth,
        ((scope.restrictions (.raw text) = [] ∨ wrapped = true ∨ front = [] ∨
            Text.isBlank text.toList = true) →
          satisfies truth restricted.queryString.toList =
            (satisfies truth text.toList && scope.admitsBy (.raw text) truth)) ∧
        (wrapped = false → Text.isBlank text.toList = false →
          satisfies truth restricted.queryString.toList =
            (front.any (conjunctionHolds truth) ||
              (conjunctionHolds truth last && scope.admitsBy (.raw text) truth))) := by
  obtain ⟨front, last, split, _⟩ := exists_disjuncts_append phrases (List.forall_mem_nil _)
  refine ⟨_, !(scope.restrictions (.raw text)).isEmpty && Text.hasTopLevelOperator text.toList,
    front, last, rfl, split, ?_, ?_, ?_⟩
  · rw [Bool.and_eq_true, hasTopLevelOperator_iff_spaced read, Bool.not_eq_true',
      List.isEmpty_eq_false_iff]
  · intro visible
    exact (Scope.toList_apply_of_visible visible _).trans
      (congrArg (· ++ _) (Scope.text_queryClause text _))
  · cases blank : Text.isBlank text.toList with
    | true =>
      obtain ⟨readable, alone⟩ := Scope.satisfies_apply_blank (.raw text) plainFolder blank
      refine ⟨readable, fun truth => ⟨fun _ => ?_, fun _ visible => by cases visible⟩⟩
      refine (alone truth).trans ?_
      rw [satisfies, blank, Bool.true_or, Bool.true_and]
    | false =>
      cases wraps : !(scope.restrictions (.raw text)).isEmpty &&
          Text.hasTopLevelOperator text.toList with
      | true =>
        obtain ⟨readable, whole⟩ :=
          Scope.satisfies_apply_wrapped (.raw text) plainFolder blank read wraps
        exact ⟨readable, fun truth =>
          ⟨fun _ => whole truth, fun impossible => by cases impossible⟩⟩
      | false =>
        obtain ⟨readable, appended⟩ :=
          Scope.satisfies_apply_bare (.raw text) plainFolder blank read split wraps
        refine ⟨readable, fun truth => ⟨fun binds => ?_, fun _ _ => appended truth⟩⟩
        refine (appended truth).trans ?_
        rw [satisfies_of_reading? blank read, holds_of_split truth split]
        rcases binds with unrestricted | impossible | rfl | impossible
        · rw [← scope.all_restrictions, unrestricted, List.all_nil, Bool.and_true, Bool.and_true]
        · cases impossible
        · rfl
        · cases impossible

/-- This raw text asks for a star or for a shared file, with a tab on each side of the
disjunction. -/
def tabbedDisjunction : String := "starred = true\tor\tsharedWithMe = true"

/-- These phrases ask for a flag to be set. -/
def flagPhrases (flag : Flag) : List Phrase :=
  [.word (Symbol.word flag.key.toList), .word (Symbol.word "=".toList),
    .word (Symbol.word "true".toList)]

theorem compileWithin_raw_binds_tabbedDisjunction :
    ∃ restricted, compileWithin .standard (.raw tabbedDisjunction) = .ok restricted ∧
      ∀ truth, satisfies truth restricted.queryString.toList =
        (satisfies truth "starred = true".toList ||
          (satisfies truth "sharedWithMe = true".toList &&
            satisfies truth "trashed = false".toList)) := by
  have read : reading? tabbedDisjunction.toList =
      some (flagPhrases .starred ++ keyword .disjunction :: flagPhrases .sharedWithMe) := by
    rfl
  have noFolder : ∀ folder ∈ Scope.standard.folder, '\\' ∉ folder.toList := by
    rintro _ ⟨⟩
  obtain ⟨restricted, wrapped, front, last, compiles, split, wraps, _, _, judged⟩ :=
    compileWithin_raw_binds noFolder read
  refine ⟨restricted, compiles, fun truth => ?_⟩
  have unwrapped : wrapped = false := by
    rw [Bool.eq_false_iff]
    intro wrapped
    have spaced := (hasTopLevelOperator_iff_spaced read).mpr (wraps.mp wrapped).2
    revert spaced
    decide
  have both : disjuncts (flagPhrases .starred ++ keyword .disjunction ::
      flagPhrases .sharedWithMe) = [flagPhrases .starred] ++ [flagPhrases .sharedWithMe] := rfl
  obtain ⟨rfl, single⟩ := List.append_inj' (split.symm.trans both) rfl
  cases single
  have readStarred : reading? "starred = true".toList = some (flagPhrases .starred) := rfl
  have readShared : reading? "sharedWithMe = true".toList = some (flagPhrases .sharedWithMe) := rfl
  rw [satisfies_of_reading? (by decide) readStarred, satisfies_of_reading? (by decide) readShared,
    holds_of_tight truth (by decide), holds_of_tight truth (by decide)]
  have restriction : (Atom.marked .trashed false).text = "trashed = false".toList := by decide
  have admits : Scope.standard.admitsBy (.raw tabbedDisjunction) truth =
      satisfies truth "trashed = false".toList := by
    have unsettled : (Expression.raw tabbedDisjunction).constrainsTrashed = false := rfl
    rw [← restriction, Scope.admitsBy, Scope.admitsFolder, Scope.admitsTrashed, unsettled]
    simp only [Scope.standard, Option.all_none, Bool.or_false, Bool.false_or, Bool.true_and]
  rw [(judged truth).2 unwrapped (by decide), admits, List.any_cons, List.any_nil, Bool.or_false]

end Expression

end FileSearch
