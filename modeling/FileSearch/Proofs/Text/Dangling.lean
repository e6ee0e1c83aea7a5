/-
This file tells from which texts no keyword dangles, and which of them can be joined: a keyword that
is put between two such texts dangles from neither end.
-/

import FileSearch.Text.Dangling
import Mathlib.Data.List.Infix

namespace FileSearch.Text

variable {text : List Char}

theorem dropLeading?_eq_none_iff (connective : Connective) :
    dropLeading? connective text = none ↔ ¬ connective.keyword ++ [' '] <+: text := by
  rw [dropLeading?, ite_eq_right_iff, List.isPrefixOf_iff_prefix]
  exact imp_congr_right fun _ => iff_of_false (Option.some_ne_none _) id

theorem dropTrailing?_eq_none_iff (connective : Connective) :
    dropTrailing? connective text = none ↔ ¬ ' ' :: connective.keyword <:+ text := by
  rw [dropTrailing?, ite_eq_right_iff, List.isSuffixOf_iff_suffix]
  exact imp_congr_right fun _ => iff_of_false (Option.some_ne_none _) id

/-- Nothing is removed from a text with a keyword at neither end. -/
theorem dropDangling?_eq_none_iff :
    dropDangling? text = none ↔ ∀ connective : Connective,
      ¬ connective.keyword ++ [' '] <+: text ∧ ¬ ' ' :: connective.keyword <:+ text := by
  rw [dropDangling?, Option.or_eq_none_iff, List.findSome?_eq_none_iff,
    List.findSome?_eq_none_iff, forall_and]
  simp only [dropLeading?_eq_none_iff, dropTrailing?_eq_none_iff, Connective.mem_all, true_imp_iff]

theorem stripDangling_eq_self (nothing : dropDangling? text = none) :
    stripDangling text = text := by
  rw [stripDangling]
  split
  · rfl
  · next rest dropped =>
    rw [nothing] at dropped
    cases dropped

theorem stripDangling_of_dropDangling? {rest : List Char}
    (dropped : dropDangling? text = some rest) : stripDangling text = stripDangling rest := by
  rw [stripDangling]
  split
  · next nothing => cases nothing.symm.trans dropped
  · next other found => rw [Option.some.inj (found.symm.trans dropped)]

/-- Such a text is no keyword, begins with no keyword and a space, and ends with no space and
keyword. -/
def Anchored (text : List Char) : Prop :=
  ∀ connective : Connective, text ≠ connective.keyword ∧
    ¬ connective.keyword ++ [' '] <+: text ∧ ¬ ' ' :: connective.keyword <:+ text

instance (text : List Char) : Decidable (Anchored text) :=
  decidable_of_iff (∀ connective ∈ Connective.all, text ≠ connective.keyword ∧
      ¬ connective.keyword ++ [' '] <+: text ∧ ¬ ' ' :: connective.keyword <:+ text)
    ⟨fun anchored connective => anchored connective connective.mem_all,
      fun anchored connective _ => anchored connective⟩

theorem space_notMem_keyword (connective : Connective) : ' ' ∉ connective.keyword := by
  cases connective <;> decide

namespace Anchored

variable {first last : List Char}

/-- Nothing dangles from an anchored text. -/
theorem stripDangling (anchored : Anchored text) : Text.stripDangling text = text :=
  stripDangling_eq_self (dropDangling?_eq_none_iff.mpr fun connective => (anchored connective).2)

/-- A keyword in front of a space would be the first text or would begin it. -/
theorem not_leading (anchored : Anchored first) (connective : Connective) (rest : List Char) :
    ¬ connective.keyword ++ [' '] <+: first ++ ' ' :: rest := by
  intro leading
  have opening : first ++ [' '] <+: first ++ ' ' :: rest := ⟨rest, List.append_assoc _ _ _⟩
  obtain ⟨notKeyword, notLeading, _⟩ := anchored connective
  -- Both begin the same text, so that the shorter one of them begins the other.
  rcases List.prefix_or_prefix_of_prefix leading opening with shorter | longer
  · rcases List.prefix_concat_iff.mp shorter with same | inside
    · exact notKeyword (List.append_cancel_right same).symm
    · exact notLeading inside
  · rcases List.prefix_concat_iff.mp longer with same | inside
    · exact notKeyword (List.append_cancel_right same)
    · have space : ' ' ∈ first ++ [' '] := List.mem_append_right _ List.mem_cons_self
      exact space_notMem_keyword connective (inside.subset space)

/-- A keyword behind a space would be the last text or would end it. -/
theorem not_trailing (anchored : Anchored last) (connective : Connective) (front : List Char) :
    ¬ ' ' :: connective.keyword <:+ front ++ ' ' :: last := by
  intro trailing
  have closing : ' ' :: last <:+ front ++ ' ' :: last := List.suffix_append front _
  obtain ⟨notKeyword, _, notTrailing⟩ := anchored connective
  rcases List.suffix_or_suffix_of_suffix trailing closing with shorter | longer
  · rcases List.suffix_cons_iff.mp shorter with same | inside
    · exact notKeyword (List.cons.inj same).2.symm
    · exact notTrailing inside
  · rcases List.suffix_cons_iff.mp longer with same | inside
    · exact notKeyword (List.cons.inj same).2
    · exact space_notMem_keyword connective (inside.subset List.mem_cons_self)

/-- A keyword between two anchored texts dangles from neither end. -/
theorem join (opening : Anchored first) (closing : Anchored last) (connective : Connective) :
    Anchored (first ++ connective.separator ++ last) := by
  intro other
  refine ⟨fun same => ?_, ?_, ?_⟩
  · apply space_notMem_keyword other
    rw [← same, List.append_assoc]
    exact List.mem_append_right _ List.mem_cons_self
  · rw [List.append_assoc]
    exact opening.not_leading other _
  · have spaced : first ++ connective.separator ++ last =
        (first ++ ' ' :: connective.keyword) ++ ' ' :: last := by
      simp [Connective.separator]
    rw [spaced]
    exact closing.not_trailing other _

end Anchored

end FileSearch.Text
