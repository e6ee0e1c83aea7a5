/-
This file shows that the summary of a compiled expression lists what the expression mentions,
whatever its raw texts hold.
-/

import FileSearch.Proofs.Expression.Mention

namespace FileSearch

namespace Expression

variable {expression other : Expression} {compiled : Compiled}

theorem mentions_essence (field : Field) (expression : Expression) :
    expression.essence.mentions field = expression.mentions field :=
  collect_essence (Conditions.literals_essence field) expression

theorem settings_essence (flag : Flag) (expression : Expression) :
    expression.essence.settings flag = expression.settings flag :=
  collect_essence (fun _ => rfl) expression

theorem values_eq_mentions (compiles : expression.compile = .ok compiled) (field : Field) :
    compiled.filters.values.get field = expression.mentions field :=
  (values_filters compiles field).trans
    (filterMap_atoms _ (Conditions.values_atoms field) expression)

theorem flags_eq_settings (compiles : expression.compile = .ok compiled) (flag : Flag) :
    compiled.filters.flags.get flag = (expression.settings flag).getLast? :=
  (flags_filters compiles flag).trans
    (congrArg List.getLast? (filterMap_atoms _ (Conditions.marks_atoms flag) expression))

/-- The summary depends on the essence only. -/
theorem filters_eq_of_essence_eq {alternative : Compiled}
    (compiles : expression.compile = .ok compiled) (compilesOther : other.compile = .ok alternative)
    (same : other.essence = expression.essence) : alternative.filters = compiled.filters := by
  refine Summary.ext_get (fun field => ?_) fun flag => ?_
  · rw [values_eq_mentions compilesOther, values_eq_mentions compiles, ← mentions_essence, same,
      mentions_essence]
  · rw [flags_eq_settings compilesOther, flags_eq_settings compiles, ← settings_essence, same,
      settings_essence]

/-- The summary holds what the traversal of the expression lists: all values of each field in order,
and the last setting of each flag, where a node counts more than its children and a later child more
than an earlier one. Raw texts, ranges and blank values leave no trace in it. -/
theorem filters_list_mentions (compiles : expression.compile = .ok compiled) :
    (∀ field, compiled.filters.values.get field = expression.mentions field) ∧
    (∀ flag, compiled.filters.flags.get flag = (expression.settings flag).getLast?) ∧
    (∀ parts, expression = .node parts → ∀ flag, compiled.filters.flags.get flag =
      (parts.conditions.flags.get flag).or
        (parts.children.reverse.findSome? fun child => (child.settings flag).getLast?)) ∧
    (∀ text, expression = .raw text → compiled.filters = Summary.empty) ∧
    ∀ (other : Expression) (alternative : Compiled), other.compile = .ok alternative →
      other.essence = expression.essence → alternative.filters = compiled.filters := by
  refine ⟨values_eq_mentions compiles, flags_eq_settings compiles, ?_, ?_, ?_⟩
  · rintro parts rfl flag
    rw [flags_eq_settings compiles, getLast?_settings]
  · rintro text rfl
    cases compiles
    rfl
  · intro other alternative compilesOther same
    exact filters_eq_of_essence_eq compiles compilesOther same

/-- This node repeats a value and sets a flag in three places, next to a raw text and a range. -/
def repeatedSettings (raw : String) (bound blank : String) : Node Expression :=
  { conjuncts := some [.raw raw, empty.setFlag .starred (some true)]
    disjuncts := some [empty.setField .owner (.operator ⟨some ["me", blank], none, some ["me"]⟩)]
    negation := some (empty.setFlag .starred (some false))
    conditions :=
      { Conditions.none with
        fields := Conditions.none.fields.set .owner (some (.plain "you"))
        modified := some ⟨some bound, none⟩ } }

theorem filters_list_mentions_repeatedSettings :
    ∃ compiled alternative,
      compile (.node (repeatedSettings "name = 'x' or" "2024" " ")) = .ok compiled ∧
      compile (.node (repeatedSettings "((" "" "\u3000")) = .ok alternative ∧
      alternative.filters = compiled.filters ∧
      compiled.filters.values.get .owner = ["me", "me", "you"] ∧
      compiled.filters.flags.get .starred = some false := by
  have compiles := (compile_node (repeatedSettings "name = 'x' or" "2024" " ")).trans rfl
  have compilesOther := (compile_node (repeatedSettings "((" "" "\u3000")).trans rfl
  obtain ⟨values, flags, _, _, same⟩ := filters_list_mentions compiles
  refine ⟨_, _, compiles, compilesOther, same _ _ compilesOther rfl, ?_, ?_⟩
  · exact (values .owner).trans (by decide)
  · exact (flags .starred).trans (by decide)

end Expression

end FileSearch
