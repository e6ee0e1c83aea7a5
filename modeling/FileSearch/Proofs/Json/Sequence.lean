/-
This file reads the lists and objects of a JSON text, whatever gaps stand between their parts. What
is taken for an item or for the value of a member is left open.
-/

import FileSearch.Json.Sequence
import FileSearch.Proofs.Json.Text

namespace FileSearch.Json

/-- A numeral starts with its sign or with a digit. -/
theorem NumeralText.exists_head {numeral : Numeral} {text : List Char}
    (writes : NumeralText numeral text) :
    ∃ head tail, text = head :: tail ∧ (head = '-' ∨ head.isDigit = true) := by
  cases writes with
  | @parts fraction exponent whole =>
    obtain ⟨negative, digits, places, power⟩ := numeral
    cases negative with
    | true => exact ⟨'-', _, rfl, .inl rfl⟩
    | false =>
      cases digits with
      | nil => exact absurd rfl whole.nonempty
      | cons digit digits =>
        refine ⟨Nat.digitChar digit, _, rfl, .inr ?_⟩
        rw [Nat.isDigit_digitChar, decide_eq_true (whole.small digit List.mem_cons_self)]

theorem StringText.exists_head {value : String} {text : List Char}
    (writes : StringText value text) : ∃ tail, text = '"' :: tail := by
  cases writes with
  | quoted => exact ⟨_, rfl⟩

/-- A digit differs from every other character. -/
theorem ne_of_isDigit {character other : Char} (digit : character.isDigit = true)
    (noDigit : other.isDigit = false) : character ≠ other := by
  rintro rfl
  rw [digit] at noDigit
  cases noDigit

theorem not_gap_of_isDigit {character : Char} (digit : character.isDigit = true) :
    isGap character = false := by
  simp only [isGap, Bool.or_eq_false_iff, decide_eq_false_iff_not]
  exact ⟨⟨⟨ne_of_isDigit digit rfl, ne_of_isDigit digit rfl⟩, ne_of_isDigit digit rfl⟩,
    ne_of_isDigit digit rfl⟩

/-- A value starts neither with a gap nor with the end of a list, and only the value for nothing
starts with its first letter. -/
theorem Spells.exists_head {value : Json} {text : List Char} (spells : Spells value text) :
    ∃ head tail, text = head :: tail ∧ isGap head = false ∧ head ≠ ']' ∧
      (value ≠ .null → head ≠ 'n') := by
  cases spells with
  | null => exact ⟨'n', _, rfl, rfl, by decide, fun notNull => absurd rfl notNull⟩
  | yes => exact ⟨'t', _, rfl, rfl, by decide, fun _ => by decide⟩
  | no => exact ⟨'f', _, rfl, rfl, by decide, fun _ => by decide⟩
  | number writes =>
    obtain ⟨head, tail, rfl, rfl | digit⟩ := writes.exists_head
    · exact ⟨'-', tail, rfl, rfl, by decide, fun _ => by decide⟩
    · exact ⟨head, tail, rfl, not_gap_of_isDigit digit, ne_of_isDigit digit rfl,
        fun _ => ne_of_isDigit digit rfl⟩
  | string writes =>
    obtain ⟨tail, rfl⟩ := writes.exists_head
    exact ⟨'"', tail, rfl, rfl, by decide, fun _ => by decide⟩
  | array => exact ⟨'[', _, rfl, rfl, by decide, fun _ => by decide⟩
  | object => exact ⟨'{', _, rfl, rfl, by decide, fun _ => by decide⟩

theorem MemberText.exists_head {member : String × Json} {text : List Char}
    (writes : MemberText Spells member text) : ∃ tail, text = '"' :: tail := by
  cases writes with
  | entry writesKey =>
    obtain ⟨tail, rfl⟩ := writesKey.exists_head
    exact ⟨_, rfl⟩

/-- Each item but the first one brings its comma. -/
theorem SequenceText.length_le {first : Bool} {texts : List (List Char)} {inner : List Char}
    (sequence : SequenceText first texts inner) : texts.length ≤ inner.length + first.toNat := by
  induction sequence with
  | nil => exact Nat.zero_le _
  | first _ _ inductionHypothesis =>
    simp only [List.length_cons, List.length_append, Bool.toNat_true, Bool.toNat_false] at *
    omega
  | next _ _ _ inductionHypothesis =>
    simp only [List.length_cons, List.length_append, Bool.toNat_false] at *
    omega

namespace Reader

variable {Result : Type} {condition : Prop}

theorem stops_cons {inside : Char → Bool} {character : Char} (outside : inside character = false)
    (rest : List Char) : Stops inside (character :: rest) := by
  intro other member
  cases member
  exact outside

theorem delimited_cons {character : Char} (noDigit : character.isDigit = false)
    (noPoint : character ≠ '.') (noMark : character ≠ 'e' ∧ character ≠ 'E') (rest : List Char) :
    Delimited (character :: rest) := by
  intro other member
  cases member
  exact ⟨noDigit, noPoint, noMark⟩

theorem delimited_gap {gap rest : List Char} (blank : Gap gap) (delimited : Delimited rest) :
    Delimited (gap ++ rest) := by
  cases gap with
  | nil => exact delimited
  | cons character gap =>
    have space := blank character List.mem_cons_self
    simp only [isGap, Bool.or_eq_true, decide_eq_true_eq] at space
    obtain ((rfl | rfl) | rfl) | rfl := space
    · exact delimited_cons rfl (by decide) (by decide) _
    · exact delimited_cons rfl (by decide) (by decide) _
    · exact delimited_cons rfl (by decide) (by decide) _
    · exact delimited_cons rfl (by decide) (by decide) _

/-- Behind an item stands a gap with a comma or with the closing bracket behind it. -/
theorem delimited_sequence {texts : List (List Char)} {inner rest : List Char}
    (sequence : SequenceText false texts inner) (delimited : Delimited rest) :
    Delimited (inner ++ rest) := by
  cases sequence with
  | nil blank => exact delimited_gap blank delimited
  | next blankBefore _ _ =>
    rw [List.append_assoc, List.cons_append]
    exact delimited_gap blankBefore (delimited_cons rfl (by decide) (by decide) _)

theorem takes_nextItem_end {first : Bool} {inner : List Char}
    (sequence : SequenceText first [] inner) (rest : List Char) :
    Takes condition (nextItem first) (inner ++ ']' :: rest) false (']' :: rest) := by
  cases sequence with
  | nil blank => exact (takes_token blank (stops_cons rfl rest)).bind (.pure false _)

/-- What separates an item from the one in front of it is taken. -/
theorem exists_takes_nextItem {first : Bool} {head : Char} {tail inner : List Char}
    {texts : List (List Char)} (sequence : SequenceText first ((head :: tail) :: texts) inner)
    (noGap : isGap head = false) (noEnd : head ≠ ']') :
    ∃ others, SequenceText false texts others ∧ ∀ rest,
      Takes condition (nextItem first) (inner ++ rest) true
        (head :: tail ++ (others ++ rest)) := by
  cases sequence with
  | @first gap _ others _ blank sequence =>
    refine ⟨others, sequence, fun rest => ?_⟩
    simp only [List.append_assoc, List.cons_append]
    refine (takes_token blank (stops_cons noGap _)).bind ?_
    split
    next found => cases found
    next found => exact absurd (Option.some.inj found) noEnd
    next => exact .pure true _
    next => exact .pure true _
  | @next before behind _ others _ blankBefore blankBehind sequence =>
    refine ⟨others, sequence, fun rest => ?_⟩
    simp only [List.append_assoc, List.cons_append]
    refine (takes_token blankBefore (stops_cons rfl _)).bind ((takes_skip_one ',' _).bind ?_)
    refine (takes_token blankBehind (stops_cons noGap _)).bind ?_
    split
    next found => cases found
    next found => exact absurd (Option.some.inj found) noEnd
    next => exact .pure true _

theorem takes_nextKey_end {first : Bool} {inner : List Char}
    (sequence : SequenceText first [] inner) (rest : List Char) :
    Takes condition (nextKey first) (inner ++ '}' :: rest) false ('}' :: rest) := by
  cases sequence with
  | nil blank => exact (takes_token blank (stops_cons rfl rest)).bind (.pure false _)

/-- What separates a member from the one in front of it is taken. -/
theorem exists_takes_nextKey {first : Bool} {tail inner : List Char} {texts : List (List Char)}
    (sequence : SequenceText first (('"' :: tail) :: texts) inner) :
    ∃ others, SequenceText false texts others ∧ ∀ rest,
      Takes condition (nextKey first) (inner ++ rest) true
        ('"' :: tail ++ (others ++ rest)) := by
  cases sequence with
  | @first gap _ others _ blank sequence =>
    refine ⟨others, sequence, fun rest => ?_⟩
    simp only [List.append_assoc, List.cons_append]
    exact (takes_token blank (stops_cons rfl _)).bind (.pure true _)
  | @next before behind _ others _ blankBefore blankBehind sequence =>
    refine ⟨others, sequence, fun rest => ?_⟩
    simp only [List.append_assoc, List.cons_append]
    refine (takes_token blankBefore (stops_cons rfl _)).bind ((takes_skip_one ',' _).bind ?_)
    exact (takes_token blankBehind (stops_cons rfl _)).bind (.pure true _)

theorem takes_colon {gap : List Char} (rest : List Char) (blank : Gap gap) :
    Takes condition colon (gap ++ ':' :: rest) () rest :=
  (takes_token blank (stops_cons rfl rest)).bind (takes_skip_one ':' rest)

/-- An item can be taken where its text stands at once. -/
theorem Understands.takes {reader : Reader Result} {value : Json} {result : Result}
    (understands : Understands condition reader value result) {text rest : List Char}
    (spells : Spells value text) (delimited : Delimited rest) :
    Takes condition reader (text ++ rest) result rest :=
  understands [] text rest (fun _ member => nomatch member) spells delimited

/-- Each round takes one item, and the last one takes the closing bracket. -/
theorem takes_itemsWithin {item : Reader Result} {values : List Json}
    {texts : List (List Char)} (rest : List Char) (each : List.Forall₂ Spells values texts) :
    ∀ {results : List Result} {first : Bool} {inner : List Char} {fuel : Nat}
      (taken : List Result), List.Forall₂ (Understands condition item) values results →
      SequenceText first texts inner → texts.length < fuel →
      Takes condition (itemsWithin item fuel first taken) (inner ++ ']' :: rest)
        (taken.reverse ++ results) rest := by
  induction each with
  | nil =>
    intro results first inner fuel taken understood sequence enough
    cases understood
    obtain ⟨fuel, rfl⟩ := Nat.exists_eq_succ_of_ne_zero (Nat.ne_of_gt enough)
    rw [List.append_nil]
    exact (takes_nextItem_end sequence rest).bind ((takes_skip_one ']' rest).bind (.pure _ rest))
  | cons spells each inductionHypothesis =>
    intro results first inner fuel taken understood sequence enough
    cases understood with
    | @cons _ result _ results understands understood =>
      obtain ⟨fuel, rfl⟩ :=
        Nat.exists_eq_succ_of_ne_zero (Nat.ne_of_gt (Nat.zero_lt_of_lt enough))
      obtain ⟨head, tail, rfl, noGap, noEnd, _⟩ := spells.exists_head
      obtain ⟨others, sequence, takesNext⟩ := exists_takes_nextItem sequence noGap noEnd
      have delimited : Delimited (others ++ ']' :: rest) :=
        delimited_sequence sequence (delimited_cons rfl (by decide) (by decide) rest)
      have takesOthers := inductionHypothesis (result :: taken) understood sequence
        (Nat.lt_of_succ_lt_succ enough)
      rw [List.reverse_cons, List.append_assoc, List.singleton_append] at takesOthers
      exact (takesNext _).bind ((understands.takes spells delimited).bind takesOthers)

/-- The fuel covers the items of the text. -/
theorem length_lt_of_sequence {texts : List (List Char)} {inner : List Char}
    (sequence : SequenceText true texts inner) (closing : Char) (rest : List Char) :
    texts.length < (inner ++ closing :: rest).length + 1 := by
  have bound := sequence.length_le
  simp only [List.length_append, List.length_cons, Bool.toNat_true] at *
  omega

theorem takes_items {item : Reader Result} {values : List Json} {results : List Result}
    {texts : List (List Char)} {inner : List Char} (rest : List Char)
    (each : List.Forall₂ Spells values texts) (sequence : SequenceText true texts inner)
    (understood : List.Forall₂ (Understands condition item) values results) :
    Takes condition (items item) ('[' :: (inner ++ ']' :: rest)) results rest := by
  refine (takes_skip_one '[' _).bind (Takes.get_bind fun position => ?_)
  exact takes_itemsWithin rest each [] understood sequence (length_lt_of_sequence sequence ']' rest)

/-- A member is taken as its key with the result of its value. -/
def UnderstandsMember (condition : Prop) (value : Reader Result) (member : String × Json)
    (result : String × Result) : Prop :=
  member.1 = result.1 ∧ Understands condition value member.2 result.2

/-- The key of a member is taken first, and the colon and the value stand behind it. -/
theorem takes_member {Other : Type} {key : String} {value : Json} {text after rest : List Char}
    {result : Other} {next : String → Reader Other}
    (writes : MemberText Spells (key, value) text)
    (takesNext : ∀ before behind own, Gap before → Gap behind → Spells value own →
      Takes condition (next key) (before ++ ':' :: (behind ++ (own ++ after))) result rest) :
    Takes condition (string >>= next) (text ++ after) result rest := by
  cases writes with
  | entry writesKey blankBefore blankBehind spells =>
    simp only [List.append_assoc, List.cons_append]
    exact (takes_string _ writesKey).bind (takesNext _ _ _ blankBefore blankBehind spells)

/-- Each round takes one member, and the last one takes the closing brace. -/
theorem takes_membersWithin {value : Reader Result} {members : List (String × Json)}
    {texts : List (List Char)} (rest : List Char)
    (each : List.Forall₂ (MemberText Spells) members texts) :
    ∀ {results : List (String × Result)} {first : Bool} {inner : List Char} {fuel : Nat}
      (taken : List (String × Result)),
      List.Forall₂ (UnderstandsMember condition value) members results →
      SequenceText first texts inner → texts.length < fuel →
      Takes condition (membersWithin value fuel first taken) (inner ++ '}' :: rest)
        (taken.reverse ++ results) rest := by
  induction each with
  | nil =>
    intro results first inner fuel taken understood sequence enough
    cases understood
    obtain ⟨fuel, rfl⟩ := Nat.exists_eq_succ_of_ne_zero (Nat.ne_of_gt enough)
    rw [List.append_nil]
    exact (takes_nextKey_end sequence rest).bind ((takes_skip_one '}' rest).bind (.pure _ rest))
  | @cons member _ _ _ writes each inductionHypothesis =>
    intro results first inner fuel taken understood sequence enough
    obtain ⟨key, json⟩ := member
    cases understood with
    | @cons _ result _ results understands understood =>
      obtain ⟨fuel, rfl⟩ :=
        Nat.exists_eq_succ_of_ne_zero (Nat.ne_of_gt (Nat.zero_lt_of_lt enough))
      obtain ⟨same, result⟩ := result
      obtain ⟨rfl, understands⟩ := understands
      obtain ⟨tail, rfl⟩ := writes.exists_head
      obtain ⟨others, sequence, takesNext⟩ := exists_takes_nextKey sequence
      have delimited : Delimited (others ++ '}' :: rest) :=
        delimited_sequence sequence (delimited_cons rfl (by decide) (by decide) rest)
      have takesOthers := inductionHypothesis ((key, result) :: taken) understood sequence
        (Nat.lt_of_succ_lt_succ enough)
      rw [List.reverse_cons, List.append_assoc, List.singleton_append] at takesOthers
      refine (takesNext _).bind (takes_member writes fun before behind own blank gap spells => ?_)
      exact (takes_colon _ blank).bind
        ((understands behind own _ gap spells delimited).bind takesOthers)

theorem takes_members {value : Reader Result} {members : List (String × Json)}
    {results : List (String × Result)} {texts : List (List Char)} {inner : List Char}
    (rest : List Char) (each : List.Forall₂ (MemberText Spells) members texts)
    (sequence : SequenceText true texts inner)
    (understood : List.Forall₂ (UnderstandsMember condition value) members results) :
    Takes condition (Reader.members value) ('{' :: (inner ++ '}' :: rest)) results rest := by
  refine (takes_skip_one '{' _).bind (Takes.get_bind fun position => ?_)
  exact takes_membersWithin rest each [] understood sequence
    (length_lt_of_sequence sequence '}' rest)

end Reader

end FileSearch.Json
