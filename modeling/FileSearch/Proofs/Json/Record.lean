/-
This file reads values of a known kind from a JSON text: strings, truth values, lists, values that
can be left out, and records whose members stand in any order.
-/

import FileSearch.Json.Record
import FileSearch.Proofs.Json.Value

namespace FileSearch.Json.Reader

variable {Result Record : Type} {condition : Prop}

theorem understands_text (value : String) : Understands condition text (.string value) value := by
  intro gap own rest blank spells delimited
  cases spells with
  | string writes =>
    have taken : Takes condition string (own ++ rest) value rest := takes_string rest writes
    obtain ⟨tail, rfl⟩ := writes.exists_head
    have opening : isGap '"' = false := rfl
    exact (takes_token blank (stops_cons opening _)).bind taken

theorem understands_truth (value : Bool) :
    Understands condition truth (.boolean value) value := by
  intro gap own rest blank spells delimited
  cases spells with
  | yes =>
    have opening : isGap 't' = false := rfl
    exact (takes_token blank (stops_cons opening _)).bind
      ((takes_letters ['t', 'r', 'u', 'e'] rest).bind (.pure true rest))
  | no =>
    have opening : isGap 'f' = false := rfl
    exact (takes_token blank (stops_cons opening _)).bind
      ((takes_letters ['f', 'a', 'l', 's', 'e'] rest).bind (.pure false rest))

theorem understands_list {item : Reader Result} {values : List Json} {results : List Result}
    (understood : List.Forall₂ (Understands condition item) values results) :
    Understands condition (list item) (.array values) results := by
  intro gap own rest blank spells delimited
  cases spells with
  | @array _ texts inner spelled sequence =>
    have opening : isGap '[' = false := rfl
    rw [List.cons_append, List.append_assoc, List.singleton_append]
    exact (takes_token blank (stops_cons opening _)).bind
      (takes_items rest spelled sequence understood)

theorem understands_optional_null (value : Reader Result) :
    Understands condition (optional value) .null none := by
  intro gap own rest blank spells delimited
  cases spells
  have opening : isGap 'n' = false := rfl
  exact (takes_token blank (stops_cons opening _)).bind
    ((takes_letters ['n', 'u', 'l', 'l'] rest).bind (.pure none rest))

theorem understands_optional {reader : Reader Result} {value : Json} {result : Result}
    (notNull : value ≠ .null) (understands : Understands condition reader value result) :
    Understands condition (optional reader) value (some result) := by
  intro gap own rest blank spells delimited
  have taken := understands.takes spells delimited
  obtain ⟨head, tail, rfl, noGap, _, noLetter⟩ := spells.exists_head
  refine (takes_token blank (stops_cons noGap _)).bind ?_
  split
  next found => exact absurd (Option.some.inj found) (noLetter notNull)
  next => exact taken.bind (.pure _ rest)

theorem Understands.map {First Second : Type} {reader : Reader First} {value : Json}
    {middle : First} (understands : Understands condition reader value middle)
    (change : First → Second) :
    Understands condition (do return change (← reader)) value (change middle) :=
  fun gap own rest blank spells delimited =>
    (understands gap own rest blank spells delimited).map change

/-- A form has a place for a member where it knows the key; the value is taken for a change of the
record. -/
def Places (condition : Prop) (form : Form Record) (member : String × Json)
    (change : Record → Record) : Prop :=
  ∃ place, form.members.find? (·.key = member.1) = some place ∧
    Understands condition place.change member.2 change

/-- Each round makes the change of one member, and the last one takes the closing brace. -/
theorem takes_namedMembers {form : Form Record} {members : List (String × Json)}
    {texts : List (List Char)} (rest : List Char)
    (each : List.Forall₂ (MemberText Spells) members texts) :
    ∀ {changes : List (Record → Record)} {first : Bool} {inner : List Char} {fuel : Nat}
      (taken : List String) (record : Record),
      List.Forall₂ (Places condition form) members changes → (members.map Prod.fst).Nodup →
      (∀ key ∈ members.map Prod.fst, key ∉ taken) → SequenceText first texts inner →
      texts.length < fuel →
      Takes condition (namedMembers form fuel first taken record) (inner ++ '}' :: rest)
        (changes.foldl (fun record change => change record) record) rest := by
  induction each with
  | nil =>
    intro changes first inner fuel taken record places distinct fresh sequence enough
    cases places
    obtain ⟨fuel, rfl⟩ := Nat.exists_eq_succ_of_ne_zero (Nat.ne_of_gt enough)
    exact (takes_nextKey_end sequence rest).bind ((takes_skip_one '}' rest).bind (.pure _ rest))
  | @cons member _ _ _ writes each inductionHypothesis =>
    intro changes first inner fuel taken record places distinct fresh sequence enough
    obtain ⟨key, json⟩ := member
    cases places with
    | @cons _ change _ changes place places =>
      obtain ⟨fuel, rfl⟩ :=
        Nat.exists_eq_succ_of_ne_zero (Nat.ne_of_gt (Nat.zero_lt_of_lt enough))
      obtain ⟨place, known, understands⟩ := place
      obtain ⟨tail, rfl⟩ := writes.exists_head
      obtain ⟨others, sequence, takesNext⟩ := exists_takes_nextKey sequence
      obtain ⟨unique, distinct⟩ := List.nodup_cons.mp distinct
      obtain ⟨new, fresh⟩ := List.forall_mem_cons.mp fresh
      have delimited : Delimited (others ++ '}' :: rest) :=
        delimited_sequence sequence (delimited_cons rfl (by decide) (by decide) rest)
      have freshBehind : ∀ other ∈ _, other ∉ key :: taken := fun other member =>
        List.not_mem_cons_of_ne_of_not_mem (ne_of_mem_of_not_mem member unique) (fresh other member)
      have takesOthers := inductionHypothesis (key :: taken) (change record) places distinct
        freshBehind sequence (Nat.lt_of_succ_lt_succ enough)
      refine (takesNext _).bind (takes_member writes fun before behind own blank gap spells => ?_)
      have notTaken : ¬ taken.contains key = true := by simpa using new
      simp only [known, if_neg notTaken]
      exact (takes_colon _ blank).bind
        ((understands behind own _ gap spells delimited).bind takesOthers)

/-- A record is taken from an object whose members all have a place, each at most once. -/
theorem understands_record {form : Form Record} {members : List (String × Json)}
    {changes : List (Record → Record)}
    (places : List.Forall₂ (Places condition form) members changes)
    (distinct : (members.map Prod.fst).Nodup) :
    Understands condition (record form) (.object members)
      (changes.foldl (fun record change => change record) form.empty) := by
  intro gap own rest blank spells delimited
  cases spells with
  | @object _ texts inner spelled sequence =>
    have opening : isGap '{' = false := rfl
    rw [List.cons_append, List.append_assoc, List.singleton_append]
    refine (takes_token blank (stops_cons opening _)).bind ((takes_skip_one '{' _).bind ?_)
    refine Takes.get_bind fun position => ?_
    exact takes_namedMembers rest spelled [] form.empty places distinct
      (fun key member => List.not_mem_nil) sequence (length_lt_of_sequence sequence '}' rest)

/-- A property that all changes of a record keep holds behind them when it holds in front of them,
or when one of them makes it hold. -/
theorem foldl_of_keeps {holds : Record → Prop} {changes : List (Record → Record)}
    (keeps : ∀ change ∈ changes, ∀ record, holds record → holds (change record)) :
    ∀ {record : Record}, (holds record ∨ ∃ change ∈ changes, ∀ record, holds (change record)) →
      holds (changes.foldl (fun record change => change record) record) := by
  induction changes with
  | nil =>
    rintro record (here | ⟨change, member, _⟩)
    · exact here
    · cases member
  | cons change changes inductionHypothesis =>
    obtain ⟨keepsFirst, keepsOthers⟩ := List.forall_mem_cons.mp keeps
    rintro record (here | ⟨maker, member, makes⟩)
    · exact inductionHypothesis keepsOthers (.inl (keepsFirst record here))
    · obtain rfl | member := List.mem_cons.mp member
      · exact inductionHypothesis keepsOthers (.inl (makes record))
      · exact inductionHypothesis keepsOthers (.inr ⟨maker, member, makes⟩)

end FileSearch.Json.Reader
