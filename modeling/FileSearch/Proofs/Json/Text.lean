/-
This file reads the strings of a JSON text. Every spelling of a character is taken for it.
-/

import FileSearch.Json.Scalar
import FileSearch.Proofs.Json.Reading

namespace FileSearch.Json

theorem hexadecimalDigit?_of_hexadecimal {value : Nat} {digit : Char}
    (writes : Hexadecimal value digit) : Reader.hexadecimalDigit? digit = some value := by
  have either : ∀ value < 16, Reader.hexadecimalDigit? (Nat.digitChar value) = some value ∧
      Reader.hexadecimalDigit? (Nat.digitChar value).toUpper = some value := by decide
  obtain ⟨small, rfl | rfl⟩ := writes
  · exact (either value small).1
  · exact (either value small).2

theorem codeUnit?_of_unitText {unit : Nat} {digits : List Char} (writes : UnitText unit digits) :
    Reader.codeUnit? digits = some unit ∧ digits.length = 4 := by
  cases writes with
  | digits writesFirst writesSecond writesThird writesFourth =>
    refine ⟨?_, rfl⟩
    simp only [Reader.codeUnit?, hexadecimalDigit?_of_hexadecimal writesFirst,
      hexadecimalDigit?_of_hexadecimal writesSecond, hexadecimalDigit?_of_hexadecimal writesThird,
      hexadecimalDigit?_of_hexadecimal writesFourth, Option.bind_eq_bind, Option.bind_some,
      Option.pure_def]
    congr 1
    omega

/-- A string is at most as long as its spelling. -/
theorem length_le_of_characterTexts {characters : List Char} {spellings : List (List Char)}
    (each : List.Forall₂ CharacterText characters spellings) :
    characters.length ≤ spellings.flatten.length := by
  induction each with
  | nil => exact Nat.le_refl 0
  | @cons character spelling _ _ spelled _ inductionHypothesis =>
    have positive : 0 < spelling.length := by
      cases spelled with
      | plain => exact Nat.one_pos
      | short => exact Nat.two_pos
      | single => exact Nat.succ_pos _
      | pair => exact Nat.succ_pos _
    rw [List.flatten_cons, List.length_append, List.length_cons]
    omega

namespace Reader

variable {condition : Prop}

theorem takes_codeUnit {unit : Nat} {digits : List Char} (rest : List Char)
    (writes : UnitText unit digits) :
    Takes condition codeUnit (digits ++ rest) unit rest := by
  obtain ⟨read, four⟩ := codeUnit?_of_unitText writes
  refine Takes.get_bind fun position => ?_
  have front : (digits ++ rest).take 4 = digits := by rw [← four, List.take_left]
  simp only [front, read]
  rw [← four]
  exact (takes_skip digits rest).bind (.pure unit rest)

theorem takes_pairCharacter (character : Char) (rest : List Char) :
    Takes condition (pairCharacter character) (character :: rest) () rest := by
  refine (takes_peek _).bind ?_
  simp only [List.head?_cons, if_true]
  exact takes_skip_one character rest

/-- No character has the number of a surrogate. -/
theorem not_surrogate (character : Char) :
    isTrailingSurrogate character.toNat = false ∧ isLeadingSurrogate character.toNat = false := by
  have valid : character.toNat < 0xd800 ∨ 0xdfff < character.toNat := by
    obtain small | ⟨large, _⟩ := character.valid
    · exact .inl small
    · exact .inr large
  simp only [isTrailingSurrogate, isLeadingSurrogate, Bool.and_eq_false_iff,
    decide_eq_false_iff_not]
  omega

theorem takes_writtenCodePoint_single {character : Char} {digits : List Char}
    (rest : List Char) (writes : UnitText character.toNat digits) :
    Takes condition writtenCodePoint (digits ++ rest) character rest := by
  obtain ⟨notTrailing, notLeading⟩ := not_surrogate character
  refine (takes_codeUnit rest writes).bind ?_
  simp only [notTrailing, notLeading, Bool.false_eq_true, if_false, Char.ofNat_toNat]
  exact .pure character rest

theorem takes_writtenCodePoint_pair {character : Char} {high low : Nat}
    {leading trailing : List Char} (rest : List Char) (highSmall : high < 0x400)
    (lowSmall : low < 0x400) (number : character.toNat = 0x10000 + high * 0x400 + low)
    (first : UnitText (0xd800 + high) leading) (second : UnitText (0xdc00 + low) trailing) :
    Takes condition writtenCodePoint (leading ++ '\\' :: 'u' :: (trailing ++ rest)) character
      rest := by
  have notTrailing : isTrailingSurrogate (0xd800 + high) = false := by
    simp only [isTrailingSurrogate, Bool.and_eq_false_iff, decide_eq_false_iff_not]
    omega
  have isLeading : isLeadingSurrogate (0xd800 + high) = true := by
    simp only [isLeadingSurrogate, Bool.and_eq_true, decide_eq_true_eq]
    omega
  have isTrailing : isTrailingSurrogate (0xdc00 + low) = true := by
    simp only [isTrailingSurrogate, Bool.and_eq_true, decide_eq_true_eq]
    omega
  have combined : (0xd800 + high - 0xd800) * 0x400 + (0xdc00 + low - 0xdc00) + 0x10000 =
      character.toNat := by omega
  refine (takes_codeUnit _ first).bind ?_
  simp only [notTrailing, isLeading, Bool.false_eq_true, if_false, if_true]
  refine (takes_pairCharacter '\\' _).bind ((takes_pairCharacter 'u' _).bind ?_)
  refine (takes_codeUnit rest second).bind ?_
  simp only [isTrailing, if_true, combined, Char.ofNat_toNat]
  exact .pure character rest

/-- One character is taken before the rest of the string. -/
theorem takes_stringBehind_cons {character : Char} {spelling after rest taken result : List Char}
    {fuel : Nat} (spelled : CharacterText character spelling)
    (behind : Takes condition (stringBehind fuel (character :: taken)) after result rest) :
    Takes condition (stringBehind (fuel + 1) taken) (spelling ++ after) result rest := by
  refine (takes_peek _).bind ?_
  cases spelled with
  | plain noQuote noBackslash noControl =>
    simp only [List.cons_append, List.head?_cons, noControl, if_false]
    exact (takes_skip_one character after).bind behind
  | short form =>
    refine (takes_skip_one '\\' _).bind (.bind ?_ behind)
    refine (takes_peek _).bind ?_
    cases form with
    | quote => exact (takes_skip_one _ after).bind (.pure _ after)
    | backslash => exact (takes_skip_one _ after).bind (.pure _ after)
    | slash => exact (takes_skip_one _ after).bind (.pure _ after)
    | backspace => exact (takes_skip_one _ after).bind (.pure _ after)
    | formFeed => exact (takes_skip_one _ after).bind (.pure _ after)
    | lineFeed => exact (takes_skip_one _ after).bind (.pure _ after)
    | carriageReturn => exact (takes_skip_one _ after).bind (.pure _ after)
    | tabulator => exact (takes_skip_one _ after).bind (.pure _ after)
  | single unit =>
    refine (takes_skip_one '\\' _).bind (.bind ?_ behind)
    exact (takes_peek _).bind
      ((takes_skip_one 'u' _).bind (takes_writtenCodePoint_single after unit))
  | @pair high low leading trailing highSmall lowSmall number first second =>
    rw [List.cons_append, List.cons_append, List.append_assoc]
    refine (takes_skip_one '\\' _).bind (.bind ?_ behind)
    refine (takes_peek _).bind ((takes_skip_one 'u' _).bind ?_)
    exact takes_writtenCodePoint_pair after highSmall lowSmall number first second

theorem takes_stringBehind {characters : List Char} {spellings : List (List Char)}
    (each : List.Forall₂ CharacterText characters spellings) (rest : List Char) :
    ∀ (fuel : Nat) (taken : List Char), characters.length < fuel →
      Takes condition (stringBehind fuel taken) (spellings.flatten ++ '"' :: rest)
        (taken.reverse ++ characters) rest := by
  induction each with
  | nil =>
    intro fuel taken enough
    obtain ⟨fuel, rfl⟩ := Nat.exists_eq_succ_of_ne_zero (Nat.ne_of_gt enough)
    rw [List.append_nil]
    exact (takes_peek _).bind ((takes_skip_one '"' rest).bind (.pure _ rest))
  | @cons character spelling characters spellings spelled _ inductionHypothesis =>
    intro fuel taken enough
    obtain ⟨fuel, rfl⟩ := Nat.exists_eq_succ_of_ne_zero (Nat.ne_of_gt (Nat.zero_lt_of_lt enough))
    have behind := inductionHypothesis fuel (character :: taken) (Nat.lt_of_succ_lt_succ enough)
    rw [List.reverse_cons, List.append_assoc, List.singleton_append] at behind
    rw [List.flatten_cons, List.append_assoc]
    exact takes_stringBehind_cons spelled behind

theorem takes_string {value : String} {text : List Char} (rest : List Char)
    (writes : StringText value text) : Takes condition string (text ++ rest) value rest := by
  cases writes with
  | @quoted spellings characters =>
    have enough : value.toList.length < (spellings.flatten ++ '"' :: rest).length + 1 := by
      have bound := length_le_of_characterTexts characters
      rw [List.length_append]
      omega
    simp only [List.cons_append, List.append_assoc]
    refine (takes_skip_one '"' _).bind (Takes.get_bind fun position => ?_)
    refine (takes_stringBehind characters rest _ [] enough).bind ?_
    rw [List.reverse_nil, List.nil_append, String.ofList_toList]
    exact .pure value rest

end Reader

end FileSearch.Json
