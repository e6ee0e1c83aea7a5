/-
This file tells what JSON values write: an entry that can be omitted, a list of entries, or a record
with known keys. A record names no order and no spelling; it only has a value under each key.
-/

import FileSearch.Expression.OfJson
import FileSearch.Proofs.Json.Nesting
import Mathlib.Data.List.Forall2
import Mathlib.Data.List.Nodup

namespace FileSearch.Json

variable {Entry : Type}

def IsString (value : Json) (text : String) : Prop :=
  value = .string text

def IsBoolean (value : Json) (truth : Bool) : Prop :=
  value = .boolean truth

/-- An entry is omitted by writing the value for nothing. -/
inductive Omittable (Writes : Json → Entry → Prop) : Json → Option Entry → Prop where
  | absent : Omittable Writes .null none
  | present {value : Json} {entry : Entry} (notNull : value ≠ .null) (writes : Writes value entry) :
      Omittable Writes value (some entry)

/-- A list of values writes the list of their entries. -/
inductive Listed (Writes : Json → Entry → Prop) : Json → List Entry → Prop where
  | items {values : List Json} {entries : List Entry}
      (each : List.Forall₂ Writes values entries) : Listed Writes (.array values) entries

/-- A record has a value under each of the known keys. An object gives values to some of them, each
at most once, and to no others; a list gives values to the first ones in order. A key that gets no
value has the one for nothing. -/
inductive Record (keys : List String) : Json → (String → Json) → Prop where
  | object {members : List (String × Json)} {entries : String → Json}
      (distinct : (members.map Prod.fst).Nodup) (known : ∀ member ∈ members, member.1 ∈ keys)
      (given : ∀ member ∈ members, entries member.1 = member.2)
      (missing : ∀ key ∈ keys, key ∉ members.map Prod.fst → entries key = .null) :
      Record keys (.object members) entries
  | array {items : List Json} {entries : String → Json} (short : items.length ≤ keys.length)
      (ordered : keys.map entries = items ++ List.replicate (keys.length - items.length) .null) :
      Record keys (.array items) entries

theorem string?_eq_some_iff {value : Json} {text : String} :
    value.string? = some text ↔ IsString value text := by
  cases value <;> simp [string?, IsString]

theorem boolean?_eq_some_iff {value : Json} {truth : Bool} :
    value.boolean? = some truth ↔ IsBoolean value truth := by
  cases value <;> simp [boolean?, IsBoolean]

section

variable {decode : Json → Option Entry} {Writes : Json → Entry → Prop}

theorem nullable?_eq_some_iff {value : Json} {entry : Option Entry}
    (decodes : ∀ entry, decode value = some entry ↔ Writes value entry) :
    value.nullable? decode = some entry ↔ Omittable Writes value entry := by
  by_cases null : value = .null
  · rw [null, nullable?]
    constructor
    · rintro ⟨⟩
      exact .absent
    · intro writes
      cases writes with
      | absent => rfl
      | present notNull => exact absurd rfl notNull
  · have mapped : value.nullable? decode = (decode value).map some := by
      cases value <;> simp_all [nullable?]
    rw [mapped, Option.map_eq_some_iff]
    constructor
    · rintro ⟨entry, found, rfl⟩
      exact .present null ((decodes entry).mp found)
    · intro writes
      cases writes with
      | absent => exact absurd rfl null
      | @present _ entry _ writes => exact ⟨entry, (decodes entry).mpr writes, rfl⟩

theorem mapM_eq_some_iff {values : List Json}
    (decodes : ∀ value ∈ values, ∀ entry, decode value = some entry ↔ Writes value entry) :
    ∀ {entries : List Entry},
      values.mapM decode = some entries ↔ List.Forall₂ Writes values entries := by
  induction values with
  | nil =>
    intro entries
    rw [List.mapM_nil, List.forall₂_nil_left_iff]
    exact Option.some_inj.trans eq_comm
  | cons value values inductionHypothesis =>
    intro entries
    obtain ⟨decodesFirst, decodes⟩ := List.forall_mem_cons.mp decodes
    simp only [List.mapM_cons, Option.bind_eq_bind, Option.bind_eq_some_iff, decodesFirst,
      inductionHypothesis decodes, List.forall₂_cons_left_iff, Option.pure_def, Option.some_inj]
    simp only [eq_comm, exists_and_left]

end

theorem listed_array_iff {Writes : Json → Entry → Prop} {values : List Json}
    {entries : List Entry} :
    Listed Writes (.array values) entries ↔ List.Forall₂ Writes values entries := by
  constructor
  · rintro ⟨each⟩
    exact each
  · exact .items

theorem strings?_eq_some_iff {value : Json} {texts : List String} :
    value.strings? = some texts ↔ Listed IsString value texts := by
  cases value with
  | array items =>
    exact (mapM_eq_some_iff fun _ _ _ => string?_eq_some_iff).trans listed_array_iff.symm
  | null => exact ⟨nofun, nofun⟩
  | boolean truth => exact ⟨nofun, nofun⟩
  | number numeral => exact ⟨nofun, nofun⟩
  | string text => exact ⟨nofun, nofun⟩
  | object members => exact ⟨nofun, nofun⟩

theorem lookup_eq_some_of_mem {members : List (String × Json)}
    (distinct : (members.map Prod.fst).Nodup) {member : String × Json} (found : member ∈ members) :
    members.lookup member.1 = some member.2 := by
  induction members with
  | nil => cases found
  | cons first members inductionHypothesis =>
    obtain ⟨unique, distinct⟩ := List.nodup_cons.mp distinct
    rw [List.lookup_cons]
    obtain rfl | found := List.mem_cons.mp found
    · rw [beq_self_eq_true]
    · have other : member.1 ≠ first.1 :=
        ne_of_mem_of_not_mem (List.mem_map_of_mem found) unique
      rw [beq_false_of_ne other]
      exact inductionHypothesis distinct found

/-- Values can be given to distinct keys in order. -/
theorem exists_map_eq {keys : List String} (distinct : keys.Nodup) :
    ∀ {values : List Json}, values.length = keys.length →
      ∃ entries : String → Json, keys.map entries = values := by
  induction keys with
  | nil =>
    intro values length
    exact ⟨fun _ => .null, (List.length_eq_zero_iff.mp length).symm⟩
  | cons key keys inductionHypothesis =>
    intro values length
    obtain ⟨unique, distinct⟩ := List.nodup_cons.mp distinct
    cases values with
    | nil => cases length
    | cons value values =>
      obtain ⟨entries, same⟩ := inductionHypothesis distinct (Nat.succ.inj length)
      refine ⟨Function.update entries key value, ?_⟩
      rw [List.map_cons, Function.update_self, ← same]
      refine congrArg (value :: ·) (List.map_congr_left fun other found => ?_)
      exact Function.update_of_ne (ne_of_mem_of_not_mem found unique) value entries

theorem lookup_eq_none_of_not_mem {members : List (String × Json)} {key : String}
    (missing : key ∉ members.map Prod.fst) : members.lookup key = none := by
  refine List.lookup_eq_none_iff.mpr fun member found => bne_iff_ne.mpr ?_
  exact (ne_of_mem_of_not_mem (List.mem_map_of_mem found) missing).symm

/-- The values of an object can be looked up by their keys. -/
theorem record_lookup {keys : List String} {members : List (String × Json)}
    (distinct : (members.map Prod.fst).Nodup) (known : ∀ member ∈ members, member.1 ∈ keys) :
    Record keys (.object members) fun key => (members.lookup key).getD .null := by
  refine .object distinct known (fun member found => ?_) fun key _ missing => ?_
  · rw [lookup_eq_some_of_mem distinct found, Option.getD_some]
  · rw [lookup_eq_none_of_not_mem missing, Option.getD_none]

/-- The values of a record are the ones under its keys, in the order of the keys. -/
theorem recordValues?_eq_some_iff {keys : List String} (distinct : keys.Nodup) {value : Json}
    {values : List Json} :
    value.recordValues? keys = some values ↔
      ∃ entries, Record keys value entries ∧ keys.map entries = values := by
  cases value with
  | object members =>
    rw [recordValues?, Option.ite_none_right_eq_some]
    constructor
    · rintro ⟨⟨unique, known⟩, same⟩
      exact ⟨_, record_lookup unique known, Option.some.inj same⟩
    · rintro ⟨entries, writes, rfl⟩
      cases writes with
      | object unique known given missing =>
        refine ⟨⟨unique, known⟩, congrArg some (List.map_congr_left fun key listed => ?_)⟩
        by_cases here : key ∈ members.map Prod.fst
        · obtain ⟨member, found, rfl⟩ := List.mem_map.mp here
          rw [lookup_eq_some_of_mem unique found, Option.getD_some, given member found]
        · rw [missing key listed here, lookup_eq_none_of_not_mem here, Option.getD_none]
  | array items =>
    rw [recordValues?, Option.ite_none_right_eq_some]
    constructor
    · rintro ⟨short, same⟩
      have length : (items ++ List.replicate (keys.length - items.length) Json.null).length =
          keys.length := by
        rw [List.length_append, List.length_replicate]
        omega
      obtain ⟨entries, ordered⟩ := exists_map_eq distinct length
      exact ⟨entries, .array short ordered, ordered.trans (Option.some.inj same)⟩
    · rintro ⟨entries, writes, rfl⟩
      cases writes with
      | array short ordered => exact ⟨short, congrArg some ordered.symm⟩
  | null => exact ⟨nofun, nofun⟩
  | boolean truth => exact ⟨nofun, nofun⟩
  | number numeral => exact ⟨nofun, nofun⟩
  | string text => exact ⟨nofun, nofun⟩

/-- Each value directly inside a record is the one under some key. -/
theorem Record.exists_key {keys : List String} {value child : Json} {entries : String → Json}
    (record : Record keys value entries) (member : child ∈ value.children) :
    ∃ key ∈ keys, entries key = child := by
  cases record with
  | object distinct known given missing =>
    obtain ⟨entry, found, rfl⟩ := List.mem_map.mp member
    exact ⟨entry.1, known entry found, given entry found⟩
  | array short ordered =>
    exact List.mem_map.mp (ordered ▸ List.mem_append_left _ member)

theorem Record.ne_null {keys : List String} {value : Json} {entries : String → Json}
    (record : Record keys value entries) : value ≠ .null := by
  rintro rfl
  cases record

/-- A record has one value under each known key. -/
theorem Record.unique {keys : List String} {value : Json} {first second : String → Json}
    (recordFirst : Record keys value first) (recordSecond : Record keys value second) :
    ∀ key ∈ keys, first key = second key := by
  cases recordFirst with
  | @object members _ _ _ givenFirst missingFirst =>
    cases recordSecond with
    | object _ _ givenSecond missingSecond =>
      intro key known
      by_cases here : key ∈ members.map Prod.fst
      · obtain ⟨member, found, rfl⟩ := List.mem_map.mp here
        rw [givenFirst member found, givenSecond member found]
      · rw [missingFirst key known here, missingSecond key known here]
  | array _ orderedFirst =>
    cases recordSecond with
    | array _ orderedSecond =>
      exact List.map_inj_left.mp (orderedFirst.trans orderedSecond.symm)

/-- A key whose value is not directly inside the record has the value for nothing. -/
theorem Record.mem_children_or_null {keys : List String} {value : Json} {entries : String → Json}
    (record : Record keys value entries) {key : String} (known : key ∈ keys) :
    entries key ∈ value.children ∨ entries key = .null := by
  cases record with
  | @object members _ _ _ given missing =>
    by_cases here : key ∈ members.map Prod.fst
    · obtain ⟨member, found, rfl⟩ := List.mem_map.mp here
      rw [given member found]
      exact .inl (List.mem_map_of_mem found)
    · exact .inr (missing key known here)
  | array _ ordered =>
    have inside := List.mem_map_of_mem (f := entries) known
    rw [ordered] at inside
    exact (List.mem_append.mp inside).imp_right List.eq_of_mem_replicate

end FileSearch.Json
