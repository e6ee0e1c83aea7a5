/-
This file tells which JSON values write an expression, and shows that these are the values that are
read as it.
-/

import FileSearch.Proofs.Expression.Entry
import FileSearch.Proofs.Json.Writing

namespace FileSearch

open Json

/-- An operator is a record of three lists of strings, each of which can be omitted. -/
def FieldOperator.Writes (value : Json) (operator : FieldOperator) : Prop :=
  ∃ entries, Record ["any", "all", "none"] value entries ∧
    Omittable (Listed IsString) (entries "any") operator.anyOf ∧
    Omittable (Listed IsString) (entries "all") operator.allOf ∧
    Omittable (Listed IsString) (entries "none") operator.noneOf

def FieldValue.Writes (value : Json) : FieldValue → Prop
  | .plain text => value = .string text
  | .operator tested => FieldOperator.Writes value tested

/-- A range is a record of two strings, each of which can be omitted. -/
def DateRange.Writes (value : Json) (range : DateRange) : Prop :=
  ∃ entries, Record ["gte", "lt"] value entries ∧
    Omittable IsString (entries "gte") range.notBefore ∧
    Omittable IsString (entries "lt") range.before

/-- A string writes a raw text. A record of the thirteen members writes a node, where each of them
can be omitted. -/
inductive Expression.Writes : Json → Expression → Prop where
  | raw (text : String) : Writes (.string text) (.raw text)
  | node {value : Json} {entries : String → Json} {node : Node Expression}
      (record : Record (Key.all.map Key.name) value entries)
      (conjuncts : Omittable (Listed Writes) (entries Key.conjuncts.name) node.conjuncts)
      (disjuncts : Omittable (Listed Writes) (entries Key.disjuncts.name) node.disjuncts)
      (negation : Omittable Writes (entries Key.negation.name) node.negation)
      (fields : ∀ field, Omittable FieldValue.Writes (entries (Key.field field).name)
        (node.conditions.fields.get field))
      (flags : ∀ flag, Omittable IsBoolean (entries (Key.flag flag).name)
        (node.conditions.flags.get flag))
      (modified : Omittable DateRange.Writes (entries Key.modified.name) node.conditions.modified)
      (rawQuery : Omittable IsString (entries Key.rawQuery.name) node.conditions.rawQuery) :
      Writes value (.node node)

theorem FieldOperator.ofJson?_eq_some_iff {value : Json} {operator : FieldOperator} :
    FieldOperator.ofJson? value = some operator ↔ FieldOperator.Writes value operator := by
  have strings : ∀ {value : Json} {entry : Option (List String)},
      value.nullable? Json.strings? = some entry ↔ Omittable (Listed IsString) value entry :=
    nullable?_eq_some_iff fun _ => strings?_eq_some_iff
  rw [FieldOperator.ofJson?]
  constructor
  · intro read
    split at read
    next anyOf allOf noneOf found =>
      obtain ⟨entries, record, same⟩ := (recordValues?_eq_some_iff (by decide)).mp found
      simp only [List.map_cons, List.map_nil, List.cons.injEq, and_true] at same
      obtain ⟨rfl, rfl, rfl⟩ := same
      simp only [Option.bind_eq_bind, Option.bind_eq_some_iff, Option.pure_def, Option.some_inj,
        strings] at read
      obtain ⟨anyOf, writesAny, allOf, writesAll, noneOf, writesNone, rfl⟩ := read
      exact ⟨entries, record, writesAny, writesAll, writesNone⟩
    next => cases read
  · rintro ⟨entries, record, writesAny, writesAll, writesNone⟩
    have found := (recordValues?_eq_some_iff (by decide)).mpr ⟨entries, record, rfl⟩
    simp only [List.map_cons, List.map_nil] at found
    rw [found]
    simp only [strings.mpr writesAny, strings.mpr writesAll, strings.mpr writesNone,
      Option.bind_eq_bind, Option.bind_some, Option.pure_def]

theorem FieldValue.ofJson?_eq_some_iff {value : Json} {tested : FieldValue} :
    FieldValue.ofJson? value = some tested ↔ FieldValue.Writes value tested := by
  by_cases string : ∃ text, value = .string text
  · obtain ⟨text, rfl⟩ := string
    cases tested with
    | plain other => simp [FieldValue.ofJson?, FieldValue.Writes]
    | operator other =>
      refine ⟨nofun, fun writes => ?_⟩
      obtain ⟨entries, record, _⟩ := writes
      cases record
  · have mapped : FieldValue.ofJson? value = (FieldOperator.ofJson? value).map .operator := by
      cases value <;> simp_all [FieldValue.ofJson?]
    rw [mapped, Option.map_eq_some_iff]
    cases tested with
    | plain text => simpa [FieldValue.Writes] using fun same => string ⟨text, same⟩
    | operator other => simp [FieldValue.Writes, FieldOperator.ofJson?_eq_some_iff]

theorem DateRange.ofJson?_eq_some_iff {value : Json} {range : DateRange} :
    DateRange.ofJson? value = some range ↔ DateRange.Writes value range := by
  have string : ∀ {value : Json} {entry : Option String},
      value.nullable? Json.string? = some entry ↔ Omittable IsString value entry :=
    nullable?_eq_some_iff fun _ => string?_eq_some_iff
  rw [DateRange.ofJson?]
  constructor
  · intro read
    split at read
    next notBefore before found =>
      obtain ⟨entries, record, same⟩ := (recordValues?_eq_some_iff (by decide)).mp found
      simp only [List.map_cons, List.map_nil, List.cons.injEq, and_true] at same
      obtain ⟨rfl, rfl⟩ := same
      simp only [Option.bind_eq_bind, Option.bind_eq_some_iff, Option.pure_def, Option.some_inj,
        string] at read
      obtain ⟨notBefore, writesFirst, before, writesLast, rfl⟩ := read
      exact ⟨entries, record, writesFirst, writesLast⟩
    next => cases read
  · rintro ⟨entries, record, writesFirst, writesLast⟩
    have found := (recordValues?_eq_some_iff (by decide)).mpr ⟨entries, record, rfl⟩
    simp only [List.map_cons, List.map_nil] at found
    rw [found]
    simp only [string.mpr writesFirst, string.mpr writesLast, Option.bind_eq_bind,
      Option.bind_some, Option.pure_def]

namespace Expression

/-- This is what a value writes under a key of a node. -/
def Key.Writes (value : Json) : (key : Key) → key.Entry → Prop
  | .conjuncts => Omittable (Listed Expression.Writes) value
  | .disjuncts => Omittable (Listed Expression.Writes) value
  | .negation => Omittable Expression.Writes value
  | .field _ => Omittable FieldValue.Writes value
  | .flag _ => Omittable IsBoolean value
  | .modified => Omittable DateRange.Writes value
  | .rawQuery => Omittable IsString value

theorem Key.name_injective : Function.Injective Key.name := by
  intro first second same
  have found := congrArg Key.ofName? same
  rw [Key.ofName?_name, Key.ofName?_name] at found
  exact Option.some.inj found

theorem writes_node_iff {value : Json} {node : Node Expression} :
    Writes value (.node node) ↔ ∃ entries, Record (Key.all.map Key.name) value entries ∧
      ∀ key : Key, key.Writes (entries key.name) (node.entry key) := by
  constructor
  · intro writes
    cases writes with
    | node record conjuncts disjuncts negation fields flags modified rawQuery =>
      refine ⟨_, record, fun key => ?_⟩
      cases key with
      | conjuncts => exact conjuncts
      | disjuncts => exact disjuncts
      | negation => exact negation
      | field field => exact fields field
      | flag flag => exact flags flag
      | modified => exact modified
      | rawQuery => exact rawQuery
  · rintro ⟨entries, record, each⟩
    exact .node record (each .conjuncts) (each .disjuncts) (each .negation)
      (fun field => each (.field field)) (fun flag => each (.flag flag)) (each .modified)
      (each .rawQuery)

theorem omittable_null_iff {Entry : Type} {Writes : Json → Entry → Prop} {entry : Option Entry} :
    Omittable Writes .null entry ↔ entry = none := by
  constructor
  · intro writes
    cases writes with
    | absent => rfl
    | present notNull => exact absurd rfl notNull
  · rintro rfl
    exact .absent

/-- The value for nothing writes the entry of the empty node. -/
theorem Key.writes_null_iff {key : Key} {entry : key.Entry} :
    key.Writes .null entry ↔ entry = Node.empty.entry key := by
  cases key with
  | field field =>
    have none : Node.empty.entry (.field field) = none := FieldMap.get_replicate none field
    rw [none]
    exact omittable_null_iff
  | flag flag =>
    have none : Node.empty.entry (.flag flag) = none := FlagMap.get_replicate none flag
    rw [none]
    exact omittable_null_iff
  | conjuncts => exact omittable_null_iff
  | disjuncts => exact omittable_null_iff
  | negation => exact omittable_null_iff
  | modified => exact omittable_null_iff
  | rawQuery => exact omittable_null_iff

/-- A value decodes where it is read as what it writes, as an expression and as a list of them. -/
structure Decodes (value : Json) : Prop where
  single : ∀ expression, ofJson? value = some expression ↔ Writes value expression
  group : ∀ expressions, groupOfJson? value = some expressions ↔ Listed Writes value expressions

/-- These are the readings of a value. -/
def readings (value : Json) : Readings :=
  ⟨fun _ => groupOfJson? value, fun _ => ofJson? value⟩

theorem entryOfJson?_eq_some_iff {value : Json} (decodes : Decodes value) {key : Key}
    {entry : key.Entry} :
    entryOfJson? value (readings value) key = some entry ↔ key.Writes value entry := by
  cases key with
  | conjuncts => exact nullable?_eq_some_iff decodes.group
  | disjuncts => exact nullable?_eq_some_iff decodes.group
  | negation => exact nullable?_eq_some_iff decodes.single
  | field field => exact nullable?_eq_some_iff fun _ => FieldValue.ofJson?_eq_some_iff
  | flag flag => exact nullable?_eq_some_iff fun _ => boolean?_eq_some_iff
  | modified => exact nullable?_eq_some_iff fun _ => DateRange.ofJson?_eq_some_iff
  | rawQuery => exact nullable?_eq_some_iff fun _ => string?_eq_some_iff

theorem place?_eq_some_iff {value : Json} (decodes : Decodes value) {key : Key}
    {node result : Node Expression} :
    place? node key value (readings value) = some result ↔
      ∃ entry, key.Writes value entry ∧ node.setEntry key entry = result := by
  rw [place?_eq, Option.map_eq_some_iff]
  simp only [entryOfJson?_eq_some_iff decodes]

/-- Each member has a key and writes the entry of the node under it. -/
def Given (members : List (String × Json)) (node : Node Expression) : Prop :=
  ∀ member ∈ members, ∃ key, Key.ofName? member.1 = some key ∧
    key.Writes member.2 (node.entry key)

/-- An entry can be changed under a key that the members do not have. -/
theorem Given.setEntry {members : List (String × Json)} {node : Node Expression}
    (given : Given members node) {key : Key} (unique : key.name ∉ members.map Prod.fst)
    (entry : key.Entry) : Given members (node.setEntry key entry) := by
  intro member inside
  obtain ⟨other, found, writes⟩ := given member inside
  have listed : other.name ∈ members.map Prod.fst :=
    Key.name_of_ofName? found ▸ List.mem_map_of_mem inside
  have different : key ≠ other := fun same => unique (same ▸ listed)
  refine ⟨other, found, ?_⟩
  rw [Node.entry_setEntry_of_ne _ _ different]
  exact writes

/-- The members of a node set the entries of their keys, and every other entry is missing. -/
theorem ofMembers?_eq_some_iff {members : List (String × Json)}
    (decodes : ∀ member ∈ members, Decodes member.2) (distinct : (members.map Prod.fst).Nodup) :
    ∀ {node : Node Expression}, ofMembers? members = some node ↔ Given members node ∧
      ∀ key : Key, key.name ∉ members.map Prod.fst → node.entry key = Node.empty.entry key := by
  induction members with
  | nil =>
    intro node
    constructor
    · rintro ⟨⟩
      exact ⟨List.forall_mem_nil _, fun _ _ => rfl⟩
    · rintro ⟨_, missing⟩
      exact congrArg some (Node.ext_entry fun key => (missing key List.not_mem_nil).symm)
  | cons member members inductionHypothesis =>
    intro node
    obtain ⟨name, value⟩ := member
    obtain ⟨decodesFirst, decodes⟩ := List.forall_mem_cons.mp decodes
    obtain ⟨unique, distinct⟩ := List.nodup_cons.mp distinct
    rw [ofMembers?]
    simp only [Option.bind_eq_bind, Option.bind_eq_some_iff]
    constructor
    · rintro ⟨key, found, parts, read, placed⟩
      obtain ⟨entry, writes, rfl⟩ := (place?_eq_some_iff decodesFirst).mp placed
      obtain ⟨given, missing⟩ := (inductionHypothesis decodes distinct).mp read
      have named : key.name = name := Key.name_of_ofName? found
      refine ⟨List.forall_mem_cons.mpr ⟨⟨key, found, ?_⟩, given.setEntry (named ▸ unique) entry⟩,
        fun other absent => ?_⟩
      · rw [Node.entry_setEntry_self]
        exact writes
      · rw [List.map_cons, List.mem_cons, not_or] at absent
        have different : key ≠ other := fun same => absent.1 (same ▸ named)
        rw [Node.entry_setEntry_of_ne _ _ different]
        exact missing other absent.2
    · rintro ⟨given, missing⟩
      obtain ⟨⟨key, found, writes⟩, given⟩ := List.forall_mem_cons.mp given
      have named : key.name = name := Key.name_of_ofName? found
      -- The node of the other members lacks the entry that the first one sets.
      let parts := node.setEntry key (Node.empty.entry key)
      have read : ofMembers? members = some parts := by
        refine (inductionHypothesis decodes distinct).mpr
          ⟨Given.setEntry given (named ▸ unique) _, fun other absent => ?_⟩
        by_cases same : key = other
        · rw [← same, Node.entry_setEntry_self]
        · rw [Node.entry_setEntry_of_ne _ _ same]
          refine missing other (List.not_mem_cons_of_ne_of_not_mem (fun equal => same ?_) absent)
          exact Key.name_injective (named.trans equal.symm)
      refine ⟨key, found, parts, read, (place?_eq_some_iff decodesFirst).mpr ⟨_, writes, ?_⟩⟩
      rw [Node.setEntry_setEntry, Node.setEntry_entry]

theorem decodes_null : Decodes .null := by
  refine ⟨fun expression => ⟨nofun, fun writes => ?_⟩, fun _ => ⟨nofun, nofun⟩⟩
  cases writes with
  | node record => cases record

theorem decodes_object {members : List (String × Json)}
    (decodes : ∀ member ∈ members, Decodes member.2) : Decodes (.object members) := by
  refine ⟨fun expression => ?_, fun _ => ⟨nofun, nofun⟩⟩
  rw [ofJson?, Option.ite_none_right_eq_some, Option.map_eq_some_iff]
  constructor
  · rintro ⟨distinct, node, read, rfl⟩
    obtain ⟨given, missing⟩ := (ofMembers?_eq_some_iff decodes distinct).mp read
    have known : ∀ member ∈ members, member.1 ∈ Key.all.map Key.name := fun member inside => by
      obtain ⟨key, found, _⟩ := given member inside
      exact Key.name_of_ofName? found ▸ List.mem_map_of_mem key.mem_all
    refine writes_node_iff.mpr ⟨_, record_lookup distinct known, fun key => ?_⟩
    by_cases here : key.name ∈ members.map Prod.fst
    · obtain ⟨member, inside, named⟩ := List.mem_map.mp here
      obtain ⟨other, found, writes⟩ := given member inside
      obtain rfl : other = key := Key.name_injective ((Key.name_of_ofName? found).trans named)
      rw [← named, lookup_eq_some_of_mem distinct inside]
      exact writes
    · rw [lookup_eq_none_of_not_mem here]
      exact Key.writes_null_iff.mpr (missing key here)
  · intro writes
    cases expression with
    | raw text => cases writes
    | node node =>
      obtain ⟨entries, record, each⟩ := writes_node_iff.mp writes
      cases record with
      | object distinct known given missing =>
        refine ⟨distinct, node, (ofMembers?_eq_some_iff decodes distinct).mpr
          ⟨fun member inside => ?_, fun key absent => ?_⟩, rfl⟩
        · obtain ⟨key, _, named⟩ := List.mem_map.mp (known member inside)
          refine ⟨key, named ▸ Key.ofName?_name key, ?_⟩
          rw [← given member inside, ← named]
          exact each key
        · have writesKey := each key
          rw [missing _ (List.mem_map_of_mem key.mem_all) absent] at writesKey
          exact Key.writes_null_iff.mp writesKey

/-- The values of a list are read like members with the keys in order. -/
theorem ofItems?_map (keys : List Key) (entries : Key → Json) :
    ofItems? keys (keys.map entries) =
      ofMembers? (keys.map fun key => (key.name, entries key)) := by
  induction keys with
  | nil => rfl
  | cons key keys inductionHypothesis =>
    rw [List.map_cons, List.map_cons, ofItems?, ofMembers?, Key.ofName?_name,
      inductionHypothesis]
    rfl

theorem length_le_of_ofItems? {items : List Json} :
    ∀ {keys : List Key} {node : Node Expression}, ofItems? keys items = some node →
      items.length ≤ keys.length := by
  induction items with
  | nil => exact fun _ => Nat.zero_le _
  | cons item items inductionHypothesis =>
    intro keys node read
    cases keys with
    | nil => cases read
    | cons key keys =>
      rw [ofItems?] at read
      obtain ⟨parts, readOthers, _⟩ := Option.bind_eq_some_iff.mp read
      exact Nat.succ_le_succ (inductionHypothesis readOthers)

/-- Values for nothing at the end of a list change nothing. -/
theorem ofItems?_padded (keys : List Key) :
    ∀ {items : List Json}, items.length ≤ keys.length →
      ofItems? keys (items ++ List.replicate (keys.length - items.length) .null) =
        ofItems? keys items := by
  have placed : ∀ key, place? Node.empty key .null (readings .null) = some Node.empty := fun key =>
    (place?_eq_some_iff decodes_null).mpr
      ⟨_, Key.writes_null_iff.mpr rfl, Node.empty.setEntry_entry key⟩
  induction keys with
  | nil =>
    intro items short
    rw [List.length_eq_zero_iff.mp (Nat.le_zero.mp short)]
    rfl
  | cons key keys inductionHypothesis =>
    intro items short
    cases items with
    | nil =>
      have others : ofItems? keys (List.replicate keys.length .null) = some Node.empty := by
        have padded := @inductionHypothesis [] (Nat.zero_le _)
        rw [List.nil_append, List.length_nil, Nat.sub_zero] at padded
        rw [padded, ofItems?]
      rw [List.nil_append, List.length_nil, Nat.sub_zero, List.length_cons, List.replicate_succ,
        ofItems?, ofItems?, others]
      exact placed key
    | cons item items =>
      rw [List.length_cons, List.length_cons, Nat.succ_sub_succ, List.cons_append, ofItems?,
        ofItems?, inductionHypothesis (Nat.le_of_succ_le_succ short)]

theorem nodup_names : (Key.all.map Key.name).Nodup := by
  decide +kernel

/-- A list that gives all keys their values is read as the node that these write. -/
theorem ofItems?_eq_some_iff {items : List Json} (decodes : ∀ item ∈ items, Decodes item)
    {entries : String → Json} (record : Record (Key.all.map Key.name) (.array items) entries)
    {node : Node Expression} :
    ofItems? Key.all items = some node ↔
      ∀ key : Key, key.Writes (entries key.name) (node.entry key) := by
  cases record with
  | array short ordered =>
    rw [List.length_map] at short ordered
    have decodesAll : ∀ key : Key, Decodes (entries key.name) := fun key => by
      have inside : entries key.name ∈ (Key.all.map Key.name).map entries :=
        List.mem_map_of_mem (List.mem_map_of_mem key.mem_all)
      rw [ordered] at inside
      obtain given | padding := List.mem_append.mp inside
      · exact decodes _ given
      · rw [List.eq_of_mem_replicate padding]
        exact decodes_null
    have members : ofItems? Key.all items =
        ofMembers? (Key.all.map fun key => (key.name, entries key.name)) := by
      rw [← ofItems?_padded Key.all short, ← ordered, List.map_map]
      exact ofItems?_map Key.all (entries ∘ Key.name)
    have names : (Key.all.map fun key => (key.name, entries key.name)).map Prod.fst =
        Key.all.map Key.name := by
      rw [List.map_map]
      rfl
    rw [members, ofMembers?_eq_some_iff (List.forall_mem_map.mpr fun key _ => decodesAll key)
      (names ▸ nodup_names)]
    constructor
    · rintro ⟨given, _⟩ key
      obtain ⟨other, found, writes⟩ := given _ (List.mem_map_of_mem key.mem_all)
      obtain rfl : other = key := Key.name_injective (Key.name_of_ofName? found)
      exact writes
    · intro each
      refine ⟨List.forall_mem_map.mpr fun key _ => ⟨key, Key.ofName?_name key, each key⟩,
        fun key absent => absurd ?_ absent⟩
      rw [names]
      exact List.mem_map_of_mem key.mem_all

theorem listOfJson?_eq_mapM (items : List Json) : listOfJson? items = items.mapM ofJson? := by
  induction items with
  | nil => rfl
  | cons item items inductionHypothesis =>
    rw [listOfJson?, List.mapM_cons, inductionHypothesis]

theorem decodes_array {items : List Json} (decodes : ∀ item ∈ items, Decodes item) :
    Decodes (.array items) := by
  refine ⟨fun expression => ?_, fun expressions => ?_⟩
  · rw [ofJson?, Option.map_eq_some_iff]
    constructor
    · rintro ⟨node, read, rfl⟩
      have short : items.length ≤ (Key.all.map Key.name).length := by
        rw [List.length_map]
        exact length_le_of_ofItems? read
      have full : (items ++ List.replicate ((Key.all.map Key.name).length - items.length)
          Json.null).length = (Key.all.map Key.name).length := by
        rw [List.length_append, List.length_replicate, Nat.add_sub_cancel' short]
      obtain ⟨entries, ordered⟩ := exists_map_eq nodup_names full
      have record := Record.array short ordered
      exact writes_node_iff.mpr ⟨entries, record, (ofItems?_eq_some_iff decodes record).mp read⟩
    · intro writes
      cases expression with
      | raw text => cases writes
      | node node =>
        obtain ⟨entries, record, each⟩ := writes_node_iff.mp writes
        exact ⟨node, (ofItems?_eq_some_iff decodes record).mpr each, rfl⟩
  · rw [groupOfJson?, listOfJson?_eq_mapM, listed_array_iff]
    exact mapM_eq_some_iff fun item inside => (decodes item inside).single

/-- Every value is read as what it writes. -/
theorem decodes (value : Json) : Decodes value := by
  induction value using Json.induct with
  | step value inductionHypothesis =>
    cases value with
    | null => exact decodes_null
    | boolean truth =>
      refine ⟨fun expression => ⟨nofun, fun writes => ?_⟩, fun _ => ⟨nofun, nofun⟩⟩
      cases writes with
      | node record => cases record
    | number numeral =>
      refine ⟨fun expression => ⟨nofun, fun writes => ?_⟩, fun _ => ⟨nofun, nofun⟩⟩
      cases writes with
      | node record => cases record
    | string text =>
      refine ⟨fun expression => ⟨?_, fun writes => ?_⟩, fun _ => ⟨nofun, nofun⟩⟩
      · rintro ⟨⟩
        exact .raw text
      · cases writes with
        | raw => rfl
        | node record => cases record
    | array items => exact decodes_array inductionHypothesis
    | object members =>
      exact decodes_object fun member inside =>
        inductionHypothesis member.2 (List.mem_map_of_mem inside)

theorem ofJson?_eq_some_iff (value : Json) (expression : Expression) :
    ofJson? value = some expression ↔ Writes value expression :=
  (decodes value).single expression

end Expression

end FileSearch
