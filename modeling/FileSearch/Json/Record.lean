/-
This file reads records with named members from a JSON text, without building its values first.
-/

import FileSearch.Json.Skim

namespace FileSearch.Json

/-- A member has a key and a reader for the change that its value makes to the record. -/
structure Member (Record : Type) where
  key : String
  change : Reader (Record → Record)

/-- A member without a place in the record is passed over or refused. -/
inductive Strays where
  | skimmed
  | refused

/-- This is the form of a record: its name in messages, its members in order, what happens to other
members, and the record that has none of them. -/
structure Form (Record : Type) where
  title : String
  members : List (Member Record)
  strays : Strays
  empty : Record

namespace Reader

variable {Result Record : Type}

/-- A value of another kind is refused behind its text, or in front of it if it holds others. -/
def wrongKind (expected : String) : Reader Result := do
  match ← token with
  | none => failAhead .endOfValue
  | some '[' => failHere (.wrongKind (.array []) expected)
  | some '{' => failHere (.wrongKind (.object []) expected)
  | some first =>
    match ← scalar? first with
    | some found => failHere (.wrongKind found expected)
    | none => failAhead .expectedValue

/-- This reader takes a string and nothing else. -/
def text : Reader String := do
  match ← token with
  | some '"' => string
  | _ => wrongKind "a string"

/-- This reader takes one of the two truth values. -/
def truth : Reader Bool := do
  match ← token with
  | some 't' =>
    letters ['t', 'r', 'u', 'e']
    return true
  | some 'f' =>
    letters ['f', 'a', 'l', 's', 'e']
    return false
  | _ => wrongKind "a boolean"

/-- This reader takes a list whose items all have the same kind. -/
def list (item : Reader Result) : Reader (List Result) := do
  match ← token with
  | some '[' => items item
  | _ => wrongKind "a sequence"

/-- This reader also takes the value that stands for nothing. -/
def optional (value : Reader Result) : Reader (Option Result) := do
  match ← token with
  | some 'n' =>
    letters ['n', 'u', 'l', 'l']
    return none
  | _ => return some (← value)

/-- A key is refused behind the gap that follows it, and behind a brace that closes the record
there. -/
def refuseKey (cause : Cause) : Reader Result := do
  if (← token) = some '}' then skip 1
  failHere cause

/-- This reader takes the members of a record in any order, each at most once. The fuel bounds the
number of members, and the keys taken so far are listed. -/
def namedMembers (form : Form Record) : Nat → Bool → List String → Record → Reader Record
  | 0, _, _, _ => failAhead .endOfObject
  | fuel + 1, first, taken, record => do
    if ← nextKey first then
      let key ← string
      match form.members.find? (·.key = key) with
      | some member =>
        if taken.contains key then refuseKey (.duplicateKey key)
        else
          colon
          let change ← member.change
          namedMembers form fuel false (key :: taken) (change record)
      | none =>
        match form.strays with
        | .refused => refuseKey (.unknownKey key (form.members.map (·.key)))
        | .skimmed =>
          colon
          skimValue
          namedMembers form fuel false taken record
    else
      skip 1
      return record

/-- This reader takes the closing bracket of a record that is written as a list. -/
def closeList : Reader Unit := do
  match ← token with
  | none => failAhead .endOfList
  | some ']' => skip 1
  | some ',' =>
    skip 1
    if (← token) = some ']' then failAhead .trailingComma else failAhead .trailingCharacters
  | some _ => failAhead .trailingCharacters

/-- This reader takes the values of the members in order; the last ones can be left out. -/
def orderedMembers : List (Member Record) → Bool → Record → Reader Record
  | [], _, record => do
    closeList
    return record
  | member :: members, first, record => do
    if ← nextItem first then
      let change ← member.change
      orderedMembers members false (change record)
    else
      closeList
      return record

/-- This reader takes a record as an object of its members or as a list of their values. -/
def record (form : Form Record) : Reader Record := do
  match ← token with
  | some '{' =>
    skip 1
    namedMembers form ((← get).rest.length + 1) true [] form.empty
  | some '[' =>
    skip 1
    orderedMembers form.members true form.empty
  | _ => wrongKind form.title

end Reader

end FileSearch.Json
