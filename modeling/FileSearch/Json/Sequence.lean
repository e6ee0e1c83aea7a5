/-
This file reads the separators of the lists and objects of a JSON text.
-/

import FileSearch.Json.Scalar

namespace FileSearch.Json.Reader

variable {Result : Type}

/-- This reader tells whether a list goes on, and stands in front of the next item if it does. The
first item has no comma in front of it. -/
def nextItem (first : Bool) : Reader Bool := do
  match ← token with
  | none => failAhead .endOfList
  | some ']' => return false
  | some ',' =>
    if first then return true
    else
      skip 1
      match ← token with
      | none => failAhead .endOfValue
      | some ']' => failAhead .trailingComma
      | some _ => return true
  | some _ => if first then return true else failAhead .expectedListSeparator

/-- This reader tells whether an object goes on, and stands in front of the quote of the next key if
it does. The first member has no comma in front of it. -/
def nextKey (first : Bool) : Reader Bool := do
  match ← token with
  | none => failAhead .endOfObject
  | some '}' => return false
  | some next =>
    if first then
      if next = '"' then return true else failAhead .keyNotString
    else if next = ',' then
      skip 1
      match ← token with
      | none => failAhead .endOfValue
      | some '"' => return true
      | some '}' => failAhead .trailingComma
      | some _ => failAhead .keyNotString
    else failAhead .expectedObjectSeparator

/-- This reader takes the colon between a key and its value. -/
def colon : Reader Unit := do
  match ← token with
  | none => failAhead .endOfObject
  | some ':' => skip 1
  | some _ => failAhead .expectedColon

/-- This reader takes the items of a list and its closing bracket. The fuel bounds the number of
items, and the items taken so far come in reverse order. -/
def itemsWithin (item : Reader Result) : Nat → Bool → List Result → Reader (List Result)
  | 0, _, _ => failAhead .endOfList
  | fuel + 1, first, taken => do
    if ← nextItem first then
      let result ← item
      itemsWithin item fuel false (result :: taken)
    else
      skip 1
      return taken.reverse

/-- This reader takes a list at its opening bracket. -/
def items (item : Reader Result) : Reader (List Result) := do
  skip 1
  itemsWithin item ((← get).rest.length + 1) true []

/-- This reader takes the members of an object and its closing brace. The fuel bounds the number of
members, and the members taken so far come in reverse order. -/
def membersWithin (value : Reader Result) :
    Nat → Bool → List (String × Result) → Reader (List (String × Result))
  | 0, _, _ => failAhead .endOfObject
  | fuel + 1, first, taken => do
    if ← nextKey first then
      let key ← string
      colon
      let result ← value
      membersWithin value fuel false ((key, result) :: taken)
    else
      skip 1
      return taken.reverse

/-- This reader takes an object at its opening brace. -/
def members (value : Reader Result) : Reader (List (String × Result)) := do
  skip 1
  membersWithin value ((← get).rest.length + 1) true []

end FileSearch.Json.Reader
