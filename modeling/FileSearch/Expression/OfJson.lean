/-
This file gives JSON values the meaning of search expressions.
-/

import FileSearch.Expression.Basic
import FileSearch.Expression.Key
import FileSearch.Json.Value

namespace FileSearch

/-- A value can be left out by writing the value for nothing. -/
def Json.nullable? {Result : Type} (decode : Json → Option Result) : Json → Option (Option Result)
  | .null => some none
  | value => (decode value).map some

def Json.string? : Json → Option String
  | .string text => some text
  | _ => none

def Json.boolean? : Json → Option Bool
  | .boolean value => some value
  | _ => none

def Json.strings? : Json → Option (List String)
  | .array items => items.mapM Json.string?
  | _ => none

/-- The values of a record come as an object with some of the known keys, each at most once, or as a
list of the first values. This function gives one value for each known key, and nothing for a key
without a value. -/
def Json.recordValues? (keys : List String) : Json → Option (List Json)
  | .object members =>
    if (members.map Prod.fst).Nodup ∧ ∀ member ∈ members, member.1 ∈ keys then
      some (keys.map fun key => (members.lookup key).getD .null)
    else none
  | .array items =>
    if items.length ≤ keys.length then
      some (items ++ List.replicate (keys.length - items.length) .null)
    else none
  | _ => none

/-- An operator has three value lists, each of which can be left out. -/
def FieldOperator.ofJson? (value : Json) : Option FieldOperator :=
  match value.recordValues? ["any", "all", "none"] with
  | some [anyOf, allOf, noneOf] => do
    let anyOf ← anyOf.nullable? Json.strings?
    let allOf ← allOf.nullable? Json.strings?
    let noneOf ← noneOf.nullable? Json.strings?
    return ⟨anyOf, allOf, noneOf⟩
  | _ => none

def FieldValue.ofJson? : Json → Option FieldValue
  | .string text => some (.plain text)
  | value => (FieldOperator.ofJson? value).map .operator

/-- A range has two bounds, each of which can be left out. -/
def DateRange.ofJson? (value : Json) : Option DateRange :=
  match value.recordValues? ["gte", "lt"] with
  | some [notBefore, before] => do
    let notBefore ← notBefore.nullable? Json.string?
    let before ← before.nullable? Json.string?
    return ⟨notBefore, before⟩
  | _ => none

namespace Conditions

/-- This function sets one condition from its value. Keys of other members set nothing. -/
def place? (conditions : Conditions) (value : Json) : Expression.Key → Option Conditions
  | .field field => do
    let entry ← value.nullable? FieldValue.ofJson?
    return { conditions with fields := conditions.fields.set field entry }
  | .flag flag => do
    let entry ← value.nullable? Json.boolean?
    return { conditions with flags := conditions.flags.set flag entry }
  | .modified => do
    let entry ← value.nullable? DateRange.ofJson?
    return { conditions with modified := entry }
  | .rawQuery => do
    let entry ← value.nullable? Json.string?
    return { conditions with rawQuery := entry }
  | .conjuncts => some conditions
  | .disjuncts => some conditions
  | .negation => some conditions

end Conditions

namespace Expression

/-- These are the ways to read a value as the parts of a node that hold expressions. -/
structure Readings where
  group : Unit → Option (List Expression)
  single : Unit → Option Expression

/-- This function sets one member of a node from its value. -/
def place? (node : Node Expression) (key : Key) (value : Json) (readings : Readings) :
    Option (Node Expression) :=
  match key, value with
  | .conjuncts, .null => some { node with conjuncts := none }
  | .disjuncts, .null => some { node with disjuncts := none }
  | .negation, .null => some { node with negation := none }
  | .conjuncts, _ => (readings.group ()).map fun group => { node with conjuncts := some group }
  | .disjuncts, _ => (readings.group ()).map fun group => { node with disjuncts := some group }
  | .negation, _ => (readings.single ()).map fun single => { node with negation := some single }
  | _, _ =>
    (node.conditions.place? value key).map fun conditions => { node with conditions := conditions }

mutual

/-- A string is a raw text. An object with known keys, each at most once, is a node, and so is a
list of the first values of a node. Nothing else is an expression. -/
def ofJson? : Json → Option Expression
  | .string text => some (.raw text)
  | .object members =>
    if (members.map Prod.fst).Nodup then (ofMembers? members).map .node else none
  | .array items => (ofItems? Key.all items).map .node
  | .null => none
  | .boolean _ => none
  | .number _ => none

/-- This function reads a list of expressions. -/
def groupOfJson? : Json → Option (List Expression)
  | .array items => listOfJson? items
  | .object _ => none
  | .string _ => none
  | .null => none
  | .boolean _ => none
  | .number _ => none

def listOfJson? : List Json → Option (List Expression)
  | [] => some []
  | item :: items => do
    let child ← ofJson? item
    let children ← listOfJson? items
    return child :: children

/-- This function reads the members of a node by their keys. -/
def ofMembers? : List (String × Json) → Option (Node Expression)
  | [] => some Node.empty
  | (name, value) :: members => do
    let key ← Key.ofName? name
    let node ← ofMembers? members
    place? node key value ⟨fun _ => groupOfJson? value, fun _ => ofJson? value⟩

/-- This function reads the values of a node in the order of their keys. -/
def ofItems? : List Key → List Json → Option (Node Expression)
  | _, [] => some Node.empty
  | [], _ :: _ => none
  | key :: keys, value :: values => do
    let node ← ofItems? keys values
    place? node key value ⟨fun _ => groupOfJson? value, fun _ => ofJson? value⟩

end

end Expression

end FileSearch
