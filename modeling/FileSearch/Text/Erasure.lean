/-
This file takes back what a typed line erases.
-/

import FileSearch.Text.Cluster

namespace FileSearch.Text

/-- A typed text has its last character first, and so have the sizes of its clusters. -/
structure Typed where
  characters : List Char
  sizes : List Nat

namespace Typed

def empty : Typed := ⟨[], []⟩

/-- The size of a cluster counts its bytes and is held in one byte. -/
def clusterSize (cluster : List Char) : Nat :=
  cluster.foldl (fun size character => size + character.utf8Size) 0 % 256

/-- This function drops bytes from the front and gives nothing if that cuts a character. -/
def dropBytes? : Nat → List Char → Option (List Char)
  | 0, characters => some characters
  | _ + 1, [] => none
  | size + 1, character :: rest =>
    if character.utf8Size ≤ size + 1 then dropBytes? (size + 1 - character.utf8Size) rest else none

/-- A backspace takes back the size of the last cluster that it finds. -/
def add? (typed : Typed) (cluster : List Char) : Option Typed :=
  if cluster = ['\x08'] then
    match typed.sizes with
    | [] => some typed
    | size :: sizes => (dropBytes? size typed.characters).map (⟨·, sizes⟩)
  else some ⟨cluster.reverse ++ typed.characters, clusterSize cluster :: typed.sizes⟩

theorem foldlM_add? (clusters : List (List Char)) (typed : Typed) (plain : ['\x08'] ∉ clusters) :
    (clusters.foldlM add? typed).map (·.characters) =
      some (clusters.flatten.reverse ++ typed.characters) := by
  induction clusters generalizing typed with
  | nil => rfl
  | cons cluster rest inductionHypothesis =>
    rw [List.mem_cons, not_or] at plain
    have step : typed.add? cluster = some ⟨cluster.reverse ++ typed.characters, _⟩ :=
      if_neg (Ne.symm plain.1)
    rw [List.foldlM_cons, step, Option.bind_eq_bind, Option.bind_some,
      inductionHypothesis _ plain.2]
    simp

end Typed

/-- This is the text that all backspaces leave. -/
def erased? (text : List Char) : Option (List Char) :=
  ((clusters text).foldlM Typed.add? Typed.empty).map (·.characters.reverse)

/-- A text without a backspace is left as it is. -/
theorem erased?_of_not_mem (text : List Char) (plain : '\x08' ∉ text) :
    erased? text = some text := by
  have absent : ['\x08'] ∉ clusters text := fun found =>
    plain (flatten_clusters text ▸ List.mem_flatten.2 ⟨_, found, List.mem_singleton.2 rfl⟩)
  have left := congrArg (Option.map List.reverse) (Typed.foldlM_add? _ Typed.empty absent)
  rw [flatten_clusters, Option.map_map, Option.map_some, Typed.empty, List.append_nil,
    List.reverse_reverse] at left
  exact left

end FileSearch.Text
