/-
This file cuts a text into clusters, which a reader sees as one character each.
-/

import FileSearch.Text.Cluster.Role

namespace FileSearch.Text

namespace Cluster

/-- A mark between two consonants does not part them, unless it is the one that forbids joining. -/
def isTransparent (character : Char) : Bool :=
  character ≠ '\u200c' && [.mark, .linker, .joiner].contains (Role.of character)

/-- This function tells whether a consonant and marks with a linker end the cluster. -/
def awaitsConsonant (cluster : List Char) : Bool :=
  let marks := cluster.takeWhile isTransparent
  marks.any (Role.of · = .linker) &&
    (cluster.drop marks.length).head?.any (Role.of · = .consonant)

/-- This function tells whether a picture and marks end the cluster. -/
def endsInPicture (cluster : List Char) : Bool :=
  (cluster.dropWhile fun character => [.mark, .linker].contains (Role.of character)).head?.any
    (Role.of · = .picture)

/-- This function tells whether a character belongs to the cluster before it. The cluster has its
last character first. -/
def takes : List Char → Char → Bool
  | [], _ => true
  | last :: earlier, next =>
    match Role.of last, Role.of next with
    | .control, _ => last = '\r' && next = '\n'
    | _, .control => false
    | _, .mark | _, .linker | _, .joiner | _, .spacing => true
    | .leading, _ => true
    | .initial, .initial | .initial, .medial | .initial, .openSyllable
    | .initial, .closedSyllable => true
    | .medial, .medial | .medial, .final => true
    | .openSyllable, .medial | .openSyllable, .final => true
    | .closedSyllable, .final | .final, .final => true
    | .joiner, .picture => endsInPicture earlier
    | _, .consonant => awaitsConsonant (last :: earlier)
    | .regional, .regional => !earlier.head?.any (Role.of · = .regional)
    | _, _ => false

/-- The clusters and their characters have the last one first. -/
def push (clusters : List (List Char)) (next : Char) : List (List Char) :=
  match clusters with
  | [] => [[next]]
  | cluster :: earlier =>
    if takes cluster next then (next :: cluster) :: earlier else [next] :: cluster :: earlier

end Cluster

def clusters (text : List Char) : List (List Char) :=
  ((text.foldl Cluster.push []).map List.reverse).reverse

theorem flatten_push (clusters : List (List Char)) (next : Char) :
    (Cluster.push clusters next).flatten = next :: clusters.flatten := by
  unfold Cluster.push
  split
  · rfl
  · split <;> rfl

theorem flatten_foldl_push (text : List Char) (clusters : List (List Char)) :
    (text.foldl Cluster.push clusters).flatten = text.reverse ++ clusters.flatten := by
  induction text generalizing clusters with
  | nil => rfl
  | cons next rest inductionHypothesis =>
    rw [List.foldl_cons, inductionHypothesis, flatten_push]
    simp

/-- No character is lost. -/
theorem flatten_clusters (text : List Char) : (clusters text).flatten = text := by
  rw [clusters, ← List.reverse_flatten, flatten_foldl_push]
  simp

end FileSearch.Text
