/-
This file cuts a text into lines.
-/

namespace FileSearch.Text

/-- Every line break ends a line, and what stands behind the last one is a line unless it is
empty. A carriage return before a line feed belongs to the break. -/
def lines : List Char → List (List Char)
  | [] => []
  | '\n' :: rest => [] :: lines rest
  | '\r' :: '\n' :: rest => [] :: lines rest
  | character :: rest =>
    match lines rest with
    | [] => [[character]]
    | line :: others => (character :: line) :: others

/-- A line holds characters of the text only. -/
theorem mem_of_mem_lines {text line : List Char} {character : Char} (found : line ∈ lines text)
    (inside : character ∈ line) : character ∈ text := by
  fun_induction lines text generalizing line with
  | case1 => cases found
  | case2 rest inductionHypothesis =>
    obtain rfl | found := List.mem_cons.mp found
    · cases inside
    · exact List.mem_cons_of_mem _ (inductionHypothesis found inside)
  | case3 rest inductionHypothesis =>
    obtain rfl | found := List.mem_cons.mp found
    · cases inside
    · exact List.mem_cons_of_mem _ (List.mem_cons_of_mem _ (inductionHypothesis found inside))
  | case4 first rest _ _ none inductionHypothesis =>
    rw [List.mem_singleton.mp found] at inside
    rw [List.mem_singleton.mp inside]
    exact List.mem_cons_self
  | case5 first rest _ _ last others more inductionHypothesis =>
    rw [more] at inductionHypothesis
    obtain rfl | found := List.mem_cons.mp found
    · obtain rfl | inside := List.mem_cons.mp inside
      · exact List.mem_cons_self
      · exact List.mem_cons_of_mem _ (inductionHypothesis List.mem_cons_self inside)
    · exact List.mem_cons_of_mem _ (inductionHypothesis (List.mem_cons_of_mem _ found) inside)

end FileSearch.Text
