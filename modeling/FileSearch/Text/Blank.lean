/-
This file tells white space from visible text, by the Unicode property of that name.
-/

namespace FileSearch.Text

/-- These ranges hold the characters with the Unicode property White_Space. -/
def spaceRanges : List (Nat × Nat) :=
  [(0x09, 0x0d), (0x20, 0x20), (0x85, 0x85), (0xa0, 0xa0), (0x1680, 0x1680), (0x2000, 0x200a),
    (0x2028, 0x2029), (0x202f, 0x202f), (0x205f, 0x205f), (0x3000, 0x3000)]

def isSpace (character : Char) : Bool :=
  spaceRanges.any fun range => range.1 ≤ character.toNat && character.toNat ≤ range.2

/-- A blank text holds nothing but white space. -/
def isBlank (text : List Char) : Bool :=
  text.all isSpace

/-- This function removes the white space at both ends of a text. -/
def trim (text : List Char) : List Char :=
  ((text.dropWhile isSpace).reverse.dropWhile isSpace).reverse

@[simp]
theorem isBlank_nil : isBlank [] = true := rfl

@[simp]
theorem isBlank_append (first second : List Char) :
    isBlank (first ++ second) = (isBlank first && isBlank second) := by
  simp [isBlank]

end FileSearch.Text
