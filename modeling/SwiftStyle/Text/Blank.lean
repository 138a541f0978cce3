/-!
White space as the character database defines it: the twenty-five characters of the property
White_Space. Trimming and cutting into words take these and no others.
-/

namespace SwiftStyle.Text

/-- Whether a character is white space. -/
def isBlank (c : Char) : Bool :=
  let n := c.toNat
  (9 ≤ n && n ≤ 13) || n == 0x20 || n == 0x85 || n == 0xa0 || n == 0x1680
    || (0x2000 ≤ n && n ≤ 0x200a) || n == 0x2028 || n == 0x2029 || n == 0x202f || n == 0x205f
    || n == 0x3000

/-- A text without the longest runs at its two ends whose characters satisfy `p`. -/
def trimBoth (p : Char → Bool) (cs : List Char) : List Char :=
  ((cs.dropWhile p).reverse.dropWhile p).reverse

/-- A text without the white space at its two ends. -/
def trim (cs : List Char) : List Char := trimBoth isBlank cs

/-- Collects words; `word` holds the characters of the current word, the last one first. -/
def wordsFrom (word : List Char) : List Char → List (List Char)
  | [] => if word.isEmpty then [] else [word.reverse]
  | c :: cs =>
    if isBlank c then
      if word.isEmpty then wordsFrom [] cs else word.reverse :: wordsFrom [] cs
    else
      wordsFrom (c :: word) cs

/-- The maximal runs of characters that are not white space, in order. -/
def words (cs : List Char) : List (List Char) := wordsFrom [] cs

end SwiftStyle.Text
