/-!
Patterns for names and paths. A star stands for any run of characters, a question mark for one
character, brackets for one of those they list, and two stars, where they are a whole component of
a path, for any number of directories.
-/

namespace SwiftStyle.Glob

/-- A part of a pattern. -/
inductive Piece where
  | character (c : Char)
  | anyCharacter
  | anyRun
  | anyDirectories
  /-- One character from one of some ranges, both ends included. -/
  | within (ranges : List (Char × Char))
  /-- One character from none of some ranges. -/
  | except (ranges : List (Char × Char))
  deriving DecidableEq, Repr

/-- A pattern: its parts, from left to right. -/
abbrev Pattern := List Piece

/-- What is wrong with a pattern. -/
inductive Problem where
  | tooManyStars
  | starsInName
  | brackets
  deriving DecidableEq, Repr

/-- What is wrong with a pattern, and at which of its characters. -/
structure SyntaxError where
  position : Nat
  problem : Problem
  deriving DecidableEq, Repr

/-- What is wrong with a pattern, in words. -/
def Problem.describe : Problem → String
  | tooManyStars => "wildcards are either regular `*` or recursive `**`"
  | starsInName => "recursive wildcards must form a single path component"
  | brackets => "invalid range pattern"

/-- What is wrong with a pattern and where, in words. -/
def SyntaxError.message (error : SyntaxError) : String :=
  s!"Pattern syntax error near position {error.position}: {error.problem.describe}"

/-- The ranges that the text between brackets lists. A dash between two characters makes a range
of them; any other character stands for itself. -/
def rangesOf : List Char → List (Char × Char)
  | first :: '-' :: last :: cs => (first, last) :: rangesOf cs
  | c :: cs => (c, c) :: rangesOf cs
  | [] => []

/-- A text around its first closing bracket. -/
def splitBracket? : List Char → Option (List Char × List Char)
  | [] => none
  | c :: cs =>
    if c = ']' then some ([], cs)
    else (splitBracket? cs).map fun (inside, rest) => (c :: inside, rest)

/-- The piece that an opening bracket starts, the number of its characters, and what comes after
it. The first character inside stands for itself even if it is a closing bracket. -/
def bracket? : List Char → Option (Piece × Nat × List Char)
  | '!' :: c :: cs =>
    (splitBracket? cs).map fun (inside, rest) =>
      (.except (rangesOf (c :: inside)), inside.length + 4, rest)
  | '!' :: [] => none
  | c :: cs =>
    (splitBracket? cs).map fun (inside, rest) =>
      (.within (rangesOf (c :: inside)), inside.length + 3, rest)
  | [] => none

theorem length_of_splitBracket? {cs inside rest : List Char}
    (h : splitBracket? cs = some (inside, rest)) : rest.length < cs.length := by
  induction cs generalizing inside rest with
  | nil => simp [splitBracket?] at h
  | cons c cs ih =>
    simp only [splitBracket?] at h
    split at h
    · simp_all
    · obtain ⟨⟨l, r⟩, hl, heq⟩ := Option.map_eq_some_iff.1 h
      obtain ⟨rfl, rfl⟩ := Prod.mk.inj heq
      have := ih hl
      simp only [List.length_cons]
      omega

theorem length_of_bracket? {cs rest : List Char} {piece : Piece} {n : Nat}
    (h : bracket? cs = some (piece, n, rest)) : rest.length < cs.length := by
  unfold bracket? at h
  split at h
  all_goals first
    | contradiction
    | (obtain ⟨⟨l, r⟩, hl, heq⟩ := Option.map_eq_some_iff.1 h
       simp only [Prod.mk.injEq] at heq
       obtain ⟨-, -, rfl⟩ := heq
       have := length_of_splitBracket? hl
       simp only [List.length_cons]
       omega)

/-- Reads the rest of a pattern, given the position of its first character and the character
before it. Two stars in a row have to be a whole component; the slash after them belongs to
them. -/
def parseFrom (position : Nat) (previous : Option Char) :
    List Char → Except SyntaxError Pattern
  | [] => .ok []
  | '?' :: cs => do return .anyCharacter :: (← parseFrom (position + 1) (some '?') cs)
  | '*' :: '*' :: '*' :: _ => .error ⟨position + 2, .tooManyStars⟩
  | '*' :: '*' :: cs =>
    if previous = none || previous = some '/' then
      match cs with
      | [] => .ok [.anyDirectories]
      | c :: rest =>
        if c = '/' then do
          return .anyDirectories :: (← parseFrom (position + 3) (some '/') rest)
        else .error ⟨position + 2, .starsInName⟩
    else .error ⟨position - 1, .starsInName⟩
  | '*' :: cs => do return .anyRun :: (← parseFrom (position + 1) (some '*') cs)
  | '[' :: cs =>
    match h : bracket? cs with
    | some (piece, length, rest) => do
      have := length_of_bracket? h
      return piece :: (← parseFrom (position + length) (some ']') rest)
    | none => .error ⟨position, .brackets⟩
  | c :: cs => do return .character c :: (← parseFrom (position + 1) (some c) cs)
termination_by cs => cs.length
decreasing_by all_goals simp only [List.length_cons] at *; omega

/-- The pattern that a text writes. -/
def parse (text : List Char) : Except SyntaxError Pattern := parseFrom 0 none text

/-- Whether some range holds a character. -/
def inRanges (ranges : List (Char × Char)) (c : Char) : Bool :=
  ranges.any fun (first, last) => first ≤ c && c ≤ last

/-- A text and everything that is left of it when characters are taken off the front. -/
def tails : List Char → List (List Char)
  | [] => [[]]
  | c :: cs => (c :: cs) :: tails cs

/-- What is left of a text after each slash, and in the end nothing. -/
def tailsAfterSlash : List Char → List (List Char)
  | [] => [[]]
  | c :: cs => if c = '/' then cs :: tailsAfterSlash cs else tailsAfterSlash cs

/-- Whether a piece that stands for one character stands for this one. -/
def Piece.admits : Piece → Char → Bool
  | .character d, c => c = d
  | .anyCharacter, _ => true
  | .within ranges, c => inRanges ranges c
  | .except ranges, c => !inRanges ranges c
  | .anyRun, _ | .anyDirectories, _ => false

/-- For each tail of a text whether some tail of that has the answer `true`, given the answers for
the tails. -/
def anyLater : List Bool → List Bool
  | [] => []
  | answer :: answers =>
    let later := anyLater answers
    (answer || later.headD false) :: later

/-- For each tail of a text whether one has the answer `true` among those after its slashes and
the empty one, given the answers for the tails. -/
def anyAfterSlash : List Char → List Bool → List Bool
  | c :: cs, _ :: answers =>
    let later := anyAfterSlash cs answers
    ((c = '/' && answers.headD false) || later.headD false) :: later
  | _, answers => answers

/-- For each tail of a text whether a piece and a pattern after it accept that tail, given the
answers for the pattern alone. -/
def Piece.extend (piece : Piece) (cs : List Char) (answers : List Bool) : List Bool :=
  match piece with
  | .anyRun => anyLater answers
  | .anyDirectories => List.zipWith (· || ·) answers (anyAfterSlash cs answers)
  | piece => List.zipWith (fun c answer => piece.admits c && answer) cs answers.tail ++ [false]

/-- For each tail of a text whether a pattern accepts it. The answers for a pattern follow from
those for the pattern without its first piece, so that no tail is tried twice. -/
def acceptance : Pattern → List Char → List Bool
  | [], cs => (tails cs).map List.isEmpty
  | piece :: pieces, cs => piece.extend cs (acceptance pieces cs)

/-- Whether a pattern accepts all of a text. Slashes are characters like others, but for any
directories, which end at a slash or take all that is left. -/
def accepts (pattern : Pattern) (cs : List Char) : Bool := (acceptance pattern cs).headD false

/-- Whether a piece and what comes after it accept all of a text, given what accepts the rest. -/
def Piece.acceptsThen (piece : Piece) (rest : List Char → Bool) (cs : List Char) : Bool :=
  match piece with
  | .anyRun => (tails cs).any rest
  | .anyDirectories => rest cs || (tailsAfterSlash cs).any rest
  | piece =>
    match cs with
    | [] => false
    | c :: cs => piece.admits c && rest cs

theorem tails_eq_cons (cs : List Char) : tails cs = cs :: (tails cs).tail := by
  cases cs <;> rfl

theorem headD_map_tails (f : List Char → Bool) (cs : List Char) :
    ((tails cs).map f).headD false = f cs := by
  rw [tails_eq_cons]
  rfl

theorem anyLater_map (f : List Char → Bool) (cs : List Char) :
    anyLater ((tails cs).map f) = (tails cs).map fun rest => (tails rest).any f := by
  induction cs with
  | nil => simp [tails, anyLater]
  | cons c cs ih =>
    simp only [tails, List.map_cons, anyLater, ih, List.any_cons, headD_map_tails]

theorem anyAfterSlash_map (f : List Char → Bool) (cs : List Char) :
    anyAfterSlash cs ((tails cs).map f)
      = (tails cs).map fun rest => (tailsAfterSlash rest).any f := by
  induction cs with
  | nil => simp [tails, tailsAfterSlash, anyAfterSlash]
  | cons c cs ih =>
    simp only [tails, List.map_cons, anyAfterSlash, ih, tailsAfterSlash, headD_map_tails]
    by_cases h : c = '/' <;> simp [h]

theorem zipWith_admits (piece : Piece) (f : List Char → Bool) (cs : List Char) :
    List.zipWith (fun c answer => piece.admits c && answer) cs ((tails cs).map f).tail ++ [false]
      = (tails cs).map fun rest =>
        match rest with
        | [] => false
        | c :: cs => piece.admits c && f cs := by
  induction cs with
  | nil => rfl
  | cons c cs ih =>
    simp only [tails, List.map_cons, List.tail_cons]
    rw [← ih]
    cases cs <;> rfl

theorem extend_map (piece : Piece) (f : List Char → Bool) (cs : List Char) :
    piece.extend cs ((tails cs).map f) = (tails cs).map (piece.acceptsThen f) := by
  cases piece with
  | anyRun => exact anyLater_map f cs
  | anyDirectories =>
    simp only [Piece.extend, anyAfterSlash_map, List.zipWith_map, List.zipWith_self]
    rfl
  | _ => exact zipWith_admits _ f cs

/-- The answers for the tails of a text are the answers for each of them. -/
theorem acceptance_eq_map (pattern : Pattern) (cs : List Char) :
    acceptance pattern cs = (tails cs).map (accepts pattern) := by
  induction pattern generalizing cs with
  | nil =>
    refine List.map_congr_left fun rest _ => ?_
    rw [accepts, acceptance, headD_map_tails]
  | cons piece pieces ih =>
    rw [acceptance, ih, extend_map]
    refine List.map_congr_left fun rest _ => ?_
    rw [accepts, acceptance, ih, extend_map, headD_map_tails]

@[simp]
theorem accepts_nil (cs : List Char) : accepts [] cs = cs.isEmpty := headD_map_tails _ cs

/-- A pattern accepts what its first piece and the pattern after that accept together. -/
theorem accepts_cons (piece : Piece) (pieces : Pattern) (cs : List Char) :
    accepts (piece :: pieces) cs = piece.acceptsThen (accepts pieces) cs := by
  rw [accepts, acceptance, acceptance_eq_map, extend_map, headD_map_tails]

/-- The text that a pattern without wildcards is. -/
def literal? : Pattern → Option (List Char)
  | [] => some []
  | .character c :: pieces => (literal? pieces).map (c :: ·)
  | _ :: _ => none

/-- A text as a pattern that accepts nothing else. -/
def escape (text : List Char) : List Char :=
  text.flatMap fun c => if ['?', '*', '[', ']'].contains c then ['[', c, ']'] else [c]

end SwiftStyle.Glob
