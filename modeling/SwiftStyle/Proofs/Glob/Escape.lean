import SwiftStyle.Glob.Search
import SwiftStyle.Proofs.Path.Spelling

/-!
What texts are as patterns. An escaped text is a pattern for itself, piece by piece, so the pattern
for what is in a directory is read as the parts of the directory and the pattern after them.
-/

namespace SwiftStyle.Glob

/-- The piece that an escaped character is read as. -/
def escapedPiece (c : Char) : Piece :=
  if ['?', '*', '[', ']'].contains c then .within [(c, c)] else .character c

/-- The pattern that an escaped text is read as. -/
def escaped (text : List Char) : Pattern := text.map escapedPiece

theorem escape_cons (c : Char) (cs : List Char) :
    escape (c :: cs) =
      (if ['?', '*', '[', ']'].contains c then ['[', c, ']'] else [c]) ++ escape cs := rfl

theorem parseFrom_bracketed {c : Char} (h : ['?', '*', '[', ']'].contains c) (position : Nat)
    (previous : Option Char) (rest : List Char) :
    parseFrom position previous ('[' :: c :: ']' :: rest) =
      (parseFrom (position + 3) (some ']') rest).map (.within [(c, c)] :: ·) := by
  have inside : bracket? (c :: ']' :: rest) = some (.within [(c, c)], 3, rest) := by
    unfold bracket?
    split
    · simp_all
    · simp_all
    · next same =>
      cases same
      simp [splitBracket?, rangesOf]
    · next same => cases same
  rw [parseFrom]
  split
  · next piece length rest' found =>
    rw [inside] at found
    cases found
    rfl
  · next none => simp [inside] at none

theorem parseFrom_plain {c : Char} (h : ['?', '*', '[', ']'].contains c = false) (position : Nat)
    (previous : Option Char) (rest : List Char) :
    parseFrom position previous (c :: rest) =
      (parseFrom (position + 1) (some c) rest).map (.character c :: ·) := by
  simp only [List.contains_cons, List.contains_nil, Bool.or_false, Bool.or_eq_false_iff,
    beq_eq_false_iff_ne] at h
  rw [parseFrom]
  · rfl
  all_goals simp_all

/-- An escaped character is read as one piece. -/
theorem exists_parseFrom_escape_cons (c : Char) (position : Nat) (previous : Option Char)
    (cs : List Char) : ∃ position' previous',
      parseFrom position previous (escape [c] ++ cs) =
        (parseFrom position' previous' cs).map (escapedPiece c :: ·) := by
  rw [escape_cons, escapedPiece]
  cases special : ['?', '*', '[', ']'].contains c with
  | true => exact ⟨_, _, parseFrom_bracketed special position previous cs⟩
  | false => exact ⟨_, _, parseFrom_plain special position previous cs⟩

theorem exists_parseFrom_escape (cs rest : List Char) (position : Nat) (previous : Option Char) :
    ∃ position' previous', parseFrom position previous (escape cs ++ rest) =
      (parseFrom position' previous' rest).map (escaped cs ++ ·) := by
  induction cs generalizing position previous with
  | nil =>
    refine ⟨position, previous, ?_⟩
    change parseFrom position previous rest = _
    cases parseFrom position previous rest <;> rfl
  | cons c cs ih =>
    obtain ⟨position, previous, first⟩ :=
      exists_parseFrom_escape_cons c position previous (escape cs ++ rest)
    obtain ⟨position', previous', others⟩ := ih position previous
    refine ⟨position', previous', ?_⟩
    have whole : escape (c :: cs) ++ rest = escape [c] ++ (escape cs ++ rest) := by simp [escape]
    rw [whole, first, others]
    cases parseFrom position' previous' rest <;> rfl

theorem parse_escape (cs : List Char) : parse (escape cs) = .ok (escaped cs) := by
  obtain ⟨position, previous, whole⟩ := exists_parseFrom_escape cs [] 0 none
  rw [List.append_nil, parseFrom] at whole
  rw [parse, whole, Except.map, List.append_nil]

/-! What an escaped text accepts. -/

theorem inRanges_singleton (c d : Char) : inRanges [(c, c)] d = decide (d = c) := by
  have bounds : (c ≤ d ∧ d ≤ c) ↔ d = c := by
    constructor
    · rintro ⟨lower, upper⟩
      exact Char.le_antisymm upper lower
    · rintro rfl
      exact ⟨Char.le_refl d, Char.le_refl d⟩
  rw [inRanges, List.any_cons, List.any_nil, Bool.or_false]
  exact (Bool.decide_and _ _).symm.trans (decide_eq_decide.mpr bounds)

theorem acceptsThen_escapedPiece (c d : Char) (rest : List Char → Bool) (cs : List Char) :
    (escapedPiece c).acceptsThen rest (d :: cs) = (decide (d = c) && rest cs) := by
  unfold escapedPiece
  split
  · simp [Piece.acceptsThen, Piece.admits, inRanges_singleton]
  · simp [Piece.acceptsThen, Piece.admits]

/-- An escaped text accepts itself and nothing else. -/
theorem accepts_escaped (text cs : List Char) : accepts (escaped text) cs = decide (cs = text) := by
  induction text generalizing cs with
  | nil => cases cs <;> simp [escaped]
  | cons c text ih =>
    rw [escaped, List.map_cons, accepts_cons]
    cases cs with
    | nil =>
      unfold escapedPiece
      split <;> rfl
    | cons d cs =>
      rw [acceptsThen_escapedPiece]
      rw [escaped] at ih
      simp [ih]

theorem escaped_ne (text : List Char) : escaped text ≠ [.anyDirectories] := by
  intro same
  obtain ⟨c, -, piece⟩ : ∃ c ∈ text, escapedPiece c = .anyDirectories := by
    rw [← List.mem_map, ← escaped, same]
    exact List.mem_cons_self
  unfold escapedPiece at piece
  split at piece <;> cases piece

/-! Patterns without wildcards. -/

theorem accepts_of_literal? {pattern : Pattern} {text : List Char}
    (h : literal? pattern = some text) (cs : List Char) :
    accepts pattern cs = decide (cs = text) := by
  induction pattern generalizing text cs with
  | nil =>
    cases h
    cases cs <;> simp
  | cons piece pieces ih =>
    cases piece with
    | character c =>
      obtain ⟨rest, found, rfl⟩ := Option.map_eq_some_iff.mp h
      rw [accepts_cons]
      cases cs with
      | nil => simp [Piece.acceptsThen]
      | cons d cs => simp [Piece.acceptsThen, Piece.admits, ih found]
    | _ => cases h

theorem mem_tails_iff {cs rest : List Char} : rest ∈ tails cs ↔ rest <:+ cs := by
  induction cs with
  | nil => simp [tails]
  | cons c cs ih => rw [tails, List.mem_cons, ih, List.suffix_cons_iff]

/-- A star before a text accepts what ends with the text. -/
theorem accepts_anyRun_iff {pattern : Pattern} {text : List Char}
    (h : literal? pattern = some text) (cs : List Char) :
    accepts (.anyRun :: pattern) cs = true ↔ text <:+ cs := by
  rw [accepts_cons, Piece.acceptsThen, List.any_eq_true]
  constructor
  · rintro ⟨rest, mem, accepted⟩
    rw [accepts_of_literal? h, decide_eq_true_eq] at accepted
    exact accepted ▸ mem_tails_iff.mp mem
  · intro ends
    exact ⟨text, mem_tails_iff.mpr ends, by rw [accepts_of_literal? h, decide_eq_true rfl]⟩

theorem exists_of_bind_cons {read : Except SyntaxError Pattern} {piece : Piece} {pattern : Pattern}
    (h : (do return piece :: (← read)) = .ok pattern) :
    ∃ pieces, read = .ok pieces ∧ pattern = piece :: pieces := by
  cases read with
  | error e => cases h
  | ok pieces =>
    cases h
    exact ⟨pieces, rfl, rfl⟩

theorem piece_of_bracket? {cs rest : List Char} {piece : Piece} {length : Nat}
    (h : bracket? cs = some (piece, length, rest)) : ∀ c, piece ≠ .character c := by
  rintro c rfl
  unfold bracket? at h
  split at h
  · obtain ⟨found, -, same⟩ := Option.map_eq_some_iff.mp h
    cases same
  · cases h
  · obtain ⟨found, -, same⟩ := Option.map_eq_some_iff.mp h
    cases same
  · cases h

/-- A pattern without wildcards is spelled as the text that it is. -/
theorem text_of_literal? {position : Nat} {previous : Option Char} {cs : List Char}
    {pattern : Pattern} (read : parseFrom position previous cs = .ok pattern) {text : List Char}
    (h : literal? pattern = some text) : text = cs := by
  fun_induction parseFrom position previous cs generalizing pattern text with
  | case1 =>
    cases read
    cases h
    rfl
  | case3 | case6 | case7 | case10 => cases read
  | case4 =>
    cases read
    cases h
  | case2 | case5 | case8 =>
    obtain ⟨pieces, -, rfl⟩ := exists_of_bind_cons read
    cases h
  | case9 _ _ cs piece length rest found =>
    obtain ⟨pieces, -, rfl⟩ := exists_of_bind_cons read
    unfold literal? at h
    split at h
    · next same => cases same
    · next c _ same => exact absurd (List.cons.inj same).1 (piece_of_bracket? found c)
    · cases h
  | case11 _ _ c cs _ _ _ _ _ ih =>
    obtain ⟨pieces, after, rfl⟩ := exists_of_bind_cons read
    obtain ⟨rest, found, rfl⟩ := Option.map_eq_some_iff.mp h
    rw [ih after found]

/-- What a pattern is read as does not depend on where it stands, as long as two stars may stand
at its start or not. -/
theorem parseFrom_eq_ok {position : Nat} {previous : Option Char} {cs : List Char}
    {pattern : Pattern} (read : parseFrom position previous cs = .ok pattern)
    (position' : Nat) {previous' : Option Char}
    (same : (decide (previous = none) || decide (previous = some '/')) =
      (decide (previous' = none) || decide (previous' = some '/'))) :
    parseFrom position' previous' cs = .ok pattern := by
  -- what comes before matters for two stars only, and after one step both readings agree on it
  fun_induction parseFrom position previous cs generalizing pattern position' previous' with
  | case1 =>
    rw [parseFrom]
    exact read
  | case3 | case6 | case7 | case10 => cases read
  | case4 _ _ first last =>
    rw [parseFrom, if_pos (same ▸ first)]
    exact read
  | case5 _ _ first rest last ih =>
    obtain ⟨pieces, after, rfl⟩ := exists_of_bind_cons read
    rw [parseFrom, if_pos (same ▸ first)]
    · simp only [if_true, ih after _ rfl]
      rfl
    · exact last
  | case2 _ _ cs ih =>
    obtain ⟨pieces, after, rfl⟩ := exists_of_bind_cons read
    rw [parseFrom, ih after _ rfl]
    rfl
  | case8 _ _ cs _ _ ih =>
    obtain ⟨pieces, after, rfl⟩ := exists_of_bind_cons read
    rw [parseFrom, ih after _ rfl]
    · rfl
    all_goals assumption
  | case9 _ _ cs piece length rest found _ ih =>
    obtain ⟨pieces, after, rfl⟩ := exists_of_bind_cons read
    rw [parseFrom]
    split
    · next found' =>
      rw [found] at found'
      cases found'
      rw [ih after _ rfl]
      rfl
    · next none => simp [found] at none
  | case11 _ _ c cs _ _ _ _ _ ih =>
    obtain ⟨pieces, after, rfl⟩ := exists_of_bind_cons read
    rw [parseFrom, ih after _ rfl]
    · rfl
    all_goals assumption

/-- A pattern below a directory is read as the directory and the pattern after it. -/
theorem exists_parse_below (directory : List Char) {text : List Char} {pattern : Pattern}
    (read : parse text = .ok pattern) :
    ∃ whole, parse (escape directory ++ '/' :: text) = .ok whole := by
  obtain ⟨position, previous, whole⟩ := exists_parseFrom_escape directory ('/' :: text) 0 none
  rw [parseFrom_plain (by decide), parseFrom_eq_ok read (position + 1) (by decide)] at whole
  exact ⟨_, whole⟩

/-! The components of a pattern below a directory. -/

theorem split_escape (cs : List Char) : Path.split (escape cs) = (Path.split cs).map escape := by
  induction cs with
  | nil => rfl
  | cons c cs ih =>
    obtain ⟨part, parts, whole⟩ := List.exists_cons_of_ne_nil (Path.split_ne_nil cs)
    have whole' : Path.split (escape cs) = escape part :: parts.map escape := by
      rw [ih, whole, List.map_cons]
    rw [escape_cons]
    by_cases slash : c = '/'
    · rw [slash, if_neg (by decide), Path.split_slash, List.cons_append, List.nil_append,
        Path.split_slash, ih, List.map_cons]
      rfl
    · rw [Path.split_cons slash whole, List.map_cons, escape_cons]
      split
      · rw [List.cons_append, List.cons_append, List.cons_append, List.nil_append]
        exact Path.split_cons (by decide) (Path.split_cons slash
          (Path.split_cons (by decide) whole'))
      · exact Path.split_cons slash whole'

theorem components_append (a b : List Char) :
    components (a ++ '/' :: b) = Path.split a ++ components b := by
  have last : (Path.split a ++ Path.split b).getLast? = (Path.split b).getLast? := by
    rw [List.getLast?_append, Option.or_of_isSome]
    exact List.getLast?_isSome.mpr (Path.split_ne_nil b)
  simp only [components, Path.split_append, last]
  split
  · rw [List.dropLast_append_of_ne_nil (Path.split_ne_nil b)]
  · rfl

end SwiftStyle.Glob
