/-!
Byte offsets into a text. A text is a list of characters; an offset counts the bytes that its
UTF-8 form puts before a place, and only some offsets fall between two characters.

`splitAt?_eq_some_iff` says what cutting a text at an offset means. The other operations are
defined by cutting, and `slice?_eq_some_iff` and `splice?_eq_some_iff` say what they find.
-/

namespace SwiftStyle.Text

/-- The number of bytes a text takes in UTF-8. -/
def size : List Char → Nat
  | [] => 0
  | c :: cs => c.utf8Size + size cs

/-- The two parts of a text around a byte offset, if the offset falls between two characters. -/
def splitAt? : Nat → List Char → Option (List Char × List Char)
  | 0, cs => some ([], cs)
  | _ + 1, [] => none
  | n + 1, c :: cs =>
    if c.utf8Size ≤ n + 1 then
      (splitAt? (n + 1 - c.utf8Size) cs).map fun (before, after) => (c :: before, after)
    else
      none

/-- Whether a byte offset falls between two characters, at the start or at the end. -/
def isBoundary (n : Nat) (cs : List Char) : Bool := (splitAt? n cs).isSome

/-- The characters between two byte offsets, if both fall between characters in this order. -/
def slice? (start stop : Nat) (cs : List Char) : Option (List Char) :=
  if start ≤ stop then
    (splitAt? start cs).bind fun (_, rest) =>
      (splitAt? (stop - start) rest).map fun (middle, _) => middle
  else
    none

/-- The text with the bytes between two offsets replaced. -/
def splice? (start stop : Nat) (replacement cs : List Char) : Option (List Char) :=
  if start ≤ stop then
    (splitAt? start cs).bind fun (before, rest) =>
      (splitAt? (stop - start) rest).map fun (_, after) => before ++ replacement ++ after
  else
    none

@[simp]
theorem size_nil : size [] = 0 := rfl

@[simp]
theorem size_cons (c : Char) (cs : List Char) : size (c :: cs) = c.utf8Size + size cs := rfl

@[simp]
theorem size_append (xs ys : List Char) : size (xs ++ ys) = size xs + size ys := by
  induction xs with
  | nil => simp
  | cons c cs ih => simp [ih, Nat.add_assoc]

theorem splitAt?_size_append (before after : List Char) :
    splitAt? (size before) (before ++ after) = some (before, after) := by
  induction before with
  | nil => simp [splitAt?]
  | cons c cs ih =>
    obtain ⟨n, hn⟩ : ∃ n, c.utf8Size + size cs = n + 1 :=
      ⟨c.utf8Size + size cs - 1, by have := c.utf8Size_pos; omega⟩
    have rest : n + 1 - c.utf8Size = size cs := by omega
    have small : c.utf8Size ≤ n + 1 := by omega
    simp [hn, splitAt?, small, rest, ih]

theorem eq_append_of_splitAt? {n : Nat} {cs before after : List Char}
    (h : splitAt? n cs = some (before, after)) : cs = before ++ after ∧ size before = n := by
  fun_induction splitAt? n cs generalizing before after with
  | case1 cs => simp_all
  | case2 => simp at h
  | case3 n c cs small ih =>
    obtain ⟨⟨l, r⟩, hl, heq⟩ := Option.map_eq_some_iff.1 h
    obtain ⟨rfl, rfl⟩ := Prod.mk.inj heq
    obtain ⟨rfl, hsize⟩ := ih hl
    exact ⟨rfl, by simp only [size_cons]; omega⟩
  | case4 => simp at h

/-- Cutting at an offset finds exactly the parts of which the first takes that many bytes. -/
theorem splitAt?_eq_some_iff {n : Nat} {cs before after : List Char} :
    splitAt? n cs = some (before, after) ↔ cs = before ++ after ∧ size before = n :=
  ⟨eq_append_of_splitAt?, fun ⟨happ, hsize⟩ => by
    subst happ; subst hsize; exact splitAt?_size_append before after⟩

/-- An offset falls between two characters if it is the size of some part at the front. -/
theorem isBoundary_iff {n : Nat} {cs : List Char} :
    isBoundary n cs ↔ ∃ before after, cs = before ++ after ∧ size before = n := by
  constructor
  · intro h
    obtain ⟨⟨before, after⟩, cut⟩ := Option.isSome_iff_exists.1 h
    exact ⟨before, after, splitAt?_eq_some_iff.1 cut⟩
  · rintro ⟨before, after, cut⟩
    exact Option.isSome_iff_exists.2 ⟨(before, after), splitAt?_eq_some_iff.2 cut⟩

/-- A slice is what stands between two parts of the right sizes. -/
theorem slice?_eq_some_iff {start stop : Nat} {cs middle : List Char} :
    slice? start stop cs = some middle ↔
      ∃ before after, cs = before ++ middle ++ after ∧ size before = start ∧
        start + size middle = stop := by
  constructor
  · intro h
    simp only [slice?] at h
    split at h
    · next ordered =>
      obtain ⟨⟨before, rest⟩, first, h⟩ := Option.bind_eq_some_iff.1 h
      obtain ⟨⟨inside, after⟩, second, rfl⟩ := Option.map_eq_some_iff.1 h
      obtain ⟨rfl, hbefore⟩ := splitAt?_eq_some_iff.1 first
      obtain ⟨rfl, hinside⟩ := splitAt?_eq_some_iff.1 second
      exact ⟨before, after, by simp, hbefore, by simp only at hinside ⊢; omega⟩
    · simp at h
  · rintro ⟨before, after, rfl, rfl, rfl⟩
    simp [slice?, splitAt?_size_append]

/-- A splice keeps the two parts around what it replaces. -/
theorem splice?_eq_some_iff {start stop : Nat} {replacement cs spliced : List Char} :
    splice? start stop replacement cs = some spliced ↔
      ∃ before middle after, cs = before ++ middle ++ after ∧ size before = start ∧
        start + size middle = stop ∧ spliced = before ++ replacement ++ after := by
  constructor
  · intro h
    simp only [splice?] at h
    split at h
    · next ordered =>
      obtain ⟨⟨before, rest⟩, first, h⟩ := Option.bind_eq_some_iff.1 h
      obtain ⟨⟨inside, after⟩, second, rfl⟩ := Option.map_eq_some_iff.1 h
      obtain ⟨rfl, hbefore⟩ := splitAt?_eq_some_iff.1 first
      obtain ⟨rfl, hinside⟩ := splitAt?_eq_some_iff.1 second
      exact ⟨before, inside, after, by simp, hbefore, by omega, rfl⟩
    · simp at h
  · rintro ⟨before, middle, after, rfl, rfl, rfl, rfl⟩
    simp [splice?, splitAt?_size_append]

end SwiftStyle.Text
