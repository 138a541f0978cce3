import SwiftStyle.Proofs.Edit.Shift

/-!
Tokens that are written out one after the other, one space apart. Each is found again, by its own
text, where it was written.
-/

namespace SwiftStyle.Token

/-- Whether a token starts and stops between characters of a text. -/
structure OnCharacters (source : List Char) (t : Token) : Prop where
  starts : Text.isBoundary t.offset source = true
  stops : Text.isBoundary t.stop source = true

theorem OnCharacters.slice? {source : List Char} {t : Token} (h : t.OnCharacters source) :
    Text.slice? t.offset t.stop source = some (t.text source) ∧
      Text.size (t.text source) = t.length := by
  have ordered : t.offset ≤ t.stop := Nat.le_add_right _ _
  obtain ⟨before, middle, after, whole, hstart, hstop⟩ :=
    Text.exists_parts ordered h.starts h.stops
  have found : Text.slice? t.offset t.stop source = some middle :=
    Text.slice?_eq_some_iff.mpr ⟨before, after, whole, hstart, hstop⟩
  have same : t.text source = middle := by
    rw [text, found]
    rfl
  rw [same]
  refine ⟨found, ?_⟩
  unfold stop at hstop
  omega

def moved (p : Token × Nat) : Token := { p.1 with offset := p.2 }

@[simp]
theorem kind_moved (p : Token × Nat) : (moved p).kind = p.1.kind := rfl

@[simp]
theorem offset_moved (p : Token × Nat) : (moved p).offset = p.2 := rfl

@[simp]
theorem stop_moved (p : Token × Nat) : (moved p).stop = p.2 + p.1.length := rfl

theorem text_moved {source part : List Char} {p : Token × Nat}
    (found : Text.slice? p.2 (p.2 + p.1.length) source = some part) :
    (moved p).text source = part := by
  rw [text, offset_moved, stop_moved, found]
  rfl

def spacedText (source : List Char) (tokens : List Token) : List Char :=
  [' '].intercalate (tokens.map (text source))

/-- Tokens with the offsets at which they stand if they are written one space apart. -/
def spaced (offset : Nat) : List Token → List (Token × Nat)
  | [] => []
  | t :: ts => (t, offset) :: spaced (offset + t.length + 1) ts

theorem map_fst_spaced (offset : Nat) (tokens : List Token) :
    (spaced offset tokens).map Prod.fst = tokens := by
  induction tokens generalizing offset with
  | nil => rfl
  | cons t ts ih => simp [spaced, ih]

theorem le_of_mem_spaced {offset : Nat} {tokens : List Token} {p : Token × Nat}
    (hp : p ∈ spaced offset tokens) : offset ≤ p.2 := by
  induction tokens generalizing offset with
  | nil => simp [spaced] at hp
  | cons t ts ih =>
    rcases List.mem_cons.mp hp with rfl | hp
    · exact Nat.le_refl _
    · have := ih hp
      omega

theorem spaced_pairwise (offset : Nat) (tokens : List Token) :
    (spaced offset tokens).Pairwise fun p q => p.2 + p.1.length ≤ q.2 ∧ p.2 < q.2 := by
  induction tokens generalizing offset with
  | nil => exact .nil
  | cons t ts ih =>
    refine List.pairwise_cons.mpr ⟨?_, ih _⟩
    intro q hq
    have := le_of_mem_spaced hq
    simp only
    omega

theorem spacedText_cons_cons (source : List Char) (t u : Token) (ts : List Token) :
    spacedText source (t :: u :: ts)
      = t.text source ++ [' '] ++ spacedText source (u :: ts) := by
  simp [spacedText, List.intercalate_cons_cons]

theorem size_text_le_spacedText (source : List Char) {tokens : List Token} {t : Token}
    (ht : t ∈ tokens) : Text.size (t.text source) ≤ Text.size (spacedText source tokens) := by
  induction tokens with
  | nil => simp at ht
  | cons u us ih =>
    cases us with
    | nil =>
      rw [List.mem_singleton.mp ht]
      simp [spacedText]
    | cons v vs =>
      rw [spacedText_cons_cons, Text.size_append, Text.size_append]
      rcases List.mem_cons.mp ht with rfl | ht
      · omega
      · have := ih ht
        omega

/-- Where tokens were written one space apart, each is found with its own text. -/
theorem spaced_spec {source woven : List Char} {tokens : List Token} {offset : Nat}
    (onCharacters : ∀ t ∈ tokens, t.OnCharacters source) {stop : Nat}
    (found : Text.slice? offset stop woven = some (spacedText source tokens)) :
    ∀ p ∈ spaced offset tokens, p.2 + p.1.length ≤ stop ∧
      Text.slice? p.2 (p.2 + p.1.length) woven = some (p.1.text source) := by
  induction tokens generalizing offset with
  | nil => simp [spaced]
  | cons t ts ih =>
    have size := (onCharacters t (by simp)).slice?.2
    obtain ⟨before, after, rfl, rfl, rfl⟩ := Text.slice?_eq_some_iff.mp found
    intro p hp
    cases ts with
    | nil =>
      rw [spaced, spaced, List.mem_singleton] at hp
      subst hp
      have whole : spacedText source [t] = t.text source := by simp [spacedText]
      have cut := Text.slice?_append before (t.text source) after
      rw [size] at cut
      rw [whole, size]
      exact ⟨Nat.le_refl _, cut⟩
    | cons u ts =>
      rw [spacedText_cons_cons] at *
      rcases List.mem_cons.mp hp with rfl | hp
      · simp only [Text.size_append, size]
        refine ⟨by omega, ?_⟩
        have cut := Text.slice?_append before (t.text source)
          ([' '] ++ spacedText source (u :: ts) ++ after)
        rw [size] at cut
        simpa only [List.append_assoc] using cut
      · have space : Text.size [' '] = 1 := by decide
        have cut := Text.slice?_append (before ++ t.text source ++ [' '])
          (spacedText source (u :: ts)) after
        simp only [Text.size_append, size, space, List.append_assoc] at cut
        refine ih (fun a ha => onCharacters a (List.mem_cons_of_mem t ha)) ?_ p hp
        simpa only [Text.size_append, size, space, List.append_assoc, Nat.add_assoc] using cut

end SwiftStyle.Token
