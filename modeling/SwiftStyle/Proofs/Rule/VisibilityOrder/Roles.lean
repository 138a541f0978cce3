import SwiftStyle.Proofs.Token.Spacing
import SwiftStyle.Rule.VisibilityOrder

/-!
The roles of tokens before an introducing keyword. A role depends on how the token is spelled and
on whether a parenthesis follows, so it stays as it is when tokens move with their texts, and when
what follows is exchanged for something else that opens no parenthesis.
-/

namespace SwiftStyle.VisibilityOrder

variable {source : List Char}

def opensNext (source : List Char) (after : List Token) : Bool :=
  after.head?.any (opensParenthesis source)

theorem opensNext_of_keyword {t : Token} {ts : List Token} (keyword : t.kind = .keyword) :
    opensNext source (t :: ts) = false := by
  simp [opensNext, opensParenthesis, keyword]

theorem role_congr {t : Token} {after after' : List Token}
    (same : opensNext source after = opensNext source after') :
    role source t after = role source t after' := by
  unfold opensNext at same
  unfold role
  rw [same]

/-- Whether a token spells visibility, with or without a scope of its own. -/
def spellsVisibility (source : List Char) (t : Token) : Bool :=
  visibilities.contains (t.text source)

theorem role_eq_visibility {t : Token} {after : List Token} (keyword : t.kind = .keyword)
    (spells : spellsVisibility source t = true) (unscoped : opensNext source after = false) :
    role source t after = .visibility := by
  unfold spellsVisibility at spells
  unfold opensNext at unscoped
  rw [role, keyword, unscoped, if_neg (by decide), if_pos spells]
  rfl

/-- A token with a role is a keyword, and it spells visibility exactly if that is its role. -/
theorem spec_of_role_ne {t : Token} {after : List Token}
    (related : role source t after ≠ .unrelated) :
    t.kind = .keyword ∧ (role source t after == .visibility) = spellsVisibility source t := by
  unfold role at *
  unfold spellsVisibility
  by_cases keyword : t.kind = .keyword
  · refine ⟨keyword, ?_⟩
    simp only [keyword, bne_self_eq_false, Bool.false_eq_true, if_false] at *
    split at related
    · next spells =>
      rw [if_pos spells, spells]
      split at related
      · exact absurd rfl related
      · next unscoped =>
        rw [if_neg unscoped]
        rfl
    · next other =>
      rw [if_neg other]
      split at related
      · next modifier =>
        rw [if_pos modifier, Bool.eq_false_iff.mpr other]
        rfl
      · exact absurd rfl related
  · simp [keyword] at related

theorem map_snd_withRoles (source : List Char) (tokens : List Token) :
    (withRoles source tokens).map Prod.snd = tokens := by
  induction tokens with
  | nil => rfl
  | cons t ts ih => simp [withRoles, ih]

theorem spec_of_mem_withRoles {tokens : List Token} {x : Role × Token}
    (hx : x ∈ withRoles source tokens) (related : isUnrelated x = false) :
    x.2.kind = .keyword ∧ isVisibility x = spellsVisibility source x.2 := by
  induction tokens with
  | nil => simp [withRoles] at hx
  | cons t ts ih =>
    rcases List.mem_cons.mp hx with rfl | hx
    · exact spec_of_role_ne (by simpa [isUnrelated] using related)
    · exact ih hx

/-- The roles of some tokens stay if what follows opens a parenthesis as before or not. -/
theorem withRoles_append {after after' : List Token}
    (same : opensNext source after = opensNext source after') (tokens : List Token) :
    ∃ marked, marked.length = tokens.length ∧
      withRoles source (tokens ++ after) = marked ++ withRoles source after ∧
      withRoles source (tokens ++ after') = marked ++ withRoles source after' := by
  induction tokens with
  | nil => exact ⟨[], rfl, rfl, rfl⟩
  | cons t ts ih =>
    obtain ⟨marked, length, before, before'⟩ := ih
    have next : opensNext source (ts ++ after) = opensNext source (ts ++ after') := by
      cases ts with
      | nil => exact same
      | cons u us => rfl
    refine ⟨(role source t (ts ++ after), t) :: marked, by simp [length], ?_, ?_⟩
    · simp [withRoles, before]
    · simp [withRoles, before', role_congr next]

/-! Tokens that moved with their texts. -/

section

variable {woven : List Char} {places : List (Token × Nat)}

def atOld (m : Role × Token × Nat) : Role × Token := (m.1, m.2.1)

def atNew (m : Role × Token × Nat) : Role × Token := (m.1, Token.moved m.2)

theorem role_moved {p : Token × Nat} {ps : List (Token × Nat)}
    (same : ∀ q ∈ p :: ps, (Token.moved q).text woven = q.1.text source) :
    role woven (Token.moved p) (ps.map Token.moved) = role source p.1 (ps.map Prod.fst) := by
  have next : opensNext woven (ps.map Token.moved) = opensNext source (ps.map Prod.fst) := by
    cases ps with
    | nil => rfl
    | cons q qs => simp [opensNext, opensParenthesis, same q (by simp)]
  unfold opensNext at next
  rw [role, role, Token.kind_moved, same p (by simp), next]

theorem withRoles_moved
    (same : ∀ p ∈ places, (Token.moved p).text woven = p.1.text source) :
    ∃ marked : List (Role × Token × Nat), marked.map Prod.snd = places ∧
      withRoles source (places.map Prod.fst) = marked.map atOld ∧
      withRoles woven (places.map Token.moved) = marked.map atNew := by
  induction places with
  | nil => exact ⟨[], rfl, rfl, rfl⟩
  | cons p ps ih =>
    obtain ⟨marked, hplaces, hold, hnew⟩ := ih fun q hq => same q (List.mem_cons_of_mem p hq)
    refine ⟨(role source p.1 (ps.map Prod.fst), p) :: marked, by simp [hplaces], ?_, ?_⟩
    · simp [withRoles, hold, atOld]
    · simp [withRoles, hnew, atNew, role_moved same]

theorem joined_eq (marked : List (Role × Token)) :
    joined source marked = Token.spacedText source (marked.map Prod.snd) := by
  rw [joined, Token.spacedText, List.map_map]
  rfl

end

end SwiftStyle.VisibilityOrder
