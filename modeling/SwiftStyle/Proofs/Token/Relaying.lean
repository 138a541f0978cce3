import SwiftStyle.Proofs.Token.Spacing

/-!
Tokens laid out again after edits that rearrange some of them. A token outside of the edits keeps
its place in the sequence and goes where its offset goes. The tokens inside an edit are written in
a new order, one space apart, where the edit put its replacement.
-/

namespace SwiftStyle.Token

/-- Whether a token starts in the bytes of an edit. -/
def startsIn (e : Edit) (t : Token) : Bool := e.start ≤ t.offset && t.offset < e.stop

/-- What stands in the new sequence in place of a token, with the new offsets: for the first token
in an edit all tokens of the edit in the new order, for the others in it nothing, and for a token
outside of the edits the token itself. -/
def placed (arrange : List Token → List Token) (edits : List Edit) (tokens : List Token)
    (t : Token) : List (Token × Nat) :=
  match edits.find? fun e => t.startsIn e with
  | none => [(t, Edit.shifted edits t.offset)]
  | some e =>
    if t.offset = e.start then
      spaced (Edit.shifted edits e.start) (arrange (tokens.filter (startsIn e)))
    else []

/-- All tokens in the new sequence, with their new offsets. -/
def placements (arrange : List Token → List Token) (edits : List Edit) (tokens : List Token) :
    List (Token × Nat) :=
  tokens.flatMap (placed arrange edits tokens)

def relaid (arrange : List Token → List Token) (edits : List Edit) (tokens : List Token) :
    List Token :=
  (placements arrange edits tokens).map moved

/-- Edits of a text that write the tokens in them in a new order, and the text after them. -/
structure Rearranged (source woven : List Char) (arrange : List Token → List Token)
    (edits : List Edit) (tokens : List Token) : Prop where
  ordered : InOrder tokens
  onCharacters : ∀ t ∈ tokens, t.OnCharacters source
  chain : Edit.Chain edits
  fits : ∀ e ∈ edits, e.fits source = true
  weaves : Edit.woven? source 0 edits = some woven
  starts : ∀ e ∈ edits, ∃ t ∈ tokens, t.offset = e.start
  stops : ∀ e ∈ edits, ∀ t ∈ tokens, t.startsIn e = true → t.stop ≤ e.stop
  arranges : ∀ e ∈ edits,
    (arrange (tokens.filter (startsIn e))).Perm (tokens.filter (startsIn e))
  spells : ∀ e ∈ edits,
    e.replacement.toList = spacedText source (arrange (tokens.filter (startsIn e)))

theorem startsIn_iff {e : Edit} {t : Token} :
    t.startsIn e = true ↔ e.start ≤ t.offset ∧ t.offset < e.stop := by
  simp [startsIn]

theorem find?_startsIn {edits : List Edit} (chain : Edit.Chain edits) {e : Edit} {t : Token}
    (he : e ∈ edits) (inside : t.startsIn e = true) :
    edits.find? (fun e => t.startsIn e) = some e := by
  obtain ⟨before, after, rfl⟩ := List.append_of_mem he
  obtain ⟨_, _, across⟩ := List.pairwise_append.mp chain.disjoint
  have none : before.find? (fun e => t.startsIn e) = none := by
    refine List.find?_eq_none.mpr fun a ha holds => ?_
    have := across a ha e (by simp)
    rw [startsIn_iff] at inside holds
    omega
  simp [none, inside]

theorem placed_of_outside {arrange : List Token → List Token} {edits : List Edit}
    {tokens : List Token} {t : Token} (outside : ∀ e ∈ edits, t.startsIn e = false) :
    placed arrange edits tokens t = [(t, Edit.shifted edits t.offset)] := by
  have none : edits.find? (fun e => t.startsIn e) = none :=
    List.find?_eq_none.mpr fun e he => by simp [outside e he]
  simp [placed, none]

theorem placed_of_startsIn {arrange : List Token → List Token} {edits : List Edit}
    {tokens : List Token} {t : Token} {e : Edit} (chain : Edit.Chain edits) (he : e ∈ edits)
    (inside : t.startsIn e = true) :
    placed arrange edits tokens t =
      if t.offset = e.start then
        spaced (Edit.shifted edits e.start) (arrange (tokens.filter (startsIn e)))
      else [] := by
  simp [placed, find?_startsIn chain he inside]

/-- What is placed for a token: the token itself, or one of the edit that it is the first of. -/
theorem mem_placed {arrange : List Token → List Token} {edits : List Edit} {tokens : List Token}
    {t : Token} {p : Token × Nat} (hp : p ∈ placed arrange edits tokens t) :
    ((∀ e ∈ edits, t.startsIn e = false) ∧ p = (t, Edit.shifted edits t.offset)) ∨
      ∃ e ∈ edits, t.startsIn e = true ∧ t.offset = e.start ∧
        p ∈ spaced (Edit.shifted edits e.start) (arrange (tokens.filter (startsIn e))) := by
  unfold placed at hp
  split at hp
  · next none =>
    refine .inl ⟨fun e he => ?_, List.mem_singleton.mp hp⟩
    simpa using List.find?_eq_none.mp none e he
  · next e found =>
    have inside := List.find?_some (p := fun e => t.startsIn e) found
    split at hp
    · next first => exact .inr ⟨e, List.mem_of_find?_eq_some found, inside, first, hp⟩
    · simp at hp

namespace Rearranged

variable {source woven : List Char} {arrange : List Token → List Token} {edits : List Edit}
variable {tokens : List Token}

theorem mem_filter_of_mem_spaced (h : Rearranged source woven arrange edits tokens) {e : Edit}
    (he : e ∈ edits) {offset : Nat} {p : Token × Nat}
    (hp : p ∈ spaced offset (arrange (tokens.filter (startsIn e)))) :
    p.1 ∈ tokens ∧ p.1.startsIn e = true := by
  have written : p.1 ∈ arrange (tokens.filter (startsIn e)) := by
    rw [← map_fst_spaced offset (arrange (tokens.filter (startsIn e)))]
    exact List.mem_map_of_mem hp
  exact List.mem_filter.mp ((h.arranges e he).mem_iff.mp written)

theorem spaced_spec (h : Rearranged source woven arrange edits tokens) {e : Edit} (he : e ∈ edits)
    {p : Token × Nat}
    (hp : p ∈ spaced (Edit.shifted edits e.start) (arrange (tokens.filter (startsIn e)))) :
    p.2 + p.1.length ≤ Edit.shifted edits e.stop ∧
      Text.slice? p.2 (p.2 + p.1.length) woven = some (p.1.text source) := by
  have found := h.chain.slice?_replacement h.weaves he (h.fits e he)
  rw [h.spells e he] at found
  refine Token.spaced_spec ?_ found p hp
  intro t ht
  exact h.onCharacters t (List.mem_filter.mp ((h.arranges e he).mem_iff.mp ht)).1

theorem untouched (h : Rearranged source woven arrange edits tokens) {t : Token} (ht : t ∈ tokens)
    (outside : ∀ e ∈ edits, t.startsIn e = false) :
    ∀ e ∈ edits, e.stop ≤ t.offset ∨ t.stop ≤ e.start := by
  intro e he
  have notInside : ¬(e.start ≤ t.offset ∧ t.offset < e.stop) := by
    rw [← startsIn_iff, outside e he]
    exact Bool.false_ne_true
  obtain ⟨first, hfirst, start⟩ := h.starts e he
  rcases eq_or_rel_of_pairwise h.ordered.disjoint ht hfirst with rfl | precede | follow
  · exact absurd ⟨by omega, by have := h.chain.replaces e he; omega⟩ notInside
  · exact .inr (by omega)
  · unfold stop at follow
    exact .inl (by omega)

/-- Every token is found with its own text at its new offset. -/
theorem text_moved (h : Rearranged source woven arrange edits tokens) {p : Token × Nat}
    (hp : p ∈ placements arrange edits tokens) : (moved p).text woven = p.1.text source := by
  obtain ⟨t, ht, hp⟩ := List.mem_flatMap.mp hp
  apply Token.text_moved
  rcases mem_placed hp with ⟨outside, rfl⟩ | ⟨e, he, _, _, hp⟩
  · have found := h.chain.slice?_shifted h.weaves (h.onCharacters t ht).slice?.1
      (h.untouched ht outside)
    have length : t.stop - t.offset = t.length := by
      unfold stop
      omega
    rwa [length] at found
  · exact (h.spaced_spec he hp).2

/-- No offset outside of the edits is passed on the way from the old offsets to the new ones. -/
theorem placed_cut (h : Rearranged source woven arrange edits tokens) {t : Token} (ht : t ∈ tokens)
    {p : Token × Nat} (hp : p ∈ placed arrange edits tokens t) {cut : Nat}
    (outside : Edit.Outside edits cut) :
    (t.offset < cut → p.2 < Edit.shifted edits cut) ∧
      (cut ≤ t.offset → Edit.shifted edits cut ≤ p.2) := by
  rcases mem_placed hp with ⟨free, rfl⟩ | ⟨e, he, inside, first, hp⟩
  · have free : Edit.Outside edits t.offset := by
      intro e he
      have := h.untouched ht free e he
      unfold stop at this
      omega
    exact ⟨h.chain.shifted_lt free, h.chain.shifted_le outside⟩
  · constructor
    · intro early
      have reached := outside e he
      have replaces := h.chain.replaces e he
      have := h.chain.shifted_le (b := cut) (h.chain.outside_stop he) (by omega)
      have := (h.spaced_spec he hp).1
      have := h.ordered.nonempty p.1 (h.mem_filter_of_mem_spaced he hp).1
      omega
    · intro late
      rw [first] at late
      exact Nat.le_trans (h.chain.shifted_le outside late) (le_of_mem_spaced hp)

theorem outside_of_placed (h : Rearranged source woven arrange edits tokens) {t : Token}
    (ht : t ∈ tokens) {p : Token × Nat} (hp : p ∈ placed arrange edits tokens t) :
    Edit.Outside edits t.offset := by
  rcases mem_placed hp with ⟨free, -⟩ | ⟨e, he, -, first, -⟩
  · intro e he
    have := h.untouched ht free e he
    unfold stop at this
    omega
  · rw [first]
    exact h.chain.outside_start he

/-- The new sequence is in the order of the new offsets. -/
theorem placements_pairwise (h : Rearranged source woven arrange edits tokens) :
    (placements arrange edits tokens).Pairwise fun p q => p.2 < q.2 := by
  refine List.pairwise_flatMap.mpr ⟨?_, ?_⟩
  · intro t ht
    unfold placed
    split
    · exact List.pairwise_singleton _ _
    · split
      · exact (spaced_pairwise _ _).imp And.right
      · exact .nil
  · refine h.ordered.disjoint.imp_of_mem ?_
    intro t u ht hu follow p hp q hq
    have nonempty := h.ordered.nonempty t ht
    have cut := h.outside_of_placed hu hq
    have before := (h.placed_cut ht hp cut).1 (by
      unfold stop at follow
      omega)
    have after := (h.placed_cut hu hq cut).2 (Nat.le_refl _)
    omega

/-- A token tells what it is placed for: itself, or the first token of the edit that it is in. -/
theorem offset_eq_of_placed (h : Rearranged source woven arrange edits tokens) {t u : Token}
    {p q : Token × Nat} (hp : p ∈ placed arrange edits tokens t)
    (hq : q ∈ placed arrange edits tokens u) (same : p.1 = q.1) : t.offset = u.offset := by
  rcases mem_placed hp with ⟨free, rfl⟩ | ⟨e, he, -, first, hp⟩
  · rcases mem_placed hq with ⟨-, rfl⟩ | ⟨e, he, -, -, hq⟩
    · exact congrArg offset same
    · have inside := (h.mem_filter_of_mem_spaced he hq).2
      rw [← same, free e he] at inside
      exact absurd inside Bool.false_ne_true
  · have inside := (h.mem_filter_of_mem_spaced he hp).2
    rcases mem_placed hq with ⟨free, rfl⟩ | ⟨e', he', -, first', hq⟩
    · rw [same, free e he] at inside
      exact absurd inside Bool.false_ne_true
    · have inside' := (h.mem_filter_of_mem_spaced he' hq).2
      rw [same] at inside
      have edit := find?_startsIn h.chain he inside
      rw [find?_startsIn h.chain he' inside', Option.some.injEq] at edit
      rw [first, first', edit]

theorem nodup_placements (h : Rearranged source woven arrange edits tokens) :
    ((placements arrange edits tokens).map Prod.fst).Nodup := by
  rw [placements, List.map_flatMap]
  refine List.pairwise_flatMap.mpr ⟨?_, ?_⟩
  · intro t ht
    unfold placed
    split
    · exact List.pairwise_singleton _ _
    · next e found =>
      split
      · rw [map_fst_spaced]
        exact (h.arranges e (List.mem_of_find?_eq_some found)).nodup_iff.mpr
          (h.ordered.nodup.filter _)
      · exact .nil
  · refine h.ordered.disjoint.imp_of_mem ?_
    rintro t u ht hu follow _ inT _ inU rfl
    obtain ⟨p, hp, rfl⟩ := List.mem_map.mp inT
    obtain ⟨q, hq, same⟩ := List.mem_map.mp inU
    have nonempty := h.ordered.nonempty t ht
    have := h.offset_eq_of_placed hq hp same
    unfold stop at follow
    omega

theorem mem_map_fst_placements (h : Rearranged source woven arrange edits tokens) {t : Token} :
    t ∈ (placements arrange edits tokens).map Prod.fst ↔ t ∈ tokens := by
  constructor
  · intro ht
    obtain ⟨p, hp, rfl⟩ := List.mem_map.mp ht
    obtain ⟨u, hu, hp⟩ := List.mem_flatMap.mp hp
    rcases mem_placed hp with ⟨-, rfl⟩ | ⟨e, he, -, -, hp⟩
    · exact hu
    · exact (h.mem_filter_of_mem_spaced he hp).1
  · intro ht
    by_cases inside : ∃ e ∈ edits, t.startsIn e = true
    · obtain ⟨e, he, inside⟩ := inside
      obtain ⟨first, hfirst, start⟩ := h.starts e he
      have replaces := h.chain.replaces e he
      have written : t ∈ (spaced (Edit.shifted edits e.start)
          (arrange (tokens.filter (startsIn e)))).map Prod.fst := by
        rw [map_fst_spaced, (h.arranges e he).mem_iff]
        exact List.mem_filter.mpr ⟨ht, inside⟩
      obtain ⟨p, hp, rfl⟩ := List.mem_map.mp written
      refine List.mem_map_of_mem (List.mem_flatMap.mpr ⟨first, hfirst, ?_⟩)
      rw [placed_of_startsIn h.chain he (startsIn_iff.mpr ⟨by omega, by omega⟩), if_pos start]
      exact hp
    · have outside : ∀ e ∈ edits, t.startsIn e = false := by
        intro e he
        exact Bool.eq_false_iff.mpr fun holds => inside ⟨e, he, holds⟩
      refine List.mem_map.mpr ⟨(t, Edit.shifted edits t.offset), ?_, rfl⟩
      refine List.mem_flatMap.mpr ⟨t, ht, ?_⟩
      rw [placed_of_outside outside]
      exact List.mem_singleton_self _

/-- The new sequence has every token exactly once. -/
theorem placements_perm (h : Rearranged source woven arrange edits tokens) :
    ((placements arrange edits tokens).map Prod.fst).Perm tokens :=
  (List.perm_ext_iff_of_nodup h.nodup_placements h.ordered.nodup).mpr
    fun _ => h.mem_map_fst_placements

/-- What went between two offsets that no edit has inside was placed for what was between them. -/
theorem filter_flatMap_placed (h : Rearranged source woven arrange edits tokens) {start stop : Nat}
    (hstart : Edit.Outside edits start) (hstop : Edit.Outside edits stop) {part : List Token}
    (sub : ∀ t ∈ part, t ∈ tokens) :
    (part.flatMap (placed arrange edits tokens)).filter (fun p =>
        Edit.shifted edits start ≤ p.2 && p.2 < Edit.shifted edits stop) =
      (part.filter fun t => start ≤ t.offset && t.offset < stop).flatMap
        (placed arrange edits tokens) := by
  induction part with
  | nil => rfl
  | cons t ts ih =>
    have cuts := fun p hp => h.placed_cut (p := p) (sub t (by simp)) hp hstart
    have cuts' := fun p hp => h.placed_cut (p := p) (sub t (by simp)) hp hstop
    rw [List.flatMap_cons, List.filter_append, ih fun u hu => sub u (List.mem_cons_of_mem t hu)]
    by_cases within : start ≤ t.offset ∧ t.offset < stop
    · rw [List.filter_cons_of_pos (by simpa using within), List.flatMap_cons]
      congr 1
      refine List.filter_eq_self.mpr fun p hp => ?_
      have := (cuts p hp).2 within.1
      have := (cuts' p hp).1 within.2
      simp only [Bool.and_eq_true, decide_eq_true_eq]
      omega
    · rw [List.filter_cons_of_neg (by simpa using within)]
      refine List.append_left_eq_self.mpr (List.filter_eq_nil_iff.mpr fun p hp => ?_)
      have := (cuts p hp).1
      have := (cuts' p hp).2
      simp only [Bool.and_eq_true, decide_eq_true_eq]
      omega

/-- Between two offsets that no edit has inside, the new sequence is made from the tokens that were
between them. -/
theorem between_relaid (h : Rearranged source woven arrange edits tokens) {start stop : Nat}
    (hstart : Edit.Outside edits start) (hstop : Edit.Outside edits stop) :
    between (Edit.shifted edits start) (Edit.shifted edits stop) (relaid arrange edits tokens) =
      ((between start stop tokens).flatMap (placed arrange edits tokens)).map moved := by
  have sorted : (relaid arrange edits tokens).Pairwise fun a b => a.offset ≤ b.offset :=
    List.pairwise_map.mpr (h.placements_pairwise.imp Nat.le_of_lt)
  rw [between_eq_filter sorted, between_eq_filter h.ordered.sorted, relaid, List.filter_map]
  exact congrArg _ (h.filter_flatMap_placed hstart hstop fun t ht => ht)

/-- In place of the tokens of an edit stand the same tokens in the new order. -/
theorem flatMap_placed_filter (h : Rearranged source woven arrange edits tokens) {e : Edit}
    (he : e ∈ edits) :
    (tokens.filter (startsIn e)).flatMap (placed arrange edits tokens) =
      spaced (Edit.shifted edits e.start) (arrange (tokens.filter (startsIn e))) := by
  obtain ⟨first, hfirst, start⟩ := h.starts e he
  have replaces := h.chain.replaces e he
  have mine : first ∈ tokens.filter (startsIn e) :=
    List.mem_filter.mpr ⟨hfirst, startsIn_iff.mpr ⟨by omega, by omega⟩⟩
  have inside : ∀ t ∈ tokens.filter (startsIn e), t ∈ tokens ∧ t.startsIn e = true :=
    fun t ht => List.mem_filter.mp ht
  have ordered := h.ordered.disjoint.filter (startsIn e)
  cases members : tokens.filter (startsIn e) with
  | nil => simp [members] at mine
  | cons t ts =>
    rw [members] at mine inside ordered
    obtain ⟨follow, -⟩ := List.pairwise_cons.mp ordered
    have inT := startsIn_iff.mp (inside t (by simp)).2
    have nonempty := h.ordered.nonempty t (inside t (by simp)).1
    have head : t.offset = e.start := by
      rcases List.mem_cons.mp mine with rfl | mine
      · exact start
      · have := follow first mine
        unfold stop at this
        omega
    have none : ts.flatMap (placed arrange edits tokens) = [] := by
      refine List.flatMap_eq_nil_iff.mpr fun u hu => ?_
      have later := follow u hu
      have different : ¬u.offset = e.start := by
        unfold stop at later
        omega
      rw [placed_of_startsIn h.chain he (inside u (List.mem_cons_of_mem t hu)).2,
        if_neg different]
    rw [List.flatMap_cons, none, List.append_nil,
      placed_of_startsIn h.chain he (inside t (by simp)).2, if_pos head, members]

end Rearranged

end SwiftStyle.Token
