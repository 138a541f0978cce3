import SwiftStyle.Token

/-!
Tokens in the order of a text, and those of them that start in a range.
-/

namespace SwiftStyle

theorem eq_or_rel_of_pairwise {α : Type} {r : α → α → Prop} {l : List α} (h : l.Pairwise r)
    {a b : α} (ha : a ∈ l) (hb : b ∈ l) : a = b ∨ r a b ∨ r b a := by
  have forward : l.Pairwise fun a b => a = b ∨ r a b ∨ r b a := h.imp fun rel => .inr (.inl rel)
  refine forward.forall_of_forall_of_flip (fun _ _ => .inl rfl) ?_ ha hb
  exact h.imp fun rel => .inr (.inr rel)

/-- Filtering leaves the middle of a list if it drops what is at the ends, and nothing else. -/
theorem filter_eq_of_parts {α : Type} {keep : α → Bool} {front middle back : List α}
    (dropped : ∀ a ∈ front, keep a = false) (kept : ∀ a ∈ middle, keep a = true)
    (dropped' : ∀ a ∈ back, keep a = false) :
    (front ++ middle ++ back).filter keep = middle := by
  have none : ∀ part : List α, (∀ a ∈ part, keep a = false) → part.filter keep = [] := by
    intro part all
    exact List.filter_eq_nil_iff.mpr fun a ha => Bool.eq_false_iff.mp (all a ha)
  rw [List.filter_append, List.filter_append, none front dropped, none back dropped',
    List.filter_eq_self.mpr kept, List.nil_append, List.append_nil]

namespace Token

/-- Tokens that follow each other, each of which covers something. -/
structure InOrder (tokens : List Token) : Prop where
  disjoint : tokens.Pairwise fun a b => a.stop ≤ b.offset
  nonempty : ∀ t ∈ tokens, 0 < t.length

theorem InOrder.ascending {tokens : List Token} (h : InOrder tokens) :
    tokens.Pairwise fun a b => a.offset < b.offset := by
  apply h.disjoint.imp_of_mem
  intro a b mem _ follow
  have := h.nonempty a mem
  unfold stop at follow
  omega

theorem InOrder.sorted {tokens : List Token} (h : InOrder tokens) :
    tokens.Pairwise fun a b => a.offset ≤ b.offset := h.ascending.imp Nat.le_of_lt

theorem InOrder.nodup {tokens : List Token} (h : InOrder tokens) : tokens.Nodup := by
  apply h.ascending.imp
  rintro t u before rfl
  exact Nat.lt_irrefl _ before

theorem takeWhile_eq_nil_of_le {n : Nat} {tokens : List Token}
    (late : ∀ t ∈ tokens, n ≤ t.offset) : tokens.takeWhile (·.offset < n) = [] := by
  cases tokens with
  | nil => rfl
  | cons t ts =>
    have := late t (by simp)
    simp only [List.takeWhile_cons, decide_eq_true_eq, ite_eq_right_iff, reduceCtorEq, imp_false]
    omega

theorem takeWhile_eq_filter {n : Nat} {tokens : List Token}
    (sorted : tokens.Pairwise fun a b => a.offset ≤ b.offset) :
    tokens.takeWhile (·.offset < n) = tokens.filter (·.offset < n) := by
  induction tokens with
  | nil => rfl
  | cons t ts ih =>
    obtain ⟨first, sorted⟩ := List.pairwise_cons.mp sorted
    by_cases before : t.offset < n
    · simp [before, ih sorted]
    · have late : ∀ u ∈ t :: ts, n ≤ u.offset := by
        intro u hu
        rcases List.mem_cons.mp hu with rfl | hu
        · omega
        · have := first u hu
          omega
      rw [takeWhile_eq_nil_of_le late, eq_comm, List.filter_eq_nil_iff]
      intro u hu
      have := late u hu
      simp only [decide_eq_true_eq]
      omega

/-- Selecting the tokens of a range is filtering, for tokens ordered by offset and any range. -/
theorem between_eq_filter {tokens : List Token}
    (sorted : tokens.Pairwise fun a b => a.offset ≤ b.offset) (start stop : Nat) :
    between start stop tokens
      = tokens.filter fun t => start ≤ t.offset && t.offset < stop := by
  induction tokens with
  | nil => rfl
  | cons t ts ih =>
    obtain ⟨first, rest⟩ := List.pairwise_cons.mp sorted
    by_cases before : t.offset < start
    · -- the token is cut off at the front, from the range and from the filter
      have skip : between start stop (t :: ts) = between start stop ts := by
        by_cases inside : t.offset < stop
        · simp [between, before, inside, Nat.add_max_add_right]
        · have none : ts.takeWhile (·.offset < stop) = [] :=
            takeWhile_eq_nil_of_le fun u hu => by have := first u hu; omega
          simp [between, before, inside, none]
      rw [skip, ih rest, List.filter_cons_of_neg (by simp; omega)]
    · have late : ∀ u ∈ t :: ts, start ≤ u.offset := by
        intro u hu
        rcases List.mem_cons.mp hu with rfl | hu
        · omega
        · have := first u hu
          omega
      have front : between start stop (t :: ts) = (t :: ts).takeWhile (·.offset < stop) := by
        simp only [between, takeWhile_eq_nil_of_le late, List.length_nil, Nat.zero_max,
          List.drop_zero]
        exact (List.prefix_iff_eq_take.mp (List.takeWhile_prefix _)).symm
      rw [front, takeWhile_eq_filter sorted]
      refine List.filter_congr fun u hu => ?_
      simp [late u hu]

theorem mem_between_iff {tokens : List Token}
    (sorted : tokens.Pairwise fun a b => a.offset ≤ b.offset) {start stop : Nat} {t : Token} :
    t ∈ between start stop tokens ↔ t ∈ tokens ∧ start ≤ t.offset ∧ t.offset < stop := by
  rw [between_eq_filter sorted]
  simp

theorem between_self (offset : Nat) (tokens : List Token) : between offset offset tokens = [] := by
  simp [between]

theorem exists_between_parts (start stop : Nat) (tokens : List Token) :
    ∃ front back, tokens = front ++ between start stop tokens ++ back := by
  have cut : ∀ first last, ∃ front back,
      tokens = front ++ (tokens.take last).drop first ++ back := by
    intro first last
    refine ⟨(tokens.take last).take first, tokens.drop last, ?_⟩
    rw [List.take_append_drop, List.take_append_drop]
  exact cut _ _

/-- Tokens that stand together are all those from the start of the first to the end of the last. -/
theorem InOrder.filter_eq_middle {tokens front middle back rest init : List Token}
    {first last : Token} (h : InOrder tokens) (parts : tokens = front ++ middle ++ back)
    (hfirst : middle = first :: rest) (hlast : middle = init ++ [last]) :
    tokens.filter (fun t => first.offset ≤ t.offset && t.offset < last.stop) = middle ∧
      ∀ t ∈ middle, t.stop ≤ last.stop := by
  have positive : ∀ t ∈ tokens, t.offset < t.stop := fun t ht => by
    have := h.nonempty t ht
    unfold stop
    omega
  have ordered := h.disjoint
  rw [parts] at ordered positive
  obtain ⟨outer, _, across⟩ := List.pairwise_append.mp ordered
  obtain ⟨_, inner, across'⟩ := List.pairwise_append.mp outer
  have starts : ∀ t ∈ middle, first.offset ≤ t.offset := by
    rw [hfirst] at inner ⊢
    intro t ht
    rcases List.mem_cons.mp ht with rfl | ht
    · exact Nat.le_refl _
    · have := (List.pairwise_cons.mp inner).1 t ht
      have := positive first (by simp [hfirst])
      omega
  have stops : ∀ t ∈ middle, t.stop ≤ last.stop := by
    rw [hlast] at inner ⊢
    intro t ht
    rcases List.mem_append.mp ht with ht | ht
    · have := (List.pairwise_append.mp inner).2.2 t ht last (by simp)
      have := positive last (by simp [hlast])
      omega
    · exact Nat.le_of_eq (congrArg stop (List.mem_singleton.mp ht))
  have firstMem : first ∈ middle := by simp [hfirst]
  have lastMem : last ∈ middle := by simp [hlast]
  refine ⟨?_, stops⟩
  rw [parts]
  apply filter_eq_of_parts
  · intro t ht
    have := across' t ht first firstMem
    have := positive t (by simp [ht])
    simp only [Bool.and_eq_false_iff, decide_eq_false_iff_not]
    omega
  · intro t ht
    have := starts t ht
    have := stops t ht
    have := positive t (by simp [ht])
    simp only [Bool.and_eq_true, decide_eq_true_eq]
    omega
  · intro t ht
    have := across last (List.mem_append_right _ lastMem) t ht
    simp only [Bool.and_eq_false_iff, decide_eq_false_iff_not]
    omega

end Token

end SwiftStyle
