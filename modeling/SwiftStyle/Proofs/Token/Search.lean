import Mathlib.Data.List.TakeWhile
import SwiftStyle.ParseTree.Outline
import SwiftStyle.Proofs.Token.Range

/-!
Tokens of a range found by halving. Of tokens ordered by offset, those before an offset stand in
front of the others, so halving finds where the others start, also among equal offsets. The range
is cut out between two such places. A reversed range is repaired to an empty one at the first place,
so what is cut out always lies in the list.
-/

namespace SwiftStyle

/-- Halves the places from `low` to `high` until one is left. -/
def bisect (holds : Nat → Bool) (low high : Nat) : Nat :=
  if low < high then
    let middle := (low + high) / 2
    if holds middle then bisect holds (middle + 1) high else bisect holds low middle
  else low
termination_by high - low

theorem bisect_le (holds : Nat → Bool) {low high : Nat} (ordered : low ≤ high) :
    bisect holds low high ≤ high := by
  fun_induction bisect holds low high with
  | case1 low high _ middle _ ih => exact ih (by omega)
  | case2 low high _ middle _ ih => exact Nat.le_trans (ih (by omega)) (by omega)
  | case3 low high _ => exact ordered

/-- A place that tells where a test holds from where it does not stays between the bounds. -/
theorem bisect_eq {holds : Nat → Bool} {low high point : Nat}
    (tells : ∀ i, holds i = decide (i < point)) (first : low ≤ point) (last : point ≤ high) :
    bisect holds low high = point := by
  fun_induction bisect holds low high with
  | case1 low high _ middle before ih =>
    rw [tells, decide_eq_true_eq] at before
    exact ih before last
  | case2 low high _ middle after ih =>
    rw [tells, decide_eq_true_eq, Nat.not_lt] at after
    exact ih first after
  | case3 low high done => omega

namespace Token

/-- The place up to which tokens start before an offset. -/
def placeOf (offset : Nat) (tokens : List Token) : Nat :=
  bisect (fun i => tokens[i]?.any (·.offset < offset)) 0 tokens.length

/-- The tokens from one place to another; none if the places do not lie in the list in this
order. -/
def slice? (first last : Nat) (tokens : List Token) : Option (List Token) :=
  if first ≤ last ∧ last ≤ tokens.length then some ((tokens.take last).drop first) else none

/-- The tokens between the places of two offsets, of which the second gives way to the first. -/
def search? (start stop : Nat) (tokens : List Token) : Option (List Token) :=
  slice? (placeOf start tokens) (max (placeOf stop tokens) (placeOf start tokens)) tokens

theorem placeOf_le (offset : Nat) (tokens : List Token) : placeOf offset tokens ≤ tokens.length :=
  bisect_le _ (Nat.zero_le _)

theorem search?_eq_some (start stop : Nat) (tokens : List Token) :
    search? start stop tokens =
      some ((tokens.take (max (placeOf stop tokens) (placeOf start tokens))).drop
        (placeOf start tokens)) := by
  rw [search?, slice?, if_pos]
  exact ⟨Nat.le_max_right _ _, Nat.max_le.mpr ⟨placeOf_le stop tokens, placeOf_le start tokens⟩⟩

theorem le_offset_of_mem_dropWhile {n : Nat} {tokens : List Token}
    (sorted : tokens.Pairwise fun a b => a.offset ≤ b.offset) :
    ∀ t ∈ tokens.dropWhile (·.offset < n), n ≤ t.offset := by
  induction tokens with
  | nil => simp
  | cons t ts ih =>
    obtain ⟨first, rest⟩ := List.pairwise_cons.mp sorted
    by_cases before : t.offset < n
    · rw [List.dropWhile_cons_of_pos (by simpa using before)]
      exact ih rest
    · rw [List.dropWhile_cons_of_neg (by simpa using before)]
      have reached := Nat.not_lt.mp before
      exact List.forall_mem_cons.mpr ⟨reached, fun u hu => Nat.le_trans reached (first u hu)⟩

theorem placeOf_append {n : Nat} {front back : List Token} (early : ∀ t ∈ front, t.offset < n)
    (late : ∀ t ∈ back, n ≤ t.offset) : placeOf n (front ++ back) = front.length := by
  apply bisect_eq _ (Nat.zero_le _) (List.length_append ▸ Nat.le_add_right _ _)
  intro i
  by_cases inFront : i < front.length
  · rw [List.getElem?_append_left inFront, List.getElem?_eq_getElem inFront, Option.any_some,
      decide_eq_true inFront]
    exact decide_eq_true (early _ (List.getElem_mem inFront))
  · rw [List.getElem?_append_right (Nat.not_lt.mp inFront), decide_eq_false inFront,
      Option.any_eq_false]
    intro t found
    simpa using late t (List.mem_of_getElem? found)

/-- In ordered tokens halving finds what counting from the front finds. -/
theorem placeOf_eq {tokens : List Token}
    (sorted : tokens.Pairwise fun a b => a.offset ≤ b.offset) (n : Nat) :
    placeOf n tokens = (tokens.takeWhile (·.offset < n)).length := by
  have early : ∀ t ∈ tokens.takeWhile (·.offset < n), t.offset < n := fun t ht => by
    simpa using List.mem_takeWhile_imp ht
  have found := placeOf_append early (le_offset_of_mem_dropWhile sorted)
  rwa [List.takeWhile_append_dropWhile] at found

/-- Searching tokens always cuts out a part of them. If they are ordered by offset, it cuts out
those that start in the range, all of them and in their order, and so does counting from the front,
for a range of any kind as well as for the bytes of a node. -/
theorem search_selects_range :
    (∀ tokens start stop, (search? start stop tokens).isSome) ∧
      ∀ tokens, tokens.Pairwise (fun a b => a.offset ≤ b.offset) →
        (∀ start stop,
          search? start stop tokens
            = some (tokens.filter fun t => start ≤ t.offset ∧ t.offset < stop) ∧
          between start stop tokens
            = tokens.filter fun t => start ≤ t.offset ∧ t.offset < stop) ∧
        ∀ text (node : ParseTree), ParseTree.Source.tokensOf ⟨text, tokens⟩ node
          = tokens.filter fun t => node.start ≤ t.offset ∧ t.offset < node.stop := by
  constructor
  · intro tokens start stop
    rw [search?_eq_some]
    rfl
  intro tokens sorted
  have filters (start stop : Nat) : between start stop tokens
      = tokens.filter fun t => start ≤ t.offset ∧ t.offset < stop := by
    simp only [between_eq_filter sorted, Bool.decide_and]
  refine ⟨fun start stop => ⟨?_, filters start stop⟩, fun _ node => filters node.start node.stop⟩
  rw [search?_eq_some, placeOf_eq sorted, placeOf_eq sorted, Nat.max_comm, ← filters, between]

/-- Tokens of which two start at the same offset. -/
def twinTokens : List Token :=
  [⟨.keyword, 0, 2⟩, ⟨.docComment, 3, 0⟩, ⟨.identifier, 3, 4⟩, ⟨.punctuation, 9, 1⟩]

theorem search_selects_range_twinTokens :
    twinTokens.Pairwise (fun a b => a.offset ≤ b.offset) ∧
      search? 3 9 twinTokens = some [⟨.docComment, 3, 0⟩, ⟨.identifier, 3, 4⟩] ∧
      search? 9 3 twinTokens = some [] ∧ search? 12 20 twinTokens = some [] := by
  have sorted : twinTokens.Pairwise (fun a b => a.offset ≤ b.offset) := by decide
  obtain ⟨selects, -⟩ := search_selects_range.2 twinTokens sorted
  exact ⟨sorted, (selects 3 9).1, (selects 9 3).1, (selects 12 20).1⟩

end Token

end SwiftStyle
