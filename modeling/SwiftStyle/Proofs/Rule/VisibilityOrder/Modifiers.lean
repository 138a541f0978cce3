import Mathlib.Data.List.Find
import SwiftStyle.Proofs.Rule.VisibilityOrder.Roles

/-!
What the rule finds among the tokens of one declaration. It finds the same again after the tokens
moved with their texts. A declaration that it can reorder is tokens without a role, then modifiers
with a late visibility, then other tokens; with the visibility in front of the modifiers it finds
nothing any more.
-/

namespace SwiftStyle.VisibilityOrder

variable {source : List Char}

/-- What is wrong with the tokens of a declaration that is like a function, if anything is. -/
def lateIn? (source : List Char) (tokens : List Token) : Option Late :=
  (head? source tokens).bind (late? source)

theorem ofDeclaration?_eq (tokens : List Token) (d : Declaration) :
    ofDeclaration? source tokens d = lateIn? source (Token.between d.offset d.stop tokens) := rfl

/-- Tokens with the first that spells visibility in front of the others, which keep their order. -/
def visibilityForward (source : List Char) (tokens : List Token) : List Token :=
  (tokens.find? (spellsVisibility source)).toList ++ tokens.eraseP (spellsVisibility source)

theorem visibilityForward_perm (tokens : List Token) :
    (visibilityForward source tokens).Perm tokens := by
  unfold visibilityForward
  induction tokens with
  | nil => exact .nil
  | cons t ts ih =>
    by_cases spells : spellsVisibility source t = true
    · simp [spells]
    · rw [List.find?_cons_of_neg spells, List.eraseP_cons_of_neg spells]
      exact List.perm_middle.trans (ih.cons t)

theorem map_snd_visibilityFirst {marked : List (Role × Token)}
    (agree : ∀ m ∈ marked, isVisibility m = spellsVisibility source m.2) :
    (visibilityFirst marked).map Prod.snd = visibilityForward source (marked.map Prod.snd) := by
  have found : (marked.find? isVisibility).map Prod.snd =
      (marked.map Prod.snd).find? (spellsVisibility source) := by
    rw [List.find?_map]
    congr 1
    exact List.find?_congr agree
  have others : (marked.eraseP isVisibility).map Prod.snd =
      (marked.map Prod.snd).eraseP (spellsVisibility source) := by
    clear found
    induction marked with
    | nil => rfl
    | cons m marked ih =>
      have here := agree m (by simp)
      have rest := ih fun n hn => agree n (List.mem_cons_of_mem m hn)
      simp only [List.map_cons, List.eraseP_cons, ← here]
      cases isVisibility m <;> simp [rest]
  rw [visibilityFirst, visibilityForward, List.map_append, others, ← found]
  cases marked.find? isVisibility <;> rfl

theorem exists_trimmed {α : Type} (p : α → Bool) (l : List α) :
    ∃ front middle back, l = front ++ middle ++ back ∧
      (l.dropWhile p).reverse.dropWhile p = middle.reverse ∧
      (∀ a ∈ front, p a = true) ∧ ∀ a ∈ back, p a = true := by
  refine ⟨l.takeWhile p, ((l.dropWhile p).reverse.dropWhile p).reverse,
    ((l.dropWhile p).reverse.takeWhile p).reverse, ?_, by simp, ?_, ?_⟩
  · rw [List.append_assoc, ← List.reverse_append, List.takeWhile_append_dropWhile,
      List.reverse_reverse, List.takeWhile_append_dropWhile]
  · exact fun a ha => List.all_eq_true.mp List.all_takeWhile a ha
  · exact fun a ha => List.all_eq_true.mp List.all_takeWhile a (List.mem_reverse.mp ha)

theorem late?_eq_none {tokens : List Token} {unrelated rest : List (Role × Token)}
    {first : Role × Token} (marked : withRoles source tokens = unrelated ++ first :: rest)
    (before : ∀ m ∈ unrelated, isUnrelated m = true) (visible : isVisibility first = true) :
    late? source tokens = none := by
  have related : isUnrelated first = false := by
    unfold isVisibility at visible
    simp [isUnrelated, eq_of_beq visible]
  have none : unrelated.filter (fun m => !isUnrelated m) = [] :=
    List.filter_eq_nil_iff.mpr fun m hm => by simp [before m hm]
  unfold late?
  simp [marked, none, related, visible]

/-- What can be reordered are modifiers with a late visibility, without anything else between. -/
theorem exists_marked {tokens : List Token} {offset : Nat} {r : Reordering}
    (h : late? source tokens = some ⟨offset, some r⟩) :
    ∃ front first rest back, withRoles source tokens = front ++ (first :: rest) ++ back ∧
      (∀ m ∈ front, isUnrelated m = true) ∧
      (∀ m ∈ first :: rest,
        m.2.kind = .keyword ∧ isVisibility m = spellsVisibility source m.2) ∧
      isVisibility first = false ∧ rest.any isVisibility = true ∧
      r = ⟨first.2.offset, ((rest.getLast?).getD first).2.stop,
        joined source (visibilityFirst (first :: rest))⟩ := by
  obtain ⟨front, middle, back, whole, trimmed, unrelated, unrelated'⟩ :=
    exists_trimmed isUnrelated (withRoles source tokens)
  simp only [late?, trimmed] at h
  cases modifiers : (withRoles source tokens).filter fun m => !isUnrelated m with
  | nil => simp [modifiers] at h
  | cons first rest =>
    simp only [modifiers, Option.ite_none_left_eq_some, Option.some.injEq, Late.mk.injEq,
      Bool.or_eq_true, Bool.not_eq_true', not_or, Bool.not_eq_true, Bool.not_eq_false] at h
    obtain ⟨⟨hidden, shown⟩, -, free, same⟩ := h
    have related : ∀ m ∈ middle, isUnrelated m = false := fun m hm =>
      Bool.eq_false_iff.mpr (List.any_eq_false.mp free m (List.mem_reverse.mpr hm))
    -- the modifiers are what is left after trimming
    have kept : middle = first :: rest := by
      rw [← modifiers, whole]
      symm
      apply filter_eq_of_parts
      · exact fun m hm => by simp [unrelated m hm]
      · exact fun m hm => by simp [related m hm]
      · exact fun m hm => by simp [unrelated' m hm]
    subst kept
    refine ⟨front, first, rest, back, whole, unrelated, ?_, hidden, shown, same.symm⟩
    intro m hm
    have mine : m ∈ withRoles source tokens := by
      rw [whole]
      exact List.mem_append_left _ (List.mem_append_right _ hm)
    exact spec_of_mem_withRoles mine (related m hm)

/-- Modifiers with a late visibility are in order once the visibility is in front of them. -/
theorem late?_visibilityForward {tokens : List Token} {front rest back : List (Role × Token)}
    {first : Role × Token} (whole : withRoles source tokens = front ++ (first :: rest) ++ back)
    (unrelated : ∀ m ∈ front, isUnrelated m = true)
    (roles : ∀ m ∈ first :: rest,
      m.2.kind = .keyword ∧ isVisibility m = spellsVisibility source m.2)
    (hidden : isVisibility first = false) (shown : rest.any isVisibility = true) :
    late? source (front.map Prod.snd ++ visibilityForward source ((first :: rest).map Prod.snd)
      ++ back.map Prod.snd) = none := by
  obtain ⟨keyword, spelled⟩ := roles first (by simp)
  have hidden' : ¬spellsVisibility source first.2 = true := by
    rw [← spelled, hidden]
    exact Bool.false_ne_true
  obtain ⟨visible, hvisible, shown⟩ := List.any_eq_true.mp shown
  obtain ⟨v, found⟩ : ∃ v, (rest.map Prod.snd).find? (spellsVisibility source) = some v := by
    rw [← Option.isSome_iff_exists, List.find?_isSome]
    refine ⟨visible.2, List.mem_map_of_mem hvisible, ?_⟩
    rw [← (roles visible (List.mem_cons_of_mem first hvisible)).2, shown]
  have spells : spellsVisibility source v = true := List.find?_some found
  have keyword' : v.kind = .keyword := by
    obtain ⟨m, hm, rfl⟩ := List.mem_map.mp (List.mem_of_find?_eq_some found)
    exact (roles m (List.mem_cons_of_mem first hm)).1
  have forward : visibilityForward source ((first :: rest).map Prod.snd) =
      v :: first.2 :: (rest.map Prod.snd).eraseP (spellsVisibility source) := by
    rw [visibilityForward, List.map_cons, List.find?_cons_of_neg hidden',
      List.eraseP_cons_of_neg hidden', found]
    rfl
  have parts : tokens = front.map Prod.snd ++
      first.2 :: (rest.map Prod.snd ++ back.map Prod.snd) := by
    rw [← map_snd_withRoles source tokens, whole]
    simp
  -- neither what followed the front nor what follows it now opens a parenthesis
  obtain ⟨marked, length, old, new⟩ := withRoles_append
    ((opensNext_of_keyword keyword).trans (opensNext_of_keyword keyword').symm)
    (front.map Prod.snd)
  have same : front = marked := by
    rw [← parts, whole, List.append_assoc] at old
    exact (List.append_inj old (by simp [length])).1
  subst same
  rw [forward, List.append_assoc, List.cons_append, List.cons_append]
  refine late?_eq_none new unrelated ?_
  rw [isVisibility, role_eq_visibility keyword' spells (opensNext_of_keyword keyword)]
  rfl

/-- How the modifiers that a reordering is for stand among the tokens of a declaration. -/
structure Reorders (source : List Char) (tokens : List Token) (r : Reordering)
    (before modifiers after : List Token) : Prop where
  parts : tokens = before ++ modifiers ++ after
  follows : after ≠ []
  starts : ∃ first rest, modifiers = first :: rest ∧ r.start = first.offset
  stops : ∃ front last, modifiers = front ++ [last] ∧ r.stop = last.stop
  spells : r.replacement = Token.spacedText source (visibilityForward source modifiers)
  mends : lateIn? source (before ++ visibilityForward source modifiers ++ after) = none

/-- The tokens before the first introducing keyword, and those from it on. -/
theorem head?_eq_some_iff {tokens head : List Token} :
    head? source tokens = some head ↔ (∀ t ∈ head, introduces source t = false) ∧
      ∃ keyword after, introduces source keyword = true ∧ tokens = head ++ keyword :: after := by
  unfold head?
  constructor
  · intro h
    split at h
    · next introduced =>
      cases h
      have plain : ∀ t ∈ tokens.takeWhile fun t => !introduces source t,
          introduces source t = false := fun t ht => by
        simpa using List.all_eq_true.mp List.all_takeWhile t ht
      refine ⟨plain, ?_⟩
      have whole := List.takeWhile_append_dropWhile (p := fun t => !introduces source t)
        (l := tokens)
      have stop := List.head?_dropWhile_not (fun t => !introduces source t) tokens
      cases rest : tokens.dropWhile fun t => !introduces source t with
      | nil =>
        obtain ⟨t, ht, holds⟩ := List.any_eq_true.mp introduced
        rw [rest, List.append_nil] at whole
        rw [← whole] at ht
        exact absurd holds (Bool.eq_false_iff.mp (plain t ht))
      | cons keyword after =>
        rw [rest] at whole stop
        exact ⟨keyword, after, by simpa using stop, whole.symm⟩
    · simp at h
  · rintro ⟨none, keyword, after, introduced, rfl⟩
    rw [if_pos (by simp [introduced]), List.takeWhile_append_of_pos fun t ht => by simp [none t ht],
      List.takeWhile_cons_of_neg (by simp [introduced]), List.append_nil]

/-- A declaration that can be reordered has nothing wrong with it once it is. -/
theorem exists_reorders {tokens : List Token} {offset : Nat} {r : Reordering}
    (h : lateIn? source tokens = some ⟨offset, some r⟩) :
    ∃ before modifiers after, Reorders source tokens r before modifiers after := by
  obtain ⟨head, hhead, h⟩ := Option.bind_eq_some_iff.mp h
  obtain ⟨plain, keyword, after, introduced, parts⟩ := head?_eq_some_iff.mp hhead
  obtain ⟨front, first, rest, back, whole, unrelated, roles, hidden, shown, rfl⟩ :=
    exists_marked h
  have mended := late?_visibilityForward whole unrelated roles hidden shown
  have headParts : head = front.map Prod.snd ++ (first :: rest).map Prod.snd
      ++ back.map Prod.snd := by
    rw [← map_snd_withRoles source head, whole]
    simp
  refine ⟨front.map Prod.snd, (first :: rest).map Prod.snd,
    back.map Prod.snd ++ keyword :: after, ?_, by simp, ⟨first.2, rest.map Prod.snd, rfl, rfl⟩,
    ?_, ?_, ?_⟩
  · rw [parts, headParts]
    simp
  · have last : (first :: rest).getLast? = some ((rest.getLast?).getD first) := List.getLast?_cons
    obtain ⟨init, parts⟩ := List.getLast?_eq_some_iff.mp last
    exact ⟨init.map Prod.snd, ((rest.getLast?).getD first).2, by rw [parts]; simp, rfl⟩
  · rw [joined_eq, map_snd_visibilityFirst fun m hm => (roles m hm).2]
  · have perm : (front.map Prod.snd ++ visibilityForward source ((first :: rest).map Prod.snd)
        ++ back.map Prod.snd).Perm head := by
      rw [headParts]
      exact ((visibilityForward_perm _).append_left _).append_right _
    rw [lateIn?, head?_eq_some_iff.mpr
      ⟨fun t ht => plain t (perm.mem_iff.mp ht), keyword, after, introduced, by simp⟩]
    exact mended

/-! The same is wrong with tokens that moved with their texts. -/

section

variable {woven : List Char} {places : List (Token × Nat)}

theorem filter_related {f : Role × Token × Nat → Role × Token} (role : ∀ m, (f m).1 = m.1)
    (marked : List (Role × Token × Nat)) :
    ((marked.map f).filter fun m => !isUnrelated m) =
      (marked.filter fun m => m.1 != .unrelated).map f := by
  rw [List.filter_map]
  congr 1
  refine List.filter_congr fun m _ => ?_
  simp [isUnrelated, role, bne]

theorem any_unrelated {f : Role × Token × Nat → Role × Token} (role : ∀ m, (f m).1 = m.1)
    (marked : List (Role × Token × Nat)) :
    (((marked.map f).dropWhile isUnrelated).reverse.dropWhile isUnrelated).any isUnrelated =
      (((marked.dropWhile fun m => m.1 == .unrelated).reverse.dropWhile
        fun m => m.1 == .unrelated).any fun m => m.1 == .unrelated) := by
  have same : isUnrelated ∘ f = fun m => m.1 == .unrelated := by
    funext m
    simp [isUnrelated, role]
  rw [List.dropWhile_map, ← List.map_reverse, List.dropWhile_map, List.any_map, same]

theorem late?_moved
    (same : ∀ p ∈ places, (Token.moved p).text woven = p.1.text source) :
    (late? source (places.map Prod.fst) = none →
        late? woven (places.map Token.moved) = none) ∧
      ∀ offset, late? source (places.map Prod.fst) = some ⟨offset, none⟩ →
        ∃ p ∈ places, p.1.offset = offset ∧
          late? woven (places.map Token.moved) = some ⟨p.2, none⟩ := by
  obtain ⟨marked, hplaces, hold, hnew⟩ := withRoles_moved same
  have role : ∀ m, (atOld m).1 = m.1 := fun _ => rfl
  have role' : ∀ m, (atNew m).1 = m.1 := fun _ => rfl
  unfold late?
  rw [hold, hnew]
  simp only [filter_related role, filter_related role', any_unrelated role, any_unrelated role']
  cases related : marked.filter fun m => m.1 != .unrelated with
  | nil => simp
  | cons first rest =>
    have mine : first.2 ∈ places := by
      have held : first ∈ marked.filter fun m => m.1 != .unrelated := by simp [related]
      rw [← hplaces]
      exact List.mem_map_of_mem (List.mem_filter.mp held).1
    have early : (isVisibility (atNew first) || !(rest.map atNew).any isVisibility) =
        (isVisibility (atOld first) || !(rest.map atOld).any isVisibility) := by
      rw [List.any_map, List.any_map]
      rfl
    simp only [List.map_cons, early]
    split
    · simp
    · simp only [reduceCtorEq, false_implies, Option.some.injEq, Late.mk.injEq, true_and, and_imp]
      rintro offset start free
      rw [if_pos (by simpa using free)]
      exact ⟨first.2, mine, start, by simp [atNew]⟩

theorem head?_map {α : Type} {f g : α → Token} {l : List α}
    (same : ∀ a ∈ l, introduces woven (g a) = introduces source (f a)) {head : List Token}
    (h : head? source (l.map f) = some head) :
    ∃ front : List α, (∀ a ∈ front, a ∈ l) ∧ head = front.map f ∧
      head? woven (l.map g) = some (front.map g) := by
  obtain ⟨plain, keyword, after, introduced, parts⟩ := head?_eq_some_iff.mp h
  obtain ⟨front, rest, rfl, rfl, tail⟩ := List.map_eq_append_iff.mp parts
  obtain ⟨a, back, rfl, rfl, rfl⟩ := List.map_eq_cons_iff.mp tail
  refine ⟨front, fun b hb => List.mem_append_left _ hb, rfl, head?_eq_some_iff.mpr ⟨?_, g a,
    back.map g, ?_, by simp⟩⟩
  · intro t ht
    obtain ⟨b, hb, rfl⟩ := List.mem_map.mp ht
    rw [same b (List.mem_append_left _ hb)]
    exact plain (f b) (List.mem_map_of_mem hb)
  · rw [same a (by simp)]
    exact introduced

theorem introduces_moved {p : Token × Nat}
    (same : (Token.moved p).text woven = p.1.text source) :
    introduces woven (Token.moved p) = introduces source p.1 := by
  simp [introduces, same]

theorem lateIn?_moved (same : ∀ p ∈ places, (Token.moved p).text woven = p.1.text source) :
    (lateIn? source (places.map Prod.fst) = none →
        lateIn? woven (places.map Token.moved) = none) ∧
      ∀ offset, lateIn? source (places.map Prod.fst) = some ⟨offset, none⟩ →
        ∃ p ∈ places, p.1.offset = offset ∧
          lateIn? woven (places.map Token.moved) = some ⟨p.2, none⟩ := by
  have introduced : ∀ p ∈ places, introduces woven (Token.moved p) = introduces source p.1 :=
    fun p hp => introduces_moved (same p hp)
  unfold lateIn?
  cases found : head? source (places.map Prod.fst) with
  | none =>
    refine ⟨fun _ => ?_, by simp⟩
    rw [Option.bind_eq_none_iff]
    intro head hhead
    obtain ⟨front, -, -, again⟩ := head?_map (f := Token.moved) (g := Prod.fst)
      (fun p hp => (introduced p hp).symm) hhead
    simp [found] at again
  | some head =>
    obtain ⟨front, sub, rfl, moved⟩ := head?_map introduced found
    rw [moved]
    obtain ⟨clean, reported⟩ := late?_moved fun p hp => same p (sub p hp)
    refine ⟨clean, fun offset h => ?_⟩
    obtain ⟨p, hp, result⟩ := reported offset h
    exact ⟨p, sub p hp, result⟩

end

end SwiftStyle.VisibilityOrder
