import Mathlib.Data.List.Basic
import SwiftStyle.Proofs.Declaration.Relocation
import SwiftStyle.Proofs.Rule.VisibilityOrder.Requests

/-!
A file after the rule corrected it. The modifiers that were rewritten are in order, and all other
tokens moved with their texts, so that the rule reports what it could not rewrite, at its new
place, and nothing else.
-/

namespace SwiftStyle.VisibilityOrder

variable {file : SourceFile} {outline : Outline}

/-- An outline laid out again on the corrected text of a file: offsets go where the edits move
them, and the tokens of every rewritten span stand one byte apart, the visibility first. -/
def relaid (file : SourceFile) (outline : Outline) : Outline where
  root := outline.root.relocate (Edit.shifted (applied file))
  tokens :=
    Token.relaid (visibilityForward file.text.toList) (applied file) outline.tokens

/-- What is still wrong after the correction with a declaration that something was wrong with. -/
def stays? (edits : List Edit) (late : Late) : Option Late :=
  if late.reordering?.isSome then none else some ⟨Edit.shifted edits late.offset, none⟩

theorem outside_ends (parsed : file.outline = .ok outline) (h : Orderly file.text.toList outline)
    {d : Declaration} (hd : d ∈ functions outline) (nonempty : d.offset < d.stop) :
    Edit.Outside (applied file) d.offset ∧ Edit.Outside (applied file) d.stop := by
  have own : ∀ e ∈ applied file, ∀ byte, d.Covers byte → e.Replaces byte →
      d.offset ≤ e.start ∧ e.stop ≤ d.stop := by
    intro e he byte covers replaces
    obtain ⟨d', hd', hedit⟩ := (mem_edits parsed).mp ((applied_perm parsed h).mem_iff.mp he)
    obtain ⟨_, _, _, span⟩ := h.exists_span (h.editOf?_of_replaces hd hd' hedit covers replaces)
    exact span.within
  constructor
  · intro e he
    by_cases cut : e.start < d.offset ∧ d.offset < e.stop
    · have := own e he d.offset ⟨Nat.le_refl _, nonempty⟩ ⟨by omega, by omega⟩
      omega
    · omega
  · intro e he
    by_cases cut : e.start < d.stop ∧ d.stop < e.stop
    · have := own e he (d.stop - 1) ⟨by omega, by omega⟩ ⟨by omega, by omega⟩
      omega
    · omega

theorem startsIn_eq_false (parsed : file.outline = .ok outline)
    (h : Orderly file.text.toList outline) {d : Declaration} (hd : d ∈ functions outline)
    {t : Token} (ht : t ∈ Token.between d.offset d.stop outline.tokens)
    (free : ∀ e, editOf? file.text.toList outline.tokens d = some e → t.startsIn e = false) :
    ∀ e ∈ applied file, t.startsIn e = false := by
  intro e he
  obtain ⟨d', hd', hedit⟩ := (mem_edits parsed).mp ((applied_perm parsed h).mem_iff.mp he)
  refine Bool.eq_false_iff.mpr fun inside => ?_
  have covers := ((Token.mem_between_iff h.ordered.sorted).mp ht).2
  have mine := h.editOf?_of_replaces hd hd' hedit covers (Token.startsIn_iff.mp inside)
  rw [free e mine] at inside
  exact Bool.false_ne_true inside

theorem flatMap_placed_of_free {arrange : List Token → List Token} {edits : List Edit}
    {tokens part : List Token} (free : ∀ t ∈ part, ∀ e ∈ edits, t.startsIn e = false) :
    part.flatMap (Token.placed arrange edits tokens) =
      part.map fun t => (t, Edit.shifted edits t.offset) := by
  induction part with
  | nil => rfl
  | cons t ts ih =>
    rw [List.flatMap_cons, List.map_cons, Token.placed_of_outside (free t (by simp)),
      ih fun u hu => free u (List.mem_cons_of_mem t hu)]
    rfl

theorem map_fst_flatMap_placed {arrange : List Token → List Token} {edits : List Edit}
    {tokens part : List Token} (free : ∀ t ∈ part, ∀ e ∈ edits, t.startsIn e = false) :
    (part.flatMap (Token.placed arrange edits tokens)).map Prod.fst = part := by
  rw [flatMap_placed_of_free free, List.map_map]
  exact List.map_id part

theorem map_fst_placed_span (parsed : file.outline = .ok outline)
    (h : Orderly file.text.toList outline) {d : Declaration} (hd : d ∈ functions outline)
    {e : Edit} (he : editOf? file.text.toList outline.tokens d = some e)
    {before modifiers after : List Token}
    (span : Span file.text.toList outline.tokens d e before modifiers after) :
    ((Token.between d.offset d.stop outline.tokens).flatMap (Token.placed
        (visibilityForward file.text.toList) (applied file) outline.tokens)).map Prod.fst =
      before ++ visibilityForward file.text.toList modifiers ++ after := by
  have mine : e ∈ applied file :=
    (applied_perm parsed h).mem_iff.mpr ((mem_edits parsed).mpr ⟨d, hd, he⟩)
  have within : ∀ t ∈ before ++ modifiers ++ after,
      t ∈ Token.between d.offset d.stop outline.tokens := fun t ht => span.parts ▸ ht
  have nodup : (before ++ modifiers ++ after).Nodup := by
    rw [← span.parts, Token.between_eq_filter h.ordered.sorted]
    exact h.ordered.nodup.filter _
  obtain ⟨nodup, -, apart⟩ := List.nodup_append.mp nodup
  obtain ⟨-, -, apart'⟩ := List.nodup_append.mp nodup
  have outside : ∀ t, t ∈ Token.between d.offset d.stop outline.tokens → t ∉ modifiers →
      ∀ e ∈ applied file, t.startsIn e = false := by
    intro t ht other
    refine startsIn_eq_false parsed h hd ht fun e' he' => ?_
    rw [he] at he'
    cases he'
    refine Bool.eq_false_iff.mpr fun inside => other ?_
    rw [← span.inside]
    exact List.mem_filter.mpr ⟨((Token.mem_between_iff h.ordered.sorted).mp ht).1, inside⟩
  have free : ∀ t ∈ before, ∀ e ∈ applied file, t.startsIn e = false := fun t ht =>
    outside t (within t (by simp [ht])) fun again => apart' t ht t again rfl
  have free' : ∀ t ∈ after, ∀ e ∈ applied file, t.startsIn e = false := fun t ht =>
    outside t (within t (by simp [ht])) fun again => apart t (by simp [again]) t ht rfl
  have placed := (rearranged parsed h).flatMap_placed_filter mine
  rw [span.inside] at placed
  rw [span.parts, List.flatMap_append, List.flatMap_append, List.map_append, List.map_append,
    map_fst_flatMap_placed free, map_fst_flatMap_placed free', placed, Token.map_fst_spaced]

/-- Where the tokens of a function went, the same is wrong as with these tokens in the new order. -/
theorem lateIn?_between (parsed : file.outline = .ok outline)
    (h : Orderly file.text.toList outline) (start stop : Nat) {places : List (Token × Nat)}
    (whole : places = (Token.between start stop outline.tokens).flatMap (Token.placed
      (visibilityForward file.text.toList) (applied file) outline.tokens)) :
    (lateIn? file.text.toList (places.map Prod.fst) = none →
        lateIn? (file.applyEdits (edits file)).1.text.toList (places.map Token.moved) = none) ∧
      ∀ offset, lateIn? file.text.toList (places.map Prod.fst) = some ⟨offset, none⟩ →
        ∃ p ∈ places, p.1.offset = offset ∧
          lateIn? (file.applyEdits (edits file)).1.text.toList (places.map Token.moved) =
            some ⟨p.2, none⟩ := by
  refine lateIn?_moved fun p hp => ?_
  rw [whole] at hp
  obtain ⟨t, ht, hp⟩ := List.mem_flatMap.mp hp
  refine (rearranged parsed h).text_moved (List.mem_flatMap.mpr ⟨t, ?_, hp⟩)
  exact ((Token.mem_between_iff h.ordered.sorted).mp ht).1

/-- What is wrong with a function after the correction is what was wrong with it, at its new place,
unless it was rewritten. -/
theorem ofDeclaration?_relocate (parsed : file.outline = .ok outline)
    (h : Orderly file.text.toList outline) {d : Declaration} (hd : d ∈ functions outline) :
    ofDeclaration? (file.applyEdits (edits file)).1.text.toList (relaid file outline).tokens
        (d.relocate (Edit.shifted (applied file))) =
      (ofDeclaration? file.text.toList outline.tokens d).bind (stays? (applied file)) := by
  have arranged := rearranged parsed h
  by_cases nonempty : d.offset < d.stop
  · obtain ⟨hstart, hstop⟩ := outside_ends parsed h hd nonempty
    have ordered := arranged.chain.shifted_le hstart (Nat.le_of_lt nonempty)
    rw [ofDeclaration?_eq, Declaration.offset_relocate, Declaration.stop_relocate ordered, relaid,
      arranged.between_relaid hstart hstop]
    obtain ⟨clean, reported⟩ := lateIn?_between parsed h d.offset d.stop rfl
    cases found : editOf? file.text.toList outline.tokens d with
    | some e =>
      obtain ⟨before, modifiers, after, span⟩ := h.exists_span found
      rw [map_fst_placed_span parsed h hd found span] at clean
      rw [clean span.mends]
      obtain ⟨late, hlate, hedit⟩ := Option.bind_eq_some_iff.mp found
      obtain ⟨r, hr, -⟩ := Option.map_eq_some_iff.mp hedit
      simp [hlate, stays?, hr]
    | none =>
      have free : ∀ t ∈ Token.between d.offset d.stop outline.tokens,
          ∀ e ∈ applied file, t.startsIn e = false := fun t ht =>
        startsIn_eq_false parsed h hd ht fun e he => by simp [found] at he
      rw [map_fst_flatMap_placed free, ← ofDeclaration?_eq] at clean reported
      cases wrong : ofDeclaration? file.text.toList outline.tokens d with
      | none => exact clean wrong
      | some late =>
        obtain ⟨offset, reordering⟩ := late
        cases reordering with
        | some r => simp [editOf?, wrong] at found
        | none =>
          obtain ⟨p, hp, rfl, result⟩ := reported offset wrong
          rw [flatMap_placed_of_free free] at hp
          obtain ⟨t, -, rfl⟩ := List.mem_map.mp hp
          exact result
  · -- a function without bytes has no tokens, before or after
    have empty : d.stop = d.offset := Nat.le_antisymm (Nat.le_of_not_lt nonempty) d.offset_le_stop
    have same : (d.relocate (Edit.shifted (applied file))).stop =
        Edit.shifted (applied file) d.offset := by
      rw [Declaration.stop_relocate (Nat.le_of_eq (congrArg _ empty.symm)), empty]
    rw [ofDeclaration?_eq, ofDeclaration?_eq, Declaration.offset_relocate, same, empty,
      Token.between_self, Token.between_self]
    rfl

/-- What is found in a corrected file is what was found before and not rewritten. -/
theorem found_relaid (parsed : file.outline = .ok outline) (h : Orderly file.text.toList outline) :
    found { (file.applyEdits (edits file)).1 with parser := fun _ => .ok (relaid file outline) } =
      (found file).filterMap (stays? (applied file)) := by
  have moved : functions (relaid file outline) =
      (functions outline).map (Declaration.relocate (Edit.shifted (applied file))) := by
    rw [functions, functions, relaid, Declaration.walk_relocate, List.filter_map]
    congr 1
    exact List.filter_congr fun d _ => by simp
  rw [found_eq rfl, found_eq parsed, moved, List.filterMap_map, List.filterMap_filterMap]
  exact List.filterMap_congr fun d hd => ofDeclaration?_relocate parsed h hd

theorem filterMap_stays? (edits : List Edit) (lates : List Late) :
    lates.filterMap (stays? edits) = (lates.filter (·.reordering?.isNone)).map fun late =>
      ⟨Edit.shifted edits late.offset, none⟩ := by
  induction lates with
  | nil => rfl
  | cons late lates ih =>
    cases reordering : late.reordering? with
    | none => simp [stays?, reordering, ih]
    | some r => simp [stays?, reordering, ih]

/-- Correcting a file puts the visibility of its functions first. All requested edits are applied.
Laid out again on the new text, every token is there once and has the text it had, the rule reports
exactly what it had reported without a reordering, at its new place, and there is nothing left to
correct. -/
theorem corrected_clean (rule : VisibilityOrder) (index : DeclarationIndex)
    (parsed : file.outline = .ok outline) (h : Orderly file.text.toList outline) :
    ∃ corrected corrections, rule.toRule.correct? file index = some (corrected, corrections) ∧
      (applied file).Perm (edits file) ∧
      Edit.woven? file.text.toList 0 (applied file) = some corrected.text.toList ∧
      let places := Token.placements (visibilityForward file.text.toList) (applied file)
        outline.tokens
      let again := { corrected with parser := fun _ => .ok (relaid file outline) }
      (places.map Prod.fst).Perm outline.tokens ∧
      places.Pairwise (fun p q => p.2 < q.2) ∧
      (∀ p ∈ places,
        (Token.moved p).text corrected.text.toList = p.1.text file.text.toList) ∧
      rule.toRule.behaviour.violations again index =
        ((found file).filter (·.reordering?.isNone)).map (fun late =>
          ⟨info.reporter, rule.severity,
            file.located (.offset (Edit.shifted (applied file) late.offset)), info.description⟩) ∧
      rule.toRule.edits again index = [] ∧
      rule.toRule.correct? again index = some (again, []) := by
  have arranged := rearranged parsed h
  have remains := found_relaid parsed h
  have nothing : edits { (file.applyEdits (edits file)).1 with
      parser := fun _ => .ok (relaid file outline) } = [] := by
    rw [edits, remains, filterMap_stays?, List.filterMap_map]
    exact List.filterMap_eq_nil_iff.mpr fun _ _ => rfl
  refine ⟨(file.applyEdits (edits file)).1, (file.applyEdits (edits file)).2, rfl,
    applied_perm parsed h, arranged.weaves, arranged.placements_perm,
    arranged.placements_pairwise, fun p hp => arranged.text_moved hp, ?_, nothing, ?_⟩
  · have path : (file.applyEdits (edits file)).1.path = file.path := by
      rw [Edit.applyEdits_eq]
      rfl
    change (found _).map _ = _
    rw [remains, filterMap_stays?, List.map_map]
    simp only [Function.comp_def, SourceFile.located, path]
  · change some (SourceFile.applyEdits _ (edits _)) = _
    rw [nothing, Edit.applyEdits_nil]

/-- An outline of a function that can be rewritten, and of an initializer with an attribute among
its modifiers. -/
def mixedOutline : Outline where
  root := ⟨.sourceFile, none, 0, 45, .internal, none, [], [
    ⟨.freeFunction, some "a", 0, 22, .public, none, [], []⟩,
    ⟨.initializer, some "init", 23, 22, .public, none, [], []⟩]⟩
  tokens := [⟨.keyword, 0, 5⟩, ⟨.keyword, 7, 6⟩, ⟨.keyword, 14, 4⟩, ⟨.identifier, 19, 1⟩,
    ⟨.punctuation, 20, 1⟩, ⟨.punctuation, 21, 1⟩, ⟨.keyword, 23, 5⟩, ⟨.attr, 29, 2⟩,
    ⟨.keyword, 32, 6⟩, ⟨.keyword, 39, 4⟩, ⟨.punctuation, 43, 1⟩, ⟨.punctuation, 44, 1⟩]

def mixedFile : SourceFile where
  path := none
  text := "final  public func a()\nfinal @x public init()"
  parser _ := .ok mixedOutline

theorem mixedFile_orderly : Orderly mixedFile.text.toList mixedOutline where
  ordered := ⟨by decide +kernel, by decide +kernel⟩
  onCharacters := by
    have starts : ∀ t ∈ mixedOutline.tokens,
        Text.isBoundary t.offset mixedFile.text.toList = true := by decide +kernel
    have stops : ∀ t ∈ mixedOutline.tokens,
        Text.isBoundary t.stop mixedFile.text.toList = true := by decide +kernel
    exact fun t ht => ⟨starts t ht, stops t ht⟩
  disjoint := by
    have follow : (functions mixedOutline).Pairwise fun a b => a.stop ≤ b.offset := by
      decide +kernel
    refine follow.imp fun follow byte both => ?_
    unfold Declaration.Covers at both
    omega

theorem corrected_clean_mixedFile :
    ∃ corrected corrections, default.toRule.correct? mixedFile .empty =
        some (corrected, corrections) ∧
      corrected.text = "public final func a()\nfinal @x public init()" ∧
      let again := { corrected with parser := fun _ => .ok (relaid mixedFile mixedOutline) }
      default.toRule.behaviour.violations again .empty =
        [⟨info.reporter, .warning, ⟨none, .offset 22⟩, info.description⟩] ∧
      default.toRule.edits again .empty = [] := by
  obtain ⟨corrected, corrections, result, -, -, -, -, -, reports, clean, -⟩ :=
    corrected_clean default .empty (rfl : mixedFile.outline = .ok mixedOutline) mixedFile_orderly
  refine ⟨corrected, corrections, result, ?_, ?_, clean⟩
  · have text : (default.toRule.correct? mixedFile .empty).map (fun made => made.1.text) =
        some "public final func a()\nfinal @x public init()" := by decide +kernel
    rw [result] at text
    exact Option.some.inj text
  · rw [reports]
    decide +kernel

end SwiftStyle.VisibilityOrder
