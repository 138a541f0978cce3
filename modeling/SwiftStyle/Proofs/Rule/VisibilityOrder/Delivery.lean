import SwiftStyle.Proofs.ParseTree.Functions
import SwiftStyle.Proofs.Rule.VisibilityOrder.Requests

/-!
No requested edit gets lost. On the outline of a parse tree every edit stands inside the function it
is requested for, in front of the keyword that introduces the function. The functions follow each
other, so the edits do too, and all of them are applied in the order in which they are requested.
-/

namespace SwiftStyle.VisibilityOrder

section

variable {source : List Char} {tokens : List Token}

/-- A reordering starts where the violation is reported. -/
theorem start_eq_of_late? {late : Late} (h : late? source tokens = some late) :
    ∀ r ∈ late.reordering?, r.start = late.offset := by
  simp only [late?] at h
  split at h
  · cases h
  · next first rest _ =>
    obtain ⟨-, h⟩ := Option.ite_none_left_eq_some.mp h
    cases h
    intro r hr
    obtain ⟨-, hr⟩ := Option.ite_none_left_eq_some.mp hr
    cases hr
    rfl

theorem offset_of_editOf? {d : Declaration} {late : Late}
    (h : ofDeclaration? source tokens d = some late) :
    ∀ e, editOf? source tokens d = some e → e.start = late.offset := by
  intro e he
  obtain ⟨head, -, found⟩ := Option.bind_eq_some_iff.mp h
  rw [editOf?, h, Option.bind_some] at he
  obtain ⟨r, hr, rfl⟩ := Option.map_eq_some_iff.mp he
  exact start_eq_of_late? found r hr

/-- An edit that is made inside a declaration, before the first keyword there that introduces a
function or an initializer. -/
structure BeforeKeyword (source : List Char) (tokens : List Token) (d : Declaration) (e : Edit) :
    Prop where
  replaces : e.start < e.stop
  fits : e.fits source = true
  starts : d.offset ≤ e.start
  stops : ∃ front keyword back,
    Token.between d.offset d.stop tokens = front ++ keyword :: back ∧
      (∀ t ∈ front, introduces source t = false) ∧ introduces source keyword = true ∧
      e.stop ≤ keyword.offset

/-- A reordering stops with a token before the introducing keyword. -/
theorem exists_keyword (ordered : tokens.Pairwise fun a b => a.stop ≤ b.offset) {offset : Nat}
    {r : Reordering} (h : lateIn? source tokens = some ⟨offset, some r⟩) :
    ∃ front keyword back, tokens = front ++ keyword :: back ∧
      (∀ t ∈ front, introduces source t = false) ∧ introduces source keyword = true ∧
      r.stop ≤ keyword.offset := by
  obtain ⟨front, hfront, late⟩ := Option.bind_eq_some_iff.mp h
  obtain ⟨plain, keyword, back, introduced, rfl⟩ := head?_eq_some_iff.mp hfront
  obtain ⟨unrelated, first, rest, after, whole, -, -, -, -, rfl⟩ := exists_marked late
  have last : ((rest.getLast?).getD first).2 ∈ front := by
    have mem : (rest.getLast?).getD first ∈ first :: rest := by
      have found : (first :: rest).getLast? = some ((rest.getLast?).getD first) :=
        List.getLast?_cons
      exact List.mem_of_getLast? found
    rw [← map_snd_withRoles source front, whole]
    exact List.mem_map_of_mem (List.mem_append_left _ (List.mem_append_right _ mem))
  exact ⟨front, keyword, back, rfl, plain, introduced,
    (List.pairwise_append.mp ordered).2.2 _ last keyword List.mem_cons_self⟩

theorem Orderly.beforeKeyword {outline : Outline} (h : Orderly source outline) {d : Declaration}
    {e : Edit} (he : editOf? source outline.tokens d = some e) :
    BeforeKeyword source outline.tokens d e := by
  obtain ⟨before, modifiers, after, span⟩ := h.exists_span he
  refine ⟨span.replaces, span.fits, span.within.1, ?_⟩
  obtain ⟨⟨offset, reordering⟩, hlate, he⟩ := Option.bind_eq_some_iff.mp he
  obtain ⟨r, rfl, rfl⟩ := Option.map_eq_some_iff.mp he
  refine exists_keyword ?_ hlate
  rw [Token.between_eq_filter h.ordered.sorted]
  exact h.ordered.disjoint.filter _

end

section

variable {file : SourceFile} {outline : Outline}

/-- The edits follow each other as their functions do. -/
theorem edits_inOrder (parsed : file.outline = .ok outline) (h : Orderly file.text.toList outline)
    (follow : (functions outline).Pairwise fun a b => a.stop ≤ b.offset) :
    (edits file).Pairwise fun a b => a.stop ≤ b.start := by
  rw [edits_eq parsed]
  refine List.pairwise_filterMap.mpr (follow.imp ?_)
  intro d d' follow e he e' he'
  obtain ⟨_, _, _, span⟩ := h.exists_span he
  obtain ⟨_, _, _, span'⟩ := h.exists_span he'
  exact Nat.le_trans span.within.2 (Nat.le_trans follow span'.within.1)

theorem edits_replace (parsed : file.outline = .ok outline)
    (h : Orderly file.text.toList outline) : ∀ e ∈ edits file, e.start < e.stop := by
  intro e he
  obtain ⟨d, -, hd⟩ := (mem_edits parsed).mp he
  exact (h.beforeKeyword hd).replaces

/-- The edits are applied in the order in which they are requested. -/
theorem applied_eq_edits (parsed : file.outline = .ok outline)
    (h : Orderly file.text.toList outline)
    (follow : (functions outline).Pairwise fun a b => a.stop ≤ b.offset) :
    applied file = edits file := by
  have before : (edits file).Pairwise Edit.Before := by
    refine (edits_inOrder parsed h follow).imp_of_mem fun {a b} ha _ follow => .inl ?_
    exact Nat.lt_of_lt_of_le (edits_replace parsed h a ha) follow
  refine (applied_perm parsed h).eq_of_pairwise ?_ (Edit.applied_before _ _) before
  exact fun a b _ _ first second => absurd second first.asymm

theorem filterMap_offset_edits (source : List Char) (tokens : List Token)
    (ds : List Declaration) :
    (ds.filterMap (editOf? source tokens)).map Edit.start =
      ((ds.filterMap (ofDeclaration? source tokens)).filter (·.reordering?.isSome)).map
        Late.offset := by
  induction ds with
  | nil => rfl
  | cons d ds ih =>
    cases hlate : ofDeclaration? source tokens d with
    | none => simp [editOf?, hlate, ih]
    | some late =>
      obtain ⟨offset, reordering⟩ := late
      cases reordering with
      | none => simp [editOf?, hlate, ih]
      | some r =>
        have start := offset_of_editOf? hlate r.edit (by simp [editOf?, hlate])
        simp [editOf?, hlate, ih, start]

/-- The corrections are those of the violations that have a reordering. -/
theorem corrections_eq (parsed : file.outline = .ok outline)
    (h : Orderly file.text.toList outline)
    (follow : (functions outline).Pairwise fun a b => a.stop ≤ b.offset) :
    (file.applyEdits (edits file)).2 =
      ((found file).filter (·.reordering?.isSome)).map fun late =>
        ⟨info.reporter, file.located (.offset late.offset)⟩ := by
  have made : (file.applyEdits (edits file)).2 = (edits file).map (Edit.correction file) := by
    rw [Edit.applyEdits_eq]
    change (applied file).map _ = _
    rw [applied_eq_edits parsed h follow]
  have starts := filterMap_offset_edits file.text.toList outline.tokens (functions outline)
  rw [← edits_eq parsed, ← found_eq parsed] at starts
  have mine : ∀ e ∈ edits file, Edit.correction file e =
      ⟨info.reporter, file.located (.offset e.start)⟩ := by
    intro e he
    obtain ⟨d, -, hd⟩ := (mem_edits parsed).mp he
    obtain ⟨late, -, hd⟩ := Option.bind_eq_some_iff.mp hd
    obtain ⟨r, -, rfl⟩ := Option.map_eq_some_iff.mp hd
    rfl
  rw [made, List.map_congr_left mine]
  simpa [Function.comp_def] using congrArg (List.map fun offset =>
    (⟨info.reporter, file.located (.offset offset)⟩ : Correction)) starts

end

/-- The outline of a nested tree on the characters of a text is orderly. -/
theorem outline_orderly {text : String} {root : ParseTree} (nested : root.Nested)
    (onCharacters : ∀ node ∈ root.nodes, node.OnCharacters text.toList) :
    Orderly text.toList (ParseTree.outline text root) where
  ordered := ParseTree.tokens_inOrder nested
  onCharacters := ParseTree.tokens_onCharacters onCharacters
  disjoint := by
    refine (ParseTree.functions_pairwise nested).imp fun follow byte both => ?_
    unfold Declaration.Covers at both
    omega

/-- On the outline of a parse tree no requested correction gets lost. The functions follow each
other, and the edit of each stands inside it before its keyword, so that no two edits conflict. All
of them are applied, and there is one correction for each violation with a reordering, in the order
of the violations and at the same offsets. -/
theorem corrections_complete (rule : VisibilityOrder) (index : DeclarationIndex)
    {file : SourceFile} {root : ParseTree}
    (parsed : file.outline = .ok (ParseTree.outline file.text root)) (nested : root.Nested)
    (onCharacters : ∀ node ∈ root.nodes, node.OnCharacters file.text.toList) :
    let outline := ParseTree.outline file.text root
    (functions outline).Pairwise (fun a b => a.stop ≤ b.offset) ∧
      rule.toRule.edits file index =
        (functions outline).filterMap (editOf? file.text.toList outline.tokens) ∧
      (∀ d ∈ functions outline, ∀ e, editOf? file.text.toList outline.tokens d = some e →
        BeforeKeyword file.text.toList outline.tokens d e) ∧
      (rule.toRule.edits file index).Pairwise (fun a b => a.stop ≤ b.start ∧
        a.conflicts b = false ∧ b.conflicts a = false) ∧
      rule.toRule.behaviour.violations file index = (found file).map (fun late =>
        ⟨info.reporter, rule.severity, file.located (.offset late.offset), info.description⟩) ∧
      ∃ corrected, rule.toRule.correct? file index = some (corrected,
          ((found file).filter (·.reordering?.isSome)).map fun late =>
            ⟨info.reporter, file.located (.offset late.offset)⟩) ∧
        Edit.woven? file.text.toList 0 (rule.toRule.edits file index) =
          some corrected.text.toList := by
  intro outline
  have h := outline_orderly nested onCharacters
  have follow : (functions outline).Pairwise fun a b => a.stop ≤ b.offset :=
    ParseTree.functions_pairwise nested
  have replaces := edits_replace parsed h
  refine ⟨follow, edits_eq parsed, fun d _ e he => h.beforeKeyword he, ?_, rfl,
    (file.applyEdits (edits file)).1, ?_, ?_⟩
  · refine ((edits_inOrder parsed h follow).and (edits_pairwise parsed h)).imp_of_mem ?_
    rintro a b ha hb ⟨follow, apart⟩
    have ordered := Nat.le_of_lt (replaces a ha)
    have ordered' := Nat.le_of_lt (replaces b hb)
    exact ⟨follow, (Edit.conflicts_eq_false_iff ordered ordered').mpr apart,
      (Edit.conflicts_eq_false_iff ordered' ordered).mpr apart.symm⟩
  · rw [← corrections_eq parsed h follow]
    rfl
  · have woven := Edit.woven?_applied file (edits file)
    change Edit.woven? _ _ (applied file) = _ at woven
    rwa [applied_eq_edits parsed h follow] at woven

/-- A class with a function, and with a function and an initializer that stand in an error node; the
second of the three has an attribute among its modifiers. -/
def recoveredMembers : ParseTree :=
  .inner "source_file" 0 83 [
    .inner "class_declaration" 0 83 [
      .leaf "class" 0 5, .inner "type_identifier" 6 7 [],
      .inner "class_body" 7 83 [
        .leaf "\x7b" 7 8,
        .inner "function_declaration" 8 32 [
          .leaf "final" 8 13, .leaf "public" 15 21, .leaf "func" 22 26,
          .inner "simple_identifier" 27 28 [], .leaf "(" 28 29, .leaf ")" 29 30,
          .inner "function_body" 30 32 []],
        .inner "ERROR" 32 82 [
          .inner "function_declaration" 32 57 [
            .leaf "static" 32 38, .inner "attribute" 39 41 [], .leaf "open" 42 46,
            .leaf "func" 47 51, .inner "simple_identifier" 52 53 [], .leaf "(" 53 54,
            .leaf ")" 54 55, .inner "function_body" 55 57 []],
          .inner "init_declaration" 57 82 [
            .leaf "override" 57 65, .leaf "private" 66 73, .leaf "init" 74 78, .leaf "(" 78 79,
            .leaf ")" 79 80, .inner "function_body" 80 82 []]],
        .leaf "\x7d" 82 83]]]

def recoveredFile : SourceFile where
  path := none
  text := "class A\x7bfinal  public func a()\x7b\x7dstatic @x open func b()\x7b\x7d" ++
    "override private init()\x7b\x7d\x7d"
  parser := ParseTree.parser fun _ => some recoveredMembers

theorem corrections_complete_recoveredFile :
    ∃ corrected, default.toRule.correct? recoveredFile .empty = some (corrected,
        [⟨info.reporter, ⟨none, .offset 8⟩⟩, ⟨info.reporter, ⟨none, .offset 57⟩⟩]) ∧
      corrected.text.toList =
        "class A\x7bpublic final func a()\x7b\x7dstatic @x open func b()\x7b\x7d".toList ++
          "private override init()\x7b\x7d\x7d".toList ∧
      (default.toRule.behaviour.violations recoveredFile .empty).map Violation.location =
        [⟨none, .offset 8⟩, ⟨none, .offset 32⟩, ⟨none, .offset 57⟩] := by
  obtain ⟨-, -, -, -, reports, corrected, made, woven⟩ := corrections_complete default .empty
    (rfl : recoveredFile.outline = .ok (ParseTree.outline recoveredFile.text recoveredMembers))
    (by simp [recoveredMembers, ParseTree.inner, ParseTree.leaf, ParseTree.Nested,
      ParseTree.NestedIn])
    (by decide +kernel)
  refine ⟨corrected, made.trans ?_, Option.some.inj (woven.symm.trans ?_), ?_⟩
  · congr 2
    decide +kernel
  · decide +kernel
  · rw [reports]
    decide +kernel

end SwiftStyle.VisibilityOrder
