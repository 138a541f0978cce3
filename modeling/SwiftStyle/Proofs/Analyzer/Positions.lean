import SwiftStyle.Proofs.Analyzer.Companions
import SwiftStyle.Proofs.ParseTree.Starts
import SwiftStyle.Proofs.Rule.MissingDocs.Reports
import SwiftStyle.Proofs.Rule.VisibilityOrder.Roles

/-!
Where violations are. The rule for line lengths takes the lines of the text, the one for visibility
the tokens, and the one for documentation the declarations; each of these is somewhere in the text,
so that a violation is never resolved, or drawn, by a stand-in.
-/

namespace SwiftStyle

variable {file : SourceFile} {index : DeclarationIndex} {v : Violation}

theorem LineLength.position_of_mem {rule : LineLength} (mem : v ∈ rule.violations file) :
    ∃ line ∈ Text.lines file.text.toList, v.location.position = .line line.number := by
  unfold violations at mem
  split at mem
  · exact absurd mem List.not_mem_nil
  · obtain ⟨line, isLine, reported⟩ := List.mem_filterMap.mp mem
    obtain ⟨passed, -, rfl⟩ := Option.map_eq_some_iff.mp reported
    exact ⟨line, isLine, rfl⟩

namespace VisibilityOrder

theorem exists_of_late? {source : List Char} {tokens : List Token} {late : Late}
    (h : late? source tokens = some late) : ∃ t ∈ tokens, late.offset = t.offset := by
  simp only [late?] at h
  split at h
  · cases h
  · next first rest modifiers =>
    split at h
    · cases h
    · obtain rfl := Option.some.inj h
      have mem : first ∈ withRoles source tokens :=
        List.mem_of_mem_filter (modifiers ▸ List.mem_cons_self)
      refine ⟨first.2, ?_, rfl⟩
      rw [← map_snd_withRoles source tokens]
      exact List.mem_map_of_mem mem

theorem exists_of_ofDeclaration? {source : List Char} {tokens : List Token} {d : Declaration}
    {late : Late} (h : ofDeclaration? source tokens d = some late) :
    ∃ t ∈ tokens, late.offset = t.offset := by
  obtain ⟨before, isHead, isLate⟩ := Option.bind_eq_some_iff.mp h
  obtain ⟨t, mem, same⟩ := exists_of_late? isLate
  unfold head? at isHead
  split at isHead
  · obtain rfl := Option.some.inj isHead
    have inside := (List.takeWhile_prefix _).subset mem
    exact ⟨t, Token.subset_of_between _ _ _ inside, same⟩
  · cases isHead

theorem position_of_mem {rule : VisibilityOrder} {outline : Outline}
    (parsed : file.outline = .ok outline) (mem : v ∈ rule.violations file) :
    ∃ t ∈ outline.tokens, v.location.position = .offset t.offset := by
  obtain ⟨late, found, rfl⟩ := List.mem_map.mp mem
  simp only [VisibilityOrder.found, parsed] at found
  obtain ⟨d, -, isLate⟩ := List.mem_filterMap.mp found
  obtain ⟨t, mem, same⟩ := exists_of_ofDeclaration? isLate
  exact ⟨t, mem, by rw [← same]; rfl⟩

end VisibilityOrder

theorem MissingDocs.position_of_mem {rule : MissingDocs} {outline : Outline}
    (parsed : file.outline = .ok outline) (mem : v ∈ rule.violations file index) :
    ∃ d ∈ outline.root.walk, d.kind.isDocumentable = true ∧
      v.location.position = .offset d.offset := by
  have root : file.root? = some outline.root := by rw [SourceFile.root?, parsed]
  rw [violations_of_root? root] at mem
  obtain ⟨path, -, reported⟩ := List.mem_filterMap.mp mem
  obtain ⟨d, inside, lacks, tells⟩ := at?_eq_some_iff.mp reported
  rw [SourceFile.declarationAt?, root, Option.bind_some] at inside
  refine ⟨d, Declaration.mem_walk_of_at? inside, lacks.documentable, ?_⟩
  rw [tells.location]
  rfl

/-- What a built-in rule reports of a file is in the text of the file. -/
theorem Rule.IsBuiltIn.pointsInto {rule : Rule} (builtIn : rule.IsBuiltIn) {root : ParseTree}
    (fits : ParseTree.Fits file.text root)
    (parsed : file.outline = .ok (ParseTree.outline file.text root))
    (mem : v ∈ rule.behaviour.violations file index) :
    v.location.position.PointsInto file.text := by
  cases builtIn with
  | lineLength r same =>
    rw [same] at mem
    obtain ⟨line, isLine, position⟩ := LineLength.position_of_mem mem
    rw [position]
    exact .line (Text.line?_of_mem_lines isLine)
  | visibilityOrder r same =>
    rw [same] at mem
    obtain ⟨t, isToken, position⟩ := VisibilityOrder.position_of_mem parsed mem
    rw [position]
    exact .offset (fits.isCharacter_token isToken)
  | missingDocs r same =>
    rw [same] at mem
    obtain ⟨d, visited, documentable, position⟩ := MissingDocs.position_of_mem parsed mem
    rw [position]
    apply Position.PointsInto.offset
    apply fits.isCharacter_of_mem_walk visited
    intro isFile
    rw [isFile] at documentable
    cases documentable

/-- What an analyzer of built-in rules reports of a file that is parsed is at a line of the text or
at a character of it; its place has a line, its span is a part of the text, and it can be drawn. -/
theorem Analyzer.violations_point_into_file {root : ParseTree} {config : Config} {fails : Bool}
    {analyzer : Analyzer} (fits : ParseTree.Fits file.text root)
    (parsed : file.outline = .ok (ParseTree.outline file.text root))
    (built : build Rule.builtin config fails = .ok analyzer) :
    ∀ v ∈ analyzer.violations index file,
      ((∃ number line, v.location.position = .line number ∧ 1 ≤ number ∧
          number ≤ Text.lineCount file.text.toList ∧
          Text.line? number file.text.toList = some line) ∨
        ∃ bytes, v.location.position = .offset bytes ∧ bytes < file.text.utf8ByteSize ∧
          Text.isBoundary bytes file.text.toList = true) ∧
      (∃ line before,
        1 ≤ (v.location.position.resolve file.text).line ∧
          (v.location.position.resolve file.text).line ≤ Text.lineCount file.text.toList ∧
          Text.line? (v.location.position.resolve file.text).line file.text.toList = some line ∧
          line.offset ≤ (v.location.position.resolve file.text).offset ∧
          Text.slice? line.offset (v.location.position.resolve file.text).offset file.text.toList
            = some before ∧
          (v.location.position.resolve file.text).column = Text.Cluster.count before + 1) ∧
      (Excerpt.spanOf file.text v.location.position).stop ≤ file.text.utf8ByteSize ∧
      (∃ marked, Text.slice? (Excerpt.spanOf file.text v.location.position).start
        (Excerpt.spanOf file.text v.location.position).stop file.text.toList = some marked) ∧
      ∀ colored, (Excerpt.draw? colored file v).isSome = true := by
  intro v mem
  obtain ⟨rule, among, reported⟩ := List.mem_flatMap.mp mem
  have inText := ((isBuiltIn_of_build built).2 rule among).pointsInto fits parsed reported
  obtain ⟨line, before, isLine, between, column⟩ := inText.exists_line
  obtain ⟨marked, found⟩ := inText.exists_marked
  refine ⟨inText.isLine_or_isCharacter, ?_, ?_, ⟨marked, found⟩, inText.isSome_draw?⟩
  · obtain ⟨first, last⟩ := Text.le_lineCount isLine
    exact ⟨line, before, first, last, isLine, (Text.bounds_of_slice? between).1, between, column⟩
  · rw [← Text.size_toList]
    exact (Text.bounds_of_slice? found).2

namespace ParseTree

/-- The tree of `public enum E{case a,b}`. -/
def publicEnum : ParseTree :=
  inner "source_file" 0 23 [
    inner "class_declaration" 0 23 [
      inner "modifiers" 0 6 [inner "visibility_modifier" 0 6 [leaf "public" 0 6]],
      { leaf "enum" 7 11 with field := some "declaration_kind" },
      { inner "type_identifier" 12 13 [] with field := some "name" },
      { inner "enum_class_body" 13 23 [leaf "\x7b" 13 14,
          inner "enum_entry" 14 22 [leaf "case" 14 18,
            { inner "simple_identifier" 19 20 [] with field := some "name" }, leaf "," 20 21,
            { inner "simple_identifier" 21 22 [] with field := some "name" }],
          leaf "\x7d" 22 23] with field := some "body" }]]

def publicEnumFile : SourceFile where
  path := none
  text := "public enum E\x7bcase a,b\x7d"
  parser text := .ok (outline text publicEnum)

theorem fits_publicEnum : Fits publicEnumFile.text publicEnum where
  nested := by simp [publicEnum, inner, leaf, Nested, NestedIn]
  onCharacters := by decide +kernel
  hasToken := by decide +kernel
  namesFilled := by decide +kernel

end ParseTree

theorem Analyzer.violations_point_into_file_publicEnum :
    ∃ v ∈ violations ⟨Rule.builtin, false⟩ ParseTree.publicEnumFile.ownIndex
        ParseTree.publicEnumFile,
      v.location.position = .offset 21 ∧
      v.location.position.resolve ParseTree.publicEnumFile.text = ⟨1, 22, 21⟩ ∧
      ∀ colored, (Excerpt.draw? colored ParseTree.publicEnumFile v).isSome = true := by
  have built : build Rule.builtin Config.default false = .ok ⟨Rule.builtin, false⟩ := rfl
  have reported : ∃ v ∈ violations ⟨Rule.builtin, false⟩ ParseTree.publicEnumFile.ownIndex
      ParseTree.publicEnumFile, v.location.position = .offset 21 := by decide +kernel
  obtain ⟨v, mem, position⟩ := reported
  refine ⟨v, mem, position, ?_, ?_⟩
  · rw [position]
    decide +kernel
  · obtain ⟨-, -, -, -, drawn⟩ := violations_point_into_file ParseTree.fits_publicEnum rfl built v mem
    exact drawn

end SwiftStyle
