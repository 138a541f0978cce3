import SwiftStyle.Proofs.Rule.VisibilityOrder.Modifiers
import SwiftStyle.Proofs.Token.Relaying

/-!
The edits that the rule requests for a file. Each replaces modifiers of one function by the same
modifiers in another order. Functions do not share bytes, so no two of the edits fight and all of
them are applied.
-/

namespace SwiftStyle

def Declaration.Covers (d : Declaration) (byte : Nat) : Prop := d.offset ≤ byte ∧ byte < d.stop

namespace VisibilityOrder

def functions (outline : Outline) : List Declaration :=
  outline.root.walk.filter (·.kind.isFunction)

/-- An outline whose tokens follow each other on characters of the text, and whose functions have
no byte in common. -/
structure Orderly (source : List Char) (outline : Outline) : Prop where
  ordered : Token.InOrder outline.tokens
  onCharacters : ∀ t ∈ outline.tokens, t.OnCharacters source
  disjoint : (functions outline).Pairwise fun a b => ∀ byte, ¬(a.Covers byte ∧ b.Covers byte)

def Reordering.edit (r : Reordering) : Edit :=
  ⟨r.start, r.stop, String.ofList r.replacement, info.reporter⟩

def editOf? (source : List Char) (tokens : List Token) (d : Declaration) : Option Edit :=
  (ofDeclaration? source tokens d).bind fun late => late.reordering?.map Reordering.edit

theorem found_eq {file : SourceFile} {outline : Outline} (parsed : file.outline = .ok outline) :
    found file =
      (functions outline).filterMap (ofDeclaration? file.text.toList outline.tokens) := by
  rw [found, parsed]
  rfl

theorem edits_eq {file : SourceFile} {outline : Outline} (parsed : file.outline = .ok outline) :
    edits file = (functions outline).filterMap (editOf? file.text.toList outline.tokens) := by
  rw [edits, found_eq parsed, List.filterMap_filterMap]
  rfl

/-- What an edit for a declaration does to the tokens of the declaration. -/
structure Span (source : List Char) (tokens : List Token) (d : Declaration) (e : Edit)
    (before modifiers after : List Token) : Prop where
  parts : Token.between d.offset d.stop tokens = before ++ modifiers ++ after
  inside : tokens.filter (Token.startsIn e) = modifiers
  starts : ∃ t ∈ tokens, t.offset = e.start
  stops : ∀ t ∈ modifiers, t.stop ≤ e.stop
  within : d.offset ≤ e.start ∧ e.stop ≤ d.stop
  fits : e.fits source = true
  replaces : e.start < e.stop
  puts : 0 < Text.size e.replacement.toList
  spells : e.replacement.toList = Token.spacedText source (visibilityForward source modifiers)
  mends : lateIn? source (before ++ visibilityForward source modifiers ++ after) = none

section

variable {source : List Char} {tokens before modifiers after : List Token} {d : Declaration}
variable {r : Reordering}

/-- The edit for some modifiers starts with the first of them, ends with the last, and has no other
tokens inside. -/
theorem Reorders.inside (ordered : Token.InOrder tokens)
    (shape : Reorders source (Token.between d.offset d.stop tokens) r before modifiers after) :
    tokens.filter (Token.startsIn r.edit) = modifiers ∧ ∀ t ∈ modifiers, t.stop ≤ r.stop := by
  obtain ⟨first, rest, hfirst, hstart⟩ := shape.starts
  obtain ⟨init, last, hlast, hstop⟩ := shape.stops
  obtain ⟨front, back, parts⟩ := Token.exists_between_parts d.offset d.stop tokens
  rw [shape.parts] at parts
  have whole : tokens = (front ++ before) ++ modifiers ++ (after ++ back) := by
    rw [parts]
    simp
  have middle := ordered.filter_eq_middle whole hfirst hlast
  rw [← hstart, ← hstop] at middle
  exact middle

/-- The edit is in the declaration, since something follows the modifiers there. -/
theorem Reorders.within (ordered : Token.InOrder tokens)
    (shape : Reorders source (Token.between d.offset d.stop tokens) r before modifiers after) :
    d.offset ≤ r.start ∧ r.stop ≤ d.stop := by
  obtain ⟨first, rest, hfirst, hstart⟩ := shape.starts
  obtain ⟨init, last, hlast, hstop⟩ := shape.stops
  obtain ⟨next, others, rfl⟩ := List.exists_cons_of_ne_nil shape.follows
  have within : ∀ t ∈ before ++ modifiers ++ next :: others,
      t ∈ tokens ∧ d.offset ≤ t.offset ∧ t.offset < d.stop := by
    intro t ht
    rw [← shape.parts] at ht
    exact (Token.mem_between_iff ordered.sorted).mp ht
  have follows : last.stop ≤ next.offset := by
    have disjoint := ordered.disjoint.filter fun t => d.offset ≤ t.offset && t.offset < d.stop
    rw [← Token.between_eq_filter ordered.sorted, shape.parts] at disjoint
    exact (List.pairwise_append.mp disjoint).2.2 last (by simp [hlast]) next (by simp)
  have atFirst := within first (by simp [hfirst])
  have atNext := within next (by simp)
  omega

theorem exists_span (ordered : Token.InOrder tokens)
    (onCharacters : ∀ t ∈ tokens, t.OnCharacters source) {e : Edit}
    (h : editOf? source tokens d = some e) :
    ∃ before modifiers after, Span source tokens d e before modifiers after := by
  obtain ⟨⟨offset, reordering⟩, hlate, h⟩ := Option.bind_eq_some_iff.mp h
  obtain ⟨r, rfl, rfl⟩ := Option.map_eq_some_iff.mp h
  obtain ⟨before, modifiers, after, shape⟩ := exists_reorders hlate
  obtain ⟨inside, stops⟩ := shape.inside ordered
  obtain ⟨first, rest, hfirst, hstart⟩ := shape.starts
  obtain ⟨init, last, hlast, hstop⟩ := shape.stops
  have mine : ∀ t ∈ modifiers, t ∈ tokens := by
    intro t ht
    rw [← inside] at ht
    exact (List.mem_filter.mp ht).1
  have firstMem : first ∈ modifiers := by simp [hfirst]
  have lastMem : last ∈ modifiers := by simp [hlast]
  have nonempty := ordered.nonempty first (mine first firstMem)
  have replaces : r.start < r.stop := by
    have reached := stops first firstMem
    unfold Token.stop at reached
    omega
  refine ⟨before, modifiers, after, ⟨shape.parts, inside, ⟨first, mine first firstMem, hstart.symm⟩,
    stops, shape.within ordered, ?_, replaces, ?_, ?_, shape.mends⟩⟩
  · have start := (onCharacters first (mine first firstMem)).starts
    have stop := (onCharacters last (mine last lastMem)).stops
    rw [← hstart] at start
    rw [← hstop] at stop
    simp [Edit.fits, Reordering.edit, start, stop, Nat.le_of_lt replaces]
  · have written : first ∈ visibilityForward source modifiers :=
      (visibilityForward_perm modifiers).mem_iff.mpr firstMem
    have := Token.size_text_le_spacedText source written
    have := (onCharacters first (mine first firstMem)).slice?.2
    simp only [Reordering.edit, shape.spells, String.toList_ofList]
    omega
  · simp [Reordering.edit, shape.spells]

end

/-! All edits of a file together. -/

section

variable {file : SourceFile} {outline : Outline}

theorem Orderly.exists_span {source : List Char} (h : Orderly source outline) {d : Declaration}
    {e : Edit} (he : editOf? source outline.tokens d = some e) :
    ∃ before modifiers after, Span source outline.tokens d e before modifiers after :=
  VisibilityOrder.exists_span h.ordered h.onCharacters he

/-- An edit that replaces a byte of a function is the one that is requested for the function. -/
theorem Orderly.editOf?_of_replaces {source : List Char} (h : Orderly source outline)
    {d d' : Declaration} (hd : d ∈ functions outline) (hd' : d' ∈ functions outline) {e : Edit}
    (he : editOf? source outline.tokens d' = some e) {byte : Nat} (covers : d.Covers byte)
    (replaces : e.Replaces byte) : editOf? source outline.tokens d = some e := by
  obtain ⟨_, _, _, span⟩ := h.exists_span he
  have covers' : d'.Covers byte :=
    ⟨Nat.le_trans span.within.1 replaces.1, Nat.lt_of_lt_of_le replaces.2 span.within.2⟩
  rcases eq_or_rel_of_pairwise h.disjoint hd hd' with rfl | apart | apart
  · exact he
  · exact absurd ⟨covers, covers'⟩ (apart byte)
  · exact absurd ⟨covers', covers⟩ (apart byte)

theorem mem_edits (parsed : file.outline = .ok outline) {e : Edit} :
    e ∈ edits file ↔
      ∃ d ∈ functions outline, editOf? file.text.toList outline.tokens d = some e := by
  rw [edits_eq parsed, List.mem_filterMap]

theorem edits_pairwise (parsed : file.outline = .ok outline)
    (h : Orderly file.text.toList outline) : (edits file).Pairwise Edit.Apart := by
  rw [edits_eq parsed]
  refine List.pairwise_filterMap.mpr (h.disjoint.imp ?_)
  intro d d' apart e he e' he'
  obtain ⟨_, _, _, span⟩ := h.exists_span he
  obtain ⟨_, _, _, span'⟩ := h.exists_span he'
  have within := span.within
  have within' := span'.within
  have replaces := span.replaces
  have replaces' := span'.replaces
  constructor
  · rintro byte ⟨shared, shared'⟩
    unfold Edit.Replaces at shared shared'
    exact apart byte ⟨⟨by omega, by omega⟩, by omega, by omega⟩
  · omega
  · omega
  · omega

/-- The edits that correct a file, in the order of the text. -/
def applied (file : SourceFile) : List Edit := Edit.applied file.text.toList (edits file)

theorem applied_perm (parsed : file.outline = .ok outline)
    (h : Orderly file.text.toList outline) : (applied file).Perm (edits file) := by
  refine Edit.applied_perm_of_apart ?_ (edits_pairwise parsed h)
  intro e he
  obtain ⟨d, _, hd⟩ := (mem_edits parsed).mp he
  obtain ⟨_, _, _, span⟩ := h.exists_span hd
  exact span.fits

/-- The edits write the modifiers of some functions in a new order, and leave everything else. -/
theorem rearranged (parsed : file.outline = .ok outline)
    (h : Orderly file.text.toList outline) :
    Token.Rearranged file.text.toList (file.applyEdits (edits file)).1.text.toList
      (visibilityForward file.text.toList) (applied file) outline.tokens := by
  have spanned : ∀ e ∈ applied file, ∃ d before modifiers after,
      Span file.text.toList outline.tokens d e before modifiers after := by
    intro e he
    obtain ⟨d, _, hd⟩ := (mem_edits parsed).mp ((applied_perm parsed h).mem_iff.mp he)
    exact ⟨d, h.exists_span hd⟩
  have inOrder := Edit.applied_inOrder file.text.toList (edits file)
  refine ⟨h.ordered, h.onCharacters, ⟨inOrder.disjoint, ?_, ?_⟩, inOrder.fits,
    Edit.woven?_applied file (edits file), ?_, ?_, ?_, ?_⟩
  · intro e he
    obtain ⟨_, _, _, _, span⟩ := spanned e he
    exact span.replaces
  · intro e he
    obtain ⟨_, _, _, _, span⟩ := spanned e he
    exact span.puts
  · intro e he
    obtain ⟨_, _, _, _, span⟩ := spanned e he
    exact span.starts
  · intro e he t ht inside
    obtain ⟨_, _, _, _, span⟩ := spanned e he
    refine span.stops t ?_
    rw [← span.inside]
    exact List.mem_filter.mpr ⟨ht, inside⟩
  · intro e he
    exact visibilityForward_perm _
  · intro e he
    obtain ⟨_, _, _, _, span⟩ := spanned e he
    rw [span.inside]
    exact span.spells

end

end VisibilityOrder

end SwiftStyle
