import SwiftStyle.Proofs.Glob.Escape
import SwiftStyle.Proofs.Path.Relative
import SwiftStyle.Proofs.Workspace.Following

/-!
What a search selects. Component patterns select steps, and a search finds exactly what the selected
steps lead to, so that it depends on where it starts but not on how that is spelled.
-/

namespace SwiftStyle.Glob

/-- Whether a component pattern admits a step: its own text if it has no wildcards; otherwise the
names it accepts and, where it starts with a dot, the dots it accepts. -/
def Admits (pattern : Pattern) (part : List Char) : Prop :=
  accepts pattern part = true ∧
    ((literal? pattern).isSome = true ∨ Path.IsName part ∨
      pattern.head? = some (.character '.') ∧ (part = ['.'] ∨ part = ['.', '.']))

/-- The steps that component patterns select. Any directories stand for any names before the one
that the next pattern accepts; at the end they select directories, and so no steps to files. -/
inductive Selects : List Pattern → List (List Char) → Prop where
  | done : Selects [] []
  | component {pattern : Pattern} {patterns : List Pattern} {part : List Char}
      {parts : List (List Char)} :
      pattern ≠ [.anyDirectories] → Admits pattern part → Selects patterns parts →
      Selects (pattern :: patterns) (part :: parts)
  | anywhere {pattern : Pattern} {patterns : List Pattern} {names parts : List (List Char)}
      {name : List Char} :
      (∀ part ∈ names ++ [name], Path.IsName part) → accepts pattern name = true →
      Selects patterns parts →
      Selects ([.anyDirectories] :: pattern :: patterns) (names ++ [name] ++ parts)

/-- Whether a pattern is one for a component: it has no slash in its text. -/
def IsComponent (pattern : Pattern) : Prop :=
  ∀ text, literal? pattern = some text → '/' ∉ text

theorem Admits.noSlash {pattern : Pattern} {part : List Char} (component : IsComponent pattern)
    (h : Admits pattern part) : '/' ∉ part := by
  obtain ⟨accepted, literal | isName | ⟨-, rfl | rfl⟩⟩ := h
  · obtain ⟨text, found⟩ := Option.isSome_iff_exists.mp literal
    rw [accepts_of_literal? found, decide_eq_true_eq] at accepted
    exact accepted ▸ component text found
  · exact isName.noSlash
  · decide
  · decide

theorem Selects.isName_or_admits {patterns : List Pattern} {steps : List (List Char)}
    (h : Selects patterns steps) :
    ∀ part ∈ steps, Path.IsName part ∨ ∃ pattern ∈ patterns, Admits pattern part := by
  induction h with
  | done => simp
  | component _ admits _ ih =>
    refine List.forall_mem_cons.mpr ⟨.inr ⟨_, List.mem_cons_self, admits⟩, fun part mem => ?_⟩
    exact (ih part mem).imp_right fun ⟨pattern, mem, admits⟩ =>
      ⟨pattern, List.mem_cons_of_mem _ mem, admits⟩
  | anywhere names _ _ ih =>
    refine List.forall_mem_append.mpr ⟨fun part mem => .inl (names part mem), fun part mem => ?_⟩
    exact (ih part mem).imp_right fun ⟨pattern, mem, admits⟩ =>
      ⟨pattern, List.mem_cons_of_mem _ (List.mem_cons_of_mem _ mem), admits⟩

/-- Whether steps lead from one spot to another, in how the spots are spelled and where they are. -/
structure Leads (w : Workspace) (s : Spot) (steps : List (List Char)) (s' : Spot) : Prop where
  spells : Path.Spells s.path steps s'.path
  follows : Workspace.follow w.tree s.location steps = .ok s'.location
  located : w.locate s'.path = .ok s'.location

section

variable {w : Workspace} {s s' s'' : Spot} {a b : List (List Char)} {part : List Char}
  {next : List String}

theorem Leads.refl (located : w.locate s.path = .ok s.location) : Leads w s [] s :=
  ⟨.done _, rfl, located⟩

theorem Leads.trans (h : Leads w s a s') (h' : Leads w s' b s'') : Leads w s (a ++ b) s'' :=
  ⟨h.spells.append h'.spells, Workspace.follow_append_iff.mpr ⟨_, h.follows, h'.follows⟩,
    h'.located⟩

theorem Leads.name_eq (h : Leads w s (a ++ [part]) s') (isName : Path.IsName part) :
    s'.name = part := by
  obtain ⟨middle, -, step⟩ := Workspace.follow_append_iff.mp h.follows
  obtain ⟨whole, -⟩ := (Workspace.follow_name_iff isName).mp step
  rw [Spot.name, whole, List.getLast?_concat, Option.getD_some, String.toList_ofList]

theorem Leads.location_eq (h : Leads w s a s')
    (follows : Workspace.follow w.tree s.location a = .ok next) : s'.location = next :=
  Except.ok.inj (h.follows.symm.trans follows)

/-- That an empty step leads nowhere from where one is matters for the first step only. -/
theorem Leads.filled (h : Leads w s a s') (located : w.locate s.path = .ok s.location)
    (noSlash : ∀ part ∈ a, '/' ∉ part) (filled : [] ∉ a ++ b ∨ s.path.components ≠ [.here]) :
    [] ∉ b ∨ s'.path.components ≠ [.here] :=
  filled.imp (fun filled mem => filled (List.mem_append_right a mem)) fun elsewhere =>
    h.spells.components_ne (Workspace.nonempty_of_locate located) elsewhere noSlash

/-! One step. -/

theorem leads_entry_iff (located : w.locate s.path = .ok s.location) (noSlash : '/' ∉ part)
    (spelled : s'.path = s.path.entry (String.ofList part)) :
    Leads w s [part] s' ↔ w.locate s'.path = .ok s'.location := by
  refine ⟨Leads.located, fun reached => ⟨?_, ?_, reached⟩⟩
  · rw [spelled]
    exact .entry (.done _)
  · rw [spelled] at reached
    exact (Workspace.locate_entry_iff located noSlash
      (Workspace.filled_of_locate_entry reached)).mp reached

theorem leads_join_iff (located : w.locate s.path = .ok s.location)
    (dots : part = ['.'] ∨ part = ['.', '.'])
    (spelled : s'.path = s.path.join (String.ofList part)) :
    Leads w s [part] s' ↔ w.locate s'.path = .ok s'.location := by
  have noSlash : '/' ∉ part := by rcases dots with rfl | rfl <;> decide
  refine ⟨Leads.located, fun reached => ⟨?_, ?_, reached⟩⟩
  · rw [spelled]
    exact .dots dots (.done _)
  · rw [spelled] at reached
    exact (Workspace.locate_join_iff located noSlash).mp reached

/-- A name leads to the entry that it names, if there is one. -/
theorem leads_name {name : String} (located : w.locate s.path = .ok s.location)
    (isName : Path.IsName name.toList)
    (there : (w.tree.find? (s.location ++ [name])).isSome = true) :
    Leads w s [name.toList] (s.entry name) := by
  have spelled : (s.entry name).path = s.path.entry (String.ofList name.toList) := by
    rw [String.ofList_toList]
    rfl
  refine (leads_entry_iff located isName.noSlash spelled).mpr ?_
  rw [spelled, Workspace.locate_entry_iff located isName.noSlash (.inl isName.nonempty),
    Workspace.follow_name_iff isName, String.ofList_toList]
  exact ⟨rfl, there⟩

theorem reach?_eq_some_iff {path : Path} :
    reach? w path = some s' ↔ s'.path = path ∧ w.locate s'.path = .ok s'.location := by
  unfold reach?
  constructor
  · intro h
    split at h
    · next reached =>
      cases h
      exact ⟨rfl, reached⟩
    · cases h
  · rintro ⟨rfl, reached⟩
    simp [reached]

/-- The entries of a spot are what names lead to. -/
theorem mem_children_iff (named : w.tree.WellNamed) (located : w.locate s.path = .ok s.location) :
    s' ∈ children w s ↔ ∃ name, Path.IsName name.toList ∧ s' = s.entry name ∧
      Leads w s [name.toList] s' := by
  obtain ⟨below, found⟩ := Option.isSome_iff_exists.mp (Workspace.isSome_find?_of_locate located)
  have at_ : treeAt w s = below := by rw [treeAt, found, Option.getD_some]
  rw [children, at_, List.mem_map]
  constructor
  · rintro ⟨⟨name, tree⟩, mem, rfl⟩
    cases below with
    | file => exact absurd mem List.not_mem_nil
    | directory entries =>
      obtain ⟨distinct, inside⟩ := named.of_find? found
      refine ⟨name, (inside.of_mem mem).1, rfl, leads_name located (inside.of_mem mem).1 ?_⟩
      rw [FileTree.find?_concat, found, Option.bind_some, FileTree.entries,
        FileTree.lookup_of_mem distinct mem]
      rfl
  · rintro ⟨name, isName, rfl, leads⟩
    have known := ((Workspace.follow_name_iff isName).mp leads.follows).2
    change (w.tree.find? (s.location ++ [name])).isSome = true at known
    rw [FileTree.find?_concat, found, Option.bind_some] at known
    obtain ⟨tree, known⟩ := Option.isSome_iff_exists.mp known
    exact ⟨(name, tree), FileTree.mem_of_lookup known, rfl⟩

/-- What a component pattern selects from a spot is what the steps it admits lead to. -/
theorem exists_of_mem_selectEntries (named : w.tree.WellNamed)
    (located : w.locate s.path = .ok s.location) {pattern : Pattern}
    (component : IsComponent pattern) (h : s' ∈ selectEntries w pattern s) :
    ∃ part, Admits pattern part ∧ Leads w s [part] s' := by
  unfold selectEntries at h
  split at h
  · next text literal =>
    obtain ⟨spelled, reached⟩ := reach?_eq_some_iff.mp (Option.mem_toList.mp h)
    refine ⟨text, ⟨?_, .inl (by rw [literal]; rfl)⟩,
      (leads_entry_iff located (component text literal) spelled).mpr reached⟩
    rw [accepts_of_literal? literal, decide_eq_true rfl]
  · rcases List.mem_append.mp h with h | h
    -- the two names that every directory has come before its entries
    · unfold dots at h
      split at h
      · next allowed =>
        obtain ⟨name, mem, found⟩ := List.mem_filterMap.mp h
        obtain ⟨mem, accepted⟩ := List.mem_filter.mp mem
        have isDots : name.toList = ['.'] ∨ name.toList = ['.', '.'] := by
          rcases List.mem_pair.mp mem with rfl | rfl <;> simp
        simp only [Bool.and_eq_true, decide_eq_true_eq] at allowed
        obtain ⟨spelled, reached⟩ := reach?_eq_some_iff.mp found
        refine ⟨name.toList, ⟨accepted, .inr (.inr ⟨allowed.2, isDots⟩)⟩, ?_⟩
        exact (leads_join_iff located isDots (by rwa [String.ofList_toList])).mpr reached
      · exact absurd h List.not_mem_nil
    · obtain ⟨mem, accepted⟩ := List.mem_filter.mp h
      obtain ⟨name, isName, -, leads⟩ := (mem_children_iff named located).mp mem
      rw [Leads.name_eq (a := []) leads isName] at accepted
      exact ⟨name.toList, ⟨accepted, .inr (.inl isName)⟩, leads⟩

theorem exists_mem_selectEntries (named : w.tree.WellNamed)
    (located : w.locate s.path = .ok s.location) {pattern : Pattern}
    (component : IsComponent pattern) (admits : Admits pattern part)
    (filled : part ≠ [] ∨ s.path.components ≠ [.here])
    (follows : Workspace.follow w.tree s.location [part] = .ok next) :
    ∃ s' ∈ selectEntries w pattern s, Leads w s [part] s' := by
  have noSlash := admits.noSlash component
  obtain ⟨accepted, allowed⟩ := admits
  unfold selectEntries
  split
  · next text literal =>
    rw [accepts_of_literal? literal, decide_eq_true_eq] at accepted
    subst accepted
    have reached := (Workspace.locate_entry_iff located noSlash filled).mpr follows
    exact ⟨⟨_, next⟩, Option.mem_toList.mpr (reach?_eq_some_iff.mpr ⟨rfl, reached⟩),
      (leads_entry_iff located noSlash rfl).mpr reached⟩
  · next literal =>
    rcases allowed with known | isName | ⟨starts, isDots⟩
    · rw [literal] at known
      cases known
    · obtain ⟨name, rfl⟩ : ∃ name : String, part = name.toList :=
        ⟨String.ofList part, (String.toList_ofList).symm⟩
      obtain ⟨rfl, there⟩ := (Workspace.follow_name_iff isName).mp follows
      rw [String.ofList_toList] at there
      have leads := leads_name located isName there
      refine ⟨s.entry name, List.mem_append_right _ (List.mem_filter.mpr ⟨?_, ?_⟩), leads⟩
      · exact (mem_children_iff named located).mpr ⟨name, isName, rfl, leads⟩
      · rwa [Leads.name_eq (a := []) leads isName]
    · obtain ⟨entries, found, -⟩ := Workspace.follow_singleton_iff.mp follows
      have directory : isDirectory w s = true := by
        rw [isDirectory, treeAt, found]
        rfl
      have reached := (Workspace.locate_join_iff located noSlash).mpr follows
      refine ⟨⟨_, next⟩, List.mem_append_left _ ?_, (leads_join_iff located isDots rfl).mpr reached⟩
      rw [dots, if_pos (by simp [directory, starts])]
      refine List.mem_filterMap.mpr ⟨String.ofList part, List.mem_filter.mpr ⟨?_, ?_⟩,
        reach?_eq_some_iff.mpr ⟨rfl, reached⟩⟩
      · rcases isDots with rfl | rfl <;> simp
      · rwa [String.toList_ofList]

/-! Any number of steps down. -/

mutual

theorem mem_below_iff {tree : FileTree} (named : tree.WellNamed) (s s' : Spot) :
    s' ∈ below s tree ↔ ∃ names, names ≠ [] ∧ (tree.find? names).isSome = true ∧
      s' = names.foldl Spot.entry s := by
  cases tree with
  | file content =>
    rw [below]
    refine ⟨fun h => absurd h List.not_mem_nil, ?_⟩
    -- nothing is found under a name in a file
    rintro ⟨names, nonempty, found, -⟩
    obtain ⟨name, rest, rfl⟩ := List.exists_cons_of_ne_nil nonempty
    cases found
  | directory entries =>
    rw [below, mem_belowEntries_iff named.2]
    constructor
    · rintro ⟨name, tree, names, mem, found, rfl⟩
      refine ⟨name :: names, List.cons_ne_nil _ _, ?_, rfl⟩
      rw [FileTree.find?, FileTree.entries, FileTree.lookup_of_mem named.1 mem]
      exact found
    · rintro ⟨names, nonempty, found, rfl⟩
      obtain ⟨name, names, rfl⟩ := List.exists_cons_of_ne_nil nonempty
      obtain ⟨below, found⟩ := Option.isSome_iff_exists.mp found
      obtain ⟨tree, known, deeper⟩ := Option.bind_eq_some_iff.mp found
      exact ⟨name, tree, names, FileTree.mem_of_lookup known, by rw [deeper]; rfl, rfl⟩

theorem mem_belowEntries_iff {entries : List (String × FileTree)}
    (named : FileTree.WellNamedIn entries) (s s' : Spot) :
    s' ∈ belowEntries s entries ↔ ∃ name tree names, (name, tree) ∈ entries ∧
      (tree.find? names).isSome = true ∧ s' = names.foldl Spot.entry (s.entry name) := by
  cases entries with
  | nil => simp [belowEntries]
  | cons first rest =>
    obtain ⟨name, tree⟩ := first
    rw [belowEntries, List.cons_append, List.mem_cons, List.mem_append,
      mem_below_iff named.2.1, mem_belowEntries_iff named.2.2]
    constructor
    · rintro (rfl | ⟨names, -, found, rfl⟩ | ⟨name', tree', names, mem, found, rfl⟩)
      · exact ⟨name, tree, [], List.mem_cons_self, rfl, rfl⟩
      · exact ⟨name, tree, names, List.mem_cons_self, found, rfl⟩
      · exact ⟨name', tree', names, List.mem_cons_of_mem _ mem, found, rfl⟩
    · rintro ⟨name', tree', names, mem, found, rfl⟩
      rcases List.mem_cons.mp mem with same | mem
      · cases same
        cases names with
        | nil => exact .inl rfl
        | cons name names => exact .inr (.inl ⟨name :: names, List.cons_ne_nil _ _, found, rfl⟩)
      · exact .inr (.inr ⟨name', tree', names, mem, found, rfl⟩)

end

theorem leads_foldl (located : w.locate s.path = .ok s.location) {names : List String}
    (areNames : ∀ name ∈ names, Path.IsName name.toList)
    (found : (w.tree.find? (s.location ++ names)).isSome = true) :
    Leads w s (names.map String.toList) (names.foldl Spot.entry s) := by
  induction names generalizing s with
  | nil => exact .refl located
  | cons name names ih =>
    obtain ⟨isName, areNames⟩ := List.forall_mem_cons.mp areNames
    rw [← List.singleton_append, ← List.append_assoc] at found
    have there : (w.tree.find? (s.location ++ [name])).isSome = true := by
      rw [FileTree.find?_append] at found
      exact Option.isSome_of_isSome_bind found
    have leads := leads_name located isName there
    exact leads.trans (ih leads.located areNames found)

/-- What is below some spots is what names lead to. -/
theorem mem_allBelow_iff (named : w.tree.WellNamed) {spots : List Spot}
    (located : ∀ s ∈ spots, w.locate s.path = .ok s.location) :
    s' ∈ allBelow w spots ↔ ∃ s ∈ spots, ∃ names : List String, names ≠ [] ∧
      (w.tree.find? (s.location ++ names)).isSome = true ∧ s' = names.foldl Spot.entry s := by
  unfold allBelow
  rw [List.mem_flatMap]
  have at_ : ∀ s ∈ spots, ∃ tree, w.tree.find? s.location = some tree ∧ treeAt w s = tree := by
    intro s mem
    obtain ⟨tree, found⟩ :=
      Option.isSome_iff_exists.mp (Workspace.isSome_find?_of_locate (located s mem))
    exact ⟨tree, found, by rw [treeAt, found, Option.getD_some]⟩
  constructor
  · rintro ⟨s, mem, h⟩
    rw [List.mem_eraseDups] at mem
    obtain ⟨tree, found, same⟩ := at_ s mem
    rw [same, mem_below_iff (named.of_find? found)] at h
    obtain ⟨names, nonempty, deeper, spelled⟩ := h
    exact ⟨s, mem, names, nonempty, by rwa [FileTree.find?_append, found], spelled⟩
  · rintro ⟨s, mem, names, nonempty, deeper, spelled⟩
    obtain ⟨tree, found, same⟩ := at_ s mem
    rw [FileTree.find?_append, found] at deeper
    refine ⟨s, List.mem_eraseDups.mpr mem, ?_⟩
    rw [same, mem_below_iff (named.of_find? found)]
    exact ⟨names, nonempty, deeper, spelled⟩

/-- What is below some spots and has a name that a pattern accepts. -/
theorem exists_of_mem_allBelow (named : w.tree.WellNamed) {spots : List Spot}
    (located : ∀ s ∈ spots, w.locate s.path = .ok s.location) {pattern : Pattern}
    (h : s' ∈ (allBelow w spots).filter fun s => accepts pattern s.name) :
    ∃ s ∈ spots, ∃ names name, (∀ part ∈ names ++ [name], Path.IsName part) ∧
      accepts pattern name = true ∧ Leads w s (names ++ [name]) s' := by
  obtain ⟨mem, accepted⟩ := List.mem_filter.mp h
  obtain ⟨s, start, names, nonempty, found, rfl⟩ := (mem_allBelow_iff named located).mp mem
  have areNames := named.isName_below found
  have leads := leads_foldl (located s start) areNames found
  obtain ⟨front, last, rfl⟩ : ∃ front last, names = front ++ [last] :=
    ⟨_, _, (List.dropLast_concat_getLast nonempty).symm⟩
  rw [List.map_append, List.map_singleton] at leads
  have isName := areNames last (List.mem_append_right _ List.mem_cons_self)
  rw [leads.name_eq isName] at accepted
  refine ⟨s, start, front.map String.toList, last.toList, ?_, accepted, leads⟩
  rw [← List.map_singleton, ← List.map_append]
  exact List.forall_mem_map.mpr areNames

theorem exists_mem_allBelow (named : w.tree.WellNamed) {spots : List Spot}
    (located : ∀ s ∈ spots, w.locate s.path = .ok s.location) {pattern : Pattern}
    {names : List (List Char)} {name : List Char} (mem : s ∈ spots)
    (areNames : ∀ part ∈ names ++ [name], Path.IsName part) (accepted : accepts pattern name = true)
    (follows : Workspace.follow w.tree s.location (names ++ [name]) = .ok next) :
    ∃ s' ∈ (allBelow w spots).filter fun s => accepts pattern s.name,
      Leads w s (names ++ [name]) s' := by
  obtain ⟨rfl, there⟩ := (Workspace.follow_names_iff areNames
    (Workspace.isSome_find?_of_locate (located s mem))).mp follows
  have leads := leads_foldl (located s mem) (named.isName_below there) there
  have spelled : String.toList ∘ String.ofList = id := funext fun _ => String.toList_ofList
  rw [List.map_map, spelled, List.map_id] at leads
  refine ⟨_, List.mem_filter.mpr ⟨(mem_allBelow_iff named located).mpr
    ⟨s, mem, _, by simp, there, rfl⟩, ?_⟩, leads⟩
  rwa [leads.name_eq (areNames name (List.mem_append_right _ List.mem_cons_self))]

/-! A whole search. -/

variable {patterns : List Pattern} {spots : List Spot} {onlyDirectories : Bool}

theorem search_cons {pattern : Pattern} (fixed : pattern ≠ [.anyDirectories]) :
    search w onlyDirectories (pattern :: patterns) spots =
      search w onlyDirectories patterns (spots.flatMap (selectEntries w pattern)) := by
  rw [search]
  · exact fun same _ => fixed same
  · exact fun _ _ same _ => fixed same

theorem located_of_mem_flatMap (named : w.tree.WellNamed) {pattern : Pattern}
    (component : IsComponent pattern) (located : ∀ s ∈ spots, w.locate s.path = .ok s.location) :
    ∀ s ∈ spots.flatMap (selectEntries w pattern), w.locate s.path = .ok s.location := by
  intro s' mem
  obtain ⟨s, start, mem⟩ := List.mem_flatMap.mp mem
  obtain ⟨part, -, leads⟩ := exists_of_mem_selectEntries named (located s start) component mem
  exact leads.located

theorem located_of_mem_allBelow (named : w.tree.WellNamed)
    (located : ∀ s ∈ spots, w.locate s.path = .ok s.location) :
    ∀ s ∈ allBelow w spots, w.locate s.path = .ok s.location := by
  intro s' mem
  obtain ⟨s, start, names, -, found, rfl⟩ := (mem_allBelow_iff named located).mp mem
  exact (leads_foldl (located s start) (named.isName_below found) found).located

/-- What a search finds is where it is spelled to be. -/
theorem located_of_mem_search (named : w.tree.WellNamed)
    (components : ∀ pattern ∈ patterns, IsComponent pattern)
    (located : ∀ s ∈ spots, w.locate s.path = .ok s.location)
    (h : s' ∈ search w onlyDirectories patterns spots) : w.locate s'.path = .ok s'.location := by
  fun_induction search w onlyDirectories patterns spots with
  | case1 spots => exact located s' (List.mem_of_mem_filter h)
  | case2 spots => exact located_of_mem_allBelow named located s' (List.mem_of_mem_filter h)
  | case3 pattern patterns spots ih =>
    refine ih (List.forall_mem_cons.mp (List.forall_mem_cons.mp components).2).2 ?_ h
    intro s mem
    exact located_of_mem_allBelow named located s (List.mem_of_mem_filter mem)
  | case4 pattern patterns spots last inside ih =>
    obtain ⟨component, rest⟩ := List.forall_mem_cons.mp components
    exact ih rest (located_of_mem_flatMap named component located) h

/-- Every file that a search finds is what selected steps lead to. -/
theorem exists_of_mem_search (named : w.tree.WellNamed)
    (components : ∀ pattern ∈ patterns, IsComponent pattern)
    (located : ∀ s ∈ spots, w.locate s.path = .ok s.location)
    (h : s' ∈ search w onlyDirectories patterns spots) (file : isDirectory w s' = false) :
    onlyDirectories = false ∧
      ∃ s ∈ spots, ∃ steps, Selects patterns steps ∧ Leads w s steps s' := by
  -- along the search: what the later patterns select is put behind the step of the first
  fun_induction search w onlyDirectories patterns spots with
  | case1 spots =>
    obtain ⟨mem, kept⟩ := List.mem_filter.mp h
    rw [file, Bool.or_false, Bool.not_eq_true'] at kept
    exact ⟨kept, s', mem, [], .done, .refl (located s' mem)⟩
  | case2 spots =>
    obtain ⟨-, directory⟩ := List.mem_filter.mp h
    rw [file] at directory
    cases directory
  | case3 pattern patterns spots ih =>
    have rest := (List.forall_mem_cons.mp (List.forall_mem_cons.mp components).2).2
    obtain ⟨only, s₁, mem, steps, selects, leads⟩ :=
      ih rest (fun s mem => located_of_mem_allBelow named located s (List.mem_of_mem_filter mem)) h
    obtain ⟨s, start, names, name, areNames, accepted, down⟩ :=
      exists_of_mem_allBelow named located mem
    exact ⟨only, s, start, _, .anywhere areNames accepted selects, down.trans leads⟩
  | case4 pattern patterns spots last inside ih =>
    obtain ⟨component, rest⟩ := List.forall_mem_cons.mp components
    obtain ⟨only, s₁, mem, steps, selects, leads⟩ :=
      ih rest (located_of_mem_flatMap named component located) h
    obtain ⟨s, start, mem⟩ := List.mem_flatMap.mp mem
    obtain ⟨part, admits, step⟩ := exists_of_mem_selectEntries named (located s start) component mem
    have fixed : pattern ≠ [.anyDirectories] := by
      rintro rfl
      cases patterns with
      | nil => exact last rfl rfl
      | cons pattern patterns => exact inside pattern patterns rfl rfl
    exact ⟨only, s, start, _, .component fixed admits selects, step.trans leads⟩

/-- A search finds what selected steps lead to. An empty step from where one is would lead
nowhere. -/
theorem exists_mem_search (named : w.tree.WellNamed)
    (components : ∀ pattern ∈ patterns, IsComponent pattern)
    (located : ∀ s ∈ spots, w.locate s.path = .ok s.location) {steps : List (List Char)}
    (selects : Selects patterns steps) (mem : s ∈ spots)
    (filled : [] ∉ steps ∨ s.path.components ≠ [.here])
    (follows : Workspace.follow w.tree s.location steps = .ok next) :
    ∃ s' ∈ search w false patterns spots, Leads w s steps s' := by
  -- on the selected steps, for all spots at once: each step goes on from what the one before selects
  induction selects generalizing s spots with
  | done =>
    rw [search]
    exact ⟨s, List.mem_filter.mpr ⟨mem, by simp⟩, .refl (located s mem)⟩
  | @component pattern patterns part parts fixed admits selects ih =>
    obtain ⟨component, rest⟩ := List.forall_mem_cons.mp components
    obtain ⟨middle, step, follows⟩ := Workspace.follow_cons_iff.mp follows
    have first : part ≠ [] ∨ s.path.components ≠ [.here] := by
      refine filled.imp_left fun filled empty => filled ?_
      rw [empty]
      exact List.mem_cons_self
    obtain ⟨s₁, mem₁, leads⟩ :=
      exists_mem_selectEntries named (located s mem) component admits first step
    have clean : ∀ part' ∈ [part], '/' ∉ part' :=
      List.forall_mem_singleton.mpr (admits.noSlash component)
    obtain ⟨s', found, onward⟩ := ih rest (located_of_mem_flatMap named component located)
      (List.mem_flatMap.mpr ⟨s, mem, mem₁⟩) (leads.filled (located s mem) clean filled)
      (leads.location_eq step ▸ follows)
    rw [search_cons fixed]
    exact ⟨s', found, leads.trans onward⟩
  | anywhere areNames accepted selects ih =>
    have rest := (List.forall_mem_cons.mp (List.forall_mem_cons.mp components).2).2
    obtain ⟨middle, down, follows⟩ := Workspace.follow_append_iff.mp follows
    obtain ⟨s₁, mem₁, leads⟩ := exists_mem_allBelow named located mem areNames accepted down
    obtain ⟨s', found, onward⟩ := ih rest
      (fun s mem => located_of_mem_allBelow named located s (List.mem_of_mem_filter mem)) mem₁
      (leads.filled (located s mem) (fun part h => (areNames part h).noSlash) filled)
      (leads.location_eq down ▸ follows)
    rw [search]
    exact ⟨s', found, leads.trans onward⟩

end

end SwiftStyle.Glob
