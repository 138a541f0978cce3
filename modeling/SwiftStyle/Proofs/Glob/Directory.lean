import SwiftStyle.Proofs.Glob.Selection
import SwiftStyle.Proofs.Results

/-!
Searches below a directory. The parts of the directory are patterns for themselves, so a search for
a pattern below it goes to the directory first and is then one for the pattern alone.
-/

namespace SwiftStyle

theorem FileTree.filter_eq_of_lookup {entries : List (String × FileTree)}
    (distinct : (entries.map Prod.fst).Nodup) {name : String} {tree : FileTree}
    (h : entries.lookup name = some tree) :
    entries.filter (fun entry => entry.1 = name) = [(name, tree)] := by
  induction entries with
  | nil => cases h
  | cons first rest ih =>
    obtain ⟨known, other⟩ := first
    obtain ⟨fresh, distinct⟩ := List.nodup_cons.mp distinct
    rw [List.lookup_cons] at h
    by_cases same : known = name
    · subst same
      have others : rest.filter (fun entry => entry.1 = known) = [] := by
        refine List.filter_eq_nil_iff.mpr fun entry mem same => fresh ?_
        rw [decide_eq_true_eq] at same
        exact List.mem_map.mpr ⟨entry, mem, same⟩
      rw [beq_self_eq_true] at h
      cases h
      rw [List.filter_cons_of_pos (by simp), others]
    · rw [beq_false_of_ne (Ne.symm same)] at h
      rw [List.filter_cons_of_neg (by simp [same])]
      exact ih distinct h

namespace Glob

/-! Going to the directory. -/

theorem literal?_escaped (text : List Char) : literal? (escaped text) =
    if text.any fun c => ['?', '*', '[', ']'].contains c then none else some text := by
  induction text with
  | nil => rfl
  | cons c text ih =>
    rw [escaped, List.map_cons, ← escaped, escapedPiece, List.any_cons]
    cases special : ['?', '*', '[', ']'].contains c with
    | true => rfl
    | false =>
      rw [if_neg Bool.false_ne_true, literal?, ih, Bool.false_or]
      split <;> rfl

section

variable {w : Workspace} {s : Spot} {part : List Char} {next : List String}

/-- A part with a character that had to be escaped is a name. -/
theorem isName_of_literal?_escaped (noSlash : '/' ∉ part) (h : literal? (escaped part) = none) :
    Path.IsName part := by
  rw [literal?_escaped] at h
  split at h
  · next special =>
    refine ⟨?_, ?_, ?_, noSlash⟩
    all_goals
      rintro rfl
      revert special
      decide
  · cases h

theorem dots_escaped (isName : Path.IsName part) (s : Spot) : dots w (escaped part) s = [] := by
  have none : (["..", "."].filter fun name => accepts (escaped part) name.toList) = [] := by
    simp [accepts_escaped, isName.notHere.symm, isName.notUp.symm]
  unfold dots
  split
  · rw [none, List.filterMap_nil]
  · rfl

theorem children_filter_escaped (named : w.tree.WellNamed) {name : String}
    (there : (w.tree.find? (s.location ++ [name])).isSome = true) :
    ((children w s).filter fun s' => accepts (escaped name.toList) s'.name) = [s.entry name] := by
  obtain ⟨tree, found⟩ := Option.isSome_iff_exists.mp there
  rw [FileTree.find?_concat] at found
  obtain ⟨below, directory, known⟩ := Option.bind_eq_some_iff.mp found
  cases below with
  | file => cases known
  | directory entries =>
    have alone := FileTree.filter_eq_of_lookup (named.of_find? directory).1 known
    have same : ((fun s' => accepts (escaped name.toList) s'.name) ∘
        fun entry : String × FileTree => s.entry entry.1) =
          fun entry => decide (entry.1 = name) := by
      funext entry
      simp [accepts_escaped, Spot.name, Spot.entry, String.ext_iff]
    rw [children, treeAt, directory, Option.getD_some, FileTree.entries, List.filter_map, same,
      alone]
    rfl

/-- A part of a directory selects the one entry that it names. -/
theorem selectEntries_escaped (named : w.tree.WellNamed)
    (located : w.locate s.path = .ok s.location) (noSlash : '/' ∉ part)
    (filled : part ≠ [] ∨ s.path.components ≠ [.here])
    (follows : Workspace.follow w.tree s.location [part] = .ok next) :
    selectEntries w (escaped part) s = [⟨s.path.entry (String.ofList part), next⟩] := by
  have reached := (Workspace.locate_entry_iff located noSlash filled).mpr follows
  unfold selectEntries
  split
  · next text literal =>
    rw [literal?_escaped] at literal
    split at literal
    · cases literal
    · cases literal
      rw [reach?, reached]
      rfl
  · next literal =>
    have isName := isName_of_literal?_escaped noSlash literal
    obtain ⟨rfl, there⟩ := (Workspace.follow_name_iff isName).mp follows
    have alone := children_filter_escaped named there
    rw [String.toList_ofList] at alone
    rw [dots_escaped isName, List.nil_append, alone]
    rfl

/-- Whether parts can be followed one by one from a path. Only an empty step from where one is leads
nowhere. -/
def Enters (path : Path) (parts : List (List Char)) : Prop :=
  [] ∉ parts ∨ path.components ≠ [.here] ∨ ∃ part ∈ parts.head?, Path.isSilent part = false

theorem Enters.step {path : Path} {parts : List (List Char)} (h : Enters path (part :: parts))
    (nonempty : path.text ≠ "") (noSlash : '/' ∉ part) :
    (part ≠ [] ∨ path.components ≠ [.here]) ∧ Enters (path.entry (String.ofList part)) parts := by
  rcases h with filled | elsewhere | ⟨first, same, speaks⟩
  · refine ⟨.inl fun empty => filled ?_, .inl fun mem => filled (List.mem_cons_of_mem part mem)⟩
    rw [empty]
    exact List.mem_cons_self
  · exact ⟨.inr elsewhere,
      .inr (.inl (Path.components_entry_ne nonempty noSlash (.inl elsewhere)))⟩
  · cases same
    refine ⟨.inl fun empty => ?_,
      .inr (.inl (Path.components_entry_ne nonempty noSlash (.inr speaks)))⟩
    rw [empty] at speaks
    cases speaks

section

variable {parts : List (List Char)}

theorem locate_foldl_entry {path : Path} {location : List String}
    (located : w.locate path = .ok location) (noSlash : ∀ part ∈ parts, '/' ∉ part)
    (enters : Enters path parts) (follows : Workspace.follow w.tree location parts = .ok next) :
    w.locate (parts.foldl (fun path part => path.entry (String.ofList part)) path) = .ok next := by
  induction parts generalizing path location with
  | nil =>
    cases follows
    exact located
  | cons part parts ih =>
    obtain ⟨clean, noSlash⟩ := List.forall_mem_cons.mp noSlash
    obtain ⟨middle, step, follows⟩ := Workspace.follow_cons_iff.mp follows
    obtain ⟨filled, enters⟩ := enters.step (Workspace.nonempty_of_locate located) clean
    exact ih ((Workspace.locate_entry_iff located clean filled).mpr step) noSlash enters follows

theorem search_escaped (named : w.tree.WellNamed) (located : w.locate s.path = .ok s.location)
    (noSlash : ∀ part ∈ parts, '/' ∉ part) (enters : Enters s.path parts)
    (follows : Workspace.follow w.tree s.location parts = .ok next) (onlyDirectories : Bool)
    (patterns : List Pattern) :
    search w onlyDirectories (parts.map escaped ++ patterns) [s] = search w onlyDirectories patterns
      [⟨parts.foldl (fun path part => path.entry (String.ofList part)) s.path, next⟩] := by
  induction parts generalizing s with
  | nil =>
    cases follows
    rfl
  | cons part parts ih =>
    obtain ⟨clean, noSlash⟩ := List.forall_mem_cons.mp noSlash
    obtain ⟨middle, step, follows⟩ := Workspace.follow_cons_iff.mp follows
    obtain ⟨filled, enters⟩ := enters.step (Workspace.nonempty_of_locate located) clean
    have reached := (Workspace.locate_entry_iff located clean filled).mpr step
    rw [List.map_cons, List.cons_append, search_cons (escaped_ne part), List.flatMap_singleton,
      selectEntries_escaped named located clean filled step, List.foldl_cons]
    exact ih (s := ⟨_, middle⟩) reached noSlash enters follows

/-- Whatever a part of a directory selects is spelled as the entry that it names. -/
theorem path_of_mem_selectEntries (named : w.tree.WellNamed)
    (located : w.locate s.path = .ok s.location) (noSlash : '/' ∉ part) {s' : Spot}
    (h : s' ∈ selectEntries w (escaped part) s) :
    s'.path = s.path.entry (String.ofList part) ∧ w.locate s'.path = .ok s'.location := by
  unfold selectEntries at h
  split at h
  · next text literal =>
    obtain ⟨spelled, reached⟩ := reach?_eq_some_iff.mp (Option.mem_toList.mp h)
    rw [literal?_escaped] at literal
    split at literal
    · cases literal
    · cases literal
      exact ⟨spelled, reached⟩
  · next literal =>
    rw [dots_escaped (isName_of_literal?_escaped noSlash literal), List.nil_append] at h
    obtain ⟨mem, accepted⟩ := List.mem_filter.mp h
    obtain ⟨name, isName, rfl, leads⟩ := (mem_children_iff named located).mp mem
    rw [Leads.name_eq (a := []) leads isName, accepts_escaped, decide_eq_true_eq] at accepted
    refine ⟨?_, leads.located⟩
    rw [← accepted, String.ofList_toList]
    rfl

/-- What a search finds that goes to a directory first, it finds in the directory. -/
theorem exists_of_mem_search_escaped (named : w.tree.WellNamed) {patterns : List Pattern}
    (components : ∀ pattern ∈ patterns, IsComponent pattern) {parts : List (List Char)}
    (noSlash : ∀ part ∈ parts, '/' ∉ part) {spots : List Spot}
    (located : ∀ s ∈ spots, w.locate s.path = .ok s.location) {onlyDirectories : Bool} {s' : Spot}
    (h : s' ∈ search w onlyDirectories (parts.map escaped ++ patterns) spots)
    (file : isDirectory w s' = false) :
    onlyDirectories = false ∧ ∃ s ∈ spots, ∃ next steps,
      Workspace.follow w.tree s.location parts = .ok next ∧ Selects patterns steps ∧
        Leads w ⟨parts.foldl (fun path part => path.entry (String.ofList part)) s.path, next⟩ steps
          s' := by
  induction parts generalizing spots with
  | nil =>
    obtain ⟨only, s, mem, steps, selects, leads⟩ :=
      exists_of_mem_search named components located h file
    exact ⟨only, s, mem, s.location, steps, rfl, selects, leads⟩
  | cons part parts ih =>
    obtain ⟨clean, noSlash⟩ := List.forall_mem_cons.mp noSlash
    rw [List.map_cons, List.cons_append, search_cons (escaped_ne part)] at h
    have entered : ∀ s₁ ∈ spots.flatMap (selectEntries w (escaped part)), ∃ s ∈ spots,
        s₁.path = s.path.entry (String.ofList part) ∧ w.locate s₁.path = .ok s₁.location := by
      intro s₁ mem
      obtain ⟨s, start, mem⟩ := List.mem_flatMap.mp mem
      exact ⟨s, start, path_of_mem_selectEntries named (located s start) clean mem⟩
    obtain ⟨only, s₁, mem, next, steps, follows, selects, leads⟩ := ih noSlash
      (fun s₁ mem => (entered s₁ mem).choose_spec.2.2) h
    obtain ⟨s, start, spelled, reached⟩ := entered s₁ mem
    rw [spelled] at reached leads
    have step := (Workspace.locate_entry_iff (located s start) clean
      (Workspace.filled_of_locate_entry reached)).mp reached
    exact ⟨only, s, start, next, steps, Workspace.follow_cons_iff.mpr ⟨_, step, follows⟩, selects,
      leads⟩

end

end

/-! Reading the pattern. -/

theorem collapse_cons {pattern : Pattern} (fixed : pattern ≠ [.anyDirectories])
    (patterns : List Pattern) : collapse (pattern :: patterns) = pattern :: collapse patterns := by
  rw [collapse]
  rintro _ same -
  exact fixed same

theorem collapse_escaped (parts : List (List Char)) (patterns : List Pattern) :
    collapse (parts.map escaped ++ patterns) = parts.map escaped ++ collapse patterns := by
  induction parts with
  | nil => rfl
  | cons part parts ih =>
    rw [List.map_cons, List.cons_append, collapse_cons (escaped_ne part), ih, List.cons_append]

theorem subset_collapse (patterns : List Pattern) : collapse patterns ⊆ patterns := by
  fun_induction collapse patterns with
  | case1 patterns ih => exact fun pattern mem => List.mem_cons_of_mem _ (ih mem)
  | case2 pattern patterns _ ih => exact List.cons_subset_cons pattern ih
  | case3 => exact List.Subset.refl []

theorem mapM_components (directory : List Char) {text : List Char} {patterns : List Pattern}
    (reads : (components text).mapM parse = .ok patterns) :
    (components (escape directory ++ '/' :: text)).mapM parse =
      .ok ((Path.split directory).map escaped ++ patterns) := by
  have parts : (parse ∘ escape) = (Except.ok ∘ escaped) := funext parse_escape
  rw [mapM_eq_ok_iff] at reads ⊢
  rw [components_append, split_escape, List.map_append, List.map_append, reads, List.map_map,
    List.map_map, parts]

theorem mem_components_of_literal? {text literal : List Char} {patterns : List Pattern}
    (reads : (components text).mapM parse = .ok patterns) {pattern : Pattern}
    (mem : pattern ∈ collapse patterns) (found : literal? pattern = some literal) :
    literal ∈ components text := by
  have read : Except.ok pattern ∈ patterns.map (Except.ok : _ → Except SyntaxError Pattern) :=
    List.mem_map_of_mem (subset_collapse patterns mem)
  rw [← mapM_eq_ok_iff.mp reads] at read
  obtain ⟨component, mem, read⟩ := List.mem_map.mp read
  rwa [text_of_literal? read found]

theorem isComponent_of_mem {text : List Char} {patterns : List Pattern}
    (reads : (components text).mapM parse = .ok patterns) :
    ∀ pattern ∈ collapse patterns, IsComponent pattern := by
  intro pattern mem literal found
  have component := mem_components_of_literal? reads mem found
  have inside : literal ∈ Path.split text := by
    unfold components at component
    dsimp only at component
    split at component
    · exact List.dropLast_subset _ component
    · exact component
  exact Path.not_mem_of_mem_split inside

/-! Searching below the directory. -/

/-- Where the search for a pattern starts, and what of the pattern it has to follow from there. -/
def StartsAt (text : List Char) (start : Path) (rest : List Char) : Prop :=
  text = '/' :: rest ∧ start = ⟨"/"⟩ ∨ text.head? ≠ some '/' ∧ rest = text ∧ start = ⟨"."⟩

section

variable {w : Workspace} {root start : Path} {location : List String} {text rest : List Char}
  {patterns : List Pattern} {whole : Pattern}

theorem select_of_startsAt (parsed : parse text = .ok whole) (starts : StartsAt text start rest)
    (reads : (components rest).mapM parse = .ok patterns) :
    select w text = .ok ((search w (text.getLast? = some '/') (collapse patterns)
      (reach? w start).toList).map Spot.path) := by
  unfold select
  rw [parsed]
  dsimp only
  rcases starts with ⟨rfl, rfl⟩ | ⟨relative, rfl, rfl⟩
  · simp only [reads, bind, Except.bind]
    rfl
  · split
    · exact absurd rfl relative
    · simp only [reads, bind, Except.bind]
      rfl

theorem exists_of_select (starts : StartsAt text start rest) {found : List Path}
    (selected : select w text = .ok found) :
    ∃ patterns, (components rest).mapM parse = .ok patterns ∧
      found = (search w (text.getLast? = some '/') (collapse patterns)
        (reach? w start).toList).map Spot.path := by
  cases parsed : parse text with
  | error e =>
    unfold select at selected
    rw [parsed] at selected
    cases selected
  | ok whole =>
    cases reads : (components rest).mapM parse with
    | ok patterns =>
      rw [select_of_startsAt parsed starts reads] at selected
      exact ⟨patterns, rfl, (Except.ok.inj selected).symm⟩
    | error e =>
      unfold select at selected
      rw [parsed] at selected
      dsimp only at selected
      rcases starts with ⟨rfl, rfl⟩ | ⟨relative, rfl, rfl⟩
      · simp only [reads, bind, Except.bind] at selected
        cases selected
      · split at selected
        · exact absurd rfl relative
        · simp only [reads, bind, Except.bind] at selected
          cases selected

theorem head?_escape_append (c : Char) (cs text : List Char) :
    (escape (c :: cs) ++ text).head? = some '/' ↔ c = '/' := by
  rw [escape_cons]
  split
  · next special =>
    have different : c ≠ '/' := by
      rintro rfl
      revert special
      decide
    simp [different]
  · simp

/-- The way to a directory: from the root or from where one is, with all its parts. -/
theorem exists_start (located : w.locate root = .ok location) :
    ∃ start origin body, w.locate start = .ok origin ∧
      (root.parts.head? ≠ some ['.'] ∨ [] ∉ root.parts → Enters start (Path.split body)) ∧
      Workspace.follow w.tree origin (Path.split body) = .ok location ∧
      (Path.split body).foldl (fun path part => path.entry (String.ofList part)) start =
        Path.searched root ∧
      ∀ text, StartsAt (escape root.text.toList ++ '/' :: text) start
        (escape body ++ '/' :: text) := by
  obtain ⟨nonempty, follows⟩ := Workspace.locate_eq_ok_iff.mp located
  obtain ⟨c, cs, spelled⟩ := List.exists_cons_of_ne_nil
    fun empty => nonempty (String.toList_eq_nil_iff.mp empty)
  obtain ⟨entries, found⟩ := Workspace.exists_directory_of_follow (Path.split_ne_nil _) follows
  by_cases slash : c = '/'
  · subst slash
    have absolute : root.isAbsolute = true := by simp [Path.isAbsolute, spelled]
    have parts : root.parts = [] :: Path.split cs := by
      rw [Path.parts, spelled, Path.split_slash]
    -- the slash in front is the root, and what follows it is the way from there
    rw [Workspace.startOf, if_pos absolute] at found follows
    refine ⟨⟨"/"⟩, [], cs, Workspace.locate_root found, fun _ => .inr (.inl (by decide +kernel)),
      ?_, ?_, fun text => .inl ⟨?_, rfl⟩⟩
    · rw [parts] at follows
      obtain ⟨middle, step, follows⟩ := Workspace.follow_cons_iff.mp follows
      obtain ⟨_, -, stays⟩ := Workspace.follow_singleton_iff.mp step
      rw [if_pos (by rfl)] at stays
      exact stays ▸ follows
    · simp [Path.searched, absolute, parts]
    · rw [spelled, escape_cons, if_neg (by decide)]
      rfl
  · have relative : root.isAbsolute = false := by simp [Path.isAbsolute, spelled, slash]
    rw [Workspace.startOf, if_neg (by simp [relative])] at found follows
    refine ⟨⟨"."⟩, w.directory, root.text.toList, Workspace.locate_here found, ?_, follows, ?_,
      fun text => .inr ⟨?_, rfl, rfl⟩⟩
    · rintro (noDot | filled)
      · obtain ⟨part, parts, cut⟩ := List.exists_cons_of_ne_nil (Path.split_ne_nil root.text.toList)
        obtain ⟨tail, stem, -⟩ := Path.exists_stem nonempty cut
        have notRoot : part ≠ [] := fun isRoot =>
          Bool.false_ne_true (relative.symm.trans ((Path.isAbsolute_iff nonempty stem).mpr isRoot))
        rw [Path.parts, cut] at noDot
        refine .inr (.inr ⟨part, by rw [cut]; rfl, ?_⟩)
        simpa [Path.isSilent, notRoot] using noDot
      · exact .inl filled
    · simp [Path.searched, relative, Path.parts]
    · rw [spelled, ne_eq, head?_escape_append]
      exact slash

theorem locate_searched (located : w.locate root = .ok location)
    (plain : root.parts.head? ≠ some ['.'] ∨ [] ∉ root.parts) :
    w.locate (Path.searched root) = .ok location := by
  obtain ⟨start, origin, body, there, enters, follows, spelled, -⟩ := exists_start located
  rw [← spelled]
  exact locate_foldl_entry there (fun part => Path.not_mem_of_mem_split) (enters plain) follows

/-- Reading a pattern below a directory, each part of the directory is read as itself. -/
theorem exists_of_mapM_components {directory : List Char} {read : List Pattern}
    (reads : (components (escape directory ++ '/' :: text)).mapM parse = .ok read) :
    ∃ patterns, (components text).mapM parse = .ok patterns ∧
      read = (Path.split directory).map escaped ++ patterns := by
  have each : ∀ component ∈ components text, ∃ pattern, parse component = .ok pattern := by
    intro component mem
    rw [components_append, mapM_eq_ok_iff, List.map_append] at reads
    have result := List.mem_append_right ((Path.split (escape directory)).map parse)
      (List.mem_map_of_mem (f := parse) mem)
    rw [reads] at result
    obtain ⟨pattern, -, read⟩ := List.mem_map.mp result
    exact ⟨pattern, read.symm⟩
  obtain ⟨patterns, mapped, -⟩ := exists_mapM each
  exact ⟨patterns, mapped, Except.ok.inj (reads.symm.trans (mapM_components directory mapped))⟩

/-- Every file that a pattern selects below a directory is what selected steps from the directory
lead to, however the directory is spelled. -/
theorem exists_of_mem_select (named : w.tree.WellNamed) (located : w.locate root = .ok location)
    {found : List Path} (selected : select w (escape root.text.toList ++ '/' :: text) = .ok found)
    {path : Path} (mem : path ∈ found) (isFile : w.isFile path = true) :
    ('/' :: text).getLast? ≠ some '/' ∧
      ∃ patterns steps file, (components text).mapM parse = .ok patterns ∧
        Selects (collapse patterns) steps ∧
        Leads w ⟨Path.searched root, location⟩ steps ⟨path, file⟩ := by
  obtain ⟨start, origin, body, there, -, follows, spelled, starts⟩ := exists_start located
  obtain ⟨read, reads, rfl⟩ := exists_of_select (starts text) selected
  obtain ⟨patterns, reads', rfl⟩ := exists_of_mapM_components reads
  obtain ⟨⟨path, file⟩, found, rfl⟩ := List.mem_map.mp mem
  have origins : ∀ s ∈ [Spot.mk start origin], w.locate s.path = .ok s.location :=
    List.forall_mem_singleton.mpr there
  have reached : reach? w start = some ⟨start, origin⟩ := by rw [reach?, there]
  rw [reached, Option.toList_some, List.getLast?_append_of_ne_nil _ (List.cons_ne_nil _ _)] at found
  have noDirectory : isDirectory w ⟨path, file⟩ = false := by
    obtain ⟨file', there', content, at_⟩ := Workspace.isFile_iff.mp isFile
    obtain rfl : file' = file := Except.ok.inj (there'.symm.trans
      (located_of_mem_search named (isComponent_of_mem reads) origins found))
    rw [isDirectory, treeAt, at_]
    rfl
  rw [collapse_escaped] at found
  obtain ⟨only, s, mem, next, steps, follows', selects, leads⟩ := exists_of_mem_search_escaped named
    (isComponent_of_mem reads') (fun part => Path.not_mem_of_mem_split) origins found noDirectory
  rw [List.mem_singleton.mp mem] at follows' leads
  obtain rfl := Except.ok.inj (follows.symm.trans follows')
  rw [spelled] at leads
  exact ⟨of_decide_eq_false only, patterns, steps, file, reads', selects, leads⟩

/-- What a pattern selects below a directory is what a search finds that starts there. -/
theorem select_below (named : w.tree.WellNamed) (located : w.locate root = .ok location)
    (plain : root.parts.head? ≠ some ['.'] ∨ [] ∉ root.parts) {pattern : Pattern}
    (read : parse text = .ok pattern) (reads : (components text).mapM parse = .ok patterns) :
    select w (escape root.text.toList ++ '/' :: text) =
      .ok ((search w (('/' :: text).getLast? = some '/') (collapse patterns)
        [⟨Path.searched root, location⟩]).map Spot.path) := by
  obtain ⟨whole, parsed⟩ := exists_parse_below root.text.toList read
  obtain ⟨start, origin, body, there, enters, follows, spelled, starts⟩ := exists_start located
  have below := search_escaped (s := ⟨start, origin⟩) named there
    (fun part => Path.not_mem_of_mem_split) (enters plain) follows
  have reached : reach? w start = some ⟨start, origin⟩ := by rw [reach?, there]
  rw [select_of_startsAt parsed (starts text) (mapM_components body reads), collapse_escaped,
    reached, Option.toList_some, below, spelled,
    List.getLast?_append_of_ne_nil _ (List.cons_ne_nil _ _)]

end

end Glob

end SwiftStyle
