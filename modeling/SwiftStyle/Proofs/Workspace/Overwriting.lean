import SwiftStyle.Proofs.FileTree.Putting

/-!
Files that get new texts. Where paths lead hangs on the names in a tree and on which of them are
directories, so it stays the same when a file is written that was there before; and such a file can
always be written.
-/

namespace SwiftStyle.Workspace

/-! Trees with the same files and directories. -/

/-- Whether two trees have their files and their directories at the same locations. -/
def SameShape (tree tree' : FileTree) : Prop :=
  ∀ location, (tree'.look? location).map Option.isSome = (tree.look? location).map Option.isSome

theorem SameShape.isFile_iff {tree tree' : FileTree} (same : SameShape tree tree')
    (location : List String) : tree'.IsFile location ↔ tree.IsFile location := by
  have isFile_iff (tree : FileTree) :
      tree.IsFile location ↔ (tree.look? location).map Option.isSome = some true := by
    rw [FileTree.isFile_iff_look?, Option.map_eq_some_iff]
    constructor
    · rintro ⟨content, found⟩
      exact ⟨_, found, rfl⟩
    · rintro ⟨seen, found, isSome⟩
      obtain ⟨content, rfl⟩ := Option.isSome_iff_exists.mp isSome
      exact ⟨content, found⟩
  rw [isFile_iff, isFile_iff, same location]

/-- A step hangs on nothing but what is seen. -/
theorem follow_cons_eq (tree : FileTree) (location : List String) (part : List Char)
    (parts : List (List Char)) :
    follow tree location (part :: parts) =
      match (tree.look? location).map Option.isSome with
      | none => .error .notFound
      | some true => .error .notDirectory
      | some false =>
        if Path.isSilent part then follow tree location parts
        else if part = ['.', '.'] then follow tree location.dropLast parts
        else if (tree.look? (location ++ [String.ofList part])).isSome then
          follow tree (location ++ [String.ofList part]) parts
        else .error .notFound := by
  rw [follow, FileTree.isSome_look?, FileTree.find?_concat]
  unfold FileTree.look?
  cases found : tree.find? location with
  | none => rfl
  | some below =>
    cases below with
    | file content => rfl
    | directory entries =>
      simp only [Option.map_some, FileTree.content?, Option.isSome_none, Option.bind_some,
        FileTree.entries]
      split
      · rfl
      · split
        · rfl
        · split <;> simp only [*, Option.isSome_some, Option.isSome_none, if_true,
            Bool.false_eq_true, if_false]

theorem SameShape.follow_eq {tree tree' : FileTree} (same : SameShape tree tree')
    (location : List String) (parts : List (List Char)) :
    follow tree' location parts = follow tree location parts := by
  induction parts generalizing location with
  | nil => rfl
  | cons part parts ih =>
    have there (location : List String) :
        (tree'.look? location).isSome = (tree.look? location).isSome := by
      rw [← Option.isSome_map (f := Option.isSome), same, Option.isSome_map]
    rw [follow_cons_eq, follow_cons_eq, same, there]
    simp only [ih]

/-! New texts. -/

/-- Whether a workspace is another one in which some files hold new texts. Nothing else differs:
what is at any other location is what was there before. -/
structure Overwrites (w : Workspace) (texts : List String → String → Prop) (after : Workspace) :
    Prop where
  directory : after.directory = w.directory
  configDirectory : after.configDirectory = w.configDirectory
  ordered : after.tree.Ordered
  isFile : ∀ location text, texts location text → w.tree.IsFile location
  written : ∀ location text, texts location text →
    after.tree.look? location = some (some (.text text))
  kept : ∀ location, (∀ text, ¬texts location text) →
    after.tree.look? location = w.tree.look? location

namespace Overwrites

variable {w middle after : Workspace} {path : Path} {location : List String} {text : String}
  {texts texts' : List String → String → Prop}

theorem refl (ordered : w.tree.Ordered) (none : ∀ location text, ¬texts location text) :
    w.Overwrites texts w where
  directory := rfl
  configDirectory := rfl
  ordered := ordered
  isFile location text new := absurd new (none location text)
  written location text new := absurd new (none location text)
  kept _ _ := rfl

theorem sameShape (h : w.Overwrites texts after) : SameShape w.tree after.tree := by
  intro location
  by_cases new : ∃ text, texts location text
  · obtain ⟨text, new⟩ := new
    obtain ⟨content, found⟩ := FileTree.isFile_iff_look?.mp (h.isFile location text new)
    rw [h.written location text new, found]
    rfl
  · rw [h.kept location (not_exists.mp new)]

theorem locate_eq (h : w.Overwrites texts after) (path : Path) :
    after.locate path = w.locate path := by
  unfold locate startOf
  rw [h.directory, h.sameShape.follow_eq]

/-- Files that get new texts one after the other, where no file gets two. -/
theorem trans (first : w.Overwrites texts middle) (second : middle.Overwrites texts' after)
    (agree : ∀ location text text', texts location text → texts' location text' → text = text') :
    w.Overwrites (fun location text => texts location text ∨ texts' location text) after where
  directory := second.directory.trans first.directory
  configDirectory := second.configDirectory.trans first.configDirectory
  ordered := second.ordered
  isFile location text := by
    rintro (now | later)
    · exact first.isFile location text now
    · exact (first.sameShape.isFile_iff location).mp (second.isFile location text later)
  written location text := by
    rintro (now | later)
    · by_cases again : ∃ text', texts' location text'
      · obtain ⟨text', later⟩ := again
        rw [agree location text text' now later]
        exact second.written location text' later
      · rw [second.kept location (not_exists.mp again)]
        exact first.written location text now
    · exact second.written location text later
  kept location none := by
    rw [second.kept location fun text later => none text (.inr later)]
    exact first.kept location fun text now => none text (.inl now)

theorem congr (h : w.Overwrites texts after)
    (same : ∀ location text, texts' location text ↔ texts location text) :
    w.Overwrites texts' after := by
  obtain rfl : texts' = texts := funext₂ fun location text => propext (same location text)
  exact h

end Overwrites

variable {w : Workspace} {path : Path} {location : List String}

theorem target_eq_of_isFile (there : w.locate path = .ok location)
    (isFile : w.tree.IsFile location) : w.target path = .ok location := by
  obtain ⟨content, found⟩ := isFile
  simp only [target, there, found]

/-- A file that is there can be written, and no other one changes. -/
theorem exists_write (ordered : w.tree.Ordered) (there : w.locate path = .ok location)
    (isFile : w.tree.IsFile location) (text : String) :
    ∃ after, w.write path text = .ok after ∧
      w.Overwrites (fun other new => other = location ∧ new = text) after := by
  have writes : w.write path text =
      .ok { w with tree := FileTree.put (.file (.text text)) location w.tree } := by
    rw [write, target_eq_of_isFile there isFile]
    rfl
  refine ⟨_, writes, rfl, rfl, ordered.put (FileTree.ordered_file _), ?_, ?_, ?_⟩
  · rintro other new ⟨rfl, rfl⟩
    exact isFile
  · rintro other new ⟨rfl, rfl⟩
    exact (FileTree.look?_put ordered isFile other).trans (if_pos rfl)
  · intro other none
    have differ : other ≠ location := fun same => none text ⟨same, rfl⟩
    exact (FileTree.look?_put ordered isFile other).trans (if_neg differ)

end SwiftStyle.Workspace
