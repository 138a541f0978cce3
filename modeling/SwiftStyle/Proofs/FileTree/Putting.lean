import SwiftStyle.Proofs.Lists
import SwiftStyle.Proofs.Workspace.Following

/-!
What putting a file into a tree changes. In a tree whose directories are in order the new file
stands in the place of the old one, and at every other location there is what was there before.
-/

namespace SwiftStyle.FileTree

variable {tree new : FileTree} {entries : List (String × FileTree)} {name other : String}
  {names location : List String} {content : Content} {change : Option FileTree → FileTree}

mutual

/-- Whether the entries of every directory ascend by their names. -/
def Ordered : FileTree → Prop
  | file _ => True
  | directory entries => (entries.Pairwise fun a b => a.1 < b.1) ∧ OrderedIn entries

def OrderedIn : List (String × FileTree) → Prop
  | [] => True
  | (_, tree) :: rest => Ordered tree ∧ OrderedIn rest

end

theorem ordered_empty : empty.Ordered := ⟨.nil, trivial⟩

theorem ordered_file (content : Content) : (file content).Ordered := trivial

theorem OrderedIn.of_mem (h : OrderedIn entries) {entry : String × FileTree}
    (mem : entry ∈ entries) : entry.2.Ordered := by
  induction entries with
  | nil => exact absurd mem List.not_mem_nil
  | cons first rest ih =>
    rcases List.mem_cons.mp mem with rfl | later
    · exact h.1
    · exact ih h.2 later

theorem lookup_eq_none_of_before (before : ∀ entry ∈ entries, name < entry.1) :
    entries.lookup name = none := by
  apply List.lookup_eq_none_iff.mpr
  intro entry mem
  apply bne_iff_ne.mpr
  rintro rfl
  exact String.lt_irrefl _ (before entry mem)

theorem lookup_alter (ascending : entries.Pairwise fun a b => a.1 < b.1) :
    (alter name change entries).lookup other =
      if name = other then some (change (entries.lookup name)) else entries.lookup other := by
  induction entries with
  | nil => exact lookup_cons_eq name other _ []
  | cons first rest ih =>
    obtain ⟨known, old⟩ := first
    obtain ⟨after, rising⟩ := List.pairwise_cons.mp ascending
    unfold alter
    split
    · next same =>
      subst same
      simp only [lookup_cons_eq, if_true]
      split <;> rfl
    · next differ =>
      split
      · next before =>
        -- the entries that follow all come later than the name
        have missing : ((known, old) :: rest).lookup name = none := by
          apply lookup_eq_none_of_before
          intro entry mem
          rcases List.mem_cons.mp mem with rfl | later
          · exact before
          · exact String.lt_trans before (after entry later)
        rw [missing, lookup_cons_eq name]
      · rw [lookup_cons_eq, ih rising, lookup_cons_eq, lookup_cons_eq, if_neg differ]
        by_cases same : known = other
        · rw [if_pos same, if_neg (same ▸ Ne.symm differ), if_pos same]
        · rw [if_neg same, if_neg same]

theorem exists_of_mem_alter {entry : String × FileTree} (mem : entry ∈ alter name change entries) :
    entry ∈ entries ∨ entry.1 = name ∧ ∃ old?, entry.2 = change old? ∧
      (old? = none ∨ ∃ old, (name, old) ∈ entries ∧ old? = some old) := by
  induction entries with
  | nil =>
    rw [alter, List.mem_singleton] at mem
    exact .inr ⟨by rw [mem], none, by rw [mem], .inl rfl⟩
  | cons first rest ih =>
    obtain ⟨known, old⟩ := first
    unfold alter at mem
    split at mem
    · next same =>
      subst same
      rcases List.mem_cons.mp mem with rfl | later
      · exact .inr ⟨rfl, some old, rfl, .inr ⟨old, List.mem_cons_self, rfl⟩⟩
      · exact .inl (List.mem_cons_of_mem _ later)
    · split at mem
      · rcases List.mem_cons.mp mem with rfl | kept
        · exact .inr ⟨rfl, none, rfl, .inl rfl⟩
        · exact .inl kept
      · rcases List.mem_cons.mp mem with rfl | later
        · exact .inl List.mem_cons_self
        · rcases ih later with kept | ⟨same, old?, changed, from_⟩
          · exact .inl (List.mem_cons_of_mem _ kept)
          · refine .inr ⟨same, old?, changed, from_.imp_right ?_⟩
            rintro ⟨old, mem, given⟩
            exact ⟨old, List.mem_cons_of_mem _ mem, given⟩

theorem pairwise_alter (ascending : entries.Pairwise fun a b => a.1 < b.1) :
    (alter name change entries).Pairwise fun a b => a.1 < b.1 := by
  induction entries with
  | nil => exact List.pairwise_singleton _ _
  | cons first rest ih =>
    obtain ⟨known, old⟩ := first
    obtain ⟨after, rising⟩ := List.pairwise_cons.mp ascending
    unfold alter
    split
    · exact List.pairwise_cons.mpr ⟨after, rising⟩
    · next differ =>
      split
      · next before =>
        refine List.pairwise_cons.mpr ⟨List.forall_mem_cons.mpr ⟨before, ?_⟩, ascending⟩
        exact fun entry mem => String.lt_trans before (after entry mem)
      · next notBefore =>
        refine List.pairwise_cons.mpr ⟨fun entry mem => ?_, ih rising⟩
        rcases exists_of_mem_alter mem with kept | ⟨same, -⟩
        · exact after entry kept
        · rw [same]
          exact Std.lt_of_le_of_ne (String.not_lt.mp notBefore) differ

theorem orderedIn_of_forall (h : ∀ entry ∈ entries, entry.2.Ordered) : OrderedIn entries := by
  induction entries with
  | nil => exact trivial
  | cons first rest ih =>
    obtain ⟨now, later⟩ := List.forall_mem_cons.mp h
    exact ⟨now, ih later⟩

/-- Trees stay in order whatever is put into them. -/
theorem Ordered.put (ordered : tree.Ordered) (newOrdered : new.Ordered) :
    (FileTree.put new names tree).Ordered := by
  induction names generalizing tree with
  | nil => exact newOrdered
  | cons name names ih =>
    cases tree with
    | file content => exact ordered_file content
    | directory entries =>
      refine ⟨pairwise_alter ordered.1, orderedIn_of_forall fun entry mem => ?_⟩
      rcases exists_of_mem_alter mem with kept | ⟨-, old?, changed, none | ⟨old, kept, given⟩⟩
      · exact ordered.2.of_mem kept
      · rw [changed, none]
        exact ih ordered_empty
      · rw [changed, given]
        exact ih (ordered.2.of_mem kept)

/-! What is seen of a tree from outside. -/

/-- What a file holds. -/
def content? : FileTree → Option Content
  | file content => some content
  | directory _ => none

/-- What is at a location: a file with what it holds, or a directory. -/
def look? (location : List String) (tree : FileTree) : Option (Option Content) :=
  (tree.find? location).map content?

theorem look?_eq_file_iff :
    look? location tree = some (some content) ↔ tree.find? location = some (.file content) := by
  unfold look?
  cases tree.find? location with
  | none => simp
  | some below => cases below <;> simp [content?]

theorem isFile_iff_look? : tree.IsFile location ↔ ∃ content, look? location tree = some (some content) :=
  exists_congr fun _ => look?_eq_file_iff.symm

theorem isSome_look? : (look? location tree).isSome = (tree.find? location).isSome :=
  Option.isSome_map

/-- A file that is put in the place of another one. -/
theorem look?_put (ordered : tree.Ordered) (isFile : tree.IsFile location) (at_ : List String) :
    look? at_ (put (.file content) location tree) =
      if at_ = location then some (some content) else look? at_ tree := by
  induction location generalizing tree at_ with
  | nil =>
    obtain ⟨old, found⟩ := isFile
    obtain rfl := Option.some.inj found
    cases at_ with
    | nil => rfl
    | cons name names => rfl
  | cons name names ih =>
    obtain ⟨old, found⟩ := isFile
    obtain ⟨below, known, deeper⟩ := Option.bind_eq_some_iff.mp found
    cases tree with
    | file content => cases known
    | directory entries =>
      change entries.lookup name = some below at known
      cases at_ with
      | nil => rfl
      | cons other at_ =>
        have next := ih (ordered.2.of_mem (mem_of_lookup known)) ⟨old, deeper⟩ at_
        simp only [look?, put, find?, FileTree.entries] at next ⊢
        rw [lookup_alter ordered.1, known]
        by_cases same : name = other
        · subst same
          rw [if_pos rfl, known]
          simpa using next
        · simp [same, Ne.symm same]

end SwiftStyle.FileTree
