import Mathlib.Data.Finset.Card
import SwiftStyle.Declaration.Index
import SwiftStyle.Proofs.Declaration.Nesting
import SwiftStyle.Proofs.Lists

/-!
What the index of several trees holds: for each name the members of all types of that name, in the
order in which the trees and the types in them come. The names it knows are those of the types, each
of them once, whether they have members or not.
-/

namespace SwiftStyle.DeclarationIndex

/-- The members that one declaration adds to the entry of a type. -/
def membersFrom (type : String) (d : Declaration) : List String :=
  if d.kind.isType = true ∧ d.name = some type then d.memberNames else []

theorem mem_membersFrom_iff {type member : String} {d : Declaration} :
    member ∈ membersFrom type d ↔
      d.kind.isType = true ∧ d.name = some type ∧ ∃ m ∈ d.children, m.name = some member := by
  unfold membersFrom
  split
  · next declares => simp [declares, Declaration.memberNames]
  · next other =>
    constructor
    · intro impossible
      cases impossible
    · rintro ⟨isType, named, -⟩
      exact absurd ⟨isType, named⟩ other

theorem lookup_addMembers (type asked : String) (members : List String)
    (entries : List (String × List String)) :
    ((addMembers type members entries).lookup asked).getD []
      = (entries.lookup asked).getD [] ++ if type = asked then members else [] := by
  induction entries with
  | nil =>
    rw [addMembers, lookup_cons_eq]
    by_cases same : type = asked
    · simp only [if_pos same, List.lookup_nil, Option.getD_some, Option.getD_none,
        List.nil_append]
    · simp only [if_neg same, List.lookup_nil, Option.getD_none, List.nil_append]
  | cons entry entries ih =>
    obtain ⟨known, old⟩ := entry
    rw [addMembers]
    split
    · next same =>
      subst same
      rw [lookup_cons_eq, lookup_cons_eq]
      by_cases same : known = asked
      · simp only [if_pos same, Option.getD_some]
      · simp only [if_neg same, List.append_nil]
    · next differs =>
      rw [lookup_cons_eq, lookup_cons_eq]
      by_cases same : known = asked
      · have elsewhere : type ≠ asked := fun other => differs (same.trans other.symm)
        simp only [if_pos same, if_neg elsewhere, List.append_nil]
      · simp only [if_neg same]
        exact ih

theorem membersOf_record (index : DeclarationIndex) (d : Declaration) (type : String) :
    (index.record d).membersOf type = index.membersOf type ++ membersFrom type d := by
  unfold record membersFrom membersOf
  cases d.name with
  | none => simp
  | some name =>
    by_cases isType : d.kind.isType = true
    · simp only [isType, if_true, lookup_addMembers, true_and, Option.some.injEq]
    · simp [isType]

theorem membersOf_foldl_record (index : DeclarationIndex) (ds : List Declaration)
    (type : String) :
    (ds.foldl record index).membersOf type
      = index.membersOf type ++ ds.flatMap (membersFrom type) := by
  induction ds generalizing index with
  | nil => simp
  | cons d ds ih =>
    rw [List.foldl_cons, ih, membersOf_record, List.append_assoc, List.flatMap_cons]

theorem membersOf_foldl_insert (index : DeclarationIndex) (roots : List Declaration)
    (type : String) :
    (roots.foldl insert index).membersOf type
      = index.membersOf type
        ++ roots.flatMap fun root => root.preorder.flatMap (membersFrom type) := by
  induction roots generalizing index with
  | nil => simp
  | cons root roots ih =>
    rw [List.foldl_cons, ih, insert, membersOf_foldl_record, Declaration.walk_eq_preorder,
      List.append_assoc, List.flatMap_cons]

/-- The entry of a type holds what its declarations add, tree by tree and in preorder. -/
theorem membersOf_ofTrees (roots : List Declaration) (type : String) :
    (ofTrees roots).membersOf type
      = roots.flatMap fun root => root.preorder.flatMap (membersFrom type) :=
  membersOf_foldl_insert empty roots type

/-! The names that are known. -/

/-- The name that a declaration is recorded under, if it is a type and has one. -/
def typeName? (d : Declaration) : Option String := if d.kind.isType then d.name else none

/-- The names of the types in several trees. -/
def typeNames (roots : List Declaration) : List String :=
  (roots.flatMap Declaration.preorder).filterMap typeName?

def names (index : DeclarationIndex) : List String := index.entries.map Prod.fst

theorem map_fst_addMembers (type : String) (members : List String)
    (entries : List (String × List String)) :
    (addMembers type members entries).map Prod.fst =
      if type ∈ entries.map Prod.fst then entries.map Prod.fst
      else entries.map Prod.fst ++ [type] := by
  induction entries with
  | nil => rfl
  | cons entry entries ih =>
    obtain ⟨known, old⟩ := entry
    rw [addMembers]
    by_cases same : known = type
    · simp [same]
    · rw [if_neg same, List.map_cons, List.map_cons, ih]
      by_cases later : type ∈ entries.map Prod.fst
      · rw [if_pos later, if_pos (List.mem_cons_of_mem _ later)]
      · rw [if_neg later, if_neg, List.cons_append]
        exact fun mem => (List.mem_cons.mp mem).elim (Ne.symm same) later

/-- Recording a declaration adds its name to those that were seen. -/
theorem names_record {index : DeclarationIndex} {seen : List String}
    (known : index.names = seen.eraseDups) (d : Declaration) :
    (index.record d).names = (seen ++ (typeName? d).toList).eraseDups := by
  unfold record typeName?
  cases d.name with
  | none => simpa using known
  | some name =>
    cases d.kind.isType with
    | false => simpa using known
    | true =>
      have added := map_fst_addMembers name d.memberNames index.entries
      rw [show index.entries.map Prod.fst = seen.eraseDups from known] at added
      simp only [List.mem_eraseDups] at added
      exact added.trans (eraseDups_concat seen name).symm

theorem names_foldl_record {index : DeclarationIndex} {seen : List String}
    (known : index.names = seen.eraseDups) (ds : List Declaration) :
    (ds.foldl record index).names = (seen ++ ds.filterMap typeName?).eraseDups := by
  induction ds generalizing index seen with
  | nil => simpa using known
  | cons d ds ih =>
    rw [List.foldl_cons, ih (names_record known d), List.append_assoc]
    cases found : typeName? d with
    | none => rw [List.filterMap_cons_none found, Option.toList_none, List.nil_append]
    | some name => rw [List.filterMap_cons_some found, Option.toList_some, List.singleton_append]

theorem names_foldl_insert {index : DeclarationIndex} {seen : List String}
    (known : index.names = seen.eraseDups) (roots : List Declaration) :
    (roots.foldl insert index).names = (seen ++ typeNames roots).eraseDups := by
  unfold typeNames
  induction roots generalizing index seen with
  | nil => simpa using known
  | cons root roots ih =>
    have step : (index.insert root).names =
        (seen ++ root.preorder.filterMap typeName?).eraseDups := by
      rw [insert, Declaration.walk_eq_preorder]
      exact names_foldl_record known root.preorder
    rw [List.foldl_cons, ih step, List.flatMap_cons, List.filterMap_append, List.append_assoc]

theorem size_ofTrees (roots : List Declaration) :
    (ofTrees roots).size = (typeNames roots).toFinset.card := by
  have known : (ofTrees roots).names = (typeNames roots).eraseDups :=
    @names_foldl_insert empty [] rfl roots
  calc (ofTrees roots).size
      = (ofTrees roots).names.length := (List.length_map _).symm
    _ = (ofTrees roots).names.toFinset.card := by
        rw [List.toFinset_card_of_nodup (known ▸ nodup_eraseDups _)]
    _ = (typeNames roots).toFinset.card := by
        congr 1
        ext name
        rw [List.mem_toFinset, List.mem_toFinset, known, List.mem_eraseDups]

/-! The table of members. -/

/-- What the types of a name declare directly inside, tree by tree and in preorder. -/
def declaredMembers (roots : List Declaration) (type : String) : List String :=
  roots.flatMap fun root =>
    (root.preorder.filter fun d => d.kind.isType ∧ d.name = some type).flatMap fun d =>
      d.children.filterMap Declaration.name

theorem flatMap_membersFrom (type : String) (ds : List Declaration) :
    ds.flatMap (membersFrom type) =
      (ds.filter fun d => d.kind.isType ∧ d.name = some type).flatMap fun d =>
        d.children.filterMap Declaration.name := by
  induction ds with
  | nil => rfl
  | cons d ds ih =>
    rw [List.flatMap_cons, ih, membersFrom]
    by_cases declares : d.kind.isType = true ∧ d.name = some type
    · rw [if_pos declares, List.filter_cons_of_pos (by simpa using declares), List.flatMap_cons]
      rfl
    · rw [if_neg declares, List.filter_cons_of_neg (by simpa using declares), List.nil_append]

theorem membersOf_ofTrees_eq (roots : List Declaration) (type : String) :
    (ofTrees roots).membersOf type = declaredMembers roots type := by
  rw [membersOf_ofTrees, declaredMembers]
  exact List.flatMap_congr fun root _ => flatMap_membersFrom type root.preorder

/-- The index of trees, made at once or tree by tree, is the table of what their types declare. It
knows the names of all types, and a declaration inherits what the table has for each name in its
clause, one name after the other. -/
theorem index_is_member_table (roots : List Declaration) :
    (∀ type, (ofTrees roots).membersOf type = declaredMembers roots type) ∧
      (ofTrees roots).size = (typeNames roots).toFinset.card ∧
      (ofTrees [] = empty ∧ ∀ root, ofTrees (roots ++ [root]) = (ofTrees roots).insert root) ∧
      ∀ d : Declaration, (ofTrees roots).inheritedMembers d =
        d.inherits.flatMap (declaredMembers roots) := by
  refine ⟨membersOf_ofTrees_eq roots, size_ofTrees roots, ⟨rfl, ?_⟩, ?_⟩
  · intro root
    exact List.foldl_concat insert empty root roots
  · intro d
    exact List.flatMap_congr fun type _ => membersOf_ofTrees_eq roots type

end SwiftStyle.DeclarationIndex
