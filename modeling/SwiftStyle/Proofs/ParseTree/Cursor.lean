import SwiftStyle.Proofs.ParseTree.Nesting

/-!
The token stream by a cursor that only moves to a first child, to a next sibling and to a parent.
What is left to do at a place are its node, the siblings after it and those after each of its
ancestors; a round of the loop takes the first of these away or puts its children in its place, so
the loop ends, and it makes the tokens that the stack of nodes makes.
-/

namespace SwiftStyle.ParseTree

/-- A place in a tree. -/
structure Cursor where
  node : ParseTree
  /-- The siblings after the node. -/
  right : List ParseTree
  /-- The ancestors of the node, nearest first, each with the siblings after it. -/
  above : List (ParseTree × List ParseTree)

namespace Cursor

/-- The place from which all of a tree is visited. It has no siblings and no parent. -/
def top (root : ParseTree) : Cursor := ⟨root, [], []⟩

def firstChild? (c : Cursor) : Option Cursor :=
  match c.node.children with
  | [] => none
  | child :: others => some ⟨child, others, (c.node, c.right) :: c.above⟩

def nextSibling? (c : Cursor) : Option Cursor :=
  match c.right with
  | [] => none
  | next :: others => some ⟨next, others, c.above⟩

def parent? (c : Cursor) : Option Cursor :=
  match c.above with
  | [] => none
  | (node, right) :: above => some ⟨node, right, above⟩

theorem firstChild?_eq_none_iff {c : Cursor} : c.firstChild? = none ↔ c.node.children = [] := by
  unfold firstChild?
  split
  · next none => simp [none]
  · next some => simp [some]

theorem nextSibling?_eq_none_iff {c : Cursor} : c.nextSibling? = none ↔ c.right = [] := by
  unfold nextSibling?
  split
  · next none => simp [none]
  · next some => simp [some]

theorem parent?_eq_none_iff {c : Cursor} : c.parent? = none ↔ c.above = [] := by
  unfold parent?
  split
  · next none => simp [none]
  · next some => simp [some]

theorem length_above_of_parent? {c parent : Cursor} (h : c.parent? = some parent) :
    parent.above.length < c.above.length := by
  unfold parent? at h
  split at h
  · cases h
  · next node right above ancestors =>
    cases h
    simp [ancestors]

/-- Climbs until there is a next sibling to go to. At the top there is none. -/
def climb (c : Cursor) : Option Cursor :=
  match c.nextSibling? with
  | some next => some next
  | none =>
    match _moved : c.parent? with
    | some parent => climb parent
    | none => none
termination_by c.above.length
decreasing_by exact length_above_of_parent? _moved

/-- The nodes that are left to visit, each with all that it holds. -/
def pending (c : Cursor) : List ParseTree := c.node :: c.right ++ c.above.flatMap Prod.snd

theorem pending_of_firstChild? {c child : Cursor} (h : c.firstChild? = some child) :
    child.pending = c.node.children ++ c.pending.tail := by
  unfold firstChild? at h
  split at h
  · cases h
  · next first others children =>
    cases h
    simp [pending, children]

/-- Climbing leaves out the node where it starts and nothing else. -/
theorem pending_of_climb (c : Cursor) :
    (c.climb.map pending).getD [] = c.pending.tail := by
  fun_induction climb c with
  | case1 c next moved =>
    unfold nextSibling? at moved
    split at moved
    · cases moved
    · next first others siblings =>
      cases moved
      simp [pending, siblings]
  | case2 c last parent moved ih =>
    have alone := nextSibling?_eq_none_iff.mp last
    unfold parent? at moved
    split at moved
    · cases moved
    · next node right above ancestors =>
      cases moved
      rw [ih]
      simp [pending, alone, ancestors]
  | case3 c last atTop =>
    simp [pending, nextSibling?_eq_none_iff.mp last, parent?_eq_none_iff.mp atTop]

theorem weightAll_climb {c next : Cursor} (h : c.climb = some next) :
    weightAll next.pending < weightAll c.pending := by
  have rest := pending_of_climb c
  rw [h] at rest
  simp only [Option.map_some, Option.getD_some] at rest
  rw [rest]
  simp only [pending, List.cons_append, List.tail_cons, weightAll, weight_eq]
  omega

theorem weightAll_firstChild? {c child : Cursor} (h : c.firstChild? = some child) :
    weightAll child.pending < weightAll c.pending := by
  rw [pending_of_firstChild? h]
  simp only [pending, List.cons_append, List.tail_cons, weightAll, weightAll_append, weight_eq]
  omega

/-- Where the loop goes next: into a node that makes no token as a whole, else on. -/
def next? (source : List Char) (c : Cursor) : Option Cursor :=
  match if (tokenKind? source c.node).isNone then c.firstChild? else none with
  | some child => some child
  | none => c.climb

theorem weightAll_next? {source : List Char} {c next : Cursor} (h : c.next? source = some next) :
    weightAll next.pending < weightAll c.pending := by
  unfold next? at h
  split at h
  · next child inside =>
    cases h
    split at inside
    · exact weightAll_firstChild? inside
    · cases inside
  · exact weightAll_climb h

/-- The loop: adds the token of the node, if it makes one, and goes on until there is nowhere to
go. -/
def collect (source : List Char) (found : List Token) (c : Cursor) : List Token :=
  let found := found ++ ((tokenKind? source c.node).bind fun kind => token? kind c.node).toList
  match _moved : c.next? source with
  | some next => collect source found next
  | none => found
termination_by weightAll c.pending
decreasing_by exact weightAll_next? _moved

/-- One round of the loop, said of the nodes that are left. -/
theorem tokensOfStack_pending (source : List Char) (c : Cursor) :
    tokensOfStack source c.pending =
      ((tokenKind? source c.node).bind fun kind => token? kind c.node).toList ++
        tokensOfStack source (((c.next? source).map pending).getD []) := by
  have parts : c.pending = c.node :: c.pending.tail := rfl
  rw [parts, tokensOfStack, next?]
  cases whole : tokenKind? source c.node with
  | some kind => simp [← pending_of_climb]
  | none =>
    simp only [Option.isNone_none, if_true, Option.bind_none, Option.toList_none, List.nil_append]
    cases inside : c.firstChild? with
    | some child => simp [pending_of_firstChild? inside]
    | none => simp [firstChild?_eq_none_iff.mp inside, pending_of_climb]

/-- The loop makes the tokens of the nodes that are left. -/
theorem collect_eq (source : List Char) (found : List Token) (c : Cursor) :
    collect source found c = found ++ tokensOfStack source c.pending := by
  fun_induction collect source found c with
  | case1 found c before next moved ih =>
    rw [ih, tokensOfStack_pending source c, moved, Option.map_some, Option.getD_some,
      List.append_assoc]
  | case2 found c before stopped =>
    rw [tokensOfStack_pending source c, stopped, Option.map_none, Option.getD_none, tokensOfStack,
      List.append_nil]

theorem collect_top (source : List Char) (root : ParseTree) :
    collect source [] (top root) = tokens source root := by
  rw [collect_eq, List.nil_append, tokens]
  rfl

end Cursor

end SwiftStyle.ParseTree
