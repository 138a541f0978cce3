import SwiftStyle.Declaration

/-!
Declarations whose children stand inside them, one after the other. Both walks of such a tree meet
the declarations by where they start.
-/

namespace SwiftStyle.Declaration

theorem preorder_eq (d : Declaration) : d.preorder = d :: preorderAll d.children := by
  cases d; rfl

@[simp]
theorem preorderAll_append (ds es : List Declaration) :
    preorderAll (ds ++ es) = preorderAll ds ++ preorderAll es := by
  induction ds with
  | nil => rfl
  | cons d ds ih => simp [preorderAll, ih]

theorem walkStack_eq_preorderAll (stack : List Declaration) :
    walkStack stack = preorderAll stack := by
  fun_induction walkStack stack with
  | case1 => rfl
  | case2 d stack ih => rw [ih, preorderAll_append, preorderAll, preorder_eq, List.cons_append]

theorem walk_eq_preorder (d : Declaration) : d.walk = d.preorder := by
  rw [walk, walkStack_eq_preorderAll, preorderAll, preorderAll, List.append_nil]

theorem mem_walkStack_of_mem {stack : List Declaration} {d : Declaration} (h : d ∈ stack) :
    d ∈ walkStack stack := by
  fun_induction walkStack stack with
  | case1 => exact h
  | case2 top stack ih =>
    rcases List.mem_cons.mp h with rfl | below
    · exact List.mem_cons_self
    · exact List.mem_cons_of_mem _ (ih (List.mem_append_right _ below))

theorem mem_walkStack_of_child {stack : List Declaration} {d child : Declaration}
    (visited : d ∈ walkStack stack) (inside : child ∈ d.children) : child ∈ walkStack stack := by
  fun_induction walkStack stack with
  | case1 => exact absurd visited List.not_mem_nil
  | case2 top stack ih =>
    rcases List.mem_cons.mp visited with rfl | later
    · exact List.mem_cons_of_mem _ (mem_walkStack_of_mem (List.mem_append_left _ inside))
    · exact List.mem_cons_of_mem _ (ih later)

theorem exists_parent_of_mem_walkStack {stack : List Declaration} {d : Declaration}
    (visited : d ∈ walkStack stack) :
    d ∈ stack ∨ ∃ parent ∈ walkStack stack, d ∈ parent.children := by
  fun_induction walkStack stack with
  | case1 => exact .inl visited
  | case2 top stack ih =>
    rcases List.mem_cons.mp visited with rfl | later
    · exact .inl List.mem_cons_self
    rcases ih later with below | ⟨parent, mem, child⟩
    · rcases List.mem_append.mp below with child | onStack
      · exact .inr ⟨top, List.mem_cons_self, child⟩
      · exact .inl (List.mem_cons_of_mem _ onStack)
    · exact .inr ⟨parent, List.mem_cons_of_mem _ mem, child⟩

/-- What holds of the declarations on a stack and passes on to children holds of all visited. -/
theorem forall_mem_walkStack {P : Declaration → Prop}
    (passes : ∀ d, P d → ∀ child ∈ d.children, P child) {stack : List Declaration}
    (holds : ∀ d ∈ stack, P d) : ∀ d ∈ walkStack stack, P d := by
  fun_induction walkStack stack with
  | case1 => exact holds
  | case2 top stack ih =>
    obtain ⟨onTop, below⟩ := List.forall_mem_cons.mp holds
    refine List.forall_mem_cons.mpr ⟨onTop, ih fun d hd => ?_⟩
    exact (List.mem_append.mp hd).elim (passes top onTop d) (below d)

mutual

/-- Whether all children in a tree stand inside their parents, one after the other. -/
def Nested : Declaration → Prop
  | ⟨_, _, offset, length, _, _, _, children⟩ => NestedIn offset (offset + length) children

/-- Whether trees stand one after the other between two offsets. -/
def NestedIn (start stop : Nat) : List Declaration → Prop
  | [] => start ≤ stop
  | d :: ds => start ≤ d.offset ∧ Nested d ∧ NestedIn d.stop stop ds

end

theorem nested_iff (d : Declaration) : d.Nested ↔ NestedIn d.offset d.stop d.children := by
  cases d; rfl

theorem offset_le_stop (d : Declaration) : d.offset ≤ d.stop := Nat.le_add_right _ _

theorem NestedIn.le {start stop : Nat} {ds : List Declaration} (h : NestedIn start stop ds) :
    start ≤ stop := by
  induction ds generalizing start with
  | nil => exact h
  | cons d ds ih =>
    have := ih h.2.2
    have := d.offset_le_stop
    have := h.1
    omega

theorem NestedIn.append {start middle stop : Nat} {ds es : List Declaration}
    (h : NestedIn start middle ds) (h' : NestedIn middle stop es) :
    NestedIn start stop (ds ++ es) := by
  induction ds generalizing start with
  | nil =>
    cases es with
    | nil => exact Nat.le_trans h h'
    | cons e es => exact ⟨Nat.le_trans h h'.1, h'.2⟩
  | cons d ds ih => exact ⟨h.1, h.2.1, ih h.2.2⟩

theorem NestedIn.lower {start start' stop : Nat} {ds : List Declaration}
    (h : NestedIn start stop ds) (earlier : start' ≤ start) : NestedIn start' stop ds := by
  have before : NestedIn start' start [] := earlier
  exact before.append h

theorem NestedIn.mono {start stop stop' : Nat} {ds : List Declaration}
    (h : NestedIn start stop ds) (later : stop ≤ stop') : NestedIn start stop' ds := by
  have after : NestedIn stop stop' [] := later
  simpa using h.append after

theorem NestedIn.raise {start start' stop : Nat} {ds : List Declaration}
    (h : NestedIn start stop ds) (le : start' ≤ stop) (starts : ∀ d ∈ ds, start' ≤ d.offset) :
    NestedIn start' stop ds := by
  cases ds with
  | nil => exact le
  | cons d ds => exact ⟨starts d (by simp), h.2⟩

/-- Trees between two offsets start, stop and nest between them. -/
theorem NestedIn.spec {start stop : Nat} {ds : List Declaration} (h : NestedIn start stop ds) :
    ∀ d ∈ ds, d.Nested ∧ start ≤ d.offset ∧ d.stop ≤ stop := by
  induction ds generalizing start with
  | nil => simp
  | cons d ds ih =>
    intro e he
    rcases List.mem_cons.mp he with rfl | he
    · exact ⟨h.2.1, h.1, h.2.2.le⟩
    · obtain ⟨nested, first, last⟩ := ih h.2.2 e he
      have := d.offset_le_stop
      have := h.1
      exact ⟨nested, by omega, last⟩

mutual

/-- Every declaration in a nested tree covers its children, and the tree is met by offsets. -/
theorem Nested.preorder_spec : (d : Declaration) → d.Nested →
    (∀ e ∈ d.preorder, ∀ c ∈ e.children, e.offset ≤ c.offset ∧ c.stop ≤ e.stop) ∧
      d.preorder.Pairwise (fun a b => a.offset ≤ b.offset) ∧
      ∀ e ∈ d.preorder, d.offset ≤ e.offset ∧ e.offset ≤ d.stop
  | ⟨kind, name, offset, length, access, documentation, inherits, children⟩, h => by
    obtain ⟨covers, sorted, within⟩ := NestedIn.preorderAll_spec children h
    rw [preorder_eq]
    refine ⟨?_, List.pairwise_cons.mpr ⟨fun e he => (within e he).1, sorted⟩, ?_⟩
    · rintro e he c hc
      rcases List.mem_cons.mp he with rfl | he
      · exact (NestedIn.spec h c hc).2
      · exact covers e he c hc
    · intro e he
      rcases List.mem_cons.mp he with rfl | he
      · exact ⟨Nat.le_refl _, offset_le_stop _⟩
      · exact within e he

theorem NestedIn.preorderAll_spec {start stop : Nat} : (ds : List Declaration) →
    NestedIn start stop ds →
      (∀ e ∈ preorderAll ds, ∀ c ∈ e.children, e.offset ≤ c.offset ∧ c.stop ≤ e.stop) ∧
        (preorderAll ds).Pairwise (fun a b => a.offset ≤ b.offset) ∧
        ∀ e ∈ preorderAll ds, start ≤ e.offset ∧ e.offset ≤ stop
  | [], _ => by simp [preorderAll]
  | d :: ds, h => by
    obtain ⟨covers, sorted, within⟩ := Nested.preorder_spec d h.2.1
    obtain ⟨covers', sorted', within'⟩ := NestedIn.preorderAll_spec ds h.2.2
    have first := h.1
    have last := h.2.2.le
    have ordered := d.offset_le_stop
    simp only [preorderAll, List.mem_append]
    refine ⟨?_, List.pairwise_append.mpr ⟨sorted, sorted', ?_⟩, ?_⟩
    · rintro e (he | he)
      · exact covers e he
      · exact covers' e he
    · intro a ha b hb
      exact Nat.le_trans (within a ha).2 (within' b hb).1
    · rintro e (he | he)
      · have := within e he
        omega
      · have := within' e he
        omega

end

end SwiftStyle.Declaration
