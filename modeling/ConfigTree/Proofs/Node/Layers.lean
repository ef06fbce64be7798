import ConfigTree.Proofs.Node.Lookup

namespace ConfigTree

namespace Value

theorem merge_self {x : Value} (hx : x.Sorted) : x.merge x = x := by
  induction hx with
  | leaf hx => exact merge_of_isNode_false hx _
  | @node a ha _ ih =>
    rw [merge_node_node, Value.node.injEq]
    refine Node.eq_of_find?_eq (ha.mergeEntries a) ha fun k => ?_
    rw [Node.find?_mergeEntries ha.nodup]
    cases hk : a.find? k with
    | none => rfl
    | some v => simp [ih (k, v) (Node.mem_of_find?_eq_some hk)]

end Value

namespace Node

theorem empty_sorted : empty.Sorted := .node List.Pairwise.nil (by simp [empty])

theorem empty_mergeEntries {a : Node} (ha : a.KeysOrdered) : empty.mergeEntries a = a := by
  have hempty : empty.KeysOrdered := List.Pairwise.nil
  refine eq_of_find?_eq (hempty.mergeEntries a) ha fun k => ?_
  rw [find?_mergeEntries ha.nodup]
  simp [empty]

theorem mergeEntries_self {a : Node} (ha : a.Sorted) : a.mergeEntries a = a :=
  Value.node.inj (Value.merge_self ha)

theorem merge_append (base : Node) (xs ys : List Node) :
    base.merge (xs ++ ys) = (base.merge xs).merge ys :=
  List.foldl_append

theorem Sorted.merge {base : Node} (hb : base.Sorted) {ns : List Node}
    (hns : ∀ n ∈ ns, n.Sorted) : (base.merge ns).Sorted := by
  induction ns generalizing base with
  | nil => exact hb
  | cons n ns ih =>
    exact ih (hb.mergeEntries (hns n List.mem_cons_self)) fun m hm =>
      hns m (List.mem_cons_of_mem _ hm)

theorem Sorted.mergeAll {ns : List Node} (hns : ∀ n ∈ ns, n.Sorted) : (mergeAll ns).Sorted :=
  empty_sorted.merge hns

theorem merge_eq_mergeEntries_mergeAll {base : Node} (hb : base.Sorted) {ns : List Node}
    (hns : ∀ n ∈ ns, n.Sorted) : base.merge ns = base.mergeEntries (mergeAll ns) := by
  induction ns generalizing base with
  | nil => exact (mergeEntries_nil base).symm
  | cons n ns ih =>
    have hn : n.Sorted := hns n List.mem_cons_self
    have hrest : ∀ m ∈ ns, m.Sorted := fun m hm => hns m (List.mem_cons_of_mem _ hm)
    -- the first layer joins either the base or the merge of the others; associativity moves it
    have hfirst : mergeAll (n :: ns) = n.mergeEntries (mergeAll ns) := by
      rw [mergeAll, merge, List.foldl_cons, empty_mergeEntries hn.keysOrdered]
      exact ih hn hrest
    calc base.merge (n :: ns)
        = (base.mergeEntries n).mergeEntries (mergeAll ns) := ih (hb.mergeEntries hn) hrest
      _ = base.mergeEntries (n.mergeEntries (mergeAll ns)) :=
          mergeEntries_assoc hb hn (Sorted.mergeAll hrest)
      _ = base.mergeEntries (mergeAll (n :: ns)) := by rw [hfirst]

theorem merge_flatten {base : Node} (hb : base.Sorted) {groups : List (List Node)}
    (hgroups : ∀ g ∈ groups, ∀ n ∈ g, n.Sorted) :
    base.merge groups.flatten = base.merge (groups.map mergeAll) := by
  induction groups generalizing base with
  | nil => rfl
  | cons g groups ih =>
    have hg : ∀ n ∈ g, n.Sorted := hgroups g List.mem_cons_self
    have hrest : ∀ h ∈ groups, ∀ n ∈ h, n.Sorted := fun h hh => hgroups h (List.mem_cons_of_mem _ hh)
    rw [List.flatten_cons, merge_append, ih (hb.merge hg) hrest,
      merge_eq_mergeEntries_mergeAll hb hg]
    rfl

/-- Merging is a monoid on nodes whose keys are ordered at every level, and each node is idempotent:
grouping merges either way gives the same tree, merging two layers in one call is merging them one
after the other, the empty node is a two-sided identity, a node merged into itself is unchanged,
merging a list of nodes is the left fold of binary merges from the empty node, and so a list of
layers may be split into groups merged first. -/
theorem merge_layers_form_idempotent_monoid (A B C : Node) (hA : A.Sorted) (hB : B.Sorted)
    (hC : C.Sorted) :
    (A.merge [B]).merge [C] = A.merge [B.merge [C]] ∧
      A.merge [B.merge [C]] = A.merge [B, C] ∧
      empty.merge [A] = A ∧ A.merge [empty] = A ∧
      A.merge [A] = A ∧
      (∀ ns : List Node, mergeAll ns = ns.foldl (fun acc n => acc.merge [n]) empty) ∧
      (∀ groups : List (List Node), (∀ g ∈ groups, ∀ n ∈ g, n.Sorted) →
        A.merge groups.flatten = A.merge (groups.map mergeAll)) := by
  have hassoc : (A.merge [B]).merge [C] = A.merge [B.merge [C]] := mergeEntries_assoc hA hB hC
  refine ⟨hassoc, ?_, empty_mergeEntries hA.keysOrdered, mergeEntries_nil A, mergeEntries_self hA,
    fun _ => rfl, fun _ hgroups => merge_flatten hA hgroups⟩
  rw [← hassoc]
  rfl

theorem merge_layers_form_idempotent_monoid_nested_layers :
    let A : Node := [("a", .node [("x", .int 1)]), ("b", .str "scalar")]
    let B : Node := [("a", .node [("x", .int 3), ("y", .int 2)]), ("b", .node [("inner", .bool true)])]
    let C : Node := [("a", .str "flat")]
    (A.Sorted ∧ B.Sorted ∧ C.Sorted) ∧
      ((A.merge [B]).merge [C] = A.merge [B.merge [C]] ∧
        A.merge [B.merge [C]] = A.merge [B, C] ∧
        empty.merge [A] = A ∧ A.merge [empty] = A ∧
        A.merge [A] = A ∧
        (∀ ns : List Node, mergeAll ns = ns.foldl (fun acc n => acc.merge [n]) empty) ∧
        (∀ groups : List (List Node), (∀ g ∈ groups, ∀ n ∈ g, n.Sorted) →
          A.merge groups.flatten = A.merge (groups.map mergeAll))) := by
  intro A B C
  have hA : A.Sorted := by
    refine .node (by decide) fun e he => ?_
    simp only [A, List.mem_cons, List.not_mem_nil, or_false] at he
    rcases he with rfl | rfl
    · exact .node (by decide) fun e he => by simp only [List.mem_singleton] at he; exact he ▸ .leaf rfl
    · exact .leaf rfl
  have hB : B.Sorted := by
    refine .node (by decide) fun e he => ?_
    simp only [B, List.mem_cons, List.not_mem_nil, or_false] at he
    rcases he with rfl | rfl
    · refine .node (by decide) fun e he => ?_
      simp only [List.mem_cons, List.not_mem_nil, or_false] at he
      rcases he with rfl | rfl <;> exact .leaf rfl
    · exact .node (by decide) fun e he => by simp only [List.mem_singleton] at he; exact he ▸ .leaf rfl
  have hC : C.Sorted :=
    .node (by decide) fun e he => by simp only [C, List.mem_singleton] at he; exact he ▸ .leaf rfl
  exact ⟨⟨hA, hB, hC⟩, merge_layers_form_idempotent_monoid A B C hA hB hC⟩

end Node

end ConfigTree
