import ConfigTree.Proofs.Node.Merge

namespace ConfigTree

instance : DecidablePred Node.KeysOrdered := fun n => inferInstanceAs (Decidable (n.Pairwise _))

namespace Node

@[simp] theorem lookupSegments_nil (n : Node) : n.lookupSegments [] = none := rfl

theorem lookupSegments_singleton (n : Node) (k : String) : n.lookupSegments [k] = n.find? k := rfl

theorem lookupSegments_cons_cons (n : Node) (k k2 : String) (rest : List String) :
    n.lookupSegments (k :: k2 :: rest) =
      ((n.find? k).bind Value.asNode?).bind (·.lookupSegments (k2 :: rest)) := by
  simp only [lookupSegments]
  rcases n.find? k with _ | v
  · rfl
  · cases v <;> rfl

@[simp] theorem lookupSegments_empty (path : List String) : empty.lookupSegments path = none := by
  match path with
  | [] => rfl
  | [_] => rfl
  | _ :: _ :: _ => rfl

theorem descend_merge {rest : List String}
    (ih : ∀ c d : Node, d.Sorted → (c.mergeEntries d).lookupSegments rest =
      Option.merge Value.merge (c.lookupSegments rest) (d.lookupSegments rest))
    {o₁ o₂ : Option Value} (h₂ : ∀ y ∈ o₂, y.Sorted) :
    ((Option.merge Value.merge o₁ o₂).bind Value.asNode?).bind (·.lookupSegments rest) =
      Option.merge Value.merge ((o₁.bind Value.asNode?).bind (·.lookupSegments rest))
        ((o₂.bind Value.asNode?).bind (·.lookupSegments rest)) := by
  rcases o₁ with _ | x <;> rcases o₂ with _ | y
  · rfl
  · simp
  · simp
  · have hy : y.Sorted := h₂ y rfl
    rcases x.eq_node_or_isNode_false with ⟨c, rfl⟩ | hx
    · rcases y.eq_node_or_isNode_false with ⟨d, rfl⟩ | hy'
      · simpa using ih c d hy
      · simp [Value.merge_node_of_isNode_false c hy', Value.asNode?_eq_none hy']
    · simp [Value.merge_of_isNode_false hx, Value.asNode?_eq_none hx]

theorem lookupSegments_mergeEntries {b : Node} (hb : b.Sorted) (a : Node) (path : List String) :
    (a.mergeEntries b).lookupSegments path =
      Option.merge Value.merge (a.lookupSegments path) (b.lookupSegments path) := by
  induction path generalizing a b with
  | nil => simp
  | cons k rest ih =>
    cases rest with
    | nil => exact find?_mergeEntries hb.keysOrdered.nodup a k
    | cons k2 rest =>
      simp only [lookupSegments_cons_cons, find?_mergeEntries hb.keysOrdered.nodup]
      exact descend_merge (fun c d hd => ih hd c) fun y hy => hb.of_mem (mem_of_find?_eq_some hy)

theorem lookup_merge_fold {ns : List Node} (hns : ∀ n ∈ ns, n.Sorted) (base : Node)
    (path : String) :
    (base.merge ns).lookup path =
      ns.foldl (fun acc n => Option.merge Value.merge acc (n.lookup path)) (base.lookup path) := by
  induction ns generalizing base with
  | nil => rfl
  | cons n ns ih =>
    have hn : n.Sorted := hns n List.mem_cons_self
    have hstep : (base.mergeEntries n).lookup path =
        Option.merge Value.merge (base.lookup path) (n.lookup path) :=
      lookupSegments_mergeEntries hn base (segments path)
    rw [List.foldl_cons, ← hstep]
    exact ih (fun m hm => hns m (List.mem_cons_of_mem _ hm)) (base.mergeEntries n)

/-- Lookups distribute over merging: along any dotted path, merging `B` into `A` holds the merge of
what `A` and `B` hold there, or whichever of them holds something; and the merge of a list of layers
holds the left fold of that rule over the layers. -/
theorem lookup_merge_eq_merge_lookups (A B : Node) (ns : List Node) (path : String)
    (hB : B.Sorted) (hns : ∀ n ∈ ns, n.Sorted) :
    (A.merge [B]).lookup path = Option.merge Value.merge (A.lookup path) (B.lookup path) ∧
      (mergeAll ns).lookup path =
        ns.foldl (fun acc n => Option.merge Value.merge acc (n.lookup path)) none := by
  refine ⟨lookupSegments_mergeEntries hB A (segments path), ?_⟩
  have hbase : empty.lookup path = none := lookupSegments_empty (segments path)
  rw [mergeAll, lookup_merge_fold hns, hbase]

theorem lookup_merge_eq_merge_lookups_two_layers :
    Sorted [("a", .node [("c", .int 2)])] ∧
      (∀ n ∈ [[("a", .node [("b", .int 1)])], [("a", .node [("c", .int 2)])]], Sorted n) ∧
      ((merge [("a", .node [("b", .int 1)])] [[("a", .node [("c", .int 2)])]]).lookup "a.c" =
          Option.merge Value.merge (lookup [("a", .node [("b", .int 1)])] "a.c")
            (lookup [("a", .node [("c", .int 2)])] "a.c") ∧
        (mergeAll [[("a", .node [("b", .int 1)])], [("a", .node [("c", .int 2)])]]).lookup "a.c" =
          [[("a", .node [("b", .int 1)])], [("a", .node [("c", .int 2)])]].foldl
            (fun acc (n : Node) => Option.merge Value.merge acc (n.lookup "a.c")) none) := by
  have hA : Sorted [("a", .node [("b", .int 1)])] :=
    .node (by decide) (by simpa using .node (by decide) (by simpa using .leaf rfl))
  have hB : Sorted [("a", .node [("c", .int 2)])] :=
    .node (by decide) (by simpa using .node (by decide) (by simpa using .leaf rfl))
  have hns : ∀ n ∈ [[("a", .node [("b", .int 1)])], [("a", .node [("c", .int 2)])]], Sorted n := by
    simp [hA, hB]
  exact ⟨hB, hns, lookup_merge_eq_merge_lookups [("a", .node [("b", .int 1)])] _ _ "a.c" hB hns⟩

end Node

end ConfigTree
