import ConfigTree.Proofs.Node.Merge

namespace ConfigTree

namespace Node

/-- The tree that holds `v` at the end of a path of segments and nothing else. -/
def nest : List String → Value → Node
  | [], _ => []
  | [k], v => [(k, v)]
  | k :: k2 :: rest, v => [(k, .node (nest (k2 :: rest) v))]

theorem nest_cons_cons (k k2 : String) (rest : List String) (v : Value) :
    nest (k :: k2 :: rest) v = [(k, .node (nest (k2 :: rest) v))] := rfl

theorem empty_mergeEntries_nest (path : List String) (v : Value) :
    empty.mergeEntries (nest path v) = nest path v := by
  match path with
  | [] => rfl
  | [_] => simp [nest, empty, mergeEntries_cons, mergeEntries_nil, set]
  | _ :: _ :: _ => simp [nest, empty, mergeEntries_cons, mergeEntries_nil, set]

theorem insertPath_eq_mergeEntries_nest (n : Node) (path : List String) (v : Value) :
    n.insertPath path v = n.mergeEntries (nest path v) := by
  induction path generalizing n with
  | nil => simp [insertPath, nest, mergeEntries_nil]
  | cons k rest ih =>
    cases rest with
    | nil =>
      simp only [insertPath, nest, mergeEntries_cons, mergeEntries_nil]
      cases n.find? k <;> rfl
    | cons k2 rest =>
      simp only [insertPath, nest_cons_cons, mergeEntries_cons, mergeEntries_nil]
      -- the child walked into is the node under `k`, or a fresh empty node in place of anything else
      rcases hfind : n.find? k with _ | x
      · simp [ih, empty_mergeEntries_nest]
      · cases x with
        | node c => simp [ih]
        | _ => simp [ih, empty_mergeEntries_nest, Value.merge]

theorem ofPairs_eq_foldl_merge_nest (pairs : List (String × Value)) :
    ofPairs pairs = pairs.foldl (fun acc p => acc.merge [nest (segments p.1) p.2]) empty := by
  simp only [ofPairs, merge_singleton, insertPath_eq_mergeEntries_nest]

theorem ofPairs_singleton (k : String) (v : Value) : ofPairs [(k, v)] = nest (segments k) v := by
  rw [ofPairs_eq_foldl_merge_nest, List.foldl_cons, List.foldl_nil, merge_singleton,
    empty_mergeEntries_nest]

theorem nest_sorted (path : List String) {v : Value} (hv : v.Sorted) : (nest path v).Sorted := by
  induction path with
  | nil => exact .node List.Pairwise.nil (by simp [nest])
  | cons k rest ih =>
    cases rest with
    | nil => exact .node (List.pairwise_singleton _ _) (by simpa [nest] using hv)
    | cons k2 rest =>
      rw [nest_cons_cons]
      exact .node (List.pairwise_singleton _ _) fun e he => by
        rw [List.mem_singleton.mp he]
        exact ih

theorem ofPairs_sorted (pairs : List (String × Value)) (h : ∀ p ∈ pairs, p.2.Sorted) :
    (ofPairs pairs).Sorted := by
  rw [ofPairs_eq_foldl_merge_nest]
  -- every intermediate node is sorted
  suffices ∀ acc : Node, acc.Sorted →
      (pairs.foldl (fun acc p => acc.merge [nest (segments p.1) p.2]) acc).Sorted from
    this empty (.node List.Pairwise.nil (by simp [empty]))
  induction pairs with
  | nil => exact fun acc hacc => hacc
  | cons p rest ih =>
    intro acc hacc
    have hp : p.2.Sorted := h p List.mem_cons_self
    exact ih (fun q hq => h q (List.mem_cons_of_mem _ hq)) _
      (hacc.mergeEntries (nest_sorted _ hp))

theorem foldl_merge_nest_eq_mergeEntries {ys : List (String × Value)}
    (hys : ∀ p ∈ ys, p.2.Sorted) {A : Node} (hA : A.Sorted) :
    ys.foldl (fun acc p => acc.merge [nest (segments p.1) p.2]) A = A.mergeEntries (ofPairs ys) := by
  induction ys generalizing A with
  | nil => simp [ofPairs, empty, mergeEntries_nil]
  | cons y ys ih =>
    have hys' : ∀ p ∈ ys, p.2.Sorted := fun p hp => hys p (List.mem_cons_of_mem _ hp)
    have hN : (nest (segments y.1) y.2).Sorted := nest_sorted _ (hys y List.mem_cons_self)
    have hP : (ofPairs ys).Sorted := ofPairs_sorted ys hys'
    -- both sides are the first tree merged before the rest; associativity moves the bracket
    calc ys.foldl (fun acc p => acc.merge [nest (segments p.1) p.2])
          (A.merge [nest (segments y.1) y.2])
        = (A.mergeEntries (nest (segments y.1) y.2)).mergeEntries (ofPairs ys) := by
          rw [merge_singleton A, ih hys' (hA.mergeEntries hN)]
      _ = A.mergeEntries ((nest (segments y.1) y.2).mergeEntries (ofPairs ys)) :=
          mergeEntries_assoc hA hN hP
      _ = A.mergeEntries (ofPairs (y :: ys)) := by
          rw [ofPairs_eq_foldl_merge_nest (y :: ys), List.foldl_cons, merge_singleton,
            empty_mergeEntries_nest, ih hys' hN]

theorem ofPairs_append {xs ys : List (String × Value)} (hxs : ∀ p ∈ xs, p.2.Sorted)
    (hys : ∀ p ∈ ys, p.2.Sorted) : ofPairs (xs ++ ys) = (ofPairs xs).merge [ofPairs ys] := by
  rw [merge_singleton, ← foldl_merge_nest_eq_mergeEntries hys (ofPairs_sorted xs hxs),
    ofPairs_eq_foldl_merge_nest, List.foldl_append, ← ofPairs_eq_foldl_merge_nest]

/-- Expanding dotted keys is merging in list order: the node built from any list of dotted keys and
values is the left fold, from the empty node, of merging the tree of each key; one pair builds
exactly its tree; and building from two lists in a row merges what the second list builds into what
the first builds. -/
theorem ofPairs_eq_merge_of_nests (xs ys : List (String × Value))
    (hs : ∀ p ∈ xs ++ ys, p.2.Sorted) :
    (∀ pairs : List (String × Value),
      ofPairs pairs = pairs.foldl (fun acc p => acc.merge [nest (segments p.1) p.2]) empty) ∧
      (∀ k v, ofPairs [(k, v)] = nest (segments k) v) ∧
      ofPairs (xs ++ ys) = (ofPairs xs).merge [ofPairs ys] :=
  ⟨ofPairs_eq_foldl_merge_nest, ofPairs_singleton,
    ofPairs_append (fun p hp => hs p (List.mem_append_left _ hp))
      (fun p hp => hs p (List.mem_append_right _ hp))⟩

theorem ofPairs_eq_merge_of_nests_flat_then_dotted :
    (∀ p ∈ [("a", Value.str "flat")] ++ [("a.b", Value.int 1)], p.2.Sorted) ∧
      (∀ pairs : List (String × Value),
        ofPairs pairs = pairs.foldl (fun acc p => acc.merge [nest (segments p.1) p.2]) empty) ∧
      (∀ k v, ofPairs [(k, v)] = nest (segments k) v) ∧
      ofPairs ([("a", Value.str "flat")] ++ [("a.b", Value.int 1)]) =
        (ofPairs [("a", Value.str "flat")]).merge [ofPairs [("a.b", Value.int 1)]] := by
  have hs : ∀ p ∈ [("a", Value.str "flat")] ++ [("a.b", Value.int 1)], p.2.Sorted := by
    intro p hp
    simp only [List.cons_append, List.nil_append, List.mem_cons, List.not_mem_nil, or_false] at hp
    rcases hp with rfl | rfl <;> exact .leaf rfl
  exact ⟨hs, ofPairs_eq_merge_of_nests _ _ hs⟩

end Node

end ConfigTree
