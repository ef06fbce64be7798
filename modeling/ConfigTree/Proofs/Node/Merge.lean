import Mathlib.Data.String.Basic
import ConfigTree.Node.Tree

namespace ConfigTree

namespace Node

def KeysOrdered (n : Node) : Prop := n.Pairwise (fun a b => a.1 < b.1)

end Node

/-- Every node reached through node entries has its keys in strictly increasing order. -/
inductive Value.Sorted : Value → Prop
  | leaf {v : Value} : v.isNode = false → v.Sorted
  | node {entries : Node} : entries.KeysOrdered → (∀ e ∈ entries, e.2.Sorted) →
      (Value.node entries).Sorted

/-- A node whose keys are in strictly increasing order, and so are those of the nodes inside. -/
def Node.Sorted (n : Node) : Prop := (Value.node n).Sorted

namespace Node

theorem sorted_iff {n : Node} : n.Sorted ↔ n.KeysOrdered ∧ ∀ e ∈ n, e.2.Sorted := by
  constructor
  · intro h
    cases h with
    | leaf h => simp [Value.isNode] at h
    | node hk hv => exact ⟨hk, hv⟩
  · rintro ⟨hk, hv⟩
    exact .node hk hv

theorem Sorted.keysOrdered {n : Node} (h : n.Sorted) : n.KeysOrdered := (sorted_iff.mp h).1

theorem Sorted.of_mem {n : Node} (h : n.Sorted) {e : String × Value} (he : e ∈ n) : e.2.Sorted :=
  (sorted_iff.mp h).2 e he

theorem KeysOrdered.nodup {n : Node} (h : n.KeysOrdered) : (n.map (·.1)).Nodup :=
  List.pairwise_map.mpr (h.imp fun hlt => hlt.ne)

@[simp] theorem find?_nil (k : String) : find? [] k = none := rfl

theorem find?_cons (k k' : String) (v : Value) (rest : Node) :
    find? ((k', v) :: rest) k = if k = k' then some v else find? rest k := by
  simp only [find?, List.lookup_cons]
  split <;> simp_all

theorem find?_eq_none_of_forall_lt {n : Node} {k : String} (h : ∀ e ∈ n, k < e.1) :
    n.find? k = none :=
  List.lookup_eq_none_iff.mpr fun e he => bne_iff_ne.mpr (h e he).ne

theorem find?_eq_none_of_lt_head {k k' : String} {v : Value} {rest : Node} (hk : k < k')
    (hrest : ∀ e ∈ rest, k' < e.1) : find? ((k', v) :: rest) k = none :=
  find?_eq_none_of_forall_lt fun e he =>
    (List.mem_cons.mp he).elim (fun he => he ▸ hk) fun he => hk.trans (hrest e he)

theorem find?_eq_none_of_not_mem {n : Node} {k : String} (h : k ∉ n.map (·.1)) :
    n.find? k = none :=
  List.lookup_eq_none_iff.mpr fun _ he => bne_iff_ne.mpr fun hk => h (hk ▸ List.mem_map_of_mem he)

theorem mem_of_find?_eq_some {n : Node} {k : String} {v : Value} (h : n.find? k = some v) :
    (k, v) ∈ n := by
  obtain ⟨l₁, l₂, rfl, -⟩ := List.lookup_eq_some_iff.mp h
  simp

theorem find?_map_values (f : Value → Value) (n : Node) (k : String) :
    find? (n.map fun e => (e.1, f e.2)) k = (n.find? k).map f := by
  induction n with
  | nil => rfl
  | cons e rest ih =>
    obtain ⟨k', v⟩ := e
    rw [List.map_cons, find?_cons, find?_cons, ih]
    split <;> rfl

@[simp] theorem find?_set_self (k : String) (v : Value) (n : Node) : (n.set k v).find? k = some v := by
  induction n with
  | nil => simp [set, find?_cons]
  | cons e rest ih =>
    obtain ⟨k', v'⟩ := e
    simp only [set]
    split_ifs with hlt heq
    · simp [find?_cons]
    · simp [find?_cons]
    · simp [find?_cons, heq, ih]

theorem find?_set_of_ne {j k : String} (h : j ≠ k) (v : Value) (n : Node) :
    (n.set k v).find? j = n.find? j := by
  induction n with
  | nil => simp [set, find?_cons, h]
  | cons e rest ih =>
    obtain ⟨k', v'⟩ := e
    simp only [set]
    split_ifs with hlt heq
    · simp [find?_cons, h]
    · subst heq
      simp [find?_cons, h]
    · simp [find?_cons, ih]

theorem mem_set {k : String} {v : Value} {n : Node} {e : String × Value} (h : e ∈ n.set k v) :
    e = (k, v) ∨ e ∈ n := by
  induction n with
  | nil => simpa [set] using h
  | cons hd rest ih =>
    obtain ⟨k', v'⟩ := hd
    simp only [set] at h
    split_ifs at h with hlt heq
    · simpa using h
    · rcases List.mem_cons.mp h with h | h
      · exact .inl h
      · exact .inr (List.mem_cons_of_mem _ h)
    · rcases List.mem_cons.mp h with h | h
      · exact .inr (h ▸ List.mem_cons_self)
      · exact (ih h).imp_right (List.mem_cons_of_mem _)

theorem KeysOrdered.set {n : Node} (h : n.KeysOrdered) (k : String) (v : Value) :
    (n.set k v).KeysOrdered := by
  induction n with
  | nil => simp [KeysOrdered, Node.set]
  | cons hd rest ih =>
    obtain ⟨k', v'⟩ := hd
    have hhd : ∀ e ∈ rest, k' < e.1 := fun e he => List.rel_of_pairwise_cons h he
    have hrest := h.of_cons
    simp only [Node.set]
    split_ifs with hlt heq
    · refine List.Pairwise.cons (fun e he => ?_) h
      rcases List.mem_cons.mp he with rfl | he
      · exact hlt
      · exact hlt.trans (hhd _ he)
    · subst heq
      exact List.Pairwise.cons (fun e he => hhd _ he) hrest
    · refine List.Pairwise.cons (fun e he => ?_) (ih hrest)
      rcases mem_set he with rfl | he
      · exact lt_of_le_of_ne (not_lt.mp hlt) (Ne.symm heq)
      · exact hhd _ he

theorem eq_of_find?_eq {a b : Node} (ha : a.KeysOrdered) (hb : b.KeysOrdered)
    (h : ∀ k, a.find? k = b.find? k) : a = b := by
  induction a generalizing b with
  | nil =>
    cases b with
    | nil => rfl
    | cons e rest =>
      obtain ⟨k, v⟩ := e
      simpa [find?_cons] using (h k).symm
  | cons e rest ih =>
    obtain ⟨k, v⟩ := e
    cases b with
    | nil => simpa [find?_cons] using h k
    | cons e' rest' =>
      obtain ⟨k', v'⟩ := e'
      have hlt : ∀ e ∈ rest, k < e.1 := fun e he => List.rel_of_pairwise_cons ha he
      have hlt' : ∀ e ∈ rest', k' < e.1 := fun e he => List.rel_of_pairwise_cons hb he
      -- the smaller of the two first keys is missing from the other node
      have hk : k = k' := by
        rcases lt_trichotomy k k' with hkk | hkk | hkk
        · have hnone := find?_eq_none_of_lt_head (v := v') hkk hlt'
          simp [← h k, find?_cons] at hnone
        · exact hkk
        · have hnone := find?_eq_none_of_lt_head (v := v) hkk hlt
          simp [h k', find?_cons] at hnone
      subst hk
      have hv : v = v' := by simpa [find?_cons] using h k
      have htail : ∀ j, find? rest j = find? rest' j := by
        intro j
        by_cases hj : j = k
        · subst hj
          rw [find?_eq_none_of_forall_lt hlt, find?_eq_none_of_forall_lt hlt']
        · simpa [find?_cons, hj] using h j
      rw [hv, ih ha.of_cons hb.of_cons htail]

theorem mergeEntries_nil (target : Node) : target.mergeEntries [] = target := by
  simp [mergeEntries]

theorem mergeEntries_cons (target : Node) (k : String) (v : Value) (rest : List (String × Value)) :
    target.mergeEntries ((k, v) :: rest) =
      (target.set k (((target.find? k).map (·.merge v)).getD v)).mergeEntries rest := by
  rw [mergeEntries]
  cases target.find? k <;> rfl

theorem merge_singleton (base other : Node) : base.merge [other] = base.mergeEntries other := rfl

theorem find?_mergeEntries {b : Node} (hb : (b.map (·.1)).Nodup) (a : Node) (k : String) :
    (a.mergeEntries b).find? k = Option.merge Value.merge (a.find? k) (b.find? k) := by
  induction b generalizing a with
  | nil => simp [mergeEntries_nil]
  | cons e rest ih =>
    obtain ⟨k', v⟩ := e
    have hk' : k' ∉ rest.map (·.1) := (List.nodup_cons.mp hb).1
    rw [mergeEntries_cons, ih (List.nodup_cons.mp hb).2, find?_cons]
    by_cases hk : k = k'
    · subst hk
      rw [find?_set_self, find?_eq_none_of_not_mem hk']
      cases a.find? k <;> simp
    · simp [find?_set_of_ne hk, hk]

theorem KeysOrdered.mergeEntries {a : Node} (ha : a.KeysOrdered) (b : List (String × Value)) :
    (a.mergeEntries b).KeysOrdered := by
  induction b generalizing a with
  | nil => simpa [mergeEntries_nil] using ha
  | cons e rest ih =>
    obtain ⟨k, v⟩ := e
    rw [mergeEntries_cons]
    exact ih (ha.set k _)

theorem Sorted.set {n : Node} (hn : n.Sorted) (k : String) {v : Value} (hv : v.Sorted) :
    (n.set k v).Sorted := by
  refine sorted_iff.mpr ⟨hn.keysOrdered.set k v, fun e he => ?_⟩
  rcases mem_set he with rfl | he
  · exact hv
  · exact hn.of_mem he

theorem Sorted.mergeEntries_of {a : Node} (ha : a.Sorted)
    {b : List (String × Value)}
    (hb : ∀ e ∈ b, e.2.Sorted ∧ ∀ x : Value, x.Sorted → (x.merge e.2).Sorted) :
    (a.mergeEntries b).Sorted := by
  induction b generalizing a with
  | nil => simpa [mergeEntries_nil] using ha
  | cons e rest ih =>
    obtain ⟨k, v⟩ := e
    obtain ⟨hv, hmerge⟩ := hb (k, v) List.mem_cons_self
    rw [mergeEntries_cons]
    refine ih (ha.set k ?_) fun e he => hb e (List.mem_cons_of_mem _ he)
    cases hfind : a.find? k with
    | none => exact hv
    | some x => exact hmerge x (ha.of_mem (mem_of_find?_eq_some hfind))

end Node

namespace Value

theorem eq_node_or_isNode_false (v : Value) : (∃ c, v = .node c) ∨ v.isNode = false := by
  cases v <;> simp [isNode]

@[simp] theorem asNode?_node (c : Node) : (Value.node c).asNode? = some c := rfl

theorem asNode?_eq_none {v : Value} (h : v.isNode = false) : v.asNode? = none := by
  cases v <;> simp_all [isNode, asNode?]

@[simp] theorem merge_node_node (a b : Node) :
    (Value.node a).merge (.node b) = .node (a.mergeEntries b) := rfl

theorem merge_node_of_isNode_false (a : Node) {y : Value} (hy : y.isNode = false) :
    (Value.node a).merge y = .node a := by
  cases y <;> simp_all [isNode, Value.merge]

theorem merge_of_isNode_false {x : Value} (hx : x.isNode = false) (y : Value) : x.merge y = y := by
  cases x <;> simp_all [isNode, Value.merge]

theorem Sorted.merge {x y : Value} (hx : x.Sorted) (hy : y.Sorted) : (x.merge y).Sorted := by
  induction hy generalizing x with
  | leaf hy =>
    cases hx with
    | leaf hx => rw [merge_of_isNode_false hx]; exact .leaf hy
    | node hk hv => rw [merge_node_of_isNode_false _ hy]; exact .node hk hv
  | node hk hv ih =>
    cases hx with
    | leaf hx => rw [merge_of_isNode_false hx]; exact .node hk hv
    | node hk' hv' =>
      rw [merge_node_node]
      exact Node.Sorted.mergeEntries_of (.node hk' hv') fun e he => ⟨hv e he, fun _ hx => ih e he hx⟩

theorem merge_option_assoc {o₁ o₂ o₃ : Option Value}
    (h : ∀ x ∈ o₁, ∀ y ∈ o₂, ∀ z ∈ o₃, (x.merge y).merge z = x.merge (y.merge z)) :
    Option.merge Value.merge (Option.merge Value.merge o₁ o₂) o₃ =
      Option.merge Value.merge o₁ (Option.merge Value.merge o₂ o₃) := by
  cases o₁ <;> cases o₂ <;> cases o₃ <;> simp_all

theorem merge_assoc {x y z : Value} (hx : x.Sorted) (hy : y.Sorted) (hz : z.Sorted) :
    (x.merge y).merge z = x.merge (y.merge z) := by
  induction hx generalizing y z with
  | leaf hx => rw [merge_of_isNode_false hx, merge_of_isNode_false hx]
  | @node a hka _ ih =>
    cases hy with
    | leaf hy => rw [merge_node_of_isNode_false a hy, merge_of_isNode_false hy]
    | @node b hkb hvb =>
      cases hz with
      | leaf hz =>
        rw [merge_node_node, merge_node_of_isNode_false _ hz, merge_node_of_isNode_false _ hz,
          merge_node_node]
      | @node c hkc hvc =>
        simp only [merge_node_node, Value.node.injEq]
        -- both sides have ordered keys, so it is enough that they agree on every key
        refine Node.eq_of_find?_eq ((hka.mergeEntries b).mergeEntries c) (hka.mergeEntries _)
          fun k => ?_
        rw [Node.find?_mergeEntries hkc.nodup, Node.find?_mergeEntries hkb.nodup,
          Node.find?_mergeEntries (hkb.mergeEntries c).nodup, Node.find?_mergeEntries hkc.nodup]
        refine merge_option_assoc fun x hx y hy z hz => ?_
        exact ih (k, x) (Node.mem_of_find?_eq_some hx) (hvb (k, y) (Node.mem_of_find?_eq_some hy))
          (hvc (k, z) (Node.mem_of_find?_eq_some hz))

end Value

theorem Node.Sorted.mergeEntries {a b : Node} (ha : a.Sorted) (hb : b.Sorted) :
    (a.mergeEntries b).Sorted :=
  Value.Sorted.merge ha hb

theorem Node.mergeEntries_assoc {a b c : Node} (ha : a.Sorted) (hb : b.Sorted) (hc : c.Sorted) :
    (a.mergeEntries b).mergeEntries c = a.mergeEntries (b.mergeEntries c) :=
  Value.node.inj (Value.merge_assoc ha hb hc)

end ConfigTree
