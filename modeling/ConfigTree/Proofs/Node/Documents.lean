import ConfigTree.Proofs.Node.Constructed

namespace ConfigTree

/-- A value whose nodes, at any depth and inside lists too, have keys in strictly increasing order
and without a dot, whose integers fit 64 signed bits and whose binary numbers are finite. -/
inductive Value.Canonical : Value → Prop
  | bool (b : Bool) : (Value.bool b).Canonical
  | int {i : Int} : fitsInt64 i = true → (Value.int i).Canonical
  | float {x : Double} : x.isFinite = true → (Value.float x).Canonical
  | str (s : String) : (Value.str s).Canonical
  | list {items : List Value} : (∀ v ∈ items, v.Canonical) → (Value.list items).Canonical
  | node {entries : Node} : entries.KeysOrdered → (∀ e ∈ entries, '.' ∉ e.1.toList) →
      (∀ e ∈ entries, e.2.Canonical) → (Value.node entries).Canonical

/-- A document with no `null`, whose objects have members in strictly increasing key order with no
dot in a key, whose integers fit 64 signed bits and whose binary numbers are finite. -/
inductive Json.Canonical : Json → Prop
  | bool (b : Bool) : (Json.bool b).Canonical
  | int {i : Int} : fitsInt64 i = true → (Json.int i).Canonical
  | float {x : Double} : x.isFinite = true → (Json.float x).Canonical
  | str (s : String) : (Json.str s).Canonical
  | arr {items : List Json} : (∀ j ∈ items, j.Canonical) → (Json.arr items).Canonical
  | obj {members : List (String × Json)} : members.Pairwise (fun a b => a.1 < b.1) →
      (∀ m ∈ members, '.' ∉ m.1.toList) → (∀ m ∈ members, m.2.Canonical) →
      (Json.obj members).Canonical

namespace Value

theorem Canonical.wellKeyed {v : Value} (h : v.Canonical) : v.WellKeyed := by
  induction h with
  | bool b => exact ⟨.leaf rfl, .bool b⟩
  | int _ => exact ⟨.leaf rfl, .int _⟩
  | float _ => exact ⟨.leaf rfl, .float _⟩
  | str s => exact ⟨.leaf rfl, .str s⟩
  | list _ ih => exact ⟨.leaf rfl, .list fun v hv => (ih v hv).undotted⟩
  | node hk hdot _ ih => exact ⟨.node hk fun e he => (ih e he).sorted, .node hdot fun e he => (ih e he).undotted⟩

theorem canonical_node_iff {entries : Node} :
    (Value.node entries).Canonical ↔
      entries.KeysOrdered ∧ (∀ e ∈ entries, '.' ∉ e.1.toList) ∧ ∀ e ∈ entries, e.2.Canonical := by
  constructor
  · intro h
    cases h with
    | node hk hdot hv => exact ⟨hk, hdot, hv⟩
  · rintro ⟨hk, hdot, hv⟩
    exact .node hk hdot hv

theorem canonical_list_iff {items : List Value} :
    (Value.list items).Canonical ↔ ∀ v ∈ items, v.Canonical := by
  constructor
  · intro h
    cases h with
    | list hv => exact hv
  · exact .list

end Value

theorem presentEntries_map_some (entries : List (String × Value)) :
    presentEntries (entries.map fun e => (e.1, some e.2)) = entries := by
  induction entries with
  | nil => rfl
  | cons e rest ih => rw [List.map_cons, presentEntries, ih]

namespace Value

theorem entriesToJson_eq_map (entries : List (String × Value)) :
    entriesToJson entries = entries.map fun e => (e.1, e.2.toJson) := by
  induction entries with
  | nil => rfl
  | cons e rest ih => rw [entriesToJson, ih, List.map_cons]

mutual

theorem ofJson_toJson : ∀ v : Value, v.Canonical → Value.ofJson v.toJson = some v
  | .bool _, _ => rfl
  | .int i, h => by
    cases h with
    | int hfit => simp [toJson, Value.ofJson, hfit]
  | .float _, h => by
    cases h with
    | float hfin => simp [toJson, Value.ofJson, hfin]
  | .str _, _ => rfl
  | .list items, h => by
    rw [toJson, Value.ofJson, ofJsonItems_itemsToJson items (canonical_list_iff.mp h)]
  | .node entries, h => by
    obtain ⟨-, -, hv⟩ := canonical_node_iff.mp h
    rw [toJson, Value.ofJson, ofJsonPairs_entriesToJson entries hv, presentEntries_map_some,
      Node.ofPairs_self h.wellKeyed]

theorem ofJsonItems_itemsToJson :
    ∀ items : List Value, (∀ v ∈ items, v.Canonical) → Value.ofJsonItems (itemsToJson items) = items
  | [], _ => rfl
  | v :: rest, h => by
    rw [itemsToJson, Value.ofJsonItems, ofJson_toJson v (h v List.mem_cons_self),
      ofJsonItems_itemsToJson rest fun w hw => h w (List.mem_cons_of_mem _ hw)]

theorem ofJsonPairs_entriesToJson :
    ∀ entries : List (String × Value), (∀ e ∈ entries, e.2.Canonical) →
      Value.ofJsonPairs (entriesToJson entries) = entries.map fun e => (e.1, some e.2)
  | [], _ => rfl
  | (k, v) :: rest, h => by
    rw [entriesToJson, Value.ofJsonPairs, ofJson_toJson v (h (k, v) List.mem_cons_self),
      ofJsonPairs_entriesToJson rest fun e he => h e (List.mem_cons_of_mem _ he), List.map_cons]

end

mutual

theorem canonical_toJson : ∀ v : Value, v.Canonical → v.toJson.Canonical
  | .bool b, _ => .bool b
  | .int _, h => by
    cases h with
    | int hfit => exact .int hfit
  | .float _, h => by
    cases h with
    | float hfin =>
      rw [Value.toJson, if_pos hfin]
      exact .float hfin
  | .str s, _ => .str s
  | .list items, h => by
    rw [Value.toJson]
    exact .arr (canonical_itemsToJson items (canonical_list_iff.mp h))
  | .node entries, h => by
    obtain ⟨hk, hdot, hv⟩ := canonical_node_iff.mp h
    rw [Value.toJson]
    refine .obj ?_ (fun m hm => ?_) (canonical_entriesToJson entries hv)
    · rw [entriesToJson_eq_map]
      exact List.pairwise_map.mpr hk
    · rw [entriesToJson_eq_map] at hm
      obtain ⟨e, he, rfl⟩ := List.mem_map.mp hm
      exact hdot e he

theorem canonical_itemsToJson :
    ∀ items : List Value, (∀ v ∈ items, v.Canonical) → ∀ j ∈ Value.itemsToJson items, j.Canonical
  | [], _ => by simp [Value.itemsToJson]
  | v :: rest, h => by
    intro j hj
    rw [Value.itemsToJson] at hj
    rcases List.mem_cons.mp hj with rfl | hj
    · exact canonical_toJson v (h v List.mem_cons_self)
    · exact canonical_itemsToJson rest (fun w hw => h w (List.mem_cons_of_mem _ hw)) j hj

theorem canonical_entriesToJson :
    ∀ entries : List (String × Value), (∀ e ∈ entries, e.2.Canonical) →
      ∀ m ∈ Value.entriesToJson entries, m.2.Canonical
  | [], _ => by simp [Value.entriesToJson]
  | (k, v) :: rest, h => by
    intro m hm
    rw [Value.entriesToJson] at hm
    rcases List.mem_cons.mp hm with rfl | hm
    · exact canonical_toJson v (h (k, v) List.mem_cons_self)
    · exact canonical_entriesToJson rest (fun e he => h e (List.mem_cons_of_mem _ he)) m hm

end

mutual

theorem exists_canonical_of_json : ∀ j : Json, j.Canonical → ∃ v : Value, v.Canonical ∧ v.toJson = j
  | .null, h => nomatch h
  | .bool b, _ => ⟨.bool b, .bool b, rfl⟩
  | .int i, h => by
    cases h with
    | int hfit => exact ⟨.int i, .int hfit, rfl⟩
  | .float x, h => by
    cases h with
    | float hfin => exact ⟨.float x, .float hfin, by rw [Value.toJson, if_pos hfin]⟩
  | .str s, _ => ⟨.str s, .str s, rfl⟩
  | .arr items, h => by
    cases h with
    | arr hitems =>
      obtain ⟨vs, hvs, heq⟩ := exists_canonical_of_items items hitems
      exact ⟨.list vs, .list hvs, by rw [Value.toJson, heq]⟩
  | .obj members, h => by
    cases h with
    | obj hk hdot hm =>
      obtain ⟨es, hes, heq⟩ := exists_canonical_of_members members hm
      -- the entries carry the members' keys, so their order and their dots are the members'
      rw [entriesToJson_eq_map] at heq
      subst heq
      have hordered : Node.KeysOrdered es := by
        have hmap := List.pairwise_map.mp hk
        exact hmap
      refine ⟨.node es, .node hordered (fun e he => ?_) hes, ?_⟩
      · exact hdot (e.1, e.2.toJson) (List.mem_map_of_mem he)
      · rw [Value.toJson, entriesToJson_eq_map]

theorem exists_canonical_of_items :
    ∀ js : List Json, (∀ j ∈ js, j.Canonical) →
      ∃ vs : List Value, (∀ v ∈ vs, v.Canonical) ∧ Value.itemsToJson vs = js
  | [], _ => ⟨[], by simp, rfl⟩
  | j :: rest, h => by
    obtain ⟨v, hv, hvj⟩ := exists_canonical_of_json j (h j List.mem_cons_self)
    obtain ⟨vs, hvs, heq⟩ := exists_canonical_of_items rest fun k hk => h k (List.mem_cons_of_mem _ hk)
    refine ⟨v :: vs, fun w hw => ?_, by rw [Value.itemsToJson, hvj, heq]⟩
    rcases List.mem_cons.mp hw with rfl | hw
    · exact hv
    · exact hvs w hw

theorem exists_canonical_of_members :
    ∀ ms : List (String × Json), (∀ m ∈ ms, m.2.Canonical) →
      ∃ es : List (String × Value), (∀ e ∈ es, e.2.Canonical) ∧ Value.entriesToJson es = ms
  | [], _ => ⟨[], by simp, rfl⟩
  | (k, j) :: rest, h => by
    obtain ⟨v, hv, hvj⟩ := exists_canonical_of_json j (h (k, j) List.mem_cons_self)
    obtain ⟨es, hes, heq⟩ := exists_canonical_of_members rest fun m hm => h m (List.mem_cons_of_mem _ hm)
    refine ⟨(k, v) :: es, fun e he => ?_, by rw [Value.entriesToJson, hvj, heq]⟩
    rcases List.mem_cons.mp he with rfl | he
    · exact hv
    · exact hes e he

end

end Value

theorem Node.ofJson_of_ofJson {j : Json} {n : Node} (h : Value.ofJson j = some (.node n)) :
    Node.ofJson j = .ok n := by
  rw [Node.ofJson, h]

/-- Canonical nodes and canonical JSON objects are each other's documents. -/
theorem nodes_and_documents_correspond :
    (∀ N : Node, (Value.node N).Canonical →
      (Node.toJson N).Canonical ∧ Node.ofJson (Node.toJson N) = .ok N) ∧
    (∀ members : List (String × Json), (Json.obj members).Canonical →
      ∃ N : Node, Node.ofJson (.obj members) = .ok N ∧ Node.toJson N = .obj members) := by
  refine ⟨fun N hN => ⟨Value.canonical_toJson _ hN, Node.ofJson_of_ofJson (Value.ofJson_toJson _ hN)⟩,
    fun members h => ?_⟩
  obtain ⟨v, hv, hvj⟩ := Value.exists_canonical_of_json _ h
  -- only a node is written as an object
  cases v with
  | node N =>
    refine ⟨N, ?_, hvj⟩
    rw [← hvj]
    exact Node.ofJson_of_ofJson (Value.ofJson_toJson _ hv)
  | float x =>
    rw [Value.toJson] at hvj
    split at hvj <;> cases hvj
  | _ => cases hvj

theorem nodes_and_documents_correspond_nested :
    let N : Node := [("a", .list [.node [("b", .int 1)], .str "x"]), ("c", .node [("d", .bool true)])]
    let doc : List (String × Json) :=
      [("a", .arr [.obj [("b", .int 1)], .str "x"]), ("c", .obj [("d", .bool true)])]
    (Value.node N).Canonical ∧ ((Node.toJson N).Canonical ∧ Node.ofJson (Node.toJson N) = .ok N) ∧
      (Json.obj doc).Canonical ∧
        ∃ N' : Node, Node.ofJson (.obj doc) = .ok N' ∧ Node.toJson N' = .obj doc := by
  intro N doc
  have hb : (Value.node [("b", .int 1)]).Canonical :=
    .node (by decide) (by decide) fun e he => by
      rw [List.mem_singleton] at he
      exact he ▸ .int (by decide)
  have hN : (Value.node N).Canonical := by
    refine .node (by decide) (by decide) fun e he => ?_
    rcases List.mem_pair.mp he with rfl | rfl
    · exact .list fun v hv => by
        rcases List.mem_pair.mp hv with rfl | rfl
        exacts [hb, .str "x"]
    · exact .node (by decide) (by decide) fun e he => (List.mem_singleton.mp he) ▸ .bool true
  have hjb : (Json.obj [("b", .int 1)]).Canonical :=
    .obj (by decide) (by decide) fun m hm => (List.mem_singleton.mp hm) ▸ .int (by decide)
  have hdoc : (Json.obj doc).Canonical := by
    refine .obj (by decide) (by decide) fun m hm => ?_
    rcases List.mem_pair.mp hm with rfl | rfl
    · exact .arr fun j hj => by
        rcases List.mem_pair.mp hj with rfl | rfl
        exacts [hjb, .str "x"]
    · exact .obj (by decide) (by decide) fun m hm => (List.mem_singleton.mp hm) ▸ .bool true
  exact ⟨hN, nodes_and_documents_correspond.1 N hN, hdoc, nodes_and_documents_correspond.2 doc hdoc⟩

end ConfigTree
