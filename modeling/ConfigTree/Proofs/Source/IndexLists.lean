import ConfigTree.Proofs.Node.Constructed

namespace ConfigTree

namespace EnvSource

/-- The indices the keys name, in order; a key that names none is skipped. -/
def indices (entries : List (String × Value)) : List Nat := entries.filterMap fun e => index? e.1

def indexed (entries : List (String × Value)) : List (Nat × Value) :=
  entries.filterMap fun e => (index? e.1).map (·, e.2)

/-- The greatest index the keys name, `0` when they name none. -/
def maxIndex (entries : List (String × Value)) : Nat := (indices entries).foldl max 0

def IndexKeyed (entries : List (String × Value)) : Prop :=
  entries ≠ [] ∧ ∀ e ∈ entries, (index? e.1).isSome

/-- An index node that becomes a list: one past its greatest index is at most four times its number
of keys, and is itself below `2^64`. -/
def Dense (entries : List (String × Value)) : Prop :=
  IndexKeyed entries ∧ maxIndex entries + 1 ≤ 4 * entries.length ∧
    maxIndex entries + 1 < Nat.pow 2 64

instance : DecidablePred IndexKeyed := fun entries =>
  inferInstanceAs (Decidable (entries ≠ [] ∧ ∀ e ∈ entries, (index? e.1).isSome))

instance : DecidablePred Dense := fun entries =>
  inferInstanceAs (Decidable (IndexKeyed entries ∧ maxIndex entries + 1 ≤ 4 * entries.length ∧
    maxIndex entries + 1 < Nat.pow 2 64))

def indexList (entries : List (String × Value)) : List Value :=
  (List.range (maxIndex entries + 1)).map fun i => ((indexed entries).lookup i).getD (.node [])

theorem map_fst_indexed (entries : List (String × Value)) :
    (indexed entries).map Prod.fst = indices entries := by
  simp [indexed, indices, List.map_filterMap, Option.map_map, Function.comp_def]

theorem mem_indexed {entries : List (String × Value)} {p : Nat × Value} :
    p ∈ indexed entries ↔ ∃ e ∈ entries, index? e.1 = some p.1 ∧ e.2 = p.2 := by
  simp only [indexed, List.mem_filterMap, Option.map_eq_some_iff]
  constructor
  · rintro ⟨e, he, i, hi, rfl⟩
    exact ⟨e, he, hi, rfl⟩
  · rintro ⟨e, he, hi, hv⟩
    exact ⟨e, he, p.1, hi, by rw [hv]⟩

theorem length_indexed {entries : List (String × Value)} (h : ∀ e ∈ entries, (index? e.1).isSome) :
    (indexed entries).length = entries.length := by
  induction entries with
  | nil => rfl
  | cons e rest ih =>
    obtain ⟨i, hi⟩ := Option.isSome_iff_exists.mp (h e List.mem_cons_self)
    have hrest := ih fun e' he' => h e' (List.mem_cons_of_mem _ he')
    simp only [indexed, List.filterMap_cons, hi, Option.map_some, List.length_cons] at hrest ⊢
    rw [hrest]

theorem le_maxIndex {entries : List (String × Value)} {i : Nat} (h : i ∈ indices entries) :
    i ≤ maxIndex entries := by
  have hle : i ≤ (indices entries).max?.getD 0 := List.le_max?_getD_of_mem h
  rw [maxIndex, List.foldl_max]
  exact le_sup_of_le_right hle

theorem indices_map_values (f : Value → Value) (entries : List (String × Value)) :
    indices (entries.map fun e => (e.1, f e.2)) = indices entries := by
  simp [indices, List.filterMap_map]

theorem indices_listifyEntries (entries : List (String × Value)) :
    indices (listifyEntries entries) = indices entries := by
  rw [listifyEntries_eq_map, indices_map_values]

theorem maxIndex_listifyEntries (entries : List (String × Value)) :
    maxIndex (listifyEntries entries) = maxIndex entries := by
  rw [maxIndex, maxIndex, indices_listifyEntries]

theorem mem_listifyEntries {entries : List (String × Value)} {e : String × Value}
    (he : e ∈ entries) : (e.1, listify e.2) ∈ listifyEntries entries := by
  rw [listifyEntries_eq_map]
  exact List.mem_map.mpr ⟨e, he, rfl⟩

theorem dense_map_values (f : Value → Value) (entries : List (String × Value)) :
    Dense (entries.map fun e => (e.1, f e.2)) ↔ Dense entries := by
  simp only [Dense, IndexKeyed, maxIndex, indices_map_values, List.length_map, ne_eq,
    List.map_eq_nil_iff, List.forall_mem_map]

theorem mapM_index_of_keyed :
    ∀ {entries : List (String × Value)}, (∀ e ∈ entries, (index? e.1).isSome) →
      entries.mapM (fun e => (index? e.1).map (·, e.2)) = some (indexed entries)
  | [], _ => rfl
  | e :: rest, h => by
    obtain ⟨i, hi⟩ := Option.isSome_iff_exists.mp (h e List.mem_cons_self)
    rw [List.mapM_cons, mapM_index_of_keyed fun e' he' => h e' (List.mem_cons_of_mem _ he')]
    simp [indexed, hi]

theorem mapM_index_of_not_keyed :
    ∀ {entries : List (String × Value)}, (∃ e ∈ entries, index? e.1 = none) →
      entries.mapM (fun e => (index? e.1).map (·, e.2)) = none
  | [], ⟨_, he, _⟩ => absurd he List.not_mem_nil
  | e :: rest, ⟨e', he', hnone⟩ => by
    rw [List.mapM_cons]
    rcases List.mem_cons.mp he' with rfl | hrest
    · simp [hnone]
    · rw [mapM_index_of_not_keyed ⟨e', hrest, hnone⟩]
      cases (index? e.1).map (·, e.2) <;> rfl

theorem foldl_slots_of_nodup :
    ∀ {xs acc : List (Nat × Value)}, ((acc ++ xs).map Prod.fst).Nodup →
      xs.foldl (fun acc e => acc.filter (·.1 != e.1) ++ [e]) acc = acc ++ xs
  | [], acc, _ => by simp
  | e :: rest, acc, h => by
    have hsplit := List.nodup_append.mp (by simpa only [List.map_append] using h)
    have hfilter : acc.filter (·.1 != e.1) = acc := by
      refine List.filter_eq_self.mpr fun p hp => bne_iff_ne.mpr fun hpe => ?_
      exact hsplit.2.2 p.1 (List.mem_map_of_mem hp) e.1 (by simp) hpe
    rw [List.foldl_cons, hfilter, foldl_slots_of_nodup (by simpa using h)]
    simp

theorem asList?_of_nodup {entries : List (String × Value)} (hd : (indices entries).Nodup) :
    asList? entries = if Dense entries then some (indexList entries) else none := by
  unfold asList?
  by_cases hne : entries = []
  · subst hne
    simp [Dense, IndexKeyed]
  rw [if_neg (by simpa using hne)]
  by_cases hkeys : ∀ e ∈ entries, (index? e.1).isSome
  · have hslots : (indexed entries).foldl (fun acc e => acc.filter (·.1 != e.1) ++ [e]) [] =
        indexed entries := by
      simpa using @foldl_slots_of_nodup (indexed entries) [] (by simpa [map_fst_indexed] using hd)
    have htop : (indexed entries).foldl (fun m e => max m e.1) 0 = maxIndex entries := by
      rw [maxIndex, ← map_fst_indexed, List.foldl_map]
    -- the room of four slots per key, capped at a machine word, is the density bound
    have hdense : Dense entries ↔
        maxIndex entries + 1 ≤ min (4 * entries.length) (Nat.pow 2 64 - 1) := by
      rw [Dense, and_iff_right ⟨hne, hkeys⟩, Nat.le_min]
      constructor <;> intro h <;> omega
    rw [mapM_index_of_keyed hkeys]
    dsimp only
    rw [hslots, htop, length_indexed hkeys]
    by_cases h : Dense entries
    · rw [if_pos (hdense.mp h), if_pos h]
      rfl
    · rw [if_neg (mt hdense.mpr h), if_neg h]
  · have hsome : ∃ e ∈ entries, index? e.1 = none := by
      simpa [Option.isNone_iff_eq_none] using hkeys
    rw [mapM_index_of_not_keyed hsome, if_neg fun h => hkeys h.1.2]

theorem lookup_of_mem_of_nodup {α : Type} :
    ∀ {l : List (Nat × α)} {i : Nat} {a : α}, (l.map Prod.fst).Nodup → (i, a) ∈ l → l.lookup i = some a
  | [], _, _, _, hmem => absurd hmem List.not_mem_nil
  | (j, b) :: rest, i, a, hd, hmem => by
    rw [List.map_cons, List.nodup_cons] at hd
    rcases List.mem_cons.mp hmem with heq | hrest
    · obtain ⟨rfl, rfl⟩ := Prod.mk.inj heq
      simp
    · have hij : (i == j) = false := by
        refine beq_false_of_ne ?_
        rintro rfl
        exact hd.1 (List.mem_map.mpr ⟨(i, a), hrest, rfl⟩)
      simp [List.lookup_cons, hij, lookup_of_mem_of_nodup hd.2 hrest]

theorem length_indexList (entries : List (String × Value)) :
    (indexList entries).length = maxIndex entries + 1 := by
  simp [indexList]

theorem getElem?_indexList_of_mem {entries : List (String × Value)} (hd : (indices entries).Nodup)
    {e : String × Value} (he : e ∈ entries) {i : Nat} (hi : index? e.1 = some i) :
    (indexList entries)[i]? = some e.2 := by
  have hmem : (i, e.2) ∈ indexed entries := mem_indexed.mpr ⟨e, he, hi, rfl⟩
  have hle : i ≤ maxIndex entries := le_maxIndex (List.mem_filterMap.mpr ⟨e, he, hi⟩)
  have hlookup : (indexed entries).lookup i = some e.2 :=
    lookup_of_mem_of_nodup (by rwa [map_fst_indexed]) hmem
  rw [indexList, List.getElem?_map, List.getElem?_range (by omega), Option.map_some, hlookup,
    Option.getD_some]

theorem getElem?_indexList_of_gap {entries : List (String × Value)} {i : Nat}
    (hi : i ≤ maxIndex entries) (hgap : ∀ e ∈ entries, index? e.1 ≠ some i) :
    (indexList entries)[i]? = some (.node []) := by
  have hnone : (indexed entries).lookup i = none := by
    refine List.lookup_eq_none_iff.mpr fun p hp => bne_iff_ne.mpr fun hip => ?_
    obtain ⟨e, he, hei, -⟩ := mem_indexed.mp hp
    exact hgap e he (hip ▸ hei)
  rw [indexList, List.getElem?_map, List.getElem?_range (by omega), Option.map_some, hnone]
  rfl

theorem listify_node {entries : List (String × Value)} (hd : (indices entries).Nodup) :
    listify (.node entries) =
      if Dense entries then .list (indexList (listifyEntries entries))
      else .node (listifyEntries entries) := by
  have hd' : (indices (listifyEntries entries)).Nodup := by rwa [indices_listifyEntries]
  have hdense : Dense (listifyEntries entries) ↔ Dense entries := by
    rw [listifyEntries_eq_map, dense_map_values]
  rw [listify, asList?_of_nodup hd']
  by_cases h : Dense entries
  · rw [if_pos (hdense.mpr h), if_pos h]
  · rw [if_neg (mt hdense.mp h), if_neg h]

theorem listify_of_dense {entries : List (String × Value)} (hd : (indices entries).Nodup)
    (h : Dense entries) : listify (.node entries) = .list (indexList (listifyEntries entries)) := by
  rw [listify_node hd, if_pos h]

theorem listify_of_not_dense {entries : List (String × Value)} (hd : (indices entries).Nodup)
    (h : ¬ Dense entries) :
    listify (.node entries) = .node (entries.map fun e => (e.1, listify e.2)) := by
  rw [listify_node hd, if_neg h, listifyEntries_eq_map]

theorem getElem?_indexList_listifyEntries {entries : List (String × Value)}
    (hd : (indices entries).Nodup) {e : String × Value} (he : e ∈ entries) {i : Nat}
    (hi : index? e.1 = some i) : (indexList (listifyEntries entries))[i]? = some (listify e.2) :=
  getElem?_indexList_of_mem (by rwa [indices_listifyEntries]) (mem_listifyEntries he) hi

end EnvSource

def Value.child? : Value → String → Option Value
  | .node entries, k => Node.find? entries k
  | .list items, k => (EnvSource.index? k).bind fun i => items[i]?
  | _, _ => none

/-- The value at the end of a path of segments, read through nodes by key and through lists by
index. -/
def Value.walk (v : Value) : List String → Option Value
  | [] => some v
  | k :: rest => (v.child? k).bind fun c => c.walk rest

/-- At every depth, no two keys of a node name the same index. -/
inductive Value.IndicesDistinct : Value → Prop
  | bool (b : Bool) : (Value.bool b).IndicesDistinct
  | int (i : Int) : (Value.int i).IndicesDistinct
  | float (x : Double) : (Value.float x).IndicesDistinct
  | str (s : String) : (Value.str s).IndicesDistinct
  | list {items : List Value} : (∀ v ∈ items, v.IndicesDistinct) → (Value.list items).IndicesDistinct
  | node {entries : Node} : (EnvSource.indices entries).Nodup →
      (∀ e ∈ entries, e.2.IndicesDistinct) → (Value.node entries).IndicesDistinct

namespace Value

theorem IndicesDistinct.child {v c : Value} {k : String} (hv : v.IndicesDistinct)
    (hc : v.child? k = some c) : c.IndicesDistinct := by
  cases hv with
  | list hitems =>
    obtain ⟨i, -, hi⟩ := Option.bind_eq_some_iff.mp hc
    exact hitems c (List.mem_of_getElem? hi)
  | node _ hentries => exact hentries (k, c) (Node.mem_of_find?_eq_some hc)
  | bool | int | float | str => cases hc

open EnvSource in
theorem child?_listify {v c : Value} {k : String} (hv : v.IndicesDistinct)
    (hc : v.child? k = some c) : (listify v).child? k = some (listify c) := by
  cases hv with
  | list _ =>
    obtain ⟨i, hi, hic⟩ := Option.bind_eq_some_iff.mp hc
    rw [listify, listifyItems_eq_map]
    simp [child?, hi, List.getElem?_map, hic]
  | @node entries hd _ =>
    have hmem : (k, c) ∈ entries := Node.mem_of_find?_eq_some hc
    by_cases hdense : Dense entries
    · -- the key names an index, whose slot holds the converted value
      obtain ⟨i, hi⟩ := Option.isSome_iff_exists.mp (hdense.1.2 (k, c) hmem)
      rw [listify_of_dense hd hdense, child?, hi, Option.bind_some]
      exact getElem?_indexList_listifyEntries hd hmem hi
    · rw [listify_of_not_dense hd hdense, child?, Node.find?_map_values]
      rw [child?] at hc
      rw [hc, Option.map_some]
  | bool | int | float | str => cases hc

theorem walk_listify :
    ∀ (path : List String) {v w : Value}, v.IndicesDistinct → v.walk path = some w →
      (EnvSource.listify v).walk path = some (EnvSource.listify w)
  | [], v, w, _, h => by
    cases h
    rfl
  | k :: rest, v, w, hv, h => by
    obtain ⟨c, hc, hw⟩ := Option.bind_eq_some_iff.mp h
    rw [walk, child?_listify hv hc, Option.bind_some]
    exact walk_listify rest (hv.child hc) hw

theorem IndicesDistinct.nodup {entries : Node} (h : (Value.node entries).IndicesDistinct) :
    (EnvSource.indices entries).Nodup := by
  cases h with
  | node hd _ => exact hd

end Value

namespace Node

theorem lookupSegments_nest_self (v : Value) :
    ∀ {path : List String}, path ≠ [] → (nest path v).lookupSegments path = some v
  | [k], _ => by simp [lookupSegments_singleton, nest, find?_cons]
  | k :: k2 :: rest, _ => by
    rw [lookupSegments_cons_cons, nest_cons_cons, find?_cons, if_pos rfl, Option.bind_some,
      Value.asNode?_node, Option.bind_some]
    exact lookupSegments_nest_self v (List.cons_ne_nil k2 rest)

theorem lookupSegments_nest_eq_none {v : Value} (hv : v.isNode = false) :
    ∀ (path q : List String), ¬ path <+: q → (nest q v).lookupSegments path = none
  | [], _, _ => rfl
  | _ :: _, [], _ => lookupSegments_empty _
  | [k], k' :: r, h => by
    have hk : k ≠ k' := by
      rintro rfl
      exact h ⟨r, rfl⟩
    cases r with
    | nil => simp [lookupSegments_singleton, nest, find?_cons, hk]
    | cons k2 r => simp [lookupSegments_singleton, nest_cons_cons, find?_cons, hk]
  | k :: k2 :: rest, [k'], _ => by
    rw [lookupSegments_cons_cons]
    simp only [nest, find?_cons, find?_nil]
    split
    · simp [Value.asNode?_eq_none hv]
    · rfl
  | k :: k2 :: rest, k' :: k2' :: r, h => by
    rw [lookupSegments_cons_cons, nest_cons_cons, find?_cons]
    by_cases hk : k = k'
    · subst hk
      have h' : ¬ (k2 :: rest) <+: (k2' :: r) := fun hp => h ((List.prefix_cons_inj k).mpr hp)
      rw [if_pos rfl, Option.bind_some, Value.asNode?_node, Option.bind_some]
      exact lookupSegments_nest_eq_none hv _ _ h'
    · rw [if_neg hk, find?_nil]
      rfl

theorem walk_of_lookupSegments :
    ∀ {n : Node} {path : List String} {w : Value}, n.lookupSegments path = some w →
      (Value.node n).walk path = some w
  | _, [], _, h => by simp at h
  | n, [k], w, h => by
    rw [lookupSegments_singleton] at h
    simp [Value.walk, Value.child?, h]
  | n, k :: k2 :: rest, w, h => by
    rw [lookupSegments_cons_cons] at h
    obtain ⟨c, hc, hw⟩ := Option.bind_eq_some_iff.mp h
    obtain ⟨x, hx, hxc⟩ := Option.bind_eq_some_iff.mp hc
    cases x with
    | node c' =>
      cases hxc
      rw [Value.walk, Value.child?, hx, Option.bind_some]
      exact walk_of_lookupSegments hw
    | _ => cases hxc

theorem foldl_merge_of_forall_none {α : Type} {g : α → Option Value} :
    ∀ {xs : List α}, (∀ x ∈ xs, g x = none) →
      ∀ acc, xs.foldl (fun acc x => Option.merge Value.merge acc (g x)) acc = acc
  | [], _, _ => rfl
  | x :: xs, h, acc => by
    rw [List.foldl_cons, h x List.mem_cons_self, Option.merge_none_right]
    exact foldl_merge_of_forall_none (fun y hy => h y (List.mem_cons_of_mem _ hy)) acc

theorem ofPairs_eq_merge_map (pairs : List (String × Value)) :
    ofPairs pairs = empty.merge (pairs.map fun p => nest (segments p.1) p.2) := by
  simp only [ofPairs_eq_foldl_merge_nest, merge, List.foldl_map, List.foldl_cons, List.foldl_nil]

theorem lookup_ofPairs_of_mem {pairs : List (String × Value)}
    (hleaves : ∀ q ∈ pairs, q.2.isNode = false) (hkeys : (pairs.map (·.1)).Nodup)
    {p : String} {v : Value} (hmem : (p, v) ∈ pairs)
    (hbelow : ∀ q ∈ pairs, segments p <+: segments q.1 → q.1 = p) :
    (ofPairs pairs).lookup p = some v := by
  have hsorted : ∀ n ∈ pairs.map (fun q => nest (segments q.1) q.2), n.Sorted := by
    intro n hn
    obtain ⟨q, hq, rfl⟩ := List.mem_map.mp hn
    exact nest_sorted _ (.leaf (hleaves q hq))
  have hbase : empty.lookup p = none := lookupSegments_empty _
  obtain ⟨pre, post, rfl⟩ := List.append_of_mem hmem
  -- every other key differs from the path, so its tree holds nothing there
  have hfresh : p ∉ (pre ++ post).map (·.1) := by
    rw [List.map_append, List.map_cons, List.nodup_middle, List.nodup_cons] at hkeys
    simpa using hkeys.1
  have hother : ∀ q ∈ pre ++ post, (nest (segments q.1) q.2).lookup p = none := by
    intro q hq
    have hq' : q ∈ pre ++ (p, v) :: post := by
      rcases List.mem_append.mp hq with hq | hq
      · exact List.mem_append_left _ hq
      · exact List.mem_append_right _ (List.mem_cons_of_mem _ hq)
    have hne : q.1 ≠ p := fun hqp => hfresh (List.mem_map.mpr ⟨q, hq, hqp⟩)
    exact lookupSegments_nest_eq_none (hleaves q hq') _ _ fun hp => hne (hbelow q hq' hp)
  rw [ofPairs_eq_merge_map, lookup_merge_fold hsorted, hbase, List.foldl_map, List.foldl_append,
    List.foldl_cons, foldl_merge_of_forall_none (fun q hq => hother q (List.mem_append_left _ hq)),
    Option.merge_none_left]
  have hown : (nest (segments p) v).lookup p = some v := lookupSegments_nest_self v (segments_ne_nil p)
  rw [hown, foldl_merge_of_forall_none (fun q hq => hother q (List.mem_append_right _ hq))]

end Node

namespace EnvSource

theorem configPath?_of_split {src : EnvSource} {name : String} (stripped : String)
    (pieces : List String) (hstart : name.startsWith src.head = true)
    (hstripped : String.ofList (name.toList.drop src.head.length) = stripped) (hne : stripped ≠ "")
    (hsep : src.separator ≠ "")
    (hsplit : Text.splitOnText (Text.toLower stripped) src.separator = pieces)
    (hpieces : ∀ piece ∈ pieces, piece ≠ "") :
    src.configPath? name = some (".".intercalate pieces) := by
  have hany : pieces.any (·.isEmpty) = false := by
    simpa using hpieces
  simp [configPath?, hstart, hstripped, hne, hsep, hsplit, hany]

theorem keysOrdered_foldl_addVar (src : EnvSource) :
    ∀ (vars : List (String × String)) {acc : Node}, acc.KeysOrdered →
      Node.KeysOrdered (vars.foldl src.addVar acc)
  | [], _, h => h
  | x :: rest, acc, h => by
    rw [List.foldl_cons]
    refine keysOrdered_foldl_addVar src rest ?_
    rw [addVar]
    split_ifs
    · exact h
    · split
      · exact h
      · exact h.set _ _

theorem keysOrdered_pathEntries (src : EnvSource) (vars : List (String × String)) :
    Node.KeysOrdered (src.pathEntries vars) :=
  keysOrdered_foldl_addVar src vars List.Pairwise.nil

theorem find?_addVar_self {src : EnvSource} (acc : Node) {x : String × String} {p : String}
    (hx : x.2 ≠ "") (hpath : src.configPath? x.1 = some p) :
    Node.find? (src.addVar acc x) p = some (.str x.2) := by
  rw [addVar, if_neg (by simpa using String.isEmpty_eq_false_iff.mpr hx), hpath]
  exact Node.find?_set_self _ _ _

theorem find?_addVar_of_ne {src : EnvSource} (acc : Node) {x : String × String} {p : String}
    (h : x.2 ≠ "" → src.configPath? x.1 ≠ some p) :
    Node.find? (src.addVar acc x) p = acc.find? p := by
  rw [addVar]
  split_ifs with hempty
  · rfl
  · split
    · rfl
    · next path hpath =>
      have hne : p ≠ path := fun hp =>
        h (String.isEmpty_eq_false_iff.mp (by simpa using hempty)) (hp ▸ hpath)
      exact Node.find?_set_of_ne hne _ _

theorem find?_foldl_addVar_of_forall {src : EnvSource} {p : String} :
    ∀ {post : List (String × String)} {acc : Node},
      (∀ y ∈ post, y.2 ≠ "" → src.configPath? y.1 ≠ some p) →
        Node.find? (post.foldl src.addVar acc) p = acc.find? p
  | [], _, _ => rfl
  | y :: rest, acc, h => by
    rw [List.foldl_cons, find?_foldl_addVar_of_forall fun y' hy' => h y' (List.mem_cons_of_mem _ hy'),
      find?_addVar_of_ne _ (h y List.mem_cons_self)]

theorem find?_pathEntries {src : EnvSource} (pre : List (String × String))
    {post : List (String × String)} {name value p : String} (hvalue : value ≠ "")
    (hpath : src.configPath? name = some p)
    (hlater : ∀ y ∈ post, y.2 ≠ "" → src.configPath? y.1 ≠ some p) :
    Node.find? (src.pathEntries (pre ++ (name, value) :: post)) p = some (.str value) := by
  rw [pathEntries, List.foldl_append, List.foldl_cons, find?_foldl_addVar_of_forall hlater]
  exact find?_addVar_self _ hvalue hpath

theorem read_eq {src : EnvSource} {vars : List (String × String)}
    (hd : (indices (Node.ofPairs (src.pathEntries vars))).Nodup) :
    src.read vars = if Dense (Node.ofPairs (src.pathEntries vars)) then []
      else (Node.ofPairs (src.pathEntries vars)).map fun e => (e.1, listify e.2) := by
  unfold read
  by_cases h : Dense (Node.ofPairs (src.pathEntries vars))
  · rw [listify_of_dense hd h, if_pos h]
    rfl
  · rw [listify_of_not_dense hd h, if_neg h]

theorem walk_read_of_counts {src : EnvSource} {pre post : List (String × String)}
    {name value p : String} (hvalue : value ≠ "") (hpath : src.configPath? name = some p)
    (hlater : ∀ y ∈ post, y.2 ≠ "" → src.configPath? y.1 ≠ some p)
    (habove : ∀ y ∈ pre ++ (name, value) :: post, y.2 ≠ "" →
      ∀ q, src.configPath? y.1 = some q → Node.segments p <+: Node.segments q → q = p)
    (hdistinct :
      (Value.node (Node.ofPairs (src.pathEntries (pre ++ (name, value) :: post)))).IndicesDistinct)
    (hroot : ¬ Dense (Node.ofPairs (src.pathEntries (pre ++ (name, value) :: post)))) :
    (Value.node (src.read (pre ++ (name, value) :: post))).walk (Node.segments p) =
      some (.str value) := by
  have hfind := find?_pathEntries pre hvalue hpath hlater
  have hkeys := (keysOrdered_pathEntries src (pre ++ (name, value) :: post)).nodup
  -- the path entries are texts under counted paths
  have hleaves : ∀ q ∈ src.pathEntries (pre ++ (name, value) :: post), q.2.isNode = false := by
    intro q hq
    obtain ⟨y, -, -, -, hy⟩ := mem_pathEntries q hq
    rw [hy]
    rfl
  have hbelow : ∀ q ∈ src.pathEntries (pre ++ (name, value) :: post),
      Node.segments p <+: Node.segments q.1 → q.1 = p := by
    intro q hq
    obtain ⟨y, hy, hyv, hyq, -⟩ := mem_pathEntries q hq
    exact habove y hy (String.isEmpty_eq_false_iff.mp hyv) q.1 hyq
  have hlook := Node.lookup_ofPairs_of_mem hleaves hkeys (Node.mem_of_find?_eq_some hfind) hbelow
  have hwalk := Value.walk_listify _ hdistinct (Node.walk_of_lookupSegments hlook)
  rw [listify_of_not_dense hdistinct.nodup hroot] at hwalk
  rw [read_eq hdistinct.nodup, if_neg hroot]
  exact hwalk

/-- Where no two keys of a node name one index, index nodes become lists and nothing is lost. -/
theorem index_nodes_become_lists_losing_nothing :
    (∀ entries : List (String × Value), (indices entries).Nodup →
      (Dense entries → ∃ items, listify (.node entries) = .list items ∧
        items.length = maxIndex entries + 1 ∧
        (∀ e ∈ entries, ∀ i, index? e.1 = some i → items[i]? = some (listify e.2)) ∧
        (∀ i ≤ maxIndex entries, (∀ e ∈ entries, index? e.1 ≠ some i) →
          items[i]? = some (.node []))) ∧
      (¬ Dense entries → listify (.node entries) = .node (entries.map fun e => (e.1, listify e.2))) ∧
      (Nat.pow 2 64 - 1 ∈ indices entries →
        listify (.node entries) = .node (entries.map fun e => (e.1, listify e.2)))) ∧
    (∀ (path : List String) (v w : Value), v.IndicesDistinct → v.walk path = some w →
      (listify v).walk path = some (listify w)) ∧
    (∀ (src : EnvSource) (pre post : List (String × String)) (name value p : String),
      value ≠ "" → src.configPath? name = some p →
      (∀ y ∈ post, y.2 ≠ "" → src.configPath? y.1 ≠ some p) →
      (∀ y ∈ pre ++ (name, value) :: post, y.2 ≠ "" →
        ∀ q, src.configPath? y.1 = some q → Node.segments p <+: Node.segments q → q = p) →
      (Value.node (Node.ofPairs (src.pathEntries (pre ++ (name, value) :: post)))).IndicesDistinct →
      (¬ Dense (Node.ofPairs (src.pathEntries (pre ++ (name, value) :: post))) →
        (Value.node (src.read (pre ++ (name, value) :: post))).walk (Node.segments p) =
          some (.str value)) ∧
      (Dense (Node.ofPairs (src.pathEntries (pre ++ (name, value) :: post))) →
        src.read (pre ++ (name, value) :: post) = [])) := by
  refine ⟨fun entries hd => ⟨fun hdense => ?_, fun hsparse => ?_, fun hmax => ?_⟩,
    fun path _ _ => Value.walk_listify path, ?_⟩
  · refine ⟨indexList (listifyEntries entries), listify_of_dense hd hdense, ?_,
      fun e he i hi => getElem?_indexList_listifyEntries hd he hi, fun i hi hgap => ?_⟩
    · rw [length_indexList, maxIndex_listifyEntries]
    · -- a gap of the node is a gap of its converted entries, which have the same keys
      refine getElem?_indexList_of_gap (by rwa [maxIndex_listifyEntries]) fun e he => ?_
      rw [listifyEntries_eq_map] at he
      obtain ⟨e', he', rfl⟩ := List.mem_map.mp he
      exact hgap e' he'
  · exact listify_of_not_dense hd hsparse
  · -- one past `2^64 - 1` is no machine word
    have hsparse : ¬ Dense entries := fun h => by
      have hle := le_maxIndex hmax
      have hlt := h.2.2
      omega
    exact listify_of_not_dense hd hsparse
  · intro src pre post name value p hvalue hpath hlater habove hdistinct
    refine ⟨walk_read_of_counts hvalue hpath hlater habove hdistinct, fun hdense => ?_⟩
    rw [read_eq hdistinct.nodup, if_pos hdense]

theorem index_nodes_become_lists_losing_nothing_later_key :
    let src : EnvSource := { head := "APP_" }
    let vars : List (String × String) := [("APP_B", "1"), ("APP_A", "x")]
    src.configPath? "APP_A" = some "a" ∧
      (Value.node (Node.ofPairs (src.pathEntries vars))).IndicesDistinct ∧
      ¬ Dense (Node.ofPairs (src.pathEntries vars)) ∧
      (Value.node (src.read vars)).walk (Node.segments "a") = some (.str "x") := by
  intro src vars
  have hsplit : ∀ c : Char, Text.splitOnText (String.singleton c) "__" = [String.singleton c] := by
    intro c
    simp [Text.splitOnText, Text.splitChars]
  have hA : src.configPath? "APP_A" = some "a" :=
    configPath?_of_split "A" ["a"] (by simp [src]) (by decide) (by decide) (by decide)
      (by rw [show Text.toLower "A" = "a" by decide]; exact hsplit 'a') (by simp)
  have hB : src.configPath? "APP_B" = some "b" :=
    configPath?_of_split "B" ["b"] (by simp [src]) (by decide) (by decide) (by decide)
      (by rw [show Text.toLower "B" = "b" by decide]; exact hsplit 'b') (by simp)
  have hentries : Node.ofPairs (src.pathEntries vars) = [("a", .str "x"), ("b", .str "1")] := by
    rw [pathEntries, List.foldl_cons, List.foldl_cons, List.foldl_nil, addVar, addVar, if_neg (by decide), hB, if_neg (by decide), hA]
    show Node.ofPairs (Node.set "a" (.str "x") (Node.set "b" (.str "1") [])) = _
    have hset : Node.set "a" (.str "x") (Node.set "b" (.str "1") []) = [("a", .str "x"), ("b", .str "1")] := by rfl
    rw [hset, Node.ofPairs, List.foldl_cons, List.foldl_cons, List.foldl_nil]
    simp only [Node.segments_of_undotted (by decide : '.' ∉ "a".toList),
      Node.segments_of_undotted (by decide : '.' ∉ "b".toList)]
    rfl
  have hdistinct : (Value.node (Node.ofPairs (src.pathEntries vars))).IndicesDistinct := by
    rw [hentries]
    refine .node (by decide) fun e he => ?_
    rcases List.mem_pair.mp he with rfl | rfl <;> exact .str _
  have hsparse : ¬ Dense (Node.ofPairs (src.pathEntries vars)) := by
    rw [hentries]
    decide
  -- the other variable's path does not extend the path read
  have habove : ∀ y ∈ [("APP_B", "1")] ++ [("APP_A", "x")], y.2 ≠ "" →
      ∀ q, src.configPath? y.1 = some q → Node.segments "a" <+: Node.segments q → q = "a" := by
    intro y hy _ q hq hprefix
    rcases List.mem_pair.mp hy with rfl | rfl
    · rw [hB, Option.some.injEq] at hq
      subst hq
      rw [Node.segments_of_undotted (by decide), Node.segments_of_undotted (by decide)] at hprefix
      simp at hprefix
    · rw [hA, Option.some.injEq] at hq
      exact hq.symm
  refine ⟨hA, hdistinct, hsparse, ?_⟩
  exact (index_nodes_become_lists_losing_nothing.2.2 src [("APP_B", "1")] [] "APP_A" "x" "a"
    (by decide) hA (by simp) habove hdistinct).1 hsparse
/-- Index lists lose entries in two ways. -/
theorem index_lists_drop_entries :
    listify (.node [("01", .str "b"), ("1", .str "a")]) = .list [.node [], .str "a"] ∧
      configPath? { head := "APP_" } "APP_0" = some "0" ∧
      read { head := "APP_" } [("APP_0", "x")] = [] := by
  have hpath : EnvSource.configPath? { head := "APP_" } "APP_0" = some "0" :=
    configPath?_of_split "0" ["0"] (by simp) (by decide) (by decide) (by decide)
      (by rw [show Text.toLower "0" = "0" by decide]; simp [Text.splitOnText, Text.splitChars]) (by simp)
  have hentries : Node.ofPairs (EnvSource.pathEntries { head := "APP_" } [("APP_0", "x")]) =
      [("0", .str "x")] := by
    have hsegments : Node.segments "0" = ["0"] := Node.segments_of_undotted (by decide)
    rw [pathEntries, List.foldl_cons, List.foldl_nil, addVar, if_neg (by decide), hpath]
    show Node.ofPairs [("0", .str "x")] = _
    rw [Node.ofPairs_singleton, hsegments]
    rfl
  have hd : (indices (Node.ofPairs (EnvSource.pathEntries { head := "APP_" } [("APP_0", "x")]))).Nodup := by
    rw [hentries]
    decide
  refine ⟨rfl, hpath, ?_⟩
  rw [read_eq hd, if_pos (by rw [hentries]; decide)]

end EnvSource

end ConfigTree
