import ConfigTree.Proofs.Node.Layers
import ConfigTree.Proofs.Node.Expand
import ConfigTree.Proofs.Node.Resolution
import ConfigTree.Source.Env
import ConfigTree.Source.Properties
import ConfigTree.Source.Layers
import ConfigTree.Node.Json

namespace ConfigTree

/-- No key holds a dot, in any node reached through nodes and lists. -/
inductive Value.Undotted : Value → Prop
  | bool (b : Bool) : (Value.bool b).Undotted
  | int (i : Int) : (Value.int i).Undotted
  | float (x : Double) : (Value.float x).Undotted
  | str (s : String) : (Value.str s).Undotted
  | list {items : List Value} : (∀ v ∈ items, v.Undotted) → (Value.list items).Undotted
  | node {entries : Node} : (∀ e ∈ entries, '.' ∉ e.1.toList) → (∀ e ∈ entries, e.2.Undotted) →
      (Value.node entries).Undotted

/-- No key of the node holds a dot, at any depth. -/
def Node.Undotted (n : Node) : Prop := (Value.node n).Undotted

/-- Keys sorted in every node reached through nodes, and no dotted key anywhere. -/
structure Value.WellKeyed (v : Value) : Prop where
  sorted : v.Sorted
  undotted : v.Undotted

namespace Node

theorem undotted_iff {n : Node} :
    n.Undotted ↔ (∀ e ∈ n, '.' ∉ e.1.toList) ∧ ∀ e ∈ n, e.2.Undotted := by
  constructor
  · intro h
    cases h with
    | node hk hv => exact ⟨hk, hv⟩
  · rintro ⟨hk, hv⟩
    exact .node hk hv

theorem Undotted.set {n : Node} (hn : n.Undotted) {k : String} (hk : '.' ∉ k.toList) {v : Value}
    (hv : v.Undotted) : (n.set k v).Undotted := by
  obtain ⟨hks, hvs⟩ := undotted_iff.mp hn
  refine undotted_iff.mpr ⟨fun e he => ?_, fun e he => ?_⟩ <;> rcases mem_set he with rfl | he
  · exact hk
  · exact hks e he
  · exact hv
  · exact hvs e he

theorem Undotted.mergeEntries_of {a : Node} (ha : a.Undotted) {b : List (String × Value)}
    (hb : ∀ e ∈ b, '.' ∉ e.1.toList ∧ e.2.Undotted ∧ ∀ x : Value, x.Undotted → (x.merge e.2).Undotted) :
    (a.mergeEntries b).Undotted := by
  induction b generalizing a with
  | nil => simpa [mergeEntries_nil] using ha
  | cons e rest ih =>
    obtain ⟨k, v⟩ := e
    obtain ⟨hk, hv, hmerge⟩ := hb (k, v) List.mem_cons_self
    rw [mergeEntries_cons]
    refine ih (ha.set hk ?_) fun e he => hb e (List.mem_cons_of_mem _ he)
    cases hfind : a.find? k with
    | none => exact hv
    | some x => exact hmerge x ((undotted_iff.mp ha).2 _ (mem_of_find?_eq_some hfind))

end Node

namespace Value

theorem Undotted.merge {x y : Value} (hx : x.Undotted) (hy : y.Undotted) : (x.merge y).Undotted := by
  induction hy generalizing x with
  | node hk hv ih =>
    cases hx with
    | node hk' hv' =>
      exact Node.Undotted.mergeEntries_of (.node hk' hv') fun e he =>
        ⟨hk e he, hv e he, fun _ hx => ih e he hx⟩
    | _ => exact .node hk hv
  | list hitems =>
    cases hx with
    | node hk' hv' => exact .node hk' hv'
    | _ => exact .list hitems
  | bool b => cases hx with
    | node hk' hv' => exact .node hk' hv'
    | _ => exact .bool b
  | int i => cases hx with
    | node hk' hv' => exact .node hk' hv'
    | _ => exact .int i
  | float f => cases hx with
    | node hk' hv' => exact .node hk' hv'
    | _ => exact .float f
  | str s => cases hx with
    | node hk' hv' => exact .node hk' hv'
    | _ => exact .str s

end Value

namespace Node

theorem Undotted.mergeEntries {a b : Node} (ha : a.Undotted) (hb : b.Undotted) :
    (a.mergeEntries b).Undotted :=
  Value.Undotted.merge ha hb

theorem empty_undotted : empty.Undotted := .node (by simp [empty]) (by simp [empty])

theorem Undotted.merge {base : Node} (hb : base.Undotted) {ns : List Node}
    (hns : ∀ n ∈ ns, n.Undotted) : (base.merge ns).Undotted := by
  induction ns generalizing base with
  | nil => exact hb
  | cons n ns ih =>
    exact ih (hb.mergeEntries (hns n List.mem_cons_self)) fun m hm =>
      hns m (List.mem_cons_of_mem _ hm)

theorem nest_undotted {path : List String} (hpath : ∀ k ∈ path, '.' ∉ k.toList) {v : Value}
    (hv : v.Undotted) : (nest path v).Undotted := by
  induction path with
  | nil => exact empty_undotted
  | cons k rest ih =>
    have hk : '.' ∉ k.toList := hpath k List.mem_cons_self
    cases rest with
    | nil => exact .node (by simpa [nest] using hk) (by simpa [nest] using hv)
    | cons k2 rest =>
      rw [nest_cons_cons]
      refine .node (by simpa using hk) fun e he => ?_
      rw [List.mem_singleton.mp he]
      exact ih fun j hj => hpath j (List.mem_cons_of_mem _ hj)

theorem ofPairs_undotted {pairs : List (String × Value)} (h : ∀ p ∈ pairs, p.2.Undotted) :
    (ofPairs pairs).Undotted := by
  rw [ofPairs_eq_foldl_merge_nest]
  suffices ∀ acc : Node, acc.Undotted →
      (pairs.foldl (fun acc p => acc.merge [nest (segments p.1) p.2]) acc).Undotted from
    this empty empty_undotted
  induction pairs with
  | nil => exact fun acc hacc => hacc
  | cons p rest ih =>
    intro acc hacc
    have hnest : (nest (segments p.1) p.2).Undotted :=
      nest_undotted (fun _ hk => dot_not_mem_of_mem_segments hk) (h p List.mem_cons_self)
    exact ih (fun q hq => h q (List.mem_cons_of_mem _ hq)) _ (hacc.mergeEntries hnest)

theorem ofPairs_wellKeyed {pairs : List (String × Value)} (h : ∀ p ∈ pairs, p.2.WellKeyed) :
    (Value.node (ofPairs pairs)).WellKeyed :=
  ⟨ofPairs_sorted pairs fun p hp => (h p hp).sorted,
    ofPairs_undotted fun p hp => (h p hp).undotted⟩

theorem empty_wellKeyed : (Value.node empty).WellKeyed := ⟨empty_sorted, empty_undotted⟩

end Node

namespace Value

theorem mapTextsItems_eq_map (f : String → String) (items : List Value) :
    mapTextsItems f items = items.map (mapTexts f) := by
  induction items with
  | nil => rfl
  | cons v rest ih => rw [mapTextsItems, ih, List.map_cons]

theorem mapTextsEntries_eq_map (f : String → String) (entries : List (String × Value)) :
    mapTextsEntries f entries = entries.map fun e => (e.1, mapTexts f e.2) := by
  induction entries with
  | nil => rfl
  | cons e rest ih => rw [mapTextsEntries, ih, List.map_cons]

theorem isNode_mapTexts (f : String → String) (v : Value) : (v.mapTexts f).isNode = v.isNode := by
  cases v <;> rfl

theorem Sorted.mapTexts {v : Value} (hv : v.Sorted) (f : String → String) : (v.mapTexts f).Sorted := by
  induction hv with
  | leaf h => exact .leaf ((isNode_mapTexts f _).trans h)
  | @node entries hk _ ih =>
    rw [Value.mapTexts, mapTextsEntries_eq_map]
    refine .node (List.pairwise_map.mpr hk) fun e he => ?_
    obtain ⟨e', he', rfl⟩ := List.mem_map.mp he
    exact ih e' he'

theorem Undotted.mapTexts {v : Value} (hv : v.Undotted) (f : String → String) :
    (v.mapTexts f).Undotted := by
  induction hv with
  | bool b => exact .bool b
  | int i => exact .int i
  | float x => exact .float x
  | str s => exact .str _
  | list _ ih =>
    rw [Value.mapTexts, mapTextsItems_eq_map]
    exact .list fun w hw => by
      obtain ⟨v, hv, rfl⟩ := List.mem_map.mp hw
      exact ih v hv
  | @node entries hk _ ih =>
    rw [Value.mapTexts, mapTextsEntries_eq_map]
    refine .node (fun e he => ?_) fun e he => ?_ <;> obtain ⟨e', he', rfl⟩ := List.mem_map.mp he
    · exact hk e' he'
    · exact ih e' he'

end Value

theorem Node.resolve_wellKeyed {n : Node} (hn : (Value.node n).WellKeyed) (lookup : Node) :
    (Value.node (n.resolve lookup)).WellKeyed := by
  rw [Node.resolve_eq_mapTexts]
  exact ⟨hn.sorted.mapTexts _, hn.undotted.mapTexts _⟩

theorem forall_mem_foldl {γ δ : Type} {P : γ → Prop} {f : List γ → δ → List γ} {xs : List δ}
    (hf : ∀ acc, ∀ x ∈ xs, (∀ p ∈ acc, P p) → ∀ p ∈ f acc x, P p) (acc : List γ)
    (hacc : ∀ p ∈ acc, P p) : ∀ p ∈ xs.foldl f acc, P p := by
  induction xs generalizing acc with
  | nil => exact hacc
  | cons x xs ih =>
    exact ih (fun acc y hy => hf acc y (List.mem_cons_of_mem _ hy)) (f acc x)
      (hf acc x List.mem_cons_self hacc)

namespace EnvSource

theorem listifyItems_eq_map (items : List Value) : listifyItems items = items.map listify := by
  induction items with
  | nil => rfl
  | cons v rest ih => rw [listifyItems, ih, List.map_cons]

theorem listifyEntries_eq_map (entries : List (String × Value)) :
    listifyEntries entries = entries.map fun e => (e.1, listify e.2) := by
  induction entries with
  | nil => rfl
  | cons e rest ih => rw [listifyEntries, ih, List.map_cons]

theorem mem_of_mapM_eq_some {α β : Type} {f : α → Option β} :
    ∀ {xs : List α} {ys : List β}, xs.mapM f = some ys → ∀ y ∈ ys, ∃ x ∈ xs, f x = some y
  | [], ys, h => by
    simp only [List.mapM_nil] at h
    cases h
    simp
  | x :: xs, ys, h => by
    simp only [List.mapM_cons, Option.bind_eq_bind, Option.bind_eq_some_iff, Option.pure_def,
      Option.some.injEq] at h
    obtain ⟨y, hy, ys', hys, rfl⟩ := h
    intro z hz
    rcases List.mem_cons.mp hz with rfl | hz
    · exact ⟨x, List.mem_cons_self, hy⟩
    · obtain ⟨w, hw, hwz⟩ := mem_of_mapM_eq_some hys z hz
      exact ⟨w, List.mem_cons_of_mem _ hw, hwz⟩

theorem mem_range_map_lookup {slots : List (Nat × Value)} {n : Nat} {v : Value}
    (hv : v ∈ (List.range n).map fun i => (slots.lookup i).getD (.node [])) :
    v = .node [] ∨ ∃ i, (i, v) ∈ slots := by
  obtain ⟨i, -, rfl⟩ := List.mem_map.mp hv
  cases hlook : slots.lookup i with
  | none => exact .inl rfl
  | some w =>
    obtain ⟨l₁, l₂, rfl, -⟩ := List.lookup_eq_some_iff.mp hlook
    exact .inr ⟨i, by simp⟩

theorem mem_of_asList? {entries : List (String × Value)} {items : List Value}
    (h : asList? entries = some items) : ∀ v ∈ items, v = .node [] ∨ ∃ e ∈ entries, e.2 = v := by
  unfold asList? at h
  split_ifs at h
  split at h
  · cases h
  · next indexed hindexed =>
    dsimp only at h
    split_ifs at h
    cases h
    intro v hv
    rcases mem_range_map_lookup hv with hgap | ⟨i, hslot⟩
    · exact .inl hgap
    -- a slot holds one of the indexed values
    have hindexed' : (i, v) ∈ indexed := by
      refine forall_mem_foldl (P := (· ∈ indexed)) (fun acc x hx hacc p hp => ?_) [] (by simp) _ hslot
      obtain ⟨j, w⟩ := x
      simp only [List.mem_append, List.mem_filter, List.mem_singleton] at hp
      rcases hp with ⟨hp, -⟩ | rfl
      · exact hacc p hp
      · exact hx
    obtain ⟨⟨k, w⟩, he, hkw⟩ := mem_of_mapM_eq_some hindexed (i, v) hindexed'
    simp only [Option.map_eq_some_iff, Prod.mk.injEq] at hkw
    obtain ⟨_, _, -, rfl⟩ := hkw
    exact .inr ⟨(k, w), he, rfl⟩

theorem isNode_listify {v : Value} (h : v.isNode = false) : (listify v).isNode = false := by
  cases v <;> simp_all [listify, Value.isNode]

end EnvSource

open EnvSource in
theorem Value.Sorted.listify {v : Value} (hv : v.Sorted) : (listify v).Sorted := by
  induction hv with
  | leaf h => exact .leaf (isNode_listify h)
  | @node entries hk _ ih =>
    rw [EnvSource.listify]
    split
    · exact .leaf rfl
    · rw [listifyEntries_eq_map]
      refine .node (List.pairwise_map.mpr hk) fun e he => ?_
      obtain ⟨e', he', rfl⟩ := List.mem_map.mp he
      exact ih e' he'

open EnvSource in
theorem Value.Undotted.listify {v : Value} (hv : v.Undotted) : (listify v).Undotted := by
  induction hv with
  | bool b => exact .bool b
  | int i => exact .int i
  | float x => exact .float x
  | str s => exact .str s
  | list _ ih =>
    rw [EnvSource.listify, listifyItems_eq_map]
    exact .list fun w hw => by
      obtain ⟨v, hv, rfl⟩ := List.mem_map.mp hw
      exact ih v hv
  | @node entries hk _ ih =>
    have hentries : ∀ e ∈ listifyEntries entries, '.' ∉ e.1.toList ∧ e.2.Undotted := by
      rw [listifyEntries_eq_map]
      intro e he
      obtain ⟨e', he', rfl⟩ := List.mem_map.mp he
      exact ⟨hk e' he', ih e' he'⟩
    rw [EnvSource.listify]
    split
    · next items hitems =>
      refine .list fun w hw => ?_
      rcases mem_of_asList? hitems w hw with rfl | ⟨e, he, rfl⟩
      · exact .node (by simp) (by simp)
      · exact (hentries e he).2
    · exact .node (fun e he => (hentries e he).1) fun e he => (hentries e he).2

namespace EnvSource

theorem mem_pathEntries {src : EnvSource} {vars : List (String × String)} :
    ∀ p ∈ src.pathEntries vars,
      ∃ x ∈ vars, x.2.isEmpty = false ∧ src.configPath? x.1 = some p.1 ∧ p.2 = .str x.2 := by
  unfold pathEntries
  refine forall_mem_foldl (fun acc x hx hacc p hp => ?_) [] (by simp)
  rw [addVar] at hp
  split_ifs at hp with hempty
  · exact hacc p hp
  · split at hp
    · exact hacc p hp
    · next path hpath =>
      rcases Node.mem_set hp with rfl | hp
      · exact ⟨x, hx, by simpa using hempty, hpath, rfl⟩
      · exact hacc p hp

theorem read_wellKeyed (src : EnvSource) (vars : List (String × String)) :
    (Value.node (src.read vars)).WellKeyed := by
  unfold read
  split
  · next n hn =>
    rw [← hn]
    -- before the index nodes become lists, the paths hold texts
    have hpaths : ∀ p ∈ src.pathEntries vars, p.2.WellKeyed := fun p hp => by
      obtain ⟨x, -, -, -, hp2⟩ := mem_pathEntries p hp
      rw [hp2]
      exact ⟨.leaf rfl, .str x.2⟩
    exact ⟨(Node.ofPairs_wellKeyed hpaths).sorted.listify,
      (Node.ofPairs_wellKeyed hpaths).undotted.listify⟩
  · exact Node.empty_wellKeyed

end EnvSource

theorem mem_of_mem_presentEntries :
    ∀ {l : List (String × Option Value)} {p : String × Value}, p ∈ presentEntries l → (p.1, some p.2) ∈ l
  | [], _, h => by simp [presentEntries] at h
  | (k, some v) :: rest, p, h => by
    rcases List.mem_cons.mp h with rfl | h
    · exact List.mem_cons_self
    · exact List.mem_cons_of_mem _ (mem_of_mem_presentEntries h)
  | (_, none) :: rest, _, h => List.mem_cons_of_mem _ (mem_of_mem_presentEntries h)

namespace Value

mutual

theorem ofJson_wellKeyed : ∀ {j : Json} {v : Value}, Value.ofJson j = some v → v.WellKeyed
  | .null, _, h => by simp [Value.ofJson] at h
  | .bool b, _, h => by
    cases h
    exact ⟨.leaf rfl, .bool b⟩
  | .int i, _, h => by
    simp only [Value.ofJson] at h
    split_ifs at h <;> cases h
    · exact ⟨.leaf rfl, .int i⟩
    · exact ⟨.leaf rfl, .str _⟩
    · exact ⟨.leaf rfl, .float _⟩
  | .float x, _, h => by
    cases h
    exact ⟨.leaf rfl, .float x⟩
  | .str s, _, h => by
    cases h
    exact ⟨.leaf rfl, .str s⟩
  | .arr items, _, h => by
    cases h
    exact ⟨.leaf rfl, .list fun _ hv => (ofJsonItems_wellKeyed hv).undotted⟩
  | .obj members, _, h => by
    cases h
    refine Node.ofPairs_wellKeyed fun p hp => ?_
    exact ofJsonPairs_wellKeyed (mem_of_mem_presentEntries hp) rfl

theorem ofJsonItems_wellKeyed : ∀ {js : List Json} {v : Value}, v ∈ Value.ofJsonItems js → v.WellKeyed
  | [], _, h => by simp [Value.ofJsonItems] at h
  | j :: rest, v, h => by
    simp only [Value.ofJsonItems] at h
    split at h
    · next w hw =>
      rcases List.mem_cons.mp h with rfl | h
      · exact ofJson_wellKeyed hw
      · exact ofJsonItems_wellKeyed h
    · exact ofJsonItems_wellKeyed h

theorem ofJsonPairs_wellKeyed :
    ∀ {ms : List (String × Json)} {p : String × Option Value} {v : Value},
      p ∈ Value.ofJsonPairs ms → p.2 = some v → v.WellKeyed
  | [], _, _, h, _ => by simp [Value.ofJsonPairs] at h
  | (_, j) :: rest, p, v, h, hv => by
    rcases List.mem_cons.mp h with rfl | h
    · exact ofJson_wellKeyed hv
    · exact ofJsonPairs_wellKeyed h hv

end

end Value

theorem Node.ofJson_wellKeyed {j : Json} {n : Node} (h : Node.ofJson j = .ok n) :
    (Value.node n).WellKeyed := by
  unfold Node.ofJson at h
  split at h
  · next n' hn' =>
    cases h
    exact Value.ofJson_wellKeyed hn'
  · cases h
  · cases h
    exact Node.empty_wellKeyed

theorem Node.ofProperties_wellKeyed (text : String) : (Value.node (Node.ofProperties text)).WellKeyed := by
  refine Node.ofPairs_wellKeyed fun p hp => ?_
  obtain ⟨⟨k, v⟩, -, rfl⟩ := List.mem_map.mp hp
  exact ⟨.leaf rfl, .str v⟩

/-- The values the library's public operations build: flags, integers, binary numbers and texts,
lists of built values, and the nodes of the node constructors (the empty node, dotted pairs of built
values, JSON documents, among them those a provider reads from a file, `.properties` text,
environment variables) and of merging and resolving built nodes. -/
inductive Value.Constructed : Value → Prop
  | bool (b : Bool) : (Value.bool b).Constructed
  | int (i : Int) : (Value.int i).Constructed
  | float (x : Double) : (Value.float x).Constructed
  | str (s : String) : (Value.str s).Constructed
  | list {items : List Value} : (∀ v ∈ items, v.Constructed) → (Value.list items).Constructed
  | empty : (Value.node Node.empty).Constructed
  | ofPairs {pairs : List (String × Value)} : (∀ p ∈ pairs, p.2.Constructed) →
      (Value.node (Node.ofPairs pairs)).Constructed
  | ofJson {j : Json} {v : Value} : Value.ofJson j = some v → v.Constructed
  | nodeOfJson {j : Json} {n : Node} : Node.ofJson j = .ok n → (Value.node n).Constructed
  | ofProperties (text : String) : (Value.node (Node.ofProperties text)).Constructed
  | ofEnv (src : EnvSource) (vars : List (String × String)) :
      (Value.node (src.read vars)).Constructed
  | merge {base : Node} {others : List Node} : (Value.node base).Constructed →
      (∀ n ∈ others, (Value.node n).Constructed) → (Value.node (base.merge others)).Constructed
  | mergeAll {nodes : List Node} : (∀ n ∈ nodes, (Value.node n).Constructed) →
      (Value.node (Node.mergeAll nodes)).Constructed
  | resolve {n lookup : Node} : (Value.node n).Constructed → (Value.node lookup).Constructed →
      (Value.node (n.resolve lookup)).Constructed
  | resolveSelf {n : Node} : (Value.node n).Constructed → (Value.node n.resolveSelf).Constructed

theorem Value.Constructed.wellKeyed {v : Value} (h : v.Constructed) : v.WellKeyed := by
  induction h with
  | bool b => exact ⟨.leaf rfl, .bool b⟩
  | int i => exact ⟨.leaf rfl, .int i⟩
  | float x => exact ⟨.leaf rfl, .float x⟩
  | str s => exact ⟨.leaf rfl, .str s⟩
  | list _ ih => exact ⟨.leaf rfl, .list fun v hv => (ih v hv).undotted⟩
  | empty => exact Node.empty_wellKeyed
  | ofPairs _ ih => exact Node.ofPairs_wellKeyed ih
  | ofJson h => exact Value.ofJson_wellKeyed h
  | nodeOfJson h => exact Node.ofJson_wellKeyed h
  | ofProperties text => exact Node.ofProperties_wellKeyed text
  | ofEnv src vars => exact EnvSource.read_wellKeyed src vars
  | merge _ _ ihb ihs =>
    exact ⟨Node.Sorted.merge ihb.sorted fun n hn => (ihs n hn).sorted,
      Node.Undotted.merge ihb.undotted fun n hn => (ihs n hn).undotted⟩
  | mergeAll _ ih =>
    exact ⟨Node.Sorted.mergeAll fun n hn => (ih n hn).sorted,
      Node.empty_undotted.merge fun n hn => (ih n hn).undotted⟩
  | resolve _ _ ihn _ => exact Node.resolve_wellKeyed ihn _
  | resolveSelf _ ih => exact Node.resolve_wellKeyed ih _

theorem readLayer_constructed {extract : String → Except String Json} {text : String} {n : Node}
    (h : readLayer extract text = .ok n) : (Value.node n).Constructed := by
  unfold readLayer at h
  split at h
  · exact .nodeOfJson h
  · cases h

theorem Layers.load_constructed {extract : String → Except String Json} {l : Layers} {n : Node}
    (h : l.load extract = .ok n) : (Value.node n).Constructed := by
  obtain ⟨defaults, file, env, resolve⟩ := l
  rcases env with _ | ⟨src, vars⟩ <;>
    simp only [Layers.load, bind, Except.bind, pure, Except.pure, throw, throwThe,
      MonadExceptOf.throw] at h <;>
    repeat' split at h
  -- one goal per way the load succeeds, with the documents read on the way; the failures close
  all_goals cases h
  all_goals first
    | refine .resolveSelf (.mergeAll fun m hm => ?_)
    | refine .mergeAll fun m hm => ?_
  all_goals
    simp only [List.mem_append, List.mem_singleton, List.not_mem_nil, or_false, false_or] at hm
  all_goals
    try casesm* _ ∨ _
    all_goals subst_vars
  all_goals first
    | exact .ofEnv src vars
    | exact readLayer_constructed ‹_›

namespace Node

theorem foldl_merge_nest_of_undotted (acc : Node) {entries : List (String × Value)}
    (hk : ∀ e ∈ entries, '.' ∉ e.1.toList) :
    entries.foldl (fun acc p => acc.merge [nest (segments p.1) p.2]) acc = acc.mergeEntries entries := by
  induction entries generalizing acc with
  | nil => exact (mergeEntries_nil acc).symm
  | cons e rest ih =>
    -- a key without a dot is one segment, so its tree is the entry itself
    rw [List.foldl_cons, segments_of_undotted (hk e List.mem_cons_self),
      ih _ fun e he => hk e (List.mem_cons_of_mem _ he)]
    obtain ⟨k, v⟩ := e
    simp only [nest, merge_singleton, mergeEntries_cons, mergeEntries_nil]

theorem ofPairs_self {n : Node} (hn : (Value.node n).WellKeyed) : ofPairs n = n := by
  rw [ofPairs_eq_foldl_merge_nest,
    foldl_merge_nest_of_undotted empty (undotted_iff.mp hn.undotted).1,
    empty_mergeEntries (Sorted.keysOrdered hn.sorted)]

theorem find?_eq_some_of_mem {n : Node} (hn : n.KeysOrdered) {k : String} {v : Value}
    (h : (k, v) ∈ n) : n.find? k = some v := by
  induction n with
  | nil => simp at h
  | cons e rest ih =>
    obtain ⟨k', v'⟩ := e
    have hlt : ∀ e ∈ rest, k' < e.1 := fun e he => List.rel_of_pairwise_cons hn he
    rw [find?_cons]
    rcases List.mem_cons.mp h with h | h
    · obtain ⟨rfl, rfl⟩ := Prod.mk.inj h
      simp
    · have hne : k ≠ k' := fun heq => (hlt (k, v) h).ne heq.symm
      rw [if_neg hne]
      exact ih hn.of_cons h

/-- A chain of keys that leads, through nested nodes, to a value. -/
inductive Reaches : Node → List String → Value → Prop
  | here {n : Node} {k : String} {v : Value} : (k, v) ∈ n → Reaches n [k] v
  | down {n c : Node} {k : String} {ks : List String} {v : Value} :
      (k, .node c) ∈ n → Reaches c ks v → Reaches n (k :: ks) v

theorem Reaches.ne_nil {n : Node} {ks : List String} {v : Value} (h : n.Reaches ks v) : ks ≠ [] := by
  cases h <;> simp

theorem Reaches.keys_undotted {n : Node} {ks : List String} {v : Value} (h : n.Reaches ks v)
    (hn : n.Undotted) : ∀ k ∈ ks, '.' ∉ k.toList := by
  induction h with
  | here hkv =>
    intro k hk
    rw [List.mem_singleton.mp hk]
    exact (undotted_iff.mp hn).1 _ hkv
  | down hkc _ ih =>
    intro k hk
    obtain ⟨hks, hvs⟩ := undotted_iff.mp hn
    rcases List.mem_cons.mp hk with rfl | hk
    · exact hks _ hkc
    · exact ih (hvs _ hkc) k hk

theorem Reaches.lookupSegments {n : Node} {ks : List String} {v : Value} (h : n.Reaches ks v)
    (hn : n.Sorted) : n.lookupSegments ks = some v := by
  induction h with
  | here hkv => exact find?_eq_some_of_mem hn.keysOrdered hkv
  | @down n c k ks v hkc hc ih =>
    obtain ⟨k2, rest, rfl⟩ := List.exists_cons_of_ne_nil hc.ne_nil
    rw [lookupSegments_cons_cons, find?_eq_some_of_mem hn.keysOrdered hkc]
    exact ih (hn.of_mem hkc)

theorem Reaches.lookup {n : Node} {ks : List String} {v : Value} (h : n.Reaches ks v)
    (hn : (Value.node n).WellKeyed) : n.lookup (".".intercalate ks) = some v := by
  rw [Node.lookup, segments_intercalate h.ne_nil (h.keys_undotted hn.undotted)]
  exact h.lookupSegments hn.sorted

/-- No key of any node the library builds holds a dot, at any depth and inside lists too. -/
theorem constructed_nodes_hold_no_dotted_key {N : Node} (hN : (Value.node N).Constructed) :
    N.Undotted ∧ ofPairs N = N ∧
      ∀ (ks : List String) (v : Value), N.Reaches ks v → N.lookup (".".intercalate ks) = some v := by
  have hw := hN.wellKeyed
  exact ⟨hw.undotted, ofPairs_self hw, fun _ _ h => h.lookup hw⟩

theorem constructed_nodes_hold_no_dotted_key_merged_sources :
    let N : Node := (ofPairs [("db.host", .str "x")]).merge [Node.ofProperties "db.port=5432"]
    (Value.node N).Constructed ∧
      (N.Undotted ∧ ofPairs N = N ∧
        ∀ (ks : List String) (v : Value), N.Reaches ks v → N.lookup (".".intercalate ks) = some v) := by
  intro N
  have hN : (Value.node N).Constructed :=
    .merge (.ofPairs fun p hp => by
      rw [List.mem_singleton.mp hp]
      exact .str "x") fun n hn => by
      rw [List.mem_singleton.mp hn]
      exact .ofProperties _
  exact ⟨hN, constructed_nodes_hold_no_dotted_key hN⟩

end Node

end ConfigTree
