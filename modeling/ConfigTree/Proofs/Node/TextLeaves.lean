import ConfigTree.Proofs.Node.Constructed

namespace ConfigTree

namespace Template

theorem substituteChars_of_not_infix (lookup : String → Option String) :
    ∀ {cs : List Char}, ¬ ['$', '{'] <:+: cs → (substituteChars (m := Id) lookup cs).run = cs
  | [], _ => by rw [substituteChars.eq_1]; rfl
  | c :: rest, h => by
    have hrest : ¬ ['$', '{'] <:+: rest := fun hr => h (hr.trans (List.suffix_cons c rest).isInfix)
    -- a `$` at the head starts neither a token nor an escaped `$${`: either would put `${` in
    have hopen : ∀ r, c = '$' → rest = '{' :: r → False := by
      rintro r rfl rfl
      exact h ⟨[], r, rfl⟩
    have hescape : ∀ r, c = '$' → rest = '$' :: '{' :: r → False := by
      rintro r - rfl
      exact hrest ⟨[], r, rfl⟩
    rw [substituteChars.eq_4 _ _ _ hescape hopen]
    simp only [Id.run_bind, Id.run_pure, substituteChars_of_not_infix lookup hrest]

theorem substitute_of_not_infix (lookup : String → Option String) {s : String}
    (h : ¬ ['$', '{'] <:+: s.toList) : Id.run (substitute (m := Id) lookup s) = s := by
  simp only [substitute, Id.run_bind, Id.run_pure, substituteChars_of_not_infix lookup h,
    String.ofList_toList]

end Template

theorem resolveTextFrom_of_not_infix (L : Node) (st : ExpansionStack L) {s : String}
    (h : ¬ ['$', '{'] <:+: s.toList) : resolveTextFrom L st s = s := by
  rw [resolveTextFrom_eq]
  exact Template.substitute_of_not_infix _ h

mutual

/-- The text leaves of a value, in order, in lists and nested nodes too. -/
def Value.texts : Value → List String
  | .str s => [s]
  | .list items => Value.itemsTexts items
  | .node entries => Value.entriesTexts entries
  | _ => []

def Value.itemsTexts : List Value → List String
  | [] => []
  | v :: rest => Value.texts v ++ Value.itemsTexts rest

def Value.entriesTexts : List (String × Value) → List String
  | [] => []
  | (_, v) :: rest => Value.texts v ++ Value.entriesTexts rest

end

/-- The value with every text leaf emptied: what is left are its keys at every depth, the lengths of
its lists, and its flags and numbers. -/
def Value.shape (v : Value) : Value := v.mapTexts fun _ => ""

/-- No text leaf of the node, at any depth, holds a `${`. -/
def Node.Untemplated (n : Node) : Prop := ∀ s ∈ Value.entriesTexts n, ¬ ['$', '{'] <:+: s.toList

namespace Value

mutual

theorem texts_mapTexts (f : String → String) :
    ∀ v : Value, (v.mapTexts f).texts = v.texts.map f
  | .str _ | .bool _ | .int _ | .float _ => rfl
  | .list items => by rw [mapTexts, texts, texts, itemsTexts_mapTextsItems f items]
  | .node entries => by rw [mapTexts, texts, texts, entriesTexts_mapTextsEntries f entries]

theorem itemsTexts_mapTextsItems (f : String → String) :
    ∀ items : List Value, itemsTexts (mapTextsItems f items) = (itemsTexts items).map f
  | [] => rfl
  | v :: rest => by
    rw [mapTextsItems, itemsTexts, itemsTexts, texts_mapTexts f v,
      itemsTexts_mapTextsItems f rest, List.map_append]

theorem entriesTexts_mapTextsEntries (f : String → String) :
    ∀ entries : List (String × Value),
      entriesTexts (mapTextsEntries f entries) = (entriesTexts entries).map f
  | [] => rfl
  | (_, v) :: rest => by
    rw [mapTextsEntries, entriesTexts, entriesTexts, texts_mapTexts f v,
      entriesTexts_mapTextsEntries f rest, List.map_append]

end

mutual

theorem mapTexts_mapTexts (f g : String → String) :
    ∀ v : Value, (v.mapTexts g).mapTexts f = v.mapTexts (f ∘ g)
  | .str _ | .bool _ | .int _ | .float _ => rfl
  | .list items => by rw [mapTexts, mapTexts, mapTexts, mapTextsItems_mapTextsItems f g items]
  | .node entries => by
    rw [mapTexts, mapTexts, mapTexts, mapTextsEntries_mapTextsEntries f g entries]

theorem mapTextsItems_mapTextsItems (f g : String → String) :
    ∀ items : List Value, mapTextsItems f (mapTextsItems g items) = mapTextsItems (f ∘ g) items
  | [] => rfl
  | v :: rest => by
    rw [mapTextsItems, mapTextsItems, mapTextsItems, mapTexts_mapTexts f g v,
      mapTextsItems_mapTextsItems f g rest]

theorem mapTextsEntries_mapTextsEntries (f g : String → String) :
    ∀ entries : List (String × Value),
      mapTextsEntries f (mapTextsEntries g entries) = mapTextsEntries (f ∘ g) entries
  | [] => rfl
  | (k, v) :: rest => by
    rw [mapTextsEntries, mapTextsEntries, mapTextsEntries, mapTexts_mapTexts f g v,
      mapTextsEntries_mapTextsEntries f g rest]

end

mutual

theorem mapTexts_eq_self {f : String → String} :
    ∀ v : Value, (∀ s ∈ v.texts, f s = s) → v.mapTexts f = v
  | .str s, h => by rw [mapTexts, h s (by simp [texts])]
  | .bool _, _ | .int _, _ | .float _, _ => rfl
  | .list items, h => by rw [mapTexts, mapTextsItems_eq_self items h]
  | .node entries, h => by rw [mapTexts, mapTextsEntries_eq_self entries h]

theorem mapTextsItems_eq_self {f : String → String} :
    ∀ items : List Value, (∀ s ∈ itemsTexts items, f s = s) → mapTextsItems f items = items
  | [], _ => rfl
  | v :: rest, h => by
    rw [mapTextsItems, mapTexts_eq_self v fun s hs => h s (List.mem_append_left _ hs),
      mapTextsItems_eq_self rest fun s hs => h s (List.mem_append_right _ hs)]

theorem mapTextsEntries_eq_self {f : String → String} :
    ∀ entries : List (String × Value),
      (∀ s ∈ entriesTexts entries, f s = s) → mapTextsEntries f entries = entries
  | [], _ => rfl
  | (k, v) :: rest, h => by
    rw [mapTextsEntries, mapTexts_eq_self v fun s hs => h s (List.mem_append_left _ hs),
      mapTextsEntries_eq_self rest fun s hs => h s (List.mem_append_right _ hs)]

end

theorem shape_mapTexts (f : String → String) (v : Value) : (v.mapTexts f).shape = v.shape := by
  rw [shape, shape, mapTexts_mapTexts]
  rfl

end Value

namespace Node

theorem find?_mapTextsEntries (f : String → String) (n : Node) (k : String) :
    find? (Value.mapTextsEntries f n) k = (n.find? k).map (Value.mapTexts f) := by
  rw [Value.mapTextsEntries_eq_map, find?_map_values]

theorem lookupSegments_mapTextsEntries (f : String → String) :
    ∀ (path : List String) (n : Node),
      lookupSegments (Value.mapTextsEntries f n) path = (n.lookupSegments path).map (Value.mapTexts f)
  | [], _ => rfl
  | [k], n => by rw [lookupSegments_singleton, lookupSegments_singleton, find?_mapTextsEntries]
  | k :: k2 :: rest, n => by
    rw [lookupSegments_cons_cons, lookupSegments_cons_cons, find?_mapTextsEntries]
    rcases n.find? k with _ | v
    · rfl
    · cases v with
      | node c =>
        simp only [Option.map_some, Value.mapTexts, Value.asNode?_node, Option.bind_some]
        exact lookupSegments_mapTextsEntries f (k2 :: rest) c
      | _ => rfl

theorem keys_mapTextsEntries (f : String → String) (n : Node) :
    keys (Value.mapTextsEntries f n) = n.keys := by
  simp [keys, Value.mapTextsEntries_eq_map]

theorem resolve_of_untemplated {n : Node} (hn : n.Untemplated) (L : Node) : n.resolve L = n := by
  rw [resolve_eq_mapTexts]
  exact Value.mapTextsEntries_eq_self n fun s hs => resolveTextFrom_of_not_infix L .empty (hn s hs)

end Node

/-- Resolving a node rewrites its text leaves and nothing else: the resolution has the node's shape
(the same keys at every depth, lists of the same lengths in the same order, the same flags and
numbers), its texts are the node's texts, in order, each expanded against the lookup node, and at
every path it holds the node's value there with its texts so expanded, never against the node the
text sits in. -/
theorem resolve_rewrites_only_text_leaves (N L : Node) :
    (Value.node (N.resolve L)).shape = (Value.node N).shape ∧
      (Value.node (N.resolve L)).texts = (Value.node N).texts.map (resolveTextFrom L .empty) ∧
      (∀ path, (N.resolve L).lookupSegments path =
        (N.lookupSegments path).map (Value.mapTexts (resolveTextFrom L .empty))) ∧
      (N.resolve L).keys = N.keys ∧
      (∀ s : String, ¬ ['$', '{'] <:+: s.toList → resolveTextFrom L .empty s = s) ∧
      (N.Untemplated → N.resolve L = N) ∧
      (∀ L' : Node, (N.resolve L).Untemplated → (N.resolve L).resolve L' = N.resolve L) := by
  have hmap : Value.node (N.resolve L) = (Value.node N).mapTexts (resolveTextFrom L .empty) := by
    rw [Node.resolve_eq_mapTexts, Value.mapTexts]
  refine ⟨by rw [hmap, Value.shape_mapTexts], by rw [hmap, Value.texts_mapTexts], fun path => ?_,
    ?_, fun s => resolveTextFrom_of_not_infix L .empty, fun h => Node.resolve_of_untemplated h L,
    fun L' h => Node.resolve_of_untemplated h L'⟩
  · rw [Node.resolve_eq_mapTexts, Node.lookupSegments_mapTextsEntries]
  · rw [Node.resolve_eq_mapTexts, Node.keys_mapTextsEntries]

theorem resolve_rewrites_only_text_leaves_nested_untemplated :
    let N : Node := [("a", .node [("b", .list [.str "x", .int 1])]), ("c", .str "$x")]
    N.Untemplated ∧ ∀ L L' : Node, N.resolve L = N ∧ (N.resolve L).resolve L' = N := by
  intro N
  have hN : N.Untemplated := by
    intro s hs
    simp only [N, Value.entriesTexts, Value.texts, Value.itemsTexts, List.append_nil, List.nil_append,
      List.cons_append, List.mem_cons, List.not_mem_nil, or_false] at hs
    rcases hs with rfl | rfl <;> decide
  refine ⟨hN, fun L L' => ?_⟩
  have hkeep := resolve_rewrites_only_text_leaves N L
  have hself : N.resolve L = N := hkeep.2.2.2.2.2.1 hN
  refine ⟨hself, ?_⟩
  rw [hkeep.2.2.2.2.2.2 L' (by rw [hself]; exact hN), hself]

end ConfigTree
