import Mathlib.Data.List.Nodup
import ConfigTree.Proofs.Node.Paths
import ConfigTree.Proofs.Node.Lookup
import ConfigTree.Proofs.Node.Templates
import ConfigTree.Node.Resolve

namespace ConfigTree

mutual

/-- The paths to the flag, number and text leaves of a value, through nested nodes. -/
def Value.leafPaths : Value → List (List String)
  | .node entries => Value.entriesLeafPaths entries
  | .list _ => []
  | _ => [[]]

def Value.entriesLeafPaths : List (String × Value) → List (List String)
  | [] => []
  | (k, v) :: rest => (Value.leafPaths v).map (k :: ·) ++ Value.entriesLeafPaths rest

end

/-- The paths to the flag, number and text leaves of a node, one for each leaf. -/
def Node.leafPaths (n : Node) : List (List String) := Value.entriesLeafPaths n

mutual

/-- The value with each text leaf rewritten by `f`, in lists and nested nodes too. -/
def Value.mapTexts (f : String → String) : Value → Value
  | .str s => .str (f s)
  | .list items => .list (Value.mapTextsItems f items)
  | .node entries => .node (Value.mapTextsEntries f entries)
  | other => other

def Value.mapTextsItems (f : String → String) : List Value → List Value
  | [] => []
  | v :: rest => Value.mapTexts f v :: Value.mapTextsItems f rest

/-- Node entries with each text leaf rewritten by `f`; keys are kept. -/
def Value.mapTextsEntries (f : String → String) : List (String × Value) → List (String × Value)
  | [] => []
  | (k, v) :: rest => (k, Value.mapTexts f v) :: Value.mapTextsEntries f rest

end

namespace Value

theorem entriesLeafPaths_length_le :
    ∀ entries : List (String × Value), (entriesLeafPaths entries).length ≤ entriesSize entries
  | [] => by simp [entriesLeafPaths]
  | (_, v) :: rest => by
    have hrest := entriesLeafPaths_length_le rest
    -- a nested node has its own leaves; any other value has at most one
    have hv : v.leafPaths.length ≤ v.size := by
      cases v with
      | node inner =>
        have := entriesLeafPaths_length_le inner
        simp only [leafPaths, size]
        omega
      | list _ => simp [leafPaths]
      | bool _ | int _ | float _ | str _ => simp [leafPaths, size]
    simp only [entriesLeafPaths, entriesSize, List.length_append, List.length_map]
    omega

theorem leafPaths_of_readString {v : Value} {s : String} (h : readString v = .ok s) :
    v.leafPaths = [[]] := by
  cases v <;> simp_all [readString, leafPaths]

mutual

theorem resolveWith_eq_mapTexts (L : Node) (fuel : Nat) :
    ∀ v : Value, v.resolveWith L fuel = v.mapTexts (resolveText L fuel [])
  | .str _ | .bool _ | .int _ | .float _ => rfl
  | .list items => by rw [resolveWith, mapTexts, resolveItems_eq_mapTextsItems L fuel items]
  | .node entries => by
    rw [resolveWith, mapTexts, resolveEntries_eq_mapTextsEntries L fuel entries]

theorem resolveItems_eq_mapTextsItems (L : Node) (fuel : Nat) :
    ∀ items : List Value, resolveItems L fuel items = mapTextsItems (resolveText L fuel []) items
  | [] => rfl
  | v :: rest => by
    rw [resolveItems, mapTextsItems, resolveWith_eq_mapTexts L fuel v,
      resolveItems_eq_mapTextsItems L fuel rest]

theorem resolveEntries_eq_mapTextsEntries (L : Node) (fuel : Nat) :
    ∀ entries : List (String × Value),
      resolveEntries L fuel entries = mapTextsEntries (resolveText L fuel []) entries
  | [] => rfl
  | (k, v) :: rest => by
    rw [resolveEntries, mapTextsEntries, resolveWith_eq_mapTexts L fuel v,
      resolveEntries_eq_mapTextsEntries L fuel rest]

end

end Value

namespace Node

theorem mem_leafPaths {n : Node} {k : String} {v : Value} (hkv : (k, v) ∈ n) {p : List String}
    (hp : p ∈ v.leafPaths) : k :: p ∈ n.leafPaths := by
  induction n with
  | nil => simp at hkv
  | cons e rest ih =>
    obtain ⟨k', v'⟩ := e
    simp only [leafPaths, Value.entriesLeafPaths, List.mem_append, List.mem_map] at ih ⊢
    rcases List.mem_cons.mp hkv with h | h
    · obtain ⟨rfl, rfl⟩ := Prod.mk.inj h
      exact .inl ⟨p, hp, rfl⟩
    · exact .inr (ih h)

theorem lookupSegments_mem_leafPaths {v : Value} :
    ∀ (path : List String) (n : Node), n.lookupSegments path = some v →
      ∀ p ∈ v.leafPaths, path ++ p ∈ n.leafPaths
  | [], _, h => by simp at h
  | [k], n, h => fun p hp => mem_leafPaths (mem_of_find?_eq_some h) hp
  | k :: k2 :: rest, n, h => by
    intro p hp
    rw [lookupSegments_cons_cons] at h
    obtain ⟨c, hc, hlook⟩ := Option.bind_eq_some_iff.mp h
    obtain ⟨x, hx, hxc⟩ := Option.bind_eq_some_iff.mp hc
    cases x with
    | node c' =>
      simp only [Value.asNode?, Option.some.injEq] at hxc
      subst hxc
      have hbelow := lookupSegments_mem_leafPaths (k2 :: rest) _ hlook p hp
      exact mem_leafPaths (mem_of_find?_eq_some hx) (by simpa [Value.leafPaths, leafPaths] using hbelow)
    | _ => simp [Value.asNode?] at hxc

theorem segments_mem_leafPaths {L : Node} {key raw : String} (h : L.getString key = some raw) :
    segments key ∈ L.leafPaths := by
  obtain ⟨v, hv, hread⟩ := Option.bind_eq_some_iff.mp h
  have hleaf : v.leafPaths = [[]] := by
    cases hr : readString v with
    | ok s => exact Value.leafPaths_of_readString hr
    | error e => simp [hr] at hread
  simpa using lookupSegments_mem_leafPaths (segments key) L hv [] (by simp [hleaf])

end Node

/-- The keys being expanded, innermost first: distinct keys, each naming a text of `L`. -/
structure ExpansionStack (L : Node) where
  keys : List String
  nodup : keys.Nodup
  resolvable : ∀ k ∈ keys, (L.getString k).isSome

namespace ExpansionStack

variable {L : Node}

/-- No key being expanded. -/
def empty : ExpansionStack L := ⟨[], List.nodup_nil, fun _ h => absurd h List.not_mem_nil⟩

/-- One more key being expanded: one that is not yet, and names a text of `L`. -/
def push (st : ExpansionStack L) (key : String) (hnew : key ∉ st.keys) {raw : String}
    (hraw : L.getString key = some raw) : ExpansionStack L where
  keys := key :: st.keys
  nodup := List.nodup_cons.mpr ⟨hnew, st.nodup⟩
  resolvable k hk := by
    rcases List.mem_cons.mp hk with rfl | hk
    · simp [hraw]
    · exact st.resolvable k hk

@[simp] theorem keys_empty : (empty : ExpansionStack L).keys = [] := rfl

@[simp] theorem keys_push (st : ExpansionStack L) (key : String) (hnew : key ∉ st.keys)
    {raw : String} (hraw : L.getString key = some raw) : (st.push key hnew hraw).keys = key :: st.keys :=
  rfl

theorem length_le (st : ExpansionStack L) : st.keys.length ≤ L.leafPaths.length := by
  have hnodup : (st.keys.map Node.segments).Nodup :=
    List.Nodup.map (fun _ _ h => Node.segments_injective h) st.nodup
  have hsub : st.keys.map Node.segments ⊆ L.leafPaths := by
    intro p hp
    obtain ⟨k, hk, rfl⟩ := List.mem_map.mp hp
    obtain ⟨raw, hraw⟩ := Option.isSome_iff_exists.mp (st.resolvable k hk)
    exact Node.segments_mem_leafPaths hraw
  simpa using hnodup.length_le_of_subset hsub

end ExpansionStack

/-- Resolves a text with the keys of `st` being expanded, with no fuel: each nested expansion pushes
a key, and the stack cannot grow past the leaves of `L`. -/
def resolveTextFrom (L : Node) (st : ExpansionStack L) (s : String) : String :=
  Id.run <| Template.substitute (m := Id) (fun key =>
    if hkey : key ∈ st.keys then none
    else
      match hraw : L.getString key with
      | none => none
      | some raw => some (resolveTextFrom L (st.push key hkey hraw) raw)) s
termination_by L.leafPaths.length - st.keys.length
decreasing_by
  have := (st.push key hkey hraw).length_le
  simp only [ExpansionStack.keys_push, List.length_cons] at this ⊢
  omega

def expandKey (L : Node) (st : ExpansionStack L) (key : String) : Option String :=
  if hkey : key ∈ st.keys then none
  else
    match hraw : L.getString key with
    | none => none
    | some raw => some (resolveTextFrom L (st.push key hkey hraw) raw)

theorem resolveTextFrom_eq (L : Node) (st : ExpansionStack L) (s : String) :
    resolveTextFrom L st s = Id.run (Template.substitute (m := Id) (expandKey L st) s) := by
  rw [resolveTextFrom.eq_1]
  rfl

theorem expandKey_of_mem {L : Node} {st : ExpansionStack L} {key : String} (h : key ∈ st.keys) :
    expandKey L st key = none := by
  simp [expandKey, h]

theorem expandKey_of_getString_none {L : Node} {st : ExpansionStack L} {key : String}
    (hraw : L.getString key = none) : expandKey L st key = none := by
  unfold expandKey
  split
  · rfl
  · split
    · rfl
    · next raw h => simp [hraw] at h

theorem expandKey_of_getString {L : Node} {st : ExpansionStack L} {key raw : String}
    (hkey : key ∉ st.keys) (hraw : L.getString key = some raw) :
    expandKey L st key = some (resolveTextFrom L (st.push key hkey hraw) raw) := by
  rw [expandKey, dif_neg hkey]
  split
  · next h => simp [hraw] at h
  · next raw' h =>
    obtain rfl : raw = raw' := Option.some.inj (hraw.symm.trans h)
    rfl

theorem resolveText_eq_resolveTextFrom {L : Node} (st : ExpansionStack L) {fuel : Nat}
    (hfuel : L.leafPaths.length < st.keys.length + fuel) (s : String) :
    resolveText L fuel st.keys s = resolveTextFrom L st s := by
  induction fuel generalizing st s with
  | zero => exact absurd hfuel (by have := st.length_le; omega)
  | succ fuel ih =>
    rw [resolveText, resolveTextFrom_eq]
    congr 2
    funext key
    by_cases hkey : key ∈ st.keys
    · simp [hkey, expandKey_of_mem hkey]
    · cases hraw : L.getString key with
      | none => simp [hkey, expandKey_of_getString_none hraw]
      | some raw =>
        have hdeeper := ih (st.push key hkey hraw) (by simp; omega) raw
        simp only [List.contains_iff_mem, hkey, ↓reduceIte, Option.map_some,
          expandKey_of_getString hkey hraw]
        rw [← hdeeper]
        rfl

theorem Node.resolve_eq_mapTexts (N L : Node) :
    N.resolve L = Value.mapTextsEntries (resolveTextFrom L .empty) N := by
  have hfuel : L.leafPaths.length < (ExpansionStack.empty : ExpansionStack L).keys.length +
      (Value.entriesSize L + 1) := by
    have := Value.entriesLeafPaths_length_le L
    simp only [ExpansionStack.keys_empty, List.length_nil, Node.leafPaths]
    omega
  rw [Node.resolve, Value.resolveEntries_eq_mapTextsEntries]
  congr 1
  funext s
  exact resolveText_eq_resolveTextFrom .empty hfuel s

theorem Value.resolveEntries_of_leafPaths_lt {L : Node} {fuel : Nat}
    (hfuel : L.leafPaths.length < fuel) (N : Node) :
    Value.resolveEntries L fuel N = N.resolve L := by
  rw [Node.resolve_eq_mapTexts, Value.resolveEntries_eq_mapTextsEntries]
  congr 1
  funext s
  exact resolveText_eq_resolveTextFrom .empty (by simpa using hfuel) s

theorem resolveTextFrom_token (L : Node) (st : ExpansionStack L) {pre : String}
    (hpre : '$' ∉ pre.toList) {key : String} (hkey : Template.IsKey key) {fallback : Option String}
    (hfallback : ∀ f ∈ fallback, '}' ∉ f.toList) (post : String) :
    resolveTextFrom L st (pre ++ Template.token key fallback ++ post) =
      pre ++ Template.replacement key fallback (expandKey L st key) ++ resolveTextFrom L st post := by
  rw [resolveTextFrom_eq, resolveTextFrom_eq,
    Template.substitute_plain_token _ hpre hkey hfallback]

@[simp] theorem Template.replacement_none (key : String) (fallback : Option String) :
    Template.replacement key fallback none = fallback.getD (Template.token key fallback) := by
  cases fallback <;> rfl

@[simp] theorem Template.replacement_some (key : String) (fallback : Option String) (v : String) :
    Template.replacement key fallback (some v) = v := rfl

/-- Resolution terminates: resolving a node, against another node or itself, rewrites each text leaf
by the expansion without fuel, whose stack of keys being expanded holds distinct keys that name
texts of the lookup node, so it never holds more keys than the lookup node has leaves, and no more
fuel than that changes the result. -/
theorem resolve_terminates_within_leaf_depth (N L : Node) :
    N.resolve L = Value.mapTextsEntries (resolveTextFrom L .empty) N ∧
      N.resolveSelf = Value.mapTextsEntries (resolveTextFrom N .empty) N ∧
      (∀ st : ExpansionStack L, st.keys.length ≤ L.leafPaths.length) ∧
      (∀ fuel, L.leafPaths.length < fuel → Value.resolveEntries L fuel N = N.resolve L) ∧
      (∀ (st : ExpansionStack L) (pre key : String) (fallback : Option String) (post raw : String)
          (hkey : key ∉ st.keys) (hraw : L.getString key = some raw),
        '$' ∉ pre.toList → Template.IsKey key → (∀ f ∈ fallback, '}' ∉ f.toList) →
        resolveTextFrom L st (pre ++ Template.token key fallback ++ post) =
          pre ++ resolveTextFrom L (st.push key hkey hraw) raw ++ resolveTextFrom L st post) ∧
      (∀ (st : ExpansionStack L) (pre key : String) (fallback : Option String) (post : String),
        '$' ∉ pre.toList → Template.IsKey key → (∀ f ∈ fallback, '}' ∉ f.toList) →
        key ∈ st.keys →
        resolveTextFrom L st (pre ++ Template.token key fallback ++ post) =
          pre ++ fallback.getD (Template.token key fallback) ++ resolveTextFrom L st post) := by
  refine ⟨Node.resolve_eq_mapTexts N L, Node.resolve_eq_mapTexts N N, ExpansionStack.length_le,
    fun _ hfuel => Value.resolveEntries_of_leafPaths_lt hfuel N, ?_, ?_⟩
  · intro st pre key fallback post raw hkey hraw hpre hk hf
    rw [resolveTextFrom_token L st hpre hk hf, expandKey_of_getString hkey hraw,
      Template.replacement_some]
  · intro st pre key fallback post hpre hk hf hmem
    rw [resolveTextFrom_token L st hpre hk hf, expandKey_of_mem hmem, Template.replacement_none]

theorem resolveTextFrom_single_token (L : Node) (st : ExpansionStack L) {key : String}
    (hkey : Template.IsKey key) {fallback : Option String}
    (hfallback : ∀ f ∈ fallback, '}' ∉ f.toList) :
    resolveTextFrom L st (Template.token key fallback) =
      Template.replacement key fallback (expandKey L st key) := by
  have h : resolveTextFrom L st ("" ++ Template.token key fallback ++ "") =
      "" ++ Template.replacement key fallback (expandKey L st key) ++ resolveTextFrom L st "" :=
    resolveTextFrom_token L st (by simp) hkey hfallback ""
  have hempty : resolveTextFrom L st "" = "" := by
    simp [resolveTextFrom_eq, Template.substitute, Template.substituteChars.eq_1]
  simpa [hempty] using h

/-- A key met again while it is being expanded takes its fallback: resolving `a = ${a:-x}` against
itself expands `a` once, meets `a` again inside, and that inner token gives `x`, so `a` becomes `x`
and not its token. -/
theorem resolveSelf_cycle_takes_fallback :
    Node.resolveSelf [("a", .str "$\x7ba:-x\x7d")] = [("a", .str "x")] := by
  have hkey : Template.IsKey "a" := ⟨by decide, by decide⟩
  have hfb : ∀ f ∈ some "x", '}' ∉ f.toList := by simp
  have htok : Template.token "a" (some "x") = "$\x7ba:-x\x7d" := by decide
  have hseg : Node.segments "a" = ["a"] := Node.segments_of_undotted (by decide)
  have hget : Node.getString [("a", .str "$\x7ba:-x\x7d")] "a" = some "$\x7ba:-x\x7d" := by
    simp [Node.getString, Node.lookup, hseg, Node.lookupSegments_singleton, Node.find?_cons,
      readString]
  have houter := resolveTextFrom_single_token [("a", .str "$\x7ba:-x\x7d")] .empty hkey hfb
  rw [htok, expandKey_of_getString (by simp) hget, Template.replacement_some] at houter
  have hinner := resolveTextFrom_single_token [("a", .str "$\x7ba:-x\x7d")]
    (ExpansionStack.empty.push "a" (by simp) hget) hkey hfb
  rw [htok, expandKey_of_mem (by simp), Template.replacement_none] at hinner
  rw [Node.resolveSelf, Node.resolve_eq_mapTexts]
  simp only [Value.mapTextsEntries, Value.mapTexts, houter, hinner]
  rfl

end ConfigTree
