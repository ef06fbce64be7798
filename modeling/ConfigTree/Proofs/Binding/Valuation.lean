import ConfigTree.Proofs.Binding.Acyclic
import ConfigTree.Proofs.Binding.FailureSite
import ConfigTree.Proofs.Binding.Termination
import ConfigTree.Proofs.Node.Lookup

namespace ConfigTree

open EngineM

/-- Whether a member of this shape has a value when its key is absent: a scalar or an atomic cell
has one when its target has a zero, a lock when its inner shape has one, a parent reference never,
and options, collections and nested classes always. -/
def Shape.hasZero : Shape → Bool
  | .scalar t | .atomic t => t.zero?.isSome
  | .guarded _ s => s.hasZero
  | .parent _ => false
  | _ => true

/-- The context the outermost instance is built in. -/
def rootContext (root : ClassRef) (node : Node) : Context := ⟨node, [(root, 0)], root⟩

/-- The state the outermost constructor starts from, the instance's id taken. -/
def rootStart : EngineState := { nextId := 1 }

/-- The value slot `sl` gives getter `g` of instance `id`: a bound value's value, the default body's
for a memo cell. -/
def GetterDecl.slotValue (g : GetterDecl) (r : EngineState) (V : GetterRef → Json) (W : Nat → Json)
    (id : Nat) : Slot → Json
  | .bound b => b.value W
  | .memo _ => g.body.value r V W id
  | .blank => .null

theorem zeroValue_of_hasZero_false {cat : Catalogue} {ctx : Context} :
    ∀ {shape : Shape} {fuel : Nat}, shape.hasZero = false → shape.depth ≤ fuel →
      ∀ st, zeroValue cat fuel ctx shape st = .ok (none, st)
  | shape, 0, _, hd, _ => by cases shape <;> simp [Shape.depth] at hd
  | .scalar t, _ + 1, h, _, st => by
    simp only [Shape.hasZero, Option.isSome_eq_false_iff, Option.isNone_iff_eq_none] at h
    simp [zeroValue, h]
  | .atomic t, _ + 1, h, _, st => by
    simp only [Shape.hasZero, Option.isSome_eq_false_iff, Option.isNone_iff_eq_none] at h
    simp [zeroValue, h]
  | .guarded _ s, fuel + 1, h, hd, st => by
    simp only [Shape.hasZero] at h
    simp only [Shape.depth] at hd
    exact zeroValue_of_hasZero_false h (by omega) st
  | .parent _, _ + 1, _, _, _ => rfl
  | .option _, _ + 1, h, _, _ | .list _, _ + 1, h, _, _ | .unorderedSet _, _ + 1, h, _, _
  | .orderedSet _, _ + 1, h, _, _ | .unorderedMap _ _, _ + 1, h, _, _
  | .orderedMap _ _, _ + 1, h, _, _ | .nested _, _ + 1, h, _, _ => by simp [Shape.hasZero] at h

theorem bindGetter_missing {bv : Shape → Value → EngineM Bound}
    {zv : Shape → EngineM (Option Bound)} {ctx : Context} {ds : List Descriptor}
    {g : GetterDecl} {d : Descriptor} (hb : g.binding = some .property)
    (hd : ds.reverse.find? (·.member == g.name) = some d) (hk : ctx.node.lookup d.logicalName = none)
    (hz : ∀ st, zv g.valueShape st = .ok (none, st)) (slots : List (String × Slot))
    (st : EngineState) :
    bindGetter bv zv ctx ds slots g st = .error (.config (.missingRequired d.logicalName)) := by
  simp only [bindGetter, hb, hd, hk, bind_apply, pure_apply, Except.bind]
  simp only [within, hz, fail_apply]

theorem foldlM_error_at {α β : Type} {f : β → α → EngineM β} {x : α} {e₀ : Failure}
    (hx : ∀ a' st', f a' x st' = .error e₀) (pre post : List α) (a : β) (st : EngineState) :
    ∃ e, (pre ++ x :: post).foldlM f a st = .error e ∧
      ((∃ a' st', pre.foldlM f a st = .ok (a', st')) ∧ e = e₀ ∨
        ∃ pre₁ y pre₂ a' st', pre = pre₁ ++ y :: pre₂ ∧ pre₁.foldlM f a st = .ok (a', st') ∧
          f a' y st' = .error e) := by
  rw [List.foldlM_append]
  cases hpre : pre.foldlM f a st with
  | error e =>
    refine ⟨e, ?_, .inr (foldlM_error hpre)⟩
    rw [bind_apply, hpre]
    rfl
  | ok p =>
    refine ⟨e₀, ?_, .inl ⟨⟨p.1, p.2, rfl⟩, rfl⟩⟩
    rw [bind_apply, hpre]
    simp only [Except.bind, List.foldlM_cons, bind_apply, hx]

theorem materializeIn_root {cat : Catalogue} {root : ClassRef} {node : Node} {s : GetterSchema}
    (hs : cat.schema root = .getters s) (fuel : Nat) :
    materializeIn cat (fuel + 1) root node [] {} =
      (constructGetters cat fuel (rootContext root node) s rootStart).bind fun p =>
        .ok (0, { p.2 with finished := p.2.finished.push ⟨root, 0, 1, .getters, p.1⟩ }) := by
  simp only [materializeIn, hs]
  rfl

theorem constructGetters_apply {cat : Catalogue} {fuel : Nat} (ctx : Context) {s : GetterSchema}
    {ds : List Descriptor} (hds : classify ctx.cls.path .getters s.settings s.members = .ok ds)
    (st : EngineState) :
    constructGetters cat (fuel + 1) ctx s st =
      s.getters.foldlM (bindGetter (bindValue cat fuel ctx) (zeroValue cat fuel ctx) ctx ds) [] st := by
  simp only [constructGetters, hds, bind_apply, ofExcept_ok_apply]
  rfl

theorem constructionFuel_eq (cat : Catalogue) :
    ∃ fuel, constructionFuel cat = fuel + 2 ∧ cat.shapeDepth ≤ fuel :=
  ⟨depthLimit * (cat.shapeDepth + 4) - 1, by simp only [constructionFuel, depthLimit]; omega⟩

theorem materialize_first_failing_getter {cat : Catalogue} {root : ClassRef} {node : Node}
    {s : GetterSchema} {ds : List Descriptor} {pre post : List GetterDecl} {g : GetterDecl}
    {d : Descriptor} (hs : cat.schema root = .getters s)
    (hds : classify root.path .getters s.settings s.members = .ok ds)
    (hsplit : s.getters = pre ++ g :: post) (hb : g.binding = some .property)
    (hd : ds.reverse.find? (·.member == g.name) = some d) (hk : node.lookup d.logicalName = none)
    (hz : g.valueShape.hasZero = false) :
    ∃ fuel e, materialize cat root node = .error e ∧
      (∀ n n', materializeThen cat n root node (renderInstance cat n') = .error e) ∧
      let ctx := rootContext root node
      let step := bindGetter (bindValue cat fuel ctx) (zeroValue cat fuel ctx) ctx ds
      ((∃ slots st, pre.foldlM step [] rootStart = .ok (slots, st)) ∧
          e = .config (.missingRequired d.logicalName) ∨
        ∃ pre₁ g' pre₂ slots st, pre = pre₁ ++ g' :: pre₂ ∧
          pre₁.foldlM step [] rootStart = .ok (slots, st) ∧ step slots g' st = .error e) := by
  obtain ⟨fuel, hfuel, hdepth⟩ := constructionFuel_eq cat
  have hg : g.valueShape.depth ≤ fuel := by
    have hmem : g.valueShape ∈ (cat.schema root).shapes := by
      simp [hs, Schema.shapes, hsplit]
    exact Nat.le_trans (Catalogue.depth_le_of_schema hmem) hdepth
  -- the step on `g` fails from any slots and state
  have hmissing : ∀ slots st, bindGetter (bindValue cat fuel (rootContext root node))
      (zeroValue cat fuel (rootContext root node)) (rootContext root node) ds slots g st =
        .error (.config (.missingRequired d.logicalName)) :=
    bindGetter_missing hb hd hk (zeroValue_of_hasZero_false hz hg)
  obtain ⟨e, hfold, hfirst⟩ := foldlM_error_at hmissing pre post [] rootStart
  have hroot : materializeIn cat (constructionFuel cat) root node [] {} = .error e := by
    rw [hfuel, materializeIn_root hs, constructGetters_apply (rootContext root node) hds, hsplit, hfold]
    rfl
  exact ⟨fuel, e, materialize_of_root_error hroot,
    fun n n' => materializeThen_of_root_error hroot n _, hfirst⟩

theorem materializeThen_root {cat : Catalogue} {n n' : Nat} {root : ClassRef} {node : Node}
    {j : Json} {st : EngineState} {s : GetterSchema}
    (h : materializeThen cat n root node (renderInstance cat n') = .ok (j, st))
    (hs : cat.schema root = .getters s) :
    ∃ fuel slots ds, st.instance? 0 = some ⟨root, 0, 1, .getters, slots⟩ ∧
      classify root.path .getters s.settings s.members = .ok ds ∧
      List.Forall₂ (fun g p => p.1 = g.name ∧
          GetterSlot (bindValue cat fuel (rootContext root node))
            (zeroValue cat fuel (rootContext root node)) (rootContext root node) ds g p.2)
        (s.getters.filter (·.binding.isSome)) slots := by
  obtain ⟨id, st₀, h₀, hev⟩ := materializeThen_record (fun id => (evolving cat _).inst id) h
  have hbuilt : Built [] 0 st.nextId st.finished.toList := by
    rw [hev.finished, hev.nextId]
    exact materializeIn_built h₀
  obtain ⟨fuel, hfuel, -⟩ := constructionFuel_eq cat
  rw [hfuel, materializeIn_root hs] at h₀
  cases hc : constructGetters cat (fuel + 1) (rootContext root node) s rootStart with
  | error e =>
    rw [hc] at h₀
    cases h₀
  | ok p =>
    obtain ⟨slots, st₁⟩ := p
    rw [hc] at h₀
    cases h₀
    obtain ⟨ds, hds, hslots⟩ := constructGetters_slots hc
    refine ⟨fuel, slots, ds, ?_, hds, hslots⟩
    -- the outermost instance is the one of id 0 in the record
    have hmem : (⟨root, 0, 1, .getters, slots⟩ : Instance) ∈ st.finished.toList := by
      rw [hev.finished]
      simp
    rw [EngineState.instance?, ← Array.find?_toList]
    exact hbuilt.find?_id hmem

theorem forall₂_lookup_of_find? {R : GetterDecl → Slot → Prop} :
    ∀ {gs : List GetterDecl} {slots : List (String × Slot)},
      List.Forall₂ (fun g p => p.1 = g.name ∧ R g p.2) gs slots →
      ∀ {n : String} {g : GetterDecl}, gs.find? (·.name == n) = some g →
        ∃ sl, slots.lookup n = some sl ∧ R g sl
  | _, _, .nil, _, _, h => by cases h
  | g' :: gs, (m, sl) :: slots, .cons ⟨hname, hR⟩ hrest, n, g, h => by
    simp only at hname
    subst hname
    by_cases hn : g'.name = n
    · subst hn
      rw [List.find?_cons_of_pos (by simp)] at h
      cases h
      exact ⟨sl, List.lookup_cons_self, hR⟩
    · rw [List.find?_cons_of_neg (by simpa using hn)] at h
      have hne : (n == g'.name) = false := by simpa using Ne.symm hn
      rw [List.lookup_cons, hne]
      exact forall₂_lookup_of_find? hrest h

theorem Solution.getter_of_slot {cat : Catalogue} {r : EngineState} (σ : Solution cat r)
    {id : Nat} {i : Instance} {s : GetterSchema} {n : String} {g : GetterDecl} {sl : Slot}
    (hi : r.instance? id = some i) (hs : cat.schema i.cls = .getters s) (hg : s.find? n = some g)
    (hb : g.binding ≠ none) (hl : i.slots.lookup n = some sl) :
    σ.getter (id, n) = g.slotValue r σ.getter σ.inst id sl := by
  rw [σ.getter_eq]
  obtain ⟨k, hk⟩ := Option.ne_none_iff_exists'.mp hb
  simp only [getterValue, hi, hs, hg, hk, hl]
  cases sl <;> rfl

theorem materializeThen_of_materialize {cat : Catalogue} {root : ClassRef} {node : Node}
    {j : Json} {evals : List String} (h : materialize cat root node = .ok (j, evals)) :
    ∃ st, materializeThen cat evaluationFuel root node (renderInstance cat evaluationFuel) =
      .ok (j, st) ∧ evals = st.evals.toList := by
  simp only [materialize, bind, Except.bind] at h
  split at h
  · cases h
  · next r hr =>
    cases h
    exact ⟨r.2, hr, rfl⟩

/-- The getters of a materialization solve the binding equations. -/
theorem getter_values_solve_binding_equations (cat : Catalogue) (root : ClassRef) (node : Node) :
    (∀ s ds pre g post d, cat.schema root = .getters s →
      classify root.path .getters s.settings s.members = .ok ds →
      s.getters = pre ++ g :: post → g.binding = some .property →
      ds.reverse.find? (·.member == g.name) = some d → node.lookup d.logicalName = none →
      g.valueShape.hasZero = false →
      ∃ fuel e, materialize cat root node = .error e ∧
        (∀ n n', materializeThen cat n root node (renderInstance cat n') = .error e) ∧
        let ctx := rootContext root node
        let step := bindGetter (bindValue cat fuel ctx) (zeroValue cat fuel ctx) ctx ds
        ((∃ slots st, pre.foldlM step [] rootStart = .ok (slots, st)) ∧
            e = .config (.missingRequired d.logicalName) ∨
          ∃ pre₁ g' pre₂ slots st, pre = pre₁ ++ g' :: pre₂ ∧
            pre₁.foldlM step [] rootStart = .ok (slots, st) ∧ step slots g' st = .error e)) ∧
    (∀ j evals, materialize cat root node = .ok (j, evals) →
      ∃ st, materializeThen cat evaluationFuel root node (renderInstance cat evaluationFuel) =
        .ok (j, st) ∧ evals = st.evals.toList) ∧
    ∀ n n' j st, materializeThen cat n root node (renderInstance cat n') = .ok (j, st) →
      (∀ u c, MemoAt cat st u c → st.Filled c) ∧
      (∀ σ : Solution cat st, j = σ.inst 0 ∧ σ.Agrees st ∧
        ∀ fuel self name, σ.Yields (callGetter cat fuel self name) (σ.getter (self, name))) ∧
      (WellFounded (Reads cat st) → Nonempty (Solution cat st) ∧ ∀ σ τ : Solution cat st, σ = τ) ∧
      ∀ s, cat.schema root = .getters s → ∃ fuel slots ds,
        st.instance? 0 = some ⟨root, 0, 1, .getters, slots⟩ ∧
        classify root.path .getters s.settings s.members = .ok ds ∧
        ∀ g, s.find? g.name = some g → g.binding.isSome →
          ∃ sl, slots.lookup g.name = some sl ∧
            GetterSlot (bindValue cat fuel (rootContext root node))
              (zeroValue cat fuel (rootContext root node)) (rootContext root node) ds g sl ∧
            ∀ σ : Solution cat st, σ.getter (0, g.name) = g.slotValue st σ.getter σ.inst 0 sl := by
  refine ⟨fun s ds pre g post d hs hds hsplit hb hd hk hz =>
    materialize_first_failing_getter hs hds hsplit hb hd hk hz,
    fun j evals h => materializeThen_of_materialize h, fun n n' j st h => ?_⟩
  have hcells := materializeThen_cellsOnce h
  refine ⟨fun u c hu => materializeThen_fills h hu,
    fun σ => ⟨(materializeThen_agrees h σ).1, (materializeThen_agrees h σ).2,
      fun fuel self name => (faithful σ hcells fuel).call self name⟩,
    fun hwf => ⟨Solution.nonempty_of_wellFounded hwf, Solution.eq_of_wellFounded hwf⟩,
    fun s hs => ?_⟩
  obtain ⟨fuel, slots, ds, hinst, hds, hslots⟩ := materializeThen_root h hs
  refine ⟨fuel, slots, ds, hinst, hds, fun g hg hsome => ?_⟩
  -- the first getter of its name is also the first bound one of its name
  obtain ⟨sl, hl, hslot⟩ := forall₂_lookup_of_find? hslots (find?_filter_of_find? hg hsome)
  exact ⟨sl, hl, hslot, fun σ =>
    σ.getter_of_slot hinst hs hg (Option.isSome_iff_ne_none.mp hsome) hl⟩

/-- Two absent character getters: every run fails naming the first. -/
theorem getter_values_solve_binding_equations_first_of_two_missing :
    let cat : Catalogue := ⟨[(⟨"G0", "G0"⟩, .getters { getters := [
      { name := "a", shape := some (.scalar .char), target := ⟨"G0", "G0"⟩ },
      { name := "b", shape := some (.scalar .char), target := ⟨"G0", "G0"⟩ }] })]⟩
    ∀ n n', materializeThen cat n ⟨"G0", "G0"⟩ [] (renderInstance cat n') =
      .error (.config (.missingRequired "a")) := by
  intro cat
  obtain ⟨fuel, e, -, hrun, hfirst⟩ := (getter_values_solve_binding_equations cat ⟨"G0", "G0"⟩ []).1
    _ _ [] _ _ _ rfl rfl rfl rfl rfl (Node.lookupSegments_empty _) rfl
  rcases hfirst with ⟨-, rfl⟩ | ⟨pre₁, g', pre₂, -, -, heq, -⟩
  · exact hrun
  · simp at heq

/-- With two property getters whose keys are absent and whose types have no zero value, the
materialization fails naming the first only. -/
theorem materialize_reports_first_missing_getter :
    let cat : Catalogue := ⟨[(⟨"G0", "G0"⟩, .getters { getters := [
      { name := "a", shape := some (.scalar .char), target := ⟨"G0", "G0"⟩ },
      { name := "b", shape := some (.scalar .char), target := ⟨"G0", "G0"⟩ }] })]⟩
    materialize cat ⟨"G0", "G0"⟩ [] = .error (.config (.missingRequired "a")) ∧
      materialize cat ⟨"G0", "G0"⟩ [] ≠ .error (.config (.missingRequired "b")) := by
  intro cat
  obtain ⟨fuel, e, hmat, -, hfirst⟩ := @materialize_first_failing_getter cat ⟨"G0", "G0"⟩ []
    _ _ [] _ _ _ rfl rfl rfl rfl rfl (Node.lookupSegments_empty _) rfl
  have ha : materialize cat ⟨"G0", "G0"⟩ [] = .error (.config (.missingRequired "a")) := by
    rcases hfirst with ⟨-, rfl⟩ | ⟨pre₁, g', pre₂, -, -, heq, -⟩
    · exact hmat
    · simp at heq
  refine ⟨ha, ?_⟩
  rw [ha]
  simp

end ConfigTree
