import ConfigTree.Proofs.Binding.Memo
import ConfigTree.Proofs.Binding.Slots

namespace ConfigTree

open EngineM

mutual

/-- The value of a bound member, nested instances valued by `W`. -/
def Bound.value (W : Nat → Json) : Bound → Json
  | .typed t => t.render
  | .absent => .null
  | .present b => Bound.value W b
  | .items bs => .arr (Bound.values W bs)
  | .unordered bs => .arr (sortByText (Bound.values W bs))
  | .entries kvs => .arr ((Bound.entryValues W kvs).map fun (k, v) => .arr [k, v])
  | .unorderedEntries kvs =>
    .arr ((sortPairsByText (Bound.entryValues W kvs)).map fun (k, v) => .arr [k, v])
  | .inst id => W id
  | .parent _ a =>
    .obj [("id", match a with
      | some i => .int i
      | none => .null), ("linked", .bool a.isSome)]

def Bound.values (W : Nat → Json) : List Bound → List Json
  | [] => []
  | b :: bs => Bound.value W b :: Bound.values W bs

def Bound.entryValues (W : Nat → Json) : List (Typed × Bound) → List (Json × Json)
  | [] => []
  | (k, b) :: kvs => (k.render, Bound.value W b) :: Bound.entryValues W kvs

end

theorem Bound.values_eq_map (W : Nat → Json) (bs : List Bound) :
    Bound.values W bs = bs.map (Bound.value W) := by
  induction bs with
  | nil => rfl
  | cons b bs ih => simp only [Bound.values, ih, List.map_cons]

theorem Bound.entryValues_eq_map (W : Nat → Json) (kvs : List (Typed × Bound)) :
    Bound.entryValues W kvs = kvs.map fun kv => (kv.1.render, kv.2.value W) := by
  induction kvs with
  | nil => rfl
  | cons kv kvs ih =>
    obtain ⟨k, b⟩ := kv
    simp only [Bound.entryValues, ih, List.map_cons]

def memberValue (V : GetterRef → Json) (W : Nat → Json) (a : Instance) (m : String) : Json :=
  match a.style with
  | .getters => V (a.id, m)
  | .fields =>
    match a.slots.lookup m with
    | some (.bound b) => b.value W
    | _ => .null

mutual

/-- The value of a default body on instance `self`, the getters it reads valued by `V`. -/
def Body.value (r : EngineState) (V : GetterRef → Json) (W : Nat → Json) (self : Nat) :
    Body → Json
  | .literal j => j
  | .get m => V (self, m)
  | .inc b => Body.increment (Body.value r V W self b)
  | .concat parts => .str (String.join ((Body.values r V W self parts).map Body.piece))
  | .seq steps => (Body.values r V W self steps).getLast?.getD .null
  | .parentGet p m otherwise =>
    match r.slotAncestor? self p with
    | some a => memberValue V W a m
    | none => Body.value r V W self otherwise
  | .convert t b =>
    match (Value.ofJson (Body.value r V W self b)).map t.read with
    | some (.ok x) => x.render
    | _ => .null
  | .ifParent p present absent =>
    match r.slotAncestor? self p with
    | some _ => Body.value r V W self present
    | none => Body.value r V W self absent

def Body.values (r : EngineState) (V : GetterRef → Json) (W : Nat → Json) (self : Nat) :
    List Body → List Json
  | [] => []
  | b :: bs => Body.value r V W self b :: Body.values r V W self bs

end

theorem Body.values_eq_map (r : EngineState) (V : GetterRef → Json) (W : Nat → Json) (self : Nat)
    (bs : List Body) : Body.values r V W self bs = bs.map (Body.value r V W self) := by
  induction bs with
  | nil => rfl
  | cons b bs ih => simp only [Body.values, ih, List.map_cons]

def Instance.document (i : Instance) (label : String) (members : List Json) : Json :=
  .obj [("depth", .int i.depth), (label, .arr members), ("id", .int i.id), ("type", .str i.cls.name)]

/-- The value of a field: a bound one's value, `null` otherwise. -/
def Slot.value (W : Nat → Json) : Slot → Json
  | .bound b => b.value W
  | _ => .null

def instanceValue (r : EngineState) (V : GetterRef → Json) (W : Nat → Json) (id : Nat) : Json :=
  match r.instance? id with
  | none => .null
  | some i =>
    match i.style with
    | .fields => i.document "fields" (i.slots.map fun (n, s) => .arr [.str n, s.value W])
    | .getters => i.document "getters" (i.slots.map fun (n, _) => .arr [.str n, V (id, n)])

def getterValue (cat : Catalogue) (r : EngineState) (V : GetterRef → Json) (W : Nat → Json)
    (u : GetterRef) : Json :=
  match r.instance? u.1 with
  | none => .null
  | some i =>
    match cat.schema i.cls with
    | .fields _ => .null
    | .getters s =>
      match s.find? u.2 with
      | none => .null
      | some g =>
        match g.binding, i.slots.lookup u.2 with
        | none, _ => g.body.value r V W u.1
        | some _, some (.bound b) => b.value W
        | some _, some (.memo _) => g.body.value r V W u.1
        | some _, _ => .null

/-- A solution of the binding equations over the record of `r`: a value for every getter and every
instance, each as its binding or its members say. -/
structure Solution (cat : Catalogue) (r : EngineState) where
  getter : GetterRef → Json
  inst : Nat → Json
  getter_eq : ∀ u, getter u = getterValue cat r getter inst u
  inst_eq : ∀ id, inst id = instanceValue r getter inst id

namespace Solution

variable {cat : Catalogue} {r : EngineState} (σ : Solution cat r)

/-- A state holding the record of `r` whose memo cells that hold a value hold the value `σ` assigns
to their getter. -/
def Agrees (st : EngineState) : Prop :=
  st.finished = r.finished ∧
    ∀ u c j, MemoAt cat r u c → st.memos[c]? = some (.ready j) → j = σ.getter u

/-- Every run of `x` that returns, from a state agreeing with `σ`, gives `a` and leaves a state
agreeing with `σ`. -/
def Yields {α : Type} (x : EngineM α) (a : α) : Prop :=
  ∀ st, σ.Agrees st → ∀ b st', x st = .ok (b, st') → b = a ∧ σ.Agrees st'

variable {σ}

theorem Agrees.setMemo {st : EngineState} {c : Nat} {m : MemoCell} (hst : σ.Agrees st)
    (hm : ∀ j, m = .ready j → ∀ v, MemoAt cat r v c → j = σ.getter v) :
    σ.Agrees { st with memos := st.memos.set! c m } := by
  refine ⟨hst.1, fun v d j hv hd => ?_⟩
  by_cases hcd : c = d
  · subst hcd
    rw [Array.set!_eq_setIfInBounds, Array.getElem?_setIfInBounds_self] at hd
    split at hd
    · cases hd
      exact hm j rfl v hv
    · cases hd
  · rw [memos_set_ne hcd] at hd
    exact hst.2 v d j hv hd

theorem agrees_of_unready {st : EngineState} (hst : st.finished = r.finished)
    (h : ∀ c : Nat, st.memos[c]? = none ∨ st.memos[c]? = some .pending) : σ.Agrees st := by
  refine ⟨hst, fun u c j _ hc => ?_⟩
  rcases h c with h' | h' <;> rw [h'] at hc <;> cases hc

end Solution

namespace Solution.Yields

variable {cat : Catalogue} {r : EngineState} {σ : Solution cat r} {α β : Type} {x : EngineM α}

theorem of_pure (a : α) : σ.Yields (pure a) a := by
  intro st hst b st' h
  cases h
  exact ⟨rfl, hst⟩

theorem of_throw (err : Failure) (a : α) : σ.Yields (throw err) a := by
  intro st _ b st' h
  cases h

theorem bind {a : α} {f : α → EngineM β} {b : β} (hx : σ.Yields x a) (hf : σ.Yields (f a) b) :
    σ.Yields (x >>= f) b := by
  intro st hst c st' h
  obtain ⟨a', st₁, h₁, h₂⟩ := bind_ok h
  obtain ⟨rfl, hst₁⟩ := hx st hst a' st₁ h₁
  exact hf st₁ hst₁ c st' h₂

theorem map {a : α} {g : α → β} (hx : σ.Yields x a) :
    σ.Yields (x >>= fun a => pure (g a)) (g a) :=
  hx.bind (of_pure _)

theorem mapM {f : α → EngineM β} {g : α → β} (hf : ∀ a, σ.Yields (f a) (g a)) :
    ∀ xs : List α, σ.Yields (xs.mapM f) (xs.map g)
  | [] => of_pure []
  | x :: xs => by
    rw [List.mapM_cons, List.map_cons]
    exact (hf x).bind ((mapM hf xs).bind (of_pure _))

theorem forIn_list {f : α → PUnit → EngineM (ForInStep PUnit)}
    (hf : ∀ a, σ.Yields (f a PUnit.unit) (.yield PUnit.unit)) :
    ∀ xs : List α, σ.Yields (forIn xs PUnit.unit f) PUnit.unit
  | [] => of_pure _
  | x :: xs => by
    rw [List.forIn_cons]
    exact (hf x).bind (forIn_list hf xs)

theorem get_bind {f : EngineState → EngineM α} {a : α}
    (hf : ∀ st, st.finished = r.finished → σ.Yields (f st) a) : σ.Yields (get >>= f) a := by
  intro st hst
  exact hf st hst.1 st hst

theorem of_logEval (entry : String) : σ.Yields (logEval entry) () := by
  intro st hst b st' h
  rw [logEval_apply] at h
  cases h
  exact ⟨rfl, hst⟩

theorem of_setMemo {c : Nat} {m : MemoCell}
    (hm : ∀ j, m = .ready j → ∀ v, MemoAt cat r v c → j = σ.getter v) :
    σ.Yields (setMemo c m) () := by
  intro st hst b st' h
  rw [setMemo_apply] at h
  cases h
  exact ⟨rfl, hst.setMemo hm⟩

theorem getD_pending_eq_ready {a : Array MemoCell} {c : Nat} {j : Json}
    (h : (a[c]?).getD .pending = .ready j) : a[c]? = some (.ready j) := by
  cases hc : a[c]? with
  | none => rw [hc] at h; cases h
  | some m => rw [hc] at h; exact congrArg some h

theorem memoRead (hcells : CellsOnce cat r) {u : GetterRef} {c : Nat} (hu : MemoAt cat r u c)
    {name entry : String} {body : EngineM Json} (hbody : σ.Yields body (σ.getter u)) :
    σ.Yields (do
      match ← memo c with
      | .ready j => pure j
      | .evaluating => throw (.panic (selfDependence name))
      | .pending => do
        setMemo c .evaluating
        logEval entry
        let j ← body
        setMemo c (.ready j)
        pure j) (σ.getter u) := by
  intro st hst j st' h
  obtain ⟨m, st₁, hm, h⟩ := bind_ok h
  rw [memo_apply] at hm
  cases hm
  cases hcell : (st.memos[c]?).getD MemoCell.pending with
  | ready j' =>
    rw [hcell] at h
    cases h
    exact ⟨hst.2 u c j hu (getD_pending_eq_ready hcell), hst⟩
  | evaluating =>
    rw [hcell] at h
    cases h
  | pending =>
    rw [hcell] at h
    -- no other getter shares the cell, so the value the body gives is the one it should hold
    have hfill : ∀ j, MemoCell.ready (σ.getter u) = .ready j → ∀ v, MemoAt cat r v c →
        j = σ.getter v := by
      intro j hj v hv
      cases hj
      rw [hcells u v c hu hv]
    exact ((of_setMemo fun _ h => by cases h).bind ((of_logEval entry).bind
      (hbody.bind ((of_setMemo hfill).bind (f := fun _ => pure (σ.getter u)) (of_pure _))))) st hst
      j st' h

end Solution.Yields

/-- The evaluation functions at one fuel give the values of `σ`. -/
structure Faithful {cat : Catalogue} {r : EngineState} (σ : Solution cat r) (fuel : Nat) : Prop where
  call : ∀ self name, σ.Yields (callGetter cat fuel self name) (σ.getter (self, name))
  body : ∀ self b, σ.Yields (evalBody cat fuel self b) (b.value r σ.getter σ.inst self)
  member : ∀ i m, σ.Yields (memberOf cat fuel i m) (memberValue σ.getter σ.inst i m)
  bound : ∀ b, σ.Yields (renderBound cat fuel b) (b.value σ.inst)
  inst : ∀ id, σ.Yields (renderInstance cat fuel id) (σ.inst id)

namespace Faithful

open Solution

variable {cat : Catalogue} {r : EngineState} {σ : Solution cat r} {fuel : Nat}

theorem call_succ (hcells : CellsOnce cat r) (q : Faithful σ fuel) (self : Nat) (name : String) :
    σ.Yields (callGetter cat (fuel + 1) self name) (σ.getter (self, name)) := by
  simp only [callGetter]
  refine Yields.get_bind fun st hst => ?_
  rw [EngineState.instance?_eq_of_finished hst]
  split
  · next hi =>
    rw [σ.getter_eq]
    simpa only [getterValue, hi] using Yields.of_pure (σ := σ) Json.null
  · next i hi =>
    split
    · next hs =>
      rw [σ.getter_eq]
      simpa only [getterValue, hi, hs] using Yields.of_pure (σ := σ) Json.null
    · next s hs =>
      split
      · next hg =>
        rw [σ.getter_eq]
        simpa only [getterValue, hi, hs, hg] using Yields.of_pure (σ := σ) Json.null
      · next g hg =>
        split
        · -- without binding: the body runs, logged
          next hb =>
          have hv : σ.getter (self, name) = g.body.value r σ.getter σ.inst self := by
            rw [σ.getter_eq]
            simp only [getterValue, hi, hs, hg, hb]
          rw [hv]
          exact (Yields.of_logEval _).bind (q.body self g.body)
        · next b hb hl =>
          have hv : σ.getter (self, name) = b.value σ.inst := by
            rw [σ.getter_eq]
            simp only [getterValue, hi, hs, hg, hb, hl]
          rw [hv]
          exact q.bound b
        · next c hb hl =>
          have hv : σ.getter (self, name) = g.body.value r σ.getter σ.inst self := by
            rw [σ.getter_eq]
            simp only [getterValue, hi, hs, hg, hb, hl]
          exact Yields.memoRead hcells ⟨i, s, g, hi, hs, hg, by simp [hb], hl⟩
            (hv ▸ q.body self g.body)
        · next v hbind hb hl =>
          -- bound, but to a blank or to nothing
          have hv : σ.getter (self, name) = .null := by
            rw [σ.getter_eq]
            simp only [getterValue, hi, hs, hg, hbind]
          rw [hv]
          exact Yields.of_pure _

theorem body_succ (q : Faithful σ fuel) (self : Nat) (b : Body) :
    σ.Yields (evalBody cat (fuel + 1) self b) (b.value r σ.getter σ.inst self) := by
  cases b with
  | literal j => exact Yields.of_pure j
  | get m => exact q.call self m
  | inc b => exact (q.body self b).map
  | concat parts =>
    simp only [evalBody, Body.value, Body.values_eq_map]
    exact (Yields.mapM (q.body self) parts).map
  | seq steps =>
    simp only [evalBody, Body.value, Body.values_eq_map]
    exact (Yields.mapM (q.body self) steps).map
  | parentGet p m otherwise =>
    simp only [evalBody, Body.value]
    refine Yields.get_bind fun st hst => ?_
    rw [EngineState.slotAncestor?_eq_of_finished hst]
    cases r.slotAncestor? self p with
    | some a => exact q.member a m
    | none => exact q.body self otherwise
  | convert t b => exact (q.body self b).map
  | ifParent p present absent =>
    simp only [evalBody, Body.value]
    refine Yields.get_bind fun st hst => ?_
    rw [EngineState.slotAncestor?_eq_of_finished hst]
    cases r.slotAncestor? self p with
    | some a => exact q.body self present
    | none => exact q.body self absent

theorem member_succ (q : Faithful σ fuel) (i : Instance) (m : String) :
    σ.Yields (memberOf cat (fuel + 1) i m) (memberValue σ.getter σ.inst i m) := by
  cases hs : i.style with
  | getters =>
    simp only [memberOf, memberValue, hs]
    exact q.call i.id m
  | fields =>
    simp only [memberOf, memberValue, hs]
    cases i.slots.lookup m with
    | none => exact Yields.of_pure _
    | some sl =>
      cases sl with
      | bound b => exact q.bound b
      | blank => exact Yields.of_pure _
      | memo c => exact Yields.of_pure _

theorem bound_succ (q : Faithful σ fuel) (b : Bound) :
    σ.Yields (renderBound cat (fuel + 1) b) (b.value σ.inst) := by
  cases b with
  | typed x => exact Yields.of_pure _
  | absent => exact Yields.of_pure _
  | present b => exact q.bound b
  | items bs =>
    simp only [renderBound, Bound.value, Bound.values_eq_map]
    exact (Yields.mapM q.bound bs).map
  | unordered bs =>
    simp only [renderBound, Bound.value, Bound.values_eq_map]
    exact (Yields.mapM q.bound bs).map
  | entries kvs =>
    simp only [renderBound, Bound.value, Bound.entryValues_eq_map, List.map_map]
    refine (Yields.mapM (g := fun kv => Json.arr [kv.1.render, kv.2.value σ.inst])
      (fun kv => ?_) kvs).map
    obtain ⟨k, v⟩ := kv
    exact (q.bound v).map
  | unorderedEntries kvs =>
    simp only [renderBound, Bound.value, Bound.entryValues_eq_map]
    refine (Yields.mapM (g := fun kv => (kv.1.render, kv.2.value σ.inst)) (fun kv => ?_) kvs).map
    obtain ⟨k, v⟩ := kv
    exact (q.bound v).map
  | inst id => exact q.inst id
  | parent c a => exact Yields.of_pure _

theorem inst_succ (q : Faithful σ fuel) (id : Nat) :
    σ.Yields (renderInstance cat (fuel + 1) id) (σ.inst id) := by
  rw [σ.inst_eq]
  simp only [renderInstance]
  refine Yields.get_bind fun st hst => ?_
  rw [EngineState.instance?_eq_of_finished hst]
  cases hi : r.instance? id with
  | none =>
    simp only [instanceValue, hi]
    exact Yields.of_pure _
  | some i =>
    cases hs : i.style with
    | fields =>
      -- each field renders as its name and value
      simp only [instanceValue, hi, hs, Instance.document]
      refine (Yields.mapM (g := fun x => Json.arr [.str x.1, x.2.value σ.inst]) (fun x => ?_)
        i.slots).bind (Yields.of_pure _).map
      obtain ⟨n, sl⟩ := x
      cases sl with
      | bound b => exact (q.bound b).map
      | blank => exact (Yields.of_pure _).map
      | memo c => exact (Yields.of_pure _).map
    | getters =>
      simp only [instanceValue, hi, hs, Instance.document]
      refine (Yields.mapM (g := fun x => Json.arr [.str x.1, σ.getter (id, x.1)]) (fun x => ?_)
        i.slots).bind (Yields.of_pure _).map
      exact (q.call id x.1).map

theorem complete (q : Faithful σ fuel) (i : Instance) :
    σ.Yields (completeInstance cat fuel i) () := by
  simp only [completeInstance]
  split
  · exact Yields.of_pure _
  · refine (Yields.forIn_list (fun g => ?_) _).bind ((Yields.forIn_list (fun g => ?_) _).bind
      (Yields.of_pure _))
    · exact (q.call i.id g.name).bind (Yields.of_pure _)
    · exact (q.call i.id g.name).bind (Yields.of_pure _)

theorem of_fuel_zero (σ : Solution cat r) : Faithful σ 0 :=
  ⟨fun _ _ => Yields.of_throw _ _, fun _ _ => Yields.of_throw _ _, fun _ _ => Yields.of_throw _ _,
    fun _ => Yields.of_throw _ _, fun _ => Yields.of_throw _ _⟩

theorem succ (hcells : CellsOnce cat r) (q : Faithful σ fuel) : Faithful σ (fuel + 1) :=
  ⟨q.call_succ hcells, q.body_succ, q.member_succ, q.bound_succ, q.inst_succ⟩

end Faithful

theorem faithful {cat : Catalogue} {r : EngineState} (σ : Solution cat r) (hcells : CellsOnce cat r) :
    ∀ fuel, Faithful σ fuel
  | 0 => .of_fuel_zero σ
  | fuel + 1 => (faithful σ hcells fuel).succ hcells

theorem memoAt_of_finished {cat : Catalogue} {r r' : EngineState} (h : r'.finished = r.finished) :
    MemoAt cat r' = MemoAt cat r := by
  funext u c
  simp only [MemoAt, EngineState.instance?_eq_of_finished h]

theorem materializeIn_id {cat : Catalogue} {fuel : Nat} {c : ClassRef} {n : Node}
    {enc : List (ClassRef × Nat)} {st st' : EngineState} {id : Nat}
    (h : materializeIn cat fuel c n enc st = .ok (id, st')) : id = st.nextId := by
  cases fuel with
  | zero => cases h
  | succ fuel =>
    simp only [materializeIn] at h
    split at h
    · cases h
    · obtain ⟨_, st₁, hid, h⟩ := bind_ok h
      cases hid
      -- whatever the constructor, the instance is recorded and its id given back
      cases hs : cat.schema c <;> rw [hs] at h
      all_goals
        obtain ⟨_, st₂, -, h⟩ := bind_ok h
        obtain ⟨_, st₃, h₃, h⟩ := bind_ok h
        cases h₃
        obtain ⟨_, st₄, -, h⟩ := bind_ok h
        cases h
        rfl

theorem materializeThen_cellsOnce {cat : Catalogue} {fuel fuel' : Nat} {root : ClassRef}
    {node : Node} {j : Json} {st : EngineState}
    (h : materializeThen cat fuel root node (renderInstance cat fuel') = .ok (j, st)) :
    CellsOnce cat st := by
  obtain ⟨id, st₀, h₀, hev⟩ := materializeThen_record (fun id => (evolving cat _).inst id) h
  obtain ⟨hcells₀, -, -⟩ := materializeIn_memoStart h₀
  rw [CellsOnce, memoAt_of_finished hev.finished]
  exact hcells₀

theorem materializeThen_agrees {cat : Catalogue} {fuel fuel' : Nat} {root : ClassRef} {node : Node}
    {j : Json} {st : EngineState}
    (h : materializeThen cat fuel root node (renderInstance cat fuel') = .ok (j, st))
    (σ : Solution cat st) : j = σ.inst 0 ∧ σ.Agrees st := by
  have hcells := materializeThen_cellsOnce h
  obtain ⟨id, st₀, h₀, hev⟩ := materializeThen_record (fun id => (evolving cat _).inst id) h
  simp only [materializeThen, StateT.run] at h
  obtain ⟨id', st₀', h₀', h⟩ := bind_ok h
  rw [h₀] at h₀'
  cases h₀'
  obtain ⟨-, -, hpending⟩ := materializeIn_memoStart h₀
  -- construction leaves every cell pending, so the completion and the rendering start agreeing
  have hstart : σ.Agrees st₀ := Solution.agrees_of_unready hev.finished.symm hpending
  have hrest : σ.Yields (do
      for i in (← get).finished do
        completeInstance cat fuel i
      renderInstance cat fuel' id) (σ.inst id) := by
    refine Solution.Yields.get_bind fun s _ => ?_
    rw [← Array.forIn_toList]
    refine (Solution.Yields.forIn_list (fun i => ?_) _).bind ((faithful σ hcells fuel').inst id)
    exact ((faithful σ hcells fuel).complete i).bind (Solution.Yields.of_pure _)
  obtain ⟨rfl, hagree⟩ := hrest st₀ hstart j st h
  exact ⟨by rw [materializeIn_id h₀], hagree⟩

theorem Keeps.forIn_reaches {α β : Type} {f : α → EngineM β} (hf : ∀ a, Keeps (f a))
    {P : EngineState → Prop} (hP : ∀ st st', P st → st.Evolves st' → P st') {x : α}
    {st₀ : EngineState} (hx : ∀ st b st', st₀.Evolves st → f x st = .ok (b, st') → P st') :
    ∀ xs : List α, x ∈ xs → ∀ st st', st₀.Evolves st →
      forIn xs PUnit.unit (fun a _ => f a >>= fun _ => pure (ForInStep.yield PUnit.unit)) st =
        .ok (PUnit.unit, st') → P st'
  | [], hmem, _, _, _, _ => absurd hmem List.not_mem_nil
  | y :: ys, hmem, st, st', hst, h => by
    rw [List.forIn_cons] at h
    obtain ⟨step, st₁, h₁, h₂⟩ := bind_ok h
    obtain ⟨b, st₂, hy, hyield⟩ := bind_ok h₁
    obtain ⟨rfl, rfl⟩ : step = .yield PUnit.unit ∧ st₂ = st₁ := by
      cases hyield
      exact ⟨rfl, rfl⟩
    rcases List.mem_cons.mp hmem with rfl | hmem'
    · -- the step on `x` makes `P` hold, and the rest of the loop keeps it
      exact hP _ _ (hx st b st₂ hst hy) (Keeps.forIn_list (fun a _ => (hf a).bind fun _ =>
        Keeps.of_pure _) ys _ st₂ _ st' h₂)
    · exact Keeps.forIn_reaches hf hP hx ys hmem' st₂ st' (hst.trans (hf y st b st₂ hy)) h₂

/-- Cell `c` holds a value. -/
def EngineState.Filled (c : Nat) (st : EngineState) : Prop := ∃ j, st.memos[c]? = some (.ready j)

theorem EngineState.Filled.of_evolves {c : Nat} {st st' : EngineState} (h : st.Filled c)
    (e : st.Evolves st') : st'.Filled c := by
  obtain ⟨j, hj⟩ := h
  have hc := e.memos c
  rw [hj] at hc
  exact ⟨j, hc.of_ready⟩

theorem completeInstance_fills {cat : Catalogue} {r : EngineState} {fuel : Nat} {i : Instance}
    {s : GetterSchema} {g : GetterDecl} {c : Nat} (hs : cat.schema i.cls = .getters s)
    (hg : g ∈ s.getters) (hkind : g.binding = some .defaulted ∨ g.binding = some .computed)
    (hmemo : MemoAt cat r (i.id, g.name) c) {st₀ : EngineState} (hst₀ : st₀.finished = r.finished)
    (halloc : Allocated cat r st₀) :
    ∀ st b st', st₀.Evolves st → completeInstance cat fuel i st = .ok (b, st') → st'.Filled c := by
  intro st b st' hst h
  simp only [completeInstance, hs] at h
  obtain ⟨_, st₁, h₁, h⟩ := bind_ok h
  obtain ⟨_, st₂, h₂, h⟩ := bind_ok h
  obtain rfl : st₂ = st' := by
    cases h
    rfl
  have hcall := fun (g : GetterDecl) => (evolving cat fuel).call i.id g.name
  -- the read of `g` fills its cell, from any state the completion passes through
  have hread : ∀ st b st', st₀.Evolves st → callGetter cat fuel i.id g.name st = .ok (b, st') →
      st'.Filled c := fun st b st' hev hcall =>
    ⟨b, (callGetter_memo (hev.finished.trans hst₀) hmemo ((halloc.of_evolves hev) _ c hmemo)
      hcall).1⟩
  have hfilled := fun (st st' : EngineState) (h : st.Filled c) (e : st.Evolves st') => h.of_evolves e
  rcases hkind with hb | hb
  · have hst₁ : st₁.Filled c := Keeps.forIn_reaches hcall hfilled hread _
      (List.mem_filter.mpr ⟨hg, by simp [hb]⟩) st st₁ hst h₁
    exact hst₁.of_evolves (Keeps.forIn_list (fun a _ => (hcall a).bind fun _ => Keeps.of_pure _)
      _ _ st₁ _ st₂ h₂)
  · have hev₁ : st₀.Evolves st₁ := hst.trans (Keeps.forIn_list (fun a _ => (hcall a).bind fun _ =>
      Keeps.of_pure _) _ _ st _ st₁ h₁)
    exact Keeps.forIn_reaches hcall hfilled hread _ (List.mem_filter.mpr ⟨hg, by simp [hb]⟩)
      st₁ st₂ hev₁ h₂

theorem materializeThen_fills {cat : Catalogue} {fuel fuel' : Nat} {root : ClassRef} {node : Node}
    {j : Json} {st : EngineState}
    (h : materializeThen cat fuel root node (renderInstance cat fuel') = .ok (j, st))
    {u : GetterRef} {c : Nat} (hu : MemoAt cat st u c) : st.Filled c := by
  obtain ⟨id, st₀, h₀, hev⟩ := materializeThen_record (fun id => (evolving cat _).inst id) h
  simp only [materializeThen, StateT.run] at h
  obtain ⟨id', st₀', h₀', h⟩ := bind_ok h
  rw [h₀] at h₀'
  cases h₀'
  obtain ⟨_, st₁, hget, h⟩ := bind_ok h
  cases hget
  obtain ⟨_, st₂, hloop, hrender⟩ := bind_ok h
  rw [← Array.forIn_toList] at hloop
  rw [memoAt_of_finished hev.finished] at hu
  obtain ⟨-, halloc, -⟩ := materializeIn_memoStart h₀
  obtain ⟨self, name⟩ := u
  obtain ⟨i, s, g, hi, hs, hg, hb, hl⟩ := hu
  -- the getter read through the cell is a defaulted or a computed one of an instance of the record
  have hfind : st₀.finished.toList.find? (·.id == self) = some i := by
    rw [EngineState.instance?, ← Array.find?_toList] at hi
    exact hi
  have hmem := List.mem_of_find?_eq_some hfind
  have hid : i.id = self := by simpa using List.find?_some hfind
  have hname : g.name = name := by simpa using List.find?_some hg
  subst hid hname
  have hkind := (materializeIn_records (records_fits cat) h₀ i (Array.mem_toList_iff.mp hmem)).memo_binding
    hs hg hb hl
  have hst₂ : st₂.Filled c := Keeps.forIn_reaches (fun x => completeInstance_keeps cat _ x)
    (fun _ _ h e => h.of_evolves e)
    (completeInstance_fills hs (List.mem_of_find?_eq_some hg) hkind ⟨i, s, g, hi, hs, hg, hb, hl⟩ rfl
      halloc) _ hmem st₀ st₂ (.refl _) hloop
  exact hst₂.of_evolves ((evolving cat _).inst id st₂ j st hrender)

end ConfigTree
