import ConfigTree.Proofs.Binding.Equations

namespace ConfigTree

/-- What the binding equations value: a getter of an instance, or an instance. -/
inductive Valued where
  | getter (u : GetterRef)
  | inst (id : Nat)

/-- The getter values of a valuation. -/
def Valued.getters (X : Valued → Json) (u : GetterRef) : Json := X (.getter u)

def Valued.insts (X : Valued → Json) (id : Nat) : Json := X (.inst id)

/-- The instances the value of a bound value reads. -/
inductive BoundReads : Bound → Nat → Prop
  | inst (id : Nat) : BoundReads (.inst id) id
  | present {b : Bound} {id : Nat} : BoundReads b id → BoundReads (.present b) id
  | items {bs : List Bound} {b : Bound} {id : Nat} : b ∈ bs → BoundReads b id → BoundReads (.items bs) id
  | unordered {bs : List Bound} {b : Bound} {id : Nat} :
      b ∈ bs → BoundReads b id → BoundReads (.unordered bs) id
  | entries {kvs : List (Typed × Bound)} {kv : Typed × Bound} {id : Nat} :
      kv ∈ kvs → BoundReads kv.2 id → BoundReads (.entries kvs) id
  | unorderedEntries {kvs : List (Typed × Bound)} {kv : Typed × Bound} {id : Nat} :
      kv ∈ kvs → BoundReads kv.2 id → BoundReads (.unorderedEntries kvs) id

def MemberReads (a : Instance) (m : String) (t : Valued) : Prop :=
  (a.style = .getters ∧ t = .getter (a.id, m)) ∨
    (a.style = .fields ∧ ∃ b id, a.slots.lookup m = some (.bound b) ∧ BoundReads b id ∧ t = .inst id)

/-- What the value of a default body on instance `self` reads, the parent slots taken from the
record of `r`. -/
inductive BodyReads (r : EngineState) (self : Nat) : Body → Valued → Prop
  | get (m : String) : BodyReads r self (.get m) (.getter (self, m))
  | inc {b : Body} {t : Valued} : BodyReads r self b t → BodyReads r self (.inc b) t
  | concat {parts : List Body} {b : Body} {t : Valued} :
      b ∈ parts → BodyReads r self b t → BodyReads r self (.concat parts) t
  | seq {steps : List Body} {b : Body} {t : Valued} :
      b ∈ steps → BodyReads r self b t → BodyReads r self (.seq steps) t
  | parentGet {p m : String} {otherwise : Body} {a : Instance} {t : Valued} :
      r.slotAncestor? self p = some a → MemberReads a m t →
      BodyReads r self (.parentGet p m otherwise) t
  | parentElse {p m : String} {otherwise : Body} {t : Valued} :
      r.slotAncestor? self p = none → BodyReads r self otherwise t →
      BodyReads r self (.parentGet p m otherwise) t
  | convert {target : Target} {b : Body} {t : Valued} :
      BodyReads r self b t → BodyReads r self (.convert target b) t
  | ifPresent {p : String} {present absent : Body} {a : Instance} {t : Valued} :
      r.slotAncestor? self p = some a → BodyReads r self present t →
      BodyReads r self (.ifParent p present absent) t
  | ifAbsent {p : String} {present absent : Body} {t : Valued} :
      r.slotAncestor? self p = none → BodyReads r self absent t →
      BodyReads r self (.ifParent p present absent) t

/-- The value of `t` takes part in the equation of `v` over the record of `r`. -/
inductive Reads (cat : Catalogue) (r : EngineState) : Valued → Valued → Prop
  | body {self : Nat} {name : String} {i : Instance} {s : GetterSchema} {g : GetterDecl}
      {t : Valued} : r.instance? self = some i → cat.schema i.cls = .getters s →
      s.find? name = some g → (g.binding = none ∨ ∃ c, i.slots.lookup name = some (.memo c)) →
      BodyReads r self g.body t → Reads cat r t (.getter (self, name))
  | bound {self : Nat} {name : String} {i : Instance} {s : GetterSchema} {g : GetterDecl}
      {b : Bound} {id : Nat} : r.instance? self = some i → cat.schema i.cls = .getters s →
      s.find? name = some g → g.binding ≠ none → i.slots.lookup name = some (.bound b) →
      BoundReads b id → Reads cat r (.inst id) (.getter (self, name))
  | field {id : Nat} {i : Instance} {n : String} {b : Bound} {id' : Nat} :
      r.instance? id = some i → i.style = .fields → (n, Slot.bound b) ∈ i.slots →
      BoundReads b id' → Reads cat r (.inst id') (.inst id)
  | member {id : Nat} {i : Instance} {n : String} {sl : Slot} :
      r.instance? id = some i → i.style = .getters → (n, sl) ∈ i.slots →
      Reads cat r (.getter (id, n)) (.inst id)

def Valued.rhs (cat : Catalogue) (r : EngineState) (X : Valued → Json) : Valued → Json
  | .getter u => getterValue cat r (Valued.getters X) (Valued.insts X) u
  | .inst id => instanceValue r (Valued.getters X) (Valued.insts X) id

mutual

theorem Bound.value_congr {W W' : Nat → Json} :
    ∀ b : Bound, (∀ id, BoundReads b id → W id = W' id) → b.value W = b.value W'
  | .typed _, _ => rfl
  | .absent, _ => rfl
  | .present b, h => Bound.value_congr b fun id hid => h id (.present hid)
  | .items bs, h => by
    simp only [Bound.value]
    rw [Bound.values_congr bs fun b hb id hid => h id (.items hb hid)]
  | .unordered bs, h => by
    simp only [Bound.value]
    rw [Bound.values_congr bs fun b hb id hid => h id (.unordered hb hid)]
  | .entries kvs, h => by
    simp only [Bound.value]
    rw [Bound.entryValues_congr kvs fun kv hkv id hid => h id (.entries hkv hid)]
  | .unorderedEntries kvs, h => by
    simp only [Bound.value]
    rw [Bound.entryValues_congr kvs fun kv hkv id hid => h id (.unorderedEntries hkv hid)]
  | .inst id, h => h id (.inst id)
  | .parent _ _, _ => rfl

theorem Bound.values_congr {W W' : Nat → Json} :
    ∀ bs : List Bound, (∀ b ∈ bs, ∀ id, BoundReads b id → W id = W' id) →
      Bound.values W bs = Bound.values W' bs
  | [], _ => rfl
  | b :: bs, h => by
    simp only [Bound.values]
    rw [Bound.value_congr b (h b List.mem_cons_self),
      Bound.values_congr bs fun b' hb' => h b' (List.mem_cons_of_mem _ hb')]

theorem Bound.entryValues_congr {W W' : Nat → Json} :
    ∀ kvs : List (Typed × Bound), (∀ kv ∈ kvs, ∀ id, BoundReads kv.2 id → W id = W' id) →
      Bound.entryValues W kvs = Bound.entryValues W' kvs
  | [], _ => rfl
  | (k, b) :: kvs, h => by
    simp only [Bound.entryValues]
    rw [Bound.value_congr b (h (k, b) List.mem_cons_self),
      Bound.entryValues_congr kvs fun kv hkv => h kv (List.mem_cons_of_mem _ hkv)]

end

theorem memberValue_congr {a : Instance} {m : String} {X Y : Valued → Json}
    (h : ∀ t, MemberReads a m t → X t = Y t) :
    memberValue (Valued.getters X) (Valued.insts X) a m =
      memberValue (Valued.getters Y) (Valued.insts Y) a m := by
  cases hs : a.style with
  | getters =>
    simp only [memberValue, hs]
    exact h _ (.inl ⟨hs, rfl⟩)
  | fields =>
    simp only [memberValue, hs]
    cases hl : a.slots.lookup m with
    | none => rfl
    | some sl =>
      cases sl with
      | bound b => exact Bound.value_congr b fun id hid => h _ (.inr ⟨hs, b, id, hl, hid, rfl⟩)
      | blank => rfl
      | memo _ => rfl

section Body

variable {r : EngineState} {self : Nat} {X Y : Valued → Json}

mutual

theorem Body.value_congr :
    ∀ b : Body, (∀ t, BodyReads r self b t → X t = Y t) →
      b.value r (Valued.getters X) (Valued.insts X) self =
        b.value r (Valued.getters Y) (Valued.insts Y) self
  | .literal _, _ => rfl
  | .get m, h => h _ (.get m)
  | .inc b, h => by
    simp only [Body.value]
    rw [Body.value_congr b fun t ht => h t (.inc ht)]
  | .concat parts, h => by
    simp only [Body.value]
    rw [Body.values_congr parts fun b hb t ht => h t (.concat hb ht)]
  | .seq steps, h => by
    simp only [Body.value]
    rw [Body.values_congr steps fun b hb t ht => h t (.seq hb ht)]
  | .parentGet p m otherwise, h => by
    simp only [Body.value]
    cases ha : r.slotAncestor? self p with
    | some a => exact memberValue_congr fun t ht => h t (.parentGet ha ht)
    | none => exact Body.value_congr otherwise fun t ht => h t (.parentElse ha ht)
  | .convert target b, h => by
    simp only [Body.value]
    rw [Body.value_congr b fun t ht => h t (.convert ht)]
  | .ifParent p present absent, h => by
    simp only [Body.value]
    cases ha : r.slotAncestor? self p with
    | some a => exact Body.value_congr present fun t ht => h t (.ifPresent ha ht)
    | none => exact Body.value_congr absent fun t ht => h t (.ifAbsent ha ht)

theorem Body.values_congr :
    ∀ bs : List Body, (∀ b ∈ bs, ∀ t, BodyReads r self b t → X t = Y t) →
      Body.values r (Valued.getters X) (Valued.insts X) self bs =
        Body.values r (Valued.getters Y) (Valued.insts Y) self bs
  | [], _ => rfl
  | b :: bs, h => by
    simp only [Body.values]
    rw [Body.value_congr b (h b List.mem_cons_self),
      Body.values_congr bs fun b' hb' => h b' (List.mem_cons_of_mem _ hb')]

end

end Body

section Rhs

variable {cat : Catalogue} {r : EngineState} {X Y : Valued → Json}

theorem getterValue_congr {self : Nat} {name : String}
    (h : ∀ t, Reads cat r t (.getter (self, name)) → X t = Y t) :
    getterValue cat r (Valued.getters X) (Valued.insts X) (self, name) =
      getterValue cat r (Valued.getters Y) (Valued.insts Y) (self, name) := by
  simp only [getterValue]
  cases hi : r.instance? self with
  | none => rfl
  | some i =>
    dsimp only
    cases hs : cat.schema i.cls with
    | fields _ => rfl
    | getters s =>
      dsimp only
      cases hg : s.find? name with
      | none => rfl
      | some g =>
        dsimp only
        cases hb : g.binding with
        | none => exact Body.value_congr _ fun t ht => h t (.body hi hs hg (.inl hb) ht)
        | some k =>
          cases hl : i.slots.lookup name with
          | none => rfl
          | some sl =>
            cases sl with
            | bound b =>
              exact Bound.value_congr b fun id hid => h _ (.bound hi hs hg (by simp [hb]) hl hid)
            | memo c => exact Body.value_congr _ fun t ht => h t (.body hi hs hg (.inr ⟨c, hl⟩) ht)
            | blank => rfl

theorem instanceValue_congr {id : Nat} (h : ∀ t, Reads cat r t (.inst id) → X t = Y t) :
    instanceValue r (Valued.getters X) (Valued.insts X) id =
      instanceValue r (Valued.getters Y) (Valued.insts Y) id := by
  simp only [instanceValue]
  cases hi : r.instance? id with
  | none => rfl
  | some i =>
    dsimp only
    -- both styles list the slots in order; only the member values differ
    cases hs : i.style with
    | fields =>
      dsimp only
      congr 1
      refine List.map_congr_left fun p hmem => ?_
      obtain ⟨n, sl⟩ := p
      cases sl with
      | bound b =>
        simp only [Slot.value]
        have hv : ∀ id', BoundReads b id' → Valued.insts X id' = Valued.insts Y id' :=
          fun id' hid => h _ (.field hi hs hmem hid)
        rw [Bound.value_congr b hv]
      | blank => rfl
      | memo _ => rfl
    | getters =>
      dsimp only
      congr 1
      refine List.map_congr_left fun p hmem => ?_
      obtain ⟨n, sl⟩ := p
      simp only [Valued.getters]
      rw [h _ (.member hi hs hmem)]

theorem Valued.rhs_congr {v : Valued} (h : ∀ t, Reads cat r t v → X t = Y t) :
    Valued.rhs cat r X v = Valued.rhs cat r Y v := by
  cases v with
  | getter u => exact getterValue_congr h
  | inst id => exact instanceValue_congr h

end Rhs

namespace Solution

variable {cat : Catalogue} {r : EngineState}

def valuation (σ : Solution cat r) : Valued → Json
  | .getter u => σ.getter u
  | .inst id => σ.inst id

theorem valuation_eq (σ : Solution cat r) (v : Valued) :
    σ.valuation v = Valued.rhs cat r σ.valuation v := by
  cases v with
  | getter u => exact σ.getter_eq u
  | inst id => exact σ.inst_eq id

theorem eq_of_wellFounded (hwf : WellFounded (Reads cat r)) (σ τ : Solution cat r) : σ = τ := by
  have h : ∀ v, σ.valuation v = τ.valuation v := by
    intro v
    induction v using hwf.induction with
    | _ v ih =>
      rw [σ.valuation_eq, τ.valuation_eq]
      exact Valued.rhs_congr ih
  have hg : σ.getter = τ.getter := funext fun u => h (.getter u)
  have hi : σ.inst = τ.inst := funext fun id => h (.inst id)
  cases σ
  cases τ
  cases hg
  cases hi
  rfl

theorem nonempty_of_wellFounded (hwf : WellFounded (Reads cat r)) : Nonempty (Solution cat r) := by
  classical
  let X : Valued → Json := hwf.fix fun v rec =>
    Valued.rhs cat r (fun t => if h : Reads cat r t v then rec t h else .null) v
  have hX : ∀ v, X v = Valued.rhs cat r X v := fun v => by
    rw [show X v = _ from hwf.fix_eq _ v]
    exact Valued.rhs_congr fun t ht => dif_pos ht
  exact ⟨⟨Valued.getters X, Valued.insts X, fun u => hX (.getter u), fun id => hX (.inst id)⟩⟩

end Solution

end ConfigTree
