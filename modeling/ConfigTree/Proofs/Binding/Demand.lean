import ConfigTree.Proofs.Binding.Advance
import Mathlib.Logic.Relation

namespace ConfigTree

abbrev GetterRef := Nat × String

mutual

/-- The getters a default body calls directly when evaluated on instance `self`, with the parent
slots of the record of `r`. -/
inductive BodyCalls (r : EngineState) : Nat → Body → GetterRef → Prop
  | get {self : Nat} (m : String) : BodyCalls r self (.get m) (self, m)
  | inc {self : Nat} {b : Body} {t : GetterRef} : BodyCalls r self b t → BodyCalls r self (.inc b) t
  | concat {self : Nat} {parts : List Body} {b : Body} {t : GetterRef} :
      b ∈ parts → BodyCalls r self b t → BodyCalls r self (.concat parts) t
  | seq {self : Nat} {steps : List Body} {b : Body} {t : GetterRef} :
      b ∈ steps → BodyCalls r self b t → BodyCalls r self (.seq steps) t
  | parentGet {self : Nat} {p m : String} {otherwise : Body} {a : Instance} {t : GetterRef} :
      r.slotAncestor? self p = some a → MemberCalls r a m t →
      BodyCalls r self (.parentGet p m otherwise) t
  | parentElse {self : Nat} {p m : String} {otherwise : Body} {t : GetterRef} :
      r.slotAncestor? self p = none → BodyCalls r self otherwise t →
      BodyCalls r self (.parentGet p m otherwise) t
  | convert {self : Nat} {target : Target} {b : Body} {t : GetterRef} :
      BodyCalls r self b t → BodyCalls r self (.convert target b) t
  | ifPresent {self : Nat} {p : String} {present absent : Body} {a : Instance} {t : GetterRef} :
      r.slotAncestor? self p = some a → BodyCalls r self present t →
      BodyCalls r self (.ifParent p present absent) t
  | ifAbsent {self : Nat} {p : String} {present absent : Body} {t : GetterRef} :
      r.slotAncestor? self p = none → BodyCalls r self absent t →
      BodyCalls r self (.ifParent p present absent) t

/-- The getters reading a member of an instance calls directly. -/
inductive MemberCalls (r : EngineState) : Instance → String → GetterRef → Prop
  | getter {i : Instance} {m : String} : i.style = .getters → MemberCalls r i m (i.id, m)
  | field {i : Instance} {m : String} {b : Bound} {t : GetterRef} : i.style = .fields →
      i.slots.lookup m = some (.bound b) → BoundCalls r b t → MemberCalls r i m t

/-- The getters rendering a bound value calls directly. -/
inductive BoundCalls (r : EngineState) : Bound → GetterRef → Prop
  | present {b : Bound} {t : GetterRef} : BoundCalls r b t → BoundCalls r (.present b) t
  | items {bs : List Bound} {b : Bound} {t : GetterRef} :
      b ∈ bs → BoundCalls r b t → BoundCalls r (.items bs) t
  | unordered {bs : List Bound} {b : Bound} {t : GetterRef} :
      b ∈ bs → BoundCalls r b t → BoundCalls r (.unordered bs) t
  | entries {kvs : List (Typed × Bound)} {kv : Typed × Bound} {t : GetterRef} :
      kv ∈ kvs → BoundCalls r kv.2 t → BoundCalls r (.entries kvs) t
  | unorderedEntries {kvs : List (Typed × Bound)} {kv : Typed × Bound} {t : GetterRef} :
      kv ∈ kvs → BoundCalls r kv.2 t → BoundCalls r (.unorderedEntries kvs) t
  | inst {id : Nat} {t : GetterRef} : InstanceCalls r id t → BoundCalls r (.inst id) t

/-- The getters rendering an instance calls directly: every getter of a getter-style instance, and
those that rendering the fields of a field-style one calls. -/
inductive InstanceCalls (r : EngineState) : Nat → GetterRef → Prop
  | field {id : Nat} {i : Instance} {n : String} {b : Bound} {t : GetterRef} :
      r.instance? id = some i → i.style = .fields → (n, Slot.bound b) ∈ i.slots →
      BoundCalls r b t → InstanceCalls r id t
  | getter {id : Nat} {i : Instance} {n : String} {s : Slot} :
      r.instance? id = some i → i.style = .getters → (n, s) ∈ i.slots → InstanceCalls r id (id, n)

end

/-- Calling getter `u` calls getter `t` directly: a getter without binding, or with a memo cell,
runs its default body, and a bound one renders its value. -/
inductive Demands (cat : Catalogue) (r : EngineState) : GetterRef → GetterRef → Prop
  | body {self : Nat} {name : String} {i : Instance} {s : GetterSchema} {g : GetterDecl}
      {t : GetterRef} : r.instance? self = some i → cat.schema i.cls = .getters s →
      s.find? name = some g → (g.binding = none ∨ ∃ c, i.slots.lookup name = some (.memo c)) →
      BodyCalls r self g.body t → Demands cat r (self, name) t
  | bound {self : Nat} {name : String} {i : Instance} {s : GetterSchema} {g : GetterDecl}
      {b : Bound} {t : GetterRef} : r.instance? self = some i → cat.schema i.cls = .getters s →
      s.find? name = some g → g.binding ≠ none → i.slots.lookup name = some (.bound b) →
      BoundCalls r b t → Demands cat r (self, name) t

/-- Getter `u` is bound to memo cell `c`: calling it reads the cell before running its body. -/
def MemoAt (cat : Catalogue) (r : EngineState) (u : GetterRef) (c : Nat) : Prop :=
  ∃ i s g, r.instance? u.1 = some i ∧ cat.schema i.cls = .getters s ∧ s.find? u.2 = some g ∧
    g.binding ≠ none ∧ i.slots.lookup u.2 = some (.memo c)

def Unbound (cat : Catalogue) (r : EngineState) (u : GetterRef) : Prop :=
  ∃ i s g, r.instance? u.1 = some i ∧ cat.schema i.cls = .getters s ∧ s.find? u.2 = some g ∧
    g.binding = none

def entryOf (r : EngineState) (u : GetterRef) : String :=
  ((r.instance? u.1).map (·.evalEntry u.2)).getD ""

/-- No cycle of demands can be reached from getter `u`. -/
def NoCycleFrom (cat : Catalogue) (r : EngineState) (u : GetterRef) : Prop :=
  ∀ v, Relation.ReflTransGen (Demands cat r) u v → ¬ Relation.TransGen (Demands cat r) v v

/-- Every getter whose memo cell holds a value reaches no cycle. -/
def ReadyAcyclic (cat : Catalogue) (r st : EngineState) : Prop :=
  ∀ u c j, MemoAt cat r u c → st.memos[c]? = some (.ready j) → NoCycleFrom cat r u

/-- No two getters are bound to the same memo cell. -/
def CellsOnce (cat : Catalogue) (r : EngineState) : Prop :=
  ∀ u v c, MemoAt cat r u c → MemoAt cat r v c → u = v

variable {cat : Catalogue} {r : EngineState}

theorem MemoAt.cell_unique {u : GetterRef} {c d : Nat} (hc : MemoAt cat r u c)
    (hd : MemoAt cat r u d) : c = d := by
  obtain ⟨i, s, g, hi, -, -, -, hl⟩ := hc
  obtain ⟨i', s', g', hi', -, -, -, hl'⟩ := hd
  rw [hi] at hi'
  cases hi'
  rw [hl] at hl'
  cases hl'
  rfl

theorem NoCycleFrom.of_demands {u : GetterRef} (h : ∀ t, Demands cat r u t → NoCycleFrom cat r t) :
    NoCycleFrom cat r u := by
  intro v huv hcyc
  rcases Relation.ReflTransGen.cases_head huv with rfl | ⟨t, hut, htv⟩
  · -- a cycle through `u` itself is a cycle through the first getter it demands
    obtain ⟨t, hut, htu⟩ := Relation.TransGen.head'_iff.mp hcyc
    exact h t hut t .refl (Relation.TransGen.tail' htu hut)
  · exact h t hut v htv hcyc

theorem NoCycleFrom.of_isEmpty {u : GetterRef} (h : ∀ t, ¬ Demands cat r u t) :
    NoCycleFrom cat r u :=
  NoCycleFrom.of_demands fun t hut => absurd hut (h t)

theorem EngineState.instance?_eq_of_finished {st : EngineState} (h : st.finished = r.finished) :
    st.instance? = r.instance? := by
  funext id
  simp only [EngineState.instance?, h]

theorem EngineState.slotAncestor?_eq_of_finished {st : EngineState} (h : st.finished = r.finished) :
    st.slotAncestor? = r.slotAncestor? := by
  funext self slot
  simp only [EngineState.slotAncestor?, EngineState.instance?_eq_of_finished h]

section Inversion

variable {self : Nat} {t : GetterRef}

@[simp] theorem bodyCalls_literal {j : Json} : ¬ BodyCalls r self (.literal j) t := fun h => by cases h

@[simp] theorem bodyCalls_get {m : String} : BodyCalls r self (.get m) t ↔ t = (self, m) :=
  ⟨fun h => by cases h; rfl, fun h => h ▸ .get m⟩

@[simp] theorem bodyCalls_inc {b : Body} : BodyCalls r self (.inc b) t ↔ BodyCalls r self b t :=
  ⟨fun h => by cases h; assumption, .inc⟩

@[simp] theorem bodyCalls_concat {parts : List Body} :
    BodyCalls r self (.concat parts) t ↔ ∃ b ∈ parts, BodyCalls r self b t :=
  ⟨fun h => by cases h; exact ⟨_, by assumption, by assumption⟩, fun ⟨_, hb, h⟩ => .concat hb h⟩

@[simp] theorem bodyCalls_seq {steps : List Body} :
    BodyCalls r self (.seq steps) t ↔ ∃ b ∈ steps, BodyCalls r self b t :=
  ⟨fun h => by cases h; exact ⟨_, by assumption, by assumption⟩, fun ⟨_, hb, h⟩ => .seq hb h⟩

@[simp] theorem bodyCalls_convert {target : Target} {b : Body} :
    BodyCalls r self (.convert target b) t ↔ BodyCalls r self b t :=
  ⟨fun h => by cases h; assumption, .convert⟩

theorem bodyCalls_parentGet_of_some {p m : String} {otherwise : Body} {a : Instance}
    (ha : r.slotAncestor? self p = some a) :
    BodyCalls r self (.parentGet p m otherwise) t ↔ MemberCalls r a m t := by
  constructor
  · intro h
    cases h with
    | parentGet ha' hm => rw [ha] at ha'; cases ha'; exact hm
    | parentElse ha' _ => rw [ha] at ha'; cases ha'
  · exact .parentGet ha

theorem bodyCalls_parentGet_of_none {p m : String} {otherwise : Body}
    (ha : r.slotAncestor? self p = none) :
    BodyCalls r self (.parentGet p m otherwise) t ↔ BodyCalls r self otherwise t := by
  constructor
  · intro h
    cases h with
    | parentGet ha' _ => rw [ha] at ha'; cases ha'
    | parentElse _ hb => exact hb
  · exact .parentElse ha

theorem bodyCalls_ifParent_of_some {p : String} {present absent : Body} {a : Instance}
    (ha : r.slotAncestor? self p = some a) :
    BodyCalls r self (.ifParent p present absent) t ↔ BodyCalls r self present t := by
  constructor
  · intro h
    cases h with
    | ifPresent _ hb => exact hb
    | ifAbsent ha' _ => rw [ha] at ha'; cases ha'
  · exact .ifPresent ha

theorem bodyCalls_ifParent_of_none {p : String} {present absent : Body}
    (ha : r.slotAncestor? self p = none) :
    BodyCalls r self (.ifParent p present absent) t ↔ BodyCalls r self absent t := by
  constructor
  · intro h
    cases h with
    | ifPresent ha' _ => rw [ha] at ha'; cases ha'
    | ifAbsent _ hb => exact hb
  · exact .ifAbsent ha

theorem memberCalls_of_getters {i : Instance} {m : String} (hs : i.style = .getters) :
    MemberCalls r i m t ↔ t = (i.id, m) := by
  constructor
  · intro h
    cases h with
    | getter _ => rfl
    | field hs' _ _ => rw [hs] at hs'; cases hs'
  · rintro rfl
    exact .getter hs

theorem memberCalls_of_bound {i : Instance} {m : String} {b : Bound} (hs : i.style = .fields)
    (hl : i.slots.lookup m = some (.bound b)) : MemberCalls r i m t ↔ BoundCalls r b t := by
  constructor
  · intro h
    cases h with
    | getter hs' => rw [hs] at hs'; cases hs'
    | field _ hl' hb => rw [hl] at hl'; cases hl'; exact hb
  · exact .field hs hl

theorem not_memberCalls {i : Instance} {m : String} (hs : i.style = .fields)
    (hl : ∀ b, i.slots.lookup m ≠ some (.bound b)) : ¬ MemberCalls r i m t := by
  intro h
  cases h with
  | getter hs' => rw [hs] at hs'; cases hs'
  | field _ hl' _ => exact hl _ hl'

@[simp] theorem boundCalls_typed {x : Typed} : ¬ BoundCalls r (.typed x) t := fun h => by cases h

@[simp] theorem boundCalls_absent : ¬ BoundCalls r .absent t := fun h => by cases h

@[simp] theorem boundCalls_parent {c : ClassRef} {a : Option Nat} :
    ¬ BoundCalls r (.parent c a) t := fun h => by cases h

@[simp] theorem boundCalls_present {b : Bound} : BoundCalls r (.present b) t ↔ BoundCalls r b t :=
  ⟨fun h => by cases h; assumption, .present⟩

@[simp] theorem boundCalls_items {bs : List Bound} :
    BoundCalls r (.items bs) t ↔ ∃ b ∈ bs, BoundCalls r b t :=
  ⟨fun h => by cases h; exact ⟨_, by assumption, by assumption⟩, fun ⟨_, hb, h⟩ => .items hb h⟩

@[simp] theorem boundCalls_unordered {bs : List Bound} :
    BoundCalls r (.unordered bs) t ↔ ∃ b ∈ bs, BoundCalls r b t :=
  ⟨fun h => by cases h; exact ⟨_, by assumption, by assumption⟩, fun ⟨_, hb, h⟩ => .unordered hb h⟩

@[simp] theorem boundCalls_entries {kvs : List (Typed × Bound)} :
    BoundCalls r (.entries kvs) t ↔ ∃ kv ∈ kvs, BoundCalls r kv.2 t :=
  ⟨fun h => by cases h; exact ⟨_, by assumption, by assumption⟩, fun ⟨_, hb, h⟩ => .entries hb h⟩

@[simp] theorem boundCalls_unorderedEntries {kvs : List (Typed × Bound)} :
    BoundCalls r (.unorderedEntries kvs) t ↔ ∃ kv ∈ kvs, BoundCalls r kv.2 t :=
  ⟨fun h => by cases h; exact ⟨_, by assumption, by assumption⟩,
    fun ⟨_, hb, h⟩ => .unorderedEntries hb h⟩

@[simp] theorem boundCalls_inst {id : Nat} : BoundCalls r (.inst id) t ↔ InstanceCalls r id t :=
  ⟨fun h => by cases h; assumption, .inst⟩

theorem instanceCalls_of_fields {id : Nat} {i : Instance} (hi : r.instance? id = some i)
    (hs : i.style = .fields) :
    InstanceCalls r id t ↔ ∃ n b, (n, Slot.bound b) ∈ i.slots ∧ BoundCalls r b t := by
  constructor
  · intro h
    cases h with
    | field hi' _ hn hb => rw [hi] at hi'; cases hi'; exact ⟨_, _, hn, hb⟩
    | getter hi' hs' _ => rw [hi] at hi'; cases hi'; rw [hs] at hs'; cases hs'
  · rintro ⟨n, b, hn, hb⟩
    exact .field hi hs hn hb

theorem instanceCalls_of_getters {id : Nat} {i : Instance} (hi : r.instance? id = some i)
    (hs : i.style = .getters) :
    InstanceCalls r id t ↔ ∃ n s, (n, s) ∈ i.slots ∧ t = (id, n) := by
  constructor
  · intro h
    cases h with
    | field hi' hs' _ _ => rw [hi] at hi'; cases hi'; rw [hs] at hs'; cases hs'
    | getter hi' _ hn => rw [hi] at hi'; cases hi'; exact ⟨_, _, hn, rfl⟩
  · rintro ⟨n, s, hn, rfl⟩
    exact .getter hi hs hn

theorem not_instanceCalls {id : Nat} (hi : r.instance? id = none) : ¬ InstanceCalls r id t := by
  intro h
  cases h with
  | field hi' _ _ _ => rw [hi] at hi'; cases hi'
  | getter hi' _ _ => rw [hi] at hi'; cases hi'

end Inversion

end ConfigTree
