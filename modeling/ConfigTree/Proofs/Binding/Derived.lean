import Mathlib.Data.List.Nodup
import ConfigTree.Proofs.Binding.FailurePath

namespace ConfigTree

open EngineM

/-- The binding kind a field attribute asks for. -/
def FieldAttr.kind : FieldAttr → BindingKind
  | .plain => .zero
  | .required => .required
  | .withDefault | .defaultWith => .withDefault
  | .withFallback => .withFallback
  | .identity => .identity
  | .parent => .parentRef
  | .computed => .computed
  | .skip => .ignored

theorem FieldAttr.kind_bne_ignored (a : FieldAttr) : (a.kind != .ignored) = (a != .skip) := by
  cases a <;> rfl

namespace FieldDecl

/-- A field as the field derivation declares it: no attribute but `computed`, and every rule from
the attribute, none overridden. -/
structure Derived (f : FieldDecl) : Prop where
  not_computed : f.attr ≠ .computed
  markers_none : f.markers = none
  contract_none : f.contract = none
  mutable_none : f.mutable = none
  declaredType_none : f.declaredType = none
  declared : f.declare = true
  pop_byAttr : f.pop = .byAttr
  popShape_none : f.popShape = none

/-- Whether the constructor consumes the field: every field that is not skipped. -/
def consumed (f : FieldDecl) : Bool := f.attr != .skip

/-- Whether the field is consumed and its type allows mutation, in a class that does not allow
mutable fields. -/
def mutatesWithout (allowMutable : Bool) (f : FieldDecl) : Bool :=
  f.consumed && f.shape.allowsMutation && !allowMutable

/-- The descriptor of a field: its name, its rename or else its name under the naming convention,
the path of its type and the kind of its attribute. -/
def descriptor (naming : String → String) (f : FieldDecl) : Descriptor :=
  ⟨f.name, f.rename.getD (naming f.name), f.shape.typePath, f.attr.kind⟩

/-- The pop of a consumed field: under its name, as its type, with the rule of the op its attribute
selects. -/
def popStep (f : FieldDecl) : FieldStep :=
  .pop (some f.name) f.shape ((f.attr.popOp?.getD .withZero).rule f.default f.fallback)

theorem Derived.member_kind? {f : FieldDecl} (hf : f.Derived) (t : String)
    (settings : ClassSettings) :
    f.member.kind? t .fields settings =
      if f.mutatesWithout settings.allowMutable then
        .error (.mutableField t f.name f.shape.typePath)
      else .ok (some f.attr.kind) := by
  obtain ⟨hc, hm, hct, hmut, hdt, -, -, -⟩ := hf
  obtain ⟨name, shape, attr⟩ := f
  simp only at hc hm hct hmut hdt
  subst hm hct hmut hdt
  -- the attribute sets the marker and contract; mutability is checked before either
  cases hmut : shape.allowsMutation <;> cases hallow : settings.allowMutable <;> cases attr <;>
    simp_all [Member.kind?, member, mutatesWithout, consumed, FieldAttr.markers, FieldAttr.contract,
      FieldAttr.kind, bind, Except.bind, pure, Except.pure, throw, throwThe, MonadExceptOf.throw]

theorem Derived.member_descriptor {f : FieldDecl} (hf : f.Derived) (naming : String → String) :
    (⟨f.member.name, f.member.logicalName naming, f.member.declaredType, f.attr.kind⟩ : Descriptor) =
      f.descriptor naming := by
  cases hr : f.rename <;> simp [descriptor, member, Member.logicalName, hr, hf.declaredType_none]

theorem Derived.step_eq {f : FieldDecl} (hf : f.Derived) :
    f.step = some (if f.consumed then f.popStep else .blank f.name) := by
  obtain ⟨hc, -, -, -, -, -, hpop, hshape⟩ := hf
  cases hattr : f.attr <;>
    simp_all [step, popStep, consumed, FieldAttr.popOp?]

end FieldDecl

namespace FieldSchema

/-- A field-style class as the field derivation declares it: derived fields, and no pops after them.
-/
structure Derived (s : FieldSchema) : Prop where
  fields : ∀ f ∈ s.fields, f.Derived
  extraPops_nil : s.extraPops = []

theorem Derived.members_eq {s : FieldSchema} (hs : s.Derived) :
    s.members = s.fields.map FieldDecl.member := by
  rw [members, List.filter_eq_self.mpr fun f hf => (hs.fields f hf).declared]

end FieldSchema

section Classify

variable {t : String} {settings : ClassSettings}

theorem classify_derived_of_find?_none :
    ∀ {fields : List FieldDecl}, (∀ f ∈ fields, f.Derived) →
      fields.find? (·.mutatesWithout settings.allowMutable) = none →
      classify t .fields settings (fields.map FieldDecl.member) =
        .ok (fields.map (·.descriptor settings.naming))
  | [], _, _ => rfl
  | f :: rest, hd, hfind => by
    have hf := hd f List.mem_cons_self
    have hrest := classify_derived_of_find?_none (fun g hg => hd g (List.mem_cons_of_mem _ hg))
      (List.find?_eq_none.mpr fun g hg => List.find?_eq_none.mp hfind g (List.mem_cons_of_mem _ hg))
    have hmut : f.mutatesWithout settings.allowMutable = false := by
      simpa using List.find?_eq_none.mp hfind f List.mem_cons_self
    simp only [classify, List.map_cons, List.filterMapM_cons, bind, Except.bind, pure,
      Except.pure] at hrest ⊢
    rw [hf.member_kind?, if_neg (by simp [hmut])]
    simp only [hrest, hf.member_descriptor]

theorem classify_derived_of_find?_some :
    ∀ {fields : List FieldDecl} {f : FieldDecl}, (∀ g ∈ fields, g.Derived) →
      fields.find? (·.mutatesWithout settings.allowMutable) = some f →
      classify t .fields settings (fields.map FieldDecl.member) =
        .error (.mutableField t f.name f.shape.typePath)
  | [], _, _, hfind => by cases hfind
  | g :: rest, f, hd, hfind => by
    have hg := hd g List.mem_cons_self
    simp only [classify, List.map_cons, List.filterMapM_cons]
    rw [hg.member_kind?]
    rw [List.find?_cons] at hfind
    cases hmut : g.mutatesWithout settings.allowMutable
    · -- the first field classifies, so the failure is the rest's
      have hrest := classify_derived_of_find?_some
        (fun h hh => hd h (List.mem_cons_of_mem _ hh)) (by simpa [hmut] using hfind)
      simp only [classify, bind, Except.bind, pure, Except.pure] at hrest ⊢
      simp [hrest]
    · simp only [hmut, Option.some.injEq] at hfind
      subst hfind
      rfl

end Classify

theorem FieldSchema.Derived.classify_ok {s : FieldSchema} (hs : s.Derived) {t : String}
    {ds : List Descriptor} (h : classify t .fields s.settings s.members = .ok ds) :
    ds = s.fields.map (·.descriptor s.naming) := by
  rw [hs.members_eq] at h
  cases hfind : s.fields.find? (·.mutatesWithout s.settings.allowMutable) with
  | some f =>
    rw [classify_derived_of_find?_some hs.fields hfind] at h
    cases h
  | none =>
    rw [classify_derived_of_find?_none hs.fields hfind] at h
    exact (Except.ok.inj h).symm

section Steps

variable {s : FieldSchema}

theorem pending_of_descriptors (naming : String → String) (fields : List FieldDecl) :
    (fields.map (·.descriptor naming)).filter (·.kind != .ignored) =
      (fields.filter (·.consumed)).map (·.descriptor naming) := by
  rw [List.filter_map]
  congr 1
  refine List.filter_congr fun f _ => ?_
  exact FieldAttr.kind_bne_ignored f.attr

theorem FieldSchema.Derived.steps_eq (hs : s.Derived) :
    s.steps = s.fields.map fun f => if f.consumed then f.popStep else .blank f.name := by
  rw [FieldSchema.steps, hs.extraPops_nil, List.map_nil, List.append_nil,
    List.filterMap_eq_map_iff_forall_eq_some]
  exact fun f hf => (hs.fields f hf).step_eq

theorem FieldSchema.Derived.pops_eq (hs : s.Derived) :
    s.steps.filter FieldStep.isPop = (s.fields.filter (·.consumed)).map FieldDecl.popStep := by
  rw [hs.steps_eq, List.filter_map]
  have hp : ∀ f : FieldDecl,
      FieldStep.isPop (if f.consumed then f.popStep else .blank f.name) = f.consumed := by
    intro f
    cases f.consumed <;> rfl
  simp only [Function.comp_def, hp]
  refine List.map_congr_left fun f hf => ?_
  rw [if_pos (List.of_mem_filter hf)]

theorem FieldSchema.Derived.keeps_failures (hs : s.Derived) :
    ∀ x ∈ s.steps, x.dropsFailure = false := by
  rw [hs.steps_eq]
  intro x hx
  obtain ⟨f, -, rfl⟩ := List.mem_map.mp hx
  cases f.consumed <;> rfl

theorem FieldSchema.Derived.pops_steps (hs : s.Derived) :
    FieldStep.pops s.steps = (s.fields.filter (·.consumed)).length := by
  rw [FieldStep.pops, List.countP_eq_length_filter, hs.pops_eq, List.length_map]

end Steps

def GetterKind.kind? : GetterKind → Option BindingKind
  | .property => some .zero
  | .defaulted => some .withDefault
  | .computed => some .computed
  | .identity => some .identity
  | .parent => some .parentRef
  | .ignored => some .ignored
  | .method => none

/-- The kind of descriptor a getter's binding takes. -/
def GetterBinding.kind : GetterBinding → BindingKind
  | .property => .zero
  | .defaulted => .withDefault
  | .computed => .computed
  | .identity => .identity
  | .parent => .parentRef

theorem GetterKind.kind?_of_binding {k : GetterKind} {b : GetterBinding} (h : k.binding = some b) :
    k.kind? = some b.kind := by
  cases k <;> cases h <;> rfl

namespace GetterDecl

/-- A getter as the interface derivation declares it: every member flag from its kind, the binding
its kind selects, and only an associated function left undeclared. -/
structure Derived (g : GetterDecl) : Prop where
  bindAs_none : g.bindAs = none
  markers_none : g.markers = none
  hasBody_none : g.hasBody = none
  takesArguments_none : g.takesArguments = none
  declaredType_none : g.declaredType = none
  method_of_undeclared : g.declare = false → g.kind = .method

/-- The descriptor of a getter of a given kind: its name, its rename or else the property its name
stands for under the naming convention, and the path of its type. -/
def descriptor (naming : String → String) (g : GetterDecl) (k : BindingKind) : Descriptor :=
  ⟨g.name, g.rename.getD (naming (Naming.propertyName g.name)), g.valueShape.typePath, k⟩

/-- The descriptor of a getter of its kind, none for a method. -/
def descriptor? (naming : String → String) (g : GetterDecl) : Option Descriptor :=
  g.kind.kind?.map (g.descriptor naming)

theorem Derived.member_kind? {g : GetterDecl} (hg : g.Derived) (t : String)
    (settings : ClassSettings) : g.member.kind? t .getters settings = .ok g.kind.kind? := by
  obtain ⟨-, hm, hb, ha, -, -⟩ := hg
  cases hk : g.kind <;>
    simp [Member.kind?, member, hm, hb, ha, hk, GetterKind.markers, GetterKind.hasBody,
      GetterKind.takesArguments, GetterKind.kind?, bind, Except.bind, pure, Except.pure]

theorem Derived.binding_eq {g : GetterDecl} (hg : g.Derived) : g.binding = g.kind.binding := by
  simp [binding, hg.bindAs_none]

theorem Derived.declared_of_binding {g : GetterDecl} (hg : g.Derived) {b : GetterBinding}
    (hb : g.binding = some b) : g.declare = true := by
  cases hd : g.declare
  · have hk := hg.method_of_undeclared hd
    rw [hg.binding_eq, hk] at hb
    cases hb
  · rfl

end GetterDecl

section Getters

variable {t : String} {settings : ClassSettings}

theorem classify_derived_getters :
    ∀ {getters : List GetterDecl}, (∀ g ∈ getters, g.Derived) →
      classify t .getters settings (getters.map GetterDecl.member) =
        .ok (getters.filterMap (GetterDecl.descriptor? settings.naming))
  | [], _ => rfl
  | g :: rest, hd => by
    have hg := hd g List.mem_cons_self
    have hrest := classify_derived_getters fun h hh => hd h (List.mem_cons_of_mem _ hh)
    simp only [classify, List.map_cons, List.filterMapM_cons, bind, Except.bind, pure,
      Except.pure] at hrest ⊢
    rw [hg.member_kind?]
    cases hk : g.kind.kind? with
    | none => simp [hrest, GetterDecl.descriptor?, hk]
    | some k =>
      have hname : g.member.logicalName settings.naming =
          g.rename.getD (settings.naming (Naming.propertyName g.name)) := by
        cases hr : g.rename <;> simp [GetterDecl.member, Member.logicalName, hr]
      have htype : g.member.declaredType = g.valueShape.typePath := by
        simp [GetterDecl.member, hg.declaredType_none]
      have hmember : g.member.name = g.name := rfl
      simp [hrest, GetterDecl.descriptor?, hk, GetterDecl.descriptor, hname, htype, hmember]

theorem mem_filterMap_descriptor? {naming : String → String} {getters : List GetterDecl} {d : Descriptor}
    (h : d ∈ getters.filterMap (GetterDecl.descriptor? naming)) :
    ∃ g ∈ getters, d.member = g.name := by
  obtain ⟨g, hg, hd⟩ := List.mem_filterMap.mp h
  obtain ⟨k, -, rfl⟩ := Option.map_eq_some_iff.mp hd
  exact ⟨g, hg, rfl⟩

theorem nodup_members_of_nodup_names (naming : String → String) :
    ∀ {getters : List GetterDecl}, (getters.map (·.name)).Nodup →
      ((getters.filterMap (GetterDecl.descriptor? naming)).map (·.member)).Nodup
  | [], _ => List.nodup_nil
  | g :: rest, hnd => by
    rw [List.map_cons, List.nodup_cons] at hnd
    have ih := nodup_members_of_nodup_names naming hnd.2
    rw [List.filterMap_cons]
    cases hk : GetterDecl.descriptor? naming g with
    | none => exact ih
    | some d =>
      obtain ⟨k, -, rfl⟩ := Option.map_eq_some_iff.mp hk
      refine List.nodup_cons.mpr ⟨fun hmem => hnd.1 ?_, ih⟩
      obtain ⟨d', hd', hname⟩ := List.mem_map.mp hmem
      obtain ⟨g', hg', hg'name⟩ := mem_filterMap_descriptor? hd'
      exact List.mem_map.mpr ⟨g', hg', by rw [← hg'name, hname]; rfl⟩

theorem find?_member_of_nodup :
    ∀ {ds : List Descriptor} {d : Descriptor}, (ds.map (·.member)).Nodup → d ∈ ds →
      ds.find? (·.member == d.member) = some d
  | [], _, _, hd => by cases hd
  | x :: rest, d, hnd, hd => by
    rw [List.map_cons, List.nodup_cons] at hnd
    rcases List.mem_cons.mp hd with rfl | hd
    · exact List.find?_cons_of_pos (by simp)
    · -- the head has another member, since the member of `d` comes later
      have hne : x.member ≠ d.member := fun h => hnd.1 (h ▸ List.mem_map_of_mem hd)
      rw [List.find?_cons_of_neg (by simpa using hne)]
      exact find?_member_of_nodup hnd.2 hd

end Getters

/-- A getter-style class as the interface derivation declares it: derived getters of distinct names,
as the methods of a trait have. -/
structure GetterSchema.Derived (s : GetterSchema) : Prop where
  getters : ∀ g ∈ s.getters, g.Derived
  names_nodup : (s.getters.map (·.name)).Nodup

theorem GetterSchema.Derived.find?_descriptor {s : GetterSchema} (hs : s.Derived) {t : String}
    {ds : List Descriptor} (h : classify t .getters s.settings s.members = .ok ds) {g : GetterDecl}
    (hg : g ∈ s.getters) {b : GetterBinding} (hb : g.binding = some b) :
    ds.reverse.find? (·.member == g.name) = some (g.descriptor s.naming b.kind) := by
  have hgd := hs.getters g hg
  rw [GetterSchema.members,
    classify_derived_getters fun g' hg' => hs.getters g' (List.mem_filter.mp hg').1] at h
  cases h
  have hnd : ((s.getters.filter (·.declare)).map (·.name)).Nodup :=
    hs.names_nodup.sublist ((List.filter_sublist).map _)
  have hmem : g.descriptor s.naming b.kind ∈
      (s.getters.filter (·.declare)).filterMap (GetterDecl.descriptor? s.naming) := by
    refine List.mem_filterMap.mpr ⟨g, List.mem_filter.mpr ⟨hg, hgd.declared_of_binding hb⟩, ?_⟩
    rw [hgd.binding_eq] at hb
    simp [GetterDecl.descriptor?, GetterKind.kind?_of_binding hb]
  have hfind := find?_member_of_nodup
    (by rw [List.map_reverse]; exact List.nodup_reverse.mpr (nodup_members_of_nodup_names s.naming hnd))
    (List.mem_reverse.mpr hmem)
  exact hfind

/-- Whether a failure is a mismatch between the fields a constructor declared and consumed. -/
def ConfigError.isArityMismatch : ConfigError → Bool
  | .arityMismatch .. => true
  | _ => false

theorem ConfigError.isArityMismatch_within (e : ConfigError) (k : String) :
    (e.within k).isArityMismatch = e.isArityMismatch := by
  cases e <;> rfl

theorem ConfigError.isArityMismatch_of_isKeyed {e : ConfigError} (h : e.isKeyed = true) :
    e.isArityMismatch = false := by
  cases e <;> simp_all [isKeyed, isArityMismatch]

theorem Member.kind?_error_isArityMismatch {m : Member} {t : String} {style : BindingStyle}
    {settings : ClassSettings} {e : ConfigError} (h : m.kind? t style settings = .error e) :
    e.isArityMismatch = false := by
  unfold Member.kind? at h
  simp only [bind, Except.bind, pure, Except.pure, throw, throwThe, MonadExceptOf.throw] at h
  repeat' split at h
  all_goals cases h <;> rfl

theorem classify_error_isArityMismatch {t : String} {style : BindingStyle}
    {settings : ClassSettings} {members : List Member} {e : ConfigError}
    (h : classify t style settings members = .error e) : e.isArityMismatch = false := by
  obtain ⟨m, -, hm⟩ := Except.exists_of_filterMapM_eq_error h
  cases hk : m.kind? t style settings with
  | error e' =>
    simp only [hk, bind, Except.bind] at hm
    cases hm
    exact Member.kind?_error_isArityMismatch hk
  | ok k =>
    cases k <;> simp [hk, bind, Except.bind, pure, Except.pure] at hm

namespace EngineM

def KeepsArity {α : Type} (x : EngineM α) : Prop :=
  ∀ st e, x st = .error (.config e) → e.isArityMismatch = false

namespace KeepsArity

variable {α β : Type} {x : EngineM α}

theorem of_ok (hx : ∀ st, ∃ r, x st = .ok r) : KeepsArity x := by
  intro st e h
  obtain ⟨r, hr⟩ := hx st
  rw [hr] at h
  cases h

theorem of_pure (a : α) : KeepsArity (pure a : EngineM α) := of_ok fun _ => ⟨_, rfl⟩

theorem of_fail {e : ConfigError} (he : e.isArityMismatch = false) :
    KeepsArity (fail e : EngineM α) := by
  intro st e' h
  cases h
  exact he

theorem fail_bind {e : ConfigError} {f : α → EngineM β} (he : e.isArityMismatch = false) :
    KeepsArity (fail e >>= f) := by
  intro st e' h
  cases h
  exact he

theorem of_exhausted : KeepsArity (throw .exhausted : EngineM α) := fun _ _ h => nomatch h

theorem recover_pure {a : α} : KeepsArity (EngineM.recover x (pure a)) := fun _ _ h =>
  nomatch recover_config_error h

theorem bind {f : α → EngineM β} (hx : KeepsArity x) (hf : ∀ a, KeepsArity (f a)) :
    KeepsArity (x >>= f) := by
  intro st e h
  rcases bind_error h with hfirst | ⟨a, st₁, -, hrest⟩
  · exact hx st e hfirst
  · exact hf a st₁ e hrest

theorem within (k : String) (hx : KeepsArity x) : KeepsArity (EngineM.within k x) := by
  intro st e h
  obtain ⟨e', hact, rfl⟩ := within_error h
  rw [ConfigError.isArityMismatch_within]
  exact hx st e' hact

theorem ofExcept {r : Except ConfigError α} (hr : ∀ e, r = .error e → e.isArityMismatch = false) :
    KeepsArity (EngineM.ofExcept r) := by
  cases r with
  | ok a => exact of_pure a
  | error e => exact of_fail (hr e rfl)

theorem read (t : Target) (v : Value) : KeepsArity (EngineM.ofExcept (t.read v)) :=
  ofExcept fun _ h => ConfigError.isArityMismatch_of_isKeyed (Target.read_error_isKeyed h)

theorem mapM {f : α → EngineM β} {xs : List α} (hf : ∀ a ∈ xs, KeepsArity (f a)) :
    KeepsArity (xs.mapM f) := by
  intro st e h
  obtain ⟨a, ha, st', hfa⟩ := mapM_error h
  exact hf a ha st' e hfa

theorem foldlM {f : β → α → EngineM β} {xs : List α} {init : β}
    (hf : ∀ acc, ∀ a ∈ xs, KeepsArity (f acc a)) : KeepsArity (xs.foldlM f init) := by
  intro st e h
  obtain ⟨pre, a, post, acc, st', rfl, -, ha⟩ := foldlM_error h
  exact hf acc a (List.mem_append_right _ List.mem_cons_self) st' e ha

end KeepsArity

end EngineM

section Queue

variable {cat : Catalogue} {fuel : Nat} {ctx : Context} {pending : List Descriptor}

theorem foldlM_run_keepsArity {bind : Shape → Value → EngineM Bound}
    (hbind : ∀ shape v, KeepsArity (bind shape v))
    (hpop : ∀ queue shape absence, queue.pending ≠ [] →
      KeepsArity (popField cat fuel ctx queue shape absence)) :
    ∀ (steps : List FieldStep), (∀ x ∈ steps, x.dropsFailure = false) →
      ∀ {j : Nat} (slots : List (String × Slot)), j + FieldStep.pops steps ≤ pending.length →
      KeepsArity (steps.foldlM (FieldStep.run bind (popField cat fuel ctx))
        (FieldQueue.after pending j, slots))
  | [], _, _, _, _ => .of_pure _
  | x :: steps, hkeep, j, slots, hj => by
    rw [FieldStep.pops_cons] at hj
    rw [List.foldlM_cons]
    intro st e h
    have habs : ∀ shape (rule : PopRule), KeepsArity (rule.absence (bind shape)) := by
      intro shape rule
      cases rule with
      | preset v => exact (hbind shape v).bind fun _ => .of_pure _
      | _ => exact .of_pure _
    rcases bind_error h with hx | ⟨⟨q, slots₁⟩, st₁, hx, hrest⟩
    · -- the step itself: a preset default, then a pop from a queue that is not empty
      cases x with
      | blank name => cases hx
      | pop name shape rule =>
        have hne : (FieldQueue.after pending j).pending ≠ [] := by
          have hone : FieldStep.pops [.pop name shape rule] = 1 := rfl
          simp only [FieldQueue.after, ne_eq, List.drop_eq_nil_iff]
          omega
        exact ((habs shape rule).bind fun absence => (hpop _ shape absence hne).bind
          fun _ => .of_pure _) st e hx
      | discard shape rule =>
        exact ((habs shape rule).bind fun _ => KeepsArity.recover_pure.bind fun _ => .of_pure _)
          st e hx
    · obtain ⟨rfl, hle⟩ := run_after (by omega : j ≤ pending.length) hx
      rw [Nat.min_eq_left (hle (hkeep x List.mem_cons_self))] at hrest
      exact foldlM_run_keepsArity hbind hpop steps (fun y hy => hkeep y (List.mem_cons_of_mem x hy))
        slots₁ (by omega) st₁ e hrest

end Queue

/-- Every field-style class in scope is declared as the field derivation declares it. -/
def Catalogue.FieldsDerived (cat : Catalogue) : Prop :=
  ∀ c s, cat.schema c = .fields s → s.Derived

/-- No construction function fails on arity, at a given fuel: a pop from a queue that is not empty,
and the constructor of a derived class, included. -/
structure ArityKept (cat : Catalogue) (fuel : Nat) : Prop where
  inst : ∀ c n enc, KeepsArity (materializeIn cat fuel c n enc)
  fields : ∀ ctx s, FieldSchema.Derived s → KeepsArity (constructFields cat fuel ctx s)
  getters : ∀ ctx s, KeepsArity (constructGetters cat fuel ctx s)
  pop : ∀ ctx queue shape absence, queue.pending ≠ [] →
    KeepsArity (popField cat fuel ctx queue shape absence)
  field : ∀ ctx d shape absence, KeepsArity (bindField cat fuel ctx d shape absence)
  value : ∀ ctx shape v, KeepsArity (bindValue cat fuel ctx shape v)
  zero : ∀ ctx shape, KeepsArity (zeroValue cat fuel ctx shape)
  whole : ∀ ctx shape n, KeepsArity (fromNode cat fuel ctx shape n)

namespace ArityKept

variable {cat : Catalogue} {fuel : Nat}

theorem value_succ (ih : ArityKept cat fuel) (ctx : Context) (shape : Shape) (v : Value) :
    KeepsArity (bindValue cat (fuel + 1) ctx shape v) := by
  have hv := ih.value ctx
  -- items and entries fail by conversion or as one of them does
  cases shape with
  | scalar t | atomic t =>
    simp only [bindValue]
    exact (KeepsArity.read t v).bind fun _ => .of_pure _
  | option s =>
    simp only [bindValue]
    exact (hv s v).bind fun _ => .of_pure _
  | guarded l s =>
    simp only [bindValue]
    exact hv s v
  | list s | unorderedSet s | orderedSet s =>
    simp only [bindValue]
    refine KeepsArity.bind ?_ fun _ => .of_ok fun _ => ?_
    · split
      · exact .of_fail rfl
      · exact .mapM fun xi _ => (hv s xi.1).within _
    · first
        | exact ⟨_, rfl⟩
        | cases s <;> exact ⟨_, rfl⟩
  | unorderedMap k s | orderedMap k s =>
    simp only [bindValue]
    refine KeepsArity.bind ?_ fun _ => .of_pure _
    split
    · exact .mapM fun x _ => KeepsArity.within _
        ((KeepsArity.read k _).bind fun _ => (hv s x.2).bind fun _ => .of_pure _)
    · exact .of_fail rfl
  | nested c =>
    simp only [bindValue]
    cases v with
    | node n => exact (ih.inst c n ctx.lineage).bind fun _ => .of_pure _
    | _ => exact .of_fail rfl
  | parent c =>
    simp only [bindValue]
    exact .of_fail rfl

theorem zero_succ (ih : ArityKept cat fuel) (ctx : Context) (shape : Shape) :
    KeepsArity (zeroValue cat (fuel + 1) ctx shape) := by
  cases shape with
  | guarded l s =>
    simp only [zeroValue]
    exact ih.zero ctx s
  | nested c =>
    simp only [zeroValue]
    exact (ih.inst c [] ctx.lineage).bind fun _ => .of_pure _
  | _ =>
    simp only [zeroValue]
    exact .of_pure _

theorem whole_succ (ih : ArityKept cat fuel) (ctx : Context) (shape : Shape) (n : Node) :
    KeepsArity (fromNode cat (fuel + 1) ctx shape n) := by
  cases shape with
  | nested c =>
    simp only [fromNode]
    exact (ih.inst c n ctx.lineage).bind fun _ => .of_pure _
  | option s =>
    simp only [fromNode]
    exact (ih.whole ctx s n).bind fun _ => .of_pure _
  | scalar t =>
    cases t with
    | node =>
      simp only [fromNode]
      exact .of_pure _
    | _ =>
      simp only [fromNode]
      exact .of_fail rfl
  | _ =>
    simp only [fromNode]
    exact .of_fail rfl

theorem field_succ (ih : ArityKept cat fuel) (ctx : Context) (d : Descriptor) (shape : Shape)
    (absence : Absence) : KeepsArity (bindField cat (fuel + 1) ctx d shape absence) := by
  cases hk : d.kind with
  | identity =>
    simp only [bindField, hk]
    cases shape.fromIdentity? ctx.node with
    | some b => exact .of_pure b
    | none => exact .of_fail rfl
  | parentRef =>
    simp only [bindField, hk]
    cases shape.fromParent? ctx with
    | some b => exact .of_pure b
    | none => exact .of_fail rfl
  | _ =>
    simp only [bindField, hk]
    cases ctx.node.lookup d.logicalName with
    | some x => exact (ih.value ctx shape x).within _
    | none =>
      cases absence with
      | require => exact .of_fail rfl
      | zero =>
        refine ((ih.zero ctx shape).within _).bind fun b? => ?_
        cases b? with
        | some b => exact .of_pure b
        | none => exact .of_fail rfl
      | given b => exact .of_pure b
      | convert v => exact (ih.value ctx shape v).within _
      | fallback n => exact (ih.whole ctx shape n).within _

theorem pop_succ (ih : ArityKept cat fuel) (ctx : Context) (queue : FieldQueue) (shape : Shape)
    (absence : Absence) (hq : queue.pending ≠ []) :
    KeepsArity (popField cat (fuel + 1) ctx queue shape absence) := by
  obtain ⟨d, rest, hdr⟩ := List.exists_cons_of_ne_nil hq
  simp only [popField, hdr]
  exact (ih.field ctx d shape absence).bind fun _ => .of_pure _

theorem fields_succ (ih : ArityKept cat fuel) (ctx : Context) (s : FieldSchema) (hs : s.Derived) :
    KeepsArity (constructFields cat (fuel + 1) ctx s) := by
  intro st e h
  rw [constructFields] at h
  rcases bind_error h with hcls | ⟨ds, st₁, hds, hrest⟩
  · exact KeepsArity.ofExcept (fun _ => classify_error_isArityMismatch) st e hcls
  have hclassify : classify ctx.cls.path .fields s.settings s.members = .ok ds := by
    cases hc : classify ctx.cls.path .fields s.settings s.members with
    | error e' =>
      rw [hc] at hds
      cases hds
    | ok ds' =>
      rw [hc] at hds
      cases hds
      rfl
  -- the constructor pops once per pending descriptor: both count the consumed fields
  have hlen : FieldStep.pops s.steps = (ds.filter (·.kind != .ignored)).length := by
    rw [hs.classify_ok hclassify, pending_of_descriptors, List.length_map, hs.pops_steps]
  have hstart : (⟨ds.filter (·.kind != .ignored), (ds.filter (·.kind != .ignored)).length, 0⟩ :
      FieldQueue) = FieldQueue.after (ds.filter (·.kind != .ignored)) 0 := rfl
  simp only [hstart] at hrest
  rcases bind_error hrest with hfold | ⟨⟨q, slots⟩, st₂, hfold, hend⟩
  · exact foldlM_run_keepsArity (ih.value ctx) (ih.pop ctx) s.steps hs.keeps_failures [] (by omega)
      st₁ e hfold
  · -- after the last pop no descriptor is pending, so the arity check passes
    obtain ⟨rfl, -⟩ := foldlM_run_after s.steps (Nat.zero_le _) hfold
    have hempty : (FieldQueue.after (ds.filter (·.kind != .ignored))
        (min (0 + FieldStep.pops s.steps) (ds.filter (·.kind != .ignored)).length)).pending.isEmpty =
          true := by
      simp [FieldQueue.after, hlen]
    simp only [hempty, if_true] at hend
    cases hend

theorem getters_succ (ih : ArityKept cat fuel) (ctx : Context) (s : GetterSchema) :
    KeepsArity (constructGetters cat (fuel + 1) ctx s) := by
  simp only [constructGetters]
  refine (KeepsArity.ofExcept fun _ => classify_error_isArityMismatch).bind fun ds =>
    KeepsArity.foldlM fun slots g _ => ?_
  simp only [bindGetter]
  -- one case per way a getter is bound; finding its descriptor fails only as a misuse
  split
  · exact .of_pure _
  · refine KeepsArity.bind (by split <;> first | exact .of_pure _ | exact .of_fail rfl) fun d => ?_
    cases ctx.node.lookup d.logicalName with
    | some x => exact ((ih.value ctx _ x).within _).bind fun _ => .of_pure _
    | none =>
      refine ((ih.zero ctx _).within _).bind fun b? => ?_
      cases b? with
      | some b => exact .of_pure _
      | none => exact .of_fail rfl
  · refine KeepsArity.bind (by split <;> first | exact .of_pure _ | exact .of_fail rfl) fun d => ?_
    cases ctx.node.lookup d.logicalName with
    | some x => exact ((ih.value ctx _ x).within _).bind fun _ => .of_pure _
    | none => exact .of_ok fun _ => ⟨_, rfl⟩
  -- a computed, identity or parent getter checks the kind of its descriptor first
  all_goals
    refine KeepsArity.bind (KeepsArity.bind
      (by split <;> first | exact .of_pure _ | exact .of_fail rfl) fun d => ?_) fun d => ?_
  all_goals first
    | (split <;> first | exact .of_pure _ | exact .of_fail rfl)
    | exact .of_ok fun _ => ⟨_, rfl⟩

theorem inst_succ (hcat : cat.FieldsDerived) (ih : ArityKept cat fuel) (c : ClassRef) (n : Node)
    (enc : List (ClassRef × Nat)) : KeepsArity (materializeIn cat (fuel + 1) c n enc) := by
  simp only [materializeIn]
  split
  · exact KeepsArity.fail_bind rfl
  · refine KeepsArity.bind (.of_ok fun _ => ⟨_, rfl⟩) fun id => ?_
    cases hs : cat.schema c with
    | fields s =>
      exact (ih.fields ⟨n, (c, id) :: enc, c⟩ s (hcat c s hs)).bind fun _ => .of_ok fun _ => ⟨_, rfl⟩
    | getters s =>
      exact (ih.getters ⟨n, (c, id) :: enc, c⟩ s).bind fun _ => .of_ok fun _ => ⟨_, rfl⟩

theorem of_fuel_zero (cat : Catalogue) : ArityKept cat 0 where
  inst _ _ _ := .of_exhausted
  fields _ _ _ := .of_exhausted
  getters _ _ := .of_exhausted
  pop _ _ _ _ _ := .of_exhausted
  field _ _ _ _ := .of_exhausted
  value _ _ _ := .of_exhausted
  zero _ _ := .of_exhausted
  whole _ _ _ := .of_exhausted

theorem succ (hcat : cat.FieldsDerived) (ih : ArityKept cat fuel) : ArityKept cat (fuel + 1) where
  inst := ih.inst_succ hcat
  fields := ih.fields_succ
  getters := ih.getters_succ
  pop := ih.pop_succ
  field := ih.field_succ
  value := ih.value_succ
  zero := ih.zero_succ
  whole := ih.whole_succ

end ArityKept

theorem arityKept {cat : Catalogue} (hcat : cat.FieldsDerived) : ∀ fuel, ArityKept cat fuel
  | 0 => ArityKept.of_fuel_zero cat
  | fuel + 1 => (arityKept hcat fuel).succ hcat

theorem materialize_error_not_arity {cat : Catalogue} (hcat : cat.FieldsDerived) {root : ClassRef}
    {node : Node} {e : ConfigError} (h : materialize cat root node = .error (.config e)) :
    e.isArityMismatch = false :=
  (arityKept hcat _).inst root node [] {} e (materialize_error h)

theorem popField_consumed {cat : Catalogue} {fuel : Nat} {ctx : Context} (naming : String → String)
    {consumed : List FieldDecl} {j : Nat} (hj : j < consumed.length) (shape : Shape)
    (absence : Absence) :
    popField cat (fuel + 1) ctx (FieldQueue.after (consumed.map (·.descriptor naming)) j) shape
        absence =
      (fun b => (FieldQueue.after (consumed.map (·.descriptor naming)) (j + 1), b)) <$>
        bindField cat fuel ctx (consumed[j].descriptor naming) shape absence := by
  rw [popField_after_of_lt (by simpa using hj), List.getElem_map]

/-- Derived declarations agree with the classifier and the field queue. -/
theorem derived_declarations_agree_with_classifier {s : FieldSchema} (hs : s.Derived)
    {gs : GetterSchema} (hgs : gs.Derived) (t : String) :
    (∀ f, s.fields.find? (·.mutatesWithout s.allowMutable) = some f →
      classify t .fields s.settings s.members = .error (.mutableField t f.name f.shape.typePath)) ∧
    (s.fields.find? (·.mutatesWithout s.allowMutable) = none →
      classify t .fields s.settings s.members = .ok (s.fields.map (·.descriptor s.naming))) ∧
    (s.fields.map (·.descriptor s.naming)).filter (·.kind != .ignored) =
      (s.fields.filter (·.consumed)).map (·.descriptor s.naming) ∧
    s.steps.filter FieldStep.isPop = (s.fields.filter (·.consumed)).map FieldDecl.popStep ∧
    FieldStep.pops s.steps = (s.fields.filter (·.consumed)).length ∧
    (∀ (cat : Catalogue) (fuel : Nat) (ctx : Context) (j : Nat)
      (hj : j < (s.fields.filter (·.consumed)).length) (shape : Shape) (absence : Absence),
      popField cat (fuel + 1) ctx
          (FieldQueue.after ((s.fields.filter (·.consumed)).map (·.descriptor s.naming)) j) shape
          absence =
        (fun b => (FieldQueue.after ((s.fields.filter (·.consumed)).map (·.descriptor s.naming))
          (j + 1), b)) <$>
          bindField cat fuel ctx ((s.fields.filter (·.consumed))[j].descriptor s.naming) shape
            absence) ∧
    (∀ cat : Catalogue, cat.FieldsDerived → ∀ (root : ClassRef) (node : Node) (e : ConfigError),
      materialize cat root node = .error (.config e) → e.isArityMismatch = false) ∧
    classify t .getters gs.settings gs.members =
      .ok ((gs.getters.filter (·.declare)).filterMap (·.descriptor? gs.naming)) ∧
    (∀ ds, classify t .getters gs.settings gs.members = .ok ds →
      ∀ g ∈ gs.getters, ∀ b, g.binding = some b →
        ds.reverse.find? (·.member == g.name) = some (g.descriptor gs.naming b.kind)) := by
  refine ⟨fun f hf => ?_, fun hf => ?_, pending_of_descriptors s.naming s.fields, hs.pops_eq,
    hs.pops_steps, fun _ _ _ _ hj => popField_consumed s.naming hj,
    fun _ hcat _ _ _ h => materialize_error_not_arity hcat h, ?_,
    fun _ h _ hg _ hb => hgs.find?_descriptor h hg hb⟩
  · rw [hs.members_eq]
    exact classify_derived_of_find?_some hs.fields hf
  · rw [hs.members_eq]
    exact classify_derived_of_find?_none hs.fields hf
  · rw [GetterSchema.members]
    exact classify_derived_getters fun g hg => hgs.getters g (List.mem_filter.mp hg).1

theorem derived_declarations_agree_with_classifier_server_and_greeter :
    let s : FieldSchema := { fields := [{ name := "host", shape := .scalar .string, attr := .required },
      { name := "port", shape := .scalar (.int .u16), attr := .withDefault,
        default := some (.int 8080) },
      { name := "hits", shape := .atomic (.int .u64), attr := .skip }] }
    let gs : GetterSchema := { getters := [{ name := "get_name", target := ⟨"G0", "G0"⟩ },
      { name := "greeting", kind := .computed, target := ⟨"G0", "G0"⟩ }] }
    (s.Derived ∧ gs.Derived) ∧
    ((∀ f, s.fields.find? (·.mutatesWithout s.allowMutable) = some f →
      classify "F0" .fields s.settings s.members =
        .error (.mutableField "F0" f.name f.shape.typePath)) ∧
    (s.fields.find? (·.mutatesWithout s.allowMutable) = none →
      classify "F0" .fields s.settings s.members = .ok (s.fields.map (·.descriptor s.naming))) ∧
    (s.fields.map (·.descriptor s.naming)).filter (·.kind != .ignored) =
      (s.fields.filter (·.consumed)).map (·.descriptor s.naming) ∧
    s.steps.filter FieldStep.isPop = (s.fields.filter (·.consumed)).map FieldDecl.popStep ∧
    FieldStep.pops s.steps = (s.fields.filter (·.consumed)).length ∧
    (∀ (cat : Catalogue) (fuel : Nat) (ctx : Context) (j : Nat)
      (hj : j < (s.fields.filter (·.consumed)).length) (shape : Shape) (absence : Absence),
      popField cat (fuel + 1) ctx
          (FieldQueue.after ((s.fields.filter (·.consumed)).map (·.descriptor s.naming)) j) shape
          absence =
        (fun b => (FieldQueue.after ((s.fields.filter (·.consumed)).map (·.descriptor s.naming))
          (j + 1), b)) <$>
          bindField cat fuel ctx ((s.fields.filter (·.consumed))[j].descriptor s.naming) shape
            absence) ∧
    (∀ cat : Catalogue, cat.FieldsDerived → ∀ (root : ClassRef) (node : Node) (e : ConfigError),
      materialize cat root node = .error (.config e) → e.isArityMismatch = false) ∧
    classify "F0" .getters gs.settings gs.members =
      .ok ((gs.getters.filter (·.declare)).filterMap (·.descriptor? gs.naming)) ∧
    (∀ ds, classify "F0" .getters gs.settings gs.members = .ok ds →
      ∀ g ∈ gs.getters, ∀ b, g.binding = some b →
        ds.reverse.find? (·.member == g.name) = some (g.descriptor gs.naming b.kind))) := by
  intro s gs
  have hs : s.Derived := by
    refine ⟨fun f hf => ?_, rfl⟩
    simp only [s, List.mem_cons, List.not_mem_nil, or_false] at hf
    rcases hf with rfl | rfl | rfl <;> exact ⟨by decide, rfl, rfl, rfl, rfl, rfl, rfl, rfl⟩
  have hgs : gs.Derived := by
    refine ⟨fun g hg => ?_, by decide⟩
    simp only [gs, List.mem_cons, List.not_mem_nil, or_false] at hg
    rcases hg with rfl | rfl <;> exact ⟨rfl, rfl, rfl, rfl, rfl, fun h => Bool.noConfusion h⟩
  exact ⟨⟨hs, hgs⟩, derived_declarations_agree_with_classifier hs hgs "F0"⟩

end ConfigTree
