import ConfigTree.Proofs.Error.KeyPath
import ConfigTree.Proofs.Binding.Queue

namespace ConfigTree

open EngineM

namespace Shape

def itemShape? : Shape → Option Shape
  | .list s | .unorderedSet s | .orderedSet s => some s
  | _ => none

def entryShape? : Shape → Option (Target × Shape)
  | .unorderedMap k s | .orderedMap k s => some (k, s)
  | _ => none

def takesNode : Shape → Bool
  | .scalar .node | .nested _ | .option _ => true
  | _ => false

end Shape

def ConfigError.typeName? : ConfigError → Option String
  | .arityMismatch t .. | .unassignableIdentity t .. | .markerMisuse t .. | .mutableField t ..
  | .depthLimit t _ => some t
  | _ => none

/-- A piece of binding work: an instance of a class built from a node, a value bound as a shape, the
zero value of a shape whose key is absent, or a shape made from a whole fallback node. -/
inductive Task where
  | inst (c : ClassRef) (n : Node)
  | value (shape : Shape) (v : Value)
  | zero (shape : Shape)
  | whole (shape : Shape) (n : Node)

def PopRule.absentTask? (shape : Shape) : PopRule → Option Task
  | .zero => some (.zero shape)
  | .convert v => some (.value shape v)
  | .fallback n => some (.whole shape n)
  | _ => none

def FieldStep.preset? : FieldStep → Option (Shape × Value)
  | .pop _ shape (.preset v) | .discard shape (.preset v) => some (shape, v)
  | _ => none

/-- The members an instance of class `c` binds from its node: a descriptor, the shape it is bound
as, and the rule for its absent key (`none` when an absent key cannot fail). -/
inductive MemberBinding (cat : Catalogue) (c : ClassRef) :
    Descriptor → Shape → Option PopRule → Prop
  | field {s : FieldSchema} {ds : List Descriptor} {pre post : List FieldStep}
      {name : Option String} {shape : Shape} {rule : PopRule} {d : Descriptor} :
      cat.schema c = .fields s → classify c.path .fields s.settings s.members = .ok ds →
      s.steps = pre ++ .pop name shape rule :: post →
      (ds.filter (·.kind != .ignored))[FieldStep.pops pre]? = some d →
      d.kind ≠ .identity → d.kind ≠ .parentRef → MemberBinding cat c d shape (some rule)
  | property {s : GetterSchema} {ds : List Descriptor} {g : GetterDecl} {d : Descriptor} :
      cat.schema c = .getters s → classify c.path .getters s.settings s.members = .ok ds →
      g ∈ s.getters → g.binding = some .property → ds.reverse.find? (·.member == g.name) = some d →
      MemberBinding cat c d g.valueShape (some .zero)
  | defaulted {s : GetterSchema} {ds : List Descriptor} {g : GetterDecl} {d : Descriptor} :
      cat.schema c = .getters s → classify c.path .getters s.settings s.members = .ok ds →
      g ∈ s.getters → g.binding = some .defaulted → ds.reverse.find? (·.member == g.name) = some d →
      MemberBinding cat c d g.valueShape none

/-- `task.FailsAt cat p leaf`: the work fails with `leaf`, raised at the end of the binding path
`p`. -/
inductive Task.FailsAt (cat : Catalogue) : Task → List Segment → ConfigError → Prop
  -- binding a value
  | read {t : Target} {v : Value} {ps : List Nat} {leaf : ConfigError} :
      t.FailsAt v ps leaf → Task.FailsAt cat (.value (.scalar t) v) (ps.map .position) leaf
  | atomic {t : Target} {v : Value} {ps : List Nat} {leaf : ConfigError} :
      t.FailsAt v ps leaf → Task.FailsAt cat (.value (.atomic t) v) (ps.map .position) leaf
  | option {s : Shape} {v : Value} {p : List Segment} {leaf : ConfigError} :
      Task.FailsAt cat (.value s v) p leaf → Task.FailsAt cat (.value (.option s) v) p leaf
  | guarded {l : Lock} {s : Shape} {v : Value} {p : List Segment} {leaf : ConfigError} :
      Task.FailsAt cat (.value s v) p leaf → Task.FailsAt cat (.value (.guarded l s) v) p leaf
  | notItems {shape s : Shape} {v : Value} :
      shape.itemShape? = some s → itemsOf? v = none →
      Task.FailsAt cat (.value shape v) [] (.conversion v.display v.kind shape.typePath)
  | item {shape s : Shape} {v x : Value} {items : List Value} {i : Nat} {p : List Segment}
      {leaf : ConfigError} :
      shape.itemShape? = some s → itemsOf? v = some items → items[i]? = some x →
      Task.FailsAt cat (.value s x) p leaf → Task.FailsAt cat (.value shape v) (.position i :: p) leaf
  | notEntries {shape : Shape} {k : Target} {s : Shape} {v : Value} :
      shape.entryShape? = some (k, s) → v.asNode? = none →
      Task.FailsAt cat (.value shape v) [] (.conversion v.display v.kind shape.typePath)
  | entryKey {shape : Shape} {k : Target} {s : Shape} {entries : Node} {key : String} {x : Value}
      {ps : List Nat} {leaf : ConfigError} :
      shape.entryShape? = some (k, s) → (key, x) ∈ entries → k.FailsAt (.str key) ps leaf →
      Task.FailsAt cat (.value shape (.node entries)) (.entry key :: ps.map .position) leaf
  | entryValue {shape : Shape} {k : Target} {s : Shape} {entries : Node} {key : String} {x : Value}
      {p : List Segment} {leaf : ConfigError} :
      shape.entryShape? = some (k, s) → (key, x) ∈ entries → Task.FailsAt cat (.value s x) p leaf →
      Task.FailsAt cat (.value shape (.node entries)) (.entry key :: p) leaf
  | notNode {c : ClassRef} {v : Value} :
      v.asNode? = none → Task.FailsAt cat (.value (.nested c) v) [] (.conversion v.display v.kind c.path)
  | nested {c : ClassRef} {n : Node} {p : List Segment} {leaf : ConfigError} :
      Task.FailsAt cat (.inst c n) p leaf → Task.FailsAt cat (.value (.nested c) (.node n)) p leaf
  | parent {c : ClassRef} {v : Value} :
      Task.FailsAt cat (.value (.parent c) v) [] (.unresolvableTarget (Shape.parent c).typePath none)
  -- the zero value of an absent member
  | zeroGuarded {l : Lock} {s : Shape} {p : List Segment} {leaf : ConfigError} :
      Task.FailsAt cat (.zero s) p leaf → Task.FailsAt cat (.zero (.guarded l s)) p leaf
  | zeroNested {c : ClassRef} {p : List Segment} {leaf : ConfigError} :
      Task.FailsAt cat (.inst c []) p leaf → Task.FailsAt cat (.zero (.nested c)) p leaf
  -- a member made from a fallback node
  | wholeNested {c : ClassRef} {n : Node} {p : List Segment} {leaf : ConfigError} :
      Task.FailsAt cat (.inst c n) p leaf → Task.FailsAt cat (.whole (.nested c) n) p leaf
  | wholeOption {s : Shape} {n : Node} {p : List Segment} {leaf : ConfigError} :
      Task.FailsAt cat (.whole s n) p leaf → Task.FailsAt cat (.whole (.option s) n) p leaf
  | unresolvable {shape : Shape} {n : Node} :
      shape.takesNode = false →
      Task.FailsAt cat (.whole shape n) [] (.unresolvableTarget shape.typePath none)
  -- an instance: one of its members, the preset default of a pop, or the class itself
  | present {c : ClassRef} {n : Node} {d : Descriptor} {shape : Shape} {rule : Option PopRule}
      {x : Value} {p : List Segment} {leaf : ConfigError} :
      MemberBinding cat c d shape rule → n.lookup d.logicalName = some x →
      Task.FailsAt cat (.value shape x) p leaf →
      Task.FailsAt cat (.inst c n) (.member d.logicalName :: p) leaf
  | absent {c : ClassRef} {n : Node} {d : Descriptor} {shape : Shape} {rule : PopRule} {task : Task}
      {p : List Segment} {leaf : ConfigError} :
      MemberBinding cat c d shape (some rule) → n.lookup d.logicalName = none →
      rule.absentTask? shape = some task → Task.FailsAt cat task p leaf →
      Task.FailsAt cat (.inst c n) (.member d.logicalName :: p) leaf
  | missing {c : ClassRef} {n : Node} {d : Descriptor} {shape : Shape} {rule : PopRule} :
      MemberBinding cat c d shape (some rule) → n.lookup d.logicalName = none →
      rule = .require ∨ rule = .zero →
      Task.FailsAt cat (.inst c n) [] (.missingRequired d.logicalName)
  | preset {c : ClassRef} {n : Node} {s : FieldSchema} {x : FieldStep} {shape : Shape} {v : Value}
      {p : List Segment} {leaf : ConfigError} :
      cat.schema c = .fields s → x ∈ s.steps → x.preset? = some (shape, v) →
      Task.FailsAt cat (.value shape v) p leaf → Task.FailsAt cat (.inst c n) p leaf
  | own {c : ClassRef} {n : Node} {leaf : ConfigError} :
      leaf.isKeyed = false → leaf.typeName? = some c.path → Task.FailsAt cat (.inst c n) [] leaf

namespace EngineM

theorem bind_error {α β : Type} {x : EngineM α} {f : α → EngineM β} {st : EngineState}
    {err : Failure} (h : (x >>= f) st = .error err) :
    x st = .error err ∨ ∃ a st₁, x st = .ok (a, st₁) ∧ f a st₁ = .error err := by
  rw [bind_apply] at h
  cases hx : x st with
  | error e =>
    rw [hx] at h
    cases h
    exact .inl rfl
  | ok p =>
    rw [hx] at h
    exact .inr ⟨p.1, p.2, rfl, h⟩

theorem within_error {α : Type} {k : String} {act : EngineM α} {st : EngineState}
    {e : ConfigError} (h : within k act st = .error (.config e)) :
    ∃ e', act st = .error (.config e') ∧ e = e'.within k := by
  simp only [within] at h
  split at h
  · next e' hact =>
    cases h
    exact ⟨e', hact, rfl⟩
  · next hr => exact absurd h (hr e)

theorem ofExcept_error {α : Type} {r : Except ConfigError α} {st : EngineState} {e : ConfigError}
    (h : ofExcept r st = .error (.config e)) : r = .error e := by
  cases r with
  | ok a => cases h
  | error e' =>
    cases h
    rfl

theorem mapM_error {α β : Type} {f : α → EngineM β} {xs : List α} {st : EngineState}
    {err : Failure} (h : xs.mapM f st = .error err) : ∃ x ∈ xs, ∃ st', f x st' = .error err := by
  induction xs generalizing st with
  | nil => cases h
  | cons x xs ih =>
    rw [List.mapM_cons] at h
    rcases bind_error h with hx | ⟨b, st₁, -, hrest⟩
    · exact ⟨x, List.mem_cons_self, st, hx⟩
    · rcases bind_error hrest with hxs | ⟨bs, st₂, -, hpure⟩
      · obtain ⟨y, hy, st', hfy⟩ := ih hxs
        exact ⟨y, List.mem_cons_of_mem _ hy, st', hfy⟩
      · cases hpure

theorem foldlM_error {α β : Type} {f : β → α → EngineM β} {xs : List α} {init : β}
    {st : EngineState} {err : Failure} (h : xs.foldlM f init st = .error err) :
    ∃ pre x post acc st', xs = pre ++ x :: post ∧ pre.foldlM f init st = .ok (acc, st') ∧
      f acc x st' = .error err := by
  induction xs generalizing init st with
  | nil => cases h
  | cons x xs ih =>
    rw [List.foldlM_cons] at h
    rcases bind_error h with hx | ⟨b, st₁, hx, hrest⟩
    · exact ⟨[], x, xs, init, st, rfl, rfl, hx⟩
    · obtain ⟨pre, y, post, acc, st', rfl, hpre, hy⟩ := ih hrest
      refine ⟨x :: pre, y, post, acc, st', rfl, ?_, hy⟩
      rw [List.foldlM_cons, bind_apply, hx]
      exact hpre

end EngineM

def FailsAs {α : Type} (cat : Catalogue) (x : EngineM α) (task : Task) : Prop :=
  ∀ st e, x st = .error (.config e) → ∃ p leaf, task.FailsAt cat p leaf ∧ e = leaf.under p

/-- The absence a pop's rule gives once a preset default is bound. -/
inductive PopRule.Gives : PopRule → Absence → Prop
  | require : PopRule.Gives .require .require
  | zero : PopRule.Gives .zero .zero
  | preset (v : Value) (b : Bound) : PopRule.Gives (.preset v) (.given b)
  | convert (v : Value) : PopRule.Gives (.convert v) (.convert v)
  | fallback (n : Node) : PopRule.Gives (.fallback n) (.fallback n)

/-- Every failure of the construction functions at one fuel is located. -/
structure Located (cat : Catalogue) (fuel : Nat) : Prop where
  inst : ∀ c n enc, FailsAs cat (materializeIn cat fuel c n enc) (.inst c n)
  fields : ∀ ctx s, cat.schema ctx.cls = .fields s →
    FailsAs cat (constructFields cat fuel ctx s) (.inst ctx.cls ctx.node)
  getters : ∀ ctx s, cat.schema ctx.cls = .getters s →
    FailsAs cat (constructGetters cat fuel ctx s) (.inst ctx.cls ctx.node)
  pop : ∀ ctx queue shape rule absence, rule.Gives absence →
    (∀ d ∈ queue.pending.head?, d.kind ≠ .identity → d.kind ≠ .parentRef →
      MemberBinding cat ctx.cls d shape (some rule)) →
    FailsAs cat (popField cat fuel ctx queue shape absence) (.inst ctx.cls ctx.node)
  field : ∀ ctx d shape rule absence, rule.Gives absence →
    (d.kind ≠ .identity → d.kind ≠ .parentRef → MemberBinding cat ctx.cls d shape (some rule)) →
    FailsAs cat (bindField cat fuel ctx d shape absence) (.inst ctx.cls ctx.node)
  value : ∀ ctx shape v, FailsAs cat (bindValue cat fuel ctx shape v) (.value shape v)
  zero : ∀ ctx shape, FailsAs cat (zeroValue cat fuel ctx shape) (.zero shape)
  whole : ∀ ctx shape n, FailsAs cat (fromNode cat fuel ctx shape n) (.whole shape n)

namespace FailsAs

variable {cat : Catalogue} {α β : Type} {x : EngineM α} {task task' : Task}

theorem of_ok (hx : ∀ st, ∃ r, x st = .ok r) : FailsAs cat x task := by
  intro st e h
  obtain ⟨r, hr⟩ := hx st
  rw [hr] at h
  cases h

theorem of_pure (a : α) : FailsAs cat (pure a : EngineM α) task := of_ok fun _ => ⟨_, rfl⟩

theorem of_fail {leaf : ConfigError} (hf : task.FailsAt cat [] leaf) :
    FailsAs cat (fail leaf : EngineM α) task := by
  intro st e h
  cases h
  exact ⟨[], leaf, hf, rfl⟩

theorem fail_bind {leaf : ConfigError} {f : α → EngineM β} (hf : task.FailsAt cat [] leaf) :
    FailsAs cat (fail leaf >>= f) task := by
  intro st e h
  cases h
  exact ⟨[], leaf, hf, rfl⟩

theorem mono (hx : FailsAs cat x task)
    (hstep : ∀ {p leaf}, task.FailsAt cat p leaf → task'.FailsAt cat p leaf) :
    FailsAs cat x task' := by
  intro st e h
  obtain ⟨p, leaf, hf, rfl⟩ := hx st e h
  exact ⟨p, leaf, hstep hf, rfl⟩

theorem within (s : Segment) (hx : FailsAs cat x task)
    (hstep : ∀ {p leaf}, task.FailsAt cat p leaf → task'.FailsAt cat (s :: p) leaf) :
    FailsAs cat (EngineM.within s.text x) task' := by
  intro st e h
  obtain ⟨e', hx', rfl⟩ := within_error h
  obtain ⟨p, leaf, hf, rfl⟩ := hx st e' hx'
  exact ⟨s :: p, leaf, hstep hf, rfl⟩

theorem bind {f : α → EngineM β} (hx : FailsAs cat x task) (hf : ∀ a, FailsAs cat (f a) task) :
    FailsAs cat (x >>= f) task := by
  intro st e h
  rcases bind_error h with hfirst | ⟨a, st₁, -, hrest⟩
  · exact hx st e hfirst
  · exact hf a st₁ e hrest

theorem pure_bind {a : α} {f : α → EngineM β} (hf : FailsAs cat (f a) task) :
    FailsAs cat (pure a >>= f) task := by
  intro st e h
  exact hf st e h

theorem ofExcept_bind {r : Except ConfigError α} {f : α → EngineM β}
    (hr : ∀ e, r = .error e → task.FailsAt cat [] e) (hf : ∀ a, r = .ok a → FailsAs cat (f a) task) :
    FailsAs cat (ofExcept r >>= f) task := by
  intro st e h
  cases hres : r with
  | error e' =>
    rw [hres] at h
    cases h
    exact ⟨[], _, hr _ hres, rfl⟩
  | ok a =>
    rw [hres] at h
    exact hf a hres st e h

theorem read {t : Target} {v : Value}
    (hstep : ∀ {ps leaf}, t.FailsAt v ps leaf → task.FailsAt cat (ps.map .position) leaf) :
    FailsAs cat (ofExcept (t.read v)) task := by
  intro st e h
  obtain ⟨ps, leaf, hf, rfl⟩ := Target.failsAt_of_read (ofExcept_error h)
  exact ⟨_, leaf, hstep hf, rfl⟩

theorem mapM {f : α → EngineM β} {xs : List α} (hf : ∀ a ∈ xs, FailsAs cat (f a) task) :
    FailsAs cat (xs.mapM f) task := by
  intro st e h
  obtain ⟨a, ha, st', hfa⟩ := mapM_error h
  exact hf a ha st' e hfa

theorem foldlM {f : β → α → EngineM β} {xs : List α} {init : β}
    (hf : ∀ acc, ∀ a ∈ xs, FailsAs cat (f acc a) task) : FailsAs cat (xs.foldlM f init) task := by
  intro st e h
  obtain ⟨pre, a, post, acc, st', rfl, -, ha⟩ := foldlM_error h
  exact hf acc a (List.mem_append_right _ List.mem_cons_self) st' e ha

end FailsAs

theorem Member.kind?_error {m : Member} {t : String} {style : BindingStyle}
    {settings : ClassSettings} {e : ConfigError} (h : m.kind? t style settings = .error e) :
    e.isKeyed = false ∧ e.typeName? = some t := by
  unfold Member.kind? at h
  simp only [bind, Except.bind, pure, Except.pure, throw, throwThe, MonadExceptOf.throw] at h
  repeat' split at h
  all_goals cases h <;> exact ⟨rfl, rfl⟩

theorem Except.exists_of_filterMapM_eq_error {ε α β : Type} {f : α → Except ε (Option β)}
    {xs : List α} {e : ε} (h : xs.filterMapM f = .error e) : ∃ x ∈ xs, f x = .error e := by
  induction xs with
  | nil => cases h
  | cons x xs ih =>
    rw [List.filterMapM_cons] at h
    cases hx : f x with
    | error e' =>
      simp only [hx, bind, Except.bind] at h
      cases h
      exact ⟨x, List.mem_cons_self, hx⟩
    | ok o =>
      have hrest : xs.filterMapM f = .error e := by
        cases hxs : xs.filterMapM f with
        | error e' =>
          cases o <;> simp [hx, hxs, bind, Except.bind] at h <;> rw [h]
        | ok bs =>
          cases o <;> simp [hx, hxs, bind, Except.bind, pure, Except.pure] at h
      obtain ⟨y, hy, hfy⟩ := ih hrest
      exact ⟨y, List.mem_cons_of_mem _ hy, hfy⟩

theorem classify_error {cat : Catalogue} {c : ClassRef} {n : Node} {style : BindingStyle}
    {settings : ClassSettings} {members : List Member} {e : ConfigError}
    (h : classify c.path style settings members = .error e) : (Task.inst c n).FailsAt cat [] e := by
  obtain ⟨m, -, hm⟩ := Except.exists_of_filterMapM_eq_error h
  cases hk : m.kind? c.path style settings with
  | error e' =>
    simp only [hk, bind, Except.bind] at hm
    cases hm
    exact .own (Member.kind?_error hk).1 (Member.kind?_error hk).2
  | ok k =>
    cases k <;> simp [hk, bind, Except.bind, pure, Except.pure] at hm

theorem PopRule.gives_of_absence {rule : PopRule} {bindPreset : Value → EngineM Bound}
    {st : EngineState} {a : Absence} {st' : EngineState} (h : rule.absence bindPreset st = .ok (a, st')) :
    rule.Gives a := by
  cases rule with
  | preset v =>
    simp only [PopRule.absence] at h
    obtain ⟨b, st₁, -, hpure⟩ := bind_ok h
    cases hpure
    exact .preset v b
  | require | zero | convert _ | fallback _ =>
    cases h
    constructor

namespace Located

variable {cat : Catalogue} {fuel : Nat}

theorem items_failsAs {ctx : Context} {shape s : Shape} (hs : shape.itemShape? = some s)
    (hv : ∀ x, FailsAs cat (bindValue cat fuel ctx s x) (.value s x)) (v : Value) :
    FailsAs cat (match itemsOf? v with
        | none => fail (ConfigError.conversion v.display v.kind shape.typePath)
        | some items => List.mapM (fun x => within ("[" ++ toString x.snd ++ "]")
            (bindValue cat fuel ctx s x.fst)) items.zipIdx) (.value shape v) := by
  cases hitems : itemsOf? v with
  | none => exact .of_fail (.notItems hs hitems)
  | some items =>
    refine FailsAs.mapM fun xi hmem => (hv xi.1).within (.position xi.2) fun hf => ?_
    exact .item hs hitems (List.mem_zipIdx_iff_getElem?.mp hmem) hf

theorem entries_failsAs {ctx : Context} {shape : Shape} {k : Target} {s : Shape}
    (hs : shape.entryShape? = some (k, s))
    (hv : ∀ x, FailsAs cat (bindValue cat fuel ctx s x) (.value s x)) (v : Value) :
    FailsAs cat (match v with
        | .node entries => entries.mapM fun x => within x.fst (do
            let bk ← ofExcept (k.read (.str x.fst))
            let b ← bindValue cat fuel ctx s x.snd
            pure (bk, b))
        | _ => fail (ConfigError.conversion v.display v.kind shape.typePath)) (.value shape v) := by
  cases v with
  | node entries =>
    intro st e h
    obtain ⟨⟨key, x⟩, hmem, st', hwithin⟩ := mapM_error h
    obtain ⟨e', hentry, rfl⟩ := within_error hwithin
    -- the key is read before the value is bound
    rcases bind_error hentry with hkey | ⟨bk, st₁, -, hbind⟩
    · obtain ⟨ps, leaf, hf, rfl⟩ := Target.failsAt_of_read (ofExcept_error hkey)
      exact ⟨.entry key :: ps.map .position, leaf, .entryKey hs hmem hf, rfl⟩
    · obtain ⟨p, leaf, hf, rfl⟩ := (hv x).bind (fun _ => .of_pure _) st₁ e' hbind
      exact ⟨.entry key :: p, leaf, .entryValue hs hmem hf, rfl⟩
  | _ => exact .of_fail (.notEntries hs rfl)

theorem value_succ (ih : Located cat fuel) (ctx : Context) (shape : Shape) (v : Value) :
    FailsAs cat (bindValue cat (fuel + 1) ctx shape v) (.value shape v) := by
  cases shape with
  | scalar t =>
    simp only [bindValue]
    exact (FailsAs.read .read).bind fun _ => .of_pure _
  | atomic t =>
    simp only [bindValue]
    exact (FailsAs.read .atomic).bind fun _ => .of_pure _
  | option s =>
    simp only [bindValue]
    exact ((ih.value ctx s v).mono .option).bind fun _ => .of_pure _
  | guarded l s =>
    simp only [bindValue]
    exact (ih.value ctx s v).mono .guarded
  | list s =>
    simp only [bindValue]
    exact (items_failsAs rfl (ih.value ctx s) v).bind fun _ => .of_pure _
  | unorderedSet s =>
    simp only [bindValue]
    -- dropping later equal elements reads the state and cannot fail
    exact (items_failsAs rfl (ih.value ctx s) v).bind fun _ => .of_ok fun _ => ⟨_, rfl⟩
  | orderedSet s =>
    simp only [bindValue]
    -- keeping the last of equal elements cannot fail
    exact (items_failsAs rfl (ih.value ctx s) v).bind fun _ => .of_ok fun _ => by
      cases s <;> exact ⟨_, rfl⟩
  | unorderedMap k s | orderedMap k s =>
    simp only [bindValue]
    exact (entries_failsAs rfl (ih.value ctx s) v).bind fun _ => .of_pure _
  | nested c =>
    simp only [bindValue]
    cases v with
    | node n => exact ((ih.inst c n ctx.lineage).mono .nested).bind fun _ => .of_pure _
    | _ => exact .of_fail (.notNode rfl)
  | parent c =>
    simp only [bindValue]
    exact .of_fail .parent

theorem zero_succ (ih : Located cat fuel) (ctx : Context) (shape : Shape) :
    FailsAs cat (zeroValue cat (fuel + 1) ctx shape) (.zero shape) := by
  cases shape with
  | guarded l s =>
    simp only [zeroValue]
    exact (ih.zero ctx s).mono .zeroGuarded
  | nested c =>
    simp only [zeroValue]
    exact ((ih.inst c [] ctx.lineage).mono .zeroNested).bind fun _ => .of_pure _
  | _ =>
    simp only [zeroValue]
    exact .of_pure _

theorem whole_succ (ih : Located cat fuel) (ctx : Context) (shape : Shape) (n : Node) :
    FailsAs cat (fromNode cat (fuel + 1) ctx shape n) (.whole shape n) := by
  cases shape with
  | nested c =>
    simp only [fromNode]
    exact ((ih.inst c n ctx.lineage).mono .wholeNested).bind fun _ => .of_pure _
  | option s =>
    simp only [fromNode]
    exact ((ih.whole ctx s n).mono .wholeOption).bind fun _ => .of_pure _
  | scalar t =>
    cases t with
    | node =>
      simp only [fromNode]
      exact .of_pure _
    | _ =>
      simp only [fromNode]
      exact .of_fail (.unresolvable rfl)
  | _ =>
    simp only [fromNode]
    exact .of_fail (.unresolvable rfl)

theorem pop_succ (ih : Located cat fuel) (ctx : Context) (queue : FieldQueue) (shape : Shape)
    (rule : PopRule) (absence : Absence) (hgives : rule.Gives absence)
    (hmember : ∀ d ∈ queue.pending.head?, d.kind ≠ .identity → d.kind ≠ .parentRef →
      MemberBinding cat ctx.cls d shape (some rule)) :
    FailsAs cat (popField cat (fuel + 1) ctx queue shape absence) (.inst ctx.cls ctx.node) := by
  cases hq : queue.pending with
  | nil =>
    simp only [popField, hq]
    exact .of_fail (.own rfl rfl)
  | cons d rest =>
    simp only [popField, hq]
    have hd : d ∈ queue.pending.head? := by simp [hq]
    exact (ih.field ctx d shape rule absence hgives (hmember d hd)).bind fun _ => .of_pure _

theorem present_failsAs (ih : Located cat fuel) {ctx : Context} {d : Descriptor} {shape : Shape}
    {rule : Option PopRule} {x : Value} (hm : MemberBinding cat ctx.cls d shape rule)
    (hx : ctx.node.lookup d.logicalName = some x) :
    FailsAs cat (within d.logicalName (bindValue cat fuel ctx shape x)) (.inst ctx.cls ctx.node) :=
  (ih.value ctx shape x).within (.member d.logicalName) fun hf => .present hm hx hf

theorem zero_member_failsAs (ih : Located cat fuel) {ctx : Context} {d : Descriptor}
    {shape : Shape} {β : Type} (hm : MemberBinding cat ctx.cls d shape (some .zero))
    (hx : ctx.node.lookup d.logicalName = none) (k : Bound → β) :
    FailsAs cat (within d.logicalName (zeroValue cat fuel ctx shape) >>= fun b? =>
      match b? with
      | some b => pure (k b)
      | none => fail (.missingRequired d.logicalName)) (.inst ctx.cls ctx.node) := by
  refine ((ih.zero ctx shape).within (.member d.logicalName) fun hf => .absent hm hx rfl hf).bind
    fun b? => ?_
  cases b? with
  | some b => exact .of_pure _
  | none => exact .of_fail (.missing hm hx (.inr rfl))

theorem absent_failsAs (ih : Located cat fuel) {ctx : Context} {d : Descriptor} {shape : Shape}
    {rule : PopRule} {absence : Absence} (hgives : rule.Gives absence)
    (hm : MemberBinding cat ctx.cls d shape (some rule)) (hx : ctx.node.lookup d.logicalName = none) :
    FailsAs cat (match absence with
      | .require => fail (.missingRequired d.logicalName)
      | .zero => do
        match ← within d.logicalName (zeroValue cat fuel ctx shape) with
        | some b => pure b
        | none => fail (.missingRequired d.logicalName)
      | .given b => pure b
      | .convert v => within d.logicalName (bindValue cat fuel ctx shape v)
      | .fallback n => within d.logicalName (fromNode cat fuel ctx shape n))
      (.inst ctx.cls ctx.node) := by
  cases hgives with
  | require => exact .of_fail (.missing hm hx (.inl rfl))
  | zero => exact zero_member_failsAs ih hm hx id
  | preset v b => exact .of_pure b
  | convert v => exact (ih.value ctx shape v).within (.member d.logicalName) fun hf => .absent hm hx rfl hf
  | fallback n => exact (ih.whole ctx shape n).within (.member d.logicalName) fun hf => .absent hm hx rfl hf

theorem field_succ (ih : Located cat fuel) (ctx : Context) (d : Descriptor) (shape : Shape)
    (rule : PopRule) (absence : Absence) (hgives : rule.Gives absence)
    (hmember : d.kind ≠ .identity → d.kind ≠ .parentRef →
      MemberBinding cat ctx.cls d shape (some rule)) :
    FailsAs cat (bindField cat (fuel + 1) ctx d shape absence) (.inst ctx.cls ctx.node) := by
  -- identity and parent members are taken from the node or the lineage, whatever the pop
  cases hk : d.kind with
  | identity =>
    cases hb : shape.fromIdentity? ctx.node with
    | some b =>
      simp only [bindField, hk, hb]
      exact .of_pure b
    | none =>
      simp only [bindField, hk, hb]
      exact .of_fail (.own rfl rfl)
  | parentRef =>
    cases hb : shape.fromParent? ctx with
    | some b =>
      simp only [bindField, hk, hb]
      exact .of_pure b
    | none =>
      simp only [bindField, hk, hb]
      exact .of_fail (.own rfl rfl)
  | _ =>
    have hm := hmember (by simp [hk]) (by simp [hk])
    simp only [bindField, hk]
    cases hx : ctx.node.lookup d.logicalName with
    | some x => exact present_failsAs ih hm hx
    | none => exact absent_failsAs ih hgives hm hx

theorem absence_failsAs (ih : Located cat fuel) {ctx : Context} {s : FieldSchema}
    (hschema : cat.schema ctx.cls = .fields s) {x : FieldStep} (hmem : x ∈ s.steps) {shape : Shape}
    {rule : PopRule} (hpreset : ∀ v, rule = .preset v → x.preset? = some (shape, v))
    {st : EngineState} {e : ConfigError}
    (habs : rule.absence (bindValue cat fuel ctx shape) st = .error (.config e)) :
    ∃ p leaf, (Task.inst ctx.cls ctx.node).FailsAt cat p leaf ∧ e = leaf.under p := by
  cases rule with
  | preset v =>
    simp only [PopRule.absence] at habs
    exact ((ih.value ctx shape v).mono (.preset hschema hmem (hpreset v rfl))).bind
      (fun _ => .of_pure _) st e habs
  | _ => cases habs

theorem step_failsAs (ih : Located cat fuel) {ctx : Context} {s : FieldSchema}
    {ds : List Descriptor} (hschema : cat.schema ctx.cls = .fields s)
    (hclassify : classify ctx.cls.path .fields s.settings s.members = .ok ds)
    {pre post : List FieldStep} {x : FieldStep} (hsteps : s.steps = pre ++ x :: post)
    {q : FieldQueue} {slots : List (String × Slot)} {st st' : EngineState}
    (hpre : pre.foldlM (FieldStep.run (bindValue cat fuel ctx) (popField cat fuel ctx))
      (FieldQueue.after (ds.filter (·.kind != .ignored)) 0, []) st = .ok ((q, slots), st'))
    {e : ConfigError}
    (hx : FieldStep.run (bindValue cat fuel ctx) (popField cat fuel ctx) (q, slots) x st' =
      .error (.config e)) :
    ∃ p leaf, (Task.inst ctx.cls ctx.node).FailsAt cat p leaf ∧ e = leaf.under p := by
  have hmem : x ∈ s.steps := by
    rw [hsteps]
    exact List.mem_append_right pre List.mem_cons_self
  cases x with
  | blank name => cases hx
  | pop name shape rule =>
    rw [FieldStep.run] at hx
    rcases bind_error hx with habs | ⟨absence, st₁, habs, hrest⟩
    · exact absence_failsAs ih hschema hmem (fun v hv => by subst hv; rfl) habs
    · rcases bind_error hrest with hpop | ⟨_, _, -, hpure⟩
      · -- the queue is the one after the pops before this step
        obtain ⟨hq, -⟩ := foldlM_run_after pre (Nat.zero_le _) hpre
        refine ih.pop ctx q shape rule absence (PopRule.gives_of_absence habs) ?_ st₁ e hpop
        intro d hd hid hpar
        rw [hq, Nat.zero_add, FieldQueue.head?_after_min] at hd
        exact .field hschema hclassify hsteps hd hid hpar
      · cases hpure
  | discard shape rule =>
    rw [FieldStep.run] at hx
    rcases bind_error hx with habs | ⟨absence, st₁, habs, hrest⟩
    · exact absence_failsAs ih hschema hmem (fun v hv => by subst hv; rfl) habs
    · -- a configuration failure of the pop is recovered from
      rcases bind_error hrest with hrec | ⟨_, _, -, hpure⟩
      · cases recover_config_error hrec
      · cases hpure

theorem fields_succ (ih : Located cat fuel) (ctx : Context) (s : FieldSchema)
    (hschema : cat.schema ctx.cls = .fields s) :
    FailsAs cat (constructFields cat (fuel + 1) ctx s) (.inst ctx.cls ctx.node) := by
  rw [constructFields]
  refine FailsAs.ofExcept_bind (fun _ => classify_error) fun ds hclassify => ?_
  intro st e h
  rcases bind_error h with hfold | ⟨⟨queue, slots⟩, st₂, -, hend⟩
  · obtain ⟨pre, x, post, ⟨q, slots⟩, st', hsteps, hpre, hx⟩ := foldlM_error hfold
    exact step_failsAs ih hschema hclassify hsteps hpre hx
  · -- every step succeeded: the queue must be empty
    change (if queue.pending.isEmpty = true then pure slots
      else fail (.arityMismatch ctx.cls.path queue.declared queue.consumed)) st₂ = _ at hend
    by_cases hempty : queue.pending.isEmpty = true
    · rw [if_pos hempty] at hend
      cases hend
    · rw [if_neg hempty] at hend
      cases hend
      exact ⟨[], _, .own rfl rfl, rfl⟩

theorem descriptor_failsAs {β : Type} {ds : List Descriptor} {c : ClassRef} {n : Node}
    {name : String} {f : Descriptor → EngineM β}
    (hf : ∀ d, ds.reverse.find? (·.member == name) = some d → FailsAs cat (f d) (.inst c n)) :
    FailsAs cat ((match List.find? (fun x => x.member == name) ds.reverse with
        | some d => pure d
        | none => fail (ConfigError.markerMisuse c.path name "is not a declared property")) >>= f)
      (.inst c n) := by
  cases hd : List.find? (fun x => x.member == name) ds.reverse with
  | none => exact .fail_bind (.own rfl rfl)
  | some d => exact .pure_bind (hf d hd)

theorem expect_failsAs {β : Type} {ds : List Descriptor} {c : ClassRef} {n : Node}
    {name : String} {k : BindingKind} {f : Descriptor → EngineM β}
    (hf : ∀ d, FailsAs cat (f d) (.inst c n)) :
    FailsAs cat (((match List.find? (fun x => x.member == name) ds.reverse with
          | some d => pure d
          | none => fail (ConfigError.markerMisuse c.path name "is not a declared property")) >>=
        fun d => if (d.kind == k) = true then pure d
          else fail (ConfigError.markerMisuse c.path name
            ("is declared as " ++ d.kind.name ++ " but bound as " ++ k.name))) >>= f)
      (.inst c n) := by
  refine FailsAs.bind (descriptor_failsAs fun d _ => ?_) hf
  by_cases hk : (d.kind == k) = true
  · rw [if_pos hk]
    exact .of_pure d
  · rw [if_neg hk]
    exact .of_fail (.own rfl rfl)

theorem getters_succ (ih : Located cat fuel) (ctx : Context) (s : GetterSchema)
    (hschema : cat.schema ctx.cls = .getters s) :
    FailsAs cat (constructGetters cat (fuel + 1) ctx s) (.inst ctx.cls ctx.node) := by
  simp only [constructGetters]
  refine FailsAs.ofExcept_bind (fun _ => classify_error) fun ds hclassify =>
    FailsAs.foldlM fun slots g hmem => ?_
  simp only [bindGetter]
  -- one case per way a getter is bound; lookups and kind checks fail as the class itself
  cases hb : g.binding with
  | none => exact .of_pure _
  | some b =>
    cases b with
    | property =>
      refine descriptor_failsAs fun d hfind => ?_
      have hm : MemberBinding cat ctx.cls d g.valueShape (some .zero) :=
        .property hschema hclassify hmem hb hfind
      cases hx : ctx.node.lookup d.logicalName with
      | some x => exact (present_failsAs ih hm hx).bind fun _ => .of_pure _
      | none => exact zero_member_failsAs ih hm hx _
    | defaulted =>
      refine descriptor_failsAs fun d hfind => ?_
      have hm : MemberBinding cat ctx.cls d g.valueShape none :=
        .defaulted hschema hclassify hmem hb hfind
      cases hx : ctx.node.lookup d.logicalName with
      | some x => exact (present_failsAs ih hm hx).bind fun _ => .of_pure _
      | none => exact .of_ok fun _ => ⟨_, rfl⟩
    | computed => exact expect_failsAs fun _ => .of_ok fun _ => ⟨_, rfl⟩
    | identity =>
      refine expect_failsAs fun d => ?_
      cases hid : g.valueShape.fromIdentity? ctx.node with
      | some b => exact .of_pure _
      | none => exact .of_fail (.own rfl rfl)
    | parent => exact expect_failsAs fun _ => .of_pure _

theorem inst_succ (ih : Located cat fuel) (c : ClassRef) (n : Node) (enc : List (ClassRef × Nat)) :
    FailsAs cat (materializeIn cat (fuel + 1) c n enc) (.inst c n) := by
  simp only [materializeIn]
  split
  · -- nested too deep: the class's own failure
    exact .fail_bind (.own rfl rfl)
  · -- taking an id cannot fail; the class's constructor runs under the new instance
    refine FailsAs.bind (.of_ok fun _ => ⟨_, rfl⟩) fun id => ?_
    cases hs : cat.schema c with
    | fields s => exact (ih.fields ⟨n, (c, id) :: enc, c⟩ s hs).bind fun _ => .of_ok fun _ => ⟨_, rfl⟩
    | getters s => exact (ih.getters ⟨n, (c, id) :: enc, c⟩ s hs).bind fun _ => .of_ok fun _ => ⟨_, rfl⟩

theorem of_fuel_zero (cat : Catalogue) : Located cat 0 where
  inst _ _ _ _ _ h := nomatch h
  fields _ _ _ _ _ h := nomatch h
  getters _ _ _ _ _ h := nomatch h
  pop _ _ _ _ _ _ _ _ _ h := nomatch h
  field _ _ _ _ _ _ _ _ _ h := nomatch h
  value _ _ _ _ _ h := nomatch h
  zero _ _ _ _ h := nomatch h
  whole _ _ _ _ _ h := nomatch h

theorem succ (ih : Located cat fuel) : Located cat (fuel + 1) where
  inst := ih.inst_succ
  fields := ih.fields_succ
  getters := ih.getters_succ
  pop := ih.pop_succ
  field := ih.field_succ
  value := ih.value_succ
  zero := ih.zero_succ
  whole := ih.whole_succ

end Located

theorem located (cat : Catalogue) : ∀ fuel, Located cat fuel
  | 0 => Located.of_fuel_zero cat
  | fuel + 1 => (located cat fuel).succ

end ConfigTree
