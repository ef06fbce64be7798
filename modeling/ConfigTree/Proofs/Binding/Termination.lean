import ConfigTree.Proofs.Binding.FailureSite
import ConfigTree.Proofs.Binding.Forest
import ConfigTree.Binding.Evaluate

namespace ConfigTree

open EngineM

def ConfigError.depth? : ConfigError → Option Nat
  | .depthLimit _ d => some d
  | _ => none

@[simp] theorem ConfigError.depth?_within (e : ConfigError) (k : String) :
    (e.within k).depth? = e.depth? := by
  cases e <;> rfl

theorem ConfigError.depth?_of_isKeyed {e : ConfigError} (h : e.isKeyed = true) : e.depth? = none := by
  cases e <;> first | rfl | cases h

theorem Member.kind?_error_depth? {m : Member} {t : String} {style : BindingStyle}
    {settings : ClassSettings} {e : ConfigError} (h : m.kind? t style settings = .error e) :
    e.depth? = none := by
  unfold Member.kind? at h
  simp only [bind, Except.bind, pure, Except.pure, throw, throwThe, MonadExceptOf.throw] at h
  repeat' split at h
  all_goals cases h <;> rfl

theorem classify_error_depth? {t : String} {style : BindingStyle} {settings : ClassSettings}
    {members : List Member} {e : ConfigError} (h : classify t style settings members = .error e) :
    e.depth? = none := by
  obtain ⟨m, -, hm⟩ := Except.exists_of_filterMapM_eq_error h
  cases hk : m.kind? t style settings with
  | error e' =>
    simp only [hk, bind, Except.bind] at hm
    cases hm
    exact Member.kind?_error_depth? hk
  | ok k =>
    cases k <;> simp [hk, bind, Except.bind, pure, Except.pure] at hm

namespace EngineM

def Finishes {α : Type} (x : EngineM α) : Prop :=
  ∀ st err, x st = .error err → ∃ e, err = .config e ∧ ∀ d, e.depth? = some d → d = depthLimit

namespace Finishes

variable {α β : Type} {x : EngineM α}

theorem of_ok (hx : ∀ st, ∃ r, x st = .ok r) : Finishes x := by
  intro st err h
  obtain ⟨r, hr⟩ := hx st
  rw [hr] at h
  cases h

theorem of_pure (a : α) : Finishes (pure a : EngineM α) := of_ok fun _ => ⟨_, rfl⟩

theorem of_fail {e : ConfigError} (he : e.depth? = none) : Finishes (fail e : EngineM α) := by
  intro st err h
  cases h
  exact ⟨e, rfl, fun d hd => by rw [he] at hd; cases hd⟩

theorem depthLimit_bind (t : String) {f : α → EngineM β} :
    Finishes (fail (.depthLimit t depthLimit) >>= f) := by
  intro st err h
  cases h
  exact ⟨_, rfl, fun d hd => (Option.some.inj hd).symm⟩

theorem bind {f : α → EngineM β} (hx : Finishes x) (hf : ∀ a, Finishes (f a)) :
    Finishes (x >>= f) := by
  intro st err h
  rcases bind_error h with hfirst | ⟨a, st₁, -, hrest⟩
  · exact hx st err hfirst
  · exact hf a st₁ err hrest

theorem recover {y : EngineM α} (hx : Finishes x) (hy : Finishes y) :
    Finishes (EngineM.recover x y) := by
  intro st err h
  cases hact : x st with
  | ok r =>
    simp only [EngineM.recover, hact] at h
    cases h
  | error f =>
    cases f with
    | config e =>
      simp only [EngineM.recover, hact] at h
      exact hy st err h
    | _ =>
      simp only [EngineM.recover, hact] at h
      exact hx st err (h ▸ hact)

theorem within (k : String) (hx : Finishes x) : Finishes (EngineM.within k x) := by
  intro st err h
  simp only [EngineM.within] at h
  split at h
  · next e hact =>
    cases h
    obtain ⟨e', he', hd⟩ := hx st _ hact
    cases he'
    exact ⟨_, rfl, by simpa using hd⟩
  · exact hx st err h

theorem ofExcept {r : Except ConfigError α} (hr : ∀ e, r = .error e → e.depth? = none) :
    Finishes (EngineM.ofExcept r) := by
  cases r with
  | ok a => exact of_pure a
  | error e => exact of_fail (hr e rfl)

theorem read (t : Target) (v : Value) : Finishes (EngineM.ofExcept (t.read v)) :=
  ofExcept fun _ h => ConfigError.depth?_of_isKeyed (Target.read_error_isKeyed h)

theorem mapM {f : α → EngineM β} {xs : List α} (hf : ∀ a ∈ xs, Finishes (f a)) :
    Finishes (xs.mapM f) := by
  intro st err h
  obtain ⟨a, ha, st', hfa⟩ := mapM_error h
  exact hf a ha st' err hfa

theorem foldlM {f : β → α → EngineM β} {xs : List α} {init : β}
    (hf : ∀ acc, ∀ a ∈ xs, Finishes (f acc a)) : Finishes (xs.foldlM f init) := by
  intro st err h
  obtain ⟨pre, a, post, acc, st', rfl, -, ha⟩ := foldlM_error h
  exact hf acc a (List.mem_append_right _ List.mem_cons_self) st' err ha

end Finishes

end EngineM

theorem le_foldr_max {α : Type} (f : α → Nat) {xs : List α} {x : α} (h : x ∈ xs) :
    f x ≤ xs.foldr (fun y d => max (f y) d) 0 := by
  induction xs with
  | nil => cases h
  | cons y ys ih =>
    rcases List.mem_cons.mp h with rfl | hy
    · exact Nat.le_max_left _ _
    · exact Nat.le_trans (ih hy) (Nat.le_max_right _ _)

theorem Schema.depth_le_shapeDepth {s : Schema} {shape : Shape} (h : shape ∈ s.shapes) :
    shape.depth ≤ s.shapeDepth :=
  le_foldr_max Shape.depth h

theorem Catalogue.shapeDepth_le {cat : Catalogue} {c : ClassRef} {s : Schema}
    (h : (c, s) ∈ cat.classes) : s.shapeDepth ≤ cat.shapeDepth :=
  le_foldr_max (fun p : ClassRef × Schema => p.2.shapeDepth) h

theorem Catalogue.depth_le_of_schema {cat : Catalogue} {c : ClassRef} {shape : Shape}
    (h : shape ∈ (cat.schema c).shapes) : shape.depth ≤ cat.shapeDepth := by
  unfold Catalogue.schema at h
  cases hfind : cat.classes.find? (·.1.name == c.name) with
  | none =>
    -- a class out of scope binds nothing
    rw [hfind] at h
    simp [Schema.shapes, FieldSchema.steps] at h
  | some p =>
    rw [hfind] at h
    exact Nat.le_trans (Schema.depth_le_shapeDepth h)
      (Catalogue.shapeDepth_le (c := p.1) (List.mem_of_find?_eq_some hfind))

theorem Catalogue.depth_le_of_step {cat : Catalogue} {c : ClassRef} {s : FieldSchema}
    (hs : cat.schema c = .fields s) {x : FieldStep} (h : x ∈ s.steps) {shape : Shape}
    (hx : (∃ name rule, x = .pop name shape rule) ∨ ∃ rule, x = .discard shape rule) :
    shape.depth ≤ cat.shapeDepth := by
  refine Catalogue.depth_le_of_schema (c := c) ?_
  rw [hs, Schema.shapes, List.mem_filterMap]
  rcases hx with ⟨name, rule, rfl⟩ | ⟨rule, rfl⟩ <;> exact ⟨_, h, rfl⟩

theorem Catalogue.depth_le_of_getter {cat : Catalogue} {c : ClassRef} {s : GetterSchema}
    (hs : cat.schema c = .getters s) {g : GetterDecl} (h : g ∈ s.getters) :
    g.valueShape.depth ≤ cat.shapeDepth := by
  refine Catalogue.depth_le_of_schema (c := c) ?_
  rw [hs, Schema.shapes]
  exact List.mem_map_of_mem h

def Catalogue.buildFuel (cat : Catalogue) (enclosing : Nat) : Nat :=
  (depthLimit - enclosing) * (cat.shapeDepth + 4) + 1

theorem Catalogue.buildFuel_of_lt {cat : Catalogue} {n : Nat} (h : n < depthLimit) :
    cat.buildFuel n = cat.shapeDepth + 4 + cat.buildFuel (n + 1) := by
  have hsub : depthLimit - n = (depthLimit - (n + 1)) + 1 := by omega
  simp only [Catalogue.buildFuel, hsub, Nat.add_mul, Nat.one_mul]
  omega

theorem Catalogue.one_le_buildFuel (cat : Catalogue) (n : Nat) : 1 ≤ cat.buildFuel n :=
  Nat.le_add_left _ _

/-- Every construction function finishes when its fuel covers what is left to build below it: the
fuel of the nested instances, plus the shape being bound and the calls that lead to it. -/
structure Ample (cat : Catalogue) (fuel : Nat) : Prop where
  inst : ∀ c n enc, cat.buildFuel enc.length ≤ fuel → Finishes (materializeIn cat fuel c n enc)
  fields : ∀ ctx s, cat.schema ctx.cls = .fields s →
    cat.shapeDepth + 3 + cat.buildFuel ctx.lineage.length ≤ fuel →
    Finishes (constructFields cat fuel ctx s)
  getters : ∀ ctx s, cat.schema ctx.cls = .getters s →
    cat.shapeDepth + 1 + cat.buildFuel ctx.lineage.length ≤ fuel →
    Finishes (constructGetters cat fuel ctx s)
  pop : ∀ ctx queue shape absence, shape.depth ≤ cat.shapeDepth →
    cat.shapeDepth + 2 + cat.buildFuel ctx.lineage.length ≤ fuel →
    Finishes (popField cat fuel ctx queue shape absence)
  field : ∀ ctx d shape absence, shape.depth ≤ cat.shapeDepth →
    cat.shapeDepth + 1 + cat.buildFuel ctx.lineage.length ≤ fuel →
    Finishes (bindField cat fuel ctx d shape absence)
  value : ∀ ctx shape v, shape.depth + cat.buildFuel ctx.lineage.length ≤ fuel →
    Finishes (bindValue cat fuel ctx shape v)
  zero : ∀ ctx shape, shape.depth + cat.buildFuel ctx.lineage.length ≤ fuel →
    Finishes (zeroValue cat fuel ctx shape)
  whole : ∀ ctx shape n, shape.depth + cat.buildFuel ctx.lineage.length ≤ fuel →
    Finishes (fromNode cat fuel ctx shape n)

namespace Ample

variable {cat : Catalogue} {fuel : Nat}

theorem items_finishes {ctx : Context} {s : Shape} (shape : Shape)
    (hv : ∀ x, Finishes (bindValue cat fuel ctx s x)) (v : Value) :
    Finishes (match itemsOf? v with
        | none => fail (ConfigError.conversion v.display v.kind shape.typePath)
        | some items => List.mapM (fun x => within ("[" ++ toString x.snd ++ "]")
            (bindValue cat fuel ctx s x.fst)) items.zipIdx) := by
  cases itemsOf? v with
  | none => exact .of_fail rfl
  | some items => exact .mapM fun xi _ => (hv xi.1).within _

theorem entries_finishes {ctx : Context} {k : Target} {s : Shape} (shape : Shape)
    (hv : ∀ x, Finishes (bindValue cat fuel ctx s x)) (v : Value) :
    Finishes (match v with
        | .node entries => entries.mapM fun x => within x.fst (do
            let bk ← ofExcept (k.read (.str x.fst))
            let b ← bindValue cat fuel ctx s x.snd
            pure (bk, b))
        | _ => fail (ConfigError.conversion v.display v.kind shape.typePath)) := by
  cases v with
  | node entries =>
    exact .mapM fun x _ => Finishes.within _
      ((Finishes.read k _).bind fun _ => (hv x.2).bind fun _ => Finishes.of_pure _)
  | _ => exact .of_fail rfl

theorem value_succ (ih : Ample cat fuel) (ctx : Context) (shape : Shape) (v : Value)
    (hfuel : shape.depth + cat.buildFuel ctx.lineage.length ≤ fuel + 1) :
    Finishes (bindValue cat (fuel + 1) ctx shape v) := by
  -- the inner shape is one level shallower, and a nested instance starts under this lineage
  cases shape with
  | scalar t | atomic t =>
    simp only [bindValue]
    exact (Finishes.read t v).bind fun _ => .of_pure _
  | option s =>
    simp only [bindValue]
    exact (ih.value ctx s v (by simp only [Shape.depth] at hfuel; omega)).bind fun _ => .of_pure _
  | guarded l s =>
    simp only [bindValue]
    exact ih.value ctx s v (by simp only [Shape.depth] at hfuel; omega)
  | list s =>
    simp only [bindValue]
    have hs : ∀ x, Finishes (bindValue cat fuel ctx s x) := fun x =>
      ih.value ctx s x (by simp only [Shape.depth] at hfuel; omega)
    exact (items_finishes (.list s) hs v).bind fun _ => .of_pure _
  | unorderedSet s =>
    simp only [bindValue]
    have hs : ∀ x, Finishes (bindValue cat fuel ctx s x) := fun x =>
      ih.value ctx s x (by simp only [Shape.depth] at hfuel; omega)
    exact (items_finishes (.unorderedSet s) hs v).bind fun _ => .of_ok fun _ => ⟨_, rfl⟩
  | orderedSet s =>
    simp only [bindValue]
    have hs : ∀ x, Finishes (bindValue cat fuel ctx s x) := fun x =>
      ih.value ctx s x (by simp only [Shape.depth] at hfuel; omega)
    exact (items_finishes (.orderedSet s) hs v).bind fun _ => .of_ok fun _ => by
      cases s <;> exact ⟨_, rfl⟩
  | unorderedMap k s =>
    simp only [bindValue]
    have hs : ∀ x, Finishes (bindValue cat fuel ctx s x) := fun x =>
      ih.value ctx s x (by simp only [Shape.depth] at hfuel; omega)
    exact (entries_finishes (.unorderedMap k s) hs v).bind fun _ => .of_pure _
  | orderedMap k s =>
    simp only [bindValue]
    have hs : ∀ x, Finishes (bindValue cat fuel ctx s x) := fun x =>
      ih.value ctx s x (by simp only [Shape.depth] at hfuel; omega)
    exact (entries_finishes (.orderedMap k s) hs v).bind fun _ => .of_pure _
  | nested c =>
    simp only [bindValue]
    cases v with
    | node n =>
      exact (ih.inst c n ctx.lineage (by simp only [Shape.depth] at hfuel; omega)).bind
        fun _ => .of_pure _
    | _ => exact .of_fail rfl
  | parent c =>
    simp only [bindValue]
    exact .of_fail rfl

theorem zero_succ (ih : Ample cat fuel) (ctx : Context) (shape : Shape)
    (hfuel : shape.depth + cat.buildFuel ctx.lineage.length ≤ fuel + 1) :
    Finishes (zeroValue cat (fuel + 1) ctx shape) := by
  cases shape with
  | guarded l s =>
    simp only [zeroValue]
    exact ih.zero ctx s (by simp only [Shape.depth] at hfuel; omega)
  | nested c =>
    simp only [zeroValue]
    exact (ih.inst c [] ctx.lineage (by simp only [Shape.depth] at hfuel; omega)).bind
      fun _ => .of_pure _
  | _ =>
    simp only [zeroValue]
    exact .of_pure _

theorem whole_succ (ih : Ample cat fuel) (ctx : Context) (shape : Shape) (n : Node)
    (hfuel : shape.depth + cat.buildFuel ctx.lineage.length ≤ fuel + 1) :
    Finishes (fromNode cat (fuel + 1) ctx shape n) := by
  cases shape with
  | nested c =>
    simp only [fromNode]
    exact (ih.inst c n ctx.lineage (by simp only [Shape.depth] at hfuel; omega)).bind
      fun _ => .of_pure _
  | option s =>
    simp only [fromNode]
    exact (ih.whole ctx s n (by simp only [Shape.depth] at hfuel; omega)).bind fun _ => .of_pure _
  | scalar t =>
    cases t with
    | node =>
      simp only [fromNode]
      exact .of_pure _
    | _ =>
      simp only [fromNode]
      exact .of_fail rfl
  | _ =>
    simp only [fromNode]
    exact .of_fail rfl

theorem field_succ (ih : Ample cat fuel) (ctx : Context) (d : Descriptor) (shape : Shape)
    (absence : Absence) (hdepth : shape.depth ≤ cat.shapeDepth)
    (hfuel : cat.shapeDepth + 1 + cat.buildFuel ctx.lineage.length ≤ fuel + 1) :
    Finishes (bindField cat (fuel + 1) ctx d shape absence) := by
  have hshape : shape.depth + cat.buildFuel ctx.lineage.length ≤ fuel := by omega
  cases hk : d.kind with
  | identity =>
    simp only [bindField, hk]
    cases shape.fromIdentity? ctx.node with
    | some b => exact .of_pure b
    | none => exact .of_fail rfl
  | parentRef =>
    simp only [bindField, hk]
    cases shape.fromParent? ctx with
    | some b => exact .of_pure b
    | none => exact .of_fail rfl
  | _ =>
    simp only [bindField, hk]
    cases ctx.node.lookup d.logicalName with
    | some x => exact (ih.value ctx shape x hshape).within _
    | none =>
      cases absence with
      | require => exact .of_fail rfl
      | zero =>
        refine ((ih.zero ctx shape hshape).within _).bind fun b? => ?_
        cases b? with
        | some b => exact .of_pure b
        | none => exact .of_fail rfl
      | given b => exact .of_pure b
      | convert v => exact (ih.value ctx shape v hshape).within _
      | fallback n => exact (ih.whole ctx shape n hshape).within _

theorem pop_succ (ih : Ample cat fuel) (ctx : Context) (queue : FieldQueue) (shape : Shape)
    (absence : Absence) (hdepth : shape.depth ≤ cat.shapeDepth)
    (hfuel : cat.shapeDepth + 2 + cat.buildFuel ctx.lineage.length ≤ fuel + 1) :
    Finishes (popField cat (fuel + 1) ctx queue shape absence) := by
  cases hq : queue.pending with
  | nil =>
    simp only [popField, hq]
    exact .of_fail rfl
  | cons d rest =>
    simp only [popField, hq]
    exact (ih.field ctx d shape absence hdepth (by omega)).bind fun _ => .of_pure _

theorem fields_succ (ih : Ample cat fuel) (ctx : Context) (s : FieldSchema)
    (hschema : cat.schema ctx.cls = .fields s)
    (hfuel : cat.shapeDepth + 3 + cat.buildFuel ctx.lineage.length ≤ fuel + 1) :
    Finishes (constructFields cat (fuel + 1) ctx s) := by
  rw [constructFields]
  refine (Finishes.ofExcept fun _ => classify_error_depth?).bind fun ds => ?_
  -- every step binds a preset default and pops, both at the steps' own shapes
  refine (Finishes.foldlM fun acc step hstep => ?_).bind fun r => ?_
  · have habs : ∀ shape (rule : PopRule), shape.depth ≤ cat.shapeDepth →
        Finishes (rule.absence (bindValue cat fuel ctx shape)) := by
      intro shape rule hdepth
      cases rule with
      | preset v => exact (ih.value ctx shape v (by omega)).bind fun _ => .of_pure _
      | _ => exact .of_pure _
    cases step with
    | blank name => exact .of_pure _
    | pop name shape rule =>
      have hdepth := Catalogue.depth_le_of_step hschema hstep (.inl ⟨name, rule, rfl⟩)
      rw [FieldStep.run]
      exact (habs shape rule hdepth).bind fun absence =>
        (ih.pop ctx acc.1 shape absence hdepth (by omega)).bind fun _ => .of_pure _
    | discard shape rule =>
      have hdepth := Catalogue.depth_le_of_step hschema hstep (.inr ⟨rule, rfl⟩)
      rw [FieldStep.run]
      exact (habs shape rule hdepth).bind fun absence =>
        (((ih.pop ctx acc.1 shape absence hdepth (by omega)).bind fun _ => .of_pure _).recover
          (.of_pure _)).bind fun _ => .of_pure _
  · change Finishes (if r.1.pending.isEmpty = true then pure r.2
      else fail (.arityMismatch ctx.cls.path r.1.declared r.1.consumed))
    by_cases hempty : r.1.pending.isEmpty = true
    · rw [if_pos hempty]
      exact .of_pure _
    · rw [if_neg hempty]
      exact .of_fail rfl

theorem descriptor_finishes {β : Type} {ds : List Descriptor} {c : ClassRef} {name : String}
    {f : Descriptor → EngineM β} (hf : ∀ d, Finishes (f d)) :
    Finishes ((match List.find? (fun x => x.member == name) ds.reverse with
        | some d => pure d
        | none => fail (ConfigError.markerMisuse c.path name "is not a declared property")) >>= f) := by
  cases List.find? (fun x => x.member == name) ds.reverse with
  | none => exact (Finishes.of_fail rfl).bind hf
  | some d => exact (Finishes.of_pure d).bind hf

theorem expect_finishes {β : Type} {ds : List Descriptor} {c : ClassRef} {name : String}
    {k : BindingKind} {f : Descriptor → EngineM β} (hf : ∀ d, Finishes (f d)) :
    Finishes (((match List.find? (fun x => x.member == name) ds.reverse with
          | some d => pure d
          | none => fail (ConfigError.markerMisuse c.path name "is not a declared property")) >>=
        fun d => if (d.kind == k) = true then pure d
          else fail (ConfigError.markerMisuse c.path name
            ("is declared as " ++ d.kind.name ++ " but bound as " ++ k.name))) >>= f) := by
  refine Finishes.bind (descriptor_finishes fun d => ?_) hf
  by_cases hk : (d.kind == k) = true
  · rw [if_pos hk]
    exact .of_pure d
  · rw [if_neg hk]
    exact .of_fail rfl

theorem getters_succ (ih : Ample cat fuel) (ctx : Context) (s : GetterSchema)
    (hschema : cat.schema ctx.cls = .getters s)
    (hfuel : cat.shapeDepth + 1 + cat.buildFuel ctx.lineage.length ≤ fuel + 1) :
    Finishes (constructGetters cat (fuel + 1) ctx s) := by
  simp only [constructGetters]
  refine (Finishes.ofExcept fun _ => classify_error_depth?).bind fun ds =>
    Finishes.foldlM fun slots g hmem => ?_
  simp only [bindGetter]
  have hshape : g.valueShape.depth + cat.buildFuel ctx.lineage.length ≤ fuel := by
    have := Catalogue.depth_le_of_getter hschema hmem
    omega
  -- one case per way a getter is bound
  cases hb : g.binding with
  | none => exact .of_pure _
  | some b =>
    cases b with
    | property =>
      refine descriptor_finishes fun d => ?_
      cases ctx.node.lookup d.logicalName with
      | some x => exact ((ih.value ctx _ x hshape).within _).bind fun _ => .of_pure _
      | none =>
        refine ((ih.zero ctx _ hshape).within _).bind fun b? => ?_
        cases b? with
        | some b => exact .of_pure _
        | none => exact .of_fail rfl
    | defaulted =>
      refine descriptor_finishes fun d => ?_
      cases ctx.node.lookup d.logicalName with
      | some x => exact ((ih.value ctx _ x hshape).within _).bind fun _ => .of_pure _
      | none => exact .of_ok fun _ => ⟨_, rfl⟩
    | computed => exact expect_finishes fun _ => .of_ok fun _ => ⟨_, rfl⟩
    | identity =>
      refine expect_finishes fun d => ?_
      cases g.valueShape.fromIdentity? ctx.node with
      | some b => exact .of_pure _
      | none => exact .of_fail rfl
    | parent => exact expect_finishes fun _ => .of_pure _

theorem inst_succ (ih : Ample cat fuel) (c : ClassRef) (n : Node) (enc : List (ClassRef × Nat))
    (hfuel : cat.buildFuel enc.length ≤ fuel + 1) :
    Finishes (materializeIn cat (fuel + 1) c n enc) := by
  simp only [materializeIn]
  split
  · -- too deep: the limit itself
    exact Finishes.depthLimit_bind _
  · next hlt =>
    -- one level down, the instance's own lineage is one longer
    have hstep : cat.buildFuel enc.length = cat.shapeDepth + 4 + cat.buildFuel (enc.length + 1) :=
      Catalogue.buildFuel_of_lt (Nat.lt_of_not_le hlt)
    refine Finishes.bind (.of_ok fun _ => ⟨_, rfl⟩) fun id => ?_
    cases hs : cat.schema c with
    | fields s =>
      exact (ih.fields ⟨n, (c, id) :: enc, c⟩ s hs (by simp only [List.length_cons]; omega)).bind
        fun _ => .of_ok fun _ => ⟨_, rfl⟩
    | getters s =>
      exact (ih.getters ⟨n, (c, id) :: enc, c⟩ s hs (by simp only [List.length_cons]; omega)).bind
        fun _ => .of_ok fun _ => ⟨_, rfl⟩

theorem of_fuel_zero (cat : Catalogue) : Ample cat 0 where
  inst _ _ enc h := absurd h (Nat.not_le.mpr (cat.one_le_buildFuel enc.length))
  fields ctx _ _ h := absurd h (by have := cat.one_le_buildFuel ctx.lineage.length; omega)
  getters ctx _ _ h := absurd h (by have := cat.one_le_buildFuel ctx.lineage.length; omega)
  pop ctx _ _ _ _ h := absurd h (by have := cat.one_le_buildFuel ctx.lineage.length; omega)
  field ctx _ _ _ _ h := absurd h (by have := cat.one_le_buildFuel ctx.lineage.length; omega)
  value ctx _ _ h := absurd h (by have := cat.one_le_buildFuel ctx.lineage.length; omega)
  zero ctx _ h := absurd h (by have := cat.one_le_buildFuel ctx.lineage.length; omega)
  whole ctx _ _ h := absurd h (by have := cat.one_le_buildFuel ctx.lineage.length; omega)

theorem succ (ih : Ample cat fuel) : Ample cat (fuel + 1) where
  inst := ih.inst_succ
  fields := ih.fields_succ
  getters := ih.getters_succ
  pop := ih.pop_succ
  field := ih.field_succ
  value := ih.value_succ
  zero := ih.zero_succ
  whole := ih.whole_succ

end Ample

theorem ample (cat : Catalogue) : ∀ fuel, Ample cat fuel
  | 0 => Ample.of_fuel_zero cat
  | fuel + 1 => (ample cat fuel).succ

theorem materializeIn_finishes (cat : Catalogue) (root : ClassRef) (node : Node) :
    Finishes (materializeIn cat (constructionFuel cat) root node []) :=
  (ample cat _).inst root node [] (Nat.le_refl _)

theorem materializeIn_too_deep (cat : Catalogue) (fuel : Nat) (c : ClassRef) (n : Node)
    {enc : List (ClassRef × Nat)} (h : depthLimit ≤ enc.length) (st : EngineState) :
    materializeIn cat (fuel + 1) c n enc st = .error (.config (.depthLimit c.path depthLimit)) := by
  simp only [materializeIn, ge_iff_le, h, ↓reduceIte]
  rfl

/-- Materialization terminates and never nests deeper than the limit. -/
theorem construction_terminates_within_depth (cat : Catalogue) (root : ClassRef) (node : Node) :
    (∀ err, materializeIn cat (constructionFuel cat) root node [] {} = .error err →
      ∃ e, err = .config e) ∧
    (∀ id st, materializeIn cat (constructionFuel cat) root node [] {} = .ok (id, st) →
      Built [] 0 st.nextId st.finished.toList ∧ ∀ x ∈ st.finished, x.depth ≤ depthLimit) ∧
    (∀ fuel c n (enc : List (ClassRef × Nat)) st, depthLimit ≤ enc.length →
      materializeIn cat (fuel + 1) c n enc st = .error (.config (.depthLimit c.path depthLimit))) ∧
    (∀ t d, materializeIn cat (constructionFuel cat) root node [] {} =
      .error (.config (.depthLimit t d)) → d = depthLimit) := by
  have hfin := materializeIn_finishes cat root node
  refine ⟨fun err h => (hfin {} err h).imp fun _ h => h.1, fun id st h => ?_,
    fun fuel c n enc st h => materializeIn_too_deep cat fuel c n h st, fun t d h => ?_⟩
  · have hbuilt := materializeIn_built h
    exact ⟨hbuilt, fun x hx => hbuilt.depth_le x (Array.mem_toList_iff.mpr hx)⟩
  · obtain ⟨e, he, hd⟩ := hfin {} _ h
    cases he
    exact hd d rfl

theorem construction_terminates_within_depth_self_nesting :
    let cat : Catalogue := ⟨[(⟨"F0", "F0"⟩, .fields
      { fields := [{ name := "child", shape := .option (.nested ⟨"F0", "F0"⟩) }] })]⟩
    let node : Node := [("child", .node [("child", .node [])])]
    let enclosing : List (ClassRef × Nat) := List.replicate depthLimit (⟨"F0", "F0"⟩, 0)
    depthLimit ≤ enclosing.length ∧
      materializeIn cat (constructionFuel cat) ⟨"F0", "F0"⟩ node enclosing {} =
        .error (.config (.depthLimit "F0" depthLimit)) := by
  intro cat node enclosing
  have hdeep : depthLimit ≤ enclosing.length := by simp [enclosing]
  have hfuel : constructionFuel cat = depthLimit * (cat.shapeDepth + 4) + 1 := rfl
  refine ⟨hdeep, ?_⟩
  rw [hfuel]
  exact (construction_terminates_within_depth cat ⟨"F0", "F0"⟩ node).2.2.1 _ _ _ _ _ hdeep

end ConfigTree
