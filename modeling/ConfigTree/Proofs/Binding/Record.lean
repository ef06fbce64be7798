import ConfigTree.Proofs.Binding.Forest

namespace ConfigTree

open EngineM

def KeepsAll (Q : Instance → Prop) {α : Type} (x : EngineM α) : Prop :=
  ∀ st a st', (∀ y ∈ st.finished, Q y) → x st = .ok (a, st') → ∀ y ∈ st'.finished, Q y

namespace KeepsAll

variable {Q : Instance → Prop} {α β : Type} {x : EngineM α}

theorem of_finished (h : ∀ st a st', x st = .ok (a, st') → st'.finished = st.finished) :
    KeepsAll Q x := by
  intro st a st' hst hx y hy
  rw [h st a st' hx] at hy
  exact hst y hy

theorem of_pure (a : α) : KeepsAll Q (pure a : EngineM α) :=
  of_finished fun _ _ _ h => by cases h; rfl

theorem of_throw (err : Failure) : KeepsAll Q (throw err : EngineM α) :=
  of_finished fun _ _ _ h => by cases h

theorem of_fail (e : ConfigError) : KeepsAll Q (fail e : EngineM α) := of_throw _

theorem of_get : KeepsAll Q (get : EngineM EngineState) :=
  of_finished fun _ _ _ h => by cases h; rfl

theorem of_freshMemo : KeepsAll Q freshMemo :=
  of_finished fun _ _ _ h => by cases h; rfl

theorem of_publish {i : Instance} (hi : Q i) : KeepsAll Q (publish i) := by
  intro st a st' hst h y hy
  cases h
  rcases Array.mem_push.mp hy with hy | rfl
  · exact hst y hy
  · exact hi

theorem bind {f : α → EngineM β} (hx : KeepsAll Q x) (hf : ∀ a, KeepsAll Q (f a)) :
    KeepsAll Q (x >>= f) := by
  intro st b st' hst h
  obtain ⟨a, st₁, h₁, h₂⟩ := bind_ok h
  exact hf a st₁ b st' (hx st a st₁ hst h₁) h₂

theorem recover {y : EngineM α} (hx : KeepsAll Q x) (hy : KeepsAll Q y) :
    KeepsAll Q (EngineM.recover x y) := by
  intro st a st' hst h
  rcases recover_ok h with h | ⟨-, h⟩
  · exact hx st a st' hst h
  · exact hy st a st' hst h

theorem within (k : String) (hx : KeepsAll Q x) : KeepsAll Q (EngineM.within k x) := by
  intro st a st' hst h
  simp only [EngineM.within] at h
  split at h
  · cases h
  · exact hx st a st' hst h

theorem ofExcept (r : Except ConfigError α) : KeepsAll Q (EngineM.ofExcept r) := by
  cases r with
  | ok a => exact of_pure a
  | error e => exact of_fail e

theorem mapM {f : α → EngineM β} (hf : ∀ a, KeepsAll Q (f a)) :
    ∀ xs : List α, KeepsAll Q (xs.mapM f)
  | [] => of_pure []
  | x :: xs => by
    rw [List.mapM_cons]
    exact (hf x).bind fun _ => (mapM hf xs).bind fun _ => of_pure _

theorem foldlM {f : β → α → EngineM β} (hf : ∀ b a, KeepsAll Q (f b a)) :
    ∀ (xs : List α) (init : β), KeepsAll Q (xs.foldlM f init)
  | [], init => of_pure init
  | x :: xs, init => by
    rw [List.foldlM_cons]
    exact (hf init x).bind fun b => foldlM hf xs b

end KeepsAll

def Records (cat : Catalogue) (Q : Instance → Prop) : Prop :=
  ∀ fuel (n : Node) (c : ClassRef) (id : Nat) (enc : List (ClassRef × Nat)) st slots st',
    (∀ s, cat.schema c = .fields s →
      constructFields cat fuel ⟨n, (c, id) :: enc, c⟩ s st = .ok (slots, st') →
      Q ⟨c, id, enc.length + 1, .fields, slots⟩) ∧
    (∀ s, cat.schema c = .getters s →
      constructGetters cat fuel ⟨n, (c, id) :: enc, c⟩ s st = .ok (slots, st') →
      Q ⟨c, id, enc.length + 1, .getters, slots⟩)

/-- The construction functions at one fuel keep `Q` of every recorded instance. -/
structure Recording (cat : Catalogue) (Q : Instance → Prop) (fuel : Nat) : Prop where
  inst : ∀ c n enc, KeepsAll Q (materializeIn cat fuel c n enc)
  fields : ∀ ctx s, KeepsAll Q (constructFields cat fuel ctx s)
  getters : ∀ ctx s, KeepsAll Q (constructGetters cat fuel ctx s)
  pop : ∀ ctx queue shape absence, KeepsAll Q (popField cat fuel ctx queue shape absence)
  field : ∀ ctx d shape absence, KeepsAll Q (bindField cat fuel ctx d shape absence)
  value : ∀ ctx shape v, KeepsAll Q (bindValue cat fuel ctx shape v)
  zero : ∀ ctx shape, KeepsAll Q (zeroValue cat fuel ctx shape)
  whole : ∀ ctx shape n, KeepsAll Q (fromNode cat fuel ctx shape n)

namespace Recording

variable {cat : Catalogue} {Q : Instance → Prop} {fuel : Nat}

theorem value_succ (ih : Recording cat Q fuel) (ctx : Context) (shape : Shape) (v : Value) :
    KeepsAll Q (bindValue cat (fuel + 1) ctx shape v) := by
  -- the elements of a value, and the instance nested in it, are bound one level down
  have hitem : ∀ s (x : Value × Nat),
      KeepsAll Q (within ("[" ++ toString x.2 ++ "]") (bindValue cat fuel ctx s x.1)) :=
    fun s x => (ih.value ctx s x.1).within _
  have hentry : ∀ (k : Target) s (x : String × Value), KeepsAll Q (within x.1 (do
      let bk ← ofExcept (k.read (.str x.1))
      let b ← bindValue cat fuel ctx s x.2
      pure (bk, b))) := fun k s x =>
    ((KeepsAll.ofExcept _).bind fun _ => (ih.value ctx s x.2).bind fun _ => .of_pure _).within _
  cases shape with
  | scalar t | atomic t =>
    simp only [bindValue]
    exact (KeepsAll.ofExcept _).bind fun _ => .of_pure _
  | option s =>
    simp only [bindValue]
    exact (ih.value ctx s v).bind fun _ => .of_pure _
  | guarded l s =>
    simp only [bindValue]
    exact ih.value ctx s v
  | list s =>
    simp only [bindValue]
    refine KeepsAll.bind ?_ fun _ => .of_pure _
    cases itemsOf? v with
    | none => exact .of_fail _
    | some items => exact KeepsAll.mapM (hitem s) _
  | unorderedSet s =>
    simp only [bindValue]
    refine KeepsAll.bind ?_ fun _ => KeepsAll.of_get.bind fun _ => .of_pure _
    cases itemsOf? v with
    | none => exact .of_fail _
    | some items => exact KeepsAll.mapM (hitem s) _
  | orderedSet s =>
    simp only [bindValue]
    refine KeepsAll.bind ?_ fun _ => ?_
    · cases itemsOf? v with
      | none => exact .of_fail _
      | some items => exact KeepsAll.mapM (hitem s) _
    · cases s <;> exact .of_pure _
  | unorderedMap k s =>
    simp only [bindValue]
    refine KeepsAll.bind ?_ fun _ => .of_pure _
    cases v with
    | node entries => exact KeepsAll.mapM (hentry k s) _
    | _ => exact .of_fail _
  | orderedMap k s =>
    simp only [bindValue]
    refine KeepsAll.bind ?_ fun _ => .of_pure _
    cases v with
    | node entries => exact KeepsAll.mapM (hentry k s) _
    | _ => exact .of_fail _
  | nested c =>
    simp only [bindValue]
    cases v with
    | node n => exact (ih.inst c n ctx.lineage).bind fun _ => .of_pure _
    | _ => exact .of_fail _
  | parent c =>
    simp only [bindValue]
    exact .of_fail _

theorem zero_succ (ih : Recording cat Q fuel) (ctx : Context) (shape : Shape) :
    KeepsAll Q (zeroValue cat (fuel + 1) ctx shape) := by
  cases shape with
  | guarded l s =>
    simp only [zeroValue]
    exact ih.zero ctx s
  | nested c =>
    simp only [zeroValue]
    exact (ih.inst c [] ctx.lineage).bind fun _ => .of_pure _
  | _ =>
    simp only [zeroValue]
    exact .of_pure _

theorem whole_succ (ih : Recording cat Q fuel) (ctx : Context) (shape : Shape) (n : Node) :
    KeepsAll Q (fromNode cat (fuel + 1) ctx shape n) := by
  cases shape with
  | nested c =>
    simp only [fromNode]
    exact (ih.inst c n ctx.lineage).bind fun _ => .of_pure _
  | option s =>
    simp only [fromNode]
    exact (ih.whole ctx s n).bind fun _ => .of_pure _
  | scalar t =>
    cases t with
    | node =>
      simp only [fromNode]
      exact .of_pure _
    | _ =>
      simp only [fromNode]
      exact .of_fail _
  | _ =>
    simp only [fromNode]
    exact .of_fail _

theorem field_succ (ih : Recording cat Q fuel) (ctx : Context) (d : Descriptor) (shape : Shape)
    (absence : Absence) : KeepsAll Q (bindField cat (fuel + 1) ctx d shape absence) := by
  cases hk : d.kind with
  | identity =>
    simp only [bindField, hk]
    cases shape.fromIdentity? ctx.node with
    | some b => exact .of_pure _
    | none => exact .of_fail _
  | parentRef =>
    simp only [bindField, hk]
    cases shape.fromParent? ctx with
    | some b => exact .of_pure _
    | none => exact .of_fail _
  | _ =>
    simp only [bindField, hk]
    cases ctx.node.lookup d.logicalName with
    | some x => exact (ih.value ctx shape x).within _
    | none =>
      cases absence with
      | require => exact .of_fail _
      | zero =>
        refine ((ih.zero ctx shape).within _).bind fun b? => ?_
        cases b? with
        | some b => exact .of_pure _
        | none => exact .of_fail _
      | given b => exact .of_pure _
      | convert v => exact (ih.value ctx shape v).within _
      | fallback n => exact (ih.whole ctx shape n).within _

theorem pop_succ (ih : Recording cat Q fuel) (ctx : Context) (queue : FieldQueue) (shape : Shape)
    (absence : Absence) : KeepsAll Q (popField cat (fuel + 1) ctx queue shape absence) := by
  cases hq : queue.pending with
  | nil =>
    simp only [popField, hq]
    exact .of_fail _
  | cons d rest =>
    simp only [popField, hq]
    exact (ih.field ctx d shape absence).bind fun _ => .of_pure _

theorem fields_succ (ih : Recording cat Q fuel) (ctx : Context) (s : FieldSchema) :
    KeepsAll Q (constructFields cat (fuel + 1) ctx s) := by
  rw [constructFields]
  refine (KeepsAll.ofExcept _).bind fun ds => (KeepsAll.foldlM (fun acc step => ?_) _ _).bind
    fun r => ?_
  · have habs : ∀ shape (rule : PopRule), KeepsAll Q (rule.absence (bindValue cat fuel ctx shape)) := by
      intro shape rule
      cases rule with
      | preset v => exact (ih.value ctx shape v).bind fun _ => .of_pure _
      | _ => exact .of_pure _
    cases step with
    | blank name => exact .of_pure _
    | pop name shape rule =>
      rw [FieldStep.run]
      exact (habs shape rule).bind fun absence => (ih.pop ctx acc.1 shape absence).bind fun _ => .of_pure _
    | discard shape rule =>
      rw [FieldStep.run]
      exact (habs shape rule).bind fun absence =>
        (((ih.pop ctx acc.1 shape absence).bind fun _ => .of_pure _).recover (.of_pure _)).bind
          fun _ => .of_pure _
  · by_cases hempty : r.1.pending.isEmpty = true
    · simp only [hempty, if_true]
      exact .of_pure _
    · simp only [hempty]
      exact .of_fail _

theorem getters_succ (ih : Recording cat Q fuel) (ctx : Context) (s : GetterSchema) :
    KeepsAll Q (constructGetters cat (fuel + 1) ctx s) := by
  simp only [constructGetters]
  refine (KeepsAll.ofExcept _).bind fun ds => KeepsAll.foldlM (fun slots g => ?_) _ _
  simp only [bindGetter]
  cases g.binding with
  | none => exact .of_pure _
  | some b =>
    -- every binding looks up the getter's descriptor first, and fails without one
    cases List.find? (fun x => x.member == g.name) ds.reverse with
    | none =>
      intro st a st' _ h
      cases b <;> simp [bind_apply, Except.bind] at h
    | some d =>
      simp only [pure_bind]
      have hexpect : ∀ {β : Type} (k : BindingKind) (f : Descriptor → EngineM β),
          (∀ d, KeepsAll Q (f d)) → KeepsAll Q ((if (d.kind == k) = true then pure d
            else fail (ConfigError.markerMisuse ctx.cls.path g.name
              ("is declared as " ++ d.kind.name ++ " but bound as " ++ k.name))) >>= f) := by
        intro β k f hf
        refine KeepsAll.bind ?_ hf
        by_cases hk : (d.kind == k) = true
        · rw [if_pos hk]
          exact .of_pure d
        · rw [if_neg hk]
          exact .of_fail _
      -- a getter binds its value or its zero one level down, takes a memo cell, or looks nothing up
      cases b with
      | property =>
        cases ctx.node.lookup d.logicalName with
        | some v => exact ((ih.value ctx _ v).within _).bind fun _ => .of_pure _
        | none =>
          refine ((ih.zero ctx _).within _).bind fun b? => ?_
          cases b? with
          | some b => exact .of_pure _
          | none => exact .of_fail _
      | defaulted =>
        cases ctx.node.lookup d.logicalName with
        | some v => exact ((ih.value ctx _ v).within _).bind fun _ => .of_pure _
        | none => exact KeepsAll.of_freshMemo.bind fun _ => .of_pure _
      | computed => exact hexpect _ _ fun _ => KeepsAll.of_freshMemo.bind fun _ => .of_pure _
      | identity =>
        refine hexpect _ _ fun d => ?_
        cases g.valueShape.fromIdentity? ctx.node with
        | some b => exact .of_pure _
        | none => exact .of_fail _
      | parent => exact hexpect _ _ fun _ => .of_pure _

theorem inst_succ (hQ : Records cat Q) (ih : Recording cat Q fuel) (c : ClassRef) (n : Node)
    (enc : List (ClassRef × Nat)) : KeepsAll Q (materializeIn cat (fuel + 1) c n enc) := by
  intro st id st' hst h
  simp only [materializeIn] at h
  split at h
  · cases h
  · obtain ⟨_, st₁, hid, h⟩ := bind_ok h
    cases hid
    -- the constructor keeps the record, which then gains the instance it built
    have hQ' := hQ fuel n c st.nextId enc
    cases hs : cat.schema c with
    | fields s =>
      rw [hs] at h
      obtain ⟨slots, st₂, hslots, h⟩ := bind_ok h
      obtain ⟨_, _, hpair, h⟩ := bind_ok h
      cases hpair
      exact ((KeepsAll.of_publish ((hQ' _ slots st₂).1 s hs hslots)).bind fun _ => .of_pure _)
        st₂ _ _ (ih.fields _ s { st with nextId := st.nextId + 1 } _ _ hst hslots) h
    | getters s =>
      rw [hs] at h
      obtain ⟨slots, st₂, hslots, h⟩ := bind_ok h
      obtain ⟨_, _, hpair, h⟩ := bind_ok h
      cases hpair
      exact ((KeepsAll.of_publish ((hQ' _ slots st₂).2 s hs hslots)).bind fun _ => .of_pure _)
        st₂ _ _ (ih.getters _ s { st with nextId := st.nextId + 1 } _ _ hst hslots) h

theorem of_fuel_zero (cat : Catalogue) (Q : Instance → Prop) : Recording cat Q 0 where
  inst _ _ _ := .of_throw _
  fields _ _ := .of_throw _
  getters _ _ := .of_throw _
  pop _ _ _ _ := .of_throw _
  field _ _ _ _ := .of_throw _
  value _ _ _ := .of_throw _
  zero _ _ := .of_throw _
  whole _ _ _ := .of_throw _

theorem succ (hQ : Records cat Q) (ih : Recording cat Q fuel) : Recording cat Q (fuel + 1) where
  inst := ih.inst_succ hQ
  fields := ih.fields_succ
  getters := ih.getters_succ
  pop := ih.pop_succ
  field := ih.field_succ
  value := ih.value_succ
  zero := ih.zero_succ
  whole := ih.whole_succ

end Recording

theorem recording {cat : Catalogue} {Q : Instance → Prop} (hQ : Records cat Q) :
    ∀ fuel, Recording cat Q fuel
  | 0 => .of_fuel_zero cat Q
  | fuel + 1 => (recording hQ fuel).succ hQ

theorem materializeIn_records {cat : Catalogue} {Q : Instance → Prop} (hQ : Records cat Q)
    {fuel : Nat} {root : ClassRef} {node : Node} {id : Nat} {st : EngineState}
    (h : materializeIn cat fuel root node [] {} = .ok (id, st)) : ∀ x ∈ st.finished, Q x :=
  (recording hQ fuel).inst root node [] {} id st (fun _ hy => absurd hy (by simp)) h

end ConfigTree
