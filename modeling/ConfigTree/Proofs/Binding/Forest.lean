import ConfigTree.Proofs.Binding.Queue

namespace ConfigTree

open EngineM

def nearest (enc : List (ClassRef × Nat)) (c : ClassRef) : Option Nat :=
  (enc.find? (·.1.name == c.name)).map (·.2)

def ParentsIn (enc : List (ClassRef × Nat)) (slots : List (String × Slot)) : Prop :=
  ∀ name c a, (name, Slot.bound (.parent c a)) ∈ slots → a = nearest enc c

def slotCells (slots : List (String × Slot)) : List Nat :=
  slots.flatMap fun
    | (_, .memo c) => [c]
    | _ => []

@[simp] theorem slotCells_nil : slotCells [] = [] := rfl

@[simp] theorem slotCells_append (a b : List (String × Slot)) :
    slotCells (a ++ b) = slotCells a ++ slotCells b := List.flatMap_append

@[simp] theorem slotCells_memo (name : String) (c : Nat) : slotCells [(name, .memo c)] = [c] := rfl

@[simp] theorem slotCells_bound (name : String) (b : Bound) : slotCells [(name, .bound b)] = [] := rfl

@[simp] theorem slotCells_blank (name : String) : slotCells [(name, .blank)] = [] := rfl

def Instance.cells (xs : List Instance) : List Nat := xs.flatMap (slotCells ·.slots)

@[simp] theorem Instance.cells_nil : Instance.cells [] = [] := rfl

@[simp] theorem Instance.cells_append (xs ys : List Instance) :
    Instance.cells (xs ++ ys) = Instance.cells xs ++ Instance.cells ys := List.flatMap_append

@[simp] theorem Instance.cells_cons (x : Instance) (xs : List Instance) :
    Instance.cells (x :: xs) = slotCells x.slots ++ Instance.cells xs := List.flatMap_cons

/-- `Built enc lo hi xs`: `xs` lists, in the order they finished, the instances of constructions
started one after another under the chain `enc`, with ids from `lo` up to `hi` in the order they
started; each instance is recorded after the ones nested in it, built under it. -/
inductive Built : List (ClassRef × Nat) → Nat → Nat → List Instance → Prop
  | nil {enc : List (ClassRef × Nat)} {lo : Nat} : Built enc lo lo []
  | tree {enc : List (ClassRef × Nat)} {lo mid hi : Nat} {kids rest : List Instance} {x : Instance} :
      enc.length < depthLimit → x.id = lo → x.depth = enc.length + 1 → ParentsIn enc x.slots →
      Built ((x.cls, lo) :: enc) (lo + 1) mid kids → Built enc mid hi rest →
      Built enc lo hi (kids ++ x :: rest)

namespace Built

theorem append {enc : List (ClassRef × Nat)} {lo mid hi : Nat} {xs ys : List Instance}
    (hx : Built enc lo mid xs) (hy : Built enc mid hi ys) : Built enc lo hi (xs ++ ys) := by
  induction hx with
  | nil => exact hy
  | tree hlt hid hdepth hpar hkids _ _ ih =>
    rw [List.append_assoc, List.cons_append]
    exact .tree hlt hid hdepth hpar hkids (ih hy)

theorem le {enc : List (ClassRef × Nat)} {lo hi : Nat} {xs : List Instance} (h : Built enc lo hi xs) :
    lo ≤ hi := by
  induction h with
  | nil => exact Nat.le_refl _
  | tree _ _ _ _ _ _ ihk ihr => omega

theorem depth_le {enc : List (ClassRef × Nat)} {lo hi : Nat} {xs : List Instance}
    (h : Built enc lo hi xs) : ∀ x ∈ xs, x.depth ≤ depthLimit := by
  induction h with
  | nil => exact fun _ hx => nomatch hx
  | tree hlt _ hdepth _ _ _ ihk ihr =>
    intro y hy
    rcases List.mem_append.mp hy with hy | hy
    · exact ihk y hy
    · rcases List.mem_cons.mp hy with rfl | hy
      · omega
      · exact ihr y hy

end Built

/-- How a construction step changes the state: it records a forest of instances built under `enc`
and allocates pending memo cells, each held exactly once, by the new instances or in `held`; it logs
nothing. -/
structure Grows (enc : List (ClassRef × Nat)) (held : List Nat) (st st' : EngineState) : Prop where
  finished : ∃ xs, st'.finished.toList = st.finished.toList ++ xs ∧ Built enc st.nextId st'.nextId xs ∧
    (Instance.cells xs ++ held).Perm (List.range' st.memos.size (st'.memos.size - st.memos.size))
  memos : ∃ k, st'.memos.toList = st.memos.toList ++ List.replicate k .pending
  evals : st'.evals = st.evals

namespace Grows

variable {enc : List (ClassRef × Nat)}

theorem refl (st : EngineState) : Grows enc [] st st :=
  ⟨⟨[], by simp, .nil, by simp⟩, ⟨0, by simp⟩, rfl⟩

theorem size_le {held : List Nat} {st st' : EngineState} (h : Grows enc held st st') :
    st.memos.size ≤ st'.memos.size := by
  obtain ⟨k, hk⟩ := h.memos
  have := congrArg List.length hk
  simp only [Array.length_toList, List.length_append, List.length_replicate] at this
  omega

theorem trans {h₁ h₂ : List Nat} {st₁ st₂ st₃ : EngineState} (g₁ : Grows enc h₁ st₁ st₂)
    (g₂ : Grows enc h₂ st₂ st₃) : Grows enc (h₁ ++ h₂) st₁ st₃ := by
  obtain ⟨xs, hf₁, hb₁, hc₁⟩ := g₁.finished
  obtain ⟨ys, hf₂, hb₂, hc₂⟩ := g₂.finished
  obtain ⟨k₁, hm₁⟩ := g₁.memos
  obtain ⟨k₂, hm₂⟩ := g₂.memos
  have hs₁ := g₁.size_le
  have hs₂ := g₂.size_le
  refine ⟨⟨xs ++ ys, by rw [hf₂, hf₁, List.append_assoc], hb₁.append hb₂, ?_⟩,
    ⟨k₁ + k₂, by rw [hm₂, hm₁, List.append_assoc, List.replicate_append_replicate]⟩,
    g₂.evals.trans g₁.evals⟩
  -- the cells of the two steps are consecutive ranges
  obtain ⟨a, ha⟩ := Nat.exists_eq_add_of_le hs₁
  obtain ⟨b, hb⟩ := Nat.exists_eq_add_of_le hs₂
  have hrange : List.range' st₁.memos.size (st₂.memos.size - st₁.memos.size) ++
      List.range' st₂.memos.size (st₃.memos.size - st₂.memos.size) =
      List.range' st₁.memos.size (st₃.memos.size - st₁.memos.size) := by
    rw [hb, ha, show st₁.memos.size + a - st₁.memos.size = a by omega,
      show st₁.memos.size + a + b - (st₁.memos.size + a) = b by omega,
      show st₁.memos.size + a + b - st₁.memos.size = a + b by omega]
    exact List.range'_append_1
  rw [← hrange, Instance.cells_append]
  have hswap : (Instance.cells xs ++ Instance.cells ys ++ (h₁ ++ h₂)).Perm
      ((Instance.cells xs ++ h₁) ++ (Instance.cells ys ++ h₂)) :=
    List.perm_iff_count.mpr fun x => by simp only [List.count_append]; omega
  exact hswap.trans (hc₁.append hc₂)

end Grows

def Builds {α : Type} (enc : List (ClassRef × Nat)) (x : EngineM α) (held : α → List Nat)
    (Q : α → Prop) : Prop :=
  ∀ st a st', x st = .ok (a, st') → Grows enc (held a) st st' ∧ Q a

namespace Builds

variable {enc : List (ClassRef × Nat)} {α β : Type} {x : EngineM α} {Q : α → Prop}

theorem of_pure {a : α} (h : Q a) : Builds enc (pure a) (fun _ => []) Q := by
  intro st b st' hx
  cases hx
  exact ⟨.refl _, h⟩

theorem of_fail {held : α → List Nat} (e : ConfigError) : Builds enc (fail e) held Q := by
  intro st a st' h
  cases h

theorem of_get {P : EngineState → Prop} (hP : ∀ st, P st) :
    Builds enc (get : EngineM EngineState) (fun _ => []) P := by
  intro st a st' h
  cases h
  exact ⟨.refl _, hP _⟩

theorem ofExcept {r : Except ConfigError α} (hr : ∀ a, r = .ok a → Q a) :
    Builds enc (EngineM.ofExcept r) (fun _ => []) Q := by
  cases r with
  | ok a => exact of_pure (hr a rfl)
  | error e => exact of_fail e

theorem bind {held : β → List Nat} {Q' : β → Prop} {f : α → EngineM β}
    (hx : Builds enc x (fun _ => []) Q) (hf : ∀ a, Q a → Builds enc (f a) held Q') :
    Builds enc (x >>= f) held Q' := by
  intro st b st' h
  obtain ⟨a, st₁, h₁, h₂⟩ := bind_ok h
  obtain ⟨g₁, ha⟩ := hx st a st₁ h₁
  obtain ⟨g₂, hb⟩ := hf a ha st₁ b st' h₂
  exact ⟨by simpa using g₁.trans g₂, hb⟩

theorem recover {held : α → List Nat} {y : EngineM α} (hx : Builds enc x held Q)
    (hy : Builds enc y held Q) : Builds enc (EngineM.recover x y) held Q := by
  intro st a st' h
  rcases recover_ok h with h | ⟨-, h⟩
  · exact hx st a st' h
  · exact hy st a st' h

theorem mono {held : α → List Nat} {Q' : α → Prop} (hx : Builds enc x held Q)
    (hQ : ∀ a, Q a → Q' a) : Builds enc x held Q' := fun st a st' h =>
  (hx st a st' h).imp_right (hQ a)

theorem within {held : α → List Nat} (k : String) (hx : Builds enc x held Q) :
    Builds enc (EngineM.within k x) held Q := by
  intro st a st' h
  simp only [EngineM.within] at h
  split at h
  · cases h
  · exact hx st a st' h

theorem mapM {f : α → EngineM β} {xs : List α} {R : β → Prop}
    (hf : ∀ a ∈ xs, Builds enc (f a) (fun _ => []) R) :
    Builds enc (xs.mapM f) (fun _ => []) (fun bs => ∀ b ∈ bs, R b) := by
  induction xs with
  | nil => exact of_pure fun _ h => nomatch h
  | cons x xs ih =>
    rw [List.mapM_cons]
    refine bind (hf x List.mem_cons_self) fun b hb => ?_
    refine bind (ih fun a ha => hf a (List.mem_cons_of_mem _ ha)) fun bs hbs => of_pure ?_
    intro y hy
    rcases List.mem_cons.mp hy with rfl | hy
    · exact hb
    · exact hbs y hy

theorem foldlM {f : β → α → EngineM β} {xs : List α} {cells : β → List Nat} {P : β → Prop}
    (hf : ∀ acc, P acc → ∀ a ∈ xs, ∀ st acc' st', f acc a st = .ok (acc', st') →
      ∃ h, cells acc' = cells acc ++ h ∧ Grows enc h st st' ∧ P acc')
    {init : β} (hinit : P init) :
    ∀ st r st', xs.foldlM f init st = .ok (r, st') →
      ∃ h, cells r = cells init ++ h ∧ Grows enc h st st' ∧ P r := by
  induction xs generalizing init with
  | nil =>
    intro st r st' h
    cases h
    exact ⟨[], by simp, .refl _, hinit⟩
  | cons x xs ih =>
    intro st r st' h
    rw [List.foldlM_cons] at h
    obtain ⟨acc, st₁, h₁, h₂⟩ := bind_ok h
    obtain ⟨h', hcells, g₁, hacc⟩ := hf init hinit x List.mem_cons_self st acc st₁ h₁
    obtain ⟨h'', hcells', g₂, hr⟩ :=
      ih (fun acc hacc a ha => hf acc hacc a (List.mem_cons_of_mem _ ha)) hacc st₁ r st' h₂
    exact ⟨h' ++ h'', by rw [hcells', hcells, List.append_assoc], g₁.trans g₂, hr⟩

theorem bind_keep {held : α → List Nat} {held' : β → List Nat} {Q' : β → Prop} {f : α → EngineM β}
    (hx : Builds enc x held Q)
    (hf : ∀ a, Q a → ∀ st b st', f a st = .ok (b, st') → st' = st ∧ held' b = held a ∧ Q' b) :
    Builds enc (x >>= f) held' Q' := by
  intro st b st' h
  obtain ⟨a, st₁, h₁, h₂⟩ := bind_ok h
  obtain ⟨g, ha⟩ := hx st a st₁ h₁
  obtain ⟨rfl, hheld, hb⟩ := hf a ha st₁ b st' h₂
  exact ⟨hheld ▸ g, hb⟩

end Builds

def Extends {β : Type} (enc : List (ClassRef × Nat)) (cells : β → List Nat) (P : β → Prop)
    (acc : β) (x : EngineM β) : Prop :=
  ∀ st acc' st', x st = .ok (acc', st') → ∃ h, cells acc' = cells acc ++ h ∧ Grows enc h st st' ∧ P acc'

namespace Extends

variable {enc : List (ClassRef × Nat)} {α β : Type} {cells : β → List Nat} {P : β → Prop} {acc : β}

theorem of_pure {acc' : β} (hc : cells acc' = cells acc) (hP : P acc') :
    Extends enc cells P acc (pure acc') := by
  intro st a st' h
  cases h
  exact ⟨[], by simp [hc], .refl _, hP⟩

theorem of_fail (e : ConfigError) : Extends enc cells P acc (fail e) := by
  intro st a st' h
  cases h

theorem bind {x : EngineM α} {Q : α → Prop} {f : α → EngineM β}
    (hx : Builds enc x (fun _ => []) Q) (hf : ∀ a, Q a → Extends enc cells P acc (f a)) :
    Extends enc cells P acc (x >>= f) := by
  intro st b st' h
  obtain ⟨a, st₁, h₁, h₂⟩ := bind_ok h
  obtain ⟨g₁, ha⟩ := hx st a st₁ h₁
  obtain ⟨hcells, hc, g₂, hb⟩ := hf a ha st₁ b st' h₂
  exact ⟨hcells, hc, by simpa using g₁.trans g₂, hb⟩

end Extends

theorem Builds.of_foldlM {enc : List (ClassRef × Nat)} {α β : Type} {f : β → α → EngineM β}
    {xs : List α} {cells : β → List Nat} {P : β → Prop}
    (hf : ∀ acc, P acc → ∀ a ∈ xs, Extends enc cells P acc (f acc a)) {init : β} (hinit : P init)
    (hcells : cells init = []) : Builds enc (xs.foldlM f init) cells P := by
  intro st r st' h
  obtain ⟨h', hr, g, hP⟩ := Builds.foldlM (fun acc hacc a ha => hf acc hacc a ha) hinit st r st' h
  rw [hcells, List.nil_append] at hr
  exact ⟨hr ▸ g, hP⟩

def Bound.NotParent : Bound → Prop
  | .parent _ _ => False
  | _ => True

def Bound.ResolvesIn (ctx : Context) : Bound → Prop
  | .parent c a => a = ctx.parentOf c
  | _ => True

theorem Bound.NotParent.resolvesIn {ctx : Context} {b : Bound} (h : b.NotParent) : b.ResolvesIn ctx := by
  cases b with
  | parent c a => exact h.elim
  | _ => trivial

def Absence.NotParent : Absence → Prop
  | .given b => b.NotParent
  | _ => True

theorem Shape.fromIdentity?_notParent {n : Node} : ∀ {shape : Shape} {b : Bound},
    shape.fromIdentity? n = some b → b.NotParent
  | .scalar .node, _, h => by cases h; trivial
  | .option s, b, h => by
    simp only [Shape.fromIdentity?, Option.map_eq_some_iff] at h
    obtain ⟨_, _, rfl⟩ := h
    trivial
  | .scalar .string, _, h | .scalar .bool, _, h | .scalar .char, _, h | .scalar .value, _, h
  | .scalar (.int _), _, h | .scalar .f32, _, h | .scalar .f64, _, h | .scalar (.enum _), _, h
  | .scalar (.list _), _, h | .list _, _, h | .unorderedSet _, _, h | .orderedSet _, _, h
  | .unorderedMap _ _, _, h | .orderedMap _ _, _, h | .guarded _ _, _, h | .atomic _, _, h
  | .nested _, _, h | .parent _, _, h => nomatch h

theorem Shape.fromParent?_resolvesIn {ctx : Context} {shape : Shape} {b : Bound}
    (h : shape.fromParent? ctx = some b) : b.ResolvesIn ctx := by
  cases shape <;> simp only [Shape.fromParent?, Option.some.injEq, reduceCtorEq] at h
  subst h
  rfl

def SlotsResolve (ctx : Context) (slots : List (String × Slot)) : Prop :=
  ∀ name b, (name, Slot.bound b) ∈ slots → b.ResolvesIn ctx

theorem SlotsResolve.nil (ctx : Context) : SlotsResolve ctx [] := fun _ _ h => nomatch h

theorem SlotsResolve.append {ctx : Context} {a b : List (String × Slot)} (ha : SlotsResolve ctx a)
    (hb : SlotsResolve ctx b) : SlotsResolve ctx (a ++ b) := by
  intro name x h
  rcases List.mem_append.mp h with h | h
  · exact ha name x h
  · exact hb name x h

theorem SlotsResolve.single {ctx : Context} {name : String} {s : Slot}
    (h : ∀ b, s = .bound b → b.ResolvesIn ctx) : SlotsResolve ctx [(name, s)] := by
  intro n b hm
  cases List.mem_singleton.mp hm
  exact h b rfl

theorem SlotsResolve.parentsIn {ctx : Context} {slots : List (String × Slot)}
    (h : SlotsResolve ctx slots) : ParentsIn (ctx.lineage.drop 1) slots := fun name c a hm =>
  h name (.parent c a) hm

namespace EngineM

@[simp] theorem freshId_apply (st : EngineState) :
    freshId st = .ok (st.nextId, { st with nextId := st.nextId + 1 }) := rfl

@[simp] theorem freshMemo_apply (st : EngineState) :
    freshMemo st = .ok (st.memos.size, { st with memos := st.memos.push .pending }) := rfl

@[simp] theorem publish_apply (i : Instance) (st : EngineState) :
    publish i st = .ok ((), { st with finished := st.finished.push i }) := rfl

end EngineM

theorem grows_freshMemo {enc : List (ClassRef × Nat)} (st : EngineState) :
    Grows enc [st.memos.size] st { st with memos := st.memos.push .pending } := by
  refine ⟨⟨[], by simp, .nil, ?_⟩, ⟨1, by simp⟩, rfl⟩
  simp

theorem grows_publish {enc : List (ClassRef × Nat)} {st st₁ : EngineState} {n : Node} {c : ClassRef}
    {style : BindingStyle} {slots : List (String × Slot)} (hlt : enc.length < depthLimit)
    (hkids : Grows ((c, st.nextId) :: enc) (slotCells slots) { st with nextId := st.nextId + 1 } st₁)
    (hres : SlotsResolve ⟨n, (c, st.nextId) :: enc, c⟩ slots) :
    Grows enc [] st
      { st₁ with finished := st₁.finished.push ⟨c, st.nextId, enc.length + 1, style, slots⟩ } := by
  obtain ⟨kids, hf, hb, hc⟩ := hkids.finished
  refine ⟨⟨kids ++ [⟨c, st.nextId, enc.length + 1, style, slots⟩], ?_, ?_, ?_⟩, hkids.memos,
    hkids.evals⟩
  · simp only [Array.toList_push, hf, List.append_assoc]
  · exact .tree hlt rfl rfl hres.parentsIn hb .nil
  · simpa [Instance.cells, List.perm_append_comm.trans] using hc.trans (by rfl)

/-- Every construction function, at one fuel, grows the state by a forest built under the lineage it
works in. -/
structure Forests (cat : Catalogue) (fuel : Nat) : Prop where
  inst : ∀ c n enc, Builds enc (materializeIn cat fuel c n enc) (fun _ => []) (fun _ => True)
  fields : ∀ ctx s, Builds ctx.lineage (constructFields cat fuel ctx s) slotCells (SlotsResolve ctx)
  getters : ∀ ctx s, Builds ctx.lineage (constructGetters cat fuel ctx s) slotCells (SlotsResolve ctx)
  pop : ∀ ctx queue shape absence, Absence.NotParent absence →
    Builds ctx.lineage (popField cat fuel ctx queue shape absence) (fun _ => [])
      (fun r => r.2.ResolvesIn ctx)
  field : ∀ ctx d shape absence, Absence.NotParent absence →
    Builds ctx.lineage (bindField cat fuel ctx d shape absence) (fun _ => []) (Bound.ResolvesIn ctx)
  value : ∀ ctx shape v,
    Builds ctx.lineage (bindValue cat fuel ctx shape v) (fun _ => []) Bound.NotParent
  zero : ∀ ctx shape,
    Builds ctx.lineage (zeroValue cat fuel ctx shape) (fun _ => []) (∀ b ∈ ·, Bound.NotParent b)
  whole : ∀ ctx shape n,
    Builds ctx.lineage (fromNode cat fuel ctx shape n) (fun _ => []) Bound.NotParent

namespace Forests

variable {cat : Catalogue} {fuel : Nat}

theorem items_builds {ctx : Context} {s : Shape} (shape : Shape)
    (hv : ∀ x, Builds ctx.lineage (bindValue cat fuel ctx s x) (fun _ => []) Bound.NotParent)
    (v : Value) :
    Builds ctx.lineage (match itemsOf? v with
        | none => fail (ConfigError.conversion v.display v.kind shape.typePath)
        | some items => List.mapM (fun x => within ("[" ++ toString x.snd ++ "]")
            (bindValue cat fuel ctx s x.fst)) items.zipIdx) (fun _ => []) (fun _ => True) := by
  cases itemsOf? v with
  | none => exact .of_fail _
  | some items => exact (Builds.mapM fun xi _ => (hv xi.1).within _).mono fun _ _ => trivial

theorem entries_builds {ctx : Context} {k : Target} {s : Shape} (shape : Shape)
    (hv : ∀ x, Builds ctx.lineage (bindValue cat fuel ctx s x) (fun _ => []) Bound.NotParent)
    (v : Value) :
    Builds ctx.lineage (match v with
        | .node entries => entries.mapM fun x => within x.fst (do
            let bk ← ofExcept (k.read (.str x.fst))
            let b ← bindValue cat fuel ctx s x.snd
            pure (bk, b))
        | _ => fail (ConfigError.conversion v.display v.kind shape.typePath)) (fun _ => [])
      (fun _ => True) := by
  cases v with
  | node entries =>
    refine (Builds.mapM (R := fun _ => True) fun x _ => Builds.within _ ?_).mono fun _ _ => trivial
    exact (Builds.ofExcept (Q := fun _ => True) fun _ _ => trivial).bind fun _ _ =>
      (hv x.2).bind fun _ _ => Builds.of_pure (Q := fun _ => True) trivial
  | _ => exact .of_fail _

theorem value_succ (ih : Forests cat fuel) (ctx : Context) (shape : Shape) (v : Value) :
    Builds ctx.lineage (bindValue cat (fuel + 1) ctx shape v) (fun _ => []) Bound.NotParent := by
  -- every result is built around its elements; a nested instance is built under this lineage
  cases shape with
  | scalar t | atomic t =>
    simp only [bindValue]
    exact (Builds.ofExcept (Q := fun _ => True) fun _ _ => trivial).bind fun _ _ => .of_pure trivial
  | option s =>
    simp only [bindValue]
    exact (ih.value ctx s v).bind fun _ _ => .of_pure trivial
  | guarded l s =>
    simp only [bindValue]
    exact ih.value ctx s v
  | list s =>
    simp only [bindValue]
    exact (items_builds (.list s) (ih.value ctx s) v).bind fun _ _ => .of_pure trivial
  | unorderedSet s =>
    simp only [bindValue]
    exact (items_builds (.unorderedSet s) (ih.value ctx s) v).bind fun _ _ =>
      (Builds.of_get (P := fun _ => True) fun _ => trivial).bind fun _ _ => .of_pure trivial
  | orderedSet s =>
    simp only [bindValue]
    refine (items_builds (.orderedSet s) (ih.value ctx s) v).bind fun _ _ => ?_
    cases s <;> exact .of_pure trivial
  | unorderedMap k s =>
    simp only [bindValue]
    exact (entries_builds (.unorderedMap k s) (ih.value ctx s) v).bind fun _ _ => .of_pure trivial
  | orderedMap k s =>
    simp only [bindValue]
    exact (entries_builds (.orderedMap k s) (ih.value ctx s) v).bind fun _ _ => .of_pure trivial
  | nested c =>
    simp only [bindValue]
    cases v with
    | node n => exact (ih.inst c n ctx.lineage).bind fun _ _ => .of_pure trivial
    | _ => exact .of_fail _
  | parent c =>
    simp only [bindValue]
    exact .of_fail _

theorem zero_succ (ih : Forests cat fuel) (ctx : Context) (shape : Shape) :
    Builds ctx.lineage (zeroValue cat (fuel + 1) ctx shape) (fun _ => [])
      (∀ b ∈ ·, Bound.NotParent b) := by
  cases shape with
  | guarded l s =>
    simp only [zeroValue]
    exact ih.zero ctx s
  | nested c =>
    simp only [zeroValue]
    refine (ih.inst c [] ctx.lineage).bind fun _ _ => .of_pure ?_
    intro b hb
    cases Option.mem_def.mp hb
    trivial
  | scalar t | atomic t =>
    simp only [zeroValue]
    refine .of_pure fun b hb => ?_
    obtain ⟨x, -, rfl⟩ := Option.map_eq_some_iff.mp (Option.mem_def.mp hb)
    trivial
  | parent c =>
    simp only [zeroValue]
    exact .of_pure fun b hb => absurd hb (Option.not_mem_none b)
  | option _ | list _ | orderedSet _ | unorderedSet _ | unorderedMap _ _ | orderedMap _ _ =>
    simp only [zeroValue]
    refine .of_pure fun b hb => ?_
    cases Option.mem_def.mp hb
    trivial

theorem whole_succ (ih : Forests cat fuel) (ctx : Context) (shape : Shape) (n : Node) :
    Builds ctx.lineage (fromNode cat (fuel + 1) ctx shape n) (fun _ => []) Bound.NotParent := by
  cases shape with
  | nested c =>
    simp only [fromNode]
    exact (ih.inst c n ctx.lineage).bind fun _ _ => .of_pure trivial
  | option s =>
    simp only [fromNode]
    exact (ih.whole ctx s n).bind fun _ _ => .of_pure trivial
  | scalar t =>
    cases t with
    | node =>
      simp only [fromNode]
      exact .of_pure trivial
    | _ =>
      simp only [fromNode]
      exact .of_fail _
  | _ =>
    simp only [fromNode]
    exact .of_fail _

theorem field_succ (ih : Forests cat fuel) (ctx : Context) (d : Descriptor) (shape : Shape)
    (absence : Absence) (habs : absence.NotParent) :
    Builds ctx.lineage (bindField cat (fuel + 1) ctx d shape absence) (fun _ => [])
      (Bound.ResolvesIn ctx) := by
  -- identity and parent members come from the node and the lineage, the rest from a value
  cases hk : d.kind with
  | identity =>
    simp only [bindField, hk]
    cases hb : shape.fromIdentity? ctx.node with
    | some b => exact .of_pure (Shape.fromIdentity?_notParent hb).resolvesIn
    | none => exact .of_fail _
  | parentRef =>
    simp only [bindField, hk]
    cases hb : shape.fromParent? ctx with
    | some b => exact .of_pure (Shape.fromParent?_resolvesIn hb)
    | none => exact .of_fail _
  | _ =>
    simp only [bindField, hk]
    cases ctx.node.lookup d.logicalName with
    | some x => exact ((ih.value ctx shape x).within _).mono fun _ hb => hb.resolvesIn
    | none =>
      cases absence with
      | require => exact .of_fail _
      | zero =>
        refine ((ih.zero ctx shape).within _).bind fun b? hb => ?_
        cases b? with
        | some b => exact .of_pure (hb b rfl).resolvesIn
        | none => exact .of_fail _
      | given b => exact .of_pure (Bound.NotParent.resolvesIn habs)
      | convert v => exact ((ih.value ctx shape v).within _).mono fun _ hb => hb.resolvesIn
      | fallback n => exact ((ih.whole ctx shape n).within _).mono fun _ hb => hb.resolvesIn

theorem pop_succ (ih : Forests cat fuel) (ctx : Context) (queue : FieldQueue) (shape : Shape)
    (absence : Absence) (habs : absence.NotParent) :
    Builds ctx.lineage (popField cat (fuel + 1) ctx queue shape absence) (fun _ => [])
      (fun r => r.2.ResolvesIn ctx) := by
  cases hq : queue.pending with
  | nil =>
    simp only [popField, hq]
    exact .of_fail _
  | cons d rest =>
    simp only [popField, hq]
    exact (ih.field ctx d shape absence habs).bind fun _ hb => .of_pure hb

theorem absence_builds (ih : Forests cat fuel) (ctx : Context) (shape : Shape) (rule : PopRule) :
    Builds ctx.lineage (rule.absence (bindValue cat fuel ctx shape)) (fun _ => [])
      Absence.NotParent := by
  cases rule with
  | preset v => exact (ih.value ctx shape v).bind fun b hb => .of_pure hb
  | _ => exact .of_pure trivial

theorem step_extends (ih : Forests cat fuel) (ctx : Context) (acc : FieldQueue × List (String × Slot))
    (hacc : SlotsResolve ctx acc.2) (step : FieldStep) :
    Extends ctx.lineage (fun acc => slotCells acc.2) (fun acc => SlotsResolve ctx acc.2) acc
      (FieldStep.run (bindValue cat fuel ctx) (popField cat fuel ctx) acc step) := by
  cases step with
  | blank name =>
    exact .of_pure (by simp) (hacc.append (.single fun _ h => nomatch h))
  | pop name shape rule =>
    rw [FieldStep.run]
    refine Extends.bind (absence_builds ih ctx shape rule) fun absence hnp =>
      Extends.bind (ih.pop ctx acc.1 shape absence hnp) fun r hr => ?_
    obtain ⟨queue, b⟩ := r
    cases name with
    | some n => exact .of_pure (by simp) (hacc.append (.single fun _ h => by cases h; exact hr))
    | none => exact .of_pure rfl hacc
  | discard shape rule =>
    rw [FieldStep.run]
    refine Extends.bind (absence_builds ih ctx shape rule) fun absence hnp => ?_
    -- the pop's value is dropped; a recovered failure goes back to the state before the pop
    have hpop : Builds ctx.lineage (popField cat fuel ctx acc.1 shape absence >>= fun r => pure r.1)
        (fun _ => []) fun _ => True :=
      (ih.pop ctx acc.1 shape absence hnp).bind fun _ _ => .of_pure trivial
    exact Extends.bind (hpop.recover (.of_pure trivial)) fun _ _ => .of_pure rfl hacc

theorem fields_succ (ih : Forests cat fuel) (ctx : Context) (s : FieldSchema) :
    Builds ctx.lineage (constructFields cat (fuel + 1) ctx s) slotCells (SlotsResolve ctx) := by
  rw [constructFields]
  refine (Builds.ofExcept (Q := fun _ => True) fun _ _ => trivial).bind fun ds _ => ?_
  refine (Builds.of_foldlM (fun acc hacc step _ => step_extends ih ctx acc hacc step)
    (SlotsResolve.nil ctx) rfl).bind_keep fun r hr st slots st' h => ?_
  -- the arity check only decides whether the members are returned
  change (if r.1.pending.isEmpty = true then pure r.2
    else fail (.arityMismatch ctx.cls.path r.1.declared r.1.consumed)) st = _ at h
  by_cases hempty : r.1.pending.isEmpty = true
  · rw [if_pos hempty] at h
    cases h
    exact ⟨rfl, rfl, hr⟩
  · rw [if_neg hempty] at h
    cases h

theorem memo_extends {enc : List (ClassRef × Nat)} {ctx : Context} {slots : List (String × Slot)}
    (hslots : SlotsResolve ctx slots) (name : String) :
    Extends enc slotCells (SlotsResolve ctx) slots
      (freshMemo >>= fun c => pure (slots ++ [(name, .memo c)])) := by
  intro st r st' h
  cases h
  exact ⟨[st.memos.size], by simp, grows_freshMemo st,
    hslots.append (.single fun _ h => nomatch h)⟩

theorem bound_extends {enc : List (ClassRef × Nat)} {ctx : Context} {slots : List (String × Slot)}
    (hslots : SlotsResolve ctx slots) (name : String) {b : Bound} (hb : b.ResolvesIn ctx) :
    Extends enc slotCells (SlotsResolve ctx) slots (pure (slots ++ [(name, .bound b)])) :=
  .of_pure (by simp) (hslots.append (.single fun _ h => by cases h; exact hb))

theorem descriptor_extends {enc : List (ClassRef × Nat)} {β : Type} {cells : β → List Nat}
    {P : β → Prop} {acc : β} {ds : List Descriptor} {c : ClassRef} {name : String}
    {f : Descriptor → EngineM β} (hf : ∀ d, Extends enc cells P acc (f d)) :
    Extends enc cells P acc ((match List.find? (fun x => x.member == name) ds.reverse with
        | some d => pure d
        | none => fail (ConfigError.markerMisuse c.path name "is not a declared property")) >>= f) := by
  cases List.find? (fun x => x.member == name) ds.reverse with
  | none => exact Extends.bind (Builds.of_fail (Q := fun _ => True) _) fun d _ => hf d
  | some d => exact Extends.bind (Builds.of_pure (Q := fun _ => True) trivial) fun d _ => hf d

theorem expect_extends {enc : List (ClassRef × Nat)} {β : Type} {cells : β → List Nat}
    {P : β → Prop} {acc : β} {ds : List Descriptor} {c : ClassRef} {name : String}
    {k : BindingKind} {f : Descriptor → EngineM β} (hf : ∀ d, Extends enc cells P acc (f d)) :
    Extends enc cells P acc (((match List.find? (fun x => x.member == name) ds.reverse with
          | some d => pure d
          | none => fail (ConfigError.markerMisuse c.path name "is not a declared property")) >>=
        fun d => if (d.kind == k) = true then pure d
          else fail (ConfigError.markerMisuse c.path name
            ("is declared as " ++ d.kind.name ++ " but bound as " ++ k.name))) >>= f) := by
  have hexpect : Builds enc ((match List.find? (fun x => x.member == name) ds.reverse with
          | some d => pure d
          | none => fail (ConfigError.markerMisuse c.path name "is not a declared property")) >>=
        fun d => if (d.kind == k) = true then pure d
          else fail (ConfigError.markerMisuse c.path name
            ("is declared as " ++ d.kind.name ++ " but bound as " ++ k.name))) (fun _ => [])
        (fun _ => True) := by
    refine Builds.bind (Q := fun _ => True) ?_ fun d _ => ?_
    · cases List.find? (fun x => x.member == name) ds.reverse with
      | none => exact .of_fail _
      | some d => exact .of_pure trivial
    · by_cases hk : (d.kind == k) = true
      · rw [if_pos hk]
        exact .of_pure trivial
      · rw [if_neg hk]
        exact .of_fail _
  exact Extends.bind hexpect fun d _ => hf d

theorem getters_succ (ih : Forests cat fuel) (ctx : Context) (s : GetterSchema) :
    Builds ctx.lineage (constructGetters cat (fuel + 1) ctx s) slotCells (SlotsResolve ctx) := by
  simp only [constructGetters]
  refine (Builds.ofExcept (Q := fun _ => True) fun _ _ => trivial).bind fun ds _ =>
    Builds.of_foldlM (fun slots hslots g _ => ?_) (SlotsResolve.nil ctx) rfl
  simp only [bindGetter]
  -- one case per way a getter is bound: a bound value, a memo cell, or nothing
  cases hb : g.binding with
  | none => exact .of_pure rfl hslots
  | some b =>
    cases b with
    | property =>
      refine descriptor_extends fun d => ?_
      cases ctx.node.lookup d.logicalName with
      | some x =>
        exact Extends.bind ((ih.value ctx _ x).within _) fun b hb =>
          bound_extends hslots _ hb.resolvesIn
      | none =>
        refine Extends.bind ((ih.zero ctx _).within _) fun b? hb => ?_
        cases b? with
        | some b => exact bound_extends hslots _ (hb b rfl).resolvesIn
        | none => exact .of_fail _
    | defaulted =>
      refine descriptor_extends fun d => ?_
      cases ctx.node.lookup d.logicalName with
      | some x =>
        exact Extends.bind ((ih.value ctx _ x).within _) fun b hb =>
          bound_extends hslots _ hb.resolvesIn
      | none => exact memo_extends hslots _
    | computed => exact expect_extends fun _ => memo_extends hslots _
    | identity =>
      refine expect_extends fun d => ?_
      cases hid : g.valueShape.fromIdentity? ctx.node with
      | some b => exact bound_extends hslots _ (Shape.fromIdentity?_notParent hid).resolvesIn
      | none => exact .of_fail _
    | parent => exact expect_extends fun _ => bound_extends hslots _ rfl

theorem inst_succ (ih : Forests cat fuel) (c : ClassRef) (n : Node) (enc : List (ClassRef × Nat)) :
    Builds enc (materializeIn cat (fuel + 1) c n enc) (fun _ => []) (fun _ => True) := by
  intro st id st' h
  simp only [materializeIn] at h
  split at h
  · cases h
  · next hlt =>
    obtain ⟨_, st₁, hid, h⟩ := bind_ok h
    cases hid
    -- the constructor grows the state under the new lineage, then the instance is recorded
    have hpublish : ∀ (style : BindingStyle) (slots : List (String × Slot)) st₂,
        Grows ((c, st.nextId) :: enc) (slotCells slots) { st with nextId := st.nextId + 1 } st₂ →
        SlotsResolve ⟨n, (c, st.nextId) :: enc, c⟩ slots →
        (publish ⟨c, st.nextId, ((c, st.nextId) :: enc).length, style, slots⟩ >>=
          fun _ => (pure st.nextId : EngineM Nat)) st₂ = .ok (id, st') →
        Grows enc [] st st' ∧ True := by
      intro style slots st₂ hg hres hp
      cases hp
      exact ⟨grows_publish (Nat.lt_of_not_le hlt) hg hres, trivial⟩
    cases hs : cat.schema c with
    | fields s =>
      rw [hs] at h
      obtain ⟨slots, st₂, hslots, h⟩ := bind_ok h
      obtain ⟨hg, hres⟩ := ih.fields ⟨n, (c, st.nextId) :: enc, c⟩ s _ _ _ hslots
      exact hpublish _ slots st₂ hg hres h
    | getters s =>
      rw [hs] at h
      obtain ⟨slots, st₂, hslots, h⟩ := bind_ok h
      obtain ⟨hg, hres⟩ := ih.getters ⟨n, (c, st.nextId) :: enc, c⟩ s _ _ _ hslots
      exact hpublish _ slots st₂ hg hres h

theorem of_fuel_zero (cat : Catalogue) : Forests cat 0 where
  inst _ _ _ _ _ _ h := nomatch h
  fields _ _ _ _ _ h := nomatch h
  getters _ _ _ _ _ h := nomatch h
  pop _ _ _ _ _ _ _ _ h := nomatch h
  field _ _ _ _ _ _ _ _ h := nomatch h
  value _ _ _ _ _ _ h := nomatch h
  zero _ _ _ _ _ h := nomatch h
  whole _ _ _ _ _ _ h := nomatch h

theorem succ (ih : Forests cat fuel) : Forests cat (fuel + 1) where
  inst := ih.inst_succ
  fields := ih.fields_succ
  getters := ih.getters_succ
  pop := ih.pop_succ
  field := ih.field_succ
  value := ih.value_succ
  zero := ih.zero_succ
  whole := ih.whole_succ

end Forests

theorem forests (cat : Catalogue) : ∀ fuel, Forests cat fuel
  | 0 => Forests.of_fuel_zero cat
  | fuel + 1 => (forests cat fuel).succ

theorem materializeIn_built {cat : Catalogue} {fuel : Nat} {root : ClassRef} {node : Node}
    {id : Nat} {st : EngineState} (h : materializeIn cat fuel root node [] {} = .ok (id, st)) :
    Built [] 0 st.nextId st.finished.toList := by
  obtain ⟨⟨xs, hf, hb, -⟩, -, -⟩ := ((forests cat fuel).inst root node [] {} id st h).1
  simpa [hf] using hb

end ConfigTree
