import ConfigTree.Proofs.Binding.Demand
import ConfigTree.Proofs.Binding.Forest

namespace ConfigTree

open EngineM

namespace MemoCell.Advances

theorem of_ready {j : Json} {b : Option MemoCell} (h : MemoCell.Advances (some (.ready j)) b) :
    b = some (.ready j) := by
  match b, h with
  | some (.ready _), h => rw [show _ = j from h.symm]

theorem eq_pending {a : Option MemoCell} (h : MemoCell.Advances a (some .pending)) :
    a = some .pending := by
  match a, h with
  | some .pending, _ => rfl

theorem isSome {a b : Option MemoCell} (h : MemoCell.Advances a b) (ha : a.isSome) : b.isSome := by
  match a, b, h with
  | some .pending, some .pending, _ | some .pending, some (.ready _), _
  | some .evaluating, some .evaluating, _ | some (.ready _), some (.ready _), _ => rfl

end MemoCell.Advances

variable {cat : Catalogue} {r : EngineState}

/-- Every memo cell a getter is bound to exists in the state. -/
def Allocated (cat : Catalogue) (r st : EngineState) : Prop :=
  ∀ u c, MemoAt cat r u c → c < st.memos.size

theorem Allocated.of_evolves {st st' : EngineState} (h : Allocated cat r st) (e : st.Evolves st') :
    Allocated cat r st' := by
  intro u c hu
  have hc := h u c hu
  have hsome := (e.memos c).isSome (by simp [hc])
  simpa using hsome

/-- What a run that returns did with memo cells: it evolved the state, and its log is one entry for
each getter of `memo`, whose cells are distinct, were pending and now hold values, and one for each
getter without binding of `other`. -/
structure Logged (cat : Catalogue) (r st st' : EngineState) : Prop where
  evolves : st.Evolves st'
  runs : ∃ (memo other : List GetterRef) (log : List String), st'.evals.toList = st.evals.toList ++ log ∧
    log.Perm ((memo ++ other).map (entryOf r)) ∧
    (∀ u ∈ memo, ∃ c, MemoAt cat r u c ∧ st.memos[c]? = some .pending ∧
      ∃ j, st'.memos[c]? = some (.ready j)) ∧
    memo.Pairwise (fun u v => ∀ c, MemoAt cat r u c → ¬ MemoAt cat r v c) ∧
    ∀ u ∈ other, Unbound cat r u

namespace Logged

theorem refl (st : EngineState) : Logged cat r st st :=
  ⟨.refl st, [], [], [], by simp, by simp, by simp, .nil, by simp⟩

theorem trans {st₁ st₂ st₃ : EngineState} (h₁ : Logged cat r st₁ st₂) (h₂ : Logged cat r st₂ st₃) :
    Logged cat r st₁ st₃ := by
  obtain ⟨m₁, o₁, l₁, hl₁, hp₁, hm₁, hd₁, ho₁⟩ := h₁.runs
  obtain ⟨m₂, o₂, l₂, hl₂, hp₂, hm₂, hd₂, ho₂⟩ := h₂.runs
  refine ⟨h₁.evolves.trans h₂.evolves, m₁ ++ m₂, o₁ ++ o₂, l₁ ++ l₂, by rw [hl₂, hl₁,
    List.append_assoc], ?_, fun u hu => ?_, ?_, fun u hu => ?_⟩
  · -- the runs of the two parts, in either order
    refine (hp₁.append hp₂).trans (List.perm_iff_count.mpr fun e => ?_)
    simp only [List.map_append, List.count_append]
    omega
  · rcases List.mem_append.mp hu with hu | hu
    · -- a cell that got its value in the first part keeps it
      obtain ⟨c, hc, hpend, j, hj⟩ := hm₁ u hu
      have hc₃ := h₂.evolves.memos c
      rw [hj] at hc₃
      exact ⟨c, hc, hpend, j, hc₃.of_ready⟩
    · -- a cell still pending after the first part was pending before it
      obtain ⟨c, hc, hpend, j, hj⟩ := hm₂ u hu
      exact ⟨c, hc, (hpend ▸ h₁.evolves.memos c).eq_pending, j, hj⟩
  · refine List.pairwise_append.mpr ⟨hd₁, hd₂, fun u hu v hv c hcu hcv => ?_⟩
    obtain ⟨c₁, hc₁, -, j, hj⟩ := hm₁ u hu
    obtain ⟨c₂, hc₂, hpend, -⟩ := hm₂ v hv
    rw [← hcu.cell_unique hc₁, hcv.cell_unique hc₂, hpend] at hj
    cases hj
  · rcases List.mem_append.mp hu with hu | hu
    · exact ho₁ u hu
    · exact ho₂ u hu

theorem unbound {st : EngineState} {u : GetterRef} (hu : Unbound cat r u) :
    Logged cat r st { st with evals := st.evals.push (entryOf r u) } :=
  ⟨.logEval st _, [], [u], [entryOf r u], by simp, by simp, by simp, .nil, by simpa using hu⟩

end Logged

def Panicked (cat : Catalogue) (r : EngineState) (T : GetterRef → Prop) (st : EngineState)
    (msg : String) : Prop :=
  ∃ t v c, T t ∧ Relation.ReflTransGen (Demands cat r) t v ∧ MemoAt cat r v c ∧
    msg = selfDependence v.2 ∧ (st.memos[c]? = some .evaluating ∨ Relation.TransGen (Demands cat r) v v)

namespace Panicked

variable {T T' : GetterRef → Prop} {st : EngineState} {msg : String}

theorem mono (h : Panicked cat r T st msg) (hT : ∀ t, T t → T' t) : Panicked cat r T' st msg := by
  obtain ⟨t, v, c, ht, htv, hv, hmsg, hc⟩ := h
  exact ⟨t, v, c, hT t ht, htv, hv, hmsg, hc⟩

theorem of_evolves {st₁ : EngineState} (e : st.Evolves st₁) (h : Panicked cat r T st₁ msg) :
    Panicked cat r T st msg := by
  obtain ⟨t, v, c, ht, htv, hv, hmsg, hc⟩ := h
  exact ⟨t, v, c, ht, htv, hv, hmsg, hc.imp_left (e.memos c).evaluating_iff.mpr⟩

theorem demanded {u : GetterRef} (hT : ∀ t, T t → Demands cat r u t) (h : Panicked cat r T st msg) :
    Panicked cat r (· = u) st msg := by
  obtain ⟨t, v, c, ht, htv, hv, hmsg, hc⟩ := h
  exact ⟨u, v, c, rfl, .head (hT t ht) htv, hv, hmsg, hc⟩

end Panicked

def Sound (cat : Catalogue) (r : EngineState) (T : GetterRef → Prop) {α : Type} (x : EngineM α) :
    Prop :=
  ∀ st, st.finished = r.finished → Allocated cat r st → ReadyAcyclic cat r st →
    (∀ a st', x st = .ok (a, st') →
      Logged cat r st st' ∧ (∀ t, T t → NoCycleFrom cat r t) ∧ ReadyAcyclic cat r st') ∧
    ∀ msg, x st = .error (.panic msg) → Panicked cat r T st msg

namespace Sound

variable {α β : Type} {T T₁ T₂ : GetterRef → Prop} {x : EngineM α}

theorem of_pure (hT : ∀ t, T t → NoCycleFrom cat r t) (a : α) : Sound cat r T (pure a : EngineM α) := by
  intro st _ _ hready
  refine ⟨fun b st' h => ?_, fun msg h => by cases h⟩
  cases h
  exact ⟨.refl st, hT, hready⟩

theorem of_exhausted : Sound cat r T (throw .exhausted : EngineM α) :=
  fun _ _ _ _ => ⟨fun _ _ h => (by cases h), fun _ h => (by cases h)⟩

theorem congr (hT : ∀ t, T t ↔ T' t) (hx : Sound cat r T x) : Sound cat r T' x := by
  intro st hst halloc hready
  obtain ⟨hok, hpanic⟩ := hx st hst halloc hready
  exact ⟨fun a st' h => (hok a st' h).imp_right fun ⟨hT', hr⟩ => ⟨fun t ht => hT' t ((hT t).mpr ht), hr⟩,
    fun msg h => (hpanic msg h).mono fun t ht => (hT t).mp ht⟩

theorem bind {f : α → EngineM β} (hx : Sound cat r T₁ x) (hf : ∀ a, Sound cat r T₂ (f a)) :
    Sound cat r (fun t => T₁ t ∨ T₂ t) (x >>= f) := by
  intro st hst halloc hready
  constructor
  · intro b st' h
    obtain ⟨a, st₁, h₁, h₂⟩ := bind_ok h
    obtain ⟨hl₁, hT₁, hready₁⟩ := (hx st hst halloc hready).1 a st₁ h₁
    have hst₁ := hl₁.evolves.finished.trans hst
    obtain ⟨hl₂, hT₂, hready₂⟩ :=
      (hf a st₁ hst₁ (halloc.of_evolves hl₁.evolves) hready₁).1 b st' h₂
    exact ⟨hl₁.trans hl₂, fun t ht => ht.elim (hT₁ t) (hT₂ t), hready₂⟩
  · intro msg h
    rcases bind_error h with h₁ | ⟨a, st₁, h₁, h₂⟩
    · exact ((hx st hst halloc hready).2 msg h₁).mono fun _ => .inl
    · -- the first part returned, and the second panicked from where it stopped
      obtain ⟨hl₁, -, hready₁⟩ := (hx st hst halloc hready).1 a st₁ h₁
      have hst₁ := hl₁.evolves.finished.trans hst
      exact (((hf a st₁ hst₁ (halloc.of_evolves hl₁.evolves) hready₁).2 msg h₂).of_evolves
        hl₁.evolves).mono fun _ => .inr

theorem map {g : α → β} (hx : Sound cat r T x) : Sound cat r T (x >>= fun a => pure (g a)) :=
  (hx.bind fun a => of_pure (T := fun _ => False) (fun _ h => h.elim) (g a)).congr fun _ =>
    ⟨fun h => h.resolve_right id, .inl⟩

theorem get_bind {f : EngineState → EngineM α}
    (hf : ∀ st, st.finished = r.finished → Sound cat r T (f st)) : Sound cat r T (get >>= f) := by
  intro st hst halloc hready
  exact hf st hst st hst halloc hready

theorem mapM {f : α → EngineM β} {T : α → GetterRef → Prop} (hf : ∀ a, Sound cat r (T a) (f a)) :
    ∀ xs : List α, Sound cat r (fun t => ∃ a ∈ xs, T a t) (xs.mapM f)
  | [] => of_pure (fun _ ⟨_, ha, _⟩ => absurd ha List.not_mem_nil) []
  | x :: xs => by
    rw [List.mapM_cons]
    refine ((hf x).bind fun _ => (mapM hf xs).map).congr fun t => ?_
    simp

theorem demanded {u : GetterRef} (hT : ∀ t, T t ↔ Demands cat r u t) (hx : Sound cat r T x) :
    Sound cat r (· = u) x := by
  intro st hst halloc hready
  obtain ⟨hok, hpanic⟩ := hx st hst halloc hready
  refine ⟨fun a st' h => ?_, fun msg h => (hpanic msg h).demanded fun t ht => (hT t).mp ht⟩
  obtain ⟨hl, hT', hr⟩ := hok a st' h
  exact ⟨hl, fun t ht => ht ▸ NoCycleFrom.of_demands fun t' ht' => hT' t' ((hT t').mpr ht'), hr⟩

end Sound

theorem Sound.of_logEval {u : GetterRef} (hu : Unbound cat r u) :
    Sound cat r (fun _ => False) (logEval (entryOf r u)) := by
  intro st _ _ hready
  refine ⟨fun a st' h => ?_, fun msg h => by cases h⟩
  cases h
  exact ⟨.unbound hu, fun _ h => h.elim, hready⟩

theorem demands_iff {self : Nat} {name : String} {i : Instance} {s : GetterSchema} {g : GetterDecl}
    {t : GetterRef} (hi : r.instance? self = some i) (hs : cat.schema i.cls = .getters s)
    (hg : s.find? name = some g) :
    Demands cat r (self, name) t ↔
      ((g.binding = none ∨ ∃ c, i.slots.lookup name = some (.memo c)) ∧ BodyCalls r self g.body t) ∨
      (g.binding ≠ none ∧ ∃ b, i.slots.lookup name = some (.bound b) ∧ BoundCalls r b t) := by
  constructor
  · intro h
    cases h with
    | body hi' hs' hg' hrun hb =>
      rw [hi] at hi'; cases hi'; rw [hs] at hs'; cases hs'; rw [hg] at hg'; cases hg'
      exact .inl ⟨hrun, hb⟩
    | bound hi' hs' hg' hbind hl hb =>
      rw [hi] at hi'; cases hi'; rw [hs] at hs'; cases hs'; rw [hg] at hg'; cases hg'
      exact .inr ⟨hbind, _, hl, hb⟩
  · rintro (⟨hrun, hb⟩ | ⟨hbind, b, hl, hb⟩)
    · exact .body hi hs hg hrun hb
    · exact .bound hi hs hg hbind hl hb

theorem not_demands {self : Nat} {name : String} {t : GetterRef}
    (h : ∀ i s g, r.instance? self = some i → cat.schema i.cls = .getters s → s.find? name = some g →
      False) : ¬ Demands cat r (self, name) t := by
  intro hd
  cases hd with
  | body hi hs hg _ _ => exact h _ _ _ hi hs hg
  | bound hi hs hg _ _ _ => exact h _ _ _ hi hs hg

namespace EngineM

theorem setMemo_apply (c : Nat) (m : MemoCell) (st : EngineState) :
    setMemo c m st = .ok ((), { st with memos := st.memos.set! c m }) := rfl

theorem logEval_apply (entry : String) (st : EngineState) :
    logEval entry st = .ok ((), { st with evals := st.evals.push entry }) := rfl

end EngineM

theorem memos_set_ne {a : Array MemoCell} {c d : Nat} {m : MemoCell} (h : c ≠ d) :
    (a.set! c m)[d]? = a[d]? := by
  rw [Array.set!_eq_setIfInBounds, Array.getElem?_setIfInBounds_ne h]

theorem memos_set_self {a : Array MemoCell} {c : Nat} {m : MemoCell} (h : c < a.size) :
    (a.set! c m)[c]? = some m := by
  rw [Array.set!_eq_setIfInBounds, Array.getElem?_setIfInBounds_self_of_lt h]

theorem memos_of_getD {a : Array MemoCell} {c : Nat} {m : MemoCell} (h : c < a.size)
    (hm : (a[c]?).getD .pending = m) : a[c]? = some m := by
  rw [Array.getElem?_eq_getElem h] at hm ⊢
  exact congrArg some hm

theorem memoRead_sound (hcells : CellsOnce cat r) {self : Nat} {name : String} {c : Nat}
    {i : Instance} (hi : r.instance? self = some i) (hmemo : MemoAt cat r (self, name) c)
    {T : GetterRef → Prop} (hT : ∀ t, T t ↔ Demands cat r (self, name) t) {body : EngineM Json}
    (hkeep : Keeps body) (hbody : Sound cat r T body) :
    Sound cat r (· = (self, name)) (do
      match ← memo c with
      | .ready j => pure j
      | .evaluating => throw (.panic (selfDependence name))
      | .pending => do
        setMemo c .evaluating
        logEval (i.evalEntry name)
        let j ← body
        setMemo c (.ready j)
        pure j) := by
  intro st hst halloc hready
  have hc : c < st.memos.size := halloc _ c hmemo
  have hentry : i.evalEntry name = entryOf r (self, name) := by simp [entryOf, hi]
  -- the state the body starts from: the cell evaluating, the run logged
  let st₃ : EngineState :=
    { st with memos := st.memos.set! c .evaluating, evals := st.evals.push (i.evalEntry name) }
  have hc₃ : st₃.memos[c]? = some .evaluating := memos_set_self hc
  have hne₃ : ∀ d, d ≠ c → st₃.memos[d]? = st.memos[d]? := fun d hd => memos_set_ne (Ne.symm hd)
  have hstart : Allocated cat r st₃ ∧ ReadyAcyclic cat r st₃ := by
    refine ⟨fun u d hu => by simpa [st₃] using halloc u d hu, fun u d j hu hd => ?_⟩
    by_cases hdc : d = c
    · rw [hdc, hc₃] at hd
      cases hd
    · exact hready u d j hu (by rwa [← hne₃ d hdc])
  obtain ⟨hok, hpanic⟩ := hbody st₃ hst hstart.1 hstart.2
  constructor
  · intro j st' h
    obtain ⟨m, st₁, hm, h⟩ := bind_ok h
    rw [memo_apply] at hm
    cases hm
    cases hcell : (st.memos[c]?).getD MemoCell.pending with
    | ready j' =>
      -- the cell holds a value: nothing runs
      rw [hcell] at h
      cases h
      exact ⟨.refl _, fun t ht => ht ▸ hready _ c _ hmemo (memos_of_getD hc hcell), hready⟩
    | evaluating =>
      rw [hcell] at h
      cases h
    | pending =>
      rw [hcell] at h
      have hev := memoRun_evolves hkeep hcell h
      have hpend := memos_of_getD hc hcell
      obtain ⟨_, _, h₂, h⟩ := bind_ok h
      obtain ⟨_, _, h₃, h⟩ := bind_ok h
      rw [setMemo_apply] at h₂
      cases h₂
      rw [logEval_apply] at h₃
      cases h₃
      obtain ⟨j', st₄, h₄, h⟩ := bind_ok h
      obtain ⟨_, _, h₅, h⟩ := bind_ok h
      rw [setMemo_apply] at h₅
      cases h₅
      cases h
      obtain ⟨hl₄, hT₄, hready₄⟩ := hok j st₄ h₄
      have hc₄ : c < st₄.memos.size := (hstart.1.of_evolves hl₄.evolves) _ c hmemo
      have hne' : ∀ d, d ≠ c → (st₄.memos.set! c (.ready j))[d]? = st₄.memos[d]? :=
        fun d hd => memos_set_ne (Ne.symm hd)
      have hacyclic : NoCycleFrom cat r (self, name) :=
        NoCycleFrom.of_demands fun t ht => hT₄ t ((hT t).mpr ht)
      refine ⟨⟨hev, ?_⟩, fun t ht => ht ▸ hacyclic, fun v d j'' hv hd => ?_⟩
      · obtain ⟨m₄, o₄, l₄, hl, hp, hm₄, hd₄, ho₄⟩ := hl₄.runs
        refine ⟨(self, name) :: m₄, o₄, i.evalEntry name :: l₄, by simp [hl, st₃], ?_,
          fun u hu => ?_, ?_, ho₄⟩
        · rw [List.cons_append, List.map_cons, ← hentry]
          exact hp.cons _
        · rcases List.mem_cons.mp hu with rfl | hu
          · exact ⟨c, hmemo, hpend, j, memos_set_self hc₄⟩
          · -- a body run inside this one was of another cell, pending before and after
            obtain ⟨d, hd, hdp, j₄, hdj⟩ := hm₄ u hu
            have hdc : d ≠ c := fun hdc => by rw [hdc, hc₃] at hdp; cases hdp
            exact ⟨d, hd, by rwa [← hne₃ d hdc], j₄, by rwa [hne' d hdc]⟩
        · refine List.Pairwise.cons (fun v hv d hud hvd => ?_) hd₄
          obtain ⟨d', hd', hdp, -⟩ := hm₄ v hv
          rw [← hvd.cell_unique hd', hud.cell_unique hmemo, hc₃] at hdp
          cases hdp
      · by_cases hdc : d = c
        · rw [hdc] at hv
          rw [hcells v (self, name) c hv hmemo]
          exact hacyclic
        · exact hready₄ v d j'' hv (by rwa [← hne' d hdc])
  · intro msg h
    rcases bind_error h with h | ⟨m, st₁, hm, h⟩
    · rw [memo_apply] at h
      cases h
    rw [memo_apply] at hm
    cases hm
    cases hcell : (st.memos[c]?).getD MemoCell.pending with
    | ready j' =>
      rw [hcell] at h
      cases h
    | evaluating =>
      -- read while its body runs: the panic names the getter itself
      rw [hcell] at h
      cases h
      exact ⟨(self, name), (self, name), c, rfl, .refl, hmemo, rfl, .inl (memos_of_getD hc hcell)⟩
    | pending =>
      rw [hcell] at h
      rcases bind_error h with h | ⟨_, _, h₂, h⟩
      · cases h
      rw [setMemo_apply] at h₂
      cases h₂
      rcases bind_error h with h | ⟨_, _, h₃, h⟩
      · cases h
      rw [logEval_apply] at h₃
      cases h₃
      rcases bind_error h with h | ⟨j', st₄, -, h⟩
      · -- the body panicked; a cell evaluating since the read is this getter's, on a cycle
        obtain ⟨t, v, d, ht, htv, hv, hmsg, hd⟩ := hpanic msg h
        have hut : Demands cat r (self, name) t := (hT t).mp ht
        refine ⟨(self, name), v, d, rfl, .head hut htv, hv, hmsg, ?_⟩
        rcases hd with hd | hcyc
        · by_cases hdc : d = c
          · rw [hdc] at hv
            rw [hcells v (self, name) c hv hmemo] at htv ⊢
            exact .inr (Relation.TransGen.head' hut htv)
          · exact .inl (by rwa [← hne₃ d hdc])
        · exact .inr hcyc
      · rcases bind_error h with h | ⟨_, _, -, h⟩
        · cases h
        · cases h

theorem none_acyclic (t : GetterRef) (h : False) : NoCycleFrom cat r t := h.elim

/-- The evaluation functions at one fuel are sound for the getters they call. -/
structure MemoSound (cat : Catalogue) (r : EngineState) (fuel : Nat) : Prop where
  call : ∀ self name, Sound cat r (· = (self, name)) (callGetter cat fuel self name)
  body : ∀ self b, Sound cat r (BodyCalls r self b) (evalBody cat fuel self b)
  member : ∀ i m, Sound cat r (MemberCalls r i m) (memberOf cat fuel i m)
  bound : ∀ b, Sound cat r (BoundCalls r b) (renderBound cat fuel b)
  inst : ∀ id, Sound cat r (InstanceCalls r id) (renderInstance cat fuel id)

namespace MemoSound

variable {fuel : Nat}

theorem call_succ (hcells : CellsOnce cat r) (q : MemoSound cat r fuel) (self : Nat) (name : String) :
    Sound cat r (· = (self, name)) (callGetter cat (fuel + 1) self name) := by
  simp only [callGetter]
  refine Sound.get_bind fun st hst => ?_
  rw [EngineState.instance?_eq_of_finished hst]
  split
  · next hi => exact Sound.of_pure (fun t ht => ht ▸ NoCycleFrom.of_isEmpty fun _ =>
      not_demands fun _ _ _ hi' => by rw [hi] at hi'; cases hi') _
  · next i hi =>
    split
    · next hs => exact Sound.of_pure (fun t ht => ht ▸ NoCycleFrom.of_isEmpty fun _ =>
        not_demands fun _ _ _ hi' hs' _ => by rw [hi] at hi'; cases hi'; rw [hs] at hs'; cases hs') _
    · next s hs =>
      split
      · next hg => exact Sound.of_pure (fun t ht => ht ▸ NoCycleFrom.of_isEmpty fun _ =>
          not_demands fun _ _ _ hi' hs' hg' => by
            rw [hi] at hi'; cases hi'; rw [hs] at hs'; cases hs'; rw [hg] at hg'; cases hg') _
      · next g hg =>
        have hd := fun t => demands_iff (t := t) hi hs hg
        split
        · -- without binding: the body runs, logged
          next hb =>
          have he : i.evalEntry name = entryOf r (self, name) := by simp [entryOf, hi]
          rw [he]
          refine ((Sound.of_logEval ⟨i, s, g, hi, hs, hg, hb⟩).bind fun _ =>
            q.body self g.body).demanded fun t => ?_
          rw [hd t]
          simp [hb]
        · next b hb hl =>
          exact (q.bound b).demanded fun t => by rw [hd t]; simp [hb, hl]
        · next c hb hl =>
          exact memoRead_sound hcells hi ⟨i, s, g, hi, hs, hg, by simp [hb], hl⟩
            (fun t => by rw [hd t]; simp [hb, hl]) ((evolving cat fuel).body self g.body)
            (q.body self g.body)
        · next hb hl =>
          refine Sound.of_pure (fun t ht => ht ▸ NoCycleFrom.of_isEmpty fun t h => ?_) _
          rw [hd t] at h
          rcases h with ⟨hnone | ⟨c, hlc⟩, -⟩ | ⟨-, b, hlb, -⟩
          · simp [*] at hnone
          · exact hl c hlc
          · exact hb b hlb

theorem body_succ (q : MemoSound cat r fuel) (self : Nat) (b : Body) :
    Sound cat r (BodyCalls r self b) (evalBody cat (fuel + 1) self b) := by
  cases b with
  | literal j => exact Sound.of_pure (fun t ht => absurd ht bodyCalls_literal) j
  | get m => exact (q.call self m).congr fun t => bodyCalls_get.symm
  | inc b => exact (q.body self b).map.congr fun t => bodyCalls_inc.symm
  | concat parts => exact (Sound.mapM (q.body self) parts).map.congr fun t => bodyCalls_concat.symm
  | seq steps => exact (Sound.mapM (q.body self) steps).map.congr fun t => bodyCalls_seq.symm
  | parentGet p m otherwise =>
    refine Sound.get_bind fun st hst => ?_
    rw [EngineState.slotAncestor?_eq_of_finished hst]
    split
    · next a ha => exact (q.member a m).congr fun t => (bodyCalls_parentGet_of_some ha).symm
    · next ha => exact (q.body self otherwise).congr fun t => (bodyCalls_parentGet_of_none ha).symm
  | convert target b => exact (q.body self b).map.congr fun t => bodyCalls_convert.symm
  | ifParent p present absent =>
    refine Sound.get_bind fun st hst => ?_
    rw [EngineState.slotAncestor?_eq_of_finished hst]
    split
    · next a ha => exact (q.body self present).congr fun t => (bodyCalls_ifParent_of_some ha).symm
    · next ha => exact (q.body self absent).congr fun t => (bodyCalls_ifParent_of_none ha).symm

theorem member_succ (q : MemoSound cat r fuel) (i : Instance) (m : String) :
    Sound cat r (MemberCalls r i m) (memberOf cat (fuel + 1) i m) := by
  simp only [memberOf]
  split
  · next hs => exact (q.call i.id m).congr fun t => (memberCalls_of_getters hs).symm
  · next hs =>
    split
    · next b hl => exact (q.bound b).congr fun t => (memberCalls_of_bound hs hl).symm
    · next hl => exact Sound.of_pure (fun t ht => absurd ht (not_memberCalls hs hl)) _

theorem bound_succ (q : MemoSound cat r fuel) (b : Bound) :
    Sound cat r (BoundCalls r b) (renderBound cat (fuel + 1) b) := by
  cases b with
  | typed x => exact Sound.of_pure (fun t ht => absurd ht boundCalls_typed) _
  | absent => exact Sound.of_pure (fun t ht => absurd ht boundCalls_absent) _
  | present b => exact (q.bound b).congr fun t => boundCalls_present.symm
  | items bs => exact (Sound.mapM q.bound bs).map.congr fun t => boundCalls_items.symm
  | unordered bs => exact (Sound.mapM q.bound bs).map.congr fun t => boundCalls_unordered.symm
  | entries kvs =>
    exact (Sound.mapM (T := fun kv => BoundCalls r kv.2) (fun _ => (q.bound _).map) kvs).map.congr
      fun t => boundCalls_entries.symm
  | unorderedEntries kvs =>
    exact (Sound.mapM (T := fun kv => BoundCalls r kv.2) (fun _ => (q.bound _).map) kvs).map.congr
      fun t => boundCalls_unorderedEntries.symm
  | inst id => exact (q.inst id).congr fun t => boundCalls_inst.symm
  | parent c a => exact Sound.of_pure (fun t ht => absurd ht boundCalls_parent) _

theorem inst_succ (q : MemoSound cat r fuel) (id : Nat) :
    Sound cat r (InstanceCalls r id) (renderInstance cat (fuel + 1) id) := by
  simp only [renderInstance]
  refine Sound.get_bind fun st hst => ?_
  rw [EngineState.instance?_eq_of_finished hst]
  split
  · next hi => exact Sound.of_pure (fun t ht => absurd ht (not_instanceCalls hi)) _
  · next i hi =>
    split
    · -- a field-style instance renders its bound fields
      next hs =>
      refine ((Sound.mapM (T := fun x t => ∃ b, x.2 = Slot.bound b ∧ BoundCalls r b t) (fun x => ?_)
        i.slots).bind fun _ => (Sound.of_pure none_acyclic _).bind fun _ =>
          Sound.of_pure none_acyclic _).congr fun t => ?_
      · split
        · next b hx => exact (q.bound b).map.congr fun t => by simp [hx]
        · next hx =>
          exact (Sound.of_pure none_acyclic _).map.congr fun t =>
            ⟨False.elim, fun ⟨b, hb, _⟩ => hx b hb⟩
      · rw [instanceCalls_of_fields hi hs]
        simp only [or_false]
        constructor
        · rintro ⟨⟨n, sl⟩, hx, b, rfl, hb⟩
          exact ⟨n, b, hx, hb⟩
        · rintro ⟨n, b, hx, hb⟩
          exact ⟨(n, .bound b), hx, b, rfl, hb⟩
    · -- a getter-style instance calls each of its getters
      next hs =>
      refine ((Sound.mapM (T := fun x t => t = (id, x.1)) (fun x => (q.call id x.1).map)
        i.slots).bind fun _ => (Sound.of_pure none_acyclic _).bind fun _ =>
          Sound.of_pure none_acyclic _).congr fun t => ?_
      rw [instanceCalls_of_getters hi hs]
      simp only [or_false]
      constructor
      · rintro ⟨⟨n, sl⟩, hx, rfl⟩
        exact ⟨n, sl, hx, rfl⟩
      · rintro ⟨n, sl, hx, rfl⟩
        exact ⟨(n, sl), hx, rfl⟩

theorem of_fuel_zero (cat : Catalogue) (r : EngineState) : MemoSound cat r 0 :=
  ⟨fun _ _ => .of_exhausted, fun _ _ => .of_exhausted, fun _ _ => .of_exhausted,
    fun _ => .of_exhausted, fun _ => .of_exhausted⟩

theorem succ (hcells : CellsOnce cat r) (q : MemoSound cat r fuel) : MemoSound cat r (fuel + 1) :=
  ⟨q.call_succ hcells, q.body_succ, q.member_succ, q.bound_succ, q.inst_succ⟩

end MemoSound

theorem memoRead_ready {c : Nat} {name : String} {entry : String} {body : EngineM Json}
    (hkeep : Keeps body) {st st' : EngineState} {j : Json} (hc : c < st.memos.size)
    (h : (do
      match ← memo c with
      | .ready j => pure j
      | .evaluating => throw (.panic (selfDependence name))
      | .pending => do
        setMemo c .evaluating
        logEval entry
        let j ← body
        setMemo c (.ready j)
        pure j : EngineM Json) st = .ok (j, st')) :
    st'.memos[c]? = some (.ready j) ∧ ∀ j', st.memos[c]? = some (.ready j') → j = j' ∧ st' = st := by
  obtain ⟨m, st₁, hm, h⟩ := bind_ok h
  rw [memo_apply] at hm
  cases hm
  cases hcell : (st.memos[c]?).getD MemoCell.pending with
  | ready j' =>
    rw [hcell] at h
    cases h
    have hst := memos_of_getD hc hcell
    refine ⟨hst, fun j'' hj'' => ?_⟩
    rw [hst] at hj''
    cases hj''
    exact ⟨rfl, rfl⟩
  | evaluating =>
    rw [hcell] at h
    cases h
  | pending =>
    rw [hcell] at h
    have hev := memoRun_evolves hkeep hcell h
    have hpend := memos_of_getD hc hcell
    obtain ⟨_, _, h₂, h⟩ := bind_ok h
    obtain ⟨_, _, h₃, h⟩ := bind_ok h
    rw [setMemo_apply] at h₂
    cases h₂
    rw [logEval_apply] at h₃
    cases h₃
    obtain ⟨j', st₄, h₄, h⟩ := bind_ok h
    obtain ⟨_, _, h₅, h⟩ := bind_ok h
    rw [setMemo_apply] at h₅
    cases h₅
    cases h
    -- the cell was evaluating through the body's run, so it still exists when it gets its value
    have h₄c := (hkeep _ _ _ h₄).memos c
    rw [show (st.memos.set! c .evaluating)[c]? = some .evaluating from memos_set_self hc] at h₄c
    have hc₄ : c < st₄.memos.size := (Array.getElem?_eq_some_iff.mp h₄c.of_evaluating).1
    refine ⟨memos_set_self hc₄, fun j'' hj'' => ?_⟩
    rw [hpend] at hj''
    cases hj''

theorem callGetter_memo {fuel : Nat} {st st' : EngineState} {u : GetterRef} {c : Nat} {j : Json}
    (hst : st.finished = r.finished) (hmemo : MemoAt cat r u c) (hc : c < st.memos.size)
    (h : callGetter cat fuel u.1 u.2 st = .ok (j, st')) :
    st'.memos[c]? = some (.ready j) ∧ ∀ j', st.memos[c]? = some (.ready j') → j = j' ∧ st' = st := by
  obtain ⟨i, s, g, hi, hs, hg, hb, hl⟩ := hmemo
  obtain ⟨b, hb⟩ := Option.ne_none_iff_exists'.mp hb
  cases fuel with
  | zero => cases h
  | succ fuel =>
    simp only [callGetter] at h
    obtain ⟨_, _, hget, h⟩ := bind_ok h
    cases hget
    simp only [EngineState.instance?_eq_of_finished hst, hi, hs, hg, hb, hl] at h
    exact memoRead_ready ((evolving cat fuel).body u.1 g.body) hc h

theorem mem_slotCells {slots : List (String × Slot)} {n : String} {c : Nat}
    (h : (n, Slot.memo c) ∈ slots) : c ∈ slotCells slots :=
  List.mem_flatMap.mpr ⟨(n, .memo c), h, List.mem_singleton_self c⟩

theorem cell_holder_unique : ∀ {xs : List Instance}, (Instance.cells xs).Nodup →
    ∀ {x y : Instance} {n₁ n₂ : String} {c : Nat}, x ∈ xs → y ∈ xs →
      (n₁, Slot.memo c) ∈ x.slots → (n₂, Slot.memo c) ∈ y.slots → x = y ∧ n₁ = n₂
  | [], _, _, _, _, _, _, hx, _, _, _ => absurd hx List.not_mem_nil
  | z :: rest, hnd, x, y, n₁, n₂, c, hx, hy, h₁, h₂ => by
    rw [Instance.cells_cons, List.nodup_append] at hnd
    obtain ⟨hz, hrest, hdisj⟩ := hnd
    rcases List.mem_cons.mp hx with rfl | hx' <;> rcases List.mem_cons.mp hy with rfl | hy'
    · exact ⟨rfl, slot_name_unique hz h₁ h₂⟩
    · exact absurd rfl (hdisj c (mem_slotCells h₁) c (List.mem_flatMap.mpr ⟨y, hy', mem_slotCells h₂⟩))
    · exact absurd rfl (hdisj c (mem_slotCells h₂) c (List.mem_flatMap.mpr ⟨x, hx', mem_slotCells h₁⟩))
    · exact cell_holder_unique hrest hx' hy' h₁ h₂
where
  slot_name_unique : ∀ {slots : List (String × Slot)}, (slotCells slots).Nodup →
      ∀ {n₁ n₂ : String} {c : Nat}, (n₁, Slot.memo c) ∈ slots → (n₂, Slot.memo c) ∈ slots → n₁ = n₂
    | [], _, _, _, _, h, _ => absurd h List.not_mem_nil
    | (n, s) :: rest, hnd, n₁, n₂, c, h₁, h₂ => by
      rw [show (n, s) :: rest = [(n, s)] ++ rest from rfl, slotCells_append, List.nodup_append] at hnd
      obtain ⟨-, hrest, hdisj⟩ := hnd
      rcases List.mem_cons.mp h₁ with h₁' | h₁' <;> rcases List.mem_cons.mp h₂ with h₂' | h₂'
      · cases h₁'
        cases h₂'
        rfl
      · cases h₁'
        exact absurd rfl (hdisj c (by simp) c (mem_slotCells h₂'))
      · cases h₂'
        exact absurd rfl (hdisj c (by simp) c (mem_slotCells h₁'))
      · exact slot_name_unique hrest h₁' h₂'

theorem materializeIn_memoStart {fuel : Nat} {root : ClassRef} {node : Node} {id : Nat}
    {st : EngineState} (h : materializeIn cat fuel root node [] {} = .ok (id, st)) :
    CellsOnce cat st ∧ Allocated cat st st ∧
      ∀ c : Nat, st.memos[c]? = none ∨ st.memos[c]? = some MemoCell.pending := by
  obtain ⟨⟨xs, hf, -, hc⟩, ⟨k, hk⟩, -⟩ := ((forests cat fuel).inst root node [] {} id st h).1
  simp only [List.append_nil, Array.size_empty, Nat.sub_zero] at hf hc
  have hnd : (Instance.cells xs).Nodup := hc.nodup_iff.mpr (List.nodup_range' 1)
  -- a getter bound to a cell is a slot of an instance of the record
  have holder : ∀ u c, MemoAt cat st u c → ∃ i ∈ xs, i.id = u.1 ∧ (u.2, Slot.memo c) ∈ i.slots := by
    rintro ⟨self, name⟩ c ⟨i, s, g, hi, -, -, -, hl⟩
    rw [EngineState.instance?, ← Array.find?_toList, hf] at hi
    obtain ⟨l₁, l₂, heq, -⟩ := List.lookup_eq_some_iff.mp hl
    exact ⟨i, List.mem_of_find?_eq_some hi, by simpa using List.find?_some hi, by simp [heq]⟩
  refine ⟨fun u v c hu hv => ?_, fun u c hu => ?_, fun c => ?_⟩
  · obtain ⟨i, hi, hid, hslot⟩ := holder u c hu
    obtain ⟨i', hi', hid', hslot'⟩ := holder v c hv
    obtain ⟨rfl, hname⟩ := cell_holder_unique hnd hi hi' hslot hslot'
    exact Prod.ext (hid.symm.trans hid') hname
  · obtain ⟨i, hi, -, hslot⟩ := holder u c hu
    have hmem := hc.mem_iff.mp (List.mem_flatMap.mpr ⟨i, hi, mem_slotCells hslot⟩)
    rw [List.mem_range'_1] at hmem
    omega
  · have hk' : st.memos.toList = List.replicate k .pending := by simpa using hk
    rw [← Array.getElem?_toList, hk', List.getElem?_replicate]
    split
    · exact .inr rfl
    · exact .inl rfl

end ConfigTree
