import ConfigTree.Proofs.Binding.FailurePath

namespace ConfigTree

open EngineM

def MemoCell.Advances : Option MemoCell → Option MemoCell → Prop
  | none, none => True
  | some .pending, some .pending => True
  | some .pending, some (.ready _) => True
  | some .evaluating, some .evaluating => True
  | some (.ready j), some (.ready j') => j = j'
  | _, _ => False

namespace MemoCell.Advances

theorem refl : ∀ m, MemoCell.Advances m m
  | none => trivial
  | some .pending => trivial
  | some .evaluating => trivial
  | some (.ready _) => rfl

theorem trans : ∀ {a b c : Option MemoCell}, MemoCell.Advances a b → MemoCell.Advances b c →
    MemoCell.Advances a c
  | none, none, none, _, _ => trivial
  | some .pending, some .pending, some .pending, _, _ => trivial
  | some .pending, some .pending, some (.ready _), _, _ => trivial
  | some .pending, some (.ready _), some (.ready _), _, _ => trivial
  | some .evaluating, some .evaluating, some .evaluating, _, _ => trivial
  | some (.ready _), some (.ready _), some (.ready _), h₁, h₂ => Eq.trans h₁ h₂

theorem evaluating_iff {a b : Option MemoCell} (h : MemoCell.Advances a b) :
    a = some .evaluating ↔ b = some .evaluating := by
  match a, b, h with
  | none, none, _ | some .pending, some .pending, _ | some .pending, some (.ready _), _
  | some .evaluating, some .evaluating, _ | some (.ready _), some (.ready _), _ => simp

theorem of_evaluating {b : Option MemoCell} (h : MemoCell.Advances (some .evaluating) b) :
    b = some .evaluating := by
  match b, h with
  | some .evaluating, _ => rfl

theorem of_none {b : Option MemoCell} (h : MemoCell.Advances none b) : b = none := by
  match b, h with
  | none, _ => rfl

end MemoCell.Advances

/-- What an evaluation that returns does to the state: the same record and next id, memo cells moved
forward, and the log extended. -/
structure EngineState.Evolves (st st' : EngineState) : Prop where
  finished : st'.finished = st.finished
  nextId : st'.nextId = st.nextId
  memos : ∀ c : Nat, MemoCell.Advances st.memos[c]? st'.memos[c]?
  evals : ∃ log, st'.evals.toList = st.evals.toList ++ log

namespace EngineState.Evolves

theorem refl (st : EngineState) : st.Evolves st :=
  ⟨rfl, rfl, fun _ => MemoCell.Advances.refl _, ⟨[], by simp⟩⟩

theorem trans {st₁ st₂ st₃ : EngineState} (h₁ : st₁.Evolves st₂) (h₂ : st₂.Evolves st₃) :
    st₁.Evolves st₃ := by
  obtain ⟨l₁, hl₁⟩ := h₁.evals
  obtain ⟨l₂, hl₂⟩ := h₂.evals
  exact ⟨h₂.finished.trans h₁.finished, h₂.nextId.trans h₁.nextId,
    fun c => (h₁.memos c).trans (h₂.memos c), ⟨l₁ ++ l₂, by rw [hl₂, hl₁, List.append_assoc]⟩⟩

theorem logEval (st : EngineState) (entry : String) :
    st.Evolves { st with evals := st.evals.push entry } :=
  ⟨rfl, rfl, fun _ => MemoCell.Advances.refl _, ⟨[entry], by simp⟩⟩

end EngineState.Evolves

namespace EngineM

def Keeps {α : Type} (x : EngineM α) : Prop := ∀ st a st', x st = .ok (a, st') → st.Evolves st'

namespace Keeps

variable {α β : Type} {x : EngineM α}

theorem of_pure (a : α) : Keeps (pure a : EngineM α) := by
  intro st b st' h
  cases h
  exact .refl st

theorem of_throw (err : Failure) : Keeps (throw err : EngineM α) := by
  intro st a st' h
  cases h

theorem of_get : Keeps (get : EngineM EngineState) := by
  intro st a st' h
  cases h
  exact .refl st

theorem of_logEval (entry : String) : Keeps (logEval entry) := by
  intro st a st' h
  cases h
  exact .logEval st entry

theorem bind {f : α → EngineM β} (hx : Keeps x) (hf : ∀ a, Keeps (f a)) : Keeps (x >>= f) := by
  intro st b st' h
  obtain ⟨a, st₁, h₁, h₂⟩ := bind_ok h
  exact (hx st a st₁ h₁).trans (hf a st₁ b st' h₂)

theorem mapM {f : α → EngineM β} (hf : ∀ a, Keeps (f a)) (xs : List α) : Keeps (xs.mapM f) := by
  induction xs with
  | nil => exact of_pure []
  | cons x xs ih =>
    rw [List.mapM_cons]
    exact bind (hf x) fun _ => bind ih fun _ => of_pure _

theorem forIn_list {f : α → β → EngineM (ForInStep β)} (hf : ∀ a b, Keeps (f a b))
    (xs : List α) (b : β) : Keeps (forIn xs b f) := by
  induction xs generalizing b with
  | nil => exact of_pure b
  | cons x xs ih =>
    rw [List.forIn_cons]
    refine bind (hf x b) fun step => ?_
    cases step with
    | done b' => exact of_pure b'
    | yield b' => exact ih b'

end Keeps

theorem memoRun_evolves {c : Nat} {entry : String} {body : EngineM Json} (hbody : Keeps body)
    {st st' : EngineState} {j : Json} (hpending : (st.memos[c]?).getD .pending = .pending)
    (h : (do
      setMemo c .evaluating
      logEval entry
      let j ← body
      setMemo c (.ready j)
      pure j) st = .ok (j, st')) : st.Evolves st' := by
  obtain ⟨_, st₁, h₁, h⟩ := bind_ok h
  obtain ⟨_, st₂, h₂, h⟩ := bind_ok h
  obtain ⟨j', st₃, h₃, h⟩ := bind_ok h
  obtain ⟨_, st₄, h₄, h⟩ := bind_ok h
  cases h₁
  cases h₂
  cases h₄
  cases h
  have hrun := hbody _ _ _ h₃
  obtain ⟨log, hlog⟩ := hrun.evals
  refine ⟨hrun.finished, hrun.nextId, fun d => ?_, ⟨entry :: log, by simpa using hlog⟩⟩
  have hd := hrun.memos d
  simp only [Array.set!_eq_setIfInBounds, Array.getElem?_setIfInBounds] at hd ⊢
  by_cases hcd : c = d
  · subst hcd
    by_cases hc : c < st.memos.size
    · -- the cell was pending, evaluates while the body runs, and gets its value
      simp only [if_pos hc, if_true] at hd
      have h₃c := MemoCell.Advances.of_evaluating hd
      have hc₃ : c < st₃.memos.size := (Array.getElem?_eq_some_iff.mp h₃c).1
      have hst : st.memos[c]? = some .pending := by
        rw [Array.getElem?_eq_getElem hc] at hpending ⊢
        exact congrArg some hpending
      simp only [if_true, if_pos hc₃, hst]
      trivial
    · -- a cell out of range is never set
      simp only [if_neg hc, if_true] at hd
      have hc₃ : ¬ c < st₃.memos.size := fun h =>
        absurd (MemoCell.Advances.of_none hd) (by simp [h])
      simp only [if_true, if_neg hc₃, Array.getElem?_eq_none (Nat.le_of_not_lt hc)]
      trivial
  · simp only [if_neg hcd] at hd ⊢
    exact hd

theorem memo_apply (c : Nat) (st : EngineState) :
    memo c st = .ok ((st.memos[c]?).getD .pending, st) := rfl

end EngineM

/-- Calling getters, evaluating bodies and rendering, at one fuel, evolve the state. -/
structure Evolving (cat : Catalogue) (fuel : Nat) : Prop where
  call : ∀ self name, Keeps (callGetter cat fuel self name)
  body : ∀ self b, Keeps (evalBody cat fuel self b)
  member : ∀ i m, Keeps (memberOf cat fuel i m)
  bound : ∀ b, Keeps (renderBound cat fuel b)
  inst : ∀ id, Keeps (renderInstance cat fuel id)

namespace Evolving

variable {cat : Catalogue} {fuel : Nat}

theorem call_succ (q : Evolving cat fuel) (self : Nat) (name : String) :
    Keeps (callGetter cat (fuel + 1) self name) := by
  simp only [callGetter]
  refine Keeps.bind Keeps.of_get fun st => ?_
  split
  · exact Keeps.of_pure _
  split
  · exact Keeps.of_pure _
  split
  · exact Keeps.of_pure _
  -- a getter without binding runs its body, a bound one renders, a memo runs its body once
  split
  · exact Keeps.bind (Keeps.of_logEval _) fun _ => q.body _ _
  · exact q.bound _
  · rename_i c _ _
    intro st₀ j st' h
    obtain ⟨m, st₁, hm, h⟩ := bind_ok h
    rw [memo_apply] at hm
    cases hm
    cases hcell : (st₀.memos[c]?).getD MemoCell.pending with
    | ready j' =>
      rw [hcell] at h
      cases h
      exact .refl _
    | evaluating =>
      rw [hcell] at h
      cases h
    | pending =>
      rw [hcell] at h
      exact memoRun_evolves (q.body _ _) hcell h
  · exact Keeps.of_pure _

theorem body_succ (q : Evolving cat fuel) (self : Nat) (b : Body) :
    Keeps (evalBody cat (fuel + 1) self b) := by
  cases b with
  | literal j => exact Keeps.of_pure j
  | get m => exact q.call self m
  | inc b => exact Keeps.bind (q.body self b) fun _ => Keeps.of_pure _
  | concat parts => exact Keeps.bind (Keeps.mapM (q.body self) parts) fun _ => Keeps.of_pure _
  | seq steps => exact Keeps.bind (Keeps.mapM (q.body self) steps) fun _ => Keeps.of_pure _
  | parentGet p m otherwise =>
    refine Keeps.bind Keeps.of_get fun st => ?_
    split
    · exact q.member _ m
    · exact q.body self otherwise
  | convert t b => exact Keeps.bind (q.body self b) fun _ => Keeps.of_pure _
  | ifParent p present absent =>
    refine Keeps.bind Keeps.of_get fun st => ?_
    split
    · exact q.body self present
    · exact q.body self absent

theorem member_succ (q : Evolving cat fuel) (i : Instance) (m : String) :
    Keeps (memberOf cat (fuel + 1) i m) := by
  simp only [memberOf]
  split
  · exact q.call _ m
  · split
    · exact q.bound _
    · exact Keeps.of_pure _

theorem bound_succ (q : Evolving cat fuel) (b : Bound) : Keeps (renderBound cat (fuel + 1) b) := by
  cases b with
  | typed t => exact Keeps.of_pure _
  | absent => exact Keeps.of_pure _
  | present b => exact q.bound b
  | items bs => exact Keeps.bind (Keeps.mapM q.bound bs) fun _ => Keeps.of_pure _
  | unordered bs => exact Keeps.bind (Keeps.mapM q.bound bs) fun _ => Keeps.of_pure _
  | entries kvs =>
    exact Keeps.bind (Keeps.mapM (fun _ => Keeps.bind (q.bound _) fun _ => Keeps.of_pure _) kvs)
      fun _ => Keeps.of_pure _
  | unorderedEntries kvs =>
    exact Keeps.bind (Keeps.mapM (fun _ => Keeps.bind (q.bound _) fun _ => Keeps.of_pure _) kvs)
      fun _ => Keeps.of_pure _
  | inst id => exact q.inst id
  | parent c a => exact Keeps.of_pure _

theorem inst_succ (q : Evolving cat fuel) (id : Nat) : Keeps (renderInstance cat (fuel + 1) id) := by
  simp only [renderInstance]
  refine Keeps.bind Keeps.of_get fun st => ?_
  split
  · exact Keeps.of_pure _
  split
  · refine Keeps.bind (Keeps.mapM (fun x => ?_) _) fun _ =>
      Keeps.bind (Keeps.of_pure _) fun _ => Keeps.of_pure _
    split
    · exact Keeps.bind (q.bound _) fun _ => Keeps.of_pure _
    · exact Keeps.bind (Keeps.of_pure _) fun _ => Keeps.of_pure _
  · exact Keeps.bind
      (Keeps.mapM (fun _ => Keeps.bind (q.call _ _) fun _ => Keeps.of_pure _) _) fun _ =>
        Keeps.bind (Keeps.of_pure _) fun _ => Keeps.of_pure _

theorem of_fuel_zero (cat : Catalogue) : Evolving cat 0 :=
  ⟨fun _ _ => Keeps.of_throw _, fun _ _ => Keeps.of_throw _, fun _ _ => Keeps.of_throw _,
    fun _ => Keeps.of_throw _, fun _ => Keeps.of_throw _⟩

theorem succ (q : Evolving cat fuel) : Evolving cat (fuel + 1) :=
  ⟨q.call_succ, q.body_succ, q.member_succ, q.bound_succ, q.inst_succ⟩

end Evolving

theorem evolving (cat : Catalogue) : ∀ fuel, Evolving cat fuel
  | 0 => .of_fuel_zero cat
  | fuel + 1 => (evolving cat fuel).succ

theorem completeInstance_keeps (cat : Catalogue) (fuel : Nat) (i : Instance) :
    Keeps (completeInstance cat fuel i) := by
  simp only [completeInstance]
  split
  · exact Keeps.of_pure _
  · have hcall := fun (g : GetterDecl) (_ : PUnit) =>
      Keeps.bind ((evolving cat fuel).call i.id g.name) fun _ => Keeps.of_pure (ForInStep.yield ())
    exact Keeps.bind (Keeps.forIn_list hcall _ _) fun _ =>
      Keeps.bind (Keeps.forIn_list hcall _ _) fun _ => Keeps.of_pure _

end ConfigTree
