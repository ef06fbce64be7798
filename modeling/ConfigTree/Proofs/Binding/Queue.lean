import ConfigTree.Binding.Construct
import ConfigTree.Proofs.Node.Lookup

namespace ConfigTree

namespace EngineM

theorem bind_apply {α β : Type} (x : EngineM α) (f : α → EngineM β) (st : EngineState) :
    (x >>= f) st = (x st).bind fun p => f p.1 p.2 := rfl

theorem map_apply {α β : Type} (g : α → β) (x : EngineM α) (st : EngineState) :
    (g <$> x) st = (x st).map fun p => (g p.1, p.2) := rfl

@[simp] theorem pure_apply {α : Type} (a : α) (st : EngineState) :
    (pure a : EngineM α) st = .ok (a, st) := rfl

@[simp] theorem ofExcept_ok_apply {α : Type} (a : α) (st : EngineState) :
    (ofExcept (.ok a) : EngineM α) st = .ok (a, st) := rfl

@[simp] theorem fail_apply {α : Type} (e : ConfigError) (st : EngineState) :
    (fail e : EngineM α) st = .error (.config e) := rfl

theorem bind_ok {α β : Type} {x : EngineM α} {f : α → EngineM β} {st : EngineState}
    {r : β × EngineState} (h : (x >>= f) st = .ok r) :
    ∃ a st₁, x st = .ok (a, st₁) ∧ f a st₁ = .ok r := by
  rw [bind_apply] at h
  cases hx : x st with
  | error e => simp [hx, Except.bind] at h
  | ok p => exact ⟨p.1, p.2, rfl, by simpa [hx, Except.bind] using h⟩

theorem recover_ok {α : Type} {act recovery : EngineM α} {st : EngineState}
    {r : α × EngineState} (h : recover act recovery st = .ok r) :
    act st = .ok r ∨ (∃ e, act st = .error (.config e)) ∧ recovery st = .ok r := by
  cases hact : act st with
  | ok p =>
    simp only [recover, hact] at h
    exact .inl h
  | error f =>
    cases f with
    | config e =>
      simp only [recover, hact] at h
      exact .inr ⟨⟨e, rfl⟩, h⟩
    | _ => simp [recover, hact] at h

theorem recover_config_error {α : Type} {act recovery : EngineM α} {st : EngineState}
    {e : ConfigError} (h : recover act recovery st = .error (.config e)) :
    recovery st = .error (.config e) := by
  cases hact : act st with
  | ok p => simp [recover, hact] at h
  | error f =>
    cases f with
    | config e' => simpa [recover, hact] using h
    | _ => simp [recover, hact] at h

theorem recover_of_config {α : Type} {act recovery : EngineM α} {st : EngineState}
    {e : ConfigError} (h : act st = .error (.config e)) : recover act recovery st = recovery st := by
  simp [recover, h]

end EngineM

open EngineM

namespace FieldQueue

/-- The queue of `pending` descriptors after `j` pops. -/
def after (pending : List Descriptor) (j : Nat) : FieldQueue :=
  ⟨pending.drop j, pending.length, j⟩

theorem after_consumed_add_remaining {pending : List Descriptor} {j : Nat}
    (hj : j ≤ pending.length) :
    (after pending j).consumed + (after pending j).pending.length = (after pending j).declared := by
  simp only [after, List.length_drop]
  omega

theorem advance_after {pending : List Descriptor} {j : Nat} (hj : j ≤ pending.length) :
    (after pending j).advance = after pending (min (j + 1) pending.length) := by
  rcases Nat.lt_or_eq_of_le hj with hlt | rfl
  · rw [Nat.min_eq_left hlt, advance, after, List.drop_eq_getElem_cons hlt]
    rfl
  · rw [Nat.min_eq_right (Nat.le_succ _), advance, after, List.drop_length]

/-- The next field of the queue after `j` pops, capped at the declared count, is the `j`-th. -/
theorem head?_after_min (pending : List Descriptor) (j : Nat) :
    (after pending (min j pending.length)).pending.head? = pending[j]? := by
  rcases Nat.le_total j pending.length with hle | hle
  · rw [Nat.min_eq_left hle, after, List.head?_drop]
  · rw [Nat.min_eq_right hle, after, List.drop_length, List.getElem?_eq_none hle]
    rfl

end FieldQueue

namespace FieldStep

/-- Whether a constructor step pops the queue. -/
def isPop : FieldStep → Bool
  | .blank _ => false
  | .pop .. | .discard .. => true

/-- Whether a constructor step drops the failure of its pop. -/
def dropsFailure : FieldStep → Bool
  | .discard .. => true
  | _ => false

/-- The number of pops among constructor steps. -/
def pops (steps : List FieldStep) : Nat := steps.countP isPop

@[simp] theorem pops_nil : pops [] = 0 := rfl

theorem pops_cons (x : FieldStep) (steps : List FieldStep) :
    pops (x :: steps) = pops [x] + pops steps := by
  simp only [pops, List.countP_cons, List.countP_nil]
  omega

end FieldStep

section Queue

variable {cat : Catalogue} {fuel : Nat} {ctx : Context} {pending : List Descriptor}

theorem popField_after_of_lt {j : Nat} (hj : j < pending.length) (shape : Shape)
    (absence : Absence) :
    popField cat (fuel + 1) ctx (FieldQueue.after pending j) shape absence =
      (fun b => (FieldQueue.after pending (j + 1), b)) <$>
        bindField cat fuel ctx pending[j] shape absence := by
  have hdrop : pending.drop j = pending[j] :: pending.drop (j + 1) := List.drop_eq_getElem_cons hj
  simp only [popField, FieldQueue.after, hdrop]
  rfl

theorem popField_after_length (shape : Shape) (absence : Absence) :
    popField cat (fuel + 1) ctx (FieldQueue.after pending pending.length) shape absence =
      fail (.arityMismatch ctx.cls.path pending.length (pending.length + 1)) := by
  simp [popField, FieldQueue.after]

theorem bindField_absence_irrelevant {d : Descriptor}
    (hd : d.kind = .identity ∨ d.kind = .parentRef ∨ (ctx.node.lookup d.logicalName).isSome)
    (shape : Shape) (a₁ a₂ : Absence) :
    bindField cat fuel ctx d shape a₁ = bindField cat fuel ctx d shape a₂ := by
  cases fuel with
  | zero => rfl
  | succ fuel =>
    simp only [bindField]
    rcases hd with hk | hk | hk
    · rw [hk]
    · rw [hk]
    · obtain ⟨v, hv⟩ := Option.isSome_iff_exists.mp hk
      split <;> simp [hv]

theorem popField_after_ok {j : Nat} (hj : j ≤ pending.length) {shape : Shape} {absence : Absence}
    {st : EngineState} {q : FieldQueue} {b : Bound} {st' : EngineState}
    (h : popField cat fuel ctx (FieldQueue.after pending j) shape absence st = .ok ((q, b), st')) :
    q = FieldQueue.after pending (j + 1) ∧ j < pending.length := by
  cases fuel with
  | zero => cases h
  | succ fuel =>
    -- the pop at the declared count fails, so this one came before it
    rcases Nat.lt_or_eq_of_le hj with hlt | rfl
    · rw [popField_after_of_lt hlt, map_apply] at h
      cases hb : bindField cat fuel ctx pending[j] shape absence st with
      | error e => simp [hb, Except.map] at h
      | ok p =>
        simp only [hb, Except.map, Except.ok.injEq, Prod.mk.injEq] at h
        exact ⟨h.1.1.symm, hlt⟩
    · simp [popField_after_length] at h

theorem run_after {bind : Shape → Value → EngineM Bound} {j : Nat} (hj : j ≤ pending.length)
    {slots : List (String × Slot)} {x : FieldStep} {st : EngineState} {q : FieldQueue}
    {slots' : List (String × Slot)} {st' : EngineState}
    (h : FieldStep.run bind (popField cat fuel ctx) (FieldQueue.after pending j, slots) x st =
      .ok ((q, slots'), st')) :
    q = FieldQueue.after pending (min (j + FieldStep.pops [x]) pending.length) ∧
      (x.dropsFailure = false → j + FieldStep.pops [x] ≤ pending.length) := by
  cases x with
  | blank name =>
    simp only [FieldStep.run, pure_apply, Except.ok.injEq, Prod.mk.injEq] at h
    simp [← h.1.1, FieldStep.pops, FieldStep.isPop, hj]
  | pop name shape rule =>
    obtain ⟨absence, st₁, -, h⟩ := bind_ok h
    obtain ⟨⟨queue, b⟩, st₂, hpop, h⟩ := bind_ok h
    have hq : q = queue := by
      simp only [pure_apply, Except.ok.injEq, Prod.mk.injEq] at h
      exact h.1.1.symm
    have hpops : FieldStep.pops [.pop name shape rule] = 1 := rfl
    obtain ⟨rfl, hlt⟩ := popField_after_ok hj hpop
    rw [hq, hpops, Nat.min_eq_left hlt]
    exact ⟨rfl, fun _ => hlt⟩
  | discard shape rule =>
    obtain ⟨absence, st₁, -, h⟩ := bind_ok h
    obtain ⟨queue, st₂, hrec, h⟩ := bind_ok h
    have hq : q = queue := by
      simp only [pure_apply, Except.ok.injEq, Prod.mk.injEq] at h
      exact h.1.1.symm
    have hpops : FieldStep.pops [.discard shape rule] = 1 := rfl
    refine ⟨?_, fun hd => by simp [FieldStep.dropsFailure] at hd⟩
    rw [hq, hpops]
    -- the pop went through, or failed and the queue moved on past the field it took
    rcases recover_ok hrec with hpop | ⟨-, hrecovery⟩
    · obtain ⟨⟨queue', b⟩, st₃, hpop, hend⟩ := bind_ok hpop
      simp only [pure_apply, Except.ok.injEq, Prod.mk.injEq] at hend
      obtain ⟨rfl, hlt⟩ := popField_after_ok hj hpop
      rw [← hend.1, Nat.min_eq_left hlt]
    · simp only [pure_apply, Except.ok.injEq, Prod.mk.injEq] at hrecovery
      rw [← hrecovery.1, FieldQueue.advance_after hj]

theorem foldlM_run_after {bind : Shape → Value → EngineM Bound} (steps : List FieldStep) :
    ∀ {j : Nat}, j ≤ pending.length → ∀ {slots : List (String × Slot)} {st : EngineState}
      {q : FieldQueue} {slots' : List (String × Slot)} {st' : EngineState},
      steps.foldlM (FieldStep.run bind (popField cat fuel ctx))
          (FieldQueue.after pending j, slots) st = .ok ((q, slots'), st') →
      q = FieldQueue.after pending (min (j + FieldStep.pops steps) pending.length) ∧
        ((∀ x ∈ steps, x.dropsFailure = false) → j + FieldStep.pops steps ≤ pending.length) := by
  induction steps with
  | nil =>
    intro j hj slots st q slots' st' h
    simp only [List.foldlM_nil, pure_apply, Except.ok.injEq, Prod.mk.injEq] at h
    simp [← h.1.1, hj]
  | cons x steps ih =>
    intro j hj slots st q slots' st' h
    rw [List.foldlM_cons] at h
    obtain ⟨⟨q₁, slots₁⟩, st₁, hx, hrest⟩ := bind_ok h
    obtain ⟨rfl, hkept⟩ := run_after hj hx
    obtain ⟨rfl, hkept'⟩ := ih (Nat.min_le_right _ _) hrest
    rw [FieldStep.pops_cons x steps]
    refine ⟨by congr 1; omega, fun hall => ?_⟩
    have hx' := hkept (hall x List.mem_cons_self)
    have hrest' := hkept' fun y hy => hall y (List.mem_cons_of_mem x hy)
    omega

theorem constructFields_eq_of_classify {s : FieldSchema} {ds : List Descriptor}
    (h : classify ctx.cls.path .fields s.settings s.members = .ok ds) :
    constructFields cat (fuel + 2) ctx s =
      (do
        let (_, slots) ← s.steps.foldlM
          (FieldStep.run (bindValue cat (fuel + 1) ctx) (popField cat (fuel + 1) ctx))
          (FieldQueue.after (ds.filter (·.kind != .ignored)) 0, [])
        if (ds.filter (·.kind != .ignored)).length ≤ FieldStep.pops s.steps then pure slots
        else fail (.arityMismatch ctx.cls.path (ds.filter (·.kind != .ignored)).length
          (FieldStep.pops s.steps))) := by
  funext st
  have hstart : (⟨ds.filter (·.kind != .ignored), (ds.filter (·.kind != .ignored)).length, 0⟩ :
      FieldQueue) = FieldQueue.after (ds.filter (·.kind != .ignored)) 0 := rfl
  simp only [constructFields, h, bind_apply, ofExcept_ok_apply, Except.bind, hstart]
  -- the outcome of the steps decides; on success the queue is the one after all the pops
  cases hrun : s.steps.foldlM
      (FieldStep.run (bindValue cat (fuel + 1) ctx) (popField cat (fuel + 1) ctx))
      (FieldQueue.after (ds.filter (·.kind != .ignored)) 0, []) st with
  | error e => rfl
  | ok r =>
    obtain ⟨⟨q, slots⟩, st'⟩ := r
    obtain ⟨rfl, -⟩ := foldlM_run_after s.steps (Nat.zero_le _) hrun
    simp only [FieldQueue.after, Nat.zero_add]
    have hempty : (List.drop (min (FieldStep.pops s.steps) (ds.filter (·.kind != .ignored)).length)
        (ds.filter (·.kind != .ignored))).isEmpty ↔
        (ds.filter (·.kind != .ignored)).length ≤ FieldStep.pops s.steps := by
      rw [List.isEmpty_iff, List.drop_eq_nil_iff]
      omega
    by_cases hk : (ds.filter (·.kind != .ignored)).length ≤ FieldStep.pops s.steps
    · rw [if_pos (hempty.mpr hk), if_pos hk]
    · rw [if_neg (mt hempty.mp hk), if_neg hk, Nat.min_eq_left (by omega)]

theorem constructFields_ok_pops {s : FieldSchema} {ds : List Descriptor}
    (h : classify ctx.cls.path .fields s.settings s.members = .ok ds) {st : EngineState}
    {r : List (String × Slot) × EngineState} (hok : constructFields cat (fuel + 2) ctx s st = .ok r) :
    (ds.filter (·.kind != .ignored)).length ≤ FieldStep.pops s.steps ∧
      ((∀ x ∈ s.steps, x.dropsFailure = false) →
        FieldStep.pops s.steps = (ds.filter (·.kind != .ignored)).length) := by
  rw [constructFields_eq_of_classify h] at hok
  obtain ⟨⟨q, slots⟩, st₁, hrun, hend⟩ := bind_ok hok
  have hle : (ds.filter (·.kind != .ignored)).length ≤ FieldStep.pops s.steps := by
    by_cases hk : (ds.filter (·.kind != .ignored)).length ≤ FieldStep.pops s.steps
    · exact hk
    · simp [hk] at hend
  have hkept := (foldlM_run_after s.steps (Nat.zero_le _) hrun).2
  exact ⟨hle, fun hall => by have := hkept hall; omega⟩

/-- Positional field binding, for a field-style class whose members classify into `ds`, with
`pending` the descriptors not ignored: the `j`-th pop binds the `j`-th pending descriptor, and the
pop after the last fails with one more consumed than declared; the pop's own rule matters only for a
field read from the node whose key is absent; after every prefix of the constructor's steps that
succeeds, the queue has consumed one field per pop up to the declared count, and consumed and
pending add up to it; the constructor fails as its first failing step does, and otherwise succeeds
exactly when it popped at least once per pending field, failing with the number of its pops when
there were fewer. -/
theorem fieldBinding_exact_arity {s : FieldSchema} {ds : List Descriptor}
    (h : classify ctx.cls.path .fields s.settings s.members = .ok ds) :
    let pending := ds.filter (·.kind != .ignored)
    let run := FieldStep.run (bindValue cat (fuel + 1) ctx) (popField cat (fuel + 1) ctx)
    (∀ (j : Nat) (hj : j < pending.length) (shape : Shape) (absence : Absence),
      popField cat (fuel + 1) ctx (FieldQueue.after pending j) shape absence =
        (fun b => (FieldQueue.after pending (j + 1), b)) <$>
          bindField cat fuel ctx pending[j] shape absence) ∧
    (∀ (shape : Shape) (absence : Absence),
      popField cat (fuel + 1) ctx (FieldQueue.after pending pending.length) shape absence =
        fail (.arityMismatch ctx.cls.path pending.length (pending.length + 1))) ∧
    (∀ d : Descriptor,
      d.kind = .identity ∨ d.kind = .parentRef ∨ (ctx.node.lookup d.logicalName).isSome →
      ∀ (shape : Shape) (a₁ a₂ : Absence),
        bindField cat fuel ctx d shape a₁ = bindField cat fuel ctx d shape a₂) ∧
    (∀ pre : List FieldStep, pre <+: s.steps → ∀ (st : EngineState) (q : FieldQueue)
      (slots : List (String × Slot)) (st' : EngineState),
      pre.foldlM run (FieldQueue.after pending 0, []) st = .ok ((q, slots), st') →
        q = FieldQueue.after pending (min (FieldStep.pops pre) pending.length) ∧
          q.consumed + q.pending.length = pending.length) ∧
    constructFields cat (fuel + 2) ctx s =
      (do
        let (_, slots) ← s.steps.foldlM run (FieldQueue.after pending 0, [])
        if pending.length ≤ FieldStep.pops s.steps then pure slots
        else fail (.arityMismatch ctx.cls.path pending.length (FieldStep.pops s.steps))) ∧
    (∀ (st : EngineState) (r : List (String × Slot) × EngineState),
      constructFields cat (fuel + 2) ctx s st = .ok r →
        pending.length ≤ FieldStep.pops s.steps ∧
          ((∀ x ∈ s.steps, x.dropsFailure = false) → FieldStep.pops s.steps = pending.length)) := by
  intro pending run
  refine ⟨fun j hj => popField_after_of_lt hj, popField_after_length,
    fun d hd => bindField_absence_irrelevant hd, ?_, constructFields_eq_of_classify h,
    fun st r hok => constructFields_ok_pops h hok⟩
  intro pre _ st q slots st' hrun
  obtain ⟨rfl, -⟩ := foldlM_run_after pre (Nat.zero_le _) hrun
  rw [Nat.zero_add]
  exact ⟨rfl, FieldQueue.after_consumed_add_remaining (Nat.min_le_right _ _)⟩

end Queue

theorem fieldBinding_exact_arity_host_port :
    let s : FieldSchema := { fields := [{ name := "host", shape := .scalar .string, attr := .required },
      { name := "port", shape := .scalar (.int .u16), attr := .withDefault,
        default := some (.int 8080) }] }
    let ctx : Context := ⟨[("host", .str "h")], [(⟨"F0", "F0"⟩, 0)], ⟨"F0", "F0"⟩⟩
    classify ctx.cls.path .fields s.settings s.members =
        .ok [⟨"host", "host", "alloc::string::String", .required⟩, ⟨"port", "port", "u16", .withDefault⟩] ∧
      ∀ (st : EngineState) (r : List (String × Slot) × EngineState),
        constructFields ⟨[]⟩ 2 ctx s st = .ok r → FieldStep.pops s.steps = 2 := by
  intro s ctx
  have h : classify ctx.cls.path .fields s.settings s.members =
      .ok [⟨"host", "host", "alloc::string::String", .required⟩, ⟨"port", "port", "u16", .withDefault⟩] := rfl
  refine ⟨h, fun st r hok => ?_⟩
  exact ((@fieldBinding_exact_arity ⟨[]⟩ 0 ctx s _ h).2.2.2.2.2 st r hok).2 (by decide)

/-- A constructor with one `u32` field that pops it, then pops once more and drops that pop's
failure, succeeds on the empty node: two pops for one declared field. -/
theorem dropped_surplus_pop_is_accepted :
    let port : FieldDecl := { name := "port", shape := .scalar (.int .u32) }
    let dropped : ExtraPop := { op := .withZero, shape := .scalar (.int .u32), ignoresFailure := true }
    let s : FieldSchema := { fields := [port], extraPops := [dropped] }
    let ctx : Context := ⟨[], [(⟨"F0", "F0"⟩, 0)], ⟨"F0", "F0"⟩⟩
    FieldStep.pops s.steps = 2 ∧
      classify ctx.cls.path .fields s.settings s.members = .ok [⟨"port", "port", "u32", .zero⟩] ∧
      constructFields ⟨[]⟩ 4 ctx s {} = .ok ([("port", .bound (.typed (.int .u32 0)))], {}) := by
  intro port dropped s ctx
  have hclass : classify ctx.cls.path .fields s.settings s.members = .ok [⟨"port", "port", "u32", .zero⟩] := rfl
  have hnone : ctx.node.lookup "port" = none := Node.lookupSegments_empty _
  refine ⟨rfl, hclass, ?_⟩
  have hsteps : s.steps = [.pop (some "port") (.scalar (.int .u32)) .zero,
      .discard (.scalar (.int .u32)) .zero] := rfl
  have hpop : popField ⟨[]⟩ 3 ctx (FieldQueue.after [⟨"port", "port", "u32", .zero⟩] 0)
      (.scalar (.int .u32)) .zero {} =
      .ok ((FieldQueue.after [⟨"port", "port", "u32", .zero⟩] 1, .typed (.int .u32 0)), {}) := by
    rw [popField_after_of_lt (by decide)]
    simp [bindField, hnone, zeroValue, map_apply, within, Except.map, bind_apply, Target.zero?, Except.bind]
  have hsurplus : popField ⟨[]⟩ 3 ctx (FieldQueue.after [⟨"port", "port", "u32", .zero⟩] 1)
      (.scalar (.int .u32)) .zero = fail (.arityMismatch "F0" 1 2) :=
    popField_after_length _ _
  -- the surplus pop fails, and dropping the failure leaves the queue where it was
  have hdrop : ((Prod.fst <$> popField ⟨[]⟩ 3 ctx (FieldQueue.after [⟨"port", "port", "u32", .zero⟩] 1)
      (.scalar (.int .u32)) .zero : EngineM FieldQueue).recover
        (pure (FieldQueue.after [⟨"port", "port", "u32", .zero⟩] 1))) {} =
      .ok (FieldQueue.after [⟨"port", "port", "u32", .zero⟩] 1, {}) := by
    rw [recover_of_config (e := .arityMismatch "F0" 1 2) (by rw [map_apply, hsurplus]; rfl)]
    rfl
  rw [constructFields_eq_of_classify hclass, hsteps]
  simp [FieldStep.run, PopRule.absence, bind_apply, hpop, Except.bind, FieldQueue.advance_after,
    FieldStep.pops, FieldStep.isPop, map_apply, hdrop, Except.map]

end ConfigTree
