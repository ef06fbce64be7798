import ConfigTree.Proofs.Binding.FailureSite
import ConfigTree.Proofs.Node.Paths
import ConfigTree.Binding.Evaluate

namespace ConfigTree

open EngineM

namespace EngineM

def NoConfig {α : Type} (x : EngineM α) : Prop := ∀ st e, x st ≠ .error (.config e)

namespace NoConfig

theorem of_pure {α : Type} (a : α) : NoConfig (pure a : EngineM α) := fun _ _ h => nomatch h

theorem bind {α β : Type} {x : EngineM α} {f : α → EngineM β} (hx : NoConfig x)
    (hf : ∀ a, NoConfig (f a)) : NoConfig (x >>= f) := by
  intro st e h
  rcases bind_error h with hfirst | ⟨a, st₁, -, hrest⟩
  · exact hx st e hfirst
  · exact hf a st₁ e hrest

theorem of_get : NoConfig (get : EngineM EngineState) := fun _ _ h => nomatch h

theorem of_modify (f : EngineState → EngineState) : NoConfig (modify f : EngineM PUnit) :=
  fun _ _ h => nomatch h

theorem of_throw {α : Type} {err : Failure} (herr : ∀ e, err ≠ .config e) :
    NoConfig (throw err : EngineM α) := fun _ e h => herr e (Except.error.inj h)

theorem of_exhausted {α : Type} : NoConfig (throw .exhausted : EngineM α) :=
  of_throw fun _ h => Failure.noConfusion h

theorem mapM {α β : Type} {f : α → EngineM β} (hf : ∀ a, NoConfig (f a)) (xs : List α) :
    NoConfig (xs.mapM f) := by
  induction xs with
  | nil => exact of_pure []
  | cons x xs ih =>
    rw [List.mapM_cons]
    exact bind (hf x) fun b => bind ih fun bs => of_pure _

theorem forIn_list {α β : Type} {f : α → β → EngineM (ForInStep β)} (hf : ∀ a b, NoConfig (f a b))
    (xs : List α) (b : β) : NoConfig (forIn xs b f) := by
  induction xs generalizing b with
  | nil => exact of_pure b
  | cons x xs ih =>
    rw [List.forIn_cons]
    refine bind (hf x b) fun step => ?_
    cases step with
    | done b' => exact of_pure b'
    | yield b' => exact ih b'

end NoConfig

end EngineM

namespace EngineM.NoConfig

theorem of_logEval (entry : String) : NoConfig (logEval entry) := of_modify _

theorem of_setMemo (cell : Nat) (m : MemoCell) : NoConfig (setMemo cell m) := of_modify _

theorem of_memo (cell : Nat) : NoConfig (memo cell) := bind of_get fun _ => of_pure _

end EngineM.NoConfig

/-- Calling getters, evaluating bodies and rendering never fail with a configuration error. -/
structure Quiet (cat : Catalogue) (fuel : Nat) : Prop where
  call : ∀ self name, NoConfig (callGetter cat fuel self name)
  body : ∀ self b, NoConfig (evalBody cat fuel self b)
  member : ∀ i m, NoConfig (memberOf cat fuel i m)
  bound : ∀ b, NoConfig (renderBound cat fuel b)
  inst : ∀ id, NoConfig (renderInstance cat fuel id)

namespace Quiet

variable {cat : Catalogue} {fuel : Nat}

theorem call_succ (q : Quiet cat fuel) (self : Nat) (name : String) :
    NoConfig (callGetter cat (fuel + 1) self name) := by
  simp only [callGetter]
  refine NoConfig.bind NoConfig.of_get fun st => ?_
  split
  · exact NoConfig.of_pure _
  split
  · exact NoConfig.of_pure _
  split
  · exact NoConfig.of_pure _
  -- a getter without binding runs its body, a bound one renders, a memo runs its body once
  split
  · exact NoConfig.bind (NoConfig.of_logEval _) fun _ => q.body _ _
  · exact q.bound _
  · refine NoConfig.bind (NoConfig.of_memo _) fun cell => ?_
    split
    · exact NoConfig.of_pure _
    · exact NoConfig.of_throw fun _ h => Failure.noConfusion h
    · exact NoConfig.bind (NoConfig.of_setMemo _ _) fun _ => NoConfig.bind (NoConfig.of_logEval _) fun _ =>
        NoConfig.bind (q.body _ _) fun _ => NoConfig.bind (NoConfig.of_setMemo _ _) fun _ => NoConfig.of_pure _
  · exact NoConfig.of_pure _

theorem body_succ (q : Quiet cat fuel) (self : Nat) (b : Body) :
    NoConfig (evalBody cat (fuel + 1) self b) := by
  cases b with
  | literal j => exact NoConfig.of_pure j
  | get m => exact q.call self m
  | inc b => exact NoConfig.bind (q.body self b) fun _ => NoConfig.of_pure _
  | concat parts => exact NoConfig.bind (NoConfig.mapM (q.body self) parts) fun _ => NoConfig.of_pure _
  | seq steps => exact NoConfig.bind (NoConfig.mapM (q.body self) steps) fun _ => NoConfig.of_pure _
  | parentGet p m otherwise =>
    refine NoConfig.bind NoConfig.of_get fun st => ?_
    split
    · exact q.member _ m
    · exact q.body self otherwise
  | convert t b => exact NoConfig.bind (q.body self b) fun _ => NoConfig.of_pure _
  | ifParent p present absent =>
    refine NoConfig.bind NoConfig.of_get fun st => ?_
    split
    · exact q.body self present
    · exact q.body self absent

theorem member_succ (q : Quiet cat fuel) (i : Instance) (m : String) :
    NoConfig (memberOf cat (fuel + 1) i m) := by
  simp only [memberOf]
  split
  · exact q.call _ m
  · split
    · exact q.bound _
    · exact NoConfig.of_pure _

theorem bound_succ (q : Quiet cat fuel) (b : Bound) : NoConfig (renderBound cat (fuel + 1) b) := by
  cases b with
  | typed t => exact NoConfig.of_pure _
  | absent => exact NoConfig.of_pure _
  | present b => exact q.bound b
  | items bs => exact NoConfig.bind (NoConfig.mapM q.bound bs) fun _ => NoConfig.of_pure _
  | unordered bs => exact NoConfig.bind (NoConfig.mapM q.bound bs) fun _ => NoConfig.of_pure _
  | entries kvs => exact NoConfig.bind (NoConfig.mapM (fun _ => NoConfig.bind (q.bound _) fun _ => NoConfig.of_pure _) kvs) fun _ => NoConfig.of_pure _
  | unorderedEntries kvs =>
    exact NoConfig.bind (NoConfig.mapM (fun _ => NoConfig.bind (q.bound _) fun _ => NoConfig.of_pure _) kvs) fun _ => NoConfig.of_pure _
  | inst id => exact q.inst id
  | parent c a => exact NoConfig.of_pure _

theorem inst_succ (q : Quiet cat fuel) (id : Nat) : NoConfig (renderInstance cat (fuel + 1) id) := by
  simp only [renderInstance]
  refine NoConfig.bind NoConfig.of_get fun st => ?_
  split
  · exact NoConfig.of_pure _
  -- fields render their bound values, getters are called
  split
  · refine NoConfig.bind (NoConfig.mapM (fun x => ?_) _) fun _ =>
      NoConfig.bind (NoConfig.of_pure _) fun _ => NoConfig.of_pure _
    split
    · exact NoConfig.bind (q.bound _) fun _ => NoConfig.of_pure _
    · exact NoConfig.bind (NoConfig.of_pure _) fun _ => NoConfig.of_pure _
  · exact NoConfig.bind
      (NoConfig.mapM (fun _ => NoConfig.bind (q.call _ _) fun _ => NoConfig.of_pure _) _) fun _ =>
        NoConfig.bind (NoConfig.of_pure _) fun _ => NoConfig.of_pure _

end Quiet

theorem quiet (cat : Catalogue) : ∀ fuel, Quiet cat fuel
  | 0 => ⟨fun _ _ => .of_exhausted, fun _ _ => .of_exhausted, fun _ _ => .of_exhausted,
      fun _ => .of_exhausted, fun _ => .of_exhausted⟩
  | fuel + 1 =>
    let q := quiet cat fuel
    ⟨q.call_succ, q.body_succ, q.member_succ, q.bound_succ, q.inst_succ⟩

theorem completeInstance_noConfig (cat : Catalogue) (fuel : Nat) (i : Instance) :
    NoConfig (completeInstance cat fuel i) := by
  simp only [completeInstance]
  split
  · exact NoConfig.of_pure _
  · -- both passes only call getters
    have hcall := fun (g : GetterDecl) (_ : PUnit) =>
      NoConfig.bind ((quiet cat fuel).call i.id g.name) fun _ => NoConfig.of_pure (ForInStep.yield ())
    exact NoConfig.bind (NoConfig.forIn_list hcall _ _) fun _ =>
      NoConfig.bind (NoConfig.forIn_list hcall _ _) fun _ => NoConfig.of_pure _

theorem materialize_error {cat : Catalogue} {root : ClassRef} {node : Node} {e : ConfigError}
    (h : materialize cat root node = .error (.config e)) :
    materializeIn cat (constructionFuel cat) root node [] {} = .error (.config e) := by
  have hthen : materializeThen cat evaluationFuel root node (renderInstance cat evaluationFuel) =
      .error (.config e) := by
    simp only [materialize, bind, Except.bind] at h
    split at h
    · next err hthen =>
      cases h
      exact hthen
    · cases h
  simp only [materializeThen, StateT.run] at hthen
  rcases bind_error hthen with hbuild | ⟨id, st₁, -, hrest⟩
  · exact hbuild
  -- completing and rendering the instances cannot fail with a configuration error
  refine absurd hrest (NoConfig.bind NoConfig.of_get (fun st => ?_) st₁ e)
  rw [← Array.forIn_toList]
  exact NoConfig.bind (NoConfig.forIn_list (fun i _ => NoConfig.bind (completeInstance_noConfig cat _ i) fun _ => NoConfig.of_pure _) _ _)
    fun _ => (quiet cat _).inst id

theorem materializeThen_of_root_error {cat : Catalogue} {root : ClassRef} {node : Node}
    {e : Failure} (h : materializeIn cat (constructionFuel cat) root node [] {} = .error e)
    {α : Type} (n : Nat) (k : Nat → EngineM α) : materializeThen cat n root node k = .error e := by
  simp only [materializeThen, StateT.run, bind_apply, h]
  rfl

theorem materialize_of_root_error {cat : Catalogue} {root : ClassRef} {node : Node} {e : Failure}
    (h : materializeIn cat (constructionFuel cat) root node [] {} = .error e) :
    materialize cat root node = .error e := by
  simp only [materialize, materializeThen_of_root_error h]
  rfl

theorem Task.FailsAt.raised_of_isKeyed {cat : Catalogue} {task : Task} {p : List Segment}
    {leaf : ConfigError} (h : task.FailsAt cat p leaf) (hk : leaf.isKeyed = true) : leaf.Raised := by
  induction h with
  | read hf | atomic hf | entryKey _ _ hf => exact hf.raised.1
  | notItems | notEntries | notNode | parent | unresolvable | missing => trivial
  | own hown => exact absurd hk (by rw [hown]; decide)
  | option _ ih | guarded _ ih | item _ _ _ _ ih | entryValue _ _ _ ih | nested _ ih
  | zeroGuarded _ ih | zeroNested _ ih | wholeNested _ ih | wholeOption _ ih | present _ _ _ ih
  | absent _ _ _ _ ih | preset _ _ _ _ ih => exact ih hk

/-- Failure keys are binding paths. -/
theorem failure_key_is_binding_path (cat : Catalogue) (root : ClassRef) (node : Node) (n : Node)
    (path : String) (t : Target) :
    (∀ e : ConfigError, materialize cat root node = .error (.config e) →
      ∃ p leaf, (Task.inst root node).FailsAt cat p leaf ∧ e = leaf.under p ∧
        (leaf.isKeyed = false → e = leaf) ∧
        (leaf.isKeyed = true → leaf.Raised ∧
          (PlainPath (p ++ leaf.ownSteps) → e.key? = renderPath (p ++ leaf.ownSteps)))) ∧
    (∀ e : ConfigError, n.tryGet path t = .error e →
      ∃ v ps leaf, n.lookup path = some v ∧ t.FailsAt v ps leaf ∧
        e = leaf.under (.member path :: ps.map .position) ∧
        e.key? = some (path ++ String.join (ps.map fun i => "[" ++ toString i ++ "]"))) := by
  refine ⟨fun e h => ?_, fun e h => Node.tryGet_eq_error h⟩
  obtain ⟨p, leaf, hf, rfl⟩ :=
    (located cat (constructionFuel cat)).inst root node [] {} e (materialize_error h)
  refine ⟨p, leaf, hf, rfl, fun hk => ConfigError.under_of_isKeyed_false hk p, fun hk => ?_⟩
  have hraised := hf.raised_of_isKeyed hk
  exact ⟨hraised, key?_under hraised p⟩

theorem failure_key_is_binding_path_unpopped_field_and_nested_item :
    let cat : Catalogue := ⟨[(⟨"F0", "F0"⟩, .fields
      { fields := [{ name := "n", shape := .scalar (.int .u8), attr := .required, pop := .none }] })]⟩
    let n : Node := [("v", .list [.list [.bool true, .int 3]])]
    let e : ConfigError := (((mismatch (.int 3) "bool").within "[1]").within "[0]").within "v"
    (materialize cat ⟨"F0", "F0"⟩ [] = .error (.config (.arityMismatch "F0" 1 0)) ∧
      n.tryGet "v" (.list (.list .bool)) = .error e) ∧
    (∃ p leaf, (Task.inst ⟨"F0", "F0"⟩ []).FailsAt cat p leaf ∧
      ConfigError.arityMismatch "F0" 1 0 = leaf.under p ∧
      (leaf.isKeyed = false → ConfigError.arityMismatch "F0" 1 0 = leaf) ∧
      (leaf.isKeyed = true → leaf.Raised ∧ (PlainPath (p ++ leaf.ownSteps) →
        (ConfigError.arityMismatch "F0" 1 0).key? = renderPath (p ++ leaf.ownSteps)))) ∧
    (∃ v ps leaf, n.lookup "v" = some v ∧ (Target.list (.list .bool)).FailsAt v ps leaf ∧
      e = leaf.under (.member "v" :: ps.map .position) ∧
      e.key? = some ("v" ++ String.join (ps.map fun i => "[" ++ toString i ++ "]"))) := by
  intro cat n e
  have hseg : Node.segments "v" = ["v"] := Node.segments_of_undotted (by decide)
  have hmat : materialize cat ⟨"F0", "F0"⟩ [] = .error (.config (.arityMismatch "F0" 1 0)) := rfl
  have hget : n.tryGet "v" (.list (.list .bool)) = .error e := by
    simp only [Node.tryGet, Node.lookup, hseg]
    rfl
  have hkeys := failure_key_is_binding_path cat ⟨"F0", "F0"⟩ [] n "v" (.list (.list .bool))
  exact ⟨⟨hmat, hget⟩, hkeys.1 _ hmat, hkeys.2 e hget⟩

/-- A map entry whose key starts with `[` is spelled as a position: the failure inside it is
reported at `m[x`, where the binding path spells `m.[x`. -/
theorem map_key_starting_with_bracket_reads_as_position :
    let s : FieldSchema := { fields := [{ name := "m", shape := .orderedMap .string (.scalar (.int .u32)) }] }
    let cat : Catalogue := ⟨[(⟨"F0", "F0"⟩, .fields s)]⟩
    let e : ConfigError := ((mismatch (.str "abc") "u32").within "[x").within "m"
    materialize cat ⟨"F0", "F0"⟩ [("m", .node [("[x", .str "abc")])] = .error (.config e) ∧
      e.key? = some "m[x" ∧ renderPath [.member "m", .entry "[x"] = some "m.[x" := by
  intro s cat e
  have hkey : e.key? = some "m[x" := by
    simp [e, mismatch, ConfigError.conversion, ConfigError.within, ConfigError.joinKey, ConfigError.key?]
  have hpath : renderPath [.member "m", .entry "[x"] = some "m.[x" := by
    simp [renderPath, Segment.text, Segment.joined]
  refine ⟨?_, hkey, hpath⟩
  let shape : Shape := .orderedMap .string (.scalar (.int .u32))
  let d : Descriptor :=
    ⟨"m", "m", "alloc::collections::btree::map::BTreeMap<alloc::string::String, u32>", .zero⟩
  have hread : readInt .u32 (.str "abc") = .error (mismatch (.str "abc") "u32") := by
    simp [readInt, readTextNumber, readIntLiteral, splitSign, allDigits, IntKind.name]
  -- the entry fails to read as a `u32`, and the entry and the member each place the failure
  -- under their text
  have hbind : ∀ (lineage : List (ClassRef × Nat)) (st : EngineState),
      bindField cat 382 ⟨[("m", .node [("[x", .str "abc")])], lineage, ⟨"F0", "F0"⟩⟩ d shape .zero st =
        .error (.config e) := by
    intro lineage st
    have hlookup : Node.lookup [("m", .node [("[x", .str "abc")])] "m" =
        some (.node [("[x", .str "abc")]) := by
      simp only [Node.lookup, Node.segments_of_undotted (by decide : '.' ∉ "m".toList),
        Node.lookupSegments_singleton, Node.find?_cons, if_pos]
    simp only [bindField, hlookup, d, shape, bindValue, within, Target.read, readString, hread,
      List.mapM_cons, List.mapM_nil, bind_apply, pure_apply, EngineM.ofExcept, Except.map,
      Except.bind, fail_apply, e]
  have hclass : classify "F0" .fields s.settings s.members = .ok [d] := rfl
  have hsteps : s.steps = [.pop (some "m") shape .zero] := rfl
  have hpending : [d].filter (·.kind != .ignored) = [d] := rfl
  have hfields : ∀ (lineage : List (ClassRef × Nat)) (st : EngineState),
      constructFields cat 384 ⟨[("m", .node [("[x", .str "abc")])], lineage, ⟨"F0", "F0"⟩⟩ s st =
        .error (.config e) := by
    intro lineage st
    rw [constructFields_eq_of_classify hclass, hsteps, hpending]
    simp only [List.foldlM_cons, List.foldlM_nil, FieldStep.run, PopRule.absence, pure_apply,
      popField_after_of_lt (by decide : 0 < [d].length), List.getElem_cons_zero, bind_apply,
      map_apply, hbind, Except.map, Except.bind]
  apply materialize_of_root_error
  have hfuel : constructionFuel cat = 64 * (cat.shapeDepth + 4) + 1 := rfl
  have hdepth : cat.shapeDepth = 2 := by decide
  have hschema : cat.schema ⟨"F0", "F0"⟩ = .fields s := rfl
  have hfresh : (freshId : EngineM Nat) {} = .ok (0, { nextId := 1 }) := rfl
  rw [hfuel, hdepth]
  simp only [materializeIn, hschema, List.length_nil, depthLimit, ge_iff_le, nonpos_iff_eq_zero,
    reduceCtorEq, if_false, bind_apply, Except.bind, hfresh, hfields]

end ConfigTree
