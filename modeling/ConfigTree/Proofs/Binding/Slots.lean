import ConfigTree.Proofs.Binding.Record
import ConfigTree.Proofs.Binding.Enclosing
import Mathlib.Data.List.Forall2

namespace ConfigTree

open EngineM

/-- The slot the constructor of a getter-style class leaves for getter `g`, with the descriptors
`ds` of its members, binding the value under a key with `bindValue` and an absent key with
`zeroValue`. -/
inductive GetterSlot (bindValue : Shape → Value → EngineM Bound)
    (zeroValue : Shape → EngineM (Option Bound)) (ctx : Context) (ds : List Descriptor)
    (g : GetterDecl) : Slot → Prop
  | property {d : Descriptor} {v : Value} {b : Bound} {st st' : EngineState} :
      g.binding = some .property → ds.reverse.find? (·.member == g.name) = some d →
      ctx.node.lookup d.logicalName = some v →
      within d.logicalName (bindValue g.valueShape v) st = .ok (b, st') →
      GetterSlot bindValue zeroValue ctx ds g (.bound b)
  | zero {d : Descriptor} {b : Bound} {st st' : EngineState} :
      g.binding = some .property → ds.reverse.find? (·.member == g.name) = some d →
      ctx.node.lookup d.logicalName = none →
      within d.logicalName (zeroValue g.valueShape) st = .ok (some b, st') →
      GetterSlot bindValue zeroValue ctx ds g (.bound b)
  | configured {d : Descriptor} {v : Value} {b : Bound} {st st' : EngineState} :
      g.binding = some .defaulted → ds.reverse.find? (·.member == g.name) = some d →
      ctx.node.lookup d.logicalName = some v →
      within d.logicalName (bindValue g.valueShape v) st = .ok (b, st') →
      GetterSlot bindValue zeroValue ctx ds g (.bound b)
  | deferred {d : Descriptor} {c : Nat} :
      g.binding = some .defaulted → ds.reverse.find? (·.member == g.name) = some d →
      ctx.node.lookup d.logicalName = none → GetterSlot bindValue zeroValue ctx ds g (.memo c)
  | computed {c : Nat} : g.binding = some .computed → GetterSlot bindValue zeroValue ctx ds g (.memo c)
  | identity {b : Bound} : g.binding = some .identity → g.valueShape.fromIdentity? ctx.node = some b →
      GetterSlot bindValue zeroValue ctx ds g (.bound b)
  | parent : g.binding = some .parent →
      GetterSlot bindValue zeroValue ctx ds g (.bound (.parent g.target (ctx.parentOf g.target)))

def GetterDecl.Holds (g : GetterDecl) : Slot → Prop
  | .memo _ => g.binding = some .defaulted ∨ g.binding = some .computed
  | .bound _ => g.binding = some .property ∨ g.binding = some .defaulted ∨
      g.binding = some .identity ∨ g.binding = some .parent
  | .blank => False

section GetterSlot

variable {bv : Shape → Value → EngineM Bound} {zv : Shape → EngineM (Option Bound)} {ctx : Context}
  {ds : List Descriptor} {g : GetterDecl} {sl : Slot}

theorem GetterSlot.holds (h : GetterSlot bv zv ctx ds g sl) : g.Holds sl := by
  cases h with
  | property hb | zero hb | configured hb | deferred hb | computed hb | identity hb | parent hb =>
    simp [GetterDecl.Holds, hb]

theorem GetterSlot.isSome (h : GetterSlot bv zv ctx ds g sl) : g.binding.isSome := by
  cases h <;> simp [*]

theorem descriptor_ok {ds : List Descriptor} {c : ClassRef} {name : String} {d : Descriptor}
    {st st' : EngineState}
    (h : (match List.find? (fun x => x.member == name) ds.reverse with
      | some d => pure d
      | none => fail (ConfigError.markerMisuse c.path name "is not a declared property") :
        EngineM Descriptor) st = .ok (d, st')) :
    ds.reverse.find? (·.member == name) = some d ∧ st' = st := by
  cases hf : List.find? (fun x => x.member == name) ds.reverse with
  | none => rw [hf] at h; cases h
  | some d' => rw [hf] at h; cases h; exact ⟨rfl, rfl⟩

theorem bindGetter_slot {slots slots' : List (String × Slot)} {st st' : EngineState}
    (h : bindGetter bv zv ctx ds slots g st = .ok (slots', st')) :
    (g.binding = none ∧ slots' = slots) ∨
      ∃ sl, slots' = slots ++ [(g.name, sl)] ∧ GetterSlot bv zv ctx ds g sl := by
  simp only [bindGetter] at h
  cases hb : g.binding with
  | none =>
    rw [hb] at h
    cases h
    exact .inl ⟨rfl, rfl⟩
  | some k =>
    refine .inr ?_
    cases k <;> simp only [hb] at h
    case property =>
      obtain ⟨d, st₁, hd, hk⟩ := bind_ok h
      obtain ⟨hfind, rfl⟩ := descriptor_ok hd
      cases hv : ctx.node.lookup d.logicalName with
      | some v =>
        rw [hv] at hk
        obtain ⟨b, st₂, hbind, hk⟩ := bind_ok hk
        cases hk
        exact ⟨_, rfl, .property hb hfind hv hbind⟩
      | none =>
        rw [hv] at hk
        obtain ⟨b?, st₂, hzero, hk⟩ := bind_ok hk
        cases b? with
        | some b =>
          cases hk
          exact ⟨_, rfl, .zero hb hfind hv hzero⟩
        | none => cases hk
    case defaulted =>
      obtain ⟨d, st₁, hd, hk⟩ := bind_ok h
      obtain ⟨hfind, rfl⟩ := descriptor_ok hd
      cases hv : ctx.node.lookup d.logicalName with
      | some v =>
        rw [hv] at hk
        obtain ⟨b, st₂, hbind, hk⟩ := bind_ok hk
        cases hk
        exact ⟨_, rfl, .configured hb hfind hv hbind⟩
      | none =>
        rw [hv] at hk
        obtain ⟨c, st₂, -, hk⟩ := bind_ok hk
        cases hk
        exact ⟨_, rfl, .deferred hb hfind hv⟩
    case computed =>
      obtain ⟨_, st₁, -, h⟩ := bind_ok h
      obtain ⟨c, st₂, -, h⟩ := bind_ok h
      cases h
      exact ⟨_, rfl, .computed hb⟩
    case identity =>
      obtain ⟨_, st₁, -, h⟩ := bind_ok h
      cases hid : g.valueShape.fromIdentity? ctx.node with
      | some b =>
        rw [hid] at h
        cases h
        exact ⟨_, rfl, .identity hb hid⟩
      | none =>
        rw [hid] at h
        cases h
    case parent =>
      obtain ⟨_, st₁, -, h⟩ := bind_ok h
      cases h
      exact ⟨_, rfl, .parent hb⟩

theorem foldlM_bindGetter : ∀ (gs : List GetterDecl) (acc : List (String × Slot))
    {st : EngineState} {slots : List (String × Slot)} {st' : EngineState},
    gs.foldlM (bindGetter bv zv ctx ds) acc st = .ok (slots, st') →
    ∃ added, slots = acc ++ added ∧ List.Forall₂ (fun g p => p.1 = g.name ∧ GetterSlot bv zv ctx ds g p.2)
      (gs.filter (·.binding.isSome)) added
  | [], acc, _, _, _, h => by
    cases h
    exact ⟨[], by simp, .nil⟩
  | g :: gs, acc, st, slots, st', h => by
    rw [List.foldlM_cons] at h
    obtain ⟨acc₁, st₁, h₁, h₂⟩ := bind_ok h
    obtain ⟨added, rfl, hadded⟩ := foldlM_bindGetter gs acc₁ h₂
    rcases bindGetter_slot h₁ with ⟨hb, rfl⟩ | ⟨sl, rfl, hsl⟩
    · refine ⟨added, rfl, ?_⟩
      rwa [List.filter_cons_of_neg (p := fun x : GetterDecl => x.binding.isSome) (by simp [hb])]
    · refine ⟨(g.name, sl) :: added, by simp, ?_⟩
      rw [List.filter_cons_of_pos (p := fun x : GetterDecl => x.binding.isSome) hsl.isSome]
      exact .cons ⟨rfl, hsl⟩ hadded

end GetterSlot

theorem constructGetters_slots {cat : Catalogue} {fuel : Nat} {ctx : Context} {s : GetterSchema}
    {st : EngineState} {slots : List (String × Slot)} {st' : EngineState}
    (h : constructGetters cat (fuel + 1) ctx s st = .ok (slots, st')) :
    ∃ ds, classify ctx.cls.path .getters s.settings s.members = .ok ds ∧
      List.Forall₂ (fun g p => p.1 = g.name ∧
          GetterSlot (bindValue cat fuel ctx) (zeroValue cat fuel ctx) ctx ds g p.2)
        (s.getters.filter (·.binding.isSome)) slots := by
  simp only [constructGetters] at h
  obtain ⟨ds, st₁, hds, h⟩ := bind_ok h
  cases hc : classify ctx.cls.path .getters s.settings s.members with
  | error e =>
    rw [hc] at hds
    cases hds
  | ok ds' =>
    rw [hc] at hds
    cases hds
    obtain ⟨added, rfl, hadded⟩ := foldlM_bindGetter s.getters [] h
    exact ⟨ds, rfl, hadded⟩

def Instance.Fits (cat : Catalogue) (x : Instance) : Prop :=
  ∀ s, cat.schema x.cls = .getters s →
    List.Forall₂ (fun g p => p.1 = g.name ∧ g.Holds p.2) (s.getters.filter (·.binding.isSome)) x.slots

theorem records_fits (cat : Catalogue) : Records cat (Instance.Fits cat) := by
  intro fuel n c id enc st slots st'
  refine ⟨fun s hs _ s' hs' => ?_, fun s hs h s' hs' => ?_⟩
  · rw [hs] at hs'
    cases hs'
  · rw [hs] at hs'
    cases hs'
    cases fuel with
    | zero => cases h
    | succ fuel =>
      obtain ⟨ds, -, hslots⟩ := constructGetters_slots h
      exact hslots.imp fun _ _ ⟨hname, hslot⟩ => ⟨hname, hslot.holds⟩

theorem find?_filter_of_find? {α : Type} {l : List α} {p q : α → Bool} {a : α}
    (h : l.find? p = some a) (hq : q a = true) : (l.filter q).find? p = some a := by
  induction l with
  | nil => cases h
  | cons x xs ih =>
    by_cases hpx : p x = true
    · rw [List.find?_cons_of_pos hpx] at h
      cases h
      rw [List.filter_cons_of_pos hq, List.find?_cons_of_pos hpx]
    · rw [List.find?_cons_of_neg hpx] at h
      by_cases hqx : q x = true
      · rw [List.filter_cons_of_pos hqx, List.find?_cons_of_neg hpx]
        exact ih h
      · rw [List.filter_cons_of_neg hqx]
        exact ih h

theorem lookup_of_forall₂ {R : GetterDecl → Slot → Prop} :
    ∀ {gs : List GetterDecl} {slots : List (String × Slot)},
      List.Forall₂ (fun g p => p.1 = g.name ∧ R g p.2) gs slots →
      ∀ {n : String} {sl : Slot}, slots.lookup n = some sl → ∃ g, gs.find? (·.name == n) = some g ∧ R g sl
  | _, _, .nil, _, _, h => by cases h
  | g :: gs, (m, sl') :: slots, .cons ⟨hname, hR⟩ hrest, n, sl, h => by
    simp only at hname
    subst hname
    by_cases hn : n = g.name
    · subst hn
      simp only [List.lookup_cons_self, Option.some.injEq] at h
      subst h
      exact ⟨g, by simp, hR⟩
    · have hne : (n == g.name) = false := by simpa using hn
      rw [List.lookup_cons, hne] at h
      obtain ⟨g', hg', hR'⟩ := lookup_of_forall₂ hrest h
      exact ⟨g', by rw [List.find?_cons_of_neg (by simpa using Ne.symm hn)]; exact hg', hR'⟩

theorem Instance.Fits.memo_binding {cat : Catalogue} {x : Instance} (hfit : x.Fits cat)
    {s : GetterSchema} (hs : cat.schema x.cls = .getters s) {n : String} {g : GetterDecl}
    (hg : s.find? n = some g) (hb : g.binding ≠ none) {c : Nat}
    (hl : x.slots.lookup n = some (.memo c)) :
    g.binding = some .defaulted ∨ g.binding = some .computed := by
  obtain ⟨g', hg', hholds⟩ := lookup_of_forall₂ (hfit s hs) hl
  have hfirst := find?_filter_of_find? (q := (·.binding.isSome)) hg (Option.isSome_iff_ne_none.mpr hb)
  rw [hfirst] at hg'
  cases hg'
  exact hholds

end ConfigTree
