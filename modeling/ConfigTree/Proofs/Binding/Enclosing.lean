import ConfigTree.Proofs.Binding.Forest
import ConfigTree.Proofs.Binding.Advance

namespace ConfigTree

open EngineM

/-- `y` encloses `x` in the record `F`: `y` started before `x`, and every instance started after
`y`, up to `x`, is deeper than `y`. -/
def Encloses (F : List Instance) (y x : Instance) : Prop :=
  y.id < x.id ∧ ∀ z ∈ F, y.id < z.id → z.id ≤ x.id → y.depth < z.depth

instance (F : List Instance) (y x : Instance) : Decidable (Encloses F y x) :=
  inferInstanceAs (Decidable (_ ∧ _))

namespace Encloses

variable {F G : List Instance} {y x : Instance}

theorem mono (h : Encloses F y x) (hsub : ∀ z ∈ G, z ∈ F) : Encloses G y x :=
  ⟨h.1, fun z hz => h.2 z (hsub z hz)⟩

theorem of_window (h : Encloses G y x) (hwin : ∀ z ∈ F, y.id < z.id → z.id ≤ x.id → z ∈ G) :
    Encloses F y x :=
  ⟨h.1, fun z hz hy hx => h.2 z (hwin z hz hy hx) hy hx⟩

end Encloses

theorem eq_of_id_eq {xs : List Instance} (hnd : (xs.map (·.id)).Nodup) {w z : Instance}
    (hw : w ∈ xs) (hz : z ∈ xs) (hid : w.id = z.id) : w = z := by
  induction xs with
  | nil => nomatch hw
  | cons a xs ih =>
    rw [List.map_cons, List.nodup_cons] at hnd
    rcases List.mem_cons.mp hw with rfl | hw' <;> rcases List.mem_cons.mp hz with rfl | hz'
    · rfl
    · exact absurd (hid ▸ List.mem_map_of_mem hz') hnd.1
    · exact absurd (hid ▸ List.mem_map_of_mem hw') hnd.1
    · exact ih hnd.2 hw' hz'

namespace Built

variable {enc : List (ClassRef × Nat)} {lo hi : Nat} {xs : List Instance}

theorem ids_perm (h : Built enc lo hi xs) : (xs.map (·.id)).Perm (List.range' lo (hi - lo)) := by
  induction h with
  | nil => simp
  | @tree enc lo mid hi kids rest x _ hid _ _ hkids hrest ihk ihr =>
    have hk := hkids.le
    have hr := hrest.le
    have hsplit : List.range' lo (hi - lo) =
        lo :: (List.range' (lo + 1) (mid - (lo + 1)) ++ List.range' mid (hi - mid)) := by
      rw [show hi - lo = (mid - (lo + 1) + (hi - mid)) + 1 by omega, List.range'_succ,
        ← List.range'_append_1, show lo + 1 + (mid - (lo + 1)) = mid by omega]
    rw [hsplit, List.map_append, List.map_cons, hid]
    exact List.perm_middle.trans ((ihk.append ihr).cons lo)

theorem id_mem (h : Built enc lo hi xs) {x : Instance} (hx : x ∈ xs) : lo ≤ x.id ∧ x.id < hi := by
  have hmem := h.ids_perm.mem_iff.mp (List.mem_map_of_mem hx)
  rw [List.mem_range'_1] at hmem
  omega

theorem nodup_ids (h : Built enc lo hi xs) : (xs.map (·.id)).Nodup :=
  h.ids_perm.nodup_iff.mpr (List.nodup_range' 1)

theorem nodup (h : Built enc lo hi xs) : xs.Nodup :=
  List.Pairwise.of_map (·.id) (fun _ _ hne heq => hne (congrArg Instance.id heq)) h.nodup_ids

theorem lt_depth (h : Built enc lo hi xs) : ∀ x ∈ xs, enc.length < x.depth := by
  induction h with
  | nil => exact fun _ hx => nomatch hx
  | tree _ _ hdepth _ _ _ ihk ihr =>
    intro y hy
    simp only [List.mem_append, List.mem_cons] at hy
    rcases hy with hy | rfl | hy
    · have hy := ihk y hy
      simp only [List.length_cons] at hy
      omega
    · omega
    · exact ihr y hy

theorem exists_top (h : Built enc lo hi xs) :
    ∀ z ∈ xs, ∃ r ∈ xs, r.depth = enc.length + 1 ∧ r.id ≤ z.id := by
  induction h with
  | nil => exact fun _ hz => nomatch hz
  | @tree enc lo mid hi kids rest x _ hid hdepth _ hkids _ _ ihr =>
    intro z hz
    have hx : x ∈ kids ++ x :: rest := by simp
    simp only [List.mem_append, List.mem_cons] at hz
    rcases hz with hz | rfl | hz
    · exact ⟨x, hx, hdepth, by have := hkids.id_mem hz; omega⟩
    · exact ⟨z, hx, hdepth, Nat.le_refl _⟩
    · obtain ⟨r, hr, hrd, hrz⟩ := ihr z hz
      exact ⟨r, by simp [hr], hrd, hrz⟩

section Tree

variable {mid : Nat} {kids rest : List Instance} {x : Instance}
  (hid : x.id = lo) (hdepth : x.depth = enc.length + 1)
  (hkids : Built ((x.cls, lo) :: enc) (lo + 1) mid kids) (hrest : Built enc mid hi rest)
include hid hdepth hkids hrest

theorem encloses_kid_iff {y z : Instance} (hy : y ∈ kids ++ x :: rest) (hz : z ∈ kids) :
    Encloses (kids ++ x :: rest) y z ↔ y ∈ kids ∧ Encloses kids y z ∨ y = x := by
  have hzid := hkids.id_mem hz
  -- the instances started after `y` up to `z` are all nested in `x`
  have hwin : ∀ {y : Instance}, lo ≤ y.id → ∀ w ∈ kids ++ x :: rest, y.id < w.id → w.id ≤ z.id → w ∈ kids := by
    intro y hy w hw h₁ h₂
    simp only [List.mem_append, List.mem_cons] at hw
    rcases hw with hw | rfl | hw
    · exact hw
    · omega
    · have := hrest.id_mem hw
      omega
  constructor
  · intro he
    simp only [List.mem_append, List.mem_cons] at hy
    rcases hy with hy | rfl | hy
    · exact Or.inl ⟨hy, he.mono fun w hw => List.mem_append_left _ hw⟩
    · exact Or.inr rfl
    · have := hrest.id_mem hy
      exact absurd he.1 (by omega)
  · rintro (⟨hy, he⟩ | rfl)
    · exact he.of_window (hwin (by have := hkids.id_mem hy; omega))
    · refine ⟨by omega, fun w hw h₁ h₂ => ?_⟩
      have hd := hkids.lt_depth w (hwin (by omega) w hw h₁ h₂)
      simp only [List.length_cons] at hd
      omega

theorem not_encloses_top {y : Instance} (hy : y ∈ kids ++ x :: rest) :
    ¬ Encloses (kids ++ x :: rest) y x := by
  have := hkids.le
  intro he
  simp only [List.mem_append, List.mem_cons] at hy
  rcases hy with hy | rfl | hy
  · have := hkids.id_mem hy
    exact absurd he.1 (by omega)
  · exact Nat.lt_irrefl _ he.1
  · have := hrest.id_mem hy
    exact absurd he.1 (by omega)

theorem encloses_rest_iff {y z : Instance} (hy : y ∈ kids ++ x :: rest) (hz : z ∈ rest) :
    Encloses (kids ++ x :: rest) y z ↔ y ∈ rest ∧ Encloses rest y z := by
  have := hkids.le
  constructor
  · intro he
    simp only [List.mem_append, List.mem_cons] at hy
    -- a later tree starts between `x`'s tree and `z`, no deeper than anything in `x`'s tree
    obtain ⟨r, hr, hrd, hrz⟩ := hrest.exists_top z hz
    have hrid := hrest.id_mem hr
    have hr' : r ∈ kids ++ x :: rest := by simp [hr]
    rcases hy with hy | rfl | hy
    · have := hkids.id_mem hy
      have hd := hkids.lt_depth y hy
      have := he.2 r hr' (by omega) hrz
      simp only [List.length_cons] at hd
      omega
    · have := he.2 r hr' (by omega) hrz
      omega
    · exact ⟨hy, he.mono fun w hw => by simp [hw]⟩
  · rintro ⟨hy, he⟩
    have hyid := hrest.id_mem hy
    refine he.of_window fun w hw h₁ h₂ => ?_
    simp only [List.mem_append, List.mem_cons] at hw
    rcases hw with hw | rfl | hw
    · have := hkids.id_mem hw
      omega
    · omega
    · exact hw

end Tree

theorem chain (h : Built enc lo hi xs) : ∀ z ∈ xs, ∃ l : List Instance,
    (∀ y, y ∈ l ↔ y ∈ xs ∧ Encloses xs y z) ∧ l.Pairwise (fun a b => b.id < a.id) ∧
    z.depth = l.length + enc.length + 1 ∧ ParentsIn (l.map (fun y => (y.cls, y.id)) ++ enc) z.slots := by
  induction h with
  | nil => exact fun _ hz => nomatch hz
  | @tree enc lo mid hi kids rest x _ hid hdepth hpar hkids hrest ihk ihr =>
    intro z hz
    have hz' := hz
    simp only [List.mem_append, List.mem_cons] at hz'
    rcases hz' with hz' | rfl | hz'
    · -- inside `x`'s tree the chain goes on with `x`
      obtain ⟨l, hl, hsorted, hd, hp⟩ := ihk z hz'
      refine ⟨l ++ [x], fun y => ?_, ?_, ?_, ?_⟩
      · constructor
        · intro hy
          rcases List.mem_append.mp hy with hy | hy
          · obtain ⟨hyk, he⟩ := (hl y).mp hy
            exact ⟨List.mem_append_left _ hyk,
              (encloses_kid_iff hid hdepth hkids hrest (List.mem_append_left _ hyk) hz').mpr
                (Or.inl ⟨hyk, he⟩)⟩
          · rw [List.mem_singleton.mp hy]
            exact ⟨by simp, (encloses_kid_iff hid hdepth hkids hrest (by simp) hz').mpr (Or.inr rfl)⟩
        · rintro ⟨hy, he⟩
          rcases (encloses_kid_iff hid hdepth hkids hrest hy hz').mp he with ⟨hyk, he⟩ | rfl
          · exact List.mem_append_left _ ((hl y).mpr ⟨hyk, he⟩)
          · simp
      · refine List.pairwise_append.mpr ⟨hsorted, List.pairwise_singleton _ _, fun a ha b hb => ?_⟩
        rw [List.mem_singleton.mp hb, hid]
        have := hkids.id_mem ((hl a).mp ha).1
        omega
      · simp only [List.length_append, List.length_cons, List.length_nil] at hd ⊢
        omega
      · simpa [hid] using hp
    · -- `x` itself is enclosed by nothing of the forest
      refine ⟨[], fun y => ⟨fun hy => absurd hy List.not_mem_nil, fun ⟨hy, he⟩ =>
        absurd he (not_encloses_top hid hdepth hkids hrest hy)⟩, List.Pairwise.nil, ?_, ?_⟩
      · simp [hdepth]
      · simpa using hpar
    · -- a later tree keeps its chain
      obtain ⟨l, hl, hsorted, hd, hp⟩ := ihr z hz'
      refine ⟨l, fun y => ?_, hsorted, hd, hp⟩
      constructor
      · intro hy
        obtain ⟨hyr, he⟩ := (hl y).mp hy
        have hy' : y ∈ kids ++ x :: rest := by simp [hyr]
        exact ⟨hy', (encloses_rest_iff hid hdepth hkids hrest hy' hz').mpr ⟨hyr, he⟩⟩
      · rintro ⟨hy, he⟩
        exact (hl y).mpr ((encloses_rest_iff hid hdepth hkids hrest hy hz').mp he)

theorem sublist_of_encloses (h : Built enc lo hi xs) :
    ∀ y ∈ xs, ∀ z ∈ xs, Encloses xs y z → [z, y].Sublist xs := by
  induction h with
  | nil => exact fun _ hy => nomatch hy
  | @tree enc lo mid hi kids rest x _ hid hdepth _ hkids hrest ihk ihr =>
    intro y hy z hz he
    have hz' := hz
    simp only [List.mem_append, List.mem_cons] at hz'
    rcases hz' with hz' | rfl | hz'
    · rcases (encloses_kid_iff hid hdepth hkids hrest hy hz').mp he with ⟨hyk, he⟩ | rfl
      · exact (ihk y hyk z hz' he).trans (List.sublist_append_left _ _)
      · exact (List.singleton_sublist.mpr hz').append (List.cons_sublist_cons.mpr (List.nil_sublist _))
    · exact absurd he (not_encloses_top hid hdepth hkids hrest hy)
    · obtain ⟨hyr, he⟩ := (encloses_rest_iff hid hdepth hkids hrest hy hz').mp he
      exact (ihr y hyr z hz' he).trans ((List.sublist_cons_self x rest).trans (List.sublist_append_right _ _))

theorem sublist_of_not_encloses (h : Built enc lo hi xs) :
    ∀ y ∈ xs, ∀ z ∈ xs, y.id < z.id → ¬ Encloses xs y z → [y, z].Sublist xs := by
  induction h with
  | nil => exact fun _ hy => nomatch hy
  | @tree enc lo mid hi kids rest x _ hid hdepth _ hkids hrest ihk ihr =>
    intro y hy z hz hlt hne
    have hz' := hz
    simp only [List.mem_append, List.mem_cons] at hz'
    have hy' := hy
    simp only [List.mem_append, List.mem_cons] at hy'
    rcases hz' with hz' | rfl | hz'
    · have hzid := hkids.id_mem hz'
      rcases hy' with hy' | rfl | hy'
      · have hne' : ¬ Encloses kids y z := fun he =>
          hne ((encloses_kid_iff hid hdepth hkids hrest hy hz').mpr (Or.inl ⟨hy', he⟩))
        exact (ihk y hy' z hz' hlt hne').trans (List.sublist_append_left _ _)
      · exact absurd ((encloses_kid_iff hid hdepth hkids hrest hy hz').mpr (Or.inr rfl)) hne
      · have := hrest.id_mem hy'
        omega
    · rcases hy' with hy' | rfl | hy'
      · have := hkids.id_mem hy'
        omega
      · omega
      · have := hrest.id_mem hy'
        have := hkids.le
        omega
    · rcases hy' with hy' | rfl | hy'
      · exact (List.singleton_sublist.mpr hy').append
          (List.singleton_sublist.mpr (List.mem_cons_of_mem _ hz'))
      · exact (List.nil_sublist kids).append (List.cons_sublist_cons.mpr (List.singleton_sublist.mpr hz'))
      · have hne' : ¬ Encloses rest y z := fun he =>
          hne ((encloses_rest_iff hid hdepth hkids hrest hy hz').mpr ⟨hy', he⟩)
        exact (ihr y hy' z hz' hlt hne').trans
          ((List.sublist_cons_self x rest).trans (List.sublist_append_right _ _))

theorem encloser_count (h : Built enc lo hi xs) {z : Instance} (hz : z ∈ xs) :
    (xs.filter (Encloses xs · z)).length + enc.length + 1 = z.depth := by
  obtain ⟨l, hl, hsorted, hd, -⟩ := h.chain z hz
  have hnd : l.Nodup := hsorted.imp fun hlt heq => by
    subst heq
    exact Nat.lt_irrefl _ hlt
  have hperm : (xs.filter (Encloses xs · z)).Perm l :=
    (List.perm_ext_iff_of_nodup (h.nodup.filter _) hnd).mpr fun y => by
      simp [hl y]
  rw [hperm.length_eq, hd]

theorem find?_id (h : Built enc lo hi xs) {z : Instance} (hz : z ∈ xs) :
    xs.find? (·.id == z.id) = some z := by
  obtain ⟨w, hw⟩ : ∃ w, xs.find? (·.id == z.id) = some w :=
    Option.isSome_iff_exists.mp (List.find?_isSome.mpr ⟨z, hz, by simp⟩)
  have hwz : w.id = z.id := by simpa using List.find?_some hw
  rw [hw, eq_of_id_eq h.nodup_ids (List.mem_of_find?_eq_some hw) hz hwz]

end Built

theorem id_le_of_find? {l : List Instance} {p : Instance → Bool} {y : Instance}
    (hl : l.Pairwise (fun a b => b.id < a.id)) (hy : l.find? p = some y) :
    ∀ w ∈ l, p w = true → w.id ≤ y.id := by
  obtain ⟨-, as, bs, rfl, has⟩ := List.find?_eq_some_iff_append.mp hy
  intro w hw hpw
  simp only [List.mem_append, List.mem_cons] at hw
  rcases hw with hw | rfl | hw
  · simpa [hpw] using has w hw
  · exact Nat.le_refl _
  · exact Nat.le_of_lt (List.rel_of_pairwise_cons (List.pairwise_append.mp hl).2.1 hw)

theorem Built.parent_designates_nearest {lo hi : Nat} {xs : List Instance} (h : Built [] lo hi xs)
    {z : Instance} (hz : z ∈ xs) {name : String} {c : ClassRef} {a : Option Nat}
    (hslot : (name, Slot.bound (.parent c a)) ∈ z.slots) :
    (a = none ↔ ∀ y ∈ xs, Encloses xs y z → y.cls.name ≠ c.name) ∧
    ∀ i, a = some i → ∃ y ∈ xs, y.id = i ∧ Encloses xs y z ∧ y.cls.name = c.name ∧
      ∀ w ∈ xs, Encloses xs w z → w.cls.name = c.name → w.id ≤ i := by
  obtain ⟨l, hl, hsorted, -, hp⟩ := h.chain z hz
  have ha : a = (l.find? (·.cls.name == c.name)).map (·.id) := by
    rw [hp name c a hslot, nearest, List.append_nil, List.find?_map, Option.map_map]
    rfl
  refine ⟨?_, fun i hi => ?_⟩
  · rw [ha, Option.map_eq_none_iff, List.find?_eq_none]
    constructor
    · intro hnone y hy he hname
      exact hnone y ((hl y).mpr ⟨hy, he⟩) (by simp [hname])
    · intro hall y hy hname
      obtain ⟨hyx, he⟩ := (hl y).mp hy
      exact hall y hyx he (by simpa using hname)
  · rw [ha, Option.map_eq_some_iff] at hi
    obtain ⟨y, hfind, rfl⟩ := hi
    obtain ⟨hyx, he⟩ := (hl y).mp (List.mem_of_find?_eq_some hfind)
    refine ⟨y, hyx, rfl, he, by simpa using List.find?_some hfind, fun w hw hew hname => ?_⟩
    exact id_le_of_find? hsorted hfind w ((hl w).mpr ⟨hw, hew⟩) (by simpa using hname)

theorem slotAncestor?_eq {n : Nat} {st : EngineState} (h : Built [] 0 n st.finished.toList)
    {x : Instance} (hx : x ∈ st.finished.toList) {name : String} {c : ClassRef} {i : Nat}
    (hslot : x.slots.lookup name = some (.bound (.parent c (some i)))) :
    ∃ y ∈ st.finished.toList, y.id = i ∧ st.slotAncestor? x.id name = some y := by
  have hmem : (name, Slot.bound (.parent c (some i))) ∈ x.slots := by
    obtain ⟨l₁, l₂, heq, -⟩ := List.lookup_eq_some_iff.mp hslot
    simp [heq]
  obtain ⟨y, hy, rfl, -⟩ := (h.parent_designates_nearest hx hmem).2 i rfl
  have hinst : ∀ {z}, z ∈ st.finished.toList → st.instance? z.id = some z := fun hz => by
    rw [EngineState.instance?, ← Array.find?_toList, h.find?_id hz]
  refine ⟨y, hy, rfl, ?_⟩
  simp only [EngineState.slotAncestor?, hinst hx, Option.bind_eq_bind, Option.bind_some, hslot]
  exact hinst hy

theorem materializeThen_record {α : Type} {cat : Catalogue} {fuel : Nat} {root : ClassRef}
    {node : Node} {k : Nat → EngineM α} (hk : ∀ id, Keeps (k id)) {a : α} {st : EngineState}
    (h : materializeThen cat fuel root node k = .ok (a, st)) :
    ∃ id st₀, materializeIn cat (constructionFuel cat) root node [] {} = .ok (id, st₀) ∧
      st₀.Evolves st := by
  simp only [materializeThen, StateT.run] at h
  obtain ⟨id, st₀, h₀, h⟩ := bind_ok h
  refine ⟨id, st₀, h₀, Keeps.bind Keeps.of_get (fun s => ?_) st₀ a st h⟩
  rw [← Array.forIn_toList]
  exact Keeps.bind (Keeps.forIn_list (fun i _ => Keeps.bind (completeInstance_keeps cat _ i)
    fun _ => Keeps.of_pure _) _ _) fun _ => hk id

/-- Parent references designate the nearest enclosing instance, and keep doing so while instances
are completed and after materialization returns. -/
theorem parent_refs_designate_nearest_encloser {cat : Catalogue} {fuel fuel' : Nat} {root : ClassRef}
    {node : Node} {j : Json} {st : EngineState}
    (h : materializeThen cat fuel root node (renderInstance cat fuel') = .ok (j, st)) :
    let F := st.finished.toList
    (F.map (·.id)).Perm (List.range st.nextId) ∧
    (∀ y ∈ F, ∀ x ∈ F, Encloses F y x → [x, y].Sublist F) ∧
    (∀ y ∈ F, ∀ x ∈ F, y.id < x.id → ¬ Encloses F y x → [y, x].Sublist F) ∧
    (∀ x ∈ F, (F.filter (Encloses F · x)).length + 1 = x.depth) ∧
    (∀ x ∈ F, ∀ name c a, (name, Slot.bound (.parent c a)) ∈ x.slots →
      (a = none ↔ ∀ y ∈ F, Encloses F y x → y.cls.name ≠ c.name) ∧
      ∀ i, a = some i → ∃ y ∈ F, y.id = i ∧ Encloses F y x ∧ y.cls.name = c.name ∧
        ∀ z ∈ F, Encloses F z x → z.cls.name = c.name → z.id ≤ i) ∧
    (∀ st' : EngineState, st'.finished = st.finished → ∀ x ∈ F, ∀ name c i,
      x.slots.lookup name = some (.bound (.parent c (some i))) →
      ∃ y ∈ F, y.id = i ∧ st'.slotAncestor? x.id name = some y) ∧
    ∃ id st₀, materializeIn cat (constructionFuel cat) root node [] {} = .ok (id, st₀) ∧
      st₀.finished = st.finished ∧ st₀.nextId = st.nextId := by
  intro F
  obtain ⟨id, st₀, h₀, hev⟩ := materializeThen_record (fun id => (evolving cat _).inst id) h
  have hbuilt : Built [] 0 st.nextId st.finished.toList := by
    rw [hev.finished, hev.nextId]
    exact materializeIn_built h₀
  refine ⟨?_, hbuilt.sublist_of_encloses, hbuilt.sublist_of_not_encloses, fun x hx => ?_,
    fun x hx _ _ _ hslot => hbuilt.parent_designates_nearest hx hslot,
    fun st' hst x hx _ _ _ hslot => ?_, id, st₀, h₀, hev.finished.symm, hev.nextId.symm⟩
  · simpa [List.range_eq_range'] using hbuilt.ids_perm
  · simpa using hbuilt.encloser_count hx
  · -- the state may be any other, as long as it holds the same record
    have hbuilt' : Built [] 0 st.nextId st'.finished.toList := by
      rw [hst]
      exact hbuilt
    have hres := slotAncestor?_eq hbuilt' (by rw [hst]; exact hx) hslot
    rwa [hst] at hres

theorem parent_refs_designate_nearest_encloser_lone_root :
    let cat : Catalogue := ⟨[(⟨"G0", "G0"⟩, .getters { getters := [
      { name := "up", shape := some (.parent ⟨"G0", "G0"⟩), kind := .parent, target := ⟨"G0", "G0"⟩ },
      { name := "c", shape := some (.scalar (.int .u8)), kind := .computed, body := .literal (.int 3),
        target := ⟨"G0", "G0"⟩ }] })]⟩
    ∃ j st, materializeThen cat evaluationFuel ⟨"G0", "G0"⟩ [] (renderInstance cat evaluationFuel) = .ok (j, st) ∧
      ∀ x ∈ st.finished.toList, ∀ name c a, (name, Slot.bound (.parent c a)) ∈ x.slots →
        (a = none ↔ ∀ y ∈ st.finished.toList, Encloses st.finished.toList y x → y.cls.name ≠ c.name) := by
  intro cat
  obtain ⟨⟨j, st⟩, h⟩ : ∃ r, materializeThen cat evaluationFuel ⟨"G0", "G0"⟩ [] (renderInstance cat evaluationFuel) =
      .ok r := ⟨_, rfl⟩
  exact ⟨j, st, h, fun x hx name c a hslot =>
    ((parent_refs_designate_nearest_encloser h).2.2.2.2.1 x hx name c a hslot).1⟩

end ConfigTree
