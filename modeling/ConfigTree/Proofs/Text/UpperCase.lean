import ConfigTree.Proofs.Text.Pieces

namespace ConfigTree

namespace Text

def CaseRun.imageLo (r : CaseRun) : Nat := (r.lo + r.delta).toNat

def CaseRun.imageHi (r : CaseRun) : Nat := (r.hi + r.delta).toNat

def CaseRun.avoids (r r' : CaseRun) : Bool :=
  Nat.blt r.imageHi r'.lo || Nat.blt r'.hi r.imageLo ||
    (r.stride == 2 && r'.stride == 2 && (r.imageLo + r'.lo) % 2 == 1) ||
    (r.lo == r.hi && (r'.image? r.imageLo).isNone)

def CaseRun.closedIn (targets : List CaseRun) (r : CaseRun) : Bool :=
  decide (0 ≤ (r.lo : Int) + r.delta) &&
    (Nat.blt r.imageHi 0xD800 || (Nat.blt 0xDFFF r.imageLo && Nat.blt r.imageHi 0x110000)) &&
    targets.all r.avoids

def expansionKeyRuns : List CaseRun := upperExpansions.map fun p => ⟨p.1, p.1, 1, 0⟩

def isSpaceOrDash (c : Char) : Bool := isWhiteSpace c || c == '-'

def spaceOrDashRuns : List CaseRun :=
  [⟨0x9, 0xD, 1, 0⟩, ⟨0x20, 0x20, 1, 0⟩, ⟨0x2D, 0x2D, 1, 0⟩, ⟨0x85, 0x85, 1, 0⟩,
    ⟨0xA0, 0xA0, 1, 0⟩, ⟨0x1680, 0x1680, 1, 0⟩, ⟨0x2000, 0x200A, 1, 0⟩, ⟨0x2028, 0x2029, 1, 0⟩,
    ⟨0x202F, 0x202F, 1, 0⟩, ⟨0x205F, 0x205F, 1, 0⟩, ⟨0x3000, 0x3000, 1, 0⟩]

set_option maxRecDepth 100000 in
theorem upperRuns_closed :
    upperRuns.all (CaseRun.closedIn (upperRuns ++ expansionKeyRuns ++ spaceOrDashRuns)) = true := by
  decide +kernel

set_option maxRecDepth 100000 in
theorem upperExpansions_closed :
    upperExpansions.all (fun p => !p.2.isEmpty && p.2.all fun m =>
      upperChar (Char.ofNat m) == [Char.ofNat m] && !isSpaceOrDash (Char.ofNat m)) = true := by
  decide +kernel

theorem CaseRun.image?_eq_some_iff {r : CaseRun} {c n : Nat} :
    r.image? c = some n ↔
      r.lo ≤ c ∧ c ≤ r.hi ∧ (c - r.lo) % r.stride = 0 ∧ (c + r.delta).toNat = n := by
  unfold CaseRun.image?
  split <;> simp_all

theorem CaseRun.image?_eq_none_of_avoids {r r' : CaseRun} (hlo : 0 ≤ (r.lo : Int) + r.delta)
    (h : r.avoids r' = true) {c n : Nat} (hc : r.image? c = some n) : r'.image? n = none := by
  obtain ⟨hc1, hc2, hcmod, rfl⟩ := image?_eq_some_iff.mp hc
  cases h' : r'.image? (c + r.delta).toNat with
  | none => rfl
  | some n' =>
    obtain ⟨hn1, hn2, hnmod, -⟩ := image?_eq_some_iff.mp h'
    simp only [avoids, imageLo, imageHi, Bool.or_eq_true, Bool.and_eq_true, Nat.blt_eq,
      beq_iff_eq, Option.isNone_iff_eq_none] at h
    rcases h with ((hgap | hgap) | ⟨⟨h2, h2'⟩, hpar⟩) | ⟨hone, hnone⟩
    · clear hcmod hnmod
      omega
    · clear hcmod hnmod
      omega
    · -- both step by two from code points of opposite parity
      rw [h2] at hcmod
      rw [h2'] at hnmod
      omega
    · -- a run of one code point moves `lo` only
      obtain rfl : c = r.lo := by omega
      rw [hnone] at h'
      cases h'

theorem exists_spaceOrDashRun {c : Char} (h : isSpaceOrDash c = true) :
    ∃ r ∈ spaceOrDashRuns, (r.image? c.toNat).isSome := by
  have hdash : c = '-' ↔ c.toNat = 0x2D := by
    rw [← Char.toNat_inj]
    rfl
  simp only [isSpaceOrDash, isWhiteSpace, Bool.or_eq_true, Bool.and_eq_true, decide_eq_true_eq,
    beq_iff_eq, hdash] at h
  simp only [spaceOrDashRuns, List.mem_cons, List.not_mem_nil, exists_eq_or_imp, CaseRun.image?]
  simp
  omega

theorem lookup_upperExpansions_eq_none {n : Nat} (h : ∀ r ∈ expansionKeyRuns, r.image? n = none) :
    upperExpansions.lookup n = none := by
  rw [List.lookup_eq_none_iff]
  intro p hp
  have hkey := h ⟨p.1, p.1, 1, 0⟩ (List.mem_map.mpr ⟨p, hp, rfl⟩)
  simp only [CaseRun.image?, Nat.mod_one, beq_self_eq_true, Bool.and_true] at hkey
  simp only [bne_iff_ne, ne_eq]
  rintro rfl
  simp at hkey

theorem toNat_ofNat_of_valid {n : Nat} (h : n.isValidChar) : (Char.ofNat n).toNat = n := by
  show (dite n.isValidChar (fun h => Char.ofNatAux n h) _).toNat = n
  rw [dif_pos h]
  rfl

theorem upperChar_of_runImage {r : CaseRun} (hr : r ∈ upperRuns) {c n : Nat}
    (hn : r.image? c = some n) :
    upperChar (Char.ofNat n) = [Char.ofNat n] ∧ isSpaceOrDash (Char.ofNat n) = false := by
  have hclosed := List.all_eq_true.mp upperRuns_closed r hr
  simp only [CaseRun.closedIn, Bool.and_eq_true, Bool.or_eq_true, decide_eq_true_eq, Nat.blt_eq,
    List.all_eq_true] at hclosed
  obtain ⟨⟨hlo, hvalid⟩, havoid⟩ := hclosed
  have hout : ∀ r' ∈ upperRuns ++ expansionKeyRuns ++ spaceOrDashRuns, r'.image? n = none :=
    fun r' hr' => CaseRun.image?_eq_none_of_avoids hlo (havoid r' hr') hn
  have hnat : (Char.ofNat n).toNat = n := by
    obtain ⟨hc1, hc2, -, rfl⟩ := CaseRun.image?_eq_some_iff.mp hn
    simp only [CaseRun.imageLo, CaseRun.imageHi] at hvalid
    apply toNat_ofNat_of_valid
    simp only [Nat.isValidChar]
    omega
  have hruns : upperRuns.findSome? (·.image? n) = none :=
    List.findSome?_eq_none_iff.mpr fun r' hr' => hout r' (by simp [hr'])
  have hkeys : upperExpansions.lookup n = none :=
    lookup_upperExpansions_eq_none fun r' hr' => hout r' (by simp [hr'])
  refine ⟨by simp [upperChar, caseMap, hnat, hkeys, hruns], ?_⟩
  cases hw : isSpaceOrDash (Char.ofNat n) with
  | false => rfl
  | true =>
    obtain ⟨w, hw', hsome⟩ := exists_spaceOrDashRun hw
    rw [hnat, hout w (by simp [hw'])] at hsome
    cases hsome

theorem mem_upperChar {c d : Char} (hd : d ∈ upperChar c) :
    (∃ p ∈ upperExpansions, ∃ m ∈ p.2, d = Char.ofNat m) ∨
    (∃ r ∈ upperRuns, ∃ n, r.image? c.toNat = some n ∧ d = Char.ofNat n) ∨
    (upperChar c = [c] ∧ d = c) := by
  cases hl : upperExpansions.lookup c.toNat with
  | some ms =>
    obtain ⟨l₁, l₂, hsplit, -⟩ := List.lookup_eq_some_iff.mp hl
    simp only [upperChar, caseMap, hl, List.mem_map] at hd
    obtain ⟨m, hm, rfl⟩ := hd
    exact .inl ⟨(c.toNat, ms), by simp [hsplit], m, hm, rfl⟩
  | none =>
    cases hf : upperRuns.findSome? (·.image? c.toNat) with
    | some n =>
      obtain ⟨r, hr, hrn⟩ := List.exists_of_findSome?_eq_some hf
      simp only [upperChar, caseMap, hl, hf, List.mem_singleton] at hd
      exact .inr (.inl ⟨r, hr, n, hrn, hd⟩)
    | none =>
      have hself : upperChar c = [c] := by simp [upperChar, caseMap, hl, hf]
      rw [hself, List.mem_singleton] at hd
      exact .inr (.inr ⟨hself, hd⟩)

theorem upperChar_of_mem_upperChar {c d : Char} (hd : d ∈ upperChar c) : upperChar d = [d] := by
  rcases mem_upperChar hd with ⟨p, hp, m, hm, rfl⟩ | ⟨r, hr, n, hn, rfl⟩ | ⟨hself, rfl⟩
  · have h := List.all_eq_true.mp upperExpansions_closed p hp
    simp only [Bool.and_eq_true, List.all_eq_true, beq_iff_eq] at h
    exact (h.2 m hm).1
  · exact (upperChar_of_runImage hr hn).1
  · exact hself

theorem upperChar_ne_nil (c : Char) : upperChar c ≠ [] := by
  cases hl : upperExpansions.lookup c.toNat with
  | some ms =>
    obtain ⟨l₁, l₂, hsplit, -⟩ := List.lookup_eq_some_iff.mp hl
    have h := List.all_eq_true.mp upperExpansions_closed (c.toNat, ms) (by simp [hsplit])
    simp only [Bool.and_eq_true, Bool.not_eq_true', List.isEmpty_eq_false_iff] at h
    simpa [upperChar, caseMap, hl] using h.1
  | none =>
    simp only [upperChar, caseMap, hl]
    split <;> simp

theorem eq_of_mem_upperChar_of_isSpaceOrDash {c d : Char} (hd : d ∈ upperChar c)
    (hw : isSpaceOrDash d = true) : d = c := by
  rcases mem_upperChar hd with ⟨p, hp, m, hm, rfl⟩ | ⟨r, hr, n, hn, rfl⟩ | ⟨-, rfl⟩
  · have h := List.all_eq_true.mp upperExpansions_closed p hp
    simp only [Bool.and_eq_true, List.all_eq_true, Bool.not_eq_true'] at h
    rw [(h.2 m hm).2] at hw
    cases hw
  · rw [(upperChar_of_runImage hr hn).2] at hw
    cases hw
  · rfl

end Text

end ConfigTree
