import Mathlib.Data.String.Basic
import ConfigTree.Text.Case

namespace ConfigTree

namespace Text

open String in
theorem splitOnAux_singleton (sep : Char) (l m r : List Char) (acc : List String) :
    splitOnAux (ofList (l ++ m ++ r)) (String.singleton sep) ⟨utf8Len l⟩ ⟨utf8Len l + utf8Len m⟩ 0 acc =
      acc.reverse ++ (List.splitOnPPrepend (· == sep) r m.reverse).map ofList := by
  unfold splitOnAux
  simp only [List.append_assoc, atEnd_iff, rawEndPos_ofList, utf8Len_append, Pos.Raw.mk_le_mk,
    Nat.add_le_add_iff_left, (by omega : utf8Len m + utf8Len r ≤ utf8Len m ↔ utf8Len r = 0),
    utf8Len_eq_zero, List.reverse_cons]
  split
  · subst r
    simpa using extract_of_valid l m []
  · obtain ⟨c, r, rfl⟩ := r.exists_cons_of_ne_nil ‹_›
    have hget := get_of_valid (l ++ m) (c :: r)
    have hnext := next_of_valid (l ++ m) c r
    simp only [List.append_assoc, utf8Len_append] at hget hnext
    -- the separator is one character, so a match is found after reading one character
    have hsep : (0 : Pos.Raw).get (String.singleton sep) = sep := by
      rw [singleton_eq_ofList]
      exact get_of_valid [] [sep]
    have hsepnext : (0 : Pos.Raw).next (String.singleton sep) = ⟨sep.utf8Size⟩ := by
      have h := next_of_valid [] sep []
      simp only [List.nil_append, utf8Len_nil, Nat.zero_add] at h
      rw [singleton_eq_ofList]
      exact h
    have hend : (String.singleton sep).rawEndPos ≤ ⟨sep.utf8Size⟩ := by
      rw [singleton_eq_ofList, rawEndPos_ofList]
      simp
    rw [hget, hsep, hsepnext, if_pos hend, Pos.Raw.unoffsetBy_zero, hnext]
    by_cases hc : c = sep
    · subst hc
      have hpos : (⟨utf8Len l + utf8Len m + c.utf8Size⟩ : Pos.Raw).unoffsetBy ⟨c.utf8Size⟩ =
          ⟨utf8Len l + utf8Len m⟩ := by
        simp [Pos.Raw.unoffsetBy]
      have hm := extract_of_valid l m (c :: r)
      simp only [List.append_assoc] at hm
      rw [hpos, hm]
      simpa [Nat.add_assoc, List.splitOnPPrepend_cons_eq_if] using
        splitOnAux_singleton c (l ++ m ++ [c]) [] r (ofList m :: acc)
    · simpa [hc, List.splitOnPPrepend_cons_eq_if, Nat.add_assoc] using
        splitOnAux_singleton sep l (m ++ [c]) r acc

theorem splitOn_singleton (s : String) (sep : Char) :
    s.splitOn (String.singleton sep) = (s.toList.splitOn sep).map String.ofList := by
  have h := splitOnAux_singleton sep [] [] s.toList []
  simp only [List.nil_append, String.ofList_toList, String.utf8Len_nil, Nat.add_zero,
    List.reverse_nil, List.splitOnPPrepend_nil_right] at h
  rw [String.splitOn, if_neg (by simp [← String.toList_inj, String.toList_singleton])]
  exact h

theorem splitOn_intercalate_singleton (sep : Char) {ls : List String} (hls : ls ≠ [])
    (h : ∀ l ∈ ls, sep ∉ l.toList) :
    ((String.singleton sep).intercalate ls).splitOn (String.singleton sep) = ls := by
  have hpieces : ∀ l ∈ ls.map String.toList, sep ∉ l := by
    simpa only [List.forall_mem_map] using h
  rw [splitOn_singleton, String.toList_intercalate, String.toList_singleton,
    List.splitOn_intercalate sep hpieces (by simpa using hls), List.map_map]
  simp [Function.comp_def]

def IsBlank (cs : List Char) : Prop := ∀ c ∈ cs, isWhiteSpace c = true

def Unpadded (cs : List Char) : Prop :=
  (∀ c ∈ cs.head?, isWhiteSpace c = false) ∧ ∀ c ∈ cs.getLast?, isWhiteSpace c = false

def NoWhiteSpace (cs : List Char) : Prop := ∀ c ∈ cs, isWhiteSpace c = false

-- The instances are named: a search may find the one deciding a statement about every `Char`.
instance (cs : List Char) : Decidable (IsBlank cs) := List.decidableBAll _ cs

instance (cs : List Char) : Decidable (Unpadded cs) :=
  @instDecidableAnd _ _ (Option.decidableForallMem cs.head?) (Option.decidableForallMem cs.getLast?)

instance (cs : List Char) : Decidable (NoWhiteSpace cs) := List.decidableBAll _ cs

theorem IsBlank.reverse {cs : List Char} (h : IsBlank cs) : IsBlank cs.reverse :=
  fun c hc => h c (List.mem_reverse.mp hc)

theorem dropWhile_of_head? {α : Type} {p : α → Bool} {l : List α}
    (h : ∀ x ∈ l.head?, p x = false) : l.dropWhile p = l := by
  cases l with
  | nil => rfl
  | cons x l => exact List.dropWhile_cons_of_neg (by simpa using h x rfl)

theorem dropWhile_blank_append {b x : List Char} (hb : IsBlank b)
    (hx : ∀ c ∈ x.head?, isWhiteSpace c = false) : (b ++ x).dropWhile isWhiteSpace = x := by
  rw [List.dropWhile_append_of_pos hb]
  exact dropWhile_of_head? hx

theorem trim_padded {b x a : List Char} (hb : IsBlank b) (hx : Unpadded x) (ha : IsBlank a) :
    trim (String.ofList (b ++ x ++ a)) = String.ofList x := by
  rw [trim, String.toList_ofList]
  cases x with
  | nil =>
    have hblank : IsBlank (b ++ a) := fun c hc => (List.mem_append.mp hc).elim (hb c) (ha c)
    have hall := dropWhile_blank_append (x := []) hblank (by simp)
    simp only [List.append_nil] at hall ⊢
    simp [hall]
  | cons c x =>
    -- the text starts at `c` and ends at the last character of `x`
    have hfront : (b ++ (c :: x) ++ a).dropWhile isWhiteSpace = c :: x ++ a := by
      rw [List.append_assoc]
      exact dropWhile_blank_append hb (by simpa using hx.1)
    have hback : (a.reverse ++ (c :: x).reverse).dropWhile isWhiteSpace = (c :: x).reverse :=
      dropWhile_blank_append ha.reverse (by rw [List.head?_reverse]; exact hx.2)
    rw [hfront, List.reverse_append, hback, List.reverse_reverse]

theorem head?_dropWhile {α : Type} {p : α → Bool} {l : List α} :
    ∀ x ∈ (l.dropWhile p).head?, p x = false := by
  intro x hx
  have hne : l.dropWhile p ≠ [] := by
    intro h
    simp [h] at hx
  rw [List.head?_eq_some_head hne, Option.mem_def, Option.some_inj] at hx
  rw [← hx]
  exact List.head_dropWhile_not p hne

theorem unpadded_trim (s : String) : Unpadded (trim s).toList := by
  rw [trim, String.toList_ofList]
  -- the trimmed text is a prefix of what is left after the leading white space
  have hpre : ((s.toList.dropWhile isWhiteSpace).reverse.dropWhile isWhiteSpace).reverse <+:
      s.toList.dropWhile isWhiteSpace := by
    simpa using List.reverse_prefix.mpr (List.dropWhile_suffix (l := (s.toList.dropWhile
      isWhiteSpace).reverse) isWhiteSpace)
  refine ⟨fun c hc => ?_, fun c hc => ?_⟩
  · obtain ⟨rest, hrest⟩ := hpre
    apply head?_dropWhile (l := s.toList)
    rw [← hrest, List.head?_append, hc]
    rfl
  · rw [List.getLast?_reverse] at hc
    exact head?_dropWhile c hc

end Text

end ConfigTree
