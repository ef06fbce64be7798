import Mathlib.Data.String.Basic
import ConfigTree.Template

namespace ConfigTree

namespace Template

/-- The token of a key, with a fallback if one is given. -/
def token (key : String) (fallback : Option String) : String :=
  "$\x7b" ++ key ++ (fallback.map (":-" ++ ·)).getD "" ++ "\x7d"

/-- A key that a token can hold: it ends at the first `}`, and a fallback starts at the first `:-`.
-/
def IsKey (key : String) : Prop := '}' ∉ key.toList ∧ ¬ [':', '-'] <:+: key.toList

def replacement (key : String) (fallback : Option String) (found : Option String) : String :=
  (found.orElse fun _ => fallback).getD (token key fallback)

theorem splitFallback_go_of_isKey (acc : List Char) {key : List Char}
    (hkey : ¬ [':', '-'] <:+: key) : splitFallback.go acc key = (acc.reverse ++ key, none) := by
  induction key generalizing acc with
  | nil => simp [splitFallback.go]
  | cons c rest ih =>
    have hrest : ¬ [':', '-'] <:+: rest := fun h => hkey (h.trans (List.suffix_cons c rest).isInfix)
    -- a `:-` at the head would be an infix of the key
    have hhead : ∀ r, ¬ (c = ':' ∧ rest = '-' :: r) := by
      rintro r ⟨rfl, rfl⟩
      exact hkey ⟨[], r, rfl⟩
    rw [splitFallback.go.eq_3 _ _ _ fun r hc hr => hhead r ⟨hc, hr⟩, ih (c :: acc) hrest]
    simp

theorem splitFallback_go_sep (acc : List Char) {key : List Char} (hkey : ¬ [':', '-'] <:+: key)
    (fallback : List Char) :
    splitFallback.go acc (key ++ ':' :: '-' :: fallback) = (acc.reverse ++ key, some fallback) := by
  induction key generalizing acc with
  | nil => simp [splitFallback.go]
  | cons c rest ih =>
    have hrest : ¬ [':', '-'] <:+: rest := fun h => hkey (h.trans (List.suffix_cons c rest).isInfix)
    -- the separator is the first `:-`: one starting in the key would be an infix of it
    have hhead : ∀ r, ¬ (c = ':' ∧ rest ++ ':' :: '-' :: fallback = '-' :: r) := by
      rintro r ⟨rfl, hr⟩
      cases rest with
      | nil => simp at hr
      | cons d rest =>
        obtain ⟨rfl, -⟩ := List.cons.inj hr
        exact hkey ⟨[], rest, rfl⟩
    rw [List.cons_append, splitFallback.go.eq_3 _ _ _ fun r hc hr => hhead r ⟨hc, hr⟩,
      ih (c :: acc) hrest]
    simp

theorem token_toList (key : String) (fallback : Option String) :
    (token key fallback).toList =
      '$' :: '{' :: (key.toList ++ (fallback.map fun f => ':' :: '-' :: f.toList).getD []) ++ ['}'] := by
  cases fallback <;> simp [token]

theorem splitFallback_token_body {key : String} (hkey : IsKey key) (fallback : Option String) :
    splitFallback (key.toList ++ (fallback.map fun f => ':' :: '-' :: f.toList).getD []) =
      (key.toList, fallback.map String.toList) := by
  cases fallback with
  | none => simpa [splitFallback] using splitFallback_go_of_isKey [] hkey.2
  | some f => simpa [splitFallback] using splitFallback_go_sep [] hkey.2 f.toList

theorem substituteChars_plain_append (lookup : String → Option String) {pre : List Char}
    (hpre : '$' ∉ pre) (rest : List Char) :
    (substituteChars (m := Id) lookup (pre ++ rest)).run =
      pre ++ (substituteChars (m := Id) lookup rest).run := by
  induction pre with
  | nil => rfl
  | cons c pre ih =>
    have hc : c ≠ '$' := fun h => hpre (h ▸ List.mem_cons_self)
    rw [List.cons_append, substituteChars.eq_4 _ _ _ (fun _ h => absurd h hc) fun _ h => absurd h hc]
    simp only [Id.run_bind, Id.run_pure, ih fun h => hpre (List.mem_cons_of_mem _ h), List.cons_append]

theorem substituteChars_token (lookup : String → Option String) {key : String} (hkey : IsKey key)
    {fallback : Option String} (hfallback : ∀ f ∈ fallback, '}' ∉ f.toList) (post : List Char) :
    (substituteChars (m := Id) lookup ((token key fallback).toList ++ post)).run =
      (replacement key fallback (lookup key)).toList ++ (substituteChars (m := Id) lookup post).run := by
  -- the body of the token runs up to its closing brace
  have hbody : ∀ c ∈ key.toList ++ (fallback.map fun f => ':' :: '-' :: f.toList).getD [],
      (c != '}') = true := by
    intro c hc
    rcases List.mem_append.mp hc with hc | hc
    · exact bne_iff_ne.mpr fun h => hkey.1 (h ▸ hc)
    · cases fallback with
      | none => simp at hc
      | some f =>
        simp only [Option.map_some, Option.getD_some, List.mem_cons] at hc
        rcases hc with rfl | rfl | hc
        · decide
        · decide
        · exact bne_iff_ne.mpr fun h => hfallback f rfl (h ▸ hc)
  have htext : (token key fallback).toList ++ post = '$' :: '{' ::
      ((key.toList ++ (fallback.map fun f => ':' :: '-' :: f.toList).getD []) ++ '}' :: post) := by
    simp [token_toList]
  have hdrop : (key.toList ++ ((fallback.map fun f => ':' :: '-' :: f.toList).getD [] ++
      '}' :: post)).dropWhile (· != '}') = '}' :: post := by
    rw [← List.append_assoc, List.dropWhile_append_of_pos hbody]
    simp
  have htake : (key.toList ++ ((fallback.map fun f => ':' :: '-' :: f.toList).getD [] ++
      '}' :: post)).takeWhile (· != '}') =
        key.toList ++ (fallback.map fun f => ':' :: '-' :: f.toList).getD [] := by
    rw [← List.append_assoc, List.takeWhile_append_of_pos hbody]
    simp
  rw [htext, substituteChars.eq_3]
  split
  · next h =>
    simp only [List.append_assoc, hdrop] at h
    cases h
  · next head after h =>
    simp only [List.append_assoc, hdrop, List.cons.injEq] at h
    obtain ⟨-, rfl⟩ := h
    simp only [List.append_assoc, htake,
      splitFallback_token_body hkey, String.ofList_toList, Id.run_bind, Id.run_pure]
    cases lookup key with
    | some v => rfl
    | none =>
      cases fallback with
      | some f => rfl
      | none => simp [replacement, token_toList, Id.run]

theorem substitute_plain_token (lookup : String → Option String) {pre : String}
    (hpre : '$' ∉ pre.toList) {key : String} (hkey : IsKey key) {fallback : Option String}
    (hfallback : ∀ f ∈ fallback, '}' ∉ f.toList) (post : String) :
    Id.run (substitute (m := Id) lookup (pre ++ token key fallback ++ post)) =
      pre ++ replacement key fallback (lookup key) ++ Id.run (substitute (m := Id) lookup post) := by
  simp only [substitute, String.toList_append, List.append_assoc, Id.run_bind, Id.run_pure]
  rw [substituteChars_plain_append lookup hpre, substituteChars_token lookup hkey hfallback]
  simp [String.ofList_append, String.append_assoc]

end Template

end ConfigTree
