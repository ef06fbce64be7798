import Mathlib.Data.List.TakeWhile
import ConfigTree.Proofs.Node.Templates

namespace ConfigTree

namespace Template

def escapeChars : List Char → List Char
  | [] => []
  | '$' :: '{' :: rest => '$' :: '$' :: '{' :: escapeChars rest
  | c :: rest => c :: escapeChars rest

/-- A text with `$` inserted before every `${`. -/
def escape (s : String) : String := String.ofList (escapeChars s.toList)

/-- `t` is the body of a complete token `${t}` of `cs`: it runs up to the first `}`. -/
def IsTokenBody (cs t : List Char) : Prop := '}' ∉ t ∧ ('$' :: '{' :: t ++ ['}']) <:+: cs

theorem IsTokenBody.of_infix {cs ds t : List Char} (h : IsTokenBody cs t) (hcs : cs <:+: ds) :
    IsTokenBody ds t :=
  ⟨h.1, h.2.trans hcs⟩

theorem escapeChars_head? (cs : List Char) : (escapeChars cs).head? = cs.head? := by
  induction cs using escapeChars.induct with
  | case1 => rfl
  | case2 rest _ => rfl
  | case3 c rest hc _ => rw [escapeChars.eq_3 c rest hc]; rfl

theorem escapeChars_ne_open (cs t : List Char) : escapeChars cs ≠ '$' :: '{' :: t := by
  induction cs using escapeChars.induct with
  | case1 => simp [escapeChars]
  | case2 rest _ => simp [escapeChars]
  | case3 c rest hc _ =>
    rw [escapeChars.eq_3 c rest hc]
    intro h
    obtain ⟨rfl, hrest⟩ := List.cons.inj h
    -- the escape of `rest` starts with `{` only if `rest` does, which the case excludes
    have hhead := escapeChars_head? rest
    rw [hrest] at hhead
    obtain ⟨r, rfl⟩ : ∃ r, rest = '{' :: r := by
      cases rest with
      | nil => simp at hhead
      | cons d r => exact ⟨r, by simpa using hhead.symm⟩
    exact hc r rfl rfl

section Escaped

variable {m : Type → Type} [Monad m] [LawfulMonad m]

theorem substituteChars_escapeChars (lookup : String → m (Option String)) (cs : List Char) :
    substituteChars lookup (escapeChars cs) = pure cs := by
  induction cs using escapeChars.induct with
  | case1 => simp [escapeChars, substituteChars]
  | case2 rest ih => simp [escapeChars, substituteChars.eq_2, ih]
  | case3 c rest hc ih =>
    rw [escapeChars.eq_3 c rest hc]
    -- neither `$${` nor `${` starts here: the escape of `rest` starts like `rest` and never
    -- with `${`
    have hesc : ∀ r, c = '$' → escapeChars rest = '$' :: '{' :: r → False :=
      fun r _ h => escapeChars_ne_open rest r h
    have hopen : ∀ r, c = '$' → escapeChars rest = '{' :: r → False := by
      intro r hc' h
      have hhead := escapeChars_head? rest
      rw [h] at hhead
      cases rest with
      | nil => simp at hhead
      | cons d r' =>
        obtain rfl : d = '{' := by simpa using hhead.symm
        exact hc r' hc' rfl
    rw [substituteChars.eq_4 lookup c _ hesc hopen, ih, pure_bind]

theorem substitute_escape (lookup : String → m (Option String)) (s : String) :
    substitute lookup (escape s) = pure s := by
  simp [substitute, escape, substituteChars_escapeChars]

end Escaped

theorem substituteChars_unresolved (lookup : String → Option String) {cs : List Char}
    (hesc : ¬ ['$', '$', '{'] <:+: cs) (hplain : ∀ t, IsTokenBody cs t → ¬ [':', '-'] <:+: t)
    (hmiss : ∀ t, IsTokenBody cs t → lookup (String.ofList t) = none) :
    (substituteChars (m := Id) lookup cs).run = cs := by
  induction cs using substituteChars.induct with
  | case1 => simp [substituteChars]
  | case2 rest _ => exact absurd (List.prefix_append _ _).isInfix hesc
  | case3 rest hnone =>
    rw [substituteChars.eq_3]
    split
    · rfl
    · next h => rw [hnone] at h; cases h
  | case4 rest token head after hdrop key fallback _ ih =>
    -- the token runs to the first `}`, so `rest` is its body, that brace and the text after
    have hbody : ∀ c ∈ rest.takeWhile (· != '}'), c ≠ '}' := fun c hc =>
      by simpa using List.mem_takeWhile_imp hc
    have hhead : head = '}' := by
      have h := List.head_dropWhile_not (· != '}') (l := rest) (by simp [hdrop])
      simpa [hdrop] using h
    have hrest : rest = rest.takeWhile (· != '}') ++ '}' :: after := by
      conv_lhs => rw [← List.takeWhile_append_dropWhile (p := (· != '}')) (l := rest)]
      rw [hdrop, hhead]
    have htoken : IsTokenBody ('$' :: '{' :: rest) (rest.takeWhile (· != '}')) := by
      refine ⟨fun h => hbody _ h rfl, ?_⟩
      conv_rhs => rw [hrest]
      exact ⟨[], after, by simp⟩
    have hafter : after <:+: '$' :: '{' :: rest := by
      conv_rhs => rw [hrest]
      exact ⟨'$' :: '{' :: (rest.takeWhile (· != '}') ++ ['}']), [], by simp⟩
    have hsplit := splitFallback_go_of_isKey [] (hplain _ htoken)
    rw [substituteChars.eq_3]
    split
    · next h => rw [hdrop] at h; cases h
    · next head' after' h =>
      rw [hdrop] at h
      obtain ⟨rfl, rfl⟩ := List.cons.inj h
      simp only [splitFallback, hsplit, List.reverse_nil, List.nil_append, Id.run_bind,
        Id.run_pure, hmiss _ htoken]
      rw [ih (fun h => hesc (h.trans hafter)) (fun t ht => hplain t (ht.of_infix hafter))
        (fun t ht => hmiss t (ht.of_infix hafter))]
      conv_rhs => rw [hrest]
      simp [Id.run]
  | case5 c rest _ _ ih =>
    have hinf : rest <:+: c :: rest := (List.suffix_cons c rest).isInfix
    rw [substituteChars.eq_4 (m := Id) lookup c rest ‹_› ‹_›]
    simp only [Id.run_bind, Id.run_pure]
    rw [ih (fun h => hesc (h.trans hinf)) (fun t ht => hplain t (ht.of_infix hinf))
      (fun t ht => hmiss t (ht.of_infix hinf))]

/-- Substitution leaves everything but resolvable tokens as written: an escaped text comes back
without a single lookup, in any monad, and a text with no `$${` and no token carrying a fallback
comes back when the lookup knows none of its token keys. -/
theorem substitute_copies_all_but_resolvable_tokens :
    (∀ {m : Type → Type} [Monad m] [LawfulMonad m] (lookup : String → m (Option String))
      (s : String), substitute lookup (escape s) = pure s) ∧
    ∀ (lookup : String → Option String) (s : String), ¬ ['$', '$', '{'] <:+: s.toList →
      (∀ t, IsTokenBody s.toList t → ¬ [':', '-'] <:+: t) →
      (∀ t, IsTokenBody s.toList t → lookup (String.ofList t) = none) →
      Id.run (substitute lookup s) = s := by
  refine ⟨fun lookup s => substitute_escape lookup s, ?_⟩
  intro lookup s hesc hplain hmiss
  simp [substitute, substituteChars_unresolved lookup hesc hplain hmiss]

/-- An escaped text with a fallback token, an escape and a lone `$` comes back with nothing looked
up, and a text with an unknown token, a lone `$` and an unterminated token comes back from a lookup
that knows nothing. -/
theorem substitute_copies_all_but_resolvable_tokens_logged :
    (substitute (m := StateM (List String)) (fun k => do modify (· ++ [k]); pure none)
        (escape "$\x7bx:-y\x7d $$\x7bz\x7d $")).run [] = ("$\x7bx:-y\x7d $$\x7bz\x7d $", []) ∧
    ¬ ['$', '$', '{'] <:+: "$5 $\x7ba\x7d $\x7bb".toList ∧
    (∀ t, IsTokenBody "$5 $\x7ba\x7d $\x7bb".toList t → ¬ [':', '-'] <:+: t) ∧
    Id.run (substitute (fun _ => none) "$5 $\x7ba\x7d $\x7bb") = "$5 $\x7ba\x7d $\x7bb" := by
  -- a body holding `:-` would put a `:` into the text, which has none
  have hplain : ∀ t, IsTokenBody "$5 $\x7ba\x7d $\x7bb".toList t → ¬ [':', '-'] <:+: t := by
    intro t ht hsep
    have hcolon : ':' ∈ "$5 $\x7ba\x7d $\x7bb".toList :=
      ht.2.subset (by simp [hsep.subset (List.mem_cons_self)])
    exact absurd hcolon (by simp)
  have hesc : ¬ ['$', '$', '{'] <:+: "$5 $\x7ba\x7d $\x7bb".toList := by
    simp [List.infix_cons_iff]
  refine ⟨?_, hesc, hplain, ?_⟩
  · rw [substitute_copies_all_but_resolvable_tokens.1]
    rfl
  · exact substitute_copies_all_but_resolvable_tokens.2 _ _ hesc hplain (fun _ _ => rfl)

end Template

end ConfigTree
