import Mathlib.Data.List.Nodup
import ConfigTree.Proofs.Text.UpperCase
import ConfigTree.Coerce
import ConfigTree.Samples.Classes

namespace ConfigTree

open Text

/-- A name `normalizeEnumName` gives back: each character is its own upper case and no space or `-`,
and neither end is white space. -/
def IsCanonicalName (cs : List Char) : Prop :=
  (∀ c ∈ cs, upperChar c = [c] ∧ c ≠ ' ' ∧ c ≠ '-') ∧ Unpadded cs

def underscoreSeparator (c : Char) : Char := if c == ' ' || c == '-' then '_' else c

theorem normalizeEnumName_toList (s : String) :
    (normalizeEnumName s).toList = ((trim s).toList.flatMap upperChar).map underscoreSeparator := by
  simp [normalizeEnumName, toUpper, underscoreSeparator]

theorem flatMap_upperChar_of_forall {cs : List Char} (h : ∀ c ∈ cs, upperChar c = [c]) :
    cs.flatMap upperChar = cs := by
  induction cs with
  | nil => rfl
  | cons c cs ih => simp_all

theorem mem_head?_flatMap {α β : Type} {f : α → List β} (hf : ∀ a, f a ≠ []) {l : List α}
    {b : β} (hb : b ∈ (l.flatMap f).head?) : ∃ a ∈ l.head?, b ∈ f a := by
  cases l with
  | nil => simp at hb
  | cons a l =>
    obtain ⟨x, xs, hx⟩ := List.exists_cons_of_ne_nil (hf a)
    simp only [List.flatMap_cons, hx, List.cons_append, List.head?_cons, Option.mem_def,
      Option.some.injEq] at hb
    exact ⟨a, rfl, by simp [hx, hb]⟩

theorem mem_getLast?_flatMap {α β : Type} {f : α → List β} (hf : ∀ a, f a ≠ []) {l : List α}
    {b : β} (hb : b ∈ (l.flatMap f).getLast?) : ∃ a ∈ l.getLast?, b ∈ f a := by
  rcases List.eq_nil_or_concat' l with rfl | ⟨l, a, rfl⟩
  · simp at hb
  · rw [List.flatMap_append, List.flatMap_singleton,
      List.getLast?_append_of_ne_nil _ (hf a)] at hb
    exact ⟨a, by simp, List.mem_of_mem_getLast? hb⟩

theorem mem_of_mem_intercalate {α : Type} {sep : List α} {ls : List (List α)} {a : α}
    (h : a ∈ sep.intercalate ls) : a ∈ sep ∨ ∃ l ∈ ls, a ∈ l := by
  induction ls with
  | nil => simp at h
  | cons l ls ih =>
    cases ls with
    | nil => exact .inr ⟨l, by simp, by simpa using h⟩
    | cons l' ls =>
      rw [List.intercalate_cons_cons, List.mem_append, List.mem_append] at h
      rcases h with (h | h) | h
      · exact .inr ⟨l, by simp, h⟩
      · exact .inl h
      · rcases ih h with h | ⟨m, hm, h⟩
        · exact .inl h
        · exact .inr ⟨m, List.mem_cons_of_mem l hm, h⟩

section Canonical

theorem underscoreSeparator_of_ne {c : Char} (hs : c ≠ ' ') (hd : c ≠ '-') :
    underscoreSeparator c = c := by
  simp [underscoreSeparator, hs, hd]

theorem underscoreSeparator_of_sep {c : Char} (h : c = ' ' ∨ c = '-') :
    underscoreSeparator c = '_' := by
  rcases h with rfl | rfl <;> rfl

theorem upperChar_underscoreSeparator {d : Char} (h : upperChar d = [d]) :
    upperChar (underscoreSeparator d) = [underscoreSeparator d] ∧
      underscoreSeparator d ≠ ' ' ∧ underscoreSeparator d ≠ '-' := by
  by_cases hsep : d = ' ' ∨ d = '-'
  · rw [underscoreSeparator_of_sep hsep]
    exact ⟨by decide, by decide, by decide⟩
  · rw [not_or] at hsep
    rw [underscoreSeparator_of_ne hsep.1 hsep.2]
    exact ⟨h, hsep⟩

theorem isWhiteSpace_underscoreSeparator {c d : Char} (hc : isWhiteSpace c = false)
    (hd : d ∈ upperChar c) : isWhiteSpace (underscoreSeparator d) = false := by
  by_cases hsep : d = ' ' ∨ d = '-'
  · rw [underscoreSeparator_of_sep hsep]
    decide
  · rw [not_or] at hsep
    rw [underscoreSeparator_of_ne hsep.1 hsep.2]
    cases hw : isWhiteSpace d with
    | false => rfl
    | true =>
      have hdc := eq_of_mem_upperChar_of_isSpaceOrDash hd (by simp [isSpaceOrDash, hw])
      rw [← hdc, hw] at hc
      cases hc

theorem isCanonicalName_of_forall {cs : List Char}
    (h : ∀ c ∈ cs, upperChar c = [c] ∧ isSpaceOrDash c = false) : IsCanonicalName cs := by
  have hplain : ∀ c ∈ cs, isWhiteSpace c = false ∧ c ≠ ' ' ∧ c ≠ '-' := by
    intro c hc
    have hsd := (h c hc).2
    simp only [isSpaceOrDash, Bool.or_eq_false_iff, beq_eq_false_iff_ne] at hsd
    refine ⟨hsd.1, ?_, hsd.2⟩
    rintro rfl
    exact absurd hsd.1 (by decide)
  refine ⟨fun c hc => ⟨(h c hc).1, (hplain c hc).2⟩, fun c hc => ?_, fun c hc => ?_⟩
  · exact (hplain c (List.mem_of_mem_head? hc)).1
  · exact (hplain c (List.mem_of_mem_getLast? hc)).1

theorem normalizeEnumName_of_isCanonicalName {s : String} (h : IsCanonicalName s.toList) :
    normalizeEnumName s = s := by
  have htrim : trim s = s := by
    have hblank : IsBlank [] := by simp [IsBlank]
    simpa using trim_padded hblank h.2 hblank
  rw [← String.toList_inj, normalizeEnumName_toList, htrim,
    flatMap_upperChar_of_forall fun c hc => (h.1 c hc).1]
  calc s.toList.map underscoreSeparator = s.toList.map id :=
        List.map_congr_left fun c hc => underscoreSeparator_of_ne (h.1 c hc).2.1 (h.1 c hc).2.2
    _ = s.toList := List.map_id _

theorem isCanonicalName_normalizeEnumName (s : String) :
    IsCanonicalName (normalizeEnumName s).toList := by
  rw [normalizeEnumName_toList]
  have ht := unpadded_trim s
  refine ⟨fun d' hd' => ?_, fun d' hd' => ?_, fun d' hd' => ?_⟩
  · obtain ⟨d, hd, rfl⟩ := List.mem_map.mp hd'
    obtain ⟨c, -, hdc⟩ := List.mem_flatMap.mp hd
    exact upperChar_underscoreSeparator (upperChar_of_mem_upperChar hdc)
  · -- the first character comes from the first one of the trimmed text, which is no white space
    rw [List.head?_map] at hd'
    obtain ⟨d, hd, rfl⟩ := Option.map_eq_some_iff.mp hd'
    obtain ⟨c, hc, hdc⟩ := mem_head?_flatMap upperChar_ne_nil hd
    exact isWhiteSpace_underscoreSeparator (ht.1 c hc) hdc
  · rw [List.getLast?_map] at hd'
    obtain ⟨d, hd, rfl⟩ := Option.map_eq_some_iff.mp hd'
    obtain ⟨c, hc, hdc⟩ := mem_getLast?_flatMap upperChar_ne_nil hd
    exact isWhiteSpace_underscoreSeparator (ht.2 c hc) hdc

theorem normalizeEnumName_normalizeEnumName (s : String) :
    normalizeEnumName (normalizeEnumName s) = normalizeEnumName s :=
  normalizeEnumName_of_isCanonicalName (isCanonicalName_normalizeEnumName s)

end Canonical

section Identifiers

theorem mem_identWords_go {P : Char → Prop} {cs : List Char}
    (hcs : ∀ c ∈ cs, (c == '_' || c == '-' || c == ' ') = false → P c) :
    ∀ {acc : List Char} {words : List String}, (∀ c ∈ acc, P c) →
      (∀ w ∈ words, ∀ c ∈ w.toList, P c) →
      ∀ w ∈ Naming.identWords.go acc words cs, ∀ c ∈ w.toList, P c := by
  induction cs with
  | nil =>
    intro acc words hacc hwords w hw
    simp only [Naming.identWords.go, List.reverse_cons, List.mem_append, List.mem_reverse,
      List.mem_singleton] at hw
    rcases hw with hw | rfl
    · exact hwords w hw
    · simpa using hacc
  | cons c rest ih =>
    intro acc words hacc hwords
    have hrest : ∀ c ∈ rest, (c == '_' || c == '-' || c == ' ') = false → P c :=
      fun d hd => hcs d (List.mem_cons_of_mem c hd)
    -- the word read so far is closed by a separator or a boundary, or grows by `c`
    have hclosed : ∀ w ∈ String.ofList acc.reverse :: words, ∀ c ∈ w.toList, P c := by
      intro w hw
      rcases List.mem_cons.mp hw with rfl | hw
      · simpa using hacc
      · exact hwords w hw
    simp only [Naming.identWords.go]
    split
    · exact ih hrest (by simp) hclosed
    · next hsep =>
      have hc : P c := hcs c List.mem_cons_self (by simpa using hsep)
      have hnew : ∀ w ∈ Naming.identWords.go [c] (String.ofList acc.reverse :: words) rest,
          ∀ c ∈ w.toList, P c := ih hrest (by simpa using hc) hclosed
      have hgrow : ∀ w ∈ Naming.identWords.go (c :: acc) words rest, ∀ c ∈ w.toList, P c :=
        ih hrest (fun d hd => (List.mem_cons.mp hd).elim (· ▸ hc) (hacc d)) hwords
      -- with no character before `c` there is no boundary
      split
      · rw [if_neg Bool.false_ne_true]
        exact hgrow
      · split
        · exact hnew
        · exact hgrow

theorem mem_identWords {ident w : String} (hw : w ∈ Naming.identWords ident) {c : Char}
    (hc : c ∈ w.toList) : c ∈ ident.toList ∧ (c == '_' || c == '-' || c == ' ') = false := by
  simp only [Naming.identWords, List.mem_filter] at hw
  exact mem_identWords_go (P := fun c => c ∈ ident.toList ∧ (c == '_' || c == '-' || c == ' ') = false)
    (fun c hc hsep => ⟨hc, hsep⟩) (by simp) (by simp) w hw.1 c hc

theorem mem_upperSnake {ident : String} {d : Char} (hd : d ∈ (Naming.upperSnake ident).toList) :
    d = '_' ∨ ∃ c ∈ ident.toList, c ≠ '-' ∧ d ∈ upperChar c := by
  rw [Naming.upperSnake, String.toList_intercalate] at hd
  rcases mem_of_mem_intercalate hd with h | ⟨l, hl, hdl⟩
  · exact .inl (by simpa using h)
  · simp only [List.map_map, List.mem_map, Function.comp_apply] at hl
    obtain ⟨w, hw, rfl⟩ := hl
    simp only [toUpper, String.toList_ofList, List.mem_flatMap] at hdl
    obtain ⟨c, hc, hdc⟩ := hdl
    obtain ⟨hmem, hsep⟩ := mem_identWords hw hc
    refine .inr ⟨c, hmem, ?_, hdc⟩
    rintro rfl
    exact absurd hsep (by decide)

theorem isCanonicalName_upperSnake {ident : String} (h : NoWhiteSpace ident.toList) :
    IsCanonicalName (Naming.upperSnake ident).toList := by
  apply isCanonicalName_of_forall
  intro d hd
  rcases mem_upperSnake hd with rfl | ⟨c, hc, hdash, hdc⟩
  · decide
  · refine ⟨upperChar_of_mem_upperChar hdc, ?_⟩
    cases hsd : isSpaceOrDash d with
    | false => rfl
    | true =>
      -- only `c` itself can upper-case to white space or `-`, and it is neither
      have hdc' := eq_of_mem_upperChar_of_isSpaceOrDash hdc hsd
      subst hdc'
      simp [isSpaceOrDash, h d hc, hdash] at hsd

end Identifiers

namespace EnumDecl

theorem isCanonicalName_of_mem_declare {upperSnake : String → String} {name path : String}
    {variants : List (String × Option String)}
    (hsnake : ∀ v ∈ variants, v.2 = none → IsCanonicalName (upperSnake v.1).toList) :
    ∀ p ∈ (declare upperSnake name path variants).variants, IsCanonicalName p.2.toList := by
  intro p hp
  simp only [declare, List.mem_map] at hp
  obtain ⟨⟨v, n⟩, hv, rfl⟩ := hp
  cases n with
  | some given => exact isCanonicalName_normalizeEnumName given
  | none => exact hsnake _ hv rfl

theorem variantOf?_eq_some_iff {e : EnumDecl} (hnames : e.names.Nodup) {s v : String} :
    e.variantOf? s = some v ↔ (v, normalizeEnumName s) ∈ e.variants := by
  constructor
  · intro h
    simp only [variantOf?, Option.map_eq_some_iff] at h
    obtain ⟨p, hp, rfl⟩ := h
    have hname : p.2 = normalizeEnumName s := by simpa using List.find?_some hp
    rw [← hname]
    exact List.mem_of_find?_eq_some hp
  · intro h
    -- a variant of that name is found, and distinct names make it the one given
    obtain ⟨p, hp⟩ := Option.isSome_iff_exists.mp
      (List.find?_isSome.mpr ⟨_, h, by simp⟩ : (e.variants.find? (·.2 == normalizeEnumName s)).isSome)
    have hname : p.2 = normalizeEnumName s := by simpa using List.find?_some hp
    have hpv : p = (v, normalizeEnumName s) :=
      List.inj_on_of_nodup_map hnames (List.mem_of_find?_eq_some hp) h hname
    simp [variantOf?, hp, hpv]

theorem variantOf?_eq_none_iff {e : EnumDecl} {s : String} :
    e.variantOf? s = none ↔ normalizeEnumName s ∉ e.names := by
  simp only [variantOf?, Option.map_eq_none_iff, List.find?_eq_none, beq_iff_eq, names,
    List.mem_map, not_exists, not_and]

end EnumDecl

section Reading

variable {e : EnumDecl}

theorem readEnum_eq_ok_iff (hnames : e.names.Nodup) {val : Value} {variant : String} :
    readEnum e val = .ok variant ↔
      ∃ s, val = .str s ∧ (variant, normalizeEnumName s) ∈ e.variants := by
  cases val with
  | str s =>
    have hread : (∃ s', Value.str s = .str s' ∧ (variant, normalizeEnumName s') ∈ e.variants) ↔
        (variant, normalizeEnumName s) ∈ e.variants := by
      simp
    rw [hread, ← EnumDecl.variantOf?_eq_some_iff hnames]
    cases h : e.variantOf? s <;> simp [readEnum, h]
  | _ => simp [readEnum]

theorem readEnum_str_eq_error_iff {s : String} :
    readEnum e (.str s) = .error (.typeConversion none s "string" e.name e.names) ↔
      normalizeEnumName s ∉ e.names := by
  rw [← EnumDecl.variantOf?_eq_none_iff]
  cases h : e.variantOf? s <;> simp [readEnum, h, Value.kind]

theorem readEnum_of_ne_str {val : Value} (hval : ∀ s, val ≠ .str s) :
    readEnum e val = .error (.typeConversion none val.display val.kind e.name []) := by
  cases val with
  | str s => exact absurd rfl (hval s)
  | _ => rfl

theorem readEnum_name (hnames : e.names.Nodup)
    (hcanon : ∀ p ∈ e.variants, IsCanonicalName p.2.toList) {p : String × String}
    (hp : p ∈ e.variants) : readEnum e (.str p.2) = .ok p.1 := by
  rw [readEnum_eq_ok_iff hnames]
  refine ⟨p.2, rfl, ?_⟩
  rwa [normalizeEnumName_of_isCanonicalName (hcanon p hp)]

end Reading

/-- A declared enumeration with distinct names, whose upper snake conversion writes a canonical name
(its own upper case, no space or `-`, no white space at either end) for each variant named by its
identifier, reads exactly the texts whose normal form is a variant's name, as that variant; a text
naming no variant fails listing the names in declaration order, a value that is no text fails
listing none, and every variant is read from its own name. -/
theorem enums_read_exactly_their_canonical_names {upperSnake : String → String} {e : EnumDecl}
    {name path : String} {variants : List (String × Option String)}
    (he : e = EnumDecl.declare upperSnake name path variants) (hnames : e.names.Nodup)
    (hsnake : ∀ v ∈ variants, v.2 = none → IsCanonicalName (upperSnake v.1).toList) :
    (∀ val variant, readEnum e val = .ok variant ↔
      ∃ s, val = .str s ∧ (variant, normalizeEnumName s) ∈ e.variants) ∧
    (∀ s, readEnum e (.str s) = .error (.typeConversion none s "string" e.name e.names) ↔
      normalizeEnumName s ∉ e.names) ∧
    (∀ val, (∀ s, val ≠ .str s) →
      readEnum e val = .error (.typeConversion none val.display val.kind e.name [])) ∧
    ∀ p ∈ e.variants, readEnum e (.str p.2) = .ok p.1 := by
  have hcanon : ∀ p ∈ e.variants, IsCanonicalName p.2.toList := by
    subst he
    exact EnumDecl.isCanonicalName_of_mem_declare hsnake
  exact ⟨fun _ _ => readEnum_eq_ok_iff hnames, fun _ => readEnum_str_eq_error_iff,
    fun _ => readEnum_of_ne_str, fun _ => readEnum_name hnames hcanon⟩

/-- The sample levels, their identifiers written in upper snake case by the library's conversion,
read a padded text with a dash as the variant named by its identifier and `Strasse` as the one named
`straße`, while `http2only` names none: the identifier `Http2Only` splits before and after its
digit. -/
theorem enums_read_exactly_their_canonical_names_level :
    Samples.level.names = ["TRACE", "DEBUG_MODE", "HTTP_2_ONLY", "STRASSE", "ÜNÏ_CÖDÉ"] ∧
    readEnum Samples.level (.str " debug-mode") = .ok "DebugMode" ∧
    readEnum Samples.level (.str "Strasse") = .ok "Street" ∧
    readEnum Samples.level (.str "http2only") = .error (.typeConversion none "http2only" "string"
      "Level" ["TRACE", "DEBUG_MODE", "HTTP_2_ONLY", "STRASSE", "ÜNÏ_CÖDÉ"]) := by
  have hnames : Samples.level.names = ["TRACE", "DEBUG_MODE", "HTTP_2_ONLY", "STRASSE", "ÜNÏ_CÖDÉ"] := by
    decide +kernel
  -- the identifiers hold no white space, so the library's conversion writes canonical names
  obtain ⟨hok, herr, -, -⟩ := enums_read_exactly_their_canonical_names (e := Samples.level) rfl
    (by rw [hnames]; decide) fun v hv hn => isCanonicalName_upperSnake (by revert v; decide)
  refine ⟨hnames, (hok _ _).mpr ⟨_, rfl, ?_⟩, (hok _ _).mpr ⟨_, rfl, ?_⟩, ?_⟩
  · decide +kernel
  · decide +kernel
  · rw [← hnames]
    exact (herr "http2only").mpr (by rw [hnames]; decide +kernel)

end ConfigTree
