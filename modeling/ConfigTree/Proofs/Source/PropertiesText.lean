import ConfigTree.Proofs.Text.Pieces
import ConfigTree.Source.Properties

namespace ConfigTree

namespace Properties

def escapeLetter? : Char → Option Char
  | '\\' => some '\\'
  | '\n' => some 'n'
  | '\r' => some 'r'
  | '\t' => some 't'
  | '\x0c' => some 'f'
  | _ => none

def escapeCharWith (marked : Char → Bool) (c : Char) : List Char :=
  match escapeLetter? c with
  | some e => ['\\', e]
  | none => if marked c then ['\\', c] else [c]

def escapeWith (first rest : Char → Bool) : List Char → List Char
  | [] => []
  | c :: cs => escapeCharWith first c ++ cs.flatMap (escapeCharWith rest)

def isKeyMark (c : Char) : Bool := c == '=' || c == ':' || c == ' '

def isKeyStartMark (c : Char) : Bool := isKeyMark c || c == '#' || c == '!' || Text.isWhiteSpace c

def escapeKey (k : String) : List Char := escapeWith isKeyStartMark isKeyMark k.toList

def escapeValue (v : String) : List Char := escapeWith (· == ' ') (fun _ => false) v.toList

def entryLine (e : String × String) : List Char := escapeKey e.1 ++ '=' :: escapeValue e.2

/-- The text of a list of entries, one line each. -/
def render (es : List (String × String)) : String :=
  "\n".intercalate (es.map fun e => String.ofList (entryLine e))

theorem escapeLetter?_eq_some {c e : Char} (h : escapeLetter? c = some e) :
    (c = '\\' ∧ e = '\\') ∨ (c = '\n' ∧ e = 'n') ∨ (c = '\r' ∧ e = 'r') ∨ (c = '\t' ∧ e = 't') ∨
      (c = '\x0c' ∧ e = 'f') := by
  unfold escapeLetter? at h
  split at h <;> cases h <;> simp

theorem escapeLetter?_eq_none {c : Char} (h : escapeLetter? c = none) :
    c ∉ ['\\', '\n', '\r', '\t', '\x0c'] := by
  unfold escapeLetter? at h
  split at h <;> simp_all

theorem unescape_letter {c e : Char} (h : escapeLetter? c = some e) (tail : List Char) :
    unescape ('\\' :: e :: tail) = c :: unescape tail := by
  rcases escapeLetter?_eq_some h with ⟨rfl, rfl⟩ | ⟨rfl, rfl⟩ | ⟨rfl, rfl⟩ | ⟨rfl, rfl⟩ | ⟨rfl, rfl⟩
  · exact unescape.eq_7 _ _ (by decide) (by decide) (by decide) (by decide) (by decide)
  · exact unescape.eq_3 _
  · exact unescape.eq_4 _
  · exact unescape.eq_2 _
  · exact unescape.eq_5 _

theorem escapeCharWith_cases (m : Char → Bool) (c : Char) :
    (escapeCharWith m c = [c] ∧ escapeLetter? c = none ∧ m c = false) ∨
    ∃ e, escapeCharWith m c = ['\\', e] ∧
      (escapeLetter? c = some e ∨ (escapeLetter? c = none ∧ m c = true ∧ e = c)) := by
  unfold escapeCharWith
  cases h : escapeLetter? c with
  | some e => exact .inr ⟨e, rfl, .inl rfl⟩
  | none =>
    cases hm : m c with
    | false => exact .inl ⟨rfl, rfl, rfl⟩
    | true => exact .inr ⟨c, rfl, .inr ⟨rfl, rfl, rfl⟩⟩

theorem newline_not_mem_escapeCharWith (m : Char → Bool) (c : Char) :
    '\n' ∉ escapeCharWith m c ∧ '\r' ∉ escapeCharWith m c := by
  rcases escapeCharWith_cases m c with ⟨h, hl, -⟩ | ⟨e, h, hl | ⟨hl, -, he⟩⟩
  · have hc := escapeLetter?_eq_none hl
    simp only [List.mem_cons, List.not_mem_nil, or_false, not_or] at hc
    simp only [h, List.mem_singleton]
    exact ⟨fun h' => hc.2.1 h'.symm, fun h' => hc.2.2.1 h'.symm⟩
  · rw [h]
    rcases escapeLetter?_eq_some hl with ⟨-, rfl⟩ | ⟨-, rfl⟩ | ⟨-, rfl⟩ | ⟨-, rfl⟩ | ⟨-, rfl⟩ <;>
      decide
  · have hc := escapeLetter?_eq_none hl
    simp only [List.mem_cons, List.not_mem_nil, or_false, not_or] at hc
    simp only [h, he, List.mem_cons, List.not_mem_nil, or_false, not_or]
    exact ⟨⟨by decide, fun h' => hc.2.1 h'.symm⟩, ⟨by decide, fun h' => hc.2.2.1 h'.symm⟩⟩

section Unescape

variable {m : Char → Bool} (hm : ∀ e ∈ ['t', 'n', 'r', 'f', 'u'], m e = false)
include hm

theorem unescape_escapeCharWith (c : Char) (tail : List Char) :
    unescape (escapeCharWith m c ++ tail) = c :: unescape tail := by
  rcases escapeCharWith_cases m c with ⟨h, hl, -⟩ | ⟨e, h, hl | ⟨-, hmc, he⟩⟩
  · rw [h]
    -- a character standing as itself is no backslash
    have hc : c ≠ '\\' := fun hc => escapeLetter?_eq_none hl (by simp [hc])
    exact unescape.eq_9 _ _ (fun _ h _ => hc h) (fun _ h _ => hc h) (fun _ h _ => hc h)
      (fun _ h _ => hc h) (fun _ h _ => hc h) (fun _ _ h _ => hc h) (fun h _ => hc h)
  · rw [h]
    exact unescape_letter hl tail
  · rw [h, he]
    -- a marked character is none of the letters that start an escape
    have hne : ∀ e ∈ ['t', 'n', 'r', 'f', 'u'], c ≠ e := fun e he hce => by
      simp [hce, hm e he] at hmc
    exact unescape.eq_7 _ _ (hne 't' (by simp)) (hne 'n' (by simp)) (hne 'r' (by simp))
      (hne 'f' (by simp)) (hne 'u' (by simp))

theorem unescape_flatMap_escapeCharWith (cs tail : List Char) :
    unescape (cs.flatMap (escapeCharWith m) ++ tail) = cs ++ unescape tail := by
  induction cs with
  | nil => rfl
  | cons c cs ih =>
    rw [List.flatMap_cons, List.append_assoc, unescape_escapeCharWith hm, ih, List.cons_append]

end Unescape

theorem unescape_escapeWith {first rest : Char → Bool}
    (hfirst : ∀ e ∈ ['t', 'n', 'r', 'f', 'u'], first e = false)
    (hrest : ∀ e ∈ ['t', 'n', 'r', 'f', 'u'], rest e = false) (cs : List Char) :
    unescape (escapeWith first rest cs) = cs := by
  cases cs with
  | nil => exact unescape.eq_1
  | cons c cs =>
    rw [escapeWith, ← List.append_nil (cs.flatMap _), ← List.append_assoc,
      List.append_assoc, unescape_escapeCharWith hfirst,
      unescape_flatMap_escapeCharWith hrest, unescape.eq_1, List.append_nil]

theorem unescape_escapeKey (k : String) : unescape (escapeKey k) = k.toList :=
  unescape_escapeWith (by simp [isKeyStartMark, isKeyMark, Text.isWhiteSpace])
    (by simp [isKeyMark]) k.toList

theorem unescape_escapeValue (v : String) : unescape (escapeValue v) = v.toList :=
  unescape_escapeWith (by simp) (by simp) v.toList

section SplitKey

variable {m : Char → Bool}
  (hm : ∀ c, isSeparator c = true → escapeLetter? c = none → m c = true)
include hm

theorem splitKey_escapeCharWith (c : Char) (tail : List Char) :
    splitKey (escapeCharWith m c ++ tail) =
      (escapeCharWith m c ++ (splitKey tail).1, (splitKey tail).2) := by
  rcases escapeCharWith_cases m c with ⟨h, hl, hmc⟩ | ⟨e, h, -⟩ <;> rw [h]
  · have hc : c ≠ '\\' := fun hc => escapeLetter?_eq_none hl (by simp [hc])
    have hsep : isSeparator c = false := by
      cases hs : isSeparator c
      · rfl
      · simp [hm c hs hl] at hmc
    rw [List.singleton_append, splitKey.eq_3 _ _ fun _ _ h _ => hc h, hsep]
    rfl
  · rw [List.cons_append, List.cons_append, List.nil_append, splitKey.eq_2]
    cases splitKey tail
    rfl

theorem splitKey_flatMap_escapeCharWith (cs tail : List Char) :
    splitKey (cs.flatMap (escapeCharWith m) ++ tail) =
      (cs.flatMap (escapeCharWith m) ++ (splitKey tail).1, (splitKey tail).2) := by
  induction cs with
  | nil => rfl
  | cons c cs ih =>
    rw [List.flatMap_cons, List.append_assoc, splitKey_escapeCharWith hm, ih, List.append_assoc]

end SplitKey

theorem splitKey_entryLine (e : String × String) :
    splitKey (entryLine e) = (escapeKey e.1, '=' :: escapeValue e.2) := by
  have hmarks : ∀ m : Char → Bool, (∀ c, isKeyMark c = true → m c = true) →
      ∀ c, isSeparator c = true → escapeLetter? c = none → m c = true := by
    intro m hm c hs hl
    have hc := escapeLetter?_eq_none hl
    apply hm
    simp only [isSeparator, Bool.or_eq_true, beq_iff_eq] at hs
    rcases hs with (((rfl | rfl) | rfl) | rfl) | rfl <;> simp_all [isKeyMark]
  have hstart := hmarks isKeyStartMark fun c h => by simp [isKeyStartMark, h]
  have hrest := hmarks isKeyMark fun _ h => h
  have hsep : splitKey ('=' :: escapeValue e.2) = ([], '=' :: escapeValue e.2) := by
    rw [splitKey.eq_3 _ _ fun _ _ h _ => by cases h]
    rfl
  unfold entryLine escapeKey
  cases e.1.toList with
  | nil => exact hsep
  | cons c cs =>
    rw [escapeWith, List.append_assoc, splitKey_escapeCharWith hstart,
      splitKey_flatMap_escapeCharWith hrest, hsep]
    simp only [List.append_nil]

theorem head?_escapeWith (first rest : Char → Bool) (c : Char) (cs : List Char) :
    ∃ x, (escapeWith first rest (c :: cs)).head? = some x ∧
      (x = '\\' ∨ (x = c ∧ escapeLetter? c = none ∧ first c = false)) := by
  rcases escapeCharWith_cases first c with ⟨h, hl, hf⟩ | ⟨e, h, -⟩
  · exact ⟨c, by simp [escapeWith, h], .inr ⟨rfl, hl, hf⟩⟩
  · exact ⟨'\\', by simp [escapeWith, h], .inl rfl⟩

theorem head?_entryLine (e : String × String) :
    ∃ x, (entryLine e).head? = some x ∧
      Text.isWhiteSpace x = false ∧ x ≠ '#' ∧ x ≠ '!' := by
  unfold entryLine escapeKey
  cases hk : e.1.toList with
  | nil => exact ⟨'=', by simp [escapeWith], by decide, by decide, by decide⟩
  | cons c cs =>
    obtain ⟨x, hx, hx'⟩ := head?_escapeWith isKeyStartMark isKeyMark c cs
    refine ⟨x, by simp [List.head?_append, hx], ?_⟩
    rcases hx' with rfl | ⟨rfl, -, hmark⟩
    · decide
    · simp only [isKeyStartMark, Bool.or_eq_false_iff, beq_eq_false_iff_ne, ne_eq] at hmark
      exact ⟨hmark.2, hmark.1.1.2, hmark.1.2⟩

theorem dropWhile_isBlank_escapeValue (v : String) :
    (escapeValue v).dropWhile isBlank = escapeValue v := by
  unfold escapeValue
  cases v.toList with
  | nil => rfl
  | cons c cs =>
    apply Text.dropWhile_of_head?
    obtain ⟨x, hx, hx'⟩ := head?_escapeWith (· == ' ') (fun _ => false) c cs
    rw [hx]
    rintro y ⟨⟩
    rcases hx' with rfl | ⟨rfl, hl, hspace⟩
    · decide
    · -- tab and form feed have letters, and a leading space is marked
      have hc := escapeLetter?_eq_none hl
      simp only [List.mem_cons, List.not_mem_nil, or_false, not_or] at hc
      simp only [beq_eq_false_iff_ne, ne_eq] at hspace
      simp [isBlank, hspace, hc.2.2.2.1, hc.2.2.2.2]

theorem splitEntry_entryLine (e : String × String) : splitEntry (entryLine e) = e := by
  have hsep : ('=' :: escapeValue e.2).dropWhile isBlank = '=' :: escapeValue e.2 :=
    List.dropWhile_cons_of_neg (by decide)
  simp only [splitEntry, splitKey_entryLine, hsep, dropWhile_isBlank_escapeValue,
    unescape_escapeKey, unescape_escapeValue, String.ofList_toList]

theorem takeWhile_backslash_escapeCharWith (m : Char → Bool) (c : Char) (rest : List Char) :
    ((escapeCharWith m c).reverse ++ rest).takeWhile (· == '\\') =
      if c = '\\' then '\\' :: '\\' :: rest.takeWhile (· == '\\') else [] := by
  rcases escapeCharWith_cases m c with ⟨h, hl, -⟩ | ⟨e, h, hl | ⟨hl, -, rfl⟩⟩
  · have hc : c ≠ '\\' := fun hc => escapeLetter?_eq_none hl (by simp [hc])
    simp [h, hc]
  · rcases escapeLetter?_eq_some hl with ⟨rfl, rfl⟩ | ⟨rfl, rfl⟩ | ⟨rfl, rfl⟩ | ⟨rfl, rfl⟩ |
      ⟨rfl, rfl⟩ <;> simp [h]
  · have hc : e ≠ '\\' := fun hc => escapeLetter?_eq_none hl (by simp [hc])
    simp [h, hc]

theorem takeWhile_backslash_flatMap (m : Char → Bool) (cs rest : List Char)
    (hrest : (rest.takeWhile (· == '\\')).length % 2 = 0) :
    (((cs.flatMap (escapeCharWith m)).reverse ++ rest).takeWhile (· == '\\')).length % 2 = 0 := by
  induction cs generalizing rest with
  | nil => simpa using hrest
  | cons c cs ih =>
    rw [List.flatMap_cons, List.reverse_append, List.append_assoc]
    apply ih
    rw [takeWhile_backslash_escapeCharWith]
    split
    · simp only [List.length_cons]
      omega
    · rfl

theorem continues_entryLine (e : String × String) : continues (entryLine e) = false := by
  have hline : (entryLine e).reverse = (escapeValue e.2).reverse ++ '=' :: (escapeKey e.1).reverse := by
    simp [entryLine]
  have heq : (('=' :: (escapeKey e.1).reverse).takeWhile (· == '\\')).length % 2 = 0 := by
    simp
  have hrun : ((entryLine e).reverse.takeWhile (· == '\\')).length % 2 = 0 := by
    rw [hline]
    unfold escapeValue
    cases e.2.toList with
    | nil => exact heq
    | cons c cs =>
      rw [escapeWith, List.reverse_append, List.append_assoc]
      apply takeWhile_backslash_flatMap
      rw [takeWhile_backslash_escapeCharWith]
      split <;> simp
  simp [continues, hrun]

theorem newline_not_mem_escapeWith (first rest : Char → Bool) (cs : List Char) :
    '\n' ∉ escapeWith first rest cs ∧ '\r' ∉ escapeWith first rest cs := by
  cases cs with
  | nil => simp [escapeWith]
  | cons c cs =>
    simp only [escapeWith, List.mem_append, List.mem_flatMap, not_or, not_exists, not_and]
    exact ⟨⟨(newline_not_mem_escapeCharWith first c).1,
        fun d _ => (newline_not_mem_escapeCharWith rest d).1⟩,
      ⟨(newline_not_mem_escapeCharWith first c).2,
        fun d _ => (newline_not_mem_escapeCharWith rest d).2⟩⟩

theorem newline_not_mem_entryLine (e : String × String) :
    '\n' ∉ entryLine e ∧ '\r' ∉ entryLine e := by
  have hk := newline_not_mem_escapeWith isKeyStartMark isKeyMark e.1.toList
  have hv := newline_not_mem_escapeWith (· == ' ') (fun _ => false) e.2.toList
  simp only [entryLine, escapeKey, escapeValue, List.mem_append, List.mem_cons, not_or]
  exact ⟨⟨hk.1, by decide, hv.1⟩, ⟨hk.2, by decide, hv.2⟩⟩

theorem splitOn_newline (s : String) :
    s.splitOn "\n" = (s.toList.splitOn '\n').map String.ofList := by
  rw [show "\n" = String.singleton '\n' by decide, Text.splitOn_singleton]

theorem splitOn_render {es : List (String × String)} (hes : es ≠ []) :
    (render es).splitOn "\n" = es.map fun e => String.ofList (entryLine e) := by
  rw [render, show "\n" = String.singleton '\n' by decide]
  refine Text.splitOn_intercalate_singleton '\n' (by simpa using hes) ?_
  simp only [List.mem_map]
  rintro l ⟨e, -, rfl⟩
  simpa using (newline_not_mem_entryLine e).1

theorem dropCarriageReturn_of_not_mem {l : List Char} (h : '\r' ∉ l) :
    dropCarriageReturn (String.ofList l) = String.ofList l := by
  have hend : (String.ofList l).endsWith "\r" = false := by
    rw [String.endsWith, String.Slice.endsWith_string_eq_false_iff]
    intro hsuf
    exact h (by simpa using hsuf.subset (List.mem_singleton_self '\r'))
  simp [dropCarriageReturn, hend]

theorem lines_render (es : List (String × String)) :
    lines (render es) = es.map fun e => String.ofList (entryLine e) := by
  rcases List.eq_nil_or_concat' es with rfl | ⟨init, last, rfl⟩
  · -- no entries: the empty text has one empty piece and no line
    have hsplit : (render []).splitOn "\n" = [""] := by
      simp [splitOn_newline, render]
    simp [lines, hsplit]
  · have hlast : (String.ofList (entryLine last)).isEmpty = false := by
      simp [entryLine]
    unfold lines
    rw [splitOn_render (by simp), List.map_append, List.reverse_append]
    simp only [List.map_cons, List.map_nil, List.reverse_cons, List.reverse_nil, List.nil_append,
      List.singleton_append, List.reverse_reverse, hlast]
    simp [Function.comp_def, dropCarriageReturn_of_not_mem (newline_not_mem_entryLine _).2]

theorem entriesOf_lines (es : List (String × String)) :
    entriesOf none (es.map fun e => String.ofList (entryLine e)) = es := by
  induction es with
  | nil => exact entriesOf.eq_2
  | cons e es ih =>
    obtain ⟨x, hx, hws, hhash, hbang⟩ := head?_entryLine e
    have htrim : Text.trimStart (String.ofList (entryLine e)) = String.ofList (entryLine e) := by
      rw [Text.trimStart, String.toList_ofList,
        Text.dropWhile_of_head? (by rw [hx]; rintro _ ⟨⟩; exact hws)]
    rw [List.map_cons, entriesOf.eq_4, htrim, String.toList_ofList, hx]
    have hne : (entryLine e).isEmpty = false := by
      cases h : entryLine e with
      | nil => simp [h] at hx
      | cons _ _ => rfl
    simp [hne, hhash, hbang, continues_entryLine, splitEntry_entryLine, ih]

/-- Entries written one per line, keys and values escaped, read back as themselves, in order; so the
node of the text is the node of the entries. -/
theorem properties_text_reads_back_its_entries (es : List (String × String)) :
    entries (render es) = es ∧
      Node.ofProperties (render es) = Node.ofPairs (es.map fun e => (e.1, .str e.2)) := by
  have h : entries (render es) = es := by rw [entries, lines_render, entriesOf_lines]
  exact ⟨h, by rw [Node.ofProperties, h]⟩

end Properties

end ConfigTree
