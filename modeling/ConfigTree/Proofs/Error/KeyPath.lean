import ConfigTree.Access

namespace ConfigTree

/-- One step of a binding path: a member by its logical name, an item of a list or a set by its
position, or an entry of a map by its key. -/
inductive Segment where
  | member (name : String)
  | position (i : Nat)
  | entry (key : String)
deriving DecidableEq, Repr

namespace Segment

/-- The text a step places a failure under. -/
def text : Segment → String
  | member n => n
  | position i => "[" ++ toString i ++ "]"
  | entry k => k

/-- A step written after the one before it: a position right after it, a name or key after a dot. -/
def joined : Segment → String
  | position i => (position i).text
  | s => "." ++ s.text

def Plain : Segment → Option Segment → Prop
  | position _, _ => True
  | s, next => s.text.startsWith "[" = false ∧ (s.text = "" → ∀ i, next ≠ some (position i))

def PlainAll : List Segment → Prop
  | [] => True
  | s :: rest => s.Plain rest.head? ∧ PlainAll rest

end Segment

/-- A path spelled as a failure's key: the first step's text, then each later step joined to it; the
empty path has no key. -/
def renderPath : List Segment → Option String
  | [] => none
  | s :: rest => some (s.text ++ String.join (rest.map Segment.joined))

/-- No step after the first could be taken for a position. -/
def PlainPath : List Segment → Prop
  | [] => True
  | _ :: rest => Segment.PlainAll rest

namespace ConfigError

/-- Whether a failure carries a key: a missing property, a failed conversion, an unresolvable
target. -/
def isKeyed : ConfigError → Bool
  | .missingRequired _ | .typeConversion .. | .unresolvableTarget .. => true
  | _ => false

/-- A keyed failure as it is raised: a missing property names its member, a conversion or an
unresolvable target has no key yet. -/
def Raised : ConfigError → Prop
  | .missingRequired _ => True
  | .typeConversion key .. => key = none
  | .unresolvableTarget _ key => key = none
  | _ => False

/-- The steps a raised failure names itself: the member a missing property is missing from. -/
def ownSteps : ConfigError → List Segment
  | .missingRequired n => [.member n]
  | _ => []

/-- A failure placed under a path, each step's `within` wrapping what the steps after it made. -/
def under (e : ConfigError) (p : List Segment) : ConfigError :=
  p.foldr (fun s e => e.within s.text) e

@[simp] theorem under_nil (e : ConfigError) : e.under [] = e := rfl

@[simp] theorem under_cons (e : ConfigError) (s : Segment) (p : List Segment) :
    e.under (s :: p) = (e.under p).within s.text := rfl

theorem within_of_isKeyed_false {e : ConfigError} (h : e.isKeyed = false) (k : String) :
    e.within k = e := by
  cases e <;> simp_all [isKeyed, within]

theorem under_of_isKeyed_false {e : ConfigError} (h : e.isKeyed = false) (p : List Segment) :
    e.under p = e := by
  induction p with
  | nil => rfl
  | cons s p ih => rw [under_cons, ih, within_of_isKeyed_false h]

theorem isKeyed_within {e : ConfigError} (k : String) : (e.within k).isKeyed = e.isKeyed := by
  cases e <;> rfl

theorem key?_within {e : ConfigError} (h : e.isKeyed = true) (k : String) :
    (e.within k).key? = some (joinKey k e.key?) := by
  cases e <;> simp_all [isKeyed, within, key?]

theorem isKeyed_under (e : ConfigError) (p : List Segment) : (e.under p).isKeyed = e.isKeyed := by
  induction p with
  | nil => rfl
  | cons s p ih => rw [under_cons, isKeyed_within, ih]

theorem Raised.isKeyed {e : ConfigError} (h : e.Raised) : e.isKeyed = true := by
  cases e <;> simp_all [Raised, ConfigError.isKeyed]

theorem Raised.key? {e : ConfigError} (h : e.Raised) : e.key? = renderPath e.ownSteps := by
  cases e <;> simp_all [Raised, ConfigError.key?, ownSteps, renderPath, Segment.text]

end ConfigError

namespace Segment

theorem startsWith_append_of_ne {a : String} (b : String) (h : a ≠ "") :
    (a ++ b).startsWith "[" = a.startsWith "[" := by
  have ha : a.toList ≠ [] := by simpa using h
  obtain ⟨c, cs, hc⟩ := List.exists_cons_of_ne_nil ha
  apply Bool.eq_iff_iff.mpr
  simp [String.toList_append, hc]

theorem position_text_startsWith (i : Nat) (rest : String) :
    ((position i).text ++ rest).startsWith "[" = true := by
  simp [text, String.toList_append]

theorem render_startsWith {s : Segment} {rest : List Segment} (h : PlainAll (s :: rest)) :
    (s.text ++ String.join (rest.map joined)).startsWith "[" = true ↔ ∃ i, s = position i := by
  obtain ⟨hs, -⟩ := h
  cases s with
  | position i => exact ⟨fun _ => ⟨i, rfl⟩, fun _ => position_text_startsWith i _⟩
  | member n | entry n =>
    obtain ⟨hbr, hempty⟩ := hs
    have key : (n ++ String.join (rest.map joined)).startsWith "[" = false := by
      by_cases hn : n = ""
      · -- an empty name or key is followed by nothing, or by a step written after a dot
        subst hn
        match rest, hempty rfl with
        | [], _ => rfl
        | position i :: _, hnext => exact absurd rfl (hnext i)
        | member m :: r, _ | entry m :: r, _ => simp [joined, text]
      · rw [startsWith_append_of_ne _ hn]
        exact hbr
    constructor
    · intro h
      exact absurd (h.symm.trans key) Bool.noConfusion
    · rintro ⟨i, hi⟩
      cases hi

end Segment

theorem joinKey_renderPath (k : String) {q : List Segment} (hq : Segment.PlainAll q) :
    ConfigError.joinKey k (renderPath q) = k ++ String.join (q.map Segment.joined) := by
  cases q with
  | nil => simp [renderPath, ConfigError.joinKey]
  | cons s rest =>
    have hstart := Segment.render_startsWith hq
    simp only [renderPath, ConfigError.joinKey, List.map_cons, String.join_cons]
    split
    · next hb =>
      obtain ⟨i, rfl⟩ := hstart.mp hb
      simp [Segment.joined]
    · next hb =>
      have hs : ∀ i, s ≠ Segment.position i := fun i he => hb (hstart.mpr ⟨i, he⟩)
      cases s with
      | position i => exact absurd rfl (hs i)
      | member n | entry n => simp [Segment.joined, String.append_assoc]

theorem PlainPath.of_plainAll {q : List Segment} (h : Segment.PlainAll q) : PlainPath q := by
  cases q with
  | nil => trivial
  | cons s rest => exact h.2

theorem key?_under {leaf : ConfigError} (hr : leaf.Raised) (p : List Segment)
    (hp : PlainPath (p ++ leaf.ownSteps)) :
    (leaf.under p).key? = renderPath (p ++ leaf.ownSteps) := by
  induction p with
  | nil => exact hr.key?
  | cons s p ih =>
    have hplain : Segment.PlainAll (p ++ leaf.ownSteps) := hp
    have hkeyed : (leaf.under p).isKeyed = true := by rw [ConfigError.isKeyed_under, hr.isKeyed]
    rw [ConfigError.under_cons, ConfigError.key?_within hkeyed, ih (PlainPath.of_plainAll hplain),
      joinKey_renderPath _ hplain]
    rfl

theorem Except.map_eq_error {ε α β : Type} {f : α → β} {x : Except ε α} {e : ε} :
    x.map f = .error e ↔ x = .error e := by
  cases x <;> simp [Except.map]

theorem Except.exists_of_mapM_eq_error {ε α β : Type} {f : α → Except ε β} {xs : List α} {e : ε}
    (h : xs.mapM f = .error e) : ∃ x ∈ xs, f x = .error e := by
  induction xs with
  | nil => cases h
  | cons x xs ih =>
    rw [List.mapM_cons] at h
    cases hx : f x with
    | error e' =>
      rw [hx] at h
      cases h
      exact ⟨x, List.mem_cons_self, hx⟩
    | ok b =>
      rw [hx] at h
      cases hrest : xs.mapM f with
      | error e' =>
        rw [hrest] at h
        cases h
        obtain ⟨y, hy, hfy⟩ := ih hrest
        exact ⟨y, List.mem_cons_of_mem _ hy, hfy⟩
      | ok bs =>
        rw [hrest] at h
        cases h

theorem readItems_eq_error {α : Type} {read : Value → Except ConfigError α} {items : List Value}
    {e : ConfigError} (h : readItems read items = .error e) :
    ∃ i x e', items[i]? = some x ∧ read x = .error e' ∧ e = e'.within (Segment.position i).text := by
  obtain ⟨⟨x, i⟩, hmem, hx⟩ := Except.exists_of_mapM_eq_error h
  have hi : items[i]? = some x := List.mem_zipIdx_iff_getElem?.mp hmem
  cases hread : read x with
  | ok a => simp [hread] at hx
  | error e' =>
    simp only [hread] at hx
    cases hx
    exact ⟨i, x, e', hi, hread, rfl⟩

theorem readString_eq_error {v : Value} {e : ConfigError} (h : readString v = .error e) :
    e = mismatch v "String" := by
  unfold readString at h
  split at h <;> cases h
  rfl

theorem Target.read_error_unplaced {t : Target} (ht : ∀ u, t ≠ .list u) {v : Value}
    {e : ConfigError} (h : t.read v = .error e) : e.isKeyed = true ∧ e.key? = none := by
  cases t with
  | list u => exact absurd rfl (ht u)
  | value => simp [Target.read] at h
  | node =>
    simp only [Target.read] at h
    split at h <;> cases h
    exact ⟨rfl, rfl⟩
  | char =>
    rw [Target.read, Except.map_eq_error] at h
    unfold readChar at h
    cases hs : readString v with
    | error e' =>
      rw [hs] at h
      cases h
      rw [readString_eq_error hs]
      exact ⟨rfl, rfl⟩
    | ok s =>
      rw [hs] at h
      simp only [bind, Except.bind] at h
      split at h <;> cases h
      exact ⟨rfl, rfl⟩
  | int k | f32 | f64 | bool | string | enum d =>
    rw [Target.read, Except.map_eq_error] at h
    simp only [readInt, readF32, readF64, readBool, readString, readEnum] at h
    repeat' split at h
    all_goals cases h <;> exact ⟨rfl, rfl⟩

theorem Target.read_error_isKeyed {t : Target} {v : Value} {e : ConfigError}
    (h : t.read v = .error e) : e.isKeyed = true := by
  induction t generalizing v e with
  | list t ih =>
    simp only [Target.read] at h
    split at h
    · obtain ⟨i, x, e', -, hread, rfl⟩ := readItems_eq_error (Except.map_eq_error.mp h)
      rw [ConfigError.isKeyed_within]
      exact ih hread
    · cases h
      rfl
  | _ => exact (Target.read_error_unplaced (by simp) h).1

/-- Reading `v` as `t` fails with `leaf`, raised without a key at the item that `ps` leads to, one
position for each level of a list target. -/
inductive Target.FailsAt : Target → Value → List Nat → ConfigError → Prop
  | here {t : Target} {v : Value} {leaf : ConfigError} :
      t.read v = .error leaf → leaf.key? = none → Target.FailsAt t v [] leaf
  | item {t : Target} {v x : Value} {items : List Value} {i : Nat} {ps : List Nat}
      {leaf : ConfigError} :
      itemsOf? v = some items → items[i]? = some x → Target.FailsAt t x ps leaf →
      Target.FailsAt (.list t) v (i :: ps) leaf

theorem Target.FailsAt.raised {t : Target} {v : Value} {ps : List Nat} {leaf : ConfigError}
    (h : t.FailsAt v ps leaf) : leaf.Raised ∧ leaf.ownSteps = [] := by
  induction h with
  | here hread hkey =>
    have hkeyed := Target.read_error_isKeyed hread
    rename_i leaf
    cases leaf <;> simp_all [ConfigError.Raised, ConfigError.ownSteps, ConfigError.isKeyed,
      ConfigError.key?]
  | item _ _ _ ih => exact ih

theorem Target.failsAt_of_read {t : Target} {v : Value} {e : ConfigError}
    (h : t.read v = .error e) :
    ∃ ps leaf, t.FailsAt v ps leaf ∧ e = leaf.under (ps.map .position) := by
  induction t generalizing v e with
  | list t ih =>
    simp only [Target.read] at h
    split at h
    · next items hitems =>
      obtain ⟨i, x, e', hx, hread, rfl⟩ := readItems_eq_error (Except.map_eq_error.mp h)
      obtain ⟨ps, leaf, hfails, rfl⟩ := ih hread
      exact ⟨i :: ps, leaf, .item hitems hx hfails, rfl⟩
    · next hitems =>
      have hread : (Target.list t).read v = .error e := by simpa [Target.read, hitems] using h
      cases h
      exact ⟨[], _, .here hread rfl, rfl⟩
  | _ => exact ⟨[], e, .here h (Target.read_error_unplaced (by simp) h).2, rfl⟩

theorem Segment.plainAll_positions (ps : List Nat) : PlainAll (ps.map position) := by
  induction ps with
  | nil => trivial
  | cons i ps ih => exact ⟨trivial, ih⟩

theorem Node.tryGet_eq_error {n : Node} {path : String} {t : Target} {e : ConfigError}
    (h : n.tryGet path t = .error e) :
    ∃ v ps leaf, n.lookup path = some v ∧ t.FailsAt v ps leaf ∧
      e = leaf.under (.member path :: ps.map .position) ∧
      e.key? = some (path ++ String.join (ps.map fun i => "[" ++ toString i ++ "]")) := by
  unfold Node.tryGet at h
  split at h
  · cases h
  · next v hv =>
    split at h
    · cases h
    · next e' hread =>
      cases h
      obtain ⟨ps, leaf, hfails, rfl⟩ := Target.failsAt_of_read hread
      obtain ⟨hraised, hown⟩ := hfails.raised
      have hplain : PlainPath (.member path :: ps.map .position ++ leaf.ownSteps) := by
        rw [hown, List.append_nil]
        exact Segment.plainAll_positions ps
      refine ⟨v, ps, leaf, hv, hfails, rfl, ?_⟩
      change (leaf.under (.member path :: ps.map .position)).key? = _
      rw [key?_under hraised _ hplain, hown]
      simp [renderPath, Function.comp_def, Segment.joined, Segment.text]

end ConfigTree
