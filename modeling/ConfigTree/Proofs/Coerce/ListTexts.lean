import ConfigTree.Proofs.Text.Pieces
import ConfigTree.Proofs.Node.Paths
import ConfigTree.Access

namespace ConfigTree

open Text

/-- One cell of a list text: an item with no `,` and no white space at its ends, padded with white
space. -/
structure ListCell where
  before : String
  item : String
  after : String
  before_blank : IsBlank before.toList
  after_blank : IsBlank after.toList
  item_unpadded : Unpadded item.toList
  comma_not_mem : ',' ∉ item.toList

/-- A bracketed list text, padded with white space outside its brackets. -/
structure ListText where
  lead : String
  cells : List ListCell
  trail : String
  lead_blank : IsBlank lead.toList
  trail_blank : IsBlank trail.toList

namespace ListCell

/-- The text of a cell. -/
def text (c : ListCell) : String := c.before ++ c.item ++ c.after

theorem comma_not_mem_text (c : ListCell) : ',' ∉ c.text.toList := by
  have hcomma : isWhiteSpace ',' = false := by decide
  simp only [text, String.toList_append, List.mem_append, not_or]
  exact ⟨⟨fun h => by simpa [hcomma] using c.before_blank _ h, c.comma_not_mem⟩,
    fun h => by simpa [hcomma] using c.after_blank _ h⟩

theorem trim_text (c : ListCell) : Text.trim c.text = c.item := by
  have h := trim_padded c.before_blank c.item_unpadded c.after_blank
  rwa [String.ofList_toList, ← String.toList_append, ← String.toList_append,
    String.ofList_toList] at h

end ListCell

namespace ListText

/-- The text between the brackets. -/
def inner (t : ListText) : String := ",".intercalate (t.cells.map ListCell.text)

/-- The text of a list text. -/
def render (t : ListText) : String := t.lead ++ "[" ++ t.inner ++ "]" ++ t.trail

/-- The items a list text lists: the non-empty ones, in order. -/
def items (t : ListText) : List String := (t.cells.map (·.item)).filter (· != "")

theorem trim_render (t : ListText) :
    Text.trim t.render = String.ofList ('[' :: t.inner.toList ++ [']']) := by
  have hbrackets : Unpadded ('[' :: t.inner.toList ++ [']']) := by
    refine ⟨fun c hc => ?_, fun c hc => ?_⟩
    · obtain rfl : c = '[' := by simpa using hc.symm
      decide
    · obtain rfl : c = ']' := by simpa [List.getLast?_cons] using hc.symm
      decide
  have htext : t.render =
      String.ofList (t.lead.toList ++ ('[' :: t.inner.toList ++ [']']) ++ t.trail.toList) := by
    rw [← String.toList_inj]
    simp [render]
  rw [htext, trim_padded t.lead_blank hbrackets t.trail_blank]

theorem trim_pieces (t : ListText) :
    ((t.inner.splitOn ",").map Text.trim).filter (· != "") = t.items := by
  have hcomma : "," = String.singleton ',' := by decide
  rw [inner, hcomma]
  cases hcells : t.cells with
  | nil =>
    rw [splitOn_singleton]
    simp [items, hcells, Text.trim]
  | cons c cs =>
    have hcells' : ∀ l ∈ (c :: cs).map ListCell.text, ',' ∉ l.toList := by
      simp only [List.mem_map]
      rintro l ⟨d, -, rfl⟩
      exact d.comma_not_mem_text
    rw [splitOn_intercalate_singleton ',' (by simp) hcells', items, hcells, List.map_map]
    simp [Function.comp_def, ListCell.trim_text]

theorem parseList_render (t : ListText) : parseList t.render = some t.items := by
  have hlen : ¬ ('[' :: t.inner.toList ++ [']']).length < 2 := by simp
  have hlast : ('[' :: t.inner.toList ++ [']']).getLast? = some ']' := by
    simpa only [List.cons_append] using List.getLast?_concat (l := '[' :: t.inner.toList) (a := ']')
  simp only [parseList, trim_render, String.toList_ofList, hlast, hlen, if_false]
  simp [trim_pieces]

end ListText

/-- A bracketed list text reads exactly like the list of its items: `parseList` gives the non-empty
items, reading the text as a list of any element type is reading the list of those items, failures
and their `[i]` positions included, and `Node.getList` and `Node.getSet` read a node holding the
text as they read a node holding the list. -/
theorem list_texts_read_as_their_items (t : ListText) :
    parseList t.render = some t.items ∧
    (∀ target : Target,
      (Target.list target).read (.str t.render) =
        (Target.list target).read (.list (t.items.map .str))) ∧
    ∀ (n n' : Node) (p p' : String) (target : Target), n.lookup p = some (.str t.render) →
      n'.lookup p' = some (.list (t.items.map .str)) →
      n.getList p target = n'.getList p' target ∧ n.getSet p target = n'.getSet p' target := by
  refine ⟨t.parseList_render, fun target => ?_, fun n n' p p' target hn hn' => ?_⟩
  · simp only [Target.read, itemsOf?, t.parseList_render, Option.map_some]
  · have hlist : n.getList p target = n'.getList p' target := by
      simp only [Node.getList, hn, hn', Option.bind_some, itemsOf?, t.parseList_render,
        Option.map_some]
    exact ⟨hlist, by simp only [Node.getSet, hlist]⟩

/-- A list text padded inside and outside its brackets, with a blank cell and an item holding a
space, is read at a key as the list of its two items. -/
theorem list_texts_read_as_their_items_padded :
    Node.lookup [("k", .str " [ a, ,b c ]\n")] "k" = some (.str " [ a, ,b c ]\n") ∧
    Node.lookup [("k", .list [.str "a", .str "b c"])] "k" = some (.list [.str "a", .str "b c"]) ∧
    Node.getList [("k", .str " [ a, ,b c ]\n")] "k" .string =
      Node.getList [("k", .list [.str "a", .str "b c"])] "k" .string ∧
    Node.getSet [("k", .str " [ a, ,b c ]\n")] "k" .string =
      Node.getSet [("k", .list [.str "a", .str "b c"])] "k" .string := by
  let t : ListText := ⟨" ", [⟨" ", "a", "", by decide, by decide, by decide, by decide⟩,
    ⟨" ", "", "", by decide, by decide, by decide, by decide⟩,
    ⟨"", "b c", " ", by decide, by decide, by decide, by decide⟩], "\n", by decide, by decide⟩
  have hrender : t.render = " [ a, ,b c ]\n" := by decide
  have hitems : t.items = ["a", "b c"] := by decide
  have hkey : Node.segments "k" = ["k"] := Node.segments_of_undotted (by decide)
  have hn : Node.lookup [("k", .str " [ a, ,b c ]\n")] "k" = some (.str " [ a, ,b c ]\n") := by
    simp [Node.lookup, hkey, Node.lookupSegments, Node.find?]
  have hn' : Node.lookup [("k", .list [.str "a", .str "b c"])] "k" =
      some (.list [.str "a", .str "b c"]) := by
    simp [Node.lookup, hkey, Node.lookupSegments, Node.find?]
  have hread := (list_texts_read_as_their_items t).2.2 _ _ "k" "k" .string
    (by rw [hn, hrender]) (by rw [hn', hitems]; rfl)
  exact ⟨hn, hn', hread⟩

end ConfigTree
