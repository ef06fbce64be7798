import ConfigTree.Proofs.Node.Merge
import ConfigTree.Proofs.Text.Pieces

namespace ConfigTree

namespace Node

theorem segments_eq_splitOn (key : String) :
    segments key = (key.toList.splitOn '.').map String.ofList := by
  rw [segments, show "." = String.singleton '.' by decide, Text.splitOn_singleton]

theorem segments_ne_nil (key : String) : segments key ≠ [] := by
  simp [segments_eq_splitOn]

theorem segments_of_undotted {key : String} (h : '.' ∉ key.toList) : segments key = [key] := by
  rw [segments_eq_splitOn, List.splitOn_eq_singleton h]
  simp

theorem not_mem_of_mem_splitOn {c : Char} :
    ∀ {cs w : List Char}, w ∈ cs.splitOn c → c ∉ w
  | [], w, hw => by simp_all
  | x :: xs, w, hw => by
    rw [List.splitOn_cons_eq_if_modifyHead] at hw
    split_ifs at hw with hx
    · rcases List.mem_cons.mp hw with rfl | hw
      · simp
      · exact not_mem_of_mem_splitOn hw
    · obtain ⟨r, rs, hr⟩ := List.exists_cons_of_ne_nil (List.splitOn_ne_nil c xs)
      rw [hr, List.modifyHead_cons] at hw
      rcases List.mem_cons.mp hw with rfl | hw
      · have hr' : c ∉ r := not_mem_of_mem_splitOn (hr ▸ List.mem_cons_self)
        simp only [List.mem_cons, not_or]
        exact ⟨fun h => by simp [h] at hx, hr'⟩
      · exact not_mem_of_mem_splitOn (hr ▸ List.mem_cons_of_mem _ hw)

theorem dot_not_mem_of_mem_segments {key s : String} (h : s ∈ segments key) : '.' ∉ s.toList := by
  rw [segments_eq_splitOn, List.mem_map] at h
  obtain ⟨w, hw, rfl⟩ := h
  simpa using not_mem_of_mem_splitOn hw

theorem intercalate_segments (key : String) : ".".intercalate (segments key) = key := by
  apply String.toList_injective
  rw [String.toList_intercalate, segments_eq_splitOn, List.map_map]
  have hdot : ".".toList = ['.'] := by decide
  simp [hdot]

theorem segments_injective {a b : String} (h : segments a = segments b) : a = b := by
  rw [← intercalate_segments a, h, intercalate_segments]

theorem segments_intercalate {ks : List String} (hne : ks ≠ []) (hks : ∀ k ∈ ks, '.' ∉ k.toList) :
    segments (".".intercalate ks) = ks := by
  have hdot : ".".toList = ['.'] := by decide
  have hsplit : (['.'].intercalate (ks.map String.toList)).splitOn '.' = ks.map String.toList :=
    List.splitOn_intercalate '.' (by simpa using hks) (by simpa using hne)
  rw [segments_eq_splitOn, String.toList_intercalate, hdot, hsplit, List.map_map]
  simp

end Node

end ConfigTree
