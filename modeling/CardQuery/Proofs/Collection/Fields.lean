import CardQuery.Collection.Fields
import CardQuery.Proofs.Text.Split

namespace CardQuery.Fields

lemma separator_notMem {blob v : String} (h : v ∈ split blob) : separator ∉ v.toList := by
  obtain ⟨p, hp, rfl⟩ := List.mem_map.mp h
  rw [String.toList_ofList]
  exact Text.notMem_of_mem_splitOn hp

lemma subset_of_mem_split {blob v : String} (h : v ∈ split blob) : v.toList ⊆ blob.toList := by
  obtain ⟨p, hp, rfl⟩ := List.mem_map.mp h
  rw [String.toList_ofList]
  exact Text.subset_of_mem_splitOn hp

lemma join_split (blob : String) : join (split blob) = blob := by
  have hpieces : (split blob).map String.toList = Text.splitOn separator blob.toList := by
    simp [split, Function.comp_def]
  rw [join, hpieces, Text.joinWith_splitOn, String.ofList_toList]

lemma length_split (blob : String) : (split blob).length = blob.toList.count separator + 1 := by
  rw [split, List.length_map, Text.length_splitOn]

variable {fields : List String}

lemma split_join_eq (hne : fields ≠ []) : split (join fields) = fields.flatMap split := by
  have hne : fields.map String.toList ≠ [] := mt List.map_eq_nil_iff.mp hne
  simp only [split, join, String.toList_ofList, Text.splitOn_joinWith_eq hne, List.flatMap_map,
    List.map_flatMap]
  rfl

lemma length_split_join_iff (hne : fields ≠ []) :
    (split (join fields)).length = fields.length ↔ ∀ v ∈ fields, separator ∉ v.toList := by
  have hne : fields.map String.toList ≠ [] := mt List.map_eq_nil_iff.mp hne
  have h := Text.length_splitOn_joinWith_iff separator hne
  simpa [split, join] using h

lemma split_join_iff (hne : fields ≠ []) :
    split (join fields) = fields ↔ ∀ v ∈ fields, separator ∉ v.toList := by
  constructor
  · intro h
    exact (length_split_join_iff hne).mp (congrArg List.length h)
  · intro h
    have hne : fields.map String.toList ≠ [] := mt List.map_eq_nil_iff.mp hne
    have hpieces : ∀ p ∈ fields.map String.toList, separator ∉ p := List.forall_mem_map.mpr h
    simp [split, join, Text.splitOn_joinWith hne hpieces, Function.comp_def]

theorem split_join_inverse :
    (∀ blob : String, join (split blob) = blob ∧
      (split blob).length = blob.toList.count '\x1f' + 1 ∧
      ∀ v ∈ split blob, '\x1f' ∉ v.toList) ∧
    ∀ fields : List String, fields ≠ [] →
      (split (join fields) = fields ↔ ∀ v ∈ fields, '\x1f' ∉ v.toList) := by
  constructor
  · intro blob
    exact ⟨join_split blob, length_split blob, fun v hv => separator_notMem hv⟩
  · intro fields hne
    exact split_join_iff hne

theorem split_join_inverse_sample :
    join (split "front\x1fback\x1f") = "front\x1fback\x1f" ∧
      split (join ["", "front", ""]) = ["", "front", ""] ∧
      split (join ["a\x1fb", ""]) ≠ ["a\x1fb", ""] := by
  refine ⟨(split_join_inverse.1 _).1, ?_, ?_⟩
  · exact (split_join_inverse.2 _ (by simp)).mpr (by decide)
  · exact mt (split_join_inverse.2 _ (by simp)).mp (by decide)

end CardQuery.Fields
