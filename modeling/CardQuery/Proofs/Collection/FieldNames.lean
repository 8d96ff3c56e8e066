import CardQuery.Collection.NoteType
import Mathlib.Data.List.Nodup

namespace CardQuery.NoteType

variable {visited : List String} {found : FieldNames} {name : String}

def firstSpelling (visited : List String) (name : String) : ℕ := visited.findIdx (sameName name)

lemma firstSpelling_append_of_lt (h : firstSpelling visited name < visited.length) (more : List String) :
    firstSpelling (visited ++ more) name = firstSpelling visited name := by
  unfold firstSpelling at h ⊢
  rw [List.findIdx_append, if_pos h]

lemma firstSpelling_append_self (h : ∀ other ∈ visited, Text.lower other ≠ Text.lower name) :
    firstSpelling (visited ++ [name]) name = visited.length := by
  have hnone : visited.findIdx (sameName name) = visited.length := by
    rw [List.findIdx_eq_length]
    intro other hother
    exact beq_false_of_ne (Ne.symm (h other hother))
  rw [firstSpelling, List.findIdx_append, hnone, if_neg (Nat.lt_irrefl _)]
  simp [sameName, List.findIdx_cons]

structure IsListing (visited : List String) (found : FieldNames) : Prop where
  lowered : found.lowered = found.names.map Text.lower
  distinct : found.lowered.Nodup
  complete : ∀ name ∈ visited, Text.lower name ∈ found.lowered
  earliest : ∀ name ∈ found.names, visited[firstSpelling visited name]? = some name
  inOrder : found.names.Pairwise fun a b => firstSpelling visited a < firstSpelling visited b

lemma IsListing.empty : IsListing [] ⟨[], []⟩ := ⟨rfl, .nil, by simp, by simp, .nil⟩

namespace IsListing

lemma firstSpelling_lt (h : IsListing visited found) {other : String} (hother : other ∈ found.names) :
    firstSpelling visited other < visited.length := by
  obtain ⟨hlt, -⟩ := List.getElem?_eq_some_iff.mp (h.earliest other hother)
  exact hlt

lemma firstSpelling_append (h : IsListing visited found) {other : String} (hother : other ∈ found.names)
    (more : List String) : firstSpelling (visited ++ more) other = firstSpelling visited other :=
  firstSpelling_append_of_lt (h.firstSpelling_lt hother) more

lemma add (h : IsListing visited found) (name : String) : IsListing (visited ++ [name]) (found.add name) := by
  have hearliest : ∀ other ∈ found.names,
      (visited ++ [name])[firstSpelling (visited ++ [name]) other]? = some other := by
    intro other hother
    rw [h.firstSpelling_append hother, List.getElem?_append_left (h.firstSpelling_lt hother)]
    exact h.earliest other hother
  have hinOrder : found.names.Pairwise fun a b =>
      firstSpelling (visited ++ [name]) a < firstSpelling (visited ++ [name]) b := by
    refine h.inOrder.imp_of_mem fun ha hb hlt => ?_
    rwa [h.firstSpelling_append ha, h.firstSpelling_append hb]
  rw [FieldNames.add]
  split
  · next hseen =>
    refine ⟨h.lowered, h.distinct, ?_, hearliest, hinOrder⟩
    rw [List.forall_mem_append, List.forall_mem_singleton]
    exact ⟨h.complete, by simpa using hseen⟩
  · next hseen =>
    have hnew : Text.lower name ∉ found.lowered := by simpa using hseen
    have hfirst : firstSpelling (visited ++ [name]) name = visited.length := by
      apply firstSpelling_append_self
      intro other hother heq
      exact hnew (heq ▸ h.complete other hother)
    constructor
    · simp [h.lowered]
    · exact List.nodup_append'.mpr ⟨h.distinct, List.nodup_singleton _, by simpa using hnew⟩
    · intro other hother
      rw [List.mem_append, List.mem_singleton] at hother ⊢
      exact hother.imp (h.complete other) (congrArg Text.lower)
    · rw [List.forall_mem_append, List.forall_mem_singleton, hfirst]
      exact ⟨hearliest, by simp⟩
    · rw [List.pairwise_append]
      refine ⟨hinOrder, List.pairwise_singleton _ _, fun other hother new hnew => ?_⟩
      rw [List.mem_singleton.mp hnew, hfirst, h.firstSpelling_append hother]
      exact h.firstSpelling_lt hother

lemma foldl_add (h : IsListing visited found) (names : List String) :
    IsListing (visited ++ names) (names.foldl FieldNames.add found) := by
  induction names generalizing visited found with
  | nil => simpa using h
  | cons name names ih => simpa using ih (h.add name)

end IsListing

theorem fieldNames_lists (types : List NoteType) :
    (fieldNames types false).length = (fieldNames types true).length ∧
      IsListing (types.flatMap NoteType.fields) ⟨fieldNames types false, fieldNames types true⟩ := by
  have hlists : IsListing (types.flatMap NoteType.fields) ⟨fieldNames types false, fieldNames types true⟩ := by
    have h := IsListing.empty.foldl_add (types.flatMap NoteType.fields)
    rwa [List.nil_append, List.foldl_flatMap] at h
  refine ⟨?_, hlists⟩
  have hlength := congrArg List.length hlists.lowered
  rw [List.length_map] at hlength
  exact hlength.symm

example : fieldNames [⟨1, "Basic", .standard, ["Front", "Back"], [], 0⟩,
    ⟨2, "Vocabulary", .standard, ["FRONT", "Hint"], [], 0⟩] false = ["Front", "Back", "Hint"] := by
  decide +kernel

end CardQuery.NoteType
