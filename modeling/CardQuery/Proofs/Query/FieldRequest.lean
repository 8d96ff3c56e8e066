import CardQuery.Proofs.Query.FieldPattern
import Mathlib.Data.List.Induction
import Mathlib.Data.List.Nodup

namespace CardQuery.Query

def Requested (terms : List (String × String)) (name value : String) : Prop :=
  ∃ field, (field, value) ∈ terms ∧ Text.lower field = name

structure Requests (terms : List (String × String)) (rs : List FieldRequest) : Prop where
  nodup : (rs.map FieldRequest.name).Nodup
  nonempty : ∀ r ∈ rs, r.values ≠ []
  requested : ∀ name value,
    (∃ r ∈ rs, r.name = name ∧ value ∈ r.values) ↔ Requested terms name value

lemma map_name_addRequest (name value : String) (rs : List FieldRequest) :
    (addRequest name value rs).map FieldRequest.name =
      if name ∈ rs.map FieldRequest.name then rs.map FieldRequest.name
      else rs.map FieldRequest.name ++ [name] := by
  induction rs with
  | nil => rfl
  | cons r rs ih =>
    rw [addRequest]
    split
    · next h => simp [h]
    · next h =>
      rw [List.map_cons, ih]
      simp only [List.map_cons, List.mem_cons, Ne.symm h, false_or]
      split <;> rfl

lemma mem_addRequest {name value : String} {rs : List FieldRequest} {r : FieldRequest}
    (h : r ∈ addRequest name value rs) : r ∈ rs ∨ r.values ≠ [] := by
  induction rs with
  | nil =>
    obtain rfl : r = ⟨name, [value]⟩ := by simpa [addRequest] using h
    simp
  | cons q rs ih =>
    rw [addRequest] at h
    split at h
    · rcases List.mem_cons.mp h with rfl | h
      · simp
      · exact Or.inl (by simp [h])
    · rcases List.mem_cons.mp h with rfl | h
      · simp
      · exact (ih h).imp_left (List.mem_cons_of_mem _)

lemma exists_mem_addRequest (name value : String) (rs : List FieldRequest) (m v : String) :
    (∃ r ∈ addRequest name value rs, r.name = m ∧ v ∈ r.values) ↔
      (∃ r ∈ rs, r.name = m ∧ v ∈ r.values) ∨ name = m ∧ v = value := by
  induction rs with
  | nil => simp [addRequest]
  | cons r rs ih =>
    rw [addRequest]
    split
    · next h =>
      simp only [List.mem_cons, exists_eq_or_imp, List.mem_append, List.not_mem_nil, or_false, h]
      rw [and_or_left, or_right_comm]
    · simp only [List.mem_cons, exists_eq_or_imp, ih, or_assoc]

theorem requests_fieldRequests (terms : List (String × String)) :
    Requests terms (fieldRequests terms) := by
  induction terms using List.reverseRecOn with
  | nil => exact ⟨by simp [fieldRequests], by simp [fieldRequests], by simp [fieldRequests, Requested]⟩
  | append_singleton terms t ih =>
    obtain ⟨field, value⟩ := t
    have hstep : fieldRequests (terms ++ [(field, value)]) =
        addRequest (Text.lower field) value (fieldRequests terms) := by
      simp [fieldRequests]
    rw [hstep]
    refine ⟨?_, fun r hr => ?_, fun name v => ?_⟩
    · rw [map_name_addRequest]
      split
      · exact ih.nodup
      · next h => exact List.nodup_append.mpr ⟨ih.nodup, by simp, by simpa using h⟩
    · exact (mem_addRequest hr).elim (ih.nonempty r) id
    · rw [exists_mem_addRequest, ih.requested]
      simp only [Requested, List.mem_append, List.mem_singleton, Prod.mk.injEq]
      constructor
      · rintro (⟨f, hf, rfl⟩ | ⟨rfl, rfl⟩)
        · exact ⟨f, Or.inl hf, rfl⟩
        · exact ⟨field, Or.inr ⟨rfl, rfl⟩, rfl⟩
      · rintro ⟨f, hf | ⟨rfl, rfl⟩, rfl⟩
        · exact Or.inl ⟨f, hf, rfl⟩
        · exact Or.inr ⟨rfl, rfl⟩

theorem mem_combinations {sizes combo : List ℕ} :
    combo ∈ combinations sizes ↔ List.Forall₂ (· < ·) combo sizes := by
  induction sizes generalizing combo with
  | nil => simp [combinations]
  | cons n ns ih =>
    simp only [combinations, List.mem_flatMap, List.mem_range, List.mem_map, ih]
    constructor
    · rintro ⟨i, hi, rest, hrest, rfl⟩
      exact .cons hi hrest
    · rintro (_ | ⟨hi, hrest⟩)
      exact ⟨_, hi, _, hrest, rfl⟩

def Choice (terms : List (String × String)) (pick : String → String) : Prop :=
  ∀ name value, Requested terms name value → Requested terms name (pick name)

def FieldMeets (terms : List (String × String)) (pick : String → String) (field value : String) :
    Prop :=
  (∃ v, Requested terms (Text.lower field) v) → Glob (pick (Text.lower field)).toList value.toList

variable {terms : List (String × String)} {rs : List FieldRequest}

lemma exists_of_findIdx?_name {name : String} {i : ℕ} (h : rs.findIdx? (·.name == name) = some i) :
    ∃ r, rs[i]? = some r ∧ r.name = name := by
  obtain ⟨hi, hname, -⟩ := List.findIdx?_eq_some_iff_getElem.mp h
  exact ⟨rs[i], List.getElem?_eq_getElem hi, by simpa using hname⟩

lemma Requests.isSome_findIdx? (h : Requests terms rs) (name : String) :
    (rs.findIdx? (·.name == name)).isSome ↔ ∃ v, Requested terms name v := by
  rw [List.findIdx?_isSome, List.any_eq_true]
  constructor
  · rintro ⟨r, hr, hname⟩
    obtain ⟨v, hv⟩ := List.exists_mem_of_ne_nil _ (h.nonempty r hr)
    exact ⟨v, (h.requested _ _).mp ⟨r, hr, by simpa using hname, hv⟩⟩
  · rintro ⟨v, hv⟩
    obtain ⟨r, hr, rfl, -⟩ := (h.requested _ _).mpr hv
    exact ⟨r, hr, by simp⟩

lemma picked_eq {combo : List ℕ} {i : ℕ} {r : FieldRequest} (hr : rs[i]? = some r) :
    picked rs combo i = r.values[combo.getD i 0]?.getD "" := by
  simp [picked, hr]

lemma picked_mem {combo : List ℕ} (hc : combo ∈ choices rs) {i : ℕ}
    {r : FieldRequest} (hr : rs[i]? = some r) : picked rs combo i ∈ r.values := by
  obtain ⟨hi, rfl⟩ := List.getElem?_eq_some_iff.mp hr
  obtain ⟨hlen, hlt⟩ := List.forall₂_iff_get.mp (mem_combinations.mp hc)
  have hic : i < combo.length := by simpa [hlen] using hi
  have hbound : combo[i] < rs[i].values.length := by simpa using hlt i hic (by simpa using hi)
  rw [picked_eq hr, List.getD_eq_getElem?_getD, List.getElem?_eq_getElem hic, Option.getD_some,
    List.getElem?_eq_getElem hbound]
  exact List.getElem_mem _

theorem exists_combination_iff (h : Requests terms rs) (fields values : List String) :
    (∃ combo ∈ choices rs,
      List.Forall₂ (SlotMeets rs combo) (fields.map (slot rs)) values) ↔
      ∃ pick, Choice terms pick ∧ List.Forall₂ (FieldMeets terms pick) fields values := by
  constructor
  · rintro ⟨combo, hc, hmeets⟩
    refine ⟨fun name => ((rs.findIdx? (·.name == name)).map (picked rs combo)).getD "", ?_, ?_⟩
    · intro name value hv
      obtain ⟨i, hi⟩ := Option.isSome_iff_exists.mp ((h.isSome_findIdx? name).mpr ⟨value, hv⟩)
      obtain ⟨r, hr, rfl⟩ := exists_of_findIdx?_name hi
      simp only [hi, Option.map_some, Option.getD_some]
      exact (h.requested _ _).mp ⟨r, List.mem_of_getElem? hr, rfl, picked_mem hc hr⟩
    · apply (List.forall₂_map_left_iff.mp hmeets).imp
      intro field value hslot hrequested
      obtain ⟨i, hi⟩ := Option.isSome_iff_exists.mp ((h.isSome_findIdx? _).mpr hrequested)
      simpa [hi] using hslot i hi
  · rintro ⟨pick, hpick, hmeets⟩
    have hmem : ∀ r ∈ rs, pick r.name ∈ r.values := by
      intro r hr
      obtain ⟨v, hv⟩ := List.exists_mem_of_ne_nil _ (h.nonempty r hr)
      obtain ⟨q, hq, hname, hv⟩ := (h.requested _ _).mpr
        (hpick r.name v ((h.requested _ _).mp ⟨r, hr, rfl, hv⟩))
      obtain rfl := List.inj_on_of_nodup_map h.nodup hq hr hname
      exact hv
    refine ⟨rs.map fun r => r.values.idxOf (pick r.name), ?_, ?_⟩
    · rw [choices, mem_combinations, List.forall₂_map_left_iff, List.forall₂_map_right_iff, List.forall₂_same]
      exact fun r hr => List.idxOf_lt_length_of_mem (hmem r hr)
    · refine List.forall₂_map_left_iff.mpr (hmeets.imp fun field value hfield i hi => ?_)
      obtain ⟨r, hr, hname⟩ := exists_of_findIdx?_name hi
      have hglob := hfield ((h.isSome_findIdx? _).mp (Option.isSome_iff_exists.mpr ⟨i, hi⟩))
      have hlt := List.idxOf_lt_length_of_mem (hmem r (List.mem_of_getElem? hr))
      have hpicked : picked rs (rs.map fun r => r.values.idxOf (pick r.name)) i = pick r.name := by
        rw [picked_eq hr, List.getD_eq_getElem?_getD, List.getElem?_map, hr, Option.map_some,
          Option.getD_some, List.getElem?_eq_getElem hlt, List.getElem_idxOf hlt, Option.getD_some]
      rwa [hpicked, hname]

end CardQuery.Query
