import CardQuery.Proofs.Query.FieldPattern
import Mathlib.Data.String.Basic

/-!
LIKE on a whole blob. As long as the pattern is short enough for LIKE, it says the same as LIKE on each
field with the pattern in its place, whatever the patterns of the user are.
-/

namespace CardQuery.Query

open Wild (Matches)

def IsSlotForm (form : String) : Prop := form = "%" ∨ ∃ value, form = likeForm value

def slotPlaces (form : String) : List Wild := (Like.places (some '\\') form.toList).getD []

lemma IsSlotForm.writes {form : String} (h : IsSlotForm form) : Writes form.toList (slotPlaces form) := by
  obtain ⟨p, hp⟩ : ∃ p, Writes form.toList p := by
    rcases h with rfl | ⟨value, rfl⟩
    · have hany : "%".toList = ['%'] := by decide
      exact ⟨[.run], hany ▸ Writes.char (c := '%') (by decide)⟩
    · exact ⟨_, writes_likeForm value⟩
  rwa [slotPlaces, hp.eq]

lemma IsSlotForm.accepts_iff {form value : String} (h : IsSlotForm form) (hform : '\x00' ∉ form.toList)
    (hvalue : '\x00' ∉ value.toList) : Like.accepts (some '\\') form.toList value.toList ↔
      Matches Like.alphabet (slotPlaces form) value.toList := by
  rw [Like.accepts, Like.untilNul_eq hform, Like.untilNul_eq hvalue, h.writes.eq]
  exact Wild.accepts_iff ..

lemma utf8ByteSize_le_join {texts : List String} {s : String} (h : s ∈ texts) :
    s.utf8ByteSize ≤ (Fields.join texts).utf8ByteSize := by
  obtain ⟨pre, post, rfl⟩ := List.append_of_mem h
  have hsize (t : String) : t.utf8ByteSize = String.utf8Len t.toList := by
    rw [← String.utf8ByteSize_ofList, String.ofList_toList]
  rw [hsize, hsize, Fields.join, String.toList_ofList, List.map_append, List.map_cons,
    Text.joinWith_append_cons]
  apply String.utf8Len_le_of_infix
  rw [← List.append_assoc]
  exact List.infix_append ..

variable {forms values : List String}

theorem like_join_iff (hforms : ∀ form ∈ forms, IsSlotForm form) (hne : forms ≠ [])
    (hlen : forms.length = values.length) (hvalues : ∀ v ∈ values, Fields.separator ∉ v.toList)
    (hnul : ∀ s ∈ forms ++ values, '\x00' ∉ s.toList) :
    Like.holds? (some '\\') (Fields.join forms) (Fields.join values) = some true ↔
      (Fields.join forms).utf8ByteSize ≤ Like.longest ∧
        List.Forall₂ (fun form v => Like.holds? (some '\\') form v = some true) forms values := by
  rw [List.forall_mem_append] at hnul
  have hwrites : List.Forall₂ (fun form p => Writes form.toList p) forms (forms.map slotPlaces) := by
    rw [List.forall₂_map_right_iff, List.forall₂_same]
    exact fun form hform => (hforms form hform).writes
  rw [Like.holds?_eq_true]
  apply and_congr_right
  intro hshort
  rw [accepts_join hwrites hne hlen hvalues (nul_notMem_join hnul.1) (nul_notMem_join hnul.2),
    List.forall₂_map_left_iff, List.forall₂_iff_zip, List.forall₂_iff_zip]
  apply and_congr_right
  intro _
  apply forall₂_congr
  intro form value
  apply forall_congr'
  intro hzip
  obtain ⟨hform, hvalue⟩ := List.of_mem_zip hzip
  have hlimit := (utf8ByteSize_le_join hform).trans hshort
  rw [Like.holds?_eq_true, and_iff_right hlimit,
    (hforms form hform).accepts_iff (hnul.1 form hform) (hnul.2 value hvalue)]

theorem like_join_sample :
    Like.holds? (some '\\') (Fields.join [likeForm "a*", "%"]) (Fields.join ["Ab", "c"]) = some true ∧
      Like.holds? (some '\\') (Fields.join [likeForm "a\x1f*", "%"]) (Fields.join ["a", "b"]) ≠ some true := by
  have hslots (value : String) : ∀ form ∈ [likeForm value, "%"], IsSlotForm form := by
    simp [IsSlotForm]
  have hiff (value : String) (values : List String) := @like_join_iff [likeForm value, "%"] values (hslots value)
  have hfound := hiff "a*" ["Ab", "c"] (by simp) rfl (by decide) (by decide)
  have hnot := hiff "a\x1f*" ["a", "b"] (by simp) rfl (by decide) (by decide)
  rw [hfound, Ne, hnot]
  constructor
  · exact ⟨by decide, .cons (by decide) (.cons (by decide) .nil)⟩
  · rintro ⟨-, h⟩
    exact absurd (List.forall₂_cons.mp h).1 (by decide)

section Limit

lemma accepts_likeForm {value field : String} (hvalue : '\x00' ∉ value.toList)
    (hfield : '\x00' ∉ field.toList) (h : Glob value.toList field.toList) :
    Like.accepts (some '\\') (likeForm value).toList field.toList := by
  have hslot : IsSlotForm (likeForm value) := Or.inr ⟨value, rfl⟩
  rw [hslot.accepts_iff (nul_notMem_likeForm hvalue) hfield, slotPlaces, (writes_likeForm value).eq,
    Option.getD_some]
  exact like_of_glob h

lemma glob_self {s : List Char} (h : ∀ c ∈ s, c ≠ '*' ∧ c ≠ '_') : Glob s s := by
  induction s with
  | nil => exact .nil
  | cons c s ih =>
    obtain ⟨hc, hs⟩ := List.forall_mem_cons.mp h
    exact .lit hc.1 hc.2 (by simp [Text.sameAscii]) (ih hs)

lemma likeForm_eq_self {value : String} (h : ∀ c ∈ value.toList, c ∉ ['\\', '%', '*']) :
    likeForm value = value := by
  have hkeep : value.toList.flatMap fieldForm = value.toList.flatMap fun c => [c] := by
    apply List.flatMap_congr
    intro c hc
    have hc := h c hc
    simp only [List.mem_cons, List.not_mem_nil, or_false, not_or] at hc
    rw [fieldForm, if_neg hc.1, if_neg hc.2.1, if_neg hc.2.2]
  rw [← String.toList_inj, toList_likeForm, hkeep, List.flatMap_singleton']

lemma utf8Len_replicate (n : ℕ) : String.utf8Len (List.replicate n 'a') = n := by
  induction n with
  | zero => rfl
  | succ n ih =>
    rw [List.replicate_succ, String.utf8Len_cons, ih]
    rfl

theorem like_join_outgrown : ∃ value : String, value.toList = List.replicate 50000 'a' ∧
    Like.holds? (some '\\') (likeForm value) value = some true ∧
      Like.holds? (some '\\') "%" "x" = some true ∧
      Like.holds? (some '\\') (Fields.join [likeForm value, "%"]) (Fields.join [value, "x"]) = none := by
  obtain ⟨value, hlist⟩ : ∃ value : String, value.toList = List.replicate Like.longest 'a' :=
    ⟨_, String.toList_ofList⟩
  have hmem : ∀ c ∈ value.toList, c = 'a' := by
    rw [hlist]
    exact fun c hc => List.eq_of_mem_replicate hc
  have hform : likeForm value = value := likeForm_eq_self fun c hc => hmem c hc ▸ by decide
  have hnul : '\x00' ∉ value.toList := fun hc => absurd (hmem _ hc) (by decide)
  have hsize : value.utf8ByteSize = Like.longest := by
    rw [← String.ofList_toList (s := value), String.utf8ByteSize_ofList, hlist, utf8Len_replicate]
  have hjoin : (Fields.join [value, "%"]).utf8ByteSize = Like.longest + 2 := by
    rw [Fields.join, String.utf8ByteSize_ofList, List.map_cons, hlist, Text.joinWith_cons _ _ (by simp),
      String.utf8Len_append, utf8Len_replicate]
    rfl
  refine ⟨value, hlist, ?_, by decide, ?_⟩
  · rw [Like.holds?_eq_true]
    refine ⟨by rw [hform, hsize], accepts_likeForm hnul hnul ?_⟩
    exact glob_self fun c hc => hmem c hc ▸ by decide
  · rw [Like.holds?, hform, hjoin, if_pos (by omega)]

end Limit

end CardQuery.Query
