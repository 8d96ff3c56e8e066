import CardQuery.Collection.Table
import Mathlib.Data.List.Nodup

namespace CardQuery

lemma find?_key_iff {α κ : Type} [DecidableEq κ] {key : α → κ} {xs : List α}
    (h : (xs.map key).Nodup) {k : κ} {x : α} :
    xs.find? (key · == k) = some x ↔ x ∈ xs ∧ key x = k := by
  constructor
  · intro hx
    exact ⟨List.mem_of_find?_eq_some hx, by simpa using List.find?_some hx⟩
  · rintro ⟨hx, rfl⟩
    have hsome : (xs.find? (key · == key x)).isSome := List.find?_isSome.mpr ⟨x, hx, by simp⟩
    obtain ⟨y, hy⟩ := Option.isSome_iff_exists.mp hsome
    have hkey : key y = key x := by simpa using List.find?_some hy
    rw [hy, List.inj_on_of_nodup_map h (List.mem_of_find?_eq_some hy) hx hkey]

namespace Table

lemma keep?_eq_filter {α : Type} {test : α → Option Bool} {xs : List α}
    (h : ∀ x ∈ xs, (test x).isSome) : keep? test xs = some (xs.filter (test · == some true)) := by
  induction xs with
  | nil => rfl
  | cons x xs ih =>
    obtain ⟨v, hv⟩ := Option.isSome_iff_exists.mp (h x (by simp))
    have ih := ih fun y hy => h y (List.mem_cons_of_mem _ hy)
    cases v <;> simp [keep?, hv, ih]

lemma mem_of_keep? {α : Type} {test : α → Option Bool} {xs kept : List α} (h : keep? test xs = some kept)
    {x : α} (hx : x ∈ kept) : x ∈ xs ∧ test x = some true := by
  induction xs generalizing kept with
  | nil =>
    cases h
    cases hx
  | cons y xs ih =>
    rw [keep?] at h
    split at h
    · cases h
    · next htest =>
      obtain ⟨rest, hrest, rfl⟩ := Option.map_eq_some_iff.mp h
      rcases List.mem_cons.mp hx with rfl | hx
      · exact ⟨List.mem_cons_self, htest⟩
      · exact (ih hrest hx).imp_left (List.mem_cons_of_mem y)
    · exact (ih h hx).imp_left (List.mem_cons_of_mem y)

lemma keep?_congr {α : Type} {test test' : α → Option Bool} {xs : List α}
    (h : ∀ x ∈ xs, test x = test' x) : keep? test xs = keep? test' xs := by
  induction xs with
  | nil => rfl
  | cons x xs ih =>
    have hx := h x (by simp)
    have ih := ih fun y hy => h y (List.mem_cons_of_mem _ hy)
    simp only [keep?, hx, ih]

variable {α : Type} [Keyed α]

lemma nodup (t : Table α) : t.rows.Nodup := t.increasing.imp fun h heq => by simp [heq] at h

lemma nodup_ids (t : Table α) : (t.rows.map Keyed.id).Nodup :=
  List.pairwise_map.mpr (t.increasing.imp fun h => Int.ne_of_lt h)

lemma increasing_filter (t : Table α) (test : α → Bool) :
    ((t.rows.filter test).map Keyed.id).Pairwise (· < ·) :=
  List.pairwise_map.mpr (t.increasing.sublist List.filter_sublist)

lemma eq_of_id_eq {t : Table α} {x y : α} (hx : x ∈ t.rows) (hy : y ∈ t.rows)
    (h : Keyed.id x = Keyed.id y) : x = y :=
  List.inj_on_of_nodup_map t.nodup_ids hx hy h

lemma find?_eq_some {t : Table α} {id : Int} {x : α} :
    t.find? id = some x ↔ x ∈ t.rows ∧ Keyed.id x = id :=
  find?_key_iff t.nodup_ids

lemma mem_iff_find? {t : Table α} {x : α} : x ∈ t.rows ↔ t.find? (Keyed.id x) = some x := by
  simp [find?_eq_some]

lemma mem_insert {t : Table α} {x z : α} :
    z ∈ (t.insert x).rows ↔ z = x ∨ z ∈ t.rows ∧ Keyed.id z ≠ Keyed.id x := by
  rw [mem_iff_find?, mem_iff_find?, find?_insert]
  split
  · next h => simp [h, eq_comm]
  · next h =>
    have hne : z ≠ x := by
      rintro rfl
      exact h rfl
    simp [hne, Ne.symm h]

end Table

end CardQuery
