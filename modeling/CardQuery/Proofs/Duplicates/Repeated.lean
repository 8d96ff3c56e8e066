import CardQuery.Duplicates
import Mathlib.Data.List.Induction
import Mathlib.Data.List.Nodup

/-!
Values that occur more than once: each such value comes once, in the order in which the second
occurrences come. A tally finds them in one pass.
-/

namespace CardQuery.Duplicates

def repeated (seen : List String) : List (Int × String) → List String
  | [] => []
  | (_, v) :: rest =>
    if seen.count v = 1 then v :: repeated (v :: seen) rest else repeated (v :: seen) rest

def members (vs : List (Int × String)) (v : String) : List Int := (vs.filter (·.2 == v)).map (·.1)

variable {vs : List (Int × String)} {seen : List String} {u v : String} {i : Int}

lemma mem_members : i ∈ members vs v ↔ (i, v) ∈ vs := by
  simp [members]

lemma members_cons_self : members ((i, v) :: vs) v = i :: members vs v := by
  simp [members]

lemma members_cons_of_ne (h : v ≠ u) : members ((i, u) :: vs) v = members vs v := by
  simp [members, Ne.symm h]

lemma length_members (vs : List (Int × String)) (v : String) :
    (members vs v).length = (vs.map Prod.snd).count v := by
  rw [members, List.length_map, ← List.countP_eq_length_filter, List.count, List.countP_map]
  rfl

lemma pairwise_members (h : vs.Pairwise fun p q => p.1 < q.1) (v : String) :
    (members vs v).Pairwise (· < ·) :=
  List.pairwise_map.mpr (h.sublist List.filter_sublist)

lemma mem_repeated :
    v ∈ repeated seen vs ↔ seen.count v ≤ 1 ∧ 2 ≤ seen.count v + (vs.map Prod.snd).count v := by
  induction vs generalizing seen with
  | nil =>
    simp only [repeated, List.map_nil, List.count_nil, List.not_mem_nil, false_iff]
    omega
  | cons p vs ih =>
    obtain ⟨i, u⟩ := p
    rw [repeated]
    by_cases hv : v = u
    · subst hv
      split <;> simp only [List.mem_cons, ih, List.map_cons, List.count_cons_self] <;> grind
    · have hcount : (u :: seen).count v = seen.count v := List.count_cons_of_ne (Ne.symm hv)
      have hrest : ((i, u) :: vs).map Prod.snd = u :: vs.map Prod.snd := rfl
      rw [hrest, List.count_cons_of_ne (Ne.symm hv)]
      split <;> simp [ih, hcount, hv]

lemma nodup_repeated (seen : List String) (vs : List (Int × String)) : (repeated seen vs).Nodup := by
  induction vs generalizing seen with
  | nil => exact List.nodup_nil
  | cons p vs ih =>
    obtain ⟨i, u⟩ := p
    rw [repeated]
    split
    · next hseen =>
      refine List.nodup_cons.mpr ⟨fun hmem => ?_, ih _⟩
      have hcount := (mem_repeated.mp hmem).1
      rw [List.count_cons_self, hseen] at hcount
      omega
    · exact ih _

lemma exists_entries (seen : List String) (vs : List (Int × String)) :
    ∃ es : List (Int × String), es.Sublist vs ∧ es.map Prod.snd = repeated seen vs ∧
      ∀ e ∈ es, (members vs e.2)[1 - seen.count e.2]? = some e.1 := by
  -- An entry `e` of `vs` has `1 - seen.count e.2` others of its value before it in `vs`.
  induction vs generalizing seen with
  | nil => exact ⟨[], .slnil, rfl, by simp⟩
  | cons p vs ih =>
    obtain ⟨i, u⟩ := p
    obtain ⟨es, hsub, hmap, hes⟩ := ih (u :: seen)
    have hentry : ∀ e ∈ es, (members ((i, u) :: vs) e.2)[1 - seen.count e.2]? = some e.1 := by
      rintro ⟨j, v⟩ he
      have hj := hes _ he
      by_cases hv : v = u
      · subst hv
        have hmem : v ∈ repeated (v :: seen) vs := hmap ▸ List.mem_map_of_mem he
        have hcount := (mem_repeated.mp hmem).1
        rw [List.count_cons_self] at hcount hj
        have hseen : seen.count v = 0 := by omega
        simpa [members_cons_self, hseen] using hj
      · rw [List.count_cons_of_ne (Ne.symm hv)] at hj
        rwa [members_cons_of_ne hv]
    rw [repeated]
    split
    · next hseen =>
      refine ⟨(i, u) :: es, hsub.cons_cons _, by rw [List.map_cons, hmap], fun e he => ?_⟩
      rcases List.mem_cons.mp he with rfl | he
      · simp [members_cons_self, hseen]
      · exact hentry e he
    · exact ⟨es, hsub.cons _, hmap, hentry⟩

lemma repeated_concat (seen : List String) (vs : List (Int × String)) (i : Int) (v : String) :
    repeated seen (vs ++ [(i, v)]) =
      repeated seen vs ++ if seen.count v + (members vs v).length = 1 then [v] else [] := by
  induction vs generalizing seen with
  | nil =>
    simp only [List.nil_append, repeated, members, List.filter_nil, List.map_nil, List.length_nil,
      Nat.add_zero]
  | cons p vs ih =>
    obtain ⟨j, u⟩ := p
    have hcount : (u :: seen).count v + (members vs v).length =
        seen.count v + (members ((j, u) :: vs) v).length := by
      simp only [length_members, List.map_cons, List.count_cons]
      omega
    rw [List.cons_append, repeated, repeated, ih, hcount]
    split <;> rfl

lemma members_concat (vs : List (Int × String)) (i : Int) (u v : String) :
    members (vs ++ [(i, u)]) v = members vs v ++ if v = u then [i] else [] := by
  by_cases h : v = u
  · simp [members, h]
  · simp [members, h, Ne.symm h]

namespace Tally

lemma lookup_cons (u : String) (ids : List Int) (seen : List (String × List Int)) (v : String) :
    ((u, ids) :: seen).lookup v = if v = u then some ids else seen.lookup v := by
  by_cases h : v = u
  · rw [h, List.lookup_cons_self, if_pos rfl]
  · rw [List.lookup_cons, beq_eq_false_iff_ne.mpr h, if_neg h]

lemma lookup_put (value : String) (id : Int) (seen : List (String × List Int)) (v : String) :
    (put value id seen).lookup v =
      if v = value then some ((seen.lookup value).getD [] ++ [id]) else seen.lookup v := by
  induction seen with
  | nil => simp [put, lookup_cons]
  | cons entry seen ih =>
    obtain ⟨u, ids⟩ := entry
    rw [put]
    split
    · next hu =>
      subst hu
      simp only [lookup_cons, if_true, Option.getD_some]
      split <;> rfl
    · next hu =>
      simp only [lookup_cons, ih, if_neg (Ne.symm hu)]
      grind

structure Counts (t : Tally) (vs : List (Int × String)) : Prop where
  seen : ∀ v, (t.seen.lookup v).getD [] = members vs v
  groups : t.groups = (repeated [] vs).map (⟨·, []⟩)

lemma Counts.add {t : Tally} (h : t.Counts vs) (i : Int) (v : String) :
    (t.add (i, v)).Counts (vs ++ [(i, v)]) := by
  have hput : (put v i t.seen).lookup v = some (members vs v ++ [i]) := by
    rw [lookup_put, if_pos rfl, h.seen]
  have hsecond : ((put v i t.seen).lookup v).any (·.length == 2) ↔ (members vs v).length = 1 := by
    simp [hput]
  have hseen (u : String) : ((put v i t.seen).lookup u).getD [] = members (vs ++ [(i, v)]) u := by
    rw [lookup_put, members_concat]
    split
    · next hu => rw [hu, h.seen, Option.getD_some]
    · rw [h.seen, List.append_nil]
  have hrepeated := repeated_concat [] vs i v
  rw [List.count_nil, Nat.zero_add] at hrepeated
  rw [Tally.add]
  simp only [hsecond]
  split
  · next hone => exact ⟨hseen, by rw [hrepeated, if_pos hone, List.map_append, h.groups, List.map_singleton]⟩
  · next hone => exact ⟨hseen, by rw [hrepeated, if_neg hone, List.append_nil, h.groups]⟩

lemma counts_foldl (vs : List (Int × String)) : (vs.foldl Tally.add .empty).Counts vs := by
  induction vs using List.reverseRecOn with
  | nil => exact ⟨fun _ => rfl, rfl⟩
  | append_singleton vs p ih =>
    rw [List.foldl_append]
    exact ih.add p.1 p.2

lemma lookup_filter {u v : String} (h : u ≠ v) (seen : List (String × List Int)) :
    (seen.filter (·.1 != v)).lookup u = seen.lookup u := by
  induction seen with
  | nil => rfl
  | cons entry seen ih =>
    obtain ⟨w, ids⟩ := entry
    by_cases hw : w = v
    · subst hw
      simp [lookup_cons, h, ih]
    · simp [lookup_cons, hw, ih]

lemma fill_eq (seen : List (String × List Int)) {us : List String} (h : us.Nodup) :
    fill seen (us.map (⟨·, []⟩)) = us.map fun v => ⟨v, (seen.lookup v).getD []⟩ := by
  induction us generalizing seen with
  | nil => rfl
  | cons u us ih =>
    obtain ⟨hu, hus⟩ := List.nodup_cons.mp h
    rw [List.map_cons, List.map_cons, fill]
    cases hlookup : seen.lookup u with
    | none => simp [ih _ hus]
    | some ids =>
      have hrest : us.map (fun v => (⟨v, ((seen.filter (·.1 != u)).lookup v).getD []⟩ : DuplicateGroup)) =
          us.map fun v => ⟨v, (seen.lookup v).getD []⟩ := by
        apply List.map_congr_left
        intro v hv
        rw [lookup_filter (ne_of_mem_of_not_mem hv hu)]
      simp [ih _ hus, hrest]

end Tally

/-- One pass finds a group for each value that occurs again, with all ids beside it. -/
theorem groups_eq (vs : List (Int × String)) :
    groups vs = (repeated [] vs).map fun v => ⟨v, members vs v⟩ := by
  have h := Tally.counts_foldl vs
  rw [groups]
  simp only [h.groups, Tally.fill_eq _ (nodup_repeated [] vs), h.seen]

end CardQuery.Duplicates
