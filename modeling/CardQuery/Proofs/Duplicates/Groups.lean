import CardQuery.Proofs.Collection.Table
import CardQuery.Proofs.Duplicates.Repeated
import CardQuery.Proofs.Query.FieldProbe

namespace CardQuery.Duplicates

def HasValue (types : List NoteType) (field value : String) (n : Note) : Prop :=
  ∃ t, NoteType.find? types n.noteType = some t ∧ ∃ i, t.fieldPosition? field = some i ∧
    ∃ text, n.fields[i]? = some text ∧ Markup.stripKeepingImages text = value ∧
      ∃ c ∈ value.toList, ¬ Text.isBlank c

def Untyped (types : List NoteType) (n : Note) : Prop := ∀ t ∈ types, t.id ≠ n.noteType

variable {types : List NoteType} {field : String} {n : Note} {ns : List Note}

lemma find?_eq_none_iff : NoteType.find? types n.noteType = none ↔ Untyped types n := by
  simp [NoteType.find?, Untyped]

lemma value?_of_untyped (h : Untyped types n) :
    value? types field n = .error (.unknownNoteType n.id n.noteType) := by
  rw [value?, find?_eq_none_iff.mpr h]

lemma value?_of_not_untyped (field : String) (h : ¬ Untyped types n) :
    ∃ shown, value? types field n = .ok shown ∧ ∀ v, shown = some v ↔ HasValue types field v n := by
  obtain ⟨t, ht⟩ := Option.ne_none_iff_exists'.mp (mt find?_eq_none_iff.mp h)
  refine ⟨_, by rw [value?, ht], fun v => ?_⟩
  have hblank : (!v.toList.all Text.isBlank) = true ↔ ∃ c ∈ v.toList, ¬ Text.isBlank c := by simp
  simp only [HasValue, ht, Option.some.injEq, exists_eq_left', Option.filter_eq_some_iff,
    Option.map_eq_some_iff, Option.bind_eq_some_iff, hblank]
  grind

lemma values_cases (types : List NoteType) (field : String) (ns : List Note) :
    (∃ n ∈ ns, Untyped types n ∧
      values types field ns = .error (.unknownNoteType n.id n.noteType)) ∨
    (∀ n ∈ ns, ¬ Untyped types n) ∧ ∃ vs, values types field ns = .ok vs ∧
      (vs.map Prod.fst).Sublist (ns.map Note.id) ∧
      ∀ p, p ∈ vs ↔ ∃ n ∈ ns, n.id = p.1 ∧ HasValue types field p.2 n := by
  induction ns with
  | nil => exact Or.inr ⟨by simp, [], rfl, .slnil, by simp⟩
  | cons n ns ih =>
    by_cases hn : Untyped types n
    · exact Or.inl ⟨n, by simp, hn, by rw [values, value?_of_untyped hn]⟩
    · obtain ⟨shown, hvalue, hshown⟩ := value?_of_not_untyped field hn
      rcases ih with ⟨m, hm, huntyped, herror⟩ | ⟨htyped, vs, hvs, hsub, hmem⟩
      · refine Or.inl ⟨m, List.mem_cons_of_mem _ hm, huntyped, ?_⟩
        cases shown <;> simp only [values, hvalue, herror, Except.map]
      · refine Or.inr ⟨List.forall_mem_cons.mpr ⟨hn, htyped⟩, ?_⟩
        cases shown with
        | none =>
          refine ⟨vs, by simp only [values, hvalue, hvs], hsub.cons _, fun p => ?_⟩
          have hno : ¬ HasValue types field p.2 n := by simp [← hshown]
          simp [hmem, hno]
        | some v =>
          refine ⟨(n.id, v) :: vs, by simp only [values, hvalue, hvs, Except.map], hsub.cons_cons _,
            fun p => ?_⟩
          have heq : HasValue types field p.2 n ↔ v = p.2 := by simp [← hshown]
          rw [List.mem_cons, hmem, List.exists_mem_cons_iff, heq, Prod.ext_iff]
          grind

/-- The groups are those of a relation between values and ids: one for each value that has two ids or
more, with all its ids, in the order of the second ids. -/
structure Grouped (Has : String → Int → Prop) (gs : List DuplicateGroup) : Prop where
  distinct : (gs.map DuplicateGroup.value).Nodup
  shared : ∀ v, v ∈ gs.map DuplicateGroup.value ↔ ∃ i j, i ≠ j ∧ Has v i ∧ Has v j
  mem : ∀ g ∈ gs, ∀ i, i ∈ g.notes ↔ Has g.value i
  increasing : ∀ g ∈ gs, g.notes.Pairwise (· < ·)
  ordered : gs.Pairwise fun g h => ∃ i j, g.notes[1]? = some i ∧ h.notes[1]? = some j ∧ i < j

lemma Grouped.congr {Has Has' : String → Int → Prop} {gs : List DuplicateGroup} (h : Grouped Has gs)
    (heq : ∀ v i, Has v i ↔ Has' v i) : Grouped Has' gs := by
  obtain rfl : Has = Has' := funext₂ fun v i => propext (heq v i)
  exact h

lemma two_le_length_iff {ids : List Int} (h : ids.Pairwise (· < ·)) :
    2 ≤ ids.length ↔ ∃ i j, i ≠ j ∧ i ∈ ids ∧ j ∈ ids := by
  constructor
  · intro hlength
    match ids, hlength with
    | i :: j :: _, _ =>
      have hlt : i < j := (List.pairwise_cons.mp h).1 j (by simp)
      exact ⟨i, j, Int.ne_of_lt hlt, by simp, by simp⟩
  · rintro ⟨i, j, hne, hi, hj⟩
    match ids with
    | [] => simp at hi
    | [k] => exact absurd ((List.mem_singleton.mp hi).trans (List.mem_singleton.mp hj).symm) hne
    | _ :: _ :: _ => simp

lemma grouped_groups {vs : List (Int × String)} (h : vs.Pairwise fun p q => p.1 < q.1) :
    Grouped (fun v i => (i, v) ∈ vs) (groups vs) := by
  have hvalues : (groups vs).map DuplicateGroup.value = repeated [] vs := by
    simp [groups_eq, Function.comp_def]
  obtain ⟨es, hsub, hmap, hes⟩ := exists_entries [] vs
  refine ⟨?_, fun v => ?_, ?_, ?_, ?_⟩
  · rw [hvalues]
    exact nodup_repeated [] vs
  · rw [hvalues, mem_repeated, List.count_nil, Nat.zero_add, ← length_members,
      two_le_length_iff (pairwise_members h v)]
    simp [mem_members]
  · rw [groups_eq]
    exact List.forall_mem_map.mpr fun v _ i => mem_members
  · rw [groups_eq]
    exact List.forall_mem_map.mpr fun v _ => pairwise_members h v
  · -- The entries at which the groups come up are in the order of the ids, and each has the second id.
    rw [groups_eq, ← hmap, List.map_map, List.pairwise_map]
    apply (h.sublist hsub).imp_of_mem
    intro p q hp hq hlt
    exact ⟨p.1, q.1, hes p hp, hes q hq, hlt⟩

variable {ctx : Context} {col : Collection} {search : String}

def Shows (ctx : Context) (col : Collection) (field search value : String) (id : Int) : Prop :=
  ∃ found, Search.findNotes ctx col search = .ok found ∧ id ∈ found ∧
    ∃ n ∈ col.notes.rows, n.id = id ∧ HasValue ctx.noteTypes field value n

lemma defined_of_hasValue {value : String} (h : HasValue types field value n) :
    ∃ t ∈ types, (t.fieldPosition? field).isSome := by
  obtain ⟨t, ht, i, hi, -⟩ := h
  exact ⟨t, List.mem_of_find?_eq_some ht, by simp [hi]⟩

lemma find_of_not_defined (h : ¬ ∃ t ∈ ctx.noteTypes, (t.fieldPosition? field).isSome) :
    find ctx col field search = .ok [] := by
  rw [find, if_pos (by simpa using h)]

lemma find_of_defined (h : ∃ t ∈ ctx.noteTypes, (t.fieldPosition? field).isSome) :
    find ctx col field search = (Search.findNotes ctx col search).bind fun found =>
      (values ctx.noteTypes field (col.notesOf found)).map groups := by
  rw [find, if_neg (by simpa [Option.isSome_iff_ne_none] using h)]
  cases Search.findNotes ctx col search <;> rfl

lemma find_cases {found : List Int} (hfound : Search.findNotes ctx col search = .ok found)
    (hdefined : ∃ t ∈ ctx.noteTypes, (t.fieldPosition? field).isSome) :
    (∃ n ∈ col.notes.rows, n.id ∈ found ∧ Untyped ctx.noteTypes n ∧
      find ctx col field search = .error (.unknownNoteType n.id n.noteType)) ∨
    (∀ n ∈ col.notes.rows, n.id ∈ found → ¬ Untyped ctx.noteTypes n) ∧
      ∃ gs, find ctx col field search = .ok gs ∧ Grouped (Shows ctx col field search) gs := by
  rw [find_of_defined hdefined, hfound, Except.bind]
  rcases values_cases ctx.noteTypes field (col.notesOf found) with
    ⟨n, hn, huntyped, herror⟩ | ⟨htyped, vs, hvs, hsub, hmem⟩
  · obtain ⟨hn, hid⟩ := Collection.mem_notesOf.mp hn
    exact Or.inl ⟨n, hn, hid, huntyped, by rw [herror, Except.map]⟩
  · refine Or.inr ⟨fun n hn hid => htyped n (Collection.mem_notesOf.mpr ⟨hn, hid⟩), groups vs, by rw [hvs, Except.map],
      ?_⟩
    have hids : ((col.notesOf found).map Note.id).Pairwise (· < ·) := col.notes.increasing_filter _
    have hincreasing : vs.Pairwise fun p q => p.1 < q.1 := List.pairwise_map.mp (hids.sublist hsub)
    refine (grouped_groups hincreasing).congr fun v i => ?_
    simp only [hmem, Collection.mem_notesOf, Shows, hfound, Except.ok.injEq, exists_eq_left']
    grind

/-- The groups are exactly those of the values that the notes found have in the field. If the search
itself answers, then there are groups unless the field exists and a note found is without a type. -/
theorem find_groups (ctx : Context) (col : Collection) (field search : String) :
    (∀ gs, find ctx col field search = .ok gs → Grouped (Shows ctx col field search) gs) ∧
    ∀ found, Search.findNotes ctx col search = .ok found →
      ((∃ fault, find ctx col field search = .error fault) ↔
        (∃ t ∈ ctx.noteTypes, (t.fieldPosition? field).isSome) ∧
          ∃ n ∈ col.notes.rows, n.id ∈ found ∧ Untyped ctx.noteTypes n) ∧
      ∀ fault, find ctx col field search = .error fault →
        ∃ n ∈ col.notes.rows, n.id ∈ found ∧ Untyped ctx.noteTypes n ∧
          fault = .unknownNoteType n.id n.noteType := by
  by_cases hdefined : ∃ t ∈ ctx.noteTypes, (t.fieldPosition? field).isSome
  · refine ⟨fun gs hgs => ?_, fun found hfound => ?_⟩
    · cases hfound : Search.findNotes ctx col search with
      | error fault => simp [find_of_defined hdefined, hfound, Except.bind] at hgs
      | ok found =>
        rcases find_cases hfound hdefined with ⟨n, -, -, -, herror⟩ | ⟨-, gs', hgs', hgrouped⟩
        · simp [herror] at hgs
        · obtain rfl : gs' = gs := Except.ok.inj (hgs'.symm.trans hgs)
          exact hgrouped
    · rcases find_cases hfound hdefined with ⟨n, hn, hid, huntyped, herror⟩ | ⟨htyped, gs, hgs, -⟩
      · refine ⟨⟨fun _ => ⟨hdefined, n, hn, hid, huntyped⟩, fun _ => ⟨_, herror⟩⟩, fun fault hfault => ?_⟩
        exact ⟨n, hn, hid, huntyped, Except.error.inj (hfault.symm.trans herror)⟩
      · rw [hgs]
        simp only [reduceCtorEq, exists_false, false_iff, not_and, not_exists, false_implies,
          implies_true, and_true]
        exact fun _ n hn hid => htyped n hn hid
  · rw [find_of_not_defined hdefined]
    refine ⟨fun gs hgs => ?_, fun found hfound => ?_⟩
    · obtain rfl : [] = gs := Except.ok.inj hgs
      have hnone (v : String) (i : Int) : ¬ Shows ctx col field search v i := by
        rintro ⟨-, -, -, n, -, -, hvalue⟩
        exact hdefined (defined_of_hasValue hvalue)
      exact ⟨by simp, by simp [hnone], by simp, by simp, .nil⟩
    · simp [hdefined]

def sampleCollection : Collection :=
  { notes := ⟨[⟨1, 1, 0, 0, "", "<b>cat</b>\x1fchat", "cat", 0⟩, ⟨2, 1, 0, 0, "", "dog\x1fchien", "dog", 0⟩,
      ⟨3, 2, 0, 0, "", "dog\x1f", "dog", 0⟩, ⟨4, 1, 0, 0, "", "cat\x1fgato", "cat", 0⟩,
      ⟨5, 1, 0, 0, "", "&nbsp;\x1fchat", "", 0⟩, ⟨6, 2, 0, 0, "", "&nbsp;\x1fchat", "", 0⟩],
      by simp [Keyed.id]⟩
    cards := ⟨[1, 2, 3, 4, 5, 6].map fun i => ⟨i, i, 1, 0, 0, 0, 0, 0, 0, 0, 0, 0, 0⟩, by simp [Keyed.id]⟩
    reviews := .empty }

def narrowContext : Context := { Query.sampleContext with noteTypes := Query.sampleTypes.take 1 }

theorem find_groups_sample :
    (find Query.sampleContext sampleCollection "front" "" = .ok [⟨"dog", [2, 3]⟩, ⟨"cat", [1, 4]⟩] ∧
      Grouped (Shows Query.sampleContext sampleCollection "front" "")
        [⟨"dog", [2, 3]⟩, ⟨"cat", [1, 4]⟩]) ∧
    find narrowContext sampleCollection "front" "" = .error (.unknownNoteType 3 2) ∧
      ∃ n ∈ sampleCollection.notes.rows, n.id ∈ [1, 2, 3, 4, 5, 6] ∧ Untyped narrowContext.noteTypes n ∧
        Fault.unknownNoteType 3 2 = .unknownNoteType n.id n.noteType := by
  have hfind : find Query.sampleContext sampleCollection "front" "" =
      .ok [⟨"dog", [2, 3]⟩, ⟨"cat", [1, 4]⟩] := by decide +kernel
  have hfound : Search.findNotes narrowContext sampleCollection "" = .ok [1, 2, 3, 4, 5, 6] := by
    decide +kernel
  have hfault : find narrowContext sampleCollection "front" "" = .error (.unknownNoteType 3 2) := by
    decide +kernel
  refine ⟨⟨hfind, (find_groups ..).1 _ hfind⟩, hfault, ?_⟩
  exact ((find_groups narrowContext sampleCollection "front" "").2 _ hfound).2 _ hfault

end CardQuery.Duplicates
