import CardQuery.Proofs.Collection.Table
import CardQuery.Proofs.Query.FieldProbe
import CardQuery.Replace
import Mathlib.Data.List.Forall2
import Mathlib.Data.List.Nodup

/-!
What a replacement does to a collection. Every note that changes is rewritten, and nothing else is
touched; a replacement that fails leaves everything as it was.
-/

namespace CardQuery

def Replace.Targeted (types : List NoteType) (field : Option String) (n : Note) (i : ℕ) : Prop :=
  ∀ name ∈ field, ∃ t ∈ types, t.id = n.noteType ∧ t.fields.findIdx? (· == name) = some i

structure Replace.Edits (types : List NoteType) (field : Option String) (edit : String → String)
    (n : Note) (fields : List String) : Prop where
  length : fields.length = n.fields.length
  targeted : ∀ i value, n.fields[i]? = some value → Replace.Targeted types field n i →
    fields[i]? = some (edit value)
  others : ∀ i value, n.fields[i]? = some value → ¬ Replace.Targeted types field n i →
    fields[i]? = some value

namespace Replace

variable {types : List NoteType} {field : Option String} {edit : String → String} {n : Note}

def Changes (types : List NoteType) (field : Option String) (edit : String → String) (n : Note) :
    Prop :=
  ∃ i value, n.fields[i]? = some value ∧ Targeted types field n i ∧ edit value ≠ value

lemma Edits.ne_iff {fields : List String} (h : Edits types field edit n fields) :
    fields ≠ n.fields ↔ Changes types field edit n := by
  constructor
  · intro hne
    obtain ⟨i, hi⟩ : ∃ i, fields[i]? ≠ n.fields[i]? :=
      not_forall.mp fun heq => hne (List.ext_getElem? heq)
    cases hv : n.fields[i]? with
    | none =>
      have hnone : fields[i]? = none := by
        rw [List.getElem?_eq_none_iff, h.length]
        exact List.getElem?_eq_none_iff.mp hv
      exact absurd (hnone.trans hv.symm) hi
    | some value =>
      by_cases ht : Targeted types field n i
      · refine ⟨i, value, hv, ht, fun heq => hi ?_⟩
        rw [h.targeted i value hv ht, heq, hv]
      · exact absurd ((h.others i value hv ht).trans hv.symm) hi
  · rintro ⟨i, value, hv, ht, hne⟩ rfl
    have hedit := h.targeted i value hv ht
    exact hne (Option.some_inj.mp (hedit.symm.trans hv))

lemma edits_map (n : Note) : Edits types none edit n (n.fields.map edit) := by
  have hall (i : ℕ) : Targeted types none n i := by simp [Targeted]
  refine ⟨by simp, ?_, ?_⟩
  · intro i value hv _
    simp [hv]
  · intro i value _ ht
    exact absurd (hall i) ht

lemma mem_positions {name : String} {p : Int × ℕ} : p ∈ positions types name ↔
    ∃ t ∈ types, t.id = p.1 ∧ t.fields.findIdx? (· == name) = some p.2 := by
  obtain ⟨id, i⟩ := p
  simp only [positions, List.mem_filterMap, Option.map_eq_some_iff, Prod.mk.injEq]
  constructor
  · rintro ⟨t, ht, i, hi, rfl, rfl⟩
    exact ⟨t, ht, rfl, hi⟩
  · rintro ⟨t, ht, rfl, hi⟩
    exact ⟨t, ht, i, hi, rfl, rfl⟩

lemma nodup_positions (hids : (types.map NoteType.id).Nodup) (name : String) :
    ((positions types name).map Prod.fst).Nodup := by
  induction types with
  | nil => simp [positions]
  | cons t ts ih =>
    rw [List.map_cons, List.nodup_cons] at hids
    cases hi : t.fields.findIdx? (· == name) with
    | none => simpa [positions, hi] using ih hids.2
    | some i =>
      have hnotMem : t.id ∉ (positions ts name).map Prod.fst := by
        intro hmem
        obtain ⟨p, hp, hpid⟩ := List.mem_map.mp hmem
        obtain ⟨u, hu, huid, -⟩ := mem_positions.mp hp
        exact hids.1 (List.mem_map.mpr ⟨u, hu, huid.trans hpid⟩)
      have hcons : positions (t :: ts) name = (t.id, i) :: positions ts name := by
        simp [positions, hi]
      rw [hcons, List.map_cons, List.nodup_cons]
      exact ⟨hnotMem, ih hids.2⟩

lemma position?_positions (hids : (types.map NoteType.id).Nodup) (name : String) (id : Int) (i : ℕ) :
    position? (positions types name) id = some i ↔
      ∃ t ∈ types, t.id = id ∧ t.fields.findIdx? (· == name) = some i := by
  have hnodup : ((positions types name).reverse.map Prod.fst).Nodup := by
    rw [List.map_reverse, List.nodup_reverse]
    exact nodup_positions hids name
  rw [position?]
  rw [Option.map_eq_some_iff]
  simp only [find?_key_iff hnodup, List.mem_reverse, mem_positions]
  constructor
  · rintro ⟨p, ⟨hp, rfl⟩, rfl⟩
    exact hp
  · intro h
    exact ⟨(id, i), ⟨h, rfl⟩, rfl⟩

lemma edits_modify {i : ℕ} (hi : ∀ j, Targeted types field n j ↔ j = i) :
    Edits types field edit n (n.fields.modify i edit) := by
  refine ⟨List.length_modify .., fun j value hv ht => ?_, fun j value hv ht => ?_⟩
  · obtain rfl := (hi j).mp ht
    simp [hv]
  · have hne : i ≠ j := fun h => ht ((hi j).mpr h.symm)
    simp [hne, hv]

lemma edited?_eq (hids : (types.map NoteType.id).Nodup) (edit : String → String)
    (field : Option String) (n : Note) :
    match edited? edit (field.map (positions types)) n with
    | .ok none => ∀ i, ¬ Targeted types field n i
    | .ok (some fields) => Edits types field edit n fields
    | .error _ => True := by
  cases field with
  | none => exact edits_map n
  | some name =>
    have hposition (i : ℕ) : Targeted types (some name) n i ↔
        position? (positions types name) n.noteType = some i := by
      simp [Targeted, position?_positions hids]
    simp only [edited?, Option.map_some]
    cases hp : position? (positions types name) n.noteType with
    | none => simp [hposition, hp]
    | some i =>
      have hi (j : ℕ) : Targeted types (some name) n j ↔ j = i := by simp [hposition, hp, eq_comm]
      by_cases hlt : i < n.fields.length
      · simpa [hlt] using edits_modify hi
      · simp [hlt]

structure Rewritten (ctx : Context) (now : Int) (field : Option String) (edit : String → String)
    (n n' : Note) : Prop where
  id : n'.id = n.id
  noteType : n'.noteType = n.noteType
  tags : n'.tags = n.tags
  modified : n'.modified = now
  usn : n'.usn = ctx.usn
  fields : ∃ fields, Edits ctx.noteTypes field edit n fields ∧ n'.blob = Fields.join fields ∧
    n'.checksum = Fields.checksum (fields.headD "") ∧
    ∃ t ∈ ctx.noteTypes, t.id = n.noteType ∧ ∃ value, fields[t.sortField]? = some value ∧
      n'.sortText = Markup.stripKeepingImages value

variable {ctx : Context} {now : Int}

lemma change?_eq (hids : (ctx.noteTypes.map NoteType.id).Nodup) (now : Int) (edit : String → String)
    (field : Option String) (n : Note) :
    match change? ctx now edit (field.map (positions ctx.noteTypes)) n with
    | .ok none => ¬ Changes ctx.noteTypes field edit n
    | .ok (some e) => Changes ctx.noteTypes field edit n ∧ e.id = n.id ∧
        Rewritten ctx now field edit n (e.write n)
    | .error _ => True := by
  have hedited := edited?_eq hids edit field n
  rw [change?]
  cases hr : edited? edit (field.map (positions ctx.noteTypes)) n with
  | error e => trivial
  | ok fields =>
    rw [hr] at hedited
    cases fields with
    | none =>
      rintro ⟨i, -, -, ht, -⟩
      exact hedited i ht
    | some fields =>
      have hne := hedited.ne_iff
      by_cases heq : fields = n.fields
      · simpa [heq] using mt hne.mpr (not_not.mpr heq)
      · simp only [if_neg heq]
        cases hfind : NoteType.find? ctx.noteTypes n.noteType with
        | none => trivial
        | some t =>
          obtain ⟨ht, htid⟩ := (find?_key_iff hids).mp hfind
          cases hs : fields[t.sortField]? with
          | none => simp [NoteType.derive, hs, Except.map]
          | some value =>
            simp only [NoteType.derive, hs, Except.map, NoteEdit.write, if_true, true_and]
            exact ⟨hne.mp heq, rfl, rfl, rfl, rfl, rfl, fields, hedited, rfl, rfl, t, ht, htid, value,
              hs, rfl⟩

lemma stage_cons {ps : Option (List (Int × Nat))} {n : Note} {ns : List Note} {es : List NoteEdit}
    (h : stage ctx now edit ps (n :: ns) = .ok es) :
    (change? ctx now edit ps n = .ok none ∧ stage ctx now edit ps ns = .ok es) ∨
      ∃ e rest, change? ctx now edit ps n = .ok (some e) ∧ stage ctx now edit ps ns = .ok rest ∧
        es = e :: rest := by
  rw [stage] at h
  split at h
  · cases h
  · next hnone => exact Or.inl ⟨hnone, h⟩
  · next e hsome =>
    obtain ⟨rest, hrest, rfl⟩ := Fault.map_eq_ok.mp h
    exact Or.inr ⟨e, rest, hsome, hrest, rfl⟩

lemma stage_eq (hids : (ctx.noteTypes.map NoteType.id).Nodup) {ns : List Note} {es : List NoteEdit}
    (h : stage ctx now edit (field.map (positions ctx.noteTypes)) ns = .ok es) :
    ∃ C, C.Sublist ns ∧ (∀ n ∈ ns, n ∈ C ↔ Changes ctx.noteTypes field edit n) ∧
      List.Forall₂ (fun n e => e.id = n.id ∧ Rewritten ctx now field edit n (e.write n)) C es := by
  induction ns generalizing es with
  | nil =>
    cases h
    exact ⟨[], .slnil, by simp, .nil⟩
  | cons n ns ih =>
    have hchange := change?_eq hids now edit field n
    rcases stage_cons h with ⟨hnone, hns⟩ | ⟨e, rest, hsome, hrest, rfl⟩
    · rw [hnone] at hchange
      obtain ⟨C, hsub, hmem, hes⟩ := ih hns
      refine ⟨C, hsub.cons n, fun m hm => ?_, hes⟩
      rcases List.mem_cons.mp hm with rfl | hm
      · constructor
        · intro hC
          exact (hmem m (hsub.subset hC)).mp hC
        · intro hc
          exact absurd hc hchange
      · exact hmem m hm
    · rw [hsome] at hchange
      obtain ⟨hchanges, hid, hwritten⟩ := hchange
      obtain ⟨C, hsub, hmem, hes⟩ := ih hrest
      refine ⟨n :: C, hsub.cons_cons n, fun m hm => ?_, .cons ⟨hid, hwritten⟩ hes⟩
      rw [List.mem_cons]
      constructor
      · rintro (rfl | hC)
        · exact hchanges
        · exact (hmem m (hsub.subset hC)).mp hC
      · intro hc
        rcases List.mem_cons.mp hm with rfl | hm
        · exact Or.inl rfl
        · exact Or.inr ((hmem m hm).mpr hc)

def writeAll (es : List NoteEdit) (n : Note) : Note := es.foldl (fun n e => e.write n) n

lemma writeAll_of_notMem {es : List NoteEdit} (h : n.id ∉ es.map NoteEdit.id) : writeAll es n = n := by
  induction es with
  | nil => rfl
  | cons e es ih =>
    simp only [List.map_cons, List.mem_cons, not_or] at h
    have hwrite : e.write n = n := by simp [NoteEdit.write, h.1]
    simpa [writeAll, hwrite] using ih h.2

lemma writeAll_of_mem {es : List NoteEdit} (hnodup : (es.map NoteEdit.id).Nodup) {e : NoteEdit}
    (he : e ∈ es) (hid : e.id = n.id) : writeAll es n = e.write n := by
  induction es with
  | nil => cases he
  | cons d es ih =>
    rw [List.map_cons, List.nodup_cons] at hnodup
    rcases List.mem_cons.mp he with rfl | he
    · have hwritten : (e.write n).id ∉ es.map NoteEdit.id := by
        rw [NoteEdit.id_write, ← hid]
        exact hnodup.1
      exact writeAll_of_notMem hwritten
    · have hne : n.id ≠ d.id := by
        intro heq
        exact hnodup.1 (List.mem_map.mpr ⟨e, he, hid.trans heq⟩)
      have hwrite : d.write n = n := by simp [NoteEdit.write, hne]
      simpa [writeAll, hwrite] using ih hnodup.2 he

lemma transact_eq {refuses : NoteEdit → Bool} {notes notes' : Table Note} {es : List NoteEdit}
    (h : transact refuses notes es = .ok notes') : notes'.rows = notes.rows.map (writeAll es) := by
  induction es generalizing notes with
  | nil =>
    cases h
    exact (List.map_id _).symm
  | cons e es ih =>
    rw [transact] at h
    split at h
    · cases h
    · rw [ih h]
      simp [Table.update, writeAll]

lemma exists_mem_of_forall₂ {α β : Type} {r : α → β → Prop} {xs : List α} {ys : List β}
    (h : List.Forall₂ r xs ys) {x : α} (hx : x ∈ xs) : ∃ y ∈ ys, r x y := by
  induction h with
  | nil => cases hx
  | @cons a b _ _ hab _ ih =>
    rcases List.mem_cons.mp hx with rfl | hx
    · exact ⟨b, by simp, hab⟩
    · obtain ⟨y, hy, hr⟩ := ih hx
      exact ⟨y, by simp [hy], hr⟩

/-- What a replacement has done once it succeeds; `C` are the notes that it changed. -/
structure Replaced (ctx : Context) (now : Int) (ids : List Int) (target replacement : String)
    (o : ReplaceOptions) (s s' : Effects) (C : List Note) : Prop where
  increasing : C.Pairwise fun m n => m.id < n.id
  mem : ∀ n, n ∈ C ↔ n ∈ s.collection.notes.rows ∧ n.id ∈ ids ∧
    ∃ edit, editor? o target replacement = some edit ∧ Changes ctx.noteTypes o.field edit n
  notes : List.Forall₂ (fun n n' =>
    (n ∈ C → ∃ edit, editor? o target replacement = some edit ∧
      Rewritten ctx now o.field edit n n') ∧ (n ∉ C → n' = n))
    s.collection.notes.rows s'.collection.notes.rows
  cards : s'.collection.cards = s.collection.cards
  reviews : s'.collection.reviews = s.collection.reviews
  notices : s'.notices = if C = [] then s.notices else s.notices ++ [C.map Note.id]

variable {ids : List Int} {target replacement : String} {o : ReplaceOptions} {s : Effects}

lemma replaced_of_positions_nil (h : o.field.map (positions ctx.noteTypes) = some []) :
    Replaced ctx now ids target replacement o s s [] := by
  refine ⟨.nil, fun n => ?_, ?_, rfl, rfl, rfl⟩
  · obtain ⟨name, hname, hpositions⟩ := Option.map_eq_some_iff.mp h
    simp only [List.not_mem_nil, false_iff]
    rintro ⟨-, -, edit, -, i, -, -, ht, -⟩
    obtain ⟨t, hmem, -, hi⟩ := ht name hname
    have hp : (t.id, i) ∈ positions ctx.noteTypes name := mem_positions.mpr ⟨t, hmem, rfl, hi⟩
    simp [hpositions] at hp
  · apply List.forall₂_same.mpr
    intro n _
    exact ⟨by simp, fun _ => rfl⟩

lemma replaced_of_stage (hids : (ctx.noteTypes.map NoteType.id).Nodup)
    (hedit : editor? o target replacement = some edit) {es : List NoteEdit}
    (hstage : stage ctx now edit (o.field.map (positions ctx.noteTypes)) (s.collection.notesOf ids) =
      .ok es) {notes' : Table Note} (hnotes : notes'.rows = s.collection.notes.rows.map (writeAll es)) :
    ∃ C, es.map NoteEdit.id = C.map Note.id ∧ Replaced ctx now ids target replacement o s
      ⟨{ s.collection with notes := notes' },
        if es = [] then s.notices else s.notices ++ [es.map NoteEdit.id]⟩ C := by
  obtain ⟨C, hsub, hmem, hes⟩ := stage_eq hids hstage
  have heids : es.map NoteEdit.id = C.map Note.id := by
    rw [← List.forall₂_eq_eq_eq, List.forall₂_map_left_iff, List.forall₂_map_right_iff]
    exact hes.flip.imp fun _ _ h => h.1
  have hstored : C.Sublist s.collection.notes.rows := hsub.trans List.filter_sublist
  have hincreasing : C.Pairwise fun m n => m.id < n.id := s.collection.notes.increasing.sublist hstored
  have hnodup : (es.map NoteEdit.id).Nodup := by
    rw [heids]
    exact List.pairwise_map.mpr (hincreasing.imp Int.ne_of_lt)
  refine ⟨C, heids, hincreasing, fun n => ?_, ?_, rfl, rfl, ?_⟩
  · constructor
    · intro hC
      have hn := hsub.subset hC
      obtain ⟨hrow, hid⟩ := Collection.mem_notesOf.mp hn
      exact ⟨hrow, hid, edit, hedit, (hmem n hn).mp hC⟩
    · rintro ⟨hn, hid, edit', hedit', hchanges⟩
      obtain rfl : edit = edit' := Option.some_inj.mp (hedit.symm.trans hedit')
      exact (hmem n (Collection.mem_notesOf.mpr ⟨hn, hid⟩)).mpr hchanges
  · rw [hnotes, List.forall₂_map_right_iff, List.forall₂_same]
    intro n hn
    constructor
    · intro hC
      obtain ⟨e, he, hid, hwritten⟩ := exists_mem_of_forall₂ hes hC
      rw [writeAll_of_mem hnodup he hid]
      exact ⟨edit, hedit, hwritten⟩
    · intro hC
      apply writeAll_of_notMem
      intro hmem
      obtain ⟨m, hm, hid⟩ := List.mem_map.mp (heids ▸ hmem)
      obtain rfl := Table.eq_of_id_eq (hstored.subset hm) hn hid
      exact hC hm
  · have hnil : es = [] ↔ C = [] := by
      rw [← List.map_eq_nil_iff (f := NoteEdit.id), heids, List.map_eq_nil_iff]
    simp only [hnil, heids]

/-- A replacement either succeeds, answering with the number of notes that it changed, or leaves
everything as it was. -/
theorem inNotes_effect (hids : (ctx.noteTypes.map NoteType.id).Nodup) (refuses : NoteEdit → Bool)
    (now : Int) (ids : List Int) (target replacement : String) (o : ReplaceOptions) (s : Effects) :
    (∃ C s', inNotes refuses ctx now ids target replacement o s = (.ok C.length, s') ∧
      Replaced ctx now ids target replacement o s s' C) ∨
    ∃ fault, inNotes refuses ctx now ids target replacement o s = (.error fault, s) := by
  rw [inNotes]
  by_cases hps : o.field.map (positions ctx.noteTypes) = some []
  · exact Or.inl ⟨[], s, by simp [hps], replaced_of_positions_nil hps⟩
  simp only [if_neg hps]
  cases hedit : editor? o target replacement with
  | none => exact Or.inr ⟨_, rfl⟩
  | some edit =>
    cases hstage : stage ctx now edit (o.field.map (positions ctx.noteTypes))
        (s.collection.notesOf ids) with
    | error fault => exact Or.inr ⟨fault, by simp only [hstage]⟩
    | ok es =>
      cases es with
      | nil =>
        have hsame : s.collection.notes.rows = s.collection.notes.rows.map (writeAll []) :=
          (List.map_id _).symm
        obtain ⟨C, hC, hreplaced⟩ := replaced_of_stage hids hedit hstage hsame
        obtain rfl : C = [] := by simpa using hC.symm
        exact Or.inl ⟨[], s, by simp only [hstage, List.length_nil], by simpa using hreplaced⟩
      | cons e es =>
        cases htransact : transact refuses s.collection.notes (e :: es) with
        | error fault => exact Or.inr ⟨fault, by simp only [hstage, htransact]⟩
        | ok notes' =>
          obtain ⟨C, hC, hreplaced⟩ := replaced_of_stage hids hedit hstage (transact_eq htransact)
          have hlength : (e :: es).length = C.length := by simpa using congrArg List.length hC
          exact Or.inl ⟨C, _, by simp only [hstage, htransact, hlength, reduceCtorEq, if_false], hreplaced⟩

def sampleContext : Context := ⟨Query.sampleTypes, ⟨[], 1⟩, ⟨10, 864000⟩, .default, 7⟩

def sampleOptions : ReplaceOptions := ⟨false, some "Front", true⟩

theorem inNotes_effect_sample : ∃ s',
    inNotes (fun _ => false) sampleContext 5 [3, 1, 4, 1] "CAT" "dog" sampleOptions
        ⟨Query.sampleCollection, []⟩ = (.ok 1, s') ∧
      Replaced sampleContext 5 [3, 1, 4, 1] "CAT" "dog" sampleOptions
        ⟨Query.sampleCollection, []⟩ s' [⟨1, 1, 0, 0, "", "cat\x1fchat", "cat", 0⟩] := by
  have hnotices : (inNotes (fun _ => false) sampleContext 5 [3, 1, 4, 1] "CAT" "dog" sampleOptions
      ⟨Query.sampleCollection, []⟩).2.notices = [[1]] := by
    decide +kernel
  rcases @inNotes_effect sampleContext (by decide) (fun _ => false) 5 [3, 1, 4, 1] "CAT" "dog"
    sampleOptions ⟨Query.sampleCollection, []⟩ with ⟨C, s', hrun, hreplaced⟩ | ⟨fault, hrun⟩
  · have hids : C.map Note.id = [1] := by
      have hnotified := hreplaced.notices
      rw [hrun] at hnotices
      rw [hnotices] at hnotified
      split_ifs at hnotified
      simpa using hnotified.symm
    obtain ⟨n, rfl, hid⟩ := List.map_eq_singleton_iff.mp hids
    have hstored := ((hreplaced.mem n).mp List.mem_cons_self).1
    have hcat : ∀ n ∈ Query.sampleCollection.notes.rows, n.id = 1 →
        n = ⟨1, 1, 0, 0, "", "cat\x1fchat", "cat", 0⟩ := by
      decide
    rw [hcat n hstored hid] at hrun hreplaced
    exact ⟨s', hrun, hreplaced⟩
  · rw [hrun] at hnotices
    cases hnotices

end Replace

end CardQuery
