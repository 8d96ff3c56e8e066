import CardQuery.Proofs.Pattern.Provenance
import CardQuery.Proofs.Replace.Effect

namespace CardQuery.Replace

variable {edit : String → String} {target replacement : String} {o : ReplaceOptions}

lemma forall_edit {P : Char → Prop} (hedit : editor? o target replacement = some edit)
    (hreplacement : ∀ c ∈ replacement.toList, P c) {value : String} (hvalue : ∀ c ∈ value.toList, P c) :
    ∀ c ∈ (edit value).toList, P c := by
  obtain ⟨r, -, rfl⟩ := Option.map_eq_some_iff.mp hedit
  simp only [String.toList_ofList]
  apply Pattern.forall_replaceAll (P := P) _ hvalue
  intro groups hgroups
  split
  · apply Pattern.Replacement.forall_expand hgroups
    intro c hc
    exact hreplacement c (Pattern.Replacement.mem_pieces hc)
  · exact hreplacement

structure Revised (types : List NoteType) (edit : String → String) (n n' : Note) : Prop where
  id : n'.id = n.id
  noteType : n'.noteType = n.noteType
  tags : n'.tags = n.tags
  fields : ∃ t fields, NoteType.find? types n.noteType = some t ∧
    List.Forall₂ (fun v w => w = v ∨ w = edit v) n.fields fields ∧ n'.blob = Fields.join fields ∧
    t.derive fields = .ok (n'.sortText, n'.checksum)

lemma forall₂_map (edit : String → String) (vs : List String) :
    List.Forall₂ (fun v w => w = v ∨ w = edit v) vs (vs.map edit) := by
  rw [List.forall₂_map_right_iff, List.forall₂_same]
  exact fun v _ => Or.inr rfl

lemma forall₂_modify (edit : String → String) (vs : List String) (i : ℕ) :
    List.Forall₂ (fun v w => w = v ∨ w = edit v) vs (vs.modify i edit) := by
  have hsame (vs : List String) : List.Forall₂ (fun v w => w = v ∨ w = edit v) vs vs :=
    List.forall₂_same.mpr fun v _ => Or.inl rfl
  induction vs generalizing i with
  | nil => simp
  | cons v vs ih =>
    cases i with
    | zero => exact .cons (Or.inr rfl) (hsame vs)
    | succ i => exact .cons (Or.inl rfl) (ih i)

variable {ps : Option (List (Int × ℕ))} {n n' : Note} {ctx : Context} {now : Int}

lemma forall₂_of_edited? {fields : List String} (h : edited? edit ps n = .ok (some fields)) :
    List.Forall₂ (fun v w => w = v ∨ w = edit v) n.fields fields := by
  unfold edited? at h
  split at h
  · cases h
    exact forall₂_map edit n.fields
  · split at h
    · cases h
    · split at h
      · cases h
        exact forall₂_modify edit n.fields _
      · cases h

lemma exists_of_change? {e : NoteEdit} (h : change? ctx now edit ps n = .ok (some e)) :
    e.id = n.id ∧ ∃ t fields, edited? edit ps n = .ok (some fields) ∧
      NoteType.find? ctx.noteTypes n.noteType = some t ∧ e.blob = Fields.join fields ∧
      t.derive fields = .ok (e.sortText, e.checksum) := by
  unfold change? at h
  split at h
  · cases h
  · cases h
  · next fields hfields =>
    split at h
    · cases h
    · split at h
      · cases h
      · next t ht =>
        obtain ⟨derived, hderive, hsome⟩ := Fault.map_eq_ok.mp h
        cases hsome
        exact ⟨rfl, t, fields, hfields, ht, rfl, hderive⟩

lemma revised_of_change? {e : NoteEdit} (h : change? ctx now edit ps n = .ok (some e)) :
    e.id = n.id ∧ Revised ctx.noteTypes edit n (e.write n) := by
  obtain ⟨hid, t, fields, hfields, ht, hblob, hderive⟩ := exists_of_change? h
  have hwrite : e.write n = { n with
      blob := e.blob, sortText := e.sortText, checksum := e.checksum, modified := e.modified,
      usn := e.usn } := if_pos hid.symm
  rw [hwrite]
  exact ⟨hid, rfl, rfl, rfl, t, fields, ht, forall₂_of_edited? hfields, hblob, hderive⟩

lemma exists_of_mem_stage {ns : List Note} {es : List NoteEdit} (h : stage ctx now edit ps ns = .ok es)
    {e : NoteEdit} (he : e ∈ es) : ∃ n ∈ ns, change? ctx now edit ps n = .ok (some e) := by
  induction ns generalizing es with
  | nil =>
    cases h
    cases he
  | cons n ns ih =>
    rcases stage_cons h with ⟨-, hns⟩ | ⟨d, rest, hd, hrest, rfl⟩
    · obtain ⟨m, hm, hchange⟩ := ih hns he
      exact ⟨m, List.mem_cons_of_mem _ hm, hchange⟩
    · rcases List.mem_cons.mp he with rfl | he
      · exact ⟨n, List.mem_cons_self, hd⟩
      · obtain ⟨m, hm, hchange⟩ := ih hrest he
        exact ⟨m, List.mem_cons_of_mem _ hm, hchange⟩

lemma write_write {d e : NoteEdit} (h : d.id = n.id) : d.write (e.write n) = d.write n := by
  simp only [NoteEdit.write]
  split <;> simp [h]

lemma writeAll_cases (es : List NoteEdit) (n : Note) :
    n.id ∉ es.map NoteEdit.id ∨ ∃ e ∈ es, e.id = n.id ∧ writeAll es n = e.write n := by
  induction es generalizing n with
  | nil => exact Or.inl List.not_mem_nil
  | cons d es ih =>
    have hcons : writeAll (d :: es) n = writeAll es (d.write n) := rfl
    rw [hcons]
    rcases ih (d.write n) with hnone | ⟨e, he, hid, heq⟩
    · by_cases hd : d.id = n.id
      · exact Or.inr ⟨d, List.mem_cons_self, hd, writeAll_of_notMem hnone⟩
      · rw [NoteEdit.id_write] at hnone
        exact Or.inl (by simp [Ne.symm hd, hnone])
    · rw [NoteEdit.id_write] at hid
      exact Or.inr ⟨e, List.mem_cons_of_mem _ he, hid, heq.trans (write_write hid)⟩

theorem revised_of_mem_inNotes {refuses : NoteEdit → Bool} {ids : List Int} {s : Effects}
    (h : n' ∈ (inNotes refuses ctx now ids target replacement o s).2.collection.notes.rows) :
    n' ∈ s.collection.notes.rows ∨ ∃ n ∈ s.collection.notes.rows,
      ∃ edit, editor? o target replacement = some edit ∧ Revised ctx.noteTypes edit n n' := by
  unfold inNotes at h
  dsimp only at h
  split at h
  · exact Or.inl h
  · split at h
    · exact Or.inl h
    · next edit hedit =>
      split at h
      · exact Or.inl h
      · exact Or.inl h
      · next e es hstage =>
        split at h
        · exact Or.inl h
        · next notes htransact =>
          have hrows := transact_eq htransact
          obtain ⟨n, hn, rfl⟩ := List.mem_map.mp (hrows ▸ h)
          rcases writeAll_cases (e :: es) n with hnone | ⟨d, hd, hid, heq⟩
          · exact Or.inl ((writeAll_of_notMem hnone).symm ▸ hn)
          · obtain ⟨m, hm, hchange⟩ := exists_of_mem_stage hstage hd
            obtain ⟨hdm, hrevised⟩ := revised_of_change? hchange
            have hstored : m ∈ s.collection.notes.rows := List.mem_of_mem_filter hm
            -- The edit was made for a note of the same id, so for this one.
            obtain rfl := Table.eq_of_id_eq hstored hn (hdm.symm.trans hid)
            exact Or.inr ⟨m, hn, edit, hedit, heq ▸ hrevised⟩

end CardQuery.Replace
