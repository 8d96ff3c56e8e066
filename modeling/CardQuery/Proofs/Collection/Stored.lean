import CardQuery.Proofs.Collection.Fields
import CardQuery.Proofs.Collection.History

namespace CardQuery

lemma NoteType.derive_eq_ok {t : NoteType} {fields : List String} {derived : String × Int} :
    t.derive fields = .ok derived ↔ ∃ value, fields[t.sortField]? = some value ∧
      ∃ first, fields.head? = some first ∧
        derived = (Markup.stripKeepingImages value, Fields.checksum first) := by
  rw [derive]
  cases fields with
  | nil => simp
  | cons first rest =>
    cases (first :: rest)[t.sortField]? with
    | none => simp
    | some value => simp [eq_comm]

structure NewNote.Suits (t : NoteType) (n : NewNote) : Prop where
  noteType : n.noteType = t.id
  length : n.fields.length = t.fields.length
  sortField : t.sortField < n.fields.length

namespace NewNote

variable {t : NoteType} {n : NewNote}

lemma stored_of_not_suits (h : ¬ n.Suits t) : ∃ fault, n.stored t = .error fault := by
  rw [stored]
  split
  · exact ⟨_, rfl⟩
  · next htype =>
    split
    · exact ⟨_, rfl⟩
    · next hlength =>
      have hsort : n.fields[t.sortField]? = none := by
        apply List.getElem?_eq_none
        by_contra hlt
        exact h ⟨not_not.mp htype, not_not.mp hlength, Nat.lt_of_not_le hlt⟩
      exact ⟨_, by simp only [NoteType.derive, hsort, Except.map]; rfl⟩

lemma stored_eq_ok {note : Note} : n.stored t = .ok note ↔
    n.noteType = t.id ∧ n.fields.length = t.fields.length ∧
      t.derive n.fields = .ok (note.sortText, note.checksum) ∧ note.id = n.id ∧
      note.noteType = n.noteType ∧ note.modified = n.modified ∧ note.usn = 0 ∧
      note.tags = Tags.canonical n.tags ∧ note.blob = Fields.join n.fields := by
  rw [stored]
  split
  · next htype => simp [htype]
  · next htype =>
    split
    · next hlength => simp [hlength]
    · next hlength =>
      cases hderive : t.derive n.fields with
      | error fault => simp [Except.map]
      | ok derived =>
        obtain ⟨id, noteType, modified, usn, tags, blob, sortText, checksum⟩ := note
        simp only [not_not.mp htype, not_not.mp hlength, Except.map, Except.ok.injEq, Note.mk.injEq,
          Prod.ext_iff, true_and]
        grind

lemma Suits.exists_stored (h : n.Suits t) : ∃ note, n.stored t = .ok note := by
  obtain ⟨value, hvalue⟩ : ∃ value, n.fields[t.sortField]? = some value :=
    ⟨_, List.getElem?_eq_getElem h.sortField⟩
  simp only [stored, h.noteType, h.length, ne_eq, not_true_eq_false, if_false, NoteType.derive, hvalue,
    Except.map]
  exact ⟨_, rfl⟩

lemma fields_ne_nil {note : Note} (h : n.stored t = .ok note) : n.fields ≠ [] := by
  obtain ⟨-, -, hderive, -⟩ := stored_eq_ok.mp h
  obtain ⟨-, -, first, hfirst, -⟩ := NoteType.derive_eq_ok.mp hderive
  exact List.ne_nil_of_mem (List.mem_of_head? hfirst)

lemma fields_of_stored {note : Note} (h : n.stored t = .ok note) :
    note.fields = Fields.split (Fields.join n.fields) := by
  obtain ⟨-, -, -, -, -, -, -, -, hblob⟩ := stored_eq_ok.mp h
  rw [Note.fields, hblob]

end NewNote

namespace Collection

lemma exists_addNote (col : Collection) {t : NoteType} {n : NewNote} (h : n.Suits t) :
    ∃ col', col.addNote t n = .ok col' := by
  obtain ⟨note, hstored⟩ := h.exists_stored
  exact ⟨_, addNote_eq_ok.mpr ⟨note, hstored, rfl⟩⟩

lemma addNote_eq_perform (col : Collection) {t : NoteType} {n : NewNote} (h : n.Suits t) :
    col.addNote t n = .ok (col.perform (.addNote t n)) := by
  obtain ⟨col', hadd⟩ := exists_addNote col h
  rw [perform, hadd]

lemma find?_of_addNote {col col' : Collection} {t : NoteType} {n : NewNote}
    (h : col.addNote t n = .ok col') :
    ∃ note, n.stored t = .ok note ∧ col'.notes.find? n.id = some note := by
  obtain ⟨note, hstored, rfl⟩ := addNote_eq_ok.mp h
  obtain ⟨-, -, -, hid, -⟩ := NewNote.stored_eq_ok.mp hstored
  exact ⟨note, hstored, (Table.find?_insert ..).trans (if_pos hid)⟩

theorem addNote_reads_back (col : Collection) (t : NoteType) (n : NewNote) :
    (¬ n.Suits t ∧ (∃ fault, col.addNote t n = .error fault) ∧ col.perform (.addNote t n) = col) ∨
      (n.Suits t ∧ col.addNote t n = .ok (col.perform (.addNote t n)) ∧
        ∃ note, (col.perform (.addNote t n)).notes.find? n.id = some note ∧
          note.noteType = n.noteType ∧ note.modified = n.modified ∧
          note.fields = n.fields.flatMap Fields.split ∧
          (note.fields = n.fields ↔ ∀ v ∈ n.fields, Fields.separator ∉ v.toList) ∧
          (note.fields.length = t.fields.length ↔ ∀ v ∈ n.fields, Fields.separator ∉ v.toList)) := by
  by_cases hsuits : n.Suits t
  · obtain ⟨note, hstored⟩ := hsuits.exists_stored
    obtain ⟨-, hlength, -, hid, htype, hmodified, -⟩ := NewNote.stored_eq_ok.mp hstored
    have hne := NewNote.fields_ne_nil hstored
    have hadd : col.addNote t n = .ok { col with notes := col.notes.insert note } := by
      rw [addNote, hstored, Except.map]
    have hperform : col.perform (.addNote t n) = { col with notes := col.notes.insert note } := by
      rw [perform, hadd]
    have hfind : (col.notes.insert note).find? n.id = some note := by
      rw [Table.find?_insert]
      exact if_pos hid
    refine Or.inr ⟨hsuits, by rw [hadd, hperform], note, by rw [hperform, hfind], htype, hmodified, ?_⟩
    rw [NewNote.fields_of_stored hstored, ← hlength]
    exact ⟨Fields.split_join_eq hne, Fields.split_join_iff hne, Fields.length_split_join_iff hne⟩
  · obtain ⟨fault, hfault⟩ := NewNote.stored_of_not_suits hsuits
    have hadd : col.addNote t n = .error fault := by rw [addNote, hfault, Except.map]
    exact Or.inl ⟨hsuits, ⟨fault, hadd⟩, by rw [perform, hadd]⟩

/-- A value that holds a separator is taken, and comes back in two pieces. -/
theorem addNote_reads_back_in_pieces :
    ∃ note, (empty.perform (.addNote ⟨1, "Line", .standard, ["Text"], [], 0⟩
        ⟨1, 1, 5, ["a\x1fb"], []⟩)).notes.find? 1 = some note ∧ note.fields = ["a", "b"] := by
  refine ⟨⟨1, 1, 5, 0, "", "a\x1fb", "a\x1fb", 4031569133⟩, ?_⟩
  decide +kernel

end Collection

end CardQuery
