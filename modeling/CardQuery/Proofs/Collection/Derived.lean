import CardQuery.Proofs.Collection.Stored

/-!
What is derived from the fields of a note stays in step with them: however notes are added and text is
replaced, the sort text and the checksum that are stored are those of the fields that are stored.
-/

namespace CardQuery

/-- The note has the width of its type `t`, and the sort text and the checksum of its own fields. -/
structure Note.Current (t : NoteType) (n : Note) : Prop where
  noteType : t.id = n.noteType
  length : n.fields.length = t.fields.length
  sortText : ∃ value, n.fields[t.sortField]? = some value ∧
    n.sortText = Markup.stripKeepingImages value
  checksum : ∃ first, n.fields.head? = some first ∧ n.checksum = Fields.checksum first

def Note.Fits (types : List NoteType) (n : Note) : Prop :=
  ∃ t ∈ types, t.id = n.noteType ∧ n.fields.length = t.fields.length

lemma NoteType.ne_nil_of_derive {t : NoteType} {fields : List String} {derived : String × Int}
    (h : t.derive fields = .ok derived) : fields ≠ [] := by
  obtain ⟨-, -, first, hfirst, -⟩ := derive_eq_ok.mp h
  exact List.ne_nil_of_mem (List.mem_of_head? hfirst)

lemma Note.checksum_of_derive {t : NoteType} {n : Note}
    (h : t.derive n.fields = .ok (n.sortText, n.checksum)) :
    ∃ first, n.fields.head? = some first ∧ n.checksum = Fields.checksum first := by
  obtain ⟨_, _, first, hfirst, hderived⟩ := NoteType.derive_eq_ok.mp h
  exact ⟨first, hfirst, (Prod.ext_iff.mp hderived).2⟩

lemma Note.current_of_derive {t : NoteType} {n : Note} (htype : t.id = n.noteType)
    (hlength : n.fields.length = t.fields.length)
    (h : t.derive n.fields = .ok (n.sortText, n.checksum)) : n.Current t := by
  obtain ⟨value, hvalue, _, _, hderived⟩ := NoteType.derive_eq_ok.mp h
  exact ⟨htype, hlength, ⟨value, hvalue, (Prod.ext_iff.mp hderived).1⟩, checksum_of_derive h⟩

variable {types : List NoteType}

lemma NewNote.derive_of_stored {t : NoteType} {n : NewNote} {note : Note} (h : n.stored t = .ok note)
    (hclean : ∀ v ∈ n.fields, Fields.separator ∉ v.toList) :
    note.fields = n.fields ∧ t.derive note.fields = .ok (note.sortText, note.checksum) := by
  obtain ⟨-, -, hderive, -⟩ := stored_eq_ok.mp h
  have hfields : note.fields = n.fields := by
    rw [fields_of_stored h]
    exact (Fields.split_join_iff (NoteType.ne_nil_of_derive hderive)).mpr hclean
  exact ⟨hfields, hfields ▸ hderive⟩

lemma Replace.separator_notMem_edited {edit : String → String} {target replacement : String}
    {o : ReplaceOptions} (hedit : editor? o target replacement = some edit)
    (hclean : Fields.separator ∉ replacement.toList) {n : Note} {fields : List String}
    (h : List.Forall₂ (fun v w => w = v ∨ w = edit v) n.fields fields) :
    ∀ w ∈ fields, Fields.separator ∉ w.toList := by
  intro w hw
  obtain ⟨v, hv, hvw⟩ := exists_mem_of_forall₂ h.flip hw
  have hvalue : Fields.separator ∉ v.toList := Fields.separator_notMem hv
  rcases hvw with rfl | rfl
  · exact hvalue
  · intro hmem
    apply forall_edit (P := (· ≠ Fields.separator)) hedit _ _ Fields.separator hmem rfl
    · exact fun c hc heq => hclean (heq ▸ hc)
    · exact fun c hc heq => hvalue (heq ▸ hc)

lemma Replace.Revised.derive {edit : String → String} {target replacement : String} {o : ReplaceOptions}
    (hedit : editor? o target replacement = some edit)
    (hclean : Fields.separator ∉ replacement.toList) {n n' : Note} (h : Revised types edit n n') :
    n'.fields.length = n.fields.length ∧ ∃ t, NoteType.find? types n.noteType = some t ∧
      t.derive n'.fields = .ok (n'.sortText, n'.checksum) := by
  obtain ⟨t, fields, ht, hedited, hblob, hderive⟩ := h.fields
  have hseparate := separator_notMem_edited hedit hclean hedited
  -- What is derived is derived from the edited values, and these are what the blob comes apart into.
  have hfields : n'.fields = fields := by
    rw [Note.fields, hblob]
    exact (Fields.split_join_iff (NoteType.ne_nil_of_derive hderive)).mpr hseparate
  rw [hfields]
  exact ⟨hedited.length_eq.symm, t, ht, hderive⟩

namespace Collection

variable {actions : List Action}

theorem checksum_after (h : ∀ a ∈ actions, a.IsClean) : ∀ n ∈ (after actions).notes.rows,
    ∃ first, n.fields.head? = some first ∧ n.checksum = Fields.checksum first := by
  apply forall_notes_after
  intro a ha
  have hclean := h a ha
  cases a with
  | addNote t n =>
    intro note hstored
    exact Note.checksum_of_derive (NewNote.derive_of_stored hstored hclean).2
  | replace refuses ctx now ids target replacement o =>
    intro edit hedit n n' _ hrevised
    obtain ⟨-, t, -, hderive⟩ := hrevised.derive hedit hclean
    exact Note.checksum_of_derive hderive
  | _ => trivial

theorem fits_after (h : ∀ a ∈ actions, a.IsUnder types ∧ a.IsClean) :
    ∀ n ∈ (after actions).notes.rows, n.Fits types := by
  apply forall_notes_after
  intro a ha
  obtain ⟨hunder, hclean⟩ := h a ha
  cases a with
  | addNote t n =>
    intro note hstored
    obtain ⟨htype, hlength, -, -, hnote, -⟩ := NewNote.stored_eq_ok.mp hstored
    obtain ⟨hfields, -⟩ := NewNote.derive_of_stored hstored hclean
    exact ⟨t, hunder, (hnote.trans htype).symm, by rw [hfields, hlength]⟩
  | replace refuses ctx now ids target replacement o =>
    obtain rfl : ctx.noteTypes = types := hunder
    rintro edit hedit n n' ⟨t, ht, htype, hwidth⟩ hrevised
    obtain ⟨hlength, -⟩ := hrevised.derive hedit hclean
    exact ⟨t, ht, htype.trans hrevised.noteType.symm, hlength.trans hwidth⟩
  | _ => trivial

theorem current_after (hids : (types.map NoteType.id).Nodup)
    (h : ∀ a ∈ actions, a.IsUnder types ∧ a.IsClean) :
    ∀ n ∈ (after actions).notes.rows, ∃ t ∈ types, n.Current t := by
  apply forall_notes_after
  intro a ha
  obtain ⟨hunder, hclean⟩ := h a ha
  cases a with
  | addNote t n =>
    intro note hstored
    obtain ⟨htype, hlength, -, -, hnote, -⟩ := NewNote.stored_eq_ok.mp hstored
    obtain ⟨hfields, hderive⟩ := NewNote.derive_of_stored hstored hclean
    exact ⟨t, hunder, Note.current_of_derive (hnote.trans htype).symm (by rw [hfields, hlength]) hderive⟩
  | replace refuses ctx now ids target replacement o =>
    obtain rfl : ctx.noteTypes = types := hunder
    rintro edit hedit n n' ⟨t, ht, hcurrent⟩ hrevised
    obtain ⟨hlength, u, hu, hderive⟩ := hrevised.derive hedit hclean
    have hfind : NoteType.find? ctx.noteTypes n.noteType = some t :=
      (find?_key_iff hids).mpr ⟨ht, hcurrent.noteType⟩
    obtain rfl : u = t := Option.some_inj.mp (hu.symm.trans hfind)
    exact ⟨u, ht, Note.current_of_derive (hcurrent.noteType.trans hrevised.noteType.symm)
      (hlength.trans hcurrent.length) hderive⟩
  | _ => trivial

def sampleActions : List Action :=
  [.addNote ⟨1, "Basic", .standard, ["Front", "Back"], [], 0⟩ ⟨1, 1, 3, ["<b>cat</b>", "chat"], ["pet"]⟩,
   .addNote ⟨2, "Vocabulary", .standard, ["FRONT", "Hint"], [], 0⟩ ⟨2, 1, 4, ["sun", ""], []⟩,
   .addCard ⟨11, 1, 1, 0, 0, 0, 0, 0, 0, 0, 0, 0, 0⟩,
   .replace (fun _ => false) Replace.sampleContext 5 [2, 1] "CAT" "dog" Replace.sampleOptions,
   .addReview ⟨20, 11, 3⟩]

def sampleNote : Note := ⟨1, 1, 5, 7, " pet ", "<b>dog</b>\x1fchat", "dog", 3445839855⟩

theorem current_after_sample :
    sampleNote ∈ (after sampleActions).notes.rows ∧
      ∃ t ∈ Query.sampleTypes, sampleNote.Current t := by
  have hstored : sampleNote ∈ (after sampleActions).notes.rows := by decide +kernel
  exact ⟨hstored, current_after (by decide) (by decide) sampleNote hstored⟩

end Collection

end CardQuery
