import CardQuery.Proofs.Replace.Revision

namespace CardQuery

inductive Action where
  | addNote (t : NoteType) (n : NewNote)
  | addCard (c : Card)
  | addReview (r : Review)
  | replace (refuses : NoteEdit → Bool) (ctx : Context) (now : Int) (ids : List Int)
      (target replacement : String) (o : ReplaceOptions)

namespace Collection

def perform (col : Collection) : Action → Collection
  | .addNote t n => match col.addNote t n with
    | .error _ => col
    | .ok col => col
  | .addCard c => col.addCard c
  | .addReview r => col.addReview r
  | .replace refuses ctx now ids target replacement o =>
    (Replace.inNotes refuses ctx now ids target replacement o ⟨col, []⟩).2.collection

def after (actions : List Action) : Collection := actions.foldl perform .empty

end Collection

namespace Action

def IsClean : Action → Prop
  | addNote _ n => ∀ v ∈ n.fields, Fields.separator ∉ v.toList
  | replace _ _ _ _ _ replacement _ => Fields.separator ∉ replacement.toList
  | _ => True

instance : DecidablePred IsClean
  | addNote _ n => inferInstanceAs (Decidable (∀ v ∈ n.fields, _))
  | replace _ _ _ _ _ replacement _ => inferInstanceAs (Decidable (Fields.separator ∉ replacement.toList))
  | addCard _ => isTrue trivial
  | addReview _ => isTrue trivial

def IsUnder (types : List NoteType) : Action → Prop
  | addNote t _ => t ∈ types
  | replace _ ctx _ _ _ _ _ => ctx.noteTypes = types
  | _ => True

instance (types : List NoteType) : DecidablePred (IsUnder types)
  | addNote t _ => inferInstanceAs (Decidable (t ∈ types))
  | replace _ ctx _ _ _ _ _ => inferInstanceAs (Decidable (ctx.noteTypes = types))
  | addCard _ => isTrue trivial
  | addReview _ => isTrue trivial

def Respects (Good : Note → Prop) : Action → Prop
  | addNote t n => ∀ note, n.stored t = .ok note → Good note
  | replace _ ctx _ _ target replacement o => ∀ edit, Replace.editor? o target replacement = some edit →
      ∀ n n', Good n → Replace.Revised ctx.noteTypes edit n n' → Good n'
  | _ => True

end Action

namespace Collection

variable {Good : Note → Prop} {a : Action} {col : Collection}

lemma mem_of_addNote {t : NoteType} {n : NewNote} {col' : Collection}
    (h : col.addNote t n = .ok col') {m : Note} (hm : m ∈ col'.notes.rows) :
    m ∈ col.notes.rows ∨ n.stored t = .ok m := by
  obtain ⟨note, hstored, rfl⟩ := addNote_eq_ok.mp h
  rcases Table.mem_insert.mp hm with rfl | ⟨hm, -⟩
  · exact Or.inr hstored
  · exact Or.inl hm

lemma forall_notes_perform (ha : a.Respects Good) (h : ∀ n ∈ col.notes.rows, Good n) :
    ∀ n ∈ (col.perform a).notes.rows, Good n := by
  cases a with
  | addNote t n =>
    rw [perform]
    cases hadd : col.addNote t n with
    | error fault => exact h
    | ok col' =>
      intro m hm
      rcases mem_of_addNote hadd hm with hm | hstored
      · exact h m hm
      · exact ha m hstored
  | addCard c => exact h
  | addReview r => exact h
  | replace refuses ctx now ids target replacement o =>
    intro m hm
    rcases Replace.revised_of_mem_inNotes hm with hm | ⟨n, hn, edit, hedit, hrevised⟩
    · exact h m hm
    · exact ha edit hedit n m (h n hn) hrevised

lemma forall_notes_foldl {actions : List Action} (h : ∀ a ∈ actions, a.Respects Good)
    (hcol : ∀ n ∈ col.notes.rows, Good n) : ∀ n ∈ (actions.foldl perform col).notes.rows, Good n := by
  induction actions generalizing col with
  | nil => exact hcol
  | cons a as ih =>
    obtain ⟨ha, has⟩ := List.forall_mem_cons.mp h
    exact ih has (forall_notes_perform ha hcol)

theorem forall_notes_after {actions : List Action} (h : ∀ a ∈ actions, a.Respects Good) :
    ∀ n ∈ (after actions).notes.rows, Good n :=
  forall_notes_foldl h (by simp [empty, Table.empty])

end Collection

end CardQuery
