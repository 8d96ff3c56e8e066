import CardQuery.Collection.Card
import CardQuery.Collection.Config
import CardQuery.Collection.Deck
import CardQuery.Collection.Note

namespace CardQuery

structure Collection where
  notes : Table Note
  cards : Table Card
  reviews : Table Review

namespace Collection

def empty : Collection := ⟨.empty, .empty, .empty⟩

def addNote (col : Collection) (t : NoteType) (n : NewNote) : Except Fault Collection :=
  (n.stored t).map fun note => { col with notes := col.notes.insert note }

theorem addNote_eq_ok {col col' : Collection} {t : NoteType} {n : NewNote} :
    col.addNote t n = .ok col' ↔
      ∃ note, n.stored t = .ok note ∧ { col with notes := col.notes.insert note } = col' :=
  Fault.map_eq_ok

def addCard (col : Collection) (c : Card) : Collection := { col with cards := col.cards.insert c }

def addReview (col : Collection) (r : Review) : Collection :=
  { col with reviews := col.reviews.insert r }

def notesOf (col : Collection) (ids : List Int) : List Note :=
  col.notes.rows.filter fun n => ids.contains n.id

theorem mem_notesOf {col : Collection} {ids : List Int} {n : Note} :
    n ∈ col.notesOf ids ↔ n ∈ col.notes.rows ∧ n.id ∈ ids := by
  simp [notesOf]

def notesWithChecksum (col : Collection) (noteType checksum : Int) : List Note :=
  col.notes.rows.filter fun n => n.noteType == noteType && n.checksum == checksum

end Collection

structure Context where
  noteTypes : List NoteType
  decks : Decks
  schedule : Schedule
  config : Config
  usn : Int

end CardQuery
