import CardQuery.Proofs.Search.Statement
import Mathlib.Data.List.Infix

/-!
The rows that a statement goes through. The cards are taken without their notes only where no
condition of the predicate looks at a note, and then the note of a row makes no difference.
-/

namespace CardQuery

lemma Text.contains_iff {part s : List Char} : Text.contains part s ↔ part <:+: s := by
  induction s with
  | nil => simp [Text.contains]
  | cons c s ih => rw [Text.contains, Bool.or_eq_true, ih, List.infix_cons_iff, List.isPrefixOf_iff_prefix]

namespace Atom

def ofNote : Atom → Bool
  | ownNote => true
  | ofType _ => true
  | noteTypes _ => true
  | noteType _ => true
  | notes _ => true
  | untagged => true
  | tagsLike => true
  | sortTextLike => true
  | blobLike => true
  | _ => false

lemma infix_of_ofNote {a : Atom} (h : a.ofNote) : ['n', '.'] <:+: a.text.toList := by
  have happend {s : String} (hs : ['n', '.'] <:+: s.toList) (t : String) :
      ['n', '.'] <:+: (s ++ t).toList := by
    rw [String.toList_append]
    exact hs.trans (List.prefix_append ..).isInfix
  cases a with
  | ownNote => decide
  | ofType id => exact happend (by decide) (toString id)
  | noteTypes ids => exact happend (happend (by decide) " in ") (idList ids)
  | noteType id => exact happend (by decide) (String.ofList id.chars)
  | notes ids => exact happend (happend (by decide) " in ") (idList ids)
  | untagged => decide
  | tagsLike => decide
  | sortTextLike => decide
  | blobLike => decide
  | _ => cases h

lemma holds?_card {a : Atom} (h : a.ofNote = false) (reviews : List Review) (c : Card)
    (values : List String) : ∃ v, ∀ note, a.holds? reviews ⟨c, note⟩ values = some v := by
  have hnone : (a.holds? reviews ⟨c, none⟩ values).isSome ∧
      ∀ note, a.holds? reviews ⟨c, note⟩ values = a.holds? reviews ⟨c, none⟩ values := by
    cases a with
    | ownNote => cases h
    | ofType id => cases h
    | noteTypes ids => cases h
    | noteType id => cases h
    | notes ids => cases h
    | untagged => cases h
    | tagsLike => cases h
    | sortTextLike => cases h
    | blobLike => cases h
    | _ => exact ⟨rfl, fun _ => rfl⟩
  obtain ⟨v, hv⟩ := Option.isSome_iff_exists.mp hnone.1
  exact ⟨v, fun note => (hnone.2 note).trans hv⟩

end Atom

def Bound.ofNote (b : Bound) : Prop := ∃ a, .term a ∈ b.condition.pieces ∧ a.ofNote

lemma Bound.holds?_card {b : Bound} (h : ¬ b.ofNote) (reviews : List Review) (c : Card) :
    ∃ v, ∀ note, b.holds? reviews ⟨c, note⟩ = some v := by
  obtain ⟨f, hf⟩ := b.written
  have hread := Formula.ofPieces?_written hf
  have hterms : ∀ t ∈ f.terms, ∃ v, ∀ note, t.holds? reviews ⟨c, note⟩ = some v := by
    intro t ht
    have hpieces : .term t ∈ Test.bind b.values b.condition.pieces :=
      Formula.mem_of_ofPieces? hread ht
    have hatom : .term t.atom ∈ b.condition.pieces := by
      rw [← Test.map_bind b.values b.condition.pieces]
      exact List.mem_map.mpr ⟨_, hpieces, rfl⟩
    have hplain : t.atom.ofNote = false := by
      rw [← Bool.not_eq_true]
      intro hnote
      exact h ⟨t.atom, hatom, hnote⟩
    exact Atom.holds?_card hplain reviews c t.values
  obtain ⟨v, hv⟩ := Formula.holds?_uniform hterms
  refine ⟨v, ?_⟩
  intro note
  simp only [Bound.holds?, hread, Option.bind_some]
  exact hv note

namespace Statement

lemma scope_of_ofNote {bs : List (Piece Bound)} {b : Bound} (hb : .term b ∈ bs) (h : b.ofNote)
    (order : String) : Projection.cards.scope (Predicate.ofBound bs).text order = .cardsWithNotes := by
  obtain ⟨a, ha, hnote⟩ := h
  have hatom : .term a ∈ (Predicate.ofBound bs).atoms := by
    refine List.mem_flatMap.mpr ⟨.term b.condition, List.mem_map.mpr ⟨_, hb, rfl⟩, ?_⟩
    simp [Piece.expand, Piece.enclose, ha]
  have hpieces : (Predicate.ofBound bs).text.toList =
      ((Predicate.ofBound bs).atoms.map fun p => (p.text Atom.text).toList).flatten := by
    simp [Predicate.text, Piece.textOf, List.flatMap_def, Function.comp_def]
  have htext : Text.contains ['n', '.'] (Predicate.ofBound bs).text.toList := by
    rw [Text.contains_iff, hpieces]
    have hinfix : ['n', '.'] <:+: ((Piece.term a).text Atom.text).toList := Atom.infix_of_ofNote hnote
    exact hinfix.trans (List.infix_of_mem_flatten (List.mem_map_of_mem hatom))
  simp [Projection.scope, htext]

lemma scope_of_notes {bs : List (Piece Bound)} {ids : List Int} {values : List String}
    (h : .term ⟨.notes ids, values⟩ ∈ bs) (order : String) :
    Projection.cards.scope (Predicate.ofBound bs).text order = .cardsWithNotes :=
  scope_of_ofNote h ⟨.notes ids, List.mem_singleton.mpr rfl, rfl⟩ order

end Statement

end CardQuery
