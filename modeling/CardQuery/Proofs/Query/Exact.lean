import CardQuery.Proofs.Query.Property
import CardQuery.Proofs.Query.Rated

/-!
The numbers in conditions. A term that reckons with the number it is given asks with the exact result;
if a number on the way does not fit in 64 bits, the term cannot be read.
-/

namespace CardQuery.Query

open Number

/-- `Exact r fits text`: if `fits` holds, the term asks in the words of `text`, and otherwise it cannot
be read. -/
structure Exact (r : Reading Condition) (fits : Prop) (text : String) : Prop where
  read : (∃ c, r = .condition c) ↔ fits
  text : ∀ c, r = .condition c → c.text = text
  invalid : r = .invalid ↔ ¬fits

lemma exact_of_option {o : Option Int} {fits : Prop} {n : Int} (ho : ∀ m, o = some m ↔ fits ∧ n = m)
    (form : Int → Condition) : Exact (ofCondition? (o.map form)) fits (form n).text := by
  cases o with
  | none =>
    have hnot : ¬fits := fun h => by simpa using (ho n).mpr ⟨h, rfl⟩
    exact ⟨iff_of_false (by rintro ⟨c, ⟨⟩⟩) hnot, by rintro c ⟨⟩, iff_of_true rfl hnot⟩
  | some m =>
    obtain ⟨hfits, rfl⟩ := (ho m).mp rfl
    refine ⟨iff_of_true ⟨_, rfl⟩ hfits, ?_, iff_of_false (by rintro ⟨⟩) (not_not_intro hfits)⟩
    rintro c ⟨⟩
    rfl

section Texts

lemma text_createdAfter (millis : Int) :
    (Condition.createdAfter millis).text = "c.id > " ++ toString millis :=
  Piece.textOf_term _ _

def easeText : Option Int → String
  | none => ""
  | some e => " and ease = " ++ toString e

lemma text_reviewedAfter (millis : Int) (ease : Option Int) : (Condition.reviewedAfter millis ease).text =
    "c.id in (select cid from revlog where id > " ++ toString millis ++ easeText ease ++ ")" := by
  rw [Condition.text, Condition.pieces, Piece.textOf_term]
  cases ease <;> rfl

lemma text_ord (n : Int) : (Condition.ord n).text = "c.ord = " ++ toString n :=
  Piece.textOf_term _ _

lemma text_dueDay (rel : Relation) (day : Int) : (Condition.dueDay rel day).text =
    "(c.queue in (2,3)) and (c.due " ++ rel.text ++ " " ++ toString day ++ ")" := by
  have hdays : Atom.dueInDays.text = "c.queue in (2,3)" := rfl
  have hdue : (Atom.due rel day).text = "c.due " ++ rel.text ++ " " ++ toString day := rfl
  simp [Condition.text, Condition.pieces, Piece.textOf, Piece.text, hdays, hdue, ← String.append_assoc]

end Texts

variable {schedule : Schedule} {types : List NoteType} {value : String}

lemma exact_added {n : Int} (h : IsNumeral value.toList n) :
    Exact (added schedule value) (Reaches schedule n) ("c.id > " ++ toString (deadline schedule n)) := by
  rw [added, readText?, read?_eq_some.mpr h, Option.bind_some, ← text_createdAfter]
  exact exact_of_option (fun m => cutoff?_eq_some) _

lemma exact_rated {n : Int} {ease : Option Int} (h : ReadsRated value.toList n ease) :
    Exact (rated schedule value) (Reaches schedule (min n 31))
      ("c.id in (select cid from revlog where id > " ++ toString (deadline schedule (min n 31)) ++
        easeText ease ++ ")") := by
  rw [rated_of_parts h.parts, ← text_reviewedAfter]
  exact exact_of_option (fun m => cutoff?_eq_some) (Condition.reviewedAfter · ease)

lemma property_of_due {name right : List Char} {rel : Relation} (hcut : Cut value.toList name rel right)
    (hname : Text.lower (String.ofList name) = "due") : property schedule value =
      ofCondition? ((read? right).bind fun n => (add? n schedule.today).map (.dueDay rel)) := by
  rw [property_of_cut hcut, hname, if_neg (by decide)]
  rfl

lemma exact_due {rel : Relation} {name right : List Char} {n : Int} (hcut : Cut value.toList name rel right)
    (hname : Text.lower (String.ofList name) = "due") (h : IsNumeral right n) :
    Exact (property schedule value) (inRange (n + schedule.today))
      ("(c.queue in (2,3)) and (c.due " ++ rel.text ++ " " ++ toString (n + schedule.today) ++ ")") := by
  rw [property_of_due hcut hname, read?_eq_some.mpr h, Option.bind_some, ← text_dueDay]
  exact exact_of_option (fun m => checked_eq_some) _

lemma exact_card {n : Int} (h : IsNumeral value.toList n) :
    Exact (template types value) (inRange (n - 1)) ("c.ord = " ++ toString (n - 1)) := by
  have hread : template types value = ofCondition? ((sub? n 1).map .ord) := by
    simp only [template, readText?, read?_eq_some.mpr h]
    cases sub? n 1 <;> rfl
  rw [hread, ← text_ord]
  exact exact_of_option (fun m => checked_eq_some) _

theorem numbers_exact (schedule : Schedule) (types : List NoteType) (value : String) :
    ((∀ n, IsNumeral value.toList n → Exact (added schedule value) (Reaches schedule n)
        ("c.id > " ++ toString (deadline schedule n))) ∧
      ((∀ n, ¬IsNumeral value.toList n) → added schedule value = .invalid)) ∧
    ((∀ n ease, ReadsRated value.toList n ease → Exact (rated schedule value) (Reaches schedule (min n 31))
        ("c.id in (select cid from revlog where id > " ++ toString (deadline schedule (min n 31)) ++
          easeText ease ++ ")")) ∧
      ((∀ n ease, ¬ReadsRated value.toList n ease) → rated schedule value = .invalid)) ∧
    (∀ name rel right, Cut value.toList name rel right → Text.lower (String.ofList name) = "due" →
      (∀ n, IsNumeral right n → Exact (property schedule value) (inRange (n + schedule.today))
        ("(c.queue in (2,3)) and (c.due " ++ rel.text ++ " " ++ toString (n + schedule.today) ++ ")")) ∧
      ((∀ n, ¬IsNumeral right n) → property schedule value = .invalid)) ∧
    (∀ n, IsNumeral value.toList n → Exact (template types value) (inRange (n - 1))
      ("c.ord = " ++ toString (n - 1))) := by
  refine ⟨⟨fun n => exact_added, fun h => ?_⟩, ⟨fun n ease => exact_rated, ?_⟩, ?_, fun n => exact_card⟩
  · rw [added, readText?, read?_eq_none.mpr h]
    rfl
  · intro h
    apply rated_eq_invalid
    intro n ease hreads
    exact absurd hreads (h n ease)
  · intro name rel right hcut hname
    refine ⟨fun n => exact_due hcut hname, fun h => ?_⟩
    rw [property_of_due hcut hname, read?_eq_none.mpr h]
    rfl

end CardQuery.Query
