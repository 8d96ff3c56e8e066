import CardQuery.Proofs.Boolean.Expansion

/-!
Pieces in which the parentheses nest. In parentheses they are read as one operand, whatever stands
around them.
-/

namespace CardQuery

namespace Piece

variable {α : Type}

def nested (depth : ℕ) : List (Piece α) → Bool
  | [] => depth == 0
  | opening :: ps => nested (depth + 1) ps
  | closing :: ps => match depth with
    | 0 => false
    | depth + 1 => nested depth ps
  | _ :: ps => nested depth ps

lemma nested_append_opening (depth : ℕ) (ps : List (Piece α)) :
    nested depth (ps ++ [opening]) = false := by
  induction ps generalizing depth with
  | nil => simp [nested]
  | cons p ps ih =>
    cases p with
    | closing => cases depth <;> simp [nested, ih]
    | _ => simp [nested, ih]

lemma nested_map {β : Type} (g : α → β) (depth : ℕ) (ps : List (Piece α)) :
    nested depth (ps.map (map g)) = nested depth ps := by
  induction ps generalizing depth with
  | nil => rfl
  | cons p ps ih =>
    cases p with
    | closing => cases depth <;> simp [map, nested, ih]
    | _ => simp [map, nested, ih]

lemma expand_singleton {β : Type} (g : α → β) (ps : List (Piece α)) :
    ps.flatMap (expand fun a => [term (g a)]) = ps.map (map g) := by
  induction ps with
  | nil => rfl
  | cons p ps ih =>
    rw [List.flatMap_cons, List.map_cons, ih]
    cases p <;> rfl

lemma exists_map_val {p : α → Prop} (ps : List (Piece α)) (h : ∀ a, .term a ∈ ps → p a) :
    ∃ qs : List (Piece {a // p a}), qs.map (map Subtype.val) = ps := by
  induction ps with
  | nil => exact ⟨[], rfl⟩
  | cons x ps ih =>
    obtain ⟨qs, rfl⟩ := ih fun a ha => h a (List.mem_cons_of_mem _ ha)
    cases x with
    | term a => exact ⟨.term ⟨a, h a (by simp)⟩ :: qs, rfl⟩
    | opening => exact ⟨.opening :: qs, rfl⟩
    | closing => exact ⟨.closing :: qs, rfl⟩
    | and => exact ⟨.and :: qs, rfl⟩
    | or => exact ⟨.or :: qs, rfl⟩
    | not => exact ⟨.not :: qs, rfl⟩

end Piece

namespace Formula

open Piece (nested)

variable {α β : Type}

theorem ofPieces?_map (g : α → β) (ps : List (Piece α)) :
    ofPieces? (ps.map (Piece.map g)) = (ofPieces? ps).map (map g) := by
  have hbind (f : Formula α) : f.bind (fun a => .term (g a)) = f.map g := by
    induction f <;> simp_all [bind, map]
  rw [← Piece.expand_singleton, ofPieces?_expand fun a => Written.term (g a)]
  exact Option.map_congr fun f _ => hbind f

theorem holds?_map (g : α → β) (test : β → Option Bool) (f : Formula α) :
    (f.map g).holds? test = f.holds? fun a => test (g a) := by
  induction f with
  | term a => rfl
  | not f ih => simp only [map, holds?, ih]
  | and f h ihf ihh => simp only [map, holds?, ihf, ihh]
  | or f h ihf ihh => simp only [map, holds?, ihf, ihh]

lemma mem_of_ofPieces? {ps : List (Piece α)} {f : Formula α} (h : ofPieces? ps = some f) {a : α}
    (ha : a ∈ f.terms) : .term a ∈ ps := by
  obtain ⟨qs, hqs⟩ := Piece.exists_map_val ps fun a ha => ha
  rw [← hqs, ofPieces?_map] at h
  obtain ⟨g, -, rfl⟩ := Option.map_eq_some_iff.mp h
  rw [terms_map] at ha
  obtain ⟨⟨a, hmem⟩, -, rfl⟩ := List.mem_map.mp ha
  exact hmem

lemma read?_nested {ps : List (Piece α)} {outer : List (Before α)} (h : nested outer.length ps)
    (b : Before α) (operand : Option (Formula α)) (o : Before α) (base : List (Before α))
    (rest : List (Piece α)) :
    read? (outer ++ o :: base) b operand (ps ++ .closing :: rest) =
      (read? outer b operand ps).bind fun f =>
        read? base o (some (negate o.negations f)) rest := by
  induction ps generalizing outer b operand with
  | nil =>
    obtain rfl : outer = [] := by simpa [nested] using h
    cases operand <;> rfl
  | cons p ps ih =>
    cases operand with
    | none =>
      cases p with
      | term a => exact ih h b _
      | not => exact ih h _ none
      | opening => exact @ih (b :: outer) h .start none
      | _ => rfl
    | some f =>
      cases p with
      | and => exact ih h _ none
      | or => exact ih h _ none
      | closing =>
        cases outer with
        | nil => simp [nested] at h
        | cons o' outer => exact @ih outer h o' _
      | _ => rfl

lemma read?_enclose {ps : List (Piece α)} (h : nested 0 ps) (outer : List (Before α)) (b : Before α)
    (rest : List (Piece α)) :
    read? outer b none (Piece.enclose ps ++ rest) =
      (ofPieces? ps).bind fun f => read? outer b (some (negate b.negations f)) rest := by
  have hread := @read?_nested α ps [] h .start none b outer rest
  simpa [Piece.enclose, read?, ofPieces?] using hread

lemma nested_of_read? {ps : List (Piece α)} {outer : List (Before α)} {b : Before α}
    {operand : Option (Formula α)} {f : Formula α} (h : read? outer b operand ps = some f) :
    nested outer.length ps := by
  induction ps generalizing outer b operand with
  | nil =>
    cases outer with
    | nil => rfl
    | cons o outer => simp [read?] at h
  | cons p ps ih =>
    cases operand with
    | none =>
      cases p with
      | opening => exact @ih (b :: outer) _ _ h
      | term a => exact ih h
      | not => exact ih h
      | _ => cases h
    | some g =>
      cases p with
      | and => exact ih h
      | or => exact ih h
      | closing =>
        cases outer with
        | nil => cases h
        | cons o outer => exact @ih outer _ _ h
      | _ => cases h

def Dead (ps : List (Piece α)) : Prop :=
  ∀ outer b operand rest, read? outer b operand (ps ++ rest) = none

lemma dead_empty_group : Dead [.opening, (.closing : Piece α)] := by
  intro outer b operand rest
  cases operand <;> rfl

lemma Dead.prepend {qs : List (Piece α)} (h : Dead qs) (ps : List (Piece α)) : Dead (ps ++ qs) := by
  intro outer b operand rest
  induction ps generalizing outer b operand with
  | nil => exact h ..
  | cons p ps ih =>
    cases operand with
    | none =>
      cases p with
      | term a => exact ih ..
      | not => exact ih ..
      | opening => exact ih ..
      | _ => rfl
    | some f =>
      cases p with
      | and => exact ih ..
      | or => exact ih ..
      | closing =>
        cases outer with
        | nil => rfl
        | cons o outer => exact ih ..
      | _ => rfl

lemma read?_through {ps : List (Piece α)} {outer : List (Before α)} (h : nested outer.length ps)
    (b : Before α) (operand : Option (Formula α)) :
    (∀ rest, read? outer b operand (ps ++ rest) = none) ∨ ∃ b' operand', ∀ rest,
      read? outer b operand (ps ++ rest) = read? [] b' operand' rest := by
  induction ps generalizing outer b operand with
  | nil =>
    obtain rfl : outer = [] := by simpa [nested] using h
    exact Or.inr ⟨b, operand, fun _ => rfl⟩
  | cons p ps ih =>
    cases operand with
    | none =>
      cases p with
      | term a => exact ih h b _
      | not => exact ih h _ none
      | opening => exact @ih (b :: outer) h .start none
      | _ => exact Or.inl fun _ => rfl
    | some f =>
      cases p with
      | and => exact ih h _ none
      | or => exact ih h _ none
      | closing =>
        cases outer with
        | nil => simp [nested] at h
        | cons o outer => exact @ih outer h o _
      | _ => exact Or.inl fun _ => rfl

end Formula

end CardQuery
