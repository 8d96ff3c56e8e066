import CardQuery.Predicate.Builder
import CardQuery.Proofs.Boolean.Written

/-!
Terms that are formulas themselves. Where such a term is written out as one operand, the whole is read
as if the term were put in place afterwards.
-/

namespace CardQuery

namespace Formula

variable {α β : Type}

def bind (φ : α → Formula β) : Formula α → Formula β
  | term a => φ a
  | not f => not (f.bind φ)
  | and f g => and (f.bind φ) (g.bind φ)
  | or f g => or (f.bind φ) (g.bind φ)

theorem holds?_bind (φ : α → Formula β) (test : β → Option Bool) (f : Formula α) :
    (f.bind φ).holds? test = f.holds? fun a => (φ a).holds? test := by
  induction f with
  | term a => rfl
  | not f ih => simp only [bind, holds?, ih]
  | and f g ihf ihg => simp only [bind, holds?, ihf, ihg]
  | or f g ihf ihg => simp only [bind, holds?, ihf, ihg]

def Before.bind (φ : α → Formula β) (b : Before α) : Before β :=
  ⟨b.alternatives.map (Formula.bind φ), b.conjunction.map (Formula.bind φ), b.negations⟩

variable (φ : α → Formula β)

lemma bind_negate (n : ℕ) (f : Formula α) : (negate n f).bind φ = negate n (f.bind φ) := by
  induction n with
  | zero => rfl
  | succ n ih => simp only [negate, bind, ih]

lemma bind_conjoin (b : Before α) (f : Formula α) :
    (b.conjoin f).bind φ = (b.bind φ).conjoin (f.bind φ) := by
  obtain ⟨_, conjunction, _⟩ := b
  cases conjunction <;> rfl

lemma bind_complete (b : Before α) (f : Formula α) :
    (b.complete f).bind φ = (b.bind φ).complete (f.bind φ) := by
  obtain ⟨alternatives, conjunction, _⟩ := b
  cases alternatives <;> cases conjunction <;> rfl

variable {φ} {pieces : α → List (Piece β)}

lemma Written.read?_some {ps : List (Piece α)} {f : Formula α} (h : Written .unit ps f)
    (outer : List (Before α)) (b : Before α) (g : Formula α) (rest : List (Piece α)) :
    read? outer b (some g) (ps ++ rest) = none := by
  cases h <;> rfl

lemma read?_expand (hφ : ∀ a, Written .unit (pieces a) (φ a)) (ps : List (Piece α))
    (outer : List (Before α)) (b : Before α) (operand : Option (Formula α)) :
    read? (outer.map (Before.bind φ)) (b.bind φ) (operand.map (bind φ))
        (ps.flatMap (Piece.expand pieces)) =
      (read? outer b operand ps).map (bind φ) := by
  induction ps generalizing outer b operand with
  | nil =>
    cases operand <;> cases outer <;> simp [read?, bind_complete]
  | cons p ps ih =>
    cases operand with
    | none =>
      cases p with
      | term a =>
        -- the reader goes through the term written out and comes back with one operand
        have hu := (hφ a).read (outer.map (Before.bind φ)) (b.bind φ)
          (ps.flatMap (Piece.expand pieces))
        have hr := ih outer b (some (negate b.negations (.term a)))
        simp only [Option.map_some, bind_negate, bind] at hr
        simpa only [List.flatMap_cons, Piece.expand, Option.map_none, read?] using hu.trans hr
      | not => exact ih outer { b with negations := b.negations + 1 } none
      | opening => exact ih (b :: outer) .start none
      | _ => rfl
    | some f =>
      cases p with
      | and =>
        show read? _ ⟨_, some ((b.bind φ).conjoin (f.bind φ)), 0⟩ none _ = _
        rw [← bind_conjoin]
        exact ih outer ⟨b.alternatives, some (b.conjoin f), 0⟩ none
      | or =>
        show read? _ ⟨some ((b.bind φ).complete (f.bind φ)), none, 0⟩ none _ = _
        rw [← bind_complete]
        exact ih outer ⟨some (b.complete f), none, 0⟩ none
      | closing =>
        cases outer with
        | nil => rfl
        | cons o outer =>
          have hr := ih outer o (some (negate o.negations (b.complete f)))
          simp only [Option.map_some, bind_negate, bind_complete] at hr
          exact hr
      | term a => exact (hφ a).read?_some ..
      | _ => rfl

theorem ofPieces?_expand (hφ : ∀ a, Written .unit (pieces a) (φ a)) (ps : List (Piece α)) :
    ofPieces? (ps.flatMap (Piece.expand pieces)) = (ofPieces? ps).map (bind φ) :=
  read?_expand hφ ps [] .start none

end Formula

end CardQuery
