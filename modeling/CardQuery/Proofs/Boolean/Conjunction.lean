import CardQuery.Proofs.Boolean.Nesting

namespace CardQuery

def Piece.conjoined {α : Type} (depth : ℕ) : List (Piece α) → Bool
  | [] => true
  | .opening :: ps => conjoined (depth + 1) ps
  | .closing :: ps => conjoined (depth - 1) ps
  | .or :: ps => depth != 0 && conjoined depth ps
  | _ :: ps => conjoined depth ps

namespace Formula

open Piece (nested conjoined)

variable {α : Type}

def Equivalent (f g : Formula α) : Prop := ∀ p, f.Holds p ↔ g.Holds p

structure Gains (g : Formula α) (b b' : Before α) : Prop where
  alternatives : b'.alternatives = b.alternatives
  negations : b'.negations = b.negations
  conjunction : ∀ f p, (b'.conjoin f).Holds p ↔ (b.conjoin f).Holds p ∧ g.Holds p

lemma gains_conjoin (b : Before α) (g : Formula α) (hb : b.negations = 0) :
    Gains g b ⟨b.alternatives, some (b.conjoin g), 0⟩ := by
  refine ⟨rfl, hb.symm, fun f p => ?_⟩
  obtain ⟨_, conjunction, _⟩ := b
  cases conjunction with
  | none => simp [Before.conjoin, join, Holds, and_comm]
  | some c => simp [Before.conjoin, join, Holds, and_right_comm]

lemma Gains.negate {g : Formula α} {b b' : Before α} (h : Gains g b b') :
    Gains g { b with negations := b.negations + 1 } { b' with negations := b'.negations + 1 } :=
  ⟨h.alternatives, congrArg (· + 1) h.negations, h.conjunction⟩

lemma Gains.conjoin {g : Formula α} {b b' : Before α} (h : Gains g b b') (f : Formula α) :
    Gains g ⟨b.alternatives, some (b.conjoin f), 0⟩ ⟨b'.alternatives, some (b'.conjoin f), 0⟩ := by
  refine ⟨h.alternatives, rfl, fun f' p => ?_⟩
  have hf := h.conjunction f p
  simp only [Before.conjoin, join, Holds] at hf ⊢
  rw [hf]
  exact and_right_comm

lemma holds_complete (b : Before α) (f : Formula α) (p : α → Prop) :
    (b.complete f).Holds p ↔ (∃ a ∈ b.alternatives, a.Holds p) ∨ (b.conjoin f).Holds p := by
  obtain ⟨alternatives, _, _⟩ := b
  cases alternatives <;> simp [Before.complete, join, Holds]

inductive GainsBelow (g : Formula α) :
    List (Before α) → Before α → List (Before α) → Before α → Prop
  | here {b b'} : Gains g b b' → GainsBelow g [] b [] b'
  | inside {outer o outer' o'} (b) : GainsBelow g outer o outer' o' →
      GainsBelow g (o :: outer) b (o' :: outer') b

namespace GainsBelow

variable {g : Formula α} {outer outer' : List (Before α)} {b b' : Before α}

lemma negations (h : GainsBelow g outer b outer' b') : b'.negations = b.negations := by
  cases h with
  | here h => exact h.negations
  | inside => rfl

lemma negate (h : GainsBelow g outer b outer' b') :
    GainsBelow g outer { b with negations := b.negations + 1 } outer'
      { b' with negations := b'.negations + 1 } := by
  cases h with
  | here h => exact .here h.negate
  | inside _ h => exact .inside _ h

lemma conjoin (h : GainsBelow g outer b outer' b') (f : Formula α) :
    GainsBelow g outer ⟨b.alternatives, some (b.conjoin f), 0⟩ outer'
      ⟨b'.alternatives, some (b'.conjoin f), 0⟩ := by
  cases h with
  | here h => exact .here (h.conjoin f)
  | inside _ h => exact .inside _ h

lemma read?_equivalent {a : α} (h : GainsBelow (.term a) outer b outer' b') {ps : List (Piece α)}
    (hn : nested outer.length ps) (hc : conjoined outer.length ps) (operand : Option (Formula α)) :
    Option.Rel Equivalent (read? outer' b' operand ps)
      (read? outer b operand (ps ++ [.and, .term a])) := by
  induction ps generalizing outer b outer' b' operand with
  | nil =>
    cases h with
    | inside => simp [nested] at hn
    | here h =>
      cases operand with
      | none => exact .none
      | some f =>
        apply Option.Rel.some
        intro p
        show (b'.complete f).Holds p ↔ (Before.complete ⟨_, some (b.conjoin f), 0⟩ _).Holds p
        rw [holds_complete, holds_complete, h.alternatives, h.conjunction]
        rfl
  | cons x ps ih =>
    cases operand with
    | none =>
      cases x with
      | term t =>
        simp only [read?, List.cons_append, h.negations]
        exact ih h hn hc _
      | not => exact ih h.negate hn hc none
      | opening => exact ih (.inside .start h) hn hc none
      | _ => exact .none
    | some f =>
      cases x with
      | and => exact ih (h.conjoin f) hn hc none
      | or =>
        cases h with
        | here => simp [conjoined] at hc
        | inside b h => exact ih (.inside _ h) hn (by simpa [conjoined] using hc) none
      | closing =>
        cases h with
        | here => simp [nested] at hn
        | @inside outer o outer' o' b h =>
          simp only [read?, List.cons_append, h.negations]
          exact ih h hn hc _
      | _ => exact .none

end GainsBelow

end Formula

end CardQuery
