import CardQuery.Proofs.Boolean.Nesting
import Mathlib.Data.List.Forall2

namespace CardQuery

namespace Formula

variable {α : Type} (test : α → Option Bool)

def verdict? (ps : List (Piece α)) : Option (Option Bool) := (ofPieces? ps).map (holds? test)

def answer? (ps : List (Piece α)) : Option (Option Bool) :=
  if ps.isEmpty then some (some true) else verdict? test ps

structure Before.Alike (b b' : Before α) : Prop where
  alternatives : b.alternatives.map (holds? test) = b'.alternatives.map (holds? test)
  conjoin : ∀ f f', f.holds? test = f'.holds? test →
    (b.conjoin f).holds? test = (b'.conjoin f').holds? test
  negations : b.negations = b'.negations

variable {test}

variable {f f' g g' : Formula α}

lemma holds?_and (hf : f.holds? test = f'.holds? test) (hg : g.holds? test = g'.holds? test) :
    (and f g).holds? test = (and f' g').holds? test := by
  simp only [holds?, hf, hg]

lemma holds?_or (hf : f.holds? test = f'.holds? test) (hg : g.holds? test = g'.holds? test) :
    (or f g).holds? test = (or f' g').holds? test := by
  simp only [holds?, hf, hg]

lemma holds?_negate (n : ℕ) (hf : f.holds? test = f'.holds? test) :
    (negate n f).holds? test = (negate n f').holds? test := by
  induction n with
  | zero => exact hf
  | succ n ih => simp only [negate, holds?, ih]

variable {b b' : Before α}

lemma holds?_complete
    (halternatives : b.alternatives.map (holds? test) = b'.alternatives.map (holds? test))
    (hconjoin : (b.conjoin f).holds? test = (b'.conjoin f').holds? test) :
    (b.complete f).holds? test = (b'.complete f').holds? test := by
  simp only [Before.complete]
  generalize b.alternatives = x, b'.alternatives = x' at halternatives
  cases x with
  | none =>
    cases x' with
    | none => exact hconjoin
    | some a' => cases halternatives
  | some a =>
    cases x' with
    | none => cases halternatives
    | some a' => exact holds?_or (Option.some_inj.mp halternatives) hconjoin

namespace Before.Alike

lemma refl (b : Before α) : b.Alike test b := by
  refine ⟨rfl, ?_, rfl⟩
  intro f f' hf
  obtain ⟨_, conjunction, _⟩ := b
  cases conjunction with
  | none => exact hf
  | some c => exact holds?_and rfl hf

lemma negate (h : b.Alike test b') :
    Alike test { b with negations := b.negations + 1 } { b' with negations := b'.negations + 1 } :=
  ⟨h.alternatives, h.conjoin, congrArg (· + 1) h.negations⟩

lemma and (halternatives : b.alternatives.map (holds? test) = b'.alternatives.map (holds? test))
    (hconjoin : (b.conjoin f).holds? test = (b'.conjoin f').holds? test) :
    Alike test ⟨b.alternatives, some (b.conjoin f), 0⟩ ⟨b'.alternatives, some (b'.conjoin f'), 0⟩ :=
  ⟨halternatives, fun _ _ hg => holds?_and hconjoin hg, rfl⟩

lemma or (hcomplete : (b.complete f).holds? test = (b'.complete f').holds? test) :
    Alike test ⟨some (b.complete f), none, 0⟩ ⟨some (b'.complete f'), none, 0⟩ :=
  ⟨congrArg some hcomplete, fun _ _ hg => hg, rfl⟩

end Before.Alike

lemma read?_alike {outer outer' : List (Before α)} {operand operand' : Option (Formula α)}
    (houter : List.Forall₂ (Before.Alike test) outer outer') (h : b.Alike test b')
    (hoperand : operand.map (holds? test) = operand'.map (holds? test)) (ps : List (Piece α)) :
    (read? outer b operand ps).map (holds? test) = (read? outer' b' operand' ps).map (holds? test) := by
  induction ps generalizing outer outer' b b' operand operand' with
  | nil =>
    cases houter with
    | cons => rfl
    | nil =>
      cases operand with
      | none =>
        cases operand' with
        | none => rfl
        | some f' => cases hoperand
      | some f =>
        cases operand' with
        | none => cases hoperand
        | some f' =>
          have hconjoin := h.conjoin f f' (Option.some_inj.mp hoperand)
          exact congrArg some (holds?_complete h.alternatives hconjoin)
  | cons p ps ih =>
    cases operand with
    | none =>
      cases operand' with
      | some f' => cases hoperand
      | none =>
        cases p with
        | term a =>
          simp only [read?, h.negations]
          exact ih houter h rfl
        | not => exact ih houter h.negate rfl
        | opening => exact ih (.cons h houter) (.refl .start) rfl
        | _ => rfl
    | some f =>
      cases operand' with
      | none => cases hoperand
      | some f' =>
        have hconjoin := h.conjoin f f' (Option.some_inj.mp hoperand)
        have hcomplete := holds?_complete h.alternatives hconjoin
        cases p with
        | and => exact ih houter (.and h.alternatives hconjoin) rfl
        | or => exact ih houter (.or hcomplete) rfl
        | closing =>
          cases houter with
          | nil => rfl
          | cons ho houter =>
            simp only [read?, ho.negations]
            exact ih houter ho (congrArg some (holds?_negate _ hcomplete))
        | _ => rfl

lemma read?_complete (outer : List (Before α))
    (halternatives : b.alternatives.map (holds? test) = b'.alternatives.map (holds? test))
    (hconjoin : (b.conjoin f).holds? test = (b'.conjoin f').holds? test) (ps : List (Piece α)) :
    (read? outer b (some f) ps).map (holds? test) = (read? outer b' (some f') ps).map (holds? test) := by
  have hcomplete := holds?_complete halternatives hconjoin
  have houter : List.Forall₂ (Before.Alike test) outer outer :=
    List.forall₂_same.mpr fun o _ => .refl o
  cases ps with
  | nil =>
    cases outer with
    | nil => exact congrArg some hcomplete
    | cons => rfl
  | cons p ps =>
    cases p with
    | and => exact read?_alike houter (.and halternatives hconjoin) rfl ps
    | or => exact read?_alike houter (.or hcomplete) rfl ps
    | closing =>
      cases houter with
      | nil => rfl
      | @cons o _ _ _ ho houter =>
        have hnegate : (some (negate o.negations (b.complete f))).map (holds? test) =
            (some (negate o.negations (b'.complete f'))).map (holds? test) :=
          congrArg some (holds?_negate o.negations hcomplete)
        exact read?_alike houter ho hnegate ps
    | _ => rfl

section Passing

variable {a : α} (ha : test a = some true)
include ha

lemma holds?_and_passing (f : Formula α) : (and f (.term a)).holds? test = f.holds? test := by
  simp only [holds?]
  split
  · next hf => rw [hf, ha]
  · rfl

lemma read?_behind (outer : List (Before α)) (b : Before α) (f : Formula α) (ps : List (Piece α)) :
    (read? outer b (some f) (.and :: .term a :: ps)).map (holds? test) =
      (read? outer b (some f) ps).map (holds? test) := by
  have hconjoin : (Before.conjoin ⟨b.alternatives, some (b.conjoin f), 0⟩ (.term a)).holds? test =
      (b.conjoin f).holds? test := holds?_and_passing ha (b.conjoin f)
  apply read?_complete outer _ hconjoin
  rfl

lemma read?_before (outer : List (Before α)) (hb : b.negations = 0) (ps : List (Piece α)) :
    (read? outer b none (.term a :: .and :: ps)).map (holds? test) =
      (read? outer b none ps).map (holds? test) := by
  have halike : Before.Alike test ⟨b.alternatives, some (b.conjoin (.term a)), 0⟩ b := by
    refine ⟨rfl, ?_, hb.symm⟩
    intro f f' hf
    obtain ⟨_, conjunction, _⟩ := b
    cases conjunction with
    | none => simp only [Before.conjoin, join, holds?, ha, hf]
    | some c => exact holds?_and (holds?_and_passing ha c) hf
  simp only [read?, hb, negate]
  exact read?_alike (List.forall₂_same.mpr fun o _ => .refl o) halike rfl ps

end Passing

def Unreadable (ps : List (Piece α)) : Prop := ∀ rest, ofPieces? (ps ++ rest) = none

def Leads (ps : List (Piece α)) (outer : List (Before α)) (b : Before α)
    (operand : Option (Formula α)) : Prop :=
  ∀ rest, ofPieces? (ps ++ rest) = read? outer b operand rest

def Ended (ps : List (Piece α)) : Prop :=
  Unreadable ps ∨ ∃ outer b f, Leads ps outer b (some f)

def Expects (ps : List (Piece α)) : Prop :=
  Unreadable ps ∨ ∃ outer b, b.negations = 0 ∧ Leads ps outer b none

lemma unreadable_or_leads (ps : List (Piece α)) :
    Unreadable ps ∨ ∃ outer b operand, Leads ps outer b operand := by
  suffices ∀ outer b operand, (∀ rest, read? outer b operand (ps ++ rest) = none) ∨
      ∃ outer' b' operand', ∀ rest,
        read? outer b operand (ps ++ rest) = read? outer' b' operand' rest from
    this [] .start none
  induction ps with
  | nil => exact fun outer b operand => Or.inr ⟨outer, b, operand, fun _ => rfl⟩
  | cons p ps ih =>
    intro outer b operand
    cases operand with
    | none =>
      cases p with
      | term a => exact ih ..
      | not => exact ih ..
      | opening => exact ih ..
      | _ => exact Or.inl fun _ => rfl
    | some f =>
      cases p with
      | and => exact ih ..
      | or => exact ih ..
      | closing =>
        cases outer with
        | nil => exact Or.inl fun _ => rfl
        | cons o outer => exact ih ..
      | _ => exact Or.inl fun _ => rfl

variable {ps : List (Piece α)}

lemma Unreadable.append (h : Unreadable ps) (qs : List (Piece α)) : Unreadable (ps ++ qs) := by
  intro rest
  rw [List.append_assoc]
  exact h _

lemma Leads.append {outer : List (Before α)} {operand : Option (Formula α)}
    (h : Leads ps outer b operand) (p : Piece α) (rest : List (Piece α)) :
    ofPieces? (ps ++ [p] ++ rest) = read? outer b operand (p :: rest) := by
  rw [List.append_assoc]
  exact h _

lemma ended_term (ps : List (Piece α)) (a : α) : Ended (ps ++ [.term a]) := by
  rcases unreadable_or_leads ps with hdead | ⟨outer, b, operand, hleads⟩
  · exact Or.inl (hdead.append _)
  · cases operand with
    | none => exact Or.inr ⟨outer, b, _, hleads.append _⟩
    | some f => exact Or.inl (hleads.append _)

lemma ended_closing (ps : List (Piece α)) : Ended (ps ++ [.closing]) := by
  rcases unreadable_or_leads ps with hdead | ⟨outer, b, operand, hleads⟩
  · exact Or.inl (hdead.append _)
  · cases operand with
    | none => exact Or.inl (hleads.append _)
    | some f =>
      cases outer with
      | nil => exact Or.inl (hleads.append _)
      | cons o outer => exact Or.inr ⟨outer, o, _, hleads.append _⟩

lemma expects_opening (ps : List (Piece α)) : Expects (ps ++ [.opening]) := by
  rcases unreadable_or_leads ps with hdead | ⟨outer, b, operand, hleads⟩
  · exact Or.inl (hdead.append _)
  · cases operand with
    | none => exact Or.inr ⟨_, .start, rfl, hleads.append _⟩
    | some f => exact Or.inl (hleads.append _)

lemma Ended.expects (h : Ended ps) {p : Piece α} (hp : p = .and ∨ p = .or) : Expects (ps ++ [p]) := by
  rcases h with hdead | ⟨outer, b, f, hleads⟩
  · exact Or.inl (hdead.append _)
  · rcases hp with rfl | rfl
    · exact Or.inr ⟨outer, ⟨_, some _, 0⟩, rfl, hleads.append _⟩
    · exact Or.inr ⟨outer, ⟨some _, none, 0⟩, rfl, hleads.append _⟩

lemma Ended.verdict? (h : Ended ps) {a : α} (ha : test a = some true) (rest : List (Piece α)) :
    verdict? test (ps ++ .and :: .term a :: rest) = verdict? test (ps ++ rest) := by
  rcases h with hdead | ⟨outer, b, f, hleads⟩
  · rw [Formula.verdict?, Formula.verdict?, hdead, hdead]
  · rw [Formula.verdict?, Formula.verdict?, hleads, hleads]
    exact read?_behind ha outer b f rest

lemma Expects.verdict? (h : Expects ps) {a : α} (ha : test a = some true) (rest : List (Piece α)) :
    verdict? test (ps ++ .term a :: .and :: rest) = verdict? test (ps ++ rest) := by
  rcases h with hdead | ⟨outer, b, hb, hleads⟩
  · rw [Formula.verdict?, Formula.verdict?, hdead, hdead]
  · rw [Formula.verdict?, Formula.verdict?, hleads, hleads]
    exact read?_before ha outer hb rest

structure Before.Passes (test : α → Option Bool) (b : Before α) : Prop where
  alternatives : ∀ f ∈ b.alternatives, f.holds? test = some true
  conjunction : ∀ f ∈ b.conjunction, f.holds? test = some true
  negations : b.negations = 0

namespace Before.Passes

lemma conjoin (h : b.Passes test) (hf : f.holds? test = some true) :
    (b.conjoin f).holds? test = some true := by
  obtain ⟨_, conjunction, _⟩ := b
  cases conjunction with
  | none => exact hf
  | some c =>
    have hc : c.holds? test = some true := h.conjunction c rfl
    simp only [Before.conjoin, join, holds?, hc, hf]

lemma complete (h : b.Passes test) (hf : f.holds? test = some true) :
    (b.complete f).holds? test = some true := by
  have hconjoin := h.conjoin hf
  obtain ⟨alternatives, _, _⟩ := b
  cases alternatives with
  | none => exact hconjoin
  | some g =>
    have hg : g.holds? test = some true := h.alternatives g rfl
    simp only [Before.complete, join, holds?, hg]

end Before.Passes

def Passes (test : α → Option Bool) (ps : List (Piece α)) : Prop :=
  ∃ b f, b.Passes test ∧ f.holds? test = some true ∧ Leads ps [] b (some f)

lemma Passes.verdict? (h : Passes test ps) : verdict? test ps = some (some true) := by
  obtain ⟨b, f, hb, hf, hleads⟩ := h
  have hread := hleads []
  rw [List.append_nil] at hread
  rw [Formula.verdict?, hread]
  exact congrArg some (hb.complete hf)

lemma passes_term {a : α} (ha : test a = some true) : Passes test [.term a] :=
  ⟨.start, .term a, ⟨by simp [Before.start], by simp [Before.start], rfl⟩, ha, fun _ => rfl⟩

lemma Passes.append (h : Passes test ps) {a : α} (ha : test a = some true) {p : Piece α}
    (hp : p = .and ∨ p = .or) : Passes test (ps ++ [p, .term a]) := by
  obtain ⟨b, f, hb, hf, hleads⟩ := h
  have hread (rest : List (Piece α)) :
      ofPieces? (ps ++ [p, .term a] ++ rest) = read? [] b (some f) (p :: .term a :: rest) := by
    rw [List.append_assoc]
    exact hleads _
  rcases hp with rfl | rfl
  · refine ⟨⟨b.alternatives, some (b.conjoin f), 0⟩, .term a, ⟨hb.alternatives, ?_, rfl⟩, ha, hread⟩
    rintro _ ⟨⟩
    exact hb.conjoin hf
  · refine ⟨⟨some (b.complete f), none, 0⟩, .term a, ⟨?_, by simp, rfl⟩, ha, hread⟩
    rintro _ ⟨⟩
    exact hb.complete hf

end Formula

end CardQuery
