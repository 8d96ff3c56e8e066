import Mathlib.Tactic.Common
import CardQuery.Predicate.Formula

/-!
The grammar of written formulas, and their meaning. Reading is right for the grammar: whatever formula
was written, it is the one that is read.
-/

namespace CardQuery

inductive Part where
  | alternatives
  | conjunction
  | operand
  | unit

def Piece.map {α β : Type} (g : α → β) : Piece α → Piece β
  | opening => opening
  | closing => closing
  | and => and
  | or => or
  | not => not
  | term a => term (g a)

namespace Formula

variable {α β : Type}

def map (g : α → β) : Formula α → Formula β
  | term a => term (g a)
  | not f => not (f.map g)
  | and f h => and (f.map g) (h.map g)
  | or f h => or (f.map g) (h.map g)

def terms : Formula α → List α
  | term a => [a]
  | not f => f.terms
  | and f g => f.terms ++ g.terms
  | or f g => f.terms ++ g.terms

def Holds (p : α → Prop) : Formula α → Prop
  | term a => p a
  | not f => ¬ f.Holds p
  | and f g => f.Holds p ∧ g.Holds p
  | or f g => f.Holds p ∨ g.Holds p

/-- `Written part ps f`: the pieces `ps` write `f` as a part of that kind. -/
inductive Written : Part → List (Piece α) → Formula α → Prop
  | term (a : α) : Written .unit [.term a] (.term a)
  | group {ps f} : Written .alternatives ps f → Written .unit (.opening :: ps ++ [.closing]) f
  | plain {ps f} : Written .unit ps f → Written .operand ps f
  | negated {ps f} : Written .unit ps f → Written .operand (.not :: ps) (.not f)
  | first {ps f} : Written .operand ps f → Written .conjunction ps f
  | and {ps qs f g} : Written .conjunction ps f → Written .operand qs g →
      Written .conjunction (ps ++ .and :: qs) (.and f g)
  | only {ps f} : Written .conjunction ps f → Written .alternatives ps f
  | or {ps qs f g} : Written .alternatives ps f → Written .conjunction qs g →
      Written .alternatives (ps ++ .or :: qs) (.or f g)

inductive Spells : List (Piece α) → Option (Formula α) → Prop
  | nothing : Spells [] none
  | formula {ps f} : Written .alternatives ps f → Spells ps (some f)

lemma Written.map (g : α → β) {part : Part} {ps : List (Piece α)} {f : Formula α}
    (h : Written part ps f) : Written part (ps.map (Piece.map g)) (f.map g) := by
  induction h with
  | term a => exact .term (g a)
  | group _ ih => simpa [Piece.map] using ih.group
  | plain _ ih => exact ih.plain
  | negated _ ih => exact ih.negated
  | first _ ih => exact ih.first
  | and _ _ hf hg => simpa [Piece.map, Formula.map] using hf.and hg
  | only _ ih => exact ih.only
  | or _ _ hf hg => simpa [Piece.map, Formula.map] using hf.or hg

lemma map_id (f : Formula α) : f.map id = f := by
  induction f <;> simp_all [map]

lemma Written.ne_nil {part : Part} {ps : List (Piece α)} {f : Formula α} (h : Written part ps f) :
    ps ≠ [] := by
  induction h with
  | plain _ ih => exact ih
  | first _ ih => exact ih
  | only _ ih => exact ih
  | _ => simp

lemma read?_negations (outer : List (Before α)) (b : Before α) (n : ℕ) (f : Formula α)
    (ps : List (Piece α)) :
    read? outer { b with negations := n } (some f) ps = read? outer b (some f) ps := by
  cases ps with
  | nil => rfl
  | cons p ps => cases p <;> rfl

def Read (ps : List (Piece α)) (f : Formula α) : Part → Prop
  | .unit => ∀ outer b rest,
      read? outer b none (ps ++ rest) = read? outer b (some (negate b.negations f)) rest
  | .operand => ∀ outer b rest, b.negations = 0 →
      read? outer b none (ps ++ rest) = read? outer b (some f) rest
  | .conjunction => ∀ outer alternatives, ∃ b g, b.alternatives = alternatives ∧ b.conjoin g = f ∧
      ∀ rest, read? outer ⟨alternatives, none, 0⟩ none (ps ++ rest) = read? outer b (some g) rest
  | .alternatives => ∀ outer, ∃ b g, b.complete g = f ∧
      ∀ rest, read? outer .start none (ps ++ rest) = read? outer b (some g) rest

lemma Read.group {ps : List (Piece α)} {f : Formula α} (h : Read ps f .alternatives) :
    Read (.opening :: ps ++ [.closing]) f .unit := by
  intro outer b rest
  obtain ⟨b', g, rfl, hr⟩ := h (b :: outer)
  have hg := hr (.closing :: rest)
  simpa [read?] using hg

lemma Read.negated {ps : List (Piece α)} {f : Formula α} (h : Read ps f .unit) :
    Read (.not :: ps) (.not f) .operand := by
  intro outer b rest hb
  calc read? outer b none (.not :: ps ++ rest)
      = read? outer { b with negations := 1 } none (ps ++ rest) := by simp [read?, hb]
    _ = read? outer { b with negations := 1 } (some (.not f)) rest := h _ _ _
    _ = read? outer b (some (.not f)) rest := read?_negations ..

lemma Read.and {ps qs : List (Piece α)} {f g : Formula α} (hf : Read ps f .conjunction)
    (hg : Read qs g .operand) : Read (ps ++ .and :: qs) (.and f g) .conjunction := by
  intro outer alternatives
  obtain ⟨b, f', hb, rfl, hr⟩ := hf outer alternatives
  refine ⟨⟨alternatives, some (b.conjoin f'), 0⟩, g, rfl, rfl, fun rest => ?_⟩
  rw [List.append_assoc, hr]
  simp only [List.cons_append, read?, hb]
  exact hg outer _ rest rfl

lemma Read.or {ps qs : List (Piece α)} {f g : Formula α} (hf : Read ps f .alternatives)
    (hg : Read qs g .conjunction) : Read (ps ++ .or :: qs) (.or f g) .alternatives := by
  intro outer
  obtain ⟨b, f', rfl, hr⟩ := hf outer
  obtain ⟨b', g', hb, rfl, hr'⟩ := hg outer (some (b.complete f'))
  refine ⟨b', g', by simp [Before.complete, join, hb], fun rest => ?_⟩
  rw [List.append_assoc, hr]
  simpa only [List.cons_append, read?] using hr' rest

lemma Written.read {part : Part} {ps : List (Piece α)} {f : Formula α} (h : Written part ps f) :
    Read ps f part := by
  induction h with
  | term a => exact fun outer b rest => rfl
  | group _ ih => exact ih.group
  | plain _ ih =>
    intro outer b rest hb
    simpa [hb, negate] using ih outer b rest
  | negated _ ih => exact ih.negated
  | first _ ih => exact fun outer alternatives =>
      ⟨⟨alternatives, none, 0⟩, _, rfl, rfl, fun rest => ih outer _ rest rfl⟩
  | and _ _ hf hg => exact hf.and hg
  | only _ ih =>
    intro outer
    obtain ⟨b, g, hb, rfl, hr⟩ := ih outer none
    exact ⟨b, g, by simp [Before.complete, join, hb], hr⟩
  | or _ _ hf hg => exact hf.or hg

theorem ofPieces?_written {ps : List (Piece α)} {f : Formula α} (h : Written .alternatives ps f) :
    ofPieces? ps = some f := by
  obtain ⟨b, g, rfl, hr⟩ := h.read []
  simpa [ofPieces?, read?] using hr []

theorem holds?_eq_some (test : α → Option Bool) (f : Formula α)
    (h : ∀ a ∈ f.terms, (test a).isSome) :
    ∃ v, f.holds? test = some v ∧ (v = true ↔ f.Holds (test · = some true)) := by
  induction f with
  | term a =>
    obtain ⟨v, hv⟩ := Option.isSome_iff_exists.mp (h a (by simp [terms]))
    exact ⟨v, hv, by simp [Holds, hv]⟩
  | not f ih =>
    obtain ⟨v, hv, hf⟩ := ih h
    exact ⟨!v, by simp [holds?, hv], by simp [Holds, ← hf]⟩
  | and f g ihf ihg =>
    obtain ⟨v, hv, hf⟩ := ihf fun a ha => h a (List.mem_append_left _ ha)
    obtain ⟨w, hw, hg⟩ := ihg fun a ha => h a (List.mem_append_right _ ha)
    refine ⟨v && w, ?_, by simp [Holds, ← hf, ← hg]⟩
    cases v <;> simp [holds?, hv, hw]
  | or f g ihf ihg =>
    obtain ⟨v, hv, hf⟩ := ihf fun a ha => h a (List.mem_append_left _ ha)
    obtain ⟨w, hw, hg⟩ := ihg fun a ha => h a (List.mem_append_right _ ha)
    refine ⟨v || w, ?_, by simp [Holds, ← hf, ← hg]⟩
    cases v <;> simp [holds?, hv, hw]

theorem holds?_uniform {ι : Type} {test : ι → α → Option Bool} {f : Formula α}
    (h : ∀ a ∈ f.terms, ∃ v, ∀ i, test i a = some v) : ∃ v, ∀ i, f.holds? (test i) = some v := by
  induction f with
  | term a => exact h a (by simp [terms])
  | not f ih =>
    obtain ⟨v, hv⟩ := ih h
    exact ⟨!v, fun i => by simp [holds?, hv]⟩
  | and f g ihf ihg =>
    obtain ⟨v, hv⟩ := ihf fun a ha => h a (List.mem_append_left _ ha)
    obtain ⟨w, hw⟩ := ihg fun a ha => h a (List.mem_append_right _ ha)
    refine ⟨v && w, fun i => ?_⟩
    cases v <;> simp [holds?, hv, hw]
  | or f g ihf ihg =>
    obtain ⟨v, hv⟩ := ihf fun a ha => h a (List.mem_append_left _ ha)
    obtain ⟨w, hw⟩ := ihg fun a ha => h a (List.mem_append_right _ ha)
    refine ⟨v || w, fun i => ?_⟩
    cases v <;> simp [holds?, hv, hw]

theorem holds_congr {p q : α → Prop} {f : Formula α} (h : ∀ a ∈ f.terms, p a ↔ q a) :
    f.Holds p ↔ f.Holds q := by
  induction f with
  | term a => exact h a (by simp [terms])
  | not f ih => exact not_congr (ih h)
  | and f g ihf ihg =>
    apply and_congr
    · exact ihf fun a ha => h a (List.mem_append_left _ ha)
    · exact ihg fun a ha => h a (List.mem_append_right _ ha)
  | or f g ihf ihg =>
    apply or_congr
    · exact ihf fun a ha => h a (List.mem_append_left _ ha)
    · exact ihg fun a ha => h a (List.mem_append_right _ ha)

theorem holds_map (g : α → β) (p : β → Prop) (f : Formula α) :
    (f.map g).Holds p ↔ f.Holds fun a => p (g a) := by
  induction f with
  | term a => rfl
  | not f ih => simp only [map, Holds, ih]
  | and f h ihf ihh => simp only [map, Holds, ihf, ihh]
  | or f h ihf ihh => simp only [map, Holds, ihf, ihh]

theorem terms_map (g : α → β) (f : Formula α) : (f.map g).terms = f.terms.map g := by
  induction f <;> simp_all [map, terms]

end Formula

end CardQuery
