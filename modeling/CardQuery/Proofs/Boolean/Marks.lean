import CardQuery.Predicate.Builder
import Mathlib.Data.Bool.Basic
import Mathlib.Data.List.Induction
import Mathlib.Order.Basic

/-!
The marks that wait for what is written next. A minus is used up by the next term or group that is
written, and so is an `or`, unless nothing stands before it yet in its group: then it goes on waiting.
-/

namespace CardQuery

namespace Piece

variable {α : Type}

def isTerm : Piece α → Bool
  | term _ => true
  | _ => false

def isClosing : Piece α → Bool
  | closing => true
  | _ => false

def connectiveDue (ps : List (Piece α)) : Bool := (ps.reverse.find? (!·.isClosing)).any isTerm

inductive Leads : Piece α → Prop
  | term (a : α) : Leads (term a)
  | opening : Leads opening

end Piece

namespace Builder

open Piece (Leads connectiveDue)

inductive Step (α : Type) where
  | negate
  | disjoin
  | push (r : Reading α)
  | openGroup
  | closeGroup
  deriving DecidableEq, Repr

def Step.takesMarks {α : Type} : Step α → Bool
  | push _ => true
  | openGroup => true
  | _ => false

variable {α : Type}

def perform (b : Builder α) : Step α → Builder α
  | .negate => b.negate
  | .disjoin => b.disjoin
  | .push r => b.push r
  | .openGroup => b.openGroup
  | .closeGroup => b.closeGroup

def run (steps : List (Step α)) : Builder α := steps.foldl perform empty

lemma run_append (steps : List (Step α)) (s : Step α) : run (steps ++ [s]) = (run steps).perform s := by
  simp [run]

def write (b : Builder α) (p : Piece α) : Builder α := { b.emit p with needsConnective := p.isTerm }

structure Quiet (b b' : Builder α) : Prop where
  pieces : b'.pieces = b.pieces
  negateNext : b'.negateNext ≤ b.negateNext
  disjoinNext : b'.disjoinNext = b.disjoinNext
  valid : b'.invalid = false → b.invalid = false ∧ b'.needsConnective = b.needsConnective

lemma perform_cases (b : Builder α) {s : Step α} (hs : s.takesMarks) :
    (∃ p, Leads p ∧ b.invalid = false ∧ b.perform s = b.write p) ∨ Quiet b (b.perform s) := by
  cases hv : b.invalid with
  | true =>
    apply Or.inr
    cases s with
    | push r => constructor <;> simp [perform, push, hv]
    | openGroup => constructor <;> simp [perform, openGroup, hv]
    | _ => cases hs
  | false =>
    cases s with
    | push r =>
      cases r with
      | condition a => exact Or.inl ⟨_, .term a, rfl, by simp [perform, push, hv, write, emit, Piece.isTerm]⟩
      | everything => exact Or.inr (by constructor <;> simp [perform, push])
      | invalid =>
        apply Or.inr
        cases hn : b.negateNext <;> constructor <;> simp [perform, push, hv, hn]
    | openGroup => exact Or.inl ⟨_, .opening, rfl, by simp [perform, openGroup, hv, write, Piece.isTerm]⟩
    | _ => cases hs

section

variable [DecidableEq α]

/-- What has come of the marks that were set by `steps`: each was used once or not at all. -/
structure Marked (steps : List (Step α)) (b : Builder α) : Prop where
  connective : b.invalid = false → b.needsConnective = connectiveDue b.pieces
  negations : b.pieces.count .not + b.negateNext.toNat ≤ steps.count .negate
  alternatives : b.pieces.count .or + b.disjoinNext.toNat ≤ steps.count .disjoin

lemma count_emit_not (b : Builder α) {p : Piece α} (hp : Leads p) :
    (b.emit p).pieces.count .not = b.pieces.count .not + b.negateNext.toNat := by
  obtain ⟨pieces, negateNext, disjoinNext, needsConnective, _⟩ := b
  cases hp <;> cases negateNext <;> cases disjoinNext <;> cases needsConnective <;> simp [emit, lead]

lemma count_emit_or (b : Builder α) {p : Piece α} (hp : Leads p) :
    (b.emit p).pieces.count .or + (b.emit p).disjoinNext.toNat =
      b.pieces.count .or + b.disjoinNext.toNat := by
  obtain ⟨pieces, negateNext, disjoinNext, needsConnective, _⟩ := b
  cases hp <;> cases negateNext <;> cases disjoinNext <;> cases needsConnective <;> simp [emit, lead]

namespace Marked

variable {steps : List (Step α)} {b : Builder α}

lemma empty : Marked [] (empty : Builder α) := ⟨fun _ => rfl, Nat.le_refl 0, Nat.le_refl 0⟩

lemma write (h : Marked steps b) {p : Piece α} (hp : Leads p) : Marked steps (b.write p) where
  connective _ := by cases hp <;> simp [Builder.write, emit, connectiveDue, Piece.isClosing]
  negations := by
    have hwritten : (b.write p).negateNext = false := rfl
    rw [hwritten]
    exact (count_emit_not b hp).trans_le h.negations
  alternatives := (count_emit_or b hp).trans_le h.alternatives

lemma quiet (h : Marked steps b) {b' : Builder α} (hq : Quiet b b') : Marked steps b' where
  connective hv := by
    obtain ⟨hv, hneeds⟩ := hq.valid hv
    rw [hneeds, hq.pieces, h.connective hv]
  negations := by
    rw [hq.pieces]
    exact Nat.le_trans (Nat.add_le_add_left (Bool.toNat_le_toNat hq.negateNext) _) h.negations
  alternatives := by
    rw [hq.pieces, hq.disjoinNext]
    exact h.alternatives

lemma closeGroup (h : Marked steps b) : Marked steps b.closeGroup := by
  cases hv : b.invalid with
  | true => simpa [Builder.closeGroup, hv] using h
  | false =>
    refine ⟨fun _ => ?_, ?_, ?_⟩
    · simpa [Builder.closeGroup, hv, connectiveDue, Piece.isClosing] using h.connective hv
    · simpa [Builder.closeGroup, hv] using h.negations
    · simpa [Builder.closeGroup, hv] using h.alternatives

lemma takes (h : Marked steps b) {s : Step α} (hs : s.takesMarks) : Marked steps (b.perform s) := by
  rcases b.perform_cases hs with ⟨p, hp, -, hperform⟩ | hquiet
  · rw [hperform]
    exact h.write hp
  · exact h.quiet hquiet

lemma concat (h : Marked steps b) {s : Step α} (hnegate : s ≠ .negate) (hdisjoin : s ≠ .disjoin) :
    Marked (steps ++ [s]) b :=
  ⟨h.connective, by simpa [hnegate] using h.negations, by simpa [hdisjoin] using h.alternatives⟩

lemma perform (h : Marked steps b) (s : Step α) : Marked (steps ++ [s]) (b.perform s) := by
  have hcount (u v : Step α) : (steps ++ [u]).count v = steps.count v + if u = v then 1 else 0 := by
    simp [List.count_singleton]
  cases s with
  | negate =>
    refine ⟨h.connective, ?_, ?_⟩
    · rw [hcount]
      exact Nat.add_le_add_right (Nat.le_of_add_right_le h.negations) 1
    · rw [hcount]
      exact h.alternatives
  | disjoin =>
    refine ⟨h.connective, ?_, ?_⟩
    · rw [hcount]
      exact h.negations
    · rw [hcount]
      exact Nat.add_le_add_right (Nat.le_of_add_right_le h.alternatives) 1
  | push r => exact (h.takes rfl).concat (by simp) (by simp)
  | openGroup => exact (h.takes rfl).concat (by simp) (by simp)
  | closeGroup => exact h.closeGroup.concat (by simp) (by simp)

theorem run (steps : List (Step α)) : Marked steps (run steps) := by
  induction steps using List.reverseRecOn with
  | nil => exact .empty
  | append_singleton steps s ih =>
    rw [run_append]
    exact ih.perform s

end Marked

theorem marks_used (steps : List (Step α)) {s : Step α} (hs : s.takesMarks)
    (hwritten : (run (steps ++ [s])).pieces ≠ (run steps).pieces) :
    (run (steps ++ [s])).negateNext = false ∧
      ((run (steps ++ [s])).disjoinNext = true ↔
        (run steps).disjoinNext = true ∧ connectiveDue (run steps).pieces = false) ∧
      (run (steps ++ [s])).pieces.count .not ≤ steps.count .negate ∧
      (run (steps ++ [s])).pieces.count .or ≤ steps.count .disjoin := by
  have hmarks : Marked steps ((run steps).perform s) := (Marked.run steps).takes hs
  rw [run_append] at hwritten ⊢
  rcases (run steps).perform_cases hs with ⟨p, -, hv, hperform⟩ | hquiet
  · have hdue := (Marked.run steps).connective hv
    rw [hperform] at hmarks ⊢
    refine ⟨rfl, ?_, Nat.le_of_add_right_le hmarks.negations,
      Nat.le_of_add_right_le hmarks.alternatives⟩
    rw [← hdue]
    simp [write, emit]
  · exact absurd hquiet.pieces hwritten

def sampleSteps : List (Step String) := [.disjoin, .negate, .push (.condition "a"), .negate]

theorem marks_used_sample :
    (run (sampleSteps ++ [.openGroup])).pieces = [.not, .term "a", .or, .not, .opening] ∧
      (run (sampleSteps ++ [.openGroup])).negateNext = false ∧
      (run (sampleSteps ++ [.openGroup])).disjoinNext = false := by
  have hpieces : (run (sampleSteps ++ [.openGroup])).pieces =
      [.not, .term "a", .or, .not, .opening] := by decide
  have hdue : connectiveDue (run sampleSteps).pieces = true := by decide
  obtain ⟨hnegate, hdisjoin, -, -⟩ := marks_used sampleSteps (s := .openGroup) rfl (by decide)
  exact ⟨hpieces, hnegate, by simpa [hdue] using hdisjoin⟩

/-- An `or` that nothing stands before outlasts the term behind it, and turns up before the term after
that. -/
theorem or_outlasts_term :
    (run [.disjoin, .push (.condition "a")]).pieces ≠ (run [.disjoin] : Builder String).pieces ∧
      (run [.disjoin, .push (.condition "a")]).disjoinNext = true ∧
      (run [.disjoin, .push (.condition "a"), .push (.condition "b")]).pieces =
        [.term "a", .or, .term "b"] := by
  decide

end

end Builder

end CardQuery
