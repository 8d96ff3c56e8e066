import CardQuery.Proofs.Boolean.Continuation

namespace CardQuery

namespace Formula

variable {α : Type}

def Awaits (ps : List (Piece α)) : Prop :=
  (∀ rest, ofPieces? (ps ++ rest) = none) ∨
    ∃ b : Before α, b.negations = 0 ∧ ∀ rest, ofPieces? (ps ++ rest) = read? [] b none rest

end Formula

namespace Builder

open Piece (nested conjoined)
open Formula (ofPieces?)

variable {α : Type} {read : Token → Reading α}

def marked (b : Builder α) (negateNext : Bool) : Builder α := { b with negateNext }

inductive Beside (b : Builder α) (a : α) : Builder α → Builder α → Prop
  | waiting (negateNext : Bool) :
      Beside b a (b.marked negateNext) ((b.after [.term a]).marked negateNext)
  | written (m : Builder α) : m.pieces ≠ [] →
      Beside b a (m.behind (b.pieces ++ b.lead)) (m.behind ((b.after [.term a]).pieces ++ [.and]))
  | invalid {c c'} : c.invalid = true → c'.invalid = true → Beside b a c c'

def opened (negateNext : Bool) (p : Piece α) : Builder α :=
  ⟨(if negateNext then [.not] else []) ++ [p], false, false, true, false⟩

lemma opened_ne_nil (negateNext : Bool) (p : Piece α) : (opened negateNext p).pieces ≠ [] := by
  simp [opened]

lemma Beside.takeAll {b : Builder α} {a : α} (m : Builder α) (hm : m.pieces ≠ []) (ts : List Token) :
    Beside b a ((m.behind (b.pieces ++ b.lead)).takeAll read ts)
      ((m.behind ((b.after [.term a]).pieces ++ [.and])).takeAll read ts) := by
  rw [takeAll_behind, takeAll_behind]
  apply Beside.written
  rw [pieces_takeAll]
  exact List.append_ne_nil_of_left_ne_nil hm _

lemma Beside.goOn {b c c' : Builder α} {a : α} (h : Beside b a c c') {ts : List Token}
    (hwaiting : ∀ negateNext, c = b.marked negateNext → c' = (b.after [.term a]).marked negateNext →
      Beside b a (c.takeAll read ts) (c'.takeAll read ts)) :
    Beside b a (c.takeAll read ts) (c'.takeAll read ts) := by
  cases h with
  | waiting negateNext => exact hwaiting negateNext rfl rfl
  | written m hm => exact .takeAll m hm ts
  | invalid h h' => exact .invalid (invalid_takeAll h ts) (invalid_takeAll h' ts)

section Waiting

variable {b : Builder α} (hb : b.Ready) (hn : b.negateNext = false) (negateNext : Bool)

include hn in
lemma lead_marked : (b.marked negateNext).lead = b.lead ++ if negateNext then [.not] else [] := by
  obtain ⟨_, _, disjoinNext, needsConnective, _⟩ := b
  subst hn
  cases negateNext <;> cases disjoinNext <;> cases needsConnective <;> rfl

include hb hn in
lemma emit_waiting (p : Piece α) :
    (b.marked negateNext).emit p = (opened negateNext p).behind (b.pieces ++ b.lead) := by
  have hd : (b.disjoinNext && !b.needsConnective) = false := by
    cases hd : b.disjoinNext with
    | false => rfl
    | true => simp [hb.connective hd]
  simp only [emit, lead_marked hn]
  simp [marked, opened, behind, hd, hb.valid]

omit hb hn in
lemma emit_after_waiting (ps : List (Piece α)) (p : Piece α) :
    ((b.after ps).marked negateNext).emit p =
      (opened negateNext p).behind ((b.after ps).pieces ++ [.and]) := by
  simp [marked, emit, opened, behind, lead, after]

include hb hn in
lemma push_beside (a : α) (r : Reading α) :
    Beside b a ((b.marked negateNext).push r) (((b.after [.term a]).marked negateNext).push r) := by
  have hv : (b.marked negateNext).invalid = false := hb.valid
  have hw : ((b.after [.term a]).marked negateNext).invalid = false := rfl
  cases r with
  | condition c =>
    simp only [push, hv, hw, Bool.false_eq_true, if_false, emit_waiting hb hn, emit_after_waiting]
    exact .written _ (opened_ne_nil _ _)
  | everything =>
    simp only [push, hv, hw, Bool.false_eq_true, if_false]
    exact .waiting negateNext
  | invalid =>
    cases negateNext with
    | true =>
      have hpush : (b.marked true).push .invalid = b.marked false := by
        simp [push, marked, hb.valid]
      rw [hpush]
      exact .waiting false
    | false =>
      have hpush : ((b.marked false).push .invalid).invalid = true := by
        simp [push, marked, hb.valid]
      exact .invalid hpush rfl

include hb hn in
lemma takeAll_beside (a : α) {ts : List Token} (hts : Token.nested 0 ts)
    (hor : ∀ us, us <+: ts → Token.nested 0 us →
      (((b.after [.term a]).marked negateNext).takeAll read us).disjoinNext = false) :
    Beside b a ((b.marked negateNext).takeAll read ts)
      (((b.after [.term a]).marked negateNext).takeAll read ts) := by
  induction ts generalizing negateNext with
  | nil => exact .waiting negateNext
  | cons t ts ih =>
    have hrest : ∀ us, us <+: ts → Token.nested 0 (t :: us) →
        ((((b.after [.term a]).marked negateNext).take read t).takeAll read us).disjoinNext = false :=
      fun us hus => hor (t :: us) (List.cons_prefix_cons.mpr ⟨rfl, hus⟩)
    have hv : (b.marked negateNext).invalid = false := hb.valid
    rw [takeAll_cons, takeAll_cons]
    cases t with
    | minus => exact ih true hts hrest
    | or =>
      -- this `or` would wait outside the groups
      have hwaits := hor [.or] ⟨ts, rfl⟩ rfl
      cases hwaits
    | opening =>
      have hv : (b.marked negateNext).invalid = false := hb.valid
      have hw : ((b.after [.term a]).marked negateNext).invalid = false := rfl
      simp only [take, openGroup, hv, hw, Bool.false_eq_true, if_false, emit_waiting hb hn,
        emit_after_waiting]
      exact Beside.takeAll { opened negateNext .opening with needsConnective := false }
        (opened_ne_nil _ _) ts
    | closing => simp [Token.nested] at hts
    | command key value =>
      apply (push_beside hb hn negateNext a (read (.command key value))).goOn
      intro y hc hc'
      rw [hc, hc']
      exact ih y hts (hc' ▸ hrest)
    | text words =>
      apply (push_beside hb hn negateNext a (read (.text words))).goOn
      intro y hc hc'
      rw [hc, hc']
      exact ih y hts (hc' ▸ hrest)

end Waiting

/-- The term `t` stands outside the groups, no mark that waits there is meant for it alone, and what
follows is in conjunction with it. `run` says what is built from a list of tokens. -/
structure FreeStanding (run : List Token → Builder α) (pre : List Token) (t : Token)
    (post : List Token) : Prop where
  outside : Token.nested 0 pre
  unnegated : (run pre).negateNext = false
  connective : (run pre).disjoinNext = true → (run pre).needsConnective = true
  conjoined : ∀ us, us <+: post → Token.nested 0 us → (run (pre ++ t :: us)).disjoinNext = false
  settled : (run (pre ++ t :: post)).negateNext = false

variable {pre post : List Token} {t : Token} {a : α}

lemma awaits_lead (hn : Token.nested 0 pre) (hv : (empty.takeAll read pre).invalid = false)
    (hneg : (empty.takeAll read pre).negateNext = false) :
    Formula.Awaits ((empty.takeAll read pre).pieces ++ (empty.takeAll read pre).lead) := by
  have hnested := nested_takeAll hn hv
  have hstrict : (empty.takeAll read pre).Strict := strict_takeAll hn
  generalize empty.takeAll read pre = b at *
  cases hneeds : b.needsConnective with
  | false =>
    have hlead : b.lead = [] := by simp [lead, hneeds, hneg]
    by_cases hne : b.pieces = []
    · exact Or.inr ⟨.start, rfl, fun rest => by rw [hne, hlead]; rfl⟩
    · apply Or.inl
      intro rest
      rw [List.append_assoc]
      exact hstrict hv hneeds hne _
  | true =>
    obtain ⟨conn, hconn, hlead⟩ : ∃ conn, (conn = .and ∨ conn = .or) ∧ b.lead = [conn] := by
      cases hd : b.disjoinNext
      · exact ⟨.and, Or.inl rfl, by simp [lead, hneeds, hneg, hd]⟩
      · exact ⟨.or, Or.inr rfl, by simp [lead, hneeds, hneg, hd]⟩
    rw [hlead]
    rcases @Formula.read?_through α _ [] hnested .start none with hdead | ⟨before, operand, hread⟩
    · apply Or.inl
      intro rest
      rw [List.append_assoc]
      exact hdead _
    · have hread (rest : List (Piece α)) : ofPieces? (b.pieces ++ [conn] ++ rest) =
          Formula.read? [] before operand (conn :: rest) := by
        rw [List.append_assoc]
        exact hread _
      simp only [Formula.Awaits, hread]
      cases operand with
      | none => rcases hconn with rfl | rfl <;> exact Or.inl fun _ => rfl
      | some f =>
        rcases hconn with rfl | rfl
        · exact Or.inr ⟨⟨_, some _, 0⟩, rfl, fun _ => rfl⟩
        · exact Or.inr ⟨⟨some _, none, 0⟩, rfl, fun _ => rfl⟩

lemma read?_beside {b m : Builder α} (hneg : m.negateNext = false) (hdis : m.disjoinNext = false)
    (hn : nested 0 m.pieces) (hc : conjoined 0 m.pieces)
    (hahead : Formula.Awaits (b.pieces ++ b.lead)) (hneeds : m.needsConnective = true) :
    Option.Rel Formula.Equivalent
      (ofPieces? (m.behind ((b.after [.term a]).pieces ++ [.and])).pieces)
      (ofPieces? ((m.behind (b.pieces ++ b.lead)).emit (.term a)).pieces) := by
  have hplaced : (m.behind ((b.after [.term a]).pieces ++ [.and])).pieces =
      b.pieces ++ b.lead ++ (.term a :: .and :: m.pieces) := by
    simp [behind, after]
  have hlast : ((m.behind (b.pieces ++ b.lead)).emit (.term a)).pieces =
      b.pieces ++ b.lead ++ (m.pieces ++ [.and, .term a]) := by
    simp [behind, emit, lead, hneg, hdis, hneeds]
  rw [hplaced, hlast]
  rcases hahead with hnone | ⟨before, hzero, hread⟩
  · rw [hnone, hnone]
    exact .none
  · rw [hread, hread]
    have hgains : Formula.GainsBelow (.term a) [] before [] _ :=
      .here (Formula.gains_conjoin before (.term a) hzero)
    simpa [Formula.read?, hzero, Formula.negate] using hgains.read?_equivalent hn hc none

lemma Beside.equivalent {b c c' : Builder α} (h : Beside b a c c') (hb : b.Ready)
    (hn : b.negateNext = false) (hneg : c'.negateNext = false) (hdis : c'.disjoinNext = false)
    (hahead : Formula.Awaits (b.pieces ++ b.lead)) (hc : c.Strict) (hc' : c'.Strict)
    (hadded : c'.invalid = false → ∃ ps, c'.pieces = (b.after [.term a]).pieces ++ ps ∧
      nested 0 ps ∧ conjoined 0 ps) :
    c'.invalid = (c.push (.condition a)).invalid ∧ (c'.invalid = false →
      Option.Rel Formula.Equivalent (ofPieces? c'.pieces)
        (ofPieces? (c.push (.condition a)).pieces)) := by
  cases h with
  | waiting negateNext =>
    obtain rfl : negateNext = false := hneg
    have hmarked : b.marked false = b := by
      rw [← hn]
      rfl
    have hpush : (b.marked false).push (.condition a) = (b.after [.term a]).marked false := by
      rw [hmarked]
      simp only [push, hb.valid, Bool.false_eq_true, if_false]
      exact emit_eq hb _
    rw [hpush]
    refine ⟨rfl, ?_⟩
    intro _
    cases ofPieces? ((b.after [.term a]).marked false).pieces with
    | none => exact .none
    | some f =>
      apply Option.Rel.some
      intro p
      rfl
  | invalid h h' =>
    refine ⟨by simp [h', push, h], ?_⟩
    intro hv
    simp [h'] at hv
  | written m hm =>
    cases hv : m.invalid with
    | true =>
      refine ⟨by simp [push, behind, hv], ?_⟩
      intro hv'
      cases hv'.symm.trans hv
    | false =>
      have hpush : (m.behind (b.pieces ++ b.lead)).push (.condition a) =
          (m.behind (b.pieces ++ b.lead)).emit (.term a) := by
        simp [push, behind, hv]
      rw [hpush]
      refine ⟨rfl, ?_⟩
      intro _
      cases hneeds : m.needsConnective with
      | true =>
        obtain ⟨ps, hps, hnested, hconj⟩ := hadded hv
        have hps' : .and :: m.pieces = ps := by
          have hpieces : (b.after [.term a]).pieces ++ [.and] ++ m.pieces =
              (b.after [.term a]).pieces ++ ps := hps
          rw [List.append_assoc] at hpieces
          exact List.append_cancel_left hpieces
        subst hps'
        exact read?_beside hneg hdis hnested hconj hahead hneeds
      | false =>
        have hnone := hc hv hneeds (by simp [behind, hm])
        have hnone' := hc' hv hneeds (by simp [behind]) []
        rw [List.append_nil] at hnone'
        rw [hnone', emit, List.append_assoc, hnone]
        exact .none

theorem ofPieces?_moved (ht : t.isTerm) (ha : read t = .condition a)
    (h : FreeStanding (empty.takeAll read) pre t post) (hpost : Token.nested 0 post) :
    (empty.takeAll read (pre ++ t :: post)).invalid =
        ((empty.takeAll read (pre ++ post)).push (.condition a)).invalid ∧
      ((empty.takeAll read (pre ++ t :: post)).invalid = false →
        Option.Rel Formula.Equivalent
          (ofPieces? (empty.takeAll read (pre ++ t :: post)).pieces)
          (ofPieces? ((empty.takeAll read (pre ++ post)).push (.condition a)).pieces)) := by
  have hplaced (us : List Token) (hb : (empty.takeAll read pre).Ready) :
      empty.takeAll read (pre ++ t :: us) =
        ((empty.takeAll read pre).after [.term a]).takeAll read us := by
    rw [takeAll_append, takeAll_cons, take_of_isTerm ht, ha]
    simp only [push, hb.valid, Bool.false_eq_true, if_false, emit_eq hb]
  cases hv : (empty.takeAll read pre).invalid with
  | true =>
    have hp : (empty.takeAll read (pre ++ t :: post)).invalid = true := by
      rw [takeAll_append]
      exact invalid_takeAll hv _
    have hl : (empty.takeAll read (pre ++ post)).invalid = true := by
      rw [takeAll_append]
      exact invalid_takeAll hv _
    refine ⟨by rw [hp, push, if_pos hl, hl], ?_⟩
    intro hv'
    cases hp.symm.trans hv'
  | false =>
    have hready : (empty.takeAll read pre).Ready := ⟨hv, h.connective⟩
    have hwaits : ∀ us, us <+: post → Token.nested 0 us →
        (((empty.takeAll read pre).after [.term a]).takeAll read us).disjoinNext = false :=
      fun us hus hn => hplaced us hready ▸ h.conjoined us hus hn
    have hmarked : (empty.takeAll read pre).marked false = empty.takeAll read pre := by
      rw [← h.unnegated]
      rfl
    have hbeside := takeAll_beside hready h.unnegated false a hpost hwaits
    rw [hmarked, ← takeAll_append] at hbeside
    have hbeside : Beside (empty.takeAll read pre) a (empty.takeAll read (pre ++ post))
        (empty.takeAll read (pre ++ t :: post)) := hplaced post hready ▸ hbeside
    have hn : Token.nested 0 (pre ++ post) := (Token.nested_append h.outside 0 post).trans hpost
    have hn' : Token.nested 0 (pre ++ t :: post) := (Token.nested_insert ht 0 pre post).trans hn
    refine hbeside.equivalent hready h.unnegated h.settled
      (h.conjoined post (List.prefix_refl _) hpost) (awaits_lead h.outside hv h.unnegated)
      (strict_takeAll hn) (strict_takeAll hn') ?_
    intro hv'
    rw [hplaced post hready] at hv' ⊢
    exact ⟨_, pieces_takeAll .., nested_added hpost hv', conjoined_added hpost hv' hwaits⟩

end Builder

end CardQuery
