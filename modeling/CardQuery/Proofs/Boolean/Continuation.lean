import CardQuery.Proofs.Boolean.Building
import CardQuery.Proofs.Boolean.Conjunction

namespace CardQuery

namespace Builder

open Piece (nested conjoined)

variable {α : Type}

def behind (b : Builder α) (ps : List (Piece α)) : Builder α := { b with pieces := ps ++ b.pieces }

lemma emit_behind (b : Builder α) (ps : List (Piece α)) (p : Piece α) :
    (b.behind ps).emit p = (b.emit p).behind ps := by
  simp only [emit, behind, List.append_assoc]
  rfl

lemma push_behind (b : Builder α) (ps : List (Piece α)) (r : Reading α) :
    (b.behind ps).push r = (b.push r).behind ps := by
  cases hi : b.invalid with
  | true => simp [push, behind, hi]
  | false =>
    cases r with
    | condition a =>
      have hb : (b.behind ps).invalid = false := hi
      simpa [push, hi, hb] using emit_behind b ps (.term a)
    | everything => simp [push, behind, hi]
    | invalid => cases hn : b.negateNext <;> simp [push, behind, hi, hn]

variable (read : Token → Reading α)

lemma take_behind (b : Builder α) (ps : List (Piece α)) (t : Token) :
    (b.behind ps).take read t = (b.take read t).behind ps := by
  cases t with
  | minus => rfl
  | or => rfl
  | opening =>
    have he := emit_behind b ps .opening
    cases hi : b.invalid with
    | true => simp [behind, take, openGroup, hi]
    | false =>
      have hb : (b.behind ps).invalid = false := hi
      simp only [take, openGroup, hi, hb, Bool.false_eq_true, if_false, he]
      rfl
  | closing => cases hi : b.invalid <;> simp [behind, take, closeGroup, hi]
  | command key value => exact push_behind b ps _
  | text words => exact push_behind b ps _

lemma takeAll_behind (b : Builder α) (ps : List (Piece α)) (ts : List Token) :
    (b.behind ps).takeAll read ts = (b.takeAll read ts).behind ps := by
  induction ts generalizing b with
  | nil => rfl
  | cons t ts ih => rw [takeAll_cons, take_behind, ih, takeAll_cons]

def added (b : Builder α) (ts : List Token) : List (Piece α) :=
  ({ b with pieces := [] }.takeAll read ts).pieces

lemma pieces_takeAll (b : Builder α) (ts : List Token) :
    (b.takeAll read ts).pieces = b.pieces ++ b.added read ts := by
  have hb : b = { b with pieces := [] }.behind b.pieces := by simp [behind]
  have ht := takeAll_behind read { b with pieces := [] } b.pieces ts
  rw [← hb] at ht
  rw [ht]
  rfl

lemma added_cons (b : Builder α) (t : Token) (ts : List Token) :
    b.added read (t :: ts) = b.added read [t] ++ (b.take read t).added read ts := by
  have ht : b.take read t = ({ b with pieces := [] }.take read t).behind b.pieces := by
    rw [← take_behind]
    simp [behind]
  rw [added, takeAll_cons, pieces_takeAll, ht]
  rfl

variable {read}

lemma invalid_take {b : Builder α} (h : b.invalid = true) (t : Token) :
    (b.take read t).invalid = true := by
  cases t <;> simp [take, negate, disjoin, openGroup, closeGroup, push, h]

lemma invalid_takeAll {b : Builder α} (h : b.invalid = true) (ts : List Token) :
    (b.takeAll read ts).invalid = true := by
  induction ts generalizing b with
  | nil => exact h
  | cons t ts ih => exact ih (invalid_take h t)

lemma valid_of_push {b : Builder α} {r : Reading α} (h : (b.push r).invalid = false) :
    b.invalid = false := by
  cases hb : b.invalid with
  | false => rfl
  | true => simp [push, hb] at h

lemma valid_of_takeAll {b : Builder α} {ts : List Token} (h : (b.takeAll read ts).invalid = false) :
    b.invalid = false := by
  cases hb : b.invalid with
  | false => rfl
  | true =>
    rw [invalid_takeAll hb] at h
    cases h

lemma nested_lead (b : Builder α) (depth : ℕ) (ps : List (Piece α)) :
    nested depth (b.lead ++ ps) = nested depth ps := by
  obtain ⟨_, negateNext, disjoinNext, needsConnective, _⟩ := b
  cases negateNext <;> cases disjoinNext <;> cases needsConnective <;> rfl

lemma conjoined_lead {b : Builder α} {depth : ℕ} (h : depth = 0 → b.disjoinNext = false)
    (ps : List (Piece α)) : conjoined depth (b.lead ++ ps) = conjoined depth ps := by
  obtain ⟨_, negateNext, disjoinNext, needsConnective, _⟩ := b
  cases depth with
  | zero =>
    obtain rfl : disjoinNext = false := h rfl
    cases negateNext <;> cases needsConnective <;> rfl
  | succ depth => cases negateNext <;> cases disjoinNext <;> cases needsConnective <;> rfl

lemma added_opening {b : Builder α} (h : b.invalid = false) :
    b.added read [.opening] = b.lead ++ [.opening] := by
  simp only [added, takeAll_cons, takeAll_nil, take, openGroup, h, Bool.false_eq_true, if_false]
  rfl

lemma added_closing {b : Builder α} (h : b.invalid = false) :
    b.added read [.closing] = [.closing] := by
  simp [added, take, closeGroup, h]

lemma push_cases (b : Builder α) (r : Reading α) :
    (b.push r).pieces = b.pieces ∨ ∃ a, (b.push r).pieces = b.pieces ++ (b.lead ++ [.term a]) := by
  cases hi : b.invalid with
  | true => simp [push, hi]
  | false =>
    cases r with
    | condition a => exact Or.inr ⟨a, by simp [push, emit, hi]⟩
    | everything => simp [push, hi]
    | invalid => cases hn : b.negateNext <;> simp [push, hi, hn]

lemma added_term {b : Builder α} {t : Token} (ht : t.isTerm) :
    b.added read [t] = [] ∨ ∃ a, b.added read [t] = b.lead ++ [.term a] := by
  cases t with
  | command key value => exact push_cases { b with pieces := [] } _
  | text words => exact push_cases { b with pieces := [] } _
  | _ => cases ht

lemma nested_added_term {b : Builder α} {t : Token} (ht : t.isTerm) (depth : ℕ)
    (ps : List (Piece α)) : nested depth (b.added read [t] ++ ps) = nested depth ps := by
  rcases added_term ht with hp | ⟨a, hp⟩
  · rw [hp, List.nil_append]
  · rw [hp, List.append_assoc, nested_lead]
    rfl

lemma conjoined_added_term {b : Builder α} {t : Token} (ht : t.isTerm) {depth : ℕ}
    (h : depth = 0 → b.disjoinNext = false) (ps : List (Piece α)) :
    conjoined depth (b.added read [t] ++ ps) = conjoined depth ps := by
  rcases added_term ht with hp | ⟨a, hp⟩
  · rw [hp, List.nil_append]
  · rw [hp, List.append_assoc, conjoined_lead h]
    rfl

lemma nested_added_append {ts : List Token} {b : Builder α}
    (hv : (b.takeAll read ts).invalid = false) {us : List Token} {ps : List (Piece α)}
    (h : ∀ depth, nested depth ps = Token.nested depth us) (depth : ℕ) :
    nested depth (b.added read ts ++ ps) = Token.nested depth (ts ++ us) := by
  induction ts generalizing depth b with
  | nil => exact h depth
  | cons t ts ih =>
    have hb : b.invalid = false := valid_of_takeAll hv
    rw [added_cons, List.append_assoc]
    cases t with
    | minus => exact ih hv depth
    | or => exact ih hv depth
    | opening =>
      rw [added_opening hb, List.append_assoc, nested_lead]
      exact ih hv (depth + 1)
    | closing =>
      rw [added_closing hb]
      cases depth with
      | zero => rfl
      | succ depth => exact ih hv depth
    | _ =>
      rw [nested_added_term]
      · exact ih hv depth
      · rfl

lemma nested_push {b : Builder α} (r : Reading α) : ∃ qs, (b.push r).pieces = b.pieces ++ qs ∧
    ∀ depth ps, nested depth (qs ++ ps) = nested depth ps := by
  rcases b.push_cases r with h | ⟨a, h⟩
  · exact ⟨[], by simpa using h, fun _ _ => rfl⟩
  · refine ⟨_, h, ?_⟩
    intro depth ps
    rw [List.append_assoc, nested_lead]
    rfl

lemma nested_added {depth : ℕ} {ts : List Token} (hn : Token.nested depth ts) {b : Builder α}
    (hv : (b.takeAll read ts).invalid = false) : nested depth (b.added read ts) := by
  have hadded := @nested_added_append α read ts b hv [] [] (fun _ => rfl) depth
  rw [List.append_nil, List.append_nil] at hadded
  rwa [hadded]

lemma conjoined_added {depth : ℕ} {ts : List Token} (hn : Token.nested depth ts) {b : Builder α}
    (hv : (b.takeAll read ts).invalid = false)
    (hor : ∀ us, us <+: ts → Token.nested depth us → (b.takeAll read us).disjoinNext = false) :
    conjoined depth (b.added read ts) := by
  induction ts generalizing depth b with
  | nil => rfl
  | cons t ts ih =>
    have hb : b.invalid = false := valid_of_takeAll hv
    have hlead : depth = 0 → b.disjoinNext = false := by
      rintro rfl
      exact hor [] List.nil_prefix rfl
    have hrest : ∀ us, us <+: ts → Token.nested depth (t :: us) →
        ((b.take read t).takeAll read us).disjoinNext = false :=
      fun us hus => hor (t :: us) (List.cons_prefix_cons.mpr ⟨rfl, hus⟩)
    rw [added_cons]
    cases t with
    | minus => exact ih hn hv hrest
    | or => exact ih hn hv hrest
    | opening =>
      rw [added_opening hb, List.append_assoc, conjoined_lead hlead]
      exact @ih (depth + 1) hn _ hv hrest
    | closing =>
      rw [added_closing hb]
      cases depth with
      | zero => simp [Token.nested] at hn
      | succ depth => exact @ih depth hn _ hv hrest
    | _ =>
      rw [conjoined_added_term _ hlead]
      · exact ih hn hv hrest
      · rfl

open Formula (ofPieces?)

def Expectant (b : Builder α) : Prop :=
  b.invalid = false → b.needsConnective = false →
    b.pieces = [] ∨ (∃ ps, b.pieces = ps ++ [.opening]) ∨
      ∀ rest, ofPieces? (b.pieces ++ rest) = none

lemma take_of_isTerm {t : Token} (ht : t.isTerm) (b : Builder α) :
    b.take read t = b.push (read t) := by
  cases t with
  | command key value => rfl
  | text words => rfl
  | _ => cases ht

lemma Expectant.push {b : Builder α} (h : b.Expectant) (r : Reading α) : (b.push r).Expectant := by
  cases hi : b.invalid with
  | true => simpa [Builder.push, hi] using h
  | false =>
    cases r with
    | condition a => simp [Expectant, Builder.push, hi, emit]
    | everything => simpa [Builder.push, hi] using h
    | invalid =>
      cases hn : b.negateNext with
      | true => simpa [Builder.push, hi, hn, Expectant] using h
      | false => simp [Expectant, Builder.push, hi, hn]

lemma Expectant.closeGroup {b : Builder α} (h : b.Expectant) : b.closeGroup.Expectant := by
  cases hi : b.invalid with
  | true => simpa [Builder.closeGroup, hi] using h
  | false =>
    intro _ hneeds
    have hpieces : b.closeGroup.pieces = b.pieces ++ [.closing] := by
      simp [Builder.closeGroup, hi]
    have hb : b.needsConnective = false := by simpa [Builder.closeGroup, hi] using hneeds
    rw [hpieces]
    apply Or.inr
    apply Or.inr
    intro rest
    rcases h hi hb with hnil | ⟨ps, hps⟩ | hdead
    · rw [hnil]
      rfl
    -- the group that was opened last is closed without an operand
    · have hdead := Formula.dead_empty_group.prepend ps [] .start none rest
      rw [hps]
      simpa [ofPieces?] using hdead
    · rw [List.append_assoc]
      exact hdead _

lemma expectant_takeAll (ts : List Token) : (empty.takeAll read ts).Expectant := by
  induction ts using List.reverseRecOn with
  | nil => exact fun _ _ => Or.inl rfl
  | append_singleton ts t ih =>
    rw [takeAll_append]
    cases t with
    | minus => exact ih
    | or => exact ih
    | opening =>
      intro hv _
      have hi : (empty.takeAll read ts).invalid = false := valid_of_takeAll hv
      refine Or.inr (Or.inl ⟨(empty.takeAll read ts).pieces ++ (empty.takeAll read ts).lead, ?_⟩)
      simp [take, openGroup, hi, emit]
    | closing => exact ih.closeGroup
    | command key value => exact ih.push _
    | text words => exact ih.push _

lemma nested_takeAll {ts : List Token} (hn : Token.nested 0 ts)
    (hv : (empty.takeAll read ts).invalid = false) : nested 0 (empty.takeAll read ts).pieces :=
  nested_added hn hv

def Strict (b : Builder α) : Prop :=
  b.invalid = false → b.needsConnective = false → b.pieces ≠ [] →
    ∀ rest, ofPieces? (b.pieces ++ rest) = none

lemma strict_takeAll {ts : List Token} (hn : Token.nested 0 ts) :
    (empty.takeAll read ts).Strict := by
  intro hv hneeds hne rest
  rcases expectant_takeAll ts hv hneeds with hnil | ⟨ps, hps⟩ | hdead
  · exact absurd hnil hne
  · have hnested := nested_takeAll hn hv
    rw [hps, Piece.nested_append_opening] at hnested
    cases hnested
  · exact hdead rest

end Builder

end CardQuery
