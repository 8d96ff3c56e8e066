import CardQuery.Proofs.Boolean.Admitted

/-!
A token that was left out and is then read as a condition that always holds, wherever it stands. It
makes no difference where the condition may be added at each of the places, or where nothing else is
written.
-/

namespace CardQuery

namespace Builder

open Formula (Passes verdict? answer?)

variable {α : Type} {read : Token → Reading α} {last : Reading α}

structure Abreast (b b' : Builder α) : Prop where
  negateNext : b'.negateNext = b.negateNext
  invalid : b'.invalid = b.invalid
  pieces : b'.pieces = [] → b.pieces = []

namespace Abreast

variable {b b' : Builder α}

lemma refl (b : Builder α) : Abreast b b := ⟨rfl, rfl, id⟩

lemma push (h : Abreast b b') (r : Reading α) : Abreast (b.push r) (b'.push r) := by
  obtain ⟨pieces, _, _, _, _⟩ := b
  obtain ⟨pieces', negateNext, _, _, invalid⟩ := b'
  obtain ⟨rfl, rfl, hp⟩ := h
  cases invalid with
  | true => exact ⟨rfl, rfl, hp⟩
  | false =>
    cases r with
    | condition c => exact ⟨rfl, rfl, by simp [Builder.push, emit]⟩
    | everything => exact ⟨rfl, rfl, hp⟩
    | invalid => cases negateNext <;> exact ⟨rfl, rfl, hp⟩

lemma push_right (h : Abreast b b') (hn : b.negateNext = false) (a : α) :
    Abreast b (b'.push (.condition a)) := by
  obtain ⟨pieces, _, _, _, _⟩ := b
  obtain ⟨pieces', negateNext, _, _, invalid⟩ := b'
  obtain ⟨rfl, rfl, hp⟩ := h
  obtain rfl : negateNext = false := hn
  cases invalid with
  | true => exact ⟨rfl, rfl, hp⟩
  | false => exact ⟨rfl, rfl, by simp [Builder.push, emit]⟩

lemma openGroup (h : Abreast b b') : Abreast b.openGroup b'.openGroup := by
  obtain ⟨pieces, _, _, _, _⟩ := b
  obtain ⟨pieces', negateNext, _, _, invalid⟩ := b'
  obtain ⟨rfl, rfl, hp⟩ := h
  cases invalid with
  | true => exact ⟨rfl, rfl, hp⟩
  | false => exact ⟨rfl, rfl, by simp [Builder.openGroup, emit]⟩

lemma closeGroup (h : Abreast b b') : Abreast b.closeGroup b'.closeGroup := by
  obtain ⟨pieces, _, _, _, _⟩ := b
  obtain ⟨pieces', negateNext, _, _, invalid⟩ := b'
  obtain ⟨rfl, rfl, hp⟩ := h
  cases invalid with
  | true => exact ⟨rfl, rfl, hp⟩
  | false => exact ⟨rfl, rfl, by simp [Builder.closeGroup]⟩

lemma take (h : Abreast b b') (t : Token) : Abreast (b.take read t) (b'.take read t) := by
  cases t with
  | minus => exact ⟨rfl, h.invalid, h.pieces⟩
  | or => exact ⟨h.negateNext, h.invalid, h.pieces⟩
  | opening => exact h.openGroup
  | closing => exact h.closeGroup
  | command key value => exact h.push _
  | text words => exact h.push _

end Abreast

section Filled

variable {u : Token} (hu : u.isTerm) (hread : read u = .everything) (a : α)

def Unnegated (read : Token → Reading α) (u : Token) (b : Builder α) (ts : List Token) : Prop :=
  ∀ us vs, ts = us ++ u :: vs → (b.takeAll read us).negateNext = false

lemma Unnegated.tail {b : Builder α} {t : Token} {ts : List Token} (h : Unnegated read u b (t :: ts)) :
    Unnegated read u (b.take read t) ts := by
  rintro us vs rfl
  exact h (t :: us) vs rfl

def filled (read : Token → Reading α) (u : Token) (a : α) : Token → Reading α :=
  Function.update read u (.condition a)

lemma filled_self : filled read u a u = .condition a := Function.update_self ..

lemma filled_of_ne {t : Token} (h : t ≠ u) : filled read u a t = read t := Function.update_of_ne h ..

include hu in
lemma take_filled_self (b : Builder α) : b.take (filled read u a) u = b.push (.condition a) := by
  rw [take_of_isTerm hu, filled_self]

lemma take_filled {t : Token} (h : t ≠ u) (b : Builder α) :
    b.take (filled read u a) t = b.take read t := by
  cases t with
  | command key value => simp only [take, filled_of_ne a h]
  | text words => simp only [take, filled_of_ne a h]
  | _ => rfl

lemma writesNext_filled {negated : Bool} {ts : List Token} (h : writesNext read last negated ts) :
    writesNext (filled read u a) last negated ts := by
  induction ts generalizing negated with
  | nil => exact h
  | cons t ts ih =>
    have hterm (ht : t.isTerm) : writesNext (filled read u a) last negated (t :: ts) := by
      rw [writesNext_of_isTerm ht] at h ⊢
      by_cases hut : t = u
      · subst hut
        rw [filled_self]
        rfl
      · rw [filled_of_ne a hut]
        cases hr : read t with
        | condition c => rfl
        | everything =>
          rw [hr] at h
          exact ih h
        | invalid =>
          rw [hr] at h
          cases negated with
          | true => exact ih (by simpa [Reading.writes] using h)
          | false => rfl
    cases t with
    | minus => exact ih h
    | or => cases h
    | opening => rfl
    | closing => cases h
    | command key value => exact hterm rfl
    | text words => exact hterm rfl

include hu hread

lemma take_left_out (b : Builder α) : b.take read u = b := by
  rw [take_of_isTerm hu, hread]
  simp [push]

lemma abreast_takeAll {b b' : Builder α} (h : Abreast b b') {ts : List Token}
    (hn : Unnegated read u b ts) : Abreast (b.takeAll read ts) (b'.takeAll (filled read u a) ts) := by
  induction ts generalizing b b' with
  | nil => exact h
  | cons t ts ih =>
    by_cases ht : t = u
    · subst ht
      apply ih _ hn.tail
      rw [take_left_out hu hread, take_filled_self hu]
      exact h.push_right (hn [] ts rfl) a
    · apply ih _ hn.tail
      rw [take_filled a ht]
      exact h.take t

variable {test : α → Option Bool} {a} (ha : test a = some true)

lemma finish_filled {b : Builder α} {ts : List Token} (hn : Unnegated read u b ts) :
    Abreast (b.finish read last ts) (b.finish (filled read u a) last ts) :=
  (abreast_takeAll hu hread a (.refl b) hn).push last

include ha

lemma verdict?_filled {pre ts : List Token} (hn : Unnegated read u (empty.takeAll read pre) ts)
    (hadmits : ∀ us vs, ts = us ++ u :: vs → Admits read last (empty.takeAll read (pre ++ us)) vs)
    (hv : ((empty.takeAll read pre).finish read last ts).invalid = false) :
    verdict? test ((empty.takeAll read pre).finish (filled read u a) last ts).pieces =
      verdict? test ((empty.takeAll read pre).finish read last ts).pieces := by
  induction ts generalizing pre with
  | nil => rfl
  | cons t ts ih =>
    have hpre : empty.takeAll read (pre ++ [t]) = (empty.takeAll read pre).take read t := by
      rw [takeAll_append]
      rfl
    have htail : ∀ us vs, ts = us ++ u :: vs →
        Admits read last (empty.takeAll read (pre ++ [t] ++ us)) vs := by
      rintro us vs rfl
      simpa using hadmits (t :: us) vs rfl
    have hrest := @ih (pre ++ [t]) (hpre ▸ hn.tail) htail (hpre ▸ hv)
    rw [hpre] at hrest
    by_cases ht : t = u
    · subst ht
      have hrestn : Unnegated read t (empty.takeAll read pre) ts := by
        simpa only [take_left_out hu hread] using hn.tail
      rw [take_left_out hu hread] at hrest
      simp only [finish_cons, take_filled_self hu, take_left_out hu hread] at hv ⊢
      rw [← hrest]
      apply verdict?_admitted ha (hn [] ts rfl)
      · have hadmits := hadmits [] ts rfl
        rw [List.append_nil] at hadmits
        exact hadmits.imp_right (And.imp_right (writesNext_filled a))
      · exact (finish_filled hu hread hrestn).invalid.trans hv
    · simp only [finish_cons, take_filled a ht]
      exact hrest

end Filled

def Passing (test : α → Option Bool) (b : Builder α) : Prop :=
  b.pieces = [] ∧ b.needsConnective = false ∨ b.needsConnective = true ∧ Passes test b.pieces

section Passing

variable {test : α → Option Bool} {b : Builder α}

lemma Passing.answer? (h : Passing test b) : answer? test b.pieces = some (some true) := by
  rcases h with ⟨hnil, -⟩ | ⟨-, hpasses⟩
  · simp [Formula.answer?, hnil]
  · cases hempty : b.pieces.isEmpty with
    | true => simp [Formula.answer?, hempty]
    | false => simpa [Formula.answer?, hempty] using hpasses.verdict?

lemma Passing.push (h : Passing test b) (hv : b.invalid = false) (hn : b.negateNext = false) {a : α}
    (ha : test a = some true) : Passing test (b.push (.condition a)) := by
  rcases h with ⟨hnil, hneeds⟩ | ⟨hneeds, hpasses⟩
  · refine Or.inr ⟨by simp [Builder.push, hv, emit], ?_⟩
    simpa [Builder.push, hv, emit, lead, hnil, hneeds, hn] using Formula.passes_term ha
  · have hconnective : (if b.disjoinNext then Piece.or else .and) = (.and : Piece α) ∨
        (if b.disjoinNext then Piece.or else .and) = (.or : Piece α) := by
      cases b.disjoinNext <;> simp
    have happend := hpasses.append ha hconnective
    refine Or.inr ⟨by simp [Builder.push, hv, emit], ?_⟩
    simpa [Builder.push, hv, emit, lead, hneeds, hn] using happend

lemma Passing.push_nothing (h : Passing test b) {r : Reading α} (hr : ∀ c, r ≠ .condition c) :
    Passing test (b.push r) := by
  cases hv : b.invalid with
  | true => simpa [Builder.push, hv] using h
  | false =>
    cases r with
    | condition c => exact absurd rfl (hr c)
    | everything => simpa [Builder.push] using h
    | invalid => cases hn : b.negateNext <;> simpa [Builder.push, hv, hn, Passing] using h

lemma push_ne_nil {r : Reading α} (hv : b.invalid = false) (h : (b.push r).pieces = []) (c : α) :
    r ≠ .condition c := by
  rintro rfl
  simp [push, hv, emit] at h

end Passing

section Filled

variable {u : Token} (hu : u.isTerm) (hread : read u = .everything) {test : α → Option Bool} {a : α}
  (ha : test a = some true)
include hu hread ha

lemma passing_filled {ts : List Token} (hn : Unnegated read u empty ts)
    (hv : (empty.takeAll read ts).invalid = false) (hnil : (empty.takeAll read ts).pieces = []) :
    Passing test (empty.takeAll (filled read u a) ts) := by
  induction ts using List.reverseRecOn with
  | nil => exact Or.inl ⟨rfl, rfl⟩
  | append_singleton ts t ih =>
    rw [takeAll_append] at hv hnil ⊢
    have hi : (empty.takeAll read ts).invalid = false := valid_of_takeAll hv
    have hwritten : (empty.takeAll read ts).pieces = [] := by
      rw [pieces_takeAll] at hnil
      exact (List.append_eq_nil_iff.mp hnil).1
    have hprefix : Unnegated read u empty ts := by
      rintro us vs rfl
      exact hn us (vs ++ [t]) (by simp)
    have hpassing := ih hprefix hi hwritten
    have habreast := abreast_takeAll hu hread a (.refl empty) hprefix
    by_cases ht : t = u
    · subst ht
      have hmarks : (empty.takeAll read ts).negateNext = false := hn ts [] rfl
      rw [takeAll_cons, takeAll_nil, take_filled_self hu]
      exact hpassing.push (habreast.invalid.trans hi) (habreast.negateNext.trans hmarks) ha
    · rw [takeAll_cons, takeAll_nil, take_filled a ht]
      cases t with
      | minus => exact hpassing
      | or => exact hpassing
      | opening => simp [take, openGroup, hi, emit] at hnil
      | closing => simp [take, closeGroup, hi] at hnil
      | command key value => exact hpassing.push_nothing (push_ne_nil hi hnil)
      | text words => exact hpassing.push_nothing (push_ne_nil hi hnil)

theorem answer?_filled {ts : List Token} (hn : Unnegated read u empty ts)
    (hplaced : (empty.finish read last ts).pieces = [] ∨
      ∀ us vs, ts = us ++ u :: vs → Admits read last (empty.takeAll read us) vs)
    (hv : (empty.finish read last ts).invalid = false) :
    answer? test (empty.finish (filled read u a) last ts).pieces =
      answer? test (empty.finish read last ts).pieces := by
  have habreast : Abreast (empty.finish read last ts) (empty.finish (filled read u a) last ts) :=
    finish_filled hu hread hn
  by_cases hnil : (empty.finish read last ts).pieces = []
  · have hi : (empty.takeAll read ts).invalid = false := valid_of_push hv
    have hbefore : (empty.takeAll read ts).pieces = [] := by
      rcases push_cases (empty.takeAll read ts) last with hp | ⟨c, hp⟩
      · exact hp.symm.trans hnil
      · simp [finish, hp] at hnil
    have hpassing := passing_filled hu hread ha hn hi hbefore
    have hlast : Passing test (empty.finish (filled read u a) last ts) :=
      hpassing.push_nothing (push_ne_nil hi hnil)
    rw [hlast.answer?, hnil]
    rfl
  · have hnil' : (empty.finish (filled read u a) last ts).pieces ≠ [] := mt habreast.pieces hnil
    have hverdict := @verdict?_filled _ read last u hu hread a test ha [] ts hn
      (hplaced.resolve_left hnil) hv
    simpa [answer?, hnil, hnil'] using hverdict

end Filled

end Builder

end CardQuery
