import CardQuery.Predicate.Builder
import CardQuery.Proofs.Boolean.Grammar

/-!
What the builder makes of a list of tokens. For a list that can be read, the pieces write its Boolean
reading, with a connective in front where one is due.
-/

namespace CardQuery

def Reading.map {α β : Type} (g : α → β) : Reading α → Reading β
  | condition a => condition (g a)
  | everything => everything
  | invalid => invalid

namespace Builder

variable {α β : Type}

def take (read : Token → Reading α) (b : Builder α) : Token → Builder α
  | .minus => b.negate
  | .or => b.disjoin
  | .opening => b.openGroup
  | .closing => b.closeGroup
  | t => b.push (read t)

def takeAll (read : Token → Reading α) (b : Builder α) (ts : List Token) : Builder α :=
  ts.foldl (take read) b

@[simp] lemma takeAll_nil (read : Token → Reading α) (b : Builder α) : b.takeAll read [] = b := rfl

@[simp] lemma takeAll_cons (read : Token → Reading α) (b : Builder α) (t : Token) (ts : List Token) :
    b.takeAll read (t :: ts) = (b.take read t).takeAll read ts := rfl

@[simp] lemma takeAll_append (read : Token → Reading α) (b : Builder α) (ts us : List Token) :
    b.takeAll read (ts ++ us) = (b.takeAll read ts).takeAll read us :=
  List.foldl_append

def after (b : Builder α) (ps : List (Piece α)) : Builder α :=
  ⟨b.pieces ++ b.lead ++ ps, false, false, true, false⟩

structure Ready (b : Builder α) : Prop where
  valid : b.invalid = false
  connective : b.disjoinNext = true → b.needsConnective = true

lemma emit_eq {b : Builder α} (h : b.Ready) (p : Piece α) : b.emit p = b.after [p] := by
  have hd : (b.disjoinNext && !b.needsConnective) = false := by
    cases hd : b.disjoinNext with
    | false => rfl
    | true => simp [h.connective hd]
  simp [emit, after, hd, h.valid]

lemma ready_empty : (empty : Builder α).Ready := ⟨rfl, by simp [empty]⟩

lemma ready_after (b : Builder α) (ps : List (Piece α)) : (b.after ps).Ready := ⟨rfl, by simp [after]⟩

lemma Ready.negate {b : Builder α} (h : b.Ready) : b.negate.Ready := ⟨h.valid, h.connective⟩

lemma openGroup_eq {b : Builder α} (h : b.Ready) :
    b.openGroup = { b.after [.opening] with needsConnective := false } := by
  simp [openGroup, h.valid, emit_eq h]

lemma closeGroup_after (b : Builder α) (ps : List (Piece α)) :
    (b.after ps).closeGroup = b.after (ps ++ [.closing]) := by
  simp [closeGroup, after]

lemma after_after (b : Builder α) (ps qs : List (Piece α)) :
    (b.after ps).after qs = b.after (ps ++ .and :: qs) := by
  simp [after, lead]

lemma disjoin_after_after (b : Builder α) (ps qs : List (Piece α)) :
    (b.after ps).disjoin.after qs = b.after (ps ++ .or :: qs) := by
  simp [after, disjoin, lead]

lemma negate_after {b : Builder α} (h : b.negateNext = false) (ps : List (Piece α)) :
    b.negate.after ps = b.after (.not :: ps) := by
  obtain ⟨pieces, _, disjoinNext, needsConnective, _⟩ := b
  subst h
  cases needsConnective <;> cases disjoinNext <;> simp [after, negate, lead]

def map (g : α → β) (b : Builder α) : Builder β :=
  ⟨b.pieces.map (Piece.map g), b.negateNext, b.disjoinNext, b.needsConnective, b.invalid⟩

lemma map_lead (g : α → β) (b : Builder α) : (b.map g).lead = b.lead.map (Piece.map g) := by
  obtain ⟨pieces, negateNext, disjoinNext, needsConnective, _⟩ := b
  cases negateNext <;> cases disjoinNext <;> cases needsConnective <;> rfl

lemma map_emit (g : α → β) (b : Builder α) (p : Piece α) :
    (b.map g).emit (p.map g) = (b.emit p).map g := by
  simp only [emit, map_lead]
  simp [map]

lemma map_push (g : α → β) (b : Builder α) (r : Reading α) :
    (b.map g).push (r.map g) = (b.push r).map g := by
  cases hi : b.invalid with
  | true => simp [push, map, hi]
  | false =>
    cases r with
    | condition a =>
      have hm : (b.map g).invalid = false := hi
      simpa [push, hi, hm, Reading.map, Piece.map] using map_emit g b (.term a)
    | everything => simp [push, map, hi, Reading.map]
    | invalid => cases hn : b.negateNext <;> simp [push, map, hi, hn, Reading.map]

lemma map_openGroup (g : α → β) (b : Builder α) : (b.map g).openGroup = b.openGroup.map g := by
  have he := map_emit g b .opening
  cases hi : b.invalid with
  | true => simp [openGroup, map, hi]
  | false =>
    have hm : (b.map g).invalid = false := hi
    simp only [openGroup, hi, hm, Bool.false_eq_true, if_false]
    rw [show (b.map g).emit .opening = (b.emit .opening).map g from he]
    rfl

lemma map_closeGroup (g : α → β) (b : Builder α) : (b.map g).closeGroup = b.closeGroup.map g := by
  cases hi : b.invalid <;> simp [closeGroup, map, hi, Piece.map]

lemma map_take (g : α → β) {read : Token → Reading α} {read' : Token → Reading β} {t : Token}
    (h : (read t).map g = read' t) (b : Builder α) :
    (b.map g).take read' t = (b.take read t).map g := by
  cases t with
  | minus => rfl
  | or => rfl
  | opening => exact map_openGroup g b
  | closing => exact map_closeGroup g b
  | command key value =>
    simp only [take, ← h]
    exact map_push g b _
  | text words =>
    simp only [take, ← h]
    exact map_push g b _

lemma mem_emit {b : Builder α} {p : Piece α} {a : α} (h : .term a ∈ (b.emit p).pieces) :
    .term a ∈ b.pieces ∨ .term a = p := by
  have hlead : .term a ∉ b.lead := by
    obtain ⟨_, negateNext, disjoinNext, needsConnective, _⟩ := b
    cases negateNext <;> cases disjoinNext <;> cases needsConnective <;> simp [lead]
  simpa [emit, hlead] using h

lemma mem_push {b : Builder α} {r : Reading α} {a : α} (h : .term a ∈ (b.push r).pieces) :
    .term a ∈ b.pieces ∨ r = .condition a := by
  cases hi : b.invalid with
  | true => exact Or.inl (by simpa [push, hi] using h)
  | false =>
    cases r with
    | condition c =>
      rcases mem_emit (p := .term c) (by simpa [push, hi] using h) with hb | ⟨⟨⟩⟩
      · exact Or.inl hb
      · exact Or.inr rfl
    | everything => exact Or.inl (by simpa [push, hi] using h)
    | invalid => cases hn : b.negateNext <;> exact Or.inl (by simpa [push, hi, hn] using h)

end Builder

def Piece.collect {α β : Type} (φ : α → List β) (ps : List (Piece α)) : List β :=
  ps.flatMap fun
    | .term a => φ a
    | _ => []

@[simp] lemma Piece.collect_append {α β : Type} (φ : α → List β) (ps qs : List (Piece α)) :
    collect φ (ps ++ qs) = collect φ ps ++ collect φ qs :=
  List.flatMap_append

lemma Piece.collect_cons {α β : Type} (φ : α → List β) (p : Piece α) (ps : List (Piece α)) :
    collect φ (p :: ps) = collect φ [p] ++ collect φ ps :=
  collect_append φ [p] ps

def Reading.Carries {α β : Type} (φ : α → List β) (notes : List β) : Reading α → Prop
  | condition a => notes = φ a
  | _ => notes = []

namespace Builder

variable {α β : Type}

def Noted (φ : α → List β) (notes : List β) (b : Builder α) : Prop :=
  b.invalid = false → notes = Piece.collect φ b.pieces

lemma collect_emit (φ : α → List β) (b : Builder α) (p : Piece α) :
    Piece.collect φ (b.emit p).pieces = Piece.collect φ b.pieces ++ Piece.collect φ [p] := by
  obtain ⟨_, negateNext, disjoinNext, needsConnective, _⟩ := b
  cases negateNext <;> cases disjoinNext <;> cases needsConnective <;>
    simp [emit, lead, Piece.collect]

namespace Noted

variable {φ : α → List β} {notes : List β} {b : Builder α}

lemma openGroup (h : Noted φ notes b) : Noted φ notes b.openGroup := by
  intro hv
  cases hb : b.invalid with
  | true => simp [Builder.openGroup, hb] at hv
  | false =>
    have hemit := collect_emit φ b .opening
    simpa [Builder.openGroup, hb, Piece.collect, h hb] using hemit.symm

lemma closeGroup (h : Noted φ notes b) : Noted φ notes b.closeGroup := by
  intro hv
  cases hb : b.invalid with
  | true => simp [Builder.closeGroup, hb] at hv
  | false => simp [Builder.closeGroup, hb, Piece.collect, h hb]

lemma push (h : Noted φ notes b) {r : Reading α} {more : List β} (hr : r.Carries φ more) :
    Noted φ (notes ++ more) (b.push r) := by
  intro hv
  cases hb : b.invalid with
  | true => simp [Builder.push, hb] at hv
  | false =>
    cases r with
    | condition a =>
      obtain rfl : more = φ a := hr
      have hemit := collect_emit φ b (.term a)
      simpa [Builder.push, hb, Piece.collect, h hb] using hemit.symm
    -- a reading that is left out, or dropped with its negation, has nothing to note
    | everything =>
      obtain rfl : more = [] := hr
      simpa [Builder.push, hb] using h hb
    | invalid =>
      obtain rfl : more = [] := hr
      cases hn : b.negateNext with
      | true => simpa [Builder.push, hb, hn] using h hb
      | false => simp [Builder.push, hb, hn] at hv

lemma take (h : Noted φ notes b) {read : Token → Reading α} {more : Token → List β}
    (hr : ∀ t, (read t).Carries φ (more t)) (hmark : ∀ t, ¬ t.isTerm → more t = []) (t : Token) :
    Noted φ (notes ++ more t) (b.take read t) := by
  cases t with
  | minus =>
    rw [hmark .minus (by decide), List.append_nil]
    exact h
  | or =>
    rw [hmark .or (by decide), List.append_nil]
    exact h
  | opening =>
    rw [hmark .opening (by decide), List.append_nil]
    exact h.openGroup
  | closing =>
    rw [hmark .closing (by decide), List.append_nil]
    exact h.closeGroup
  | command key value => exact h.push (hr _)
  | text words => exact h.push (hr _)

end Noted

variable (read : Token → Reading α) (value : Token → α)

variable {read} in
lemma mem_take {b : Builder α} {t : Token} {a : α} (h : .term a ∈ (b.take read t).pieces) :
    .term a ∈ b.pieces ∨ read t = .condition a := by
  cases t with
  | minus => exact Or.inl h
  | or => exact Or.inl h
  | opening =>
    cases hi : b.invalid with
    | true => exact Or.inl (by simpa [take, openGroup, hi] using h)
    | false =>
      rcases mem_emit (p := .opening) (by simpa [take, openGroup, hi] using h) with hb | ⟨⟨⟩⟩
      exact Or.inl hb
  | closing => cases hi : b.invalid <;> exact Or.inl (by simpa [take, closeGroup, hi] using h)
  | command key value => exact mem_push h
  | text words => exact mem_push h

variable {read} in
lemma mem_takeAll {b : Builder α} {ts : List Token} {a : α}
    (h : .term a ∈ (b.takeAll read ts).pieces) :
    .term a ∈ b.pieces ∨ ∃ t ∈ ts, read t = .condition a := by
  induction ts generalizing b with
  | nil => exact Or.inl h
  | cons t ts ih =>
    rcases ih h with hb | ⟨u, hu, hr⟩
    · rcases mem_take hb with hb | hr
      · exact Or.inl hb
      · exact Or.inr ⟨t, by simp, hr⟩
    · exact Or.inr ⟨u, by simp [hu], hr⟩

lemma takeAll_reads {part : Part} {ts : List Token} {f : Formula Token} (h : Token.Reads part ts f)
    (hread : ∀ t ∈ ts, t.isTerm → read t = .condition (value t)) :
    ∃ ps, Formula.Written part ps (f.map value) ∧ ∀ b : Builder α, b.Ready →
      (part ≠ .unit → b.negateNext = false) → b.takeAll read ts = b.after ps := by
  induction h with
  | @term t ht =>
    have hr := hread t (by simp) ht
    refine ⟨[.term (value t)], .term _, fun b hb _ => ?_⟩
    cases t <;> simp_all [Token.isTerm, take, push, hb.valid, emit_eq hb]
  | @group ts f _ ih =>
    obtain ⟨ps, hw, hps⟩ := ih fun t ht => hread t (by simp [ht])
    refine ⟨_, hw.group, fun b hb _ => ?_⟩
    have hinside := hps { b.after [.opening] with needsConnective := false } ⟨rfl, by simp [after]⟩
      fun _ => rfl
    simp only [List.cons_append, takeAll_cons, takeAll_append, take, openGroup_eq hb, hinside,
      closeGroup_after]
    simp [after, lead]
  | plain _ ih =>
    obtain ⟨ps, hw, hps⟩ := ih hread
    exact ⟨ps, hw.plain, fun b hb _ => hps b hb (by simp)⟩
  | negated _ ih =>
    obtain ⟨ps, hw, hps⟩ := ih fun t ht => hread t (by simp [ht])
    refine ⟨_, hw.negated, fun b hb hn => ?_⟩
    rw [takeAll_cons, take, hps _ hb.negate (by simp), negate_after (hn (by simp))]
  | first _ ih =>
    obtain ⟨ps, hw, hps⟩ := ih hread
    exact ⟨ps, hw.first, fun b hb hn => hps b hb fun _ => hn (by simp)⟩
  | and _ _ ihf ihg =>
    obtain ⟨ps, hw, hps⟩ := ihf fun t ht => hread t (by simp [ht])
    obtain ⟨qs, hw', hqs⟩ := ihg fun t ht => hread t (by simp [ht])
    refine ⟨_, hw.and hw', fun b hb hn => ?_⟩
    rw [takeAll_append, hps b hb fun _ => hn (by simp), hqs _ (ready_after b ps) fun _ => rfl,
      after_after]
  | only _ ih =>
    obtain ⟨ps, hw, hps⟩ := ih hread
    exact ⟨ps, hw.only, fun b hb hn => hps b hb fun _ => hn (by simp)⟩
  | or _ _ ihf ihg =>
    obtain ⟨ps, hw, hps⟩ := ihf fun t ht => hread t (by simp [ht])
    obtain ⟨qs, hw', hqs⟩ := ihg fun t ht => hread t (by simp [ht])
    refine ⟨_, hw.or hw', fun b hb hn => ?_⟩
    rw [takeAll_append, hps b hb fun _ => hn (by simp), takeAll_cons, take,
      hqs _ ⟨rfl, by simp [after, disjoin]⟩ fun _ => rfl, disjoin_after_after]

end Builder

theorem Token.Reads.unique {ts : List Token} {f g : Formula Token}
    (hf : Token.Reads .alternatives ts f) (hg : Token.Reads .alternatives ts g) : f = g := by
  obtain ⟨ps, hwf, hps⟩ := Builder.takeAll_reads .condition id hf fun _ _ _ => rfl
  obtain ⟨qs, hwg, hqs⟩ := Builder.takeAll_reads .condition id hg fun _ _ _ => rfl
  have hpieces := (hps _ Builder.ready_empty fun _ => rfl).symm.trans
    (hqs _ Builder.ready_empty fun _ => rfl)
  obtain rfl : ps = qs := congrArg Builder.pieces hpieces
  have hfg := (Formula.ofPieces?_written hwf).symm.trans (Formula.ofPieces?_written hwg)
  simpa only [Formula.map_id, Option.some_inj] using hfg

theorem Token.Means.unique {ts : List Token} {q q' : Option (Formula Token)}
    (h : Token.Means ts q) (h' : Token.Means ts q') : q = q' := by
  cases h with
  | nothing =>
    cases h' with
    | nothing => rfl
    | formula hf => exact absurd rfl hf.ne_nil
  | formula hf =>
    cases h' with
    | nothing => exact absurd rfl hf.ne_nil
    | formula hg => rw [hf.unique hg]

end CardQuery
