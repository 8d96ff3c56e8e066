import CardQuery.Proofs.Boolean.Answer
import CardQuery.Proofs.Search.Unreadable

/-!
A condition among others. Wherever a term stands in a query, the statement has its condition in
parentheses there, and is read as if it had the answer to the condition in that place.
-/

namespace CardQuery

namespace Formula

variable {α : Type} {test : α → Option Bool}

def around (before after : List (Piece α)) : List (Piece (Option α)) :=
  before.map (Piece.map some) ++ .term none :: after.map (Piece.map some)

lemma expand_around (before after ps : List (Piece α)) :
    (around before after).flatMap (Piece.expand fun o => o.elim ps fun a => [.term a]) =
      before ++ ps ++ after := by
  have hsome (qs : List (Piece α)) :
      (qs.map (Piece.map some)).flatMap (Piece.expand fun o : Option α => o.elim ps fun a => [.term a]) = qs := by
    rw [Statement.expand_map]
    induction qs with
    | nil => rfl
    | cons q qs ih =>
      rw [List.flatMap_cons, ih]
      cases q <;> rfl
  rw [around, List.flatMap_append, List.flatMap_cons, hsome, hsome, List.append_assoc]
  rfl

lemma verdict?_around {ps : List (Piece α)} {f : Formula α} (h : Written .unit ps f)
    (before after : List (Piece α)) : verdict? test (before ++ ps ++ after) =
      (ofPieces? (around before after)).map (holds? fun o => o.elim (f.holds? test) test) := by
  have hunit (o : Option α) :
      Written .unit (o.elim ps fun a => [.term a]) (o.elim f .term) := by
    cases o with
    | none => exact h
    | some a => exact .term a
  have hanswer (g : Formula (Option α)) : (g.bind fun o => o.elim f .term).holds? test =
      g.holds? fun o => o.elim (f.holds? test) test := by
    rw [holds?_bind]
    congr 1
    funext o
    cases o <;> rfl
  rw [verdict?, ← expand_around, ofPieces?_expand hunit, Option.map_map]
  exact Option.map_congr fun g _ => hanswer g

theorem verdict?_enclose {ps : List (Piece α)} {f : Formula α} (hf : Written .alternatives ps f) {a : α}
    (ha : f.holds? test = test a) (before after : List (Piece α)) :
    verdict? test (before ++ Piece.enclose ps ++ after) = verdict? test (before ++ .term a :: after) := by
  have hgroup : Written .unit (Piece.enclose ps) f := hf.group
  have hterm := @verdict?_around α test _ _ (.term a) before after
  rw [List.append_assoc, List.singleton_append] at hterm
  rw [hterm, verdict?_around hgroup, ha]
  rfl

end Formula

namespace Statement

def leading (scope : Scope) (ps : List (Piece Bound)) : List (Piece Test) :=
  ((match scope with
    | .cards => []
    | .cardsWithNotes => [.term (.own .ownNote), .and]) ++
      .opening :: ps.map (Piece.map .given)).flatMap (Piece.expand Operand.pieces)

lemma bind_pieces_around (scope : Scope) {ps qs : List (Piece Bound)} {b : Bound}
    (h : ∀ x, .term x ∈ ps ++ .term b :: qs → x.Filled) : ∃ after,
      Test.bind (Predicate.ofBound (ps ++ .term b :: qs)).args
          (pieces scope (.ofBound (ps ++ .term b :: qs))) =
        leading scope ps ++ Piece.enclose b.pieces ++ after := by
  refine ⟨(qs.map (Piece.map Operand.given) ++ [Piece.closing]).flatMap (Piece.expand Operand.pieces), ?_⟩
  rw [bind_pieces scope h]
  cases scope <;> simp [outline, leading, Piece.enclose, Piece.map, Piece.expand, Operand.pieces]

end Statement

namespace Query

variable {ctx : Context} {col : Collection}

def leading (ctx : Context) (col : Collection) (pre : List Token) : List (Piece Bound) :=
  (built ctx col pre).pieces ++ (built ctx col pre).lead

lemma exists_trailing {pre post : List Token} {t : Token} {b : Bound} {r : Reading Condition} (ht : t.isTerm)
    (hb : contribution ctx col t = .condition b)
    (hv : ((built ctx col (pre ++ t :: post)).push (withoutValues r)).invalid = false) :
    ∃ qs, ((built ctx col (pre ++ t :: post)).push (withoutValues r)).pieces =
      leading ctx col pre ++ .term b :: qs := by
  have hbuilt : built ctx col (pre ++ t :: post) =
      ((built ctx col pre).push (.condition b)).takeAll (contribution ctx col) post := by
    simp only [built, Builder.takeAll_append, Builder.takeAll_cons, Builder.take_of_isTerm ht, hb]
  obtain ⟨qs, hpush, -⟩ := Builder.nested_push (b := built ctx col (pre ++ t :: post)) (withoutValues r)
  have hbefore : (built ctx col pre).invalid = false := by
    have htaken := Builder.valid_of_push hv
    rw [hbuilt] at htaken
    exact Builder.valid_of_push (Builder.valid_of_takeAll htaken)
  have hterm : ((built ctx col pre).push (.condition b)).pieces = leading ctx col pre ++ [.term b] := by
    simp [Builder.push, hbefore, Builder.emit, leading]
  rw [hpush, hbuilt, Builder.pieces_takeAll, hterm]
  refine ⟨((built ctx col pre).push (.condition b)).added (contribution ctx col) post ++ qs, ?_⟩
  simp only [List.append_assoc, List.cons_append, List.nil_append]

/-- `OneUnit ctx col t c`: wherever the term stands in a query, `c` stands in parentheses in the
statement, behind what the tokens before the term come to, and the statement is read as if it had the
answer to `c` in that place. -/
def OneUnit (ctx : Context) (col : Collection) (t : Token) (c : Condition) : Prop :=
  ∀ scope pre, ∃ before, ∀ post p, compileTokens ctx col (pre ++ t :: post) = .ok (some p) → ∃ after,
    Test.bind p.args (Statement.pieces scope p) = before ++ Piece.enclose (Bound.pieces ⟨c, []⟩) ++ after ∧
    ∀ reviews row v, Bound.holds? reviews row ⟨c, []⟩ = some v →
      Formula.verdict? (Test.holds? reviews row) (before ++ Piece.enclose (Bound.pieces ⟨c, []⟩) ++ after) =
        Formula.verdict? (Test.holds? reviews row)
          (before ++ .term ⟨if v then .always else .never, []⟩ :: after)

theorem oneUnit {t : Token} {c : Condition} (ht : t.isTerm) (hc : contribution ctx col t = .condition ⟨c, []⟩) :
    OneUnit ctx col t c := by
  intro scope pre
  refine ⟨Statement.leading scope (leading ctx col pre), ?_⟩
  intro post p hp
  obtain ⟨r, hr, hv, rfl⟩ := compileTokens_eq_some hp
  have hfilled (x : Bound) := @filled_compiled ctx col _ _ hr x
  obtain ⟨qs, hqs⟩ := exists_trailing ht hc hv
  rw [hqs] at hfilled ⊢
  obtain ⟨after, hafter⟩ := Statement.bind_pieces_around scope hfilled
  refine ⟨after, hafter, ?_⟩
  intro reviews row v hholds
  obtain ⟨f, hf⟩ := Bound.written ⟨c, []⟩
  apply Formula.verdict?_enclose hf
  rw [← Bound.holds?_of_formula (Formula.ofPieces?_written hf), hholds]
  cases v <;> rfl

end Query

end CardQuery
