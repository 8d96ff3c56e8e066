import CardQuery.Proofs.Boolean.Nesting
import CardQuery.Proofs.Collection.Table
import CardQuery.Proofs.Query.Condition
import CardQuery.Search.Statement
import Mathlib.Data.List.Nodup

/-!
What a statement selects. Its condition is read as the predicate is, where every condition of the
predicate is evaluated on its own and with its own values.
-/

namespace CardQuery

lemma Predicate.isEmpty_text (p : Predicate) : p.text.isEmpty = p.pieces.isEmpty := by
  obtain ⟨pieces, args⟩ := p
  cases pieces with
  | nil => rfl
  | cons p ps =>
    cases p <;> simp [text, atoms, Piece.expand, Piece.textOf, Piece.text, Piece.enclose]

def Predicate.fits (p : Predicate) : Bool :=
  (Formula.ofPieces? (Test.bind p.args (Statement.pieces .cardsWithNotes p))).all
    (·.fits Test.extent? p.args.length)

namespace Statement

open Formula (Written ofPieces?)

inductive Operand where
  | own (a : Atom)
  | given (b : Bound)

namespace Operand

def pieces : Operand → List (Piece Test)
  | own a => [.term ⟨a, []⟩]
  | given b => Piece.enclose b.pieces

lemma written (o : Operand) : ∃ f, Written .unit o.pieces f := by
  cases o with
  | own a => exact ⟨_, .term _⟩
  | given b =>
    obtain ⟨f, hf⟩ := b.written
    exact ⟨f, hf.group⟩

def holds? (reviews : List Review) (row : Row) : Operand → Option Bool
  | own a => a.holds? reviews row []
  | given b => b.holds? reviews row

def extent? : Operand → Option Extent
  | own a => some a.extent
  | given b => b.extent?

def isVain : Operand → Bool
  | own a => a.extent == .vain
  | given b => b.isVain

lemma holds?_ne_of_isVain {o : Operand} (h : o.isVain) (reviews : List Review) (row : Row) :
    o.holds? reviews row ≠ some true := by
  cases o with
  | own a => exact Test.holds?_ne_of_isVain (t := ⟨a, []⟩) h reviews row
  | given b => exact Bound.holds?_ne_of_isVain h reviews row

lemma ofPieces?_of_written {b : Bound} {f : Formula Test} (h : Written .unit (given b).pieces f) :
    ofPieces? b.pieces = some f := by
  obtain ⟨g, hg⟩ := b.written
  rw [Formula.ofPieces?_written hg, ← Formula.ofPieces?_written hg.group.single]
  exact Formula.ofPieces?_written h.single

lemma eq_of_written {a : Atom} {f : Formula Test} (h : Written .unit (own a).pieces f) :
    f = .term ⟨a, []⟩ := by
  cases Formula.ofPieces?_written h.single
  rfl

variable {o : Operand} {f : Formula Test}

lemma extent?_written (h : Written .unit o.pieces f) : f.extent? Test.extent? = o.extent? := by
  cases o with
  | own a =>
    rw [eq_of_written h]
    rfl
  | given b => simp [extent?, Bound.extent?, ofPieces?_of_written h]

lemma isVain_written (h : Written .unit o.pieces f) : f.isVain Test.isVain = o.isVain := by
  cases o with
  | own a =>
    rw [eq_of_written h]
    rfl
  | given b => simp [isVain, Bound.isVain, ofPieces?_of_written h]

lemma evaluate?_written (h : Written .unit o.pieces f) (reviews : List Review) (row : Row) :
    f.evaluate? Test.isVain (Test.holds? reviews row) = o.holds? reviews row := by
  cases o with
  | own a =>
    rw [eq_of_written h]
    rfl
  | given b => exact Bound.evaluate?_eq_holds? (ofPieces?_of_written h) reviews row

end Operand

def outline (scope : Scope) (bs : List (Piece Bound)) : List (Piece Operand) :=
  (match scope with
    | .cards => []
    | .cardsWithNotes => [.term (.own .ownNote), .and]) ++
  (if bs.isEmpty then [.term (.own .always)] else Piece.enclose (bs.map (Piece.map .given)))

lemma expand_map {α β γ : Type} (g : α → β) (pieces : β → List (Piece γ)) (ps : List (Piece α)) :
    (ps.map (Piece.map g)).flatMap (Piece.expand pieces) =
      ps.flatMap (Piece.expand fun a => pieces (g a)) := by
  rw [List.flatMap_map]
  congr 1
  funext p
  cases p <;> rfl

lemma expand_enclose {α β : Type} (pieces : α → List (Piece β)) (ps : List (Piece α)) :
    (Piece.enclose ps).flatMap (Piece.expand pieces) =
      Piece.enclose (ps.flatMap (Piece.expand pieces)) := by
  simp [Piece.enclose, Piece.expand]

lemma bind_enclose_atoms {bs : List (Piece Bound)} (h : ∀ b, .term b ∈ bs → b.Filled) :
    Test.bind (Predicate.ofBound bs).args (Piece.enclose (Predicate.ofBound bs).atoms) =
      (Piece.enclose (bs.map (Piece.map .given))).flatMap (Piece.expand Operand.pieces) := by
  have hatoms : (Predicate.ofBound bs).atoms =
      bs.flatMap (Piece.expand fun b => Piece.enclose b.condition.pieces) :=
    expand_map ..
  have hbind := Test.bind_enclose (Bound.length_valuesOf h) [] []
  simp only [List.append_nil, Bound.bind_valuesOf h] at hbind
  rw [hatoms, expand_enclose, expand_map]
  simpa [Test.bind, Predicate.ofBound, Operand.pieces] using hbind

lemma bind_pieces (scope : Scope) {bs : List (Piece Bound)} (h : ∀ b, .term b ∈ bs → b.Filled) :
    Test.bind (Predicate.ofBound bs).args (pieces scope (.ofBound bs)) =
      (outline scope bs).flatMap (Piece.expand Operand.pieces) := by
  have hclause : Test.bind (Predicate.ofBound bs).args
      (if (Predicate.ofBound bs).pieces.isEmpty then [.term .always] else
        Piece.enclose (Predicate.ofBound bs).atoms) =
      (if bs.isEmpty then [.term (.own .always)] else
        Piece.enclose (bs.map (Piece.map .given))).flatMap (Piece.expand Operand.pieces) := by
    have hempty : (Predicate.ofBound bs).pieces.isEmpty = bs.isEmpty := by simp [Predicate.ofBound]
    rw [hempty]
    split
    · rfl
    · exact bind_enclose_atoms h
  cases scope with
  | cards => exact hclause
  | cardsWithNotes =>
    simpa [pieces, outline, Test.bind, Piece.expand, Operand.pieces, Atom.places] using hclause

def source : Scope → String
  | .cards => " from cards c where "
  | .cardsWithNotes => " from cards c, notes n where "

theorem text_predicate (p : Projection) (predicate : Predicate) (order : String) :
    text p predicate.text order =
      p.select ++ source (p.scope predicate.text (p.order order)) ++
        Piece.textOf Atom.text (pieces (p.scope predicate.text (p.order order)) predicate) ++
          p.order order := by
  have hwhere : (if predicate.text.isEmpty then "1" else "(" ++ predicate.text ++ ")") =
      Piece.textOf Atom.text
        (if predicate.pieces.isEmpty then [.term .always] else Piece.enclose predicate.atoms) := by
    rw [predicate.isEmpty_text]
    split
    · rfl
    · rw [Piece.textOf_enclose]
      rfl
  show p.select ++ scopeText (p.scope predicate.text (p.order order)) ++ _ ++ p.order order = _
  generalize p.scope predicate.text (p.order order) = scope
  rw [hwhere]
  unfold pieces
  rw [Piece.textOf_append]
  cases scope with
  | cards => simp [scopeText, source, Piece.textOf, String.append_assoc]
  | cardsWithNotes =>
    have hsource : scopeText .cardsWithNotes =
        source .cardsWithNotes ++ Piece.textOf Atom.text [.term .ownNote, .and] := by decide
    simp only [hsource, String.append_assoc]

lemma ofPieces?_outline {bs : List (Piece Bound)} (hne : bs ≠ []) (hn : Piece.nested 0 bs) :
    ofPieces? (outline .cardsWithNotes bs) =
      (ofPieces? bs).map fun f => .and (.term (.own .ownNote)) (f.map .given) := by
  have hempty : bs.isEmpty = false := by simpa using hne
  have hmap : Piece.nested 0 (bs.map (Piece.map Operand.given)) := by rwa [Piece.nested_map]
  have hread := Formula.read?_enclose hmap [] ⟨none, some (.term (.own .ownNote)), 0⟩ []
  rw [Formula.ofPieces?_map, List.append_nil] at hread
  simp only [outline, hempty, Bool.false_eq_true, if_false]
  apply hread.trans
  cases ofPieces? bs <;> rfl

lemma ofPieces?_outline_cards {bs : List (Piece Bound)} (hne : bs ≠ []) (hn : Piece.nested 0 bs) :
    ofPieces? (outline .cards bs) = (ofPieces? bs).map (.map .given) := by
  have hempty : bs.isEmpty = false := by simpa using hne
  have hmap : Piece.nested 0 (bs.map (Piece.map Operand.given)) := by rwa [Piece.nested_map]
  have hcards := Formula.read?_enclose hmap [] .start []
  rw [Formula.ofPieces?_map, List.append_nil] at hcards
  simp only [outline, hempty, Bool.false_eq_true, if_false]
  apply hcards.trans
  cases ofPieces? bs <;> rfl

lemma ofPieces?_outline_notes {bs : List (Piece Bound)} (hn : Piece.nested 0 bs) :
    ofPieces? (outline .cardsWithNotes bs) =
      (ofPieces? (outline .cards bs)).map (.and (.term (.own .ownNote))) := by
  by_cases hne : bs = []
  · subst hne
    rfl
  · rw [ofPieces?_outline hne hn, ofPieces?_outline_cards hne hn, Option.map_map]
    rfl

/-- The rows that a statement selects, where its operands are evaluated one by one. -/
def select? (col : Collection) (p : Projection) (bs : List (Piece Bound)) (order : Order) :
    Option (List Row) := do
  let scope := p.scope (Predicate.ofBound bs).text (p.order order.clause)
  let formula ← (ofPieces? (outline scope bs)).filter
    (·.fits Operand.extent? (Predicate.ofBound bs).args.length)
  let keys ← if p = .notes then some [] else order.keys? scope
  let found ← Table.keep?
    (fun row => formula.evaluate? Operand.isVain (Operand.holds? col.reviews.rows row)) (rows col scope)
  return SortKey.sort keys found

section

variable {φ : Operand → Formula Test} (hφ : ∀ o, Written .unit o.pieces (φ o))
include hφ

lemma fits_bind (g : Formula Operand) (values : ℕ) :
    (g.bind φ).fits Test.extent? values = g.fits Operand.extent? values := by
  simp only [Formula.fits, Formula.extent?_bind, Operand.extent?_written (hφ _)]

lemma ofPieces?_pieces (scope : Scope) {bs : List (Piece Bound)} (h : ∀ b, .term b ∈ bs → b.Filled) :
    ofPieces? (Test.bind (Predicate.ofBound bs).args (pieces scope (.ofBound bs))) =
      (ofPieces? (outline scope bs)).map (.bind φ) := by
  rw [bind_pieces _ h, Formula.ofPieces?_expand hφ]

lemma formula?_ofBound (scope : Scope) {bs : List (Piece Bound)} (h : ∀ b, .term b ∈ bs → b.Filled) :
    formula? scope (.ofBound bs) = ((ofPieces? (outline scope bs)).filter
      (·.fits Operand.extent? (Predicate.ofBound bs).args.length)).map (.bind φ) := by
  rw [formula?, ofPieces?_pieces hφ scope h, Option.filter_map]
  simp only [Function.comp_def, fits_bind hφ]

end

lemma fits_ofBound {bs : List (Piece Bound)} (h : ∀ b, .term b ∈ bs → b.Filled) :
    (Predicate.ofBound bs).fits = (ofPieces? (outline .cardsWithNotes bs)).all
      (·.fits Operand.extent? (Predicate.ofBound bs).args.length) := by
  choose φ hφ using Operand.written
  rw [Predicate.fits, ofPieces?_pieces hφ _ h]
  cases ofPieces? (outline .cardsWithNotes bs) with
  | none => rfl
  | some g => exact fits_bind hφ g _

lemma fits_joined {bs : List (Piece Bound)} (h : ∀ b, .term b ∈ bs → b.Filled)
    (hfits : (Predicate.ofBound bs).fits) {g : Formula Operand}
    (hread : ofPieces? (outline .cardsWithNotes bs) = some g) :
    g.fits Operand.extent? (Predicate.ofBound bs).args.length := by
  rwa [fits_ofBound h, hread] at hfits

lemma fits_outline {bs : List (Piece Bound)} (h : ∀ b, .term b ∈ bs → b.Filled)
    (hn : Piece.nested 0 bs) (hfits : (Predicate.ofBound bs).fits) {scope : Scope}
    {g : Formula Operand} (hread : ofPieces? (outline scope bs) = some g) :
    g.fits Operand.extent? (Predicate.ofBound bs).args.length := by
  cases scope with
  | cardsWithNotes => exact fits_joined h hfits hread
  | cards =>
    -- the statement over the cards alone has one conjunct less
    have hown : Formula.extent? Operand.extent? (.term (.own .ownNote)) ≠ some .vain := by decide
    apply Formula.fits_of_and hown
    apply fits_joined h hfits
    rw [ofPieces?_outline_notes hn, hread]
    rfl

section

variable {b : Bound} (hb : b.Filled)
include hb

lemma fits_single : (Predicate.ofBound [.term b]).fits =
    (b.extent?.bind (Extent.tree 3 0).and?).any (·.fits b.values.length) := by
  have hread : ofPieces? (outline .cardsWithNotes [.term b]) =
      some (.and (.term (.own .ownNote)) (.term (.given b))) := rfl
  have hargs : (Predicate.ofBound [.term b]).args = b.values := by
    simp [Predicate.ofBound, Bound.valuesOf]
  rw [fits_ofBound (by simpa using hb), hread, hargs]
  rfl

lemma fits_alone {e : Extent} (he : b.extent? = some e) (hsize : max 3 e.height + e.inner < Extent.deepest)
    (hvalues : b.values.length ≤ Extent.mostValues) : (Predicate.ofBound [.term b]).fits := by
  rw [fits_single hb, he, Option.bind_some]
  cases e with
  | vain => simpa [Extent.and?, Extent.fits, Extent.height, Extent.inner, Extent.deepest] using hvalues
  | tree height inner =>
    simp only [Extent.height, Extent.inner] at hsize
    have hand : (Extent.tree 3 0).and? (.tree height inner) =
        some (.tree (max 3 height + 1) inner) := by
      rw [Extent.and?, Extent.or?, Extent.tree?_eq_some]
      · simp only [Extent.height, Extent.inner, Nat.zero_max, and_true]
        omega
      · simp
      · simp
    simp only [hand, Option.any_some, Extent.fits, Bool.and_eq_true, decide_eq_true_eq]
    refine ⟨?_, hvalues⟩
    simp only [Extent.height, Extent.inner]
    omega

lemma fits_list (hvalues : b.values = []) {ids : List Int}
    (he : b.extent? = some (Atom.listExtent ids)) : (Predicate.ofBound [.term b]).fits := by
  refine fits_alone hb he ?_ (by simp [hvalues])
  match ids with
  | [] => decide
  | [n] =>
    simp only [Atom.listExtent, Atom.literalHeight, Extent.height, Extent.inner]
    split <;> decide
  | _ :: _ :: _ => exact (by decide : max 3 3 + 0 < Extent.deepest)

lemma not_fits_alone (h : ∀ e, b.extent? = some e → e ≠ .vain ∧ Extent.deepest ≤ e.height) :
    (Predicate.ofBound [.term b]).fits = false := by
  rw [fits_single hb]
  cases he : b.extent? with
  | none => rfl
  | some e =>
    obtain ⟨hvain, hheight⟩ := h e he
    cases e with
    | vain => exact absurd rfl hvain
    | tree height inner =>
      have hand : (Extent.tree 3 0).and? (.tree height inner) = none := by
        rw [Option.eq_none_iff_forall_ne_some]
        intro whole hwhole
        obtain ⟨hle, -⟩ := Extent.tree?_eq_some.mp hwhole
        simp only [Extent.height] at hheight hle
        omega
      rw [Option.bind_some, hand]
      rfl

end

/-- The conditions of a predicate are evaluated one by one and with their own values, wherever the
connectives and parentheses inside them stand in the statement. -/
theorem run?_predicate (col : Collection) (p : Projection) (order : Order) {bs : List (Piece Bound)}
    (h : ∀ b, .term b ∈ bs → b.Filled) :
    run? col p (.ofBound bs) order = select? col p bs order := by
  choose φ hφ using Operand.written
  simp only [run?, select?, formula?_ofBound hφ _ h, Option.bind_eq_bind, Option.bind_map,
    Function.comp_def, Formula.evaluate?_bind, Operand.isVain_written (hφ _),
    Operand.evaluate?_written (hφ _)]

lemma run?_eq_none_of_not_fits {col : Collection} {p : Predicate} (hp : p.fits = false)
    {projection : Projection} {order : Order}
    (hscope : projection.scope p.text (projection.order order.clause) = .cardsWithNotes) :
    run? col projection p order = none := by
  have hformula : formula? .cardsWithNotes p = none := by
    rw [formula?, Option.filter_eq_none_iff]
    intro f hf
    rw [Predicate.fits, hf, Option.all_some] at hp
    simp [hp]
  simp only [run?, hscope, hformula]
  rfl

lemma nodup_rows (col : Collection) (scope : Scope) : (rows col scope).Nodup := by
  cases scope with
  | cards =>
    apply col.cards.nodup.map
    intro a b h
    exact congrArg Row.card h
  | cardsWithNotes =>
    refine List.nodup_flatMap.mpr ⟨fun c _ => ?_, ?_⟩
    · apply col.notes.nodup.map
      intro a b h
      simpa using h
    · apply col.cards.nodup.imp
      intro a b hab
      simp only [Function.onFun, List.disjoint_left, List.mem_map]
      rintro _ ⟨m, -, rfl⟩ ⟨n, -, h⟩
      exact hab (congrArg Row.card h).symm

lemma mem_rows_cards {col : Collection} {row : Row} :
    row ∈ rows col .cards ↔ row.card ∈ col.cards.rows ∧ row.note = none := by
  obtain ⟨c, n⟩ := row
  simp only [rows, List.mem_map, Row.mk.injEq]
  constructor
  · rintro ⟨c, hc, rfl, rfl⟩
    exact ⟨hc, rfl⟩
  · rintro ⟨hc, rfl⟩
    exact ⟨c, hc, rfl, rfl⟩

lemma mem_rows_cardsWithNotes {col : Collection} {row : Row} :
    row ∈ rows col .cardsWithNotes ↔
      row.card ∈ col.cards.rows ∧ ∃ n ∈ col.notes.rows, row.note = some n := by
  obtain ⟨c, n⟩ := row
  simp only [rows, List.mem_flatMap, List.mem_map]
  constructor
  · rintro ⟨c, hc, n, hn, ⟨⟩⟩
    exact ⟨hc, n, hn, rfl⟩
  · rintro ⟨hc, m, hm, rfl⟩
    exact ⟨c, hc, m, hm, rfl⟩

lemma select?_congr {col : Collection} {bs bs' : List (Piece Bound)} {order : Order} {scope : Scope}
    (hscope : Projection.cards.scope (Predicate.ofBound bs).text order.clause = scope)
    (hscope' : Projection.cards.scope (Predicate.ofBound bs').text order.clause = scope)
    (h : Option.Rel (fun g g' =>
      g.fits Operand.extent? (Predicate.ofBound bs).args.length =
          g'.fits Operand.extent? (Predicate.ofBound bs').args.length ∧
        ∀ row ∈ rows col scope, g.evaluate? Operand.isVain (Operand.holds? col.reviews.rows row) =
          g'.evaluate? Operand.isVain (Operand.holds? col.reviews.rows row))
      (ofPieces? (outline scope bs)) (ofPieces? (outline scope bs'))) :
    select? col .cards bs order = select? col .cards bs' order := by
  have horder : Projection.cards.order order.clause = order.clause := rfl
  simp only [select?, horder, hscope, hscope']
  generalize ofPieces? (outline scope bs) = q, ofPieces? (outline scope bs') = q' at h ⊢
  cases h with
  | none => rfl
  | @some g g' hg =>
    obtain ⟨hfits, heval⟩ := hg
    simp only [Option.filter_some, hfits]
    split
    · simp only [Option.bind_eq_bind, Option.bind_some]
      rw [Table.keep?_congr heval]
    · rfl

end Statement

end CardQuery
