import CardQuery.Proofs.Collection.History
import CardQuery.Proofs.Search.Projections

/-!
What sorting does to the cards that are found. It puts them in order; and where it is the only reason to
look at notes at all, the cards whose note is not stored are no longer found.
-/

namespace CardQuery

def Column.ofNote : Column → Bool
  | card _ => false
  | note _ => true

lemma Atom.ofNote_of_places {a : Atom} (h : a.places ≠ 0) : a.ofNote := by
  cases a with
  | tagsLike => rfl
  | sortTextLike => rfl
  | blobLike => rfl
  | _ => exact absurd rfl h

lemma Test.places_eq_zero {ps : List (Piece Atom)} (h : ∀ a, .term a ∈ ps → a.places = 0) :
    places ps = 0 := by
  induction ps with
  | nil => rfl
  | cons p ps ih =>
    have hps := ih fun a ha => h a (List.mem_cons_of_mem _ ha)
    cases p with
    | term a => rw [places, h a List.mem_cons_self, hps]
    | _ => exact hps

namespace Predicate

def ofNote (p : Predicate) : Bool := Text.contains ['n', '.'] p.text.toList

end Predicate

namespace Order

def sortsByNote (config : Config) : Bool := (builtin config.sortType).any (·.column.ofNote)

lemma builtin_cases (sortType : String) :
    builtin sortType = byNote ∨ ∃ b ∈ builtins, builtin sortType = b.2 := by
  show ((builtins.find? fun b => b.1.toList.isPrefixOf sortType.toList).map (·.2)).getD byNote = _ ∨
    ∃ b ∈ builtins, ((builtins.find? fun b => b.1.toList.isPrefixOf sortType.toList).map (·.2)).getD
      byNote = _
  cases hfind : builtins.find? fun b => b.1.toList.isPrefixOf sortType.toList with
  | none => exact Or.inl rfl
  | some b => exact Or.inr ⟨b, List.mem_of_find?_eq_some hfind, rfl⟩

lemma contains_builtin (config : Config) :
    Text.contains ['n', '.'] (keys (builtin config.sortType)).clause.toList = sortsByNote config := by
  have hbyNote : Text.contains ['n', '.'] (keys byNote).clause.toList =
      byNote.any (·.column.ofNote) := by decide
  have hbuiltins : ∀ b ∈ builtins, Text.contains ['n', '.'] (keys b.2).clause.toList =
      b.2.any (·.column.ofNote) := by decide
  rw [sortsByNote]
  rcases builtin_cases config.sortType with hdefault | ⟨b, hb, hbuiltin⟩
  · rw [hdefault, hbyNote]
  · rw [hbuiltin, hbuiltins b hb]

end Order

namespace Statement

variable {col : Collection} {p : Predicate}

lemma scope_cards (p : Predicate) (order : String) : Projection.cards.scope p.text order =
    if p.ofNote || Text.contains ['n', '.'] order.toList then .cardsWithNotes else .cards := by
  by_cases hp : p.ofNote <;> by_cases horder : Text.contains ['n', '.'] order.toList <;>
    simp_all [Projection.scope, Predicate.ofNote]

lemma scope_unordered (p : Predicate) :
    Projection.cards.scope p.text (Projection.cards.order Order.unordered.clause) =
      if p.ofNote then .cardsWithNotes else .cards := by
  have hclause : Text.contains ['n', '.']
      (Projection.cards.order Order.unordered.clause).toList = false := by decide
  rw [scope_cards, hclause, Bool.or_false]

lemma scope_builtin (p : Predicate) (config : Config) :
    Projection.cards.scope p.text
        (Projection.cards.order (Order.keys (Order.builtin config.sortType)).clause) =
      if p.ofNote || Order.sortsByNote config then .cardsWithNotes else .cards := by
  have hclause : Projection.cards.order (Order.keys (Order.builtin config.sortType)).clause =
      (Order.keys (Order.builtin config.sortType)).clause := rfl
  rw [scope_cards, hclause, Order.contains_builtin]

lemma run?_perm {order order' : Order}
    (hscope : Projection.cards.scope p.text (Projection.cards.order order.clause) =
      Projection.cards.scope p.text (Projection.cards.order order'.clause))
    (hkeys : ∀ scope, ∃ keys, order.keys? scope = some keys)
    (hkeys' : ∀ scope, ∃ keys, order'.keys? scope = some keys) :
    Option.Rel (fun found found' => (found'.map (·.card.id)).Perm (found.map (·.card.id)))
      (run? col .cards p order) (run? col .cards p order') := by
  simp only [run?, hscope]
  generalize Projection.cards.scope p.text (Projection.cards.order order'.clause) = scope
  obtain ⟨keys, hkeys⟩ := hkeys scope
  obtain ⟨keys', hkeys'⟩ := hkeys' scope
  simp only [reduceCtorEq, if_false, hkeys, hkeys', Option.bind_eq_bind, Option.bind_some]
  cases formula? scope p with
  | none => exact .none
  | some f =>
    rw [Option.bind_some, Option.bind_some]
    cases Table.keep? (fun row => f.evaluate? Test.isVain (Test.holds? col.reviews.rows row))
        (rows col scope) with
    | none => exact .none
    | some found =>
      exact .some (((Sorting.sort_perm ..).trans (Sorting.sort_perm ..).symm).map _)

end Statement

namespace Query

open Statement

variable {ctx : Context} {col : Collection} {query : String}

lemma answers_of_not_ofNote {b : Bound} (hb : b.Filled) (h : ¬ b.ofNote) : Answers b := by
  have hplaces : Test.places b.condition.pieces = 0 := by
    apply Test.places_eq_zero
    intro a ha
    by_contra hne
    exact h ⟨a, ha, Atom.ofNote_of_places hne⟩
  have hvalues : b.values = [] := List.eq_nil_of_length_eq_zero (hb.trans hplaces)
  exact ⟨hb, by simp [hvalues]⟩

def losesCards (config : Config) (predicate : Option Predicate) : Bool :=
  Order.sortsByNote config && !predicate.any Predicate.ofNote

lemma findCards_of_rel {f : List Int → List Int} (hnil : f [] = []) {p : Predicate}
    (hcompile : compile ctx col query = .ok (some p))
    (h : Option.Rel (fun plain sorted => (sorted.map (·.card.id)).Perm (f (plain.map (·.card.id))))
      (run? col .cards p .unordered) (run? col .cards p (.keys (Order.builtin ctx.config.sortType)))) :
    ∃ plain sorted, Search.findCards ctx col query .unordered = .ok plain ∧
      Search.findCards ctx col query (.builtin true) = .ok sorted ∧ sorted.Perm (f plain) := by
  simp only [Search.findCards, hcompile, Except.map, OrderRequest.resolve]
  generalize run? col .cards p .unordered = plain,
    run? col .cards p (.keys (Order.builtin ctx.config.sortType)) = sorted at h
  cases h with
  | none => exact ⟨[], [], rfl, rfl, by rw [hnil]⟩
  | some h => exact ⟨_, _, rfl, rfl, (Search.arrange_perm ..).trans h⟩

lemma run?_builtin_filter {p : Predicate} (hcompile : compile ctx col query = .ok (some p))
    (hclosing : ∀ us, us <+: Token.ofQuery query → us.count .closing ≤ us.count .opening)
    (hfits : p.fits) (hp : p.ofNote = false) (hsort : Order.sortsByNote ctx.config) :
    Option.Rel (fun plain sorted =>
        (sorted.map (·.card.id)).Perm ((plain.map (·.card.id)).filter col.hasNote))
      (run? col .cards p .unordered)
      (run? col .cards p (.keys (Order.builtin ctx.config.sortType))) := by
  have hscope : Projection.cards.scope p.text (Projection.cards.order Order.unordered.clause) = .cards := by
    simp [scope_unordered, hp]
  have hscope' : Projection.cards.scope p.text (Projection.cards.order
      (Order.keys (Order.builtin ctx.config.sortType)).clause) = .cardsWithNotes := by
    simp [scope_builtin, hsort]
  by_cases hts : Token.nested 0 (Token.ofQuery query)
  · obtain ⟨r, hr, hv, rfl⟩ := compileTokens_eq_some hcompile
    have hbs : Answerable ((built ctx col (Token.ofQuery query)).push (withoutValues r)).pieces := by
      refine ⟨hfits, fun b hb => ?_⟩
      apply answers_of_not_ofNote (filled_compiled hr hb)
      intro hnote
      rw [scope_of_ofNote hb hnote] at hscope
      cases hscope
    have hn := nested_finish hts hv
    rw [run?_predicate _ _ _ hbs.filled, run?_predicate _ _ _ hbs.filled]
    cases hread : Formula.ofPieces? (outline .cards
        ((built ctx col (Token.ofQuery query)).push (withoutValues r)).pieces) with
    | none =>
      rw [select?_eq_none_of_outline hn hread, select?_eq_none_of_outline hn hread]
      exact .none
    | some g =>
      obtain ⟨plain, hplain, hpicks⟩ := @select?_alone col _ g .unordered hscope hread
        (fits_outline hbs.filled hn hfits hread) [] rfl
      obtain ⟨sorted, hsorted, hpicks', hjoined⟩ := @select?_joined col _ g .cards
        (.keys (Order.builtin ctx.config.sortType)) hscope' hn hread _ rfl hbs
      rw [hplain, hsorted]
      exact .some (hpicks.perm_filter hpicks' hjoined)
  -- a group is left open, and the parentheses of the statement do not close it
  · rw [run?_eq_none_of_unclosed hclosing hts hcompile, run?_eq_none_of_unclosed hclosing hts hcompile]
    exact .none

def looseCard : Card := ⟨14, 9, 1, 0, 0, 0, 0, 0, 0, 0, 0, 0, 0⟩

end Query

end CardQuery
