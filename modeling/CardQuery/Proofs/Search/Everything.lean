import CardQuery.Proofs.Boolean.Vacuous
import CardQuery.Proofs.Search.Sorting
import CardQuery.Proofs.Search.Success

/-!
The term for every deck, which is left out of the predicate, and the term for every tag, which every note
meets. They find the same, unless a mark was meant for the term that is left out.
-/

namespace CardQuery

namespace Token

def everyDeck : Token := .command "deck" "*"

def everyTag : Token := .command "tag" "*"

def retagged (t : Token) : Token := if t = everyDeck then everyTag else t

lemma forall_split {ts : List Token} {t : Token} {P : List Token → List Token → Prop}
    (h : ∀ i < ts.length, ts[i]? = some t → P (ts.take i) (ts.drop (i + 1))) :
    ∀ us vs, ts = us ++ t :: vs → P us vs := by
  rintro us vs rfl
  simpa using h us.length (by simp) (by simp)

lemma nested_retagged (depth : ℕ) (ts : List Token) :
    nested depth (ts.map retagged) = nested depth ts := by
  induction ts generalizing depth with
  | nil => rfl
  | cons t ts ih =>
    cases t with
    | opening => exact ih (depth + 1)
    | closing =>
      cases depth with
      | zero => rfl
      | succ depth => exact ih depth
    | command key value =>
      have hterm : (retagged (.command key value)).isTerm := by
        rw [retagged]
        split <;> rfl
      rw [List.map_cons, nested_cons_of_isTerm hterm, ih]
      rfl
    | _ => exact ih depth

lemma fieldTerm?_retagged (t : Token) : (retagged t).fieldTerm? = t.fieldTerm? := by
  by_cases ht : t = everyDeck
  · subst ht
    decide
  · rw [retagged, if_neg ht]

end Token

namespace Order

def ReadsAlike (o : Order) : Prop :=
  Text.contains ['n', '.'] o.clause.toList ∨ ((o.keys? .cards).isSome ↔ (o.keys? .cardsWithNotes).isSome)

lemma readsAlike_resolve {request : OrderRequest} (h : ∀ s, request ≠ .written s) (config : Config) :
    (request.resolve config).order.ReadsAlike := by
  apply Or.inr
  cases request with
  | unordered => exact Iff.rfl
  | builtin wanted => cases wanted <;> exact Iff.rfl
  | written s => exact absurd rfl (h s)

lemma ReadsAlike.isSome_iff {o : Order} (h : o.ReadsAlike) (p p' : Predicate) :
    (o.keys? (Projection.cards.scope p.text o.clause)).isSome ↔
      (o.keys? (Projection.cards.scope p'.text o.clause)).isSome := by
  rw [Statement.scope_cards, Statement.scope_cards]
  rcases h with hnotes | halike
  · simp [hnotes]
  · cases p.ofNote || Text.contains ['n', '.'] o.clause.toList <;>
      cases p'.ofNote || Text.contains ['n', '.'] o.clause.toList <;> simp [halike]

end Order

def Collection.Complete (col : Collection) : Prop :=
  ∀ c ∈ col.cards.rows, ∃ n ∈ col.notes.rows, c.note = n.id

namespace Statement

open Formula (ofPieces? answer?)

variable {col : Collection} {bs bs' : List (Piece Bound)} {g g' : Formula Operand}

lemma answer?_outline (hn : Piece.nested 0 bs) (test : Operand → Option Bool)
    (halways : test (.own .always) = some true) :
    (ofPieces? (outline .cards bs)).map (Formula.holds? test) = answer? (fun b => test (.given b)) bs := by
  by_cases hne : bs = []
  · subst hne
    exact congrArg some halways
  · have hempty : bs.isEmpty = false := by simpa using hne
    rw [ofPieces?_outline_cards hne hn, Option.map_map, answer?, hempty]
    simp only [Bool.false_eq_true, if_false, Formula.verdict?]
    apply Option.map_congr
    intro f _
    exact Formula.holds?_map Operand.given _ f

lemma meets_iff (hread : ofPieces? (outline .cards bs) = some g)
    (hanswers : ∀ b, .term b ∈ bs → Query.Answers b) {row : Row} (hrow : row.note.isSome) :
    Meets col g row ↔ g.holds? (Operand.holds? col.reviews.rows row) = some true := by
  obtain ⟨v, hv, hiff⟩ := Formula.holds?_eq_some (Operand.holds? col.reviews.rows row) g
    fun o ho => operand_isSome hanswers (Formula.mem_of_ofPieces? hread ho) hrow
  rw [hv, Option.some_inj]
  exact hiff.symm

lemma Picks.perm {found found' : List Row} (h : Picks col g found) (h' : Picks col g' found')
    (hcomplete : col.Complete) (hsame : ∀ c ∈ col.cards.rows, ∀ n ∈ col.notes.rows, c.note = n.id →
      (Meets col g ⟨c, some n⟩ ↔ Meets col g' ⟨c, some n⟩)) :
    (found'.map (·.card.id)).Perm (found.map (·.card.id)) := by
  rw [List.perm_ext_iff_of_nodup h'.distinct h.distinct]
  intro id
  simp only [List.mem_map]
  constructor
  · rintro ⟨row, hrow, rfl⟩
    obtain ⟨n, hn, hown⟩ := hcomplete _ (h'.stored row hrow)
    have hmeets := (h'.meets _ (h'.stored row hrow) n hn hown).mp ⟨row, hrow, rfl⟩
    obtain ⟨row', hrow', hcard⟩ := (h.meets _ (h'.stored row hrow) n hn hown).mpr
      ((hsame _ (h'.stored row hrow) n hn hown).mpr hmeets)
    exact ⟨row', hrow', congrArg Card.id hcard⟩
  · rintro ⟨row, hrow, rfl⟩
    obtain ⟨n, hn, hown⟩ := hcomplete _ (h.stored row hrow)
    have hmeets := (h.meets _ (h.stored row hrow) n hn hown).mp ⟨row, hrow, rfl⟩
    obtain ⟨row', hrow', hcard⟩ := (h'.meets _ (h.stored row hrow) n hn hown).mpr
      ((hsame _ (h.stored row hrow) n hn hown).mp hmeets)
    exact ⟨row', hrow', congrArg Card.id hcard⟩

lemma isSome_outline_alike (hn : Piece.nested 0 bs) (hn' : Piece.nested 0 bs') {b : Bound}
    (hanswer : ∀ test, test b = some true → answer? test bs' = answer? test bs) :
    (ofPieces? (outline .cards bs')).isSome = (ofPieces? (outline .cards bs)).isSome := by
  have hall := answer?_outline hn (fun _ => some true) rfl
  have hall' := answer?_outline hn' (fun _ => some true) rfl
  rw [hanswer _ rfl, ← hall] at hall'
  simpa using congrArg Option.isSome hall'

lemma select?_eq_none_of_keys {order : Order}
    (h : order.keys? (Projection.cards.scope (Predicate.ofBound bs).text order.clause) = none) :
    select? col .cards bs order = none := by
  have horder : Projection.cards.order order.clause = order.clause := rfl
  simp only [select?, horder, h, reduceCtorEq, if_false]
  exact Option.bind_eq_none_iff.mpr fun _ _ => rfl

section Alike

variable (hn : Piece.nested 0 bs) (hn' : Piece.nested 0 bs')
  (hbs : Query.Answerable bs) (hbs' : Query.Answerable bs')
  {b : Bound} (hanswer : ∀ test, test b = some true → answer? test bs' = answer? test bs)
  (hb : ∀ row : Row, row.note.isSome → b.holds? col.reviews.rows row = some true)
include hn hn' hbs hbs' hanswer hb

lemma meets_alike (hread : ofPieces? (outline .cards bs) = some g)
    (hread' : ofPieces? (outline .cards bs') = some g') {row : Row} (hrow : row.note.isSome) :
    Meets col g row ↔ Meets col g' row := by
  have hanswered := answer?_outline hn (Operand.holds? col.reviews.rows row) rfl
  have hanswered' := answer?_outline hn' (Operand.holds? col.reviews.rows row) rfl
  have hsame := hanswer (fun b => Operand.holds? col.reviews.rows row (.given b)) (hb row hrow)
  rw [hsame, ← hanswered, hread, hread'] at hanswered'
  rw [meets_iff hread hbs.answers hrow, meets_iff hread' hbs'.answers hrow, Option.some_inj.mp hanswered']

lemma select?_alike (hcomplete : col.Complete) {order : Order} (horder : order.ReadsAlike) :
    Option.Rel (fun found found' => (found'.map (·.card.id)).Perm (found.map (·.card.id)))
      (select? col .cards bs order) (select? col .cards bs' order) := by
  have hreads := horder.isSome_iff (.ofBound bs) (.ofBound bs')
  have hreadable := isSome_outline_alike hn hn' hanswer
  cases hread : ofPieces? (outline .cards bs) with
  | none =>
    have hread' : ofPieces? (outline .cards bs') = none := by simpa [hread] using hreadable
    rw [select?_eq_none_of_outline hn hread, select?_eq_none_of_outline hn' hread']
    exact .none
  | some g =>
    obtain ⟨g', hread'⟩ : ∃ g', ofPieces? (outline .cards bs') = some g' := by
      rw [← Option.isSome_iff_exists, hreadable, hread]
      rfl
    cases hkeys : order.keys? (Projection.cards.scope (Predicate.ofBound bs).text order.clause) with
    | none =>
      have hkeys' : order.keys?
          (Projection.cards.scope (Predicate.ofBound bs').text order.clause) = none := by
        simpa [hkeys] using hreads
      rw [select?_eq_none_of_keys hkeys, select?_eq_none_of_keys hkeys']
      exact .none
    | some keys =>
      obtain ⟨keys', hkeys'⟩ : ∃ keys', order.keys?
          (Projection.cards.scope (Predicate.ofBound bs').text order.clause) = some keys' := by
        rw [← Option.isSome_iff_exists, ← hreads, hkeys]
        rfl
      obtain ⟨found, hfound, hpicks, -⟩ := @select?_picks col bs g .cards order hn hread _ hkeys hbs
      obtain ⟨found', hfound', hpicks', -⟩ :=
        @select?_picks col bs' g' .cards order hn' hread' _ hkeys' hbs'
      rw [hfound, hfound']
      exact .some (hpicks.perm hpicks' hcomplete fun c _ n _ _ =>
        meets_alike hn hn' hbs hbs' hanswer hb hread hread' rfl)

end Alike

end Statement

namespace Query

open Token (everyDeck everyTag retagged)

def everyNote : Bound := ⟨.tagged, ["%"]⟩

variable {ctx : Context} {col : Collection}

lemma everyNote_holds {row : Row} (h : row.note.isSome) (reviews : List Review) :
    everyNote.holds? reviews row = some true := by
  obtain ⟨c, note⟩ := row
  obtain ⟨n, rfl⟩ := Option.isSome_iff_exists.mp h
  have hlike : Like.accepts none ['%'] n.tags.toList := by
    show Wild.accepts Like.alphabet [.run] (Like.untilNul n.tags.toList)
    rw [Wild.accepts_iff, Wild.matches_run]
    exact ⟨_, [], (List.append_nil _).symm, fun _ _ => rfl, .nil⟩
  have hholds : everyNote.holds? reviews ⟨c, some n⟩ = Like.holds? none "%" n.tags := rfl
  have hshort : ¬ Like.longest < "%".utf8ByteSize := by decide
  rw [hholds, Like.holds?, if_neg hshort]
  exact congrArg some hlike

lemma contribution_everyDeck : contribution ctx col everyDeck = .everything := rfl

lemma contribution_everyTag : contribution ctx col everyTag = .condition everyNote := by
  rfl

lemma contribution_retagged (t : Token) : contribution ctx col (retagged t) =
    Builder.filled (contribution ctx col) everyDeck everyNote t := by
  by_cases ht : t = everyDeck
  · subst ht
    rw [Builder.filled_self, retagged, if_pos rfl, contribution_everyTag]
  · rw [Builder.filled_of_ne _ ht, retagged, if_neg ht]

lemma take_retagged (b : Builder Bound) (t : Token) : b.take (contribution ctx col) (retagged t) =
    b.take (Builder.filled (contribution ctx col) everyDeck everyNote) t := by
  have hterm (ht : t.isTerm) (ht' : (retagged t).isTerm) : b.take (contribution ctx col) (retagged t) =
      b.take (Builder.filled (contribution ctx col) everyDeck everyNote) t := by
    rw [Builder.take_of_isTerm ht, Builder.take_of_isTerm ht', contribution_retagged]
  cases t with
  | command key value =>
    apply hterm rfl
    rw [retagged]
    split <;> rfl
  | text words => exact hterm rfl rfl
  | _ => rfl

lemma built_retagged (ts : List Token) : built ctx col (ts.map retagged) =
    Builder.empty.takeAll (Builder.filled (contribution ctx col) everyDeck everyNote) ts := by
  rw [built, Builder.takeAll, List.foldl_map, Builder.takeAll]
  simp only [take_retagged]

lemma fieldReading_retagged (ts : List Token) :
    fieldReading ctx col (ts.map retagged) = fieldReading ctx col ts := by
  simp only [fieldReading, fieldTerms_foldl, List.filterMap_map, Function.comp_def,
    Token.fieldTerm?_retagged]

/-- No minus is meant for the term that is left out, and it is joined by `and` to what is written before
it or to what is written next, if anything is written at all. -/
structure LeftOut (ctx : Context) (col : Collection) (ts : List Token) : Prop where
  unnegated : Builder.Unnegated (contribution ctx col) everyDeck .empty ts
  placed : ∀ r, fieldReading ctx col ts = .ok r →
    (Builder.empty.finish (contribution ctx col) (withoutValues r) ts).pieces = [] ∨
      ∀ us vs, ts = us ++ everyDeck :: vs →
        Builder.Admits (contribution ctx col) (withoutValues r) (built ctx col us) vs

lemma compileTokens_retagged {ts : List Token} (h : LeftOut ctx col ts) :
    (compileTokens ctx col (ts.map retagged) = compileTokens ctx col ts ∧
      ∀ p, compileTokens ctx col ts ≠ .ok (some p)) ∨
    ∃ r, fieldReading ctx col ts = .ok r ∧
      compileTokens ctx col ts = .ok (predicate? ((built ctx col ts).push (withoutValues r))) ∧
      compileTokens ctx col (ts.map retagged) =
        .ok (predicate? ((built ctx col (ts.map retagged)).push (withoutValues r))) ∧
      ((built ctx col ts).push (withoutValues r)).invalid = false ∧
      ((built ctx col (ts.map retagged)).push (withoutValues r)).invalid = false := by
  have habreast : Builder.Abreast (built ctx col ts) (built ctx col (ts.map retagged)) := by
    rw [built_retagged]
    exact Builder.abreast_takeAll rfl contribution_everyDeck everyNote (.refl .empty) h.unnegated
  rw [compileTokens_eq, compileTokens_eq, fieldReading_retagged, habreast.invalid]
  cases hv : (built ctx col ts).invalid with
  | true => exact Or.inl ⟨rfl, by simp⟩
  | false =>
    cases hr : fieldReading ctx col ts with
    | error fault => exact Or.inl ⟨rfl, by simp [Except.map]⟩
    | ok r =>
      have hfinish := (habreast.push (withoutValues r)).invalid
      cases hv : ((built ctx col ts).push (withoutValues r)).invalid with
      | true =>
        rw [hv] at hfinish
        exact Or.inl ⟨by simp [Except.map, predicate?, hv, hfinish], by simp [Except.map, predicate?, hv]⟩
      | false => exact Or.inr ⟨r, rfl, rfl, rfl, hv, hfinish.trans hv⟩

lemma answer?_retagged {ts : List Token} (h : LeftOut ctx col ts) {r : Reading Condition}
    (hr : fieldReading ctx col ts = .ok r)
    (hv : ((built ctx col ts).push (withoutValues r)).invalid = false)
    (test : Bound → Option Bool) (htest : test everyNote = some true) :
    Formula.answer? test ((built ctx col (ts.map retagged)).push (withoutValues r)).pieces =
      Formula.answer? test ((built ctx col ts).push (withoutValues r)).pieces := by
  rw [built_retagged]
  exact Builder.answer?_filled rfl contribution_everyDeck htest h.unnegated (h.placed r hr) hv

variable {query query' : String} {request : OrderRequest}

lemma findCards_perm {p p' : Predicate} (hcompile : compile ctx col query = .ok (some p))
    (hcompile' : compile ctx col query' = .ok (some p'))
    (h : Option.Rel (fun found found' => (found'.map (·.card.id)).Perm (found.map (·.card.id)))
      (Statement.run? col .cards p (request.resolve ctx.config).order)
      (Statement.run? col .cards p' (request.resolve ctx.config).order)) :
    ∃ cards cards', Search.findCards ctx col query request = .ok cards ∧
      Search.findCards ctx col query' request = .ok cards' ∧ cards'.Perm cards := by
  simp only [Search.findCards, hcompile, hcompile', Except.map]
  generalize Statement.run? col .cards p (request.resolve ctx.config).order = found,
    Statement.run? col .cards p' (request.resolve ctx.config).order = found' at h ⊢
  cases h with
  | none => exact ⟨[], [], rfl, rfl, .refl []⟩
  | some hperm =>
    exact ⟨_, _, rfl, rfl, ((Search.arrange_perm ..).trans hperm).trans (Search.arrange_perm ..).symm⟩

lemma complete_sampleCollection : sampleCollection.Complete := by
  rw [Collection.Complete]
  decide

def besideSample : String := "(deck:* tag:pet or deck:* sun) deck:*"

lemma leftOut_besideSample : LeftOut sampleContext sampleCollection (Token.ofQuery besideSample) where
  unnegated := by
    apply Token.forall_split
    decide +kernel
  placed r hr := by
    have hplain : ∀ t ∈ Token.ofQuery besideSample, ¬ t.asksField := by decide +kernel
    rcases fieldReading_cases hr with rfl | ⟨⟨t, ht, hasks⟩, -⟩
    · apply Or.inr
      apply Token.forall_split
      decide +kernel
    · exact absurd hasks (hplain t ht)

end Query

end CardQuery
