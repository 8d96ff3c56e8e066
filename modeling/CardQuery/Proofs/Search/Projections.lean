import CardQuery.Proofs.Search.Polling
import CardQuery.Proofs.Search.Scope
import CardQuery.Proofs.Search.Selection
import CardQuery.Proofs.Search.Unreadable

/-!
The three searches agree. The rows of a browser are the cards that are found and whose note is stored,
and the notes that are found are the notes of those cards, although the cards are looked for without
their notes where that is possible.
-/

namespace CardQuery

lemma Token.nested_enclosed {ts : List Token} {depth : ℕ}
    (h : ∀ us, us <+: ts → us.count .closing ≤ us.count .opening + depth) :
    nested (depth + 1) (ts ++ [.closing]) = nested depth ts := by
  induction ts generalizing depth with
  | nil => rfl
  | cons t ts ih =>
    have hcons (us : List Token) (hus : us <+: ts) := h (t :: us) (List.cons_prefix_cons.mpr ⟨rfl, hus⟩)
    cases t with
    | opening =>
      apply ih
      intro us hus
      have hus := hcons us hus
      simp at hus
      omega
    | closing =>
      cases depth with
      | zero =>
        have hnil := hcons [] List.nil_prefix
        simp at hnil
      | succ depth =>
        apply ih
        intro us hus
        have hus := hcons us hus
        simp at hus
        omega
    | _ =>
      apply ih
      intro us hus
      simpa using hcons us hus

namespace Query

lemma run?_eq_none_of_unclosed {ctx : Context} {col : Collection} {query : String}
    (hclosing : ∀ us, us <+: Token.ofQuery query → us.count .closing ≤ us.count .opening)
    (hts : ¬ Token.nested 0 (Token.ofQuery query)) {p : Predicate}
    (hcompile : compile ctx col query = .ok (some p)) (projection : Projection) (order : Order) :
    Statement.run? col projection p order = none := by
  apply run?_eq_none _ hcompile
  intro henclosed
  apply hts
  rw [← Token.nested_enclosed (by simpa using hclosing)]
  exact henclosed

end Query

namespace Search

lemma arrange_perm {α : Type} (reversed : Bool) (xs : List α) : (arrange reversed xs).Perm xs := by
  cases reversed with
  | false => exact .refl xs
  | true => exact xs.reverse_perm

end Search

def Collection.hasNote (col : Collection) (card : Int) : Bool :=
  (col.cards.find? card).any fun c => (col.notes.find? c.note).isSome

lemma Collection.hasNote_iff {col : Collection} {card : Int} :
    col.hasNote card ↔ ∃ c ∈ col.cards.rows, c.id = card ∧ ∃ n ∈ col.notes.rows, c.note = n.id := by
  simp only [hasNote, Option.any_eq_true, Option.isSome_iff_exists, Table.find?_eq_some]
  constructor
  · rintro ⟨c, ⟨hc, hid⟩, n, hn, hown⟩
    exact ⟨c, hc, hid, n, hn, hown.symm⟩
  · rintro ⟨c, hc, hid, n, hn, hown⟩
    exact ⟨c, ⟨hc, hid⟩, n, hn, hown.symm⟩

structure Agree (col : Collection) (cards : List Int) (rows : List BrowserRow) (notes : List Int) :
    Prop where
  rows : (rows.map BrowserRow.id).Perm (cards.filter col.hasNote)
  distinct : notes.Nodup
  notes : ∀ id, id ∈ notes ↔ ∃ c ∈ col.cards.rows, c.id ∈ cards ∧ col.hasNote c.id ∧ c.note = id

lemma agree_nil (col : Collection) : Agree col [] [] [] := ⟨.nil, .nil, by simp⟩

namespace Statement

open Formula (ofPieces?)

variable {col : Collection} {bs : List (Piece Bound)} {g : Formula Operand}

def Meets (col : Collection) (g : Formula Operand) (row : Row) : Prop :=
  g.Holds fun o => o.holds? col.reviews.rows row = some true

structure Picks (col : Collection) (g : Formula Operand) (found : List Row) : Prop where
  distinct : (found.map (·.card.id)).Nodup
  stored : ∀ row ∈ found, row.card ∈ col.cards.rows
  meets : ∀ c ∈ col.cards.rows, ∀ n ∈ col.notes.rows, c.note = n.id →
    ((∃ row ∈ found, row.card = c) ↔ Meets col g ⟨c, some n⟩)

def Joined (col : Collection) (found : List Row) : Prop :=
  ∀ row ∈ found, ∃ n ∈ col.notes.rows, row.note = some n ∧ row.card.note = n.id

lemma mem_outline {o : Operand} (h : .term o ∈ outline .cards bs) :
    o = .own .always ∨ ∃ b, .term b ∈ bs ∧ o = .given b := by
  cases hempty : bs.isEmpty with
  | true => exact Or.inl (by simpa [outline, hempty] using h)
  | false =>
    obtain ⟨p, hp, heq⟩ : ∃ p ∈ bs, Piece.map Operand.given p = .term o := by
      simpa [outline, hempty, Piece.enclose] using h
    obtain ⟨b, rfl, rfl⟩ := Piece.map_eq_term heq
    exact Or.inr ⟨b, hp, rfl⟩

lemma operand_isSome (hanswers : ∀ b, .term b ∈ bs → Query.Answers b) {o : Operand}
    (ho : .term o ∈ outline .cards bs) {row : Row} (hrow : row.note.isSome) :
    (o.holds? col.reviews.rows row).isSome := by
  rcases mem_outline ho with rfl | ⟨b, hb, rfl⟩
  · rfl
  · exact Bound.holds?_isSome (hanswers b hb).1 (hanswers b hb).2 hrow _

lemma operand_uniform {order : String}
    (hscope : Projection.cards.scope (Predicate.ofBound bs).text order = .cards) {o : Operand}
    (ho : .term o ∈ outline .cards bs) (c : Card) :
    ∃ v, ∀ note, o.holds? col.reviews.rows ⟨c, note⟩ = some v := by
  rcases mem_outline ho with rfl | ⟨b, hb, rfl⟩
  · exact ⟨true, fun _ => rfl⟩
  · apply Bound.holds?_card
    intro hnote
    rw [scope_of_ofNote hb hnote] at hscope
    cases hscope

lemma exists_of_select? {p : Projection} {order : Order} {found : List Row}
    (h : select? col p bs order = some found) : ∃ f keys kept,
      ofPieces? (outline (p.scope (Predicate.ofBound bs).text (p.order order.clause)) bs) = some f ∧
        Table.keep? (fun row => f.evaluate? Operand.isVain (Operand.holds? col.reviews.rows row))
            (rows col (p.scope (Predicate.ofBound bs).text (p.order order.clause))) = some kept ∧
          found = SortKey.sort keys kept := by
  simp only [select?, Option.bind_eq_bind, Option.bind_eq_some_iff] at h
  obtain ⟨f, hread, h⟩ := h
  obtain ⟨hread, -⟩ := Option.filter_eq_some_iff.mp hread
  split at h
  all_goals
    obtain ⟨keys, -, h⟩ := Option.bind_eq_some_iff.mp h
    obtain ⟨kept, hkept, hfound⟩ := Option.bind_eq_some_iff.mp h
    exact ⟨f, keys, kept, hread, hkept, (Option.some_inj.mp hfound).symm⟩

lemma joined_of_select? {p : Projection} {order : Order}
    (hscope : p.scope (Predicate.ofBound bs).text (p.order order.clause) = .cardsWithNotes)
    (hn : Piece.nested 0 bs) {found : List Row} (h : select? col p bs order = some found) :
    (∀ row ∈ found, row.card ∈ col.cards.rows) ∧ Joined col found := by
  obtain ⟨f, keys, kept, hread, hkept, rfl⟩ := exists_of_select? h
  rw [hscope, ofPieces?_outline_notes hn] at hread
  obtain ⟨g, -, rfl⟩ := Option.map_eq_some_iff.mp hread
  rw [hscope] at hkept
  have hmem {row : Row} (hrow : row ∈ SortKey.sort keys kept) :
      row.card ∈ col.cards.rows ∧ ∃ n ∈ col.notes.rows, row.note = some n ∧ row.card.note = n.id := by
    rw [SortKey.sort, Sorting.mem_sort] at hrow
    obtain ⟨hrow, htest⟩ := Table.mem_of_keep? hkept hrow
    obtain ⟨hc, n, hn, hnote⟩ := mem_rows_cardsWithNotes.mp hrow
    refine ⟨hc, n, hn, hnote, ?_⟩
    by_contra hown
    rw [Formula.evaluate?] at htest
    split at htest
    · simp at htest
    · simp [Formula.evaluate?, Operand.holds?, Atom.holds?, hnote, hown] at htest
  exact ⟨fun row hrow => (hmem hrow).1, fun row hrow => (hmem hrow).2⟩

lemma select?_joined {p : Projection} {order : Order}
    (hscope : p.scope (Predicate.ofBound bs).text (p.order order.clause) = .cardsWithNotes)
    (hn : Piece.nested 0 bs) (hread : ofPieces? (outline .cards bs) = some g) {keys : List SortKey}
    (hkeys : (if p = .notes then some [] else order.keys? .cardsWithNotes) = some keys)
    (hbs : Query.Answerable bs) :
    ∃ found, select? col p bs order = some found ∧ Picks col g found ∧ Joined col found := by
  have houtline : ofPieces? (outline .cardsWithNotes bs) = some (.and (.term (.own .ownNote)) g) := by
    rw [ofPieces?_outline_notes hn, hread]
    rfl
  have hanswer : ∀ row ∈ rows col .cardsWithNotes,
      ∀ o ∈ (Formula.and (.term (.own .ownNote)) g).terms, (o.holds? col.reviews.rows row).isSome := by
    intro row hrow o ho
    obtain ⟨n, -, hnote⟩ := (mem_rows_cardsWithNotes.mp hrow).2
    rcases List.mem_cons.mp ho with rfl | ho
    · simp [Operand.holds?, Atom.holds?, hnote]
    · exact operand_isSome hbs.answers (Formula.mem_of_ofPieces? hread ho) (by simp [hnote])
  obtain ⟨found, hselect, hnodup, hmem⟩ := select?_answered hscope houtline
    (fits_joined hbs.filled hbs.fits houtline) hkeys hanswer
  have hmem (row : Row) : row ∈ found ↔ (row.card ∈ col.cards.rows ∧ ∃ n ∈ col.notes.rows,
      row.note = some n) ∧ (∃ n, row.note = some n ∧ row.card.note = n.id) ∧ Meets col g row := by
    rw [hmem, mem_rows_cardsWithNotes]
    simp [Formula.Holds, Operand.holds?, Atom.holds?, Meets]
  obtain ⟨hstored, hjoined⟩ := joined_of_select? hscope hn hselect
  refine ⟨found, hselect, ⟨?_, hstored, ?_⟩, hjoined⟩
  -- a card has one note, so that the cards tell the rows apart
  · apply hnodup.map_on
    rintro ⟨c, note⟩ hrow ⟨c', note'⟩ hrow' hid
    obtain rfl : c = c' := Table.eq_of_id_eq (hstored _ hrow) (hstored _ hrow') hid
    obtain ⟨n, hn, hnote, hown⟩ := hjoined _ hrow
    obtain ⟨n', hn', hnote', hown'⟩ := hjoined _ hrow'
    obtain rfl : n = n' := Table.eq_of_id_eq hn hn' (hown.symm.trans hown')
    exact congrArg (Row.mk c) (hnote.trans hnote'.symm)
  · intro c hc n hn hown
    constructor
    · rintro ⟨row, hrow, rfl⟩
      obtain ⟨m, hm, hnote, hrown⟩ := hjoined row hrow
      obtain rfl : n = m := Table.eq_of_id_eq hn hm (hown.symm.trans hrown)
      rw [← hnote]
      exact ((hmem row).mp hrow).2.2
    · intro hmeets
      exact ⟨⟨c, some n⟩, (hmem _).mpr ⟨⟨hc, n, hn, rfl⟩, ⟨n, rfl, hown⟩, hmeets⟩, rfl⟩

lemma select?_alone {order : Order}
    (hscope : Projection.cards.scope (Predicate.ofBound bs).text order.clause = .cards)
    (hread : ofPieces? (outline .cards bs) = some g)
    (hfits : g.fits Operand.extent? (Predicate.ofBound bs).args.length) {keys : List SortKey}
    (hkeys : order.keys? .cards = some keys) :
    ∃ found, select? col .cards bs order = some found ∧ Picks col g found := by
  have huniform {o : Operand} (ho : o ∈ g.terms) (c : Card) :
      ∃ v, ∀ note, o.holds? col.reviews.rows ⟨c, note⟩ = some v :=
    operand_uniform hscope (Formula.mem_of_ofPieces? hread ho) c
  have hanswer : ∀ row ∈ rows col .cards, ∀ o ∈ g.terms, (o.holds? col.reviews.rows row).isSome := by
    intro row _ o ho
    obtain ⟨v, hv⟩ := huniform ho row.card
    exact Option.isSome_iff_exists.mpr ⟨v, hv row.note⟩
  obtain ⟨found, hselect, hnodup, hmem⟩ := select?_answered hscope hread hfits hkeys hanswer
  have hmem (row : Row) :
      row ∈ found ↔ (row.card ∈ col.cards.rows ∧ row.note = none) ∧ Meets col g row := by
    rw [hmem, mem_rows_cards]
    rfl
  refine ⟨found, hselect, ?_, fun row hrow => ((hmem row).mp hrow).1.1, ?_⟩
  · apply hnodup.map_on
    rintro ⟨c, note⟩ hrow ⟨c', note'⟩ hrow' hid
    obtain ⟨⟨hc, hnote⟩, -⟩ := (hmem _).mp hrow
    obtain ⟨⟨hc', hnote'⟩, -⟩ := (hmem _).mp hrow'
    obtain rfl : c = c' := Table.eq_of_id_eq hc hc' hid
    exact congrArg (Row.mk c) (hnote.trans hnote'.symm)
  · intro c hc n hn hown
    -- no operand looks at the note, which would have brought the notes into the statement
    have hcongr : Meets col g ⟨c, none⟩ ↔ Meets col g ⟨c, some n⟩ := by
      apply Formula.holds_congr
      intro o ho
      obtain ⟨v, hv⟩ := huniform ho c
      rw [hv none, hv (some n)]
    rw [← hcongr]
    constructor
    · rintro ⟨⟨c, note⟩, hrow, rfl⟩
      obtain ⟨⟨-, rfl⟩, hmeets⟩ := (hmem _).mp hrow
      exact hmeets
    · intro hmeets
      exact ⟨⟨c, none⟩, (hmem _).mpr ⟨⟨hc, rfl⟩, hmeets⟩, rfl⟩

lemma select?_eq_none_of_outline (hn : Piece.nested 0 bs) (hread : ofPieces? (outline .cards bs) = none)
    (p : Projection) (order : Order) : select? col p bs order = none := by
  have hscope (scope : Scope) : ofPieces? (outline scope bs) = none := by
    cases scope with
    | cards => exact hread
    | cardsWithNotes => rw [ofPieces?_outline_notes hn, hread, Option.map_none]
  simp only [select?, hscope]
  rfl

lemma select?_picks {p : Projection} {order : Order} (hn : Piece.nested 0 bs)
    (hread : ofPieces? (outline .cards bs) = some g) {keys : List SortKey}
    (hkeys : (if p = .notes then some [] else
      order.keys? (p.scope (Predicate.ofBound bs).text (p.order order.clause))) = some keys)
    (hbs : Query.Answerable bs) :
    ∃ found, select? col p bs order = some found ∧ Picks col g found ∧
      (p ≠ .cards → Joined col found) := by
  cases hscope : p.scope (Predicate.ofBound bs).text (p.order order.clause) with
  | cards =>
    have hp : p = .cards := by
      by_contra hne
      rw [scope_of_ne_cards hne] at hscope
      cases hscope
    subst hp
    rw [hscope, if_neg (by decide)] at hkeys
    obtain ⟨found, hselect, hpicks⟩ := select?_alone hscope hread
      (fits_outline hbs.filled hn hbs.fits hread) hkeys
    exact ⟨found, hselect, hpicks, absurd rfl⟩
  | cardsWithNotes =>
    rw [hscope] at hkeys
    obtain ⟨found, hselect, hpicks, hown⟩ := select?_joined hscope hn hread hkeys hbs
    exact ⟨found, hselect, hpicks, fun _ => hown⟩

namespace Picks

variable {found found' : List Row}

lemma exists_card (h : Picks col g found) (h' : Picks col g found') (hjoined : Joined col found')
    {row : Row} (hrow : row ∈ found') : ∃ row' ∈ found, row'.card = row.card := by
  obtain ⟨n, hn, -, hown⟩ := hjoined row hrow
  have hcard := h'.stored row hrow
  exact (h.meets _ hcard n hn hown).mpr ((h'.meets _ hcard n hn hown).mp ⟨row, hrow, rfl⟩)

lemma exists_of_hasNote (h : Picks col g found) (h' : Picks col g found') {row : Row}
    (hrow : row ∈ found) (hnote : col.hasNote row.card.id) : ∃ row' ∈ found', row'.card = row.card := by
  obtain ⟨c, hc, hid, n, hn, hown⟩ := Collection.hasNote_iff.mp hnote
  obtain rfl : c = row.card := Table.eq_of_id_eq hc (h.stored row hrow) hid
  exact (h'.meets _ hc n hn hown).mpr ((h.meets _ hc n hn hown).mp ⟨row, hrow, rfl⟩)

lemma hasNote (h : Picks col g found) (hjoined : Joined col found) {row : Row} (hrow : row ∈ found) :
    col.hasNote row.card.id := by
  obtain ⟨n, hn, -, hown⟩ := hjoined row hrow
  exact Collection.hasNote_iff.mpr ⟨row.card, h.stored row hrow, rfl, n, hn, hown⟩

lemma perm_filter (h : Picks col g found) (h' : Picks col g found') (hjoined : Joined col found') :
    (found'.map (·.card.id)).Perm ((found.map (·.card.id)).filter col.hasNote) := by
  rw [List.perm_ext_iff_of_nodup h'.distinct (h.distinct.filter _)]
  intro id
  simp only [List.mem_filter, List.mem_map]
  constructor
  · rintro ⟨row, hrow, rfl⟩
    obtain ⟨row', hrow', hcard⟩ := h.exists_card h' hjoined hrow
    exact ⟨⟨row', hrow', congrArg Card.id hcard⟩, h'.hasNote hjoined hrow⟩
  · rintro ⟨⟨row, hrow, rfl⟩, hnote⟩
    obtain ⟨row', hrow', hcard⟩ := h.exists_of_hasNote h' hrow hnote
    exact ⟨row', hrow', congrArg Card.id hcard⟩

lemma mem_notes (h : Picks col g found) (h' : Picks col g found') (hjoined : Joined col found')
    (id : Int) : id ∈ found'.filterMap (fun row => row.note.map Note.id) ↔
      ∃ c ∈ col.cards.rows, c.id ∈ found.map (·.card.id) ∧ col.hasNote c.id ∧ c.note = id := by
  simp only [List.mem_filterMap, List.mem_map, Option.map_eq_some_iff]
  constructor
  · rintro ⟨row, hrow, n, hnote, rfl⟩
    obtain ⟨m, -, hm, hown⟩ := hjoined row hrow
    obtain rfl : n = m := Option.some_inj.mp (hnote.symm.trans hm)
    obtain ⟨row', hrow', hcard⟩ := h.exists_card h' hjoined hrow
    exact ⟨row.card, h'.stored row hrow, ⟨row', hrow', congrArg Card.id hcard⟩,
      h'.hasNote hjoined hrow, hown⟩
  · rintro ⟨c, hc, ⟨row, hrow, hid⟩, hnote, rfl⟩
    obtain rfl : row.card = c := Table.eq_of_id_eq (h.stored row hrow) hc hid
    obtain ⟨row', hrow', hcard⟩ := h.exists_of_hasNote h' hrow hnote
    obtain ⟨n, -, hn, hown⟩ := hjoined row' hrow'
    exact ⟨row', hrow', n, hn, by rw [← hown, hcard]⟩

end Picks

end Statement

namespace Query

open Statement

variable {ctx : Context} {col : Collection}

lemma keys?_resolve {request : OrderRequest} (h : ∀ s, request ≠ .written s) (config : Config)
    (scope : Scope) : ∃ keys, (request.resolve config).order.keys? scope = some keys := by
  cases request with
  | unordered => exact ⟨[], rfl⟩
  | builtin wanted => cases wanted <;> exact ⟨_, rfl⟩
  | written s => exact absurd rfl (h s)

lemma agree_of_picks {g : Formula Operand} {cards rows notes : List Row} (hcards : Picks col g cards)
    (hrows : Picks col g rows) (hjoined : Joined col rows) (hnotes : Picks col g notes)
    (hjoined' : Joined col notes) (decks : Decks) (reversed : Bool) :
    Agree col (Search.arrange reversed (cards.map (·.card.id)))
      (Search.arrange reversed (rows.map (.ofRow decks)))
      (distinct (notes.filterMap fun row => row.note.map Note.id)) where
  rows := by
    have hids : (rows.map (BrowserRow.ofRow decks)).map BrowserRow.id = rows.map (·.card.id) := by
      rw [List.map_map]
      rfl
    have hperm := ((Search.arrange_perm reversed (rows.map (.ofRow decks))).map BrowserRow.id)
    rw [hids] at hperm
    have hfilter := (Search.arrange_perm reversed (cards.map (·.card.id))).filter col.hasNote
    exact (hperm.trans (hcards.perm_filter hrows hjoined)).trans hfilter.symm
  distinct := nodup_distinct _
  notes id := by
    have hmem {c : Int} : c ∈ Search.arrange reversed (cards.map (·.card.id)) ↔
        c ∈ cards.map (·.card.id) := (Search.arrange_perm ..).mem_iff
    rw [mem_distinct, hcards.mem_notes hnotes hjoined']
    simp only [hmem]

def SearchesAgree (ctx : Context) (col : Collection) (query : String) (request : OrderRequest) : Prop :=
  ∃ cards rows notes, Search.findCards ctx col query request = .ok cards ∧
    Search.findNotes ctx col query = .ok notes ∧ Agree col cards rows notes ∧
    ∀ stop, (∃ polls, Search.browse ctx col query request stop = .ok (.rows rows polls)) ∨
      ∃ polls, stop polls ∧ Search.browse ctx col query request stop = .ok (.cancelled polls)

variable {query : String} {request : OrderRequest}

lemma searchesAgree_of_run?_eq_none {predicate : Option Predicate}
    (hcompile : compile ctx col query = .ok predicate)
    (h : ∀ p ∈ predicate, ∀ projection order, run? col projection p order = none) :
    SearchesAgree ctx col query request := by
  have hrun : ∀ p, compile ctx col query = .ok (some p) →
      ∀ projection order, run? col projection p order = none := by
    intro p hp
    apply h p
    rw [hcompile] at hp
    cases hp
    rfl
  have hsearches := searches_of_run?_eq_none hrun request
  simp only [hcompile, Except.map] at hsearches
  exact ⟨[], [], [], (hsearches fun _ => false).1, (hsearches fun _ => false).2.1, agree_nil col,
    fun stop => Or.inl ⟨0, (hsearches stop).2.2⟩⟩

lemma searchesAgree_of_read {bs : List (Piece Bound)} {g : Formula Operand}
    (hcompile : compile ctx col query = .ok (some (.ofBound bs))) (hn : Piece.nested 0 bs)
    (hread : Formula.ofPieces? (outline .cards bs) = some g)
    (hbs : Answerable bs) (hrequest : ∀ s, request ≠ .written s) : SearchesAgree ctx col query request := by
  have hrun (p : Projection) (order : Order) : run? col p (.ofBound bs) order = select? col p bs order :=
    run?_predicate col p order hbs.filled
  have hselect (p : Projection) {order : Order}
      (hkeys : ∀ scope, ∃ keys, order.keys? scope = some keys) :
      ∃ found, select? col p bs order = some found ∧ Picks col g found ∧
        (p ≠ .cards → Joined col found) := by
    obtain ⟨keys, hkeys⟩ := hkeys (p.scope (Predicate.ofBound bs).text (p.order order.clause))
    by_cases hp : p = .notes
    · exact select?_picks hn hread (if_pos hp) hbs
    · exact select?_picks hn hread ((if_neg hp).trans hkeys) hbs
  have hkeys := keys?_resolve hrequest ctx.config
  obtain ⟨cards, hcards, hpicks, -⟩ := hselect .cards hkeys
  obtain ⟨rows, hrows, hpicks', hjoined⟩ := hselect .browser hkeys
  obtain ⟨notes, hnotes, hpicks'', hjoined'⟩ := @hselect .notes .unordered fun _ => ⟨[], rfl⟩
  refine ⟨_, _, _, ?_, ?_, agree_of_picks hpicks hpicks' (hjoined (by decide)) hpicks''
    (hjoined' (by decide)) ctx.decks (request.resolve ctx.config).reversed, ?_⟩
  · simp [Search.findCards, hcompile, hrun, hcards, Except.map]
  · simp [Search.findNotes, hcompile, hrun, hnotes, Except.map]
  · intro stop
    have hbrowse : Search.browse ctx col query request stop =
        .ok (Search.list stop ctx.decks (request.resolve ctx.config).reversed [] 0 rows) := by
      simp [Search.browse, hcompile, hrun, hrows, Except.map]
    rw [hbrowse]
    rcases Search.list_cases stop ctx.decks (request.resolve ctx.config).reversed [] 0 rows with
      ⟨-, hlist⟩ | ⟨polls, hstop, hlist⟩
    · exact Or.inl ⟨_, congrArg Except.ok hlist⟩
    · exact Or.inr ⟨polls, hstop.1.2, congrArg Except.ok hlist⟩

theorem searches_agree {predicate : Option Predicate}
    (hcompile : compile ctx col query = .ok predicate)
    (hclosing : ∀ us, us <+: Token.ofQuery query → us.count .closing ≤ us.count .opening)
    (hlimit : ∀ p ∈ predicate, ∀ v ∈ p.args, v.utf8ByteSize ≤ Like.longest)
    (hfits : ∀ p ∈ predicate, p.fits) (hrequest : ∀ s, request ≠ .written s) :
    SearchesAgree ctx col query request := by
  cases predicate with
  | none => exact searchesAgree_of_run?_eq_none hcompile (by simp)
  | some p =>
    by_cases hts : Token.nested 0 (Token.ofQuery query)
    · obtain ⟨r, hr, hv, rfl⟩ := compileTokens_eq_some hcompile
      have hbs : Answerable ((built ctx col (Token.ofQuery query)).push (withoutValues r)).pieces :=
        ⟨hfits _ rfl, fun b hb =>
          ⟨filled_compiled hr hb, fun v hv => hlimit _ rfl v (Bound.mem_valuesOf hb hv)⟩⟩
      have hn := nested_finish hts hv
      cases hread : Formula.ofPieces? (outline .cards
          ((built ctx col (Token.ofQuery query)).push (withoutValues r)).pieces) with
      | some g => exact searchesAgree_of_read hcompile hn hread hbs hrequest
      | none =>
        apply searchesAgree_of_run?_eq_none hcompile
        rintro p ⟨⟩ projection order
        rw [run?_predicate col projection order hbs.filled]
        exact select?_eq_none_of_outline hn hread ..
    -- a group is left open, and the parentheses of the statement do not close it
    · apply searchesAgree_of_run?_eq_none hcompile
      rintro p ⟨⟩
      exact run?_eq_none_of_unclosed hclosing hts hcompile

theorem searches_agree_sample :
    Search.findCards sampleContext (sampleCollection.addCard ⟨14, 9, 1, 0, 0, 0, 0, 0, 0, 0, 0, 0, 0⟩)
        "-(is:suspended or is:buried)" .unordered = .ok [11, 12, 13, 14] ∧
      SearchesAgree sampleContext
        (sampleCollection.addCard ⟨14, 9, 1, 0, 0, 0, 0, 0, 0, 0, 0, 0, 0⟩)
        "-(is:suspended or is:buried)" .unordered := by
  have hjoin : (compile sampleContext (sampleCollection.addCard ⟨14, 9, 1, 0, 0, 0, 0, 0, 0, 0, 0, 0, 0⟩)
      "-(is:suspended or is:buried)").toOption.join.map (fun p => (p.args, p.fits)) =
        some ([], true) := by
    decide +kernel
  obtain ⟨p, hp, hargs⟩ := Option.map_eq_some_iff.mp hjoin
  simp only [Prod.mk.injEq] at hargs
  have hclosing : ∀ us ∈ (Token.ofQuery "-(is:suspended or is:buried)").inits,
      us.count .closing ≤ us.count .opening := by
    decide +kernel
  refine ⟨by decide +kernel, searches_agree (eq_ok_of_join hp) ?_ ?_ ?_ (by simp)⟩
  · intro us hus
    exact hclosing us ((List.mem_inits us _).mpr hus)
  · rintro p ⟨⟩
    simp [hargs.1]
  · rintro p ⟨⟩
    exact hargs.2

end Query

end CardQuery
