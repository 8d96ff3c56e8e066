import CardQuery.Proofs.Boolean.Grammar
import CardQuery.Proofs.Query.Compiled
import CardQuery.Proofs.Query.Deck
import CardQuery.Proofs.Query.FieldProbe
import CardQuery.Proofs.Search.Statement

namespace CardQuery

namespace Formula

variable {α : Type}

lemma Written.mem_of_mem_terms {part : Part} {ps : List (Piece α)} {f : Formula α}
    (h : Written part ps f) {a : α} (ha : a ∈ f.terms) : .term a ∈ ps := by
  induction h with
  | term b => simpa [terms] using ha
  | group _ ih => simp [ih ha]
  | plain _ ih => exact ih ha
  | negated _ ih => simp [ih ha]
  | first _ ih => exact ih ha
  | only _ ih => exact ih ha
  | _ _ _ ihf ihg =>
    rcases List.mem_append.mp ha with ha | ha
    · simp [ihf ha]
    · simp [ihg ha]

end Formula

lemma Like.holds?_isSome {escape : Option Char} {pattern text : String}
    (h : pattern.utf8ByteSize ≤ Like.longest) : (Like.holds? escape pattern text).isSome := by
  simp [Like.holds?, Nat.not_lt.mpr h]

namespace Test

lemma values_of_mem_bind {ps : List (Piece Atom)} {vs : List String} (h : vs.length = places ps)
    {t : Test} (ht : .term t ∈ bind vs ps) :
    t.values.length = t.atom.places ∧ t.values ⊆ vs := by
  induction ps generalizing vs with
  | nil => simp [bind] at ht
  | cons p ps ih =>
    cases p with
    | term a =>
      have hplaces : vs.length = a.places + places ps := by simpa [places] using h
      rcases List.mem_cons.mp ht with heq | ht
      · cases heq
        exact ⟨by simp [hplaces], List.take_subset _ _⟩
      · obtain ⟨hl, hs⟩ := ih (by simp [hplaces]) ht
        exact ⟨hl, List.Subset.trans hs (List.drop_subset _ _)⟩
    | _ => exact ih (by simpa [places] using h) (by simpa [bind] using ht)

lemma holds?_isSome {t : Test} (hvalues : t.values.length = t.atom.places)
    (hlimit : ∀ v ∈ t.values, v.utf8ByteSize ≤ Like.longest) {row : Row} (hrow : row.note.isSome)
    (reviews : List Review) : (t.holds? reviews row).isSome := by
  obtain ⟨atom, values⟩ := t
  obtain ⟨card, note⟩ := row
  obtain ⟨note, rfl⟩ := Option.isSome_iff_exists.mp hrow
  have hlike {escape : Option Char} {text : Note → String} (hone : values.length = 1) :
      ((Row.mk card (some note)).like? escape text values).isSome := by
    obtain ⟨v, rfl⟩ := List.length_eq_one_iff.mp hone
    exact Like.holds?_isSome (hlimit v (by simp))
  cases atom with
  | tagsLike => exact hlike hvalues
  | sortTextLike => exact hlike hvalues
  | blobLike => exact hlike hvalues
  | _ => simp [holds?, Atom.holds?]

end Test

lemma Bound.holds?_isSome {b : Bound} (hb : b.Filled)
    (hlimit : ∀ v ∈ b.values, v.utf8ByteSize ≤ Like.longest) {row : Row} (hrow : row.note.isSome)
    (reviews : List Review) : (b.holds? reviews row).isSome := by
  obtain ⟨f, hf⟩ := b.written
  obtain ⟨v, hv, -⟩ := Formula.holds?_eq_some (Test.holds? reviews row) f fun t ht => by
    obtain ⟨hl, hs⟩ := Test.values_of_mem_bind hb (hf.mem_of_mem_terms ht)
    exact Test.holds?_isSome hl (fun v hv => hlimit v (hs hv)) hrow reviews
  simp [holds?, Formula.ofPieces?_written hf, hv]

def Query.Answers (b : Bound) : Prop := b.Filled ∧ ∀ v ∈ b.values, v.utf8ByteSize ≤ Like.longest

lemma Query.Answers.isSome {b : Bound} (h : Query.Answers b) {col : Collection} {row : Row}
    (hrow : row ∈ Statement.rows col .cardsWithNotes) : (b.holds? col.reviews.rows row).isSome := by
  obtain ⟨n, -, hn⟩ := (Statement.mem_rows_cardsWithNotes.mp hrow).2
  exact Bound.holds?_isSome h.1 h.2 (by simp [hn]) _

namespace Query

/-- The statements of a query keep within the store's limits. -/
def Accepted (ctx : Context) (col : Collection) (query : String) : Prop :=
  ∀ p, compile ctx col query = .ok (some p) →
    p.fits ∧ ∀ v ∈ p.args, v.utf8ByteSize ≤ Like.longest

structure Answerable (bs : List (Piece Bound)) : Prop where
  fits : (Predicate.ofBound bs).fits
  answers : ∀ x, .term x ∈ bs → Answers x

lemma Answerable.filled {bs : List (Piece Bound)} (h : Answerable bs) (b : Bound) (hb : .term b ∈ bs) :
    b.Filled :=
  (h.answers b hb).1

lemma Accepted.answerable {ctx : Context} {col : Collection} {query : String}
    (h : Accepted ctx col query) {b : Builder Bound}
    (hcompile : compile ctx col query = .ok (predicate? b)) (hv : b.invalid = false)
    (hfilled : ∀ x, .term x ∈ b.pieces → x.Filled) : Answerable b.pieces := by
  obtain ⟨hfits, hshort⟩ := h (.ofBound b.pieces) (by rw [hcompile, predicate?_of_valid hv])
  exact ⟨hfits, fun x hx => ⟨hfilled x hx, fun v hmem => hshort v (Bound.mem_valuesOf hx hmem)⟩⟩

lemma accepted_of_all {ctx : Context} {col : Collection} {query : String}
    (h : (compile ctx col query).toOption.join.all fun p =>
      p.fits && p.args.all (·.utf8ByteSize ≤ Like.longest)) : Accepted ctx col query := by
  intro p hp
  simpa [hp, Except.toOption] using h

end Query

lemma Token.Reads.mem_of_mem_terms {part : Part} {ts : List Token} {f : Formula Token}
    (h : Token.Reads part ts f) {t : Token} (ht : t ∈ f.terms) : t ∈ ts ∧ t.isTerm := by
  induction h with
  | @term u hu =>
    obtain rfl : t = u := by simpa [Formula.terms] using ht
    exact ⟨by simp, hu⟩
  | group _ ih => exact ⟨by simp [(ih ht).1], (ih ht).2⟩
  | plain _ ih => exact ih ht
  | negated _ ih => exact ⟨by simp [(ih ht).1], (ih ht).2⟩
  | first _ ih => exact ih ht
  | only _ ih => exact ih ht
  | _ _ _ ihf ihg =>
    rcases List.mem_append.mp ht with ht | ht
    · exact ⟨by simp [(ihf ht).1], (ihf ht).2⟩
    · exact ⟨by simp [(ihg ht).1], (ihg ht).2⟩

namespace Query

def asked? (ctx : Context) (col : Collection) (t : Token) : Option Bound :=
  match interpret? ctx col t with
  | some ⟨.condition c, values⟩ => some ⟨c, values⟩
  | _ => none

/-- Whether a row meets a term, which is evaluated on its own and with its own values. -/
def Met (ctx : Context) (col : Collection) (row : Row) (t : Token) : Prop :=
  ∃ b, asked? ctx col t = some b ∧ b.holds? col.reviews.rows row = some true

lemma asked?_eq_some {ctx : Context} {col : Collection} {t : Token} {b : Bound}
    (h : asked? ctx col t = some b) :
    interpret? ctx col t = some ⟨.condition b.condition, b.values⟩ := by
  rw [asked?] at h
  split at h
  · next c values hi =>
    cases h
    exact hi
  · cases h

def Readable (ctx : Context) (col : Collection) (ts : List Token) : Prop :=
  ∀ t ∈ ts, t.isTerm → (asked? ctx col t).isSome

def bound (ctx : Context) (col : Collection) (t : Token) : Bound :=
  (asked? ctx col t).getD ⟨.never, []⟩

lemma Readable.asked?_eq {ctx : Context} {col : Collection} {ts : List Token}
    (h : Readable ctx col ts) {t : Token} (ht : t ∈ ts) (hterm : t.isTerm) :
    asked? ctx col t = some (bound ctx col t) := by
  obtain ⟨b, hb⟩ := Option.isSome_iff_exists.mp (h t ht hterm)
  simp [bound, hb]

lemma Readable.contribution_eq {ctx : Context} {col : Collection} {ts : List Token}
    (h : Readable ctx col ts) {t : Token} (ht : t ∈ ts) (hterm : t.isTerm) :
    contribution ctx col t = .condition (bound ctx col t) := by
  simp [Query.contribution, asked?_eq_some (h.asked?_eq ht hterm), Reading.map]

lemma Readable.compileTokens_eq {ctx : Context} {col : Collection} {ts : List Token}
    (h : Readable ctx col ts) : compileTokens ctx col ts = .ok (ts.foldl (step ctx col) .empty).finish := by
  have hf : (ts.foldl (step ctx col) .empty).fieldTerms = [] :=
    fieldTerms_run (fun t ht hterm => by simp [asked?_eq_some (h.asked?_eq ht hterm)]) .empty
  simp only [Query.compileTokens, hf]
  rfl

lemma Readable.conditions {ctx : Context} {col : Collection} {ts : List Token}
    (h : Readable ctx col ts) {q : Option (Formula Token)} (hq : Token.Means ts q) :
    ∃ bs, Query.compileTokens ctx col ts = .ok (some (.ofBound bs)) ∧
      (∀ b, .term b ∈ bs → b.Filled) ∧ Formula.Spells bs (q.map (.map (bound ctx col))) := by
  have hrun := Tracks.run ctx col ts
  cases hq with
  | nothing => exact ⟨[], rfl, by simp, .nothing⟩
  | @formula ts f hf =>
    obtain ⟨bs, hw, hbs⟩ := Builder.takeAll_reads (contribution ctx col) (bound ctx col) hf
      fun t ht hterm => h.contribution_eq ht hterm
    have htaken := hbs _ Builder.ready_empty fun _ => rfl
    have hpieces : (Builder.empty.after bs).pieces = bs := rfl
    have hbuilt : (Builder.empty.takeAll (contribution ctx col) ts).pieces = bs := by rw [htaken, hpieces]
    rw [htaken] at hrun
    refine ⟨bs, ?_, fun b hb => filled_takeAll (hbuilt ▸ hb), .formula hw⟩
    rw [h.compileTokens_eq, hrun.finish rfl, hpieces]

end Query

namespace Statement

open Formula (Written Spells ofPieces?)

def joined (q : Option (Formula Bound)) : Formula Operand :=
  .and (.term (.own .ownNote)) (match q with
    | none => .term (.own .always)
    | some f => f.map .given)

lemma outline_spells {bs : List (Piece Bound)} {q : Option (Formula Bound)} (h : Spells bs q) :
    ofPieces? (outline .cardsWithNotes bs) = some (joined q) := by
  have hown : Written .conjunction [.term (Operand.own .ownNote)] _ := .first (.plain (.term _))
  cases h with
  | nothing => rfl
  | formula h =>
    have hw := (hown.and (h.map Operand.given).group.plain).only
    have hne : bs.isEmpty = false := by simpa using h.ne_nil
    simpa [outline, joined, hne, Piece.enclose] using Formula.ofPieces?_written hw

lemma mem_terms_joined {q : Option (Formula Bound)} {o : Operand} (h : o ∈ (joined q).terms) :
    o = .own .ownNote ∨ o = .own .always ∨ ∃ f ∈ q, ∃ b ∈ f.terms, o = .given b := by
  rcases List.mem_append.mp h with h | h
  · exact Or.inl (by simpa [Formula.terms] using h)
  · cases q with
    | none => exact Or.inr (Or.inl (by simpa [Formula.terms] using h))
    | some f =>
      simp only [Formula.terms_map, List.mem_map] at h
      obtain ⟨b, hb, rfl⟩ := h
      exact Or.inr (Or.inr ⟨f, rfl, b, hb, rfl⟩)

lemma holds_joined (q : Option (Formula Bound)) (reviews : List Review) (row : Row) :
    ((joined q).Holds fun o => o.holds? reviews row = some true) ↔
      (∃ n, row.note = some n ∧ row.card.note = n.id) ∧
        ∀ f ∈ q, f.Holds fun b => b.holds? reviews row = some true := by
  cases q with
  | none => simp [joined, Formula.Holds, Operand.holds?, Atom.holds?]
  | some f => simp [joined, Formula.Holds, Operand.holds?, Atom.holds?, Formula.holds_map]

lemma scope_of_ne_cards {p : Projection} (hp : p ≠ .cards) (predicate order : String) :
    p.scope predicate order = .cardsWithNotes := by
  rw [Projection.scope]
  rw [if_neg fun h => hp h.1]

lemma select?_answered {col : Collection} {p : Projection} {bs : List (Piece Bound)} {order : Order}
    {scope : Scope} (hscope : p.scope (Predicate.ofBound bs).text (p.order order.clause) = scope)
    {g : Formula Operand} (hread : ofPieces? (outline scope bs) = some g)
    (hfits : g.fits Operand.extent? (Predicate.ofBound bs).args.length) {keys : List SortKey}
    (hkeys : (if p = .notes then some [] else order.keys? scope) = some keys)
    (hanswer : ∀ row ∈ rows col scope, ∀ o ∈ g.terms, (o.holds? col.reviews.rows row).isSome) :
    ∃ found, select? col p bs order = some found ∧ found.Nodup ∧
      ∀ row, row ∈ found ↔ row ∈ rows col scope ∧
        g.Holds fun o => o.holds? col.reviews.rows row = some true := by
  have heval (row : Row) (hrow : row ∈ rows col scope) :
      ∃ v, g.evaluate? Operand.isVain (Operand.holds? col.reviews.rows row) = some v ∧
        (v = true ↔ g.Holds fun o => o.holds? col.reviews.rows row = some true) := by
    rw [Formula.evaluate?_eq_holds? (fun o ho => Operand.holds?_ne_of_isVain ho _ row) (hanswer row hrow)]
    exact Formula.holds?_eq_some _ g (hanswer row hrow)
  have hkeep : Table.keep?
      (fun row => g.evaluate? Operand.isVain (Operand.holds? col.reviews.rows row)) (rows col scope) =
        some ((rows col scope).filter fun row =>
          g.evaluate? Operand.isVain (Operand.holds? col.reviews.rows row) == some true) :=
    Table.keep?_eq_filter fun row hrow => by
      obtain ⟨v, hv, -⟩ := heval row hrow
      simp [hv]
  have hsel : select? col p bs order = some (SortKey.sort keys ((rows col scope).filter fun row =>
      g.evaluate? Operand.isVain (Operand.holds? col.reviews.rows row) == some true)) := by
    subst hscope
    by_cases hnotes : p = .notes
    · rw [if_pos hnotes] at hkeys
      subst hnotes
      simp [select?, hread, Option.filter_some, hfits, hkeep, ← Option.some_inj.mp hkeys]
    · rw [if_neg hnotes] at hkeys
      simp [select?, hread, Option.filter_some, hfits, hkeep, hnotes, hkeys]
  refine ⟨_, hsel, ?_, fun row => ?_⟩
  · exact (Sorting.sort_perm ..).nodup_iff.mpr ((nodup_rows col _).filter _)
  · rw [SortKey.sort, Sorting.mem_sort, List.mem_filter]
    apply and_congr_right
    intro hrow
    obtain ⟨v, hv, hiff⟩ := heval row hrow
    simp [hv, ← hiff]

lemma isSome_joined {col : Collection} {q : Option (Formula Bound)}
    (h : ∀ f ∈ q, ∀ b ∈ f.terms, Query.Answers b) {row : Row} (hrow : row ∈ rows col .cardsWithNotes)
    {o : Operand} (ho : o ∈ (joined q).terms) : (o.holds? col.reviews.rows row).isSome := by
  obtain ⟨n, -, hn⟩ := (mem_rows_cardsWithNotes.mp hrow).2
  rcases mem_terms_joined ho with rfl | rfl | ⟨f, hf, b, hb, rfl⟩
  · simp [Operand.holds?, Atom.holds?, hn]
  · rfl
  · exact (h f hf b hb).isSome hrow

lemma select?_spelled {col : Collection} {p : Projection} (hp : p ≠ .cards) {bs : List (Piece Bound)}
    (hfill : ∀ b, .term b ∈ bs → b.Filled) (hfits : (Predicate.ofBound bs).fits)
    {q : Option (Formula Bound)} (hq : Spells bs q) {order : Order} {keys : List SortKey}
    (hkeys : (if p = .notes then some [] else order.keys? .cardsWithNotes) = some keys)
    (hanswers : ∀ f ∈ q, ∀ b ∈ f.terms, Query.Answers b) :
    ∃ found, select? col p bs order = some found ∧ found.Nodup ∧
      ∀ row, row ∈ found ↔ row.card ∈ col.cards.rows ∧
        (∃ n ∈ col.notes.rows, row.note = some n ∧ row.card.note = n.id) ∧
        ∀ f ∈ q, f.Holds fun b => b.holds? col.reviews.rows row = some true := by
  have hread := outline_spells hq
  obtain ⟨found, hselected, hnodup, hmem⟩ := select?_answered (scope_of_ne_cards hp ..) hread
    (fits_joined hfill hfits hread) hkeys fun row hrow o ho => isSome_joined hanswers hrow ho
  refine ⟨found, hselected, hnodup, fun row => ?_⟩
  rw [hmem, mem_rows_cardsWithNotes, holds_joined]
  constructor
  · rintro ⟨⟨hc, n, hn, hnote⟩, ⟨m, hm, hown⟩, hholds⟩
    obtain rfl : n = m := Option.some_inj.mp (hnote.symm.trans hm)
    exact ⟨hc, ⟨n, hn, hnote, hown⟩, hholds⟩
  · rintro ⟨hc, ⟨n, hn, hnote, hown⟩, hholds⟩
    exact ⟨⟨hc, n, hn, hnote⟩, ⟨n, hnote, hown⟩, hholds⟩

lemma run?_single {col : Collection} {p : Projection} (hp : p ≠ .cards) {b : Bound}
    (hb : Query.Answers b) (hfits : (Predicate.ofBound [.term b]).fits) {order : Order}
    {keys : List SortKey}
    (hkeys : (if p = .notes then some [] else order.keys? .cardsWithNotes) = some keys) :
    ∃ found, run? col p (.ofBound [.term b]) order = some found ∧ found.Nodup ∧
      ∀ row, row ∈ found ↔ row.card ∈ col.cards.rows ∧
        (∃ n ∈ col.notes.rows, row.note = some n ∧ row.card.note = n.id) ∧
        b.holds? col.reviews.rows row = some true := by
  have hspells : Spells [.term b] (some (.term b)) := .formula (.single (.term b))
  have hfill : ∀ x, Piece.term x ∈ [.term b] → x.Filled := by simpa using hb.1
  have hanswers : ∀ f ∈ some (Formula.term b), ∀ x ∈ f.terms, Query.Answers x := by
    rintro f ⟨⟩ x hx
    obtain rfl : x = b := by simpa [Formula.terms] using hx
    exact hb
  obtain ⟨found, hselected, hnodup, hmem⟩ := select?_spelled hp hfill hfits hspells hkeys hanswers
  refine ⟨found, (run?_predicate col p order hfill).trans hselected, hnodup, fun row => ?_⟩
  simpa [Formula.Holds] using hmem row

end Statement

namespace Query

open Statement

variable {ctx : Context} {col : Collection}

/-- A well-formed query that can be read has one meaning, compiles, and its statement selects every
card with its note that answers to the meaning, once. -/
theorem selects_meaning {ts : List Token} (hts : Token.WellFormed ts) (hr : Readable ctx col ts)
    (hlimit : ∀ t ∈ ts, ∀ b ∈ asked? ctx col t, ∀ v ∈ b.values, v.utf8ByteSize ≤ Like.longest)
    (hfits : ∀ p, compileTokens ctx col ts = .ok (some p) → p.fits) {order : Order}
    {keys : List SortKey} (horder : order.keys? .cardsWithNotes = some keys) :
    ∃ q p found, Token.Means ts q ∧ (∀ q', Token.Means ts q' → q' = q) ∧
      compileTokens ctx col ts = .ok (some p) ∧ run? col .browser p order = some found ∧
      found.Nodup ∧ ∀ row, row ∈ found ↔ row.card ∈ col.cards.rows ∧
        (∃ n ∈ col.notes.rows, row.note = some n ∧ row.card.note = n.id) ∧
        ∀ f ∈ q, f.Holds (Met ctx col row) := by
  obtain ⟨q, hq⟩ := hts.exists_means
  obtain ⟨bs, hp, hfill, hspells⟩ := hr.conditions hq
  have hbound : ∀ f ∈ q, ∀ t ∈ f.terms, asked? ctx col t = some (bound ctx col t) ∧
      Answers (bound ctx col t) := by
    rintro f rfl t ht
    obtain ⟨hmem, hterm⟩ : t ∈ ts ∧ t.isTerm := by
      cases hq with
      | formula hf => exact hf.mem_of_mem_terms ht
    have ha := hr.asked?_eq hmem hterm
    exact ⟨ha, filled_interpret? (asked?_eq_some ha), hlimit t hmem _ ha⟩
  have hanswers : ∀ g ∈ q.map (Formula.map (bound ctx col)), ∀ b ∈ g.terms, Answers b := by
    intro g hg b hb
    obtain ⟨f, hf, rfl⟩ := Option.map_eq_some_iff.mp hg
    obtain ⟨t, ht, rfl⟩ := List.mem_map.mp (Formula.terms_map _ f ▸ hb)
    exact (hbound f hf t ht).2
  obtain ⟨found, hrun, hnodup, hmem⟩ := select?_spelled (p := .browser) (by decide) hfill (hfits _ hp)
    hspells horder hanswers
  refine ⟨q, _, found, hq, fun q' hq' => hq'.unique hq, hp,
    (run?_predicate col .browser order hfill).trans hrun, hnodup, fun row => ?_⟩
  have hmet : (∀ g ∈ q.map (Formula.map (bound ctx col)),
      g.Holds fun b => b.holds? col.reviews.rows row = some true) ↔
      ∀ f ∈ q, f.Holds (Met ctx col row) := by
    cases q with
    | none => simp
    | some f =>
      have hiff : ∀ t ∈ f.terms, (bound ctx col t).holds? col.reviews.rows row = some true ↔
          Met ctx col row t := fun t ht => by simp [Met, (hbound f rfl t ht).1]
      simpa [Formula.holds_map] using Formula.holds_congr hiff
  rw [hmem, hmet]

def sampleTokens : List Token :=
  [.minus, .opening, .text "cat", .or, .command "tag" "pet", .closing, .command "is" "new"]

lemma wellFormed_sampleTokens : Token.WellFormed sampleTokens where
  nested := by decide
  group before inside after h _ := by
    cases inside <;> simp_all [sampleTokens, List.cons_eq_append_iff, Token.starts, Token.isTerm]
  minus before after h := by
    obtain ⟨rfl, rfl⟩ := by simpa [sampleTokens, List.cons_eq_append_iff] using h
    rfl
  or before after h := by
    obtain ⟨rfl, rfl⟩ := by simpa [sampleTokens, List.cons_eq_append_iff] using h
    decide

lemma readable_sampleTokens : Readable sampleContext sampleCollection sampleTokens := by
  rw [Readable]
  decide

lemma short_sampleTokens : ∀ t ∈ sampleTokens, ∀ b ∈ asked? sampleContext sampleCollection t,
    ∀ v ∈ b.values, v.utf8ByteSize ≤ Like.longest := by
  decide

lemma fits_sampleTokens (p : Predicate)
    (h : compileTokens sampleContext sampleCollection sampleTokens = .ok (some p)) : p.fits := by
  have hall : (compileTokens sampleContext sampleCollection sampleTokens).toOption.join.all
      Predicate.fits := by
    decide
  simpa [h, Except.toOption] using hall

theorem selects_meaning_sample : ∃ p found,
    compileTokens sampleContext sampleCollection sampleTokens = .ok (some p) ∧
      run? sampleCollection .browser p .unordered = some found ∧
      found.map (fun row => (row.card.id, row.note.map Note.id)) = [(13, some 3)] ∧
      ∃ q, Token.Means sampleTokens q ∧
        ∀ row ∈ found, ∀ f ∈ q, f.Holds (Met sampleContext sampleCollection row) := by
  obtain ⟨q, p, found, hmeans, -, hcompile, hrun, -, hmem⟩ :=
    selects_meaning wellFormed_sampleTokens readable_sampleTokens short_sampleTokens fits_sampleTokens
      (show Order.keys? .cardsWithNotes .unordered = some [] from rfl)
  have hanswer : ((compileTokens sampleContext sampleCollection sampleTokens).toOption.join.bind
      (run? sampleCollection .browser · .unordered)).map
        (List.map fun row => (row.card.id, row.note.map Note.id)) = some [(13, some 3)] := by
    decide +kernel
  rw [hcompile] at hanswer
  have hfound : found.map (fun row => (row.card.id, row.note.map Note.id)) = [(13, some 3)] := by
    simpa [Except.toOption, hrun] using hanswer
  exact ⟨p, found, hcompile, hrun, hfound, q, hmeans, fun row hrow => ((hmem row).mp hrow).2.2⟩

end Query

end CardQuery
