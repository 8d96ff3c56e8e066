import CardQuery.Proofs.Boolean.Moving
import CardQuery.Proofs.Query.Compiled
import CardQuery.Proofs.Query.Numerals
import CardQuery.Proofs.Search.Scope
import CardQuery.Proofs.Search.Selection
import CardQuery.Proofs.Search.Unreadable
import CardQuery.Search.Find

/-!
Where a field term counts. It is the last term of the query, wherever it is written: it finds what the
ids of its notes find at the end of the query.
-/

namespace CardQuery

namespace Query

variable {ctx : Context} {col : Collection} {pre post : List Token} {name value : String}

lemma contribution_field (h : (Token.command name value).asksField) :
    contribution ctx col (.command name value) = .everything := by
  have hk : Command.ofKey? name = none := by simpa [Token.asksField] using h
  simp [contribution, interpret?, hk]

lemma built_field (h : (Token.command name value).asksField) :
    built ctx col (pre ++ .command name value :: post) = built ctx col (pre ++ post) := by
  have hpush (b : Builder Bound) : b.take (contribution ctx col) (.command name value) = b := by
    rw [Builder.take_of_isTerm rfl, contribution_field h]
    simp [Builder.push]
  simp only [built, Builder.takeAll_append, Builder.takeAll_cons, hpush]

lemma fieldTerms_field (h : (Token.command name value).asksField)
    (hothers : ∀ t ∈ pre ++ post, ¬ t.asksField) :
    ((pre ++ .command name value :: post).foldl (step ctx col) .empty).fieldTerms =
      [(name, value)] := by
  have hk : Command.ofKey? name = none := by simpa [Token.asksField] using h
  have hpre := @fieldTerms_run ctx col pre
    (fun t ht => isSome_interpret? (hothers t (List.mem_append_left _ ht))) .empty
  have hpost := @fieldTerms_run ctx col post
    fun t ht => isSome_interpret? (hothers t (List.mem_append_right _ ht))
  rw [List.foldl_append, List.foldl_cons, hpost]
  simp only [step, hk, hpre]
  rfl

lemma compileTokens_field (h : (Token.command name value).asksField)
    (hothers : ∀ t ∈ pre ++ post, ¬ t.asksField) {c : Condition}
    (hfield : fieldTerms ctx.noteTypes col [(name, value)] = .ok (.condition c)) :
    compileTokens ctx col (pre ++ .command name value :: post) =
      .ok (predicate? ((built ctx col (pre ++ post)).push (.condition ⟨c, []⟩))) := by
  have hreading : fieldReading ctx col (pre ++ .command name value :: post) = .ok (.condition c) := by
    simp only [fieldReading, fieldTerms_field h hothers, List.isEmpty_cons, Bool.false_eq_true,
      if_false, hfield]
  rw [compileTokens_eq, built_field h, hreading]
  cases hv : (built ctx col (pre ++ post)).invalid with
  | true => simp [predicate?, Builder.push, hv]
  | false => rfl

open Statement in
lemma mem_findNotes {query : String} {b : Bound} (hb : Answers b)
    (hfits : (Predicate.ofBound [.term b]).fits)
    (hcompile : compile ctx col query = .ok (some (.ofBound [.term b])))
    {found : List Int} (hfound : Search.findNotes ctx col query = .ok found) (id : Int) :
    id ∈ found ↔ ∃ c ∈ col.cards.rows, ∃ n ∈ col.notes.rows, c.note = n.id ∧ n.id = id ∧
      b.holds? col.reviews.rows ⟨c, some n⟩ = some true := by
  obtain ⟨selected, hrun, -, hmem⟩ :=
    @run?_single col .notes (by decide) b hb hfits .unordered [] rfl
  rw [Search.findNotes, hcompile] at hfound
  simp only [Except.map, hrun, Except.ok.injEq] at hfound
  subst hfound
  simp only [mem_distinct, List.mem_filterMap, Option.map_eq_some_iff, hmem]
  constructor
  · rintro ⟨⟨c, note⟩, ⟨hc, ⟨n, hn, rfl, hown⟩, hholds⟩, k, ⟨⟩, rfl⟩
    exact ⟨c, hc, n, hn, hown, rfl, hholds⟩
  · rintro ⟨c, hc, n, hn, hown, rfl, hholds⟩
    exact ⟨⟨c, some n⟩, ⟨hc, ⟨n, hn, rfl, hown⟩, hholds⟩, n, rfl, rfl⟩

lemma mem_findNotes_notes {query : String} {ids : List Int}
    (hcompile : compile ctx col query = .ok (some (.ofBound [.term ⟨.notes ids, []⟩])))
    {found : List Int} (hfound : Search.findNotes ctx col query = .ok found) (id : Int) :
    id ∈ found ↔ ∃ c ∈ col.cards.rows, ∃ n ∈ col.notes.rows, c.note = n.id ∧ n.id = id ∧ id ∈ ids := by
  have hanswers : Answers ⟨.notes ids, []⟩ := ⟨rfl, by simp⟩
  have hholds (c : Card) (n : Note) : Bound.holds? col.reviews.rows ⟨c, some n⟩ ⟨.notes ids, []⟩ =
      some (ids.contains n.id) := rfl
  have hfits := Statement.fits_list hanswers.1 rfl (rfl : _ = some (Atom.listExtent ids))
  rw [mem_findNotes hanswers hfits hcompile hfound]
  simp only [hholds, Option.some.injEq, List.contains_iff_mem]
  constructor
  · rintro ⟨c, hc, n, hn, hown, rfl, hid⟩
    exact ⟨c, hc, n, hn, hown, rfl, hid⟩
  · rintro ⟨c, hc, n, hn, hown, rfl, hid⟩
    exact ⟨c, hc, n, hn, hown, rfl, hid⟩

lemma compile_field (h : (Token.command name value).asksField) {query : String}
    (hquery : Token.ofQuery query = [.command name value]) {c : Condition}
    (hfield : fieldTerms ctx.noteTypes col [(name, value)] = .ok (.condition c)) :
    compile ctx col query = .ok (some (.ofBound [.term ⟨c, []⟩])) := by
  rw [compile, hquery]
  exact @compileTokens_field ctx col [] [] name value h (by simp) c hfield

lemma exists_notes (h : (Token.command name value).asksField) {query : String}
    (hquery : Token.ofQuery query = [.command name value]) {found : List Int}
    (hfound : Search.findNotes ctx col query = .ok found) (hne : found ≠ []) :
    ∃ ids, fieldTerms ctx.noteTypes col [(name, value)] = .ok (.condition (.notes ids)) ∧
      (∀ id ∈ found, id ∈ ids ∧ ∃ n ∈ col.notes.rows, n.id = id) ∧
      ∀ c ∈ col.cards.rows, ∀ n ∈ col.notes.rows, c.note = n.id → (n.id ∈ ids ↔ n.id ∈ found) := by
  have hk : Command.ofKey? name = none := by simpa [Token.asksField] using h
  rcases fieldTerms_cases ctx.noteTypes col [(name, value)] with ⟨e, he⟩ | hr | hr | ⟨ids, hids⟩
  · simp [Search.findNotes, compile, hquery, compileTokens, step, hk, Progress.empty, Builder.empty,
      he, Except.map] at hfound
  · exfalso
    apply hne
    simpa [Search.findNotes, compile, hquery, compileTokens, step, hk, Progress.empty, Builder.empty,
      hr, Except.map, Progress.push, Interpretation.plain, Builder.push, Progress.finish] using hfound
  · have hanswers : Answers ⟨.never, []⟩ := ⟨rfl, by simp⟩
    have hmem := mem_findNotes hanswers (Statement.fits_alone rfl rfl (by decide) (by decide))
      (compile_field h hquery hr) hfound
    exfalso
    apply hne
    apply List.eq_nil_iff_forall_not_mem.mpr
    intro id hid
    obtain ⟨c, _, n, _, _, _, hholds⟩ := (hmem id).mp hid
    cases hholds
  · have hmem := mem_findNotes_notes (compile_field h hquery hids) hfound
    refine ⟨ids, hids, fun id hid => ?_, fun c hc n hn hown => ?_⟩
    · obtain ⟨-, -, n, hn, -, hid, hids⟩ := (hmem id).mp hid
      exact ⟨hids, n, hn, hid⟩
    · rw [hmem n.id]
      constructor
      · intro hid
        exact ⟨c, hc, n, hn, hown, rfl, hid⟩
      · rintro ⟨-, -, -, -, -, -, hid⟩
        exact hid

open Statement

lemma findCards_congr {query query' : String} {b b' : Builder Bound}
    (hcompile : compile ctx col query = .ok (predicate? b))
    (hcompile' : compile ctx col query' = .ok (predicate? b')) (hinvalid : b.invalid = b'.invalid)
    (hfilled : ∀ x, .term x ∈ b.pieces → x.Filled) (hfilled' : ∀ x, .term x ∈ b'.pieces → x.Filled)
    (hselect : b.invalid = false → ∀ order, select? col .cards b.pieces order =
      select? col .cards b'.pieces order) (request : OrderRequest) :
    Search.findCards ctx col query request = Search.findCards ctx col query' request := by
  cases hv : b.invalid with
  | true =>
    have hv' : b'.invalid = true := hinvalid.symm.trans hv
    simp [Search.findCards, hcompile, hcompile', predicate?, hv, hv']
  | false =>
    have hv' : b'.invalid = false := hinvalid.symm.trans hv
    have hrun (order : Order) : run? col .cards (.ofBound b.pieces) order =
        run? col .cards (.ofBound b'.pieces) order := by
      rw [run?_predicate col .cards order hfilled, run?_predicate col .cards order hfilled']
      exact hselect hv order
    simp [Search.findCards, hcompile, hcompile', predicate?, hv, hv', hrun, Except.map]

def withNotes (ids : List Int) (o : Option Bound) : Bound := o.getD ⟨.notes ids, []⟩

lemma map_withNotes (ps : List (Piece Bound)) (ids : List Int) :
    (ps.map (Piece.map some) ++ [Piece.term none]).map (Piece.map (withNotes ids)) =
      ps ++ [.term ⟨.notes ids, []⟩] := by
  have hps : (ps.map (Piece.map some)).map (Piece.map (withNotes ids)) = ps := by
    rw [List.map_map]
    have hp : ∀ p ∈ ps, Piece.map (withNotes ids) (Piece.map some p) = p := by
      intro p _
      cases p <;> rfl
    exact (List.map_congr_left hp).trans (List.map_id ps)
  rw [List.map_append, hps]
  rfl

/-- Two lists ask for the same notes with cards, in tests of the same height. -/
structure SameNotes (col : Collection) (ids ids' : List Int) : Prop where
  extent : Atom.listExtent ids = Atom.listExtent ids'
  mem_iff : ∀ c ∈ col.cards.rows, ∀ n ∈ col.notes.rows, c.note = n.id → (n.id ∈ ids ↔ n.id ∈ ids')

section

variable {ps : List (Piece Bound)} {ids ids' : List Int}

lemma extent?_withNotes (hextent : Atom.listExtent ids = Atom.listExtent ids') (o : Option Bound) :
    (withNotes ids o).extent? = (withNotes ids' o).extent? := by
  cases o with
  | some b => rfl
  | none => exact congrArg some hextent

lemma isVain_withNotes (hextent : Atom.listExtent ids = Atom.listExtent ids') (o : Option Bound) :
    (withNotes ids o).isVain = (withNotes ids' o).isVain := by
  cases o with
  | some b => rfl
  | none => exact congrArg (· == .vain) hextent

lemma ofPieces?_outline_last (hn : Piece.nested 0 (ps ++ [.term ⟨.notes ids, []⟩])) :
    Formula.ofPieces? (outline .cardsWithNotes (ps ++ [.term ⟨.notes ids, []⟩])) =
      (Formula.ofPieces? (ps.map (Piece.map some) ++ [Piece.term none])).map fun f =>
        .and (.term (.own .ownNote)) (f.map fun o => .given (withNotes ids o)) := by
  have hmap (f : Formula (Option Bound)) :
      (f.map (withNotes ids)).map Operand.given = f.map fun o => .given (withNotes ids o) := by
    induction f with
    | term o => rfl
    | not f ih => simp only [Formula.map, ih]
    | and f g ihf ihg => simp only [Formula.map, ihf, ihg]
    | or f g ihf ihg => simp only [Formula.map, ihf, ihg]
  rw [ofPieces?_outline (by simp) hn, ← map_withNotes, Formula.ofPieces?_map, Option.map_map]
  simp only [Function.comp_def, hmap]

lemma fits_withNotes (hextent : Atom.listExtent ids = Atom.listExtent ids')
    (f : Formula (Option Bound)) :
    (Formula.and (.term (.own .ownNote)) (f.map fun o => .given (withNotes ids o))).fits Operand.extent?
        (Predicate.ofBound (ps ++ [.term ⟨.notes ids, []⟩])).args.length =
      (Formula.and (.term (.own .ownNote)) (f.map fun o => .given (withNotes ids' o))).fits Operand.extent?
        (Predicate.ofBound (ps ++ [.term ⟨.notes ids', []⟩])).args.length := by
  simp only [Predicate.ofBound, Bound.valuesOf, List.flatMap_append, List.flatMap_singleton, Formula.fits,
    Formula.extent?, Formula.extent?_map, Operand.extent?, extent?_withNotes hextent]

lemma nested_notes_last (hn : Piece.nested 0 (ps ++ [.term ⟨.notes ids, []⟩])) (ids' : List Int) :
    Piece.nested 0 (ps ++ [.term ⟨.notes ids', []⟩]) := by
  rw [← map_withNotes, Piece.nested_map] at hn ⊢
  exact hn

lemma answerable_notes_last (hn : Piece.nested 0 (ps ++ [.term ⟨.notes ids, []⟩]))
    (hextent : Atom.listExtent ids = Atom.listExtent ids')
    (h : Answerable (ps ++ [.term ⟨.notes ids, []⟩])) : Answerable (ps ++ [.term ⟨.notes ids', []⟩]) := by
  have hanswers : ∀ x, .term x ∈ ps ++ [.term ⟨.notes ids', []⟩] → Answers x := by
    intro x hx
    rcases List.mem_append.mp hx with hx | hx
    · exact h.answers x (List.mem_append_left _ hx)
    · cases List.mem_singleton.mp hx
      exact ⟨rfl, by simp⟩
  have hfits := h.fits
  rw [fits_ofBound h.filled, ofPieces?_outline_last hn] at hfits
  refine ⟨?_, hanswers⟩
  rw [fits_ofBound fun x hx => (hanswers x hx).1, ofPieces?_outline_last (nested_notes_last hn ids')]
  cases hread : Formula.ofPieces? (ps.map (Piece.map some) ++ [Piece.term none]) with
  | none => rfl
  | some f =>
    rw [hread, Option.map_some, Option.all_some, fits_withNotes hextent] at hfits
    exact hfits

lemma select?_notes_last (hn : Piece.nested 0 (ps ++ [.term ⟨.notes ids, []⟩]))
    (h : SameNotes col ids ids') (order : Order) :
    select? col .cards (ps ++ [.term ⟨.notes ids, []⟩]) order =
      select? col .cards (ps ++ [.term ⟨.notes ids', []⟩]) order := by
  have hmem (ids : List Int) :
      Piece.term ⟨.notes ids, []⟩ ∈ ps ++ [.term (⟨.notes ids, []⟩ : Bound)] := by simp
  apply select?_congr (scope_of_notes (hmem ids) _) (scope_of_notes (hmem ids') _)
  rw [ofPieces?_outline_last hn, ofPieces?_outline_last (nested_notes_last hn ids')]
  cases Formula.ofPieces? (ps.map (Piece.map some) ++ [Piece.term none]) with
  | none => exact .none
  | some f =>
    refine Option.Rel.some ⟨fits_withNotes h.extent f, fun row hrow => ?_⟩
    obtain ⟨hc, n, hnote, hrow⟩ := mem_rows_cardsWithNotes.mp hrow
    obtain ⟨c, note⟩ := row
    obtain rfl : note = some n := hrow
    simp only [Formula.evaluate?, Formula.isVain, Formula.isVain_map, Formula.evaluate?_map,
      Operand.isVain, Operand.holds?, Atom.holds?, isVain_withNotes h.extent, Option.map_some]
    by_cases hown : c.note = n.id
    · have htest : (fun o => (withNotes ids o).holds? col.reviews.rows ⟨c, some n⟩) =
          fun o => (withNotes ids' o).holds? col.reviews.rows ⟨c, some n⟩ := by
        funext o
        cases o with
        | some b => rfl
        | none =>
          have hids : ids.contains n.id = ids'.contains n.id := by
            have hiff := h.mem_iff c hc n hnote hown
            by_cases hid : n.id ∈ ids <;> simp_all
          exact congrArg some hids
      rw [htest]
    · simp [hown]

end

lemma evaluate?_joined {f : Formula Bound} (hanswers : ∀ b ∈ f.terms, Answers b) {row : Row}
    (hrow : row ∈ rows col .cardsWithNotes) :
    ∃ v, (Formula.and (.term (.own .ownNote)) (f.map Operand.given)).evaluate? Operand.isVain
        (Operand.holds? col.reviews.rows row) = some v ∧
      (v = true ↔ (∃ n, row.note = some n ∧ row.card.note = n.id) ∧
        f.Holds fun b => b.holds? col.reviews.rows row = some true) := by
  have hanswer : ∀ o ∈ (joined (some f)).terms, (o.holds? col.reviews.rows row).isSome := by
    intro o ho
    apply isSome_joined _ hrow ho
    rintro _ ⟨⟩
    exact hanswers
  obtain ⟨v, hv, hiff⟩ := Formula.holds?_eq_some _ _ hanswer
  refine ⟨v, ?_, hiff.trans ((holds_joined ..).trans (by simp))⟩
  rw [← hv]
  exact Formula.evaluate?_eq_holds? (fun o ho => Operand.holds?_ne_of_isVain ho _ row) hanswer

lemma select?_equivalent {bs bs' : List (Piece Bound)} {ids ids' : List Int}
    (hids : .term ⟨.notes ids, []⟩ ∈ bs) (hids' : .term ⟨.notes ids', []⟩ ∈ bs')
    (hn : Piece.nested 0 bs) (hn' : Piece.nested 0 bs') (hbs : Answerable bs) (hbs' : Answerable bs')
    (h : Option.Rel Formula.Equivalent (Formula.ofPieces? bs) (Formula.ofPieces? bs'))
    (order : Order) : select? col .cards bs order = select? col .cards bs' order := by
  have hread := ofPieces?_outline (List.ne_nil_of_mem hids) hn
  have hread' := ofPieces?_outline (List.ne_nil_of_mem hids') hn'
  have hjoined := @fits_joined bs hbs.filled hbs.fits
  have hjoined' := @fits_joined bs' hbs'.filled hbs'.fits
  apply select?_congr (scope_of_notes hids _) (scope_of_notes hids' _)
  rw [hread] at hjoined ⊢
  rw [hread'] at hjoined' ⊢
  have hterms {f : Formula Bound} (hf : Formula.ofPieces? bs = some f) : ∀ x ∈ f.terms, Answers x :=
    fun x hx => hbs.answers x (Formula.mem_of_ofPieces? hf hx)
  have hterms' {f : Formula Bound} (hf : Formula.ofPieces? bs' = some f) : ∀ x ∈ f.terms, Answers x :=
    fun x hx => hbs'.answers x (Formula.mem_of_ofPieces? hf hx)
  generalize Formula.ofPieces? bs = q, Formula.ofPieces? bs' = q' at h hterms hterms' hjoined hjoined' ⊢
  cases h with
  | none => exact .none
  | @some f f' hff' =>
    refine Option.Rel.some ⟨(hjoined rfl).trans (hjoined' rfl).symm, fun row hrow => ?_⟩
    obtain ⟨v, hv, hiff⟩ := evaluate?_joined (hterms rfl) hrow
    obtain ⟨v', hv', hiff'⟩ := evaluate?_joined (hterms' rfl) hrow
    have hvv' : v = v' := by
      rw [Bool.eq_iff_iff, hiff, hiff']
      exact and_congr_right fun _ => hff' _
    rw [hv, hv', hvv']

def reached (ctx : Context) (col : Collection) (ts : List Token) : Builder Condition :=
  (ts.foldl (step ctx col) .empty).builder

lemma reached_eq (ts : List Token) :
    reached ctx col ts = (built ctx col ts).map Bound.condition :=
  (Tracks.run ctx col ts).builder

lemma freeStanding_built {t : Token} (h : Builder.FreeStanding (reached ctx col) pre t post) :
    Builder.FreeStanding (built ctx col) pre t post := by
  obtain ⟨outside, unnegated, connective, conjoined, settled⟩ := h
  simp only [reached_eq] at unnegated connective conjoined settled
  exact ⟨outside, unnegated, connective, conjoined, settled⟩

def naming (ids : List Int) : Token := .command "nid" (",".intercalate (ids.map toString))

lemma contribution_naming {ids : List Int} (hne : ids ≠ []) (h : ∀ id ∈ ids, Nameable id) :
    contribution ctx col (naming ids) = .condition ⟨.notes ids, []⟩ := by
  have hkey : Command.ofKey? "nid" = some .nid := by decide
  simp [contribution, naming, interpret?, hkey, command, idsOf_of_lists (lists_intercalate hne h),
    Interpretation.plain, Reading.map]

lemma not_asksField_naming (ids : List Int) : ¬ (naming ids).asksField := by
  have hkey : Command.ofKey? "nid" = some .nid := by decide
  simp [naming, Token.asksField, hkey]

/-- What is built from tokens that end in a test for the notes `ids`. -/
def endingIn (ctx : Context) (col : Collection) (ts : List Token) (ids : List Int) : Builder Bound :=
  (built ctx col ts).push (.condition ⟨.notes ids, []⟩)

section

variable {ts : List Token} {ids ids' : List Int}

lemma invalid_endingIn : (endingIn ctx col ts ids).invalid = (built ctx col ts).invalid := by
  cases hv : (built ctx col ts).invalid <;> simp [endingIn, Builder.push, Builder.emit, hv]

lemma pieces_endingIn (hv : (built ctx col ts).invalid = false) : (endingIn ctx col ts ids).pieces =
    (built ctx col ts).pieces ++ (built ctx col ts).lead ++ [.term ⟨.notes ids, []⟩] := by
  simp [endingIn, Builder.push, Builder.emit, hv]

lemma filled_endingIn {x : Bound} (hx : .term x ∈ (endingIn ctx col ts ids).pieces) : x.Filled := by
  rcases Builder.mem_push hx with hx | ⟨⟨⟩⟩
  · exact filled_takeAll hx
  · rfl

lemma built_naming (hne : ids ≠ []) (hids : ∀ id ∈ ids, Nameable id) :
    built ctx col (ts ++ [naming ids]) = endingIn ctx col ts ids := by
  rw [built, Builder.takeAll_append, Builder.takeAll_cons, Builder.takeAll_nil,
    Builder.take_of_isTerm rfl, contribution_naming hne hids]
  rfl

lemma nested_built (hn : Token.nested 0 ts) (hv : (built ctx col ts).invalid = false) :
    Piece.nested 0 (built ctx col ts).pieces :=
  Builder.nested_takeAll hn hv

lemma nested_endingIn (hn : Token.nested 0 ts) (hv : (built ctx col ts).invalid = false) :
    Piece.nested 0 (endingIn ctx col ts ids).pieces :=
  nested_finish (r := .condition (.notes ids)) hn (invalid_endingIn.trans hv)

lemma select?_endingIn (hn : Token.nested 0 ts) (hv : (built ctx col ts).invalid = false)
    (h : SameNotes col ids ids') (order : Order) :
    select? col .cards (endingIn ctx col ts ids).pieces order =
      select? col .cards (endingIn ctx col ts ids').pieces order := by
  have hnested := @nested_endingIn ctx col ts ids hn hv
  rw [pieces_endingIn hv] at hnested ⊢
  rw [pieces_endingIn hv]
  exact select?_notes_last hnested h order

lemma answerable_endingIn (hn : Token.nested 0 ts) (hv : (built ctx col ts).invalid = false)
    (hextent : Atom.listExtent ids = Atom.listExtent ids')
    (h : Answerable (endingIn ctx col ts ids).pieces) : Answerable (endingIn ctx col ts ids').pieces := by
  have hnested := @nested_endingIn ctx col ts ids hn hv
  rw [pieces_endingIn hv] at hnested h ⊢
  exact answerable_notes_last hnested hextent h

end

variable {ids ids' : List Int}

lemma listExtent_of_nameable (hne : ids ≠ []) (h : ∀ id ∈ ids, Nameable id) :
    Atom.listExtent ids = .tree 3 0 := by
  match ids with
  | [] => exact absurd rfl hne
  | [id] =>
    have hid : ¬ id < 0 := Int.not_lt.mpr (h id (by simp)).1
    simp [Atom.listExtent, Atom.literalHeight, hid]
  | _ :: _ :: _ => rfl

lemma listExtent_of_subset {ids' : List Int} (hne : ids ≠ []) (hids : ∀ id ∈ ids, Nameable id)
    (hsub : ∀ id ∈ ids, id ∈ ids') : Atom.listExtent ids' = .tree 3 0 := by
  obtain ⟨id, hid⟩ := List.exists_mem_of_ne_nil ids hne
  match ids', hsub id hid with
  | [_], hmem =>
    apply listExtent_of_nameable (by simp)
    rw [← List.mem_singleton.mp hmem]
    simpa using hids id hid
  | _ :: _ :: _, _ => rfl

lemma exists_sameNotes (hfield : (Token.command name value).asksField)
    (hstored : ∀ n ∈ col.notes.rows, Nameable n.id) {alone : String}
    (halone : Token.ofQuery alone = [.command name value]) {found : List Int}
    (hfound : Search.findNotes ctx col alone = .ok found) (hne : found ≠ [])
    (hids : ∀ id, id ∈ ids ↔ id ∈ found) :
    (ids ≠ [] ∧ ∀ id ∈ ids, Nameable id) ∧ ∃ ids', SameNotes col ids' ids ∧
      fieldTerms ctx.noteTypes col [(name, value)] = .ok (.condition (.notes ids')) := by
  obtain ⟨ids', hcondition, hexists, hagree⟩ := exists_notes hfield halone hfound hne
  have hidsne : ids ≠ [] := by
    obtain ⟨id, hid⟩ := List.exists_mem_of_ne_nil found hne
    exact List.ne_nil_of_mem ((hids id).mpr hid)
  have hnameable : ∀ id ∈ ids, Nameable id := by
    intro id hid
    obtain ⟨-, n, hn, rfl⟩ := hexists id ((hids id).mp hid)
    exact hstored n hn
  refine ⟨⟨hidsne, hnameable⟩, ids', ⟨?_, fun c hc n hn hown => ?_⟩, hcondition⟩
  · rw [listExtent_of_nameable hidsne hnameable]
    exact listExtent_of_subset hidsne hnameable fun id hid => (hexists id ((hids id).mp hid)).1
  · exact (hagree c hc n hn hown).trans (hids n.id).symm

section

variable (hne : ids ≠ []) (hids : ∀ id ∈ ids, Nameable id)
include hne hids

lemma mem_placed (hv : (built ctx col (pre ++ naming ids :: post)).invalid = false) :
    .term ⟨.notes ids, []⟩ ∈ (built ctx col (pre ++ naming ids :: post)).pieces := by
  have hplaced : built ctx col (pre ++ naming ids :: post) =
      (built ctx col (pre ++ [naming ids])).takeAll (contribution ctx col) post := by
    simp [built]
  rw [hplaced] at hv ⊢
  have hv' := Builder.valid_of_takeAll hv
  rw [built_naming hne hids, invalid_endingIn] at hv'
  rw [Builder.pieces_takeAll, built_naming hne hids, pieces_endingIn hv']
  simp

variable (h : Builder.FreeStanding (built ctx col) pre (naming ids) post)
  (hn : Token.nested 0 (pre ++ post))
include h hn

lemma moved_naming : (built ctx col (pre ++ naming ids :: post)).invalid =
      (endingIn ctx col (pre ++ post) ids).invalid ∧
    ((built ctx col (pre ++ naming ids :: post)).invalid = false → Option.Rel Formula.Equivalent
      (Formula.ofPieces? (built ctx col (pre ++ naming ids :: post)).pieces)
      (Formula.ofPieces? (endingIn ctx col (pre ++ post) ids).pieces)) := by
  have hpost : Token.nested 0 post := by rwa [Token.nested_append h.outside 0 post] at hn
  exact Builder.ofPieces?_moved rfl (contribution_naming hne hids) h hpost

lemma select?_naming_moved (hv : (built ctx col (pre ++ post)).invalid = false)
    (hplaced : Answerable (built ctx col (pre ++ naming ids :: post)).pieces)
    (hlast : Answerable (endingIn ctx col (pre ++ post) ids).pieces) (order : Order) :
    select? col .cards (built ctx col (pre ++ naming ids :: post)).pieces order =
      select? col .cards (endingIn ctx col (pre ++ post) ids).pieces order := by
  obtain ⟨hinvalid, hrel⟩ := moved_naming hne hids h hn
  have hv' : (built ctx col (pre ++ naming ids :: post)).invalid = false :=
    hinvalid.trans (invalid_endingIn.trans hv)
  have hnested : Token.nested 0 (pre ++ naming ids :: post) := by
    rwa [Token.nested_insert rfl]
  have hmem : .term ⟨.notes ids, []⟩ ∈ (endingIn ctx col (pre ++ post) ids).pieces := by
    rw [pieces_endingIn hv]
    simp
  exact select?_equivalent (mem_placed hne hids hv') hmem (nested_built hnested hv')
    (nested_endingIn hn hv) hplaced hlast (hrel hv') order

end

lemma freeStanding_sample : Builder.FreeStanding (reached sampleContext sampleCollection)
    [.opening, .text "cat", .or, .command "is" "new", .closing] (naming [1])
    [.minus, .command "tag" "pet"] where
  outside := by decide
  unnegated := by decide
  connective := by decide
  conjoined := by
    intro us hus
    have hall : ∀ us ∈ [Token.minus, .command "tag" "pet"].inits, Token.nested 0 us →
        (reached sampleContext sampleCollection ([.opening, .text "cat", .or, .command "is" "new",
          .closing] ++ naming [1] :: us)).disjoinNext = false := by decide
    exact hall us ((List.mem_inits us _).mpr hus)
  settled := by decide

end Query

end CardQuery
