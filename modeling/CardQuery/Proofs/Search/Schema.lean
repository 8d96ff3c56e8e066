import CardQuery.Proofs.Collection.Table
import CardQuery.Proofs.Search.OneUnit
import CardQuery.Proofs.Search.Scope
import CardQuery.Proofs.Search.Selection
import CardQuery.Proofs.Text.Numeral

namespace CardQuery

open Formula (Written)

namespace TemplateCards

def covers (t : TemplateCards) (card : Card) (note : Note) : Bool :=
  note.noteType == t.noteType && t.ord.all (card.ord == ·)

def formula (t : TemplateCards) : Formula Test :=
  match t.ord with
  | none => .term ⟨.ofType t.noteType, []⟩
  | some ord => .and (.term ⟨.ofType t.noteType, []⟩) (.term ⟨.ord ord, []⟩)

def alternatives (f : Formula Test) (ts : List TemplateCards) : Formula Test :=
  ts.foldl (fun f t => .or f t.formula) f

lemma written_formula (t : TemplateCards) : Written .unit (Test.bind [] t.pieces) t.formula := by
  obtain ⟨id, ord⟩ := t
  cases ord with
  | none => exact .group (.single (.term _))
  | some ord => exact .group (.only (.and (.first (.plain (.term _))) (.plain (.term _))))

lemma bind_append (t : TemplateCards) (ps : List (Piece Atom)) :
    Test.bind [] (t.pieces ++ ps) = Test.bind [] t.pieces ++ Test.bind [] ps := by
  obtain ⟨id, ord⟩ := t
  cases ord <;> rfl

lemma written_alternatives {ps : List (Piece Test)} {f : Formula Test}
    (h : Written .alternatives ps f) (ts : List TemplateCards) :
    Written .alternatives (ps ++ Test.bind [] (ts.flatMap fun t => .or :: t.pieces))
      (alternatives f ts) := by
  induction ts generalizing ps f with
  | nil => simpa [Test.bind, alternatives] using h
  | cons t ts ih =>
    have hjoined := ih (h.or t.written_formula.plain.first)
    rw [List.flatMap_cons, List.cons_append, Test.bind, bind_append]
    simpa [alternatives] using hjoined

lemma holds?_formula (t : TemplateCards) (reviews : List Review) (card : Card) (note : Note) :
    t.formula.holds? (Test.holds? reviews ⟨card, some note⟩) = some (t.covers card note) := by
  obtain ⟨id, ord⟩ := t
  cases ord with
  | none => simp [formula, Formula.holds?, Test.holds?, Atom.holds?, covers]
  | some ord =>
    cases h : note.noteType == id <;>
      simp [formula, Formula.holds?, Test.holds?, Atom.holds?, covers, h]

lemma holds?_alternatives {reviews : List Review} {card : Card} {note : Note} {f : Formula Test} {v : Bool}
    (hv : f.holds? (Test.holds? reviews ⟨card, some note⟩) = some v) (ts : List TemplateCards) :
    (alternatives f ts).holds? (Test.holds? reviews ⟨card, some note⟩) =
      some (v || ts.any (·.covers card note)) := by
  induction ts generalizing f v with
  | nil => simpa [alternatives] using hv
  | cons t ts ih =>
    have hor : (Formula.or f t.formula).holds? (Test.holds? reviews ⟨card, some note⟩) =
        some (v || t.covers card note) := by
      cases v <;> simp [Formula.holds?, hv, holds?_formula]
    rw [List.any_cons, ← Bool.or_assoc]
    exact ih hor

lemma extent?_formula (t : TemplateCards) :
    t.formula.extent? Test.extent? = some (.tree (if t.ord.isSome then 4 else 3) 0) := by
  obtain ⟨id, ord⟩ := t
  cases ord <;> rfl

lemma le_extent?_alternatives {f : Formula Test} {low : ℕ}
    (hf : ∀ e, f.extent? Test.extent? = some e → e ≠ .vain ∧ low ≤ e.height) (ts : List TemplateCards)
    {e : Extent} (he : (alternatives f ts).extent? Test.extent? = some e) :
    e ≠ .vain ∧ low + ts.length ≤ e.height := by
  induction ts generalizing f low with
  | nil => exact hf e he
  | cons t ts ih =>
    have hor (e : Extent) (he : (Formula.or f t.formula).extent? Test.extent? = some e) :
        e ≠ .vain ∧ low + 1 ≤ e.height := by
      simp only [Formula.extent?, extent?_formula, Option.bind_some, Option.bind_eq_some_iff] at he
      obtain ⟨e', he', hwhole⟩ := he
      obtain ⟨-, rfl⟩ := Extent.tree?_eq_some.mp hwhole
      have hlow := (hf e' he').2
      refine ⟨by simp, ?_⟩
      show low + 1 ≤ max e'.height _ + 1
      omega
    obtain ⟨hvain, hheight⟩ := ih hor he
    rw [List.length_cons]
    exact ⟨hvain, by omega⟩

lemma extent?_alternatives {f : Formula Test} {height high : ℕ}
    (hf : f.extent? Test.extent? = some (.tree height 0)) (hheight : height ≤ high) (hhigh : 4 ≤ high)
    {ts : List TemplateCards} (hdeep : high + ts.length ≤ Extent.deepest) :
    ∃ height' ≤ high + ts.length,
      (alternatives f ts).extent? Test.extent? = some (.tree height' 0) := by
  induction ts generalizing f height high with
  | nil => exact ⟨height, hheight, hf⟩
  | cons t ts ih =>
    rw [List.length_cons] at hdeep ⊢
    have ht : (if t.ord.isSome then 4 else 3) ≤ high := by
      split <;> omega
    have hor : (Formula.or f t.formula).extent? Test.extent? =
        some (.tree (max height (if t.ord.isSome then 4 else 3) + 1) 0) := by
      rw [Formula.extent?, hf, extent?_formula, Option.bind_some, Option.bind_some, Extent.or?,
        Extent.tree?_eq_some]
      exact ⟨by simp only [Extent.height]; omega, rfl⟩
    have hnext : max height (if t.ord.isSome then 4 else 3) + 1 ≤ high + 1 := by omega
    obtain ⟨height', hle, htail⟩ := ih hor hnext (by omega) (by omega)
    exact ⟨height', by omega, htail⟩

end TemplateCards

section

variable (first : TemplateCards) (others : List TemplateCards)

lemma Bound.ofPieces?_templates : Formula.ofPieces? (pieces ⟨.templates first others, []⟩) =
    some (TemplateCards.alternatives first.formula others) := by
  have hpieces : Bound.pieces ⟨.templates first others, []⟩ =
      Test.bind [] first.pieces ++ Test.bind [] (others.flatMap fun t => .or :: t.pieces) :=
    first.bind_append _
  rw [hpieces]
  exact Formula.ofPieces?_written
    (TemplateCards.written_alternatives first.written_formula.single others)

lemma Bound.holds?_templates (reviews : List Review) (card : Card) (note : Note) :
    Bound.holds? reviews ⟨card, some note⟩ ⟨.templates first others, []⟩ =
      some ((first :: others).any (·.covers card note)) := by
  rw [Bound.holds?_of_formula (Bound.ofPieces?_templates first others), List.any_cons]
  exact TemplateCards.holds?_alternatives (first.holds?_formula ..) others

lemma Query.answers_templates : Answers ⟨.templates first others, []⟩ :=
  ⟨(places_templates first others).symm, by simp⟩

lemma Predicate.fits_templates (h : others.length ≤ 995) :
    (ofBound [.term ⟨.templates first others, []⟩]).fits := by
  have hfirst : (if first.ord.isSome then 4 else 3) ≤ 4 := by
    split <;> omega
  have hdeep : 4 + others.length ≤ Extent.deepest := by
    rw [Extent.deepest]
    omega
  obtain ⟨height, hheight, hextent⟩ :=
    TemplateCards.extent?_alternatives first.extent?_formula hfirst (le_refl 4) hdeep
  have hbound : Bound.extent? ⟨.templates first others, []⟩ = some (.tree height 0) := by
    rw [Bound.extent?, Bound.ofPieces?_templates, Option.bind_some, hextent]
  refine Statement.fits_alone (Query.answers_templates first others).1 hbound ?_ (by simp)
  simp only [Extent.height, Extent.inner, Extent.deepest]
  omega

lemma Predicate.not_fits_templates (hord : first.ord.isSome) (h : 996 ≤ others.length) :
    (ofBound [.term ⟨.templates first others, []⟩]).fits = false := by
  refine Statement.not_fits_alone (Query.answers_templates first others).1 fun e he => ?_
  rw [Bound.extent?, Bound.ofPieces?_templates, Option.bind_some] at he
  have hfirst (e : Extent) (he : first.formula.extent? Test.extent? = some e) :
      e ≠ .vain ∧ 4 ≤ e.height := by
    rw [first.extent?_formula, if_pos hord] at he
    cases he
    exact ⟨by simp, le_refl 4⟩
  obtain ⟨hvain, hheight⟩ := TemplateCards.le_extent?_alternatives hfirst others he
  refine ⟨hvain, ?_⟩
  rw [Extent.deepest]
  omega

end

namespace Query

open Number

variable {types : List NoteType} {name : String}

/-- `Makes t name ord`: a template of the type has the name, and the card of that ordinal is made by such
a template; of a cloze type, any ordinal is. -/
structure Makes (t : NoteType) (name : String) (ord : Int) : Prop where
  named : ∃ tm ∈ t.templates, Text.lower tm.name = Text.lower name
  ordinal : t.kind = .cloze ∨ ∃ tm ∈ t.templates, Text.lower tm.name = Text.lower name ∧ ord = tm.ord

lemma templateCards_eq_nil : templateCards types name = [] ↔
    ∀ t ∈ types, ∀ tm ∈ t.templates, Text.lower tm.name ≠ Text.lower name := by
  simp [templateCards, sameName]

lemma any_covers {card : Card} {note : Note} : (templateCards types name).any (·.covers card note) ↔
    ∃ t ∈ types, t.id = note.noteType ∧ Makes t name card.ord := by
  simp only [templateCards, List.any_flatMap, List.any_map, List.any_filter, List.any_eq_true,
    Function.comp_apply, TemplateCards.covers, sameName, Bool.and_eq_true, beq_iff_eq]
  constructor
  · rintro ⟨t, ht, tm, htm, hname, hid, hord⟩
    refine ⟨t, ht, hid.symm, ⟨tm, htm, hname⟩, ?_⟩
    by_cases hcloze : t.kind = .cloze
    · exact Or.inl hcloze
    · rw [if_neg hcloze] at hord
      exact Or.inr ⟨tm, htm, hname, by simpa using hord⟩
  · rintro ⟨t, ht, hid, ⟨tm, htm, hname⟩, hcloze | ⟨tm', htm', hname', hord⟩⟩
    · exact ⟨t, ht, tm, htm, hname, hid.symm, by simp [hcloze]⟩
    · refine ⟨t, ht, tm', htm', hname', hid.symm, ?_⟩
      split <;> simp [hord]

lemma template_of_name (h : ∀ n, ¬IsNumeral name.toList n) :
    templateCards types name = [] ∧ template types name = .invalid ∨
      ∃ first others, templateCards types name = first :: others ∧
        template types name = .condition (.templates first others) := by
  have hread : readText? name = none := read?_eq_none.mpr h
  cases hcards : templateCards types name with
  | nil => exact Or.inl ⟨rfl, by simp only [template, hread, hcards]⟩
  | cons first others => exact Or.inr ⟨first, others, rfl, by simp only [template, hread, hcards]⟩

lemma contains_named {id : Int} : ((types.filter (sameName ·.name name)).map NoteType.id).contains id ↔
    ∃ t ∈ types, t.id = id ∧ Text.lower t.name = Text.lower name := by
  simp only [List.contains_iff_mem, List.mem_map, List.mem_filter, sameName, beq_iff_eq]
  constructor
  · rintro ⟨t, ⟨ht, hname⟩, hid⟩
    exact ⟨t, ht, hid, hname⟩
  · rintro ⟨t, ht, hid, hname⟩
    exact ⟨t, ⟨ht, hname⟩, hid⟩

lemma exists_registered (hids : (types.map NoteType.id).Nodup) {id : Int} {p : NoteType → Prop} :
    (∃ t ∈ types, t.id = id ∧ p t) ↔ ∃ t, NoteType.find? types id = some t ∧ p t := by
  simp only [NoteType.find?, find?_key_iff hids, and_assoc]

/-- `Selects types t c p`: a card with its note meets the condition when the registered type of the note
satisfies `p` with the card, and the term, alone in a query, finds just these cards. -/
structure Selects (types : List NoteType) (t : Token) (c : Condition) (p : NoteType → Card → Prop) :
    Prop where
  answers : ∀ reviews card note, ∃ v, Bound.holds? reviews ⟨card, some note⟩ ⟨c, []⟩ = some v ∧
    (v = true ↔ ∃ t, NoteType.find? types note.noteType = some t ∧ p t card)
  finds : ∀ ctx col, ctx.noteTypes = types → ∃ predicate found,
    compileTokens ctx col [t] = .ok (some predicate) ∧
    Statement.run? col .browser predicate .unordered = some found ∧ found.Nodup ∧
    ∀ row, row ∈ found ↔ row.card ∈ col.cards.rows ∧ ∃ n ∈ col.notes.rows, row.note = some n ∧
      row.card.note = n.id ∧ ∃ t, NoteType.find? types n.noteType = some t ∧ p t row.card

section

variable {key : String} {command : Command} {c : Condition}

lemma contribution_command {ctx : Context} {col : Collection} (hkey : Command.ofKey? key = some command)
    (hc : Query.command ctx col name command = .plain (.condition c)) :
    contribution ctx col (.command key name) = .condition ⟨c, []⟩ := by
  simp only [contribution, interpret?, hkey, Option.map_some, hc]
  rfl

lemma compileTokens_command {ctx : Context} {col : Collection} (hkey : Command.ofKey? key = some command)
    (hc : Query.command ctx col name command = .plain (.condition c)) :
    compileTokens ctx col [.command key name] = .ok (some (.ofBound [.term ⟨c, []⟩])) := by
  have hplain : ∀ t ∈ [Token.command key name], ¬ t.asksField := by simp [Token.asksField, hkey]
  have hbuilt : built ctx col [.command key name] =
      Builder.empty.push (contribution ctx col (.command key name)) := rfl
  rw [compileTokens_plain hplain, hbuilt, contribution_command hkey hc]
  rfl

lemma selects_command (hkey : Command.ofKey? key = some command)
    (hc : ∀ ctx col, ctx.noteTypes = types →
      Query.command ctx col name command = .plain (.condition c))
    (hanswers : Answers ⟨c, []⟩) (hfits : (Predicate.ofBound [.term ⟨c, []⟩]).fits)
    {p : NoteType → Card → Prop} (hholds : ∀ reviews card note, ∃ v,
      Bound.holds? reviews ⟨card, some note⟩ ⟨c, []⟩ = some v ∧
        (v = true ↔ ∃ t, NoteType.find? types note.noteType = some t ∧ p t card)) :
    Selects types (.command key name) c p where
  answers := hholds
  finds ctx col hctx := by
    obtain ⟨found, hrun, hnodup, hmem⟩ :=
      @Statement.run?_single col .browser (by decide) ⟨c, []⟩ hanswers hfits .unordered [] rfl
    refine ⟨_, found, compileTokens_command hkey (hc ctx col hctx), hrun, hnodup, fun row => ?_⟩
    obtain ⟨card, note⟩ := row
    have hmet (n : Note) : Bound.holds? col.reviews.rows ⟨card, some n⟩ ⟨c, []⟩ = some true ↔
        ∃ t, NoteType.find? types n.noteType = some t ∧ p t card := by
      obtain ⟨v, hv, hiff⟩ := hholds col.reviews.rows card n
      rw [hv, Option.some_inj, hiff]
    rw [hmem]
    constructor
    · rintro ⟨hc, ⟨n, hn, rfl, hown⟩, hholds⟩
      exact ⟨hc, n, hn, rfl, hown, (hmet n).mp hholds⟩
    · rintro ⟨hc, n, hn, rfl, hown, hp⟩
      exact ⟨hc, ⟨n, hn, rfl, hown⟩, (hmet n).mpr hp⟩

end

lemma selects_templates (hids : (types.map NoteType.id).Nodup) {first : TemplateCards}
    {others : List TemplateCards} (hcards : templateCards types name = first :: others)
    (hread : template types name = .condition (.templates first others))
    (hfits : (Predicate.ofBound [.term ⟨.templates first others, []⟩]).fits) :
    Selects types (.command "card" name) (.templates first others) fun t card => Makes t name card.ord := by
  have hcommand (ctx : Context) (col : Collection) (hctx : ctx.noteTypes = types) :
      Query.command ctx col name .card = .plain (.condition (.templates first others)) := by
    subst hctx
    exact congrArg Interpretation.plain hread
  apply selects_command rfl hcommand (answers_templates first others) hfits
  intro reviews card note
  refine ⟨_, Bound.holds?_templates first others reviews card note, ?_⟩
  rw [← hcards, any_covers, exists_registered hids]

lemma selects_noteType (hids : (types.map NoteType.id).Nodup) :
    Selects types (.command "note" name)
      (.noteTypes ((types.filter (sameName ·.name name)).map NoteType.id))
      fun t _ => Text.lower t.name = Text.lower name := by
  have hcommand (ctx : Context) (col : Collection) (hctx : ctx.noteTypes = types) :
      Query.command ctx col name .note = .plain (noteTypeNamed types name) := by
    subst hctx
    rfl
  have hanswers : Answers ⟨.noteTypes ((types.filter (sameName ·.name name)).map NoteType.id), []⟩ :=
    ⟨rfl, by simp⟩
  apply selects_command rfl hcommand hanswers (Statement.fits_list hanswers.1 rfl rfl)
  intro reviews card note
  refine ⟨_, rfl, ?_⟩
  rw [contains_named, exists_registered hids]

/-- A term with the name of a template selects the cards made by such a template, and one with the name of
a note type the cards of that type, whatever is registered besides, as long as the store takes the
statement. Either is one operand of the query it stands in. -/
theorem schema_selects (hids : (types.map NoteType.id).Nodup) :
    ((∀ n, ¬IsNumeral name.toList n) →
      (template types name = .invalid ↔
        ∀ t ∈ types, ∀ tm ∈ t.templates, Text.lower tm.name ≠ Text.lower name) ∧
      (template types name ≠ .invalid → ∃ c, template types name = .condition c ∧
        ((templateCards types name).length ≤ 996 → (Predicate.ofBound [.term ⟨c, []⟩]).fits) ∧
        ((Predicate.ofBound [.term ⟨c, []⟩]).fits →
          Selects types (.command "card" name) c fun t card => Makes t name card.ord))) ∧
    (∃ c, noteTypeNamed types name = .condition c ∧
      Selects types (.command "note" name) c fun t _ => Text.lower t.name = Text.lower name) ∧
    ∀ ctx col, ctx.noteTypes = types →
      (∀ c, template types name = .condition c → OneUnit ctx col (.command "card" name) c) ∧
      (∀ c, noteTypeNamed types name = .condition c → OneUnit ctx col (.command "note" name) c) := by
  refine ⟨fun hname => ?_, ⟨_, rfl, selects_noteType hids⟩, ?_⟩
  · rw [← templateCards_eq_nil]
    rcases template_of_name hname with ⟨hcards, hinvalid⟩ | ⟨first, others, hcards, hread⟩
    · exact ⟨iff_of_true hinvalid hcards, fun h => absurd hinvalid h⟩
    · refine ⟨iff_of_false (by simp [hread]) (by simp [hcards]), fun _ => ⟨_, hread, fun hcount => ?_,
        selects_templates hids hcards hread⟩⟩
      rw [hcards, List.length_cons] at hcount
      exact Predicate.fits_templates first others (by omega)
  · rintro ctx col rfl
    refine ⟨fun c hc => oneUnit rfl (contribution_command rfl ?_),
      fun c hc => oneUnit rfl (contribution_command rfl ?_)⟩
    · exact congrArg Interpretation.plain hc
    · exact congrArg Interpretation.plain hc

def namesakes (count : ℕ) : List NoteType :=
  [⟨1, "Basic", .standard, ["Front", "Back"], List.replicate count ⟨"T", 0⟩, 0⟩]

lemma template_namesakes (count : ℕ) : template (namesakes (count + 1)) "T" =
    .condition (.templates ⟨1, some 0⟩ (List.replicate count ⟨1, some 0⟩)) := by
  have hname : ∀ n, ¬IsNumeral "T".toList n := read?_eq_none.mp (by decide)
  have hcards : templateCards (namesakes (count + 1)) "T" =
      ⟨1, some 0⟩ :: List.replicate count ⟨1, some 0⟩ := by
    simp [templateCards, namesakes, sameName, List.replicate_succ]
  rcases template_of_name hname with ⟨hnone, -⟩ | ⟨first, others, hsome, hread⟩
  · cases hcards.symm.trans hnone
  · cases hcards.symm.trans hsome
    exact hread

lemma findCards_namesakes {count : ℕ} (h : 996 ≤ count) (col : Collection) :
    Search.findCards { sampleContext with noteTypes := namesakes (count + 1) } col "card:T"
      .unordered = .ok [] := by
  let b : Bound := ⟨.templates ⟨1, some 0⟩ (List.replicate count ⟨1, some 0⟩), []⟩
  have hquery : Token.ofQuery "card:T" = [.command "card" "T"] := by decide
  have hcompile : compile { sampleContext with noteTypes := namesakes (count + 1) } col "card:T" =
      .ok (some (.ofBound [.term b])) := by
    rw [compile, hquery]
    exact compileTokens_command rfl (congrArg Interpretation.plain (template_namesakes count))
  have hnote : b.ofNote := ⟨.ofType 1, by simp [b, Condition.pieces, TemplateCards.pieces], rfl⟩
  have hfits : (Predicate.ofBound [.term b]).fits = false :=
    Predicate.not_fits_templates _ _ rfl (by rwa [List.length_replicate])
  have hrefused : Statement.run? col .cards (.ofBound [.term b]) .unordered = none :=
    Statement.run?_eq_none_of_not_fits hfits
      (Statement.scope_of_ofNote (List.mem_singleton.mpr rfl) hnote _)
  rw [Search.findCards, hcompile]
  simp only [Except.map, OrderRequest.resolve, hrefused]

theorem schema_selects_oversized : (∀ n, ¬IsNumeral "T".toList n) ∧
    template (namesakes 997) "T" ≠ .invalid ∧
    (∃ card ∈ sampleCollection.cards.rows, ∃ n ∈ sampleCollection.notes.rows, card.note = n.id ∧
      ∃ t, NoteType.find? (namesakes 997) n.noteType = some t ∧ Makes t "T" card.ord) ∧
    Search.findCards { sampleContext with noteTypes := namesakes 997 } sampleCollection "card:T"
      .unordered = .ok [] := by
  have hmade : Makes ⟨1, "Basic", .standard, ["Front", "Back"], List.replicate 997 ⟨"T", 0⟩, 0⟩ "T" 0 := by
    have hmem : (⟨"T", 0⟩ : Template) ∈ List.replicate 997 ⟨"T", 0⟩ :=
      List.mem_replicate.mpr ⟨by decide, rfl⟩
    exact ⟨⟨_, hmem, rfl⟩, Or.inr ⟨_, hmem, rfl, rfl⟩⟩
  have hvalid : template (namesakes 997) "T" ≠ .invalid := by
    rw [template_namesakes]
    exact nofun
  refine ⟨read?_eq_none.mp (by decide), hvalid, ?_, findCards_namesakes (le_refl 996) _⟩
  exact ⟨_, List.mem_cons_self, _, List.mem_cons_self, rfl, _, rfl, hmade⟩

def studyTypes : List NoteType :=
  [⟨1, "Basic", .standard, ["Front", "Back"], [⟨"Card 1", 0⟩, ⟨"Card 2", 1⟩, ⟨"CARD 1", 2⟩], 0⟩,
   ⟨2, "Cloze", .cloze, ["Text"], [⟨"card 1", 0⟩], 0⟩,
   ⟨3, "Typed", .standard, ["Front"], [⟨"Card 2", 0⟩], 0⟩]

theorem schema_selects_sample : (studyTypes.map NoteType.id).Nodup ∧ ∃ c,
    template studyTypes "cARD 1" = .condition c ∧ ∀ reviews card note, ∃ v,
      Bound.holds? reviews ⟨card, some note⟩ ⟨c, []⟩ = some v ∧
        (note.noteType = 1 → (v = true ↔ card.ord = 0 ∨ card.ord = 2)) ∧ (note.noteType = 2 → v = true) := by
  have hids : (studyTypes.map NoteType.id).Nodup := by decide
  have hname : ∀ n, ¬IsNumeral "cARD 1".toList n := read?_eq_none.mp (by decide)
  obtain ⟨htemplate, -, -⟩ := @schema_selects studyTypes "cARD 1" hids
  obtain ⟨hinvalid, hselects⟩ := htemplate hname
  have hsome : template studyTypes "cARD 1" ≠ .invalid := by
    intro h
    exact hinvalid.mp h _ (List.mem_cons_self) ⟨"Card 1", 0⟩ (by decide) (by decide +kernel)
  obtain ⟨c, hc, htaken, hselected⟩ := hselects hsome
  have hholds := (hselected (htaken (by decide +kernel))).answers
  refine ⟨hids, c, hc, fun reviews card note => ?_⟩
  obtain ⟨v, hv, hiff⟩ := hholds reviews card note
  have hsame : Text.lower "Card 1" = Text.lower "cARD 1" ∧ Text.lower "CARD 1" = Text.lower "cARD 1" ∧
      Text.lower "card 1" = Text.lower "cARD 1" ∧ Text.lower "Card 2" ≠ Text.lower "cARD 1" := by
    decide +kernel
  obtain ⟨hfirst, hthird, hcloze, hother⟩ := hsame
  refine ⟨v, hv, fun htype => ?_, fun htype => ?_⟩
  · rw [hiff, htype]
    constructor
    · rintro ⟨t, ⟨⟩, -, hkind | ⟨tm, htm, hname, hord⟩⟩
      · cases hkind
      · simp only [List.mem_cons, List.not_mem_nil, or_false] at htm
        rcases htm with rfl | rfl | rfl
        · exact Or.inl hord
        · exact absurd hname hother
        · exact Or.inr hord
    · rintro (hord | hord)
      · exact ⟨_, rfl, ⟨⟨"Card 1", 0⟩, by decide, hfirst⟩, Or.inr ⟨⟨"Card 1", 0⟩, by decide, hfirst, hord⟩⟩
      · exact ⟨_, rfl, ⟨⟨"CARD 1", 2⟩, by decide, hthird⟩, Or.inr ⟨⟨"CARD 1", 2⟩, by decide, hthird, hord⟩⟩
  · rw [hiff, htype]
    exact ⟨_, rfl, ⟨⟨"card 1", 0⟩, by decide, hcloze⟩, Or.inl rfl⟩

end Query

end CardQuery
