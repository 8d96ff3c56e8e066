import CardQuery.Proofs.Search.Projections
import CardQuery.Proofs.Search.TagTerm

namespace CardQuery

def Action.Spares (id : Int) : Action → Prop
  | addNote t n => n.id = id → ¬ n.Suits t
  | _ => True

namespace Collection

variable {id : Int} {tags : String}

lemma tags_of_spares {col : Collection} (hcol : ∀ m ∈ col.notes.rows, m.id = id → m.tags = tags)
    {later : List Action} (h : ∀ a ∈ later, a.Spares id) :
    ∀ m ∈ (later.foldl perform col).notes.rows, m.id = id → m.tags = tags := by
  apply forall_notes_foldl _ hcol
  intro a ha
  cases a with
  | addNote t n =>
    intro m hstored hid
    obtain ⟨-, -, -, hown, -⟩ := NewNote.stored_eq_ok.mp hstored
    obtain ⟨fault, hfault⟩ := NewNote.stored_of_not_suits (h _ ha (hown.symm.trans hid))
    cases hfault.symm.trans hstored
  | addCard c => trivial
  | addReview r => trivial
  | replace refuses ctx now ids target replacement o =>
    intro edit _ n n' hn hrevised hid
    rw [hrevised.tags]
    exact hn (hrevised.id ▸ hid)

lemma tags_of_addNote {col col' : Collection} {t : NoteType} {n : NewNote}
    (hadd : col.addNote t n = .ok col') :
    ∀ m ∈ col'.notes.rows, m.id = n.id → m.tags = Tags.canonical n.tags := by
  obtain ⟨note, hstored, hfind⟩ := find?_of_addNote hadd
  obtain ⟨-, -, -, -, -, -, -, htags, -⟩ := NewNote.stored_eq_ok.mp hstored
  obtain ⟨hnote, hid⟩ := Table.find?_eq_some.mp hfind
  intro m hm hown
  rw [Table.eq_of_id_eq hm hnote (hown.trans hid.symm), htags]

end Collection

namespace Query

open Statement

variable {ctx : Context} {col : Collection} {query : String}

lemma joined_of_run? (hclosing : ∀ us, us <+: Token.ofQuery query → us.count .closing ≤ us.count .opening)
    {p : Predicate} (hcompile : compile ctx col query = .ok (some p)) {projection : Projection}
    (hp : projection ≠ .cards) {order : Order} {found : List Row}
    (h : run? col projection p order = some found) :
    (∀ row ∈ found, row.card ∈ col.cards.rows) ∧ Joined col found := by
  obtain ⟨r, hr, hv, rfl⟩ := compileTokens_eq_some hcompile
  have hts : Token.nested 0 (Token.ofQuery query) := by
    by_contra hts
    cases (run?_eq_none_of_unclosed hclosing hts hcompile projection order).symm.trans h
  rw [run?_predicate col projection order fun b => filled_compiled hr] at h
  exact joined_of_select? (scope_of_ne_cards hp ..) (nested_finish hts hv) h

lemma exists_of_browse {request : OrderRequest} {stop : ℕ → Bool} {rows : List BrowserRow} {polls : ℕ}
    (hbrowse : Search.browse ctx col query request stop = .ok (.rows rows polls)) {r : BrowserRow}
    (hr : r ∈ rows) : ∃ p found, compile ctx col query = .ok (some p) ∧
      run? col .browser p (request.resolve ctx.config).order = some found ∧
      ∃ row ∈ found, r = .ofRow ctx.decks row := by
  have hsome : Search.browse ctx col query request stop ≠ .ok (.rows [] 0) := by
    intro hnone
    cases hnone.symm.trans hbrowse
    cases hr
  cases hcompile : compile ctx col query with
  | error fault => simp [Search.browse, hcompile, Except.map] at hbrowse
  | ok predicate =>
    cases predicate with
    | none => exact absurd (by simp [Search.browse, hcompile, Except.map]) hsome
    | some p =>
      cases hrun : run? col .browser p (request.resolve ctx.config).order with
      | none => exact absurd (by simp [Search.browse, hcompile, hrun, Except.map]) hsome
      | some found =>
        rw [browse_eq hcompile hrun] at hbrowse
        rcases Search.list_cases stop ctx.decks (request.resolve ctx.config).reversed [] 0 found with
          ⟨-, hlist⟩ | ⟨n, -, hlist⟩
        · rw [hlist] at hbrowse
          cases hbrowse
          obtain ⟨row, hrow, rfl⟩ := List.mem_map.mp ((Search.arrange_perm ..).mem_iff.mp hr)
          exact ⟨p, found, rfl, hrun, row, hrow, rfl⟩
        · rw [hlist] at hbrowse
          cases hbrowse

lemma exists_own_of_browse
    (hclosing : ∀ us, us <+: Token.ofQuery query → us.count .closing ≤ us.count .opening)
    {request : OrderRequest} {stop : ℕ → Bool} {rows : List BrowserRow} {polls : ℕ}
    (hbrowse : Search.browse ctx col query request stop = .ok (.rows rows polls)) {r : BrowserRow}
    (hr : r ∈ rows) : ∃ c ∈ col.cards.rows, ∃ n ∈ col.notes.rows, c.note = n.id ∧
      r = .ofRow ctx.decks ⟨c, some n⟩ := by
  obtain ⟨p, found, hcompile, hrun, ⟨c, note⟩, hrow, rfl⟩ := exists_of_browse hbrowse hr
  obtain ⟨hstored, hjoined⟩ := joined_of_run? hclosing hcompile (by decide) hrun
  obtain ⟨n, hn, hnote, hown⟩ := hjoined _ hrow
  obtain rfl : note = some n := hnote
  exact ⟨c, hstored _ hrow, n, hn, hown, rfl⟩

end Query

namespace BrowserRow

lemma isMarked_iff {r : BrowserRow} {tags : List String} (hr : r.tags = Tags.canonical tags)
    (htags : ∀ tag ∈ tags, ∀ c ∈ tag.toList, ¬Text.isBlank c) : r.isMarked ↔
      ∃ tag ∈ tags, "marked".toList <:+: tag.toList ∨ "Marked".toList <:+: tag.toList := by
  have hword (v : List Char) (hne : v ≠ []) (hv : ' ' ∉ v) :
      Text.contains v r.tags.toList ↔ ∃ tag ∈ tags, v <:+: tag.toList := by
    rw [Text.contains_iff, hr, Tags.infix_canonical htags hne hv]
  rw [isMarked, Bool.or_eq_true, hword _ (by simp) (by decide), hword _ (by simp) (by decide),
    ← exists_or]
  simp only [← and_or_left]
  rfl

lemma flags_and_two (r : BrowserRow) : r.flags &&& 2 = 2 ↔ r.isMarked := by
  rw [flags]
  cases r.isSuspended <;> cases r.isMarked <;> decide

end BrowserRow

namespace Query

variable {ctx : Context} {col col' : Collection} {t : NoteType} {n : NewNote} {query : String}

theorem flags_marked (hadd : col.addNote t n = .ok col')
    (htags : ∀ tag ∈ n.tags, ∀ c ∈ tag.toList, ¬Text.isBlank c) {later : List Action}
    (hlater : ∀ a ∈ later, a.Spares n.id)
    (hclosing : ∀ us, us <+: Token.ofQuery query → us.count .closing ≤ us.count .opening)
    {request : OrderRequest} {stop : ℕ → Bool} {rows : List BrowserRow} {polls : ℕ}
    (hbrowse : Search.browse ctx (later.foldl Collection.perform col') query request stop =
      .ok (.rows rows polls)) :
    ∀ r ∈ rows, ∀ c ∈ (later.foldl Collection.perform col').cards.rows, c.id = r.id → c.note = n.id →
      (r.flags &&& 2 = 2 ↔
        ∃ tag ∈ n.tags, "marked".toList <:+: tag.toList ∨ "Marked".toList <:+: tag.toList) := by
  intro r hr c hc hid hnote
  obtain ⟨c', hc', m, hm, hown, rfl⟩ := exists_own_of_browse hclosing hbrowse hr
  obtain rfl : c = c' := Table.eq_of_id_eq hc hc' hid
  have hstored := Collection.tags_of_spares (Collection.tags_of_addNote hadd) hlater
  rw [BrowserRow.flags_and_two]
  exact BrowserRow.isMarked_iff (hstored m hm (hown.symm.trans hnote)) htags

def taggedNote (tags : List String) : NewNote := ⟨1, 1, 0, ["cat", "chat"], tags⟩

def laterActions : List Action :=
  [.addCard ⟨11, 1, 1, 0, 0, 0, 0, 0, 0, 0, 0, 0, 0⟩,
    .addNote frontBack ⟨2, 1, 0, ["dog", "chien"], ["marked"]⟩, .addNote frontBack ⟨1, 1, 0, ["dog"], []⟩]

lemma suits_taggedNote (tags : List String) : (taggedNote tags).Suits frontBack :=
  ⟨rfl, rfl, Nat.two_pos⟩

theorem flags_marked_sample : ∃ col',
    Collection.empty.addNote frontBack (taggedNote ["pet", "Marked!"]) = .ok col' ∧
      Search.browse sampleContext (laterActions.foldl Collection.perform col') "(cat)" .unordered
        (fun _ => false) = .ok (.rows [⟨11, "cat", 1, none, 0, " pet Marked! "⟩] 1) ∧
      (⟨11, "cat", 1, none, 0, " pet Marked! "⟩ : BrowserRow).flags &&& 2 = 2 := by
  have hadd := Collection.addNote_eq_perform .empty (suits_taggedNote ["pet", "Marked!"])
  have hlater : ∀ a ∈ laterActions, a.Spares 1 := by
    simp only [laterActions, List.forall_mem_cons]
    refine ⟨trivial, fun hid => absurd hid (by decide), fun _ hsuits => ?_, by simp⟩
    exact absurd hsuits.length (by decide)
  have hclosing : ∀ us ∈ (Token.ofQuery "(cat)").inits, us.count .closing ≤ us.count .opening := by
    decide +kernel
  have hbrowse : Search.browse sampleContext (laterActions.foldl Collection.perform
      (Collection.empty.perform (.addNote frontBack (taggedNote ["pet", "Marked!"])))) "(cat)" .unordered
        (fun _ => false) = .ok (.rows [⟨11, "cat", 1, none, 0, " pet Marked! "⟩] 1) := by
    decide +kernel
  refine ⟨_, hadd, hbrowse, (flags_marked hadd ?_ hlater ?_ hbrowse _ List.mem_cons_self
    ⟨11, 1, 1, 0, 0, 0, 0, 0, 0, 0, 0, 0, 0⟩ ?_ rfl rfl).mpr ?_⟩
  · have hblank : ∀ tag ∈ ["pet", "Marked!"], tag.toList.all fun c => ¬Text.isBlank c := by decide
    exact fun tag htag => Text.forall_of_all (hblank tag htag)
  · exact fun us hus => hclosing us ((List.mem_inits us _).mpr hus)
  · decide +kernel
  · exact ⟨"Marked!", by decide, by decide⟩

/-- A tag that holds the word is enough, and where groups are turned inside out the tags of another
note are. -/
theorem flags_marked_beyond :
    (∃ col' r, Collection.empty.addNote frontBack (taggedNote ["unmarked"]) = .ok col' ∧
      (∀ tag ∈ ["unmarked"], tag.toList.all fun c => ¬Text.isBlank c) ∧
      Search.browse sampleContext (laterActions.foldl Collection.perform col') "is:new" .unordered
        (fun _ => false) = .ok (.rows [r] 1) ∧
      r.id = 11 ∧ r.flags &&& 2 = 2 ∧ ¬∃ tag ∈ ["unmarked"], tag = "marked" ∨ tag = "Marked") ∧
    ∃ col' rows r, Collection.empty.addNote frontBack (taggedNote []) = .ok col' ∧
      Search.browse sampleContext (laterActions.foldl Collection.perform col') "is:new) or (is:new"
        .unordered (fun _ => false) = .ok (.rows rows 2) ∧
      r ∈ rows ∧ r.id = 11 ∧ r.flags &&& 2 = 2 := by
  constructor
  · refine ⟨_, ⟨11, "cat", 1, none, 0, " unmarked "⟩,
      Collection.addNote_eq_perform .empty (suits_taggedNote ["unmarked"]), by decide, ?_, rfl, by decide,
      by decide⟩
    decide +kernel
  · refine ⟨_, [⟨11, "cat", 1, none, 0, ""⟩, ⟨11, "dog", 1, none, 0, " marked "⟩],
      ⟨11, "dog", 1, none, 0, " marked "⟩, Collection.addNote_eq_perform .empty (suits_taggedNote []), ?_,
      by simp, rfl, by decide⟩
    decide +kernel

end Query

end CardQuery
