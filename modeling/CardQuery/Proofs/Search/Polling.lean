import Mathlib.Order.Bounds.Basic
import Mathlib.Order.Interval.Set.Defs
import CardQuery.Proofs.Search.Unreadable

namespace CardQuery

namespace Search

def stops (stop : ℕ → Bool) (polls rows : ℕ) : Set ℕ :=
  {i | i ∈ Set.Ioc polls (polls + rows) ∧ stop i}

variable {stop : ℕ → Bool} {polls rows : ℕ}

lemma mem_stops_here (h : stop (polls + 1)) : IsLeast (stops stop polls (rows + 1)) (polls + 1) := by
  constructor
  · exact ⟨⟨Nat.lt_succ_self polls, by omega⟩, h⟩
  · rintro i ⟨⟨hlt, -⟩, -⟩
    exact hlt

lemma stops_succ (h : stop (polls + 1) = false) :
    stops stop polls (rows + 1) = stops stop (polls + 1) rows := by
  ext i
  simp only [stops, Set.mem_ofPred_eq, Set.mem_Ioc]
  constructor
  · rintro ⟨⟨hlt, hle⟩, hi⟩
    have hne : i ≠ polls + 1 := by
      rintro rfl
      simp [h] at hi
    exact ⟨⟨by omega, by omega⟩, hi⟩
  · rintro ⟨⟨hlt, hle⟩, hi⟩
    exact ⟨⟨by omega, by omega⟩, hi⟩

lemma list_cases (stop : ℕ → Bool) (decks : Decks) (reversed : Bool) (done : List BrowserRow)
    (polls : ℕ) (found : List Row) :
    (stops stop polls found.length = ∅ ∧ list stop decks reversed done polls found =
        .rows (arrange reversed (done.reverse ++ found.map (.ofRow decks))) (polls + found.length)) ∨
      ∃ n, IsLeast (stops stop polls found.length) n ∧
        list stop decks reversed done polls found = .cancelled n := by
  induction found generalizing done polls with
  | nil =>
    refine Or.inl ⟨?_, by cases reversed <;> simp [list, arrange]⟩
    ext i
    simp [stops]
  | cons row found ih =>
    rw [List.length_cons]
    cases hstop : stop (polls + 1) with
    | true => exact Or.inr ⟨polls + 1, mem_stops_here hstop, by simp [list, hstop]⟩
    | false =>
      have hrest := ih (.ofRow decks row :: done) (polls + 1)
      rw [stops_succ hstop]
      simpa [list, hstop, Nat.add_comm, Nat.add_left_comm] using hrest

end Search

lemma OrderRequest.resolve_reversed (request : OrderRequest) (config : Config) :
    (request.resolve config).reversed ↔ request = .builtin true ∧ config.sortBackwards := by
  cases request with
  | unordered => simp [resolve]
  | builtin wanted => cases wanted <;> simp [resolve]
  | written text => simp [resolve]

/-- The rows in the order of the statement, or turned around where the sort goes backwards, each with
the name of its deck. -/
structure Shown (ctx : Context) (request : OrderRequest) (found : List Row) (rows : List BrowserRow) :
    Prop where
  forwards : ¬ (request = .builtin true ∧ ctx.config.sortBackwards) →
    rows = found.map (.ofRow ctx.decks)
  backwards : request = .builtin true ∧ ctx.config.sortBackwards →
    rows = (found.map (.ofRow ctx.decks)).reverse
  deck : ∀ r ∈ rows, r.deckName = ctx.decks.name? r.deckId

lemma shown_arrange (ctx : Context) (request : OrderRequest) (found : List Row) :
    Shown ctx request found
      (Search.arrange (request.resolve ctx.config).reversed (found.map (.ofRow ctx.decks))) where
  forwards h := by
    rw [← OrderRequest.resolve_reversed] at h
    exact if_neg h
  backwards h := by
    rw [← OrderRequest.resolve_reversed] at h
    exact if_pos h
  deck r hr := by
    have hmem : r ∈ found.map (.ofRow ctx.decks) := by
      unfold Search.arrange at hr
      split at hr
      · exact List.mem_reverse.mp hr
      · exact hr
    obtain ⟨row, -, rfl⟩ := List.mem_map.mp hmem
    rfl

namespace Query

variable {ctx : Context} {col : Collection} {query : String} {request : OrderRequest}

lemma browse_eq {predicate : Predicate} (hcompile : compile ctx col query = .ok (some predicate))
    {found : List Row}
    (hfound : Statement.run? col .browser predicate (request.resolve ctx.config).order = some found)
    (stop : ℕ → Bool) : Search.browse ctx col query request stop =
      .ok (Search.list stop ctx.decks (request.resolve ctx.config).reversed [] 0 found) := by
  simp [Search.browse, hcompile, hfound, Except.map]

theorem browse_all_or_nothing (ctx : Context) (col : Collection) (query : String)
    (request : OrderRequest) (stop : ℕ → Bool) :
    (∀ predicate found, compile ctx col query = .ok (some predicate) →
      Statement.run? col .browser predicate (request.resolve ctx.config).order = some found →
      (∀ j, IsLeast {i | i ∈ Set.Icc 1 found.length ∧ stop i} j →
        Search.browse ctx col query request stop = .ok (.cancelled j)) ∧
      ((∀ i ∈ Set.Icc 1 found.length, stop i = false) → ∃ rows, Shown ctx request found rows ∧
        Search.browse ctx col query request stop = .ok (.rows rows found.length))) ∧
    (compile ctx col query = .ok none →
      Search.browse ctx col query request stop = .ok (.rows [] 0)) ∧
    (¬ Token.nested 0 (.opening :: Token.ofQuery query ++ [.closing]) →
      Search.browse ctx col query request stop =
        (compile ctx col query).map fun _ => .rows [] 0) := by
  refine ⟨fun predicate found hcompile hfound => ?_, fun hnone => ?_, fun hnested => ?_⟩
  · rw [browse_eq hcompile hfound]
    have hstops : Search.stops stop 0 found.length = {i | i ∈ Set.Icc 1 found.length ∧ stop i} := by
      rw [Search.stops, Nat.zero_add]
      rfl
    have hcases :=
      Search.list_cases stop ctx.decks (request.resolve ctx.config).reversed [] 0 found
    rw [hstops, List.reverse_nil, List.nil_append, Nat.zero_add] at hcases
    constructor
    · intro j hj
      rcases hcases with ⟨hempty, -⟩ | ⟨n, hn, hlist⟩
      · exact absurd hempty (Set.nonempty_iff_ne_empty.mp ⟨j, hj.1⟩)
      · rw [hlist, hn.unique hj]
    · intro hsilent
      rcases hcases with ⟨-, hlist⟩ | ⟨n, hn, -⟩
      · exact ⟨_, shown_arrange ctx request found, congrArg Except.ok hlist⟩
      · have hon := hsilent n hn.1.1
        exact absurd hn.1.2 (by simp [hon])
  · simp [Search.browse, hnone, Except.map]
  · apply (searches_of_run?_eq_none (fun p hp projection order => ?_) request stop).2.2
    exact run?_eq_none hnested hp projection order

def backwardsContext : Context :=
  { sampleContext with decks := ⟨[⟨1, "Default"⟩], 1⟩, config := ⟨"noteCrt", true⟩ }

theorem browse_all_or_nothing_sample :
    Search.browse backwardsContext sampleCollection "is:new" (.builtin true) (· == 2) =
        .ok (.cancelled 2) ∧
      Search.browse backwardsContext sampleCollection "is:new" (.builtin true) (· == 4) =
        .ok (.rows [⟨13, "sun", 1, some "Default", 0, ""⟩, ⟨12, "dog", 1, some "Default", 0, " pet "⟩,
          ⟨11, "cat", 1, some "Default", 0, ""⟩] 3) ∧
      Search.browse backwardsContext sampleCollection "is:old" (.builtin true) (· == 1) =
        .ok (.rows [] 0) := by
  have hall := browse_all_or_nothing backwardsContext sampleCollection
  obtain ⟨predicate, found, hcompile, hfound, hlength, hshown⟩ : ∃ p found,
      compile backwardsContext sampleCollection "is:new" = .ok (some p) ∧
      Statement.run? sampleCollection .browser p
        ((OrderRequest.builtin true).resolve backwardsContext.config).order = some found ∧
      found.length = 3 ∧ (found.map (BrowserRow.ofRow backwardsContext.decks)).reverse =
        [⟨13, "sun", 1, some "Default", 0, ""⟩, ⟨12, "dog", 1, some "Default", 0, " pet "⟩,
          ⟨11, "cat", 1, some "Default", 0, ""⟩] :=
    ⟨_, _, rfl, rfl, rfl, rfl⟩
  have hnew (stop : ℕ → Bool) :=
    (hall "is:new" (.builtin true) stop).1 predicate found hcompile hfound
  rw [hlength] at hnew
  refine ⟨(hnew _).1 2 ⟨by decide, ?_⟩, ?_, (hall "is:old" (.builtin true) _).2.1 rfl⟩
  · rintro i ⟨-, hi⟩
    exact (beq_iff_eq.mp hi).ge
  · have hsilent : ∀ i ∈ Set.Icc 1 3, (i == 4) = false := by
      rintro i ⟨-, hle⟩
      exact beq_false_of_ne (by omega)
    obtain ⟨rows, hrows, hbrowse⟩ := (hnew (· == 4)).2 hsilent
    rw [hbrowse, hrows.backwards ⟨rfl, rfl⟩, hshown]

end Query

end CardQuery
