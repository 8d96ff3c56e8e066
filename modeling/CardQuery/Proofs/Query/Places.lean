import CardQuery.Proofs.Query.Generated

/-!
Where the values of a predicate go. A run over the tokens is followed with the number of the token
beside every condition that is written and every value that is noted: the open places in the text and
the values come from the same tokens, in the same order.
-/

namespace CardQuery

lemma Numeral.not_mem {w : List Char} (h : Numeral w) : '?' ∉ w := by
  obtain ⟨ds, -, hds, hw⟩ := h
  have hdigits : '?' ∉ ds := by
    intro hc
    exact absurd (hds _ hc) (by decide)
  rcases hw with rfl | rfl
  · exact hdigits
  · simpa using hdigits

lemma Numerals.not_mem {w : List Char} (h : Numerals w) : '?' ∉ w := by
  obtain ⟨ns, hns, rfl⟩ := h
  have hjoin : '?' ∉ Text.joinWith ',' ns := by
    intro hc
    rcases Text.mem_joinWith hc with hc | ⟨n, hn, hc⟩
    · exact absurd hc (by decide)
    · exact (hns n hn).not_mem hc
  simpa using hjoin

lemma Fills.count_eq {t w : List Char} (h : Fills t w) : w.count '?' = t.count '?' := by
  induction h with
  | nil => rfl
  | numeral hn _ ih => simp [List.count_eq_zero.mpr hn.not_mem, ih]
  | numerals hn _ ih => simp [List.count_eq_zero.mpr hn.not_mem, ih]
  | @relation t u w hu _ ih =>
    have hrelation : ∀ u ∈ relationTexts, u.toList.count '?' = 0 := by decide
    simp [hrelation u hu, ih]
  | char _ _ ih => simp [List.count_cons, ih]

lemma Atom.count_text (a : Atom) : a.text.toList.count '?' = a.places := by
  have hcount {s : String} (hs : a.template = s) : a.text.toList.count '?' = s.toList.count '?' :=
    hs ▸ a.fits.count_eq
  cases a with
  | createdAfter millis => exact hcount (s := "c.id > #") rfl
  | reviewedAfter millis ease =>
    cases ease with
    | none => exact hcount (s := "c.id in (select cid from revlog where id > #)") rfl
    | some e => exact hcount (s := "c.id in (select cid from revlog where id > # and ease = #)") rfl
  | due rel n => exact hcount (s := "c.due ~ #") rfl
  | measure m rel n =>
    cases m with
    | interval => exact hcount (s := "c.ivl ~ #") rfl
    | repetitions => exact hcount (s := "c.reps ~ #") rfl
    | lapses => exact hcount (s := "c.lapses ~ #") rfl
    | factor => exact hcount (s := "c.factor ~ #") rfl
  | state s => cases s <;> decide
  | decks ids => exact hcount (s := "c.did in @") rfl
  | homeDecks ids => exact hcount (s := "c.odid in @") rfl
  | ord n => exact hcount (s := "c.ord = #") rfl
  | ofType id => exact hcount (s := "n.mid = #") rfl
  | noteTypes ids => exact hcount (s := "n.mid in @") rfl
  | noteType id => exact hcount (s := "n.mid = #") rfl
  | notes ids => exact hcount (s := "n.id in @") rfl
  | cards ids => exact hcount (s := "c.id in @") rfl
  | _ => decide

lemma count_textOf (ps : List (Piece Atom)) :
    (Piece.textOf Atom.text ps).toList.count '?' = Test.places ps := by
  induction ps with
  | nil => rfl
  | cons p ps ih =>
    rw [Piece.textOf_cons, String.toList_append, List.count_append, ih]
    cases p with
    | term a =>
      simp only [Piece.text, a.count_text]
      rfl
    | _ => exact Nat.zero_add _

namespace Query

structure Trace where
  builder : Builder (ℕ × Condition)
  args : List (ℕ × String)

namespace Trace

def empty : Trace := ⟨.empty, []⟩

def step (ctx : Context) (col : Collection) (tr : Trace) (t : Token × ℕ) : Trace where
  builder := tr.builder.take (fun u => (reading ctx col u).map (t.2, ·)) t.1
  args := tr.args ++ (noted ctx col t.1).map (t.2, ·)

def run (ctx : Context) (col : Collection) (ts : List Token) : Trace :=
  ts.zipIdx.foldl (step ctx col) empty

def finish (tr : Trace) (number : ℕ) (r : Reading Condition) : Trace :=
  { tr with builder := tr.builder.push (r.map (number, ·)) }

def text (tr : Trace) : List (Option ℕ × Char) :=
  tr.builder.pieces.flatMap fun
    | .term (number, c) => ("(" ++ c.text ++ ")").toList.map (some number, ·)
    | p => (p.text fun _ => "").toList.map (none, ·)

end Trace

/-- The open places of the text and the values of `p` go together one by one: they come from the same
tokens. -/
structure InStep (p : Predicate) (tr : Trace) : Prop where
  pieces : tr.builder.pieces.map (Piece.map Prod.snd) = p.pieces
  text : tr.text.map Prod.snd = p.text.toList
  args : tr.args.map Prod.snd = p.args
  count : p.text.toList.count '?' = p.args.length
  sources : (tr.text.filter (·.2 == '?')).map Prod.fst = tr.args.map fun a => some a.1

namespace Trace

variable {tr : Trace} {ctx : Context} {col : Collection}

def sources (x : ℕ × Condition) : List ℕ := List.replicate (Test.places x.2.pieces) x.1

structure Follows (tr : Trace) (p : Progress) : Prop where
  builder : p.builder = tr.builder.map Prod.snd
  args : p.args = tr.args.map Prod.snd
  noted : Builder.Noted sources (tr.args.map Prod.fst) tr.builder

lemma carries_sources {i : Interpretation} (h : i.Filled) (number : ℕ) :
    (i.reading.map (number, ·)).Carries sources (i.values.map fun _ => number) := by
  apply h.carries
  · intro c hc
    rw [List.map_const', hc]
    rfl
  · intro hnil
    rw [hnil, List.map_nil]

lemma carries_numbered (ctx : Context) (col : Collection) (number : ℕ) (t : Token) :
    ((reading ctx col t).map (number, ·)).Carries sources
      ((noted ctx col t).map fun _ => number) := by
  cases hi : interpret? ctx col t with
  | none =>
    simp only [reading, noted, hi]
    rfl
  | some i =>
    simp only [reading, noted, hi]
    exact carries_sources (filled_interpret? hi) number

lemma map_numbered (r : Reading Condition) (number : ℕ) :
    (r.map fun c => (number, c)).map Prod.snd = r := by
  cases r <;> rfl

lemma Follows.step {p : Progress} (h : Follows tr p) (t : Token) (number : ℕ) :
    Follows (tr.step ctx col (t, number)) (Query.step ctx col p t) where
  builder := by
    rw [step_builder, h.builder]
    exact Builder.map_take Prod.snd (map_numbered _ number) tr.builder
  args := by
    rw [step_args, h.args]
    simp [Trace.step, Function.comp_def]
  noted := by
    have htake := h.noted.take (carries_numbered ctx col number)
      (fun u hu => by rw [noted_mark ctx col hu, List.map_nil]) t
    simpa [Trace.step, Function.comp_def] using htake

theorem Follows.run {p : Progress} (h : Follows tr p) (ts : List Token) (number : ℕ) :
    Follows ((ts.zipIdx number).foldl (Trace.step ctx col) tr) (ts.foldl (Query.step ctx col) p) := by
  induction ts generalizing tr p number with
  | nil => exact h
  | cons t ts ih => exact ih (h.step t number) (number + 1)

lemma follows_run (ctx : Context) (col : Collection) (ts : List Token) :
    Follows (run ctx col ts) (ts.foldl (Query.step ctx col) .empty) :=
  Follows.run ⟨rfl, rfl, fun _ => rfl⟩ ts 0

lemma Follows.finish {p : Progress} (h : Follows tr p) {r : Reading Condition} (hr : Closed r)
    (number : ℕ) : Follows (tr.finish number r) (p.push (.plain r)) where
  builder := by
    have hpush := Builder.map_push Prod.snd tr.builder (r.map (number, ·))
    rw [map_numbered, ← h.builder] at hpush
    exact hpush
  args := by
    rw [Progress.push, Interpretation.plain, List.append_nil]
    exact h.args
  noted := by
    have hpush := h.noted.push (carries_sources (filled_plain hr) number)
    simpa [Interpretation.plain, Trace.finish] using hpush

lemma map_text (tr : Trace) {args : List String} :
    tr.text.map Prod.snd =
      (Predicate.mk (tr.builder.pieces.map (Piece.map Prod.snd)) args).text.toList := by
  rw [Predicate.text_eq, Trace.text]
  induction tr.builder.pieces with
  | nil => rfl
  | cons p ps ih =>
    rw [List.flatMap_cons, List.map_append, ih, List.map_cons, Piece.textOf_cons,
      String.toList_append]
    congr 1
    cases p <;> simp [Piece.map, Piece.text, Function.comp_def]

lemma sources_clause (number : ℕ) (c : Condition) :
    ((("(" ++ c.text ++ ")").toList.map fun d => (some number, d)).filter (·.2 == '?')).map Prod.fst =
      (sources (number, c)).map some := by
  have hcount : (("(" ++ c.text ++ ")").toList.filter (· == '?')).length = Test.places c.pieces := by
    rw [← List.count_eq_length_filter, String.toList_append, String.toList_append, List.count_append,
      List.count_append, Condition.text, count_textOf]
    exact Nat.zero_add _
  rw [List.filter_map, List.map_map, sources, List.map_replicate, ← hcount]
  exact List.map_const'

lemma sources_text (tr : Trace) : (tr.text.filter (·.2 == '?')).map Prod.fst =
    (Piece.collect sources tr.builder.pieces).map some := by
  rw [Trace.text]
  induction tr.builder.pieces with
  | nil => rfl
  | cons p ps ih =>
    rw [List.flatMap_cons, List.filter_append, List.map_append, ih, Piece.collect_cons,
      List.map_append]
    congr 1
    cases p with
    | term x => simpa [Piece.collect] using sources_clause x.1 x.2
    | _ => rfl

lemma Follows.inStep {p : Progress} (h : Follows tr p) {predicate : Predicate}
    (hp : p.finish = some predicate) : InStep predicate tr := by
  rw [Progress.finish, h.builder, h.args] at hp
  split at hp
  · cases hp
  · next hv =>
    have hvalid : tr.builder.invalid = false := by simpa [Builder.map] using hv
    obtain rfl := Option.some_inj.mp hp
    have hsources : (tr.text.filter (·.2 == '?')).map Prod.fst = tr.args.map fun a => some a.1 := by
      rw [sources_text, ← h.noted hvalid, List.map_map]
      rfl
    refine ⟨rfl, map_text tr, rfl, ?_, hsources⟩
    have hcount : (tr.text.map Prod.snd).count '?' = tr.args.length := by
      rw [List.count_eq_countP, List.countP_map, List.countP_eq_length_filter]
      simpa [Function.comp_def] using congrArg List.length hsources
    rw [@map_text tr (tr.args.map Prod.snd)] at hcount
    exact hcount.trans (List.length_map _).symm

end Trace

theorem places_inStep (ctx : Context) (col : Collection) (ts : List Token) :
    (∀ us, us <+: ts → ∀ p, (us.foldl (step ctx col) .empty).finish = some p →
      InStep p (Trace.run ctx col us)) ∧
    ∀ p, compileTokens ctx col ts = .ok (some p) → ∃ r, fieldReading ctx col ts = .ok r ∧
      InStep p ((Trace.run ctx col ts).finish ts.length r) := by
  constructor
  · intro us _ p hp
    exact (Trace.follows_run ctx col us).inStep hp
  · intro p hp
    obtain ⟨r, hr, hfinish⟩ := finish_of_compileTokens hp
    have hfollows := (Trace.follows_run ctx col ts).finish (closed_fieldReading hr) ts.length
    exact ⟨r, hr, hfollows.inStep hfinish⟩

def numberedSample : List Token :=
  [.minus, .text "dog", .opening, .command "tag" "a*", .or, .command "is" "new", .closing,
    .command "front" "c*"]

theorem places_inStep_sample :
    (∃ p, ((numberedSample.take 4).foldl (step sampleContext sampleCollection) .empty).finish = some p ∧
      p.args = ["%dog%", "%dog%", "% a%"] ∧
      InStep p (Trace.run sampleContext sampleCollection (numberedSample.take 4))) ∧
    ∃ p r, compileTokens sampleContext sampleCollection numberedSample = .ok (some p) ∧
      p.args = ["%dog%", "%dog%", "% a%"] ∧
      fieldReading sampleContext sampleCollection numberedSample = .ok r ∧
      InStep p ((Trace.run sampleContext sampleCollection numberedSample).finish 8 r) := by
  obtain ⟨hparts, hcompiled⟩ := places_inStep sampleContext sampleCollection numberedSample
  have hpart : ((numberedSample.take 4).foldl (step sampleContext sampleCollection)
      .empty).finish.map Predicate.args = some ["%dog%", "%dog%", "% a%"] := by
    decide +kernel
  have hjoin : (compileTokens sampleContext sampleCollection numberedSample).toOption.join.map
      Predicate.args = some ["%dog%", "%dog%", "% a%"] := by
    decide +kernel
  obtain ⟨part, hfinish, hpartArgs⟩ := Option.map_eq_some_iff.mp hpart
  obtain ⟨p, hp, hargs⟩ := Option.map_eq_some_iff.mp hjoin
  have hcompile := eq_ok_of_join hp
  obtain ⟨r, hr, hstep⟩ := hcompiled p hcompile
  exact ⟨⟨part, hfinish, hpartArgs, hparts _ (List.take_prefix ..) part hfinish⟩,
    p, r, hcompile, hargs, hr, hstep⟩

end Query

end CardQuery
