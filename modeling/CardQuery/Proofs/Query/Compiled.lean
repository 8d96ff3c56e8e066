import CardQuery.Proofs.Query.Values

namespace CardQuery

def Token.asksField : Token → Bool
  | .command key _ => (Command.ofKey? key).isNone
  | _ => false

namespace Query

variable {ctx : Context} {col : Collection}

lemma isSome_interpret? {t : Token} (h : ¬ t.asksField) (ht : t.isTerm) :
    (interpret? ctx col t).isSome := by
  cases t with
  | command key value => simpa [interpret?, Token.asksField, Option.isSome_iff_ne_none] using h
  | text words => rfl
  | _ => cases ht

def built (ctx : Context) (col : Collection) (ts : List Token) : Builder Bound :=
  Builder.empty.takeAll (contribution ctx col) ts

def predicate? (b : Builder Bound) : Option Predicate :=
  if b.invalid then none else some (.ofBound b.pieces)

lemma predicate?_of_valid {b : Builder Bound} (h : b.invalid = false) :
    predicate? b = some (.ofBound b.pieces) := by
  simp [predicate?, h]

lemma Tracks.finish_eq {p : Progress} {b : Builder Bound} (h : Tracks p b) :
    p.finish = predicate? b := by
  cases hv : b.invalid with
  | false => rw [h.finish hv, predicate?_of_valid hv]
  | true => simp [Progress.finish, h.builder, Builder.map, predicate?, hv]

lemma fieldTerms_cases (types : List NoteType) (col : Collection) (terms : List (String × String)) :
    (∃ e, fieldTerms types col terms = .error e) ∨ fieldTerms types col terms = .ok .invalid ∨
      fieldTerms types col terms = .ok (.condition .never) ∨
        ∃ ids, fieldTerms types col terms = .ok (.condition (.notes ids)) := by
  rw [fieldTerms]
  simp only
  split
  · exact Or.inl ⟨_, rfl⟩
  · split
    · exact Or.inr (Or.inl rfl)
    · split
      · exact Or.inl ⟨_, rfl⟩
      · split
        · exact Or.inl ⟨_, rfl⟩
        · exact Or.inr (Or.inr (Or.inl rfl))
        · exact Or.inr (Or.inr (Or.inr ⟨_, rfl⟩))

def fieldReading (ctx : Context) (col : Collection) (ts : List Token) :
    Except Fault (Reading Condition) :=
  let terms := (ts.foldl (step ctx col) .empty).fieldTerms
  if terms.isEmpty then .ok .everything else fieldTerms ctx.noteTypes col terms

def withoutValues (r : Reading Condition) : Reading Bound := r.map (⟨·, []⟩)

lemma fieldReading_cases {ts : List Token} {r : Reading Condition}
    (h : fieldReading ctx col ts = .ok r) : r = .everything ∨ (∃ t ∈ ts, t.asksField) ∧
      (r = .invalid ∨ r = .condition .never ∨ ∃ ids, r = .condition (.notes ids)) := by
  by_cases hasks : ∃ t ∈ ts, t.asksField
  · rw [fieldReading] at h
    split at h
    · cases h
      exact Or.inl rfl
    · apply Or.inr
      refine ⟨hasks, ?_⟩
      rcases fieldTerms_cases ctx.noteTypes col (ts.foldl (step ctx col) .empty).fieldTerms with
        ⟨e, he⟩ | hr | hr | ⟨ids, hr⟩
      · cases he.symm.trans h
      · cases hr.symm.trans h
        exact Or.inl rfl
      · cases hr.symm.trans h
        exact Or.inr (Or.inl rfl)
      · cases hr.symm.trans h
        exact Or.inr (Or.inr ⟨ids, rfl⟩)
  · have hnone : (ts.foldl (step ctx col) .empty).fieldTerms = [] := by
      apply fieldTerms_run
      intro t ht
      exact isSome_interpret? fun hfield => hasks ⟨t, ht, hfield⟩
    simp only [fieldReading, hnone] at h
    cases h
    exact Or.inl rfl

lemma closed_fieldReading {ts : List Token} {r : Reading Condition}
    (h : fieldReading ctx col ts = .ok r) : Closed r := by
  rcases fieldReading_cases h with rfl | ⟨-, rfl | rfl | ⟨ids, rfl⟩⟩
  · exact fun c hc => by cases hc
  · exact closed_invalid
  · exact closed_condition rfl
  · exact closed_condition rfl

theorem compileTokens_eq (ts : List Token) : compileTokens ctx col ts =
    if (built ctx col ts).invalid then .ok none
    else (fieldReading ctx col ts).map fun r =>
      predicate? ((built ctx col ts).push (withoutValues r)) := by
  have hrun : Tracks (ts.foldl (step ctx col) .empty) (built ctx col ts) := Tracks.run ctx col ts
  have hinvalid : (ts.foldl (step ctx col) .empty).builder.invalid = (built ctx col ts).invalid := by
    rw [hrun.builder]
    rfl
  simp only [compileTokens, fieldReading, hinvalid]
  cases hv : (built ctx col ts).invalid with
  | true => simp [hrun.finish_eq, predicate?, hv]
  | false =>
    cases hterms : (ts.foldl (step ctx col) .empty).fieldTerms.isEmpty with
    | true =>
      have hpush : (built ctx col ts).push .everything = built ctx col ts := by
        simp [Builder.push]
      simp [Except.map, withoutValues, Reading.map, hpush, hrun.finish_eq]
    | false =>
      have hreading : fieldReading ctx col ts =
          fieldTerms ctx.noteTypes col (ts.foldl (step ctx col) .empty).fieldTerms := by
        simp [fieldReading, hterms]
      simp only [Bool.or_self, Bool.false_eq_true, if_false]
      cases hr : fieldTerms ctx.noteTypes col (ts.foldl (step ctx col) .empty).fieldTerms with
      | error e => rfl
      | ok r =>
        have hfilled := filled_plain (closed_fieldReading (hreading.trans hr))
        exact congrArg Except.ok (hrun.push hfilled).finish_eq

lemma compileTokens_eq_some {ts : List Token} {p : Predicate}
    (h : compileTokens ctx col ts = .ok (some p)) :
    ∃ r, fieldReading ctx col ts = .ok r ∧
      ((built ctx col ts).push (withoutValues r)).invalid = false ∧
        p = .ofBound ((built ctx col ts).push (withoutValues r)).pieces := by
  rw [compileTokens_eq] at h
  split at h
  · cases h
  · obtain ⟨r, hr, hp⟩ := Fault.map_eq_ok.mp h
    refine ⟨r, hr, ?_⟩
    rw [predicate?] at hp
    split at hp
    · cases hp
    · next hv => exact ⟨by simpa using hv, (Option.some_inj.mp hp).symm⟩

lemma finish_of_compileTokens {ts : List Token} {p : Predicate}
    (h : compileTokens ctx col ts = .ok (some p)) : ∃ r, fieldReading ctx col ts = .ok r ∧
      ((ts.foldl (step ctx col) .empty).push (.plain r)).finish = some p := by
  obtain ⟨r, hr, hv, rfl⟩ := compileTokens_eq_some h
  have hpushed := (Tracks.run ctx col ts).push (filled_plain (closed_fieldReading hr))
  exact ⟨r, hr, hpushed.finish hv⟩

lemma eq_ok_of_join {ε α : Type} {x : Except ε (Option α)} {a : α} (h : x.toOption.join = some a) :
    x = .ok (some a) := by
  cases x with
  | error e => cases h
  | ok o =>
    have ho : o = some a := h
    rw [ho]

lemma mem_push_fieldReading {ts : List Token} {r : Reading Condition}
    (hr : fieldReading ctx col ts = .ok r) {x : Bound}
    (hx : .term x ∈ ((built ctx col ts).push (withoutValues r)).pieces) :
    (∃ t ∈ ts, interpret? ctx col t = some ⟨.condition x.condition, x.values⟩) ∨
      (∃ t ∈ ts, t.asksField) ∧ (x = ⟨.never, []⟩ ∨ ∃ ids, x = ⟨.notes ids, []⟩) := by
  rcases Builder.mem_push hx with hx | hx
  · rcases Builder.mem_takeAll hx with hx | ⟨t, ht, hread⟩
    · simp [Builder.empty] at hx
    · exact Or.inl ⟨t, ht, contribution_eq_condition hread⟩
  · apply Or.inr
    rcases fieldReading_cases hr with rfl | ⟨hasks, rfl | rfl | ⟨ids, rfl⟩⟩
    · cases hx
    · cases hx
    · cases hx
      exact ⟨hasks, Or.inl rfl⟩
    · cases hx
      exact ⟨hasks, Or.inr ⟨ids, rfl⟩⟩

lemma compileTokens_plain {ts : List Token} (h : ∀ t ∈ ts, ¬ t.asksField) :
    compileTokens ctx col ts = .ok (predicate? (built ctx col ts)) := by
  have hf : (ts.foldl (step ctx col) .empty).fieldTerms = [] :=
    fieldTerms_run (fun t ht => isSome_interpret? (h t ht)) .empty
  simp only [compileTokens, hf]
  exact congrArg Except.ok (Tracks.run ctx col ts).finish_eq

end Query

end CardQuery
