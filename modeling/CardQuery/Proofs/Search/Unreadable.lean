import CardQuery.Proofs.Boolean.Continuation
import CardQuery.Proofs.Query.Compiled
import CardQuery.Proofs.Query.FieldProbe
import CardQuery.Proofs.Search.Statement
import CardQuery.Search.Find

/-!
Queries whose statement cannot be read. A statement puts the predicate in parentheses of its own, and
what cannot be read then is a query that is badly nested in one more pair of parentheses.
-/

namespace CardQuery

namespace Statement

lemma nested_outline (scope : Scope) (bs : List (Piece Bound)) :
    Piece.nested 0 (outline scope bs) = Piece.nested 1 (bs ++ [.closing]) := by
  cases hempty : bs.isEmpty with
  | true =>
    obtain rfl := List.isEmpty_iff.mp hempty
    cases scope <;> rfl
  | false =>
    have hmap := Piece.nested_map Operand.given 1 (bs ++ [.closing])
    rw [List.map_append] at hmap
    simp only [outline, hempty, Bool.false_eq_true, if_false]
    cases scope <;> exact hmap

lemma select?_eq_none {bs : List (Piece Bound)} (h : ¬ Piece.nested 1 (bs ++ [.closing]))
    (col : Collection) (p : Projection) (order : Order) : select? col p bs order = none := by
  have hread (scope : Scope) : Formula.ofPieces? (outline scope bs) = none := by
    rw [Option.eq_none_iff_forall_ne_some]
    intro f hf
    apply h
    rw [← nested_outline scope]
    exact Formula.nested_of_read? hf
  simp only [select?, hread]
  rfl

end Statement

namespace Query

variable {ctx : Context} {col : Collection}

lemma nested_compiled {ts : List Token} {r : Reading Condition}
    (hv : ((built ctx col ts).push (withoutValues r)).invalid = false) {us : List Token}
    {ps : List (Piece Bound)} (h : ∀ depth, Piece.nested depth ps = Token.nested depth us) (depth : ℕ) :
    Piece.nested depth (((built ctx col ts).push (withoutValues r)).pieces ++ ps) =
      Token.nested depth (ts ++ us) := by
  obtain ⟨qs, hpush, hqs⟩ := Builder.nested_push (b := built ctx col ts) (withoutValues r)
  have hbuilt : (built ctx col ts).pieces = Builder.empty.added (contribution ctx col) ts := rfl
  rw [hpush, hbuilt, List.append_assoc]
  apply Builder.nested_added_append (Builder.valid_of_push hv)
  intro depth
  rw [hqs, h]

lemma nested_finish {ts : List Token} (hn : Token.nested 0 ts) {r : Reading Condition}
    (hv : ((built ctx col ts).push (withoutValues r)).invalid = false) :
    Piece.nested 0 ((built ctx col ts).push (withoutValues r)).pieces := by
  have hpieces := @nested_compiled ctx col ts r hv [] [] (fun _ => rfl) 0
  rwa [List.append_nil, List.append_nil, hn] at hpieces

lemma filled_compiled {ts : List Token} {r : Reading Condition}
    (hr : fieldReading ctx col ts = .ok r) {x : Bound}
    (hx : .term x ∈ ((built ctx col ts).push (withoutValues r)).pieces) : x.Filled := by
  rcases mem_push_fieldReading hr hx with ⟨t, -, ht⟩ | ⟨-, rfl | ⟨ids, rfl⟩⟩
  · exact filled_interpret? ht
  · rfl
  · rfl

lemma run?_eq_none {ts : List Token} (h : ¬ Token.nested 0 (.opening :: ts ++ [.closing]))
    {p : Predicate} (hp : compileTokens ctx col ts = .ok (some p)) (projection : Projection)
    (order : Order) : Statement.run? col projection p order = none := by
  obtain ⟨r, hr, hv, rfl⟩ := compileTokens_eq_some hp
  have hclosing (depth : ℕ) :
      Piece.nested depth [(.closing : Piece Bound)] = Token.nested depth [.closing] := by
    cases depth <;> rfl
  rw [Statement.run?_predicate col projection order fun x => filled_compiled hr]
  apply Statement.select?_eq_none
  rwa [nested_compiled hv hclosing]

lemma searches_of_run?_eq_none {query : String} (h : ∀ p, compile ctx col query = .ok (some p) →
      ∀ projection order, Statement.run? col projection p order = none)
    (request : OrderRequest) (stop : ℕ → Bool) :
    Search.findCards ctx col query request = (compile ctx col query).map (fun _ => []) ∧
      Search.findNotes ctx col query = (compile ctx col query).map (fun _ => []) ∧
      Search.browse ctx col query request stop = (compile ctx col query).map fun _ => .rows [] 0 := by
  cases hcompile : compile ctx col query with
  | error fault => simp [Search.findCards, Search.findNotes, Search.browse, hcompile, Except.map]
  | ok predicate =>
    cases predicate with
    | none => simp [Search.findCards, Search.findNotes, Search.browse, hcompile, Except.map]
    | some p =>
      have hrun := h p hcompile
      simp [Search.findCards, Search.findNotes, Search.browse, hcompile, Except.map, hrun]

theorem finds_nothing {query : String}
    (h : ¬ Token.nested 0 (.opening :: Token.ofQuery query ++ [.closing])) (request : OrderRequest)
    (stop : ℕ → Bool) :
    Search.findCards ctx col query request = (compile ctx col query).map (fun _ => []) ∧
      Search.findNotes ctx col query = (compile ctx col query).map (fun _ => []) ∧
      Search.browse ctx col query request stop = (compile ctx col query).map fun _ => .rows [] 0 := by
  apply searches_of_run?_eq_none
  intro p hp
  exact run?_eq_none h hp

theorem finds_nothing_sample :
    Search.findCards sampleContext sampleCollection "is:new)) or ((is:new" .unordered = .ok [] ∧
      Search.findNotes sampleContext sampleCollection "is:new)) or ((is:new" = .ok [] ∧
      Search.browse sampleContext sampleCollection "is:new)) or ((is:new" .unordered (fun _ => false) =
        .ok (.rows [] 0) := by
  have hnothing := @finds_nothing sampleContext sampleCollection "is:new)) or ((is:new"
    (by decide +kernel) .unordered fun _ => false
  have hcompile : (compile sampleContext sampleCollection "is:new)) or ((is:new").isOk := by
    decide +kernel
  cases hc : compile sampleContext sampleCollection "is:new)) or ((is:new" with
  | error fault => simp [hc, Except.isOk, Except.toBool] at hcompile
  | ok predicate => simpa [hc, Except.map] using hnothing

/-- One pair of groups that are turned around is read with the parentheses of the statement. -/
theorem finds_turned_groups :
    ¬ Token.nested 0 (Token.ofQuery "is:new) or (is:new") ∧
      Search.findCards sampleContext sampleCollection "is:new) or (is:new" .unordered =
        .ok [11, 12, 13] ∧
      Search.findNotes sampleContext sampleCollection "is:new) or (is:new" = .ok [1, 2, 3] ∧
      (Search.browse sampleContext sampleCollection "is:new) or (is:new" .unordered
        fun _ => false) ≠ .ok (.rows [] 0) := by
  decide +kernel

end Query

end CardQuery
