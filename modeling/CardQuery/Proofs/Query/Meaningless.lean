import CardQuery.Proofs.Boolean.Continuation
import CardQuery.Proofs.Query.Compiled
import CardQuery.Proofs.Query.FieldProbe

/-!
Terms without meaning. Such a term makes the query as a whole invalid, unless a minus stands before it:
then the term and its minus leave no trace.
-/

namespace CardQuery

namespace Query

variable {ctx : Context} {col : Collection}

lemma compileTokens_of_invalid {ts : List Token}
    (h : (ts.foldl (step ctx col) .empty).builder.invalid) (us : List Token) :
    compileTokens ctx col (ts ++ us) = .ok none := by
  have hbuilt : (built ctx col ts).invalid := by
    rw [(Tracks.run ctx col ts).builder] at h
    exact h
  have hall : (built ctx col (ts ++ us)).invalid = true := by
    rw [built, Builder.takeAll_append]
    exact Builder.invalid_takeAll hbuilt us
  rw [compileTokens_eq, if_pos hall]

variable {key value : String} {c : Command} (hkey : Command.ofKey? key = some c)
  (hinvalid : (command ctx col value c).reading = .invalid)
include hkey hinvalid

lemma step_meaningless (p : Progress) :
    step ctx col p (.command key value) = { p with builder := p.builder.push .invalid } := by
  have hvalues : (command ctx col value c).values = [] := by
    have hfilled := filled_command ctx col value c
    rwa [Interpretation.Filled, hinvalid] at hfilled
  simp [step, hkey, Progress.push, hinvalid, hvalues]

lemma step_negated_meaningless {p : Progress} (hv : p.builder.invalid = false)
    (hn : p.builder.negateNext = false) :
    step ctx col (step ctx col p .minus) (.command key value) = p := by
  obtain ⟨⟨pieces, negateNext, disjoinNext, needsConnective, invalid⟩, args, fieldTerms⟩ := p
  obtain rfl : negateNext = false := hn
  obtain rfl : invalid = false := hv
  rw [step_meaningless hkey hinvalid]
  rfl

theorem compileTokens_meaningless {pre : List Token}
    (hwaits : (pre.foldl (step ctx col) .empty).builder.invalid = false →
      (pre.foldl (step ctx col) .empty).builder.negateNext = false) (post : List Token) :
    compileTokens ctx col (pre ++ .minus :: .command key value :: post) =
        compileTokens ctx col (pre ++ post) ∧
      compileTokens ctx col (pre ++ .command key value :: post) = .ok none := by
  cases hv : (pre.foldl (step ctx col) .empty).builder.invalid with
  | true => simp only [compileTokens_of_invalid hv, and_self]
  | false =>
    have hn := hwaits hv
    constructor
    · simp only [compileTokens, List.foldl_append, List.foldl_cons,
        step_negated_meaningless hkey hinvalid hv hn]
    · have hafter : ((pre ++ [Token.command key value]).foldl (step ctx col) .empty).builder.invalid := by
        rw [List.foldl_append, List.foldl_cons, List.foldl_nil, step_meaningless hkey hinvalid]
        simp [Builder.push, hv, hn]
      have hnone := compileTokens_of_invalid hafter post
      rwa [List.append_assoc] at hnone

omit hkey hinvalid in
theorem compileTokens_meaningless_sample :
    (command sampleContext sampleCollection "nowhere" .deck).reading = .invalid ∧
      compileTokens sampleContext sampleCollection ([.text "cat", .or] ++
          .minus :: .command "deck" "nowhere" :: [.opening, .command "front" "c*", .closing]) =
        compileTokens sampleContext sampleCollection
          ([.text "cat", .or] ++ [.opening, .command "front" "c*", .closing]) ∧
      compileTokens sampleContext sampleCollection ([.text "cat", .or] ++
          .command "deck" "nowhere" :: [.opening, .command "front" "c*", .closing]) = .ok none := by
  have hkey : Command.ofKey? "deck" = some .deck := by decide
  have hinvalid : (command sampleContext sampleCollection "nowhere" .deck).reading = .invalid := by
    rfl
  exact ⟨hinvalid, compileTokens_meaningless hkey hinvalid (fun _ => rfl) _⟩

end Query

end CardQuery
