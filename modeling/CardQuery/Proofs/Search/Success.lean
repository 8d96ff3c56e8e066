import CardQuery.Proofs.Collection.Derived
import CardQuery.Proofs.Pattern.Confirming
import CardQuery.Proofs.Query.Compiled
import CardQuery.Proofs.Query.FieldProbe
import CardQuery.Search.Find

/-!
Searches never fail. Only field terms could make them: when a pattern to sift by is too long, or when a
note is not as wide as its type. Whatever else is wrong with a query, it finds nothing.
-/

namespace CardQuery

def Token.fieldTerm? : Token → Option (String × String)
  | .command key value => if (Command.ofKey? key).isNone then some (key, value) else none
  | _ => none

lemma Note.Fits.width {types : List NoteType} (hids : (types.map NoteType.id).Nodup) {n : Note}
    (hn : n.Fits types) : ∀ t ∈ types, t.id = n.noteType → n.fields.length = t.fields.length := by
  intro t ht htype
  obtain ⟨u, hu, hutype, hlength⟩ := hn
  obtain rfl : t = u := List.inj_on_of_nodup_map hids ht hu (htype.trans hutype.symm)
  exact hlength

namespace Query

def fieldTermsOf (query : String) : List (String × String) :=
  (Token.ofQuery query).filterMap Token.fieldTerm?

structure WithinLimits (types : List NoteType) (query : String) : Prop where
  probes : Fit (probes types (fieldTermsOf query))
  confirming : ∀ t ∈ fieldTermsOf query, (confirmingTree t.2).weight ≤ Pattern.Reader.heaviest

variable {types : List NoteType} {col : Collection}

lemma fieldTerms_foldl (ctx : Context) (ts : List Token) (p : Progress) :
    (ts.foldl (step ctx col) p).fieldTerms = p.fieldTerms ++ ts.filterMap Token.fieldTerm? := by
  induction ts generalizing p with
  | nil => simp
  | cons t ts ih =>
    rw [List.foldl_cons, ih]
    cases t with
    | command key value =>
      cases hc : Command.ofKey? key with
      | some c => simp [step, hc, Progress.push, Token.fieldTerm?]
      | none => simp [step, hc, Token.fieldTerm?]
    | _ => rfl

lemma confirming?_of_weight {value : String}
    (h : (confirmingTree value).weight ≤ Pattern.Reader.heaviest) :
    ∃ r, confirming? value = some r ∧
      ∀ field : String, (r.tree.match? none field.toList).isSome = fieldAccepts value field :=
  ⟨⟨confirmingTree value, []⟩, by rw [confirming?_eq, if_neg (Nat.not_lt.mpr h)],
    match?_confirmingTree value⟩

lemma compile_ok_of_width {ctx : Context} {query : String}
    (hwidth : ∀ n ∈ col.notes.rows, ∀ t ∈ ctx.noteTypes, t.id = n.noteType →
      n.fields.length = t.fields.length)
    (hlimits : WithinLimits ctx.noteTypes query) : ∃ p, compile ctx col query = .ok p := by
  have hreading : ∃ r, fieldReading ctx col (Token.ofQuery query) = .ok r := by
    rw [fieldReading, fieldTerms_foldl]
    split
    · exact ⟨_, rfl⟩
    · apply fieldTerms_ok hwidth (fun t ht => ?_) hlimits.probes
      obtain ⟨r, hr, -⟩ := confirming?_of_weight (hlimits.confirming t ht)
      rw [hr]
      rfl
  obtain ⟨r, hr⟩ := hreading
  rw [compile, compileTokens_eq, hr]
  split <;> exact ⟨_, rfl⟩

lemma compile_ok {ctx : Context} {query : String} (hids : (ctx.noteTypes.map NoteType.id).Nodup)
    (hfits : ∀ n ∈ col.notes.rows, n.Fits ctx.noteTypes) (hlimits : WithinLimits ctx.noteTypes query) :
    ∃ p, compile ctx col query = .ok p :=
  compile_ok_of_width (fun n hn => (hfits n hn).width hids) hlimits

/-- In a collection that came about by any actions under note types with distinct ids, every query is
compiled, every pattern that fields are confirmed by can be built, and every search ends well. -/
theorem searches_succeed (hids : (types.map NoteType.id).Nodup) {actions : List Action}
    (hactions : ∀ a ∈ actions, a.IsUnder types ∧ a.IsClean) {ctx : Context}
    (htypes : ctx.noteTypes = types) {query : String} (hlimits : WithinLimits types query) :
    (∃ p, compile ctx (.after actions) query = .ok p) ∧
      (∀ t ∈ fieldTermsOf query, ∃ r, confirming? t.2 = some r ∧
        ∀ field : String, (r.tree.match? none field.toList).isSome = fieldAccepts t.2 field) ∧
      (∀ request, ∃ ids, Search.findCards ctx (.after actions) query request = .ok ids) ∧
      (∃ ids, Search.findNotes ctx (.after actions) query = .ok ids) ∧
      ∀ request stop, ∃ listing, Search.browse ctx (.after actions) query request stop = .ok listing := by
  subst htypes
  obtain ⟨p, hp⟩ := compile_ok hids (Collection.fits_after hactions) hlimits
  refine ⟨⟨p, hp⟩, fun t ht => confirming?_of_weight (hlimits.confirming t ht), fun request => ?_, ?_,
    fun request stop => ?_⟩
  · rw [Search.findCards, hp]
    exact ⟨_, rfl⟩
  · rw [Search.findNotes, hp]
    exact ⟨_, rfl⟩
  · rw [Search.browse, hp]
    exact ⟨_, rfl⟩

def sampleQuery : String := "front:d* -(back:_h* or [x:\"(.*)\")"

theorem searches_succeed_sample :
    (∀ a ∈ Collection.sampleActions, a.IsUnder sampleTypes ∧ a.IsClean) ∧
      WithinLimits sampleTypes sampleQuery ∧
      (∃ p, compile sampleContext (.after Collection.sampleActions) sampleQuery = .ok p) ∧
      ∃ r, confirming? "(.*)" = some r ∧
        ∀ field : String, (r.tree.match? none field.toList).isSome = fieldAccepts "(.*)" field := by
  have hactions : ∀ a ∈ Collection.sampleActions, a.IsUnder sampleTypes ∧ a.IsClean := by decide
  have hlimits : WithinLimits sampleTypes sampleQuery :=
    ⟨⟨by decide +kernel, by decide +kernel⟩, by decide +kernel⟩
  have htypes : sampleContext.noteTypes = sampleTypes := rfl
  obtain ⟨hcompile, hconfirming, -⟩ := searches_succeed (by decide) hactions htypes hlimits
  exact ⟨hactions, hlimits, hcompile, hconfirming ("[x", "(.*)") (by decide +kernel)⟩

end Query

end CardQuery
