import CardQuery.Proofs.Boolean.Extent
import CardQuery.Query.Compile

/-!
Conditions with their values. Every condition can be read on its own, and its values go to its own
places wherever it stands.
-/

namespace CardQuery

namespace Piece

variable {α β : Type} (termText : α → String)

lemma textOf_append (ps qs : List (Piece α)) :
    textOf termText (ps ++ qs) = textOf termText ps ++ textOf termText qs := by
  simp [textOf]

lemma textOf_cons (p : Piece α) (ps : List (Piece α)) :
    textOf termText (p :: ps) = p.text termText ++ textOf termText ps := by
  simp [textOf]

lemma textOf_term (a : α) : textOf termText [.term a] = termText a := by
  simp [textOf, text]

lemma textOf_enclose (ps : List (Piece α)) :
    textOf termText (enclose ps) = "(" ++ textOf termText ps ++ ")" := by
  simp [textOf, enclose, text, String.append_assoc]

lemma textOf_expand (pieces : β → List (Piece α)) (ps : List (Piece β)) :
    textOf termText (ps.flatMap (expand pieces)) =
      textOf (fun b => textOf termText (pieces b)) ps := by
  induction ps with
  | nil => rfl
  | cons p ps ih =>
    rw [List.flatMap_cons, textOf_append, ih, textOf_cons]
    congr 1
    cases p with
    | term b => rfl
    | _ => simp [expand, textOf, text]

end Piece

lemma Piece.map_eq_term {α β : Type} {g : α → β} {p : Piece α} {b : β} (h : p.map g = .term b) :
    ∃ a, p = .term a ∧ g a = b := by
  cases p <;> simp_all [Piece.map]

namespace Formula.Written

variable {α β : Type}

lemma lift {g : α → β} {part : Part} {qs : List (Piece β)} {f : Formula β} (h : Written part qs f)
    (ps : List (Piece α)) (hps : ps.map (Piece.map g) = qs) : ∃ f', Written part ps f' := by
  induction h generalizing ps with
  | term b =>
    obtain ⟨p, rfl, hp⟩ := List.map_eq_singleton_iff.mp hps
    obtain ⟨a, rfl, -⟩ := Piece.map_eq_term hp
    exact ⟨_, .term a⟩
  | group _ ih =>
    obtain ⟨rs, ls, rfl, hr, hl⟩ := List.map_eq_append_iff.mp hps
    obtain ⟨o, ps, rfl, ho, hp⟩ := List.map_eq_cons_iff.mp hr
    obtain ⟨c, rfl, hc⟩ := List.map_eq_singleton_iff.mp hl
    obtain ⟨f, hf⟩ := ih ps hp
    cases o <;> cases ho
    cases c <;> cases hc
    exact ⟨f, hf.group⟩
  | plain _ ih =>
    obtain ⟨f, hf⟩ := ih ps hps
    exact ⟨f, hf.plain⟩
  | negated _ ih =>
    obtain ⟨n, ps, rfl, hn, hp⟩ := List.map_eq_cons_iff.mp hps
    obtain ⟨f, hf⟩ := ih ps hp
    cases n <;> cases hn
    exact ⟨_, hf.negated⟩
  | first _ ih =>
    obtain ⟨f, hf⟩ := ih ps hps
    exact ⟨f, hf.first⟩
  | and _ _ ihf ihg =>
    obtain ⟨ps, rs, rfl, hp, hr⟩ := List.map_eq_append_iff.mp hps
    obtain ⟨a, qs, rfl, ha, hq⟩ := List.map_eq_cons_iff.mp hr
    obtain ⟨f, hf⟩ := ihf ps hp
    obtain ⟨g, hg⟩ := ihg qs hq
    cases a <;> cases ha
    exact ⟨_, hf.and hg⟩
  | only _ ih =>
    obtain ⟨f, hf⟩ := ih ps hps
    exact ⟨f, hf.only⟩
  | or _ _ ihf ihg =>
    obtain ⟨ps, rs, rfl, hp, hr⟩ := List.map_eq_append_iff.mp hps
    obtain ⟨a, qs, rfl, ha, hq⟩ := List.map_eq_cons_iff.mp hr
    obtain ⟨f, hf⟩ := ihf ps hp
    obtain ⟨g, hg⟩ := ihg qs hq
    cases a <;> cases ha
    exact ⟨_, hf.or hg⟩

lemma single {ps : List (Piece α)} {f : Formula α} (h : Written .unit ps f) :
    Written .alternatives ps f :=
  h.plain.first.only

end Formula.Written

open Formula (Written)

lemma TemplateCards.written (t : TemplateCards) : ∃ f, Written .unit t.pieces f := by
  rw [TemplateCards.pieces]
  split
  · exact ⟨_, .group (.single (.term _))⟩
  · exact ⟨_, .group (.only (.and (.first (.plain (.term _))) (.plain (.term _))))⟩

lemma TemplateCards.written_others (ts : List TemplateCards) {ps : List (Piece Atom)}
    {f : Formula Atom} (h : Written .alternatives ps f) :
    ∃ g, Written .alternatives (ps ++ ts.flatMap fun t => .or :: t.pieces) g := by
  induction ts generalizing ps f with
  | nil => exact ⟨f, by simpa using h⟩
  | cons t ts ih =>
    obtain ⟨g, hg⟩ := t.written
    simpa using ih (h.or hg.plain.first)

namespace Condition

theorem written (c : Condition) : ∃ f, Written .alternatives c.pieces f := by
  have hg (a : Atom) : Written .unit [.opening, .term a, .closing] (.term a) :=
    .group (.single (.term a))
  have hc (a b : Atom) :
      Written .unit [.opening, .term a, .and, .term b, .closing] (.and (.term a) (.term b)) :=
    .group (.only (.and (.first (.plain (.term a))) (.plain (.term b))))
  have hd (a b : Atom) : Written .alternatives [.term a, .or, .term b] (.or (.term a) (.term b)) :=
    .or (.single (.term a)) (.first (.plain (.term b)))
  cases c with
  | dueDay rel day => exact ⟨_, .only (.and (.first (.plain (hg _))) (.plain (hg _)))⟩
  | measure m rel n => exact ⟨_, .single (hg _)⟩
  | dueBy day second => exact ⟨_, .or (.single (hc _ _)) (.first (.plain (hc _ _)))⟩
  | inDecks ids => exact ⟨_, hd _ _⟩
  | templates first others =>
    obtain ⟨f, hf⟩ := first.written
    exact TemplateCards.written_others others hf.single
  | contains => exact ⟨_, .single (.group (hd _ _))⟩
  | _ => exact ⟨_, .single (.term _)⟩

lemma vain_alone (c : Condition) : (∀ a, .term a ∈ c.pieces → a.extent ≠ .vain) ∨
    (∃ a, c.pieces = [.term a]) ∨ ∃ a a', c.pieces = [.term a, .or, .term a'] := by
  cases c with
  | dueDay => exact Or.inl (by simp [pieces, Atom.extent])
  | measure => exact Or.inl (by simp [pieces, Atom.extent])
  | dueBy => exact Or.inl (by simp [pieces, Atom.extent])
  | contains => exact Or.inl (by simp [pieces, Atom.extent])
  | inDecks => exact Or.inr (Or.inr ⟨_, _, rfl⟩)
  | templates first others =>
    have hone (t : TemplateCards) (a : Atom) (ha : .term a ∈ t.pieces) : a.extent ≠ .vain := by
      rw [TemplateCards.pieces] at ha
      split at ha <;> simp at ha <;> rcases ha with rfl | rfl <;> simp [Atom.extent]
    refine Or.inl fun a ha => ?_
    rcases List.mem_append.mp ha with ha | ha
    · exact hone first a ha
    · simp only [List.mem_flatMap, List.mem_cons, reduceCtorEq, false_or] at ha
      obtain ⟨t, -, ha⟩ := ha
      exact hone t a ha
  | _ => exact Or.inr (Or.inl ⟨_, rfl⟩)

end Condition

namespace Test

def places : List (Piece Atom) → ℕ
  | [] => 0
  | .term a :: ps => a.places + places ps
  | _ :: ps => places ps

@[simp] lemma places_append (ps qs : List (Piece Atom)) : places (ps ++ qs) = places ps + places qs := by
  induction ps with
  | nil => simp [places]
  | cons p ps ih => cases p <;> simp [places, ih, Nat.add_assoc]

lemma bind_append {ps : List (Piece Atom)} {vs : List String} (h : vs.length = places ps)
    (ws : List String) (qs : List (Piece Atom)) :
    bind (vs ++ ws) (ps ++ qs) = bind vs ps ++ bind ws qs := by
  induction ps generalizing vs with
  | nil =>
    obtain rfl := List.length_eq_zero_iff.mp h
    rfl
  | cons p ps ih =>
    cases p with
    | term a =>
      have ha : a.places ≤ vs.length := by rw [h]; simp [places]
      have hd : (vs.drop a.places).length = places ps := by
        simp only [List.length_drop, h]
        simp [places]
      simp only [List.cons_append, bind, List.take_append_of_le_length ha,
        List.drop_append_of_le_length ha, ih hd]
    | _ => simpa [bind] using ih (by simpa [places] using h)

@[simp] lemma places_enclose (ps : List (Piece Atom)) : places (Piece.enclose ps) = places ps := by
  simp [Piece.enclose, places]

lemma bind_enclose {ps : List (Piece Atom)} {vs : List String} (h : vs.length = places ps)
    (ws : List String) (qs : List (Piece Atom)) :
    bind (vs ++ ws) (Piece.enclose ps ++ qs) = Piece.enclose (bind vs ps) ++ bind ws qs := by
  have hb := bind_append h ws (.closing :: qs)
  simpa [Piece.enclose, bind] using hb

lemma map_bind (vs : List String) (ps : List (Piece Atom)) :
    (bind vs ps).map (Piece.map Test.atom) = ps := by
  induction ps generalizing vs with
  | nil => rfl
  | cons p ps ih => cases p <;> simp [bind, Piece.map, ih]

lemma atom_mem_of_mem_bind {vs : List String} {ps : List (Piece Atom)} {t : Test}
    (h : .term t ∈ bind vs ps) : .term t.atom ∈ ps := by
  rw [← map_bind vs ps]
  exact List.mem_map_of_mem (f := Piece.map Test.atom) h

lemma holds?_ne_of_isVain {t : Test} (h : t.isVain) (reviews : List Review) (row : Row) :
    t.holds? reviews row ≠ some true := by
  obtain ⟨atom, values⟩ := t
  have hlist {ids : List Int} (h : Atom.listExtent ids = .vain) : ids = [] := by
    match ids with
    | [] => rfl
    | [_] => cases h
    | _ :: _ :: _ => cases h
  have h : atom.extent = .vain := by simpa [isVain] using h
  cases atom with
  | never => simp [holds?, Atom.holds?]
  | decks ids => simp [holds?, Atom.holds?, hlist h]
  | homeDecks ids => simp [holds?, Atom.holds?, hlist h]
  | noteTypes ids => simp [holds?, Atom.holds?, hlist h]
  | notes ids => simp [holds?, Atom.holds?, hlist h]
  | cards ids => simp [holds?, Atom.holds?, hlist h]
  | _ => cases h

end Test

structure Bound where
  condition : Condition
  values : List String

namespace Bound

def Filled (b : Bound) : Prop := b.values.length = Test.places b.condition.pieces

def pieces (b : Bound) : List (Piece Test) := Test.bind b.values b.condition.pieces

lemma written (b : Bound) : ∃ f, Written .alternatives b.pieces f := by
  obtain ⟨f, hf⟩ := b.condition.written
  exact hf.lift b.pieces (Test.map_bind ..)

def holds? (reviews : List Review) (row : Row) (b : Bound) : Option Bool :=
  (Formula.ofPieces? b.pieces).bind (·.holds? (Test.holds? reviews row))

lemma holds?_of_formula {b : Bound} {f : Formula Test} (h : Formula.ofPieces? b.pieces = some f)
    (reviews : List Review) (row : Row) : b.holds? reviews row = f.holds? (Test.holds? reviews row) := by
  rw [holds?, h, Option.bind_some]

def extent? (b : Bound) : Option Extent := (Formula.ofPieces? b.pieces).bind (·.extent? Test.extent?)

def isVain (b : Bound) : Bool := (Formula.ofPieces? b.pieces).any (·.isVain Test.isVain)

lemma holds?_ne_of_isVain {b : Bound} (h : b.isVain) (reviews : List Review) (row : Row) :
    b.holds? reviews row ≠ some true := by
  obtain ⟨f, hf, hvain⟩ := (Option.any_eq_true _ _).mp h
  rw [holds?_of_formula hf]
  exact Formula.holds?_ne_of_isVain (fun t ht => Test.holds?_ne_of_isVain ht reviews row) hvain

theorem evaluate?_eq_holds? {b : Bound} {f : Formula Test} (h : Formula.ofPieces? b.pieces = some f)
    (reviews : List Review) (row : Row) :
    f.evaluate? Test.isVain (Test.holds? reviews row) = b.holds? reviews row := by
  rw [holds?_of_formula h]
  rcases b.condition.vain_alone with hsome | ⟨a, ha⟩ | ⟨a, a', ha⟩
  · apply Formula.evaluate?_of_not_vain
    intro t ht
    simpa [Test.isVain] using hsome t.atom (Test.atom_mem_of_mem_bind (Formula.mem_of_ofPieces? h ht))
  · rw [pieces, ha] at h
    cases h
    rfl
  · rw [pieces, ha] at h
    cases h
    rfl

def valuesOf (ps : List (Piece Bound)) : List String :=
  ps.flatMap fun
    | .term b => b.values
    | _ => []

lemma mem_valuesOf {ps : List (Piece Bound)} {b : Bound} (hb : .term b ∈ ps) {v : String}
    (hv : v ∈ b.values) : v ∈ valuesOf ps :=
  List.mem_flatMap.mpr ⟨_, hb, hv⟩

lemma length_valuesOf {ps : List (Piece Bound)} (h : ∀ b, .term b ∈ ps → b.Filled) :
    (valuesOf ps).length =
      Test.places (ps.flatMap (Piece.expand fun b => Piece.enclose b.condition.pieces)) := by
  induction ps with
  | nil => rfl
  | cons p ps ih =>
    have htail := ih fun b hb => h b (List.mem_cons_of_mem _ hb)
    cases p with
    | term b =>
      have hb : b.values.length = _ := h b (by simp)
      simp only [valuesOf, List.flatMap_cons, List.length_append, Piece.expand, Test.places_append,
        Test.places_enclose] at htail ⊢
      rw [htail, hb]
    | _ => simpa [valuesOf, Piece.expand, Test.places] using htail

lemma bind_valuesOf {ps : List (Piece Bound)} (h : ∀ b, .term b ∈ ps → b.Filled) :
    Test.bind (valuesOf ps) (ps.flatMap (Piece.expand fun b => Piece.enclose b.condition.pieces)) =
      ps.flatMap (Piece.expand fun b => Piece.enclose b.pieces) := by
  induction ps with
  | nil => rfl
  | cons p ps ih =>
    have htail := ih fun b hb => h b (List.mem_cons_of_mem _ hb)
    cases p with
    | term b =>
      have hb : b.Filled := h b (by simp)
      simp only [valuesOf, List.flatMap_cons, Piece.expand] at htail ⊢
      rw [Test.bind_enclose hb, htail, pieces]
    | _ => simpa [valuesOf, Piece.expand, Test.bind] using htail

end Bound

def Predicate.ofBound (bs : List (Piece Bound)) : Predicate :=
  ⟨bs.map (Piece.map Bound.condition), Bound.valuesOf bs⟩

end CardQuery
