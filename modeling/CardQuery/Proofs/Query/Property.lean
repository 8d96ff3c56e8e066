import CardQuery.Proofs.Query.Asking
import CardQuery.Proofs.Query.Condition
import CardQuery.Proofs.Text.Numeral
import CardQuery.Query.Card

/-!
How a property term is read. Its value is cut at a relation, and it stands for a condition if a property
is on the left of it and a numeral on the right. There is one way at most to take a value apart like that.
-/

namespace CardQuery

namespace Text

lemma dropPart_eq_some {part s r : List Char} : dropPart part s = some r ↔ s = part ++ r := by
  rw [dropPart]
  constructor
  · intro h
    split at h
    · next hpart =>
      obtain ⟨t, rfl⟩ := List.isPrefixOf_iff_prefix.mp hpart
      simpa using h
    · cases h
  · rintro rfl
    simp

lemma mem_lowerFrom {c : Char} (hc : lowerChar c = [c]) (hsigma : c ≠ 'Σ') {s : List Char} (h : c ∈ s)
    (before : List Char) : c ∈ lowerFrom before s := by
  induction s generalizing before with
  | nil => cases h
  | cons d s ih =>
    rw [lowerFrom, List.mem_append]
    rcases List.mem_cons.mp h with rfl | h
    · rw [if_neg hsigma, hc]
      exact Or.inl (List.mem_singleton_self c)
    · exact Or.inr (ih h _)

lemma mem_lower {c : Char} (hc : c ∈ ['\n', '<', '>', '=', '!']) {s : List Char} (h : c ∈ s) :
    c ∈ (lower (String.ofList s)).toList := by
  have hall : ['\n', '<', '>', '=', '!'].all fun c => lowerChar c == [c] && c != 'Σ' := by decide +kernel
  have hself := List.all_eq_true.mp hall c hc
  rw [Bool.and_eq_true, beq_iff_eq, bne_iff_ne] at hself
  simpa [lower] using mem_lowerFrom hself.1 hself.2 h []

end Text

namespace Relation

def marks : List Char := ['<', '>', '=', '!']

def Stands : Relation → Int → Int → Prop
  | le, a, b => a ≤ b
  | ge, a, b => a ≥ b
  | ne, a, b => a ≠ b
  | eq, a, b => a = b
  | lt, a, b => a < b
  | gt, a, b => a > b

lemma holds_iff (rel : Relation) (a b : Int) : rel.holds a b ↔ rel.Stands a b := by
  cases rel <;> simp [holds, Stands]

lemma mem_marks {rel : Relation} {c : Char} (h : c ∈ rel.text.toList) : c ∈ marks := by
  have hall : rel.text.toList.all (marks.contains ·) := by cases rel <;> decide
  exact List.contains_iff_mem.mp (List.all_eq_true.mp hall c h)

lemma text_injective {rel rel' : Relation} (h : rel.text.toList = rel'.text.toList) : rel = rel' := by
  cases rel <;> cases rel' <;> first | rfl | exact absurd h (by decide)

lemma toList_text_ne_nil (rel : Relation) : rel.text.toList ≠ [] := by
  cases rel <;> decide

lemma mem_relations (rel : Relation) : rel ∈ Query.relations := by
  cases rel <;> decide

end Relation

namespace Query

open Number

/-- `Cut s name rel right`: the text is cut at the relation that comes first behind its first character and
has something behind it; of two relations that come at the same place, at the longer. -/
structure Cut (s name : List Char) (rel : Relation) (right : List Char) : Prop where
  line : '\n' ∉ s
  eq : s = name ++ (rel.text.toList ++ right)
  name_ne : name ≠ []
  right_ne : right ≠ []
  first : ∀ name' (rel' : Relation) right', s = name' ++ (rel'.text.toList ++ right') → name' ≠ [] → right' ≠ [] →
    name.length < name'.length ∨ name = name' ∧ rel'.text.toList.length ≤ rel.text.toList.length

section Scan

lemma dropRelation_eq_some {s r : List Char} {rel rel' : Relation} :
    (match Text.dropPart rel.text.toList s with
      | some (c :: r) => some (rel, c :: r)
      | _ => none) = some (rel', r) ↔ rel = rel' ∧ s = rel.text.toList ++ r ∧ r ≠ [] := by
  split
  · next c t h =>
    rw [Text.dropPart_eq_some.mp h]
    constructor
    · rintro ⟨⟩
      exact ⟨rfl, rfl, List.cons_ne_nil c t⟩
    · rintro ⟨rfl, heq, -⟩
      rw [List.append_cancel_left heq]
  · next h =>
    refine iff_of_false (by simp) ?_
    rintro ⟨rfl, heq, hne⟩
    obtain ⟨c, t, rfl⟩ := List.exists_cons_of_ne_nil hne
    exact h c t (Text.dropPart_eq_some.mpr heq)

lemma relationAt_eq_some {s r : List Char} {rel : Relation} (h : relationAt s = some (rel, r)) :
    s = rel.text.toList ++ r ∧ r ≠ [] ∧ ∀ (rel' : Relation) r', s = rel'.text.toList ++ r' → r' ≠ [] →
      rel'.text.toList.length ≤ rel.text.toList.length := by
  have hsorted : relations.Pairwise fun a b => b.text.toList.length ≤ a.text.toList.length := by decide
  obtain ⟨shorter, a, longer, hsplit, ha, hnone⟩ := List.findSome?_eq_some_iff.mp h
  obtain ⟨rfl, heq, hne⟩ := dropRelation_eq_some.mp ha
  refine ⟨heq, hne, fun rel' r' heq' hne' => ?_⟩
  have hmem : rel' ∈ shorter ++ a :: longer := hsplit ▸ rel'.mem_relations
  rw [hsplit, List.pairwise_append, List.pairwise_cons] at hsorted
  rcases List.mem_append.mp hmem with hbefore | hbehind
  · have hfound := dropRelation_eq_some.mpr ⟨rfl, heq', hne'⟩
    cases hfound.symm.trans (hnone rel' hbefore)
  · rcases List.mem_cons.mp hbehind with rfl | hbehind
    · exact Nat.le_refl _
    · exact hsorted.2.1.1 rel' hbehind

lemma relationAt_eq_none {s r : List Char} {rel : Relation} (h : relationAt s = none)
    (heq : s = rel.text.toList ++ r) : r = [] := by
  by_contra hne
  have hfound := dropRelation_eq_some.mpr ⟨rfl, heq, hne⟩
  cases hfound.symm.trans (List.findSome?_eq_none_iff.mp h rel rel.mem_relations)

lemma comparison?_eq_none {before s : List Char} (h : comparison? before s = none) {mid : List Char}
    {rel : Relation} {right : List Char} (heq : s = mid ++ (rel.text.toList ++ right))
    (hne : before.reverse ++ mid ≠ []) : right = [] := by
  induction s generalizing before mid with
  | nil =>
    have hnil := (List.append_eq_nil_iff.mp heq.symm).2
    exact (List.append_eq_nil_iff.mp hnil).2
  | cons c s ih =>
    rw [comparison?] at h
    split at h
    · cases h
    · next hnone =>
      cases mid with
      | nil =>
        rw [if_neg (by simpa using hne)] at hnone
        exact relationAt_eq_none hnone heq
      | cons d mid =>
        obtain ⟨rfl, rfl⟩ := List.cons_eq_cons.mp heq
        exact ih h rfl (by simp)

lemma comparison?_eq_some {before s name right : List Char} {rel : Relation}
    (h : comparison? before s = some (name, rel, right)) :
    ∃ mid, name = before.reverse ++ mid ∧ s = mid ++ (rel.text.toList ++ right) ∧ name ≠ [] ∧
      right ≠ [] ∧ ∀ mid' (rel' : Relation) right', s = mid' ++ (rel'.text.toList ++ right') →
        before.reverse ++ mid' ≠ [] → right' ≠ [] → mid.length < mid'.length ∨
          mid = mid' ∧ rel'.text.toList.length ≤ rel.text.toList.length := by
  induction s generalizing before with
  | nil => cases h
  | cons c s ih =>
    rw [comparison?] at h
    split at h
    · next rel r hfound =>
      cases h
      split at hfound
      · cases hfound
      · next hbefore =>
        obtain ⟨heq, hne, hlongest⟩ := relationAt_eq_some hfound
        refine ⟨[], by simp, heq, by simpa using hbefore, hne, fun mid' rel' right' heq' _ hne' => ?_⟩
        cases mid' with
        | nil => exact Or.inr ⟨rfl, hlongest rel' right' heq' hne'⟩
        | cons d mid' => exact Or.inl (by simp)
    · next hnone =>
      obtain ⟨mid, rfl, rfl, hname, hright, hfirst⟩ := ih h
      refine ⟨c :: mid, by simp, rfl, hname, hright, fun mid' rel' right' heq' hne' hright' => ?_⟩
      cases mid' with
      | nil =>
        rw [if_neg (by simpa using hne')] at hnone
        exact absurd (relationAt_eq_none hnone heq') hright'
      | cons d mid' =>
        obtain ⟨rfl, htail⟩ := List.cons_eq_cons.mp heq'
        simpa using hfirst mid' rel' right' htail (by simp) hright'

lemma Cut.unique {s name name' right right' : List Char} {rel rel' : Relation}
    (h : Cut s name rel right) (h' : Cut s name' rel' right') :
    name = name' ∧ rel = rel' ∧ right = right' := by
  have hle := h.first _ _ _ h'.eq h'.name_ne h'.right_ne
  have hge := h'.first _ _ _ h.eq h.name_ne h.right_ne
  have hname : name = name' := by
    rcases hle with hlt | ⟨heq, -⟩
    · rcases hge with hgt | ⟨heq, -⟩
      · omega
      · exact heq.symm
    · exact heq
  subst hname
  have hlength : rel.text.toList.length = rel'.text.toList.length := by
    have hle := hle.resolve_left (Nat.lt_irrefl _)
    have hge := hge.resolve_left (Nat.lt_irrefl _)
    omega
  obtain ⟨htext, hright⟩ := List.append_inj (List.append_cancel_left (h.eq.symm.trans h'.eq)) hlength
  exact ⟨rfl, Relation.text_injective htext, hright⟩

theorem comparison?_iff {s name right : List Char} {rel : Relation} :
    '\n' ∉ s ∧ comparison? [] s = some (name, rel, right) ↔ Cut s name rel right := by
  have hsound (hline : '\n' ∉ s) {name rel right} (h : comparison? [] s = some (name, rel, right)) :
      Cut s name rel right := by
    obtain ⟨mid, rfl, heq, hname, hright, hfirst⟩ := comparison?_eq_some h
    exact ⟨hline, heq, hname, hright, hfirst⟩
  constructor
  · rintro ⟨hline, h⟩
    exact hsound hline h
  · intro h
    refine ⟨h.line, ?_⟩
    cases hfound : comparison? [] s with
    | none => exact absurd (comparison?_eq_none hfound h.eq h.name_ne) h.right_ne
    | some found =>
      obtain ⟨rfl, rfl, rfl⟩ := (hsound h.line hfound).unique h
      rfl

lemma cut_of_plain {name right : List Char} (hname : ∀ c ∈ name, c ≠ '\n' ∧ c ∉ Relation.marks)
    (hne : name ≠ []) (hright : ∀ c ∈ right, c ≠ '\n' ∧ c ∉ Relation.marks) (hright_ne : right ≠ [])
    (rel : Relation) : Cut (name ++ (rel.text.toList ++ right)) name rel right := by
  have hlongest {rel' : Relation} {right' : List Char}
      (heq : rel.text.toList ++ right = rel'.text.toList ++ right') :
      rel'.text.toList.length ≤ rel.text.toList.length := by
    rcases List.append_eq_append_iff.mp heq with ⟨t, htext, rfl⟩ | ⟨t, htext, -⟩
    · cases t with
      | nil => simp [htext]
      | cons c t =>
        have hmark : c ∈ Relation.marks := @Relation.mem_marks rel' c (by simp [htext])
        exact absurd hmark (hright c (by simp)).2
    · simp [htext]
  constructor
  · simp only [List.mem_append, not_or]
    refine ⟨fun h => (hname _ h).1 rfl, fun h => ?_, fun h => (hright _ h).1 rfl⟩
    exact absurd (Relation.mem_marks h) (by decide)
  · rfl
  · exact hne
  · exact hright_ne
  · intro name' rel' right' heq hname' hright'
    rcases List.append_eq_append_iff.mp heq with ⟨t, rfl, htail⟩ | ⟨t, rfl, htail⟩
    · cases t with
      | nil => exact Or.inr ⟨(List.append_nil name).symm, hlongest htail⟩
      | cons c t => exact Or.inl (by simp)
    · cases t with
      | nil => exact Or.inr ⟨List.append_nil name', hlongest htail.symm⟩
      | cons c t =>
        -- the first character of the other relation would stand in the name
        obtain ⟨d, u, htext⟩ := List.exists_cons_of_ne_nil rel'.toList_text_ne_nil
        rw [htext] at htail
        obtain ⟨rfl, -⟩ := List.cons_eq_cons.mp htail
        have hmark : d ∈ Relation.marks := @Relation.mem_marks rel' d (by simp [htext])
        exact absurd hmark (hname d (by simp)).2

end Scan

variable {schedule : Schedule} {value : String}

lemma property_of_cut {name right : List Char} {rel : Relation} (h : Cut value.toList name rel right) :
    property schedule value = ofCondition?
      ((if Text.lower (String.ofList name) = "ease" then Decimal.thousandths? right
        else read? right).bind (comparing schedule (Text.lower (String.ofList name)) rel)) := by
  obtain ⟨hline, hfound⟩ := comparison?_iff.mpr h
  rw [property, if_neg (by simpa using hline), hfound]
  simp only [Option.bind_eq_bind, Option.bind_some]
  split <;> rfl

lemma property_of_uncut (h : ∀ name rel right, ¬Cut value.toList name rel right) :
    property schedule value = .invalid := by
  rw [property]
  split
  · rfl
  · next hline =>
    cases hfound : comparison? [] value.toList with
    | none => rfl
    | some found =>
      obtain ⟨name, rel, right⟩ := found
      exact absurd (comparison?_iff.mp ⟨by simpa using hline, hfound⟩) (h name rel right)

inductive Property where
  | due
  | interval
  | repetitions
  | lapses

namespace Property

def name : Property → String
  | due => "due"
  | interval => "ivl"
  | repetitions => "reps"
  | lapses => "lapses"

def condition (schedule : Schedule) (rel : Relation) (n : Int) : Property → Condition
  | due => .dueDay rel (n + schedule.today)
  | interval => .measure .interval rel n
  | repetitions => .measure .repetitions rel n
  | lapses => .measure .lapses rel n

def Meets (schedule : Schedule) (rel : Relation) (n : Int) (card : Card) : Property → Prop
  | due => (card.queue = 2 ∨ card.queue = 3) ∧ rel.Stands card.due (n + schedule.today)
  | interval => rel.Stands card.interval n
  | repetitions => rel.Stands card.repetitions n
  | lapses => rel.Stands card.lapses n

lemma name_injective {p q : Property} (h : p.name = q.name) : p = q := by
  cases p <;> cases q <;> first | rfl | exact absurd h (by decide)

lemma name_ne_ease (p : Property) : p.name ≠ "ease" := by
  cases p <;> decide

lemma name_plain {p : Property} {c : Char} (h : c ∈ p.name.toList) : c ≠ '\n' ∧ c ∉ Relation.marks := by
  have hall : p.name.toList.all fun c => c != '\n' && !Relation.marks.contains c := by cases p <;> decide
  simpa using List.all_eq_true.mp hall c h

lemma comparing_name {p : Property} (h : p ≠ due) (rel : Relation) (n : Int) :
    comparing schedule p.name rel n = some (p.condition schedule rel n) := by
  cases p with
  | due => exact absurd rfl h
  | _ => rfl

lemma comparing_eq_some {p : Property} {rel : Relation} {n : Int} {c : Condition} :
    comparing schedule p.name rel n = some c ↔
      (p = due → inRange (n + schedule.today)) ∧ c = p.condition schedule rel n := by
  by_cases hdue : p = due
  · subst hdue
    have hcomparing : comparing schedule due.name rel n =
        (add? n schedule.today).map (Condition.dueDay rel) := rfl
    rw [hcomparing, Option.map_eq_some_iff, condition]
    constructor
    · rintro ⟨_, hm, rfl⟩
      obtain ⟨hrange, rfl⟩ := checked_eq_some.mp hm
      exact ⟨fun _ => hrange, rfl⟩
    · rintro ⟨hrange, rfl⟩
      exact ⟨_, checked_eq_some.mpr ⟨hrange rfl, rfl⟩, rfl⟩
  · rw [comparing_name hdue, Option.some_inj]
    exact ⟨fun h => ⟨fun hp => absurd hp hdue, h.symm⟩, fun h => h.2.symm⟩

lemma exists_of_comparing {name : String} {rel : Relation} {n : Int} {c : Condition}
    (hease : name ≠ "ease") (h : comparing schedule name rel n = some c) :
    ∃ p : Property, name = p.name := by
  unfold comparing at h
  split at h
  · exact ⟨due, rfl⟩
  · exact ⟨interval, rfl⟩
  · exact ⟨repetitions, rfl⟩
  · exact ⟨lapses, rfl⟩
  · exact absurd rfl hease
  · cases h

lemma holds?_condition (p : Property) (rel : Relation) (n : Int) (reviews : List Review) (row : Row) :
    ∃ v, Bound.holds? reviews row ⟨p.condition schedule rel n, []⟩ = some v ∧
      (v = true ↔ p.Meets schedule rel n row.card) := by
  cases p with
  | due =>
    have hformula : Formula.ofPieces? (Bound.pieces ⟨.dueDay rel (n + schedule.today), []⟩) =
        some (.and (.term ⟨.dueInDays, []⟩) (.term ⟨.due rel (n + schedule.today), []⟩)) := rfl
    rw [condition, Bound.holds?_of_formula hformula, Formula.holds?, Formula.holds?, Formula.holds?]
    simp only [Test.holds?, Atom.holds?, Meets, ← Relation.holds_iff]
    cases hqueue : row.card.queue == 2 || row.card.queue == 3 with
    | true =>
      have hdays : row.card.queue = 2 ∨ row.card.queue = 3 := by simpa using hqueue
      exact ⟨_, rfl, by simp [hdays]⟩
    | false =>
      have hdays : ¬(row.card.queue = 2 ∨ row.card.queue = 3) := by simpa using hqueue
      exact ⟨_, rfl, by simp [hdays]⟩
  | _ => exact ⟨_, rfl, rel.holds_iff _ _⟩

end Property

structure Comparison where
  name : List Char
  property : Property
  rel : Relation
  numeral : List Char
  number : Int

structure Compares (schedule : Schedule) (s : List Char) (q : Comparison) : Prop where
  eq : s = q.name ++ (q.rel.text.toList ++ q.numeral)
  name : Text.lower (String.ofList q.name) = q.property.name
  numeral : IsNumeral q.numeral q.number
  due : q.property = .due → inRange (q.number + schedule.today)

namespace Compares

variable {s : List Char} {q q' : Comparison}

lemma plain_name (h : Compares schedule s q) {c : Char} (hc : c ∈ q.name) :
    c ≠ '\n' ∧ c ∉ Relation.marks := by
  have hmem : c ∉ '\n' :: Relation.marks := by
    intro hmem
    have hkept := Text.mem_lower hmem hc
    rw [h.name] at hkept
    obtain ⟨hline, hmark⟩ := Property.name_plain hkept
    rcases List.mem_cons.mp hmem with heq | hmem
    · exact hline heq
    · exact hmark hmem
  simpa using hmem

lemma plain_numeral (h : Compares schedule s q) {c : Char} (hc : c ∈ q.numeral) :
    c ≠ '\n' ∧ c ∉ Relation.marks := by
  rcases h.numeral.denotes.mem hc with rfl | rfl | hdigit
  · decide
  · decide
  · have hall : ('\n' :: Relation.marks).all (!·.isDigit) := by decide
    have hmem : c ∉ '\n' :: Relation.marks := by
      intro hmem
      have hnot := List.all_eq_true.mp hall c hmem
      simp [hdigit] at hnot
    simpa using hmem

theorem cut (h : Compares schedule s q) : Cut s q.name q.rel q.numeral := by
  have hne : q.name ≠ [] := by
    intro hnil
    have hempty := h.name
    rw [hnil] at hempty
    generalize q.property = p at hempty
    cases p <;> exact absurd hempty (by decide)
  rw [h.eq]
  exact cut_of_plain (fun c => h.plain_name) hne (fun c => h.plain_numeral) h.numeral.denotes.ne_nil q.rel

lemma unique (h : Compares schedule s q) (h' : Compares schedule s q') : q = q' := by
  obtain ⟨name, p, rel, numeral, n⟩ := q
  obtain ⟨name', p', rel', numeral', n'⟩ := q'
  obtain ⟨rfl, rfl, rfl⟩ := h.cut.unique h'.cut
  obtain rfl := Property.name_injective (h.name.symm.trans h'.name)
  obtain rfl := h.numeral.unique h'.numeral
  rfl

lemma property_eq (h : Compares schedule value.toList q) :
    property schedule value = .condition (q.property.condition schedule q.rel q.number) := by
  rw [property_of_cut h.cut, h.name, if_neg q.property.name_ne_ease, read?_eq_some.mpr h.numeral,
    Option.bind_some, Property.comparing_eq_some.mpr ⟨h.due, rfl⟩]
  rfl

end Compares

lemma exists_of_property (hease : ∀ name rel right, Cut value.toList name rel right →
      Text.lower (String.ofList name) ≠ "ease") {c : Condition}
    (h : property schedule value = .condition c) : ∃ q, Compares schedule value.toList q := by
  by_cases hcut : ∃ name rel right, Cut value.toList name rel right
  · obtain ⟨name, rel, right, hcut⟩ := hcut
    have hname := hease name rel right hcut
    rw [property_of_cut hcut, if_neg hname] at h
    obtain ⟨n, hn, hc⟩ := Option.bind_eq_some_iff.mp (ofCondition?_eq_condition h)
    obtain ⟨p, hp⟩ := Property.exists_of_comparing hname hc
    rw [hp] at hc
    exact ⟨⟨name, p, rel, right, n⟩, hcut.eq, hp, read?_eq_some.mp hn,
      (Property.comparing_eq_some.mp hc).1⟩
  · rw [property_of_uncut fun name rel right h => hcut ⟨name, rel, right, h⟩] at h
    cases h

lemma property_cases (schedule : Schedule) (value : String) :
    property schedule value = .invalid ∨ ∃ c, property schedule value = .condition c := by
  rw [property]
  split
  · exact Or.inl rfl
  · exact ofCondition?_cases _

theorem property_reads (hease : ∀ name rel right, Cut value.toList name rel right →
      Text.lower (String.ofList name) ≠ "ease") :
    ((∃ c, property schedule value = .condition c) ↔ ∃ q, Compares schedule value.toList q) ∧
    (∀ q q', Compares schedule value.toList q → Compares schedule value.toList q' → q = q') ∧
    (∀ q, Compares schedule value.toList q → ∃ c, property schedule value = .condition c ∧
      ∀ reviews row, ∃ v, Bound.holds? reviews row ⟨c, []⟩ = some v ∧
        (v = true ↔ q.property.Meets schedule q.rel q.number row.card)) ∧
    ((∀ q, ¬Compares schedule value.toList q) → property schedule value = .invalid) := by
  have hread (q : Comparison) (hq : Compares schedule value.toList q) :
      ∃ c, property schedule value = .condition c :=
    ⟨_, hq.property_eq⟩
  refine ⟨⟨fun ⟨c, hc⟩ => exists_of_property hease hc, fun ⟨q, hq⟩ => hread q hq⟩,
    fun q q' hq hq' => hq.unique hq', fun q hq => ?_, fun hnone => ?_⟩
  · exact ⟨_, hq.property_eq, q.property.holds?_condition q.rel q.number⟩
  · rcases property_cases schedule value with hinvalid | ⟨c, hc⟩
    · exact hinvalid
    · obtain ⟨q, hq⟩ := exists_of_property hease hc
      exact absurd hq (hnone q)

theorem property_reads_sample :
    (∀ name rel right, Cut "dUe<=-3".toList name rel right →
      Text.lower (String.ofList name) ≠ "ease") ∧
    ∃ c, property ⟨10, 864000⟩ "dUe<=-3" = .condition c ∧ ∀ reviews row, ∃ v,
      Bound.holds? reviews row ⟨c, []⟩ = some v ∧
        (v = true ↔ (row.card.queue = 2 ∨ row.card.queue = 3) ∧ row.card.due ≤ 7) := by
  have hfound : comparison? [] "dUe<=-3".toList = some ("dUe".toList, .le, "-3".toList) := by decide
  have hease : ∀ name rel right, Cut "dUe<=-3".toList name rel right →
      Text.lower (String.ofList name) ≠ "ease" := by
    intro name rel right hcut
    obtain ⟨rfl, -, -⟩ := hcut.unique (comparison?_iff.mp ⟨by decide, hfound⟩)
    decide +kernel
  have hq : Compares ⟨10, 864000⟩ "dUe<=-3".toList ⟨"dUe".toList, .due, .le, "-3".toList, -3⟩ :=
    ⟨by decide, by decide +kernel, read?_eq_some.mp (by decide), fun _ => by decide⟩
  obtain ⟨-, -, hmeets, -⟩ := property_reads hease
  exact ⟨hease, hmeets _ hq⟩

end Query

end CardQuery
