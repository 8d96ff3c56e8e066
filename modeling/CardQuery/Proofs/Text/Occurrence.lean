import CardQuery.Proofs.Text.Like
import CardQuery.Proofs.Text.Split
import Mathlib.Data.List.Infix

namespace CardQuery

namespace Text

variable {sep : Char} {v : List Char}

lemma forall_of_all {P : Char → Prop} [DecidablePred P] {s : List Char} (h : s.all (P ·)) :
    ∀ c ∈ s, P c := by
  simpa using h

lemma infix_between {x y s : List Char} :
    x ++ v ++ y <:+: s ↔ ∃ l r, s = l ++ v ++ r ∧ x <:+ l ∧ y <+: r := by
  constructor
  · rintro ⟨l, r, rfl⟩
    exact ⟨l ++ x, y ++ r, by simp, List.suffix_append l x, List.prefix_append y r⟩
  · rintro ⟨l, r, rfl, ⟨l', rfl⟩, ⟨r', rfl⟩⟩
    exact ⟨l', r', by simp⟩

lemma append_cons_eq_append {a b l r : List Char} (hv : sep ∉ v) (h : a ++ sep :: b = l ++ v ++ r) :
    (∃ r', a = l ++ v ++ r' ∧ r = r' ++ sep :: b) ∨ ∃ l', l = a ++ sep :: l' ∧ b = l' ++ v ++ r := by
  rcases List.append_eq_append_iff.mp h with ⟨s, hlv, hr⟩ | ⟨s, ha, hr⟩
  · cases s with
    | nil => exact Or.inl ⟨[], by simpa using hlv.symm, by simpa using hr.symm⟩
    | cons c s =>
      obtain ⟨rfl, rfl⟩ := List.cons_eq_cons.mp hr
      rcases List.append_eq_append_iff.mp hlv with ⟨u, -, hv'⟩ | ⟨u, hl, hu⟩
      · exact absurd (hv' ▸ List.mem_append_right u List.mem_cons_self) hv
      · cases u with
        | nil => exact absurd (List.mem_of_mem_head? (congrArg List.head? hu.symm)) hv
        | cons d u =>
          obtain ⟨rfl, rfl⟩ := List.cons_eq_cons.mp hu
          exact Or.inr ⟨u, hl, rfl⟩
  · exact Or.inl ⟨s, ha, hr⟩

lemma infix_append_cons (hv : sep ∉ v) (a b : List Char) :
    v <:+: a ++ sep :: b ↔ v <:+: a ∨ v <:+: b := by
  constructor
  · rintro ⟨l, r, h⟩
    rcases append_cons_eq_append hv h.symm with ⟨r', rfl, -⟩ | ⟨l', -, rfl⟩
    · exact Or.inl ⟨l, r', rfl⟩
    · exact Or.inr ⟨l', r, rfl⟩
  · rintro (h | h)
    · exact h.trans (List.prefix_append a _).isInfix
    · exact h.trans ((List.suffix_cons sep b).trans (List.suffix_append a _)).isInfix

lemma infix_joinWith (hv : sep ∉ v) {ps : List (List Char)} (hne : ps ≠ []) :
    v <:+: joinWith sep ps ↔ ∃ p ∈ ps, v <:+: p := by
  induction ps with
  | nil => exact absurd rfl hne
  | cons p ps ih =>
    by_cases hnil : ps = []
    · simp [hnil, joinWith, List.intercalate]
    · rw [joinWith_cons _ _ hnil, infix_append_cons hv, ih hnil, List.exists_mem_cons_iff]

lemma joinWith_append_singleton {ps : List (List Char)} (hne : ps ≠ []) :
    joinWith sep ps ++ [sep] = ps.flatMap (· ++ [sep]) := by
  induction ps with
  | nil => exact absurd rfl hne
  | cons p ps ih =>
    by_cases hnil : ps = []
    · simp [hnil, joinWith, List.intercalate]
    · simp [joinWith_cons _ _ hnil, ← ih hnil]

def edge (sep : Char) (isOpen : Bool) : List Char := if isOpen then [] else [sep]

lemma edge_isSuffix_iff {left : Bool} {a : List Char} (ha : sep ∉ a) :
    edge sep left <:+ sep :: a ↔ a = [] ∨ left := by
  cases left with
  | true => simp [edge]
  | false =>
    have hnot : ¬[sep] <:+ a := fun h => ha (h.subset List.mem_cons_self)
    simp [edge, List.suffix_cons_iff, hnot, eq_comm]

lemma edge_isPrefix_iff {right : Bool} {b s : List Char} (hb : sep ∉ b) :
    edge sep right <+: b ++ sep :: s ↔ b = [] ∨ right := by
  cases right with
  | true => simp [edge]
  | false =>
    cases b with
    | nil => simp [edge]
    | cons c b =>
      have hne : sep ≠ c := fun h => hb (h ▸ List.mem_cons_self)
      simp [edge, hne]

lemma infix_word_append (hne : v ≠ []) (hv : sep ∉ v) {w : List Char} (hw : sep ∉ w) (rest : List Char)
    (left right : Bool) :
    edge sep left ++ v ++ edge sep right <:+: sep :: (w ++ sep :: rest) ↔
      (∃ a b, w = a ++ v ++ b ∧ (a = [] ∨ left) ∧ (b = [] ∨ right)) ∨
        edge sep left ++ v ++ edge sep right <:+: sep :: rest := by
  rw [infix_between, infix_between]
  constructor
  · rintro ⟨l, r, h, hleft, hright⟩
    rcases append_cons_eq_append (a := []) hv h with ⟨r', hr', -⟩ | ⟨a, rfl, ha⟩
    · exact absurd (List.append_eq_nil_iff.mp (List.append_eq_nil_iff.mp hr'.symm).1).2 hne
    rcases append_cons_eq_append hv ha with ⟨b, rfl, rfl⟩ | ⟨l', rfl, hrest⟩
    · simp only [List.mem_append, not_or] at hw
      exact Or.inl ⟨a, b, rfl, (edge_isSuffix_iff hw.1.1).mp hleft, (edge_isPrefix_iff hw.2).mp hright⟩
    · refine Or.inr ⟨sep :: l', r, by simp [hrest], ?_, hright⟩
      apply List.suffix_of_suffix_length_le hleft (List.suffix_append (sep :: w) (sep :: l'))
      cases left <;> simp [edge]
  · rintro (⟨a, b, rfl, hleft, hright⟩ | ⟨l, r, h, hleft, hright⟩)
    · simp only [List.mem_append, not_or] at hw
      exact ⟨sep :: a, b ++ sep :: rest, by simp, (edge_isSuffix_iff hw.1.1).mpr hleft,
        (edge_isPrefix_iff hw.2).mpr hright⟩
    · refine ⟨sep :: w ++ l, r, ?_, hleft.trans (List.suffix_append _ l), hright⟩
      simp only [h, List.cons_append, List.append_assoc]

lemma infix_words (hne : v ≠ []) (hv : sep ∉ v) {ws : List (List Char)} (hws : ∀ w ∈ ws, sep ∉ w)
    (left right : Bool) :
    edge sep left ++ v ++ edge sep right <:+: sep :: ws.flatMap (· ++ [sep]) ↔
      ∃ w ∈ ws, ∃ a b, w = a ++ v ++ b ∧ (a = [] ∨ left) ∧ (b = [] ∨ right) := by
  induction ws with
  | nil =>
    simp only [List.flatMap_nil, List.not_mem_nil, false_and, exists_false, iff_false]
    intro h
    obtain ⟨c, s, rfl⟩ := List.exists_cons_of_ne_nil hne
    have hc : c ∈ [sep] := h.subset (by simp)
    exact hv (List.mem_singleton.mp hc ▸ List.mem_cons_self)
  | cons w ws ih =>
    obtain ⟨hw, hws⟩ := List.forall_mem_cons.mp hws
    rw [List.flatMap_cons, List.append_assoc w, List.singleton_append, infix_word_append hne hv hw, ih hws,
      List.exists_mem_cons_iff]

/-- `InOrder ps s`: the pieces stand in the text one behind the other and do not overlap. -/
inductive InOrder : List (List Char) → List Char → Prop
  | nil (s : List Char) : InOrder [] s
  | cons {p ps s} (gap : List Char) : InOrder ps s → InOrder (p :: ps) (gap ++ p ++ s)

lemma inOrder_cons {p : List Char} {ps : List (List Char)} {s : List Char} :
    InOrder (p :: ps) s ↔ ∃ gap t, s = gap ++ p ++ t ∧ InOrder ps t := by
  constructor
  · rintro (_ | ⟨gap, h⟩)
    exact ⟨gap, _, rfl, h⟩
  · rintro ⟨gap, t, rfl, h⟩
    exact .cons gap h

lemma inOrder_singleton {p s : List Char} : InOrder [p] s ↔ p <:+: s := by
  rw [inOrder_cons]
  constructor
  · rintro ⟨gap, t, rfl, -⟩
    exact ⟨gap, t, rfl⟩
  · rintro ⟨gap, t, rfl⟩
    exact ⟨gap, t, rfl, .nil t⟩

end Text

namespace Like

open Wild (Matches)
open Text (InOrder joinWith joinWith_cons)

/-- A text as LIKE compares it: ASCII letters in lower case, the characters that LIKE cannot read as their
replacement, and all others as they are. -/
def folded (s : List Char) : List Char := s.map fun c => (read c).toLower

lemma folded_append (s t : List Char) : folded (s ++ t) = folded s ++ folded t := List.map_append

lemma folded_eq_append {s u w : List Char} :
    folded s = u ++ w ↔ ∃ a b, s = a ++ b ∧ folded a = u ∧ folded b = w := List.map_eq_append_iff

lemma folded_joinWith {sep : Char} (hsep : (read sep).toLower = sep) (ps : List (List Char)) :
    folded (joinWith sep ps) = joinWith sep (ps.map folded) := by
  induction ps with
  | nil => rfl
  | cons p ps ih =>
    by_cases hnil : ps = []
    · simp [hnil, joinWith, List.intercalate]
    · rw [joinWith_cons _ _ hnil, List.map_cons, joinWith_cons _ _ (by simpa using hnil), ← ih]
      simp [folded, hsep]

lemma notMem_folded {sep : Char} (hsep : ∀ c, (read c).toLower = sep → c = sep) {s : List Char}
    (h : sep ∉ s) : sep ∉ folded s := by
  intro hmem
  obtain ⟨c, hc, heq⟩ := List.mem_map.mp hmem
  exact h (hsep c heq ▸ hc)

lemma matches_literal {p s : List Char} :
    Matches alphabet (p.map .lit) s ↔ folded s = folded p := by
  induction p generalizing s with
  | nil => simp [Wild.matches_nil, folded]
  | cons d p ih =>
    have hsame (c : Char) : alphabet.same d c ↔ (read c).toLower = (read d).toLower :=
      same_iff.trans eq_comm
    simp only [List.map_cons, Wild.matches_lit, ih, hsame, folded, List.map_eq_cons_iff]

lemma matches_pieces {ps : List (List Char)} {s : List Char} :
    Matches alphabet (.run :: ps.flatMap fun p => p.map .lit ++ [.run]) s ↔
      InOrder (ps.map folded) (folded s) := by
  have hfree (r : List Char) : ∀ c ∈ r, alphabet.free c := fun _ _ => rfl
  induction ps generalizing s with
  | nil =>
    refine iff_of_true (Wild.matches_run.mpr ⟨s, [], by simp, hfree s, .nil⟩) (.nil _)
  | cons p ps ih =>
    rw [List.flatMap_cons, List.append_assoc, List.singleton_append, Wild.matches_run, List.map_cons,
      Text.inOrder_cons]
    simp only [Wild.matches_append, matches_literal, ih]
    constructor
    · rintro ⟨gap, _, rfl, -, m, t, rfl, hm, ht⟩
      exact ⟨folded gap, folded t, by simp [folded_append, hm], ht⟩
    · rintro ⟨gap, t, hs, ht⟩
      rw [List.append_assoc] at hs
      obtain ⟨l, s', rfl, -, hs'⟩ := folded_eq_append.mp hs
      obtain ⟨m, r, rfl, hm, rfl⟩ := folded_eq_append.mp hs'
      exact ⟨l, m ++ r, rfl, hfree l, m, r, rfl, hm, ht⟩

variable {escape : Option Char}

lemma places_eq {s : List Char} (h : ∀ c ∈ s, some c ≠ escape) : places escape s = some (s.map place) := by
  induction s with
  | nil => simp [places]
  | cons c s ih =>
    obtain ⟨hc, hs⟩ := List.forall_mem_cons.mp h
    simp [places_cons hc, ih hs]

lemma map_place {p : List Char} (h : ∀ c ∈ p, c ≠ '%' ∧ c ≠ '_') : p.map place = p.map .lit := by
  apply List.map_congr_left
  intro c hc
  simp [place, h c hc]

theorem accepts_pieces {ps : List (List Char)} {s : List Char}
    (hps : ∀ p ∈ ps, ∀ c ∈ p, c ∉ ['%', '_', '\x00'] ∧ some c ≠ escape) (hescape : escape ≠ some '%')
    (hs : '\x00' ∉ s) :
    accepts escape ('%' :: ps.flatMap (· ++ ['%'])) s ↔ InOrder (ps.map folded) (folded s) := by
  have hmem {c : Char} (hc : c ∈ '%' :: ps.flatMap (· ++ ['%'])) : c = '%' ∨ ∃ p ∈ ps, c ∈ p := by
    simp only [List.mem_cons, List.mem_flatMap, List.mem_append, List.not_mem_nil, or_false] at hc
    grind
  have hnul : '\x00' ∉ '%' :: ps.flatMap (· ++ ['%']) := by
    intro h
    rcases hmem h with h | ⟨p, hp, h⟩
    · exact absurd h (by decide)
    · exact (hps p hp _ h).1 (by decide)
  have hplain : ∀ c ∈ '%' :: ps.flatMap (· ++ ['%']), some c ≠ escape := by
    intro c hc
    rcases hmem hc with rfl | ⟨p, hp, hc⟩
    · exact hescape.symm
    · exact (hps p hp c hc).2
  have hplaces : ('%' :: ps.flatMap (· ++ ['%'])).map place =
      .run :: ps.flatMap fun p => p.map .lit ++ [.run] := by
    rw [List.map_cons, List.map_flatMap]
    congr 1
    apply List.flatMap_congr
    intro p hp
    rw [List.map_append, map_place fun c hc => ?_]
    · rfl
    · have h := (hps p hp c hc).1
      simp only [List.mem_cons, not_or] at h
      exact ⟨h.1, h.2.1⟩
  rw [accepts, untilNul_eq hnul, untilNul_eq hs, places_eq hplain, hplaces]
  exact (Wild.accepts_iff ..).trans matches_pieces

end Like

end CardQuery
