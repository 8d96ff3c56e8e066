import CardQuery.Pattern.Substitution
import Mathlib.Data.List.Basic

/-!
Where the characters of a text come from in which matches have been replaced: from the text itself, or
from what is put in for a match, which in turn may quote groups of the match.
-/

namespace CardQuery.Pattern

structure Place.Only (P : Char → Prop) (p : Place) : Prop where
  rest : ∀ c ∈ p.rest, P c
  groups : ∀ g ∈ p.groups, ∀ c ∈ g.2, P c

def Keeps (I : Place → Prop) (round : Place → List Place) : Prop := ∀ p, I p → ∀ q ∈ round p, I q

namespace Place

lemma mem_of_mem_distinct {seen : ℕ} {ps : List Place} {q : Place} (h : q ∈ distinct seen ps) :
    q ∈ ps := by
  induction ps generalizing seen with
  | nil => exact h
  | cons p ps ih =>
    rw [distinct] at h
    split at h
    · exact List.mem_cons_of_mem _ (ih h)
    · rcases List.mem_cons.mp h with rfl | h
      · exact List.mem_cons_self
      · exact List.mem_cons_of_mem _ (ih h)

variable {P : Char → Prop}

lemma only_start {before : Option Char} {s : List Char} (h : ∀ c ∈ s, P c) :
    (start before s).Only P :=
  ⟨h, by simp [start]⟩

lemma keeps_pass? (s : CharSet) : Keeps (Only P) (·.pass? s) := by
  intro p hp q hq
  simp only [pass?] at hq
  split at hq
  · cases hq
  · next c r hrest =>
    split at hq
    · obtain rfl := List.mem_singleton.mp hq
      refine ⟨fun d hd => hp.rest d ?_, hp.groups⟩
      rw [hrest]
      exact List.mem_cons_of_mem _ hd
    · cases hq

lemma Only.record {s p : Place} (hs : s.Only P) (hp : p.Only P) (index : ℕ) :
    (record index s p).Only P := by
  refine ⟨hp.rest, fun g hg => ?_⟩
  rcases List.mem_cons.mp hg with rfl | hg
  · intro c hc
    exact hs.rest c (List.mem_of_mem_take hc)
  · exact hp.groups g (List.mem_of_mem_filter hg)

end Place

namespace Tree

variable {I : Place → Prop} {round : Place → List Place}

def Found.All (I : Place → Prop) (f : Found) : Prop := ∀ p ∈ f.places, I p

namespace Found

variable {f : Found} {p : Place}

lemma All.add (hf : f.All I) (hp : I p) : (f.add p).All I :=
  List.forall_mem_cons.mpr ⟨hp, hf⟩

lemma All.around {greedy : Bool} {further : Found → Found} (hf : f.All I) (hp : I p)
    (hfurther : ∀ g : Found, g.All I → (further g).All I) : (f.around p greedy further).All I := by
  rw [Found.around]
  split
  · exact (hfurther f hf).add hp
  · exact hfurther _ (hf.add hp)

lemma All.foldl {further : Found → Place → Found} {ps : List Place} (hf : f.All I) (hps : ∀ p ∈ ps, I p)
    (hfurther : ∀ g : Found, g.All I → ∀ p, I p → (further g p).All I) :
    (ps.foldl further f).All I := by
  induction ps generalizing f with
  | nil => exact hf
  | cons p ps ih =>
    obtain ⟨hp, hps⟩ := List.forall_mem_cons.mp hps
    exact ih (hfurther f hf p hp) hps

end Found

lemma all_rounds (hround : Keeps I round) (greedy : Bool) (start fuel : ℕ) (f : Found) (hf : f.All I)
    (p : Place) (hp : I p) : (rounds round greedy start fuel f p).All I := by
  induction fuel generalizing f p with
  | zero => exact hf.add hp
  | succ fuel ih =>
    have hmark : (f.mark p.taken).All I := hf
    rw [rounds]
    split
    · exact hf
    · split
      · exact hmark.add hp
      · exact hmark.around hp fun g hg => hg.foldl (hround p hp) fun g hg q hq => ih g hg q hq

lemma keeps_oneOrMore (hround : Keeps I round) (greedy : Bool) : Keeps I (oneOrMore round greedy) := by
  intro p hp q hq
  have hnone : Found.none.All I := by simp [Found.All, Found.none]
  exact hnone.foldl (hround p hp) (all_rounds hround greedy _ _) q (List.mem_reverse.mp hq)

lemma all_upToRounds (hround : Keeps I round) (greedy : Bool) (width k : ℕ) (f : Found) (hf : f.All I)
    (p : Place) (hp : I p) : (upToRounds round greedy width k f p).All I := by
  induction k generalizing f p with
  | zero => exact hf.add hp
  | succ k ih =>
    have hmark : (f.mark ((k + 1) * width + p.taken)).All I := hf
    rw [upToRounds]
    split
    · exact hf
    · exact hmark.around hp fun g hg => hg.foldl (hround p hp) fun g hg q hq => ih g hg q hq

lemma keeps_atMost (hround : Keeps I round) (greedy : Bool) (k : ℕ) :
    Keeps I (atMost round greedy k) := by
  intro p hp q hq
  have hnone : Found.none.All I := by simp [Found.All, Found.none]
  exact all_upToRounds hround greedy _ k _ hnone p hp q (List.mem_reverse.mp hq)

lemma forall_exactly (hround : Keeps I round) (k : ℕ) {ps : List Place} (hps : ∀ p ∈ ps, I p) :
    ∀ q ∈ exactly round k ps, I q := by
  induction k generalizing ps with
  | zero => exact hps
  | succ k ih =>
    apply ih
    intro q hq
    obtain ⟨p, hp, hq⟩ := List.mem_flatMap.mp (Place.mem_of_mem_distinct hq)
    exact hround p (hps p hp) q hq

lemma keeps_exactly_then {more : Place → List Place} (hround : Keeps I round) (hmore : Keeps I more)
    (k : ℕ) : Keeps I fun p => Place.distinct 0 ((exactly round k [p]).flatMap more) := by
  intro p hp q hq
  obtain ⟨r, hr, hq⟩ := List.mem_flatMap.mp (Place.mem_of_mem_distinct hq)
  exact hmore r (forall_exactly hround k (by simpa using hp) r hr) q hq

theorem keeps_run (P : Char → Prop) (t : Tree) : Keeps (Place.Only P) t.run := by
  induction t with
  | empty =>
    intro p hp q hq
    obtain rfl := List.mem_singleton.mp hq
    exact hp
  | char s => exact Place.keeps_pass? s
  | look l =>
    intro p hp q hq
    rw [run] at hq
    split at hq
    · obtain rfl := List.mem_singleton.mp hq
      exact hp
    · cases hq
  | seq a b iha ihb =>
    intro p hp q hq
    obtain ⟨r, hr, hq⟩ := List.mem_flatMap.mp (Place.mem_of_mem_distinct hq)
    exact ihb r (iha p hp r hr) q hq
  | alt a b iha ihb =>
    intro p hp q hq
    rcases List.mem_append.mp (Place.mem_of_mem_distinct hq) with hq | hq
    · exact iha p hp q hq
    · exact ihb p hp q hq
  | group index a ih =>
    intro p hp q hq
    obtain ⟨r, hr, rfl⟩ := List.mem_map.mp hq
    exact hp.record (ih p hp r hr) index
  | repeated min more greedy a ih =>
    cases more with
    | none =>
      cases min with
      | zero =>
        -- No round at all is one of the ways, first or last as the pattern is greedy or not.
        intro p hp q hq
        have hq := Place.mem_of_mem_distinct hq
        have hcases : q ∈ oneOrMore a.run greedy p ∨ q = p := by
          cases greedy <;> simpa [or_comm] using hq
        rcases hcases with hq | rfl
        · exact keeps_oneOrMore ih greedy p hp q hq
        · exact hp
      | succ n => exact keeps_exactly_then ih (keeps_oneOrMore ih greedy) n
    | some k =>
      have hrun : (repeated min (some k) greedy a).run =
          fun p => Place.distinct 0 ((exactly a.run min [p]).flatMap (atMost a.run greedy k)) := by
        funext p
        cases min <;> rfl
      rw [hrun]
      exact keeps_exactly_then ih (keeps_atMost ih greedy k) min

lemma only_of_match? {P : Char → Prop} {t : Tree} {before : Option Char} {s : List Char} {p : Place}
    (hs : ∀ c ∈ s, P c) (h : t.match? before s = some p) : p.Only P :=
  keeps_run P t _ (Place.only_start hs) p (List.mem_of_mem_head? (Option.mem_def.mpr h))

end Tree

namespace Replacement

variable {P : Char → Prop}

lemma reference_ne_char (s : List Char) (c : Char) : reference s ≠ .char c := by
  unfold reference
  dsimp only
  generalize Option.filter _ _ = number
  cases number <;> simp

lemma reference?_ne_char {s : List Char} {piece : Insertion} {n : ℕ}
    (h : reference? s = some (piece, n)) (c : Char) : piece ≠ .char c := by
  have hreference : ∃ r, reference r = piece := by
    unfold reference? at h
    split at h <;> dsimp only at h <;> split at h
    all_goals grind
  obtain ⟨r, rfl⟩ := hreference
  exact reference_ne_char r c

lemma mem_pieces {c : Char} {skip : ℕ} {s : List Char} (h : Insertion.char c ∈ pieces skip s) :
    c ∈ s := by
  induction s generalizing skip with
  | nil => cases skip <;> simp [pieces] at h
  | cons d s ih =>
    cases skip with
    | succ skip => exact List.mem_cons_of_mem _ (ih h)
    | zero =>
      rw [pieces] at h
      split at h
      · rcases List.mem_cons.mp h with h | h
        · simp [Insertion.char.inj h]
        · exact List.mem_cons_of_mem _ (ih h)
      · next hd =>
        obtain rfl := not_not.mp hd
        split at h
        · rcases List.mem_cons.mp h with h | h
          · simp [Insertion.char.inj h]
          · exact List.mem_cons_of_mem _ (ih h)
        · split at h
          · next piece n hreference =>
            rcases List.mem_cons.mp h with h | h
            · exact absurd h.symm (reference?_ne_char hreference c)
            · exact List.mem_cons_of_mem _ (ih h)
          · rcases List.mem_cons.mp h with h | h
            · simp [Insertion.char.inj h]
            · exact List.mem_cons_of_mem _ (ih h)

lemma forall_groupText {groups : List (ℕ × List Char)} (h : ∀ g ∈ groups, ∀ c ∈ g.2, P c) (n : ℕ) :
    ∀ c ∈ groupText groups n, P c := by
  rw [groupText]
  cases hfind : groups.find? (·.1 == n) with
  | none => simp
  | some g => exact h g (List.mem_of_find?_eq_some hfind)

lemma forall_expand {groups : List (ℕ × List Char)} (h : ∀ g ∈ groups, ∀ c ∈ g.2, P c)
    (names : List (String × ℕ)) {ps : List Insertion} (hps : ∀ c, .char c ∈ ps → P c) :
    ∀ c ∈ expand names groups ps, P c := by
  intro c hc
  obtain ⟨piece, hpiece, hc⟩ := List.mem_flatMap.mp hc
  cases piece with
  | char d =>
    obtain rfl := List.mem_singleton.mp hc
    exact hps c hpiece
  | number n => exact forall_groupText h n c hc
  | name s =>
    simp only at hc
    cases hname : names.find? (·.1 == s) with
    | none => simp [hname] at hc
    | some p =>
      simp only [hname, Option.map_some, Option.getD_some] at hc
      exact forall_groupText h p.2 c hc

end Replacement

section Substitution

variable {P : Char → Prop} {t : Tree} {insert : List (ℕ × List Char) → List Char}

lemma forall_replaceFrom
    (hinsert : ∀ groups, (∀ g ∈ groups, ∀ c ∈ g.2, P c) → ∀ c ∈ insert groups, P c)
    (skip : ℕ) (ended : Bool) (before : Option Char) {s : List Char} (hs : ∀ c ∈ s, P c) :
    ∀ c ∈ replaceFrom t insert skip ended before s, P c := by
  induction s generalizing skip ended before with
  | nil =>
    rw [replaceFrom]
    split
    · cases hmatch : t.match? before [] with
      | none => simp
      | some p =>
        have hp := Tree.only_of_match? hs hmatch
        exact hinsert _ (List.forall_mem_cons.mpr ⟨by simp, hp.groups⟩)
    · simp
  | cons d s ih =>
    obtain ⟨hd, hrest⟩ := List.forall_mem_cons.mp hs
    cases skip with
    | succ skip => exact ih skip ended (some d) hrest
    | zero =>
      have hkept := List.forall_mem_cons.mpr ⟨hd, ih 0 false (some d) hrest⟩
      simp only [replaceFrom]
      cases hmatch : t.match? before (d :: s) with
      | none => exact hkept
      | some p =>
        have hp := Tree.only_of_match? hs hmatch
        have hmatched (n : ℕ) : ∀ c ∈ insert ((0, (d :: s).take n) :: p.groups), P c :=
          hinsert _ (List.forall_mem_cons.mpr ⟨fun c hc => hs c (List.mem_of_mem_take hc), hp.groups⟩)
        cases htaken : p.taken with
        | zero =>
          simp only [htaken]
          refine List.forall_mem_append.mpr ⟨?_, hkept⟩
          cases ended with
          | false => exact hmatched 0
          | true => simp
        | succ n =>
          simp only [htaken]
          exact List.forall_mem_append.mpr ⟨hmatched (n + 1), ih n true (some d) hrest⟩

theorem forall_replaceAll
    (hinsert : ∀ groups, (∀ g ∈ groups, ∀ c ∈ g.2, P c) → ∀ c ∈ insert groups, P c)
    {s : List Char} (hs : ∀ c ∈ s, P c) : ∀ c ∈ replaceAll t insert s, P c :=
  forall_replaceFrom hinsert 0 false none hs

end Substitution

end CardQuery.Pattern
