import CardQuery.Pattern.Substitution
import CardQuery.Proofs.Pattern.Globbing

/-!
Escaped texts as patterns. Any text can be read once it is escaped, and what is read matches the text and
nothing else; replacing its matches is replacing the occurrences of the text.
-/

namespace CardQuery.Pattern

def SameChar (ignoreCase : Bool) (c d : Char) : Prop :=
  if ignoreCase then Text.foldKey c = Text.foldKey d else c = d

instance (ignoreCase : Bool) (c d : Char) : Decidable (SameChar ignoreCase c d) := by
  unfold SameChar
  infer_instance

lemma contains_literal (ignoreCase : Bool) (c d : Char) :
    (Reader.literal (.start ignoreCase) c).contains d ↔ SameChar ignoreCase c d := by
  cases ignoreCase with
  | false =>
    have hchar : (Reader.literal (.start false) c).contains d =
        (decide (c.toNat ≤ d.toNat) && decide (d.toNat ≤ c.toNat)) := rfl
    have heq : c = d ↔ c.toNat = d.toNat := Char.toNat_inj.symm
    rw [hchar, SameChar, if_neg Bool.false_ne_true, heq, Bool.and_eq_true, decide_eq_true_iff,
      decide_eq_true_iff, Nat.le_antisymm_iff]
  | true =>
    have hvariants : (Reader.literal (.start true) c).contains d =
        (Text.foldKey c == Text.foldKey d) := rfl
    rw [hvariants, SameChar, if_pos rfl, beq_iff_eq]

def Stands (ignoreCase : Bool) (source m : List Char) : Prop :=
  List.Forall₂ (SameChar ignoreCase) source m

instance (ignoreCase : Bool) (source m : List Char) : Decidable (Stands ignoreCase source m) :=
  inferInstanceAs (Decidable (List.Forall₂ _ source m))

def Begins (ignoreCase : Bool) (source s : List Char) : Prop :=
  ∃ m t, s = m ++ t ∧ Stands ignoreCase source m

lemma begins_iff_take {ignoreCase : Bool} {source s : List Char} :
    Begins ignoreCase source s ↔ Stands ignoreCase source (s.take source.length) := by
  constructor
  · rintro ⟨m, t, rfl, hm⟩
    rwa [hm.length_eq, List.take_left]
  · intro h
    exact ⟨_, _, (List.take_append_drop source.length s).symm, h⟩

instance (ignoreCase : Bool) (source s : List Char) : Decidable (Begins ignoreCase source s) :=
  decidable_of_iff _ begins_iff_take.symm

section Reading

def literalTree (f : Flags) : List Char → Tree
  | [] => .empty
  | [c] => .char (Reader.literal f c)
  | c :: d :: s => .seq (.char (Reader.literal f c)) (literalTree f (d :: s))

def literalItems (f : Flags) (source : List Char) : List Reader.Item :=
  (source.map fun c => .part (.char (Reader.literal f c)) 0).reverse

variable {f : Flags} {source : List Char}

lemma read?_escaped {p : Reader.Progress} (hspace : p.flags.ignoreSpace = false)
    (houtside : p.outside = []) {fuel : ℕ} (hfuel : (source.flatMap escaped).length < fuel) :
    Reader.read? fuel p (source.flatMap escaped) =
      some { p with items := literalItems p.flags source ++ p.items } := by
  induction source generalizing p fuel with
  | nil =>
    obtain ⟨fuel, rfl⟩ : ∃ n, fuel = n + 1 := ⟨fuel - 1, by simp at hfuel; omega⟩
    exact Reader.read?_end hspace houtside
  | cons c s ih =>
    rw [List.flatMap_cons] at hfuel ⊢
    rw [List.length_append] at hfuel
    have hsome : 0 < (escaped c).length := by
      rw [escaped]
      split <;> simp
    obtain ⟨fuel, rfl⟩ : ∃ n, fuel = n + 1 := ⟨fuel - 1, by omega⟩
    rw [Reader.read?_step hspace (Reader.step?_escaped _),
      ih (p := Reader.add p _ _) hspace houtside (by omega)]
    simp [literalItems, Reader.add]

lemma literalTree_append (s : List Char) (c : Char) : literalTree f (s ++ [c]) =
    s.foldr (fun d t => .seq (.char (Reader.literal f d)) t) (.char (Reader.literal f c)) := by
  induction s with
  | nil => rfl
  | cons d s ih =>
    rw [List.foldr_cons, ← ih]
    cases s <;> rfl

lemma branch_literalItems (source : List Char) :
    (Reader.branch (literalItems f source)).1 = literalTree f source ∧
      (Reader.branch (literalItems f source)).2 ≤ 1 := by
  have hparts : Reader.parts (literalItems f source) =
      (source.map fun c => (.char (Reader.literal f c), 0)).reverse := by
    simp [literalItems, Reader.parts, List.filterMap_map]
  have hflat : ∀ q ∈ Reader.parts (literalItems f source), q.2 ≤ 0 := by
    rw [hparts]
    simp
  rw [Reader.branch]
  cases source using List.reverseRecOn with
  | nil => exact ⟨rfl, Nat.zero_le 1⟩
  | append_singleton s c =>
    rw [List.map_append, List.map_singleton, List.reverse_append, List.reverse_singleton,
      List.singleton_append] at hparts
    rw [hparts] at hflat ⊢
    cases s with
    | nil => exact ⟨rfl, Nat.zero_le 1⟩
    | cons d s =>
      rw [Reader.combine_of_two (by simp), literalTree_append]
      constructor
      · simp [List.foldr_map]
      · exact Nat.succ_le_succ (Reader.maxDepth_le hflat)

theorem readUnder?_escape (hspace : f.ignoreSpace = false) (text : String) :
    Regex.readUnder? f (escape text) =
      if Reader.heaviest < (literalTree f text.toList).weight then none
      else some ⟨literalTree f text.toList, []⟩ := by
  obtain ⟨htree, hdepth⟩ := branch_literalItems (f := f) text.toList
  have hread : Reader.read? ((escape text).toList.length + 1) ⟨[], f, [], [], 0, []⟩
      (escape text).toList = some ⟨[], f, [], literalItems f text.toList, 0, []⟩ := by
    rw [escape, String.toList_ofList, read?_escaped hspace rfl (Nat.lt_succ_self _)]
    simp
  rw [readUnder?_of_read? hread (Nat.le_trans hdepth (by decide)), htree]

end Reading

section Matching

variable {ignoreCase : Bool} {source s t : List Char} {p : Place}

lemma run_literalTree_next {c d : Char} (hrest : p.rest = d :: t) (h : SameChar ignoreCase c d) :
    (literalTree (.start ignoreCase) (c :: s)).run p = Place.distinct 0
      ((literalTree (.start ignoreCase) s).run
        { p with before := some d, rest := t, taken := p.taken + 1 }) := by
  have hrun := Tree.run_char_next hrest ((contains_literal ignoreCase c d).mpr h)
  cases s with
  | nil => exact hrun.trans (Place.distinct_singleton _).symm
  | cons e s => rw [literalTree, Tree.run, hrun, List.flatMap_singleton]

lemma run_literalTree_stop {c : Char}
    (h : (Tree.char (Reader.literal (.start ignoreCase) c)).run p = []) :
    (literalTree (.start ignoreCase) (c :: s)).run p = [] := by
  cases s with
  | nil => exact h
  | cons e s =>
    rw [literalTree, Tree.run, h]
    rfl

lemma run_of_stands {m : List Char} (h : Stands ignoreCase source m) (hrest : p.rest = m ++ t) :
    ∃ q, (literalTree (.start ignoreCase) source).run p = [q] ∧ q.taken = p.taken + m.length := by
  induction h generalizing p with
  | nil => exact ⟨p, rfl, rfl⟩
  | @cons c d source m hsame _ ih =>
    obtain ⟨q, hrun, htaken⟩ := ih (p := ⟨some d, m ++ t, p.taken + 1, p.groups⟩) rfl
    refine ⟨q, ?_, ?_⟩
    · rw [run_literalTree_next hrest hsame]
      exact (congrArg (Place.distinct 0) hrun).trans (Place.distinct_singleton q)
    · rw [htaken, List.length_cons, Nat.add_assoc, Nat.add_comm 1]

lemma run_of_not_begins (h : ¬Begins ignoreCase source p.rest) :
    (literalTree (.start ignoreCase) source).run p = [] := by
  induction source generalizing p with
  | nil => exact absurd ⟨[], p.rest, rfl, .nil⟩ h
  | cons c source ih =>
    cases hrest : p.rest with
    | nil => exact run_literalTree_stop (Tree.run_char_end hrest)
    | cons d t =>
      by_cases hsame : SameChar ignoreCase c d
      · have hbehind : ¬Begins ignoreCase source t := by
          rintro ⟨m, u, rfl, hm⟩
          exact h ⟨d :: m, u, hrest, .cons hsame hm⟩
        rw [run_literalTree_next hrest hsame, ih hbehind]
        rfl
      · apply run_literalTree_stop
        apply Tree.run_char_stop hrest
        rwa [← Bool.not_eq_true, contains_literal]

lemma match?_of_stands {m : List Char} (h : Stands ignoreCase source m) (before : Option Char) :
    ∃ q, (literalTree (.start ignoreCase) source).match? before (m ++ t) = some q ∧
      q.taken = m.length := by
  obtain ⟨q, hrun, htaken⟩ := run_of_stands (p := .start before (m ++ t)) h rfl
  refine ⟨q, ?_, htaken.trans (Nat.zero_add _)⟩
  rw [Tree.match?, hrun]
  rfl

lemma match?_of_not_begins (h : ¬Begins ignoreCase source s) (before : Option Char) :
    (literalTree (.start ignoreCase) source).match? before s = none := by
  rw [Tree.match?, run_of_not_begins h]
  rfl

end Matching

section Replacing

/-- `Scanned ignoreCase source rep s r`: scanning `s` from the left, `r` has `rep` in place of each
occurrence of the source that does not overlap the one before. -/
inductive Scanned (ignoreCase : Bool) (source rep : List Char) : List Char → List Char → Prop
  | done : Scanned ignoreCase source rep [] []
  | keep {c s r} : ¬Begins ignoreCase source (c :: s) → Scanned ignoreCase source rep s r →
      Scanned ignoreCase source rep (c :: s) (c :: r)
  | swap {m s r} : Stands ignoreCase source m → Scanned ignoreCase source rep s r →
      Scanned ignoreCase source rep (m ++ s) (rep ++ r)

def Substituted (ignoreCase : Bool) (source rep s r : List Char) : Prop :=
  if source = [] then r = rep ++ s.flatMap (· :: rep) else Scanned ignoreCase source rep s r

variable {ignoreCase : Bool} {source rep s r : List Char}

lemma exists_scanned (hsource : source ≠ []) (s : List Char) :
    ∃ r, Scanned ignoreCase source rep s r := by
  induction hn : s.length using Nat.strong_induction_on generalizing s with
  | h n ih =>
    cases s with
    | nil => exact ⟨[], .done⟩
    | cons c t =>
      by_cases hbegins : Begins ignoreCase source (c :: t)
      · obtain ⟨m, u, heq, hm⟩ := hbegins
        have hpos : 0 < m.length := by
          rw [← hm.length_eq]
          exact List.length_pos_iff.mpr hsource
        have hlength := congrArg List.length heq
        rw [List.length_append, hn] at hlength
        obtain ⟨r, hr⟩ := ih u.length (by omega) u rfl
        exact ⟨rep ++ r, heq ▸ .swap hm hr⟩
      · obtain ⟨r, hr⟩ := ih t.length (by rw [← hn]; exact Nat.lt_succ_self _) t rfl
        exact ⟨c :: r, .keep hbegins hr⟩

lemma replaceFrom_covered (t : Tree) (insert : List (ℕ × List Char) → List Char) (ended : Bool)
    (m s : List Char) (before : Option Char) : ∃ before',
      replaceFrom t insert m.length ended before (m ++ s) = replaceFrom t insert 0 ended before' s := by
  induction m generalizing before with
  | nil => exact ⟨before, rfl⟩
  | cons c m ih => exact ih (some c)

lemma not_begins_nil (hsource : source ≠ []) : ¬Begins ignoreCase source [] := by
  rintro ⟨m, t, heq, hm⟩
  obtain ⟨rfl, -⟩ := List.append_eq_nil_iff.mp heq.symm
  exact hsource (List.forall₂_nil_right_iff.mp hm)

lemma replaceFrom_of_scanned (hsource : source ≠ []) (h : Scanned ignoreCase source rep s r)
    (ended : Bool) (before : Option Char) :
    replaceFrom (literalTree (.start ignoreCase) source) (fun _ => rep) 0 ended before s = r := by
  induction h generalizing ended before with
  | done => simp [replaceFrom, match?_of_not_begins (not_begins_nil hsource)]
  | keep hbegins _ ih => simp [replaceFrom, match?_of_not_begins hbegins, ih]
  | @swap m s r hm _ ih =>
    cases m with
    | nil => exact absurd (List.forall₂_nil_right_iff.mp hm) hsource
    | cons d m =>
      obtain ⟨q, hmatch, htaken⟩ := match?_of_stands (t := s) hm before
      obtain ⟨before', hcovered⟩ := replaceFrom_covered (literalTree (.start ignoreCase) source)
        (fun _ => rep) true m s (some d)
      rw [List.cons_append] at hmatch ⊢
      simp only [replaceFrom, hmatch, htaken, List.length_cons]
      rw [hcovered, ih]

lemma replaceFrom_empty (before : Option Char) (s : List Char) :
    replaceFrom .empty (fun _ => rep) 0 false before s = rep ++ s.flatMap (· :: rep) := by
  have hmatch (before : Option Char) (s : List Char) :
      Tree.empty.match? before s = some (.start before s) := rfl
  induction s generalizing before with
  | nil => simp [replaceFrom, hmatch]
  | cons c s ih => simp [replaceFrom, hmatch, Place.start, ih]

theorem replaceAll_literalTree : replaceAll (literalTree (.start ignoreCase) source) (fun _ => rep) s = r ↔
    Substituted ignoreCase source rep s r := by
  rw [Substituted, replaceAll]
  split
  · next hsource =>
    subst hsource
    rw [literalTree, replaceFrom_empty, eq_comm]
  · next hsource =>
    constructor
    · rintro rfl
      obtain ⟨r, hr⟩ : ∃ r, Scanned ignoreCase source rep s r := exists_scanned hsource s
      rwa [replaceFrom_of_scanned hsource hr]
    · intro h
      exact replaceFrom_of_scanned hsource h false none

end Replacing

end CardQuery.Pattern
