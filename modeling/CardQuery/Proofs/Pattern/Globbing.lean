import CardQuery.Pattern.Reader
import CardQuery.Proofs.Pattern.Provenance
import CardQuery.Proofs.Text.Wildcard
import Mathlib.Data.List.Infix

/-!
Globs as patterns. A glob is written with every character escaped that has a meaning of its own, so
that it can always be read, and what is read finds what the glob accepts.
-/

namespace CardQuery.Pattern

namespace Reader

variable {p : Progress} {c : Char}

lemma read?_step {fuel : ℕ} {q : Progress} {s r : List Char} (hspace : p.flags.ignoreSpace = false)
    (h : step? p s = some (q, r)) : read? (fuel + 1) p s = read? fuel q r := by
  cases s with
  | nil => simp [step?] at h
  | cons c s => simp [read?, Flags.skip, hspace, h]

lemma read?_end {fuel : ℕ} (hspace : p.flags.ignoreSpace = false) (houtside : p.outside = []) :
    read? (fuel + 1) p [] = some p := by
  simp [read?, Flags.skip, hspace, houtside]

lemma step?_plain (h : isMeta c = false) (s : List Char) :
    step? p (c :: s) = some (add p (.char (literal p.flags c)) 0, s) := by
  simp only [step?]
  split <;> first | rfl | simp [isMeta] at h

lemma escape?_isMeta {f : Flags} (h : isMeta c) (s : List Char) :
    escape? f (c :: s) = some (.char c false, s) := by
  have hmem : c ∈ ['\\', '.', '+', '*', '?', '(', ')', '|', '[', ']', '\x7b', '\x7d', '^', '$', '#',
      '&', '-', '~'] := List.contains_iff_mem.mp h
  simp only [List.mem_cons, List.not_mem_nil, or_false] at hmem
  rcases hmem with rfl | rfl | rfl | rfl | rfl | rfl | rfl | rfl | rfl | rfl | rfl | rfl | rfl | rfl |
    rfl | rfl | rfl | rfl <;> rfl

lemma step?_escaped (s : List Char) :
    step? p (escaped c ++ s) = some (add p (.char (literal p.flags c)) 0, s) := by
  rw [escaped]
  split
  · next h =>
    have hatom : atomTree? p.flags (.char c false) = some (.char (literal p.flags c)) := rfl
    simp [step?, escape?_isMeta h, hatom]
  · next h => exact step?_plain (by simpa using h) s

lemma maxDepth_le {n : ℕ} {ps : List (Tree × ℕ)} (h : ∀ q ∈ ps, q.2 ≤ n) : maxDepth ps ≤ n := by
  suffices ∀ d ≤ n, ps.foldl (fun d q => max d q.2) d ≤ n from this 0 (Nat.zero_le n)
  induction ps with
  | nil => exact fun d hd => hd
  | cons q ps ih =>
    obtain ⟨hq, hps⟩ := List.forall_mem_cons.mp h
    exact fun d hd => ih hps _ (Nat.max_le.mpr ⟨hd, hq⟩)

lemma combine_of_two {unit : Tree} {op : Tree → Tree → Tree} {ps : List (Tree × ℕ)} (h : ps ≠ [])
    (q : Tree × ℕ) : combine unit op (q :: ps) =
      (ps.foldl (fun t q => op q.1 t) q.1, maxDepth (q :: ps) + 1) := by
  cases ps with
  | nil => exact absurd rfl h
  | cons r ps => rfl

end Reader

namespace Place

variable {ps : List Place}

lemma exists_mem_distinct {seen : ℕ} {q : Place} (h : q ∈ ps) (hseen : seen.testBit q.taken = false) :
    ∃ r ∈ distinct seen ps, r.taken = q.taken := by
  induction ps generalizing seen with
  | nil => cases h
  | cons p ps ih =>
    by_cases hp : p.taken = q.taken
    · exact ⟨p, by simp [distinct, hp, hseen], hp⟩
    · have hq : q ∈ ps := by
        rcases List.mem_cons.mp h with rfl | hq
        · exact absurd rfl hp
        · exact hq
      rw [distinct]
      split
      · exact ih hq hseen
      · have hmark : (seen ||| 1 <<< p.taken).testBit q.taken = false := by
          simp [Nat.testBit_or, hseen, Nat.one_shiftLeft, hp]
        obtain ⟨r, hr, htaken⟩ := ih hq hmark
        exact ⟨r, List.mem_cons_of_mem _ hr, htaken⟩

lemma distinct_singleton (p : Place) : distinct 0 [p] = [p] := by simp [distinct]

lemma distinct_eq_nil : distinct 0 ps = [] ↔ ps = [] := by
  cases ps with
  | nil => simp [distinct]
  | cons p ps => simp [distinct]

end Place

namespace Tree

variable {p : Place} {S : CharSet}

lemma run_seq_ne_nil {a b : Tree} : (seq a b).run p ≠ [] ↔ ∃ q ∈ a.run p, b.run q ≠ [] := by
  simp [run, Place.distinct_eq_nil]

lemma run_char_end (h : p.rest = []) : (char S).run p = [] := by simp [run, Place.pass?, h]

lemma run_char_next {c : Char} {r : List Char} (h : p.rest = c :: r) (hc : S.contains c) :
    (char S).run p = [{ p with before := some c, rest := r, taken := p.taken + 1 }] := by
  simp [run, Place.pass?, h, hc]

lemma run_char_stop {c : Char} {r : List Char} (h : p.rest = c :: r) (hc : S.contains c = false) :
    (char S).run p = [] := by
  simp [run, Place.pass?, h, hc]

lemma mem_run_char {q : Place} : q ∈ (char S).run p ↔
    ∃ c r, p.rest = c :: r ∧ S.contains c ∧
      q = { p with before := some c, rest := r, taken := p.taken + 1 } := by
  simp only [run, Place.pass?]
  cases p.rest with
  | nil => simp
  | cons c r =>
    by_cases hc : S.contains c <;> simp [hc]

lemma exists_run_char {P : List Char → Prop} : (∃ q ∈ (char S).run p, P q.rest) ↔
    ∃ c r, p.rest = c :: r ∧ S.contains c ∧ P r := by
  constructor
  · rintro ⟨q, hq, h⟩
    obtain ⟨c, r, hrest, hc, rfl⟩ := mem_run_char.mp hq
    exact ⟨c, r, hrest, hc, h⟩
  · rintro ⟨c, r, hrest, hc, h⟩
    exact ⟨_, mem_run_char.mpr ⟨c, r, hrest, hc, rfl⟩, h⟩

def Passes (S : CharSet) (s t : List Char) : Prop := ∃ r, s = r ++ t ∧ ∀ c ∈ r, S.contains c

lemma passes_nil {t : List Char} : Passes S [] t ↔ t = [] := by
  constructor
  · rintro ⟨r, hr, -⟩
    exact (List.append_eq_nil_iff.mp hr.symm).2
  · rintro rfl
    exact ⟨[], rfl, by simp⟩

lemma passes_cons {c : Char} {s t : List Char} :
    Passes S (c :: s) t ↔ t = c :: s ∨ S.contains c ∧ Passes S s t := by
  constructor
  · rintro ⟨r, hr, hall⟩
    cases r with
    | nil => exact Or.inl hr.symm
    | cons d r =>
      obtain ⟨rfl, rfl⟩ := List.cons_eq_cons.mp hr
      exact Or.inr ⟨hall c (by simp), r, rfl, fun d hd => hall d (by simp [hd])⟩
  · rintro (rfl | ⟨hc, r, rfl, hall⟩)
    · exact ⟨[], rfl, by simp⟩
    · exact ⟨c :: r, rfl, by simpa using ⟨hc, hall⟩⟩

lemma passes_stop {c : Char} (hc : S.contains c = false) {s t : List Char} :
    Passes S (c :: s) t ↔ c :: s = t := by
  rw [passes_cons, hc, eq_comm]
  simp

lemma Passes.suffix {s t : List Char} (h : Passes S s t) : t <:+ s := by
  obtain ⟨r, hr, -⟩ := h
  exact ⟨r, hr.symm⟩

lemma exists_rounds {start fuel : ℕ} {f : Found} (hstart : start < p.taken)
    (hfuel : p.rest.length < fuel) (hseen : ∀ k ≥ p.taken, f.seen.testBit k = false) (t : List Char) :
    (∃ q ∈ (rounds (char S).run true start fuel f p).places, q.rest = t) ↔
      (∃ q ∈ f.places, q.rest = t) ∨ Passes S p.rest t := by
  induction fuel generalizing f p with
  | zero => cases hfuel
  | succ fuel ih =>
    rw [rounds, if_neg (by simp [hseen]), if_neg (by omega), Found.around, if_pos rfl]
    cases hrest : p.rest with
    | nil =>
      rw [run_char_end hrest, passes_nil]
      simp [Found.add, Found.mark, hrest, or_comm, eq_comm]
    | cons c r =>
      cases hc : S.contains c with
      | false =>
        rw [run_char_stop hrest hc, passes_stop hc]
        simp [Found.add, Found.mark, hrest, or_comm]
      | true =>
        have hmark : ∀ k ≥ p.taken + 1, (f.mark p.taken).seen.testBit k = false := by
          intro k hk
          have hne : p.taken ≠ k := by omega
          simp [Found.mark, Nat.testBit_or, hseen k (by omega), Nat.one_shiftLeft, hne]
        have hnext := ih (p := { p with before := some c, rest := r, taken := p.taken + 1 })
          (f := f.mark p.taken) (by simp; omega) (by simp [hrest] at hfuel; simpa using hfuel) hmark
        rw [run_char_next hrest hc, List.foldl_cons, List.foldl_nil, passes_cons, hc]
        simp only [Found.add, List.mem_cons, exists_eq_or_imp, hnext, true_and, hrest]
        simp only [Found.mark, eq_comm (a := c :: r)]
        exact or_left_comm

lemma exists_star (t : List Char) :
    (∃ q ∈ (repeated 0 none true (char S)).run p, q.rest = t) ↔ Passes S p.rest t := by
  let more := oneOrMore (char S).run true p
  have hmore (t : List Char) : (∃ q ∈ more ++ [p], q.rest = t) ↔ Passes S p.rest t := by
    simp only [more, oneOrMore, List.mem_append, List.mem_reverse, List.mem_singleton]
    cases hrest : p.rest with
    | nil =>
      rw [run_char_end hrest, passes_nil]
      simp [Found.none, hrest, eq_comm]
    | cons c r =>
      cases hc : S.contains c with
      | false =>
        rw [run_char_stop hrest hc, passes_stop hc]
        simp [Found.none, hrest]
      | true =>
        have hrounds := @exists_rounds { p with before := some c, rest := r, taken := p.taken + 1 } S
          p.taken (r.length + 2) .none (by simp) (by simp) (fun _ _ => Nat.zero_testBit _) t
        rw [run_char_next hrest hc, passes_cons, hc]
        simp only [List.foldl_cons, List.foldl_nil, List.length_cons, or_and_right, exists_or,
          hrounds, true_and, exists_eq_left, hrest]
        simp [Found.none, or_comm, eq_comm]
  have hlength : ∀ q ∈ more ++ [p], q.taken + q.rest.length = p.taken + p.rest.length := by
    have hround : Keeps (fun q => q.taken + q.rest.length = p.taken + p.rest.length)
        (char S).run := by
      intro q hq r hr
      obtain ⟨c, s, hrest, -, rfl⟩ := mem_run_char.mp hr
      simp [hrest] at hq
      simp
      omega
    intro q hq
    rcases List.mem_append.mp hq with hq | hq
    · exact keeps_oneOrMore hround true p rfl q hq
    · rw [List.mem_singleton.mp hq]
  show (∃ q ∈ Place.distinct 0 (more ++ [p]), q.rest = t) ↔ Passes S p.rest t
  rw [← hmore]
  constructor
  · rintro ⟨q, hq, rfl⟩
    exact ⟨q, Place.mem_of_mem_distinct hq, rfl⟩
  · rintro ⟨q, hq, rfl⟩
    obtain ⟨r, hr, htaken⟩ := @Place.exists_mem_distinct _ 0 q hq (Nat.zero_testBit _)
    have hmem := Place.mem_of_mem_distinct hr
    refine ⟨r, hr, ?_⟩
    have hrsuffix := ((hmore _).mp ⟨r, hmem, rfl⟩).suffix
    have hqsuffix := ((hmore _).mp ⟨q, hq, rfl⟩).suffix
    have hrlength := hlength r hmem
    have hqlength := hlength q hq
    exact (List.suffix_of_suffix_length_le hrsuffix hqsuffix (by omega)).eq_of_length (by omega)

end Tree

structure Flags.Plain (f : Flags) (dot : CharSet) : Prop where
  space : f.ignoreSpace = false
  lines : f.multiLine = false
  greed : f.swapGreed = false
  dot : Reader.dot? f = some dot

def wildForm : Wild → List Char
  | .run => ['.', '*']
  | .one => ['.']
  | .lit c => escaped c

def wildText (ws : List Wild) : String := String.ofList ('^' :: (ws.flatMap wildForm ++ ['$']))

section

variable (f : Flags) (dot : CharSet)

def wildPart : Wild → Tree × ℕ
  | .run => (.repeated 0 none true (.char dot), 1)
  | .one => (.char dot, 0)
  | .lit c => (.char (Reader.literal f c), 0)

def wildTail (ws : List Wild) : Tree :=
  ws.foldr (fun w t => .seq (wildPart f dot w).1 t) (.look .textEnd)

def wildTree (ws : List Wild) : Tree := .seq (.look .textStart) (wildTail f dot ws)

def wildItems (ws : List Wild) (before : List Reader.Item) : List Reader.Item :=
  .part (.look .textEnd) 0 ::
    ((ws.map fun w => .part (wildPart f dot w).1 (wildPart f dot w).2).reverse ++ before)

def wildAlphabet : Wild.Alphabet := ⟨dot.contains, fun c => (Reader.literal f c).contains⟩

end

namespace Reader

lemma head?_wild (ws : List Wild) : (ws.flatMap wildForm ++ ['$']).head? ≠ some '?' := by
  cases ws with
  | nil => simp
  | cons w ws =>
    cases w with
    | run => simp [wildForm]
    | one => simp [wildForm]
    | lit c =>
      rw [List.flatMap_cons, wildForm, escaped]
      split
      · simp
      · next h =>
        rw [List.append_assoc, List.singleton_append, List.head?_cons]
        rintro ⟨⟩
        exact h (by decide)

variable {f : Flags} {dot : CharSet} {p : Progress} (hf : f.Plain dot)
include hf

lemma step?_dot (hflags : p.flags = f) (s : List Char) :
    step? p ('.' :: s) = some (add p (.char dot) 0, s) := by
  simp [step?, hflags, hf.dot]

lemma step?_star (hflags : p.flags = f) {s : List Char} (hs : s.head? ≠ some '?') :
    step? (add p (.char dot) 0) ('*' :: s) = some (add p (.repeated 0 none true (.char dot)) 1, s) := by
  have hlazy : lazyMark s = (false, s) := by
    unfold lazyMark
    split
    · exact absurd rfl hs
    · rfl
  simp [step?, hlazy, repeat?, add, hflags, hf.greed]

lemma read?_wildForm (w : Wild) (hflags : p.flags = f) {s : List Char} (hs : s.head? ≠ some '?') :
    ∃ n ≤ (wildForm w).length, ∀ fuel, read? (fuel + n) p (wildForm w ++ s) =
      read? fuel (add p (wildPart f dot w).1 (wildPart f dot w).2) s := by
  have hspace : p.flags.ignoreSpace = false := hflags ▸ hf.space
  cases w with
  | run =>
    refine ⟨2, Nat.le_refl _, fun fuel => ?_⟩
    have hdot : (add p (.char dot) 0).flags.ignoreSpace = false := hspace
    rw [wildForm, List.cons_append, read?_step hspace (step?_dot hf hflags _),
      List.singleton_append, read?_step hdot (step?_star hf hflags hs)]
    rfl
  | one => exact ⟨1, Nat.le_refl _, fun fuel => read?_step hspace (step?_dot hf hflags s)⟩
  | lit c =>
    have hstep := step?_escaped (p := p) (c := c) s
    rw [hflags] at hstep
    refine ⟨1, ?_, fun fuel => read?_step hspace hstep⟩
    rw [wildForm, escaped]
    split <;> simp

lemma read?_wild {ws : List Wild} (hflags : p.flags = f) (houtside : p.outside = []) {fuel : ℕ}
    (hfuel : (ws.flatMap wildForm ++ ['$']).length < fuel) :
    read? fuel p (ws.flatMap wildForm ++ ['$']) =
      some { p with items := wildItems f dot ws p.items } := by
  induction ws generalizing p fuel with
  | nil =>
    have hspace : p.flags.ignoreSpace = false := hflags ▸ hf.space
    obtain ⟨fuel, rfl⟩ : ∃ n, fuel = n + 2 := ⟨fuel - 2, by simp at hfuel; omega⟩
    have hstep : step? p ['$'] = some (add p (.look .textEnd) 0, []) := by
      simp [step?, lineEnd, hflags, hf.lines]
    rw [List.flatMap_nil, List.nil_append, read?_step hspace hstep]
    exact read?_end hspace houtside
  | cons w ws ih =>
    obtain ⟨n, hn, hread⟩ := read?_wildForm hf w hflags (head?_wild ws)
    rw [List.flatMap_cons, List.append_assoc] at hfuel ⊢
    rw [List.length_append] at hfuel
    obtain ⟨fuel, rfl⟩ : ∃ m, fuel = m + n := ⟨fuel - n, by omega⟩
    rw [hread, ih (p := add p _ _) hflags houtside (by omega)]
    simp [add, wildItems]

end Reader

lemma readUnder?_of_read? {f : Flags} {text : String} {items : List Reader.Item}
    (hread : Reader.read? (text.toList.length + 1) ⟨[], f, [], [], 0, []⟩ text.toList =
      some ⟨[], f, [], items, 0, []⟩) (hdepth : (Reader.branch items).2 ≤ Reader.deepest) :
    Regex.readUnder? f text =
      if Reader.heaviest < (Reader.branch items).1.weight then none
      else some ⟨(Reader.branch items).1, []⟩ := by
  have hwhole : Reader.whole ⟨[], f, [], items, 0, []⟩ = Reader.branch items := by
    simp [Reader.whole, Reader.combine]
  rw [Regex.readUnder?, hread]
  simp only [Option.bind_eq_bind, Option.bind_some, hwhole, Nat.not_lt.mpr hdepth, decide_false,
    Bool.false_or, decide_eq_true_eq]
  rfl

variable (f : Flags) (dot : CharSet)

lemma branch_wildItems (ws : List Wild) :
    (Reader.branch (wildItems f dot ws [.part (.look .textStart) 0])).1 = wildTree f dot ws ∧
      (Reader.branch (wildItems f dot ws [.part (.look .textStart) 0])).2 ≤ 2 := by
  have hparts : Reader.parts (wildItems f dot ws [.part (.look .textStart) 0]) =
      (.look .textEnd, 0) :: ((ws.map (wildPart f dot)).reverse ++ [(.look .textStart, 0)]) := by
    simp [wildItems, Reader.parts, List.filterMap_map]
  have hdepth : ∀ q ∈ (Tree.look .textEnd, 0) ::
      ((ws.map (wildPart f dot)).reverse ++ [(.look .textStart, 0)]), q.2 ≤ 1 := by
    intro q hq
    simp only [List.mem_cons, List.mem_append, List.mem_reverse, List.mem_map,
      List.not_mem_nil, or_false] at hq
    rcases hq with rfl | ⟨w, -, rfl⟩ | rfl
    · exact Nat.zero_le 1
    · cases w <;> simp [wildPart]
    · exact Nat.zero_le 1
  rw [Reader.branch, hparts, Reader.combine_of_two (by simp)]
  constructor
  · simp [wildTree, wildTail, List.foldr_map]
  · exact Nat.succ_le_succ (Reader.maxDepth_le hdepth)

theorem readUnder?_wildText {f : Flags} {dot : CharSet} (hf : f.Plain dot) (ws : List Wild) :
    Regex.readUnder? f (wildText ws) =
      if Reader.heaviest < (wildTree f dot ws).weight then none
      else some ⟨wildTree f dot ws, []⟩ := by
  let p : Reader.Progress := ⟨[], f, [], [.part (.look .textStart) 0], 0, []⟩
  have hstart : Reader.step? ⟨[], f, [], [], 0, []⟩ (wildText ws).toList =
      some (p, ws.flatMap wildForm ++ ['$']) := by
    rw [wildText, String.toList_ofList]
    simp [Reader.step?, Reader.add, Reader.lineStart, hf.lines, p]
  have hread : Reader.read? ((wildText ws).toList.length + 1) ⟨[], f, [], [], 0, []⟩
      (wildText ws).toList = some { p with items := wildItems f dot ws p.items } :=
    (Reader.read?_step hf.space hstart).trans
      (Reader.read?_wild hf rfl rfl (by simp [wildText]))
  obtain ⟨htree, hdepth⟩ := branch_wildItems f dot ws
  rw [readUnder?_of_read? hread (Nat.le_trans hdepth (by decide)), htree]

lemma room_wildTree_replicate (d : Direction) (n : ℕ) (w : Wild) :
    (wildTree f dot (List.replicate n w)).room d = n * (wildPart f dot w).1.room d + 64 := by
  have htail : (wildTail f dot (List.replicate n w)).room d = n * (wildPart f dot w).1.room d + 32 := by
    induction n with
    | zero => simp [wildTail, Tree.room]
    | succ n ih =>
      have hseq : wildTail f dot (List.replicate (n + 1) w) =
          .seq (wildPart f dot w).1 (wildTail f dot (List.replicate n w)) := rfl
      have hnext := Nat.add_one_mul n ((wildPart f dot w).1.room d)
      rw [hseq, Tree.room, ih]
      omega
  rw [wildTree, Tree.room, htail, Tree.room]
  omega

lemma run_wildTail (ws : List Wild) (q : Place) :
    (wildTail f dot ws).run q ≠ [] ↔ Wild.Matches (wildAlphabet f dot) ws q.rest := by
  induction ws generalizing q with
  | nil => simp [wildTail, Tree.run, Look.holds, Wild.matches_nil]
  | cons w ws ih =>
    have hseq : wildTail f dot (w :: ws) = .seq (wildPart f dot w).1 (wildTail f dot ws) := rfl
    rw [hseq, Tree.run_seq_ne_nil]
    simp only [ih]
    cases w with
    | run =>
      rw [Wild.matches_run]
      constructor
      · rintro ⟨r, hr, hmatch⟩
        obtain ⟨s, hs, hall⟩ := (Tree.exists_star r.rest).mp ⟨r, hr, rfl⟩
        exact ⟨s, r.rest, hs, hall, hmatch⟩
      · rintro ⟨s, t, hs, hall, hmatch⟩
        obtain ⟨r, hr, rfl⟩ := (Tree.exists_star t).mpr ⟨s, hs, hall⟩
        exact ⟨r, hr, hmatch⟩
    | one =>
      rw [Wild.matches_one]
      exact Tree.exists_run_char
    | lit c =>
      rw [Wild.matches_lit]
      exact Tree.exists_run_char

theorem match?_wildTree (ws : List Wild) (s : List Char) :
    ((wildTree f dot ws).match? none s).isSome = Wild.accepts (wildAlphabet f dot) ws s := by
  have htail := run_wildTail f dot ws (.start none s)
  have hrun : (wildTree f dot ws).run (.start none s) ≠ [] ↔
      (wildTail f dot ws).run (.start none s) ≠ [] := by
    rw [wildTree, Tree.run_seq_ne_nil]
    simp [Tree.run, Look.holds, Place.start]
  rw [Bool.eq_iff_iff, Tree.match?, List.isSome_head?, hrun, htail, Wild.accepts_iff]
  rfl

def Tree.occurs (t : Tree) (before : Option Char) : List Char → Bool
  | [] => (t.match? before []).isSome
  | c :: s => (t.match? before (c :: s)).isSome || t.occurs (some c) s

lemma match?_wildTree_behind (ws : List Wild) (c : Char) (s : List Char) :
    (wildTree f dot ws).match? (some c) s = none := by
  have hrun : ¬(wildTree f dot ws).run (.start (some c) s) ≠ [] := by
    rw [wildTree, Tree.run_seq_ne_nil]
    simp [Tree.run, Look.holds, Place.start]
  rw [Tree.match?, List.head?_eq_none_iff]
  simpa using hrun

lemma occurs_wildTree (ws : List Wild) (s : List Char) :
    (wildTree f dot ws).occurs none s = Wild.accepts (wildAlphabet f dot) ws s := by
  have hbehind (c : Char) (t : List Char) : (wildTree f dot ws).occurs (some c) t = false := by
    induction t generalizing c with
    | nil => simp [Tree.occurs, match?_wildTree_behind]
    | cons d t ih => simp [Tree.occurs, match?_wildTree_behind, ih]
  rw [← match?_wildTree]
  cases s with
  | nil => rfl
  | cons c s => simp [Tree.occurs, hbehind]

end CardQuery.Pattern
