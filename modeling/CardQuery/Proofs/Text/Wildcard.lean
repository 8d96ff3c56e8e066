import CardQuery.Proofs.Text.Split
import CardQuery.Text.Wildcard
import Mathlib.Data.List.Forall2

namespace CardQuery.Wild

/-- `Matches al p s`: the places in `p` stand for the whole of `s`. -/
inductive Matches (al : Alphabet) : List Wild → List Char → Prop
  | nil : Matches al [] []
  | run {p s} (r : List Char) : (∀ c ∈ r, al.free c) → Matches al p s → Matches al (.run :: p) (r ++ s)
  | one {p s c} : al.free c → Matches al p s → Matches al (.one :: p) (c :: s)
  | lit {p s d c} : al.same d c → Matches al p s → Matches al (.lit d :: p) (c :: s)

variable {al : Alphabet} {p q : List Wild} {s : List Char}

lemma matches_nil : Matches al [] s ↔ s = [] := by
  constructor
  · rintro ⟨⟩
    rfl
  · rintro rfl
    exact .nil

lemma matches_run : Matches al (.run :: p) s ↔
    ∃ r t, s = r ++ t ∧ (∀ c ∈ r, al.free c) ∧ Matches al p t := by
  constructor
  · rintro (_ | ⟨r, hr, h⟩)
    exact ⟨r, _, rfl, hr, h⟩
  · rintro ⟨r, t, rfl, hr, h⟩
    exact .run r hr h

lemma matches_one : Matches al (.one :: p) s ↔ ∃ c t, s = c :: t ∧ al.free c ∧ Matches al p t := by
  constructor
  · rintro (_ | _ | ⟨hc, h⟩)
    exact ⟨_, _, rfl, hc, h⟩
  · rintro ⟨c, t, rfl, hc, h⟩
    exact .one hc h

lemma matches_lit {d : Char} :
    Matches al (.lit d :: p) s ↔ ∃ c t, s = c :: t ∧ al.same d c ∧ Matches al p t := by
  constructor
  · rintro (_ | _ | _ | ⟨hc, h⟩)
    exact ⟨_, _, rfl, hc, h⟩
  · rintro ⟨c, t, rfl, hc, h⟩
    exact .lit hc h

lemma matches_run_cons {c : Char} : Matches al (.run :: p) (c :: s) ↔
    Matches al p (c :: s) ∨ al.free c ∧ Matches al (.run :: p) s := by
  rw [matches_run, matches_run]
  constructor
  · rintro ⟨r, t, heq, hr, h⟩
    cases r with
    | nil => exact Or.inl (by simpa [heq] using h)
    | cons d r =>
      obtain ⟨rfl, rfl⟩ := List.cons_eq_cons.mp heq
      exact Or.inr ⟨hr c (by simp), r, t, rfl, fun c hc => hr c (by simp [hc]), h⟩
  · rintro (h | ⟨hc, r, t, rfl, hr, h⟩)
    · exact ⟨[], _, rfl, by simp, h⟩
    · exact ⟨c :: r, t, rfl, by simpa using ⟨hc, hr⟩, h⟩

theorem accepts_iff (al : Alphabet) (p : List Wild) (s : List Char) :
    accepts al p s = true ↔ Matches al p s := by
  induction p generalizing s with
  | nil => cases s <;> simp [accepts_nil_nil, accepts_nil_cons, matches_nil]
  | cons w p ih =>
    cases w with
    | run =>
      -- a run may take any number of characters, so this one goes by the text
      induction s with
      | nil => simp [accepts_run_nil, ih, matches_run]
      | cons c s ihs => simp [accepts_run_cons, matches_run_cons, ih, ihs]
    | one => cases s <;> simp [accepts_one_nil, accepts_one_cons, matches_one, ih]
    | lit d => cases s <;> simp [accepts_lit_nil, accepts_lit_cons, matches_lit, ih]

lemma Matches.append {t : List Char} (hp : Matches al p s) (hq : Matches al q t) :
    Matches al (p ++ q) (s ++ t) := by
  induction hp with
  | nil => exact hq
  | run r hr _ ih => simpa using Matches.run r hr ih
  | one hc _ ih => exact .one hc ih
  | lit hc _ ih => exact .lit hc ih

lemma matches_append : Matches al (p ++ q) s ↔
    ∃ u v, s = u ++ v ∧ Matches al p u ∧ Matches al q v := by
  constructor
  · intro h
    induction p generalizing s with
    | nil => exact ⟨[], s, rfl, .nil, h⟩
    | cons w p ih =>
      cases w with
      | run =>
        obtain ⟨r, t, rfl, hr, h⟩ := matches_run.mp h
        obtain ⟨u, v, rfl, hu, hv⟩ := ih h
        exact ⟨r ++ u, v, by simp, .run r hr hu, hv⟩
      | one =>
        obtain ⟨c, t, rfl, hc, h⟩ := matches_one.mp h
        obtain ⟨u, v, rfl, hu, hv⟩ := ih h
        exact ⟨c :: u, v, rfl, .one hc hu, hv⟩
      | lit d =>
        obtain ⟨c, t, rfl, hc, h⟩ := matches_lit.mp h
        obtain ⟨u, v, rfl, hu, hv⟩ := ih h
        exact ⟨c :: u, v, rfl, .lit hc hu, hv⟩
  · rintro ⟨u, v, rfl, hu, hv⟩
    exact hu.append hv

lemma Matches.mono_of_mem {al' : Alphabet} (hfree : ∀ c ∈ s, al.free c → al'.free c)
    (hsame : ∀ d, .lit d ∈ p → ∀ c ∈ s, al.same d c → al'.same d c) (h : Matches al p s) :
    Matches al' p s := by
  induction h with
  | nil => exact .nil
  | run r hr _ ih =>
    refine .run r (fun c hc => hfree c (List.mem_append_left _ hc) (hr c hc)) (ih ?_ ?_)
    · exact fun c hc => hfree c (List.mem_append_right _ hc)
    · exact fun d hd c hc => hsame d (List.mem_cons_of_mem _ hd) c (List.mem_append_right _ hc)
  | one hc _ ih =>
    refine .one (hfree _ List.mem_cons_self hc) (ih ?_ ?_)
    · exact fun c hc => hfree c (List.mem_cons_of_mem _ hc)
    · exact fun d hd c hc => hsame d (List.mem_cons_of_mem _ hd) c (List.mem_cons_of_mem _ hc)
  | lit hc _ ih =>
    refine .lit (hsame _ List.mem_cons_self _ List.mem_cons_self hc) (ih ?_ ?_)
    · exact fun c hc => hfree c (List.mem_cons_of_mem _ hc)
    · exact fun d hd c hc => hsame d (List.mem_cons_of_mem _ hd) c (List.mem_cons_of_mem _ hc)

lemma Matches.mono {al' : Alphabet} (hfree : ∀ c, al.free c → al'.free c)
    (hsame : ∀ d c, al.same d c → al'.same d c) (h : Matches al p s) : Matches al' p s :=
  h.mono_of_mem (fun c _ => hfree c) fun d _ c _ => hsame d c

def Loosens (p q : List Wild) : Prop := List.Forall₂ (fun w w' => w' = w ∨ w' = .run) p q

lemma Matches.loosened (h : Matches al p s) (hpq : Loosens p q) (hfree : ∀ c, al.free c) :
    Matches al q s := by
  induction h generalizing q with
  | nil =>
    cases hpq
    exact .nil
  | run r hr _ ih =>
    obtain ⟨w, q, hw, hrest, rfl⟩ := List.forall₂_cons_left_iff.mp hpq
    obtain rfl : w = .run := by simpa using hw
    exact .run r hr (ih hrest)
  | @one p s c hc _ ih =>
    obtain ⟨w, q, rfl | rfl, hrest, rfl⟩ := List.forall₂_cons_left_iff.mp hpq
    · exact .one hc (ih hrest)
    · exact .run [c] (fun d _ => hfree d) (ih hrest)
  | @lit p s d c hc _ ih =>
    obtain ⟨w, q, rfl | rfl, hrest, rfl⟩ := List.forall₂_cons_left_iff.mp hpq
    · exact .lit hc (ih hrest)
    · exact .run [c] (fun d _ => hfree d) (ih hrest)

def separators (sep : Char) (p : List Wild) : ℕ := p.count (.lit sep)

variable {sep : Char}

lemma Matches.separators_le (hsame : ∀ c, al.same sep c → c = sep) (h : Matches al p s) :
    separators sep p ≤ s.count sep := by
  induction h with
  | nil => simp [separators]
  | run r _ _ ih =>
    simp only [separators, List.count_cons, List.count_append] at ih ⊢
    simp
    omega
  | one _ _ ih =>
    simp only [separators, List.count_cons] at ih ⊢
    simp
    omega
  | @lit p s d c hc _ ih =>
    simp only [separators, List.count_cons] at ih ⊢
    by_cases hd : d = sep
    · subst hd
      obtain rfl := hsame c hc
      simpa using ih
    · simp [hd]
      omega

def joined (sep : Char) (ps : List (List Wild)) : List Wild := List.intercalate [.lit sep] ps

lemma joined_cons (p : List Wild) {ps : List (List Wild)} (h : ps ≠ []) :
    joined sep (p :: ps) = p ++ .lit sep :: joined sep ps := by
  cases ps with
  | nil => exact absurd rfl h
  | cons q qs => simp [joined, List.intercalate, List.intersperse]

lemma le_separators_joined (sep : Char) (ps : List (List Wild)) :
    ps.length ≤ separators sep (joined sep ps) + 1 := by
  induction ps with
  | nil => simp
  | cons p ps ih =>
    by_cases hne : ps = []
    · simp [hne]
    · rw [joined_cons p hne]
      simp only [separators, List.count_append, List.count_cons_self, List.length_cons] at ih ⊢
      omega

theorem matches_joined (hsame : ∀ c, al.same sep c ↔ c = sep) {ps : List (List Wild)}
    {vs : List (List Char)} (hne : ps ≠ []) (hlen : ps.length = vs.length) (hvs : ∀ v ∈ vs, sep ∉ v) :
    Matches al (joined sep ps) (Text.joinWith sep vs) ↔ List.Forall₂ (Matches al) ps vs := by
  induction ps generalizing vs with
  | nil => exact absurd rfl hne
  | cons p ps ih =>
    obtain ⟨v, vs, rfl⟩ := List.exists_cons_of_length_eq_add_one hlen.symm
    obtain ⟨hv, hvs⟩ := List.forall_mem_cons.mp hvs
    have hlen : ps.length = vs.length := by simpa using hlen
    rw [List.forall₂_cons]
    by_cases hnil : ps = []
    · subst hnil
      obtain rfl : vs = [] := List.length_eq_zero_iff.mp hlen.symm
      simp [joined, Text.joinWith, List.intercalate]
    · have hvnil : vs ≠ [] := by
        rintro rfl
        exact hnil (List.length_eq_zero_iff.mp hlen)
      rw [joined_cons p hnil, Text.joinWith_cons sep v hvnil, ← ih hnil hlen hvs]
      constructor
      · intro h
        obtain ⟨u, w, heq, hu, hw⟩ := matches_append.mp h
        obtain ⟨c, t, rfl, hc, ht⟩ := matches_lit.mp hw
        obtain rfl := (hsame c).mp hc
        -- the patterns left need every separator but those in `v`, so a run in `p` takes none
        have hcount := congrArg (List.count c) heq
        have hpattern := ht.separators_le fun d => (hsame d).mp
        have hps := le_separators_joined c ps
        have htext := Text.length_splitOn c (Text.joinWith c vs)
        rw [Text.splitOn_joinWith hvnil hvs] at htext
        simp only [List.count_append, List.count_cons_self, List.count_eq_zero.mpr hv] at hcount
        have hsep : c ∉ u := List.count_eq_zero.mp (by omega)
        have hsplit := congrArg (Text.splitOn c) heq
        rw [Text.splitOn_append_cons hv, Text.splitOn_append_cons hsep] at hsplit
        obtain ⟨rfl, hs⟩ := List.cons.inj hsplit
        have hjoin := congrArg (Text.joinWith c) hs
        rw [Text.joinWith_splitOn, Text.joinWith_splitOn] at hjoin
        exact ⟨hu, hjoin ▸ ht⟩
      · rintro ⟨hu, ht⟩
        exact hu.append (.lit ((hsame sep).mpr rfl) ht)

end CardQuery.Wild
