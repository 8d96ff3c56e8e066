import Mathlib.Data.List.Chain
import CardQuery.Proofs.Boolean.Written
import CardQuery.Query.Token

/-!
The Boolean reading of a list of tokens: groups first, then `-`, then adjacency as conjunction, then
`or`. Every well-formed list has such a reading.
-/

namespace CardQuery.Token

def isTerm : Token → Bool
  | command _ _ => true
  | text _ => true
  | _ => false

def starts : Token → Bool
  | opening => true
  | t => t.isTerm

def ends : Token → Bool
  | closing => true
  | t => t.isTerm

def nested (depth : ℕ) : List Token → Bool
  | [] => depth == 0
  | opening :: ts => nested (depth + 1) ts
  | closing :: ts => match depth with
    | 0 => false
    | depth + 1 => nested depth ts
  | _ :: ts => nested depth ts

structure WellFormed (ts : List Token) : Prop where
  nested : nested 0 ts
  group : ∀ before inside after, ts = before ++ opening :: inside ++ closing :: after →
    Token.nested 0 inside → inside.any starts
  minus : ∀ before after, ts = before ++ minus :: after → after.head?.any starts
  or : ∀ before after, ts = before ++ or :: after →
    before.getLast?.any ends ∧ after.head?.any fun t => t.starts || t == .minus

/-- `Reads part ts f`: read as a part of that kind, the tokens `ts` say `f` about the terms in them. -/
inductive Reads : Part → List Token → Formula Token → Prop
  | term {t : Token} : t.isTerm → Reads .unit [t] (.term t)
  | group {ts f} : Reads .alternatives ts f → Reads .unit (opening :: ts ++ [closing]) f
  | plain {ts f} : Reads .unit ts f → Reads .operand ts f
  | negated {ts f} : Reads .unit ts f → Reads .operand (minus :: ts) (.not f)
  | first {ts f} : Reads .operand ts f → Reads .conjunction ts f
  | and {ts us f g} : Reads .conjunction ts f → Reads .operand us g →
      Reads .conjunction (ts ++ us) (.and f g)
  | only {ts f} : Reads .conjunction ts f → Reads .alternatives ts f
  | or {ts us f g} : Reads .alternatives ts f → Reads .conjunction us g →
      Reads .alternatives (ts ++ or :: us) (.or f g)

inductive Means : List Token → Option (Formula Token) → Prop
  | nothing : Means [] none
  | formula {ts f} : Reads .alternatives ts f → Means ts (some f)

lemma Reads.ne_nil {part : Part} {ts : List Token} {f : Formula Token} (h : Reads part ts f) :
    ts ≠ [] := by
  induction h with
  | plain _ ih => exact ih
  | first _ ih => exact ih
  | only _ ih => exact ih
  | and _ _ ih _ => simp [ih]
  | _ => simp

lemma Reads.cons_conjunction {us vs : List Token} {f g : Formula Token} (hu : Reads .operand us f)
    (hv : Reads .conjunction vs g) : ∃ h, Reads .conjunction (us ++ vs) h := by
  generalize hp : Part.conjunction = part at hv
  induction hv with
  | first hv _ => exact ⟨_, .and (.first hu) hv⟩
  | @and ts ws _ _ _ hw ih _ =>
    obtain ⟨h, hh⟩ := ih rfl
    exact ⟨_, List.append_assoc us ts ws ▸ hh.and hw⟩
  | _ => cases hp

lemma Reads.cons_and {us vs : List Token} {f g : Formula Token} (hu : Reads .operand us f)
    (hv : Reads .alternatives vs g) : ∃ h, Reads .alternatives (us ++ vs) h := by
  generalize hp : Part.alternatives = part at hv
  induction hv with
  | only hv _ =>
    obtain ⟨h, hh⟩ := hu.cons_conjunction hv
    exact ⟨_, hh.only⟩
  | @or ts ws _ _ _ hw ih _ =>
    obtain ⟨h, hh⟩ := ih rfl
    exact ⟨_, List.append_assoc us ts (.or :: ws) ▸ hh.or hw⟩
  | _ => cases hp

lemma Reads.cons_or {us vs : List Token} {f g : Formula Token} (hu : Reads .operand us f)
    (hv : Reads .alternatives vs g) : ∃ h, Reads .alternatives (us ++ .or :: vs) h := by
  generalize hp : Part.alternatives = part at hv
  induction hv with
  | only hv _ => exact ⟨_, .or (.only (.first hu)) hv⟩
  | @or ts ws _ _ _ hw ih _ =>
    obtain ⟨h, hh⟩ := ih rfl
    exact ⟨_, by simpa using hh.or hw⟩
  | _ => cases hp

lemma nested_succ {depth : ℕ} {ts : List Token} (h : nested (depth + 1) ts) :
    ∃ inside after, ts = inside ++ closing :: after ∧ nested 0 inside ∧ nested depth after := by
  suffices ∀ d, nested (d + depth + 1) ts →
      ∃ inside after, ts = inside ++ closing :: after ∧ nested d inside ∧ nested depth after by
    simpa using this 0 (by simpa using h)
  clear h
  intro d h
  induction ts generalizing d with
  | nil => simp [nested] at h
  | cons t ts ih =>
    cases t with
    | opening =>
      obtain ⟨inside, after, rfl, hi, ha⟩ := ih (d + 1) (by simpa [nested, Nat.add_right_comm] using h)
      exact ⟨opening :: inside, after, rfl, hi, ha⟩
    | closing =>
      cases d with
      | zero => exact ⟨[], ts, rfl, rfl, by simpa [nested] using h⟩
      | succ d =>
        obtain ⟨inside, after, rfl, hi, ha⟩ :=
          ih d (by simpa [nested, Nat.add_right_comm] using h)
        exact ⟨closing :: inside, after, rfl, hi, ha⟩
    | _ =>
      obtain ⟨inside, after, rfl, hi, ha⟩ := ih d h
      exact ⟨_ :: inside, after, rfl, hi, ha⟩

lemma nested_append_opening (depth : ℕ) (ts : List Token) :
    nested depth (ts ++ [opening]) = false := by
  induction ts generalizing depth with
  | nil => simp [nested]
  | cons t ts ih =>
    cases t with
    | closing => cases depth <;> simp [nested, ih]
    | _ => simp [nested, ih]

lemma nested_append {depth : ℕ} {ts : List Token} (h : nested depth ts) (d : ℕ) (us : List Token) :
    nested (depth + d) (ts ++ us) = nested d us := by
  induction ts generalizing depth with
  | nil =>
    obtain rfl : depth = 0 := by simpa [nested] using h
    rw [Nat.zero_add, List.nil_append]
  | cons t ts ih =>
    cases t with
    | opening => simpa [nested, Nat.add_right_comm] using @ih (depth + 1) h
    | closing =>
      cases depth with
      | zero => simp [nested] at h
      | succ depth => simpa [nested, Nat.add_right_comm] using @ih depth h
    | _ => exact ih h

lemma nested_cons_of_isTerm {t : Token} (ht : t.isTerm) (depth : ℕ) (ts : List Token) :
    nested depth (t :: ts) = nested depth ts := by
  cases t with
  | command key value => rfl
  | text words => rfl
  | _ => cases ht

lemma nested_insert {t : Token} (ht : t.isTerm) (depth : ℕ) (ts us : List Token) :
    nested depth (ts ++ t :: us) = nested depth (ts ++ us) := by
  induction ts generalizing depth with
  | nil => exact nested_cons_of_isTerm ht depth us
  | cons s ts ih =>
    cases s with
    | closing => cases depth <;> simp [nested, ih]
    | _ => simp [nested, ih]

structure Fits (a b : Token) : Prop where
  minus : a = minus → b.starts
  operand : a = opening ∨ a = or → b.starts ∨ b = .minus
  complete : b = or ∨ b = closing → a.ends

namespace WellFormed

variable {ts : List Token}

lemma fits (h : WellFormed ts) {a b : Token} {before after : List Token}
    (hts : ts = before ++ a :: b :: after) : Fits a b := by
  have hm : a = .minus → b.starts := by
    rintro rfl
    simpa using h.minus before (b :: after) hts
  have ho : a = .or → b.starts ∨ b = .minus := by
    rintro rfl
    simpa using (h.or before (b :: after) hts).2
  have he : b = .or → a.ends := by
    rintro rfl
    simpa using (h.or (before ++ [a]) after (by simp [hts])).1
  have hg : a = opening → b ≠ closing := by
    rintro rfl rfl
    simpa using h.group before [] after (by simpa using hts) rfl
  cases a <;> cases b <;> constructor <;> simp_all [starts, ends, isTerm]

lemma fits_first (h : WellFormed (a :: ts)) : Fits opening a := by
  have hn := h.nested
  have ho : a ≠ .or := by
    rintro rfl
    simpa using (h.or [] ts rfl).1
  cases a <;> constructor <;> simp_all [starts, ends, isTerm, Token.nested]

lemma fits_last {a : Token} (h : WellFormed (ts ++ [a])) : Fits a closing := by
  have hn : a ≠ opening := by
    rintro rfl
    simpa [nested_append_opening] using h.nested
  have hm : a ≠ .minus := by
    rintro rfl
    simpa using h.minus ts [] rfl
  have ho : a ≠ .or := by
    rintro rfl
    simpa using (h.or ts [] rfl).2
  cases a <;> constructor <;> simp_all [starts, ends, isTerm]

lemma isChain (h : WellFormed ts) (hne : ts ≠ []) :
    (opening :: ts ++ [closing]).IsChain Fits := by
  rw [List.isChain_iff_forall_rel_of_append_cons_cons]
  intro a b before after heq
  cases before with
  | nil =>
    obtain ⟨t, ts, rfl⟩ := List.exists_cons_of_ne_nil hne
    obtain ⟨rfl, rfl, -⟩ := by simpa using heq
    exact h.fits_first
  | cons c before =>
    simp only [List.cons_append, List.cons.injEq] at heq
    rcases List.eq_nil_or_concat after with rfl | ⟨after, d, rfl⟩
    · have hl : ts ++ [closing] = (before ++ [a]) ++ [b] := by simpa using heq.2
      obtain ⟨rfl, rfl⟩ := List.append_singleton_inj.mp hl
      exact h.fits_last
    · have hl : ts ++ [closing] = (before ++ a :: b :: after) ++ [d] := by simpa using heq.2
      obtain ⟨rfl, -⟩ := List.append_singleton_inj.mp hl
      exact h.fits rfl

end WellFormed

lemma fits_or_opening {a : Token} (h : Fits .or a) : Fits opening a :=
  ⟨by simp, fun _ => h.operand (Or.inr rfl), fun hc => absurd (h.complete hc) (by simp [ends, isTerm])⟩

def Fitting (a : Token) (ts : List Token) : Prop := (a :: ts ++ [closing]).IsChain Fits

lemma Fitting.opening_of_or {ts : List Token} (h : Fitting .or ts) : Fitting opening ts :=
  List.IsChain.imp_head (fun h => fits_or_opening h) h

lemma Fitting.opening_of_ends {a b : Token} {ts : List Token} (h : Fitting a (b :: ts))
    (hb : b.starts ∨ b = minus) : Fitting opening (b :: ts) := by
  refine List.isChain_cons_cons.mpr ⟨⟨by simp, fun _ => hb, ?_⟩, (List.isChain_cons_cons.mp h).2⟩
  rintro (rfl | rfl) <;> simp [starts, isTerm] at hb

lemma Fitting.tail {a b : Token} {ts : List Token} (h : Fitting a (b :: ts)) : Fitting b ts :=
  List.IsChain.tail h

def Splits (part : Part) (ts : List Token) : Prop :=
  ∃ us vs f a, ts = us ++ vs ∧ Reads part us f ∧ nested 0 vs ∧ a.ends ∧ Fitting a vs

lemma splits_group {a : Token} {ts : List Token} (hn : nested 1 ts) (hf : Fitting a (opening :: ts))
    (ih : ∀ inside : List Token, inside.length < ts.length → nested 0 inside →
      Fitting opening inside → ∃ f, Reads .alternatives inside f) :
    Splits .unit (opening :: ts) := by
  obtain ⟨inside, after, rfl, hi, ha⟩ := nested_succ hn
  have hinside : Fitting opening inside :=
    List.IsChain.infix hf ⟨[a], after ++ [closing], by simp⟩
  have hafter : Fitting closing after :=
    List.IsChain.infix hf ⟨a :: opening :: inside, [], by simp⟩
  obtain ⟨f, hr⟩ := ih inside (by simp) hi hinside
  exact ⟨opening :: inside ++ [closing], after, f, closing, by simp, hr.group, ha, rfl, hafter⟩

lemma splits_unit {a t : Token} {ts : List Token} (ht : t.starts) (hn : nested 0 (t :: ts))
    (hf : Fitting a (t :: ts))
    (ih : ∀ inside : List Token, inside.length < ts.length → nested 0 inside →
      Fitting opening inside → ∃ f, Reads .alternatives inside f) :
    Splits .unit (t :: ts) := by
  cases t with
  | opening => exact splits_group hn hf ih
  | command key value => exact ⟨[_], ts, _, _, rfl, .term rfl, hn, rfl, hf.tail⟩
  | text words => exact ⟨[_], ts, _, _, rfl, .term rfl, hn, rfl, hf.tail⟩
  | _ => simp [starts, isTerm] at ht

lemma splits_operand {ts : List Token} (hn : nested 0 ts) (hf : Fitting opening ts)
    (ih : ∀ inside : List Token, inside.length < ts.length → nested 0 inside →
      Fitting opening inside → ∃ f, Reads .alternatives inside f) :
    Splits .operand ts := by
  cases ts with
  | nil => simpa [starts, ends, isTerm] using (List.isChain_cons_cons.mp hf).1.complete (Or.inr rfl)
  | cons t ts =>
    rcases (List.isChain_cons_cons.mp hf).1.operand (Or.inl rfl) with ht | rfl
    · obtain ⟨us, vs, f, a, hs, hr, hrest⟩ :=
        splits_unit ht hn hf fun inside hlt => ih inside (Nat.lt_succ_of_lt hlt)
      exact ⟨us, vs, f, a, hs, hr.plain, hrest⟩
    · cases ts with
      | nil => simpa [ends, isTerm] using (List.isChain_cons_cons.mp hf.tail).1.complete (Or.inr rfl)
      | cons t ts =>
        have ht : t.starts := (List.isChain_cons_cons.mp hf.tail).1.minus rfl
        obtain ⟨us, vs, f, a, hs, hr, hrest⟩ := splits_unit ht hn hf.tail fun inside hlt =>
          ih inside (by simp only [List.length_cons]; omega)
        exact ⟨.minus :: us, vs, _, a, by rw [hs, List.cons_append], hr.negated, hrest⟩

lemma exists_reads {ts : List Token} (hn : nested 0 ts) (hf : Fitting opening ts) :
    ∃ f, Reads .alternatives ts f := by
  induction h : ts.length using Nat.strong_induction_on generalizing ts with
  | _ n ih =>
    subst h
    -- an operand is split off at the front; its groups and what follows it are shorter
    obtain ⟨us, vs, f, a, rfl, hr, hn', ha, hf'⟩ :=
      splits_operand hn hf fun inside hlt hi hf => ih _ hlt hi hf rfl
    have hpos : 0 < us.length := List.length_pos_iff.mpr hr.ne_nil
    cases vs with
    | nil => exact ⟨f, by simpa using hr.first.only⟩
    | cons v vs =>
      cases v with
      | closing => simp [nested] at hn'
      | or =>
        have hvs : nested 0 vs := hn'
        obtain ⟨g, hg⟩ := ih vs.length (by simp; omega) hvs hf'.tail.opening_of_or rfl
        exact hr.cons_or hg
      | _ =>
        obtain ⟨g, hg⟩ := ih _ (by simp; omega) hn' (hf'.opening_of_ends (by simp [starts, isTerm])) rfl
        exact hr.cons_and hg

theorem WellFormed.exists_means {ts : List Token} (h : WellFormed ts) : ∃ q, Means ts q := by
  by_cases hne : ts = []
  · exact ⟨none, hne ▸ .nothing⟩
  · obtain ⟨f, hf⟩ := exists_reads h.nested (h.isChain hne)
    exact ⟨some f, .formula hf⟩

end CardQuery.Token
