import CardQuery.Collection.Fields
import CardQuery.Proofs.Text.Wildcard
import CardQuery.Text.Like

namespace CardQuery

namespace Text

lemma toLower_eq_or (c : Char) : c.toLower = c ∨ ∃ n < 26, c = Char.ofNat (65 + n) := by
  by_cases h : c.val ≥ 'A'.val ∧ c.val ≤ 'Z'.val
  · have hlow : 65 ≤ c.toNat := h.1
    have hhigh : c.toNat ≤ 90 := h.2
    refine Or.inr ⟨c.toNat - 65, by omega, ?_⟩
    rw [show 65 + (c.toNat - 65) = c.toNat by omega, Char.ofNat_toNat]
  · exact Or.inl (dif_neg h)

lemma foldKey_toLower (c : Char) : foldKey c.toLower = foldKey c := by
  have hfold : ∀ n < 26, foldKey (Char.ofNat (65 + n)).toLower = foldKey (Char.ofNat (65 + n)) := by
    decide
  rcases toLower_eq_or c with h | ⟨n, hn, rfl⟩
  · rw [h]
  · exact hfold n hn

lemma sameFolded_of_sameAscii {a b : Char} (h : sameAscii a b) : sameFolded a b := by
  have hlower : a.toLower = b.toLower := by simpa [sameAscii] using h
  have hfold := congrArg foldKey hlower
  simpa [sameFolded, foldKey_toLower] using hfold

end Text

namespace Like

def place (c : Char) : Wild := if c = '%' then .run else if c = '_' then .one else .lit c

variable {escape : Option Char}

lemma places_cons {c : Char} (h : some c ≠ escape) (s : List Char) :
    places escape (c :: s) = (places escape s).map (place c :: ·) := by
  cases s with
  | nil => simp [places, h, place]
  | cons d s =>
    simp only [places, if_neg h, place]
    split
    · rfl
    · split <;> rfl

lemma places_escaped (e c : Char) (s : List Char) :
    places (some e) (e :: c :: s) = (places (some e) s).map (.lit c :: ·) := by
  simp [places]

lemma untilNul_eq {s : List Char} (h : '\x00' ∉ s) : untilNul s = s := by
  induction s with
  | nil => rfl
  | cons c s ih =>
    simp only [List.mem_cons, not_or] at h
    simpa [untilNul, Ne.symm h.1] using ih h.2

lemma untilNul_append {s : List Char} (h : '\x00' ∉ s) (t : List Char) :
    untilNul (s ++ t) = s ++ untilNul t := by
  apply List.takeWhile_append_of_pos
  intro c hc
  have hne : c ≠ '\x00' := by
    rintro rfl
    exact h hc
  simpa using hne

lemma untilNul_flatMap {form : Char → List Char} (hnul : form '\x00' = ['\x00'])
    (hform : ∀ c, c ≠ '\x00' → '\x00' ∉ form c) (s rest : List Char) :
    untilNul (s.flatMap form ++ rest) =
      (untilNul s).flatMap form ++ if '\x00' ∈ s then [] else untilNul rest := by
  induction s with
  | nil => simp [untilNul]
  | cons c s ih =>
    by_cases hc : c = '\x00'
    · subst hc
      simp [untilNul, hnul]
    · have hs : untilNul (c :: s) = c :: untilNul s := by simp [untilNul, hc]
      rw [List.flatMap_cons, List.append_assoc, untilNul_append (hform c hc), ih, hs, List.flatMap_cons,
        List.append_assoc]
      simp [Ne.symm hc]

lemma accepts_iff_matches {pattern text : List Char} :
    accepts escape pattern text ↔
      ∃ p, places escape (untilNul pattern) = some p ∧ Wild.Matches alphabet p (untilNul text) := by
  rw [accepts]
  cases places escape (untilNul pattern) with
  | none => simp
  | some p => simp [Wild.accepts_iff]

lemma holds?_eq_true {pattern text : String} : holds? escape pattern text = some true ↔
    pattern.utf8ByteSize ≤ longest ∧ accepts escape pattern.toList text.toList := by
  rw [holds?]
  split
  · next h => simp [Nat.not_le.mpr h]
  · next h => simp [Nat.not_lt.mp h]

lemma read_toLower (c : Char) : read c.toLower = (read c).toLower := by
  have hupper : ∀ n < 26, read (Char.ofNat (65 + n)).toLower = (read (Char.ofNat (65 + n))).toLower := by
    decide
  rcases Text.toLower_eq_or c with hc | ⟨n, hn, rfl⟩
  · rw [hc, read]
    split
    · rfl
    · exact hc.symm
  · exact hupper n hn

lemma same_iff {c d : Char} : alphabet.same c d ↔ (read c).toLower = (read d).toLower := by
  simp [alphabet, Text.sameAscii]

lemma same_of_sameAscii {c d : Char} (h : Text.sameAscii c d) : alphabet.same c d := by
  have hlower : c.toLower = d.toLower := by simpa [Text.sameAscii] using h
  rw [same_iff, ← read_toLower, ← read_toLower, hlower]

lemma toLower_read_eq_iff {d : Char} (hsame : (read d).toLower = d) (hreplacement : d ≠ '\uFFFD')
    (hletter : ∀ n < 26, (Char.ofNat (65 + n)).toLower ≠ d) {c : Char} :
    (read c).toLower = d ↔ c = d := by
  have hupper : ∀ n < 26, read (Char.ofNat (65 + n)).toLower = (Char.ofNat (65 + n)).toLower := by
    decide
  constructor
  · intro h
    rw [← read_toLower] at h
    rcases Text.toLower_eq_or c with hc | ⟨n, hn, rfl⟩
    · rw [hc, read] at h
      split at h
      · exact absurd h.symm hreplacement
      · exact h
    · exact absurd ((hupper n hn).symm.trans h) (hletter n hn)
  · rintro rfl
    exact hsame

lemma same_separator (c : Char) : alphabet.same Fields.separator c ↔ c = Fields.separator := by
  have hsame : (read Fields.separator).toLower = Fields.separator := by decide
  rw [same_iff, hsame, eq_comm]
  exact toLower_read_eq_iff hsame (by decide) (by decide)

def Plain (s : List Char) : Prop := ∀ c ∈ s, c ∉ ['\x00', '\uFFFE', '\uFFFF']

instance (s : List Char) : Decidable (Plain s) := List.decidableBAll _ s

lemma Plain.nul_notMem {s : List Char} (h : Plain s) : '\x00' ∉ s := fun hc => h _ hc (by decide)

lemma read_of_plain {s : List Char} (h : Plain s) {c : Char} (hc : c ∈ s) : read c = c := by
  have hplain := h c hc
  simp only [List.mem_cons, List.not_mem_nil, or_false, not_or] at hplain
  rw [read, if_neg (by simp [hplain.2])]

end Like

end CardQuery
