import CardQuery.Proofs.Search.Selection
import CardQuery.Proofs.Text.Occurrence

namespace CardQuery

namespace Query

open Like (folded)
open Text (InOrder)

lemma starsToPercent_append (s : List Char) :
    starsToPercent s ++ ['%'] = (Text.splitOn '*' s).flatMap (· ++ ['%']) := by
  induction s with
  | nil => rfl
  | cons c s ih =>
    have hcons : starsToPercent (c :: s) = (if c = '*' then '%' else c) :: starsToPercent s := rfl
    rw [hcons, List.cons_append, ih, Text.splitOn]
    split
    · rfl
    · split
      · next h => exact absurd h (Text.splitOn_ne_nil '*' s)
      · next p ps h => simp [h]

variable {ctx : Context} {col : Collection} {card : Card} {note : Note} {v : String}

lemma met_text : Met ctx col ⟨card, some note⟩ (.text v) ↔
    ∃ s ∈ [note.sortText, note.blob], Like.holds? (some '\\') (textPattern v) s = some true := by
  have hasked : asked? ctx col (.text v) = some ⟨.contains, [textPattern v, textPattern v]⟩ := rfl
  have hformula : Formula.ofPieces? (Bound.pieces ⟨.contains, [textPattern v, textPattern v]⟩) =
      some (.or (.term ⟨.sortTextLike, [textPattern v]⟩) (.term ⟨.blobLike, [textPattern v]⟩)) := rfl
  -- The limit is the same for both texts.
  have hlimit : Like.holds? (some '\\') (textPattern v) note.blob = some true →
      Like.holds? (some '\\') (textPattern v) note.sortText ≠ none := by
    rw [Like.holds?_eq_true, Like.holds?]
    rintro ⟨hshort, -⟩
    rw [if_neg (Nat.not_lt.mpr hshort)]
    exact Option.some_ne_none _
  simp only [Met, hasked, Option.some.injEq, exists_eq_left',
    Bound.holds?_of_formula hformula, Formula.holds?, Test.holds?, Atom.holds?, Row.like?,
    Option.bind_some, List.mem_cons, List.not_mem_nil, or_false, exists_eq_or_imp, exists_eq_left]
  cases hsort : Like.holds? (some '\\') (textPattern v) note.sortText with
  | none => simpa using fun hblob => hlimit hblob hsort
  | some answer => cases answer <;> simp

lemma accepts_textPattern (hv : ∀ c ∈ v.toList, c ∉ ['%', '_', '\\', '\x00', Fields.separator])
    {s : String} (hs : '\x00' ∉ s.toList) :
    Like.accepts (some '\\') (textPattern v).toList s.toList ↔
      InOrder ((Text.splitOn '*' v.toList).map folded) (folded s.toList) := by
  rw [textPattern, String.toList_ofList, List.cons_append, starsToPercent_append]
  apply Like.accepts_pieces _ (by decide) hs
  intro p hp c hc
  have h := hv c (Text.subset_of_mem_splitOn hp hc)
  simp only [List.mem_cons, List.not_mem_nil, or_false, not_or] at h ⊢
  exact ⟨⟨h.1, h.2.1, h.2.2.2.1⟩, by simpa using h.2.2.1⟩

lemma eq_separator_of_read {c : Char} (h : (Like.read c).toLower = Fields.separator) :
    c = Fields.separator :=
  (Like.toLower_read_eq_iff (by decide) (by decide) (by decide)).mp h

lemma infix_blob {p : List Char} (hp : Fields.separator ∉ p) :
    p <:+: folded note.blob.toList ↔ ∃ field ∈ note.fields, p <:+: folded field.toList := by
  have hblob := Text.joinWith_splitOn Fields.separator note.blob.toList
  rw [← hblob, Like.folded_joinWith (by decide), Text.infix_joinWith hp (by simp [Text.splitOn_ne_nil])]
  simp [Note.fields, Fields.split]

theorem text_finds (hv : ∀ c ∈ v.toList, c ∉ ['%', '_', '\\', '\x00', Fields.separator])
    (hsort : '\x00' ∉ note.sortText.toList) (hblob : '\x00' ∉ note.blob.toList) :
    (Met ctx col ⟨card, some note⟩ (.text v) ↔
      (textPattern v).utf8ByteSize ≤ Like.longest ∧ ∃ s ∈ [note.sortText, note.blob],
        InOrder ((Text.splitOn '*' v.toList).map folded) (folded s.toList)) ∧
    ('*' ∉ v.toList → (Met ctx col ⟨card, some note⟩ (.text v) ↔
      (textPattern v).utf8ByteSize ≤ Like.longest ∧ ∃ s ∈ note.sortText :: note.fields,
        folded v.toList <:+: folded s.toList)) := by
  have hmet : Met ctx col ⟨card, some note⟩ (.text v) ↔
      (textPattern v).utf8ByteSize ≤ Like.longest ∧ ∃ s ∈ [note.sortText, note.blob],
        InOrder ((Text.splitOn '*' v.toList).map folded) (folded s.toList) := by
    simp only [met_text, Like.holds?_eq_true, List.mem_cons, List.not_mem_nil, or_false,
      exists_eq_or_imp, exists_eq_left, accepts_textPattern hv hsort, accepts_textPattern hv hblob]
    rw [and_or_left]
  refine ⟨hmet, fun hstar => ?_⟩
  have hsep : Fields.separator ∉ folded v.toList := by
    apply Like.notMem_folded fun _ => eq_separator_of_read
    exact fun h => hv _ h (by simp)
  rw [hmet, Text.splitOn_of_notMem hstar]
  simp only [List.map_cons, List.map_nil, Text.inOrder_singleton, List.mem_cons, List.not_mem_nil,
    or_false, exists_eq_or_imp, exists_eq_left, infix_blob hsep]

theorem text_finds_sample :
    let note : Note := ⟨1, 1, 0, 0, "", "Haus\x1fa house, a home", "Haus", 0⟩
    let card : Card := ⟨11, 1, 1, 0, 0, 0, 0, 0, 0, 0, 0, 0, 0⟩
    (∀ c ∈ "A*HO".toList, c ∉ ['%', '_', '\\', '\x00', Fields.separator]) ∧
      '\x00' ∉ note.sortText.toList ∧ '\x00' ∉ note.blob.toList ∧
      (Met sampleContext sampleCollection ⟨card, some note⟩ (.text "A*HO") ↔
        (textPattern "A*HO").utf8ByteSize ≤ Like.longest ∧ ∃ s ∈ [note.sortText, note.blob],
          InOrder ((Text.splitOn '*' "A*HO".toList).map folded) (folded s.toList)) ∧
      ('*' ∉ "A*HO".toList → (Met sampleContext sampleCollection ⟨card, some note⟩ (.text "A*HO") ↔
        (textPattern "A*HO").utf8ByteSize ≤ Like.longest ∧ ∃ s ∈ note.sortText :: note.fields,
          folded "A*HO".toList <:+: folded s.toList)) := by
  have hv : ∀ c ∈ "A*HO".toList, c ∉ ['%', '_', '\\', '\x00', Fields.separator] :=
    Text.forall_of_all (by decide)
  exact ⟨hv, by decide, by decide, text_finds hv (by decide) (by decide)⟩

/-- The two noncharacters are one character to LIKE. -/
theorem text_finds_noncharacter :
    let note : Note := ⟨1, 1, 0, 0, "", "\uFFFE\x1f", "\uFFFE", 0⟩
    let card : Card := ⟨11, 1, 1, 0, 0, 0, 0, 0, 0, 0, 0, 0, 0⟩
    (∀ c ∈ "\uFFFF".toList, c ∉ ['%', '_', '\\', '\x00', Fields.separator, '*']) ∧
      '\x00' ∉ note.sortText.toList ∧ '\x00' ∉ note.blob.toList ∧
      (∀ s ∈ note.sortText :: note.blob :: note.fields, '\uFFFF' ∉ s.toList) ∧
      Met sampleContext sampleCollection ⟨card, some note⟩ (.text "\uFFFF") := by
  intro note card
  refine ⟨Text.forall_of_all (by decide), by decide, by decide, by decide, met_text.mpr ?_⟩
  decide

end Query

end CardQuery
