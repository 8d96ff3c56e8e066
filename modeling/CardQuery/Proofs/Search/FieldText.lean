import CardQuery.Proofs.Search.FieldTerm
import CardQuery.Proofs.Search.Success
import CardQuery.Proofs.Search.TextTerm

/-!
What a field matches as a whole is also found as text in the note, once every backslash is doubled:
among words a backslash takes away the meaning of the next character, in the value of a field term it
stands for itself.
-/

namespace CardQuery

namespace Query

open Like (places untilNul)
open Wild (Matches)

def escaped (value : String) : String :=
  String.ofList (value.toList.flatMap fun c => if c = '\\' then ['\\', '\\'] else [c])

lemma escaped_eq_self {value : String} (h : '\\' ∉ value.toList) : escaped value = value := by
  have hkeep : value.toList.flatMap (fun c => if c = '\\' then ['\\', '\\'] else [c]) =
      value.toList.flatMap fun c => [c] := by
    apply List.flatMap_congr
    intro c hc
    have hne : c ≠ '\\' := by
      rintro rfl
      exact h hc
    rw [if_neg hne]
  rw [escaped, hkeep, List.flatMap_singleton', String.ofList_toList]

def textForm (c : Char) : List Char :=
  if c = '\\' then ['\\', '\\'] else if c = '*' then ['%'] else [c]

def textPlace (c : Char) : Wild :=
  if c = '\\' then .lit '\\' else if c = '*' then .run else Like.place c

lemma toList_textPattern_escaped (value : String) : (textPattern (escaped value)).toList =
    '%' :: (value.toList.flatMap textForm ++ ['%']) := by
  rw [textPattern, String.toList_ofList, escaped, String.toList_ofList, starsToPercent,
    List.map_flatMap, List.cons_append]
  congr 2
  apply List.flatMap_congr
  intro c _
  unfold textForm
  split
  · rfl
  · split <;> simp_all

lemma writes_textForm (s : List Char) : Writes (s.flatMap textForm) (s.map textPlace) := by
  apply Writes.flatMap
  intro c
  unfold textForm textPlace
  split
  · exact .escaped _
  · next hb =>
    split
    · exact .char (by decide)
    · exact .char hb

lemma writes_fieldForm (s : List Char) : Writes (s.flatMap fieldForm) (s.map fieldPlace) := by
  have h := writes_likeForm (String.ofList s)
  rwa [toList_likeForm, fieldGlob, String.toList_ofList] at h

lemma loosens_textPlace (s : List Char) : Wild.Loosens (s.map fieldPlace) (s.map textPlace) := by
  rw [Wild.Loosens, List.forall₂_map_left_iff, List.forall₂_map_right_iff, List.forall₂_same]
  intro c _
  unfold fieldPlace textPlace Like.place
  split_ifs <;> simp_all

lemma untilNul_likeForm (value : String) (after : List Char) :
    untilNul ((likeForm value).toList ++ after) = (untilNul value.toList).flatMap fieldForm ++
      if '\x00' ∈ value.toList then [] else untilNul after := by
  rw [toList_likeForm]
  apply Like.untilNul_flatMap (by decide)
  intro c hc
  unfold fieldForm
  split_ifs <;> simp [Ne.symm hc]

lemma untilNul_textPattern_escaped (value : String) : untilNul (textPattern (escaped value)).toList =
    '%' :: ((untilNul value.toList).flatMap textForm ++ if '\x00' ∈ value.toList then [] else ['%']) := by
  rw [toList_textPattern_escaped]
  have hform : ∀ c, c ≠ '\x00' → '\x00' ∉ textForm c := by
    intro c hc
    unfold textForm
    split_ifs <;> simp [Ne.symm hc]
  exact congrArg ('%' :: ·) (Like.untilNul_flatMap (by decide) hform value.toList ['%'])

lemma accepts_text_of_part {value : String} {before after s : List Char} {p : List Wild}
    (hbefore : Writes before p) (hnul : '\x00' ∉ before)
    (h : Like.accepts (some '\\') (before ++ ((likeForm value).toList ++ after)) s) :
    Like.accepts (some '\\') (textPattern (escaped value)).toList s := by
  obtain ⟨q, hq, hmatch⟩ := Like.accepts_iff_matches.mp h
  rw [Like.untilNul_append hnul, untilNul_likeForm, ← List.append_assoc,
    (hbefore.append (writes_fieldForm _)) _] at hq
  obtain ⟨r, hr, rfl⟩ := Option.map_eq_some_iff.mp hq
  rw [List.append_assoc] at hmatch
  obtain ⟨x, y, hs, -, hy⟩ := Wild.matches_append.mp hmatch
  obtain ⟨y, z, rfl, hvalue, hz⟩ := Wild.matches_append.mp hy
  have hrun : Writes ['%'] [.run] := Writes.char (c := '%') (by decide)
  have hform := hrun.append (writes_textForm (untilNul value.toList))
  have hloose := hvalue.loosened (loosens_textPlace _) fun _ => rfl
  have hfree (u : List Char) : ∀ c ∈ u, Like.alphabet.free c := fun _ _ => rfl
  apply Like.accepts_iff_matches.mpr
  rw [untilNul_textPattern_escaped, hs]
  -- a NUL in the value ends either pattern there, and the text has to end with what came before it
  split_ifs at hr ⊢ with hvalueNul
  · obtain rfl : r = [] := by simpa [places] using hr.symm
    obtain rfl := Wild.matches_nil.mp hz
    rw [List.append_nil, List.append_nil]
    exact ⟨_, hform.eq, .run x (hfree x) hloose⟩
  · have hend : Matches Like.alphabet [.run] z := by simpa using Matches.run z (hfree z) .nil
    refine ⟨_, (hform.append hrun).eq, ?_⟩
    exact .run x (hfree x) (hloose.append hend)

lemma exists_first_slot {slots : List (Option ℕ)} (h : slots.any Option.isSome) :
    ∃ k i post, slots = List.replicate k none ++ some i :: post := by
  obtain ⟨slot, hslot⟩ := Option.isSome_iff_exists.mp (List.find?_isSome.mpr (List.any_eq_true.mp h))
  obtain ⟨hsome, pre, post, hslots, hpre⟩ := List.find?_eq_some_iff_append.mp hslot
  obtain ⟨i, rfl⟩ := Option.isSome_iff_exists.mp hsome
  refine ⟨pre.length, i, post, ?_⟩
  have hnone : pre = List.replicate pre.length none := by
    apply List.eq_replicate_of_mem
    intro s hs
    simpa using hpre s hs
  rw [hslots, ← hnone]

lemma writes_unasked (k : ℕ) : Writes (List.replicate k ['%', Fields.separator]).flatten
    (List.replicate k [.run, .lit Fields.separator]).flatten := by
  induction k with
  | zero => exact .nil
  | succ k ih =>
    have hany : Writes ['%', Fields.separator] [.run, .lit Fields.separator] :=
      (Writes.char (c := '%') (by decide)).append (Writes.char (c := Fields.separator) (by decide))
    rw [List.replicate_succ, List.replicate_succ, List.flatten_cons, List.flatten_cons]
    exact hany.append ih

lemma blobPattern_parts {rs : List FieldRequest} {t : ProbedType} (h : t.slots.any Option.isSome)
    (combo : List ℕ) : ∃ k i after, some i ∈ t.slots ∧ (blobPattern rs t combo).toList =
      (List.replicate k ['%', Fields.separator]).flatten ++ ((likeForm (picked rs combo i)).toList ++ after) := by
  obtain ⟨k, i, post, hslots⟩ := exists_first_slot h
  let forms := (post.map (slotForm rs combo)).map String.toList
  refine ⟨k, i, forms.flatMap (Fields.separator :: ·), by simp [hslots], ?_⟩
  have hany : "%".toList = ['%'] := by decide
  rw [blobPattern, Fields.join, String.toList_ofList, hslots, List.map_append, List.map_append,
    List.map_cons, List.map_cons, Text.joinWith_append_cons, List.map_replicate, List.map_replicate,
    List.flatMap_replicate]
  simp only [slotForm, hany]
  rfl

variable {types : List NoteType} {name value : String} {n : Note}

lemma picked_single {t : ProbedType} (ht : t ∈ probedTypes types (fieldRequests [(name, value)]))
    {combo : List ℕ} (hcombo : combo ∈ choices (fieldRequests [(name, value)])) {i : ℕ}
    (hi : some i ∈ t.slots) : picked (fieldRequests [(name, value)]) combo i = value := by
  obtain ⟨t, -, rfl⟩ := List.mem_map.mp (List.mem_of_mem_filter ht)
  obtain ⟨field, -, hslot⟩ := List.mem_map.mp hi
  obtain ⟨r, hr, -⟩ := exists_of_findIdx?_name hslot
  obtain rfl : r = ⟨Text.lower name, [value]⟩ := List.mem_singleton.mp (List.mem_of_getElem? hr)
  exact List.mem_singleton.mp (picked_mem hcombo hr)

lemma accepts_text_of_passes {p : ProbeTerm} (hp : p ∈ probes types [(name, value)])
    (hpass : Passes n p) :
    Like.accepts (some '\\') (textPattern (escaped value)).toList n.blob.toList := by
  simp only [probes, probeTerms, List.mem_flatMap, List.mem_map] at hp
  obtain ⟨t, ht, combo, hcombo, rfl⟩ := hp
  obtain ⟨k, i, after, hi, hpattern⟩ := blobPattern_parts (List.mem_filter.mp ht).2 combo
  have hlike := hpass.2
  rw [hpattern, picked_single ht hcombo hi] at hlike
  refine accepts_text_of_part (writes_unasked k) ?_ hlike
  intro hnul
  obtain ⟨part, hpart, hin⟩ := List.mem_flatten.mp hnul
  rw [List.eq_of_mem_replicate hpart] at hin
  exact absurd hin (by decide)

variable {ctx : Context} {col : Collection} {query query' : String}

lemma findNotes_text {value : String} (hquery : Token.ofQuery query = [.text value])
    (hlimit : (textPattern value).utf8ByteSize ≤ Like.longest) :
    ∃ ids, Search.findNotes ctx col query = .ok ids ∧ ∀ id, id ∈ ids ↔ ∃ c ∈ col.cards.rows,
      ∃ n ∈ col.notes.rows, c.note = n.id ∧ n.id = id ∧ Met ctx col ⟨c, some n⟩ (.text value) := by
  let b : Bound := ⟨.contains, [textPattern value, textPattern value]⟩
  have hcompile : compile ctx col query = .ok (some (.ofBound [.term b])) := by
    rw [compile, hquery]
    rfl
  have hanswers : Answers b := ⟨filled_text value, by simpa [b] using hlimit⟩
  obtain ⟨ids, hids⟩ : ∃ ids, Search.findNotes ctx col query = .ok ids := by
    rw [Search.findNotes, hcompile]
    exact ⟨_, rfl⟩
  have hmet (row : Row) : Met ctx col row (.text value) ↔ b.holds? col.reviews.rows row = some true := by
    have hasked : asked? ctx col (.text value) = some b := rfl
    simp [Met, hasked]
  refine ⟨ids, hids, fun id => ?_⟩
  simp only [hmet]
  have hextent : b.extent? = some (.tree 4 0) := rfl
  have htwo : b.values.length ≤ Extent.mostValues := (by decide : 2 ≤ Extent.mostValues)
  have hfits := Statement.fits_alone hanswers.1 hextent (by decide) htwo
  exact mem_findNotes hanswers hfits hcompile hids id

lemma exists_passes_of_findNotes (hfield : (Token.command name value).asksField)
    (hquery : Token.ofQuery query = [.command name value])
    (hwidth : ∀ n ∈ col.notes.rows, ∀ t ∈ ctx.noteTypes, t.id = n.noteType →
      n.fields.length = t.fields.length)
    (hlimits : WithinLimits ctx.noteTypes query) {found : List Int}
    (hfound : Search.findNotes ctx col query = .ok found) {id : Int} (hid : id ∈ found) :
    ∃ c ∈ col.cards.rows, ∃ n ∈ col.notes.rows, c.note = n.id ∧ n.id = id ∧
      ∃ p ∈ probes ctx.noteTypes [(name, value)], Passes n p := by
  have hterms : fieldTermsOf query = [(name, value)] := by
    have hk : Command.ofKey? name = none := by simpa [Token.asksField] using hfield
    simp [fieldTermsOf, hquery, Token.fieldTerm?, hk]
  have hfit := hlimits.probes
  have hbuilt : ∀ t ∈ fieldTermsOf query, (confirming? t.2).isSome := fun t ht => by
    obtain ⟨r, hr, -⟩ := confirming?_of_weight (hlimits.confirming t ht)
    simp [hr]
  rw [hterms] at hfit hbuilt
  obtain ⟨ids, hids, -, -⟩ := exists_notes hfield hquery hfound (List.ne_nil_of_mem hid)
  -- the search goes by ids, and the sifting was about the stored note of that id
  obtain ⟨c, hc, n, hn, hown, rfl, hmem⟩ :=
    (mem_findNotes_notes (compile_field hfield hquery hids) hfound id).mp hid
  obtain ⟨m, hm, hmid, hpasses, -⟩ := listed_of_fieldTerms hwidth hbuilt hfit hids hmem
  obtain rfl : m = n := Table.eq_of_id_eq hm hn hmid
  exact ⟨c, hc, m, hn, hown, rfl, hpasses⟩

theorem field_among_text (hfield : (Token.command name value).asksField)
    (hquery : Token.ofQuery query = [.command name value])
    (hquery' : Token.ofQuery query' = [.text (escaped value)])
    (hwidth : ∀ n ∈ col.notes.rows, ∀ t ∈ ctx.noteTypes, t.id = n.noteType →
      n.fields.length = t.fields.length)
    (hlimits : WithinLimits ctx.noteTypes query)
    (hlimit : (textPattern (escaped value)).utf8ByteSize ≤ Like.longest) :
    (∃ ids ids', Search.findNotes ctx col query = .ok ids ∧
      Search.findNotes ctx col query' = .ok ids' ∧ ids ⊆ ids') ∧
    ('\\' ∉ value.toList → escaped value = value) := by
  refine ⟨?_, escaped_eq_self⟩
  obtain ⟨ids, hids⟩ : ∃ ids, Search.findNotes ctx col query = .ok ids := by
    obtain ⟨p, hp⟩ := compile_ok_of_width hwidth hlimits
    rw [Search.findNotes, hp]
    exact ⟨_, rfl⟩
  obtain ⟨ids', hids', hmem⟩ := @findNotes_text ctx col query' _ hquery' hlimit
  refine ⟨ids, ids', hids, hids', fun id hid => ?_⟩
  obtain ⟨c, hc, n, hn, hown, rfl, p, hp, hpass⟩ :=
    exists_passes_of_findNotes hfield hquery hwidth hlimits hids hid
  have hblob : Like.holds? (some '\\') (textPattern (escaped value)) n.blob = some true :=
    Like.holds?_eq_true.mpr ⟨hlimit, accepts_text_of_passes hp hpass⟩
  exact (hmem n.id).mpr ⟨c, hc, n, hn, hown, rfl, met_text.mpr ⟨n.blob, by simp, hblob⟩⟩

def backslashCollection : Collection :=
  { notes := ⟨[⟨1, 1, 0, 0, "", "a\\b\x1fx", "a\\b", 0⟩, ⟨2, 1, 0, 0, "", "x\x1fa\\b", "x", 0⟩],
      by simp [Keyed.id]⟩
    cards := ⟨[⟨11, 1, 1, 0, 0, 0, 0, 0, 0, 0, 0, 0, 0⟩, ⟨12, 2, 1, 0, 0, 0, 0, 0, 0, 0, 0, 0, 0⟩],
      by simp [Keyed.id]⟩
    reviews := .empty }

theorem field_among_text_sample :
    Token.ofQuery "front:a\\*" = [.command "front" "a\\*"] ∧
      Token.ofQuery "a\\\\*" = [.text (escaped "a\\*")] ∧
      WithinLimits sampleTypes "front:a\\*" ∧
      Search.findNotes sampleContext backslashCollection "front:a\\*" = .ok [1] ∧
      Search.findNotes sampleContext backslashCollection "a\\\\*" = .ok [1, 2] ∧
      ([1] : List Int) ⊆ [1, 2] := by
  have hquery : Token.ofQuery "front:a\\*" = [.command "front" "a\\*"] := by decide +kernel
  have hquery' : Token.ofQuery "a\\\\*" = [.text (escaped "a\\*")] := by decide +kernel
  have hlimits : WithinLimits sampleTypes "front:a\\*" :=
    ⟨⟨by decide +kernel, by decide +kernel⟩, by decide +kernel⟩
  have hfield : Search.findNotes sampleContext backslashCollection "front:a\\*" = .ok [1] := by
    decide +kernel
  have htext : Search.findNotes sampleContext backslashCollection "a\\\\*" = .ok [1, 2] := by
    decide +kernel
  have hamong : ∃ ids ids', Search.findNotes sampleContext backslashCollection "front:a\\*" = .ok ids ∧
      Search.findNotes sampleContext backslashCollection "a\\\\*" = .ok ids' ∧ ids ⊆ ids' :=
    (field_among_text (by decide) hquery hquery' (by decide +kernel) hlimits (by decide +kernel)).1
  obtain ⟨ids, ids', hids, hids', hsub⟩ := hamong
  rw [hfield] at hids
  rw [htext] at hids'
  cases hids
  cases hids'
  exact ⟨hquery, hquery', hlimits, hfield, htext, hsub⟩

theorem field_not_among_text :
    (Token.command "front" "a\\b").asksField ∧
      Token.ofQuery "front:a\\b" = [.command "front" "a\\b"] ∧
      Token.ofQuery "a\\b" = [.text "a\\b"] ∧
      (∀ n ∈ backslashCollection.notes.rows, ∀ t ∈ sampleTypes, t.id = n.noteType →
        n.fields.length = t.fields.length) ∧
      (∀ n ∈ backslashCollection.notes.rows, '\x00' ∉ n.blob.toList) ∧
      WithinLimits sampleTypes "front:a\\b" ∧ (textPattern "a\\b").utf8ByteSize ≤ Like.longest ∧
      Search.findNotes sampleContext backslashCollection "front:a\\b" = .ok [1] ∧
      Search.findNotes sampleContext backslashCollection "a\\b" = .ok [] := by
  have hlimits : WithinLimits sampleTypes "front:a\\b" :=
    ⟨⟨by decide +kernel, by decide +kernel⟩, by decide +kernel⟩
  refine ⟨by decide, ?_, ?_, ?_, ?_, hlimits, ?_, ?_, ?_⟩ <;> decide +kernel

end Query

end CardQuery
