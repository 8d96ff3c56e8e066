import CardQuery.Proofs.Collection.Table
import CardQuery.Proofs.Pattern.Confirming
import CardQuery.Proofs.Query.FieldRequest

/-!
The notes that field terms find. Sifting by LIKE finds exactly the notes that meet the terms, so that
the second look at every field confirms them all.
-/

namespace CardQuery.Query

def Passes (n : Note) (p : ProbeTerm) : Prop :=
  n.noteType = p.noteType ∧ Like.accepts (some '\\') p.pattern.toList n.blob.toList

lemma sift?_eq {n : Note} {terms : List ProbeTerm}
    (h : ∀ p ∈ terms, p.pattern.utf8ByteSize ≤ Like.longest) :
    ∃ v, sift? n terms = some v ∧ (v = true ↔ ∃ p ∈ terms, Passes n p) := by
  induction terms with
  | nil => exact ⟨false, rfl, by simp⟩
  | cons p ps ih =>
    obtain ⟨v, hv, hiff⟩ := ih fun q hq => h q (List.mem_cons_of_mem _ hq)
    have hlike : Like.holds? (some '\\') p.pattern n.blob =
        some (Like.accepts (some '\\') p.pattern.toList n.blob.toList) := by
      simp [Like.holds?, Nat.not_lt.mpr (h p (by simp))]
    by_cases ht : n.noteType = p.noteType
    · cases ha : Like.accepts (some '\\') p.pattern.toList n.blob.toList with
      | true => exact ⟨true, by simp [sift?, ht, hlike, ha], by simp [Passes, ht, ha]⟩
      | false => exact ⟨v, by simp [sift?, ht, hlike, ha, hv], by simp [hiff, Passes, ha]⟩
    · exact ⟨v, by simp [sift?, ht, hv], by simp [hiff, Passes, ht]⟩

lemma exists_mem_batches {size : ℕ} (hsize : 0 < size) {terms : List ProbeTerm} {p : ProbeTerm} :
    (∃ batch ∈ batches size terms, p ∈ batch) ↔ p ∈ terms := by
  simp only [batches, List.mem_map, List.mem_range, exists_exists_and_eq_and]
  constructor
  · rintro ⟨i, -, hp⟩
    exact List.mem_of_mem_drop (List.mem_of_mem_take hp)
  · intro hp
    obtain ⟨k, hk, rfl⟩ := List.mem_iff_getElem.mp hp
    have hdiv := Nat.div_add_mod k size
    have hmod := Nat.mod_lt k hsize
    refine ⟨k / size, ?_, ?_⟩
    · have hceil := Nat.div_add_mod (terms.length + (size - 1)) size
      have hrest := Nat.mod_lt (terms.length + (size - 1)) hsize
      rw [Nat.div_lt_iff_lt_mul hsize, Nat.mul_comm]
      omega
    · refine List.mem_iff_getElem.mpr ⟨k % size, ?_, ?_⟩
      · simp only [List.length_take, List.length_drop]
        rw [Nat.mul_comm]
        omega
      · simp only [List.getElem_take, List.getElem_drop]
        congr 1
        rw [Nat.mul_comm]
        exact hdiv

lemma mem_foldl_insert {notes : Table Note} {ns : List Note} (hns : ∀ n ∈ ns, n ∈ notes.rows)
    {found : Table Note} (hfound : ∀ n ∈ found.rows, n ∈ notes.rows) (n : Note) :
    n ∈ (ns.foldl Table.insert found).rows ↔ n ∈ found.rows ∨ n ∈ ns := by
  induction ns generalizing found with
  | nil => simp
  | cons m ns ih =>
    have hm : m ∈ notes.rows := hns m (by simp)
    have hinsert (x : Note) : x ∈ (found.insert m).rows ↔ x = m ∨ x ∈ found.rows := by
      rw [Table.mem_insert]
      constructor
      · exact Or.imp_right And.left
      · rintro (rfl | hx)
        · exact Or.inl rfl
        · by_cases hid : Keyed.id x = Keyed.id m
          · exact Or.inl (Table.eq_of_id_eq (hfound x hx) hm hid)
          · exact Or.inr ⟨hx, hid⟩
    rw [List.foldl_cons, ih (fun x hx => hns x (by simp [hx])) fun x hx => ?_, hinsert]
    · simp only [List.mem_cons]
      tauto
    · rcases (hinsert x).mp hx with rfl | hx
      · exact hm
      · exact hfound x hx

structure Fit (terms : List ProbeTerm) : Prop where
  short : ∀ p ∈ terms, p.pattern.utf8ByteSize ≤ Like.longest
  small : ∀ batch ∈ batches batchSize terms, probeFits batch

lemma gather_eq {notes : Table Note} {batches : List (List ProbeTerm)}
    (h : ∀ batch ∈ batches, probeFits batch ∧ ∀ p ∈ batch, p.pattern.utf8ByteSize ≤ Like.longest)
    {found : Table Note} (hfound : ∀ n ∈ found.rows, n ∈ notes.rows) :
    ∃ all, gather notes found batches = .ok all ∧ ∀ n, n ∈ all.rows ↔
      n ∈ found.rows ∨ n ∈ notes.rows ∧ ∃ batch ∈ batches, ∃ p ∈ batch, Passes n p := by
  induction batches generalizing found with
  | nil => exact ⟨found, rfl, by simp⟩
  | cons batch rest ih =>
    obtain ⟨hfits, hbatch⟩ := h batch (by simp)
    have hkeep : Table.keep? (sift? · batch) notes.rows =
        some (notes.rows.filter (sift? · batch == some true)) :=
      Table.keep?_eq_filter fun n _ => by
        obtain ⟨v, hv, -⟩ := sift?_eq (n := n) hbatch
        simp [hv]
    have hmem (n : Note) : n ∈ notes.rows.filter (sift? · batch == some true) ↔
        n ∈ notes.rows ∧ ∃ p ∈ batch, Passes n p := by
      obtain ⟨v, hv, hiff⟩ := sift?_eq (n := n) hbatch
      simp [List.mem_filter, hv, hiff]
    have hfold := mem_foldl_insert (fun n hn => ((hmem n).mp hn).1) hfound
    have hstored : ∀ n ∈ ((notes.rows.filter (sift? · batch == some true)).foldl Table.insert found).rows,
        n ∈ notes.rows := by
      intro n hn
      rcases (hfold n).mp hn with hn | hn
      · exact hfound n hn
      · exact ((hmem n).mp hn).1
    obtain ⟨all, hall, hiff⟩ := ih (fun b hb => h b (by simp [hb])) hstored
    refine ⟨all, by simp [gather, hfits, hkeep, hall], fun n => ?_⟩
    rw [hiff, hfold, hmem]
    simp only [List.mem_cons, exists_eq_or_imp]
    rw [and_or_left, or_assoc]

lemma gather_batches (notes : Table Note) {terms : List ProbeTerm} (h : Fit terms) :
    ∃ all, gather notes .empty (batches batchSize terms) = .ok all ∧
      ∀ n, n ∈ all.rows ↔ n ∈ notes.rows ∧ ∃ p ∈ terms, Passes n p := by
  have hbatches {p : ProbeTerm} : (∃ batch ∈ batches batchSize terms, p ∈ batch) ↔ p ∈ terms :=
    exists_mem_batches (by decide)
  have hfits : ∀ batch ∈ batches batchSize terms,
      probeFits batch ∧ ∀ p ∈ batch, p.pattern.utf8ByteSize ≤ Like.longest :=
    fun batch hb => ⟨h.small batch hb, fun p hp => h.short p (hbatches.mp ⟨batch, hb, hp⟩)⟩
  have hnone : ∀ n ∈ (Table.empty : Table Note).rows, n ∈ notes.rows := by simp [Table.empty]
  obtain ⟨all, hall, hmem⟩ := gather_eq hfits hnone
  refine ⟨all, hall, fun n => ?_⟩
  rw [hmem]
  simp only [Table.empty, List.not_mem_nil, false_or, ← hbatches]
  apply and_congr_right
  intro _
  constructor
  · rintro ⟨batch, hb, p, hp, hpass⟩
    exact ⟨p, ⟨batch, hb, hp⟩, hpass⟩
  · rintro ⟨p, ⟨batch, hb, hp⟩, hpass⟩
    exact ⟨batch, hb, p, hp, hpass⟩

variable {types : List NoteType} {terms : List (String × String)} {rs : List FieldRequest}

def Defines (terms : List (String × String)) (t : NoteType) : Prop :=
  ∃ field ∈ t.fields, ∃ v, Requested terms (Text.lower field) v

/-- The note's type has a requested field, and for some choice of one pattern for each requested name
every field with such a name matches. -/
def NoteMeets (types : List NoteType) (terms : List (String × String)) (n : Note) : Prop :=
  ∃ t ∈ types, t.id = n.noteType ∧ Defines terms t ∧
    ∃ pick, Choice terms pick ∧ List.Forall₂ (FieldMeets terms pick) t.fields n.fields

def probed (rs : List FieldRequest) (t : NoteType) : ProbedType := ⟨t.id, t.fields.map (slot rs)⟩

lemma Requests.mem_probedTypes (h : Requests terms rs) {p : ProbedType} :
    p ∈ probedTypes types rs ↔ ∃ t ∈ types, Defines terms t ∧ p = probed rs t := by
  have hany (t : NoteType) : (probed rs t).slots.any Option.isSome ↔ Defines terms t := by
    have hslot (field : String) : (slot rs field).isSome ↔ ∃ v, Requested terms (Text.lower field) v :=
      h.isSome_findIdx? _
    simp only [probed, Defines, List.any_map, List.any_eq_true, Function.comp_apply, hslot]
  simp only [probedTypes, List.mem_filter, List.mem_map]
  constructor
  · rintro ⟨⟨t, ht, rfl⟩, hslots⟩
    exact ⟨t, ht, (hany t).mp hslots, rfl⟩
  · rintro ⟨t, ht, hdef, rfl⟩
    exact ⟨⟨t, ht, rfl⟩, (hany t).mpr hdef⟩

section Confirming

variable (rs : List FieldRequest) (combos : List (List ℕ))

lemma confirm_ok {n : Note}
    (hwidth : ∀ t ∈ types, t.id = n.noteType → n.fields.length = t.fields.length) :
    ∃ b, confirm rs (probedTypes types rs) combos n = .ok b := by
  rw [confirm]
  cases hfind : (probedTypes types rs).find? (·.id == n.noteType) with
  | none => exact ⟨false, rfl⟩
  | some p =>
    obtain ⟨t, ht, rfl⟩ : ∃ t ∈ types, probed rs t = p :=
      List.mem_map.mp (List.mem_of_mem_filter (List.mem_of_find?_eq_some hfind))
    have htype : t.id = n.noteType := by simpa [probed] using List.find?_some hfind
    exact ⟨_, if_neg (by simp [probed, hwidth t ht htype])⟩

lemma confirmNotes_eq {ps : List ProbedType} {ns : List Note}
    (h : ∀ n ∈ ns, ∃ b, confirm rs ps combos n = .ok b) :
    ∃ ids, confirmNotes rs ps combos ns = .ok ids ∧ ids.Sublist (ns.map Note.id) ∧
      ∀ id, id ∈ ids ↔ ∃ n ∈ ns, n.id = id ∧ confirm rs ps combos n = .ok true := by
  induction ns with
  | nil => exact ⟨[], rfl, .slnil, by simp⟩
  | cons n ns ih =>
    obtain ⟨hn, hns⟩ := List.forall_mem_cons.mp h
    obtain ⟨ids, hids, hsub, hmem⟩ := ih hns
    obtain ⟨b, hb⟩ := hn
    cases b with
    | true =>
      refine ⟨n.id :: ids, by simp [confirmNotes, hb, hids, Except.map], hsub.cons_cons _, fun id => ?_⟩
      simp [hmem, hb, eq_comm]
    | false =>
      refine ⟨ids, by simp [confirmNotes, hb, hids], hsub.cons _, fun id => ?_⟩
      simp [hmem, hb]

end Confirming

def probes (types : List NoteType) (terms : List (String × String)) : List ProbeTerm :=
  probeTerms (fieldRequests terms) (probedTypes types (fieldRequests terms))
    (choices (fieldRequests terms))

def Listed (types : List NoteType) (terms : List (String × String)) (n : Note) : Prop :=
  (∃ p ∈ probes types terms, Passes n p) ∧
    confirm (fieldRequests terms) (probedTypes types (fieldRequests terms))
      (choices (fieldRequests terms)) n = .ok true

lemma fieldTerms_unbuilt {col : Collection}
    (h : ∃ t ∈ terms, confirming? t.2 = none) : fieldTerms types col terms = .error .badPattern := by
  obtain ⟨t, ht, hnone⟩ := h
  have hany : terms.any fun t => (confirming? t.2).isNone :=
    List.any_eq_true.mpr ⟨t, ht, by rw [hnone]; rfl⟩
  rw [fieldTerms, if_pos hany]

section Resolved

variable {col : Collection}
  (hlen : ∀ n ∈ col.notes.rows, ∀ t ∈ types, t.id = n.noteType → n.fields.length = t.fields.length)
  (hbuilt : ∀ t ∈ terms, (confirming? t.2).isSome) (hfit : Fit (probes types terms))
include hlen hbuilt hfit

lemma fieldTerms_listed :
    (∀ t ∈ types, ¬ Defines terms t) ∧ fieldTerms types col terms = .ok .invalid ∨
      (∃ t ∈ types, Defines terms t) ∧ ∃ ids : List Int, ids.Pairwise (· < ·) ∧
        (∀ id, id ∈ ids ↔ ∃ n ∈ col.notes.rows, n.id = id ∧ Listed types terms n) ∧
        fieldTerms types col terms = .ok (.condition (if ids = [] then .never else .notes ids)) := by
  have hall : (terms.any fun t => (confirming? t.2).isNone) = false := by
    rw [List.any_eq_false]
    intro t ht
    simp [Option.isSome_iff_ne_none.mp (hbuilt t ht)]
  by_cases hempty : (probedTypes types (fieldRequests terms)).isEmpty
  · refine Or.inl ⟨fun t ht hdef => ?_, by simp [fieldTerms, hall, hempty]⟩
    have hmem := (requests_fieldRequests terms).mem_probedTypes.mpr ⟨t, ht, hdef, rfl⟩
    rw [List.isEmpty_iff.mp hempty] at hmem
    cases hmem
  · obtain ⟨p, hp⟩ := List.exists_mem_of_ne_nil _ (mt List.isEmpty_iff.mpr hempty)
    obtain ⟨t, ht, hdef, -⟩ := (requests_fieldRequests terms).mem_probedTypes.mp hp
    obtain ⟨found, hfound, hmem⟩ := gather_batches col.notes hfit
    obtain ⟨ids, hids, hsub, hconfirmed⟩ := confirmNotes_eq (fieldRequests terms)
      (choices (fieldRequests terms)) fun n hn => confirm_ok _ _ (hlen n ((hmem n).mp hn).1)
    refine Or.inr ⟨⟨t, ht, hdef⟩, ids, (List.pairwise_map.mpr found.increasing).sublist hsub,
      fun id => ?_, ?_⟩
    · rw [hconfirmed]
      simp only [hmem, Listed, probes]
      grind
    · rw [probes] at hfound
      simp only [fieldTerms, hall, Bool.false_eq_true, if_false, if_neg hempty, hfound, hids]
      cases ids <;> rfl

lemma fieldTerms_ok : ∃ r, fieldTerms types col terms = .ok r := by
  rcases fieldTerms_listed hlen hbuilt hfit with ⟨-, hr⟩ | ⟨-, ids, -, -, hr⟩
  · exact ⟨_, hr⟩
  · exact ⟨_, hr⟩

lemma listed_of_fieldTerms {ids : List Int}
    (h : fieldTerms types col terms = .ok (.condition (.notes ids))) {id : Int} (hid : id ∈ ids) :
    ∃ n ∈ col.notes.rows, n.id = id ∧ Listed types terms n := by
  rcases fieldTerms_listed hlen hbuilt hfit with ⟨-, hr⟩ | ⟨-, ids', -, hmem, hr⟩
  · rw [hr] at h
    cases h
  · rw [hr] at h
    split at h
    · cases h
    · cases h
      exact (hmem id).mp hid

end Resolved

section Meeting

lemma forall_picked (h : Requests terms rs) {P : String → Prop} (hnone : P "")
    (hterms : ∀ t ∈ terms, P t.2) (combo : List ℕ) (i : ℕ) : P (picked rs combo i) := by
  cases hr : rs[i]? with
  | none => simpa [picked, hr] using hnone
  | some r =>
    rw [picked_eq hr]
    cases hv : r.values[combo.getD i 0]? with
    | none => simpa using hnone
    | some v =>
      obtain ⟨f, hf, -⟩ := (h.requested r.name v).mp
        ⟨r, List.mem_of_getElem? hr, rfl, List.mem_of_getElem? hv⟩
      exact hterms _ hf

lemma nul_notMem_blobPattern (h : Requests terms rs) (hterms : ∀ t ∈ terms, '\x00' ∉ t.2.toList)
    (t : ProbedType) (combo : List ℕ) : '\x00' ∉ (blobPattern rs t combo).toList := by
  have hpicked := forall_picked h (P := fun s => '\x00' ∉ s.toList) (by simp) hterms combo
  apply nul_notMem_join
  rw [List.forall_mem_map]
  rintro (_ | i) -
  · have hany : '\x00' ∉ "%".toList := by decide
    exact hany
  · exact nul_notMem_likeForm (hpicked i)

lemma confirm_eq (hids : (types.map NoteType.id).Nodup) (h : Requests terms rs) {t : NoteType}
    (ht : t ∈ types) (hdef : Defines terms t) {n : Note} (hn : t.id = n.noteType)
    (hlen : n.fields.length = t.fields.length) {combo : List ℕ} {combos : List (List ℕ)}
    (hcombo : combo ∈ combos)
    (hmeets : List.Forall₂ (SlotMeets rs combo) (t.fields.map (slot rs)) n.fields) :
    confirm rs (probedTypes types rs) combos n = .ok true := by
  have hnodup : ((probedTypes types rs).map ProbedType.id).Nodup := by
    have hsub := List.filter_sublist (p := fun p : ProbedType => p.slots.any Option.isSome)
      (l := types.map (probed rs))
    apply (hsub.map ProbedType.id).nodup
    rw [List.map_map]
    exact hids
  have hfind : (probedTypes types rs).find? (·.id == n.noteType) = some (probed rs t) :=
    (find?_key_iff hnodup).mpr ⟨h.mem_probedTypes.mpr ⟨t, ht, hdef, rfl⟩, hn⟩
  have hconfirms : confirms rs (probed rs t) n.fields combo := by
    apply List.all_eq_true.mpr
    rintro ⟨slot, field⟩ hmem
    have hslot := List.forall₂_zip hmeets hmem
    cases slot with
    | none => rfl
    | some i => exact fieldAccepts_of_glob (hslot i rfl)
  have hany : combos.any (confirms rs (probed rs t) n.fields) = true :=
    List.any_eq_true.mpr ⟨combo, hcombo, hconfirms⟩
  have hcount : ¬ n.fields.length ≠ (probed rs t).slots.length := by simp [probed, hlen]
  simp only [confirm, hfind, if_neg hcount, hany]

variable {n : Note}
  (hwidth : ∀ t ∈ types, t.id = n.noteType → n.fields.length = t.fields.length)
include hwidth

lemma NoteMeets.listed (hmeets : NoteMeets types terms n) (hids : (types.map NoteType.id).Nodup)
    (hblob : '\x00' ∉ n.blob.toList) (hterms : ∀ t ∈ terms, '\x00' ∉ t.2.toList) :
    Listed types terms n := by
  have h := requests_fieldRequests terms
  obtain ⟨t, ht, htype, hdef, hpick⟩ := hmeets
  obtain ⟨combo, hcombo, hslots⟩ := (exists_combination_iff h _ _).mpr hpick
  have hlen := hwidth t ht htype
  let u := probed (fieldRequests terms) t
  have hprobe : ⟨u.id, blobPattern (fieldRequests terms) u combo, u.slots.length⟩ ∈ probes types terms := by
    simp only [probes, probeTerms, List.mem_flatMap, List.mem_map]
    exact ⟨u, h.mem_probedTypes.mpr ⟨t, ht, hdef, rfl⟩, combo, hcombo, rfl⟩
  have hlike := like_blobPattern (nul_notMem_blobPattern h hterms u combo) hblob
    (by simpa [u, probed, Note.fields] using hlen)
  refine ⟨⟨_, hprobe, htype.symm, hlike.mpr ?_⟩, confirm_eq hids h ht hdef htype hlen hcombo hslots⟩
  exact hslots.imp fun slot field => SlotMeets.like

lemma Listed.meets (hlisted : Listed types terms n) (hblob : Like.Plain n.blob.toList)
    (hterms : ∀ t ∈ terms, Like.Plain t.2.toList) : NoteMeets types terms n := by
  have h := requests_fieldRequests terms
  obtain ⟨⟨p, hp, htype, hlike⟩, -⟩ := hlisted
  simp only [probes, probeTerms, List.mem_flatMap, List.mem_map] at hp
  obtain ⟨_, hp, combo, hcombo, rfl⟩ := hp
  obtain ⟨t, ht, hdef, rfl⟩ := h.mem_probedTypes.mp hp
  have hlen := hwidth t ht htype.symm
  rw [like_blobPattern (nul_notMem_blobPattern h (fun t ht => (hterms t ht).nul_notMem) _ combo)
    hblob.nul_notMem (by simpa [probed, Note.fields] using hlen)] at hlike
  refine ⟨t, ht, htype.symm, hdef, (exists_combination_iff h _ _).mp ⟨combo, hcombo, ?_⟩⟩
  have hpicked := forall_picked h (P := fun s => Like.Plain s.toList) (by simp [Like.Plain]) hterms combo
  obtain ⟨hlength, hzip⟩ := List.forall₂_iff_zip.mp hlike
  refine List.forall₂_iff_zip.mpr ⟨hlength, fun {slot field} hmem => ?_⟩
  apply slotMeets_of_like hpicked _ (hzip hmem)
  exact fun c hc => hblob c (Fields.subset_of_mem_split (List.of_mem_zip hmem).2 hc)

end Meeting

/-- The field terms of a query have no meaning when no note type has a requested field. Otherwise they
ask for the notes that meet them, each once and in ascending order. -/
theorem fieldTerms_eq {col : Collection} (hids : (types.map NoteType.id).Nodup)
    (hlen : ∀ n ∈ col.notes.rows, ∀ t ∈ types, t.id = n.noteType → n.fields.length = t.fields.length)
    (hblobs : ∀ n ∈ col.notes.rows, Like.Plain n.blob.toList)
    (hterms : ∀ t ∈ terms, Like.Plain t.2.toList) (hbuilt : ∀ t ∈ terms, (confirming? t.2).isSome)
    (hfit : Fit (probes types terms)) :
    (fieldTerms types col terms = .ok .invalid ↔ ∀ t ∈ types, ¬ Defines terms t) ∧
      ((∃ t ∈ types, Defines terms t) → ∃ ids : List Int, ids.Pairwise (· < ·) ∧
        (∀ id, id ∈ ids ↔ ∃ n ∈ col.notes.rows, n.id = id ∧ NoteMeets types terms n) ∧
        fieldTerms types col terms =
          .ok (.condition (if ids = [] then .never else .notes ids))) := by
  have hmeets : ∀ n ∈ col.notes.rows, (Listed types terms n ↔ NoteMeets types terms n) := by
    intro n hn
    constructor
    · exact fun h => h.meets (hlen n hn) (hblobs n hn) hterms
    · exact fun h => h.listed (hlen n hn) hids (hblobs n hn).nul_notMem fun t ht => (hterms t ht).nul_notMem
  rcases fieldTerms_listed hlen hbuilt hfit with ⟨hnone, hr⟩ | ⟨⟨t, ht, hdef⟩, ids, hsorted, hmem, hr⟩
  · exact ⟨iff_of_true hr hnone, fun ⟨t, ht, hdef⟩ => absurd hdef (hnone t ht)⟩
  · refine ⟨iff_of_false (by simp [hr]) fun hnone => hnone t ht hdef, fun _ => ⟨ids, hsorted, ?_, hr⟩⟩
    intro id
    rw [hmem]
    apply exists_congr
    intro n
    apply and_congr_right
    intro hn
    rw [hmeets n hn]

def sampleTypes : List NoteType :=
  [⟨1, "Basic", .standard, ["Front", "Back"], [], 0⟩, ⟨2, "Vocabulary", .standard, ["FRONT", "Hint"], [], 0⟩]

def sampleCollection : Collection :=
  { notes := ⟨[⟨1, 1, 0, 0, "", "cat\x1fchat", "cat", 0⟩, ⟨2, 1, 0, 0, " pet ", "dog\x1fchien", "dog", 0⟩,
      ⟨3, 2, 0, 0, "", "sun\x1f", "sun", 0⟩], by simp [Keyed.id]⟩
    cards := ⟨[⟨11, 1, 1, 0, 0, 0, 0, 0, 0, 0, 0, 0, 0⟩, ⟨12, 2, 1, 0, 0, 0, 0, 0, 0, 0, 0, 0, 0⟩,
      ⟨13, 3, 1, 0, 0, 0, 0, 0, 0, 0, 0, 0, 0⟩], by simp [Keyed.id]⟩
    reviews := .empty }

def sampleContext : Context := ⟨sampleTypes, ⟨[], 1⟩, ⟨10, 864000⟩, .default, 0⟩

def sampleTerms : List (String × String) := [("front", "c*"), ("Back", "_h*"), ("front", "S_n")]

def askedNotes? : Except Fault (Reading Condition) → Option (List Int)
  | .ok (.condition (.notes ids)) => some ids
  | _ => none

lemma eq_of_askedNotes {r : Except Fault (Reading Condition)} {ids : List Int} (h : askedNotes? r = some ids) :
    r = .ok (.condition (.notes ids)) := by
  unfold askedNotes? at h
  split at h
  · cases h
    rfl
  · cases h

theorem fieldTerms_sample :
    fieldTerms sampleTypes sampleCollection sampleTerms = .ok (.condition (.notes [1, 3])) ∧
      ∀ id, id ∈ ([1, 3] : List Int) ↔
        ∃ n ∈ sampleCollection.notes.rows, n.id = id ∧ NoteMeets sampleTypes sampleTerms n := by
  have hdef : ∃ t ∈ sampleTypes, Defines sampleTerms t :=
    ⟨_, List.mem_cons_self, "Front", List.mem_cons_self, "c*", "front", List.mem_cons_self, by decide⟩
  have hfit : Fit (probes sampleTypes sampleTerms) := by constructor <;> decide +kernel
  have hterms := @fieldTerms_eq sampleTypes sampleTerms sampleCollection (by decide) (by decide)
    (by decide +kernel) (by decide +kernel) (by decide +kernel) hfit
  obtain ⟨ids, -, hmem, hfound⟩ := hterms.2 hdef
  have hasked : fieldTerms sampleTypes sampleCollection sampleTerms = .ok (.condition (.notes [1, 3])) :=
    eq_of_askedNotes (by decide +kernel)
  rw [hasked] at hfound
  split_ifs at hfound with hnone
  · cases hfound
  · obtain rfl : ids = [1, 3] := by simpa using hfound.symm
    exact ⟨hasked, hmem⟩

def strayNote : Note := ⟨1, 1, 0, 0, "", "\u212a\uffffk\ufffe\x1fx", "", 0⟩

def strayCollection : Collection := ⟨⟨[strayNote], by simp⟩, .empty, .empty⟩

def strayTerms : List (String × String) := [("front", "*k\uffff*")]

lemma stray_unmet : ¬ NoteMeets sampleTypes strayTerms strayNote := by
  rintro ⟨t, ht, htype, -, pick, hpick, hmeets⟩
  obtain rfl : t = ⟨1, "Basic", .standard, ["Front", "Back"], [], 0⟩ := by
    simp only [sampleTypes, List.mem_cons, List.not_mem_nil, or_false] at ht
    rcases ht with rfl | rfl
    · rfl
    · cases htype
  have hfields : strayNote.fields = ["\u212a\uffffk\ufffe", "x"] := by decide
  have hasked : Requested strayTerms (Text.lower "Front") "*k\uffff*" :=
    ⟨"front", List.mem_cons_self, by decide⟩
  obtain ⟨field, hfield, -⟩ := hpick _ _ hasked
  have hpicked : pick (Text.lower "Front") = "*k\uffff*" := by
    simpa [strayTerms] using (Prod.mk.inj (List.mem_singleton.mp hfield)).2
  rw [hfields] at hmeets
  cases hmeets with
  | cons hfront _ =>
    have hglob := hfront ⟨_, hasked⟩
    rw [hpicked] at hglob
    exact absurd hglob (by decide)

/-- LIKE lets a note through for a character that reads like another, and a pattern that outgrows the
limit is an error even where no note type has the field. -/
theorem fieldTerms_strays :
    (fieldTerms sampleTypes strayCollection strayTerms = .ok (.condition (.notes [1])) ∧
      ∀ n ∈ strayCollection.notes.rows, ¬ NoteMeets sampleTypes strayTerms n) ∧
    fieldTerms sampleTypes sampleCollection
      [("front", "c*"), ("nosuch", String.ofList (List.replicate 400000 '_'))] = .error .badPattern := by
  refine ⟨⟨eq_of_askedNotes (by decide +kernel), ?_⟩, fieldTerms_unbuilt ⟨_, List.mem_cons_of_mem _
    List.mem_cons_self, confirming?_underscores (by decide)⟩⟩
  simpa [strayCollection] using stray_unmet

end CardQuery.Query
