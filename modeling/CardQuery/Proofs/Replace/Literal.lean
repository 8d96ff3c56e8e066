import CardQuery.Proofs.Collection.Derived
import CardQuery.Proofs.Pattern.Literal

/-!
Replacing literal text. A value is scanned from the left for occurrences of the text, and where the
replacement has nothing in common with the text, doing it again changes nothing.
-/

namespace CardQuery

namespace Pattern

variable {ignoreCase : Bool} {source rep s r : List Char}

lemma Scanned.isPrefix_of_isPrefix (hrep : rep ≠ []) (h : Scanned ignoreCase source rep s r) {m : List Char}
    (hm : ∀ c ∈ m, c ∉ rep) (hbegin : m <+: r) : m <+: s := by
  induction h generalizing m with
  | done => exact hbegin
  | keep _ _ ih =>
    cases m with
    | nil => exact List.nil_prefix
    | cons c m =>
      obtain ⟨rfl, hrest⟩ := List.cons_prefix_cons.mp hbegin
      exact List.cons_prefix_cons.mpr ⟨rfl, ih (fun d hd => hm d (List.mem_cons_of_mem _ hd)) hrest⟩
  | swap _ _ _ =>
    cases m with
    | nil => exact List.nil_prefix
    | cons c m =>
      obtain ⟨d, rep, rfl⟩ := List.exists_cons_of_ne_nil hrep
      obtain ⟨rfl, -⟩ := List.cons_prefix_cons.mp hbegin
      exact absurd List.mem_cons_self (hm c List.mem_cons_self)

variable (hsource : source ≠ []) (hapart : ∀ c ∈ source, ∀ d ∈ rep, ¬SameChar ignoreCase c d)

include hapart in
lemma notMem_of_stands {m : List Char} (h : Stands ignoreCase source m) : ∀ d ∈ m, d ∉ rep := by
  intro d hd hrep
  obtain ⟨c, hc, hsame⟩ := Replace.exists_mem_of_forall₂ h.flip hd
  exact hapart c hc d hrep hsame

include hsource hapart in
lemma scanned_append_self {p : List Char} (hp : p ⊆ rep) (h : Scanned ignoreCase source rep r r) :
    Scanned ignoreCase source rep (p ++ r) (p ++ r) := by
  induction p with
  | nil => exact h
  | cons d p ih =>
    obtain ⟨hd, hp⟩ := List.cons_subset.mp hp
    refine .keep ?_ (ih hp)
    rintro ⟨m, t, heq, hm⟩
    cases m with
    | nil => exact hsource (List.forall₂_nil_right_iff.mp hm)
    | cons c m =>
      obtain ⟨rfl, -⟩ := List.cons_eq_cons.mp heq
      exact notMem_of_stands hapart hm d List.mem_cons_self hd

include hsource hapart in
theorem Scanned.again (hrep : rep ≠ []) (h : Scanned ignoreCase source rep s r) :
    Scanned ignoreCase source rep r r := by
  induction h with
  | done => exact .done
  | @keep c s r hbegins hrest ih =>
    refine .keep ?_ ih
    rintro ⟨m, t, heq, hm⟩
    have hbegin : m <+: c :: s := (Scanned.keep hbegins hrest).isPrefix_of_isPrefix hrep
      (notMem_of_stands hapart hm) ⟨t, heq.symm⟩
    obtain ⟨u, hu⟩ := hbegin
    exact hbegins ⟨m, u, hu.symm, hm⟩
  | swap _ _ ih => exact scanned_append_self hsource hapart (List.Subset.refl rep) ih

end Pattern

namespace Replace

open Pattern

variable {o : ReplaceOptions} {target replacement : String} {edit : String → String}

lemma editor?_literal (hliteral : o.isRegex = false) (target replacement : String) :
    editor? o target replacement =
      if Reader.heaviest < (literalTree (.start o.ignoreCase) target.toList).weight then none
      else some fun value => String.ofList (replaceAll
        (literalTree (.start o.ignoreCase) target.toList) (fun _ => replacement.toList) value.toList) := by
  have hread : Regex.read? o.ignoreCase (escape target) = _ := readUnder?_escape rfl target
  simp only [editor?, hliteral, Bool.false_eq_true, if_false, hread]
  split <;> rfl

lemma edit_eq_iff (hliteral : o.isRegex = false) (hedit : editor? o target replacement = some edit)
    (value result : String) : edit value = result ↔
      Substituted o.ignoreCase target.toList replacement.toList value.toList result.toList := by
  rw [editor?_literal hliteral] at hedit
  split at hedit
  · cases hedit
  · obtain rfl := Option.some_inj.mp hedit
    rw [← replaceAll_literalTree, ← String.toList_inj, String.toList_ofList]

theorem literal_edit (hliteral : o.isRegex = false) :
    ((literalTree (.start o.ignoreCase) target.toList).weight ≤ Reader.heaviest →
      ∃ edit, editor? o target replacement = some edit) ∧
    ∀ edit, editor? o target replacement = some edit → ∀ value result, edit value = result ↔
      Substituted o.ignoreCase target.toList replacement.toList value.toList result.toList := by
  refine ⟨fun hsize => ?_, fun edit hedit => edit_eq_iff hliteral hedit⟩
  rw [editor?_literal hliteral, if_neg (Nat.not_lt.mpr hsize)]
  exact ⟨_, rfl⟩

theorem literal_edit_sample : ∃ edit, editor? ⟨false, none, true⟩ "a.a" "$0" = some edit ∧
    edit "A.A.axa" = "$0.axa" := by
  obtain ⟨hsome, hedit⟩ := @literal_edit ⟨false, none, true⟩ "a.a" "$0" rfl
  obtain ⟨edit, heq⟩ := hsome (by decide +kernel)
  have hscanned : Scanned true "a.a".toList "$0".toList ("A.A".toList ++ ".axa".toList)
      ("$0".toList ++ ".axa".toList) :=
    .swap (by decide +kernel) <| .keep (by decide +kernel) <| .keep (by decide +kernel) <|
      .keep (by decide +kernel) <| .keep (by decide +kernel) .done
  exact ⟨edit, heq, (hedit edit heq _ _).mpr hscanned⟩

section Again

variable {refuses refuses' : NoteEdit → Bool} {ctx : Context} {now now' : Int} {ids : List Int}
  {s s' : Effects} {ps : Option (List (Int × ℕ))} {n : Note} {ns : List Note} {es : List NoteEdit}

lemma edit_edit (hliteral : o.isRegex = false) (hedit : editor? o target replacement = some edit)
    (htarget : target ≠ "") (hreplacement : replacement ≠ "")
    (hapart : ∀ c ∈ target.toList, ∀ d ∈ replacement.toList, ¬SameChar o.ignoreCase c d)
    (value : String) : edit (edit value) = edit value := by
  have hsource : target.toList ≠ [] := by simpa using htarget
  have hrep : replacement.toList ≠ [] := by simpa using hreplacement
  have hscanned := (edit_eq_iff hliteral hedit value _).mp rfl
  rw [edit_eq_iff hliteral hedit]
  rw [Substituted, if_neg hsource] at hscanned ⊢
  exact hscanned.again hsource hapart hrep

lemma edited?_of_edited (hagain : ∀ v, edit (edit v) = edit v) {fields : List String} {n' : Note}
    (h : edited? edit ps n = .ok (some fields)) (htype : n'.noteType = n.noteType)
    (hfields : n'.fields = fields) : edited? edit ps n' = .ok (some n'.fields) := by
  subst hfields
  unfold edited? at h ⊢
  cases ps with
  | none =>
    have hmap : n.fields.map edit = n'.fields := by simpa using h
    simp [← hmap, hagain]
  | some ps =>
    simp only [htype] at h ⊢
    cases hposition : position? ps n.noteType with
    | none => simp [hposition] at h
    | some i =>
      simp only [hposition] at h ⊢
      split at h
      · next hi =>
        have hmodify : n.fields.modify i edit = n'.fields := by simpa using h
        rw [if_pos (by simpa [← hmodify] using hi), ← hmodify, List.modify_modify_eq]
        congr 3
        exact funext hagain
      · cases h

lemma change?_eq_none : change? ctx now edit ps n = .ok none ↔
    edited? edit ps n = .ok none ∨ edited? edit ps n = .ok (some n.fields) := by
  unfold change?
  cases hedited : edited? edit ps n with
  | error fault => simp
  | ok fields =>
    cases fields with
    | none => simp
    | some fields =>
      by_cases hsame : fields = n.fields
      · simp [hsame]
      · simp only [if_neg hsame]
        cases hfind : NoteType.find? ctx.noteTypes n.noteType with
        | none => simp [hsame]
        | some t =>
          cases hderive : t.derive fields <;> simp [Except.map, hsame, hderive]

lemma change?_write (hedit : editor? o target replacement = some edit)
    (hclean : Fields.separator ∉ replacement.toList) (hagain : ∀ v, edit (edit v) = edit v)
    {e : NoteEdit} (h : change? ctx now edit ps n = .ok (some e)) :
    change? ctx now' edit ps (e.write n) = .ok none := by
  obtain ⟨hid, t, fields, hfields, -, hblob, hderive⟩ := exists_of_change? h
  have hwritten : (e.write n).fields = fields := by
    rw [Note.fields, NoteEdit.write, if_pos hid.symm, hblob]
    exact (Fields.split_join_iff (NoteType.ne_nil_of_derive hderive)).mpr
      (separator_notMem_edited hedit hclean (forall₂_of_edited? hfields))
  have htype : (e.write n).noteType = n.noteType := (revised_of_change? h).2.noteType
  exact change?_eq_none.mpr (Or.inr (edited?_of_edited hagain hfields htype hwritten))

lemma change?_of_mem_stage (h : stage ctx now edit ps ns = .ok es) (hn : n ∈ ns) :
    change? ctx now edit ps n = .ok none ∨ ∃ e ∈ es, change? ctx now edit ps n = .ok (some e) := by
  induction ns generalizing es with
  | nil => cases hn
  | cons m ns ih =>
    rcases stage_cons h with ⟨hnone, hns⟩ | ⟨d, rest, hd, hrest, rfl⟩
    · rcases List.mem_cons.mp hn with rfl | hn
      · exact Or.inl hnone
      · exact ih hns hn
    · rcases List.mem_cons.mp hn with rfl | hn
      · exact Or.inr ⟨d, List.mem_cons_self, hd⟩
      · rcases ih hrest hn with hnone | ⟨e, he, hsome⟩
        · exact Or.inl hnone
        · exact Or.inr ⟨e, List.mem_cons_of_mem _ he, hsome⟩

lemma stage_eq_nil (h : ∀ n ∈ ns, change? ctx now edit ps n = .ok none) :
    stage ctx now edit ps ns = .ok [] := by
  induction ns with
  | nil => rfl
  | cons n ns ih =>
    obtain ⟨hn, hns⟩ := List.forall_mem_cons.mp h
    rw [stage, hn]
    exact ih hns

lemma id_writeAll (es : List NoteEdit) (n : Note) : (writeAll es n).id = n.id := by
  rcases writeAll_cases es n with hnone | ⟨e, -, -, heq⟩
  · rw [writeAll_of_notMem hnone]
  · rw [heq, NoteEdit.id_write]

lemma writeAll_of_stage (hids : (ns.map Note.id).Nodup) (h : stage ctx now edit ps ns = .ok es)
    (hn : n ∈ ns) : change? ctx now edit ps n = .ok none ∧ writeAll es n = n ∨
      ∃ e, change? ctx now edit ps n = .ok (some e) ∧ writeAll es n = e.write n := by
  rcases writeAll_cases es n with hnone | ⟨d, hd, hid, heq⟩
  · rcases change?_of_mem_stage h hn with hkept | ⟨e, he, hsome⟩
    · exact Or.inl ⟨hkept, writeAll_of_notMem hnone⟩
    · exact absurd (List.mem_map.mpr ⟨e, he, (exists_of_change? hsome).1⟩) hnone
  · obtain ⟨m, hm, hchange⟩ := exists_of_mem_stage h hd
    have hmn : m.id = n.id := (exists_of_change? hchange).1.symm.trans hid
    obtain rfl := List.inj_on_of_nodup_map hids hm hn hmn
    exact Or.inr ⟨d, hchange, heq⟩

lemma inNotes_eq_ok {k : ℕ}
    (h : inNotes refuses ctx now ids target replacement o s = (.ok k, s')) :
    o.field.map (positions ctx.noteTypes) = some [] ∧ s' = s ∨
      ∃ edit es, editor? o target replacement = some edit ∧
        stage ctx now edit (o.field.map (positions ctx.noteTypes)) (s.collection.notesOf ids) = .ok es ∧
        s'.collection.notes.rows = s.collection.notes.rows.map (writeAll es) := by
  unfold inNotes at h
  dsimp only at h
  split at h
  · next hps => exact Or.inl ⟨hps, (Prod.ext_iff.mp h).2.symm⟩
  · split at h
    · simp at h
    · next edit hedit =>
      split at h
      · simp at h
      · next hstage =>
        obtain rfl := (Prod.ext_iff.mp h).2
        exact Or.inr ⟨edit, [], hedit, hstage, (List.map_id _).symm⟩
      · next e es hstage =>
        split at h
        · simp at h
        · next notes htransact =>
          obtain rfl := (Prod.ext_iff.mp h).2
          exact Or.inr ⟨edit, e :: es, hedit, hstage, transact_eq htransact⟩

lemma inNotes_of_unchanged (hedit : editor? o target replacement = some edit)
    (h : ∀ n ∈ s.collection.notesOf ids,
      change? ctx now edit (o.field.map (positions ctx.noteTypes)) n = .ok none) :
    inNotes refuses ctx now ids target replacement o s = (.ok 0, s) := by
  rw [inNotes]
  split
  · rfl
  · simp only [hedit, stage_eq_nil h]

theorem inNotes_again (hliteral : o.isRegex = false) (htarget : target ≠ "")
    (hreplacement : replacement ≠ "") (hclean : Fields.separator ∉ replacement.toList)
    (hapart : ∀ c ∈ target.toList, ∀ d ∈ replacement.toList, ¬SameChar o.ignoreCase c d) {k : ℕ}
    (h : inNotes refuses ctx now ids target replacement o s = (.ok k, s')) :
    inNotes refuses' ctx now' ids target replacement o s' = (.ok 0, s') := by
  rcases inNotes_eq_ok h with ⟨hps, rfl⟩ | ⟨edit, es, hedit, hstage, hrows⟩
  · rw [inNotes, hps]
    rfl
  have hagain := edit_edit hliteral hedit htarget hreplacement hapart
  have hids : ((s.collection.notesOf ids).map Note.id).Nodup :=
    s.collection.notes.nodup_ids.sublist (List.filter_sublist.map Note.id)
  apply inNotes_of_unchanged hedit
  intro n' hn'
  obtain ⟨hrow, hid⟩ := Collection.mem_notesOf.mp hn'
  rw [hrows] at hrow
  obtain ⟨n, hn, rfl⟩ := List.mem_map.mp hrow
  rw [id_writeAll] at hid
  rcases writeAll_of_stage hids hstage (Collection.mem_notesOf.mpr ⟨hn, hid⟩) with
    ⟨hkept, heq⟩ | ⟨e, hchange, heq⟩
  · rw [heq]
    exact change?_eq_none.mpr (change?_eq_none.mp hkept)
  · rw [heq]
    exact change?_write hedit hclean hagain hchange

theorem inNotes_again_sample :
    let once := (inNotes (fun _ => false) sampleContext 5 [3, 1, 4, 1] "CA" "do" ⟨false, none, true⟩
      ⟨Query.sampleCollection, []⟩).2
    once.notices = [[1]] ∧
      inNotes (fun _ => false) sampleContext 6 [3, 1, 4, 1] "CA" "do" ⟨false, none, true⟩ once =
        (.ok 0, once) := by
  intro once
  have hfirst : inNotes (fun _ => false) sampleContext 5 [3, 1, 4, 1] "CA" "do" ⟨false, none, true⟩
      ⟨Query.sampleCollection, []⟩ = (.ok 1, once) := Prod.ext_iff.mpr ⟨by decide +kernel, rfl⟩
  have hapart : "CA".toList.all fun c => "do".toList.all fun d => !decide (SameChar true c d) := by
    decide +kernel
  simp only [List.all_eq_true, Bool.not_eq_true', decide_eq_false_iff_not] at hapart
  have hnotices : once.notices = [[1]] := by decide +kernel
  exact ⟨hnotices, inNotes_again rfl (by decide) (by decide) (by decide) hapart hfirst⟩

end Again

end Replace

end CardQuery
