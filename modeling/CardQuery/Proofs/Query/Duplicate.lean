import CardQuery.Proofs.Collection.Derived
import CardQuery.Proofs.Query.Numerals

/-!
The term that asks for notes by their first field. Notes are looked up by the checksum of the value asked
for, which is taken of that value stripped once more: the notes that have the value are all found where
that makes no difference to the checksum, and none of them where it does.
-/

namespace CardQuery

def Fields.digest (text : String) : Int :=
  (Sha256.digest (text.toList.flatMap String.utf8EncodeChar)).a.toNat

lemma Fields.checksum_eq (value : String) :
    checksum value = digest (Markup.stripKeepingImages value) := rfl

lemma Fields.checksum_of_stripped {value : String} (h : Markup.stripKeepingImages value = value) :
    checksum value = digest value := by
  rw [checksum_eq, h]

namespace Query

def StartsWith (id : Int) (value : String) (n : Note) : Prop :=
  n.noteType = id ∧ n.fields.head?.map Markup.stripKeepingImages = some value

instance (id : Int) (value : String) : DecidablePred (StartsWith id value) := fun _ =>
  inferInstanceAs (Decidable (_ ∧ _))

lemma duplicate_eq (col : Collection) {id : Int} (hid : Number.inRange id) (value : String) :
    duplicate col (toString id ++ "," ++ value) = .condition (.notes
      ((col.notes.rows.filter fun n => n.checksum = Fields.checksum value ∧ StartsWith id value n).map
        Note.id)) := by
  have hcomma : ',' ∉ (toString id).toList := by
    intro h
    rcases Number.mem_toString h with h | h
    · exact absurd h (by decide)
    · exact absurd h (by decide)
  have hsplit : Text.splitOnce ',' (toString id ++ "," ++ value).toList =
      some ((toString id).toList, value.toList) := by
    simpa using Text.splitOnce_append hcomma value.toList
  have hfilter (n : Note) : (n.fields.head?.any (Markup.stripKeepingImages · == value) &&
      (n.noteType == id && n.checksum == Fields.checksum value)) =
        decide (n.checksum = Fields.checksum value ∧ StartsWith id value n) := by
    rw [Bool.eq_iff_iff, decide_eq_true_eq]
    simp only [StartsWith, Bool.and_eq_true, beq_iff_eq]
    cases n.fields.head? with
    | none => simp
    | some first => grind
  simp only [duplicate, hsplit, Number.read?_toString hid, String.ofList_toList,
    Collection.notesWithChecksum, List.filter_filter, hfilter]

lemma checksum_of_startsWith {n : Note} {id : Int} {value : String} (hvalue : StartsWith id value n)
    (h : ∃ first, n.fields.head? = some first ∧ n.checksum = Fields.checksum first) :
    n.checksum = Fields.digest value := by
  obtain ⟨first, hfirst, hsum⟩ := h
  have hstripped : Markup.stripKeepingImages first = value := by simpa [hfirst] using hvalue.2
  rw [hsum, Fields.checksum_eq, hstripped]

lemma duplicate_of_checksums {col : Collection} (h : ∀ n ∈ col.notes.rows,
      ∃ first, n.fields.head? = some first ∧ n.checksum = Fields.checksum first)
    {id : Int} (hid : Number.inRange id) (value : String) :
    duplicate col (toString id ++ "," ++ value) = .condition (.notes
      (if Fields.checksum value = Fields.digest value then
        (col.notes.rows.filter (StartsWith id value)).map Note.id else [])) := by
  have hfilter : (col.notes.rows.filter fun n => n.checksum = Fields.checksum value ∧
      StartsWith id value n) = if Fields.checksum value = Fields.digest value then
        col.notes.rows.filter (StartsWith id value) else [] := by
    split
    · next heq =>
      apply List.filter_congr
      intro n hn
      simp only [decide_eq_decide, and_iff_right_iff_imp]
      exact fun hvalue => (checksum_of_startsWith hvalue (h n hn)).trans heq.symm
    · next hne =>
      -- A note with the value has the checksum of the value as it is, which is not looked up.
      apply List.filter_eq_nil_iff.mpr
      intro n hn
      simp only [decide_eq_true_eq, not_and']
      exact fun hvalue heq => hne (heq.symm.trans (checksum_of_startsWith hvalue (h n hn)))
  rw [duplicate_eq col hid, hfilter, apply_ite (List.map Note.id), List.map_nil]

theorem duplicate_after {actions : List Action} (h : ∀ a ∈ actions, a.IsClean) {id : Int}
    (hid : Number.inRange id) (value : String) :
    ∃ ids : List Int, ids.Pairwise (· < ·) ∧
      (∀ i, i ∈ ids ↔ ∃ n ∈ (Collection.after actions).notes.rows, n.id = i ∧ StartsWith id value n) ∧
      duplicate (Collection.after actions) (toString id ++ "," ++ value) =
        .condition (.notes (if Fields.checksum value = Fields.digest value then ids else [])) ∧
      (Markup.stripKeepingImages value = value →
        duplicate (Collection.after actions) (toString id ++ "," ++ value) = .condition (.notes ids)) := by
  have hduplicate := duplicate_of_checksums (Collection.checksum_after h) hid value
  generalize Collection.after actions = col at hduplicate ⊢
  refine ⟨(col.notes.rows.filter (StartsWith id value)).map Note.id, ?_, fun i => ?_, hduplicate, ?_⟩
  · exact col.notes.increasing_filter _
  · simp only [List.mem_map, List.mem_filter, decide_eq_true_eq]
    grind
  · intro hstripped
    rw [hduplicate, if_pos (Fields.checksum_of_stripped hstripped)]

theorem duplicate_after_sample : Markup.stripKeepingImages "dog" = "dog" ∧
    duplicate (Collection.after Collection.sampleActions) (toString (1 : Int) ++ "," ++ "dog") =
      .condition (.notes [1]) := by
  have hstripped : Markup.stripKeepingImages "dog" = "dog" := by decide +kernel
  obtain ⟨ids, hsorted, hmem, -, hfound⟩ :=
    @duplicate_after Collection.sampleActions (by decide) 1 (by decide) "dog"
  have honly : ∀ n ∈ (Collection.after Collection.sampleActions).notes.rows,
      StartsWith 1 "dog" n ↔ n.id = 1 := by
    decide +kernel
  have hstored : ∃ n ∈ (Collection.after Collection.sampleActions).notes.rows, n.id = 1 := by
    decide +kernel
  have hids : ids = [1] := by
    apply List.perm_singleton.mp
    apply (List.perm_ext_iff_of_nodup (hsorted.imp Int.ne_of_lt) (List.nodup_singleton 1)).mpr
    intro i
    rw [hmem, List.mem_singleton]
    constructor
    · rintro ⟨n, hn, rfl, hstarts⟩
      exact (honly n hn).mp hstarts
    · rintro rfl
      obtain ⟨n, hn, hid⟩ := hstored
      exact ⟨n, hn, hid, (honly n hn).mpr hid⟩
  rw [hids] at hfound
  exact ⟨hstripped, hfound hstripped⟩

def entityActions : List Action :=
  [.addNote ⟨1, "Basic", .standard, ["Front", "Back"], [], 0⟩ ⟨1, 1, 3, ["&amp;lt;", "less than"], []⟩]

/-- The value that a field comes to may itself be changed by stripping, and then the note is missed. -/
theorem duplicate_missed : Markup.stripKeepingImages "&amp;lt;" = "&lt;" ∧
    (∃ n ∈ (Collection.after entityActions).notes.rows, StartsWith 1 "&lt;" n) ∧
    duplicate (Collection.after entityActions) "1,&lt;" = .condition (.notes []) := by
  have hvalue : "1,&lt;" = toString (1 : Int) ++ "," ++ "&lt;" := by decide +kernel
  refine ⟨by decide +kernel, by decide +kernel, ?_⟩
  rw [hvalue, duplicate_eq _ (by decide)]
  apply congrArg fun ids => Reading.condition (Condition.notes ids)
  decide +kernel

end Query

end CardQuery
