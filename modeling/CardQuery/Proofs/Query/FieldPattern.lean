import CardQuery.Proofs.Collection.Fields
import CardQuery.Proofs.Text.Like
import CardQuery.Query.FieldProbe

namespace CardQuery

/-- `Glob p s`: the pattern `p` covers the whole of `s`. A star stands for any run, an underscore for
any character, and any other character for itself, ASCII letters in either case. -/
inductive Glob : List Char → List Char → Prop
  | nil : Glob [] []
  | run {p s} (r : List Char) : Glob p s → Glob ('*' :: p) (r ++ s)
  | one {p s} (c : Char) : Glob p s → Glob ('_' :: p) (c :: s)
  | lit {p s c d} : c ≠ '*' → c ≠ '_' → Text.sameAscii c d → Glob p s → Glob (c :: p) (d :: s)

namespace Query

open Wild (Matches)
open Like (places)

def globAlphabet : Wild.Alphabet := ⟨fun _ => true, Text.sameAscii⟩

lemma glob_iff (p s : List Char) : Glob p s ↔ Matches globAlphabet (p.map fieldPlace) s := by
  constructor
  · intro h
    induction h with
    | nil => exact .nil
    | run r _ ih => exact .run r (fun _ _ => rfl) ih
    | one c _ ih => exact .one rfl ih
    | lit hs ho hc _ ih => simpa [fieldPlace, hs, ho] using Matches.lit hc ih
  · intro h
    induction p generalizing s with
    | nil =>
      obtain rfl := Wild.matches_nil.mp h
      exact .nil
    | cons c p ih =>
      rw [List.map_cons, fieldPlace] at h
      split at h
      · next hc =>
        subst hc
        obtain ⟨r, t, rfl, -, h⟩ := Wild.matches_run.mp h
        exact .run r (ih t h)
      · next hs =>
        split at h
        · next hc =>
          subst hc
          obtain ⟨d, t, rfl, -, h⟩ := Wild.matches_one.mp h
          exact .one d (ih t h)
        · next ho =>
          obtain ⟨d, t, rfl, hd, h⟩ := Wild.matches_lit.mp h
          exact .lit hs ho hd (ih t h)

instance (p s : List Char) : Decidable (Glob p s) :=
  decidable_of_iff _ ((Wild.accepts_iff globAlphabet ..).trans (glob_iff p s).symm)

lemma like_of_glob {p s : List Char} (h : Glob p s) : Matches Like.alphabet (p.map fieldPlace) s :=
  ((glob_iff p s).mp h).mono (fun _ _ => rfl) fun _ _ => Like.same_of_sameAscii

lemma mem_of_lit_mem {p : List Char} {d : Char} (h : .lit d ∈ p.map fieldPlace) : d ∈ p := by
  obtain ⟨e, he, hplace⟩ := List.mem_map.mp h
  rw [fieldPlace] at hplace
  split_ifs at hplace
  exact Wild.lit.inj hplace ▸ he

lemma glob_of_like {p s : List Char} (hp : Like.Plain p) (hs : Like.Plain s)
    (h : Matches Like.alphabet (p.map fieldPlace) s) : Glob p s := by
  rw [glob_iff]
  apply h.mono_of_mem
  · exact fun _ _ _ => rfl
  · intro d hd c hc hsame
    rw [Like.same_iff, Like.read_of_plain hp (mem_of_lit_mem hd), Like.read_of_plain hs hc] at hsame
    simpa [globAlphabet, Text.sameAscii] using hsame

lemma fieldAccepts_of_glob {value field : String} (h : Glob value.toList field.toList) :
    fieldAccepts value field :=
  (Wild.accepts_iff ..).mpr
    (((glob_iff ..).mp h).mono (fun _ _ => rfl) fun _ _ => Text.sameFolded_of_sameAscii)

def Writes (form : List Char) (p : List Wild) : Prop :=
  ∀ s, places (some '\\') (form ++ s) = (places (some '\\') s).map (p ++ ·)

lemma Writes.nil : Writes [] [] := fun s => by simp

lemma Writes.append {form form' : List Char} {p p' : List Wild} (h : Writes form p)
    (h' : Writes form' p') : Writes (form ++ form') (p ++ p') := fun s => by
  simp [h _, h' s, Function.comp_def]

lemma Writes.char {c : Char} (h : c ≠ '\\') : Writes [c] [Like.place c] := fun s => by
  simpa using Like.places_cons (by simpa using h) s

lemma Writes.escaped (c : Char) : Writes ['\\', c] [.lit c] := fun s =>
  Like.places_escaped '\\' c s

lemma Writes.eq {form : List Char} {p : List Wild} (h : Writes form p) :
    places (some '\\') form = some p := by
  simpa [places] using h []

lemma Writes.flatMap {form : Char → List Char} {place : Char → Wild}
    (h : ∀ c, Writes (form c) [place c]) (s : List Char) : Writes (s.flatMap form) (s.map place) := by
  induction s with
  | nil => exact .nil
  | cons c s ih => exact (h c).append ih

def fieldForm (c : Char) : List Char :=
  if c = '\\' then ['\\', '\\'] else if c = '%' then ['\\', '%'] else if c = '*' then ['%'] else [c]

lemma toList_likeForm (value : String) : (likeForm value).toList = value.toList.flatMap fieldForm := by
  rw [likeForm, String.toList_ofList]
  rfl

lemma writes_likeForm (value : String) : Writes (likeForm value).toList (fieldGlob value) := by
  simp only [likeForm, fieldGlob, String.toList_ofList]
  apply Writes.flatMap
  intro c
  rw [fieldPlace]
  split
  · next h =>
    subst h
    exact .escaped _
  · split
    · next h =>
      subst h
      exact .escaped _
    · next hb hp =>
      split
      · exact .char (by decide)
      · next hs => simpa [Like.place, hp] using Writes.char hb

lemma nul_notMem_likeForm {value : String} (h : '\x00' ∉ value.toList) :
    '\x00' ∉ (likeForm value).toList := by
  intro hmem
  simp only [likeForm, String.toList_ofList, List.mem_flatMap] at hmem
  obtain ⟨c, hc, hin⟩ := hmem
  have hne : '\x00' ≠ c := by
    rintro rfl
    exact h hc
  split at hin
  · simp at hin
  · split at hin
    · simp at hin
    · split at hin <;> simp [hne] at hin

lemma writes_joinWith {forms : List (List Char)} {ps : List (List Wild)}
    (h : List.Forall₂ Writes forms ps) :
    Writes (Text.joinWith Fields.separator forms) (Wild.joined Fields.separator ps) := by
  induction h with
  | nil => exact .nil
  | @cons form p forms ps hp hrest ih =>
    cases forms with
    | nil =>
      obtain rfl := List.forall₂_nil_left_iff.mp hrest
      simpa [Text.joinWith, Wild.joined, List.intercalate] using hp
    | cons form' forms =>
      have hne : ps ≠ [] := by
        rintro rfl
        cases hrest
      have hsep : Writes [Fields.separator] [.lit Fields.separator] :=
        Writes.char (c := Fields.separator) (by decide)
      rw [Text.joinWith_cons _ _ (by simp), Wild.joined_cons _ hne]
      exact hp.append (hsep.append ih)

lemma accepts_join {forms values : List String} {ps : List (List Wild)}
    (hforms : List.Forall₂ (fun form p => Writes form.toList p) forms ps) (hne : forms ≠ [])
    (hlen : forms.length = values.length) (hvalues : ∀ v ∈ values, Fields.separator ∉ v.toList)
    (hpattern : '\x00' ∉ (Fields.join forms).toList) (hblob : '\x00' ∉ (Fields.join values).toList) :
    Like.accepts (some '\\') (Fields.join forms).toList (Fields.join values).toList ↔
      List.Forall₂ (fun p v => Matches Like.alphabet p v.toList) ps values := by
  have hwrites : Writes (Fields.join forms).toList (Wild.joined Fields.separator ps) := by
    rw [Fields.join, String.toList_ofList]
    exact writes_joinWith (List.forall₂_map_left_iff.mpr hforms)
  have hps : ps.length = forms.length := hforms.length_eq.symm
  have hjoined : Matches Like.alphabet (Wild.joined Fields.separator ps) (Fields.join values).toList ↔
      List.Forall₂ (Matches Like.alphabet) ps (values.map String.toList) := by
    rw [Fields.join, String.toList_ofList]
    apply Wild.matches_joined Like.same_separator
    · exact List.ne_nil_of_length_pos (hps ▸ List.length_pos_of_ne_nil hne)
    · rw [List.length_map, hps, hlen]
    · exact List.forall_mem_map.mpr hvalues
  rw [Like.accepts, Like.untilNul_eq hpattern, Like.untilNul_eq hblob, hwrites.eq]
  exact (Wild.accepts_iff ..).trans (hjoined.trans List.forall₂_map_right_iff)

lemma nul_notMem_join {texts : List String} (h : ∀ s ∈ texts, '\x00' ∉ s.toList) :
    '\x00' ∉ (Fields.join texts).toList := by
  intro hmem
  rw [Fields.join, String.toList_ofList] at hmem
  rcases Text.mem_joinWith hmem with hsep | ⟨cs, hcs, hin⟩
  · exact absurd hsep (by decide)
  · obtain ⟨s, hs, rfl⟩ := List.mem_map.mp hcs
    exact h s hs hin

def slotPattern (requests : List FieldRequest) (combo : List ℕ) : Option ℕ → List Wild
  | some request => fieldGlob (picked requests combo request)
  | none => [.run]

def SlotMeets (requests : List FieldRequest) (combo : List ℕ) (slot : Option ℕ) (field : String) :
    Prop :=
  ∀ request ∈ slot, Glob (picked requests combo request).toList field.toList

variable {requests : List FieldRequest} {combo : List ℕ} {slot : Option ℕ} {field : String}

lemma SlotMeets.like (h : SlotMeets requests combo slot field) :
    Matches Like.alphabet (slotPattern requests combo slot) field.toList := by
  cases slot with
  | none =>
    have hany : Matches Like.alphabet [.run] (field.toList ++ []) := .run _ (fun _ _ => rfl) .nil
    simpa [slotPattern] using hany
  | some request => exact like_of_glob (h request rfl)

lemma slotMeets_of_like (hpicked : ∀ request, Like.Plain (picked requests combo request).toList)
    (hfield : Like.Plain field.toList)
    (h : Matches Like.alphabet (slotPattern requests combo slot) field.toList) :
    SlotMeets requests combo slot field := by
  rintro request rfl
  exact glob_of_like (hpicked request) hfield h

lemma writes_slotForm (requests : List FieldRequest) (combo : List ℕ) (slot : Option ℕ) :
    Writes (slotForm requests combo slot).toList (slotPattern requests combo slot) := by
  cases slot with
  | none =>
    have hany : "%".toList = ['%'] := by decide
    simpa [slotForm, slotPattern, hany, Like.place] using Writes.char (c := '%') (by decide)
  | some request => exact writes_likeForm _

theorem like_blobPattern {t : ProbedType} {blob : String}
    (hpattern : '\x00' ∉ (blobPattern requests t combo).toList) (hblob : '\x00' ∉ blob.toList)
    (hlen : (Fields.split blob).length = t.slots.length) :
    Like.accepts (some '\\') (blobPattern requests t combo).toList blob.toList ↔
      List.Forall₂ (fun slot field => Matches Like.alphabet (slotPattern requests combo slot) field.toList)
        t.slots (Fields.split blob) := by
  have hne : t.slots ≠ [] := by
    rintro hnil
    simp [hnil, Fields.split, Text.splitOn_ne_nil] at hlen
  have hforms : List.Forall₂ (fun form p => Writes form.toList p)
      (t.slots.map (slotForm requests combo)) (t.slots.map (slotPattern requests combo)) := by
    rw [List.forall₂_map_left_iff, List.forall₂_map_right_iff, List.forall₂_same]
    exact fun slot _ => writes_slotForm requests combo slot
  have hjoin := @accepts_join _ (Fields.split blob) _ hforms (by simpa using hne)
    (by simpa using hlen.symm) (fun _ => Fields.separator_notMem) hpattern
    (by rwa [Fields.join_split])
  rwa [Fields.join_split, List.forall₂_map_left_iff] at hjoin

end Query

end CardQuery
