import CardQuery.Proofs.Pattern.Confirming
import CardQuery.Proofs.Query.FieldProbe

/-!
What sifting by LIKE keeps of the notes that the second look would confirm: LIKE takes only ASCII letters
in either case, and the patterns that confirm a field take all letters so.
-/

namespace CardQuery.Query

open Pattern

def Confirmed (value field : String) : Prop :=
  ∃ r, confirming? value = some r ∧ r.tree.occurs none field.toList

lemma confirmed_iff {value field : String} :
    Confirmed value field ↔ (confirming? value).isSome ∧ fieldAccepts value field := by
  have hoccurs : (confirmingTree value).occurs none field.toList = fieldAccepts value field := by
    rw [← wildTree_fieldGlob, occurs_wildTree]
    rfl
  rw [Confirmed, confirming?_eq]
  split
  · simp
  · simp [hoccurs]

instance (value field : String) : Decidable (Confirmed value field) :=
  decidable_of_iff _ confirmed_iff.symm

def AsciiCase (value field : String) : Prop :=
  ∀ c ∈ value.toList, ∀ d ∈ field.toList, Text.sameFolded c d → Text.sameAscii c d

lemma foldKey_ascii {c : Char} (h : c.toNat < 128) : Text.foldKey c = c.toLower := by
  have hfold : ∀ n < 128, Text.foldKey (Char.ofNat n) = (Char.ofNat n).toLower := by decide +kernel
  have hc := hfold c.toNat h
  rwa [Char.ofNat_toNat] at hc

lemma asciiCase_of_ascii {value field : String} (hvalue : value.toList.all (·.toNat < 128))
    (hfield : field.toList.all (·.toNat < 128)) : AsciiCase value field := by
  intro c hc d hd h
  have hc128 : c.toNat < 128 := by simpa using List.all_eq_true.mp hvalue c hc
  have hd128 : d.toNat < 128 := by simpa using List.all_eq_true.mp hfield d hd
  rwa [Text.sameFolded, foldKey_ascii hc128, foldKey_ascii hd128] at h

lemma Confirmed.glob {value field : String} (h : Confirmed value field) (hcase : AsciiCase value field) :
    Glob value.toList field.toList := by
  rw [glob_iff]
  have hmatch := (Wild.accepts_iff ..).mp (confirmed_iff.mp h).2
  apply hmatch.mono_of_mem
  · exact fun _ _ _ => rfl
  · intro d hd c hc
    exact hcase d (mem_of_lit_mem hd) c hc

variable {types : List NoteType} {terms : List (String × String)}

def FieldConfirmed (terms : List (String × String)) (pick : String → String) (field value : String) :
    Prop :=
  (∃ v, Requested terms (Text.lower field) v) → Confirmed (pick (Text.lower field)) value

def FieldAsciiCase (terms : List (String × String)) (pick : String → String)
    (field value : String) : Prop :=
  (∃ v, Requested terms (Text.lower field) v) → AsciiCase (pick (Text.lower field)) value

section Found

variable {col : Collection} (hids : (types.map NoteType.id).Nodup)
  (hlen : ∀ n ∈ col.notes.rows, ∀ t ∈ types, t.id = n.noteType → n.fields.length = t.fields.length)
  (hblobs : ∀ n ∈ col.notes.rows, '\x00' ∉ n.blob.toList)
  (hterms : ∀ t ∈ terms, '\x00' ∉ t.2.toList) (hbuilt : ∀ t ∈ terms, (confirming? t.2).isSome)
  (hfit : Fit (probes types terms))
include hids hlen hblobs hterms hbuilt hfit

lemma fieldTerms_found {n : Note} (hn : n ∈ col.notes.rows) (hmeets : NoteMeets types terms n) :
    ∃ ids, fieldTerms types col terms = .ok (.condition (.notes ids)) ∧ n.id ∈ ids := by
  rcases fieldTerms_listed hlen hbuilt hfit with ⟨hnone, -⟩ | ⟨-, ids, -, hmem, hr⟩
  · obtain ⟨t, ht, -, hdef, -⟩ := hmeets
    exact absurd hdef (hnone t ht)
  · have hlisted := hmeets.listed (hlen n hn) hids (hblobs n hn) hterms
    have hid : n.id ∈ ids := (hmem n.id).mpr ⟨n, hn, rfl, hlisted⟩
    exact ⟨ids, by rw [hr, if_neg (List.ne_nil_of_mem hid)], hid⟩

/-- Sifting by LIKE drops no note that the second look would confirm, as long as no letters but ASCII
letters have to be taken in either case. -/
theorem fieldTerms_keeps {n : Note} (hn : n ∈ col.notes.rows) {t : NoteType} (ht : t ∈ types)
    (htype : t.id = n.noteType) (hdef : Defines terms t) {pick : String → String}
    (hpick : Choice terms pick)
    (hconfirmed : List.Forall₂ (FieldConfirmed terms pick) t.fields n.fields)
    (hcase : List.Forall₂ (FieldAsciiCase terms pick) t.fields n.fields) :
    ∃ ids, fieldTerms types col terms = .ok (.condition (.notes ids)) ∧ n.id ∈ ids := by
  apply fieldTerms_found hids hlen hblobs hterms hbuilt hfit hn
  refine ⟨t, ht, htype, hdef, pick, hpick, ?_⟩
  obtain ⟨hlength, hcased⟩ := List.forall₂_iff_zip.mp hcase
  refine List.forall₂_iff_zip.mpr ⟨hlength, fun {field value} hzip hrequested => ?_⟩
  have hfield := (List.forall₂_iff_zip.mp hconfirmed).2 hzip
  exact (hfield hrequested).glob (hcased hzip hrequested)

end Found

def casedTerms : List (String × String) := [("front", "C*T"), ("front", "dog"), ("BACK", "_H*")]

def casedPick (name : String) : String := if name = "front" then "C*T" else "_H*"

lemma choice_casedPick : Choice casedTerms casedPick := by
  rintro name value ⟨field, hmem, rfl⟩
  simp only [casedTerms, List.mem_cons, Prod.mk.injEq, List.not_mem_nil, or_false] at hmem
  rcases hmem with ⟨rfl, rfl⟩ | ⟨rfl, rfl⟩ | ⟨rfl, rfl⟩
  · exact ⟨"front", by decide, rfl⟩
  · exact ⟨"front", by decide, rfl⟩
  · exact ⟨"BACK", by decide, rfl⟩

theorem fieldTerms_keeps_sample :
    fieldTerms sampleTypes sampleCollection casedTerms = .ok (.condition (.notes [1, 2])) ∧
      (1 : Int) ∈ ([1, 2] : List Int) := by
  let n : Note := ⟨1, 1, 0, 0, "", "cat\x1fchat", "cat", 0⟩
  let t : NoteType := ⟨1, "Basic", .standard, ["Front", "Back"], [], 0⟩
  have hdef : Defines casedTerms t :=
    ⟨"Front", by decide, "dog", "front", by decide, by decide +kernel⟩
  have hfields : n.fields = ["cat", "chat"] := by decide +kernel
  have hfront : casedPick (Text.lower "Front") = "C*T" := by decide +kernel
  have hback : casedPick (Text.lower "Back") = "_H*" := by decide +kernel
  have hconfirmed : List.Forall₂ (FieldConfirmed casedTerms casedPick) t.fields n.fields := by
    rw [hfields]
    refine .cons (fun _ => ?_) (.cons (fun _ => ?_) .nil)
    · rw [hfront]
      decide +kernel
    · rw [hback]
      decide +kernel
  have hcase : List.Forall₂ (FieldAsciiCase casedTerms casedPick) t.fields n.fields := by
    rw [hfields]
    refine .cons (fun _ => ?_) (.cons (fun _ => ?_) .nil)
    · rw [hfront]
      exact asciiCase_of_ascii (by decide) (by decide)
    · rw [hback]
      exact asciiCase_of_ascii (by decide) (by decide)
  have hfit : Fit (probes sampleTypes casedTerms) := by constructor <;> decide +kernel
  have hkept : ∃ ids, fieldTerms sampleTypes sampleCollection casedTerms = .ok (.condition (.notes ids)) ∧
      n.id ∈ ids :=
    fieldTerms_keeps (t := t) (by decide) (by decide) (by decide) (by decide) (by decide +kernel) hfit
      (by decide) (by decide) rfl hdef choice_casedPick hconfirmed hcase
  obtain ⟨ids, hids, hmem⟩ := hkept
  have hasked : fieldTerms sampleTypes sampleCollection casedTerms = .ok (.condition (.notes [1, 2])) :=
    eq_of_askedNotes (by decide +kernel)
  rw [hasked] at hids
  cases hids
  exact ⟨hasked, hmem⟩

def accentCollection : Collection :=
  { notes := ⟨[⟨1, 1, 0, 0, "", "É\x1fx", "É", 0⟩], by simp⟩
    cards := .empty
    reviews := .empty }

/-- LIKE takes an accented letter in one case only, so the note is gone before it is looked at. -/
theorem fieldTerms_drops :
    Choice [("front", "é")] (fun _ => "é") ∧
      (∃ n ∈ accentCollection.notes.rows, n.id = 1 ∧ n.noteType = 1 ∧
        List.Forall₂ (FieldConfirmed [("front", "é")] fun _ => "é") ["Front", "Back"] n.fields) ∧
      fieldTerms sampleTypes accentCollection [("front", "é")] = .ok (.condition .never) := by
  refine ⟨?_, ⟨⟨1, 1, 0, 0, "", "É\x1fx", "É", 0⟩, by decide, rfl, rfl, ?_⟩, ?_⟩
  · rintro name value ⟨field, hmem, rfl⟩
    obtain ⟨rfl, rfl⟩ : field = "front" ∧ value = "é" := by simpa using hmem
    exact ⟨"front", by decide, rfl⟩
  · refine .cons (fun _ => by decide +kernel) (.cons ?_ .nil)
    rintro ⟨value, field, hmem, hback⟩
    obtain ⟨rfl, rfl⟩ : field = "front" ∧ value = "é" := by simpa using hmem
    exact absurd hback (by decide +kernel)
  · rfl

end CardQuery.Query
