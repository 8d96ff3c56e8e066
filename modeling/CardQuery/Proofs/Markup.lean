import CardQuery.Markup
import CardQuery.Proofs.Text.Case
import Mathlib.Data.List.Infix
import Mathlib.Data.List.TakeWhile

/-!
What is left of a text when its markup is taken out. All markup stands between an opening and a closing
bracket. Once the tags are gone no closing bracket has an opening one before it, and there is nothing to
take out any more.
-/

namespace CardQuery

open scoped List

namespace Text

variable {find : List Char → Option (List Char × ℕ)} {length? : List Char → Option ℕ} {s : List Char}

lemma edit_eq_self (h : ∀ t, t <:+ s → find t = none) : edit find s = s := by
  induction s with
  | nil => rfl
  | cons c s ih =>
    have hrest : edit find s = s := ih fun t ht => h t (ht.trans (List.suffix_cons c s))
    rw [edit, editFrom, h _ (List.suffix_refl _)]
    exact congrArg (c :: ·) hrest

lemma mem_of_mem_editFrom {P : Char → Prop}
    (hfind : ∀ t out more, find t = some (out, more) → ∀ c ∈ out, c ∈ t ∨ P c) {skip : ℕ} {c : Char}
    (h : c ∈ editFrom find skip s) : c ∈ s ∨ P c := by
  fun_induction editFrom find skip s with
  | case1 => exact Or.inl h
  | case2 skip d s ih => exact (ih h).imp_left (List.mem_cons_of_mem d)
  | case3 d s out more hsome ih =>
    rcases List.mem_append.mp h with h | h
    · exact hfind _ _ _ hsome c h
    · exact (ih h).imp_left (List.mem_cons_of_mem d)
  | case4 d s hnone ih =>
    rcases List.mem_cons.mp h with rfl | h
    · exact Or.inl List.mem_cons_self
    · exact (ih h).imp_left (List.mem_cons_of_mem d)

lemma mem_of_mem_erased {skip : ℕ} {c : Char} (h : c ∈ editFrom (erasing length?) skip s) : c ∈ s := by
  have hfind (t out : List Char) (more : ℕ) (hsome : erasing length? t = some (out, more)) :
      ∀ d ∈ out, d ∈ t ∨ False := by
    obtain ⟨n, -, heq⟩ := Option.map_eq_some_iff.mp hsome
    obtain rfl : [] = out := congrArg Prod.fst heq
    simp
  exact (mem_of_mem_editFrom hfind h).resolve_right id

lemma erasing_eq_none : erasing length? s = none ↔ length? s = none := Option.map_eq_none_iff

lemma isPrefix_of_partLength? {part : List Char} {n : ℕ} (h : partLength? part s = some n) :
    part <+: s ∧ n = part.length := by
  rw [partLength?] at h
  split at h
  · next hpart => exact ⟨List.isPrefixOf_iff_prefix.mp hpart, (Option.some_inj.mp h).symm⟩
  · cases h

lemma exists_of_upTo? {n : ℕ} (h : upTo? length? s = some n) : ∃ t, t <:+ s ∧ (length? t).isSome := by
  induction s generalizing n with
  | nil => exact ⟨[], List.suffix_refl _, Option.isSome_iff_exists.mpr ⟨n, h⟩⟩
  | cons c s ih =>
    rw [upTo?] at h
    split at h
    · next hsome => exact ⟨_, List.suffix_refl _, by simp [hsome]⟩
    · obtain ⟨m, hm, -⟩ := Option.map_eq_some_iff.mp h
      obtain ⟨t, ht, hsome⟩ := ih hm
      exact ⟨t, ht.trans (List.suffix_cons c s), hsome⟩

lemma subset_of_upTo? {part : List Char} {n : ℕ} (h : upTo? (partLength? part) s = some n) : part ⊆ s := by
  obtain ⟨t, ht, hsome⟩ := exists_of_upTo? h
  obtain ⟨m, hm⟩ := Option.isSome_iff_exists.mp hsome
  exact List.Subset.trans (isPrefix_of_partLength? hm).1.subset ht.subset

lemma upTo?_of_mem {c : Char} (h : c ∈ s) : (upTo? (partLength? [c]) s).isSome := by
  induction s with
  | nil => cases h
  | cons d s ih =>
    rw [upTo?]
    split
    · rfl
    · next hnone =>
      rcases List.mem_cons.mp h with rfl | h
      · simp [partLength?] at hnone
      · simpa using ih h

lemma andThen_eq_some {first second : List Char → Option ℕ} {n : ℕ} :
    andThen first second s = some n ↔
      ∃ k m, first s = some k ∧ second (s.drop k) = some m ∧ n = k + m := by
  simp only [andThen, Option.bind_eq_some_iff, Option.map_eq_some_iff, eq_comm (a := n)]
  constructor
  · rintro ⟨k, hk, m, hm, hn⟩
    exact ⟨k, m, hk, hm, hn⟩
  · rintro ⟨k, m, hk, hm, hn⟩
    exact ⟨k, hk, m, hm, hn⟩

lemma eq_bracket_of_sameFolded {c : Char} (h : sameFolded '<' c) : c = '<' := by
  have hkey : foldKey '<' = '<' := by decide +kernel
  have hrows : ∀ r ∈ foldRows, ('<'.toNat : Int) < r.first + r.distance := by decide +kernel
  rw [sameFolded, hkey, beq_iff_eq] at h
  exact eq_of_shift hrows (by decide) h.symm

end Text

namespace Markup

open Text

variable {s : List Char}

lemma bracketed {k : ℕ} (hhead : s.head? = some '<') (hk : 0 < k) (hmem : '>' ∈ s.drop k) :
    ['<', '>'] <+ s := by
  obtain ⟨r, rfl⟩ : ∃ r, s = '<' :: r := by
    cases s with
    | nil => cases hhead
    | cons c r => exact ⟨r, by simpa using hhead⟩
  obtain ⟨k, rfl⟩ := Nat.exists_eq_add_one_of_ne_zero hk.ne'
  rw [List.drop_succ_cons] at hmem
  exact (List.singleton_sublist.mpr (List.mem_of_mem_drop hmem)).cons_cons '<'

lemma head?_of_startsFolded {ws : List Char} (h : startsFolded ('<' :: ws) s) : s.head? = some '<' := by
  cases s with
  | nil => cases h
  | cons c s =>
    rw [startsFolded, Bool.and_eq_true] at h
    rw [List.head?_cons, eq_bracket_of_sameFolded h.1]

lemma bracketed_of_andThen {first second : List Char → Option ℕ} {n : ℕ}
    (hfirst : ∀ k, first s = some k → s.head? = some '<' ∧ 0 < k)
    (hsecond : ∀ t m, second t = some m → '>' ∈ t) (h : andThen first second s = some n) :
    ['<', '>'] <+ s := by
  obtain ⟨k, m, hk, hm, -⟩ := andThen_eq_some.mp h
  exact bracketed (hfirst k hk).1 (hfirst k hk).2 (hsecond _ _ hm)

lemma bracketed_of_parts {ws part : List Char} {n : ℕ} (hpart : '>' ∈ part)
    (h : andThen (partLength? ('<' :: ws)) (upTo? (partLength? part)) s = some n) : ['<', '>'] <+ s := by
  apply bracketed_of_andThen _ _ h
  · intro k hk
    obtain ⟨⟨r, rfl⟩, rfl⟩ := isPrefix_of_partLength? hk
    exact ⟨rfl, Nat.succ_pos _⟩
  · intro t m hm
    exact subset_of_upTo? hm hpart

lemma bracketed_of_comment {n : ℕ} (h : comment s = some n) : ['<', '>'] <+ s :=
  bracketed_of_parts (by decide) h

lemma bracketed_of_tag {n : ℕ} (h : tag s = some n) : ['<', '>'] <+ s := bracketed_of_parts (by decide) h

lemma bracketed_of_element {name : List Char} {n : ℕ} (h : element name s = some n) :
    ['<', '>'] <+ s := by
  apply bracketed_of_andThen _ _ h
  · intro k hk
    rw [foldedLength?] at hk
    split at hk
    · next hstarts =>
      obtain rfl := Option.some_inj.mp hk
      exact ⟨head?_of_startsFolded hstarts, Nat.succ_pos _⟩
    · cases hk
  · intro t m hm
    obtain ⟨k, -, hk, -, -⟩ := andThen_eq_some.mp hm
    exact subset_of_upTo? hk (by decide)

lemma bracketed_of_image {found : List Char × ℕ} (h : image s = some found) : ['<', '>'] <+ s := by
  rw [image] at h
  split at h
  · next hstarts =>
    apply bracketed (head?_of_startsFolded hstarts) (k := 4) (by decide)
    by_contra hmem
    have hall : (s.drop 4).takeWhile (· ≠ '>') = s.drop 4 := by
      apply List.takeWhile_eq_self_iff.mpr
      intro c hc
      have hne : c ≠ '>' := by
        rintro rfl
        exact hmem hc
      simpa using hne
    rw [hall] at h
    simp at h
  · cases h

def Unmarked (s : List Char) : Prop :=
  ∀ t, t <:+ s → image t = none ∧ comment t = none ∧ element ['s', 't', 'y', 'l', 'e'] t = none ∧
    element ['s', 'c', 'r', 'i', 'p', 't'] t = none ∧ tag t = none

lemma unmarked_of_not_bracketed (h : ¬['<', '>'] <+ s) : Unmarked s := by
  intro t ht
  have hnot : ¬['<', '>'] <+ t := fun hsub => h (hsub.trans ht.sublist)
  simp only [Option.eq_none_iff_forall_ne_some]
  exact ⟨fun _ hf => hnot (bracketed_of_image hf), fun _ hf => hnot (bracketed_of_comment hf),
    fun _ hf => hnot (bracketed_of_element hf), fun _ hf => hnot (bracketed_of_element hf),
    fun _ hf => hnot (bracketed_of_tag hf)⟩

lemma tag_of_mem {r : List Char} (h : '>' ∈ r) : tag ('<' :: r) ≠ none := by
  obtain ⟨m, hm⟩ := Option.isSome_iff_exists.mp (upTo?_of_mem h)
  have htag : tag ('<' :: r) = some (1 + m) := andThen_eq_some.mpr ⟨1, m, rfl, hm, rfl⟩
  simp [htag]

lemma not_bracketed_editFrom (skip : ℕ) (s : List Char) : ¬['<', '>'] <+ editFrom (erasing tag) skip s := by
  fun_induction editFrom (erasing tag) skip s with
  | case1 => simp
  | case2 skip c s ih => exact ih
  | case3 c s out more hsome ih =>
    obtain ⟨n, -, heq⟩ := Option.map_eq_some_iff.mp hsome
    obtain rfl : [] = out := congrArg Prod.fst heq
    exact ih
  | case4 c s hnone ih =>
    rw [List.sublist_cons_iff]
    rintro (h | ⟨r, hr, h⟩)
    · exact ih h
    · obtain ⟨rfl, rfl⟩ := List.cons_eq_cons.mp hr
      have hmem := mem_of_mem_erased (List.singleton_sublist.mp h)
      exact tag_of_mem hmem (erasing_eq_none.mp hnone)

lemma fileName_subset {name : List Char} (h : fileName s = some name) : name ⊆ s := by
  cases s with
  | nil => cases h
  | cons c r =>
    have htail : (if isQuote c then r else c :: r) ⊆ c :: r := by
      split
      · exact List.subset_cons_self c r
      · exact List.Subset.refl _
    simp only [fileName] at h
    generalize (if isQuote c then r else c :: r) = t at h htail
    split at h
    · cases h
    · obtain rfl := Option.some_inj.mp h
      exact List.Subset.trans (List.takeWhile_subset _) htail

lemma lastSource_subset {name : List Char} (h : lastSource s = some name) : name ⊆ s := by
  induction s with
  | nil => cases h
  | cons c s ih =>
    rw [lastSource] at h
    split at h
    · next found hfound =>
      obtain rfl := Option.some_inj.mp h
      exact List.subset_cons_of_subset c (ih hfound)
    · split at h
      · have hdrop : s.drop 3 ⊆ s := List.drop_subset 3 s
        exact List.subset_cons_of_subset c (List.Subset.trans (fileName_subset h) hdrop)
      · cases h

lemma mem_of_mem_image {out : List Char} {more : ℕ} (h : image s = some (out, more)) :
    ∀ c ∈ out, c ∈ s ∨ c = ' ' := by
  rw [image] at h
  split at h
  · dsimp only at h
    split at h
    · cases h
    · obtain ⟨name, hname, heq⟩ := Option.map_eq_some_iff.mp h
      obtain rfl : ' ' :: name ++ [' '] = out := congrArg Prod.fst heq
      have hbody : name ⊆ s := by
        apply List.Subset.trans (lastSource_subset hname)
        apply List.Subset.trans (List.tail_subset _)
        exact List.Subset.trans (List.takeWhile_subset _) (List.drop_subset 4 s)
      intro c hc
      simp only [List.cons_append, List.mem_cons, List.mem_append, List.not_mem_nil, or_false] at hc
      rcases hc with rfl | hc | rfl
      · exact Or.inr rfl
      · exact Or.inl (hbody hc)
      · exact Or.inr rfl
  · cases h

lemma edit_entity_eq_self (h : '&' ∉ s) : edit entity s = s := by
  apply edit_eq_self
  intro t ht
  have hnot : '&' ∉ t := fun hc => h (ht.subset hc)
  rw [entity.eq_def]
  split
  · simp at hnot
  · rfl

lemma stripChars_eq_self (h : Unmarked s) (hentity : '&' ∉ s) : stripChars (edit image s) = s := by
  have himage : edit image s = s := edit_eq_self fun t ht => (h t ht).1
  have herase {length? : List Char → Option ℕ} (hnone : ∀ t, t <:+ s → length? t = none) :
      edit (erasing length?) s = s :=
    edit_eq_self fun t ht => erasing_eq_none.mpr (hnone t ht)
  rw [himage, stripChars]
  rw [herase fun t ht => (h t ht).2.1, herase fun t ht => (h t ht).2.2.1,
    herase fun t ht => (h t ht).2.2.2.1, herase fun t ht => (h t ht).2.2.2.2,
    edit_entity_eq_self hentity]

lemma stripped {v : List Char} (h : '&' ∉ v) :
    ¬['<', '>'] <+ stripChars (edit image v) ∧ '&' ∉ stripChars (edit image v) := by
  have himage : '&' ∉ edit image v := by
    intro hmem
    rcases mem_of_mem_editFrom (fun t out more => mem_of_mem_image) hmem with hmem | hblank
    · exact h hmem
    · exact absurd hblank (by decide)
  have herase (length? : List Char → Option ℕ) {t : List Char} (ht : '&' ∉ t) :
      '&' ∉ edit (erasing length?) t :=
    fun hmem => ht (mem_of_mem_erased hmem)
  have htags := herase tag (herase (element ['s', 'c', 'r', 'i', 'p', 't'])
    (herase (element ['s', 't', 'y', 'l', 'e']) (herase comment himage)))
  rw [stripChars, edit_entity_eq_self htags]
  exact ⟨not_bracketed_editFrom 0 _, htags⟩

theorem strip_final {v : String} (h : '&' ∉ v.toList) :
    stripKeepingImages (stripKeepingImages v) = stripKeepingImages v ∧
      ¬['<', '>'] <+ (stripKeepingImages v).toList ∧ Unmarked (stripKeepingImages v).toList := by
  obtain ⟨hbrackets, hentity⟩ := stripped h
  have hunmarked := unmarked_of_not_bracketed hbrackets
  simp only [stripKeepingImages, String.toList_ofList]
  exact ⟨congrArg String.ofList (stripChars_eq_self hunmarked hentity), hbrackets, hunmarked⟩

theorem strip_final_sample :
    stripKeepingImages "<<b>i>x<img src=a<u>y</u>z<" = "i>x az<" ∧
      stripKeepingImages "i>x az<" = "i>x az<" ∧ ¬['<', '>'] <+ "i>x az<".toList ∧
      Unmarked "i>x az<".toList := by
  have hstrip : stripKeepingImages "<<b>i>x<img src=a<u>y</u>z<" = "i>x az<" := by decide +kernel
  have hfinal := @strip_final "<<b>i>x<img src=a<u>y</u>z<" (by decide)
  rw [hstrip] at hfinal
  exact ⟨hstrip, hfinal⟩

end Markup

end CardQuery
