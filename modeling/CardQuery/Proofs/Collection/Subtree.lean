import CardQuery.Collection.Deck
import CardQuery.Proofs.Collection.Table
import CardQuery.Proofs.Text.Case

/-!
A deck with everything below it. Names are compared in lowercase, so a deck whose name ends in a sigma
misses what continues the name with a cased letter.
-/

namespace CardQuery

namespace Text

lemma lowerFrom_level (before s : List Char) :
    lowerFrom before (':' :: ':' :: s) = ':' :: ':' :: lowerFrom (':' :: ':' :: before) s := by
  have hcolon : lowerChar ':' = [':'] := by decide
  simp [lowerFrom, hcolon]

lemma leadsCased_level (s : List Char) : leadsCased (':' :: ':' :: s) = leadsCased s := by
  have hcolon : isCaseIgnorable ':' = true := by decide
  simp [leadsCased, hcolon]

end Text

namespace Decks

variable {ds : Decks}

lemma name?_eq_some_iff (hids : (ds.all.map Deck.id).Nodup) {id : Int} {name : String} :
    ds.name? id = some name ↔ ⟨id, name⟩ ∈ ds.all := by
  rw [name?, Option.map_eq_some_iff]
  constructor
  · rintro ⟨d, hd, rfl⟩
    obtain ⟨hmem, rfl⟩ := (find?_key_iff hids).mp hd
    exact hmem
  · intro hmem
    exact ⟨_, (find?_key_iff hids).mpr ⟨hmem, rfl⟩, rfl⟩

lemma isBelow_iff {parent : String} {d : Deck} :
    isBelow parent d ↔ (Text.lower parent).toList ++ [':', ':'] <+: (Text.lower d.name).toList := by
  rw [isBelow, List.isPrefixOf_iff_prefix]

lemma not_isBelow_self (d : Deck) : isBelow d.name d = false := by
  rw [Bool.eq_false_iff, Ne, isBelow_iff]
  intro hself
  have hlength := hself.length_le
  rw [List.length_append, List.length_cons] at hlength
  omega

lemma isBelow_trans {d e : Deck} {parent : String} (hd : isBelow parent d) (he : isBelow d.name e) :
    isBelow parent e := by
  rw [isBelow_iff] at *
  exact hd.trans ((List.prefix_append _ _).trans he)

lemma isBelow_continued {parent : String} {e : Deck} {s : List Char}
    (he : e.name.toList = parent.toList ++ ':' :: ':' :: s) :
    isBelow parent e ↔ ¬(Text.FinalSigma [] parent.toList ∧ Text.leadsCased s) := by
  rw [isBelow_iff, Text.lower, Text.lower, String.toList_ofList, String.toList_ofList, he,
    Text.lowerFrom_append, Text.isPrefix_append_iff (Text.length_lowerBetween _ _ _).symm,
    Text.lowerFrom_level, ← Text.leadsCased_level, ← Text.lowerBetween_eq_lowerFrom_iff]
  simp [eq_comm]

lemma mem_below {parent : String} {d : Deck} :
    d ∈ ds.below parent ↔ d ∈ ds.all ∧ isBelow parent d := by
  rw [below, (Sorting.sort_perm _ _).mem_iff, List.mem_filter]

lemma nodup_below (hids : (ds.all.map Deck.id).Nodup) (parent : String) :
    ((ds.below parent).map Deck.id).Nodup := by
  have hkept : ((ds.all.filter (isBelow parent)).map Deck.id).Nodup :=
    hids.sublist (List.filter_sublist.map Deck.id)
  exact ((Sorting.sort_perm _ _).map Deck.id).nodup_iff.mpr hkept

lemma subtree?_eq_some_iff (hids : (ds.all.map Deck.id).Nodup) {id : Int} {ids : List Int} :
    ds.subtree? id = some ids ↔
      ∃ d ∈ ds.all, d.id = id ∧ ids = d.id :: (ds.below d.name).map Deck.id := by
  rw [subtree?, Option.map_eq_some_iff]
  constructor
  · rintro ⟨name, hname, rfl⟩
    exact ⟨_, (name?_eq_some_iff hids).mp hname, rfl, rfl⟩
  · rintro ⟨d, hd, rfl, rfl⟩
    exact ⟨d.name, (name?_eq_some_iff hids).mpr hd, rfl⟩

lemma subtree?_of_mem (hids : (ds.all.map Deck.id).Nodup) {d : Deck} (hd : d ∈ ds.all) :
    ds.subtree? d.id = some (d.id :: (ds.below d.name).map Deck.id) :=
  (subtree?_eq_some_iff hids).mpr ⟨d, hd, rfl, rfl⟩

lemma nodup_subtree? (hids : (ds.all.map Deck.id).Nodup) {id : Int} {ids : List Int}
    (h : ds.subtree? id = some ids) : ids.Nodup := by
  obtain ⟨d, hd, rfl, rfl⟩ := (subtree?_eq_some_iff hids).mp h
  refine List.nodup_cons.mpr ⟨?_, nodup_below hids d.name⟩
  intro hself
  obtain ⟨e, he, heq⟩ := List.mem_map.mp hself
  obtain ⟨hmem, hbelow⟩ := mem_below.mp he
  rw [List.inj_on_of_nodup_map hids hmem hd heq, not_isBelow_self] at hbelow
  simp at hbelow

lemma mem_subtree_iff (hids : (ds.all.map Deck.id).Nodup) {d e : Deck} (he : e ∈ ds.all) :
    e.id ∈ d.id :: (ds.below d.name).map Deck.id ↔ e.id = d.id ∨ isBelow d.name e := by
  rw [List.mem_cons, List.mem_map]
  refine or_congr_right ⟨?_, fun h => ⟨e, mem_below.mpr ⟨he, h⟩, rfl⟩⟩
  rintro ⟨f, hf, heq⟩
  obtain ⟨hmem, hbelow⟩ := mem_below.mp hf
  rwa [List.inj_on_of_nodup_map hids hmem he heq] at hbelow

lemma mem_subtree_continued (hids : (ds.all.map Deck.id).Nodup) {d e : Deck} (hd : d ∈ ds.all)
    (he : e ∈ ds.all) {s : String} (hname : e.name = d.name ++ "::" ++ s) :
    e.id ∈ d.id :: (ds.below d.name).map Deck.id ↔
      ¬(Text.FinalSigma [] d.name.toList ∧ Text.leadsCased s.toList) := by
  have hlist : e.name.toList = d.name.toList ++ ':' :: ':' :: s.toList := by simp [hname]
  have hne : e.id ≠ d.id := by
    intro heq
    rw [List.inj_on_of_nodup_map hids he hd heq] at hlist
    simpa using congrArg List.length hlist
  rw [mem_subtree_iff hids he, isBelow_continued hlist]
  simp [hne]

lemma subtree?_subset (hids : (ds.all.map Deck.id).Nodup) {a b : Int} {as : List Int}
    (ha : ds.subtree? a = some as) (hb : b ∈ as) :
    ∃ bs, ds.subtree? b = some bs ∧ ∀ c ∈ bs, c ∈ as := by
  obtain ⟨d, hd, rfl, rfl⟩ := (subtree?_eq_some_iff hids).mp ha
  rcases List.mem_cons.mp hb with rfl | hbelow
  · exact ⟨_, ha, fun c hc => hc⟩
  · obtain ⟨e, he, rfl⟩ := List.mem_map.mp hbelow
    obtain ⟨hmem, hde⟩ := mem_below.mp he
    refine ⟨_, subtree?_of_mem hids hmem, ?_⟩
    intro c hc
    rcases List.mem_cons.mp hc with rfl | hc
    · exact hb
    · obtain ⟨f, hf, rfl⟩ := List.mem_map.mp hc
      obtain ⟨hfmem, hef⟩ := mem_below.mp hf
      exact (mem_subtree_iff hids hfmem).mpr (Or.inr (isBelow_trans hde hef))

theorem subtree?_nested (hids : (ds.all.map Deck.id).Nodup) :
    (∀ d ∈ ds.all, ∃ ids, ds.subtree? d.id = some ids ∧ ids.head? = some d.id ∧ ids.Nodup ∧
      ∀ e ∈ ds.all, ∀ s, e.name = d.name ++ "::" ++ s →
        (e.id ∈ ids ↔ ¬(Text.FinalSigma [] d.name.toList ∧ Text.leadsCased s.toList))) ∧
    ∀ a as b, ds.subtree? a = some as → b ∈ as →
      ∃ bs, ds.subtree? b = some bs ∧ ∀ c ∈ bs, c ∈ as := by
  constructor
  · intro d hd
    have hsub := subtree?_of_mem hids hd
    refine ⟨_, hsub, rfl, nodup_subtree? hids hsub, ?_⟩
    intro e he s hname
    exact mem_subtree_continued hids hd he hname
  · intro a as b ha hb
    exact subtree?_subset hids ha hb

def greekDecks : Decks :=
  ⟨[⟨1, "ΑΣ"⟩, ⟨2, "ΑΣ::Β"⟩, ⟨3, "ΑΣ::1"⟩, ⟨4, "ΑΣ::1::Β"⟩, ⟨5, "Γ::Α"⟩], 1⟩

theorem subtree?_nested_sample :
    (greekDecks.all.map Deck.id).Nodup ∧
      ∃ ids, greekDecks.subtree? 1 = some ids ∧ ids.head? = some 1 ∧ ids.Nodup ∧
        2 ∉ ids ∧ 3 ∈ ids ∧ 4 ∈ ids ∧
        ∃ below, greekDecks.subtree? 3 = some below ∧ ∀ c ∈ below, c ∈ ids := by
  have hids : (greekDecks.all.map Deck.id).Nodup := by decide
  have hsigma : Text.FinalSigma [] "ΑΣ".toList := ⟨['Α'], [], by decide, rfl, by decide +kernel⟩
  obtain ⟨hnested, hsubset⟩ := subtree?_nested hids
  obtain ⟨ids, hsub, hhead, hnodup, hmem⟩ := hnested ⟨1, "ΑΣ"⟩ (by decide)
  have hlost : 2 ∉ ids := fun h =>
    (hmem ⟨2, "ΑΣ::Β"⟩ (by decide) "Β" (by decide)).mp h ⟨hsigma, by decide +kernel⟩
  have hdigit : 3 ∈ ids := (hmem ⟨3, "ΑΣ::1"⟩ (by decide) "1" (by decide)).mpr fun h =>
    absurd h.2 (by decide +kernel)
  have hdeep : 4 ∈ ids := (hmem ⟨4, "ΑΣ::1::Β"⟩ (by decide) "1::Β" (by decide)).mpr fun h =>
    absurd h.2 (by decide +kernel)
  exact ⟨hids, ids, hsub, hhead, hnodup, hlost, hdigit, hdeep, hsubset 1 ids 3 hsub hdigit⟩

/-- A cased letter on the level below keeps the sigma from being final, and the deck is lost. -/
theorem subtree?_loses_level :
    let ds : Decks := ⟨[⟨1, "ΑΣ"⟩, ⟨2, "ΑΣ::Β"⟩], 1⟩
    (ds.all.map Deck.id).Nodup ∧ "ΑΣ::Β" = "ΑΣ" ++ "::" ++ "Β" ∧ ds.subtree? 1 = some [1] := by
  decide +kernel

end Decks

end CardQuery
