import CardQuery.Proofs.Collection.Subtree
import CardQuery.Proofs.Pattern.Globbing
import CardQuery.Proofs.Query.Condition
import CardQuery.Query.Deck

namespace CardQuery.Query

open Pattern

lemma mem_distinct {x : Int} {xs : List Int} : x ∈ distinct xs ↔ x ∈ xs := by
  induction xs with
  | nil => rfl
  | cons y ys ih =>
    simp only [distinct, List.mem_cons, List.mem_filter, ih]
    by_cases hxy : x = y <;> simp [hxy]

lemma nodup_distinct (xs : List Int) : (distinct xs).Nodup := by
  induction xs with
  | nil => exact .nil
  | cons x xs ih =>
    rw [distinct, List.nodup_cons]
    exact ⟨by simp, ih.filter _⟩

inductive NameGlob : List Char → List Char → Prop
  | nil : NameGlob [] []
  | run {v s} (r : List Char) : NameGlob v s → NameGlob ('*' :: v) (r ++ s)
  | lit {v s c d} : c ≠ '*' → Text.sameFolded c d → NameGlob v s → NameGlob (c :: v) (d :: s)

def namePlace (c : Char) : Wild := if c = '*' then .run else .lit c

lemma deckGlob_eq (value : String) : deckGlob value = value.toList.map namePlace := rfl

lemma nameGlob_of_matches {v s : List Char} (h : Wild.Matches deckAlphabet (v.map namePlace) s) :
    NameGlob v s := by
  induction v generalizing s with
  | nil =>
    obtain rfl := Wild.matches_nil.mp h
    exact .nil
  | cons c v ih =>
    rw [List.map_cons, namePlace] at h
    split at h
    · next hc =>
      subst hc
      obtain ⟨r, t, rfl, -, hrest⟩ := Wild.matches_run.mp h
      exact .run r (ih hrest)
    · next hc =>
      obtain ⟨d, t, rfl, hd, hrest⟩ := Wild.matches_lit.mp h
      exact .lit hc hd (ih hrest)

lemma NameGlob.matches {v s : List Char} (h : NameGlob v s) (hline : '\n' ∉ s) :
    Wild.Matches deckAlphabet (v.map namePlace) s := by
  induction h with
  | nil => exact .nil
  | run r _ ih =>
    simp only [List.mem_append, not_or] at hline
    refine .run r (fun c hc => ?_) (ih hline.2)
    rw [deckAlphabet, decide_eq_true_iff]
    rintro rfl
    exact hline.1 hc
  | lit hc hd _ ih =>
    simp only [List.mem_cons, not_or] at hline
    simpa [namePlace, hc] using Wild.Matches.lit hd (ih hline.2)

lemma accepts_deckGlob {value name : String} (hname : '\n' ∉ name.toList) :
    Wild.accepts deckAlphabet (deckGlob value) name.toList ↔ NameGlob value.toList name.toList := by
  rw [Wild.accepts_iff, deckGlob_eq]
  exact ⟨nameGlob_of_matches, fun h => h.matches hname⟩

section Pattern

lemma plain_start : (Flags.start true).Plain (.compl (.char '\n')) := ⟨rfl, rfl, rfl, rfl⟩

lemma wildAlphabet_start :
    wildAlphabet (.start true) (.compl (.char '\n')) = deckAlphabet := by
  have hfree : (CharSet.compl (.char '\n')).contains = fun c => decide (c ≠ '\n') := by
    funext c
    have hline : c.toNat = '\n'.toNat ↔ c = '\n' := Char.toNat_inj
    rw [CharSet.contains, CharSet.char, CharSet.contains, Bool.eq_iff_iff, decide_eq_true_iff, Ne,
      ← hline]
    simp
  rw [wildAlphabet, hfree]
  rfl

lemma wildForm_namePlace (c : Char) :
    wildForm (namePlace c) = if c = '*' then ['.', '*'] else escaped c := by
  rw [namePlace]
  split <;> rfl

lemma deckText_eq (value : String) : deckText value = wildText (deckGlob value) := by
  let form (c : Char) : List Char := if c = '*' then ['.', '*'] else escaped c
  have hpieces : (Text.splitOn '*' value.toList).map (·.flatMap escaped) =
      (Text.splitOn '*' value.toList).map (·.flatMap form) := by
    apply List.map_congr_left
    intro p hp
    apply List.flatMap_congr
    intro c hc
    have hstar : c ≠ '*' := by
      rintro rfl
      exact Text.notMem_of_mem_splitOn hp hc
    exact (if_neg hstar).symm
  have hjoin := Text.flatMap_joinWith form '*' (Text.splitOn '*' value.toList)
  rw [Text.joinWith_splitOn] at hjoin
  simp only [deckText, hpieces, wildText, deckGlob_eq, List.flatMap_map, wildForm_namePlace]
  rw [show form = fun c => if c = '*' then ['.', '*'] else escaped c from rfl] at hjoin
  rw [hjoin]
  rfl

def deckTree (value : String) : Tree :=
  wildTree (.start true) (.compl (.char '\n')) (deckGlob value)

theorem deckPattern?_eq (value : String) : deckPattern? value =
    if Reader.heaviest < (deckTree value).weight then none else some ⟨deckTree value, []⟩ := by
  rw [deckPattern?, Regex.read?, deckText_eq, readUnder?_wildText plain_start]
  rfl

lemma occurs_deckPattern? {value : String} {r : Regex} (h : deckPattern? value = some r)
    {name : String} (hname : '\n' ∉ name.toList) :
    r.tree.occurs none name.toList ↔ NameGlob value.toList name.toList := by
  rw [deckPattern?_eq] at h
  split at h
  · cases h
  · cases h
    rw [deckTree, occurs_wildTree, wildAlphabet_start, accepts_deckGlob hname]

end Pattern

section Selection

variable {ds : Decks} {value : String}

/-- With a star, a value names the decks whose whole name it covers; otherwise the first of that name
in any case. -/
def Names (ds : Decks) (value : String) (d : Deck) : Prop :=
  if '*' ∈ value.toList then d ∈ ds.all ∧ NameGlob value.toList d.name.toList
  else ds.all.find? (sameName ·.name value) = some d

lemma Names.mem {d : Deck} (h : Names ds value d) : d ∈ ds.all := by
  rw [Names] at h
  split at h
  · exact h.1
  · exact List.mem_of_find?_eq_some h

lemma mem_globbedDecks (hnames : ∀ d ∈ ds.all, '\n' ∉ d.name.toList)
    (hread : (deckPattern? value).isSome) {d : Deck} :
    d ∈ globbedDecks ds value ↔ d ∈ ds.all ∧ NameGlob value.toList d.name.toList := by
  rw [globbedDecks, if_pos hread, List.mem_filter]
  apply and_congr_right
  intro hd
  exact accepts_deckGlob (hnames d hd)

lemma mem_getD_nil {x : Int} {o : Option (List Int)} :
    x ∈ o.getD [] ↔ ∃ ids, o = some ids ∧ x ∈ ids := by
  cases o <;> simp

lemma deckIds_spec (hids : (ds.all.map Deck.id).Nodup)
    (hnames : ∀ d ∈ ds.all, '\n' ∉ d.name.toList)
    (hcurrent : Text.equalAscii value.toList ['c', 'u', 'r', 'r', 'e', 'n', 't'] = false)
    (hread : '*' ∈ value.toList → (deckPattern? value).isSome) :
    (deckIds ds value).Nodup ∧ ∀ x, x ∈ deckIds ds value ↔
      ∃ d, Names ds value d ∧ ∃ below, ds.subtree? d.id = some below ∧ x ∈ below := by
  rw [deckIds, if_neg (by simp [hcurrent])]
  by_cases hstar : '*' ∈ value.toList
  · rw [if_pos (by simpa using hstar)]
    refine ⟨nodup_distinct _, fun x => ?_⟩
    simp only [mem_distinct, List.mem_flatMap, mem_globbedDecks hnames (hread hstar), mem_getD_nil,
      Names, if_pos hstar]
  · rw [if_neg (by simpa using hstar)]
    have hfirst : (ds.idOf? value).bind ds.subtree? =
        (ds.all.find? (sameName ·.name value)).bind fun d => ds.subtree? d.id := by
      rw [Decks.idOf?, Option.bind_map]
      rfl
    constructor
    · rw [hfirst]
      cases hsub : (ds.all.find? (sameName ·.name value)).bind fun d => ds.subtree? d.id with
      | none => exact List.nodup_nil
      | some ids =>
        obtain ⟨d, -, hd⟩ := Option.bind_eq_some_iff.mp hsub
        exact Decks.nodup_subtree? hids hd
    · intro x
      simp only [hfirst, mem_getD_nil, Option.bind_eq_some_iff, Names, if_neg hstar]
      constructor
      · rintro ⟨below, ⟨d, hd, hsub⟩, hx⟩
        exact ⟨d, hd, below, hsub, hx⟩
      · rintro ⟨d, hd, below, hsub, hx⟩
        exact ⟨below, ⟨d, hd, hsub⟩, hx⟩

lemma deckIds_eq_nil_iff (hids : (ds.all.map Deck.id).Nodup)
    (hmem : ∀ x, x ∈ deckIds ds value ↔
      ∃ d, Names ds value d ∧ ∃ below, ds.subtree? d.id = some below ∧ x ∈ below) :
    deckIds ds value = [] ↔ ∀ d, ¬Names ds value d := by
  rw [List.eq_nil_iff_forall_not_mem]
  constructor
  · intro hnone d hd
    exact hnone d.id ((hmem d.id).mpr ⟨d, hd, _, Decks.subtree?_of_mem hids hd.mem, by simp⟩)
  · intro hnone x hx
    obtain ⟨d, hd, -⟩ := (hmem x).mp hx
    exact hnone d hd

lemma deck_eq (hall : value ≠ "*") (hfiltered : value ≠ "filtered") :
    deck ds value =
      if deckIds ds value = [] then .invalid else .condition (.inDecks (deckIds ds value)) := by
  rw [deck, if_neg hall, if_neg hfiltered]
  split
  · next h => rw [if_pos h]
  · next h => rw [if_neg (by simp [h]), h]

lemma holds?_inDecks (ids : List Int) (reviews : List Review) (row : Row) :
    Bound.holds? reviews row ⟨.inDecks ids, []⟩ =
      some (ids.contains row.card.deck || ids.contains row.card.homeDeck) := by
  have hformula : Formula.ofPieces? (Bound.pieces ⟨.inDecks ids, []⟩) =
      some (.or (.term ⟨.decks ids, []⟩) (.term ⟨.homeDecks ids, []⟩)) := rfl
  rw [Bound.holds?_of_formula hformula, Formula.holds?, Formula.holds?, Formula.holds?]
  simp only [Test.holds?, Atom.holds?]
  cases ids.contains row.card.deck <;> rfl

lemma deck_of_unreadable (hstar : '*' ∈ value.toList) (hall : value ≠ "*")
    (hread : deckPattern? value = none) : deck ds value = .invalid := by
  have hfiltered : value ≠ "filtered" := by
    rintro rfl
    exact absurd hstar (by decide)
  have hcurrent : Text.equalAscii value.toList ['c', 'u', 'r', 'r', 'e', 'n', 't'] = false :=
    Text.equalAscii_of_mem hstar (by decide)
  have hids : deckIds ds value = [] := by
    rw [deckIds, if_neg (by simp [hcurrent]), if_pos (by simpa using hstar), globbedDecks, hread]
    rfl
  rw [deck_eq hall hfiltered, if_pos hids]

lemma text_inDecks (ids : List Int) : (Condition.inDecks ids).text =
    "c.did in " ++ idList ids ++ " or c.odid in " ++ idList ids := by
  have hnil : Piece.textOf Atom.text [] = "" := by simp [Piece.textOf]
  have hdecks : Piece.text Atom.text (.term (.decks ids)) = "c.did" ++ " in " ++ idList ids := rfl
  have hor : Piece.text Atom.text .or = " or " := rfl
  have hhome : Piece.text Atom.text (.term (.homeDecks ids)) = "c.odid" ++ " in " ++ idList ids := rfl
  have hdid : "c.did in " = "c.did" ++ " in " := by decide
  have hodid : " or c.odid in " = " or " ++ "c.odid" ++ " in " := by decide
  rw [Condition.text, Condition.pieces, Piece.textOf_cons, Piece.textOf_cons, Piece.textOf_cons,
    hdecks, hor, hhome, hnil, hdid, hodid, String.append_empty]
  simp only [String.append_assoc]

theorem deck_selects (hids : (ds.all.map Deck.id).Nodup)
    (hnames : ∀ d ∈ ds.all, '\n' ∉ d.name.toList) (hall : value ≠ "*")
    (hfiltered : value ≠ "filtered")
    (hcurrent : Text.equalAscii value.toList ['c', 'u', 'r', 'r', 'e', 'n', 't'] = false) :
    ('*' ∈ value.toList → deckPattern? value = none → deck ds value = .invalid) ∧
    (∀ r, deckPattern? value = some r → ∀ d ∈ ds.all,
      (r.tree.occurs none d.name.toList ↔ NameGlob value.toList d.name.toList)) ∧
    (('*' ∈ value.toList → (deckPattern? value).isSome) →
      (deck ds value = .invalid ↔ ∀ d, ¬Names ds value d) ∧
      ((∃ d, Names ds value d) → ∃ ids, deck ds value = .condition (.inDecks ids) ∧ ids.Nodup ∧
        (Condition.inDecks ids).text =
          "c.did in " ++ idList ids ++ " or c.odid in " ++ idList ids ∧
        ∀ reviews row, ∃ v, Bound.holds? reviews row ⟨.inDecks ids, []⟩ = some v ∧
          (v ↔ ∃ d, Names ds value d ∧ ∃ below, ds.subtree? d.id = some below ∧
            (row.card.deck ∈ below ∨ row.card.homeDeck ∈ below)))) := by
  refine ⟨fun hstar hread => deck_of_unreadable hstar hall hread,
    fun r hr d hd => occurs_deckPattern? hr (hnames d hd), fun hread => ?_⟩
  obtain ⟨hnodup, hmem⟩ := deckIds_spec hids hnames hcurrent hread
  have hnil := deckIds_eq_nil_iff hids hmem
  rw [deck_eq hall hfiltered]
  constructor
  · rw [← hnil]
    split
    · next h => exact iff_of_true rfl h
    · next h => exact iff_of_false (by simp) h
  · rintro ⟨d, hd⟩
    have hsome : deckIds ds value ≠ [] := fun h => hnil.mp h d hd
    refine ⟨_, if_neg hsome, hnodup, text_inDecks _, fun reviews row => ⟨_, holds?_inDecks .., ?_⟩⟩
    rw [Bool.or_eq_true, List.contains_iff_mem, List.contains_iff_mem, hmem, hmem]
    constructor
    · rintro (⟨e, he, below, hsub, hx⟩ | ⟨e, he, below, hsub, hx⟩)
      · exact ⟨e, he, below, hsub, Or.inl hx⟩
      · exact ⟨e, he, below, hsub, Or.inr hx⟩
    · rintro ⟨e, he, below, hsub, hx | hx⟩
      · exact Or.inl ⟨e, he, below, hsub, hx⟩
      · exact Or.inr ⟨e, he, below, hsub, hx⟩

end Selection

def languageDecks : Decks :=
  ⟨[⟨1, "Spanish"⟩, ⟨2, "Spanish::Verbs"⟩, ⟨3, "Spanish (old)"⟩, ⟨4, "French"⟩, ⟨5, "STRASSE"⟩], 1⟩

theorem deck_selects_sample :
    Names languageDecks "*AN*(old)" ⟨3, "Spanish (old)"⟩ ∧
      ∃ ids, deck languageDecks "*AN*(old)" = .condition (.inDecks ids) ∧ ids.Nodup ∧
        ∀ reviews row, row.card.homeDeck = 3 →
          Bound.holds? reviews row ⟨.inDecks ids, []⟩ = some true := by
  have hids : (languageDecks.all.map Deck.id).Nodup := by decide
  have hnames : ∀ d ∈ languageDecks.all, '\n' ∉ d.name.toList := by decide
  have hread : (deckPattern? "*AN*(old)").isSome := by decide +kernel
  have hnamed : Names languageDecks "*AN*(old)" ⟨3, "Spanish (old)"⟩ := by
    rw [Names, if_pos (by decide)]
    exact (mem_globbedDecks hnames hread).mp (by decide +kernel)
  obtain ⟨-, -, hselects⟩ :=
    @deck_selects languageDecks "*AN*(old)" hids hnames (by decide) (by decide) (by decide)
  obtain ⟨ids, hdeck, hnodup, -, hholds⟩ := (hselects fun _ => hread).2 ⟨_, hnamed⟩
  refine ⟨hnamed, ids, hdeck, hnodup, fun reviews row hrow => ?_⟩
  obtain ⟨v, hv, hiff⟩ := hholds reviews row
  have htrue : v = true := hiff.mpr ⟨_, hnamed, [3], by decide +kernel, Or.inr (by simp [hrow])⟩
  rw [hv, htrue]

section Stars

lemma deckPattern?_stars {n : ℕ} (h : 10082 < n) :
    deckPattern? (String.ofList (List.replicate n '*')) = none := by
  have hglob : deckGlob (String.ofList (List.replicate n '*')) = List.replicate n .run := by
    simp [deckGlob]
  have hroom : (deckTree (String.ofList (List.replicate n '*'))).room .backwards = n * 1040 + 64 := by
    rw [deckTree, hglob, room_wildTree_replicate]
    rfl
  rw [deckPattern?_eq, if_pos]
  rw [Tree.weight, hroom, Reader.heaviest]
  omega

lemma nameGlob_stars (n : ℕ) (s : List Char) : NameGlob (List.replicate (n + 1) '*') s := by
  have hnone : NameGlob (List.replicate n '*') [] := by
    induction n with
    | zero => exact .nil
    | succ n ih => exact .run [] ih
  have hrun := NameGlob.run s hnone
  rwa [List.append_nil] at hrun

end Stars

theorem deck_selects_outgrown :
    let value := String.ofList (List.replicate 120000 '*')
    '*' ∈ value.toList ∧ value ≠ "*" ∧ NameGlob value.toList "x".toList ∧
      deck ⟨[⟨1, "x"⟩], 1⟩ value = .invalid := by
  intro value
  have hlist : value.toList = List.replicate 120000 '*' := String.toList_ofList
  have hstar : '*' ∈ value.toList := by
    rw [hlist]
    exact List.mem_replicate.mpr ⟨by decide, rfl⟩
  have hall : value ≠ "*" := by
    intro heq
    have hlength := congrArg (fun s : String => s.toList.length) heq
    rw [hlist, List.length_replicate] at hlength
    exact absurd hlength (by decide)
  refine ⟨hstar, hall, ?_, deck_of_unreadable hstar hall (deckPattern?_stars (by decide))⟩
  rw [hlist]
  exact nameGlob_stars 119999 _

end CardQuery.Query
