import CardQuery.Proofs.Collection.Stored
import CardQuery.Proofs.Search.TextTerm
import Mathlib.Data.String.Basic

namespace CardQuery

open Like (folded)
open Text (edge)

namespace Tags

variable {tags : List String}

def words (tags : List String) : List (List Char) := (tags.map String.toList).filter (!·.isEmpty)

lemma mem_words {w : List Char} : w ∈ words tags ↔ ∃ tag ∈ tags, tag.toList = w ∧ w ≠ [] := by
  simp only [words, List.mem_filter, List.mem_map, Bool.not_eq_true', List.isEmpty_eq_false_iff]
  constructor
  · rintro ⟨⟨tag, htag, rfl⟩, hne⟩
    exact ⟨tag, htag, rfl, hne⟩
  · rintro ⟨tag, htag, rfl, hne⟩
    exact ⟨⟨tag, htag, rfl⟩, hne⟩

lemma dropWhile_isBlank {s : List Char} (h : ∀ c ∈ s, ¬Text.isBlank c) :
    s.dropWhile Text.isBlank = s := by
  cases s with
  | nil => rfl
  | cons c s => exact List.dropWhile_cons_of_neg (h c List.mem_cons_self)

lemma trim_eq {s : List Char} (h : ∀ c ∈ s, ¬Text.isBlank c) : Text.trim s = s := by
  have hreverse : ∀ c ∈ s.reverse, ¬Text.isBlank c := fun c hc => h c (List.mem_reverse.mp hc)
  rw [Text.trim, dropWhile_isBlank h, dropWhile_isBlank hreverse, List.reverse_reverse]

lemma canonical_eq (h : ∀ tag ∈ tags, ∀ c ∈ tag.toList, ¬Text.isBlank c) :
    canonical tags =
      if words tags = [] then "" else String.ofList (' ' :: (words tags).flatMap (· ++ [' '])) := by
  have hwords : ((tags.map fun t => Text.trim t.toList).filter (!·.isEmpty)) = words tags := by
    rw [words]
    congr 1
    exact List.map_congr_left fun tag htag => trim_eq (h tag htag)
  rw [canonical]
  simp only [hwords, List.isEmpty_iff]
  split
  · rfl
  · next hne => rw [List.cons_append, Text.joinWith_append_singleton hne]

lemma canonical_eq_empty_iff (h : ∀ tag ∈ tags, ∀ c ∈ tag.toList, ¬Text.isBlank c) :
    canonical tags = "" ↔ ∀ tag ∈ tags, tag = "" := by
  have hnil : words tags = [] ↔ ∀ tag ∈ tags, tag = "" := by
    simp [words, List.filter_eq_nil_iff]
  rw [canonical_eq h, ← hnil]
  split
  · next hwords => exact iff_of_true rfl hwords
  · next hwords => exact iff_of_false (by simp) hwords

lemma nul_notMem_canonical (h : ∀ tag ∈ tags, ∀ c ∈ tag.toList, ¬Text.isBlank c ∧ c ≠ '\x00') :
    '\x00' ∉ (canonical tags).toList := by
  rw [canonical_eq fun tag htag c hc => (h tag htag c hc).1]
  split
  · simp
  · simp only [String.toList_ofList, List.mem_cons, List.mem_flatMap, List.mem_append,
      List.not_mem_nil, or_false]
    rintro (hc | ⟨w, hw, hc | hc⟩)
    · exact absurd hc (by decide)
    · obtain ⟨tag, htag, rfl, -⟩ := mem_words.mp hw
      exact (h tag htag _ hc).2 rfl
    · exact absurd hc (by decide)

lemma exists_mem_words (f : Char → Char) {v : List Char} (hne : v ≠ []) (left right : Bool) :
    (∃ w ∈ (words tags).map (List.map f), ∃ a b, w = a ++ v ++ b ∧ (a = [] ∨ left) ∧ (b = [] ∨ right)) ↔
      ∃ tag ∈ tags, ∃ a b, tag.toList.map f = a ++ v ++ b ∧ (a = [] ∨ left) ∧ (b = [] ∨ right) := by
  constructor
  · rintro ⟨_, hmem, hstands⟩
    obtain ⟨w, hw, rfl⟩ := List.mem_map.mp hmem
    obtain ⟨tag, htag, rfl, -⟩ := mem_words.mp hw
    exact ⟨tag, htag, hstands⟩
  · rintro ⟨tag, htag, a, b, heq, hends⟩
    have hsome : tag.toList ≠ [] := by
      intro hnil
      rw [hnil] at heq
      exact hne (List.append_eq_nil_iff.mp (List.append_eq_nil_iff.mp heq.symm).1).2
    exact ⟨_, List.mem_map_of_mem (mem_words.mpr ⟨tag, htag, rfl, hsome⟩), a, b, heq, hends⟩

lemma infix_map_canonical {f : Char → Char} (hf : ∀ c, f c = ' ' ↔ c = ' ')
    (h : ∀ tag ∈ tags, ∀ c ∈ tag.toList, ¬Text.isBlank c) {v : List Char} (hne : v ≠ []) (hv : ' ' ∉ v)
    (left right : Bool) :
    edge ' ' left ++ v ++ edge ' ' right <:+: (canonical tags).toList.map f ↔
      ∃ tag ∈ tags, ∃ a b, tag.toList.map f = a ++ v ++ b ∧ (a = [] ∨ left) ∧ (b = [] ∨ right) := by
  have hwords : (' ' :: (words tags).flatMap (· ++ [' '])).map f =
      ' ' :: ((words tags).map (List.map f)).flatMap (· ++ [' ']) := by
    simp only [List.map_cons, List.map_flatMap, List.flatMap_map, List.map_append, List.map_nil,
      (hf ' ').mpr rfl]
  have hblank : ∀ w ∈ (words tags).map (List.map f), ' ' ∉ w := by
    rw [List.forall_mem_map]
    intro w hw hmem
    obtain ⟨tag, htag, rfl, -⟩ := mem_words.mp hw
    obtain ⟨c, hc, hspace⟩ := List.mem_map.mp hmem
    exact h tag htag c hc ((hf c).mp hspace ▸ by decide)
  rw [canonical_eq h, ← exists_mem_words f hne]
  split
  · next hnil => simp [hnil, hne]
  · rw [String.toList_ofList, hwords, Text.infix_words hne hv hblank]

lemma read_eq_blank_iff {c : Char} : (Like.read c).toLower = ' ' ↔ c = ' ' :=
  Like.toLower_read_eq_iff (by decide) (by decide) (by decide)

lemma infix_folded_canonical (h : ∀ tag ∈ tags, ∀ c ∈ tag.toList, ¬Text.isBlank c) {v : List Char}
    (hne : v ≠ []) (hv : ' ' ∉ v) (left right : Bool) :
    edge ' ' left ++ v ++ edge ' ' right <:+: folded (canonical tags).toList ↔
      ∃ tag ∈ tags, ∃ a b, folded tag.toList = a ++ v ++ b ∧ (a = [] ∨ left) ∧ (b = [] ∨ right) := by
  exact infix_map_canonical (fun _ => read_eq_blank_iff) h hne hv left right

lemma infix_canonical (h : ∀ tag ∈ tags, ∀ c ∈ tag.toList, ¬Text.isBlank c) {v : List Char} (hne : v ≠ [])
    (hv : ' ' ∉ v) : v <:+: (canonical tags).toList ↔ ∃ tag ∈ tags, v <:+: tag.toList := by
  have hends := @infix_map_canonical tags id (fun c => Iff.rfl) h v hne hv true true
  simpa [edge, List.IsInfix, eq_comm] using hends

end Tags

namespace Query

def star (isOpen : Bool) : String := if isOpen then "*" else ""

variable {ctx : Context} {col : Collection} {card : Card} {note : Note} {v : String}

lemma toList_tagPattern (hne : v ≠ "") (hv : ∀ c ∈ v.toList, c ≠ '*' ∧ c ≠ '%') (left right : Bool) :
    (tagPattern (star left ++ v ++ star right)).toList =
      '%' :: (edge ' ' left ++ v.toList ++ edge ' ' right ++ ['%']) := by
  have hstars : starsToPercent v.toList = v.toList := by
    rw [starsToPercent, List.map_congr_left fun c hc => if_neg (hv c hc).1]
    exact List.map_id _
  have happend (s t : List Char) : starsToPercent (s ++ t) = starsToPercent s ++ starsToPercent t :=
    List.map_append
  have hvalue : starsToPercent (star left ++ v ++ star right).toList =
      starsToPercent (star left).toList ++ v.toList ++ starsToPercent (star right).toList := by
    rw [String.toList_append, String.toList_append, happend, happend, hstars]
  have hsome : v.toList ≠ [] := by simpa using hne
  have hhead := List.head?_eq_some_head hsome
  have hlast := List.getLast?_eq_some_getLast hsome
  generalize v.toList.head hsome = c at hhead
  generalize v.toList.getLast hsome = d at hlast
  have hc : c ≠ '%' := (hv c (List.mem_of_head? hhead)).2
  have hd : d ≠ '%' := (hv d (List.mem_of_getLast? hlast)).2
  rw [tagPattern, hvalue]
  cases left <;> cases right <;>
    simp [star, starsToPercent, edge, List.getLast?_cons, List.getLast?_append, hhead, hlast, hc, hd]

lemma met_none : Met ctx col ⟨card, some note⟩ (.command "tag" "none") ↔ note.tags = "" := by
  have hasked : asked? ctx col (.command "tag" "none") = some ⟨.untagged, []⟩ := rfl
  have hformula : Formula.ofPieces? (Bound.pieces ⟨.untagged, []⟩) = some (.term ⟨.untagged, []⟩) := rfl
  simp [Met, hasked, Bound.holds?_of_formula hformula, Formula.holds?, Test.holds?, Atom.holds?]

lemma met_tag {value : String} (hnone : value ≠ "none") :
    Met ctx col ⟨card, some note⟩ (.command "tag" value) ↔
      Like.holds? none (tagPattern value) note.tags = some true := by
  have hasked : asked? ctx col (.command "tag" value) = some ⟨.tagged, [tagPattern value]⟩ := by
    have hinterpret : interpret? ctx col (.command "tag" value) = some (tag value) := rfl
    rw [asked?, hinterpret, tag, if_neg hnone]
  have hformula : Formula.ofPieces? (Bound.pieces ⟨.tagged, [tagPattern value]⟩) =
      some (.term ⟨.tagsLike, [tagPattern value]⟩) := rfl
  simp [Met, hasked, Bound.holds?_of_formula hformula, Formula.holds?, Test.holds?, Atom.holds?, Row.like?]

lemma met_starred {tags : List String} (hnote : note.tags = Tags.canonical tags)
    (htags : ∀ tag ∈ tags, ∀ c ∈ tag.toList, ¬Text.isBlank c ∧ c ≠ '\x00') (hne : v ≠ "")
    (hv : ∀ c ∈ v.toList, c ∉ ['*', '%', '_', '\x00', ' ']) {left right : Bool}
    (hnone : star left ++ v ++ star right ≠ "none") :
    Met ctx col ⟨card, some note⟩ (.command "tag" (star left ++ v ++ star right)) ↔
      (tagPattern (star left ++ v ++ star right)).utf8ByteSize ≤ Like.longest ∧
        ∃ tag ∈ tags, ∃ a b, folded tag.toList = a ++ folded v.toList ++ b ∧ (a = [] ∨ left) ∧
          (b = [] ∨ right) := by
  have hplain : ∀ c ∈ v.toList, c ≠ '*' ∧ c ≠ '%' ∧ c ≠ '_' ∧ c ≠ '\x00' ∧ c ≠ ' ' := by
    simpa using hv
  have hpattern : (tagPattern (star left ++ v ++ star right)).toList =
      '%' :: [edge ' ' left ++ v.toList ++ edge ' ' right].flatMap (· ++ ['%']) := by
    rw [toList_tagPattern hne fun c hc => ⟨(hplain c hc).1, (hplain c hc).2.1⟩]
    simp
  have hedge (isOpen : Bool) : ∀ c ∈ edge ' ' isOpen, c = ' ' := by cases isOpen <;> simp [edge]
  have hlower (isOpen : Bool) : folded (edge ' ' isOpen) = edge ' ' isOpen := by cases isOpen <;> rfl
  have hpieces : ∀ p ∈ [edge ' ' left ++ v.toList ++ edge ' ' right], ∀ c ∈ p,
      c ∉ ['%', '_', '\x00'] ∧ some c ≠ none := by
    simp only [List.forall_mem_singleton, List.mem_append]
    rintro c ((hc | hc) | hc)
    · obtain rfl := hedge left c hc
      decide
    · simpa using ⟨(hplain c hc).2.1, (hplain c hc).2.2.1, (hplain c hc).2.2.2.1⟩
    · obtain rfl := hedge right c hc
      decide
  have hblank : ' ' ∉ folded v.toList :=
    Like.notMem_folded (fun _ => Tags.read_eq_blank_iff.mp) fun hc => (hplain _ hc).2.2.2.2 rfl
  have hsome : folded v.toList ≠ [] := by simpa [folded] using hne
  rw [met_tag hnone, Like.holds?_eq_true, hnote, hpattern,
    Like.accepts_pieces hpieces (by simp) (Tags.nul_notMem_canonical htags), List.map_singleton,
    Text.inOrder_singleton, Like.folded_append, Like.folded_append, hlower, hlower,
    Tags.infix_folded_canonical (fun tag htag c hc => (htags tag htag c hc).1) hsome hblank]

theorem tag_selects {col' : Collection} {t : NoteType} {n : NewNote} (hadd : col.addNote t n = .ok col')
    (htags : ∀ tag ∈ n.tags, ∀ c ∈ tag.toList, ¬Text.isBlank c ∧ c ≠ '\x00') (hne : v ≠ "")
    (hv : ∀ c ∈ v.toList, ¬Text.isBlank c ∧ c ∉ ['*', '%', '_', '\x00']) :
    ∃ note, col'.notes.find? n.id = some note ∧ ∀ ctx card,
      (v ≠ "none" → (Met ctx col' ⟨card, some note⟩ (.command "tag" v) ↔
        (tagPattern v).utf8ByteSize ≤ Like.longest ∧
          ∃ tag ∈ n.tags, folded tag.toList = folded v.toList)) ∧
      (Met ctx col' ⟨card, some note⟩ (.command "tag" (v ++ "*")) ↔
        (tagPattern (v ++ "*")).utf8ByteSize ≤ Like.longest ∧
          ∃ tag ∈ n.tags, folded v.toList <+: folded tag.toList) ∧
      (Met ctx col' ⟨card, some note⟩ (.command "tag" ("*" ++ v)) ↔
        (tagPattern ("*" ++ v)).utf8ByteSize ≤ Like.longest ∧
          ∃ tag ∈ n.tags, folded v.toList <:+ folded tag.toList) ∧
      (Met ctx col' ⟨card, some note⟩ (.command "tag" ("*" ++ v ++ "*")) ↔
        (tagPattern ("*" ++ v ++ "*")).utf8ByteSize ≤ Like.longest ∧
          ∃ tag ∈ n.tags, folded v.toList <:+: folded tag.toList) ∧
      (Met ctx col' ⟨card, some note⟩ (.command "tag" "none") ↔ ∀ tag ∈ n.tags, tag = "") := by
  obtain ⟨note, hstored, hfind⟩ := Collection.find?_of_addNote hadd
  obtain ⟨-, -, -, -, -, -, -, hnote, -⟩ := NewNote.stored_eq_ok.mp hstored
  have hplain : ∀ c ∈ v.toList, c ∉ ['*', '%', '_', '\x00', ' '] := by
    intro c hc
    obtain ⟨hblank, hspecial⟩ := hv c hc
    have hspace : c ≠ ' ' := fun h => hblank (h ▸ by decide)
    simpa [hspace] using hspecial
  have hstar {value : String} (h : '*' ∈ value.toList) : value ≠ "none" := by
    rintro rfl
    exact absurd h (by decide)
  have hmet (ctx : Context) (card : Card) (left right : Bool)
      (hnone : star left ++ v ++ star right ≠ "none") :=
    @met_starred ctx col' card note v n.tags hnote htags hne hplain left right hnone
  refine ⟨note, hfind, fun ctx card => ⟨fun hnone => ?_, ?_, ?_, ?_, ?_⟩⟩
  · simpa [star] using hmet ctx card false false (by simpa [star] using hnone)
  · simpa [star, List.IsPrefix, eq_comm] using hmet ctx card false true (hstar (by simp [star]))
  · simpa [star, List.IsSuffix, eq_comm] using hmet ctx card true false (hstar (by simp [star]))
  · simpa [star, List.IsInfix, eq_comm] using hmet ctx card true true (hstar (by simp [star]))
  · rw [met_none, hnote, Tags.canonical_eq_empty_iff fun tag htag c hc => (htags tag htag c hc).1]

def frontBack : NoteType := ⟨1, "Basic", .standard, ["Front", "Back"], [], 0⟩

def catNote : NewNote := ⟨1, 1, 0, ["cat", "chat"], ["pet", "Big-Cat", ""]⟩

theorem tag_selects_sample : ∃ col' note, Collection.empty.addNote frontBack catNote = .ok col' ∧
    col'.notes.find? 1 = some note ∧ ∀ ctx card,
      Met ctx col' ⟨card, some note⟩ (.command "tag" "*CAT") ∧
        ¬Met ctx col' ⟨card, some note⟩ (.command "tag" "CAT") := by
  have hsuits : catNote.Suits frontBack := ⟨rfl, rfl, by decide⟩
  obtain ⟨col', hadd⟩ := Collection.exists_addNote .empty hsuits
  have htags : ∀ tag ∈ catNote.tags, tag.toList.all fun c => ¬Text.isBlank c ∧ c ≠ '\x00' := by decide
  obtain ⟨note, hfind, hmet⟩ := @tag_selects .empty "CAT" col' frontBack catNote hadd
    (fun tag htag => Text.forall_of_all (htags tag htag)) (by decide) (Text.forall_of_all (by decide))
  refine ⟨col', note, hadd, hfind, fun ctx card => ?_⟩
  obtain ⟨hequal, -, hends, -, -⟩ := hmet ctx card
  have hvalue : "*" ++ "CAT" = "*CAT" := by decide
  rw [hvalue] at hends
  rw [hends, hequal (by decide)]
  decide

section Limit

lemma length_le_utf8ByteSize (s : String) : s.toList.length ≤ s.utf8ByteSize := by
  have hbytes (cs : List Char) : cs.length ≤ String.utf8Len cs := by
    induction cs with
    | nil => exact Nat.le_refl 0
    | cons c cs ih => exact Nat.add_le_add ih c.utf8Size_pos
  rw [← String.ofList_toList (s := s), String.utf8ByteSize_ofList, String.toList_ofList]
  exact hbytes _

lemma length_le_tagPattern (value : String) :
    value.toList.length ≤ (tagPattern value).toList.length := by
  have hstars : (starsToPercent value.toList).length = value.toList.length := List.length_map _
  rw [tagPattern, String.toList_ofList, ← hstars]
  generalize starsToPercent value.toList = p
  split_ifs <;> simp <;> omega

lemma not_met_of_long {value : String} (hnone : value ≠ "none")
    (h : Like.longest < value.toList.length) :
    ¬Met ctx col ⟨card, some note⟩ (.command "tag" value) := by
  rw [met_tag hnone, Like.holds?_eq_true]
  rintro ⟨hshort, -⟩
  have hpattern := length_le_tagPattern value
  have hbytes := length_le_utf8ByteSize (tagPattern value)
  omega

lemma met_noncharacter : ∃ col' note,
    Collection.empty.addNote frontBack ⟨1, 1, 0, ["cat", "chat"], ["\uFFFE"]⟩ = .ok col' ∧
      col'.notes.find? 1 = some note ∧
      ∀ ctx card, Met ctx col' ⟨card, some note⟩ (.command "tag" "\uFFFF") := by
  have hsuits : (⟨1, 1, 0, ["cat", "chat"], ["\uFFFE"]⟩ : NewNote).Suits frontBack := ⟨rfl, rfl, by decide⟩
  obtain ⟨col', hadd⟩ := Collection.exists_addNote .empty hsuits
  obtain ⟨note, hstored, hfind⟩ := Collection.find?_of_addNote hadd
  obtain ⟨-, -, -, -, -, -, -, hnote, -⟩ := NewNote.stored_eq_ok.mp hstored
  refine ⟨col', note, hadd, hfind, fun ctx card => ?_⟩
  rw [met_tag (by decide), hnote]
  decide

theorem tag_selects_outgrown : (∃ tag : String, (∀ c ∈ tag.toList, c = 'a') ∧ tag ≠ "" ∧
    ∃ col' note, Collection.empty.addNote frontBack ⟨1, 1, 0, ["cat", "chat"], [tag]⟩ = .ok col' ∧
      col'.notes.find? 1 = some note ∧
      ∀ ctx card, ¬Met ctx col' ⟨card, some note⟩ (.command "tag" tag)) ∧
    ∃ col' note, Collection.empty.addNote frontBack ⟨1, 1, 0, ["cat", "chat"], ["\uFFFE"]⟩ = .ok col' ∧
      col'.notes.find? 1 = some note ∧
      ∀ ctx card, Met ctx col' ⟨card, some note⟩ (.command "tag" "\uFFFF") := by
  refine ⟨?_, met_noncharacter⟩
  let tag := String.ofList (List.replicate 50001 'a')
  have hlist : tag.toList = List.replicate 50001 'a' := String.toList_ofList
  have hlength : tag.toList.length = 50001 := by rw [hlist, List.length_replicate]
  have hne {value : String} (h : value.toList.length < 50001) : tag ≠ value := by
    intro heq
    rw [← heq, hlength] at h
    exact absurd h (Nat.lt_irrefl _)
  have hsuits : (⟨1, 1, 0, ["cat", "chat"], [tag]⟩ : NewNote).Suits frontBack := ⟨rfl, rfl, by decide⟩
  obtain ⟨col', hadd⟩ := Collection.exists_addNote .empty hsuits
  obtain ⟨note, -, hfind⟩ := Collection.find?_of_addNote hadd
  refine ⟨tag, ?_, hne (by decide), col', note, hadd, hfind, fun ctx card => ?_⟩
  · intro c hc
    rw [hlist] at hc
    exact List.eq_of_mem_replicate hc
  · apply not_met_of_long (hne (by decide))
    rw [hlength]
    decide

end Limit

end Query

end CardQuery
