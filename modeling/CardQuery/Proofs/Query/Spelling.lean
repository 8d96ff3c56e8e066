import CardQuery.Proofs.Text.Case
import CardQuery.Proofs.Text.Like
import CardQuery.Proofs.Text.Split
import CardQuery.Query.Token
import Mathlib.Data.List.Chain

namespace CardQuery

namespace Text

lemma colon_notMem_lowerChar {c : Char} (h : c ≠ ':') : ':' ∉ lowerChar c := by
  have hrows : ∀ r ∈ lowerRows, (':'.toNat : Int) < r.first + r.distance := by decide +kernel
  rw [lowerChar]
  split
  · decide
  · rw [List.mem_singleton]
    intro heq
    exact h (eq_of_shift hrows (by decide) heq.symm)

lemma colon_notMem_lowerFrom {s : List Char} (h : ':' ∉ s) (before : List Char) :
    ':' ∉ lowerFrom before s := by
  induction s generalizing before with
  | nil => simp [lowerFrom]
  | cons c s ih =>
    simp only [List.mem_cons, not_or] at h
    rw [lowerFrom, List.mem_append, not_or]
    refine ⟨?_, ih h.2 _⟩
    split
    · split <;> decide
    · exact colon_notMem_lowerChar (Ne.symm h.1)

lemma colon_notMem_lower {s : List Char} (h : ':' ∉ s) :
    ':' ∉ (lower (String.ofList s)).toList := by
  simpa [lower] using colon_notMem_lowerFrom h []

end Text

namespace Token

def IsText (word : List Char) : Prop :=
  word ≠ [] ∧ ':' ∉ word ∧ Text.equalAscii word ['o', 'r'] = false

def IsRead : Token → Prop
  | .command key _ => ':' ∉ key.toList
  | .text words => IsText words.toList
  | _ => True

def Apart (t u : Token) : Prop := ¬(t = .minus ∧ u = .minus)

def isKeyChar (c : Char) : Bool :=
  !Text.isBlank c && c != '(' && c != ')' && c != '\'' && c != '"' && c != ':'

def IsKey (key : String) : Prop :=
  Text.lower key = key ∧ key.toList.all isKeyChar ∧ key.toList.head? ≠ some '-'

def IsSpellable : Token → Prop
  | .command key value => IsKey key ∧ '"' ∉ value.toList
  | .text words => IsText words.toList ∧ '"' ∉ words.toList
  | _ => True

def quoted (s : String) : List Char := '"' :: s.toList ++ ['"']

def spelling : Token → List Char
  | .opening => ['(']
  | .closing => [')']
  | .minus => ['-']
  | .or => ['o', 'r']
  | .command key value => key.toList ++ ':' :: quoted value
  | .text words => quoted words

def spelled (ts : List Token) : String := String.ofList (Text.joinWith ' ' (ts.map spelling))

instance (word : List Char) : Decidable (IsText word) := inferInstanceAs (Decidable (_ ∧ _ ∧ _))

instance (key : String) : Decidable (IsKey key) := inferInstanceAs (Decidable (_ ∧ _ ∧ _))

instance : DecidableRel Apart := fun _ _ => inferInstanceAs (Decidable (¬_))

instance : DecidablePred IsSpellable
  | .command _ _ => inferInstanceAs (Decidable (_ ∧ _))
  | .text _ => inferInstanceAs (Decidable (_ ∧ _))
  | .opening | .closing | .minus | .or => inferInstanceAs (Decidable True)

lemma apart_of_ne_minus {t : Token} (h : t ≠ .minus) (u : Token) : Apart t u := fun hb => h hb.1

lemma isRead_ofWord {word : List Char} (h : word ≠ []) : (ofWord word).IsRead := by
  rw [ofWord]
  split
  · trivial
  · next hor =>
    split
    · next key value hsplit =>
      exact Text.colon_notMem_lower (Text.notMem_of_splitOnce hsplit)
    · next hsplit =>
      exact ⟨by simpa using h, by simpa using Text.splitOnce_eq_none.mp hsplit, by simpa using hor⟩

lemma ofWord_ne_minus (word : List Char) : ofWord word ≠ .minus := by
  rw [ofWord]
  split
  · simp
  · split <;> simp

lemma ofWord_text {word : List Char} (h : IsText word) : ofWord word = .text (String.ofList word) := by
  obtain ⟨-, hcolon, hor⟩ := h
  rw [ofWord, if_neg (by simp [hor]), Text.splitOnce_eq_none.mpr hcolon]

lemma equalAscii_or_of_colon {word : List Char} (h : ':' ∈ word) :
    Text.equalAscii word ['o', 'r'] = false :=
  Text.equalAscii_of_mem h (by decide)

lemma ofWord_command {key value : String} (h : IsKey key) :
    ofWord (key.toList ++ ':' :: value.toList) = .command key value := by
  obtain ⟨hlower, hkey, -⟩ := h
  have hcolon : ':' ∉ key.toList := by
    intro hmem
    exact absurd (List.all_eq_true.mp hkey _ hmem) (by decide)
  rw [ofWord, if_neg (by simp [equalAscii_or_of_colon]), Text.splitOnce_append hcolon]
  simp [hlower]

structure Legal (afterMinus : Bool) (ts : List Token) : Prop where
  apart : ts.IsChain Apart
  head : afterMinus → ts.head? ≠ some .minus
  read : ∀ t ∈ ts, t.IsRead

namespace Legal

variable {ts : List Token} {afterMinus : Bool}

lemma nil : Legal afterMinus [] := ⟨.nil, by simp, by simp⟩

lemma cons {t : Token} (hne : t ≠ .minus) (hread : t.IsRead) (h : Legal false ts) :
    Legal afterMinus (t :: ts) where
  apart := List.isChain_cons.mpr ⟨fun u _ => apart_of_ne_minus hne u, h.apart⟩
  head := by simpa using fun _ => hne
  read := List.forall_mem_cons.mpr ⟨hread, h.read⟩

lemma minus (h : Legal true ts) : Legal false (.minus :: ts) where
  apart := List.isChain_cons.mpr
    ⟨fun _ hu hb => h.head rfl (by rw [Option.mem_def.mp hu, hb.2]), h.apart⟩
  head := by simp
  read := List.forall_mem_cons.mpr ⟨trivial, h.read⟩

lemma flush {word : List Char} (h : Legal (afterMinus && word.isEmpty) ts) :
    Legal afterMinus (flush word ++ ts) := by
  cases word with
  | nil => simpa [Token.flush] using h
  | cons c word => exact cons (ofWord_ne_minus _) (isRead_ofWord (by simp)) (by simpa using h)

end Legal

lemma legal_scan (quote : Option Char) (word : List Char) (afterMinus : Bool) (s : List Char) :
    Legal afterMinus (scan quote word afterMinus s) := by
  induction s generalizing quote word afterMinus with
  | nil => simpa [scan] using (@Legal.nil (afterMinus && word.isEmpty)).flush
  | cons c s ih =>
    cases quote with
    | some q =>
      rw [scan]
      split <;> apply ih
    | none =>
      simp only [scan]
      split_ifs with _ _ _ _ _ _ hminus
      · apply ih
      · apply ih
      · exact (ih _ _ _).flush
      · exact .cons (t := .opening) (by simp) trivial (ih _ _ _)
      · exact (Legal.cons (t := .closing) (by simp) trivial (ih _ _ _)).flush
      · rw [hminus]
        exact ih _ _ _
      · rw [Bool.not_eq_true] at hminus
        rw [hminus]
        exact (ih _ _ _).minus
      · apply ih

section Reading

variable {afterMinus : Bool}

lemma scan_of_isBlank {c : Char} (h : Text.isBlank c) (word rest : List Char) :
    scan none word afterMinus (c :: rest) =
      flush word ++ scan none [] (afterMinus && word.isEmpty) rest := by
  have hquote : ¬(c = '\'' ∨ c = '"') := by
    rintro (rfl | rfl)
    · exact absurd h (by decide)
    · exact absurd h (by decide)
  rw [scan, if_neg hquote, if_pos h]

lemma scan_blank (word rest : List Char) :
    scan none word afterMinus (' ' :: rest) =
      flush word ++ scan none [] (afterMinus && word.isEmpty) rest :=
  scan_of_isBlank (by decide) word rest

lemma scan_opening (word rest : List Char) :
    scan none word afterMinus ('(' :: rest) = .opening :: scan none word false rest := by
  have hblank : Text.isBlank '(' = false := by decide
  simp [scan, hblank]

lemma scan_closing (word rest : List Char) :
    scan none word afterMinus (')' :: rest) =
      flush word ++ .closing :: scan none [] false rest := by
  have hblank : Text.isBlank ')' = false := by decide
  simp [scan, hblank]

lemma scan_quoted {q : Char} {v : List Char} (h : q ∉ v) (word rest : List Char) :
    scan (some q) word afterMinus (v ++ q :: rest) =
      scan none (v.reverse ++ word) afterMinus rest := by
  induction v generalizing word with
  | nil => simp [scan]
  | cons c v ih =>
    simp only [List.mem_cons, not_or] at h
    simp [scan, Ne.symm h.1, ih h.2]

lemma scan_bare {k word : List Char} (h : k.all isKeyChar)
    (hword : word = [] → k.head? ≠ some '-') (rest : List Char) :
    scan none word afterMinus (k ++ rest) = scan none (k.reverse ++ word) afterMinus rest := by
  induction k generalizing word with
  | nil => rfl
  | cons c k ih =>
    obtain ⟨hc, hk⟩ : isKeyChar c ∧ k.all isKeyChar := by simpa using h
    have hhyphen : ¬(c = '-' ∧ word.isEmpty) := by
      rintro ⟨rfl, hempty⟩
      exact hword (by simpa using hempty) rfl
    simp only [isKeyChar, Bool.and_eq_true, bne_iff_ne, Bool.not_eq_true'] at hc
    simp only [List.cons_append, scan, hc, hhyphen, or_self, if_false, Bool.false_eq_true]
    rw [ih hk (by simp)]
    simp

lemma scan_word {word rest : List Char} (hword : word ≠ []) (hrest : rest.head?.all (· == ' ')) :
    scan none word.reverse afterMinus rest = ofWord word :: scan none [] false rest := by
  have hempty : word.reverse.isEmpty = false := by simpa using hword
  cases rest with
  | nil => simp [scan, flush, hempty]
  | cons c rest =>
    obtain rfl : c = ' ' := by simpa using hrest
    simp [scan_blank, flush, hempty]

lemma scan_quote {word : List Char} (hword : word.getLast?.all (· == ':')) {v : List Char}
    (hv : '"' ∉ v) (rest : List Char) :
    scan none word.reverse afterMinus ('"' :: v ++ '"' :: rest) =
      scan none (word ++ v).reverse afterMinus rest := by
  have hopen : word.reverse.head?.all (· == ':') := by simpa using hword
  rw [List.cons_append, scan, if_pos (by simp), if_pos hopen, scan_quoted hv, List.reverse_append]

lemma scan_spelling {t : Token} (h : t.IsSpellable) (hminus : afterMinus → t ≠ .minus)
    {rest : List Char} (hrest : rest.head?.all (· == ' ')) :
    scan none [] afterMinus (t.spelling ++ rest) = t :: scan none [] (decide (t = .minus)) rest := by
  cases t with
  | opening => simp [spelling, scan_opening]
  | closing => simp [spelling, scan_closing, flush]
  | minus =>
    have hblank : Text.isBlank '-' = false := by decide
    have hafter : afterMinus = false := by simpa using hminus
    simp [spelling, scan, hblank, hafter]
  | or =>
    rw [spelling, scan_bare (by decide) (by simp), List.append_nil, scan_word (by simp) hrest]
    rfl
  | command key value =>
    obtain ⟨hkey, hvalue⟩ := h
    have hcolon : scan none key.toList.reverse afterMinus (':' :: (quoted value ++ rest)) =
        scan none (key.toList ++ [':']).reverse afterMinus (quoted value ++ rest) := by
      have hblank : Text.isBlank ':' = false := by decide
      simp [scan, hblank]
    rw [spelling, List.append_assoc, scan_bare hkey.2.1 fun _ => hkey.2.2, List.append_nil,
      List.cons_append, hcolon, quoted, List.append_assoc, List.singleton_append,
      scan_quote (by simp) hvalue, scan_word (by simp) hrest, List.append_assoc,
      List.singleton_append, ofWord_command hkey]
    simp
  | text words =>
    obtain ⟨htext, hquote⟩ := h
    have hread := @scan_quote afterMinus [] (by simp) _ hquote rest
    rw [spelling, quoted, List.append_assoc, List.singleton_append]
    rw [List.reverse_nil, List.nil_append] at hread
    rw [hread, scan_word htext.1 hrest, ofWord_text htext]
    simp

lemma scan_spelled {ts : List Token} (hspell : ∀ t ∈ ts, t.IsSpellable) (hapart : ts.IsChain Apart)
    (hminus : afterMinus → ts.head? ≠ some .minus) :
    scan none [] afterMinus (Text.joinWith ' ' (ts.map spelling)) = ts := by
  induction ts generalizing afterMinus with
  | nil => simp [Text.joinWith, List.intercalate, scan, flush]
  | cons t ts ih =>
    have ht : t.IsSpellable := hspell t List.mem_cons_self
    have hhead : afterMinus → t ≠ .minus := by simpa using hminus
    cases ts with
    | nil =>
      have hread := @scan_spelling afterMinus t ht hhead [] (by simp)
      simpa [Text.joinWith, List.intercalate, scan, flush] using hread
    | cons u us =>
      have hapart := List.isChain_cons_cons.mp hapart
      have hnext : decide (t = .minus) → (u :: us).head? ≠ some .minus := by
        intro hm hu
        exact hapart.1 ⟨by simpa using hm, by simpa using hu⟩
      have hrest := ih (fun x hx => hspell x (List.mem_cons_of_mem _ hx)) hapart.2 hnext
      rw [List.map_cons, Text.joinWith_cons _ _ (by simp), scan_spelling ht hhead (by simp),
        scan_blank, flush, List.isEmpty_nil, Bool.and_true]
      simp only [if_true, List.nil_append, hrest]

end Reading

theorem ofQuery_spelled :
    (∀ ts : List Token, (∀ t ∈ ts, t.IsSpellable) → ts.IsChain Apart → ofQuery (spelled ts) = ts) ∧
      ∀ query, (ofQuery query).IsChain Apart ∧ ∀ t ∈ ofQuery query, t.IsRead := by
  constructor
  · intro ts hspell hapart
    rw [ofQuery, spelled, String.toList_ofList]
    exact scan_spelled hspell hapart (by simp)
  · intro query
    have hlegal := legal_scan none [] false query.toList
    exact ⟨hlegal.apart, hlegal.read⟩

def sampleTokens : List Token :=
  [.minus, .command "note" "a (b) 'c':", .or, .opening, .text "-x or", .closing]

theorem ofQuery_spelled_sample :
    (∀ t ∈ sampleTokens, t.IsSpellable) ∧ sampleTokens.IsChain Apart ∧
      spelled sampleTokens = "- note:\"a (b) 'c':\" or ( \"-x or\" )" ∧
      ofQuery (spelled sampleTokens) = sampleTokens := by
  have hspell : ∀ t ∈ sampleTokens, t.IsSpellable := by decide
  have hapart : sampleTokens.IsChain Apart := by decide
  exact ⟨hspell, hapart, by decide, ofQuery_spelled.1 sampleTokens hspell hapart⟩

end Token

end CardQuery
