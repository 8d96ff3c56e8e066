import CardQuery.Proofs.Query.Condition
import CardQuery.Proofs.Query.Numerals

namespace CardQuery.MembershipTest

inductive Lexeme where
  | word (s : List Char)
  | mark (c : Char)
  deriving DecidableEq, Repr

def isBlank (c : Char) : Bool := c = ' ' || c = '\t' || c = '\n' || c = '\x0c' || c = '\r'

def isWordChar (c : Char) : Bool := c.isAlphanum || c = '_' || c = '$' || 0x80 ≤ c.toNat

def finish (word : List Char) : List Lexeme := if word.isEmpty then [] else [.word word]

def lexemes (word : List Char) : List Char → List Lexeme
  | [] => finish word
  | c :: s =>
    if isWordChar c then lexemes (word ++ [c]) s
    else if isBlank c then finish word ++ lexemes [] s
    else finish word ++ .mark c :: lexemes [] s

def Lexeme.isIn : Lexeme → Bool
  | .word [c, d] => (c = 'i' || c = 'I') && (d = 'n' || d = 'N')
  | _ => false

def operand? (column : String → Option Int) : List Lexeme → Option Int
  | [.word s] => Number.read? s
  | [.mark '-', .word s] => Number.read? ('-' :: s)
  | [.mark '+', .word s] => Number.read? ('+' :: s)
  | [.word t, .mark '.', .word s] => column (String.ofList (t ++ '.' :: s))
  | _ => none

def elements? (column : String → Option Int) (ls : List Lexeme) : Option (List Int) :=
  if ls.isEmpty then some [] else (ls.splitOn (.mark ',')).mapM (operand? column)

def sides? (ls : List Lexeme) : Option (List Lexeme × List Lexeme) :=
  match ls.dropWhile (!·.isIn) with
  | _ :: .mark '(' :: rest =>
    if rest.getLast? = some (.mark ')') then some (ls.takeWhile (!·.isIn), rest.dropLast) else none
  | _ => none

def holds? (column : String → Option Int) (text : String) : Option Bool := do
  let (left, right) ← sides? (lexemes [] text.toList)
  let x ← operand? column left
  let ids ← elements? column right
  return ids.contains x

example : holds? (fun _ => none) "- 5 IN ( 7 , -5 )" = some true := by decide
example : holds? (fun _ => none) "1 in (1,)" = none := by decide

section Lexemes

lemma lexemes_append {w : List Char} (hw : ∀ c ∈ w, isWordChar c) (word s : List Char) :
    lexemes word (w ++ s) = lexemes (word ++ w) s := by
  induction w generalizing word with
  | nil => simp
  | cons c w ih =>
    obtain ⟨hc, hw⟩ := List.forall_mem_cons.mp hw
    rw [List.cons_append, lexemes, if_pos hc, ih hw, List.append_assoc, List.singleton_append]

lemma lexemes_word {w : List Char} (hne : w ≠ []) (hw : ∀ c ∈ w, isWordChar c) {c : Char}
    (hc : ¬ isWordChar c) (s : List Char) :
    lexemes [] (w ++ c :: s) = .word w :: lexemes [] (c :: s) := by
  have hfinish : finish w = [.word w] := by simp [finish, hne]
  -- `c` ends the word, and is read in the same way where no word is under way
  rw [lexemes_append hw, List.nil_append, lexemes, lexemes, if_neg hc, if_neg hc, hfinish]
  split <;> rfl

lemma lexemes_mark {c : Char} (hc : ¬ isWordChar c) (hb : ¬ isBlank c) (s : List Char) :
    lexemes [] (c :: s) = .mark c :: lexemes [] s := by
  rw [lexemes, if_neg hc, if_neg hb]
  rfl

lemma lexemes_in (s : List Char) :
    lexemes [] ('i' :: 'n' :: ' ' :: s) = .word ['i', 'n'] :: lexemes [] s :=
  rfl

lemma isWordChar_of_mem_toDigits {n : ℕ} {c : Char} (h : c ∈ Nat.toDigits 10 n) : isWordChar c := by
  simp [isWordChar, Char.isAlphanum, Number.isDigit_of_mem_toDigits h]

def numeral : Int → List Lexeme
  | .ofNat n => [.word (Nat.toDigits 10 n)]
  | .negSucc n => [.mark '-', .word (Nat.toDigits 10 (n + 1))]

lemma lexemes_numeral (n : Int) {c : Char} (hc : ¬ isWordChar c) (s : List Char) :
    lexemes [] ((toString n).toList ++ c :: s) = numeral n ++ lexemes [] (c :: s) := by
  cases n with
  | ofNat n =>
    rw [Int.ofNat_eq_natCast, Number.toList_toString]
    exact lexemes_word Nat.toDigits_ne_nil (fun _ => isWordChar_of_mem_toDigits) hc s
  | negSucc n =>
    rw [Number.toList_toString_negSucc, List.cons_append, lexemes_mark (by decide) (by decide),
      lexemes_word Nat.toDigits_ne_nil (fun _ => isWordChar_of_mem_toDigits) hc]
    rfl

lemma lexemes_elements {ids : List Int} (hne : ids ≠ []) (s : List Char) :
    lexemes [] (Text.joinWith ',' (ids.map fun id => (toString id).toList) ++ ')' :: s) =
      List.intercalate [.mark ','] (ids.map numeral) ++ lexemes [] (')' :: s) := by
  induction ids with
  | nil => exact absurd rfl hne
  | cons id ids ih =>
    by_cases hnil : ids = []
    · subst hnil
      simpa [Text.joinWith, List.intercalate] using lexemes_numeral id (c := ')') (by decide) s
    · rw [List.map_cons, Text.joinWith_cons _ _ (by simpa using hnil), List.append_assoc,
        List.cons_append, lexemes_numeral id (by decide), lexemes_mark (by decide) (by decide), ih hnil,
        List.map_cons, List.intercalate_cons_of_ne_nil (by simpa using hnil)]
      simp

end Lexemes

variable {column : String → Option Int}

lemma operand?_numeral {n : Int} (h : Number.inRange n) : operand? column (numeral n) = some n := by
  have hread := Number.read?_toString h
  cases n with
  | ofNat n => rwa [Int.ofNat_eq_natCast, Number.toList_toString] at hread
  | negSucc n => rwa [Number.toList_toString_negSucc] at hread

lemma isIn_word_of_digits {s : List Char} (h : ∀ c ∈ s, c.isDigit) : (Lexeme.word s).isIn = false := by
  unfold Lexeme.isIn
  split
  · next c d heq =>
    cases heq
    have hc := h c (by simp)
    have hi : c ≠ 'i' ∧ c ≠ 'I' := by constructor <;> rintro rfl <;> exact absurd hc (by decide)
    simp [hi.1, hi.2]
  · rfl

lemma isIn_of_mem_numeral {n : Int} {l : Lexeme} (h : l ∈ numeral n) : l.isIn = false := by
  cases n with
  | ofNat n =>
    obtain rfl := List.mem_singleton.mp h
    exact isIn_word_of_digits fun _ => Number.isDigit_of_mem_toDigits
  | negSucc n =>
    rcases List.mem_cons.mp h with rfl | h
    · rfl
    · obtain rfl := List.mem_singleton.mp h
      exact isIn_word_of_digits fun _ => Number.isDigit_of_mem_toDigits

lemma numeral_ne_nil (n : Int) : numeral n ≠ [] := by cases n <;> simp [numeral]

lemma elements?_numerals {ids : List Int} (h : ∀ id ∈ ids, Number.inRange id) :
    elements? column (List.intercalate [.mark ','] (ids.map numeral)) = some ids := by
  cases ids with
  | nil => rfl
  | cons id ids =>
    have hcomma : ∀ ls ∈ (id :: ids).map numeral, Lexeme.mark ',' ∉ ls := by
      rw [List.forall_mem_map]
      intro n _
      cases n <;> simp [numeral]
    have hsplit := List.splitOn_intercalate (Lexeme.mark ',') hcomma (by simp)
    -- cutting nothing gives one empty piece, and no numeral is empty
    have hne : List.intercalate [.mark ','] ((id :: ids).map numeral) ≠ [] := by
      intro hnil
      rw [hnil, List.splitOn_nil, List.map_cons, List.cons.injEq] at hsplit
      exact numeral_ne_nil id hsplit.1.symm
    rw [elements?, if_neg (by simpa using hne), hsplit, mapM_eq_some, List.forall₂_map_left_iff,
      List.forall₂_same]
    intro n hn
    exact operand?_numeral (h n hn)

lemma sides?_append {left : List Lexeme} (hleft : ∀ l ∈ left, l.isIn = false) (right : List Lexeme) :
    sides? (left ++ .word ['i', 'n'] :: .mark '(' :: (right ++ [.mark ')'])) = some (left, right) := by
  have hleft : ∀ l ∈ left, (!l.isIn) = true := by simpa using hleft
  have hin : (!(Lexeme.word ['i', 'n']).isIn) = false := by decide
  simp only [sides?, List.dropWhile_append_of_pos hleft, List.takeWhile_append_of_pos hleft,
    List.dropWhile_cons, List.takeWhile_cons, hin, Bool.false_eq_true, if_false, List.append_nil,
    List.getLast?_concat, List.dropLast_concat, if_true]

lemma lexemes_idList (ids : List Int) : lexemes [] (idList ids).toList =
    .mark '(' :: (List.intercalate [.mark ','] (ids.map numeral) ++ [.mark ')']) := by
  have hclosing : lexemes [] [')'] = [.mark ')'] := rfl
  rw [toList_idList, lexemes_mark (by decide) (by decide)]
  by_cases hnil : ids = []
  · subst hnil
    rfl
  · rw [lexemes_elements hnil, hclosing]

theorem holds?_membership {left : String} {ls : List Lexeme}
    (hlex : ∀ s, lexemes [] (left.toList ++ ' ' :: s) = ls ++ lexemes [] s)
    (hin : ∀ l ∈ ls, l.isIn = false) {ids : List Int} (h : ∀ id ∈ ids, Number.inRange id) :
    holds? column (membership left ids) = (operand? column ls).map fun x => decide (x ∈ ids) := by
  have htext : (membership left ids).toList =
      left.toList ++ ' ' :: 'i' :: 'n' :: ' ' :: (idList ids).toList := by
    simp [membership, String.toList_append]
  rw [holds?, htext, hlex, lexemes_in, lexemes_idList, sides?_append hin]
  simp only [Option.bind_eq_bind, Option.bind_some, elements?_numerals h]
  cases operand? column ls <;> simp

lemma holds?_literal {x : Int} (hx : Number.inRange x) {ids : List Int}
    (h : ∀ id ∈ ids, Number.inRange id) :
    holds? column (membership (toString x) ids) = some (decide (x ∈ ids)) := by
  have hlex (s : List Char) : lexemes [] ((toString x).toList ++ ' ' :: s) = numeral x ++ lexemes [] s :=
    lexemes_numeral x (by decide) s
  rw [holds?_membership hlex (fun _ => isIn_of_mem_numeral) h, operand?_numeral hx, Option.map_some]

lemma holds?_column (t s : List Char) {name : String} (hname : String.ofList (t ++ '.' :: s) = name)
    (hlex : ∀ r, lexemes [] (name.toList ++ ' ' :: r) =
      [.word t, .mark '.', .word s] ++ lexemes [] r)
    (hin : ∀ l ∈ [Lexeme.word t, .mark '.', .word s], l.isIn = false) {ids : List Int}
    (h : ∀ id ∈ ids, Number.inRange id) :
    holds? column (membership name ids) = (column name).map fun x => decide (x ∈ ids) := by
  rw [holds?_membership hlex hin h, operand?, hname]

def columnOf (row : Row) : String → Option Int
  | "c.id" => some row.card.id
  | "c.did" => some row.card.deck
  | "c.odid" => some row.card.homeDeck
  | "n.id" => row.note.map Note.id
  | "n.mid" => row.note.map Note.noteType
  | _ => none

theorem holds?_text (reviews : List Review) (row : Row) (values : List String) {ids : List Int}
    (h : ∀ id ∈ ids, Number.inRange id) {a : Atom}
    (ha : a ∈ [.decks ids, .homeDecks ids, .noteTypes ids, .notes ids, .cards ids]) :
    holds? (columnOf row) a.text = a.holds? reviews row values := by
  simp only [List.mem_cons, List.not_mem_nil, or_false] at ha
  rcases ha with rfl | rfl | rfl | rfl | rfl
  · apply (holds?_column ['c'] ['d', 'i', 'd'] (by decide) (fun _ => rfl) (by decide) h).trans
    simp [columnOf, Atom.holds?]
  · apply (holds?_column ['c'] ['o', 'd', 'i', 'd'] (by decide) (fun _ => rfl) (by decide) h).trans
    simp [columnOf, Atom.holds?]
  · apply (holds?_column ['n'] ['m', 'i', 'd'] (by decide) (fun _ => rfl) (by decide) h).trans
    simp [columnOf, Atom.holds?, Function.comp_def]
  · apply (holds?_column ['n'] ['i', 'd'] (by decide) (fun _ => rfl) (by decide) h).trans
    simp [columnOf, Atom.holds?, Function.comp_def]
  · apply (holds?_column ['c'] ['i', 'd'] (by decide) (fun _ => rfl) (by decide) h).trans
    simp [columnOf, Atom.holds?]

theorem ids_through_text :
    (∀ (ids : List Int) (x : Int), (∀ id ∈ ids, Number.inRange id) → Number.inRange x →
      ∀ column, holds? column (toString x ++ " in " ++ idList ids) = some (decide (x ∈ ids))) ∧
    (∀ ids : List Int, (Condition.notes ids).text = "n.id in " ++ idList ids ∧
      (Condition.cards ids).text = "c.id in " ++ idList ids) ∧
    ∀ form : List Int → Condition,
      (∀ ids : List Int, ids ≠ [] → (∀ id ∈ ids, Query.Nameable id) →
        Query.idsOf form (",".intercalate (ids.map toString)) = .condition (form ids)) ∧
      (∀ value ids, Query.Lists value ids → Query.idsOf form value = .condition (form ids)) ∧
      ∀ value, Query.idsOf form value = .invalid ↔ ¬ ∃ ids, Query.Lists value ids := by
  refine ⟨fun ids x hids hx column => holds?_literal hx hids, fun ids => ?_, fun form => ?_⟩
  · exact ⟨Piece.textOf_term _ _, Piece.textOf_term _ _⟩
  · refine ⟨fun ids hne h => ?_, fun value ids => Query.idsOf_of_lists,
      fun value => Query.idsOf_eq_invalid⟩
    exact Query.idsOf_of_lists (Query.lists_intercalate hne h)

theorem ids_through_text_sample :
    holds? (fun _ => none) (toString (-9223372036854775808 : Int) ++ " in " ++
      idList [7, -9223372036854775808, 7]) = some true ∧
    holds? (fun _ => none) (toString (0 : Int) ++ " in " ++ idList []) = some false ∧
    Query.idsOf .notes (",".intercalate ([0, 9223372036854775807].map (toString : Int → String))) =
      .condition (.notes [0, 9223372036854775807]) ∧
    ¬ ∃ ids, Query.Lists "1,,2" ids := by
  refine ⟨?_, ?_, ?_, ?_⟩
  · exact (ids_through_text.1 _ _ (by decide) (by decide) _).trans (by decide)
  · exact (ids_through_text.1 _ _ (by decide) (by decide) _).trans (by decide)
  · exact (ids_through_text.2.2 .notes).1 _ (by simp) (by decide)
  · exact ((ids_through_text.2.2 .notes).2.2 "1,,2").mp rfl

end CardQuery.MembershipTest
