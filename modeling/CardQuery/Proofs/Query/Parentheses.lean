import CardQuery.Proofs.Query.Spelling
import Mathlib.Data.List.Induction

namespace CardQuery.Token

structure Scan where
  quote : Option Char
  word : List Char
  afterMinus : Bool

namespace Scan

def start : Scan := ⟨none, [], false⟩

def read (r : Scan) (s : List Char) : List Token := scan r.quote r.word r.afterMinus s

def step (r : Scan) (c : Char) : List Token × Scan :=
  match r.quote with
  | some q => ([], if c = q then { r with quote := none } else { r with word := c :: r.word })
  | none =>
    if c = '\'' ∨ c = '"' then
      ([], if r.word.head?.all (· == ':') then { r with quote := some c }
        else { r with word := c :: r.word })
    else if Text.isBlank c then (flush r.word, ⟨none, [], r.afterMinus && r.word.isEmpty⟩)
    else if c = '(' then ([.opening], ⟨none, r.word, false⟩)
    else if c = ')' then (flush r.word ++ [.closing], start)
    else if c = '-' ∧ r.word.isEmpty then (if r.afterMinus then [] else [.minus], ⟨none, [], true⟩)
    else ([], { r with word := c :: r.word })

def behind (r : Scan) (s : List Char) : Scan := s.foldl (fun r c => (r.step c).2) r

def completed (r : Scan) : List Char → List Token
  | [] => []
  | c :: s => (r.step c).1 ++ (r.step c).2.completed s

lemma read_cons (r : Scan) (c : Char) (s : List Char) :
    r.read (c :: s) = (r.step c).1 ++ (r.step c).2.read s := by
  obtain ⟨quote, word, afterMinus⟩ := r
  cases quote with
  | some q =>
    simp only [read, step, scan, List.nil_append]
    split <;> rfl
  | none =>
    simp only [read, step, scan]
    split_ifs <;> simp [start]

lemma read_append (r : Scan) (s t : List Char) :
    r.read (s ++ t) = r.completed s ++ (r.behind s).read t := by
  induction s generalizing r with
  | nil => rfl
  | cons c s ih =>
    rw [List.cons_append, read_cons, ih, completed, List.append_assoc]
    rfl

lemma read_nil (r : Scan) : r.read [] = flush r.word := by
  rw [read, scan]

end Scan

lemma ofQuery_eq (s : String) : ofQuery s = Scan.start.read s.toList := rfl

def Unquoted (s : String) : Prop := (Scan.start.behind s.toList).quote = none

def unfinished (s : String) : List Char := (Scan.start.behind s.toList).word.reverse

instance (s : String) : Decidable (Unquoted s) := inferInstanceAs (Decidable (_ = _))

inductive Ended (word : List Char) : List Char → Prop
  | nil : Ended word []
  | blank {c s} : Text.isBlank c → Ended word (c :: s)
  | closing {s} : Ended word (')' :: s)
  | quotes {q s} : q = '\'' ∨ q = '"' → word.getLast? = some ':' → Ended word s → Ended word (q :: q :: s)
  | quote {q} : q = '\'' ∨ q = '"' → word.getLast? = some ':' → Ended word [q]

lemma ofWord_ne_opening (word : List Char) : ofWord word ≠ .opening := by
  rw [ofWord]
  split
  · simp
  · split <;> simp

lemma ofWord_append_ne (w : List Char) {x : List Char} (hx : x ≠ []) :
    ofWord (w ++ x) ≠ ofWord w := by
  by_cases hcolon : ':' ∈ w
  · cases hsplit : Text.splitOnce ':' w with
    | none => exact absurd hcolon (Text.splitOnce_eq_none.mp hsplit)
    | some kv =>
      have hlong := equalAscii_or_of_colon (List.mem_append_left x hcolon)
      rw [ofWord, ofWord, if_neg (by simp [hlong]), if_neg (by simp [equalAscii_or_of_colon hcolon]),
        Text.splitOnce_append_right hsplit, hsplit]
      simpa using hx
  · have hlength : 0 < x.length := List.length_pos_iff.mpr hx
    rw [ofWord, ofWord, Text.splitOnce_eq_none.mpr hcolon]
    split_ifs with hlong hshort
    · have := Text.length_eq_of_equalAscii hlong
      have := Text.length_eq_of_equalAscii hshort
      simp only [List.length_append] at *
      omega
    · simp
    · split <;> simp
    · split
      · simp
      · simpa [String.ofList_inj] using hx

lemma flush_of_ne_nil {word : List Char} (h : word ≠ []) : flush word = [ofWord word.reverse] := by
  rw [flush, if_neg (by simpa using h)]

lemma head?_flush_append_ne (w : List Char) {x : List Char} (hx : x ≠ []) (ts : List Token) :
    (flush (x ++ w) ++ ts).head? ≠ some (ofWord w.reverse) := by
  rw [flush_of_ne_nil (List.append_ne_nil_of_left_ne_nil hx w), List.reverse_append]
  simpa using ofWord_append_ne w.reverse (List.reverse_ne_nil_iff.mpr hx)

lemma head?_scan_append_ne (w : List Char) {x : List Char} (hx : x ≠ []) (quote : Option Char)
    (afterMinus : Bool) (t : List Char) :
    (scan quote (x ++ w) afterMinus t).head? ≠ some (ofWord w.reverse) := by
  induction t generalizing quote afterMinus x with
  | nil => simpa [scan] using head?_flush_append_ne w hx []
  | cons c t ih =>
    have hgrown (quote : Option Char) (afterMinus : Bool) :
        (scan quote (c :: (x ++ w)) afterMinus t).head? ≠ some (ofWord w.reverse) :=
      ih (List.cons_ne_nil c x) quote afterMinus
    cases quote with
    | some q =>
      rw [scan]
      split
      · exact ih hx _ _
      · exact hgrown _ _
    | none =>
      rw [scan]
      split_ifs with _ _ _ _ _ hminus
      · exact ih hx _ _
      · exact hgrown _ _
      · exact head?_flush_append_ne w hx _
      · simpa using (ofWord_ne_opening w.reverse).symm
      · exact head?_flush_append_ne w hx _
      · simp [hx] at hminus
      · simp [hx] at hminus
      · exact hgrown _ _

lemma first_of_head?_scan {w : List Char} (hw : w ≠ []) {afterMinus : Bool} {c : Char}
    {t : List Char} (h : (scan none w afterMinus (c :: t)).head? = some (ofWord w.reverse)) :
    Text.isBlank c ∨ c = ')' ∨ (c = '\'' ∨ c = '"') ∧ w.head? = some ':' := by
  have hgrown : (scan none (c :: w) afterMinus t).head? ≠ some (ofWord w.reverse) :=
    head?_scan_append_ne w (List.cons_ne_nil c []) none afterMinus t
  rw [scan] at h
  split_ifs at h with hquote hopen hblank hparen hclosing hminus
  · obtain ⟨d, w, rfl⟩ := List.exists_cons_of_ne_nil hw
    exact Or.inr (Or.inr ⟨hquote, by simpa using hopen⟩)
  · exact absurd h hgrown
  · exact Or.inl hblank
  · exact absurd (by simpa using h.symm) (ofWord_ne_opening w.reverse)
  · exact Or.inr (Or.inl hclosing)
  · simp [hw] at hminus
  · simp [hw] at hminus
  · exact absurd h hgrown

lemma scan_quote_open {w : List Char} {q : Char} (hq : q = '\'' ∨ q = '"')
    (hw : w.head?.all (· == ':')) (afterMinus : Bool) (t : List Char) :
    scan none w afterMinus (q :: t) = scan (some q) w afterMinus t := by
  rw [scan, if_pos hq, if_pos hw]

lemma scan_quote_close (q : Char) (w : List Char) (afterMinus : Bool) (t : List Char) :
    scan (some q) w afterMinus (q :: t) = scan none w afterMinus t := by
  rw [scan, if_pos rfl]

lemma flush_nil : flush [] = [] := rfl

lemma Ended.scan_eq {word t : List Char} (h : Ended word t) (hword : word ≠ [])
    (afterMinus : Bool) :
    scan none word.reverse afterMinus t = ofWord word :: scan none [] false t := by
  have hflush : flush word.reverse = [ofWord word] := by
    rw [flush_of_ne_nil (by simpa using hword), List.reverse_reverse]
  have hempty : word.reverse.isEmpty = false := by simpa using hword
  induction h with
  | nil => rw [scan, hflush, scan, flush_nil]
  | blank hblank =>
    rw [scan_of_isBlank hblank, scan_of_isBlank hblank, hflush, hempty, flush_nil, Bool.and_false,
      Bool.false_and]
    rfl
  | closing =>
    rw [scan_closing, scan_closing, hflush, flush_nil]
    rfl
  | quotes hq hcolon _ ih =>
    rw [scan_quote_open hq (by simp [hcolon]), scan_quote_open hq (by simp), scan_quote_close,
      scan_quote_close, ih]
  | quote hq hcolon =>
    rw [scan_quote_open hq (by simp [hcolon]), scan_quote_open hq (by simp), scan, scan, hflush,
      flush_nil]

lemma ended_of_scan_eq {word t : List Char} (hword : word ≠ []) {afterMinus : Bool}
    (h : scan none word.reverse afterMinus t = ofWord word :: scan none [] false t) :
    Ended word t := by
  have hnext {c : Char} {t : List Char}
      (h : scan none word.reverse afterMinus (c :: t) = ofWord word :: scan none [] false (c :: t)) :
      Text.isBlank c ∨ c = ')' ∨ (c = '\'' ∨ c = '"') ∧ word.getLast? = some ':' := by
    simpa using first_of_head?_scan (List.reverse_ne_nil_iff.mpr hword)
      (by rw [h, List.head?_cons, List.reverse_reverse])
  induction t using List.twoStepInduction with
  | nil => exact .nil
  | singleton c =>
    rcases hnext h with hblank | rfl | ⟨hq, hcolon⟩
    · exact .blank hblank
    · exact .closing
    · exact .quote hq hcolon
  | cons_cons c d t ih _ =>
    rcases hnext h with hblank | rfl | ⟨hq, hcolon⟩
    · exact .blank hblank
    · exact .closing
    · rw [scan_quote_open hq (by simp [hcolon])] at h
      by_cases hd : d = c
      · subst hd
        rw [scan_quote_close, scan_quote_open hq (by simp), scan_quote_close] at h
        exact .quotes hq hcolon (ih h)
      · rw [scan, if_neg hd] at h
        have hother := head?_scan_append_ne word.reverse (List.cons_ne_nil d []) (some c) afterMinus t
        exact absurd (by simpa using congrArg List.head? h) hother

lemma scan_eq_cons_iff {word : List Char} (hword : word ≠ []) (afterMinus : Bool) (t : List Char) :
    scan none word.reverse afterMinus t = ofWord word :: scan none [] false t ↔ Ended word t :=
  ⟨ended_of_scan_eq hword, fun h => h.scan_eq hword afterMinus⟩

section Reading

variable {s : String}

lemma behind_of_unquoted (h : Unquoted s) :
    ∃ b, Scan.start.behind s.toList = ⟨none, (unfinished s).reverse, b⟩ := by
  refine ⟨(Scan.start.behind s.toList).afterMinus, ?_⟩
  rw [unfinished, List.reverse_reverse, ← h]

lemma ofQuery_append (h : Unquoted s) :
    ∃ ts b, ofQuery s = ts ++ flush (unfinished s).reverse ∧
      ∀ p t : String, ofQuery (s ++ p ++ t) =
        ts ++ scan none (unfinished s).reverse b (p.toList ++ t.toList) := by
  obtain ⟨b, hbehind⟩ := behind_of_unquoted h
  refine ⟨Scan.start.completed s.toList, b, ?_, fun p t => ?_⟩
  · rw [ofQuery_eq, ← List.append_nil s.toList, Scan.read_append, hbehind, Scan.read_nil,
      List.append_nil]
  · rw [ofQuery_eq, String.toList_append, String.toList_append, List.append_assoc, Scan.read_append,
      hbehind]
    rfl

lemma ofQuery_closing (h : Unquoted s) (t : String) :
    ofQuery (s ++ ")" ++ t) = ofQuery s ++ .closing :: ofQuery t ∧
      ofQuery (s ++ " )" ++ t) = ofQuery (s ++ ")" ++ t) ∧
      ofQuery (s ++ ") " ++ t) = ofQuery (s ++ ")" ++ t) := by
  obtain ⟨ts, b, hs, hread⟩ := ofQuery_append h
  have hplain : ofQuery (s ++ ")" ++ t) = ofQuery s ++ .closing :: ofQuery t := by
    rw [hread, hs, List.append_assoc]
    exact congrArg (ts ++ ·) (scan_closing _ t.toList)
  have hbefore : ofQuery (s ++ " )" ++ t) = ofQuery s ++ .closing :: ofQuery t := by
    rw [hread, hs, List.append_assoc]
    refine congrArg (ts ++ ·) ((scan_blank _ (')' :: t.toList)).trans ?_)
    rw [scan_closing]
    rfl
  have hbehind : ofQuery (s ++ ") " ++ t) = ofQuery s ++ .closing :: ofQuery t := by
    rw [hread, hs, List.append_assoc]
    refine congrArg (ts ++ ·) ((scan_closing _ (' ' :: t.toList)).trans ?_)
    rw [scan_blank]
    rfl
  exact ⟨hplain, hbefore.trans hplain.symm, hbehind.trans hplain.symm⟩

lemma ofQuery_opening (h : Unquoted s) (hword : unfinished s = []) (t : String) :
    ofQuery (s ++ "(" ++ t) = ofQuery s ++ .opening :: ofQuery t ∧
      ofQuery (s ++ " (" ++ t) = ofQuery (s ++ "(" ++ t) ∧
      ofQuery (s ++ "( " ++ t) = ofQuery (s ++ "(" ++ t) := by
  obtain ⟨ts, b, hs, hread⟩ := ofQuery_append h
  simp only [hword, List.reverse_nil, flush_nil, List.append_nil] at hs hread
  have hplain : ofQuery (s ++ "(" ++ t) = ofQuery s ++ .opening :: ofQuery t := by
    rw [hread, hs]
    exact congrArg (ts ++ ·) (scan_opening [] t.toList)
  have hbefore : ofQuery (s ++ " (" ++ t) = ofQuery s ++ .opening :: ofQuery t := by
    rw [hread, hs]
    refine congrArg (ts ++ ·) ((scan_blank [] ('(' :: t.toList)).trans ?_)
    rw [scan_opening]
    rfl
  have hbehind : ofQuery (s ++ "( " ++ t) = ofQuery s ++ .opening :: ofQuery t := by
    rw [hread, hs]
    refine congrArg (ts ++ ·) ((scan_opening [] (' ' :: t.toList)).trans ?_)
    rw [scan_blank]
    rfl
  exact ⟨hplain, hbefore.trans hplain.symm, hbehind.trans hplain.symm⟩

lemma ofQuery_opening_unfinished (h : Unquoted s) (hword : unfinished s ≠ []) (t : String) :
    ofQuery (s ++ " (" ++ t) ≠ ofQuery (s ++ "(" ++ t) ∧
      (ofQuery (s ++ "( " ++ t) = ofQuery (s ++ "(" ++ t) ↔ Ended (unfinished s) t.toList) := by
  obtain ⟨ts, b, -, hread⟩ := ofQuery_append h
  have hflush : flush (unfinished s).reverse = [ofWord (unfinished s)] := by
    rw [flush_of_ne_nil (by simpa using hword), List.reverse_reverse]
  have hplain : ofQuery (s ++ "(" ++ t) =
      ts ++ .opening :: scan none (unfinished s).reverse false t.toList := by
    rw [hread]
    exact congrArg (ts ++ ·) (scan_opening _ t.toList)
  have hbefore : ofQuery (s ++ " (" ++ t) =
      ts ++ ofWord (unfinished s) :: .opening :: scan none [] false t.toList := by
    rw [hread]
    refine congrArg (ts ++ ·) ((scan_blank _ ('(' :: t.toList)).trans ?_)
    rw [scan_opening, hflush]
    rfl
  have hbehind : ofQuery (s ++ "( " ++ t) =
      ts ++ .opening :: ofWord (unfinished s) :: scan none [] false t.toList := by
    rw [hread]
    refine congrArg (ts ++ ·) ((scan_opening _ (' ' :: t.toList)).trans ?_)
    rw [scan_blank, hflush]
    rfl
  constructor
  · rw [hbefore, hplain]
    simp [ofWord_ne_opening]
  · rw [hbehind, hplain, ← scan_eq_cons_iff hword false]
    simp [eq_comm]

end Reading

theorem ofQuery_parenthesis {s : String} (h : Unquoted s) (t : String) :
    (ofQuery (s ++ ")" ++ t) = ofQuery s ++ .closing :: ofQuery t ∧
      ofQuery (s ++ " )" ++ t) = ofQuery (s ++ ")" ++ t) ∧
      ofQuery (s ++ ") " ++ t) = ofQuery (s ++ ")" ++ t)) ∧
    (unfinished s = [] →
      ofQuery (s ++ "(" ++ t) = ofQuery s ++ .opening :: ofQuery t ∧
      ofQuery (s ++ " (" ++ t) = ofQuery (s ++ "(" ++ t) ∧
      ofQuery (s ++ "( " ++ t) = ofQuery (s ++ "(" ++ t)) ∧
    (unfinished s ≠ [] →
      ofQuery (s ++ " (" ++ t) ≠ ofQuery (s ++ "(" ++ t) ∧
      (ofQuery (s ++ "( " ++ t) = ofQuery (s ++ "(" ++ t) ↔ Ended (unfinished s) t.toList)) :=
  ⟨ofQuery_closing h t, fun hword => ofQuery_opening h hword t,
    fun hword => ofQuery_opening_unfinished h hword t⟩

theorem ofQuery_parenthesis_sample :
    let s := "tag:'a)' x \"(\" -note:"
    Unquoted s ∧ unfinished s ≠ [] ∧
      ofQuery (s ++ "(" ++ "\"\") b") =
        [.command "tag" "a)", .text "x", .text "(", .minus, .opening, .command "note" "", .closing,
          .text "b"] ∧
      ofQuery (s ++ "( " ++ "\"\") b") = ofQuery (s ++ "(" ++ "\"\") b") ∧
      ofQuery (s ++ " (" ++ "\"\") b") ≠ ofQuery (s ++ "(" ++ "\"\") b") ∧
      ofQuery (s ++ " )" ++ "(c") = ofQuery (s ++ ")" ++ "(c") :=
  have h : Unquoted "tag:'a)' x \"(\" -note:" := by decide +kernel
  have hword : unfinished "tag:'a)' x \"(\" -note:" ≠ [] := by decide +kernel
  ⟨h, hword, by decide +kernel,
    ((ofQuery_parenthesis h "\"\") b").2.2 hword).2.mpr
      (.quotes (.inr rfl) (by decide +kernel) .closing),
    ((ofQuery_parenthesis h "\"\") b").2.2 hword).1, (ofQuery_parenthesis h "(c").1.2.1⟩

theorem ofQuery_within_word :
    ofQuery "a(b" = [.opening, .text "ab"] ∧
      ofQuery "a (b" = [.text "a", .opening, .text "b"] ∧ ofQuery "a (b" ≠ ofQuery "a(b" ∧
      ofQuery "a( b" = [.opening, .text "a", .text "b"] ∧ ofQuery "a( b" ≠ ofQuery "a(b" := by
  decide +kernel

end CardQuery.Token
