import CardQuery.Proofs.Query.Condition
import CardQuery.Proofs.Query.Numerals
import CardQuery.Text.Split

/-!
Templates for the text of conditions. A template is a fixed text with places that are kept for
numerals, lists of numerals and relations, and for nothing else.
-/

namespace CardQuery

def Numeral (w : List Char) : Prop :=
  ∃ ds, ds ≠ [] ∧ (∀ c ∈ ds, c.isDigit) ∧ (w = ds ∨ w = '-' :: ds)

def Numerals (w : List Char) : Prop :=
  ∃ ns, (∀ n ∈ ns, Numeral n) ∧ w = '(' :: Text.joinWith ',' ns ++ [')']

def relationTexts : List String := ["<=", ">=", "!=", "=", "<", ">"]

/-- `Fills t w`: `w` is the template `t` with a numeral for every `#`, a list of numerals for every
`@`, a relation for every `~`, and every other character as it stands in `t`. -/
inductive Fills : List Char → List Char → Prop
  | nil : Fills [] []
  | numeral {t u w} : Numeral u → Fills t w → Fills ('#' :: t) (u ++ w)
  | numerals {t u w} : Numerals u → Fills t w → Fills ('@' :: t) (u ++ w)
  | relation {t u w} : u ∈ relationTexts → Fills t w → Fills ('~' :: t) (u.toList ++ w)
  | char {c t w} : c ∉ ['#', '@', '~'] → Fills t w → Fills (c :: t) (c :: w)

lemma Fills.append {t u t' u' : List Char} (h : Fills t u) (h' : Fills t' u') :
    Fills (t ++ t') (u ++ u') := by
  induction h with
  | nil => exact h'
  | numeral hn _ ih => simpa using Fills.numeral hn ih
  | numerals hn _ ih => simpa using Fills.numerals hn ih
  | relation hr _ ih => simpa using Fills.relation hr ih
  | char hc _ ih => exact .char hc ih

lemma fills_of_forall {s : List Char} (h : ∀ c ∈ s, c ∉ ['#', '@', '~']) : Fills s s := by
  induction s with
  | nil => exact .nil
  | cons c s ih =>
    obtain ⟨hc, hs⟩ := List.forall_mem_cons.mp h
    exact .char hc (ih hs)

lemma numeral_toString (n : Int) : Numeral (toString n).toList := by
  cases n with
  | ofNat m =>
    refine ⟨Nat.toDigits 10 m, Nat.toDigits_ne_nil, ?_, Or.inl (Number.toList_toString m)⟩
    intro c
    exact Number.isDigit_of_mem_toDigits
  | negSucc m =>
    refine ⟨Nat.toDigits 10 (m + 1), Nat.toDigits_ne_nil, ?_, Or.inr (Number.toList_toString_negSucc m)⟩
    intro c
    exact Number.isDigit_of_mem_toDigits

def Fits (t w : String) : Prop := Fills t.toList w.toList

lemma Fits.append {t u t' u' : String} (h : Fits t u) (h' : Fits t' u') : Fits (t ++ t') (u ++ u') := by
  rw [Fits, String.toList_append, String.toList_append]
  exact Fills.append h h'

def plain (s : String) : Bool := s.toList.all fun c => c != '#' && c != '@' && c != '~'

lemma fits_plain (s : String) (h : plain s) : Fits s s := by
  apply fills_of_forall
  intro c hc
  have hplain := List.all_eq_true.mp h c hc
  simpa [and_assoc] using hplain

lemma fits_int (n : Int) : Fits "#" (toString n) := by
  have hn := Fills.numeral (numeral_toString n) .nil
  rwa [List.append_nil] at hn

lemma fits_ids (ids : List Int) : Fits "@" (idList ids) := by
  have hids : Numerals (idList ids).toList := by
    refine ⟨ids.map fun id => (toString id).toList, ?_, toList_idList ids⟩
    rw [List.forall_mem_map]
    intro id _
    exact numeral_toString id
  have hn := Fills.numerals hids .nil
  rwa [List.append_nil] at hn

lemma fits_relation (rel : Relation) : Fits "~" rel.text := by
  have hrel : rel.text ∈ relationTexts := by cases rel <;> decide
  have hr := Fills.relation hrel .nil
  rwa [List.append_nil] at hr

lemma fits_digits (d : Digits) : Fits "#" (String.ofList d.chars) := by
  have hnatural := d.isNumeral
  rw [Number.natural?] at hnatural
  split at hnatural
  · next hd =>
    simp only [Bool.and_eq_true, Bool.not_eq_true', List.isEmpty_eq_false_iff, List.all_eq_true] at hd
    have hn := Fills.numeral ⟨d.chars, hd.1, hd.2, Or.inl rfl⟩ .nil
    have htext : (String.ofList d.chars).toList = d.chars := String.toList_ofList
    rw [List.append_nil] at hn
    rw [Fits, htext]
    exact hn
  · cases hnatural

namespace Atom

def template : Atom → String
  | createdAfter _ => "c.id > " ++ "#"
  | reviewedAfter _ none => "c.id in (select cid from revlog where id > " ++ "#" ++ "" ++ ")"
  | reviewedAfter _ (some _) =>
    "c.id in (select cid from revlog where id > " ++ "#" ++ (" and ease = " ++ "#") ++ ")"
  | due _ _ => "c.due " ++ "~" ++ " " ++ "#"
  | measure m _ _ => "c." ++ m.column ++ " " ++ "~" ++ " " ++ "#"
  | decks _ => "c.did" ++ " in " ++ "@"
  | homeDecks _ => "c.odid" ++ " in " ++ "@"
  | ord _ => "c.ord = " ++ "#"
  | ofType _ => "n.mid = " ++ "#"
  | noteTypes _ => "n.mid" ++ " in " ++ "@"
  | noteType _ => "n.mid = " ++ "#"
  | notes _ => "n.id" ++ " in " ++ "@"
  | cards _ => "c.id" ++ " in " ++ "@"
  | a => a.text

lemma fits (a : Atom) : Fits a.template a.text := by
  have hids {column : String} (ids : List Int) (h : plain column) :
      Fits (column ++ " in " ++ "@") (membership column ids) :=
    ((fits_plain column h).append (fits_plain " in " (by decide))).append (fits_ids ids)
  cases a with
  | createdAfter millis => exact (fits_plain _ (by decide)).append (fits_int millis)
  | reviewedAfter millis ease =>
    have hstart := (fits_plain "c.id in (select cid from revlog where id > " (by decide)).append
      (fits_int millis)
    cases ease with
    | none => exact (hstart.append (fits_plain "" (by decide))).append (fits_plain ")" (by decide))
    | some e =>
      have hease := (fits_plain " and ease = " (by decide)).append (fits_int e)
      exact (hstart.append hease).append (fits_plain ")" (by decide))
  | due rel n =>
    exact (((fits_plain "c.due " (by decide)).append (fits_relation rel)).append
      (fits_plain " " (by decide))).append (fits_int n)
  | measure m rel n =>
    have hcolumn : Fits ("c." ++ m.column ++ " ") ("c." ++ m.column ++ " ") :=
      fits_plain _ (by cases m <;> decide)
    exact ((hcolumn.append (fits_relation rel)).append (fits_plain " " (by decide))).append (fits_int n)
  | decks ids => exact hids ids (by decide)
  | homeDecks ids => exact hids ids (by decide)
  | ord n => exact (fits_plain "c.ord = " (by decide)).append (fits_int n)
  | ofType id => exact (fits_plain "n.mid = " (by decide)).append (fits_int id)
  | noteTypes ids => exact hids ids (by decide)
  | noteType id => exact (fits_plain "n.mid = " (by decide)).append (fits_digits id)
  | notes ids => exact hids ids (by decide)
  | cards ids => exact hids ids (by decide)
  | state s => exact fits_plain _ (by cases s <;> decide)
  | _ => exact fits_plain _ (by decide)

end Atom

lemma fits_textOf {template : Atom → String} {ps : List (Piece Atom)}
    (h : ∀ a, .term a ∈ ps → Fits (template a) a.text) :
    Fits (Piece.textOf template ps) (Piece.textOf Atom.text ps) := by
  induction ps with
  | nil => exact fits_plain "" (by decide)
  | cons p ps ih =>
    have htail := ih fun a ha => h a (List.mem_cons_of_mem _ ha)
    rw [Piece.textOf_cons, Piece.textOf_cons]
    cases p with
    | term a => exact (h a (by simp)).append htail
    | opening => exact (fits_plain "(" (by decide)).append htail
    | closing => exact (fits_plain ")" (by decide)).append htail
    | and => exact (fits_plain " and " (by decide)).append htail
    | or => exact (fits_plain " or " (by decide)).append htail
    | not => exact (fits_plain " not " (by decide)).append htail

end CardQuery
