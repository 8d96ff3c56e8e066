import CardQuery.Proofs.Query.Compiled
import CardQuery.Proofs.Query.FieldProbe
import CardQuery.Proofs.Query.Template

/-!
The text of a predicate. It is made of parentheses, connectives and the texts of conditions, and the
text of a condition is one of the templates for its term. Of what a query says, and of the names and
notes that are stored, nothing but numbers gets into it.
-/

namespace CardQuery

def Command.templates : Command → List String
  | added => ["c.id > #"]
  | card => ["c.ord = #"]
  | cid => ["c.id in @"]
  | deck => ["c.odid", "c.did in @ or c.odid in @"]
  | dupe => ["n.id in @"]
  | is => ["c.type = 0", "c.type = 2", "c.queue in (1, 3)", "c.queue = -1", "c.queue = -2",
      "(c.queue in (2,3) and c.due <= #) or (c.queue = 1 and c.due <= #)"]
  | mid => ["n.mid = #"]
  | nid => ["n.id in @"]
  | note => ["n.mid in @"]
  | prop => ["(c.queue in (2,3)) and (c.due ~ #)", "(c.ivl ~ #)", "(c.reps ~ #)", "(c.lapses ~ #)",
      "(c.factor ~ #)"]
  | rated => ["c.id in (select cid from revlog where id > #)",
      "c.id in (select cid from revlog where id > # and ease = #)"]
  | tag => ["n.tags = ''", "n.tags like ?"]

def Token.templates : Token → List String
  | text _ => ["(n.sfld like ? escape '\\' or n.flds like ? escape '\\')"]
  | command key _ => match Command.ofKey? key with
    | some c => c.templates
    | none => ["0", "n.id in @"]
  | _ => []

inductive CardAlternatives : List Char → Prop
  | one {t w} : t ∈ ["(n.mid = #)", "(n.mid = # and c.ord = #)"] → Fills t.toList w → CardAlternatives w
  | more {v t w} : CardAlternatives v → t ∈ ["(n.mid = #)", "(n.mid = # and c.ord = #)"] →
      Fills t.toList w → CardAlternatives (v ++ " or ".toList ++ w)

inductive Clause : Token → List Char → Prop
  | template {t s w} : s ∈ t.templates → Fills s.toList w → Clause t w
  | cards {key value w} : Command.ofKey? key = some .card → CardAlternatives w →
      Clause (.command key value) w

/-- `Generated ts w`: `w` is a sequence of parentheses, connectives, and conditions in parentheses
that tokens in `ts` ask for. -/
inductive Generated (ts : List Token) : List Char → Prop
  | nil : Generated ts []
  | mark {m w} : m ∈ ["(", ")", " and ", " or ", " not "] → Generated ts w →
      Generated ts (m.toList ++ w)
  | clause {t c w} : t ∈ ts → Clause t c → Generated ts w → Generated ts ('(' :: c ++ ')' :: w)

lemma Condition.fits (c : Condition) : Fits (Piece.textOf Atom.template c.pieces) c.text :=
  fits_textOf fun a _ => a.fits

def Atom.deadlineTemplate : Atom → String
  | due _ _ => "c.due <= " ++ "#"
  | a => a.template

lemma Condition.fits_dueBy (day second : Int) :
    Fits "(c.queue in (2,3) and c.due <= #) or (c.queue = 1 and c.due <= #)"
      (dueBy day second).text := by
  -- here the relation is part of the template, unlike where it comes from the query
  have hatoms : ∀ a, .term a ∈ (dueBy day second).pieces → Fits a.deadlineTemplate a.text := by
    intro a ha
    simp only [pieces, List.mem_cons, List.not_mem_nil, or_false, reduceCtorEq, false_or,
      Piece.term.injEq] at ha
    rcases ha with rfl | rfl | rfl | rfl
    · exact Atom.fits _
    · exact (fits_plain "c.due <= " (by decide)).append (fits_int day)
    · exact Atom.fits _
    · exact (fits_plain "c.due <= " (by decide)).append (fits_int second)
  exact fits_textOf hatoms

lemma TemplateCards.fits (t : TemplateCards) : ∃ s ∈ ["(n.mid = #)", "(n.mid = # and c.ord = #)"],
    Fits s (Piece.textOf Atom.text t.pieces) := by
  have hpieces : Fits (Piece.textOf Atom.template t.pieces) (Piece.textOf Atom.text t.pieces) :=
    fits_textOf fun a _ => a.fits
  obtain ⟨noteType, ord⟩ := t
  cases ord with
  | none => exact ⟨"(n.mid = #)", by simp, hpieces⟩
  | some ord => exact ⟨"(n.mid = # and c.ord = #)", by simp, hpieces⟩

lemma CardAlternatives.others (ts : List TemplateCards) {ps : List (Piece Atom)}
    (h : CardAlternatives (Piece.textOf Atom.text ps).toList) :
    CardAlternatives
      (Piece.textOf Atom.text (ps ++ ts.flatMap fun t => .or :: t.pieces)).toList := by
  induction ts generalizing ps with
  | nil => simpa using h
  | cons t ts ih =>
    obtain ⟨s, hs, hfits⟩ := t.fits
    have hmore := h.more hs hfits
    have htext : (Piece.textOf Atom.text (ps ++ .or :: t.pieces)).toList =
        (Piece.textOf Atom.text ps).toList ++ " or ".toList ++
          (Piece.textOf Atom.text t.pieces).toList := by
      rw [Piece.textOf_append, Piece.textOf_cons, String.toList_append, String.toList_append,
        List.append_assoc]
      rfl
    rw [← htext] at hmore
    simpa using ih hmore

lemma cardAlternatives (first : TemplateCards) (others : List TemplateCards) :
    CardAlternatives (Condition.templates first others).text.toList := by
  obtain ⟨s, hs, hfits⟩ := first.fits
  exact (CardAlternatives.one hs hfits).others others

namespace Query

lemma Asks.clause {command : Command} {c : Condition} (h : Asks command c) {key : String}
    (hkey : Command.ofKey? key = some command) (value : String) :
    Clause (.command key value) c.text.toList := by
  have hfits {s : String} (hs : s ∈ command.templates) (hfits : Fits s c.text) :
      Clause (.command key value) c.text.toList := by
    refine .template ?_ hfits
    simpa [Token.templates, hkey] using hs
  have htemplate {s : String} (ht : Piece.textOf Atom.template c.pieces = s)
      (hs : s ∈ command.templates) : Clause (.command key value) c.text.toList :=
    hfits hs (ht ▸ c.fits)
  cases h with
  | added millis => exact htemplate (s := "c.id > #") rfl (by decide)
  | ord n => exact htemplate (s := "c.ord = #") rfl (by decide)
  | templates first others => exact .cards hkey (cardAlternatives first others)
  | cards ids => exact htemplate (s := "c.id in @") rfl (by decide)
  | borrowed => exact htemplate (s := "c.odid") rfl (by decide)
  | decks ids => exact htemplate (s := "c.did in @ or c.odid in @") rfl (by decide)
  | duplicates ids => exact htemplate (s := "n.id in @") rfl (by decide)
  | state s => cases s <;> exact htemplate rfl (by decide)
  | due day second => exact hfits (by decide) (Condition.fits_dueBy day second)
  | noteType id => exact htemplate (s := "n.mid = #") rfl (by decide)
  | notes ids => exact htemplate (s := "n.id in @") rfl (by decide)
  | noteTypes ids => exact htemplate (s := "n.mid in @") rfl (by decide)
  | dueDay rel day =>
    exact htemplate (s := "(c.queue in (2,3)) and (c.due ~ #)") rfl (by decide)
  | measure m rel n =>
    cases m with
    | interval => exact htemplate (s := "(c.ivl ~ #)") rfl (by decide)
    | repetitions => exact htemplate (s := "(c.reps ~ #)") rfl (by decide)
    | lapses => exact htemplate (s := "(c.lapses ~ #)") rfl (by decide)
    | factor => exact htemplate (s := "(c.factor ~ #)") rfl (by decide)
  | rated millis ease =>
    cases ease with
    | none =>
      exact htemplate (s := "c.id in (select cid from revlog where id > #)") rfl (by decide)
    | some e =>
      exact htemplate (s := "c.id in (select cid from revlog where id > # and ease = #)") rfl (by decide)
  | untagged => exact htemplate rfl (by decide)
  | tagged => exact htemplate rfl (by decide)

variable {ctx : Context} {col : Collection}

lemma clause_interpret? {t : Token} {c : Condition} {values : List String}
    (h : interpret? ctx col t = some ⟨.condition c, values⟩) : Clause t c.text.toList := by
  cases t with
  | text words =>
    cases h
    have hmem : Piece.textOf Atom.template Condition.contains.pieces ∈ (Token.text words).templates :=
      List.mem_singleton.mpr rfl
    exact .template hmem (Condition.fits .contains)
  | command key value =>
    obtain ⟨command, hkey, hc⟩ := Option.map_eq_some_iff.mp h
    exact (asks_command (congrArg Interpretation.reading hc)).clause hkey value
  | _ => cases h

lemma clause_asksField {t : Token} (h : t.asksField) :
    Clause t Condition.never.text.toList ∧ ∀ ids, Clause t (Condition.notes ids).text.toList := by
  cases t with
  | command key value =>
    have hkey : Command.ofKey? key = none := by simpa [Token.asksField] using h
    have htemplates : (Token.command key value).templates = ["0", "n.id in @"] := by
      simp [Token.templates, hkey]
    constructor
    · have hfits : Fits "0" Condition.never.text := Condition.fits .never
      exact .template (by simp [htemplates]) hfits
    · intro ids
      have hfits : Fits "n.id in @" (Condition.notes ids).text := Condition.fits (.notes ids)
      exact .template (by simp [htemplates]) hfits
  | _ => cases h

lemma clause_of_mem {ts : List Token} {p : Predicate}
    (h : compileTokens ctx col ts = .ok (some p)) {c : Condition} (hc : .term c ∈ p.pieces) :
    ∃ t ∈ ts, Clause t c.text.toList := by
  obtain ⟨r, hr, -, rfl⟩ := compileTokens_eq_some h
  obtain ⟨piece, hpiece, heq⟩ := List.mem_map.mp hc
  obtain ⟨x, rfl, rfl⟩ := Piece.map_eq_term heq
  rcases mem_push_fieldReading hr hpiece with ⟨t, ht, hi⟩ | ⟨⟨t, ht, hasks⟩, rfl | ⟨ids, rfl⟩⟩
  · exact ⟨t, ht, clause_interpret? hi⟩
  · exact ⟨t, ht, (clause_asksField hasks).1⟩
  · exact ⟨t, ht, (clause_asksField hasks).2 ids⟩

end Query

lemma Predicate.text_eq (p : Predicate) :
    p.text = Piece.textOf (fun c => "(" ++ c.text ++ ")") p.pieces := by
  simp only [text, atoms, Piece.textOf_expand, Piece.textOf_enclose]
  rfl

lemma generated_textOf {ts : List Token} {ps : List (Piece Condition)}
    (h : ∀ c, .term c ∈ ps → ∃ t ∈ ts, Clause t c.text.toList) :
    Generated ts (Piece.textOf (fun c => "(" ++ c.text ++ ")") ps).toList := by
  induction ps with
  | nil => exact .nil
  | cons p ps ih =>
    have htail := ih fun c hc => h c (List.mem_cons_of_mem _ hc)
    rw [Piece.textOf_cons, String.toList_append]
    cases p with
    | term c =>
      obtain ⟨t, ht, hclause⟩ := h c (by simp)
      have hc : ("(" ++ c.text ++ ")").toList = '(' :: c.text.toList ++ [')'] := by
        rw [String.toList_append, String.toList_append]
        rfl
      simp only [Piece.text, hc, List.append_assoc]
      exact .clause ht hclause htail
    | _ => exact .mark (by simp [Piece.text]) htail

theorem Query.text_generated {ctx : Context} {col : Collection} {query : String} {p : Predicate}
    (h : compile ctx col query = .ok (some p)) :
    Generated (Token.ofQuery query) p.text.toList := by
  rw [p.text_eq]
  apply generated_textOf
  intro c
  exact clause_of_mem h

theorem Query.text_generated_sample :
    ∃ p, compile sampleContext sampleCollection "-\"'; drop\" (tag:a* or prop:ivl>=-3) Front:c*" =
        .ok (some p) ∧
      p.text = " not ((n.sfld like ? escape '\\' or n.flds like ? escape '\\')) and " ++
        "((n.tags like ?) or ((c.ivl >= -3))) and (n.id in (1))" ∧
      Generated (Token.ofQuery "-\"'; drop\" (tag:a* or prop:ivl>=-3) Front:c*") p.text.toList := by
  have hjoin : (compile sampleContext sampleCollection
      "-\"'; drop\" (tag:a* or prop:ivl>=-3) Front:c*").toOption.join.map Predicate.text =
        some (" not ((n.sfld like ? escape '\\' or n.flds like ? escape '\\')) and " ++
          "((n.tags like ?) or ((c.ivl >= -3))) and (n.id in (1))") := by
    decide +kernel
  obtain ⟨p, hp, htext⟩ := Option.map_eq_some_iff.mp hjoin
  have hcompile := eq_ok_of_join hp
  exact ⟨p, hcompile, htext, text_generated hcompile⟩

end CardQuery
