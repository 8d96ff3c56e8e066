import CardQuery.Pattern.Reader
import CardQuery.Predicate.Builder
import CardQuery.Query.Condition
import CardQuery.Text.Wildcard

/-!
All field terms of a query, resolved at once to the notes that meet them. Notes are first sifted by
LIKE on the whole blob, in as many statements as it takes, and then confirmed field by field.
-/

namespace CardQuery.Query

structure FieldRequest where
  name : String
  values : List String
  deriving DecidableEq, Repr

def addRequest (name value : String) : List FieldRequest → List FieldRequest
  | [] => [⟨name, [value]⟩]
  | r :: rs =>
    if r.name = name then { r with values := r.values ++ [value] } :: rs
    else r :: addRequest name value rs

def fieldRequests (terms : List (String × String)) : List FieldRequest :=
  terms.foldl (fun rs (name, value) => addRequest (Text.lower name) value rs) []

def combinations : List Nat → List (List Nat)
  | [] => [[]]
  | n :: ns => (List.range n).flatMap fun i => (combinations ns).map (i :: ·)

def choices (requests : List FieldRequest) : List (List Nat) :=
  combinations (requests.map (·.values.length))

def likeForm (value : String) : String :=
  String.ofList <| value.toList.flatMap fun c =>
    if c = '\\' then ['\\', '\\'] else if c = '%' then ['\\', '%']
    else if c = '*' then ['%'] else [c]

def confirmingForm (c : Char) : List Char :=
  if c = '*' then ['.', '*'] else if c = '_' then ['.'] else Pattern.escaped c

def confirmingText (value : String) : String :=
  String.ofList ('^' :: (value.toList.flatMap confirmingForm ++ ['$']))

def confirmingFlags : Pattern.Flags := { Pattern.Flags.start true with dotAll := true }

def confirming? (value : String) : Option Pattern.Regex :=
  Pattern.Regex.readUnder? confirmingFlags (confirmingText value)

def fieldPlace (c : Char) : Wild := if c = '*' then .run else if c = '_' then .one else .lit c

def fieldGlob (value : String) : List Wild := value.toList.map fieldPlace

def fieldAlphabet : Wild.Alphabet := ⟨fun _ => true, Text.sameFolded⟩

def fieldAccepts (value field : String) : Bool :=
  Wild.accepts fieldAlphabet (fieldGlob value) field.toList

structure ProbedType where
  id : Int
  slots : List (Option Nat)
  deriving DecidableEq, Repr

def slot (requests : List FieldRequest) (field : String) : Option Nat :=
  requests.findIdx? (·.name == Text.lower field)

def probedTypes (types : List NoteType) (requests : List FieldRequest) : List ProbedType :=
  (types.map fun t => ⟨t.id, t.fields.map (slot requests)⟩).filter (·.slots.any Option.isSome)

def picked (requests : List FieldRequest) (combo : List Nat) (request : Nat) : String :=
  ((requests[request]?.map FieldRequest.values).getD [])[combo.getD request 0]?.getD ""

def slotForm (requests : List FieldRequest) (combo : List Nat) : Option Nat → String
  | some request => likeForm (picked requests combo request)
  | none => "%"

def blobPattern (requests : List FieldRequest) (t : ProbedType) (combo : List Nat) : String :=
  Fields.join (t.slots.map (slotForm requests combo))

structure ProbeTerm where
  noteType : Int
  pattern : String
  fields : Nat
  deriving DecidableEq, Repr

def probeTerms (requests : List FieldRequest) (types : List ProbedType)
    (combos : List (List Nat)) : List ProbeTerm :=
  types.flatMap fun t => combos.map fun combo => ⟨t.id, blobPattern requests t combo, t.slots.length⟩

/-- The values of a pattern are joined one after another with a separator between them. -/
def ProbeTerm.extent? (p : ProbeTerm) : Option Extent :=
  Extent.tree? (if p.fields ≤ 1 then 3 else 2 * p.fields + 2) 0

def probeFits : List ProbeTerm → Bool
  | [] => false
  | p :: ps => (ps.foldl (fun f q => Formula.or f (.term q)) (.term p)).fits ProbeTerm.extent?
      ((p :: ps).foldl (fun values q => values + (q.fields + 1)) 0)

/-- Whether a note meets one of the alternatives; `none` when a pattern that had to be tried is too
long. -/
def sift? (n : Note) : List ProbeTerm → Option Bool
  | [] => some false
  | p :: ps =>
    if n.noteType == p.noteType then
      match Like.holds? (some '\\') p.pattern n.blob with
      | some false => sift? n ps
      | answer => answer
    else sift? n ps

def batchSize : Nat := 250

def batches (size : Nat) (terms : List ProbeTerm) : List (List ProbeTerm) :=
  (List.range ((terms.length + (size - 1)) / size)).map fun i => (terms.drop (i * size)).take size

def gather (notes found : Table Note) : List (List ProbeTerm) → Except Fault (Table Note)
  | [] => .ok found
  | terms :: rest =>
    if probeFits terms then
      match Table.keep? (sift? · terms) notes.rows with
      | none => .error .overlongPattern
      | some ns => gather notes (ns.foldl Table.insert found) rest
    else .error .oversizedProbe

def slotAccepts (requests : List FieldRequest) (combo : List Nat) (slot : Option Nat)
    (field : String) : Bool :=
  slot.all fun request => fieldAccepts (picked requests combo request) field

def confirms (requests : List FieldRequest) (t : ProbedType) (fields : List String)
    (combo : List Nat) : Bool :=
  (t.slots.zip fields).all fun (slot, field) => slotAccepts requests combo slot field

def confirm (requests : List FieldRequest) (types : List ProbedType) (combos : List (List Nat))
    (n : Note) : Except Fault Bool :=
  match types.find? (·.id == n.noteType) with
  | none => .ok false
  | some t =>
    if n.fields.length ≠ t.slots.length then
      .error (.storedFieldCount n.id n.fields.length n.noteType t.slots.length)
    else .ok (combos.any (confirms requests t n.fields))

def confirmNotes (requests : List FieldRequest) (types : List ProbedType)
    (combos : List (List Nat)) : List Note → Except Fault (List Int)
  | [] => .ok []
  | n :: ns => match confirm requests types combos n with
    | .error e => .error e
    | .ok true => (confirmNotes requests types combos ns).map (n.id :: ·)
    | .ok false => confirmNotes requests types combos ns

def fieldTerms (types : List NoteType) (col : Collection) (terms : List (String × String)) :
    Except Fault (Reading Condition) :=
  let requests := fieldRequests terms
  let probed := probedTypes types requests
  if terms.any fun (_, value) => (confirming? value).isNone then .error .badPattern
  else if probed.isEmpty then .ok .invalid
  else
    let combos := choices requests
    match gather col.notes .empty (batches batchSize (probeTerms requests probed combos)) with
    | .error e => .error e
    | .ok found => match confirmNotes requests probed combos found.rows with
      | .error e => .error e
      | .ok [] => .ok (.condition .never)
      | .ok (id :: ids) => .ok (.condition (.notes (id :: ids)))

end CardQuery.Query
