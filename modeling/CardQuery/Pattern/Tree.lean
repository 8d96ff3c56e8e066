import CardQuery.Pattern.CharSet

/-!
Patterns and the ways in which one matches from a place in a text. The ways come in order of
preference, and the first way to reach an end counts.
-/

namespace CardQuery.Pattern

inductive Look where
  | textStart
  | textEnd
  | lineStart (crlf : Bool)
  | lineEnd (crlf : Bool)
  | boundary (word : CharSet)
  | noBoundary (word : CharSet)
  | wordStart (word : CharSet)
  | wordEnd (word : CharSet)
  | noWordBefore (word : CharSet)
  | noWordAfter (word : CharSet)

inductive Tree where
  | empty
  | char (s : CharSet)
  | look (l : Look)
  | seq (a b : Tree)
  | alt (a b : Tree)
  | group (index : Nat) (a : Tree)
  | repeated (min : Nat) (more : Option Nat) (greedy : Bool) (a : Tree)

structure Place where
  before : Option Char
  rest : List Char
  taken : Nat
  groups : List (Nat × List Char)

namespace Look

def holds (before : Option Char) (rest : List Char) : Look → Bool
  | textStart => before.isNone
  | textEnd => rest.isEmpty
  | lineStart false => before.all (· == '\n')
  | lineStart true =>
    before.all fun c => c == '\n' || c == '\r' && rest.head? != some '\n'
  | lineEnd false => rest.head?.all (· == '\n')
  | lineEnd true =>
    rest.head?.all fun c => c == '\r' || c == '\n' && before != some '\r'
  | boundary w => before.any w.contains != rest.head?.any w.contains
  | noBoundary w => before.any w.contains == rest.head?.any w.contains
  | wordStart w => !before.any w.contains && rest.head?.any w.contains
  | wordEnd w => before.any w.contains && !rest.head?.any w.contains
  | noWordBefore w => !before.any w.contains
  | noWordAfter w => !rest.head?.any w.contains

end Look

namespace Place

def start (before : Option Char) (rest : List Char) : Place := ⟨before, rest, 0, []⟩

def pass? (p : Place) (s : CharSet) : List Place :=
  match p.rest with
  | [] => []
  | c :: r => if s.contains c then [{ p with before := some c, rest := r, taken := p.taken + 1 }] else []

def record (index : Nat) (s p : Place) : Place :=
  { p with groups := (index, s.rest.take (p.taken - s.taken)) ::
      p.groups.filter (·.1 != index) }

def distinct (seen : Nat) : List Place → List Place
  | [] => []
  | p :: ps =>
    if seen.testBit p.taken then distinct seen ps
    else p :: distinct (seen ||| 1 <<< p.taken) ps

end Place

namespace Tree

structure Found where
  places : List Place
  seen : Nat

namespace Found

def none : Found := ⟨[], 0⟩

def add (f : Found) (p : Place) : Found := { f with places := p :: f.places }

def mark (f : Found) (bit : Nat) : Found := { f with seen := f.seen ||| 1 <<< bit }

def around (f : Found) (p : Place) (greedy : Bool) (further : Found → Found) : Found :=
  if greedy then (further f).add p else further (f.add p)

end Found

def rounds (round : Place → List Place) (greedy : Bool) (start : Nat) : Nat → Found → Place → Found
  | 0, f, p => f.add p
  | fuel + 1, f, p =>
    if f.seen.testBit p.taken then f
    else if p.taken = start then (f.mark p.taken).add p
    else (f.mark p.taken).around p greedy fun f =>
      (round p).foldl (rounds round greedy start fuel) f

def oneOrMore (round : Place → List Place) (greedy : Bool) (p : Place) : List Place :=
  ((round p).foldl (rounds round greedy p.taken (p.rest.length + 1)) .none).places.reverse

/-- Adds the places after at most `k` rounds. `width` exceeds the number of characters a place can
have taken, so that each number of rounds has bits of its own. -/
def upToRounds (round : Place → List Place) (greedy : Bool) (width : Nat) :
    Nat → Found → Place → Found
  | 0, f, p => f.add p
  | k + 1, f, p =>
    let bit := (k + 1) * width + p.taken
    if f.seen.testBit bit then f
    else (f.mark bit).around p greedy fun f =>
      (round p).foldl (upToRounds round greedy width k) f

def atMost (round : Place → List Place) (greedy : Bool) (k : Nat) (p : Place) : List Place :=
  (upToRounds round greedy (p.taken + p.rest.length + 1) k .none p).places.reverse

def exactly (round : Place → List Place) : Nat → List Place → List Place
  | 0, ps => ps
  | k + 1, ps => exactly round k (Place.distinct 0 (ps.flatMap round))

/-- The places that a pattern leads to, the preferred one first, each number of characters taken
once. -/
def run : Tree → Place → List Place
  | empty, p => [p]
  | char s, p => p.pass? s
  | look l, p => if l.holds p.before p.rest then [p] else []
  | seq a b, p => Place.distinct 0 ((a.run p).flatMap b.run)
  | alt a b, p => Place.distinct 0 (a.run p ++ b.run p)
  | group index a, p => (a.run p).map (Place.record index p)
  | repeated 0 none greedy a, p =>
    let more := oneOrMore a.run greedy p
    Place.distinct 0 (if greedy then more ++ [p] else p :: more)
  | repeated (n + 1) none greedy a, p =>
    Place.distinct 0 ((exactly a.run n [p]).flatMap (oneOrMore a.run greedy))
  | repeated n (some k) greedy a, p =>
    Place.distinct 0 ((exactly a.run n [p]).flatMap (atMost a.run greedy k))

def match? (t : Tree) (before : Option Char) (rest : List Char) : Option Place :=
  (t.run (.start before rest)).head?

def room (d : Direction) : Tree → Nat
  | empty => 0
  | char s => s.weight d
  | look _ => 32
  | seq a b => a.room d + b.room d
  | alt a b => a.room d + b.room d + 32
  | group _ a => a.room d + (match d with
    | .forwards => 64
    | .backwards => 0)
  | repeated n none _ a => max n 1 * a.room d + 40
  | repeated n (some k) _ a => (n + k) * a.room d + 32

/-- A pattern is built twice, to be read forwards and backwards. Either has a state where it begins and
one where it ends; what is captured as a whole is noted on the way forwards only. -/
def weight (t : Tree) : Nat := max (t.room .forwards + 128) (t.room .backwards + 64)

end Tree

end CardQuery.Pattern
