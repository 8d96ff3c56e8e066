namespace CardQuery

class Keyed (α : Type) where
  id : α → Int

structure Table (α : Type) [Keyed α] where
  rows : List α
  increasing : rows.Pairwise fun a b => Keyed.id a < Keyed.id b

namespace Table

/-- The members that pass a test; `none` when the test fails to answer. -/
def keep? {α : Type} (test : α → Option Bool) : List α → Option (List α)
  | [] => some []
  | x :: xs => match test x with
    | none => none
    | some true => (keep? test xs).map (x :: ·)
    | some false => keep? test xs

variable {α : Type} [Keyed α]

def empty : Table α := ⟨[], List.Pairwise.nil⟩

def place (x : α) : List α → List α
  | [] => [x]
  | y :: ys =>
    if Keyed.id x < Keyed.id y then x :: y :: ys
    else if Keyed.id x = Keyed.id y then x :: ys
    else y :: place x ys

theorem mem_place {x z : α} {ys : List α} (h : z ∈ place x ys) : z = x ∨ z ∈ ys := by
  induction ys with
  | nil => simp_all [place]
  | cons y ys ih => grind [place]

theorem increasing_place (x : α) {ys : List α}
    (h : ys.Pairwise fun a b => Keyed.id a < Keyed.id b) :
    (place x ys).Pairwise fun a b => Keyed.id a < Keyed.id b := by
  induction ys with
  | nil => simp [place]
  | cons y ys ih =>
    have hy := List.pairwise_cons.1 h
    rw [place]
    split
    · next hlt =>
      refine List.pairwise_cons.2 ⟨fun z hz => ?_, h⟩
      rcases List.mem_cons.1 hz with rfl | hz
      · exact hlt
      · exact Int.lt_trans hlt (hy.1 z hz)
    · split
      · next _ heq => exact List.pairwise_cons.2 ⟨fun z hz => heq ▸ hy.1 z hz, hy.2⟩
      · next hlt hne =>
        refine List.pairwise_cons.2 ⟨fun z hz => ?_, ih hy.2⟩
        rcases mem_place hz with rfl | hz
        · omega
        · exact hy.1 z hz

def insert (t : Table α) (x : α) : Table α := ⟨place x t.rows, increasing_place x t.increasing⟩

def find? (t : Table α) (id : Int) : Option α := t.rows.find? (Keyed.id · == id)

theorem find?_place (x : α) (ys : List α) (id : Int) :
    (place x ys).find? (Keyed.id · == id) =
      if Keyed.id x = id then some x else ys.find? (Keyed.id · == id) := by
  induction ys with
  | nil => simp [place]
  | cons y ys ih => grind [place]

theorem find?_insert (t : Table α) (x : α) (id : Int) :
    (t.insert x).find? id = if Keyed.id x = id then some x else t.find? id :=
  find?_place x t.rows id

def update (t : Table α) (f : α → α) (h : ∀ a, Keyed.id (f a) = Keyed.id a) : Table α :=
  ⟨t.rows.map f, by simpa [List.pairwise_map, h] using t.increasing⟩

end Table

end CardQuery
