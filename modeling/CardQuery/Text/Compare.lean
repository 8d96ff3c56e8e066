namespace CardQuery

namespace Text

def compare : List Char → List Char → Ordering
  | [], [] => .eq
  | [], _ :: _ => .lt
  | _ :: _, [] => .gt
  | a :: s, b :: t => if a < b then .lt else if b < a then .gt else compare s t

end Text

namespace Sorting

variable {α : Type}

def place (le : α → α → Bool) (x : α) : List α → List α
  | [] => [x]
  | y :: ys => if le x y then x :: y :: ys else y :: place le x ys

def sort (le : α → α → Bool) : List α → List α
  | [] => []
  | x :: xs => place le x (sort le xs)

theorem place_perm (le : α → α → Bool) (x : α) (ys : List α) : (place le x ys).Perm (x :: ys) := by
  induction ys with
  | nil => exact .refl _
  | cons y ys ih =>
    rw [place]
    split
    · exact .refl _
    · exact (ih.cons y).trans (.swap x y ys)

theorem sort_perm (le : α → α → Bool) (xs : List α) : (sort le xs).Perm xs := by
  induction xs with
  | nil => exact .nil
  | cons x xs ih => exact (place_perm le x _).trans (ih.cons x)

theorem mem_sort {le : α → α → Bool} {x : α} {xs : List α} : x ∈ sort le xs ↔ x ∈ xs :=
  (sort_perm le xs).mem_iff

end Sorting

end CardQuery
