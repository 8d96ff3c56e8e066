import CardQuery.Proofs.Pattern.Globbing
import CardQuery.Query.FieldProbe

namespace CardQuery.Query

open Pattern

def confirmingPart (c : Char) : Tree × ℕ :=
  if c = '*' then (.repeated 0 none true (.char .all), 1)
  else if c = '_' then (.char .all, 0) else (.char (.variants c), 0)

def confirmingTail (value : List Char) : Tree :=
  value.foldr (fun c t => .seq (confirmingPart c).1 t) (.look .textEnd)

def confirmingTree (value : String) : Tree := .seq (.look .textStart) (confirmingTail value.toList)

lemma plain_confirmingFlags : confirmingFlags.Plain .all := ⟨rfl, rfl, rfl, rfl⟩

lemma wildForm_fieldPlace (c : Char) : wildForm (fieldPlace c) = confirmingForm c := by
  rw [fieldPlace, confirmingForm]
  split_ifs <;> rfl

lemma wildPart_fieldPlace (c : Char) :
    wildPart confirmingFlags .all (fieldPlace c) = confirmingPart c := by
  rw [fieldPlace, confirmingPart]
  split_ifs <;> rfl

lemma wildText_fieldGlob (value : String) : wildText (fieldGlob value) = confirmingText value := by
  simp only [wildText, fieldGlob, List.flatMap_map, wildForm_fieldPlace, confirmingText]

lemma wildTree_fieldGlob (value : String) :
    wildTree confirmingFlags .all (fieldGlob value) = confirmingTree value := by
  simp only [wildTree, wildTail, fieldGlob, List.foldr_map, wildPart_fieldPlace, confirmingTree,
    confirmingTail]

theorem confirming?_eq (value : String) : confirming? value =
    if Reader.heaviest < (confirmingTree value).weight then none
    else some ⟨confirmingTree value, []⟩ := by
  rw [confirming?, ← wildText_fieldGlob, readUnder?_wildText plain_confirmingFlags,
    wildTree_fieldGlob]

lemma confirming?_underscores {n : ℕ} (h : 10877 < n) :
    confirming? (String.ofList (List.replicate n '_')) = none := by
  have hglob : fieldGlob (String.ofList (List.replicate n '_')) = List.replicate n .one := by
    simp [fieldGlob, fieldPlace]
  have hroom : (confirmingTree (String.ofList (List.replicate n '_'))).room .backwards = n * 964 + 64 := by
    rw [← wildTree_fieldGlob, hglob, room_wildTree_replicate]
    rfl
  rw [confirming?_eq, if_pos]
  rw [Tree.weight, hroom, Reader.heaviest]
  omega

theorem match?_confirmingTree (value field : String) :
    ((confirmingTree value).match? none field.toList).isSome = fieldAccepts value field := by
  rw [← wildTree_fieldGlob, match?_wildTree]
  rfl

end CardQuery.Query
