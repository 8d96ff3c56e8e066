import CardQuery.Predicate.Extent
import CardQuery.Proofs.Boolean.Nesting

namespace CardQuery

lemma Extent.tree?_eq_some {height inner : ℕ} {e : Extent} :
    tree? height inner = some e ↔ height ≤ deepest ∧ e = tree height inner := by
  simp [tree?, eq_comm]

namespace Formula

variable {α β : Type}

lemma extent?_map (g : α → β) (leaf : β → Option Extent) (f : Formula α) :
    (f.map g).extent? leaf = f.extent? fun a => leaf (g a) := by
  induction f with
  | term a => rfl
  | not f ih => simp only [map, extent?, ih]
  | and f g ihf ihg => simp only [map, extent?, ihf, ihg]
  | or f g ihf ihg => simp only [map, extent?, ihf, ihg]

lemma isVain_map (g : α → β) (vain : β → Bool) (f : Formula α) :
    (f.map g).isVain vain = f.isVain fun a => vain (g a) := by
  induction f with
  | and f h ihf ihh => simp only [map, isVain, ihf, ihh]
  | _ => rfl

lemma evaluate?_map (g : α → β) (vain : β → Bool) (test : β → Option Bool) (f : Formula α) :
    (f.map g).evaluate? vain test = f.evaluate? (fun a => vain (g a)) fun a => test (g a) := by
  induction f with
  | term a => rfl
  | not f ih => simp only [map, evaluate?, ih]
  | and f h ihf ihh => simp only [map, evaluate?, isVain_map, ihf, ihh]
  | or f h ihf ihh => simp only [map, evaluate?, ihf, ihh]

lemma extent?_bind (φ : α → Formula β) (leaf : β → Option Extent) (f : Formula α) :
    (f.bind φ).extent? leaf = f.extent? fun a => (φ a).extent? leaf := by
  induction f with
  | term a => rfl
  | not f ih => simp only [bind, extent?, ih]
  | and f g ihf ihg => simp only [bind, extent?, ihf, ihg]
  | or f g ihf ihg => simp only [bind, extent?, ihf, ihg]

lemma isVain_bind (φ : α → Formula β) (vain : β → Bool) (f : Formula α) :
    (f.bind φ).isVain vain = f.isVain fun a => (φ a).isVain vain := by
  induction f with
  | and f g ihf ihg => simp only [bind, isVain, ihf, ihg]
  | _ => rfl

lemma evaluate?_bind (φ : α → Formula β) (vain : β → Bool) (test : β → Option Bool) (f : Formula α) :
    (f.bind φ).evaluate? vain test =
      f.evaluate? (fun a => (φ a).isVain vain) fun a => (φ a).evaluate? vain test := by
  induction f with
  | term a => rfl
  | not f ih => simp only [bind, evaluate?, ih]
  | and f g ihf ihg => simp only [bind, evaluate?, isVain_bind, ihf, ihg]
  | or f g ihf ihg => simp only [bind, evaluate?, ihf, ihg]

variable {vain : α → Bool} {test : α → Option Bool} {leaf : α → Option Extent}

lemma holds?_ne_of_isVain (hvain : ∀ a, vain a → test a ≠ some true) {f : Formula α}
    (h : f.isVain vain) : f.holds? test ≠ some true := by
  induction f with
  | term a => exact hvain a h
  | and f g ihf ihg =>
    simp only [isVain, Bool.or_eq_true] at h
    rw [holds?]
    split
    · next hf => exact ihg (h.resolve_left fun h => ihf h hf)
    · next hf => exact hf
  | _ => cases h

lemma fits_of_and {f g : Formula α} {values : ℕ} (hf : f.extent? leaf ≠ some .vain)
    (h : (f.and g).fits leaf values) : g.fits leaf values := by
  simp only [fits, extent?, Option.any_eq_true, Option.bind_eq_some_iff] at h ⊢
  obtain ⟨whole, ⟨e, he, e', he', hand⟩, hfits⟩ := h
  refine ⟨e', he', ?_⟩
  cases e with
  | vain => exact absurd he hf
  | tree height inner =>
    cases e' with
    | vain =>
      cases hand
      exact hfits
    | tree height' inner' =>
      obtain ⟨-, rfl⟩ := Extent.tree?_eq_some.mp hand
      simp only [Extent.fits, Bool.and_eq_true, decide_eq_true_eq] at hfits ⊢
      simp only [Extent.height, Extent.inner] at hfits ⊢
      omega

theorem evaluate?_eq_holds? (hvain : ∀ a, vain a → test a ≠ some true) {f : Formula α}
    (h : ∀ a ∈ f.terms, (test a).isSome) : f.evaluate? vain test = f.holds? test := by
  induction f with
  | term a => rfl
  | not f ih => simp only [evaluate?, holds?, ih h]
  | and f g ihf ihg =>
    have hf := ihf fun a ha => h a (List.mem_append_left _ ha)
    have hg := ihg fun a ha => h a (List.mem_append_right _ ha)
    rw [evaluate?]
    split
    · next hand =>
      obtain ⟨v, hv, -⟩ := holds?_eq_some test (f.and g) h
      have hne : (f.and g).holds? test ≠ some true := holds?_ne_of_isVain hvain hand
      cases v with
      | false => exact hv.symm
      | true => exact absurd hv hne
    · rw [hf, hg]
      rfl
  | or f g ihf ihg =>
    have hf := ihf fun a ha => h a (List.mem_append_left _ ha)
    have hg := ihg fun a ha => h a (List.mem_append_right _ ha)
    rw [evaluate?, hf, hg]
    rfl

lemma isVain_eq_false {f : Formula α} (h : ∀ a ∈ f.terms, vain a = false) : f.isVain vain = false := by
  induction f with
  | term a => exact h a (by simp [terms])
  | and f g ihf ihg =>
    rw [isVain, ihf fun a ha => h a (List.mem_append_left _ ha),
      ihg fun a ha => h a (List.mem_append_right _ ha), Bool.or_false]
  | _ => rfl

lemma evaluate?_of_not_vain {f : Formula α} (h : ∀ a ∈ f.terms, vain a = false) :
    f.evaluate? vain test = f.holds? test := by
  induction f with
  | term a => rfl
  | not f ih => simp only [evaluate?, holds?, ih h]
  | and f g ihf ihg =>
    have hf : ∀ a ∈ f.terms, vain a = false := fun a ha => h a (List.mem_append_left _ ha)
    have hg : ∀ a ∈ g.terms, vain a = false := fun a ha => h a (List.mem_append_right _ ha)
    rw [evaluate?, isVain_eq_false hf, isVain_eq_false hg, ihf hf, ihg hg]
    rfl
  | or f g ihf ihg =>
    rw [evaluate?, ihf fun a ha => h a (List.mem_append_left _ ha),
      ihg fun a ha => h a (List.mem_append_right _ ha)]
    rfl

end Formula

end CardQuery
