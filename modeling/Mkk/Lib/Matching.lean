import Mathlib.Data.Multiset.Dedup
import Mathlib.Data.Multiset.MapFold

/-!
# Copies matched by key

A multiset is a copy of another up to a relation when the elements of the two can be paired off. With keys
that the relation keeps and that are distinct in the original, this is decided key by key.
-/

namespace Lib

section

variable {A B K : Type*} {same : A → B → Prop} {key : A → K} {key' : B → K} {copy : Multiset A}
  {original : Multiset B}

/-- Pairing off by key is an equation of the keys. -/
theorem rel_key_iff : Multiset.Rel (fun a b => key a = key' b) copy original ↔
    copy.map key = original.map key' := by
  rw [← Multiset.rel_eq, Multiset.rel_map]

/-- As many elements, the same keys, and no other keys: the keys are the same as often. -/
theorem map_key_eq_iff (distinct : (original.map key').Nodup) :
    copy.map key = original.map key' ↔
      copy.card = original.card ∧ ∀ k, k ∈ copy.map key ↔ k ∈ original.map key' := by
  constructor
  · intro equal
    have cards := congrArg Multiset.card equal
    rw [Multiset.card_map, Multiset.card_map] at cards
    exact ⟨cards, fun k => by rw [equal]⟩
  · rintro ⟨cards, members⟩
    have below : original.map key' ≤ copy.map key :=
      (Multiset.le_iff_subset distinct).2 fun k member => (members k).2 member
    refine (Multiset.eq_of_le_of_card_le below ?_).symm
    rw [Multiset.card_map, Multiset.card_map, cards]

/-- **Copies by key.** -/
theorem rel_iff_of_key (kept : ∀ a b, same a b → key a = key' b) (distinct : (original.map key').Nodup) :
    Multiset.Rel same copy original ↔
      copy.card = original.card ∧ (∀ k, k ∈ copy.map key ↔ k ∈ original.map key') ∧
      ∀ a ∈ copy, ∀ b ∈ original, key a = key' b → same a b := by
  rw [← and_assoc, ← map_key_eq_iff distinct, ← rel_key_iff]
  constructor
  · intro paired
    refine ⟨paired.mono fun a _ b _ related => kept a b related, fun a member b found equal => ?_⟩
    obtain ⟨b', found', related⟩ := Multiset.exists_mem_of_rel_of_mem paired member
    have unique : b' = b := Multiset.inj_on_of_nodup_map distinct b' found' b found
      ((kept a b' related).symm.trans equal)
    exact unique ▸ related
  · rintro ⟨paired, each⟩
    exact paired.mono each

end

end Lib
