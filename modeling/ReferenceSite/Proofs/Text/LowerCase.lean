import ReferenceSite.Text.Case

/-! Texts in lower case. No run of the case map begins below the capital letters, and only the run of these
begins below the letters with accents, so that texts without either are in lower case already. Nothing is
mapped to a capital letter, neither is a sigma. -/
namespace ReferenceSite.Text

/-- Below or behind the capital letters, and below all others that have a lower case. -/
def isSmall (c : Char) : Bool := c.toNat < 0x41 || (0x5A < c.toNat && c.toNat < 0xC0)

theorem lowerMap_apply {c : Char} (small : isSmall c = true) : lowerMap.apply c = [c] := by
  have small : c.toNat < 0x41 ∨ (0x5A < c.toNat ∧ c.toNat < 0xC0) := by simpa [isSmall] using small
  have unexpanded : lowerMap.expansions.find? (·.1 == c.toNat) = none := by
    have large : ∀ e ∈ lowerMap.expansions, 0xC0 ≤ e.1 := by decide +kernel
    refine List.find?_eq_none.mpr fun e member same => ?_
    have bound := large e member
    have equal := beq_iff_eq.mp same
    omega
  have ranges : ∀ r ∈ lowerMap.runs, (r.1 = 0x41 ∧ r.2.1 = 0x5A) ∨ 0xC0 ≤ r.1 := by decide +kernel
  rw [CaseMap.apply,unexpanded]
  dsimp only
  split
  · rename_i first last step image found
    have range : (first = 0x41 ∧ last = 0x5A) ∨ 0xC0 ≤ first := ranges _ (List.mem_of_find?_eq_some found)
    have inside := List.find?_some found
    simp only [Bool.and_eq_true,decide_eq_true_eq] at inside
    omega
  · rfl

theorem lowerBehind_small {s : List Char} (cased : Bool) (small : s.all isSmall = true) :
    lowerBehind cased s = s := by
  induction s generalizing cased with
  | nil => rfl
  | cons c s ih =>
    obtain ⟨here,later⟩ := Bool.and_eq_true_iff.mp small
    have other : c ≠ 'Σ' := by
      rintro rfl
      exact absurd here (by decide)
    rw [lowerBehind,if_neg other,lowerMap_apply here,ih _ later]
    rfl

theorem toLower_small {s : List Char} (small : s.all isSmall = true) : toLower s = s :=
  lowerBehind_small false small

theorem not_isUpper_iff (c : Char) : c.isUpper = false ↔ c.toNat < 0x41 ∨ 0x5A < c.toNat := by
  have upper : c.isUpper = true ↔ 0x41 ≤ c.toNat ∧ c.toNat ≤ 0x5A := decide_eq_true_iff
  rw [← Bool.not_eq_true,upper]
  omega

theorem not_isUpper_of_behind (n : Nat) (behind : 0x5A < n) : (Char.ofNat n).isUpper = false := by
  by_cases valid : n.isValidChar
  · have code : (Char.ofNat n).toNat = n := by
      rw [Char.ofNat,dif_pos valid]
      rfl
    rw [not_isUpper_iff,code]
    exact .inr behind
  · rw [Char.ofNat,dif_neg valid]
    decide

theorem not_isUpper_lowerMap (c d : Char) (mapped : d ∈ lowerMap.apply c) : d.isUpper = false := by
  have images : ∀ r ∈ lowerMap.runs, 0x5A < r.2.2.2 := by decide +kernel
  have expanded : ∀ e ∈ lowerMap.expansions, ∀ n ∈ e.2, 0x5A < n := by decide +kernel
  unfold CaseMap.apply at mapped
  split at mapped
  · rename_i found
    obtain ⟨n,inside,rfl⟩ := List.mem_map.mp mapped
    exact not_isUpper_of_behind n (expanded _ (List.mem_of_find?_eq_some found) n inside)
  · split at mapped
    · rename_i found
      obtain rfl := List.mem_singleton.mp mapped
      have image := images _ (List.mem_of_find?_eq_some found)
      exact not_isUpper_of_behind _ (Nat.lt_add_right _ image)
    · -- Behind no run of the map stands a capital letter, since they have one of their own.
      rename_i missing
      obtain rfl := List.mem_singleton.mp mapped
      have capitals : (0x41,0x5A,1,0x61) ∈ lowerMap.runs := by decide +kernel
      have outside := List.find?_eq_none.mp missing _ capitals
      simp only [Bool.and_eq_true,decide_eq_true_eq,beq_iff_eq] at outside
      rw [not_isUpper_iff]
      omega

theorem not_isUpper_lowerBehind (cased : Bool) (s : List Char) :
    ∀ c ∈ lowerBehind cased s, c.isUpper = false := by
  induction s generalizing cased with
  | nil => exact nofun
  | cons c s ih =>
    intro d member
    rw [lowerBehind] at member
    rcases List.mem_append.mp member with here | later
    · split at here
      · obtain rfl := List.mem_singleton.mp here
        split <;> decide
      · exact not_isUpper_lowerMap c d here
    · exact ih _ d later

theorem not_isUpper_toLower (s : List Char) : ∀ c ∈ toLower s, c.isUpper = false :=
  not_isUpper_lowerBehind false s

end ReferenceSite.Text
