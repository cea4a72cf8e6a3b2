import Mathlib.Data.List.Infix
import ReferenceSite.Proofs.Text.Parts

/-! Angle brackets in a text. They are balanced if each closing one has an opening one ahead of it and
as many are closed as are opened; then a sign is inside of brackets where more of them are open than
closed ahead of it. -/
namespace ReferenceSite.Text

structure Balanced (s : List Char) : Prop where
  opened : ∀ start ∈ s.inits, start.count '>' ≤ start.count '<'
  closed : s.count '<' = s.count '>'

instance (s : List Char) : Decidable (Balanced s) :=
  decidable_of_iff ((∀ start ∈ s.inits, start.count '>' ≤ start.count '<') ∧ s.count '<' = s.count '>')
    ⟨fun both => ⟨both.1,both.2⟩,fun balanced => ⟨balanced.opened,balanced.closed⟩⟩

/-- Wherever the sign stands, brackets are open. -/
def Enclosed (sign : Char) (s : List Char) : Prop :=
  ∀ start ∈ s.inits, start ++ [sign] <+: s → start.count '>' < start.count '<'

instance (sign : Char) (s : List Char) : Decidable (Enclosed sign s) :=
  inferInstanceAs (Decidable (∀ start ∈ s.inits, _))

theorem Enclosed.open {sign : Char} {before behind : List Char}
    (enclosed : Enclosed sign (before ++ sign :: behind)) : before.count '>' < before.count '<' :=
  enclosed before ((List.mem_inits _ _).mpr (List.prefix_append _ _)) ⟨behind,by simp⟩

theorem Blanks.unbracketed {s : List Char} (blank : Blanks s) : '<' ∉ s ∧ '>' ∉ s := by
  constructor <;> exact fun member => absurd (blank _ member) (by decide)

/-- Signs around a text that are no brackets do not matter. -/
theorem Balanced.inner {before s behind : List Char} (balanced : Balanced (before ++ s ++ behind))
    (ahead : '<' ∉ before ∧ '>' ∉ before) (after : '<' ∉ behind ∧ '>' ∉ behind) : Balanced s := by
  have none (c : Char) (s : List Char) (outside : c ∉ s) : s.count c = 0 := List.count_eq_zero.mpr outside
  constructor
  · intro start member
    have longer : before ++ start ∈ (before ++ s ++ behind).inits := by
      rw [List.mem_inits] at member ⊢
      obtain ⟨rest,rfl⟩ := member
      exact ⟨rest ++ behind,by simp⟩
    have bound := balanced.opened _ longer
    rwa [List.count_append,List.count_append,none _ _ ahead.1,none _ _ ahead.2,Nat.zero_add,
      Nat.zero_add] at bound
  · have same := balanced.closed
    simpa [List.count_append,none _ _ ahead.1,none _ _ ahead.2,none _ _ after.1,none _ _ after.2] using same

theorem Balanced.trim {s : List Char} (balanced : Balanced s) : Balanced (trim s) := by
  obtain ⟨indent,trailing,whole,ahead,after⟩ := trim_between s
  rw [whole] at balanced
  exact balanced.inner ahead.unbracketed after.unbracketed

/-- Behind an opening bracket stands a closing one. -/
theorem Balanced.closes {before behind : List Char} (balanced : Balanced (before ++ '<' :: behind)) :
    '>' ∈ behind := by
  by_contra unclosed
  have bound := balanced.opened before ((List.mem_inits _ _).mpr (List.prefix_append _ _))
  have same := balanced.closed
  simp [List.count_append,List.count_eq_zero.mpr unclosed] at same
  omega

end ReferenceSite.Text
