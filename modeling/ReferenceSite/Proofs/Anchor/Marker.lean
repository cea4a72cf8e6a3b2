import ReferenceSite.Anchor
import ReferenceSite.Proofs.Text.Runs

/-! Markers in a text. The first marker of a text is the one that begins first, whatever stands in its name; it
is taken out with the white space around it, and a space stays if there is text on both sides. -/
namespace ReferenceSite.Anchor
open ReferenceSite.Text

def mark (name : List Char) : List Char := '{' :: '#' :: (name ++ ['}'])

def IsName (name : List Char) : Prop := name ≠ [] ∧ ∀ c ∈ name, c ≠ '}' ∧ isBlank c = false

instance (name : List Char) : Decidable (IsName name) :=
  @instDecidableAnd _ _ inferInstance (List.decidableBAll (fun c => c ≠ '}' ∧ isBlank c = false) name)

/-- A marker of that name stands between these parts of the text. -/
def Marks (s before name after : List Char) : Prop := s = before ++ mark name ++ after ∧ IsName name

instance (s before name after : List Char) : Decidable (Marks s before name after) :=
  inferInstanceAs (Decidable (_ ∧ _))

/-- One marker of a text: its name, the white space around it, and what remains on both sides. -/
structure Marked (s : List Char) where
  left : List Char
  ahead : List Char
  name : List Char
  behind : List Char
  right : List Char
  marks : Marks s (left ++ ahead) name (behind ++ right)
  blank : Blanks ahead ∧ Blanks behind
  solid : (∀ c, left.getLast? = some c → isBlank c = false) ∧ Stops isBlank right

/-- No marker of the text begins earlier. -/
def Marked.IsFirst {s : List Char} (m : Marked s) : Prop :=
  ∀ other : Marked s, (m.left ++ m.ahead).length ≤ (other.left ++ other.ahead).length

/-- The text without the marker and the white space around it. -/
def Marked.rest {s : List Char} (m : Marked s) : List Char :=
  m.left ++ (if m.left = [] ∨ m.right = [] then [] else [' ']) ++ m.right

theorem Marks.marked {s before name after : List Char} (marks : Marks s before name after) :
    ∃ m : Marked s, m.left ++ m.ahead = before ∧ m.name = name ∧ m.behind ++ m.right = after := by
  obtain ⟨left,ahead,rfl,blank,ends⟩ := trailing_run isBlank before
  obtain ⟨behind,whole,blank',stops⟩ := (dropWhile_eq_iff isBlank after _).mp rfl
  exact ⟨⟨left,ahead,name,behind,_,whole ▸ marks,⟨blank,blank'⟩,ends,stops⟩,rfl,rfl,whole.symm⟩

theorem isEmpty_marked_iff (s : List Char) : IsEmpty (Marked s) ↔ ∀ before name after, ¬ Marks s before name after := by
  constructor
  · intro unmarked before name after marks
    obtain ⟨m,_⟩ := marks.marked
    exact unmarked.false m
  · exact fun unmarked => ⟨fun m => unmarked _ _ _ m.marks⟩

theorem marks_cons (c : Char) (s before name after : List Char) : Marks (c :: s) before name after ↔
    before = [] ∧ Marks (c :: s) [] name after ∨ ∃ front, before = c :: front ∧ Marks s front name after := by
  cases before with
  | nil => simp
  | cons d front =>
    simp only [Marks,List.cons_append,List.cons.injEq,reduceCtorEq,false_and,false_or]
    constructor
    · rintro ⟨⟨rfl,whole⟩,named⟩
      exact ⟨front,⟨rfl,rfl⟩,whole,named⟩
    · rintro ⟨_,⟨rfl,rfl⟩,whole,named⟩
      exact ⟨⟨rfl,whole⟩,named⟩

theorem marker?_eq_some_iff (s name after : List Char) :
    marker? s = some (name,after) ↔ Marks s [] name after := by
  simp only [marker?,Option.bind_eq_bind,Option.bind_eq_some_iff,dropPrefix?_eq_some_iff,Marks,mark]
  constructor
  · rintro ⟨rest,rfl,found⟩
    split at found
    · cases found
    · rename_i nonempty
      obtain ⟨behind,closed,same⟩ := Option.bind_eq_some_iff.mp found
      cases same
      refine ⟨?_,by simpa using nonempty,fun c member => by simpa using List.mem_takeWhile_imp member⟩
      have whole := List.take_append_drop (rest.takeWhile fun c => c ≠ '}' ∧ ! isBlank c).length rest
      rw [(dropPrefix?_eq_some_iff _ _ _).mp closed,← List.prefix_iff_eq_take.mp (List.takeWhile_prefix _)] at whole
      simpa using whole.symm
  · rintro ⟨rfl,nonempty,letters⟩
    refine ⟨name ++ '}' :: after,by simp,?_⟩
    have scan : (name ++ '}' :: after).takeWhile (fun c => c ≠ '}' ∧ ! isBlank c) = name := by
      refine takeWhile_past _ name _ (fun c member => ?_) ((stops_cons _ _ _).mpr (by simp))
      simpa using letters c member
    simp only [scan]
    simp [nonempty,dropPrefix?]

theorem splitMarker?_eq_none_iff (s : List Char) : splitMarker? s = none ↔ IsEmpty (Marked s) := by
  rw [isEmpty_marked_iff]
  induction s with
  | nil => simp [splitMarker?,Marks,mark]
  | cons c s ih =>
    rw [splitMarker?]
    cases here : marker? (c :: s) with
    | some found =>
      have marks := (marker?_eq_some_iff (c :: s) found.1 found.2).mp here
      exact ⟨nofun,fun unmarked => absurd marks (unmarked _ _ _)⟩
    | none =>
      simp only [Option.map_eq_none_iff,ih,marks_cons,← marker?_eq_some_iff,here]
      constructor
      · rintro unmarked _ name after (⟨_,⟨⟩⟩ | ⟨front,_,marks⟩)
        exact unmarked front name after marks
      · exact fun unmarked front name after marks => unmarked (c :: front) name after (.inr ⟨front,rfl,marks⟩)

theorem splitMarker?_eq_some_iff (s before name after : List Char) : splitMarker? s = some (before,name,after) ↔
    Marks s before name after ∧ ∀ b n a, Marks s b n a → before.length ≤ b.length := by
  induction s generalizing before with
  | nil => simp [splitMarker?,Marks,mark]
  | cons c s ih =>
    rw [splitMarker?]
    cases here : marker? (c :: s) with
    | some found =>
      have marks := (marker?_eq_some_iff (c :: s) found.1 found.2).mp here
      constructor
      · rintro ⟨⟩
        exact ⟨marks,fun _ _ _ _ => Nat.zero_le _⟩
      · rintro ⟨own,first⟩
        obtain rfl := List.length_eq_zero_iff.mp (Nat.le_zero.mp (first _ _ _ marks))
        obtain rfl := Option.some.inj (here.symm.trans ((marker?_eq_some_iff _ _ _).mpr own))
        rfl
    | none =>
      have later (b n a : List Char) : Marks (c :: s) b n a ↔ ∃ front, b = c :: front ∧ Marks s front n a := by
        rw [marks_cons,← marker?_eq_some_iff,here]
        simp
      simp only [Option.map_eq_some_iff,later]
      constructor
      · rintro ⟨⟨front,_,_⟩,split,⟨⟩⟩
        obtain ⟨marks,first⟩ := (ih front).mp split
        refine ⟨⟨front,rfl,marks⟩,?_⟩
        rintro _ n a ⟨other,rfl,marks'⟩
        exact Nat.succ_le_succ (first other n a marks')
      · rintro ⟨⟨front,rfl,marks⟩,first⟩
        refine ⟨(front,name,after),(ih front).mpr ⟨marks,fun b n a marks' => ?_⟩,rfl⟩
        exact Nat.succ_le_succ_iff.mp (first (c :: b) n a ⟨b,rfl,marks'⟩)

theorem Marked.isFirst_iff {s : List Char} (m : Marked s) :
    m.IsFirst ↔ splitMarker? s = some (m.left ++ m.ahead,m.name,m.behind ++ m.right) := by
  rw [splitMarker?_eq_some_iff,and_iff_right m.marks]
  constructor
  · intro first before name after marks
    obtain ⟨other,same,_⟩ := marks.marked
    exact same ▸ first other
  · exact fun first other => first _ _ _ other.marks

instance {s : List Char} (m : Marked s) : Decidable m.IsFirst := decidable_of_iff _ m.isFirst_iff.symm

theorem takeExplicit?_of_isFirst (text : String) (m : Marked text.toList) (first : m.IsFirst) :
    takeExplicit? text = some (.ofList m.name,.ofList m.rest) := by
  have split := m.isFirst_iff.mp first
  have front : trimEnd (m.left ++ m.ahead) = m.left := trimEnd_past m.left m.ahead m.blank.1 m.solid.1
  have back : trimStart (m.behind ++ m.right) = m.right := trimStart_past m.behind m.right m.blank.2 m.solid.2
  simp only [takeExplicit?,split,Option.bind_eq_bind,Option.bind_some,front,back,Marked.rest,List.isEmpty_iff]

theorem takeExplicit?_eq_none_iff (text : String) : takeExplicit? text = none ↔ IsEmpty (Marked text.toList) := by
  rw [← splitMarker?_eq_none_iff]
  unfold takeExplicit?
  cases splitMarker? text.toList <;> simp

theorem takeExplicit?_eq_some_iff (text id rest : String) : takeExplicit? text = some (id,rest) ↔
    ∃ m : Marked text.toList, m.IsFirst ∧ id = .ofList m.name ∧ rest = .ofList m.rest := by
  constructor
  · intro taken
    cases split : splitMarker? text.toList with
    | none =>
      rw [takeExplicit?,split] at taken
      cases taken
    | some parts =>
      obtain ⟨before,name,after⟩ := parts
      obtain ⟨m,rfl,rfl,rfl⟩ := ((splitMarker?_eq_some_iff ..).mp split).1.marked
      have first := m.isFirst_iff.mpr split
      rw [takeExplicit?_of_isFirst text m first] at taken
      cases taken
      exact ⟨m,first,rfl,rfl⟩
  · rintro ⟨m,first,rfl,rfl⟩
    exact takeExplicit?_of_isFirst text m first

end ReferenceSite.Anchor
