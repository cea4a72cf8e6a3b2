import ReferenceSite.Proofs.Text.Parts
import ReferenceSite.Proto.Pool

/-! Two ways to take the package off the name of a type. The one for names that are referred to asks for
a dot behind the package; the one for the types themselves does not, and so it also cuts a part of a name
in two that only begins like the last part of the package. Everywhere else the two agree. -/
namespace ReferenceSite
open ReferenceSite.Text ReferenceSite.Proto

/-- Parts with a dot between each two, none of them empty. -/
def IsDotted (name : String) : Prop := [] ∉ name.toList.splitOn '.'

instance (name : String) : Decidable (IsDotted name) := inferInstanceAs (Decidable (_ ∉ _))

/-- The path behind the package and a dot or, where there is none, the whole name. -/
def Leaves (qualifiedName package left : String) : Prop :=
  (left ≠ "" ∧ qualifiedName = package ++ "." ++ left) ∨
    (left = qualifiedName ∧ ∀ path, path ≠ "" → qualifiedName ≠ package ++ "." ++ path)

/-- The name goes on with something else than a dot behind the package. -/
def Cuts (qualifiedName package : String) : Prop :=
  package ≠ "" ∧ ∃ c rest, c ≠ '.' ∧ qualifiedName.toList = package.toList ++ c :: rest

theorem behindPackage_iff (q package : String) (path : List Char) :
    (dropPrefix? package.toList q.toList).bind (dropPrefix? ['.']) = some path ↔
      q.toList = package.toList ++ '.' :: path := by
  rw [Option.bind_eq_some_iff]
  constructor
  · rintro ⟨rest,behind,dot⟩
    rw [(dropPrefix?_eq_some_iff _ _ _).mp behind,(dropPrefix?_eq_some_iff _ _ _).mp dot]
    rfl
  · intro split
    exact ⟨'.' :: path,(dropPrefix?_eq_some_iff _ _ _).mpr split,(dropPrefix?_eq_some_iff _ _ _).mpr rfl⟩

section
variable {q package : String} (dotted : IsDotted q)
include dotted

theorem IsDotted.onward (front rest : List Char) (split : q.toList = front ++ '.' :: rest) :
    rest ≠ [] ∧ rest.head? ≠ some '.' := by
  rw [IsDotted,split,List.splitOn_append_cons_self] at dotted
  constructor
  · rintro rfl
    exact dotted (by simp)
  · intro again
    obtain ⟨more,rfl⟩ := List.head?_eq_some_iff.mp again
    refine dotted (List.mem_append_right _ ?_)
    rw [← List.nil_append ('.' :: more),List.splitOn_append_cons_self]
    simp

/-- Behind a package come a dot and a path, another sign, or nothing. -/
theorem IsDotted.cases (rest : List Char) (split : q.toList = package.toList ++ rest) :
    rest = [] ∨ (∃ path, rest = '.' :: path ∧ path ≠ [] ∧ path.head? ≠ some '.') ∨ ∃ c more, c ≠ '.' ∧ rest = c :: more := by
  cases rest with
  | nil => exact .inl rfl
  | cons c rest =>
    by_cases dot : c = '.'
    · subst dot
      exact .inr (.inl ⟨rest,rfl,dotted.onward _ rest split⟩)
    · exact .inr (.inr ⟨c,rest,dot,rfl⟩)

theorem nameInPackage_leaves : Leaves q package (nameInPackage q package) := by
  have other (path : String) (whole : q = package ++ "." ++ path) : q.toList = package.toList ++ '.' :: path.toList := by
    simp [whole]
  unfold nameInPackage
  split
  · rename_i top
    refine .inr ⟨rfl,fun path _ whole => ?_⟩
    -- A name that begins with a dot has an empty part ahead of it.
    have split := other path whole
    rw [top] at split
    rw [IsDotted,split,List.splitOn_append_cons_self] at dotted
    exact dotted (by simp)
  · split
    · rename_i path found
      have split := (behindPackage_iff q package path).mp found
      refine .inl ⟨fun empty => (dotted.onward _ _ split).1 (String.ofList_eq_empty_iff.mp empty),?_⟩
      rw [← String.toList_inj,split]
      simp
    · rename_i none
      refine .inr ⟨rfl,fun path _ whole => ?_⟩
      rw [(behindPackage_iff q package _).mpr (other path whole)] at none
      cases none

theorem withoutPackage_agrees (kept : ¬ Cuts q package) : withoutPackage package q = nameInPackage q package := by
  unfold withoutPackage nameInPackage
  by_cases top : package = ""
  · simp [top,dropPrefix?]
  · cases behind : dropPrefix? package.toList q.toList with
    | none => simp [top]
    | some rest =>
      have split := (dropPrefix?_eq_some_iff _ _ _).mp behind
      rcases dotted.cases rest split with rfl | ⟨path,rfl,filled,undotted⟩ | ⟨c,more,other,rfl⟩
      · simp [top,dropPrefix?]
      · have front : path.dropWhile (· = '.') = path := dropWhile_kept _ _ fun c first => by
          have other : c ≠ '.' := fun same => undotted (same ▸ first)
          simpa using other
        simp [top,dropPrefix?,front,filled]
      · exact absurd ⟨top,c,more,other,split⟩ kept

end

theorem withoutPackage_cut (q package : String) (named : package ≠ "") (c : Char) (rest : List Char) (other : c ≠ '.')
    (split : q.toList = package.toList ++ c :: rest) :
    withoutPackage package q = .ofList (c :: rest) ∧ nameInPackage q package = q := by
  have behind := (dropPrefix?_eq_some_iff package.toList q.toList (c :: rest)).mpr split
  constructor
  · simp [withoutPackage,behind,named,other]
  · simp [nameInPackage,behind,named,dropPrefix?,Ne.symm other]

theorem localName_last (fullName : String) :
    some (localName fullName).toList = (fullName.toList.splitOn '.').getLast? := by
  rw [localName,String.toList_ofList]
  by_cases dotted : '.' ∈ fullName.toList.reverse
  · obtain ⟨last,front,split,outside⟩ := List.eq_append_cons_of_mem dotted
    have named : fullName.toList = front.reverse ++ '.' :: last.reverse := by
      simpa using congrArg List.reverse split
    have own : last.reverse.splitOn '.' = [last.reverse] := List.splitOn_eq_singleton (by simpa using outside)
    rw [split,takeWhile_upTo '.' last front outside,named,List.splitOn_append_cons_self,own,List.getLast?_append]
    rfl
  · have kept : fullName.toList.reverse.takeWhile (· ≠ '.') = fullName.toList.reverse :=
      List.takeWhile_eq_self_iff.mpr (by simpa using List.forall_mem_ne'.mpr dotted)
    rw [kept,List.reverse_reverse,List.splitOn_eq_singleton (by simpa using dotted)]
    rfl

/-- The name of a type is as the names that refer to it have it, that is, the path behind its package,
exactly if the package does not cut a part of it in two. The local name is its last part in any case. -/
theorem TypeDef.new_fullName_iff (q package file comment : String) (body : TypeBody) (dotted : IsDotted q) :
    Leaves q package (nameInPackage q package) ∧
    ((new q package file comment body).fullName = nameInPackage q package ↔ ¬ Cuts q package) ∧
    (∀ c rest, package ≠ "" → c ≠ '.' → q.toList = package.toList ++ c :: rest →
      (new q package file comment body).fullName = .ofList (c :: rest) ∧ nameInPackage q package = q) ∧
    some (new q package file comment body).name.toList =
      ((new q package file comment body).fullName.toList.splitOn '.').getLast? := by
  refine ⟨nameInPackage_leaves dotted,⟨?_,withoutPackage_agrees dotted⟩,?_,localName_last _⟩
  · rintro same ⟨named,c,rest,other,split⟩
    obtain ⟨cut,whole⟩ := withoutPackage_cut q package named c rest other split
    have shorter := congrArg String.toList (cut.symm.trans (same.trans whole))
    rw [String.toList_ofList,split] at shorter
    exact named (String.toList_eq_nil_iff.mp (List.append_left_eq_self.mp shorter.symm))
  · intro c rest named other split
    exact withoutPackage_cut q package named c rest other split

theorem nested_named : IsDotted "a.b.C.D" ∧ ¬ Cuts "a.b.C.D" "a.b" ∧
    (TypeDef.new "a.b.C.D" "a.b" "t.proto" "" (.message [])).fullName = nameInPackage "a.b.C.D" "a.b" ∧
    nameInPackage "a.b.C.D" "a.b" = "C.D" := by
  have dotted : IsDotted "a.b.C.D" := by decide
  have kept : ¬ Cuts "a.b.C.D" "a.b" := by
    rintro ⟨_,c,rest,other,split⟩
    have behind := (dropPrefix?_eq_some_iff "a.b".toList "a.b.C.D".toList _).mpr split
    have dot : dropPrefix? "a.b".toList "a.b.C.D".toList = some ".C.D".toList := by decide
    rw [dot] at behind
    exact other (List.cons.inj (Option.some.inj behind)).1.symm
  obtain ⟨_,agrees,_⟩ := TypeDef.new_fullName_iff "a.b.C.D" "a.b" "t.proto" "" (.message []) dotted
  exact ⟨dotted,kept,agrees.mpr kept,by decide⟩

/-- The package of a neighbour is taken for one, though it ends inside of a part of the name. -/
theorem neighbour_cut : IsDotted "a.bc.D" ∧
    (TypeDef.new "a.bc.D" "a.b" "t.proto" "" (.message [])).fullName = "c.D" ∧
    nameInPackage "a.bc.D" "a.b" = "a.bc.D" ∧ ¬ Leaves "a.bc.D" "a.b" "c.D" := by
  refine ⟨by decide,by decide,by decide,?_⟩
  rintro (⟨_,whole⟩ | ⟨whole,_⟩)
  · exact absurd whole (by decide)
  · exact absurd whole (by decide)

end ReferenceSite
