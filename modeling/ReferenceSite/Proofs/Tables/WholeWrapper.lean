import ReferenceSite.Proofs.Tables.Declaration
import ReferenceSite.Proofs.Tables.OptionalType
import ReferenceSite.Proofs.Text.Brackets

/-! Types that are optional wrappers as a whole. A column takes off whatever stands between the first
place that opens a wrapper and the last closing bracket; that is the argument of the type itself exactly
if no wrapper is opened anywhere else. -/
namespace ReferenceSite
open ReferenceSite.Text

/-- Names of namespaces, each with two colons behind it, from the global one on or not. -/
def IsQualifier (s : List Char) : Prop :=
  ∃ names : List Word, s = names.flatMap (·.chars ++ "::".toList) ∨
    s = "::".toList ++ names.flatMap (·.chars ++ "::".toList)

/-- The type as a whole, but for white space around it, is a wrapper of the argument. -/
def IsOptional (type argument : List Char) : Prop :=
  ∃ qualifier, IsQualifier qualifier ∧ Balanced argument ∧
    trim type = qualifier ++ "Optional<".toList ++ argument ++ ['>']

/-- The name that a type is documented under. -/
def Dialect.shown (dialect : Dialect) (type : List Char) : String :=
  if String.ofList type ∈ dialect.handleTypes then "string" else .ofList type

/-- The column is optional if its type is so as a whole, and then has the type of the argument. -/
structure Column.Unwraps (c : Column) (dialect : Dialect) (type : List Char) : Prop where
  optional : c.optional = true ↔ ∃ argument, IsOptional type argument
  inner : ∀ argument, IsOptional type argument → c.columnType = dialect.shown (trim argument)
  outer : (¬ ∃ argument, IsOptional type argument) → c.columnType = dialect.shown (trim type)

theorem IsQualifier.letters {s : List Char} (qualifier : IsQualifier s) :
    ∀ c ∈ s, isWord c = true ∨ c = ':' := by
  have each (names : List Word) : ∀ c ∈ names.flatMap (·.chars ++ "::".toList),
      isWord c = true ∨ c = ':' := by
    intro c member
    obtain ⟨word,_,inside⟩ := List.mem_flatMap.mp member
    rcases List.mem_append.mp inside with letter | colon
    · exact .inl (word.letters c letter)
    · exact .inr (by simpa using colon)
  obtain ⟨names,rfl | rfl⟩ := qualifier
  · exact each names
  · intro c member
    rcases List.mem_append.mp member with colon | inside
    · exact .inr (by simpa using colon)
    · exact each names c inside

theorem Dialect.shown_balanced (dialect : Dialect) {type : List Char} (balanced : Balanced type) :
    Balanced (dialect.shown type).toList := by
  unfold Dialect.shown
  split
  · decide
  · rwa [String.toList_ofList]

theorem Column.Unwraps.balanced {c : Column} {dialect : Dialect} {type : List Char}
    (unwraps : c.Unwraps dialect type) (balanced : Balanced type) : Balanced c.columnType.toList := by
  by_cases optional : ∃ argument, IsOptional type argument
  · obtain ⟨argument,whole⟩ := optional
    have ⟨_,_,inside,_⟩ := whole
    rw [unwraps.inner argument whole]
    exact dialect.shown_balanced inside.trim
  · rw [unwraps.outer optional]
    exact dialect.shown_balanced balanced.trim

namespace TableDraft

theorem declaredColumn_eq (dialect : Dialect) (type name : String) :
    declaredColumn dialect type name = match optionalArgument? type.toList with
      | some argument => ⟨name,dialect.shown (trim argument),true,""⟩
      | none => ⟨name,dialect.shown (trim type.toList),false,""⟩ := by
  unfold declaredColumn Dialect.shown
  cases optionalArgument? type.toList <;> rfl

theorem optionalArgument?_isOptional {type argument : List Char} (whole : IsOptional type argument)
    (single : '\n' ∉ type) : optionalArgument? type = some argument := by
  obtain ⟨qualifier,qualified,_,shape⟩ := whole
  obtain ⟨indent,trailing,around,ahead,after⟩ := trim_between type
  have spelled : type = indent ++ qualifier ++ "Optional<".toList ++ (argument ++ '>' :: trailing) := by
    rw [around,shape]
    simp only [List.append_assoc,List.singleton_append]
  have unopened : '<' ∉ indent ++ qualifier := by
    have outside := qualifier_lacks qualifier qualified.letters '<' (by decide) (by decide)
    simp [ahead.unbracketed.1,outside]
  rw [spelled] at single ⊢
  refine optionalArgument?_opened _ argument trailing (fun inside => unopened ?_) ?_ after.unbracketed.2
  · exact inside.mem (by decide)
  · exact fun member => single (by simp [member])

theorem optionalArgument?_isSome_iff {type : List Char} (balanced : Balanced type) (single : '\n' ∉ type) :
    (optionalArgument? type).isSome ↔ "Optional<".toList <:+: type := by
  constructor
  · intro found
    obtain ⟨argument,found⟩ := Option.isSome_iff_exists.mp found
    obtain ⟨before,behind,shape⟩ := optionalArgument?_some type argument found
    exact ⟨before,argument ++ '>' :: behind,by rw [shape]; simp⟩
  · rintro ⟨before,behind,shape⟩
    have opened : type = before ++ "Optional".toList ++ '<' :: behind := by
      rw [← shape]
      simp only [List.append_assoc]
      rfl
    rw [opened] at balanced
    obtain ⟨argument,after,rfl⟩ := List.append_of_mem balanced.closes
    rw [Option.isSome_iff_ne_none]
    intro missing
    refine optionalArgument?_none type single missing ⟨before,argument,after,?_⟩
    rw [← shape]
    simp only [List.append_assoc]

/-- A column of a type on one line has the type's own argument, if there is one, exactly if a wrapper is
opened nowhere else; brackets are balanced then. Otherwise it has the text between the first place that
opens one and the last closing bracket. -/
theorem declaredColumn_unwraps_iff (dialect : Dialect) (type name : String)
    (balanced : Balanced type.toList) (single : '\n' ∉ type.toList) :
    ((declaredColumn dialect type name).Unwraps dialect type.toList ↔
      ("Optional<".toList <:+: type.toList → ∃ argument, IsOptional type.toList argument)) ∧
    ((declaredColumn dialect type name).Unwraps dialect type.toList →
      Balanced (declaredColumn dialect type name).columnType.toList) ∧
    ∀ before argument behind,
      type.toList = before ++ "Optional<".toList ++ (argument ++ '>' :: behind) →
      ¬ "Optional<".toList <:+: before → '>' ∉ behind →
      declaredColumn dialect type name = ⟨name,dialect.shown (trim argument),true,""⟩ := by
  refine ⟨⟨fun unwraps opened => ?_,fun whole => ?_⟩,fun unwraps => unwraps.balanced balanced,?_⟩
  · refine unwraps.optional.mp ?_
    obtain ⟨argument,found⟩ := Option.isSome_iff_exists.mp
      ((optionalArgument?_isSome_iff balanced single).mpr opened)
    rw [declaredColumn_eq,found]
  · by_cases optional : ∃ argument, IsOptional type.toList argument
    · have column (argument : List Char) (own : IsOptional type.toList argument) :
          declaredColumn dialect type name = ⟨name,dialect.shown (trim argument),true,""⟩ := by
        rw [declaredColumn_eq,optionalArgument?_isOptional own single]
      obtain ⟨argument,own⟩ := optional
      refine ⟨?_,fun other same => by rw [column other same],fun none => absurd ⟨argument,own⟩ none⟩
      rw [column argument own]
      exact ⟨fun _ => ⟨argument,own⟩,fun _ => rfl⟩
    · have missing : optionalArgument? type.toList = none := by
        rw [← Option.not_isSome_iff_eq_none,optionalArgument?_isSome_iff balanced single]
        exact fun opened => optional (whole opened)
      rw [declaredColumn_eq,missing]
      exact ⟨⟨nofun,fun own => absurd own optional⟩,fun argument own => absurd ⟨argument,own⟩ optional,
        fun _ => rfl⟩
  · intro before argument behind shape first last
    have inner : '\n' ∉ argument := fun member => single (by rw [shape]; simp [member])
    rw [declaredColumn_eq,shape,optionalArgument?_opened before argument behind first inner last]

/-! A wrapper around a list of wrappers, and a list of wrappers alone. -/

def wrappedList : String := "base::Optional<std::vector<Optional<int>>>"

def listOfWrapped : String := "std::vector<Optional<int>>"

theorem wrappedList_unwrapped : (Balanced wrappedList.toList ∧ '\n' ∉ wrappedList.toList) ∧
    IsOptional wrappedList.toList listOfWrapped.toList ∧
    (declaredColumn .standard wrappedList "ids").Unwraps .standard wrappedList.toList := by
  have own : IsOptional wrappedList.toList listOfWrapped.toList :=
    ⟨"base::".toList,⟨[⟨"base".toList,by decide,List.all_eq_true.mp (by decide)⟩],.inl rfl⟩,
      by decide,by decide⟩
  have unwraps := (declaredColumn_unwraps_iff .standard wrappedList "ids" (by decide) (by decide)).1
  exact ⟨⟨by decide,by decide⟩,own,unwraps.mpr fun _ => ⟨_,own⟩⟩

theorem listOfWrapped_torn : Balanced listOfWrapped.toList ∧
    declaredColumn .standard listOfWrapped "ids" = ⟨"ids","int>",true,""⟩ ∧
    ¬ (declaredColumn .standard listOfWrapped "ids").Unwraps .standard listOfWrapped.toList := by
  have torn : declaredColumn .standard listOfWrapped "ids" = ⟨"ids","int>",true,""⟩ := by decide +kernel
  refine ⟨by decide,torn,fun unwraps => ?_⟩
  have balanced := unwraps.balanced (by decide)
  rw [torn] at balanced
  exact absurd balanced (by decide)

end TableDraft
end ReferenceSite
