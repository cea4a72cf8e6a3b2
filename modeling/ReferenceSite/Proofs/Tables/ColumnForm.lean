import ReferenceSite.Proofs.Tables.ColumnLines
import ReferenceSite.Proofs.Tables.LineGrammar
import ReferenceSite.Proofs.Text.Brackets

/-! Declarations of columns whose types may have arguments. The type ends at its first comma for the
reader, also inside of brackets; a declaration is read as it is written, or refused, exactly if no word
stands behind that comma and no name of a parent on the line. -/
namespace ReferenceSite
open ReferenceSite.Text

/-- A column as it is written, with further arguments or without. -/
structure ColumnForm where
  indent : Padding
  type : List Char
  nonempty : type ≠ []
  balanced : Balanced type
  /-- Commas separate the arguments of the type. -/
  enclosed : Enclosed ',' type
  gap : Padding
  name : Word
  space : Padding
  more : List Char
  ends : more.head? = some ')' ∨ more.head? = some ','

namespace ColumnForm

def text (c : ColumnForm) : List Char :=
  c.indent.chars ++ "C(".toList ++ (c.type ++ ',' ::
    (c.gap.chars ++ (c.name.chars ++ (c.space.chars ++ c.more))))

/-- The declaration is read with the type and the name that it has, or not at all. -/
def ReadWhole (c : ColumnForm) : Prop :=
  LineKind.ofLine (.ofList c.text) = .column (.ofList (trim c.type)) (.ofList c.name.chars) ∨
    LineKind.ofLine (.ofList c.text) = .unrecognized

theorem ofLine_text (c : ColumnForm) : LineKind.ofLine (.ofList c.text) =
    if LineKind.mentionsParent c.text then .parent
    else match LineKind.column? c.text with
    | some (columnType,name) => .column (.ofList columnType) (.ofList name)
    | none => .unrecognized := by
  have opened := (dropPrefix?_trimStart "C(".toList c.text _ (by decide)
    ((stops_cons _ _ _).mpr (by decide))).mpr ⟨c.indent.chars,rfl,c.indent.blank⟩
  refine LineKind.ofLine_beginsColumn c.text ?_
  rw [LineKind.beginsColumn,opened]
  rfl

/-- The name is what stands behind the comma that ends the type. -/
theorem leadingWord?_name (c : ColumnForm) :
    LineKind.leadingWord? (trimStart (c.gap.chars ++ (c.name.chars ++ (c.space.chars ++ c.more)))) =
      some (c.name.chars,c.space.chars ++ c.more) := by
  have start : Stops isBlank (c.name.chars ++ (c.space.chars ++ c.more)) := by
    obtain ⟨first,rest,named,solid⟩ := c.name.head
    rw [named]
    exact (stops_cons _ _ _).mpr solid
  have stops : Stops isWord (c.space.chars ++ c.more) := by
    intro sign first
    cases space : c.space.chars with
    | nil =>
      rw [space,List.nil_append] at first
      rcases c.ends with closed | comma
      · obtain rfl : ')' = sign := Option.some.inj (closed.symm.trans first)
        decide
      · obtain rfl : ',' = sign := Option.some.inj (comma.symm.trans first)
        decide
    | cons b rest =>
      rw [space] at first
      obtain rfl : b = sign := Option.some.inj first
      exact not_isWord_of_blank b (c.space.blank b (by simp [space]))
  rw [trimStart_past _ _ c.gap.blank start]
  exact (LineKind.leadingWord?_eq_some_iff _ _ _).mpr ⟨rfl,c.name.nonempty,c.name.letters,stops⟩

theorem column?_whole (c : ColumnForm) (undivided : ',' ∉ c.type) :
    LineKind.column? c.text = some (trim c.type,c.name.chars) := by
  rw [text,LineKind.column?_comma _ _ _ c.indent.blank c.nonempty undivided,leadingWord?_name]
  rfl

/-- What is read of a type that has commas. -/
theorem column?_torn (c : ColumnForm) (before behind : List Char) (split : c.type = before ++ ',' :: behind)
    (first : ',' ∉ before) : LineKind.column? c.text =
      (LineKind.leadingWord? (trimStart (behind ++ ',' ::
        (c.gap.chars ++ (c.name.chars ++ (c.space.chars ++ c.more)))))).map
          fun word => (trim before,word.1) := by
  have filled : before ≠ [] := by
    rintro rfl
    have enclosed := c.enclosed
    rw [split] at enclosed
    exact absurd enclosed.open (by simp)
  have spelled : c.text = c.indent.chars ++ "C(".toList ++ (before ++ ',' :: (behind ++ ',' ::
      (c.gap.chars ++ (c.name.chars ++ (c.space.chars ++ c.more))))) := by
    rw [text,split]
    simp only [List.append_assoc,List.cons_append]
  rw [spelled]
  exact LineKind.column?_comma _ _ _ c.indent.blank filled first

/-- No word that is read there goes beyond the type. -/
theorem stops_behind (behind rest : List Char) :
    Stops isWord (trimStart (behind ++ ',' :: rest)) ↔ Stops isWord (trimStart behind) := by
  cases start : trimStart behind with
  | nil =>
    have blank : Blanks behind := List.dropWhile_eq_nil_iff.mp start
    rw [trimStart_past behind _ blank ((stops_cons isBlank ',' _).mpr (by decide)),stops_cons]
    exact ⟨fun _ => stops_nil _,fun _ => by decide⟩
  | cons c more =>
    obtain ⟨indent,rfl,blank,solid⟩ := (trimStart_eq_iff behind (c :: more)).mp start
    have onward : Stops isBlank (c :: more ++ ',' :: rest) :=
      (stops_cons _ _ _).mpr ((stops_cons _ _ _).mp solid)
    rw [List.append_assoc,trimStart_past indent _ blank onward,List.cons_append,stops_cons,stops_cons]

/-- Of a type that has commas only the piece ahead of the first one is read. -/
theorem readWhole_divided (c : ColumnForm) (before behind : List Char)
    (split : c.type = before ++ ',' :: behind) (first : ',' ∉ before)
    (unrelated : LineKind.mentionsParent c.text = false) :
    c.ReadWhole ↔ Stops isWord (trimStart behind) := by
  rw [ReadWhole,ofLine_text,if_neg (by simp [unrelated]),c.column?_torn before behind split first]
  cases read : LineKind.leadingWord? (trimStart (behind ++ ',' ::
      (c.gap.chars ++ (c.name.chars ++ (c.space.chars ++ c.more))))) with
  | none =>
    rw [LineKind.leadingWord?_eq_none_iff,stops_behind] at read
    simp [read]
  | some word =>
    have word : ¬ Stops isWord (trimStart behind) := by
      rw [← stops_behind,← LineKind.leadingWord?_eq_none_iff,read]
      nofun
    have torn : String.ofList (trim before) ≠ String.ofList (trim c.type) := fun same => by
      have comma := mem_trim ',' c.type (by decide) (by simp [split])
      rw [← String.ofList_inj.mp same] at comma
      exact first (mem_of_mem_trim ',' before comma)
    simp [word,torn]

theorem readWhole_iff (c : ColumnForm) : c.ReadWhole ↔
    (∀ word ∈ c.text.splitOnP (! isWord ·), ¬ IsParentWord word) ∧
    ∀ before behind, c.type = before ++ ',' :: behind → ',' ∉ before →
      Stops isWord (trimStart behind) := by
  have named : (∀ word ∈ c.text.splitOnP (! isWord ·), ¬ IsParentWord word) ↔
      LineKind.mentionsParent c.text = false := by
    rw [← Bool.not_eq_true,LineKind.mentionsParent_iff]
    simp only [not_exists,not_and]
  rw [named]
  cases unrelated : LineKind.mentionsParent c.text with
  | true => simp [ReadWhole,ofLine_text,unrelated]
  | false =>
    rw [eq_self,true_and]
    by_cases divided : ',' ∈ c.type
    · obtain ⟨before,behind,split,first⟩ := List.eq_append_cons_of_mem divided
      rw [c.readWhole_divided before behind split first unrelated]
      refine ⟨fun stops front rest other outside => ?_,fun all => all before behind split first⟩
      rwa [← behind_first ',' (split.symm.trans other) first outside]
    · have whole : c.ReadWhole := by
        rw [ReadWhole,ofLine_text,if_neg (by simp [unrelated]),c.column?_whole divided]
        exact .inl rfl
      refine ⟨fun _ before behind split => ?_,fun _ => whole⟩
      simp [split] at divided

/-- A type with two arguments. -/
def keyedMap : ColumnForm where
  indent := (indented 1).indent
  type := "std::map<int, Foo>".toList
  nonempty := by decide
  balanced := by decide
  enclosed := by decide
  gap := (indented 1).padding
  name := word "x" (by decide) (by decide)
  space := ended.toPadding
  more := ")".toList
  ends := by decide

example : keyedMap.text = "  C(std::map<int, Foo>, x)".toList := by decide

theorem keyedMap_torn :
    LineKind.ofLine (.ofList keyedMap.text) = .column "std::map<int" "Foo" ∧ ¬ keyedMap.ReadWhole := by
  have torn : LineKind.ofLine (.ofList keyedMap.text) = .column "std::map<int" "Foo" := by
    decide +kernel
  refine ⟨torn,?_⟩
  rw [ReadWhole,torn]
  decide

end ColumnForm
end ReferenceSite
