import ReferenceSite.Proofs.Reference.CommentSigns
import ReferenceSite.Proofs.Tables.ColumnLines
import ReferenceSite.Proofs.Tables.Concatenation

/-! Tables as they are read from headers, whatever the headers hold. Names are words, and the type of a
column stays on the line of that column. -/
namespace ReferenceSite
open ReferenceSite.Text

def IsWord (s : String) : Prop := s ≠ "" ∧ ∀ c ∈ s.toList, isWord c = true

structure Column.IsRead (c : Column) : Prop where
  named : IsWord c.name
  single : '\n' ∉ c.columnType.toList

/-- The name of a table is a word, if it has one. -/
structure Table.IsRead (t : Table) : Prop where
  letters : ∀ c ∈ t.name.toList, isWord c = true
  columns : ∀ c ∈ t.columns, c.IsRead

namespace LineKind

theorem leadingWord?_isWord (s word rest : List Char) (read : leadingWord? s = some (word,rest)) :
    IsWord (.ofList word) := by
  simp only [leadingWord?] at read
  split at read
  · cases read
  · rename_i filled
    cases read
    refine ⟨fun empty => filled ?_,fun c member => ?_⟩
    · rw [List.isEmpty_iff,← String.toList_ofList (l := s.takeWhile isWord),empty]
      rfl
    · rw [String.toList_ofList] at member
      exact List.mem_takeWhile_imp member

theorem tableName?_isWord (s name : List Char) (read : tableName? s = some name) : IsWord (.ofList name) := by
  obtain ⟨rest,_,read⟩ := Option.bind_eq_some_iff.mp read
  obtain ⟨⟨word,behind⟩,leading,read⟩ := Option.bind_eq_some_iff.mp read
  dsimp only at read
  split at read
  · cases read
    exact leadingWord?_isWord rest name behind leading
  · cases read

theorem column?_signs (s columnType name : List Char) (read : column? s = some (columnType,name)) :
    IsWord (.ofList name) ∧ ∀ c ∈ columnType, c ∈ s := by
  obtain ⟨rest,opened,read⟩ := Option.bind_eq_some_iff.mp read
  obtain ⟨behind,_,read⟩ := Option.bind_eq_some_iff.mp read
  obtain ⟨⟨word,more⟩,leading,read⟩ := Option.bind_eq_some_iff.mp read
  dsimp only at read
  split at read
  · cases read
  · cases read
    refine ⟨leadingWord?_isWord _ name more leading,fun c member => ?_⟩
    have inside := (List.takeWhile_sublist _).mem (mem_of_mem_trim c _ member)
    have shape : trimStart s = "C(".toList ++ rest := dropPrefix?_eq_some opened
    have kept : c ∈ trimStart s := shape ▸ List.mem_append_right _ inside
    exact (List.dropWhile_suffix isBlank).mem kept

/-- What a line says: a name that it declares is a word, and a type is a part of it. -/
theorem ofLine_signs (line : String) :
    (∀ name, ofLine line = .tableName name → IsWord name) ∧
    ∀ columnType name, ofLine line = .column columnType name →
      IsWord name ∧ ∀ c ∈ columnType.toList, c ∈ line.toList := by
  unfold ofLine
  dsimp only
  split
  · simp
  split
  · simp
  split
  · split
    · simp
    · simp
  split
  · rename_i name read
    refine ⟨?_,by simp⟩
    rintro _ ⟨⟩
    exact tableName?_isWord _ name read
  split
  · simp
  split
  · rename_i columnType name read
    refine ⟨by simp,?_⟩
    rintro _ _ ⟨⟩
    rw [String.toList_ofList]
    exact column?_signs _ columnType name read
  · simp

end LineKind

theorem stripContinuation_signs (raw : String) (c : Char) (member : c ∈ (stripContinuation raw).toList) :
    c ∈ raw.toList := by
  rw [stripContinuation,String.toList_ofList] at member
  have stripped := mem_of_mem_trimEnd c _ member
  cases slash : dropSuffix? ['\\'] (trimEnd raw.toList) with
  | none =>
    rw [slash,Option.getD_none] at stripped
    exact mem_of_mem_trimEnd c _ stripped
  | some front =>
    rw [slash,Option.getD_some] at stripped
    obtain ⟨back,found,rfl⟩ := Option.map_eq_some_iff.mp slash
    have shape := dropPrefix?_eq_some found
    refine mem_of_mem_trimEnd c _ (List.mem_reverse.mp ?_)
    rw [shape]
    exact List.mem_append_right _ (List.mem_reverse.mp stripped)

namespace TableDraft

/-- The type that is shown is a part of the declared one, or stands for a handle. -/
theorem declaredColumn_signs (dialect : Dialect) (columnType name : String) (c : Char)
    (member : c ∈ (declaredColumn dialect columnType name).columnType.toList) :
    c ∈ columnType.toList ∨ c ∈ "string".toList := by
  have shown (text : List Char) (inside : ∀ d ∈ text, d ∈ columnType.toList)
      (member : c ∈ (if String.ofList (trim text) ∈ dialect.handleTypes then "string"
        else String.ofList (trim text)).toList) : c ∈ columnType.toList ∨ c ∈ "string".toList := by
    split at member
    · exact .inr member
    · rw [String.toList_ofList] at member
      exact .inl (inside c (mem_of_mem_trim c text member))
  unfold declaredColumn at member
  cases found : optionalArgument? columnType.toList with
  | none =>
    rw [found] at member
    exact shown _ (fun _ inside => inside) member
  | some argument =>
    rw [found] at member
    obtain ⟨before,behind,shape⟩ := optionalArgument?_some _ argument found
    refine shown argument (fun d inside => ?_) member
    rw [shape]
    simp [inside]

theorem readLine_isRead (dialect : Dialect) (d next : TableDraft) (line : String)
    (single : '\n' ∉ line.toList) (isRead : d.table.IsRead)
    (read : d.readLine dialect (.ofLine line) = some next) : next.table.IsRead := by
  obtain ⟨tables,columns⟩ := LineKind.ofLine_signs line
  have commented (draft : TableDraft) (text : String) (before : draft.table.IsRead) :
      (draft.addComment text).table.IsRead := by
    unfold addComment
    split
    · exact ⟨before.letters,before.columns⟩
    · exact before
    · exact before
  cases kind : LineKind.ofLine line with
  | unrecognized =>
    rw [kind] at read
    cases read
  | tableName name =>
    rw [kind] at read
    cases read
    exact ⟨(tables name kind).2,isRead.columns⟩
  | column columnType name =>
    rw [kind] at read
    cases read
    obtain ⟨named,inside⟩ := columns columnType name kind
    refine ⟨isRead.letters,fun c member => ?_⟩
    rcases List.mem_append.mp member with earlier | last
    · exact isRead.columns c earlier
    · obtain rfl := List.mem_singleton.mp last
      refine ⟨named,fun feed => ?_⟩
      rcases declaredColumn_signs dialect columnType name '\n' feed with own | handle
      · exact single (inside '\n' own)
      · exact absurd handle (by decide)
  | comment text =>
    rw [kind] at read
    cases read
    exact commented d text isRead
  | columnComment name text =>
    rw [kind] at read
    cases read
    exact commented { d with target := .column name } text isRead
  | define | blank | parent =>
    rw [kind] at read
    cases read
    exact isRead

theorem read_isRead (dialect : Dialect) (lines : List String) (single : ∀ raw ∈ lines, '\n' ∉ raw.toList)
    (d after : TableDraft) (isRead : d.table.IsRead) (read : lines.foldlM (readRaw dialect) d = some after) :
    after.table.IsRead := by
  induction lines generalizing d with
  | nil =>
    cases read
    exact isRead
  | cons raw lines ih =>
    obtain ⟨own,later⟩ := List.forall_mem_cons.mp single
    rw [List.foldlM_cons] at read
    obtain ⟨next,step,rest⟩ := Option.bind_eq_some_iff.mp read
    have stripped : '\n' ∉ (stripContinuation raw).toList := fun feed => own (stripContinuation_signs raw '\n' feed)
    exact ih later next (readLine_isRead dialect d next _ stripped isRead step) rest

end TableDraft

namespace Header

theorem numbered_single (source : String) (line : Nat × String) (member : line ∈ numbered source) :
    '\n' ∉ line.2.toList := by
  obtain ⟨i,bound,rfl⟩ := List.mem_mapIdx.mp member
  rw [String.toList_ofList]
  exact fun feed => (Comment.mem_linesAfter [] source.toList (by simp) _ (List.getElem_mem bound) '\n' feed).2 rfl

theorem continuedRun_starts (lines : List (Nat × String)) : continuedRun lines <+: lines := by
  induction lines with
  | nil => exact List.prefix_rfl
  | cons line lines ih =>
    rw [continuedRun]
    split
    · exact List.cons_prefix_cons.mpr ⟨rfl,ih⟩
    · exact List.cons_prefix_cons.mpr ⟨rfl,List.nil_prefix⟩

theorem body?_lines (source definition : String) (body : List (Nat × String))
    (found : body? source definition = some body) : ∀ line ∈ body, line ∈ numbered source := by
  intro line member
  rcases body?_cases source definition with ⟨_,none⟩ | ⟨before,define,rest,whole,_,_,read⟩
  · rw [none] at found
    cases found
  · rw [read] at found
    split at found
    · cases found
      rw [whole]
      rcases List.mem_append.mp member with comment | own
      · have inside := (List.takeWhile_sublist _).mem (List.mem_reverse.mp comment)
        exact List.mem_append_left _ (List.mem_reverse.mp inside)
      · exact List.mem_append_right _ ((continuedRun_starts _).mem own)
    · cases found

theorem located_single (t : FileTree) (dialect : Dialect) (paths : List Path)
    (b : Path × List (Nat × String)) (member : b ∈ located t dialect paths) :
    ∀ raw ∈ b.2.map (·.2), '\n' ∉ raw.toList := by
  obtain ⟨path,_,inside⟩ := List.mem_flatMap.mp member
  split at inside
  · rename_i source _
    obtain ⟨body,listed,rfl⟩ := List.mem_map.mp inside
    obtain ⟨definition,_,found⟩ := List.mem_filterMap.mp listed
    intro raw read
    obtain ⟨line,own,rfl⟩ := List.mem_map.mp read
    exact numbered_single source line (body?_lines source definition body found line own)
  · cases inside

theorem parseFiles_isRead (t : FileTree) (dialect : Dialect) (paths : List Path) (found : HeaderTables)
    (read : parseFiles t dialect paths = .ok found) : ∀ table ∈ found.tables, table.IsRead := by
  have start : TableDraft.start.table.IsRead := by
    constructor
    · simp [TableDraft.start,Table.blank]
    · simp [TableDraft.start,Table.blank]
  have single := located_single t dialect paths
  have related := parseFiles_tables t dialect paths found read
  generalize located t dialect paths = bodies at single related
  generalize found.tables = tables at related
  induction related with
  | nil => simp
  | cons own _ ih =>
    obtain ⟨here,later⟩ := List.forall_mem_cons.mp single
    obtain ⟨draft,folded,rfl⟩ := (Table.ofBody_eq_ok _ dialect _ _).mp own
    exact List.forall_mem_cons.mpr ⟨TableDraft.read_isRead dialect _ here .start draft start folded,ih later⟩

end Header

/-- Readings of fixed headers are compared by what they yield. -/
theorem ok_of_toOption {ε α : Type} (e : Except ε α) (a : α) (same : e.toOption = some a) : e = .ok a := by
  cases e with
  | error fault => cases same
  | ok b => exact congrArg _ (Option.some.inj same)

end ReferenceSite
