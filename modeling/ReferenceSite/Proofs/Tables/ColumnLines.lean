import ReferenceSite.Proofs.Tables.BodyReading

/-! Which lines of a body become columns, whatever else the body holds. A line that begins like a
column is one, under the word behind its first comma, unless a word on it belongs to a parent: then
it is passed over. -/
namespace ReferenceSite
open ReferenceSite.Text

namespace LineKind

def columnName? : LineKind → Option String
  | .column _ name => some name
  | _ => none

def beginsColumn (s : List Char) : Bool := (dropPrefix? "C(".toList (trimStart s)).isSome

/-- The word behind the first comma. -/
def nameText (s : List Char) : List Char :=
  (trimStart ((s.dropWhile (· ≠ ',')).drop 1)).takeWhile isWord

theorem beginsColumn_iff (s : List Char) :
    beginsColumn s = true ↔ ∃ rest, trimStart s = 'C' :: '(' :: rest := by
  rw [beginsColumn,Option.isSome_iff_exists]
  refine exists_congr fun rest => ⟨fun found => dropPrefix?_eq_some found,fun shape => ?_⟩
  rw [shape]
  exact dropPrefix?_append "C(".toList rest

/-- A line that begins like a column is read as one, or as the declaration of a parent. -/
theorem ofLine_beginsColumn (s : List Char) (begins : beginsColumn s = true) :
    ofLine (.ofList s) =
      if mentionsParent s then .parent
      else match column? s with
      | some (columnType,name) => .column (.ofList columnType) (.ofList name)
      | none => .unrecognized := by
  obtain ⟨rest,shape⟩ := (beginsColumn_iff s).mp begins
  have define : isDefine s = false := by simp [isDefine,shape,dropPrefix?]
  have nonempty : (trim s).isEmpty = false := by
    rw [trim,shape,← trimStart_cons 'C' ('(' :: rest) (by decide)]
    exact trim_cons_isEmpty 'C' _ (by decide)
  have comment : commentText? s = none := by simp [commentText?,shape,dropPrefix?]
  have unnamed : tableName? s = none := by simp [tableName?,shape,dropPrefix?]
  cases read : column? s <;>
    simp only [ofLine,String.toList_ofList,define,nonempty,comment,unnamed,read,Bool.false_eq_true,
      if_false]

theorem column?_name (s columnType name : List Char) (read : column? s = some (columnType,name)) :
    beginsColumn s = true ∧ name = nameText s := by
  unfold column? at read
  obtain ⟨rest,opened,read⟩ := Option.bind_eq_some_iff.mp read
  obtain ⟨behind,comma,read⟩ := Option.bind_eq_some_iff.mp read
  obtain ⟨⟨word,more⟩,leading,read⟩ := Option.bind_eq_some_iff.mp read
  have named : word = (trimStart behind).takeWhile isWord := by
    unfold leadingWord? at leading
    dsimp only at leading
    split at leading
    · cases leading
    · cases leading
      rfl
  have begins : beginsColumn s = true := by
    rw [beginsColumn,opened]
    rfl
  have ahead : s.dropWhile (· ≠ ',') = ',' :: behind := by
    have shape : trimStart s = 'C' :: '(' :: rest := dropPrefix?_eq_some opened
    have indent : ∀ c ∈ s.takeWhile isBlank, decide (c ≠ ',') = true := fun c member => by
      have blank := List.mem_takeWhile_imp member
      have other : c ≠ ',' := fun same => by
        rw [same] at blank
        exact absurd blank (by decide)
      simpa using other
    rw [← List.takeWhile_append_dropWhile (p := isBlank) (l := s),List.dropWhile_append_of_pos indent]
    show (trimStart s).dropWhile (· ≠ ',') = _
    rw [shape,List.dropWhile_cons_of_pos (by decide),List.dropWhile_cons_of_pos (by decide)]
    exact dropPrefix?_eq_some comma
  have same : word = nameText s := by
    rw [nameText,ahead]
    exact named
  dsimp only at read
  split at read
  · cases read
  · cases read
    exact ⟨begins,same⟩

theorem columnName?_plain (s : List Char) (plain : beginsColumn s = false) :
    (ofLine (.ofList s)).columnName? = none := by
  have none : column? s = none := by
    cases read : column? s with
    | none => rfl
    | some found =>
      obtain ⟨begins,_⟩ := column?_name s found.1 found.2 read
      rw [plain] at begins
      cases begins
  simp only [ofLine,String.toList_ofList,none]
  repeat' split
  all_goals rfl

/-- A line that is understood names a column exactly if it begins like one and mentions no parent. -/
theorem columnName?_ofLine (s : List Char) (known : ofLine (.ofList s) ≠ .unrecognized) :
    (ofLine (.ofList s)).columnName? =
      if beginsColumn s = true ∧ mentionsParent s = false then some (.ofList (nameText s)) else none := by
  by_cases begins : beginsColumn s = true
  · rw [ofLine_beginsColumn s begins] at known ⊢
    cases related : mentionsParent s with
    | true => simp [columnName?]
    | false =>
      cases read : column? s with
      | none => simp [related,read] at known
      | some found =>
        obtain ⟨_,named⟩ := column?_name s found.1 found.2 read
        simp [begins,columnName?,named]
  · rw [columnName?_plain s (by simpa using begins)]
    simp [begins]

end LineKind

/-- The lines that begin like columns, without their continuations. -/
def columnLines (lines : List String) : List (List Char) :=
  (lines.map fun raw => (stripContinuation raw).toList).filter LineKind.beginsColumn

theorem columnLines_cons (raw : String) (lines : List String) : columnLines (raw :: lines) =
    if LineKind.beginsColumn (stripContinuation raw).toList then
      (stripContinuation raw).toList :: columnLines lines
    else columnLines lines := by
  rw [columnLines,List.map_cons,List.filter_cons]
  rfl

namespace TableDraft

def columnNames (d : TableDraft) : List String := d.table.columns.map (·.name)

theorem addComment_columns (d : TableDraft) (text : String) :
    (d.addComment text).table.columns = d.table.columns := by
  unfold addComment
  split <;> rfl

theorem readLine_names (dialect : Dialect) (d next : TableDraft) (kind : LineKind)
    (read : d.readLine dialect kind = some next) :
    next.columnNames = d.columnNames ++ kind.columnName?.toList := by
  unfold columnNames
  cases kind with
  | comment text =>
    cases read
    rw [addComment_columns]
    exact (List.append_nil _).symm
  | columnComment name text =>
    cases read
    rw [addComment_columns]
    exact (List.append_nil _).symm
  | column columnType name =>
    cases read
    exact List.map_append
  | unrecognized => cases read
  | _ =>
    cases read
    exact (List.append_nil _).symm

/-- Names are only added, one for each line that begins like a column and mentions no parent. -/
theorem read_names (dialect : Dialect) (lines : List String) (d after : TableDraft)
    (read : lines.foldlM (readRaw dialect) d = some after) :
    after.columnNames = d.columnNames ++
      ((columnLines lines).filter (! LineKind.mentionsParent ·)).map (.ofList <| LineKind.nameText ·) := by
  induction lines generalizing d with
  | nil =>
    cases read
    simp [columnLines]
  | cons raw lines ih =>
    rw [List.foldlM_cons] at read
    obtain ⟨next,step,rest⟩ := Option.bind_eq_some_iff.mp read
    have known : LineKind.ofLine (stripContinuation raw) ≠ .unrecognized := fun unknown => by
      rw [readRaw,unknown] at step
      cases step
    have named := LineKind.columnName?_ofLine (stripContinuation raw).toList
    rw [String.ofList_toList] at named
    rw [ih next rest,readLine_names dialect d next _ step,named known,columnLines_cons]
    cases begins : LineKind.beginsColumn (stripContinuation raw).toList with
    | false => simp
    | true =>
      cases related : LineKind.mentionsParent (stripContinuation raw).toList <;> simp [related]

end TableDraft

/-- The columns of a table are those its lines begin like, in their order, but for the lines on which
some word belongs to a parent. -/
theorem Table.ofBody_columns (path : Path) (dialect : Dialect) (body : List (Nat × String))
    (table : Table) (read : Table.ofBody path dialect body = .ok table) :
    table.columns.map (·.name) =
      ((columnLines (body.map (·.2))).filter (! LineKind.mentionsParent ·)).map
        (.ofList <| LineKind.nameText ·) ∧
    (table.columns.map (·.name) =
        (columnLines (body.map (·.2))).map (.ofList <| LineKind.nameText ·) ↔
      ∀ line ∈ columnLines (body.map (·.2)), ∀ word ∈ line.splitOnP (! isWord ·),
        ¬ IsParentWord word) := by
  obtain ⟨draft,folded,rfl⟩ := (Table.ofBody_eq_ok path dialect body table).mp read
  have names := TableDraft.read_names dialect _ .start draft folded
  have start : TableDraft.start.columnNames = [] := rfl
  rw [start,List.nil_append] at names
  refine ⟨names,?_⟩
  have unrelated (line : List Char) : (! LineKind.mentionsParent line) = true ↔
      ∀ word ∈ line.splitOnP (! isWord ·), ¬ IsParentWord word := by
    rw [Bool.not_eq_true',← Bool.not_eq_true,LineKind.mentionsParent_iff]
    simp only [not_exists,not_and]
  simp only [← unrelated]
  show draft.columnNames = _ ↔ _
  rw [names]
  constructor
  · intro same
    have counted := congrArg List.length same
    rw [List.length_map,List.length_map] at counted
    exact List.length_filter_eq_length_iff.mp counted
  · intro each
    rw [List.filter_eq_self.mpr each]

/-! A column with the flag of a parent. -/

/-- Two columns, the second one with a flag. -/
def timed (flag : String) : List (Nat × String) :=
  [(1,"#define FOO_DEF(NAME, PARENT, C) \\"),(2,"  NAME(FooTable, \"foo\") \\"),
    (3,"  C(int64_t, ts) \\"),(4,"  C(int64_t, dur, Column::Flag::" ++ flag ++ ")")]

def instant : Column := ⟨"ts","int64_t",false,""⟩

def duration : Column := ⟨"dur","int64_t",false,""⟩

theorem timed_kept :
    Table.ofBody ⟨"foo.h"⟩ .standard (timed "kSorted") = .ok ⟨"FooTable","",[instant,duration]⟩ ∧
    ∀ line ∈ columnLines ((timed "kSorted").map (·.2)), ∀ word ∈ line.splitOnP (! isWord ·),
      ¬ IsParentWord word := by
  have read : Table.ofBody ⟨"foo.h"⟩ .standard (timed "kSorted") =
      .ok ⟨"FooTable","",[instant,duration]⟩ := by
    rw [Table.ofBody_eq_ok,← Option.map_eq_some_iff]
    decide +kernel
  obtain ⟨_,kept⟩ := Table.ofBody_columns _ _ _ _ read
  exact ⟨read,kept.mp (by decide +kernel)⟩

theorem timed_lost : Table.ofBody ⟨"foo.h"⟩ .standard (timed "PARENT") =
      .ok ⟨"FooTable","",[instant]⟩ ∧
    (columnLines ((timed "PARENT").map (·.2))).map (String.ofList <| LineKind.nameText ·) =
      ["ts","dur"] := by
  refine ⟨?_,by decide +kernel⟩
  rw [Table.ofBody_eq_ok,← Option.map_eq_some_iff]
  decide +kernel

end ReferenceSite
