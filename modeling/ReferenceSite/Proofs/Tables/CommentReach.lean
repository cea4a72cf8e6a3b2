import Mathlib.Data.List.Basic
import Mathlib.Data.List.Induction
import ReferenceSite.Proofs.Tables.ColumnLines

/-! Where the comments of a body end up. What a plain comment is about is decided by the last line
ahead of it that is a comment on a column, the table's name, a parent or a column. So a column gets
what was said on its name before it, and the table what stands behind its name, behind a parent or
behind none of these lines. -/
namespace ReferenceSite

namespace LineKind

def isColumn : LineKind → Bool
  | .column .. => true
  | _ => false

/-- Whether the line decides what the plain comments behind it are about. -/
def directs : LineKind → Bool
  | .columnComment .. | .tableName _ | .parent | .column .. => true
  | _ => false

def director? (before : List LineKind) : Option LineKind := (before.filter directs).getLast?

/-- What a line tells about a column, behind other lines: a comment on it, or a plain comment that
continues one. -/
def noted? (column : String) (before : List LineKind) : LineKind → Option String
  | .columnComment name text => if name = column then some text else none
  | .comment text =>
    match director? before with
    | some (.columnComment name _) => if name = column then some text else none
    | _ => none
  | _ => none

def described? (before : List LineKind) : LineKind → Option String
  | .comment text =>
    match director? before with
    | none | some (.tableName _) | some .parent => some text
    | _ => none
  | _ => none

/-- What a line tells about the table ahead of all columns, outside of comments on single ones. -/
def leading? (before : List LineKind) : LineKind → Option String
  | .comment text =>
    match director? before with
    | some (.columnComment ..) => none
    | _ => if before.any isColumn then none else some text
  | _ => none

/-- What a line tells about the table behind a column, where a name or a parent was declared after it. -/
def belated? (before : List LineKind) : LineKind → Option String
  | .comment text =>
    match director? before with
    | some (.tableName _) | some .parent => if before.any isColumn then some text else none
    | _ => none
  | _ => none

/-- What lines tell, each of them behind those before it. -/
def told (tells : List LineKind → LineKind → Option String) (lines : List LineKind) : List String :=
  lines.zipIdx.filterMap fun (line,i) => tells (lines.take i) line

/-- Texts as a comment holds them. -/
def inLines (texts : List String) : String := .join (texts.map (· ++ "\n"))

theorem director?_concat (before : List LineKind) (line : LineKind) :
    director? (before ++ [line]) = if line.directs then some line else director? before := by
  cases directing : line.directs <;> simp [director?,directing]

theorem told_concat (tells : List LineKind → LineKind → Option String) (lines : List LineKind)
    (line : LineKind) : told tells (lines ++ [line]) = told tells lines ++ (tells lines line).toList := by
  have earlier : lines.zipIdx.filterMap (fun (other,i) => tells ((lines ++ [line]).take i) other) =
      told tells lines := by
    refine List.filterMap_congr fun (other,i) member => ?_
    have inside : i < lines.length := by
      have := List.snd_lt_of_mem_zipIdx member
      omega
    simp only [List.take_append_of_le_length inside.le]
  rw [told,List.zipIdx_append,List.filterMap_append,earlier]
  cases here : tells lines line <;> simp [here]

theorem inLines_append (first second : List String) :
    inLines (first ++ second) = inLines first ++ inLines second := by
  apply String.toList_injective
  simp [inLines,String.toList_join]

def targetBehind (before : List LineKind) : CommentTarget :=
  match director? before with
  | some (.columnComment name _) => .column name
  | some (.column ..) => .dropped
  | _ => .table

theorem targetBehind_concat (before : List LineKind) (line : LineKind) : targetBehind (before ++ [line]) =
    match line with
    | .columnComment name _ => .column name
    | .column .. => .dropped
    | .tableName _ | .parent => .table
    | _ => targetBehind before := by
  rw [targetBehind,director?_concat]
  cases line <;> rfl

theorem director?_directs {before : List LineKind} {line : LineKind} (last : director? before = some line) :
    line.directs = true :=
  (List.mem_filter.mp (List.mem_of_getLast? last)).2

theorem noted?_comment (column : String) (before : List LineKind) (text : String) :
    noted? column before (.comment text) =
      if targetBehind before = .column column then some text else none := by
  rw [noted?,targetBehind]
  split <;> split <;> simp_all

theorem described?_comment (before : List LineKind) (text : String) :
    described? before (.comment text) = if targetBehind before = .table then some text else none := by
  rw [described?,targetBehind]
  cases last : director? before with
  | none => rfl
  | some line =>
    have directing := director?_directs last
    cases line <;> first | rfl | cases directing

theorem director?_ne_none {before : List LineKind} (column : before.any isColumn = true) :
    director? before ≠ none := by
  obtain ⟨line,member,isColumn⟩ := List.any_eq_true.mp column
  have directing : line.directs = true := by
    cases line with
    | column columnType name => rfl
    | _ => cases isColumn
  intro none
  have empty := List.getLast?_eq_none_iff.mp none
  exact absurd (List.mem_filter.mpr ⟨member,directing⟩) (by simp [empty])

theorem any_isColumn {before : List LineKind} {columnType name : String}
    (last : director? before = some (.column columnType name)) : before.any isColumn = true :=
  List.any_eq_true.mpr ⟨_,(List.mem_filter.mp (List.mem_of_getLast? last)).1,rfl⟩

theorem described?_parts (before : List LineKind) (line : LineKind) : (described? before line).toList =
    (leading? before line).toList ++ (belated? before line).toList := by
  cases line with
  | comment text =>
    rw [described?,leading?,belated?]
    cases last : director? before with
    | none =>
      cases column : before.any isColumn with
      | false => rfl
      | true => exact absurd last (director?_ne_none column)
    | some line =>
      cases line with
      | tableName name => cases before.any isColumn <;> rfl
      | parent => cases before.any isColumn <;> rfl
      | columnComment name text => rfl
      | column columnType name =>
        rw [any_isColumn last]
        rfl
      | _ => exact absurd (director?_directs last) (by simp [directs])
  | _ => rfl

theorem told_parts (lines : List LineKind) : (inLines (told described? lines)).length =
    (inLines (told leading? lines)).length + (inLines (told belated? lines)).length := by
  induction lines using List.reverseRecOn with
  | nil => rfl
  | append_singleton lines line ih =>
    simp only [told_concat,inLines_append,String.length_append,ih,described?_parts]
    omega

theorem told_leading {lines : List LineKind} (early : told belated? lines = []) :
    told described? lines = told leading? lines := by
  induction lines using List.reverseRecOn with
  | nil => rfl
  | append_singleton lines line ih =>
    rw [told_concat,List.append_eq_nil_iff] at early
    rw [told_concat,told_concat,ih early.1,described?_parts,early.2,List.append_nil]

theorem inLines_eq_empty {texts : List String} (none : (inLines texts).length = 0) : texts = [] := by
  cases texts with
  | nil => rfl
  | cons text texts =>
    have first := congrArg String.length (inLines_append [text] texts)
    simp [inLines] at first none

end LineKind

namespace TableDraft

theorem addComment_target (d : TableDraft) (text : String) : (d.addComment text).target = d.target := by
  unfold addComment
  split <;> simp [*]

theorem addComment_comment (d : TableDraft) (text : String) : (d.addComment text).table.comment =
    d.table.comment ++ if d.target = .table then text ++ "\n" else "" := by
  cases target : d.target <;> simp [addComment,target,String.append_assoc]

theorem addComment_commentOn (d : TableDraft) (text column : String) : (d.addComment text).commentOn column =
    d.commentOn column ++ if d.target = .column column then text ++ "\n" else "" := by
  cases target : d.target with
  | column name =>
    rw [commentOn_addComment d name text target]
    by_cases same : column = name
    · simp [same,String.append_assoc]
    · have other : name ≠ column := fun equal => same equal.symm
      simp [same,other]
  | _ => simp [addComment,target,commentOn]

/-- The column that is the next one behind some of the lines, with what they say on its name. -/
def DeclaredBy (lines : List LineKind) (i : Nat) (column : Column) : Prop :=
  ∃ before columnType after, lines = before ++ .column columnType column.name :: after ∧
    (before.filter LineKind.isColumn).length = i ∧
    column.comment = LineKind.inLines (LineKind.told (LineKind.noted? column.name) before)

/-- What is known of a draft into which the lines were read. -/
structure Follows (d : TableDraft) (lines : List LineKind) : Prop where
  target : d.target = LineKind.targetBehind lines
  notes (column : String) : d.commentOn column =
    LineKind.inLines (LineKind.told (LineKind.noted? column) lines)
  description : d.table.comment = LineKind.inLines (LineKind.told LineKind.described? lines)
  count : d.table.columns.length = (lines.filter LineKind.isColumn).length
  columns (i : Nat) (column : Column) : d.table.columns[i]? = some column → DeclaredBy lines i column

theorem DeclaredBy.behind {lines : List LineKind} {i : Nat} {column : Column}
    (declared : DeclaredBy lines i column) (line : LineKind) : DeclaredBy (lines ++ [line]) i column := by
  obtain ⟨before,columnType,after,rfl,place,comment⟩ := declared
  exact ⟨before,columnType,after ++ [line],by simp,place,comment⟩

theorem start_follows : start.Follows [] where
  target := rfl
  notes _ := rfl
  description := rfl
  count := rfl
  columns i column found := by simp [start,Table.blank] at found

/-- A line that is no column adds to the comments what it tells. -/
theorem Follows.further {d next : TableDraft} {lines : List LineKind} (follows : d.Follows lines)
    (line : LineKind) (plain : line.isColumn = false)
    (columns : next.table.columns = d.table.columns)
    (target : next.target = LineKind.targetBehind (lines ++ [line]))
    (notes : ∀ column, next.commentOn column =
      d.commentOn column ++ LineKind.inLines (LineKind.noted? column lines line).toList)
    (description : next.table.comment =
      d.table.comment ++ LineKind.inLines (LineKind.described? lines line).toList) :
    next.Follows (lines ++ [line]) where
  target := target
  notes column := by rw [notes,follows.notes,LineKind.told_concat,LineKind.inLines_append]
  description := by rw [description,follows.description,LineKind.told_concat,LineKind.inLines_append]
  count := by rw [columns,follows.count]; simp [plain]
  columns i column found := (follows.columns i column (columns ▸ found)).behind line

theorem Follows.comment {d : TableDraft} {lines : List LineKind} (follows : d.Follows lines)
    (text : String) : (d.addComment text).Follows (lines ++ [.comment text]) := by
  refine follows.further (.comment text) rfl (addComment_columns d text) ?_ (fun column => ?_) ?_
  · rw [addComment_target,LineKind.targetBehind_concat,follows.target]
  · rw [addComment_commentOn,LineKind.noted?_comment,follows.target]
    split <;> simp [LineKind.inLines]
  · rw [addComment_comment,LineKind.described?_comment,follows.target]
    split <;> simp [LineKind.inLines]

theorem Follows.columnComment {d : TableDraft} {lines : List LineKind} (follows : d.Follows lines)
    (name text : String) : ({ d with target := .column name }.addComment text).Follows
      (lines ++ [LineKind.columnComment name text]) := by
  refine follows.further (.columnComment name text) rfl (addComment_columns _ text) ?_ (fun column => ?_) ?_
  · rw [addComment_target,LineKind.targetBehind_concat]
  · rw [addComment_commentOn,LineKind.noted?]
    by_cases same : name = column <;> simp [same,LineKind.inLines,commentOn]
  · rw [addComment_comment]
    simp [LineKind.described?,LineKind.inLines]

theorem Follows.column {d : TableDraft} {lines : List LineKind} (follows : d.Follows lines)
    (dialect : Dialect) (columnType name : String) :
    (d.addColumn dialect columnType name).Follows (lines ++ [.column columnType name]) where
  target := by rw [LineKind.targetBehind_concat]; rfl
  notes column := by
    rw [LineKind.told_concat,LineKind.inLines_append,← follows.notes]
    exact (String.append_empty).symm
  description := by
    rw [LineKind.told_concat,LineKind.inLines_append,← follows.description]
    exact (String.append_empty).symm
  count := by
    rw [List.filter_append,List.length_append,← follows.count]
    exact List.length_append
  columns i column found := by
    rw [addColumn,List.getElem?_append] at found
    split at found
    · exact (follows.columns i column found).behind _
    · obtain ⟨bound,rfl⟩ := List.getElem?_eq_some_iff.mp found
      rw [List.length_singleton] at bound
      have place : i = d.table.columns.length := by omega
      rw [List.getElem_singleton,place]
      exact ⟨lines,columnType,[],rfl,follows.count.symm,follows.notes name⟩

theorem Follows.step {d next : TableDraft} {lines : List LineKind} (follows : d.Follows lines)
    (dialect : Dialect) (line : LineKind) (read : d.readLine dialect line = some next) :
    next.Follows (lines ++ [line]) := by
  have unsaid (text : String) : text = text ++ LineKind.inLines [] := String.append_empty.symm
  cases line with
  | define =>
    cases read
    refine follows.further .define rfl rfl ?_ (fun _ => unsaid _) (unsaid _)
    rw [LineKind.targetBehind_concat,follows.target]
  | blank =>
    cases read
    refine follows.further .blank rfl rfl ?_ (fun _ => unsaid _) (unsaid _)
    rw [LineKind.targetBehind_concat,follows.target]
  | tableName name =>
    cases read
    refine follows.further (.tableName name) rfl rfl ?_ (fun _ => unsaid _) (unsaid _)
    rw [LineKind.targetBehind_concat]
  | parent =>
    cases read
    refine follows.further .parent rfl rfl ?_ (fun _ => unsaid _) (unsaid _)
    rw [LineKind.targetBehind_concat]
  | comment text =>
    cases read
    exact follows.comment text
  | columnComment name text =>
    cases read
    exact follows.columnComment name text
  | column columnType name =>
    cases read
    exact follows.column dialect columnType name
  | unrecognized => cases read

theorem Follows.run {d after : TableDraft} {lines : List LineKind} (follows : d.Follows lines)
    (dialect : Dialect) (more : List LineKind) (read : more.foldlM (readLine dialect) d = some after) :
    after.Follows (lines ++ more) := by
  induction more generalizing d lines with
  | nil =>
    cases read
    rwa [List.append_nil]
  | cons line more ih =>
    rw [List.foldlM_cons] at read
    obtain ⟨next,step,rest⟩ := Option.bind_eq_some_iff.mp read
    rw [List.append_cons]
    exact ih (follows.step dialect line step) rest

end TableDraft

def lineKinds (body : List (Nat × String)) : List LineKind :=
  body.map fun line => .ofLine (stripContinuation line.2)

theorem Table.ofBody_follows (path : Path) (dialect : Dialect) (body : List (Nat × String)) (table : Table)
    (read : Table.ofBody path dialect body = .ok table) :
    ∃ draft : TableDraft, draft.Follows (lineKinds body) ∧ draft.table = table := by
  obtain ⟨draft,folded,same⟩ := (Table.ofBody_eq_ok path dialect body table).mp read
  refine ⟨draft,TableDraft.start_follows.run dialect (lineKinds body) ?_,same⟩
  rw [lineKinds,List.foldlM_map]
  rwa [List.foldlM_map] at folded

/-- Each column stands for one column line, in their order, and its comment is what the lines before
that line tell about its name. -/
theorem Table.ofBody_notes (path : Path) (dialect : Dialect) (body : List (Nat × String)) (table : Table)
    (read : Table.ofBody path dialect body = .ok table) :
    table.columns.length = ((lineKinds body).filter LineKind.isColumn).length ∧
    ∀ i column, table.columns[i]? = some column → ∃ before columnType after,
      lineKinds body = before ++ .column columnType column.name :: after ∧
      (before.filter LineKind.isColumn).length = i ∧
      column.comment = LineKind.inLines (LineKind.told (LineKind.noted? column.name) before) := by
  obtain ⟨draft,follows,rfl⟩ := Table.ofBody_follows path dialect body table read
  exact ⟨follows.count,follows.columns⟩

/-- The table is described by what stands behind no directing line, its name or a parent. That is what
stands ahead of all columns, unless a name or a parent is declared behind one. -/
theorem Table.ofBody_description (path : Path) (dialect : Dialect) (body : List (Nat × String)) (table : Table)
    (read : Table.ofBody path dialect body = .ok table) :
    table.comment = LineKind.inLines (LineKind.told LineKind.described? (lineKinds body)) ∧
    (table.comment = LineKind.inLines (LineKind.told LineKind.leading? (lineKinds body)) ↔
      LineKind.told LineKind.belated? (lineKinds body) = []) := by
  obtain ⟨draft,follows,rfl⟩ := Table.ofBody_follows path dialect body table read
  refine ⟨follows.description,?_⟩
  rw [follows.description]
  constructor
  · intro same
    have parts := LineKind.told_parts (lineKinds body)
    rw [same] at parts
    exact LineKind.inLines_eq_empty (by omega)
  · intro early
    rw [LineKind.told_leading early]

/-! Comments on columns in several places, some of them too late. -/

def scattered : List (Nat × String) :=
  [(1,"// @param dur how long"),(2,"// @param ts when"),(3,"#define FOO_DEF(NAME, PARENT, C) \\"),
    (4,"  // it happened \\"),(5,"  NAME(FooTable, \"foo\") \\"),(6,"  // Slices. \\"),
    (7,"  // @param dur it took \\"),(8,"  C(int64_t, ts) \\"),(9,"  // @param ts too late \\"),
    (10,"  C(int64_t, dur)")]

def scatteredTable : Table :=
  ⟨"FooTable","Slices.\n",[{ instant with comment := "when\nit happened\n" },
    { duration with comment := "how long\nit took\n" }]⟩

theorem scattered_read : Table.ofBody ⟨"foo.h"⟩ .standard scattered = .ok scatteredTable := by
  rw [Table.ofBody_eq_ok,← Option.map_eq_some_iff]
  decide +kernel

theorem scattered_noted : Table.ofBody ⟨"foo.h"⟩ .standard scattered = .ok scatteredTable ∧
    ∃ before columnType after, lineKinds scattered = before ++ .column columnType "dur" :: after ∧
      (before.filter LineKind.isColumn).length = 1 ∧
      "how long\nit took\n" = LineKind.inLines (LineKind.told (LineKind.noted? "dur") before) := by
  obtain ⟨_,noted⟩ := Table.ofBody_notes _ _ _ _ scattered_read
  exact ⟨scattered_read,noted 1 { duration with comment := "how long\nit took\n" } rfl⟩

theorem scattered_described : Table.ofBody ⟨"foo.h"⟩ .standard scattered = .ok scatteredTable ∧
    "Slices.\n" = LineKind.inLines (LineKind.told LineKind.leading? (lineKinds scattered)) := by
  obtain ⟨_,described⟩ := Table.ofBody_description _ _ _ _ scattered_read
  exact ⟨scattered_read,described.mpr (by decide +kernel)⟩

/-! A name that is declared between two columns. -/

def interrupted : List (Nat × String) :=
  [(1,"#define FOO_DEF(NAME, PARENT, C) \\"),(2,"  C(int64_t, ts) \\"),
    (3,"  NAME(FooTable, \"foo\") \\"),(4,"  // late \\"),(5,"  C(int64_t, dur)")]

theorem interrupted_described : Table.ofBody ⟨"foo.h"⟩ .standard interrupted =
      .ok ⟨"FooTable","late\n",[instant,duration]⟩ ∧
    LineKind.inLines (LineKind.told LineKind.leading? (lineKinds interrupted)) = "" := by
  refine ⟨?_,by decide +kernel⟩
  rw [Table.ofBody_eq_ok,← Option.map_eq_some_iff]
  decide +kernel

end ReferenceSite
