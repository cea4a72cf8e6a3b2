import ReferenceSite.Proofs.Tables.ColumnReading

/-! What the lines of a declaration make of a table. Remarks ahead of the macro fill the comments on
the table and its columns, the macro names the table and ends the comments, and each column takes what
was remarked on it. -/
namespace ReferenceSite
open ReferenceSite.Text

namespace TableDraft

def readRaw (dialect : Dialect) (d : TableDraft) (raw : String) : Option TableDraft :=
  d.readLine dialect (.ofLine (stripContinuation raw))

def readText (d : TableDraft) (text : List Char) : Option TableDraft :=
  d.readLine .standard (.ofLine (.ofList text))

end TableDraft

private theorem foldlM_ok_iff {α β γ ε : Type} (f : β → α → Except ε β) (g : β → γ → Option β)
    (shown : α → γ) (same : ∀ before x after, f before x = .ok after ↔ g before (shown x) = some after)
    (items : List α) (before after : β) :
    items.foldlM f before = .ok after ↔ (items.map shown).foldlM g before = some after := by
  induction items generalizing before with
  | nil => simp [pure,Except.pure]
  | cons x items ih =>
    simp only [List.foldlM_cons,List.map_cons]
    cases step : f before x with
    | ok next =>
      rw [(same before x next).mp step]
      exact ih next
    | error fault =>
      have stuck : g before (shown x) = none := by
        cases other : g before (shown x) with
        | none => rfl
        | some next => exact absurd ((same before x next).mpr other) (by simp [step])
      rw [stuck]
      exact ⟨nofun,nofun⟩

theorem Table.ofBody_eq_ok (path : Path) (dialect : Dialect) (body : List (Nat × String))
    (table : Table) : Table.ofBody path dialect body = .ok table ↔
      ∃ draft, (body.map (·.2)).foldlM (TableDraft.readRaw dialect) .start = some draft ∧
        draft.table = table := by
  unfold Table.ofBody
  generalize outcome : List.foldlM (m := Except SchemaFault) _ TableDraft.start body = result
  have folded (draft : TableDraft) : result = .ok draft ↔
      (body.map (·.2)).foldlM (TableDraft.readRaw dialect) .start = some draft := by
    rw [← outcome]
    refine foldlM_ok_iff _ (TableDraft.readRaw dialect) (·.2) ?_ body .start draft
    rintro before ⟨number,raw⟩ after
    simp only [TableDraft.readRaw]
    cases before.readLine dialect (.ofLine (stripContinuation raw)) <;> simp
  constructor
  · intro read
    cases result with
    | error fault => cases read
    | ok draft => exact ⟨draft,(folded draft).mp rfl,Except.ok.inj read⟩
  · rintro ⟨draft,read,rfl⟩
    rw [(folded draft).mpr read]
    rfl

/-! Lines as they stand in the file. -/

/-- Ends in a sign that neither is white space nor continues the line. -/
def Closed (text : List Char) : Prop :=
  ∀ c, text.getLast? = some c → isBlank c = false ∧ c ≠ '\\'

theorem trimEnd_closed (text : List Char) (trailing : Padding) (closed : Closed text) :
    trimEnd (text ++ trailing.chars) = text :=
  trimEnd_past text trailing.chars trailing.blank fun c last => (closed c last).1

theorem stripContinuation_closed (text : List Char) (trailing : Padding) (closed : Closed text) :
    stripContinuation (.ofList (text ++ trailing.chars)) = .ofList text := by
  have kept := trimEnd_kept text fun c last => (closed c last).1
  have uncontinued : dropSuffix? ['\\'] text = none := by
    unfold dropSuffix?
    cases back : text.reverse with
    | nil => rfl
    | cons c before =>
      have last : text.getLast? = some c := by rw [← List.head?_reverse,back]; rfl
      simp [dropPrefix?,(closed c last).2.symm]
  simp only [stripContinuation,String.toList_ofList,trimEnd_closed text trailing closed,uncontinued,
    Option.getD_none,kept]

theorem stripContinuation_bare (text : List Char) (closed : Closed text) :
    stripContinuation (.ofList text) = .ofList text := by
  have bare := stripContinuation_closed text ⟨[],by simp,by simp⟩ closed
  rwa [List.append_nil] at bare

theorem trimEnd_slash (text : List Char) (trailing : Padding) :
    trimEnd (text ++ ['\\'] ++ trailing.chars) = text ++ ['\\'] := by
  refine trimEnd_past _ trailing.chars trailing.blank fun c last => ?_
  rw [List.getLast?_concat] at last
  rw [← Option.some.inj last]
  decide

theorem stripContinuation_continued (text : List Char) (padding trailing : Padding)
    (closed : Closed text) :
    stripContinuation (.ofList (text ++ padding.chars ++ ['\\'] ++ trailing.chars)) = .ofList text := by
  have before : dropSuffix? ['\\'] (text ++ padding.chars ++ ['\\']) = some (text ++ padding.chars) := by
    simp [dropSuffix?,dropPrefix?]
  simp only [stripContinuation,String.toList_ofList,trimEnd_slash,before,Option.getD_some,
    trimEnd_closed text padding closed]

theorem Closed.indented {text : List Char} (closed : Closed text) (nonempty : text ≠ [])
    (indent : List Char) : Closed (indent ++ text) := by
  intro c last
  rw [List.getLast?_append,List.getLast?_eq_some_getLast nonempty,Option.some_or] at last
  exact closed c (by rw [List.getLast?_eq_some_getLast nonempty,last])

/-- The lines of a macro are read as the texts they are written for. -/
theorem read_continuedLines (spacing : Nat → Spacing) (texts : List (List Char))
    (closed : ∀ text ∈ texts, Closed text) (nonempty : ∀ text ∈ texts, text ≠ []) (d : TableDraft) :
    ((continuedLines spacing texts).map String.ofList).foldlM (TableDraft.readRaw .standard) d =
      texts.foldlM TableDraft.readText d := by
  have text (cs indent : List Char) (blank : ∀ c ∈ indent, isBlank c = true) (d : TableDraft) :
      d.readLine .standard (.ofLine (.ofList (indent ++ cs))) = d.readText cs := by
    rw [LineKind.ofLine_indented indent cs blank,TableDraft.readText]
  fun_induction continuedLines spacing texts generalizing d with
  | case1 => rfl
  | case2 spacing last =>
    have ends := (closed last (by simp)).indented (nonempty last (by simp)) (spacing 0).indent.chars
    simp only [List.map_cons,List.map_nil,List.foldlM_cons,List.foldlM_nil,TableDraft.readRaw,
      stripContinuation_closed _ (spacing 0).trailing.toPadding ends,text _ _ (spacing 0).indent.blank]
  | case3 spacing first rest more ih =>
    have ends := (closed first (by simp)).indented (nonempty first (by simp)) (spacing 0).indent.chars
    simp only [List.map_cons,List.foldlM_cons,TableDraft.readRaw,
      stripContinuation_continued _ (spacing 0).padding (spacing 0).trailing.toPadding ends,
      text _ _ (spacing 0).indent.blank]
    congr 1
    funext next
    exact ih (fun t member => closed t (by simp [member])) (fun t member => nonempty t (by simp [member]))
      next

theorem closed_bracket (text : List Char) : Closed (text ++ [')']) := by
  intro c last
  rw [List.getLast?_concat] at last
  rw [← Option.some.inj last]
  decide

theorem Remark.closed (r : Remark) : Closed r.chars := by
  intro c last
  refine ⟨r.trimmed.closes c last,?_⟩
  rintro rfl
  exact r.uncontinued last

theorem ColumnNote.tagged_closed (n : ColumnNote) : Closed ("// ".toList ++ n.tagged) := by
  have shape : "// ".toList ++ n.tagged =
      ("// @param ".toList ++ n.column.chars ++ [' ']) ++ n.first.chars := by
    unfold ColumnNote.tagged
    simp only [List.append_assoc]
    rfl
  rw [shape]
  exact n.first.closed.indented n.first.nonempty _

theorem Declaration.texts_closed (d : Declaration) : ∀ text ∈ d.defineText :: d.inner,
    Closed text ∧ text ≠ [] := by
  have bracket (text : List Char) (ends : ∃ before, text = before ++ [')']) :
      Closed text ∧ text ≠ [] := by
    obtain ⟨before,rfl⟩ := ends
    exact ⟨closed_bracket before,by simp⟩
  intro text member
  refine bracket text ?_
  simp only [Declaration.inner,List.mem_cons,List.mem_append,List.mem_map] at member
  rcases member with rfl | rfl | member | ⟨c,_,rfl⟩
  · exact ⟨"#define ".toList ++ d.definition.chars ++ "(NAME, PARENT, C".toList,by
      unfold Declaration.defineText
      simp only [List.append_assoc]
      rfl⟩
  · exact ⟨"NAME(".toList ++ d.name.chars ++ ", \"".toList ++ d.sqlName ++ "\"".toList,by
      unfold Declaration.nameText
      simp only [List.append_assoc]
      rfl⟩
  · rcases d.ancestry.texts_cases text member with same | ⟨definition,same⟩
    · exact ⟨"PERFETTO_TP_ROOT_TABLE(PARENT, C".toList,same⟩
    · exact ⟨"PARENT(".toList ++ definition.chars ++ ", C".toList,by
        rw [same]
        simp only [List.append_assoc]
        rfl⟩
  · exact ⟨_,rfl⟩

/-! Remarks. -/

theorem remarked_append (first second : List Remark) :
    remarked (first ++ second) = remarked first ++ remarked second := by
  apply String.toList_injective
  simp [remarked,String.toList_join]

theorem remarked_cons (r : Remark) (rest : List Remark) :
    remarked (r :: rest) = String.ofList r.chars ++ "\n" ++ remarked rest := by
  apply String.toList_injective
  simp [remarked,String.toList_join]

namespace TableDraft

theorem readRaw_remark (d : TableDraft) (r : Remark) :
    d.readRaw .standard (.ofList r.line) = some (d.addComment (.ofList r.chars)) := by
  have ends : Closed r.line := r.closed.indented r.nonempty "// ".toList
  rw [readRaw,stripContinuation_bare _ ends,LineKind.ofLine_remark,readLine]

theorem readRaw_tagged (d : TableDraft) (n : ColumnNote) :
    d.readRaw .standard (.ofList ("// ".toList ++ n.tagged)) =
      some ({ d with target := .column (.ofList n.column.chars) }.addComment
        (.ofList n.first.chars)) := by
  rw [readRaw,stripContinuation_bare _ n.tagged_closed,LineKind.ofLine_tagged,readLine]

theorem addComment_table (d : TableDraft) (text : String) (target : d.target = .table) :
    d.addComment text = { d with table.comment := d.table.comment ++ text ++ "\n" } := by
  rw [addComment,target]

theorem read_tableRemarks (remarks : List Remark) (d : TableDraft) (target : d.target = .table) :
    (remarks.map fun r => String.ofList r.line).foldlM (readRaw .standard) d =
      some { d with table.comment := d.table.comment ++ remarked remarks } := by
  induction remarks generalizing d with
  | nil => simp [remarked]
  | cons r remarks ih =>
    rw [List.map_cons,List.foldlM_cons,readRaw_remark,addComment_table d _ target]
    have later := ih { d with table.comment := d.table.comment ++ .ofList r.chars ++ "\n" } target
    refine later.trans ?_
    simp only [remarked_cons,String.append_assoc]

theorem commentOn_addComment (d : TableDraft) (name text : String) (target : d.target = .column name)
    (column : String) : (d.addComment text).commentOn column =
      if column = name then d.commentOn name ++ text ++ "\n" else d.commentOn column := by
  unfold addComment
  rw [target]
  by_cases same : column = name
  · simp [commentOn,same]
  · have other : name ≠ column := fun equal => same equal.symm
    have apart (entry : String × String) :
        decide (decide (entry.1 ≠ name) = true ∧ decide (entry.1 = column) = true) =
          decide (entry.1 = column) := by
      by_cases found : entry.1 = column <;> simp [found,same]
    simp only [commentOn,List.find?_cons,other,decide_false,List.find?_filter,apart,same,if_false]

/-- Remarks behind a note go to its column, and nothing else is touched. -/
theorem read_columnRemarks (remarks : List Remark) (d : TableDraft) (name : String)
    (target : d.target = .column name) :
    ∃ after, (remarks.map fun r => String.ofList r.line).foldlM (readRaw .standard) d = some after ∧
      after.table = d.table ∧ ∀ column, after.commentOn column =
        d.commentOn column ++ if column = name then remarked remarks else "" := by
  induction remarks generalizing d with
  | nil => exact ⟨d,rfl,rfl,fun column => by split <;> simp [remarked]⟩
  | cons r remarks ih =>
    have kept : (d.addComment (.ofList r.chars)).target = .column name := by
      unfold addComment
      rw [target]
    have table : (d.addComment (.ofList r.chars)).table = d.table := by
      unfold addComment
      rw [target]
    obtain ⟨after,read,same,comments⟩ := ih (d.addComment (.ofList r.chars)) kept
    refine ⟨after,?_,same.trans table,fun column => ?_⟩
    · rw [List.map_cons,List.foldlM_cons,readRaw_remark]
      exact read
    · rw [comments,commentOn_addComment d name _ target]
      split
      · rename_i here
        rw [here,remarked_cons]
        simp only [String.append_assoc]
      · rfl

theorem read_note (n : ColumnNote) (d : TableDraft) :
    ∃ after, (n.lines.map String.ofList).foldlM (readRaw .standard) d = some after ∧
      after.table = d.table ∧ ∀ column, after.commentOn column =
        d.commentOn column ++
          if column = .ofList n.column.chars then remarked (n.first :: n.more) else "" := by
  have target : ({ d with target := .column (.ofList n.column.chars) }.addComment
      (.ofList n.first.chars)).target = .column (.ofList n.column.chars) := rfl
  obtain ⟨after,read,table,comments⟩ := read_columnRemarks n.more _ _ target
  refine ⟨after,?_,table,fun column => ?_⟩
  · rw [ColumnNote.lines,List.map_cons,List.foldlM_cons,readRaw_tagged,List.map_map]
    exact read
  · rw [comments,commentOn_addComment _ (.ofList n.column.chars) _ rfl]
    split
    · rename_i here
      rw [here,remarked_cons]
      simp only [String.append_assoc]
      rfl
    · rfl

theorem read_notes (notes : List ColumnNote) (d : TableDraft) :
    ∃ after, ((notes.flatMap ColumnNote.lines).map String.ofList).foldlM (readRaw .standard) d =
        some after ∧
      after.table = d.table ∧ ∀ column : Word, after.commentOn (.ofList column.chars) =
        d.commentOn (.ofList column.chars) ++ remarked
          ((notes.filter (·.column.chars = column.chars)).flatMap fun n => n.first :: n.more) := by
  induction notes generalizing d with
  | nil => exact ⟨d,rfl,rfl,fun column => by simp [remarked]⟩
  | cons n notes ih =>
    obtain ⟨middle,first,table,comments⟩ := read_note n d
    obtain ⟨after,rest,table',comments'⟩ := ih middle
    refine ⟨after,?_,table'.trans table,fun column => ?_⟩
    · rw [List.flatMap_cons,List.map_append,List.foldlM_append,first]
      exact rest
    · rw [comments',comments,List.filter_cons,String.append_assoc]
      by_cases here : column.chars = n.column.chars
      · simp only [here,if_true,decide_true,List.flatMap_cons,remarked_append]
      · have apart : ¬ n.column.chars = column.chars := fun same => here same.symm
        simp [here,apart,String.ofList_inj]

theorem read_commentLines (d : Declaration) :
    ∃ after, (d.commentLines.map String.ofList).foldlM (readRaw .standard) start = some after ∧
      after.table = { Table.blank with comment := remarked d.comment } ∧
      ∀ column : Word, after.commentOn (.ofList column.chars) = remarked (d.remarksOn column) := by
  have first := read_tableRemarks d.comment start rfl
  obtain ⟨after,rest,table,comments⟩ := read_notes d.notes
    { start with table.comment := start.table.comment ++ remarked d.comment }
  refine ⟨after,?_,?_,fun column => ?_⟩
  · rw [Declaration.commentLines,List.map_append,List.foldlM_append,List.map_map]
    refine (congrArg (· >>= _) first).trans ?_
    exact rest
  · rw [table]
    simp [start,Table.blank]
  · rw [comments]
    simp [commentOn,start,Declaration.remarksOn]

/-! The macro. -/

theorem readText_define (d : Declaration) (draft : TableDraft) :
    draft.readText d.defineText = some draft := by
  rw [readText,LineKind.ofLine_define,readLine]

theorem readText_name (d : Declaration) (draft : TableDraft) : draft.readText d.nameText =
    some { draft with table.name := .ofList d.name.chars, target := .table } := by
  rw [readText,LineKind.ofLine_name,readLine]

theorem read_ancestry (a : Ancestry) (draft : TableDraft) : ∃ after,
    a.texts.foldlM readText draft = some after ∧ after.table = draft.table ∧
      after.columnComments = draft.columnComments := by
  have line (text : List Char) (member : text ∈ a.texts) :
      draft.readText text = some { draft with target := .table } := by
    rw [readText,LineKind.ofLine_ancestry a text member,readLine]
  cases a with
  | none => exact ⟨draft,rfl,rfl,rfl⟩
  | root =>
    refine ⟨{ draft with target := .table },?_,rfl,rfl⟩
    rw [Ancestry.texts,List.foldlM_cons,line _ (List.mem_singleton.mpr rfl)]
    rfl
  | parent definition =>
    refine ⟨{ draft with target := .table },?_,rfl,rfl⟩
    rw [Ancestry.texts,List.foldlM_cons,line _ (List.mem_singleton.mpr rfl)]
    rfl

def reading (d : TableDraft) (c : DeclaredColumn) : Option Column :=
  match LineKind.ofLine (.ofList c.text) with
  | .column columnType name =>
    some { declaredColumn .standard columnType name with comment := d.commentOn name }
  | _ => none

theorem readText_column (d next : TableDraft) (c : DeclaredColumn)
    (read : d.readText c.text = some next) :
    next.table = { d.table with columns := d.table.columns ++ (d.reading c).toList } ∧
      next.columnComments = d.columnComments := by
  rw [readText,LineKind.ofLine_column] at read
  rw [reading,LineKind.ofLine_column]
  split at read
  · cases read
    rename_i parent
    simp [parent]
  · rename_i unrelated
    split at read
    · rename_i columnType name found
      cases read
      simp [unrelated,addColumn]
    · cases read

/-- Columns are added line by line; a line that declares something else adds none. -/
theorem read_columns (columns : List DeclaredColumn) (d after : TableDraft)
    (read : (columns.map DeclaredColumn.text).foldlM readText d = some after) :
    after.table = { d.table with columns := d.table.columns ++ columns.filterMap d.reading } := by
  induction columns generalizing d with
  | nil =>
    cases read
    simp
  | cons c columns ih =>
    rw [List.map_cons,List.foldlM_cons] at read
    obtain ⟨next,step,rest⟩ := Option.bind_eq_some_iff.mp read
    obtain ⟨table,comments⟩ := readText_column d next c step
    have same : next.reading = d.reading := by
      funext column
      simp only [reading,commentOn,comments]
    rw [ih next rest,table,same,List.filterMap_cons]
    cases d.reading c <;> simp

theorem reading_readable (d : TableDraft) (c : DeclaredColumn) (readable : c.Readable) :
    d.reading c = some { c.column with comment := d.commentOn (.ofList c.name.chars) } := by
  simp only [reading,readable.kind,readable.declared]

theorem readable_of_reading (d : TableDraft) (c : DeclaredColumn) (comment : String)
    (read : d.reading c = some { c.column with comment := comment }) : c.Readable := by
  rw [DeclaredColumn.readable_iff]
  unfold reading at read
  split at read
  · rename_i columnType name kind
    refine ⟨columnType,name,kind,?_⟩
    have same := congrArg (fun column => { column with comment := "" }) (Option.some.inj read)
    exact same
  · cases read

theorem read_readable (columns : List DeclaredColumn) (readable : ∀ c ∈ columns, c.Readable)
    (d : TableDraft) :
    ∃ after, (columns.map DeclaredColumn.text).foldlM readText d = some after := by
  induction columns generalizing d with
  | nil => exact ⟨d,rfl⟩
  | cons c columns ih =>
    have kind := (readable c (by simp)).kind
    rw [List.map_cons,List.foldlM_cons,readText,kind,readLine]
    exact ih (fun c member => readable c (by simp [member])) _

end TableDraft

theorem filterMap_eq_map_iff {α β : Type} (f : α → Option β) (g : α → β) (items : List α) :
    items.filterMap f = items.map g ↔ ∀ x ∈ items, f x = some (g x) := by
  induction items with
  | nil => simp
  | cons x items ih =>
    rw [List.filterMap_cons,List.map_cons,List.forall_mem_cons]
    cases found : f x with
    | none =>
      refine ⟨fun same => ?_,fun each => by simp at each⟩
      have shorter := List.length_filterMap_le f items
      simp only at same
      rw [same,List.length_cons,List.length_map] at shorter
      omega
    | some y => simp [ih]

namespace Declaration

theorem read_inner (d : Declaration) (draft : TableDraft) : ∃ before : TableDraft,
    (d.defineText :: d.inner).foldlM TableDraft.readText draft =
      (d.columns.map DeclaredColumn.text).foldlM TableDraft.readText before ∧
    before.table = { draft.table with name := .ofList d.name.chars } ∧
    before.columnComments = draft.columnComments := by
  obtain ⟨before,read,table,comments⟩ := TableDraft.read_ancestry d.ancestry
    { draft with table.name := .ofList d.name.chars, target := .table }
  refine ⟨before,?_,table,comments⟩
  rw [List.foldlM_cons,TableDraft.readText_define,Option.bind_eq_bind,Option.bind_some,inner,
    List.foldlM_cons,TableDraft.readText_name,Option.bind_eq_bind,Option.bind_some,List.foldlM_append,
    read,Option.bind_eq_bind,Option.bind_some]

/-- Everything ahead of the columns is read whatever the columns are. -/
theorem read_lines (d : Declaration) : ∃ before : TableDraft,
    (d.lines.map String.ofList).foldlM (TableDraft.readRaw .standard) .start =
      (d.columns.map DeclaredColumn.text).foldlM TableDraft.readText before ∧
    before.table = ⟨.ofList d.name.chars,remarked d.comment,[]⟩ ∧
    ∀ column : Word, before.commentOn (.ofList column.chars) = remarked (d.remarksOn column) := by
  obtain ⟨remarks,first,table,comments⟩ := TableDraft.read_commentLines d
  obtain ⟨before,second,table',comments'⟩ := d.read_inner remarks
  have closed := d.texts_closed
  refine ⟨before,?_,?_,fun column => ?_⟩
  · rw [lines,List.map_append,List.foldlM_append,first,Option.bind_eq_bind,Option.bind_some,
      macroLines,read_continuedLines d.spacing _ (fun text member => (closed text member).1)
        (fun text member => (closed text member).2),second]
  · rw [table',table]
    rfl
  · rw [← comments column]
    simp only [TableDraft.commentOn,comments']

/-- The lines of a declaration make the table that is declared exactly if all columns are readable. -/
theorem ofBody_iff (d : Declaration) (path : Path) (body : List (Nat × String))
    (written : body.map (·.2) = d.lines.map String.ofList) :
    Table.ofBody path .standard body = .ok d.table ↔ ∀ c ∈ d.columns, c.Readable := by
  obtain ⟨before,whole,table,comments⟩ := d.read_lines
  rw [Table.ofBody_eq_ok,written,whole]
  constructor
  · rintro ⟨after,read,same⟩
    have columns := congrArg Table.columns (TableDraft.read_columns d.columns before after read)
    rw [same] at columns
    simp only [table,List.nil_append,Declaration.table] at columns
    have each := (filterMap_eq_map_iff _ _ _).mp columns.symm
    exact fun c member => TableDraft.readable_of_reading before c _ (each c member)
  · intro readable
    obtain ⟨after,read⟩ := TableDraft.read_readable d.columns readable before
    refine ⟨after,read,?_⟩
    have each : d.columns.filterMap before.reading =
        d.columns.map fun c => { c.column with comment := remarked (d.remarksOn c.name) } := by
      refine (filterMap_eq_map_iff _ _ _).mpr fun c member => ?_
      rw [TableDraft.reading_readable before c (readable c member),comments]
    rw [TableDraft.read_columns d.columns before after read,table,each]
    rfl

end Declaration
end ReferenceSite
