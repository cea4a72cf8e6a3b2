import ReferenceSite.Proofs.Reference.DescriptionCells

/-! The document that a table reference is read as. Each section is the heading with the name of the
table, whatever the comment of the table is read as, and one table of four columns with a row for each
column of the table. -/
namespace ReferenceSite
open ReferenceSite.Text ReferenceSite.Markdown

namespace Markdown

/-- Behind the digits that a row begins with stands another sign of its first word, or the space. -/
private theorem drop_digits (w rest : List Char) : ∃ d behind,
    (w ++ ' ' :: rest).drop ((w ++ ' ' :: rest).takeWhile Char.isDigit).length = d :: behind ∧ (d ∈ w ∨ d = ' ') := by
  induction w with
  | nil => exact ⟨' ',rest,rfl,.inr rfl⟩
  | cons c w ih =>
    rw [List.cons_append]
    by_cases digit : c.isDigit = true
    · obtain ⟨d,behind,left,origin⟩ := ih
      refine ⟨d,behind,?_,origin.imp_left (List.mem_cons_of_mem c)⟩
      rw [List.takeWhile_cons_of_pos digit,List.length_cons,List.drop_succ_cons,left]
    · refine ⟨c,w ++ ' ' :: rest,?_,.inl List.mem_cons_self⟩
      rw [List.takeWhile_cons_of_neg digit,List.length_nil,List.drop_zero]

/-- A row that begins with a word. -/
theorem Quiet.of_word (w rest : List Char) (filled : w ≠ []) (word : ∀ c ∈ w, isWord c = true) :
    Quiet (w ++ ' ' :: '|' :: rest) := by
  have marks : (['#','>','`','~','<','*','-','+','|','.',')'].all fun d => ! isWord d) = true := by decide +kernel
  have apart (c : Char) (member : c ∈ w) (d : Char) (mark : d ∈ ['#','>','`','~','<','*','-','+','|','.',')']) : c ≠ d := by
    rintro rfl
    simpa [word c member] using List.all_eq_true.mp marks c mark
  obtain ⟨d,behind,left,origin⟩ := drop_digits w ('|' :: rest)
  obtain ⟨c,w,rfl⟩ := List.exists_cons_of_ne_nil filled
  have first := apart c List.mem_cons_self
  have solid := not_isSpace_of_not_blank c (not_blank_of_isWord c (word c List.mem_cons_self))
  refine ⟨⟨c,rfl,solid⟩,?_,?_,?_,?_,?_,?_⟩
  · simp [first]
  · simp [headingMarker?,first]
  · simp [fenceMarker?,first]
  · rw [List.cons_append,RawBlock.start?]
    intro _ same
    exact first '<' (by decide) (List.cons.inj same).1
  · simp [isRule,Ne.symm (first '|' (by decide)),isSpaceOrTab]
  · have unmarked : d ≠ '.' ∧ d ≠ ')' := by
      rcases origin with member | rfl
      · exact ⟨apart d member '.' (by decide),apart d member ')' (by decide)⟩
      · decide
    have read : markerAt? (c :: (w ++ ' ' :: '|' :: rest)) = none := by
      rw [List.cons_append] at left
      simp [markerAt?,first,left,unmarked]
    simp only [itemMarker?,List.cons_append,read,Option.filter_none]

end Markdown

structure Column.IsPrintable (c : Column) : Prop where
  name : IsWord c.name
  type : IsLine c.columnType.toList
  closed : openBars c.columnType.toList = 0

/-- A column with its comment as the cell shows it. -/
def Column.shown (c : Column) : Column := { c with comment := Reference.described c.comment }

@[simp] theorem Column.shown_name (c : Column) : c.shown.name = c.name := by simp only [Column.shown]

@[simp] theorem Column.shown_columnType (c : Column) : c.shown.columnType = c.columnType := by simp only [Column.shown]

@[simp] theorem Column.shown_optional (c : Column) : c.shown.optional = c.optional := by simp only [Column.shown]

@[simp] theorem Column.shown_comment (c : Column) : c.shown.comment = Reference.described c.comment := by
  simp only [Column.shown]

/-- A table with its columns as their rows show them. -/
def Table.shown (t : Table) : Table := { t with columns := t.columns.map Column.shown }

namespace Reference

/-! The lines of a section. -/

/-- The lines of a comment above a table, and the blank line behind it. -/
def commentLines (comment : String) : List (List Char) :=
  let text := trim comment.toList
  if text = [] then [] else text.splitOn '\n' ++ [[]]

def columnHeads : List String := ["Column","Type","Optional","Description"]

def columnHead : List Char := "Column | Type | Optional | Description".toList

def columnDelimiters : List Char := "------ | ---- | -------- | -----------".toList

def tableLines (t : Table) : List (List Char) :=
  [List.replicate 2 '#' ++ ' ' :: t.name.toList,[]] ++ commentLines t.comment ++
    ([columnHead,columnDelimiters] ++ (t.columns.map columnLine ++ [[]]))

theorem flatMap_splitOn (s : List Char) : (s.splitOn '\n').flatMap (· ++ ['\n']) = s ++ ['\n'] := by
  have joined (parts : List (List Char)) (filled : parts ≠ []) :
      parts.flatMap (· ++ ['\n']) = ['\n'].intercalate parts ++ ['\n'] := by
    induction parts with
    | nil => exact absurd rfl filled
    | cons p parts ih =>
      cases parts with
      | nil => simp [List.intercalate]
      | cons q parts =>
        rw [List.flatMap_cons,ih (by simp)]
        simp [List.intercalate]
  rw [joined (s.splitOn '\n') (List.splitOnP_ne_nil _ s),List.intercalate_splitOn]

theorem tableSection_written (t : Table) : (tableSection t).toList = (tableLines t).flatMap (· ++ ['\n']) := by
  have above : (paragraph (.ofList (trim t.comment.toList))).toList = (commentLines t.comment).flatMap (· ++ ['\n']) := by
    rw [paragraph,commentLines]
    by_cases empty : trim t.comment.toList = []
    · simp [empty]
    · simp [empty,flatMap_splitOn]
  have heads : "Column | Type | Optional | Description\n------ | ---- | -------- | -----------".toList ++ ['\n'] =
      [columnHead,columnDelimiters].flatMap (· ++ ['\n']) := by decide +kernel
  have opened : (opening t).toList ++ ['\n'] = ([List.replicate 2 '#' ++ ' ' :: t.name.toList,[]] ++
      commentLines t.comment ++ [columnHead,columnDelimiters]).flatMap (· ++ ['\n']) := by
    simp only [opening,String.toList_append,List.append_assoc,heads,above,List.flatMap_append]
    simp
  rw [tableSection_lines,List.append_cons,opened]
  simp [tableLines]

/-! The nodes of a section. -/

def columnNode (c : Column) : Node :=
  .node (.tableRow false) ([c.name.toList,cellText c.columnType.toList,(optionalText c).toList,
    (described c.comment).toList].map cellNode)

/-- The nodes of a table, with those that its comment is read as. -/
def tableNodes (above : List Node) (t : Table) : List Node :=
  [.node (.heading 2) (inlines [] t.name.toList)] ++ above ++
    [.node (.table (List.replicate 4 .unset))
      (.node (.tableRow true) (columnHeads.map fun head => cellNode head.toList) :: t.columns.map columnNode)]

theorem columns_table : TableHead columnHead columnDelimiters (List.replicate 4 .unset)
    (columnHeads.map (·.toList)) :=
  ⟨.of_first 'C' "olumn | Type | Optional | Description".toList (by decide) (by decide) (by decide),
    ⟨'-',rfl,by decide⟩,by decide,by decide,by decide,by decide,by decide,by decide,by decide,fun _ => rfl⟩

end Reference

/-- A table with printable names and types, whose comment is read as these nodes whatever stands
ahead of it. -/
structure Table.IsPrintable (t : Table) (above : List Node) : Prop where
  name : IsWord t.name
  comment : Reads (Reference.commentLines t.comment) above
  single : ∀ line ∈ Reference.commentLines t.comment, IsLine line
  columns : ∀ c ∈ t.columns, c.IsPrintable

namespace Reference

theorem isLine_word (s : String) (named : IsWord s) : IsLine s.toList := by
  have ends : (['\n','\r','\x00'].all fun c => ! isWord c) = true := by decide +kernel
  intro c member
  have apart : c ∉ ['\n','\r','\x00'] := fun listed => by
    simpa [named.2 c member] using List.all_eq_true.mp ends c listed
  simpa using apart

theorem isLine_optionalText (c : Column) : IsLine (optionalText c).toList := by
  unfold optionalText IsLine
  split
  · exact List.all_iff_forall_prop.mp (by decide)
  · exact List.all_iff_forall_prop.mp (by decide)

theorem columnLine_of_shown (c : Column) : columnLine c.shown = c.name.toList ++ ' ' :: '|' :: ' ' ::
    (c.columnType.toList ++ ' ' :: '|' :: ' ' ::
      ((optionalText c).toList ++ ' ' :: '|' :: ' ' :: escapePipes (described c.comment).toList)) := by
  have optional : optionalText c.shown = optionalText c := by simp [optionalText]
  simp only [columnLine,Column.shown_name,Column.shown_columnType,optional,Column.shown_comment,singleLine_described]

theorem columnLine_shown (c : Column) (printable : c.IsPrintable) :
    (columnLine c).map readSign = columnLine c.shown := by
  have bar : readSign '|' = '|' ∧ readSign ' ' = ' ' := by decide
  rw [columnLine_of_shown,columnLine]
  simp only [List.map_append,List.map_cons,bar,map_readSign _ (isLine_word _ printable.name),
    map_readSign _ printable.type,map_readSign _ (isLine_optionalText c),escapePipes_read,described_signs]

/-- The row of a column is read as its four cells. -/
theorem rowCells?_column (c : Column) (printable : c.IsPrintable) : ∃ cells,
    rowCells? (columnLine c.shown) = some cells ∧ Node.node (.tableRow false) (cellNodes 4 cells) = columnNode c := by
  obtain ⟨cells,row,nodes⟩ := rowCells?_four c.name.toList c.columnType.toList (optionalText c).toList
    (described c.comment).toList printable.name.isCell printable.closed (optionalText_isCell c)
  obtain ⟨opens,closes⟩ := described_solid c.comment
  rw [trimSpace_kept _ opens closes] at nodes
  refine ⟨cells,?_,?_⟩
  · rw [columnLine_of_shown,row]
  · rw [nodes]
    rfl

theorem tableLines_of_shown (t : Table) : tableLines t.shown =
    [List.replicate 2 '#' ++ ' ' :: t.name.toList,[]] ++ commentLines t.comment ++
      ([columnHead,columnDelimiters] ++ (t.columns.map (columnLine ·.shown) ++ [[]])) := by
  simp only [tableLines,Table.shown,List.map_map]
  rfl

theorem reads_rows (columns : List Column) (printable : ∀ c ∈ columns, c.IsPrintable) :
    Reads ([columnHead,columnDelimiters] ++ (columns.map (columnLine ·.shown) ++ [[]]))
      [.node (.table (List.replicate 4 .unset))
        (.node (.tableRow true) (columnHeads.map fun head => cellNode head.toList) :: columns.map columnNode)] := by
  have reads := columns_table.reads_alone
    (columns.map fun c => (columnLine c.shown,(rowCells? (columnLine c.shown)).getD []))
    (by
      intro w member
      obtain ⟨c,inside,rfl⟩ := List.mem_map.mp member
      have named := (printable c inside).name
      dsimp only
      rw [columnLine_of_shown]
      exact .of_word _ _ (fun empty => named.1 (String.toList_eq_nil_iff.mp empty)) named.2)
    (by
      intro w member
      obtain ⟨c,inside,rfl⟩ := List.mem_map.mp member
      obtain ⟨cells,found,_⟩ := rowCells?_column c (printable c inside)
      simp [found])
  have rows : (columns.map fun c => (columnLine c.shown,(rowCells? (columnLine c.shown)).getD [])).map
        (fun w => Node.node (.tableRow false) (cellNodes 4 w.2)) = columns.map columnNode := by
    rw [List.map_map]
    refine List.map_congr_left fun c member => ?_
    obtain ⟨cells,found,shown⟩ := rowCells?_column c (printable c member)
    simp [found,shown]
  have lines : (columns.map fun c => (columnLine c.shown,(rowCells? (columnLine c.shown)).getD [])).map (·.1) =
      columns.map (columnLine ·.shown) := by
    rw [List.map_map]
    rfl
  rw [lines,List.length_replicate,rows,List.map_map] at reads
  exact reads

theorem reads_table (t : Table) (above : List Node) (printable : t.IsPrintable above) :
    Reads (tableLines t.shown) (tableNodes above t) := by
  have named := printable.name.isCell
  obtain ⟨c,last,solid⟩ := named.closes
  have sign : c ≠ '#' := by
    rintro rfl
    exact absurd (printable.name.2 '#' (List.mem_of_getLast? last)) (by decide)
  have opened := Reads.heading 2 (by decide) t.name.toList named.opens
  rw [chopClosing_kept _ c last solid sign] at opened
  rw [tableLines_of_shown]
  exact (opened.append printable.comment).append (reads_rows t.columns printable.columns)

/-! The document. -/

theorem isLine_columnLine (c : Column) (printable : c.IsPrintable) (single : '\r' ∉ (cell c.comment).toList) :
    IsLine (columnLine c.shown) := by
  rw [columnLine_of_shown]
  simp [isLine_append,isLine_cons,isLine_word _ printable.name,printable.type,isLine_optionalText,
    isLine_escapePipes _ (isLine_described _ single)]

theorem isLine_tableAbove (t : Table) (above : List Node) (printable : t.IsPrintable above) :
    ∀ line ∈ [List.replicate 2 '#' ++ ' ' :: t.name.toList,[]] ++ commentLines t.comment ++
      [columnHead,columnDelimiters], IsLine line := by
  have titled : IsLine (List.replicate 2 '#' ++ ' ' :: t.name.toList) :=
    (isLine_append _ _).mpr ⟨isLine_signs 2,(isLine_cons _ _).mpr ⟨by decide,isLine_word _ printable.name⟩⟩
  have heads : IsLine columnHead ∧ IsLine columnDelimiters := by
    unfold IsLine
    exact ⟨List.all_iff_forall_prop.mp (by decide +kernel),List.all_iff_forall_prop.mp (by decide +kernel)⟩
  intro line member
  simp only [List.mem_append,List.mem_cons,List.not_mem_nil,or_false] at member
  rcases member with ((rfl | rfl) | commented) | rfl | rfl
  · exact titled
  · exact isLine_nil
  · exact printable.single line commented
  · exact heads.1
  · exact heads.2

/-- The lines of a section, as its signs are read. -/
theorem tableLines_read (t : Table) (above : List Node) (printable : t.IsPrintable above) :
    (tableLines t).map (List.map readSign) = tableLines t.shown := by
  have rows : (t.columns.map columnLine).map (List.map readSign) = t.columns.map (columnLine ·.shown) := by
    rw [List.map_map]
    exact List.map_congr_left fun c member => columnLine_shown c (printable.columns c member)
  rw [tableLines_of_shown,tableLines,← List.append_assoc,List.map_append,map_readSign_lines _ (isLine_tableAbove t above printable),
    List.map_append,rows,List.append_assoc]
  rfl

/-- Without returns in the cells, the description of each column is in the last cell of its row. -/
theorem parse_tables (ts : List Table) (above : Table → List Node) (printable : ∀ t ∈ ts, t.IsPrintable (above t))
    (single : ∀ t ∈ ts, ∀ c ∈ t.columns, '\r' ∉ (cell c.comment).toList) :
    parse (tables ts) = .node .document (ts.flatMap fun t => tableNodes (above t) t) := by
  have written : (tables ts).toList = (ts.flatMap tableLines).flatMap (· ++ ['\n']) := by
    rw [tables,String.toList_join,List.flatMap_map,List.flatMap_assoc]
    exact congrArg (ts.flatMap ·) (funext tableSection_written)
  have read : (ts.flatMap tableLines).map (List.map readSign) = ts.flatMap fun t => tableLines t.shown := by
    rw [List.map_flatMap]
    exact List.flatMap_congr fun t member => tableLines_read t (above t) (printable t member)
  refine (Reads.flatMap ts _ _ fun t member => reads_table t (above t) (printable t member)).parse_read _ ?_ ?_ ?_
  · rw [written,map_readSign_joined,read]
  · rw [written]
    cases ts with
    | nil => simp
    | cons t ts => simp [tableLines]
  · intro line member
    obtain ⟨t,inside,within⟩ := List.mem_flatMap.mp member
    rw [tableLines_of_shown,← List.append_assoc] at within
    rcases List.mem_append.mp within with opened | row
    · exact isLine_tableAbove t (above t) (printable t inside) line opened
    · rcases List.mem_append.mp row with row | blank
      · obtain ⟨c,column,rfl⟩ := List.mem_map.mp row
        exact isLine_columnLine c ((printable t inside).columns c column) (single t inside c column)
      · obtain rfl := List.mem_singleton.mp blank
        exact isLine_nil

end Reference

end ReferenceSite
