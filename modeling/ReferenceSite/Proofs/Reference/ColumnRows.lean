import ReferenceSite.Proofs.Markdown.RowText
import ReferenceSite.Proofs.Tables.ReadTables
import ReferenceSite.Reference

/-! The rows of a table reference. Each column has one line below the head of its table. The comment
cannot break the row into other cells than the four, since its bars are escaped; the type can, since
its bars stand in the row as they are. -/
namespace ReferenceSite
open ReferenceSite.Text ReferenceSite.Markdown

namespace Markdown

/-! Bars that end cells. -/

/-- How many bars are not behind a backslash, in a text behind the given sign. -/
def barsAfter (before : Char) : List Char → Nat
  | [] => 0
  | c :: rest => (if c = '|' ∧ before ≠ '\\' then 1 else 0) + barsAfter c rest

def openBars (s : List Char) : Nat := barsAfter ' ' s

theorem barsAfter_congr (before other : Char) (plain : before ≠ '\\') (likewise : other ≠ '\\') (s : List Char) :
    barsAfter before s = barsAfter other s := by
  cases s with
  | nil => rfl
  | cons c s => simp [barsAfter,plain,likewise]

theorem barsAfter_none (before : Char) (s : List Char) (none : '|' ∉ s) : barsAfter before s = 0 := by
  induction s generalizing before with
  | nil => rfl
  | cons c s ih =>
    obtain ⟨other,later⟩ := not_or.mp (List.mem_cons.not.mp none)
    simp [barsAfter,Ne.symm other,ih c later]

theorem barsAfter_escapePipes (before : Char) (s : List Char) : barsAfter before (escapePipes s) = 0 := by
  induction s generalizing before with
  | nil => rfl
  | cons c s ih =>
    by_cases pipe : c = '|'
    · subst pipe
      simp [escapePipes_bar s,barsAfter,ih]
    · simp [escapePipes_other c s pipe,barsAfter,pipe,ih]

/-- The bar behind a cell is one more. -/
theorem barsAfter_cell (before : Char) (p rest : List Char) :
    barsAfter before (p ++ ' ' :: '|' :: ' ' :: rest) = barsAfter before p + 1 + openBars rest := by
  induction p generalizing before with
  | nil => simp [barsAfter,openBars]
  | cons c p ih =>
    rw [List.cons_append,barsAfter,ih,barsAfter]
    omega

/-! Cells without such bars. -/

/-- What a cell shows. -/
def cellText (p : List Char) : List Char := trimSpace (unescapePipes p)

theorem trimSpace_space (c : Char) (s : List Char) (space : isSpace c = true) :
    trimSpace (c :: s) = trimSpace s := by
  rw [trimSpace,List.dropWhile_cons_of_pos space,trimSpace]

theorem trimSpace_spaced (s : List Char) : trimSpace (s ++ [' ']) = trimSpace s := by
  unfold trimSpace
  rw [List.dropWhile_append]
  split
  · rename_i blank
    rw [List.isEmpty_iff.mp blank]
    rfl
  · rw [List.reverse_append,List.reverse_singleton,List.singleton_append,
      List.dropWhile_cons_of_pos (by decide)]

theorem unescapePipes_spaced (s : List Char) : unescapePipes (s ++ [' ']) = unescapePipes s ++ [' '] := by
  fun_induction unescapePipes s with
  | case1 rest ih => rw [List.cons_append,List.cons_append,unescapePipes,ih,List.cons_append]
  | case2 c rest other ih =>
    rw [List.cons_append,unescapePipes,ih,List.cons_append]
    rintro behind rfl same
    cases rest with
    | nil => simp at same
    | cons d rest =>
      obtain ⟨rfl,_⟩ := List.cons.inj same
      exact other rest rfl rfl
  | case3 => rfl

theorem cellText_spaced (p : List Char) : cellText (p ++ [' ']) = cellText p := by
  rw [cellText,unescapePipes_spaced,trimSpace_spaced,cellText]

theorem cellsFrom_closed (current p rest : List Char) (closed : barsAfter (current.headD ' ') p = 0) :
    cellsFrom false current (p ++ ' ' :: '|' :: ' ' :: rest) =
      (current.reverse ++ p ++ [' ']) :: cellsFrom true [] rest := by
  induction p generalizing current with
  | nil => simp [cellsFrom,isSpace]
  | cons c p ih =>
    rw [barsAfter,Nat.add_eq_zero_iff] at closed
    obtain ⟨here,later⟩ := closed
    -- No bar of the cell ends it, neither at its start nor behind a sign that is read already.
    have kept : ¬ (c = '|' ∧ current.head? ≠ some '\\') := by
      rintro ⟨rfl,unescaped⟩
      cases current with
      | nil => simp at here
      | cons d current => simp at here unescaped; exact unescaped here
    rw [List.cons_append,cellsFrom,if_neg (by simp),if_neg kept,ih (c :: current) later]
    simp

theorem cellsFrom_skipped (p rest : List Char) (closed : openBars p = 0) :
    ∃ cell, cellsFrom true [] (p ++ ' ' :: '|' :: ' ' :: rest) = cell :: cellsFrom true [] rest ∧
      cellText cell = cellText p := by
  induction p with
  | nil => exact ⟨[],by simp [cellsFrom,isSpace],rfl⟩
  | cons c p ih =>
    -- White space behind a bar is skipped on reading and would be trimmed from the cell anyway.
    by_cases space : isSpace c = true
    · have plain : c ≠ '\\' := by
        rintro rfl
        exact absurd space (by decide)
      have later : openBars p = 0 := by
        rw [openBars,barsAfter,barsAfter_congr c ' ' plain (by decide)] at closed
        exact (Nat.add_eq_zero_iff.mp closed).2
      obtain ⟨cell,read,shown⟩ := ih later
      have dropped : unescapePipes (c :: p) = c :: unescapePipes p := by
        rw [unescapePipes]
        rintro _ rfl
        exact absurd rfl plain
      refine ⟨cell,?_,?_⟩
      · rw [List.cons_append,cellsFrom,if_pos ⟨rfl,space⟩,read]
      · rw [shown,cellText,cellText,dropped,trimSpace_space c _ space]
    · have begun : cellsFrom true [] (c :: p ++ ' ' :: '|' :: ' ' :: rest) =
          cellsFrom false [] (c :: p ++ ' ' :: '|' :: ' ' :: rest) := by
        simp [cellsFrom,space]
      rw [begun,cellsFrom_closed [] (c :: p) rest closed]
      exact ⟨_,rfl,cellText_spaced (c :: p)⟩

theorem rowCells?_four (a b d s : List Char) (first : IsCell a) (second : openBars b = 0) (third : IsCell d) :
    ∃ cells, rowCells? (a ++ ' ' :: '|' :: ' ' ::
        (b ++ ' ' :: '|' :: ' ' :: (d ++ ' ' :: '|' :: ' ' :: escapePipes s))) = some cells ∧
      cellNodes 4 cells = [a,cellText b,d,trimSpace s].map fun cell => .node .tableCell (inlines [] cell) := by
  obtain ⟨cell,read,shown⟩ := cellsFrom_skipped b (d ++ ' ' :: '|' :: ' ' :: escapePipes s) second
  simp only [rowCells?,if_neg (first.solid _),first.cellsFrom,read,third.cellsFrom,cellsFrom_skip]
  refine ⟨_,rfl,?_⟩
  unfold cellText at shown
  split
  · rename_i blank
    have empty : trimSpace s = [] := by simp [trimSpace,blank]
    simp [cellNodes,first.kept,third.kept,shown,empty,cellText]
  · simp [cellNodes,first.kept,third.kept,shown,unescapePipes_escapePipes,trimSpace_skipped,cellText]

end Markdown

namespace Reference

/-! The lines of a table. -/

/-- The text ahead of the rows of the columns; its last two lines are the head of the table. -/
def opening (t : Table) : String :=
  "## " ++ t.name ++ "\n\n" ++ paragraph (.ofList (trim t.comment.toList)) ++
    "Column | Type | Optional | Description\n------ | ---- | -------- | -----------"

def optionalText (c : Column) : String := if c.optional then "true" else "false"

def columnLine (c : Column) : List Char :=
  c.name.toList ++ ' ' :: '|' :: ' ' :: (c.columnType.toList ++ ' ' :: '|' :: ' ' ::
    ((optionalText c).toList ++ ' ' :: '|' :: ' ' :: escapePipes (Comment.singleLine c.comment).toList))

theorem columnRow_line (c : Column) : (columnRow c).toList = columnLine c ++ ['\n'] := by
  simp [columnRow,columnLine,row,cell,escapePipes,optionalText]

theorem tableSection_lines (t : Table) : (tableSection t).toList =
    (opening t).toList ++ '\n' :: ((t.columns.map columnLine).flatMap (· ++ ['\n']) ++ ['\n']) := by
  have head : (row ["Column","Type","Optional","Description"]).toList ++
      (row ["------","----","--------","-----------"]).toList =
      "Column | Type | Optional | Description\n------ | ---- | -------- | -----------".toList ++ ['\n'] := by
    decide +kernel
  have rows : (String.join (t.columns.map columnRow)).toList =
      (t.columns.map columnLine).flatMap (· ++ ['\n']) := by
    rw [String.toList_join,List.flatMap_map,List.flatMap_map]
    exact congrArg (t.columns.flatMap ·) (funext columnRow_line)
  unfold tableSection opening
  simp only [String.toList_append,rows,List.append_assoc]
  rw [← List.append_assoc (row _).toList,head]
  simp only [List.append_assoc]
  rfl

theorem splitOn_feed (line rest : List Char) :
    (line ++ '\n' :: rest).splitOn '\n' = line.splitOn '\n' ++ rest.splitOn '\n' :=
  List.splitOnP_append_cons line rest rfl

theorem splitOn_lines (written : List (List Char)) (single : ∀ line ∈ written, '\n' ∉ line) (rest : List Char) :
    (written.flatMap (· ++ ['\n']) ++ rest).splitOn '\n' = written ++ rest.splitOn '\n' := by
  induction written with
  | nil => rfl
  | cons line written ih =>
    obtain ⟨own,later⟩ := List.forall_mem_cons.mp single
    rw [List.flatMap_cons,List.append_assoc,List.append_assoc,List.singleton_append,splitOn_feed,
      List.splitOn_eq_singleton own,ih later]
    rfl

theorem tables_lines (ts : List Table) (single : ∀ t ∈ ts, ∀ c ∈ t.columns, '\n' ∉ columnLine c) :
    (Reference.tables ts).toList.splitOn '\n' =
      ts.flatMap (fun t => (opening t).toList.splitOn '\n' ++ (t.columns.map columnLine ++ [[]])) ++ [[]] := by
  induction ts with
  | nil => rfl
  | cons t ts ih =>
    obtain ⟨own,later⟩ := List.forall_mem_cons.mp single
    have rows : ∀ line ∈ t.columns.map columnLine, '\n' ∉ line := List.forall_mem_map.mpr own
    have whole : (Reference.tables (t :: ts)).toList = (tableSection t).toList ++ (Reference.tables ts).toList := by
      simp [Reference.tables]
    rw [whole,tableSection_lines,List.append_assoc,List.cons_append,splitOn_feed,List.append_assoc,
      splitOn_lines _ rows,List.singleton_append,← List.nil_append ('\n' :: _),splitOn_feed,ih later,
      List.flatMap_cons]
    simp only [List.append_assoc]
    rfl

end Reference

theorem isBlank_of_isSpace (c : Char) (space : isSpace c = true) : isBlank c = true := by
  have bounds : c = ' ' ∨ ('\t'.toNat ≤ c.toNat ∧ c.toNat ≤ '\r'.toNat) := by
    simpa [isSpace,Char.le_def,UInt32.le_iff_toNat_le] using space
  rcases bounds with rfl | ⟨low,high⟩
  · decide
  · have within : 0x9 ≤ c.toNat ∧ c.toNat ≤ 0xD := ⟨low,high⟩
    simp [isBlank,inRanges,within]

theorem not_isSpace_of_not_blank (c : Char) (shown : isBlank c = false) : isSpace c = false := by
  rw [Bool.eq_false_iff]
  exact fun space => by simp [isBlank_of_isSpace c space] at shown

theorem IsWord.isCell {s : String} (named : IsWord s) : IsCell s.toList := by
  have solid (c : Char) (member : c ∈ s.toList) : isSpace c = false :=
    not_isSpace_of_not_blank c (not_blank_of_isWord c (named.2 c member))
  have filled : s.toList ≠ [] := fun empty => named.1 (String.toList_eq_nil_iff.mp empty)
  refine ⟨fun bar => absurd (named.2 '|' bar) (by decide),?_,?_⟩
  · exact ⟨_,List.head?_eq_some_head filled,solid _ (List.head_mem filled)⟩
  · exact ⟨_,List.getLast?_eq_some_getLast filled,solid _ (List.getLast_mem filled)⟩

theorem optionalText_isCell (c : Column) : IsCell (Reference.optionalText c).toList := by
  unfold Reference.optionalText
  split
  · exact ⟨by decide,⟨'t',rfl,rfl⟩,⟨'e',rfl,rfl⟩⟩
  · exact ⟨by decide,⟨'f',rfl,rfl⟩,⟨'e',rfl,rfl⟩⟩

theorem Column.IsRead.line_single {c : Column} (isRead : c.IsRead) : '\n' ∉ Reference.columnLine c := by
  have name : '\n' ∉ c.name.toList := fun feed => absurd (isRead.named.2 '\n' feed) (by decide)
  have shown : '\n' ∉ (Reference.optionalText c).toList := by
    unfold Reference.optionalText
    split
    · decide
    · decide
  have comment : '\n' ∉ escapePipes (Comment.singleLine c.comment).toList := by
    intro feed
    obtain ⟨d,inside,escaped⟩ := List.mem_flatMap.mp feed
    have same : d = '\n' := by
      split at escaped
      · exact absurd escaped (by decide)
      · exact (List.mem_singleton.mp escaped).symm
    rcases Comment.mem_singleLine c.comment d inside with broken | ⟨_,other⟩
    · rw [same] at broken
      exact absurd broken (by decide)
    · exact other same
  simp [Reference.columnLine,name,isRead.single,shown,comment]

theorem Column.IsRead.openBars_line {c : Column} (isRead : c.IsRead) :
    openBars (Reference.columnLine c) = 3 + openBars c.columnType.toList := by
  have name : openBars c.name.toList = 0 := barsAfter_none _ _ isRead.named.isCell.pipes
  have shown : openBars (Reference.optionalText c).toList = 0 := barsAfter_none _ _ (optionalText_isCell c).pipes
  have comment := barsAfter_escapePipes ' ' (Comment.singleLine c.comment).toList
  unfold openBars at name shown ⊢
  rw [Reference.columnLine,barsAfter_cell,openBars,barsAfter_cell,openBars,barsAfter_cell,openBars,name,shown,comment]
  omega

/-- Tables that are read from headers have a line for each column, in order, below their heads. A row
has three bars that end cells besides those of the type, and if the type has none, the row has the four
cells that it is made of. -/
theorem Reference.tables_rows (t : FileTree) (dialect : Dialect) (paths : List Path) (found : HeaderTables)
    (read : Header.parseFiles t dialect paths = .ok found) :
    (tables found.tables).toList.splitOn '\n' = found.tables.flatMap (fun table =>
      (opening table).toList.splitOn '\n' ++ (table.columns.map columnLine ++ [[]])) ++ [[]] ∧
    ∀ table ∈ found.tables, ∀ c ∈ table.columns,
      openBars (columnLine c) = 3 + openBars c.columnType.toList ∧
      (openBars c.columnType.toList = 0 → ∃ cells, rowCells? (columnLine c) = some cells ∧
        cellNodes 4 cells = [c.name.toList,cellText c.columnType.toList,(optionalText c).toList,
          trimSpace (Comment.singleLine c.comment).toList].map fun cell => .node .tableCell (inlines [] cell)) := by
  have isRead := Header.parseFiles_isRead t dialect paths found read
  refine ⟨tables_lines found.tables fun table member c inside => ?_,
    fun table member c inside => ⟨?_,fun closed => ?_⟩⟩
  · exact ((isRead table member).columns c inside).line_single
  · exact ((isRead table member).columns c inside).openBars_line
  · have named := ((isRead table member).columns c inside).named
    exact rowCells?_four _ _ _ _ named.isCell closed (optionalText_isCell c)

/-! A column whose type holds a bar, or none. -/

def flagsText (type : String) : String :=
  "#define F(C) \\\n  NAME(Foo, f) \\\n  C(" ++ type ++ ", x)\nPERFETTO_TP_TABLE(F)\n"

def flagsTree (type : String) : FileTree := ⟨[],[(["a.h"],.file (flagsText type).toUTF8)]⟩

def flagColumn (type : String) : Column := ⟨"x",type,false,""⟩

def flagged (type : String) : Table := ⟨"Foo","",[flagColumn type]⟩

theorem flags_rows :
    Header.parseFiles (flagsTree "Any<A>") .standard [⟨"a.h"⟩] = .ok ⟨[flagged "Any<A>"],[]⟩ ∧
    (Reference.tables [flagged "Any<A>"]).toList.splitOn '\n' =
      ["## Foo","","Column | Type | Optional | Description","------ | ---- | -------- | -----------",
        "x | Any<A> | false | ","",""].map String.toList ∧
    openBars "Any<A>".toList = 0 ∧ openBars (Reference.columnLine (flagColumn "Any<A>")) = 3 ∧
    ∃ cells, rowCells? (Reference.columnLine (flagColumn "Any<A>")) = some cells ∧
      cellNodes 4 cells = ["x","Any<A>","false",""].map fun cell => .node .tableCell (inlines [] cell.toList) := by
  have read : Header.parseFiles (flagsTree "Any<A>") .standard [⟨"a.h"⟩] = .ok ⟨[flagged "Any<A>"],[]⟩ :=
    ok_of_toOption _ _ (by decide +kernel)
  obtain ⟨lines,rows⟩ := Reference.tables_rows _ _ _ _ read
  obtain ⟨counted,cells⟩ := rows (flagged "Any<A>") (by simp) (flagColumn "Any<A>") (by simp [flagged])
  have closed : openBars "Any<A>".toList = 0 := by decide
  refine ⟨read,?_,closed,?_,cells closed⟩
  · rw [lines]
    decide +kernel
  · rw [counted]
    decide

/-- A bar in the type ends the cell early, and the rest of the type takes the place of the next one. -/
theorem flags_split :
    Header.parseFiles (flagsTree "Any<A|B>") .standard [⟨"a.h"⟩] = .ok ⟨[flagged "Any<A|B>"],[]⟩ ∧
    Reference.columnLine (flagColumn "Any<A|B>") = "x | Any<A|B> | false | ".toList ∧
    openBars (Reference.columnLine (flagColumn "Any<A|B>")) = 4 ∧
    rowCells? (Reference.columnLine (flagColumn "Any<A|B>")) =
      some (["x","Any<A","B>","false"].map String.toList) :=
  ⟨ok_of_toOption _ _ (by decide +kernel),by decide +kernel,by decide +kernel,by decide +kernel⟩

end ReferenceSite
