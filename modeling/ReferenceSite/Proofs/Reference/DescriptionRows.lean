import ReferenceSite.Proofs.Reference.TableDocument

/-! Descriptions in the references of tables and of types. Each row is read by itself, and where no cell
holds a carriage return the document has each description as the last cell of its own row. -/
namespace ReferenceSite
open ReferenceSite.Text ReferenceSite.Markdown

/-- A type with the comments of its fields or values replaced. -/
def TypeBody.withRemarks (f : String → String) : TypeBody → TypeBody
  | .enumeration values => .enumeration (values.map fun v => { v with comment := f v.comment })
  | .message fields => .message (fields.map fun x => { x with comment := f x.comment })

def Entity.withRemarks (f : String → String) (e : Entity) : Entity :=
  { e with definition.body := e.definition.body.withRemarks f }

@[simp] theorem Entity.withRemarks_body (f : String → String) (e : Entity) :
    (e.withRemarks f).definition.body = e.definition.body.withRemarks f := rfl

namespace Reference

/-- The first two cells of each row as they are written, and the comment that the third one shows. -/
def bodyCells : TypeBody → List (String × String × String)
  | .enumeration values => values.map fun v => (code v.name,code (toString v.number),v.comment)
  | .message fields => fields.map fun f => (code f.name,fieldType f,f.comment)

theorem bodyRows_of_cells (body : TypeBody) : bodyRows body =
    (bodyCells body).map fun r => (r.1.toList,r.2.1.toList,(Comment.singleLine r.2.2).toList) := by
  cases body with
  | enumeration values => simp [bodyRows,bodyCells]
  | message fields => simp [bodyRows,bodyCells]

theorem bodyCells_withRemarks (f : String → String) (body : TypeBody) : bodyCells (body.withRemarks f) =
    (bodyCells body).map fun r => (r.1,r.2.1,f r.2.2) := by
  cases body with
  | enumeration values => simp [TypeBody.withRemarks,bodyCells]
  | message fields => simp [TypeBody.withRemarks,bodyCells,fieldType]

theorem bodyOpening_withRemarks (f : String → String) (body : TypeBody) :
    bodyOpening (body.withRemarks f) = bodyOpening body := by
  cases body with
  | enumeration values => rfl
  | message fields => rfl

/-! The lines of a section. -/

/-- The lines of a section down to the head of its table. -/
def sectionAbove (e : Entity) : List (List Char) :=
  [List.replicate (level e) '#' ++ ' ' :: (title e.definition.fullName).toList,[]] ++
    proseLines e.definition.prose ++ [sourceLine e.definition.file,[]] ++ bodyOpening e.definition.body

theorem sectionLines_parts (e : Entity) :
    sectionLines e = sectionAbove e ++ ((bodyRows e.definition.body).map rowLine ++ [[]]) := by
  simp only [sectionLines,sectionAbove,List.append_assoc]

theorem sectionAbove_withRemarks (f : String → String) (e : Entity) : sectionAbove (e.withRemarks f) = sectionAbove e := by
  have opened := bodyOpening_withRemarks f e.definition.body
  unfold sectionAbove Entity.withRemarks
  rw [opened]
  rfl

theorem rowLine_read (a b comment : List Char) (first : IsLine a) (second : IsLine b) :
    (rowLine (a,b,comment)).map readSign = rowLine (a,b,comment.map readSign) := by
  have bar : readSign '|' = '|' ∧ readSign ' ' = ' ' := by decide
  simp only [rowLine,List.map_append,List.map_cons,bar,map_readSign _ first,map_readSign _ second,escapePipes_read]

/-- The lines of a section, with what the cells show for the comments. -/
theorem sectionLines_shown (e : Entity) : sectionLines (e.withRemarks described) = sectionAbove e ++
    ((bodyCells e.definition.body).map (fun r => rowLine (r.1.toList,r.2.1.toList,(described r.2.2).toList)) ++ [[]]) := by
  rw [sectionLines_parts,sectionAbove_withRemarks,Entity.withRemarks_body,bodyRows_of_cells,bodyCells_withRemarks]
  simp only [List.map_map,Function.comp_def,singleLine_described]

/-- They are what the signs of the section are read as. -/
theorem sectionLines_read (e : Entity) (printable : (e.withRemarks described).definition.IsPrintable) :
    (sectionLines e).map (List.map readSign) = sectionLines (e.withRemarks described) := by
  have single := isLine_section _ printable
  rw [sectionLines_shown] at single ⊢
  obtain ⟨above,below⟩ := List.forall_mem_append.mp single
  have rows : ((bodyRows e.definition.body).map rowLine).map (List.map readSign) = (bodyCells e.definition.body).map
      fun r => rowLine (r.1.toList,r.2.1.toList,(described r.2.2).toList) := by
    rw [bodyRows_of_cells,List.map_map,List.map_map]
    refine List.map_congr_left fun r member => ?_
    have own : IsLine (rowLine (r.1.toList,r.2.1.toList,(described r.2.2).toList)) :=
      below _ (List.mem_append_left _ (List.mem_map_of_mem member))
    rw [rowLine,isLine_append,isLine_cons,isLine_cons,isLine_cons,isLine_append] at own
    simp only [Function.comp,rowLine_read _ _ _ own.1 own.2.2.2.2.1,described_signs]
  rw [sectionLines_parts,List.map_append,map_readSign_lines _ above,List.map_append,rows]
  rfl

/-! The nodes of a section. -/

def describedRow (r : String × String × String) : Node :=
  .node (.tableRow false) ([r.1.toList,r.2.1.toList,(described r.2.2).toList].map cellNode)

def typeNodes (e : Entity) : List Node :=
  [.node (.heading (level e)) (inlines [] (title e.definition.fullName).toList)] ++ proseNodes e.definition.prose ++
    [.node .paragraph (inlines [] (sourceLine e.definition.file ++ ['\n'])),
      .node (.heading 4) (inlines [] (bodyTitle e.definition.body).toList),
      .node (.table (List.replicate 3 .unset))
        (.node (.tableRow true) ((bodyHeads e.definition.body).map fun head => cellNode head.toList) ::
          (bodyCells e.definition.body).map describedRow)]

theorem sectionNodes_withRemarks (f : String → String) (e : Entity) : sectionNodes (e.withRemarks f) =
    [.node (.heading (level e)) (inlines [] (title e.definition.fullName).toList)] ++ proseNodes e.definition.prose ++
      [.node .paragraph (inlines [] (sourceLine e.definition.file ++ ['\n']))] ++
      [.node (.heading 4) (inlines [] (bodyTitle (e.definition.body.withRemarks f)).toList),
        bodyNode (e.definition.body.withRemarks f)] := rfl

theorem typeNodes_shown (e : Entity) : sectionNodes (e.withRemarks described) = typeNodes e := by
  have heads (f : String → String) (body : TypeBody) :
      bodyTitle (body.withRemarks f) = bodyTitle body ∧ bodyHeads (body.withRemarks f) = bodyHeads body := by
    cases body with
    | enumeration values => exact ⟨rfl,rfl⟩
    | message fields => exact ⟨rfl,rfl⟩
  have rows (body : TypeBody) : (bodyRows (body.withRemarks described)).map rowNode = (bodyCells body).map describedRow := by
    rw [bodyRows_of_cells,bodyCells_withRemarks,List.map_map,List.map_map]
    refine List.map_congr_left fun r _ => ?_
    obtain ⟨opens,closes⟩ := described_solid r.2.2
    simp only [Function.comp,singleLine_described,rowNode,describedRow,trimSpace_kept _ opens closes]
  rw [sectionNodes_withRemarks,typeNodes,bodyNode,(heads _ _).1,(heads _ _).2,rows,List.append_assoc]
  rfl

theorem isPrintable_withRemarks (f g : String → String) (e : Entity)
    (printable : (e.withRemarks f).definition.IsPrintable)
    (remarks : ∀ r ∈ bodyCells e.definition.body, IsComment (g r.2.2)) :
    (e.withRemarks g).definition.IsPrintable := by
  refine ⟨printable.name,printable.comment,printable.prose,printable.file,?_⟩
  have body := printable.body
  rw [Entity.withRemarks_body] at body ⊢
  cases shape : e.definition.body with
  | enumeration values =>
    rw [shape] at body remarks
    refine List.forall_mem_map.mpr fun v member => ?_
    exact ⟨(List.forall_mem_map.mp body v member).name,List.forall_mem_map.mp remarks v member⟩
  | message fields =>
    rw [shape] at body remarks
    refine List.forall_mem_map.mpr fun x member => ?_
    have own := List.forall_mem_map.mp body x member
    exact ⟨own.name,own.type,own.target,List.forall_mem_map.mp remarks x member⟩

/-- Without returns in the cells, the description of each field and value is in the last cell of its row. -/
theorem parse_described (es : List Entity) (printable : ∀ e ∈ es, (e.withRemarks fun _ => "").definition.IsPrintable)
    (single : ∀ e ∈ es, ∀ r ∈ bodyCells e.definition.body, '\r' ∉ (cell r.2.2).toList) :
    parse (types es) = .node .document (es.flatMap typeNodes) := by
  have shown (e : Entity) (member : e ∈ es) : (e.withRemarks described).definition.IsPrintable :=
    isPrintable_withRemarks _ _ e (printable e member) fun r inside c read =>
      (isLine_described r.2.2 (single e member r inside) c read).2
  have read : (es.flatMap sectionLines).map (List.map readSign) =
      es.flatMap fun e => sectionLines (e.withRemarks described) := by
    rw [List.map_flatMap]
    exact List.flatMap_congr fun e member => sectionLines_read e (shown e member)
  have reads := Reads.flatMap es (fun e => sectionLines (e.withRemarks described)) typeNodes fun e member =>
    typeNodes_shown e ▸ reads_section _ (shown e member)
  refine reads.parse_read _ ?_ ?_ ?_
  · rw [types_lines,map_readSign_joined,read]
  · rw [types_lines]
    cases es with
    | nil => simp
    | cons e es => simp [sectionLines,level,List.replicate_succ]
  · intro line member
    obtain ⟨e,inside,within⟩ := List.mem_flatMap.mp member
    exact isLine_section _ (shown e inside) line within

/-! The lines of whole references. -/

theorem documentLines_tables (ts : List Table) : documentLines [] (tables ts).toList = ts.flatMap fun t =>
    documentLines [] ((opening t).toList ++ ['\n']) ++
      (t.columns.flatMap fun c => rowLines [c.name,c.columnType,optionalText c] c.comment) ++ [[]] := by
  have parts (t : Table) : (tableSection t).toList =
      ((opening t).toList :: (t.columns.map columnLine ++ [[]])).flatMap (· ++ ['\n']) := by
    simp [tableSection_lines]
  have rows (c : Column) : rowLines [c.name,c.columnType,optionalText c] c.comment =
      documentLines [] (columnLine c ++ ['\n']) := congrArg (documentLines []) (columnRow_line c)
  have whole : (tables ts).toList =
      (ts.flatMap fun t => (opening t).toList :: (t.columns.map columnLine ++ [[]])).flatMap (· ++ ['\n']) := by
    rw [tables,String.toList_join,List.flatMap_map,List.flatMap_assoc]
    exact congrArg (ts.flatMap ·) (funext parts)
  have read := documentLines_parts (ts.flatMap fun t => (opening t).toList :: (t.columns.map columnLine ++ [[]])) []
  rw [List.append_nil] at read
  rw [whole,read]
  simp [List.flatMap_assoc,rows,List.flatMap_map,documentLines]

theorem documentLines_types (es : List Entity) : documentLines [] (types es).toList = es.flatMap fun e =>
    documentLines [] ((sectionAbove e).flatMap (· ++ ['\n'])) ++
      ((bodyCells e.definition.body).flatMap fun r => rowLines [r.1,r.2.1] r.2.2) ++ [[]] := by
  have rows (r : String × String × String) : rowLines [r.1,r.2.1] r.2.2 =
      documentLines [] (rowLine (r.1.toList,r.2.1.toList,(Comment.singleLine r.2.2).toList) ++ ['\n']) :=
    congrArg (documentLines []) (row_line _ _ _)
  have above (e : Entity) := documentLines_parts (sectionAbove e) []
  have read := documentLines_parts (es.flatMap sectionLines) []
  rw [List.append_nil] at read
  simp only [List.append_nil] at above
  rw [types_lines,read]
  simp [List.flatMap_assoc,sectionLines_parts,bodyRows_of_cells,above,rows,List.flatMap_map,documentLines]

/-- A cell has no line feed and no bar that ends it, and it holds a return if and only if one stands
within a line of the comment. A description stays in its row if and only if there is no return in its
cell. The lines of a reference are those of its rows, and of what stands ahead of them and behind. Without
returns in the cells the tables of the document have the rows that were written, and each ends in its
description. -/
theorem descriptions_kept (comment : String) (ts : List Table) (above : Table → List Node) (es : List Entity) :
    ('\n' ∉ (cell comment).toList ∧ openBars (cell comment).toList = 0 ∧
      ('\r' ∈ (cell comment).toList ↔ ∃ line ∈ wholeLines comment.toList, '\r' ∈ trim line)) ∧
    (∀ cells, cells ≠ [] → (StaysInRow cells comment ↔ '\r' ∉ (cell comment).toList)) ∧
    (documentLines [] (tables ts).toList = ts.flatMap fun t =>
      documentLines [] ((opening t).toList ++ ['\n']) ++
        (t.columns.flatMap fun c => rowLines [c.name,c.columnType,optionalText c] c.comment) ++ [[]]) ∧
    (documentLines [] (types es).toList = es.flatMap fun e =>
      documentLines [] ((sectionAbove e).flatMap (· ++ ['\n'])) ++
        ((bodyCells e.definition.body).flatMap fun r => rowLines [r.1,r.2.1] r.2.2) ++ [[]]) ∧
    ((∀ t ∈ ts, t.IsPrintable (above t)) → (∀ t ∈ ts, ∀ c ∈ t.columns, '\r' ∉ (cell c.comment).toList) →
      parse (tables ts) = .node .document (ts.flatMap fun t => tableNodes (above t) t)) ∧
    ((∀ e ∈ es, (e.withRemarks fun _ => "").definition.IsPrintable) →
      (∀ e ∈ es, ∀ r ∈ bodyCells e.definition.body, '\r' ∉ (cell r.2.2).toList) →
      parse (types es) = .node .document (es.flatMap typeNodes)) := by
  refine ⟨⟨cell_single comment,cell_bars comment,cell_returned comment⟩,fun cells filled => ?_,documentLines_tables ts,
    documentLines_types es,parse_tables ts above,parse_described es⟩
  exact staysInRow_iff cells filled comment

/-! A comment of two lines, and one with a return in its line. -/

def noted (comment : String) : Table := ⟨"Foo","",[⟨"x","int",false,comment⟩]⟩

def listed (comment : String) : Entity := ⟨⟨"E","E","E","","a.proto",.enumeration [⟨"A",0,comment⟩]⟩,0⟩

theorem noted_printable (comment : String) : (noted comment).IsPrintable [] := by
  have word (s : String) (filled : s ≠ "") (signs : s.toList.all isWord = true) : IsWord s :=
    ⟨filled,List.all_eq_true.mp signs⟩
  have type : IsLine "int".toList := List.all_iff_forall_prop.mp (by decide)
  have closed : openBars "int".toList = 0 := by decide
  exact ⟨word "Foo" (by decide) (by decide +kernel),.nil,List.forall_mem_nil _,
    List.forall_mem_singleton.mpr ⟨word "x" (by decide) (by decide +kernel),type,closed⟩⟩

theorem listed_printable (comment : String) : ((listed comment).withRemarks fun _ => "").definition.IsPrintable := by
  have name : IsName "E" := by decide
  have value : IsCode "A" := isCode_of_isName "A" (by decide)
  have silent : IsComment "" := List.forall_mem_nil _
  have file : ∀ c ∈ "a.proto".toList, isFileSign c = true := List.all_eq_true.mp (by decide +kernel)
  exact ⟨name,silent,.inl (TypeDef.prose_eq_nil _ rfl),file,List.forall_mem_singleton.mpr ⟨value,silent⟩⟩

theorem wrapped_kept :
    cell "One\r\ntwo | three" = "One two \\| three" ∧ StaysInRow ["x","int","false"] "One\r\ntwo | three" ∧
    parse (tables [noted "One\r\ntwo | three"]) = .node .document (tableNodes [] (noted "One\r\ntwo | three")) ∧
    parse (types [listed "One\r\ntwo | three"]) = .node .document (typeNodes (listed "One\r\ntwo | three")) := by
  obtain ⟨_,cells,_,_,columns,values⟩ := descriptions_kept "One\r\ntwo | three" [noted "One\r\ntwo | three"] (fun _ => [])
    [listed "One\r\ntwo | three"]
  have shown : cell "One\r\ntwo | three" = "One two \\| three" := by decide +kernel
  have single : '\r' ∉ (cell "One\r\ntwo | three").toList := by
    rw [shown]
    decide
  refine ⟨shown,(cells _ (by simp)).mpr single,?_,?_⟩
  · have read := columns (List.forall_mem_singleton.mpr (noted_printable _))
      (List.forall_mem_singleton.mpr (List.forall_mem_singleton.mpr single))
    rwa [List.flatMap_singleton] at read
  · have read := values (List.forall_mem_singleton.mpr (listed_printable _))
      (List.forall_mem_singleton.mpr (List.forall_mem_singleton.mpr single))
    rwa [List.flatMap_singleton] at read

def returnedText : String :=
  "// @param x a\rb\n#define F(C) \\\n  NAME(Foo, f) \\\n  C(int, x)\nPERFETTO_TP_TABLE(F)\n"

def returnedTree : FileTree := ⟨[],[(["a.h"],.file returnedText.toUTF8)]⟩

/-- The return ends the row, and what stands behind it is read as one more row. -/
theorem returned_split :
    Header.parseFiles returnedTree .standard [⟨"a.h"⟩] = .ok ⟨[noted "a\rb\n"],[]⟩ ∧
    cell "a\rb\n" = "a\rb" ∧ ¬ StaysInRow ["x","int","false"] "a\rb\n" ∧
    parse (tables [noted "a\rb\n"]) = .node .document
      [.node (.heading 2) (inlines [] "Foo".toList),
        .node (.table (List.replicate 4 .unset))
          [.node (.tableRow true) (columnHeads.map fun head => cellNode head.toList),
            .node (.tableRow false) (["x","int","false","a"].map fun cell => cellNode cell.toList),
            .node (.tableRow false) (["b","","",""].map fun cell => cellNode cell.toList)]] := by
  have read : Header.parseFiles returnedTree .standard [⟨"a.h"⟩] = .ok ⟨[noted "a\rb\n"],[]⟩ :=
    ok_of_toOption _ _ (by decide +kernel)
  have shown : cell "a\rb\n" = "a\rb" := by decide +kernel
  refine ⟨read,shown,?_,?_⟩
  · rw [staysInRow_iff _ (by simp),shown]
    decide
  · have first : Quiet "x | int | false | a".toList :=
      .of_word "x".toList " int | false | a".toList (by decide) (List.all_eq_true.mp (by decide +kernel))
    have second : Quiet "b".toList := .of_first 'b' [] (by decide) (by decide) (by decide)
    have rows := columns_table.reads_alone
      [("x | int | false | a".toList,["x","int","false","a"].map String.toList),("b".toList,["b".toList])]
      (List.forall_mem_cons.mpr ⟨first,List.forall_mem_singleton.mpr second⟩)
      (List.forall_mem_cons.mpr ⟨by decide +kernel,List.forall_mem_singleton.mpr (by decide +kernel)⟩)
    have reads := (Reads.heading 2 (by decide) "Foo".toList ⟨'F',rfl,by decide⟩).append rows
    exact reads.parse_lines _ (by decide +kernel) (by decide +kernel)

end Reference

end ReferenceSite
