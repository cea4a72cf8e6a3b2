import ReferenceSite.Markdown.Document
import ReferenceSite.Proofs.Text.Lines

/-! How a document is read that consists of headings, paragraphs of one line, and tables right
behind a heading. Each of these is read by itself: behind the blank line after it only the document
is open, with one more node in it. -/
namespace ReferenceSite.Markdown
open ReferenceSite.Text

/-! Lines. -/

/-- Holds nothing that ends a line or is replaced when lines are read. -/
def IsLine (s : List Char) : Prop := ∀ c ∈ s, c ≠ '\n' ∧ c ≠ '\r' ∧ c ≠ '\x00'

theorem documentLines_line (current line rest : List Char) (single : IsLine line) :
    documentLines current (line ++ '\n' :: rest) =
      (current.reverse ++ line) :: documentLines [] rest := by
  induction line generalizing current with
  | nil => simp [documentLines]
  | cons c line ih =>
    obtain ⟨⟨feed,back,zero⟩,later⟩ := List.forall_mem_cons.mp single
    have further := ih (c :: current) later
    rw [List.cons_append,documentLines]
    · simpa [feed,back,zero] using further
    · rintro _ rfl
      exact absurd rfl back

theorem documentLines_joined (written : List (List Char)) (single : ∀ line ∈ written, IsLine line) :
    documentLines [] (written.flatMap (· ++ ['\n'])) = written := by
  induction written with
  | nil => rfl
  | cons line written ih =>
    obtain ⟨first,later⟩ := List.forall_mem_cons.mp single
    simp only [List.flatMap_cons,List.append_assoc,List.singleton_append]
    rw [documentLines_line [] line _ first,ih later]
    rfl

theorem readLines_append (o : Outline) (n : Nat) (before after : List (List Char)) :
    readLines o n (before ++ after) = readLines (readLines o n before) (n + before.length) after := by
  induction before generalizing o n with
  | nil => rfl
  | cons text before ih =>
    rw [List.cons_append,readLines,readLines,ih,List.length_cons,Nat.add_right_comm,Nat.add_assoc]

/-! Lines that open no block but a paragraph. -/

/-- Begins with a sign that is no white space. -/
def IsSolid (s : List Char) : Prop := ∃ c, s.head? = some c ∧ isSpace c = false

theorem isSpaceOrTab_of_not_isSpace (c : Char) (solid : isSpace c = false) : isSpaceOrTab c = false := by
  rw [Bool.eq_false_iff]
  intro blank
  have either : c = ' ' ∨ c = '\t' := by simpa [isSpaceOrTab] using blank
  rcases either with rfl | rfl
  · exact absurd solid (by decide)
  · exact absurd solid (by decide)

theorem IsSolid.dropWhile {s : List Char} (solid : IsSolid s) : s.dropWhile isSpaceOrTab = s := by
  obtain ⟨c,first,solid⟩ := solid
  refine dropWhile_kept isSpaceOrTab s fun d first' => ?_
  rw [first] at first'
  cases first'
  exact isSpaceOrTab_of_not_isSpace c solid

theorem IsSolid.start {s : List Char} (solid : IsSolid s) : (Cursor.start s).indent = 0 ∧
    (Cursor.start s).body = s ∧ (Cursor.start s).isBlank = false := by
  have body : (Cursor.start s).body = s := solid.dropWhile
  obtain ⟨c,first,solid⟩ := solid
  cases s with
  | nil => simp at first
  | cons d s =>
    obtain rfl : d = c := by simpa using first
    refine ⟨?_,body,by simp [Cursor.isBlank,body]⟩
    unfold Cursor.indent Cursor.start
    simp only [Nat.zero_add]
    unfold Cursor.blankColumns
    split
    · rename_i same
      exact absurd ((List.cons.inj same).1 ▸ solid) (by decide)
    · rename_i same
      exact absurd ((List.cons.inj same).1 ▸ solid) (by decide)
    · rfl

theorem IsSolid.not_blank {s : List Char} (solid : IsSolid s) : s.all isSpace = false := by
  obtain ⟨c,first,solid⟩ := solid
  rw [List.all_eq_false]
  exact ⟨c,List.mem_of_head? first,by simp [solid]⟩

structure Quiet (s : List Char) : Prop where
  solid : IsSolid s
  quote : s.head? ≠ some '>'
  heading : headingMarker? s = none
  fence : fenceMarker? s = none
  raw : RawBlock.start? false s = none
  rule : isRule s = false
  item : itemMarker? false s = none

theorem openBlocks_document (line : Nat) (o : Outline) (s : List Char) (quiet : Quiet s)
    (lazy : Bool) (document : o.top.shape = .document) :
    openBlocks line 0 lazy false o (.start s) = (o,.start s,false) := by
  obtain ⟨indent,body,_⟩ := quiet.solid.start
  unfold openBlocks
  simp only [document,indent,body,quiet.quote,quiet.heading,quiet.fence,quiet.raw,quiet.rule,
    Shape.isParagraph]
  simp
  split
  · rename_i marked
    simp [document,indent,body,quiet.item,listLimit] at marked
  · rfl

theorem openBlocks_table (line : Nat) (o : Outline) (s : List Char) (quiet : Quiet s)
    (lazy : Bool) (alignments : List Alignment) (table : o.top.shape = .table alignments)
    (cells : List (List Char)) (row : rowCells? s = some cells) :
    openBlocks line 0 lazy false o (.start s) =
      (openRow o alignments cells,(Cursor.start s).finish,true) := by
  obtain ⟨indent,body,_⟩ := quiet.solid.start
  unfold openBlocks
  simp only [table,indent,body,quiet.quote,quiet.heading,quiet.fence,quiet.raw,quiet.rule,
    Shape.isParagraph,row]
  simp
  split
  · rename_i marked
    simp [table,indent,body,quiet.item,listLimit] at marked
  · rfl

theorem openBlocks_blank (line : Nat) (o : Outline) (lazy : Bool) (document : o.top.shape = .document) :
    openBlocks line 0 lazy false o (.start []) = (o,.start [],false) := by
  unfold openBlocks
  simp [document,Cursor.start,Cursor.indent,Cursor.blankColumns,Cursor.body,Cursor.isBlank,
    headingMarker?,fenceMarker?,RawBlock.start?,isRule,Shape.isParagraph]
  split
  · rename_i marked
    simp [document,itemMarker?,markerAt?] at marked
  · rfl

/-! What is open between the lines. -/

/-- Only the document is open, and it holds these nodes. -/
structure Standing (o : Outline) (nodes : List Node) : Prop where
  document : o.top.shape = .document
  outer : o.outer = []
  references : o.references = []
  holds : Block.toNodes [] o.top.children.reverse = nodes

/-- One block is open in the document. It ends at a blank line, and leaves these nodes. -/
structure Hanging (o : Outline) (nodes : List Node) : Prop where
  outer : ∃ parent, o.outer = [parent] ∧ parent.shape = .document
  ends : o.top.meet false (.start []) = .ended
  closes : ∀ blank, Standing (Outline.close { o with top.blankEnd := blank }) nodes

theorem toNodes_append (references : References) (before after : List Block) :
    Block.toNodes references (before ++ after) =
      Block.toNodes references before ++ Block.toNodes references after := by
  induction before with
  | nil => simp [Block.toNodes]
  | cons b before ih => simp [Block.toNodes,ih]

theorem Standing.start : Standing .start [] := ⟨rfl,rfl,rfl,by simp [Outline.start,Block.toNodes]⟩

theorem readLine_blank (o : Outline) (n : Nat) (nodes : List Node) (hanging : Hanging o nodes) :
    Standing (readLine o n []) nodes := by
  obtain ⟨⟨parent,outer,document⟩,ends,closes⟩ := hanging
  have met : meetAll 0 (.start []) (o.top :: o.outer).reverse = (1,some (.start [])) := by
    have first : parent.meet true (.start []) = .continued (.start []) := by
      simp [OpenBlock.meet,document]
    simp [outer,meetAll,first,ends]
  have depth : o.depth = 2 := by simp [Outline.depth,outer]
  have once : o.closeTo 1 = o.close := by simp [Outline.closeTo,depth,Nat.repeat]
  have none : o.closeTo 2 = o := by simp [Outline.closeTo,depth,Nat.repeat]
  have shape : (o.closeTo 1).top.shape = .document := once ▸ (closes o.top.blankEnd).document
  have blank : (Cursor.start []).isBlank = true := rfl
  unfold readLine
  simp only [met,openBlocks_blank n (o.closeTo 1) _ shape,depth,none,blank]
  simp
  obtain ⟨document,outer,references,holds⟩ := closes true
  refine ⟨?_,?_,?_,?_⟩
  all_goals simp [addRest,document,outer,references,holds,blank,unmark]

theorem headingMarker?_signs (level : Nat) (small : 1 ≤ level ∧ level ≤ 6) (s : List Char)
    (solid : IsSolid s) :
    headingMarker? (List.replicate level '#' ++ ' ' :: s) = some (level,level + 1) := by
  have signs : (List.replicate level '#' ++ ' ' :: s).takeWhile (· = '#') = List.replicate level '#' := by
    rw [List.takeWhile_append_of_pos (by simp [List.mem_replicate])]
    simp
  have gap : s.takeWhile isSpaceOrTab = [] := by
    have kept := List.takeWhile_append_dropWhile (p := isSpaceOrTab) (l := s)
    rwa [solid.dropWhile,List.append_left_eq_self] at kept
  simp [headingMarker?,signs,gap,small,isSpaceOrTab]

theorem readLine_headingOpen (n level : Nat) (small : 1 ≤ level ∧ level ≤ 6) (s text : List Char)
    (solid : IsSolid s) (blankEnd : Bool) (children : List Block) :
    readLine ⟨⟨.document,text,blankEnd,children⟩,[],[]⟩ n (List.replicate level '#' ++ ' ' :: s) =
      ⟨⟨.heading level,chopClosing s,false,[]⟩,[⟨.document,text,false,children⟩],[]⟩ := by
  have marker := headingMarker?_signs level small s solid
  generalize whole : List.replicate level '#' ++ ' ' :: s = line at *
  have sign : line.head? = some '#' := by
    obtain ⟨m,rfl⟩ : ∃ m, level = m + 1 := ⟨level - 1,by omega⟩
    simp [← whole,List.replicate_succ]
  have start := IsSolid.start ⟨'#',sign,by decide⟩
  have opened : openBlocks n 0 false false ⟨⟨.document,text,blankEnd,children⟩,[],[]⟩ (.start line) =
      (⟨⟨.heading level,[],false,[]⟩,[⟨.document,text,blankEnd,children⟩],[]⟩,⟨0,level + 1,s⟩,true) := by
    have behind : (Cursor.start line).skipBody (level + 1) = ⟨0,level + 1,s⟩ := by
      have column : (Cursor.start line).column = 0 := rfl
      rw [Cursor.skipBody,start.1,start.2.1,column]
      simp [← whole,List.drop_append]
    unfold openBlocks
    simp [start.1,start.2.1,sign,marker,behind,Outline.push,Outline.closeFor]
  have body : (⟨0,level + 1,s⟩ : Cursor).body = s := solid.dropWhile
  have filled : s ≠ [] := by
    rintro rfl
    obtain ⟨c,first,_⟩ := solid
    simp at first
  unfold readLine
  simp [meetAll,OpenBlock.meet,Outline.closeTo,Outline.depth,Nat.repeat,Shape.isParagraph,opened,addRest,
    Cursor.isBlank,body,unmark,Outline.addText,filled]

theorem readLine_heading (o : Outline) (n : Nat) (nodes : List Node) (standing : Standing o nodes)
    (level : Nat) (small : 1 ≤ level ∧ level ≤ 6) (s : List Char) (solid : IsSolid s) :
    Hanging (readLine o n (List.replicate level '#' ++ ' ' :: s))
      (nodes ++ [.node (.heading level) (inlines [] (chopClosing s))]) := by
  obtain ⟨⟨shape,text,blankEnd,children⟩,outer,references⟩ := o
  obtain ⟨rfl,rfl,rfl,rfl⟩ := standing
  rw [readLine_headingOpen n level small s text solid]
  refine ⟨⟨_,rfl,rfl⟩,rfl,fun blank => ⟨rfl,rfl,rfl,?_⟩⟩
  simp [Outline.close,Outline.complete,toNodes_append,Block.toNodes,Block.toNode]

theorem scanDefinition?_none (s : List Char) (unlabelled : s.head? ≠ some '[') :
    scanDefinition? s = none := by
  have label : scanLabel? s = none := by
    cases s with
    | nil => rfl
    | cons c s =>
      rw [scanLabel?]
      intro _ same
      exact unlabelled (by rw [(List.cons.inj same).1]; rfl)
  simp [scanDefinition?,label]

theorem takeDefinitions_none (limit : Nat) (s : List Char) (none : scanDefinition? s = none) :
    takeDefinitions limit [] s = ([],s) := by
  rw [takeDefinitions]
  intro _ _ _ _ _ found
  simp [none] at found

theorem readLine_paragraphOpen (n : Nat) (s text : List Char) (quiet : Quiet s) (blankEnd : Bool)
    (children : List Block) :
    readLine ⟨⟨.document,text,blankEnd,children⟩,[],[]⟩ n s =
      ⟨⟨.paragraph false,s ++ ['\n'],false,[]⟩,[⟨.document,text,false,children⟩],[]⟩ := by
  have opened := openBlocks_document n ⟨⟨.document,text,blankEnd,children⟩,[],[]⟩ s quiet false rfl
  obtain ⟨_,body,filled⟩ := quiet.solid.start
  unfold readLine
  simp [meetAll,OpenBlock.meet,Outline.closeTo,Outline.depth,Nat.repeat,Shape.isParagraph,opened,addRest,
    filled,body,unmark,Outline.addText,Outline.push,Outline.closeFor]

theorem readLine_paragraph (o : Outline) (n : Nat) (nodes : List Node) (standing : Standing o nodes)
    (s : List Char) (quiet : Quiet s) (undefined : scanDefinition? (s ++ ['\n']) = none) :
    Hanging (readLine o n s) (nodes ++ [.node .paragraph (inlines [] (s ++ ['\n']))]) := by
  obtain ⟨⟨shape,text,blankEnd,children⟩,outer,references⟩ := o
  obtain ⟨rfl,rfl,rfl,rfl⟩ := standing
  rw [readLine_paragraphOpen n s text quiet]
  refine ⟨⟨_,rfl,rfl⟩,rfl,fun blank => ?_⟩
  have solid : IsSolid (s ++ ['\n']) :=
    quiet.solid.imp fun c found => ⟨by simp [found.1],found.2⟩
  have complete : Outline.complete ⟨.paragraph false,s ++ ['\n'],blank,[]⟩ [] =
      ([],some (.block (.paragraph false) (s ++ ['\n']) blank [])) := by
    simp only [Outline.complete,takeDefinitions_none _ _ undefined,solid.not_blank]
    rfl
  rw [Outline.close]
  simp only [complete]
  refine ⟨rfl,rfl,rfl,?_⟩
  simp [toNodes_append,Block.toNodes,Block.toNode]

/-! Tables. -/

/-- A table is open in the document, perhaps with a row open in it. -/
inductive InTable (alignments : List Alignment) (rows nodes : List Node) : Outline → Prop
  | bare (text : List Char) (blank ended : Bool) (children before : List Block)
      (filled : Block.toNodes [] children.reverse = rows) (holds : Block.toNodes [] before.reverse = nodes) :
      InTable alignments rows nodes
        ⟨⟨.table alignments,[],blank,children⟩,[⟨.document,text,ended,before⟩],[]⟩
  | row (text : List Char) (blank within ended : Bool) (cells children before : List Block)
      (filled : Block.toNodes [] (children.reverse ++ [.block (.row false) [] blank cells.reverse]) = rows)
      (holds : Block.toNodes [] before.reverse = nodes) :
      InTable alignments rows nodes ⟨⟨.row false,[],blank,cells⟩,
        [⟨.table alignments,[],within,children⟩,⟨.document,text,ended,before⟩],[]⟩

def cellNodes (columns : Nat) (cells : List (List Char)) : List Node :=
  (cells.take columns ++ List.replicate (columns - cells.length) []).map fun cell =>
    .node .tableCell (inlines [] cell)

theorem toNodes_cells (cells : List (List Char)) :
    Block.toNodes [] (cells.map fun cell => .block .cell cell false []) =
      cells.map fun cell => .node .tableCell (inlines [] cell) := by
  induction cells with
  | nil => simp [Block.toNodes]
  | cons cell cells ih => simp [Block.toNodes,Block.toNode,ih]

theorem toNodes_row (before : List Block) (blank : Bool) (columns : Nat) (cells : List (List Char)) :
    Block.toNodes [] (before ++ [.block (.row false) [] blank
        (List.replicate (columns - cells.length) (Block.block .cell [] false []) ++
          ((cells.map fun cell => Block.block .cell cell false []).take columns).reverse).reverse]) =
      Block.toNodes [] before ++ [.node (.tableRow false) (cellNodes columns cells)] := by
  have written : (List.replicate (columns - cells.length) (Block.block .cell [] false []) ++
      ((cells.map fun cell => Block.block .cell cell false []).take columns).reverse).reverse =
      (cells.take columns ++ List.replicate (columns - cells.length) []).map
        fun cell => .block .cell cell false [] := by
    simp [List.map_take]
  rw [toNodes_append,written]
  simp only [Block.toNodes,Block.toNode,toNodes_cells,cellNodes]

theorem readLine_row (o : Outline) (n : Nat) (alignments : List Alignment) (rows nodes : List Node)
    (within : InTable alignments rows nodes o) (s : List Char) (quiet : Quiet s) (cells : List (List Char))
    (row : rowCells? s = some cells) :
    InTable alignments (rows ++ [.node (.tableRow false) (cellNodes alignments.length cells)]) nodes
      (readLine o n s) := by
  obtain ⟨_,body,filled⟩ := quiet.solid.start
  have blank : (Cursor.start s).finish.isBlank = true := rfl
  cases within with
  | bare text ends ended children before done holds =>
    have opened := openBlocks_table n ⟨⟨.table alignments,[],ends,children⟩,
      [⟨.document,text,ended,before⟩],[]⟩ s quiet false alignments rfl cells row
    unfold readLine
    simp [meetAll,OpenBlock.meet,Outline.closeTo,Outline.depth,Nat.repeat,Shape.isParagraph,opened,addRest,
      blank,body,unmark,row,openRow,Outline.push,Outline.closeFor,Shape.holds,Outline.attach,Meeting.of]
    exact .row _ _ _ _ _ _ _ (by rw [toNodes_row,done]) holds
  | row text ends inner ended opencells children before done holds =>
    have opened := openBlocks_table n ⟨⟨.table alignments,[],inner,
      .block (.row false) [] ends opencells.reverse :: children⟩,
      [⟨.document,text,ended,before⟩],[]⟩ s quiet false alignments rfl cells row
    unfold readLine
    simp [meetAll,OpenBlock.meet,Outline.closeTo,Outline.depth,Nat.repeat,Shape.isParagraph,opened,addRest,
      blank,body,unmark,row,openRow,Outline.push,Outline.closeFor,Shape.holds,Outline.attach,Meeting.of,
      Outline.close,Outline.complete]
    exact .row _ _ _ _ _ _ _ (by rw [toNodes_row,List.reverse_cons,done]) holds

theorem readLine_tableEnd (o : Outline) (n : Nat) (alignments : List Alignment) (rows nodes : List Node)
    (within : InTable alignments rows nodes o) :
    Standing (readLine o n []) (nodes ++ [.node (.table alignments) rows]) := by
  have blank : (Cursor.start []).isBlank = true := rfl
  have none : rowCells? (Cursor.start []).body = none := rfl
  cases within with
  | bare text ends ended children before done holds =>
    refine readLine_blank _ n _ ⟨⟨_,rfl,rfl⟩,by simp [OpenBlock.meet,Meeting.of,none],fun blank => ?_⟩
    refine ⟨rfl,rfl,rfl,?_⟩
    simp [Outline.close,Outline.complete,toNodes_append,Block.toNodes,Block.toNode,done,holds]
  | row text ends inner ended cells children before done holds =>
    have quiet := openBlocks_blank n ⟨⟨.document,text,ended,.block (.table alignments) [] inner
      (.block (.row false) [] ends cells.reverse :: children).reverse :: before⟩,[],[]⟩ false rfl
    unfold readLine
    simp [meetAll,OpenBlock.meet,Outline.closeTo,Outline.depth,Nat.repeat,Shape.isParagraph,addRest,
      none,unmark,Meeting.of,Outline.close,Outline.complete] at quiet ⊢
    rw [quiet]
    simp only [blank,if_true]
    refine ⟨rfl,rfl,rfl,?_⟩
    simp [toNodes_append,Block.toNodes,Block.toNode,← done,holds]

/-- Two lines that open a table. -/
structure TableHead (head delimiters : List Char) (alignments : List Alignment)
    (cells : List (List Char)) : Prop where
  quiet : Quiet head
  solid : IsSolid delimiters
  quote : delimiters.head? ≠ some '>'
  heading : headingMarker? delimiters = none
  fence : fenceMarker? delimiters = none
  raw : RawBlock.start? true delimiters = none
  underline : underline? delimiters = none
  rule : isRule delimiters = false
  item : itemMarker? true delimiters = none
  opens : ∀ parent, openTable ⟨⟨.paragraph false,head ++ ['\n'],false,[]⟩,[parent],[]⟩ delimiters =
    some ⟨⟨.table alignments,[],false,[.block (.row true) [] false
      (cells.map fun cell => .block .cell cell false [])]⟩,[parent],[]⟩

section TableHead
variable {head delimiters : List Char} {alignments : List Alignment} {cells : List (List Char)}

theorem readLine_tableHead (n level : Nat) (signs text : List Char) (blank : Bool) (before : List Block)
    (quiet : Quiet head) :
    readLine ⟨⟨.heading level,signs,blank,[]⟩,[⟨.document,text,false,before⟩],[]⟩ n head =
      ⟨⟨.paragraph false,head ++ ['\n'],false,[]⟩,
        [⟨.document,text,false,.block (.heading level) signs blank [] :: before⟩],[]⟩ := by
  obtain ⟨_,body,filled⟩ := quiet.solid.start
  have opened := openBlocks_document n ⟨⟨.document,text,false,
    .block (.heading level) signs blank [] :: before⟩,[],[]⟩ head quiet false rfl
  unfold readLine
  simp [meetAll,OpenBlock.meet,Outline.closeTo,Outline.depth,Nat.repeat,Shape.isParagraph,addRest,
    unmark,Outline.close,Outline.complete,opened,filled,body,Outline.push,Outline.closeFor,Outline.addText]

theorem TableHead.readLine_delimiters (table : TableHead head delimiters alignments cells) (n : Nat)
    (text : List Char) (before : List Block) :
    readLine ⟨⟨.paragraph false,head ++ ['\n'],false,[]⟩,[⟨.document,text,false,before⟩],[]⟩ n delimiters =
      ⟨⟨.table alignments,[],true,[.block (.row true) [] false
        (cells.map fun cell => .block .cell cell false [])]⟩,[⟨.document,text,false,before⟩],[]⟩ := by
  obtain ⟨indent,body,filled⟩ := table.solid.start
  have opened : openBlocks n 0 true false
      ⟨⟨.paragraph false,head ++ ['\n'],false,[]⟩,[⟨.document,text,false,before⟩],[]⟩ (.start delimiters) =
      (⟨⟨.table alignments,[],false,[.block (.row true) [] false
        (cells.map fun cell => .block .cell cell false [])]⟩,[⟨.document,text,false,before⟩],[]⟩,
        (Cursor.start delimiters).finish,true) := by
    unfold openBlocks
    simp only [indent,body,table.quote,table.heading,table.fence,table.raw,table.underline,table.rule,
      table.opens,Shape.isParagraph]
    simp
    split
    · rename_i marked
      simp [indent,body,table.item,listLimit] at marked
    · rfl
  have blank : (Cursor.start delimiters).finish.isBlank = true := rfl
  unfold readLine
  simp [meetAll,OpenBlock.meet,Outline.closeTo,Outline.depth,Nat.repeat,Shape.isParagraph,addRest,
    unmark,Meeting.of,opened,filled,blank,endsAtBlank]

theorem TableHead.readLines_head (table : TableHead head delimiters alignments cells) (o : Outline)
    (n : Nat) (nodes : List Node) (standing : Standing o nodes) (level : Nat)
    (small : 1 ≤ level ∧ level ≤ 6) (s : List Char) (solid : IsSolid s) :
    InTable alignments
      [.node (.tableRow true) (cells.map fun cell => .node .tableCell (inlines [] cell))]
      (nodes ++ [.node (.heading level) (inlines [] (chopClosing s))])
      (readLines o n [List.replicate level '#' ++ ' ' :: s,head,delimiters]) := by
  obtain ⟨⟨shape,text,blankEnd,children⟩,outer,references⟩ := o
  obtain ⟨rfl,rfl,rfl,rfl⟩ := standing
  simp only [readLines,readLine_headingOpen n level small s text solid,
    readLine_tableHead _ level _ text false children table.quiet,table.readLine_delimiters]
  refine .bare _ _ _ _ _ ?_ ?_
  · simp [Block.toNodes,Block.toNode,toNodes_cells]
  · simp [toNodes_append,Block.toNodes,Block.toNode]

end TableHead

theorem readLines_rows (o : Outline) (n : Nat) (alignments : List Alignment) (rows nodes : List Node)
    (within : InTable alignments rows nodes o) (written : List (List Char × List (List Char)))
    (quiet : ∀ w ∈ written, Quiet w.1) (read : ∀ w ∈ written, rowCells? w.1 = some w.2) :
    InTable alignments
      (rows ++ written.map fun w => .node (.tableRow false) (cellNodes alignments.length w.2)) nodes
      (readLines o n (written.map (·.1))) := by
  induction written generalizing o n rows with
  | nil => simpa [readLines] using within
  | cons w written ih =>
    obtain ⟨first,later⟩ := List.forall_mem_cons.mp quiet
    obtain ⟨own,others⟩ := List.forall_mem_cons.mp read
    have step := readLine_row o n alignments rows nodes within w.1 first w.2 own
    simpa [readLines] using ih _ (n + 1) _ step later others

/-- The rows of an open table, and the blank line after them. -/
theorem readLines_tableRest (o : Outline) (n : Nat) (alignments : List Alignment) (rows nodes : List Node)
    (within : InTable alignments rows nodes o) (written : List (List Char × List (List Char)))
    (quiet : ∀ w ∈ written, Quiet w.1) (read : ∀ w ∈ written, rowCells? w.1 = some w.2) :
    Standing (readLines o n (written.map (·.1) ++ [[]]))
      (nodes ++ [.node (.table alignments)
        (rows ++ written.map fun w => .node (.tableRow false) (cellNodes alignments.length w.2))]) := by
  have filled := readLines_rows o n alignments rows nodes within written quiet read
  rw [readLines_append]
  exact readLine_tableEnd _ _ alignments _ nodes filled

/-! Whole parts of a document. -/

/-- Lines that add these nodes to the document, whatever it holds already, and leave no block open. -/
def Reads (written : List (List Char)) (nodes : List Node) : Prop :=
  ∀ o n before, Standing o before → Standing (readLines o n written) (before ++ nodes)

theorem Reads.nil : Reads [] [] := fun o n before standing => by simpa [readLines] using standing

theorem Reads.append {first second : List (List Char)} {nodes others : List Node}
    (reads : Reads first nodes) (further : Reads second others) :
    Reads (first ++ second) (nodes ++ others) := by
  intro o n before standing
  rw [readLines_append,← List.append_assoc]
  exact further _ _ _ (reads o n before standing)

theorem Reads.flatMap {α : Type} (items : List α) (written : α → List (List Char)) (nodes : α → List Node)
    (each : ∀ x ∈ items, Reads (written x) (nodes x)) :
    Reads (items.flatMap written) (items.flatMap nodes) := by
  induction items with
  | nil => exact .nil
  | cons x items ih =>
    obtain ⟨first,later⟩ := List.forall_mem_cons.mp each
    exact first.append (ih later)

theorem Reads.heading (level : Nat) (small : 1 ≤ level ∧ level ≤ 6) (s : List Char) (solid : IsSolid s) :
    Reads [List.replicate level '#' ++ ' ' :: s,[]] [.node (.heading level) (inlines [] (chopClosing s))] :=
  fun o n before standing => readLine_blank _ _ _ (readLine_heading o n before standing level small s solid)

theorem Reads.paragraph (s : List Char) (quiet : Quiet s)
    (undefined : scanDefinition? (s ++ ['\n']) = none) :
    Reads [s,[]] [.node .paragraph (inlines [] (s ++ ['\n']))] :=
  fun o n before standing => readLine_blank _ _ _ (readLine_paragraph o n before standing s quiet undefined)

/-- A heading with a table right behind it, and the blank line after that. -/
theorem TableHead.reads {head delimiters : List Char} {alignments : List Alignment}
    {cells : List (List Char)} (table : TableHead head delimiters alignments cells) (level : Nat)
    (small : 1 ≤ level ∧ level ≤ 6) (s : List Char) (solid : IsSolid s)
    (written : List (List Char × List (List Char)))
    (quiet : ∀ w ∈ written, Quiet w.1) (read : ∀ w ∈ written, rowCells? w.1 = some w.2) :
    Reads ([List.replicate level '#' ++ ' ' :: s,head,delimiters] ++ (written.map (·.1) ++ [[]]))
      [.node (.heading level) (inlines [] (chopClosing s)),
        .node (.table alignments)
          (.node (.tableRow true) (cells.map fun cell => .node .tableCell (inlines [] cell)) ::
            written.map fun w => .node (.tableRow false) (cellNodes alignments.length w.2))] := by
  intro o n before standing
  have begun := table.readLines_head o n before standing level small s solid
  have ended := readLines_tableRest _ (n + 3) alignments _ _ begun written quiet read
  rw [readLines_append]
  simpa using ended

/-- A table with no heading of its own, and the blank line after it. -/
theorem TableHead.reads_alone {head delimiters : List Char} {alignments : List Alignment}
    {cells : List (List Char)} (table : TableHead head delimiters alignments cells)
    (written : List (List Char × List (List Char)))
    (quiet : ∀ w ∈ written, Quiet w.1) (read : ∀ w ∈ written, rowCells? w.1 = some w.2) :
    Reads ([head,delimiters] ++ (written.map (·.1) ++ [[]]))
      [.node (.table alignments)
        (.node (.tableRow true) (cells.map fun cell => .node .tableCell (inlines [] cell)) ::
          written.map fun w => .node (.tableRow false) (cellNodes alignments.length w.2))] := by
  intro o n before standing
  have begun : InTable alignments
      [.node (.tableRow true) (cells.map fun cell => .node .tableCell (inlines [] cell))] before
      (readLines o n [head,delimiters]) := by
    obtain ⟨⟨shape,text,blankEnd,children⟩,outer,references⟩ := o
    obtain ⟨rfl,rfl,rfl,rfl⟩ := standing
    simp only [readLines,readLine_paragraphOpen n head text table.quiet,table.readLine_delimiters]
    refine .bare _ _ _ _ _ ?_ rfl
    simp [Block.toNodes,Block.toNode,toNodes_cells]
  rw [readLines_append]
  exact readLines_tableRest _ (n + 2) alignments _ _ begun written quiet read

/-- A text is the document of what its lines add. -/
theorem Reads.parse_lines {written : List (List Char)} {nodes : List Node} (reads : Reads written nodes)
    (text : String) (lines : documentLines [] text.toList = written) (unmarked : text.toList.head? ≠ some '\uFEFF') :
    parse text = .node .document nodes := by
  obtain ⟨_,outer,references,holds⟩ := reads .start 1 [] .start
  have depth : (readLines .start 1 written).depth = 1 := by simp [Outline.depth,outer]
  have closed : (readLines .start 1 written).closeTo 1 = readLines .start 1 written := by
    simp [Outline.closeTo,depth,Nat.repeat]
  simp only [parse,blocks,if_neg unmarked,lines,closed,references,holds]
  rfl

theorem Reads.parse {written : List (List Char)} {nodes : List Node} (reads : Reads written nodes)
    (text : String) (lines : text.toList = written.flatMap (· ++ ['\n']))
    (unmarked : text.toList.head? ≠ some '\uFEFF') (single : ∀ line ∈ written, IsLine line) :
    parse text = .node .document nodes :=
  reads.parse_lines text (by rw [lines,documentLines_joined written single]) unmarked

end ReferenceSite.Markdown
