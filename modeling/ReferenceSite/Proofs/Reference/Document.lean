import ReferenceSite.Proofs.Markdown.LinkText
import ReferenceSite.Proofs.Markdown.RowText
import ReferenceSite.Proofs.Proto.LoadedNames
import ReferenceSite.Proofs.Reference.CommentSigns
import ReferenceSite.Reference

/-! The document that a reference is read as. Where the names, the files and the comments of the types
are printable, each section is one heading, the paragraphs below it, and one table of three columns
with a row for each field or value. -/
namespace ReferenceSite
open ReferenceSite.Text ReferenceSite.Markdown

def isFileSign (c : Char) : Bool := isNameSign c || c = '-' || c = '/'

/-- What can stand between two backticks in a cell. -/
structure IsCode (s : String) : Prop where
  filled : s ≠ ""
  signs : ∀ c ∈ s.toList, c ∉ ['`','|','\n','\r','\x00']

/-- Lines of a comment end at line feeds only. -/
def IsComment (s : String) : Prop := ∀ c ∈ s.toList, c ≠ '\r' ∧ c ≠ '\x00'

structure Field.IsPrintable (f : Field) : Prop where
  name : IsCode f.name
  type : IsCode f.declaredType
  target : ∀ target, f.target = some target → IsName target.fullName
  comment : IsComment f.comment

structure EnumValue.IsPrintable (v : EnumValue) : Prop where
  name : IsCode v.name
  comment : IsComment v.comment

def TypeBody.IsPrintable : TypeBody → Prop
  | .enumeration values => ∀ v ∈ values, v.IsPrintable
  | .message fields => ∀ f ∈ fields, f.IsPrintable

/-- The comment of a type as its section shows it. -/
def TypeDef.prose (d : TypeDef) : List Char := (Comment.singleLine (Comment.stripNextId d.comment)).toList

theorem TypeDef.prose_eq_nil (d : TypeDef) (silent : d.comment = "") : d.prose = [] := by
  have empty : Comment.singleLine (Comment.stripNextId "") = "" := by decide +kernel
  rw [prose,silent,empty]
  rfl

structure TypeDef.IsPrintable (d : TypeDef) : Prop where
  name : IsName d.fullName
  comment : IsComment d.comment
  /-- The comment is one paragraph. -/
  prose : d.prose = [] ∨ Quiet d.prose ∧ scanDefinition? (d.prose ++ ['\n']) = none
  file : ∀ c ∈ d.file.toList, isFileSign c = true
  body : d.body.IsPrintable

/-- The comments of the fields or values of a type. -/
def TypeDef.remarks (d : TypeDef) : List String :=
  match d.body with
  | .enumeration values => values.map (·.comment)
  | .message fields => fields.map (·.comment)

/-- What a type needs to be printable besides its names. -/
structure TypeDef.IsTidy (d : TypeDef) : Prop where
  comment : IsComment d.comment
  /-- The comment is one paragraph. -/
  prose : d.prose = [] ∨ Quiet d.prose ∧ scanDefinition? (d.prose ++ ['\n']) = none
  file : ∀ c ∈ d.file.toList, isFileSign c = true
  remarks : ∀ s ∈ d.remarks, IsComment s

namespace Reference

/-! The lines of a section. -/

def title (name : String) : String := "\x7b#" ++ name ++ "\x7d " ++ name

def fileLabel (file : String) : List Char := ((Path.mk file).fileName?.getD file).toList

/-- The address of a file within the project. -/
def fileAddress (file : String) : List Char := '/' :: file.toList.dropWhile (· = '/')

def sourceWords : String := "Defined in "

def sourceLine (file : String) : List Char :=
  sourceWords.toList ++ '[' :: (fileLabel file ++ ']' :: '(' :: (fileAddress file ++ [')']))

def bodyTitle : TypeBody → String
  | .enumeration _ => "Enum values:"
  | .message _ => "Fields:"

def bodyHeads : TypeBody → List String
  | .enumeration _ => ["Name","Value","Description"]
  | .message _ => ["Field","Type","Description"]

def bodyHead : TypeBody → String
  | .enumeration _ => "Name | Value | Description"
  | .message _ => "Field | Type | Description"

def bodyDelimiters : TypeBody → String
  | .enumeration _ => "---- | ----- | -----------"
  | .message _ => "----- | ---- | -----------"

/-- The first two cells and the comment of each row. -/
def bodyRows : TypeBody → List (List Char × List Char × List Char)
  | .enumeration values => values.map fun v =>
    ((code v.name).toList,(code (toString v.number)).toList,(Comment.singleLine v.comment).toList)
  | .message fields => fields.map fun f =>
    ((code f.name).toList,(fieldType f).toList,(Comment.singleLine f.comment).toList)

def rowLine (r : List Char × List Char × List Char) : List Char :=
  r.1 ++ ' ' :: '|' :: ' ' :: (r.2.1 ++ ' ' :: '|' :: ' ' :: escapePipes r.2.2)

def level (e : Entity) : Nat := min e.depth deepestHeading + 1

def proseLines (prose : List Char) : List (List Char) := if prose = [] then [] else [prose,[]]

/-- The three lines that open the table of a type. -/
def bodyOpening (body : TypeBody) : List (List Char) :=
  [List.replicate 4 '#' ++ ' ' :: (bodyTitle body).toList,(bodyHead body).toList,
    (bodyDelimiters body).toList]

def sectionLines (e : Entity) : List (List Char) :=
  [List.replicate (level e) '#' ++ ' ' :: (title e.definition.fullName).toList,[]] ++
    proseLines e.definition.prose ++ [sourceLine e.definition.file,[]] ++
    (bodyOpening e.definition.body ++ ((bodyRows e.definition.body).map rowLine ++ [[]]))

theorem row_line (a b comment : String) : (row [a,b,cell comment]).toList =
    rowLine (a.toList,b.toList,(Comment.singleLine comment).toList) ++ ['\n'] := by
  simp [row,rowLine,cell,escapePipes]

theorem typeBody_lines (body : TypeBody) : (typeBody body).toList =
    (bodyOpening body ++ (bodyRows body).map rowLine).flatMap (· ++ ['\n']) := by
  rw [List.flatMap_append]
  cases body with
  | enumeration values =>
    have rows : (String.join (values.map valueRow)).toList =
        ((bodyRows (.enumeration values)).map rowLine).flatMap (· ++ ['\n']) := by
      rw [String.toList_join,bodyRows,List.map_map,List.flatMap_map,List.flatMap_map]
      exact congrArg (values.flatMap ·) (funext fun v => row_line _ _ _)
    have opening : ("#### Enum values:\n" ++ row ["Name","Value","Description"] ++
        row ["----","-----","-----------"]).toList =
        (bodyOpening (.enumeration values)).flatMap (· ++ ['\n']) := by
      simp only [bodyOpening,bodyTitle,bodyHead,bodyDelimiters]
      decide
    unfold typeBody
    rw [String.toList_append,rows,opening]
  | message fields =>
    have rows : (String.join (fields.map fieldRow)).toList =
        ((bodyRows (.message fields)).map rowLine).flatMap (· ++ ['\n']) := by
      rw [String.toList_join,bodyRows,List.map_map,List.flatMap_map,List.flatMap_map]
      exact congrArg (fields.flatMap ·) (funext fun f => row_line _ _ _)
    have opening : ("#### Fields:\n" ++ row ["Field","Type","Description"] ++
        row ["-----","----","-----------"]).toList =
        (bodyOpening (.message fields)).flatMap (· ++ ['\n']) := by
      simp only [bodyOpening,bodyTitle,bodyHead,bodyDelimiters]
      decide
    unfold typeBody
    rw [String.toList_append,rows,opening]

theorem typeSection_lines (e : Entity) :
    (typeSection e).toList = (sectionLines e).flatMap (· ++ ['\n']) := by
  have prose : (paragraph (Comment.singleLine (Comment.stripNextId e.definition.comment))).toList =
      (proseLines e.definition.prose).flatMap (· ++ ['\n']) := by
    rw [paragraph,proseLines,TypeDef.prose]
    by_cases empty : Comment.singleLine (Comment.stripNextId e.definition.comment) = ""
    · simp [empty]
    · simp [empty]
  have opened : (heading e).toList =
      [List.replicate (level e) '#' ++ ' ' :: (title e.definition.fullName).toList,[]].flatMap (· ++ ['\n']) := by
    simp [heading,title,level]
  have defined : (definedIn e.definition.file).toList =
      [sourceLine e.definition.file,[]].flatMap (· ++ ['\n']) := by
    simp [definedIn,sourceLine,sourceWords,fileLabel,fileAddress]
  simp only [typeSection,sectionLines,String.toList_append,opened,prose,defined,typeBody_lines,
    List.flatMap_append,List.append_assoc]
  rfl

/-! The nodes of a section. -/

def cellNode (cell : List Char) : Node := .node .tableCell (inlines [] cell)

def rowNode (r : List Char × List Char × List Char) : Node :=
  .node (.tableRow false) ([r.1,r.2.1,trimSpace r.2.2].map cellNode)

def bodyNode (body : TypeBody) : Node :=
  .node (.table [.unset,.unset,.unset])
    (.node (.tableRow true) ((bodyHeads body).map fun head => cellNode head.toList) ::
      (bodyRows body).map rowNode)

def proseNodes (prose : List Char) : List Node :=
  if prose = [] then [] else [.node .paragraph (inlines [] (prose ++ ['\n']))]

def sectionNodes (e : Entity) : List Node :=
  [.node (.heading (level e)) (inlines [] (title e.definition.fullName).toList)] ++
    proseNodes e.definition.prose ++
    [.node .paragraph (inlines [] (sourceLine e.definition.file ++ ['\n']))] ++
    [.node (.heading 4) (inlines [] (bodyTitle e.definition.body).toList),bodyNode e.definition.body]

theorem chopClosing_kept (s : List Char) (c : Char) (last : s.getLast? = some c)
    (solid : isSpace c = false) (sign : c ≠ '#') : chopClosing s = s := by
  have turned : s.reverse.head? = some c := by simpa using last
  have trimmed : trimSpaceEnd s = s := by
    rw [trimSpaceEnd,dropWhile_kept isSpace s.reverse (fun d first => by
      rw [turned] at first
      cases first
      exact solid),List.reverse_reverse]
  have kept : s.reverse.dropWhile (· = '#') = s.reverse :=
    dropWhile_kept _ _ fun d first => by
      rw [turned] at first
      cases first
      simpa using sign
  simp [chopClosing,trimmed,kept]

private theorem values_table : TableHead "Name | Value | Description".toList
    "---- | ----- | -----------".toList [.unset,.unset,.unset]
    (["Name","Value","Description"].map (·.toList)) :=
  ⟨.of_first 'N' "ame | Value | Description".toList (by decide) (by decide) (by decide),
    ⟨'-',rfl,by decide⟩,by decide,by decide,by decide,by decide,by decide,
    by decide,by decide,fun _ => rfl⟩

private theorem fields_table : TableHead "Field | Type | Description".toList
    "----- | ---- | -----------".toList [.unset,.unset,.unset]
    (["Field","Type","Description"].map (·.toList)) :=
  ⟨.of_first 'F' "ield | Type | Description".toList (by decide) (by decide) (by decide),
    ⟨'-',rfl,by decide⟩,by decide,by decide,by decide,by decide,by decide,
    by decide,by decide,fun _ => rfl⟩

theorem opening_table (body : TypeBody) : TableHead (bodyHead body).toList (bodyDelimiters body).toList
    [.unset,.unset,.unset] ((bodyHeads body).map (·.toList)) := by
  cases body with
  | enumeration values => exact values_table
  | message fields => exact fields_table

/-! Printable texts. -/

/-- Prose that begins with an ordinary sign is one paragraph. -/
theorem isParagraph_of_first (prose : List Char) (c : Char) (first : prose.head? = some c)
    (solid : isSpace c = false) (ordinary : c ∉ ['[','#','>','`','~','<','*','-','+','_'])
    (letter : c.isDigit = false) : Quiet prose ∧ scanDefinition? (prose ++ ['\n']) = none := by
  obtain ⟨rest,rfl⟩ := List.head?_eq_some_iff.mp first
  obtain ⟨bracket,others⟩ := not_or.mp (List.mem_cons.not.mp ordinary)
  exact ⟨.of_first c rest solid others letter,scanDefinition?_none _ (by simpa using bracket)⟩

theorem nameSign_signs (c : Char) (sign : isFileSign c = true) :
    isPlain c = true ∧ c ≠ ' ' ∧ isSpace c = false ∧ c ∉ ['#','`','|','\n','\r','\x00'] := by
  have plain : isPlain c = true := by
    simp only [isFileSign,isNameSign,Bool.or_eq_true,decide_eq_true_eq] at sign
    rcases sign with (((letter | rfl) | rfl) | rfl) | rfl
    · simp [isPlain,letter]
    all_goals decide
  refine ⟨plain,?_⟩
  exact of_isPlain (fun c => isFileSign c = true → c ≠ ' ' ∧ isSpace c = false ∧
    c ∉ ['#','`','|','\n','\r','\x00']) (by decide) c plain sign

theorem isFileSign_of_isNameSign (c : Char) (sign : isNameSign c = true) : isFileSign c = true := by
  simp [isFileSign,sign]

theorem isCode_of_isTypeName (type : String) (named : IsTypeName type) : IsCode type := by
  have apart : ∀ c ∈ ['<',',',' ','>'], c ∉ ['`','|','\n','\r','\x00'] := List.all_iff_forall_prop.mp (by decide)
  refine ⟨named.filled,fun c member => ?_⟩
  rcases named.signs c member with sign | listed
  · exact fun inside => (nameSign_signs c (isFileSign_of_isNameSign c sign)).2.2.2 (List.mem_cons_of_mem _ inside)
  · exact apart c listed

theorem isCode_of_isName (name : String) (named : IsName name) : IsCode name :=
  isCode_of_isTypeName name ⟨named.filled,fun c member => .inl (named.signs c member)⟩

theorem isCode_of_isIdentifier (name : String) (named : Proto.Source.IsIdentifier name) : IsCode name :=
  isCode_of_isTypeName name
    ⟨named.filled,fun c member => .inl (Proto.isNameSign_of_isNamePart c (named.signs c member))⟩

theorem printable_of_isNamed (d : TypeDef) (named : d.IsNamed) (tidy : d.IsTidy) : d.IsPrintable := by
  refine ⟨named.name,tidy.comment,tidy.prose,tidy.file,?_⟩
  have remarks := tidy.remarks
  have names := named.body
  unfold TypeDef.remarks at remarks
  cases shape : d.body with
  | enumeration values =>
    rw [shape] at names remarks
    exact fun v member => ⟨isCode_of_isIdentifier _ (names v member),List.forall_mem_map.mp remarks v member⟩
  | message fields =>
    rw [shape] at names remarks
    intro f member
    have own := names f member
    exact ⟨isCode_of_isIdentifier _ own.name,isCode_of_isTypeName _ own.type,own.target,
      List.forall_mem_map.mp remarks f member⟩

theorem code_toList (s : String) : (code s).toList = '`' :: (s.toList ++ ['`']) := by simp [code]

theorem code_isCell (s : String) (within : IsCode s) : IsCell (code s).toList := by
  rw [code_toList]
  refine ⟨?_,⟨'`',rfl,by decide⟩,⟨'`',List.getLast?_concat (l := '`' :: s.toList),by decide⟩⟩
  have none : '|' ∉ s.toList := fun member => within.signs _ member (by decide)
  simp [none]

def linkCell (type name : String) : List Char :=
  '[' :: '`' :: (type.toList ++ '`' :: ']' :: '(' :: '#' :: (name.toList ++ [')']))

theorem fieldType_toList (f : Field) : (fieldType f).toList =
    match f.target with
    | some target => linkCell f.declaredType target.fullName
    | none => '`' :: (f.declaredType.toList ++ ['`']) := by
  unfold fieldType
  cases f.target with
  | none => exact code_toList _
  | some target => simp [code,linkCell]

theorem fieldType_isCell (f : Field) (printable : f.IsPrintable) : IsCell (fieldType f).toList := by
  cases linked : f.target with
  | none =>
    have same : (fieldType f).toList = (code f.declaredType).toList := by simp [fieldType,linked]
    exact same ▸ code_isCell _ printable.type
  | some target =>
    have same : (fieldType f).toList = linkCell f.declaredType target.fullName := by
      rw [fieldType_toList,linked]
    have last : (linkCell f.declaredType target.fullName).getLast? = some ')' := by
      have split : linkCell f.declaredType target.fullName =
          ('[' :: '`' :: (f.declaredType.toList ++ '`' :: ']' :: '(' :: '#' :: target.fullName.toList)) ++
            [')'] := by
        simp [linkCell]
      rw [split,List.getLast?_concat]
    rw [same]
    refine ⟨?_,⟨'[',rfl,by decide⟩,⟨')',last,by decide⟩⟩
    have type : '|' ∉ f.declaredType.toList := fun member => printable.type.signs _ member (by decide)
    have name : '|' ∉ target.fullName.toList := fun member =>
      absurd ((printable.target _ linked).signs _ member) (by decide)
    simp [linkCell,type,name]

theorem number_isCode (n : Int) : IsCode (toString n) := by
  have natural (m : Nat) : ∀ c ∈ m.repr.toList, c ∉ ['`','|','\n','\r','\x00'] := by
    intro c member
    rw [Nat.toList_repr] at member
    have digit := Nat.isDigit_of_mem_toDigits (by decide) (by decide) member
    have plain : isPlain c = true := by simp [isPlain,Char.isAlphanum,digit]
    exact of_isPlain (fun c => c.isDigit = true → c ∉ ['`','|','\n','\r','\x00']) (by decide)
      c plain digit
  have filled (m : Nat) : m.repr.toList ≠ [] := by
    rw [Nat.toList_repr]
    exact Nat.toDigits_ne_nil
  cases n with
  | ofNat m => exact ⟨fun empty => filled m (String.toList_eq_nil_iff.mpr empty),natural m⟩
  | negSucc m =>
    have written : (toString (Int.negSucc m)).toList = '-' :: (m + 1).repr.toList := by
      have sign : toString (Int.negSucc m) = "-" ++ (m + 1).repr := rfl
      rw [sign,String.toList_append]
      rfl
    refine ⟨fun empty => ?_,?_⟩
    · rw [empty] at written
      cases written
    · rw [written]
      exact List.forall_mem_cons.mpr ⟨by decide,natural (m + 1)⟩

/-- The first cell of each row is code, and its cells are kept as they are. -/
theorem bodyRows_cells (body : TypeBody) (printable : body.IsPrintable) :
    ∀ r ∈ bodyRows body, IsCell r.1 ∧ IsCell r.2.1 ∧ ∃ s, IsCode s ∧ r.1 = (code s).toList := by
  cases body with
  | enumeration values =>
    intro r member
    obtain ⟨v,inside,rfl⟩ := List.mem_map.mp member
    have name := (printable v inside).name
    exact ⟨code_isCell _ name,code_isCell _ (number_isCode v.number),_,name,rfl⟩
  | message fields =>
    intro r member
    obtain ⟨f,inside,rfl⟩ := List.mem_map.mp member
    have name := (printable f inside).name
    exact ⟨code_isCell _ name,fieldType_isCell f (printable f inside),_,name,rfl⟩

theorem quiet_code (s : String) (within : IsCode s) (rest : List Char) :
    Quiet ((code s).toList ++ rest) := by
  rw [code_toList,List.cons_append]
  refine .of_code _ fun first => ?_
  obtain ⟨c,cs,chars⟩ : ∃ c cs, s.toList = c :: cs :=
    List.exists_cons_of_ne_nil fun empty => within.filled (String.toList_eq_nil_iff.mp empty)
  have same : c = '`' := by simpa [chars] using first
  exact within.signs c (by simp [chars]) (by simp [same])

theorem title_toList (name : String) :
    (title name).toList = '\x7b' :: '#' :: (name.toList ++ '\x7d' :: ' ' :: name.toList) := by
  simp [title]

theorem title_solid (name : String) : IsSolid (title name).toList :=
  ⟨'\x7b',by rw [title_toList]; rfl,by decide⟩

theorem chopClosing_title (name : String) (named : IsName name) :
    chopClosing (title name).toList = (title name).toList := by
  obtain ⟨chars,c,ends⟩ := (List.eq_nil_or_concat' name.toList).resolve_left fun empty =>
    named.filled (String.toList_eq_nil_iff.mp empty)
  have last : (title name).toList.getLast? = some c := by
    have split : (title name).toList =
        ('\x7b' :: '#' :: (name.toList ++ '\x7d' :: ' ' :: chars)) ++ [c] := by
      simp [title_toList,ends]
    rw [split,List.getLast?_concat]
  have sign := nameSign_signs c (isFileSign_of_isNameSign c (named.signs c (by simp [ends])))
  exact chopClosing_kept _ c last sign.2.2.1 fun same => sign.2.2.2 (by simp [same])

theorem reads_prose (prose : List Char)
    (within : prose = [] ∨ Quiet prose ∧ scanDefinition? (prose ++ ['\n']) = none) :
    Reads (proseLines prose) (proseNodes prose) := by
  unfold proseLines proseNodes
  split
  · exact .nil
  · rename_i filled
    obtain ⟨quiet,undefined⟩ := within.resolve_left filled
    exact .paragraph prose quiet undefined

theorem reads_source (file : String) :
    Reads [sourceLine file,[]] [.node .paragraph (inlines [] (sourceLine file ++ ['\n']))] := by
  obtain ⟨rest,begins⟩ : ∃ rest, sourceLine file = 'D' :: rest := ⟨_,rfl⟩
  have quiet : Quiet (sourceLine file) := begins ▸ .of_first 'D' rest (by decide) (by decide) (by decide)
  exact .paragraph _ quiet (scanDefinition?_none _ (by simp [begins]))

theorem reads_body (body : TypeBody) (printable : body.IsPrintable) :
    Reads (bodyOpening body ++ ((bodyRows body).map rowLine ++ [[]]))
      [.node (.heading 4) (inlines [] (bodyTitle body).toList),bodyNode body] := by
  have cells := bodyRows_cells body printable
  have chopped : IsSolid (bodyTitle body).toList ∧
      chopClosing (bodyTitle body).toList = (bodyTitle body).toList := by
    cases body with
    | enumeration values =>
      have first : "Enum values:".toList.head? = some 'E' := by decide
      have last : "Enum values:".toList.getLast? = some ':' := by decide
      exact ⟨⟨'E',first,by decide⟩,chopClosing_kept _ ':' last (by decide) (by decide)⟩
    | message fields =>
      have first : "Fields:".toList.head? = some 'F' := by decide
      have last : "Fields:".toList.getLast? = some ':' := by decide
      exact ⟨⟨'F',first,by decide⟩,chopClosing_kept _ ':' last (by decide) (by decide)⟩
  have read (r : List Char × List Char × List Char) (member : r ∈ bodyRows body) :
      ∃ kept, rowCells? (rowLine r) = some kept ∧
        cellNodes 3 kept = [r.1,r.2.1,trimSpace r.2.2].map cellNode :=
    rowCells?_three r.1 r.2.1 r.2.2 (cells r member).1 (cells r member).2.1
  have reads := (opening_table body).reads 4 (by decide) (bodyTitle body).toList chopped.1
    ((bodyRows body).map fun r => (rowLine r,(rowCells? (rowLine r)).getD []))
    (by
      intro w member
      obtain ⟨r,inside,rfl⟩ := List.mem_map.mp member
      obtain ⟨-,-,s,within,first⟩ := cells r inside
      rw [rowLine,first]
      exact quiet_code s within _)
    (by
      intro w member
      obtain ⟨r,inside,rfl⟩ := List.mem_map.mp member
      obtain ⟨kept,found,-⟩ := read r inside
      simp [found])
  have rows : ((bodyRows body).map fun r => (rowLine r,(rowCells? (rowLine r)).getD [])).map
        (fun w => Node.node (.tableRow false) (cellNodes 3 w.2)) = (bodyRows body).map rowNode := by
    rw [List.map_map]
    refine List.map_congr_left fun r member => ?_
    obtain ⟨kept,found,shown⟩ := read r member
    simp [found,shown,rowNode]
  have lines : ((bodyRows body).map fun r => (rowLine r,(rowCells? (rowLine r)).getD [])).map (·.1) =
      (bodyRows body).map rowLine := by
    rw [List.map_map]
    rfl
  rw [chopped.2,lines] at reads
  simpa [bodyOpening,bodyNode,cellNode,Function.comp_def,rows] using reads

theorem reads_section (e : Entity) (printable : e.definition.IsPrintable) :
    Reads (sectionLines e) (sectionNodes e) := by
  have shallow : 1 ≤ level e ∧ level e ≤ 6 := by
    simp only [level,deepestHeading]
    omega
  have opened := Reads.heading (level e) shallow (title e.definition.fullName).toList (title_solid _)
  rw [chopClosing_title _ printable.name] at opened
  exact ((opened.append (reads_prose _ printable.prose)).append (reads_source _)).append
    (reads_body _ printable.body)

/-! No sign of a printable section ends a line. -/

theorem isLine_code (s : String) (within : IsCode s) : IsLine s.toList := fun c member => by
  have signs := within.signs c member
  simp only [List.mem_cons,List.not_mem_nil,or_false,not_or] at signs
  exact ⟨signs.2.2.1,signs.2.2.2.1,signs.2.2.2.2⟩

theorem isLine_fileSigns (s : List Char) (signs : ∀ c ∈ s, isFileSign c = true) : IsLine s := fun c member => by
  have signs := (nameSign_signs c (signs c member)).2.2.2
  simp only [List.mem_cons,List.not_mem_nil,or_false,not_or] at signs
  exact ⟨signs.2.2.2.1,signs.2.2.2.2.1,signs.2.2.2.2.2⟩

theorem fileSigns_of_isName (name : String) (named : IsName name) : ∀ c ∈ name.toList, isFileSign c = true :=
  fun c member => isFileSign_of_isNameSign c (named.signs c member)

theorem isLine_append (s t : List Char) : IsLine (s ++ t) ↔ IsLine s ∧ IsLine t := List.forall_mem_append

theorem isLine_cons (c : Char) (s : List Char) :
    IsLine (c :: s) ↔ (c ≠ '\n' ∧ c ≠ '\r' ∧ c ≠ '\x00') ∧ IsLine s := List.forall_mem_cons

theorem isLine_nil : IsLine [] := by simp [IsLine]

theorem isLine_signs (n : Nat) : IsLine (List.replicate n '#') := fun c member => by
  rw [List.eq_of_mem_replicate member]
  decide

theorem isLine_singleLine (comment : String) (within : IsComment comment) :
    IsLine (Comment.singleLine comment).toList := fun c member => by
  rcases Comment.mem_singleLine comment c member with broken | ⟨origin,feed⟩
  · simp only [List.mem_cons,List.not_mem_nil,or_false] at broken
    rcases broken with rfl | rfl | rfl | rfl | rfl
    all_goals decide
  · exact ⟨feed,within c origin⟩

theorem isLine_prose (d : TypeDef) (within : IsComment d.comment) : IsLine d.prose :=
  isLine_singleLine _ fun c member => within c (Comment.mem_stripNextId d.comment c member)

theorem isLine_escapePipes (s : List Char) (within : IsLine s) : IsLine (escapePipes s) := by
  intro c member
  obtain ⟨d,inside,shown⟩ := List.mem_flatMap.mp member
  split at shown
  · have either : c = '\\' ∨ c = '|' := by simpa using shown
    rcases either with rfl | rfl
    all_goals decide
  · obtain rfl := List.mem_singleton.mp shown
    exact within c inside

theorem isLine_body (body : TypeBody) (printable : body.IsPrintable) :
    ∀ r ∈ bodyRows body, IsLine (rowLine r) := by
  have code' (s : String) (within : IsCode s) : IsLine (code s).toList := by
    simp [code_toList,isLine_cons,isLine_append,isLine_nil,isLine_code _ within]
  have shown (a b comment : List Char) (first : IsLine a) (second : IsLine b) (third : IsLine comment) :
      IsLine (rowLine (a,b,comment)) := by
    simp [rowLine,isLine_cons,isLine_append,first,second,isLine_escapePipes _ third]
  cases body with
  | enumeration values =>
    intro r member
    obtain ⟨v,inside,rfl⟩ := List.mem_map.mp member
    have own := printable v inside
    exact shown _ _ _ (code' _ own.name) (code' _ (number_isCode v.number))
      (isLine_singleLine _ own.comment)
  | message fields =>
    intro r member
    obtain ⟨f,inside,rfl⟩ := List.mem_map.mp member
    have own := printable f inside
    have type : IsLine (fieldType f).toList := by
      rw [fieldType_toList]
      cases linked : f.target with
      | none => simp [isLine_cons,isLine_append,isLine_nil,isLine_code _ own.type]
      | some target =>
        have name := isLine_fileSigns _ (fileSigns_of_isName _ (own.target _ linked))
        simp [linkCell,isLine_cons,isLine_append,isLine_nil,isLine_code _ own.type,name]
    exact shown _ _ _ (code' _ own.name) type (isLine_singleLine _ own.comment)

theorem subset_of_mem_splitOn (s part : List Char) (member : part ∈ s.splitOn '/') : part ⊆ s := by
  have within (parts : List (List Char)) (member : part ∈ parts) : part ⊆ ['/'].intercalate parts := by
    induction parts with
    | nil => simp at member
    | cons p parts ih =>
      cases parts with
      | nil =>
        obtain rfl := List.mem_singleton.mp member
        simp [List.intercalate]
      | cons q parts =>
        have split : ['/'].intercalate (p :: q :: parts) = p ++ '/' :: ['/'].intercalate (q :: parts) := by
          simp [List.intercalate]
        rw [split]
        rcases List.mem_cons.mp member with rfl | later
        · exact List.subset_append_left _ _
        · exact fun c inside => List.mem_append_right p (List.mem_cons_of_mem '/' (ih later inside))
  have whole := within _ member
  rwa [List.intercalate_splitOn] at whole

theorem fileName?_subset (p : Path) (name : String) (named : p.fileName? = some name) :
    name.toList ⊆ p.text.toList := by
  have step : .normal name ∈ p.components := by
    unfold Path.fileName? at named
    split at named
    · rename_i last
      cases named
      exact List.mem_of_getLast? last
    · cases named
  have segment : name ∈ p.segments := by
    have among (segments : List String)
        (member : .normal name ∈ (segments.filter (! Path.isSilent ·)).map Path.stepOf) : name ∈ segments := by
      obtain ⟨segment,kept,same⟩ := List.mem_map.mp member
      unfold Path.stepOf at same
      split at same
      · cases same
      · cases same
        exact (List.mem_filter.mp kept).1
    unfold Path.components at step
    split at step
    · exact among _ (by simpa using step)
    · split at step
      · rename_i rest shape
        rw [shape]
        exact List.mem_cons_of_mem _ (among _ (by simpa using step))
      · exact among _ step
  obtain ⟨part,inside,rfl⟩ := List.mem_map.mp segment
  rw [String.toList_ofList]
  have own := subset_of_mem_splitOn _ part inside
  split at own
  · exact fun c inside => List.drop_subset 1 _ (own inside)
  · exact own

theorem fileLabel_signs (file : String) (signs : ∀ c ∈ file.toList, isFileSign c = true) :
    ∀ c ∈ fileLabel file, isFileSign c = true := by
  intro c member
  unfold fileLabel at member
  cases named : (Path.mk file).fileName? with
  | none => exact signs c (by simpa [named] using member)
  | some name =>
    rw [named,Option.getD_some] at member
    exact signs c (fileName?_subset _ name named member)

theorem fileAddress_signs (file : String) (signs : ∀ c ∈ file.toList, isFileSign c = true) :
    ∀ c ∈ fileAddress file, isFileSign c = true :=
  List.forall_mem_cons.mpr ⟨by decide,fun c member => signs c ((List.dropWhile_suffix _).mem member)⟩

theorem isLine_section (e : Entity) (printable : e.definition.IsPrintable) :
    ∀ line ∈ sectionLines e, IsLine line := by
  have name := isLine_fileSigns _ (fileSigns_of_isName _ printable.name)
  have label := isLine_fileSigns _ (fileLabel_signs _ printable.file)
  have address := isLine_fileSigns _ (fileAddress_signs _ printable.file)
  have titled : IsLine (title e.definition.fullName).toList := by
    simp [title_toList,isLine_cons,isLine_append,name]
  have words : IsLine sourceWords.toList := by
    unfold IsLine
    exact List.all_iff_forall_prop.mp (by decide)
  have source : IsLine (sourceLine e.definition.file) := by
    simp [sourceLine,isLine_cons,isLine_append,isLine_nil,label,address,words]
  have opening : ∀ line ∈ bodyOpening e.definition.body, IsLine line := by
    have words (body : TypeBody) : IsLine (bodyTitle body).toList ∧ IsLine (bodyHead body).toList ∧
        IsLine (bodyDelimiters body).toList := by
      cases body <;> (simp only [bodyTitle,bodyHead,bodyDelimiters,IsLine,← List.all_iff_forall_prop]; decide)
    simp [bodyOpening,isLine_cons,words]
  have rows := isLine_body e.definition.body printable.body
  intro line member
  simp only [sectionLines,List.mem_append,List.mem_cons,List.not_mem_nil,or_false,List.mem_map] at member
  rcases member with (((rfl | rfl) | shown) | rfl | rfl) | opened | ⟨r,inside,rfl⟩ | rfl
  · simp [isLine_append,isLine_cons,isLine_signs,titled]
  · exact isLine_nil
  · unfold proseLines at shown
    split at shown
    · simp at shown
    · rcases List.mem_pair.mp shown with same | same
      · exact same ▸ isLine_prose e.definition printable.comment
      · exact same ▸ isLine_nil
  · exact source
  · exact isLine_nil
  · exact opening line opened
  · exact rows r inside
  · exact isLine_nil

theorem types_lines (es : List Entity) : (types es).toList = (es.flatMap sectionLines).flatMap (· ++ ['\n']) := by
  rw [types,String.toList_join,List.flatMap_map,List.flatMap_assoc]
  exact congrArg (es.flatMap ·) (funext typeSection_lines)

/-- The document of a reference. -/
theorem parse_types (es : List Entity) (printable : ∀ e ∈ es, e.definition.IsPrintable) :
    parse (types es) = .node .document (es.flatMap sectionNodes) := by
  have lines := types_lines es
  refine (Reads.flatMap es sectionLines sectionNodes fun e member =>
    reads_section e (printable e member)).parse (types es) lines ?_ ?_
  · rw [lines]
    cases es with
    | nil => simp
    | cons e es =>
      obtain ⟨rest,begins⟩ : ∃ rest, List.replicate (level e) '#' ++
          ' ' :: (title e.definition.fullName).toList = '#' :: rest := by
        rw [level,List.replicate_succ]
        exact ⟨_,rfl⟩
      simp [sectionLines,begins]
  · intro line member
    obtain ⟨e,inside,within⟩ := List.mem_flatMap.mp member
    exact isLine_section e (printable e inside) line within

end Reference
end ReferenceSite
