import ReferenceSite.Proofs.Tables.Declaration

/-! What a line of a declaration is read as. Indentation does not matter. Every line but that of a
column has the kind it is written for; a column needs a type without commas, and no name of a parent
in its type or as its own name. -/
namespace ReferenceSite.LineKind
open ReferenceSite.Text

/-! Names of parents within a line. -/

theorem mentionsParent_split (before after : List Char) (c : Char) (between : isWord c = false) :
    mentionsParent (before ++ c :: after) = (mentionsParent before || mentionsParent after) := by
  have split : (before ++ c :: after).splitOnP (! isWord ·) =
      before.splitOnP (! isWord ·) ++ after.splitOnP (! isWord ·) :=
    List.splitOnP_append_cons before after (by simp [between])
  rw [mentionsParent,split,List.any_append,mentionsParent,mentionsParent]

theorem mentionsParent_nil : mentionsParent [] = false := by decide

theorem mentionsParent_past (before cs : List Char) (blank : ∀ c ∈ before, isBlank c = true) :
    mentionsParent (before ++ cs) = mentionsParent cs := by
  induction before with
  | nil => rfl
  | cons c before ih =>
    have between := not_isWord_of_blank c (blank c (by simp))
    have split := mentionsParent_split [] (before ++ cs) c between
    rw [List.nil_append,mentionsParent_nil,Bool.false_or] at split
    rw [List.cons_append,split]
    exact ih fun b member => blank b (by simp [member])

theorem ofLine_indented (indent cs : List Char) (blank : ∀ c ∈ indent, isBlank c = true) :
    ofLine (.ofList (indent ++ cs)) = ofLine (.ofList cs) := by
  have start : trimStart (indent ++ cs) = trimStart cs := by
    rw [trimStart,List.dropWhile_append_of_pos blank,trimStart]
  simp only [ofLine,String.toList_ofList,isDefine,trim,commentText?,tableName?,column?,start,
    mentionsParent_past indent cs blank]

/-! Comments. -/

theorem ofLine_comment (text : List Char) (first : ∀ c, text.head? = some c → isBlank c = false)
    (single : '\n' ∉ text) : ofLine (.ofList ("// ".toList ++ text)) =
      match columnComment? text with
      | some (name,text) => .columnComment (.ofList name) (.ofList text)
      | none => .comment (.ofList text) := by
  have shape : "// ".toList ++ text = '/' :: '/' :: ' ' :: text := rfl
  have slash : isBlank '/' = false := by decide
  have start := trimStart_cons '/' ('/' :: ' ' :: text) slash
  have define : isDefine ('/' :: '/' :: ' ' :: text) = false := by
    rw [isDefine,start]
    rfl
  have behind : trimStart (' ' :: text) = text :=
    trimStart_space text first
  have comment : commentText? ('/' :: '/' :: ' ' :: text) = some text := by
    simp [commentText?,start,dropPrefix?,behind,single]
  simp only [ofLine,String.toList_ofList,shape,define,trim_cons_isEmpty '/' _ slash,comment]
  rfl

theorem columnComment?_untagged (r : Remark) : columnComment? r.chars = none := by
  cases behind : dropPrefix? "@param".toList r.chars with
  | none => simp only [columnComment?,behind,Option.bind_eq_bind,Option.bind_none]
  | some rest =>
    have shape := dropPrefix?_eq_some behind
    have kept : trimStart rest = rest := by
      refine dropWhile_kept isBlank rest fun c first => ?_
      obtain ⟨more,rfl⟩ := List.head?_eq_some_iff.mp first
      exact Bool.eq_false_iff.mpr fun blank => r.untagged c more blank shape
    simp only [columnComment?,behind,Option.bind_eq_bind,Option.bind_some,kept,true_or,if_true]

theorem ofLine_remark (r : Remark) : ofLine (.ofList r.line) = .comment (.ofList r.chars) := by
  rw [Remark.line,ofLine_comment r.chars r.trimmed.opens r.single,columnComment?_untagged]

theorem columnComment?_tagged (n : ColumnNote) :
    columnComment? n.tagged = some (n.column.chars,n.first.chars) := by
  obtain ⟨c,rest,named,nonblank⟩ := n.column.head
  have letters : ∀ c ∈ n.column.chars, (! isBlank c) = true := fun c member => by
    simp [not_blank_of_isWord c (n.column.letters c member)]
  have behind : dropPrefix? "@param".toList n.tagged =
      some (' ' :: (n.column.chars ++ ' ' :: n.first.chars)) :=
    dropPrefix?_append "@param".toList (' ' :: (n.column.chars ++ ' ' :: n.first.chars))
  have entry : trimStart (' ' :: (n.column.chars ++ ' ' :: n.first.chars)) =
      n.column.chars ++ ' ' :: n.first.chars :=
    trimStart_space _ (by simp [named,nonblank])
  have text : trimStart (' ' :: n.first.chars) = n.first.chars :=
    trimStart_space _ n.first.trimmed.opens
  have space : isBlank ' ' = true := by decide
  simp only [columnComment?,behind,Option.bind_eq_bind,Option.bind_some,entry]
  rw [List.takeWhile_append_of_pos letters,List.dropWhile_append_of_pos letters]
  simp [space,text]

theorem ofLine_tagged (n : ColumnNote) : ofLine (.ofList ("// ".toList ++ n.tagged)) =
    .columnComment (.ofList n.column.chars) (.ofList n.first.chars) := by
  have name := n.column.lacks '\n' (by decide)
  have text := n.first.single
  have single : '\n' ∉ n.tagged := by
    unfold ColumnNote.tagged
    simp [name,text]
  have first : ∀ c, n.tagged.head? = some c → isBlank c = false := by
    intro c opened
    have same : '@' = c := Option.some.inj opened
    rw [← same]
    decide
  rw [ofLine_comment n.tagged first single,columnComment?_tagged]

/-! Lines of the macro. -/

theorem leadingWord?_word (w : Word) (c : Char) (rest : List Char) (other : isWord c = false) :
    leadingWord? (w.chars ++ c :: rest) = some (w.chars,c :: rest) := by
  have stops : ∀ d, (c :: rest).head? = some d → isWord d = false := by
    rintro d ⟨⟩
    exact other
  simp only [leadingWord?,takeWhile_past isWord w.chars _ w.letters stops,
    dropWhile_past isWord w.chars _ w.letters stops]
  simp [w.nonempty]

theorem ofLine_define (d : Declaration) : ofLine (.ofList d.defineText) = .define := by
  have start : trimStart d.defineText = d.defineText := trimStart_cons '#' _ (by decide)
  have behind : dropPrefix? "#define".toList d.defineText =
      some (' ' :: (d.definition.chars ++ "(NAME, PARENT, C)".toList)) :=
    dropPrefix?_append "#define".toList (' ' :: (d.definition.chars ++ "(NAME, PARENT, C)".toList))
  have define : isDefine d.defineText = true := by
    simp only [isDefine,start,behind]
    rfl
  simp only [ofLine,String.toList_ofList,define,if_true]

/-- A line that begins with a letter is neither a definition nor a comment. -/
theorem ofLine_letter (c : Char) (rest : List Char) (letter : isWord c = true) :
    ofLine (.ofList (c :: rest)) =
      match tableName? (c :: rest) with
      | some name => .tableName (.ofList name)
      | none =>
        if mentionsParent (c :: rest) then .parent
        else match column? (c :: rest) with
        | some (columnType,name) => .column (.ofList columnType) (.ofList name)
        | none => .unrecognized := by
  have nonblank := not_blank_of_isWord c letter
  have start := trimStart_cons c rest nonblank
  have other (d : Char) (outside : isWord d = false) : d ≠ c := fun same => by
    simp [same,letter] at outside
  have define : isDefine (c :: rest) = false := by
    simp [isDefine,start,dropPrefix?,other '#' (by decide)]
  have comment : commentText? (c :: rest) = none := by
    simp [commentText?,start,dropPrefix?,other '/' (by decide)]
  have nonempty := trim_cons_isEmpty c rest nonblank
  cases tableName : tableName? (c :: rest) <;> cases column : column? (c :: rest) <;>
    simp only [ofLine,String.toList_ofList,define,nonempty,comment,tableName,column,
      Bool.false_eq_true,if_false]

theorem ofLine_name (d : Declaration) :
    ofLine (.ofList d.nameText) = .tableName (.ofList d.name.chars) := by
  have shape : d.nameText =
      "NAME(".toList ++ (d.name.chars ++ ',' :: (" \"".toList ++ d.sqlName ++ "\")".toList)) := by
    unfold Declaration.nameText
    simp only [List.append_assoc]
    rfl
  have name : tableName? d.nameText = some d.name.chars := by
    have start : trimStart d.nameText = d.nameText := trimStart_cons 'N' _ (by decide)
    rw [tableName?,start,shape,dropPrefix?_append,Option.bind_eq_bind,Option.bind_some,
      leadingWord?_word d.name ',' _ (by decide)]
    rfl
  have kind := ofLine_letter 'N' (d.nameText.drop 1) (by decide)
  rw [show 'N' :: d.nameText.drop 1 = d.nameText from rfl,name] at kind
  exact kind

theorem ofLine_ancestry (a : Ancestry) (text : List Char) (member : text ∈ a.texts) :
    ofLine (.ofList text) = .parent := by
  have kind (rest : List Char) (unnamed : tableName? ('P' :: rest) = none)
      (parent : mentionsParent ('P' :: rest) = true) : ofLine (.ofList ('P' :: rest)) = .parent := by
    rw [ofLine_letter 'P' rest (by decide),unnamed,parent]
    rfl
  rcases a.texts_cases text member with rfl | ⟨definition,rfl⟩
  · exact kind _ (by decide) (by decide)
  · refine kind _ rfl ?_
    have split := mentionsParent_split "PARENT".toList (definition.chars ++ ", C)".toList) '(' (by decide)
    rw [show mentionsParent "PARENT".toList = true by decide,Bool.true_or] at split
    exact split

end ReferenceSite.LineKind
