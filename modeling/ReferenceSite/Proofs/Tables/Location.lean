import ReferenceSite.Proofs.Tables.BodyReading
import ReferenceSite.Proofs.Tables.Extent

/-! Where the definition of a table is found. The line that defines its macro is told from all other
lines, the definitions of macros with longer or shorter names among them; the comments above it and the
continued lines below it belong to it. -/
namespace ReferenceSite
open ReferenceSite.Text

namespace Header

/-- Lines of which all but the last are continued. -/
def IsRun : List String → Prop
  | [] => False
  | [line] => isContinued line = false
  | line :: rest => isContinued line = true ∧ IsRun rest

theorem IsRun.cons {line : String} {rest : List String} (continued : isContinued line = true)
    (run : IsRun rest) : IsRun (line :: rest) := by
  cases rest with
  | nil => exact run.elim
  | cons next rest => exact ⟨continued,run⟩

theorem continuedRun_append (run after : List (Nat × String)) (isRun : IsRun (run.map (·.2))) :
    continuedRun (run ++ after) = run := by
  induction run with
  | nil => exact isRun.elim
  | cons line run ih =>
    cases run with
    | nil =>
      have last : isContinued line.2 = false := isRun
      simp [continuedRun,last]
    | cons next run =>
      have both : isContinued line.2 = true ∧ IsRun (next.2 :: run.map (·.2)) := isRun
      obtain ⟨continued,rest⟩ := both
      have later := ih rest
      rw [List.cons_append,continuedRun,if_pos continued,later]

/-- The definition behind everything that neither defines the macro nor is a comment right above. -/
theorem body?_found (source definition : String) (before comments inner after : List String)
    (define : String)
    (written : (numbered source).map (·.2) = before ++ comments ++ (define :: inner) ++ after)
    (earlier : ∀ line ∈ before ++ comments, definesMacro definition line = false)
    (defines : definesMacro definition define = true)
    (apart : ∀ line, before.getLast? = some line → isCommentLine line = false)
    (commented : ∀ line ∈ comments, isCommentLine line = true)
    (isRun : IsRun (define :: inner)) (continued : isContinued define = true) :
    ∃ body, body? source definition = some body ∧ body.map (·.2) = comments ++ define :: inner := by
  obtain ⟨front,behind,split,first,rfl⟩ := List.map_eq_append_iff.mp written
  obtain ⟨ahead,run,rfl,second,third⟩ := List.map_eq_append_iff.mp first
  obtain ⟨pre,own,rfl,rfl,rfl⟩ := List.map_eq_append_iff.mp second
  obtain ⟨line,rest,rfl,rfl,rfl⟩ := List.map_eq_cons_iff.mp third
  rw [List.append_assoc,List.cons_append] at split
  have undefined : ∀ l ∈ pre ++ own, definesMacro definition l.2 = false := fun l member =>
    earlier l.2 (by rw [← List.map_append]; exact List.mem_map_of_mem member)
  have comments : ((pre ++ own).reverse.takeWhile (isCommentLine ·.2)).reverse = own := by
    have remarks : ∀ l ∈ own.reverse, isCommentLine l.2 = true := fun l member =>
      commented l.2 (List.mem_map_of_mem (List.mem_reverse.mp member))
    have stops : ∀ l, pre.reverse.head? = some l → isCommentLine l.2 = false := fun l last =>
      apart l.2 (by rw [List.getLast?_map,← List.head?_reverse,last]; rfl)
    rw [List.reverse_append,takeWhile_past _ _ _ remarks stops,List.reverse_reverse]
  refine ⟨own ++ line :: rest,?_,by simp⟩
  rw [body?_of_split split undefined defines,if_pos continued,comments,← List.cons_append,
    continuedRun_append (line :: rest) behind isRun]

/-! What single lines are, where definitions and comments are looked for. -/

theorem definesMacro_other (definition : String) (indent text : List Char)
    (blank : ∀ c ∈ indent, isBlank c = true)
    (first : ∀ c, text.head? = some c → isBlank c = false ∧ c ≠ '#') :
    definesMacro definition (.ofList (indent ++ text)) = false := by
  have start := trimStart_past indent text blank fun c opened => (first c opened).1
  have missing : dropPrefix? "#define".toList text = none := by
    cases text with
    | nil => rfl
    | cons c text => simp [dropPrefix?,(first c rfl).2.symm]
  simp only [definesMacro,String.toList_ofList,start,missing]

private theorem word_opens (sought defined : Word) (tail parameters : List Char)
    (other : sought.chars ≠ defined.chars)
    (whole : defined.chars ++ '(' :: tail = sought.chars ++ parameters) :
    (trimStart parameters).head? ≠ some '(' := by
  rcases List.append_eq_append_iff.mp whole with ⟨middle,longer,rest⟩ | ⟨middle,shorter,rest⟩
  · cases middle with
    | nil => exact absurd (by simpa using longer) other
    | cons c middle =>
      obtain ⟨rfl,_⟩ := List.cons.inj rest
      exact absurd (by simp [longer]) (sought.lacks '(' (by decide))
  · cases middle with
    | nil => exact absurd (by simpa using shorter.symm) other
    | cons c middle =>
      have letter := defined.letters c (by simp [shorter])
      rw [rest,List.cons_append,trimStart_cons c _ (not_blank_of_isWord c letter)]
      intro same
      rw [Option.some.inj same] at letter
      exact absurd letter (by decide)

/-- A definition is one of the macro whose name it has, be it a part of another name. -/
theorem definesMacro_define (sought defined : Word) (indent tail : List Char)
    (blank : ∀ c ∈ indent, isBlank c = true) :
    definesMacro (.ofList sought.chars)
      (.ofList (indent ++ ("#define ".toList ++ (defined.chars ++ '(' :: tail)))) =
      decide (sought.chars = defined.chars) := by
  have start : trimStart (indent ++ ("#define ".toList ++ (defined.chars ++ '(' :: tail))) =
      "#define".toList ++ (' ' :: (defined.chars ++ '(' :: tail)) :=
    trimStart_past indent _ blank (by
      intro c opened
      rw [← Option.some.inj (opened : some '#' = some c)]
      decide)
  obtain ⟨c,rest,named,nonblank⟩ := defined.head
  have names : afterBlanks (' ' :: (defined.chars ++ '(' :: tail)) =
      [defined.chars ++ '(' :: tail,' ' :: (defined.chars ++ '(' :: tail)] := by
    have space : isBlank ' ' = true := by decide
    simp [afterBlanks,space,named,nonblank]
  simp only [definesMacro,String.toList_ofList,start,dropPrefix?_append,names]
  by_cases same : sought.chars = defined.chars
  · have bracket : isBlank '(' = false := by decide
    simp [same,dropPrefix?_append,trimStart_cons '(' tail bracket]
  · cases found : dropPrefix? sought.chars (defined.chars ++ '(' :: tail) with
    | none => simp [found,same]
    | some parameters =>
      have apart := word_opens sought defined tail parameters same (dropPrefix?_eq_some found)
      simp [found,same,apart]

theorem isCommentLine_other (indent text : List Char) (blank : ∀ c ∈ indent, isBlank c = true)
    (first : ∀ c, text.head? = some c → isBlank c = false ∧ c ≠ '/') :
    isCommentLine (.ofList (indent ++ text)) = false := by
  have plain : (String.ofList (indent ++ text)).toList = indent ++ text := String.toList_ofList
  rw [isCommentLine,plain]
  clear plain
  have other (c : Char) (rest : List Char) (apart : c ≠ '/') :
      dropPrefix? "//".toList (c :: rest) = none := by
    simp [dropPrefix?,apart.symm]
  induction indent with
  | nil =>
    cases text with
    | nil => rfl
    | cons c text =>
      obtain ⟨solid,apart⟩ := first c rfl
      have kept : ¬ (c = ' ' ∨ c = '\t') := by
        rintro (rfl | rfl)
        · exact absurd solid (by decide)
        · exact absurd solid (by decide)
      rw [List.nil_append,List.dropWhile_cons_of_neg (by simpa using kept),other c text apart]
      rfl
  | cons c indent ih =>
    by_cases skipped : c = ' ' ∨ c = '\t'
    · rw [List.cons_append,List.dropWhile_cons_of_pos (by simpa using skipped)]
      exact ih fun b member => blank b (by simp [member])
    · have apart : c ≠ '/' := by
        rintro rfl
        exact absurd (blank '/' (by simp)) (by decide)
      rw [List.cons_append,List.dropWhile_cons_of_neg (by simpa using skipped),other c _ apart]
      rfl

theorem isCommentLine_slashes (rest : List Char) :
    isCommentLine (.ofList ('/' :: '/' :: rest)) = true := by
  have plain : (String.ofList ('/' :: '/' :: rest)).toList = '/' :: '/' :: rest := String.toList_ofList
  rw [isCommentLine,plain]
  rfl

end Header

/-! The lines of a declaration. -/

/-- Holds no line feed and does not end in a carriage return. -/
def Single (line : List Char) : Prop := '\n' ∉ line ∧ line.getLast? ≠ some '\r'

theorem Closed.last {text : List Char} (closed : Closed text) : text.getLast? ≠ some '\r' := by
  intro last
  exact absurd (closed '\r' last).1 (by decide)

theorem Single.trailed {text : List Char} (single : Single text) (trailing : Trailing) :
    Single (text ++ trailing.chars) := by
  refine ⟨by simp [single.1,trailing.single],?_⟩
  rw [List.getLast?_append]
  cases last : trailing.chars.getLast? with
  | none => exact single.2
  | some c =>
    intro same
    exact trailing.kept (last.trans same)

theorem Declaration.commentLine_kind (d : Declaration) (line : List Char) (member : line ∈ d.commentLines) :
    (∃ rest, line = '/' :: '/' :: rest) ∧ Single line := by
  have remark (r : Remark) : Single r.line := by
    refine ⟨?_,(r.closed.indented r.nonempty "// ".toList).last⟩
    have single := r.single
    unfold Remark.line
    simp [single]
  have opened (r : Remark) : ∃ rest, r.line = '/' :: '/' :: rest := ⟨' ' :: r.chars,rfl⟩
  have tagged (n : ColumnNote) : Single ("// ".toList ++ n.tagged) := by
    refine ⟨?_,n.tagged_closed.last⟩
    have name := n.column.lacks '\n' (by decide)
    have text := n.first.single
    unfold ColumnNote.tagged
    simp [name,text]
  rcases List.mem_append.mp member with comment | note
  · obtain ⟨r,_,rfl⟩ := List.mem_map.mp comment
    exact ⟨opened r,remark r⟩
  · obtain ⟨n,_,inside⟩ := List.mem_flatMap.mp note
    rcases List.mem_cons.mp inside with rfl | more
    · exact ⟨⟨' ' :: n.tagged,rfl⟩,tagged n⟩
    · obtain ⟨r,_,rfl⟩ := List.mem_map.mp more
      exact ⟨opened r,remark r⟩

theorem Declaration.texts_single (d : Declaration) : ∀ text ∈ d.defineText :: d.inner, '\n' ∉ text := by
  have name := d.name.lacks '\n' (by decide)
  have definition := d.definition.lacks '\n' (by decide)
  have sql := d.single
  intro text member
  simp only [inner,List.mem_cons,List.mem_append,List.mem_map] at member
  rcases member with rfl | rfl | member | ⟨c,_,rfl⟩
  · unfold defineText
    simp [definition]
  · unfold nameText
    simp [name,sql]
  · rcases d.ancestry.texts_cases text member with rfl | ⟨definition,rfl⟩
    · decide
    · have named := definition.lacks '\n' (by decide)
      simp [named]
  · have column := c.name.lacks '\n' (by decide)
    have type := c.columnType.single
    unfold DeclaredColumn.text
    simp [column,type]

theorem Declaration.inner_opens (d : Declaration) (text : List Char) (member : text ∈ d.inner) :
    ∃ first rest, text = first :: rest ∧ isWord first = true := by
  simp only [inner,List.mem_cons,List.mem_append,List.mem_map] at member
  rcases member with rfl | member | ⟨column,_,rfl⟩
  · exact ⟨'N',_,rfl,by decide⟩
  · rcases d.ancestry.texts_cases text member with rfl | ⟨definition,rfl⟩
    · exact ⟨'P',_,rfl,by decide⟩
    · exact ⟨'P',_,rfl,by decide⟩
  · exact ⟨'C',_,rfl,by decide⟩

theorem Declaration.inner_first (d : Declaration) (text tail : List Char) (member : text ∈ d.inner)
    (c : Char) (opened : (text ++ tail).head? = some c) (sign : Char) (other : isWord sign = false) :
    isBlank c = false ∧ c ≠ sign := by
  obtain ⟨first,rest,rfl,letter⟩ := d.inner_opens text member
  obtain rfl : first = c := Option.some.inj opened
  refine ⟨not_blank_of_isWord first letter,?_⟩
  rintro rfl
  exact absurd letter (by simp [other])

theorem mem_continuedLines (spacing : Nat → Spacing) (texts : List (List Char)) (line : List Char)
    (member : line ∈ continuedLines spacing texts) :
    ∃ indent : Padding, ∃ text ∈ texts, ∃ tail, line = indent.chars ++ (text ++ tail) ∧
      ∃ trailing : Trailing, tail = trailing.chars ∨
        ∃ padding : Padding, tail = padding.chars ++ ['\\'] ++ trailing.chars := by
  fun_induction continuedLines spacing texts with
  | case1 => cases member
  | case2 spacing last =>
    refine ⟨(spacing 0).indent,last,by simp,_,?_,(spacing 0).trailing,.inl rfl⟩
    rw [← List.append_assoc]
    exact List.mem_singleton.mp member
  | case3 spacing first rest more ih =>
    rcases List.mem_cons.mp member with rfl | later
    · refine ⟨(spacing 0).indent,first,by simp,_,?_,(spacing 0).trailing,.inr ⟨(spacing 0).padding,rfl⟩⟩
      simp only [List.append_assoc]
    · obtain ⟨indent,text,inside,shape⟩ := ih later
      exact ⟨indent,text,by simp [inside],shape⟩

theorem isContinued_slash (text : List Char) (trailing : Padding) :
    isContinued (.ofList (text ++ ['\\'] ++ trailing.chars)) = true := by
  rw [isContinued,String.toList_ofList,trimEnd_slash,List.getLast?_concat]
  rfl

theorem isContinued_closed (text : List Char) (trailing : Padding) (closed : Closed text) :
    isContinued (.ofList (text ++ trailing.chars)) = false := by
  rw [isContinued,String.toList_ofList,trimEnd_closed text trailing closed]
  simpa using fun last : text.getLast? = some '\\' => (closed _ last).2 rfl

theorem continuedLines_isRun (spacing : Nat → Spacing) (texts : List (List Char)) (some : texts ≠ [])
    (closed : ∀ text ∈ texts, Closed text ∧ text ≠ []) :
    Header.IsRun ((continuedLines spacing texts).map String.ofList) := by
  fun_induction continuedLines spacing texts with
  | case1 => exact some rfl
  | case2 spacing last =>
    obtain ⟨ends,nonempty⟩ := closed last (by simp)
    exact isContinued_closed _ (spacing 0).trailing.toPadding (ends.indented nonempty _)
  | case3 spacing first rest more ih =>
    have later := ih more fun text member => closed text (by simp [member])
    exact later.cons (isContinued_slash _ (spacing 0).trailing.toPadding)

namespace Declaration

theorem macroLine_kind (d : Declaration) (line : List Char) (member : line ∈ d.macroLines) :
    Single line ∧ Header.isCommentLine (.ofList line) = false := by
  obtain ⟨indent,text,inside,tail,rfl,trailing,ending⟩ := mem_continuedLines _ _ _ member
  obtain ⟨ends,nonempty⟩ := d.texts_closed text inside
  have single := d.texts_single text inside
  have indented := indent.single
  refine ⟨?_,Header.isCommentLine_other _ _ indent.blank fun c opened => ?_⟩
  · rw [← List.append_assoc]
    rcases ending with rfl | ⟨padding,rfl⟩
    · have inner : Single (indent.chars ++ text) :=
        ⟨by simp [single,indented],(ends.indented nonempty _).last⟩
      exact inner.trailed trailing
    · have padded := padding.single
      have inner : Single (indent.chars ++ text ++ padding.chars ++ ['\\']) :=
        ⟨by simp [single,indented,padded],by simp⟩
      rw [← List.append_assoc,← List.append_assoc]
      exact inner.trailed trailing
  · rcases List.mem_cons.mp inside with rfl | inner
    · rw [← Option.some.inj (opened : some '#' = some c)]
      decide
    · exact d.inner_first text tail inner c opened '/' (by decide)

theorem definesMacro_defineText (d : Declaration) (sought : Word) (indent : Padding)
    (tail : List Char) :
    Header.definesMacro (.ofList sought.chars) (.ofList (indent.chars ++ (d.defineText ++ tail))) =
      decide (sought.chars = d.definition.chars) := by
  have shape : d.defineText ++ tail =
      "#define ".toList ++ (d.definition.chars ++ '(' :: ("NAME, PARENT, C)".toList ++ tail)) := by
    unfold defineText
    simp only [List.append_assoc]
    rfl
  rw [shape]
  exact Header.definesMacro_define sought d.definition indent.chars _ indent.blank

/-- A line of a declaration defines no macro but that of its own name. -/
theorem definesMacro_line (d : Declaration) (sought : Word) (line : List Char) (member : line ∈ d.lines)
    (other : sought.chars ≠ d.definition.chars ∨ line ∈ d.commentLines) :
    Header.definesMacro (.ofList sought.chars) (.ofList line) = false := by
  have comment (inside : line ∈ d.commentLines) :
      Header.definesMacro (.ofList sought.chars) (.ofList line) = false := by
    obtain ⟨⟨rest,rfl⟩,_⟩ := d.commentLine_kind line inside
    refine Header.definesMacro_other _ [] _ (by simp) fun c opened => ?_
    rw [← Option.some.inj (opened : some '/' = some c)]
    decide
  rcases other with apart | inside
  · rcases List.mem_append.mp member with inside | inside
    · exact comment inside
    · obtain ⟨indent,text,found,tail,rfl,_⟩ := mem_continuedLines _ _ _ inside
      rcases List.mem_cons.mp found with rfl | inner
      · rw [d.definesMacro_defineText sought indent tail]
        simpa using apart
      · refine Header.definesMacro_other _ _ _ indent.blank fun c opened => ?_
        exact d.inner_first text tail inner c opened '#' (by decide)
  · exact comment inside

/-- The line that defines the macro, continued by the line of the table's name. -/
theorem macroLines_opens (d : Declaration) : ∃ define inner, d.macroLines = define :: inner ∧
    Header.definesMacro (.ofList d.definition.chars) (.ofList define) = true ∧
    isContinued (.ofList define) = true := by
  refine ⟨_,_,rfl,?_,isContinued_slash _ (d.spacing 0).trailing.toPadding⟩
  rw [List.append_assoc,List.append_assoc,List.append_assoc,d.definesMacro_defineText d.definition _ _]
  simp

theorem single_lines (d : Declaration) (line : List Char) (member : line ∈ d.lines) : Single line := by
  rcases List.mem_append.mp member with inside | inside
  · exact (d.commentLine_kind line inside).2
  · exact (d.macroLine_kind line inside).1

theorem lines_last (d : Declaration) (before : List (List Char)) (line : List Char)
    (last : (before ++ d.lines).getLast? = some line) : line ∈ d.macroLines := by
  obtain ⟨define,inner,shape,_⟩ := d.macroLines_opens
  rw [lines,← List.append_assoc,List.getLast?_append,shape,List.getLast?_cons,Option.some_or,
    ← List.getLast?_cons,← shape] at last
  exact List.mem_of_getLast? last

end Declaration
end ReferenceSite
