import ReferenceSite.Proofs.Tables.Announcements
import ReferenceSite.Proofs.Tables.Location

/-! Headers read back. Every announced definition is found where it is written, whatever stands around
it, so a header yields its tables in the order of their announcements, each as it is declared, exactly
if all their columns are readable. -/
namespace ReferenceSite
open ReferenceSite.Text

/-! Declarations among others. -/

private theorem gap_defines (p : Padding) (definition : String) :
    Header.definesMacro definition (.ofList p.chars) = false := by
  have kind := Header.definesMacro_other definition p.chars [] p.blank nofun
  rwa [List.append_nil] at kind

private theorem gap_comments (p : Padding) : Header.isCommentLine (.ofList p.chars) = false := by
  have kind := Header.isCommentLine_other p.chars [] p.blank nofun
  rwa [List.append_nil] at kind

theorem blocks_split (gaps : Nat → List Trailing) (declared : List Declaration)
    (distinct : (declared.map (·.definition.chars)).Nodup) (d : Declaration) (member : d ∈ declared) :
    ∃ before after, blocks gaps declared = before ++ d.lines ++ after ∧
      (∀ line ∈ before, Header.definesMacro (.ofList d.definition.chars) (.ofList line) = false) ∧
      ∀ line, before.getLast? = some line → Header.isCommentLine (.ofList line) = false := by
  induction declared generalizing gaps with
  | nil => cases member
  | cons e rest ih =>
    obtain ⟨apart,later⟩ := List.nodup_cons.mp distinct
    rcases List.mem_cons.mp member with rfl | inside
    · refine ⟨(gaps 0).map (·.chars),_,rfl,fun line gap => ?_,fun line last => ?_⟩
      · obtain ⟨p,_,rfl⟩ := List.mem_map.mp gap
        exact gap_defines p.toPadding _
      · obtain ⟨p,_,rfl⟩ := List.mem_map.mp (List.mem_of_getLast? last)
        exact gap_comments p.toPadding
    · obtain ⟨before,after,shape,undefined,uncommented⟩ := ih (fun n => gaps (n + 1)) later inside
      have other : d.definition.chars ≠ e.definition.chars := fun same =>
        apart (List.mem_map.mpr ⟨d,inside,same⟩)
      refine ⟨(gaps 0).map (·.chars) ++ e.lines ++ before,after,?_,?_,?_⟩
      · rw [blocks,shape]
        simp only [List.append_assoc]
      · intro line member
        rcases List.mem_append.mp member with first | second
        · rcases List.mem_append.mp first with gap | own
          · obtain ⟨p,_,rfl⟩ := List.mem_map.mp gap
            exact gap_defines p.toPadding _
          · exact e.definesMacro_line d.definition line own (.inl other)
        · exact undefined line second
      · intro line last
        rcases List.eq_nil_or_concat before with rfl | ⟨front,own,rfl⟩
        · rw [List.append_nil] at last
          exact (e.macroLine_kind line (e.lines_last _ line last)).2
        · rw [List.concat_eq_append] at last uncommented
          rw [← List.append_assoc,List.getLast?_concat] at last
          exact uncommented line (by rw [List.getLast?_concat,last])

/-! Announcements among declarations. -/

def announcer : List Char := Dialect.standard.invocationMacro.toList

theorem announcer_bracket : "PERFETTO_TP_TABLE(".toList = announcer ++ ['('] := by decide

theorem Declaration.unannounced (d : Declaration) (text : List Char) (member : text ∈ d.defineText :: d.inner) :
    ∃ c rest, text = c :: rest ∧ isBlank c = false ∧
      ∀ tail, dropPrefix? (announcer ++ ['(']) (text ++ tail) = none := by
  simp only [inner,List.mem_cons,List.mem_append,List.mem_map] at member
  rcases member with rfl | rfl | member | ⟨column,_,rfl⟩
  · exact ⟨'#',_,rfl,by decide,fun tail => rfl⟩
  · exact ⟨'N',_,rfl,by decide,fun tail => rfl⟩
  · rcases d.ancestry.texts_cases text member with rfl | ⟨definition,rfl⟩
    · exact ⟨'P',_,rfl,by decide,fun tail => rfl⟩
    · exact ⟨'P',_,rfl,by decide,fun tail => rfl⟩
  · exact ⟨'C',_,rfl,by decide,fun tail => rfl⟩

theorem invocationsFrom_gap (p : Padding) (rest : List Char) :
    Header.invocationsFrom announcer true (p.chars ++ '\n' :: rest) =
      Header.invocationsFrom announcer true rest := by
  have passed := Header.invocationsFrom_blanks announcer 'P' _ rfl (by decide) (p.chars ++ ['\n']) rest
  rw [List.append_assoc] at passed
  refine passed fun b member => ?_
  rcases List.mem_append.mp member with inside | ending
  · exact p.blank b inside
  · rw [List.mem_singleton.mp ending]
    decide

theorem invocationsFrom_line (d : Declaration) (line : List Char) (member : line ∈ d.lines)
    (rest : List Char) : Header.invocationsFrom announcer true (line ++ '\n' :: rest) =
      Header.invocationsFrom announcer true rest := by
  have single := (d.single_lines line member).1
  rcases List.mem_append.mp member with inside | inside
  · obtain ⟨⟨more,rfl⟩,_⟩ := d.commentLine_kind line inside
    exact Header.invocationsFrom_other announcer '/' ('/' :: more) rest (by decide) rfl single
  · obtain ⟨indent,text,found,tail,rfl,_⟩ := mem_continuedLines _ _ _ inside
    obtain ⟨c,more,rfl,solid,other⟩ := d.unannounced text found
    have behind : '\n' ∉ c :: (more ++ tail) := fun member => single (List.mem_append_right _ member)
    have stuck := other (tail ++ '\n' :: rest)
    rw [List.append_assoc,Header.invocationsFrom_blanks announcer 'P' _ rfl (by decide) _ _ indent.blank]
    refine Header.invocationsFrom_other announcer c (more ++ tail) rest solid ?_ behind
    rw [← List.append_assoc] at stuck
    exact stuck

theorem invocationsFrom_lines (written : List (List Char)) (rest : List Char)
    (silent : ∀ line ∈ written, ∀ rest, Header.invocationsFrom announcer true (line ++ '\n' :: rest) =
      Header.invocationsFrom announcer true rest) :
    Header.invocationsFrom announcer true (written.flatMap (· ++ ['\n']) ++ rest) =
      Header.invocationsFrom announcer true rest := by
  induction written with
  | nil => rfl
  | cons line written ih =>
    rw [List.flatMap_cons,List.append_assoc,List.append_assoc,List.singleton_append,
      silent line (by simp)]
    exact ih fun l member => silent l (by simp [member])

theorem mem_blocks (gaps : Nat → List Trailing) (declared : List Declaration) (line : List Char)
    (member : line ∈ blocks gaps declared) :
    (∃ p : Trailing, line = p.chars) ∨ ∃ d ∈ declared, line ∈ d.lines := by
  have gap (lines : List Trailing) (inside : line ∈ lines.map (·.chars)) :
      ∃ p : Trailing, line = p.chars := by
    obtain ⟨p,_,rfl⟩ := List.mem_map.mp inside
    exact ⟨p,rfl⟩
  induction declared generalizing gaps with
  | nil => exact .inl (gap _ member)
  | cons d rest ih =>
    rw [blocks,List.append_assoc] at member
    rcases List.mem_append.mp member with inside | behind
    · exact .inl (gap _ inside)
    · rcases List.mem_append.mp behind with own | later
      · exact .inr ⟨d,by simp,own⟩
      · rcases ih _ later with blank | ⟨e,inside,line⟩
        · exact .inl blank
        · exact .inr ⟨e,by simp [inside],line⟩

namespace DeclaredHeader

theorem announcement_single (d : Declaration) : Single d.announcement := by
  have named := d.definition.lacks '\n' (by decide)
  have shape : d.announcement =
      ("PERFETTO_TP_TABLE(".toList ++ d.definition.chars ++ [')']) ++ [';'] := by
    unfold Declaration.announcement
    simp only [List.append_assoc]
    rfl
  rw [shape]
  refine ⟨by simp [named],?_⟩
  rw [List.getLast?_concat]
  decide

theorem lines_single (h : DeclaredHeader) (line : List Char) (member : line ∈ h.lines) :
    Single line := by
  rcases List.mem_append.mp member with block | announced
  · rcases mem_blocks _ _ _ block with ⟨p,rfl⟩ | ⟨d,_,inside⟩
    · exact ⟨p.single,p.kept⟩
    · exact d.single_lines line inside
  · obtain ⟨d,_,rfl⟩ := List.mem_map.mp announced
    exact announcement_single d

theorem invocations_text (h : DeclaredHeader) : Header.invocations .standard h.text =
    h.announced.map fun d => .ofList d.definition.chars := by
  have silent : ∀ line ∈ blocks h.gaps h.declared, ∀ rest,
      Header.invocationsFrom announcer true (line ++ '\n' :: rest) =
        Header.invocationsFrom announcer true rest := by
    intro line member rest
    rcases mem_blocks _ _ _ member with ⟨p,rfl⟩ | ⟨d,_,inside⟩
    · exact invocationsFrom_gap p.toPadding rest
    · exact invocationsFrom_line d line inside rest
  have announced (ds : List Declaration) : Header.invocationsFrom announcer true
      ((ds.map Declaration.announcement).flatMap (· ++ ['\n'])) =
        ds.map fun d => .ofList d.definition.chars := by
    induction ds with
    | nil => exact Header.invocationsFrom_nil announcer
    | cons d ds ih =>
      have read := Header.invocationsFrom_announced announcer d.definition [';']
        ((ds.map Declaration.announcement).flatMap (· ++ ['\n'])) (by rintro c ⟨⟩; decide) (by decide)
        (by decide)
      have shape (rest : List Char) : d.announcement ++ ['\n'] ++ rest =
          announcer ++ ['('] ++ (d.definition.chars ++ ')' :: ([';'] ++ '\n' :: rest)) := by
        unfold Declaration.announcement
        rw [announcer_bracket]
        simp only [List.append_assoc]
        rfl
      rw [List.map_cons,List.flatMap_cons,shape,read,ih,List.map_cons]
  have plain : h.text.toList = h.lines.flatMap (· ++ ['\n']) := String.toList_ofList
  rw [Header.invocations,plain,lines,List.flatMap_append]
  exact (invocationsFrom_lines _ _ silent).trans (announced h.announced)

theorem numbered_text (h : DeclaredHeader) :
    (Header.numbered h.text).map (·.2) = h.lines.map String.ofList := by
  have plain : h.text.toList = h.lines.flatMap (· ++ ['\n']) := String.toList_ofList
  have lines : Text.lines h.text.toList = h.lines := by
    rw [plain]
    exact lines_joined h.lines (fun line member => (h.lines_single line member).1)
      (fun line member => (h.lines_single line member).2)
  rw [Header.numbered,lines]
  apply List.ext_getElem
  · simp
  · intro i left right
    simp

/-- The definition of a declared table is found, with all its lines and no others. -/
theorem body?_text (h : DeclaredHeader) (d : Declaration) (declared : d ∈ h.declared) :
    ∃ body, Header.body? h.text (.ofList d.definition.chars) = some body ∧
      body.map (·.2) = d.lines.map String.ofList := by
  obtain ⟨before,after,shape,undefined,uncommented⟩ := blocks_split h.gaps h.declared h.distinct d declared
  obtain ⟨define,inner,macroShape,defines,continued⟩ := d.macroLines_opens
  have run := continuedLines_isRun d.spacing (d.defineText :: d.inner) (by simp) d.texts_closed
  have whole : continuedLines d.spacing (d.defineText :: d.inner) = define :: inner := macroShape
  rw [whole,List.map_cons] at run
  have found := Header.body?_found h.text (.ofList d.definition.chars) (before.map String.ofList)
    (d.commentLines.map String.ofList) (inner.map String.ofList)
    ((after ++ h.announced.map Declaration.announcement).map String.ofList) (.ofList define)
    (by
      rw [h.numbered_text,lines,shape,Declaration.lines,macroShape]
      simp only [List.map_append,List.map_cons,List.append_assoc])
    (by
      intro line member
      rw [← List.map_append] at member
      obtain ⟨cs,inside,rfl⟩ := List.mem_map.mp member
      rcases List.mem_append.mp inside with ahead | comment
      · exact undefined cs ahead
      · exact d.definesMacro_line d.definition cs (List.mem_append_left _ comment) (.inr comment))
    defines
    (by
      intro line last
      rw [List.getLast?_map] at last
      obtain ⟨cs,ends,rfl⟩ := Option.map_eq_some_iff.mp last
      exact uncommented cs ends)
    (by
      intro line member
      obtain ⟨cs,inside,rfl⟩ := List.mem_map.mp member
      obtain ⟨⟨rest,rfl⟩,_⟩ := d.commentLine_kind cs inside
      exact Header.isCommentLine_slashes rest)
    run continued
  obtain ⟨body,located,lines⟩ := found
  refine ⟨body,located,?_⟩
  rw [lines,Declaration.lines,macroShape,List.map_append,List.map_cons]

end DeclaredHeader

/-! All announced tables. -/

namespace Header

theorem tableOf_eq_ok (path : Path) (dialect : Dialect) (source definition : String)
    (body : List (Nat × String)) (located : body? source definition = some body)
    (more : HeaderTables) : tableOf path dialect source definition = .ok more ↔
      ∃ table, Table.ofBody path dialect body = .ok table ∧ more = ⟨[table],[]⟩ := by
  simp only [tableOf,located]
  cases Table.ofBody path dialect body with
  | error fault => exact ⟨nofun,nofun⟩
  | ok table =>
    constructor
    · intro same
      exact ⟨table,rfl,(Except.ok.inj same).symm⟩
    · rintro ⟨_,⟨⟩,rfl⟩
      rfl

theorem extend_keeps (path : Path) (dialect : Dialect) (source : String) (names : List String)
    (found result : HeaderTables)
    (read : finished (extend path dialect source found names) = .ok result) :
    found.tables <+: result.tables := by
  induction names generalizing found with
  | nil =>
    cases read
    exact List.prefix_rfl
  | cons name names ih =>
    rw [extend] at read
    cases step : tableOf path dialect source name with
    | error fault =>
      rw [step] at read
      cases read
    | ok more =>
      rw [step] at read
      exact (List.prefix_append _ _).trans (ih _ read)

/-- Tables are added one for each name, so the whole is as wanted exactly if each of them is. -/
theorem extend_iff {α : Type} (path : Path) (dialect : Dialect) (source : String) (items : List α)
    (name : α → String) (wanted : α → Table) (found : HeaderTables)
    (located : ∀ x ∈ items, ∃ body, body? source (name x) = some body) :
    finished (extend path dialect source found (items.map name)) =
        .ok ⟨found.tables ++ items.map wanted,found.missing⟩ ↔
      ∀ x ∈ items, tableOf path dialect source (name x) = .ok ⟨[wanted x],[]⟩ := by
  induction items generalizing found with
  | nil => simp [extend,finished]
  | cons x items ih =>
    obtain ⟨body,here⟩ := located x (by simp)
    rw [List.map_cons,List.map_cons,extend,List.forall_mem_cons]
    cases step : tableOf path dialect source (name x) with
    | error fault => exact ⟨nofun,nofun⟩
    | ok more =>
      obtain ⟨table,_,rfl⟩ := (tableOf_eq_ok path dialect source (name x) body here more).mp step
      have rest := ih (found.append ⟨[table],[]⟩) fun y member => located y (by simp [member])
      simp only [HeaderTables.append,List.append_nil,List.append_assoc] at rest
      by_cases same : table = wanted x
      · rw [same] at rest
        simp only [HeaderTables.append,List.append_nil,same,true_and]
        exact rest
      · constructor
        · intro read
          have kept := extend_keeps path dialect source _ _ _ read
          have first := (List.prefix_append_right_inj _).mp kept
          exact absurd (List.cons_prefix_cons.mp first).1 same
        · rintro ⟨equal,_⟩
          cases equal
          exact absurd rfl same

end Header

/-- A header yields what it declares exactly if each announced definition does. -/
theorem DeclaredHeader.parse_bodies (h : DeclaredHeader) (path : Path) :
    Header.parse path .standard h.text = .ok ⟨h.announced.map Declaration.table,[]⟩ ↔
      ∀ d ∈ h.announced, ∃ body, body.map (·.2) = d.lines.map String.ofList ∧
        Table.ofBody path .standard body = .ok d.table := by
  have located (d : Declaration) (announced : d ∈ h.announced) := h.body?_text d (h.present d announced)
  have each := Header.extend_iff path .standard h.text h.announced
    (fun d => .ofList d.definition.chars) Declaration.table .none fun d announced => by
      obtain ⟨body,found,_⟩ := located d announced
      exact ⟨body,found⟩
  rw [Header.parse,h.invocations_text]
  refine each.trans (forall₂_congr fun d announced => ?_)
  obtain ⟨body,found,written⟩ := located d announced
  rw [Header.tableOf_eq_ok path .standard h.text _ body found]
  constructor
  · rintro ⟨table,read,same⟩
    cases same
    exact ⟨body,written,read⟩
  · rintro ⟨other,same,read⟩
    rw [d.ofBody_iff path other same,← d.ofBody_iff path body written] at read
    exact ⟨d.table,read,rfl⟩

/-- A header in the documented shape yields the tables that it announces, in that order and each as it
is declared, exactly if every column of theirs is readable. -/
theorem DeclaredHeader.parse_iff (h : DeclaredHeader) (path : Path) :
    Header.parse path .standard h.text = .ok ⟨h.announced.map Declaration.table,[]⟩ ↔
      ∀ d ∈ h.announced, ∀ c ∈ d.columns, c.Readable := by
  rw [h.parse_bodies path]
  refine forall₂_congr fun d announced => ?_
  constructor
  · rintro ⟨body,written,read⟩
    exact (d.ofBody_iff path body written).mp read
  · intro readable
    obtain ⟨body,_,written⟩ := h.body?_text d (h.present d announced)
    exact ⟨body,written,(d.ofBody_iff path body written).mpr readable⟩

/-! A header of two tables, the name of one definition the beginning of the other. -/

def ended : Trailing := ⟨⟨[],nofun,nofun⟩,nofun⟩

def spaced (indent : List Char) (blank : indent.all isBlank = true) (single : '\n' ∉ indent) :
    Spacing :=
  ⟨⟨indent,List.all_eq_true.mp blank,single⟩,
    ⟨[' '],List.forall_mem_singleton.mpr (by decide),by decide⟩,ended⟩

def indented : Nat → Spacing
  | 0 => spaced [] (by decide) (by decide)
  | _ => spaced [' ',' '] (by decide) (by decide)

def word (text : String) (nonempty : text.toList ≠ []) (letters : text.toList.all isWord = true) :
    Word :=
  ⟨text.toList,nonempty,List.all_eq_true.mp letters⟩

def remark (text : String) (nonempty : text.toList ≠ []) (trimmed : Trimmed text.toList)
    (single : '\n' ∉ text.toList) (uncontinued : text.toList.getLast? ≠ some '\\')
    (untagged : text.toList.head? ≠ some '@') : Remark :=
  ⟨text.toList,nonempty,trimmed,single,uncontinued,fun c rest _ same => untagged (by rw [same]; rfl)⟩

def int64 : TypeText :=
  ⟨"int64_t".toList,by decide,⟨by rintro c ⟨⟩; decide,by rintro c ⟨⟩; decide⟩,by decide⟩

private theorem base_qualified : ∀ c ∈ "base::".toList, isWord c = true ∨ c = ':' := by
  have letters : "base::".toList.all (fun c => isWord c || decide (c = ':')) = true := by decide
  intro c member
  have letter := List.all_eq_true.mp letters c member
  simpa using letter

def frames : Declaration where
  definition := word "FRAME_DEF" (by decide) (by decide)
  comment := [remark "Frames." (by decide) ⟨by rintro c ⟨⟩; decide,by rintro c ⟨⟩; decide⟩ (by decide)
    (by decide) (by decide)]
  notes := []
  name := word "FrameTable" (by decide) (by decide)
  sqlName := "frame".toList
  single := by decide
  ancestry := .root
  columns := [⟨.optional "base::".toList base_qualified int64,word "line" (by decide) (by decide)⟩]
  spacing := indented

def parts : Declaration where
  definition := word "FRAME_DEF_PART" (by decide) (by decide)
  comment := []
  notes := [⟨word "ts" (by decide) (by decide),remark "when it began" (by decide)
    ⟨by rintro c ⟨⟩; decide,by rintro c ⟨⟩; decide⟩ (by decide) (by decide) (by decide),[]⟩]
  name := word "PartTable" (by decide) (by decide)
  sqlName := "part".toList
  single := by decide
  ancestry := .parent frames.definition
  columns := [⟨.plain int64,word "ts" (by decide) (by decide)⟩]
  spacing := indented

def framesHeader : DeclaredHeader where
  declared := [parts,frames]
  distinct := by decide
  announced := [frames,parts]
  present := by simp
  gaps := fun _ => []

private theorem int64_bare : ¬ Wrapped int64.chars :=
  TableDraft.optionalArgument?_none int64.chars int64.single rfl

theorem frames_read : Header.parse ⟨"frames.h"⟩ .standard framesHeader.text =
    .ok ⟨[frames.table,parts.table],[]⟩ := by
  refine (framesHeader.parse_iff ⟨"frames.h"⟩).mpr ?_
  intro d announced c column
  have either : d = frames ∨ d = parts := by simpa [framesHeader] using announced
  rcases either with rfl | rfl
  · obtain rfl := List.mem_singleton.mp column
    exact ⟨by decide,by decide,nofun⟩
  · obtain rfl := List.mem_singleton.mp column
    refine ⟨by decide,by decide,?_⟩
    rintro type ⟨⟩
    exact int64_bare

/-! A header with a column that has the name of a macro's parameter. -/

def orphans : Declaration where
  definition := word "FOO_DEF" (by decide) (by decide)
  comment := [remark "Table." (by decide) ⟨by rintro c ⟨⟩; decide,by rintro c ⟨⟩; decide⟩ (by decide)
    (by decide) (by decide)]
  notes := []
  name := word "FooTable" (by decide) (by decide)
  sqlName := "foo".toList
  single := by decide
  ancestry := .none
  columns := [⟨.plain int64,word "ts" (by decide) (by decide)⟩,
    ⟨.plain int64,word "PARENT" (by decide) (by decide)⟩]
  spacing := indented

def orphansHeader : DeclaredHeader where
  declared := [orphans]
  distinct := by decide
  announced := [orphans]
  present := by simp
  gaps := fun n => if n = 0 then [] else [ended]

example : orphansHeader.text =
    "// Table.\n" ++
    "#define FOO_DEF(NAME, PARENT, C) \\\n" ++
    "  NAME(FooTable, \"foo\") \\\n" ++
    "  C(int64_t, ts) \\\n" ++
    "  C(int64_t, PARENT)\n\n" ++
    "PERFETTO_TP_TABLE(FOO_DEF);\n" := by decide +kernel

theorem orphans_lost : Header.parse ⟨"foo.h"⟩ .standard orphansHeader.text ≠
    .ok ⟨orphansHeader.announced.map Declaration.table,[]⟩ := by
  intro read
  obtain ⟨body,written,same⟩ := (orphansHeader.parse_bodies ⟨"foo.h"⟩).mp read orphans (by simp [orphansHeader])
  have readable := (orphans.ofBody_iff ⟨"foo.h"⟩ body written).mp same
  have column := readable _ (List.mem_cons_of_mem _ (List.mem_cons_self ..))
  exact column.unrelated "PARENT".toList (List.mem_cons_self ..) (.inl rfl)

end ReferenceSite
