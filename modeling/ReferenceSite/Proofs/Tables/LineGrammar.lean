import Mathlib.Tactic.IntervalCases
import ReferenceSite.Proofs.Tables.ReadTables
import ReferenceSite.Proofs.Text.Parts

/-! The grammar of the lines of a table's macro. What each kind of line has to look like is said on its
own, without the others; a line that looks like several kinds is of the first one. -/
namespace ReferenceSite
open ReferenceSite.Text

namespace LineKind

/-- Behind the slashes of the line stands the text, and white space ahead of it. -/
def Remarks (s text : List Char) : Prop :=
  ∃ indent gap, s = indent ++ "//".toList ++ (gap ++ text) ∧
    Blanks indent ∧ Blanks gap ∧ Stops isBlank text

/-- The text is about one column: a run of other signs than white space, and what stands behind that. -/
def Tags (text name about : List Char) : Prop :=
  ∃ gap behind, text = "@param".toList ++ (gap ++ (name ++ behind)) ∧
    Blanks gap ∧ gap ≠ [] ∧ name ≠ [] ∧ (∀ c ∈ name, isBlank c = false) ∧
    (behind = [] ∧ about = [] ∨
      ∃ space, behind = space ++ about ∧ Blanks space ∧ space ≠ [] ∧ Stops isBlank about)

/-- The line can be read as one of that kind. -/
def Admits (s : List Char) : LineKind → Prop
  | .define => ∃ indent behind, s = indent ++ "#define".toList ++ behind ∧
      Blanks indent ∧ Stops isWord behind
  | .blank => Blanks s
  | .columnComment name about => ∃ text, Remarks s text ∧ Tags text name.toList about.toList
  | .comment text => Remarks s text.toList
  | .tableName name => ∃ indent space behind,
      s = indent ++ "NAME(".toList ++ (name.toList ++ (space ++ ',' :: behind)) ∧
      Blanks indent ∧ IsWord name ∧ Blanks space
  | .parent => ∃ before word behind, s = before ++ word ++ behind ∧ (∀ c ∈ word, isWord c = true) ∧
      (∀ c, before.getLast? = some c → isWord c = false) ∧ Stops isWord behind ∧ IsParentWord word
  | .column columnType name => ∃ indent type gap behind,
      s = indent ++ "C(".toList ++ (type ++ ',' :: (gap ++ (name.toList ++ behind))) ∧
      Blanks indent ∧ type ≠ [] ∧ ',' ∉ type ∧ columnType.toList = trim type ∧
      Blanks gap ∧ IsWord name ∧ Stops isWord behind
  | .unrecognized => True

/-- The place of a kind in the order in which they are tried. -/
def rank : LineKind → Nat
  | .define => 0
  | .blank => 1
  | .columnComment .. => 2
  | .comment _ => 3
  | .tableName _ => 4
  | .parent => 5
  | .column .. => 6
  | .unrecognized => 7

/-! Each kind on its own. -/

theorem leadingWord?_eq_some_iff (s word rest : List Char) : leadingWord? s = some (word,rest) ↔
    s = word ++ rest ∧ word ≠ [] ∧ (∀ c ∈ word, isWord c = true) ∧ Stops isWord rest := by
  unfold leadingWord?
  dsimp only
  constructor
  · intro read
    split at read
    · cases read
    · rename_i filled
      cases read
      exact ⟨List.takeWhile_append_dropWhile.symm,fun empty => filled (by rw [empty]; rfl),
        fun c => List.mem_takeWhile_imp,stops_dropWhile isWord s⟩
  · rintro ⟨rfl,nonempty,letters,stops⟩
    rw [takeWhile_past isWord word rest letters stops,
      dropWhile_past isWord word rest letters stops,if_neg (by simpa using nonempty)]

theorem leadingWord?_eq_none_iff (s : List Char) : leadingWord? s = none ↔ Stops isWord s := by
  unfold leadingWord?
  cases s with
  | nil => simp [stops_nil]
  | cons c s => by_cases letter : isWord c = true <;> simp [stops_cons,letter]

theorem isDefine_iff (s : List Char) : isDefine s = true ↔ Admits s .define := by
  have mark (rest : List Char) := dropPrefix?_trimStart "#define".toList s rest (by decide)
    ((stops_cons _ _ _).mpr (by decide))
  unfold isDefine
  constructor
  · intro defines
    split at defines
    · rename_i rest found
      obtain ⟨indent,whole,blank⟩ := (mark rest).mp found
      exact ⟨indent,rest,whole,blank,(leadingWord?_eq_none_iff rest).mp (by simpa using defines)⟩
    · cases defines
  · rintro ⟨indent,behind,whole,blank,stops⟩
    rw [(mark behind).mpr ⟨indent,whole,blank⟩]
    simpa using (leadingWord?_eq_none_iff behind).mpr stops

theorem commentText?_eq_some_iff (s text : List Char) (single : '\n' ∉ s) :
    commentText? s = some text ↔ Remarks s text := by
  have mark (rest : List Char) := dropPrefix?_trimStart "//".toList s rest (by decide)
    ((stops_cons _ _ _).mpr (by decide))
  unfold commentText?
  rw [Option.bind_eq_bind,Option.bind_eq_some_iff]
  constructor
  · rintro ⟨rest,found,read⟩
    obtain ⟨indent,whole,blank⟩ := (mark rest).mp found
    dsimp only at read
    split at read
    · cases read
    · cases read
      obtain ⟨gap,shape,spaced,stops⟩ := (trimStart_eq_iff rest _).mp rfl
      exact ⟨indent,gap,by rw [whole,← shape],blank,spaced,stops⟩
  · rintro ⟨indent,gap,whole,blank,spaced,stops⟩
    refine ⟨gap ++ text,(mark _).mpr ⟨indent,whole,blank⟩,?_⟩
    have short : '\n' ∉ text := fun member => single (by rw [whole]; simp [member])
    rw [trimStart_past gap text spaced stops,if_neg (by simpa using short)]

/-- White space of any length, and the text behind it; a text that ends instead is empty there. -/
theorem spaced_iff (behind about : List Char) (stops : Stops (! isBlank ·) behind) :
    trimStart behind = about ↔ behind = [] ∧ about = [] ∨
      ∃ space, behind = space ++ about ∧ Blanks space ∧ space ≠ [] ∧ Stops isBlank about := by
  rw [trimStart_eq_iff]
  constructor
  · rintro ⟨space,rfl,blank,solid⟩
    cases space with
    | nil =>
      cases about with
      | nil => exact .inl ⟨rfl,rfl⟩
      | cons c about =>
        have first := (stops_cons _ _ _).mp solid
        have blank := (stops_cons _ _ _).mp stops
        simp [first] at blank
    | cons c space => exact .inr ⟨c :: space,rfl,blank,nofun,solid⟩
  · rintro (⟨rfl,rfl⟩ | ⟨space,rfl,blank,_,solid⟩)
    · exact ⟨[],rfl,List.forall_mem_nil _,stops_nil _⟩
    · exact ⟨space,rfl,blank,solid⟩

theorem columnComment?_eq_some_iff (text name about : List Char) :
    columnComment? text = some (name,about) ↔ Tags text name about := by
  unfold columnComment?
  rw [Option.bind_eq_bind,Option.bind_eq_some_iff]
  constructor
  · rintro ⟨rest,found,read⟩
    dsimp only at read
    split at read
    · cases read
    · rename_i filled
      cases read
      obtain ⟨gap,shape,spaced,stops⟩ := (trimStart_eq_iff rest _).mp rfl
      generalize trimStart rest = entry at *
      subst shape
      push Not at filled
      have first : entry.takeWhile (! isBlank ·) ≠ [] := by
        obtain ⟨c,more,rfl⟩ := List.exists_cons_of_ne_nil (by simpa using filled.2)
        simp [(stops_cons _ _ _).mp stops]
      refine ⟨gap,entry.dropWhile (! isBlank ·),?_,spaced,?_,first,fun c member => ?_,?_⟩
      · rw [List.takeWhile_append_dropWhile]
        exact dropPrefix?_eq_some found
      · rintro rfl
        exact filled.1 rfl
      · simpa using List.mem_takeWhile_imp member
      · exact (spaced_iff _ _ (stops_dropWhile _ entry)).mp rfl
  · rintro ⟨gap,behind,rfl,spaced,gapped,named,solid,ending⟩
    have letters : ∀ c ∈ name, (! isBlank c) = true := fun c member => by simp [solid c member]
    have stops : Stops (! isBlank ·) behind := by
      rcases ending with ⟨rfl,_⟩ | ⟨space,rfl,blank,nonempty,_⟩
      · exact stops_nil _
      · obtain ⟨c,space,rfl⟩ := List.exists_cons_of_ne_nil nonempty
        exact (stops_cons _ _ _).mpr (by simp [blank c])
    have entry : trimStart (gap ++ (name ++ behind)) = name ++ behind := by
      refine trimStart_past gap _ spaced ?_
      obtain ⟨c,name,rfl⟩ := List.exists_cons_of_ne_nil named
      exact (stops_cons _ _ _).mpr (solid c (by simp))
    refine ⟨_,dropPrefix?_append _ _,?_⟩
    dsimp only
    rw [entry,takeWhile_past _ name behind letters stops,dropWhile_past _ name behind letters stops,
      (spaced_iff behind about stops).mpr ending,if_neg]
    simp [gapped,named]

theorem isWord_ofList_iff (name : List Char) :
    IsWord (.ofList name) ↔ name ≠ [] ∧ ∀ c ∈ name, isWord c = true := by
  rw [IsWord,String.toList_ofList,← String.toList_inj.ne,String.toList_ofList]
  rfl

theorem tableName?_eq_some_iff (s name : List Char) :
    tableName? s = some name ↔ Admits s (.tableName (.ofList name)) := by
  have mark (rest : List Char) := dropPrefix?_trimStart "NAME(".toList s rest (by decide)
    ((stops_cons _ _ _).mpr (by decide))
  have comma (rest : List Char) := head?_trimStart ',' rest (by decide)
  unfold tableName?
  simp only [Option.bind_eq_bind,Option.bind_eq_some_iff,mark,Admits,String.toList_ofList,
    isWord_ofList_iff]
  constructor
  · rintro ⟨rest,⟨indent,whole,blank⟩,⟨word,more⟩,leading,read⟩
    obtain ⟨rfl,nonempty,letters,_⟩ := (leadingWord?_eq_some_iff rest word more).mp leading
    dsimp only at read
    split at read
    · rename_i found
      cases read
      obtain ⟨space,behind,rfl,spaced⟩ := (comma more).mp found
      exact ⟨indent,space,behind,whole,blank,⟨nonempty,letters⟩,spaced⟩
    · cases read
  · rintro ⟨indent,space,behind,whole,blank,⟨nonempty,letters⟩,spaced⟩
    have stops : Stops isWord (space ++ ',' :: behind) := by
      cases space with
      | nil => exact (stops_cons _ _ _).mpr (by decide)
      | cons c space => exact (stops_cons _ _ _).mpr (not_isWord_of_blank c (spaced c (by simp)))
    refine ⟨_,⟨indent,whole,blank⟩,(name,space ++ ',' :: behind),?_,?_⟩
    · exact (leadingWord?_eq_some_iff _ _ _).mpr ⟨rfl,nonempty,letters,stops⟩
    · exact if_pos ((comma _).mpr ⟨space,behind,rfl,spaced⟩)

theorem mentionsParent_admits (s : List Char) : mentionsParent s = true ↔ Admits s .parent := by
  simp only [mentionsParent_iff,mem_splitOnP_iff,Bool.not_eq_false',Bool.not_eq_true',Admits]
  constructor
  · rintro ⟨word,⟨before,behind,whole,letters,ahead,after⟩,related⟩
    exact ⟨before,word,behind,whole,letters,ahead,after,related⟩
  · rintro ⟨before,word,behind,whole,letters,ahead,after,related⟩
    exact ⟨word,⟨before,behind,whole,letters,ahead,after⟩,related⟩

theorem column?_eq_some_iff (s columnType name : List Char) : column? s = some (columnType,name) ↔
    Admits s (.column (.ofList columnType) (.ofList name)) := by
  simp only [Admits,String.toList_ofList,isWord_ofList_iff]
  constructor
  · intro read
    obtain ⟨rest,opened,read⟩ := Option.bind_eq_some_iff.mp read
    obtain ⟨behind,comma,read⟩ := Option.bind_eq_some_iff.mp read
    obtain ⟨⟨word,more⟩,leading,read⟩ := Option.bind_eq_some_iff.mp read
    obtain ⟨indent,whole,blank⟩ := (dropPrefix?_trimStart "C(".toList s rest (by decide)
      ((stops_cons _ _ _).mpr (by decide))).mp opened
    obtain ⟨shape,nonempty,letters,stops⟩ := (leadingWord?_eq_some_iff _ word more).mp leading
    dsimp only at read
    split at read
    · cases read
    · rename_i filled
      cases read
      obtain ⟨gap,rfl,spaced,_⟩ := (trimStart_eq_iff behind _).mp shape
      have split := List.takeWhile_append_dropWhile (p := (· ≠ ',')) (l := rest)
      rw [dropPrefix?_eq_some comma] at split
      refine ⟨indent,rest.takeWhile (· ≠ ','),gap,more,whole.trans (congrArg _ split.symm),blank,
        by simpa using filled,fun member => ?_,rfl,spaced,⟨nonempty,letters⟩,stops⟩
      simpa using List.mem_takeWhile_imp member
  · rintro ⟨indent,type,gap,behind,rfl,blank,filled,undivided,rfl,spaced,⟨nonempty,letters⟩,stops⟩
    have start : trimStart (gap ++ (name ++ behind)) = name ++ behind := by
      refine trimStart_past gap _ spaced ?_
      obtain ⟨c,name,rfl⟩ := List.exists_cons_of_ne_nil nonempty
      exact (stops_cons _ _ _).mpr (not_blank_of_isWord c (letters c (by simp)))
    have leading := (leadingWord?_eq_some_iff _ name behind).mpr ⟨rfl,nonempty,letters,stops⟩
    rw [column?_comma indent type _ blank filled undivided,start,leading]
    rfl

/-! The first kind that fits. -/

/-- The line as a line of the kind that is tried at that place. -/
def reading (s : List Char) : Nat → Option LineKind
  | 0 => if isDefine s then some .define else none
  | 1 => if (trim s).isEmpty then some .blank else none
  | 2 => ((commentText? s).bind columnComment?).map fun (name,about) =>
    .columnComment (.ofList name) (.ofList about)
  | 3 => (commentText? s).map (.comment <| .ofList ·)
  | 4 => (tableName? s).map (.tableName <| .ofList ·)
  | 5 => if mentionsParent s then some .parent else none
  | 6 => (column? s).map fun (columnType,name) => .column (.ofList columnType) (.ofList name)
  | _ => some .unrecognized

theorem reading_ofLine (line : String) : reading line.toList (ofLine line).rank = some (ofLine line) ∧
    ∀ place < (ofLine line).rank, reading line.toList place = none := by
  have first (n : Nat) (kind : LineKind) (ranked : kind.rank = n) (same : ofLine line = kind)
      (read : reading line.toList n = some kind)
      (earlier : ∀ place < n, reading line.toList place = none) :
      reading line.toList (ofLine line).rank = some (ofLine line) ∧
        ∀ place < (ofLine line).rank, reading line.toList place = none := by
    rw [same,ranked]
    exact ⟨read,earlier⟩
  cases define : isDefine line.toList with
  | true => exact first 0 .define rfl (by simp [ofLine,define]) (by simp [reading,define]) nofun
  | false =>
    cases blank : (trim line.toList).isEmpty with
    | true =>
      refine first 1 .blank rfl (by simp [ofLine,define,blank]) (by simp [reading,blank])
        fun place bound => ?_
      interval_cases place
      simp [reading,define]
    | false =>
      cases comment : commentText? line.toList with
      | some text =>
        cases tagged : columnComment? text with
        | some entry =>
          refine first 2 (.columnComment (.ofList entry.1) (.ofList entry.2)) rfl
            (by simp [ofLine,define,blank,comment,tagged]) (by simp [reading,comment,tagged])
            fun place bound => ?_
          interval_cases place <;> simp [reading,define,blank]
        | none =>
          refine first 3 (.comment (.ofList text)) rfl (by simp [ofLine,define,blank,comment,tagged])
            (by simp [reading,comment]) fun place bound => ?_
          interval_cases place <;> simp [reading,define,blank,comment,tagged]
      | none =>
        cases named : tableName? line.toList with
        | some name =>
          refine first 4 (.tableName (.ofList name)) rfl (by simp [ofLine,define,blank,comment,named])
            (by simp [reading,named]) fun place bound => ?_
          interval_cases place <;> simp [reading,define,blank,comment]
        | none =>
          cases parent : mentionsParent line.toList with
          | true =>
            refine first 5 .parent rfl (by simp [ofLine,define,blank,comment,named,parent])
              (by simp [reading,parent]) fun place bound => ?_
            interval_cases place <;> simp [reading,define,blank,comment,named]
          | false =>
            cases column : column? line.toList with
            | some entry =>
              refine first 6 (.column (.ofList entry.1) (.ofList entry.2)) rfl
                (by simp [ofLine,define,blank,comment,named,parent,column])
                (by simp [reading,column]) fun place bound => ?_
              interval_cases place <;> simp [reading,define,blank,comment,named,parent]
            | none =>
              refine first 7 .unrecognized rfl
                (by simp [ofLine,define,blank,comment,named,parent,column]) rfl fun place bound => ?_
              interval_cases place <;> simp [reading,define,blank,comment,named,parent,column]

theorem admits_iff (s : List Char) (kind : LineKind) (single : '\n' ∉ s) :
    Admits s kind ↔ reading s kind.rank = some kind := by
  have remarks (text : List Char) := commentText?_eq_some_iff s text single
  cases kind with
  | define => simp [rank,reading,isDefine_iff]
  | blank => simp [rank,reading,← trim_isEmpty_iff,Admits]
  | columnComment name about =>
    simp [rank,reading,Admits,ofList_eq_iff,← remarks,← columnComment?_eq_some_iff,
      Option.bind_eq_some_iff]
  | comment text => simp [rank,reading,Admits,ofList_eq_iff,← remarks]
  | tableName name =>
    have read := tableName?_eq_some_iff s name.toList
    rw [String.ofList_toList] at read
    simp [rank,reading,ofList_eq_iff,← read]
  | parent => simp [rank,reading,mentionsParent_admits]
  | column columnType name =>
    have read := column?_eq_some_iff s columnType.toList name.toList
    rw [String.ofList_toList,String.ofList_toList] at read
    simp [rank,reading,ofList_eq_iff,← read]
  | unrecognized => simp [rank,reading,Admits]

/-- The kind of a line is the first one that the line can be read as. -/
theorem ofLine_eq_iff (line : String) (kind : LineKind) (single : '\n' ∉ line.toList) :
    ofLine line = kind ↔ Admits line.toList kind ∧
      ∀ other, Admits line.toList other → kind.rank ≤ other.rank := by
  obtain ⟨read,none⟩ := reading_ofLine line
  simp only [admits_iff _ _ single]
  constructor
  · rintro rfl
    refine ⟨read,fun other found => ?_⟩
    by_contra earlier
    rw [none other.rank (by omega)] at found
    cases found
  · rintro ⟨found,least⟩
    have upper := least _ read
    have lower : (ofLine line).rank ≤ kind.rank := by
      by_contra earlier
      rw [none kind.rank (by omega)] at found
      cases found
    have same : (ofLine line).rank = kind.rank := by omega
    rw [same,found] at read
    exact (Option.some.inj read).symm

/-- A comment on a column that shows the declaration of a column and names a parent. -/
theorem shown_column_tagged : '\n' ∉ "\t// @param ts\u3000 C(int64_t, PARENT)".toList ∧
    Admits "\t// @param ts\u3000 C(int64_t, PARENT)".toList (.columnComment "ts" "C(int64_t, PARENT)") ∧
    ∀ other, Admits "\t// @param ts\u3000 C(int64_t, PARENT)".toList other → 2 ≤ other.rank :=
  ⟨by decide,(ofLine_eq_iff _ _ (by decide)).mp (by decide +kernel)⟩

end LineKind
end ReferenceSite
