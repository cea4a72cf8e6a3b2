import ReferenceSite.Proofs.Tables.LineReading
import ReferenceSite.Proofs.Tables.OptionalType
import ReferenceSite.Proofs.Text.Parts

/-! Which columns are read as they are declared. A comma in the type ends it early, a word that
belongs to a parent turns the line into the declaration of one, and a plain type that holds a wrapper
counts as optional; every other column comes back as it is written. -/
namespace ReferenceSite
open ReferenceSite.Text

def IsParentWord (word : List Char) : Prop :=
  word = "PARENT".toList ∨ "ROOT_TABLE".toList <:+ word

instance (word : List Char) : Decidable (IsParentWord word) := inferInstanceAs (Decidable (_ ∨ _))

structure DeclaredColumn.Readable (c : DeclaredColumn) : Prop where
  undivided : ',' ∉ c.columnType.text
  unrelated : ∀ word ∈ c.name.chars :: c.columnType.text.splitOnP (! isWord ·), ¬ IsParentWord word
  bare : ∀ type, c.columnType = .plain type → ¬ Wrapped type.chars

/-! The text of a type. -/

theorem DeclaredType.trimmed (t : DeclaredType) : Trimmed t.text := by
  cases t with
  | plain type => exact type.trimmed
  | optional qualifier qualified argument =>
    refine ⟨fun c first => ?_,fun c last => ?_⟩
    · cases qualifier with
      | nil =>
        have same : 'O' = c := Option.some.inj first
        rw [← same]
        decide
      | cons q rest =>
        have same : q = c := Option.some.inj first
        rcases qualified q (by simp) with letter | rfl
        · exact same ▸ not_blank_of_isWord q letter
        · rw [← same]
          decide
    · rw [DeclaredType.text,List.getLast?_concat] at last
      rw [← Option.some.inj last]
      decide

theorem DeclaredType.nonempty (t : DeclaredType) : t.text ≠ [] := by
  cases t with
  | plain type => exact type.nonempty
  | optional qualifier qualified argument => simp [DeclaredType.text]

theorem DeclaredType.single (t : DeclaredType) : '\n' ∉ t.text := by
  cases t with
  | plain type => exact type.single
  | optional qualifier qualified argument =>
    have outside := qualifier_lacks qualifier qualified '\n' (by decide) (by decide)
    have inside := argument.single
    unfold DeclaredType.text
    simp [outside,inside]

namespace LineKind

theorem mentionsParent_iff (cs : List Char) :
    mentionsParent cs = true ↔ ∃ word ∈ cs.splitOnP (! isWord ·), IsParentWord word := by
  simp only [mentionsParent,List.any_eq_true,Bool.or_eq_true,decide_eq_true_eq,
    List.isSuffixOf_iff_suffix,IsParentWord]

theorem mentionsParent_column (c : DeclaredColumn) :
    mentionsParent c.text = (mentionsParent c.columnType.text || mentionsParent c.name.chars) := by
  have shape : c.text = ['C'] ++ '(' :: (c.columnType.text ++
      ',' :: ([] ++ ' ' :: (c.name.chars ++ ')' :: []))) := by
    unfold DeclaredColumn.text
    simp only [List.append_assoc]
    rfl
  have letter : mentionsParent ['C'] = false := by decide
  rw [shape,mentionsParent_split _ _ '(' (by decide),mentionsParent_split _ _ ',' (by decide),
    mentionsParent_split _ _ ' ' (by decide),mentionsParent_split _ _ ')' (by decide),letter,
    mentionsParent_nil,Bool.false_or,Bool.false_or,Bool.or_false]

theorem mentionsParent_column_iff (c : DeclaredColumn) : mentionsParent c.text = false ↔
    ∀ word ∈ c.name.chars :: c.columnType.text.splitOnP (! isWord ·), ¬ IsParentWord word := by
  have whole : c.name.chars.splitOnP (! isWord ·) = [c.name.chars] :=
    List.splitOnP_eq_singleton fun d member => by simp [c.name.letters d member]
  rw [← Bool.not_eq_true,mentionsParent_column,Bool.or_eq_true,mentionsParent_iff,mentionsParent_iff,
    whole]
  constructor
  · rintro unrelated word (_ | ⟨_,member⟩) related
    · exact unrelated (.inr ⟨_,by simp,related⟩)
    · exact unrelated (.inl ⟨word,member,related⟩)
  · rintro unrelated (⟨word,member,related⟩ | ⟨word,member,related⟩)
    · exact unrelated word (by simp [member]) related
    · exact unrelated word (by simp [List.mem_singleton.mp member]) related

theorem ofLine_column (c : DeclaredColumn) : ofLine (.ofList c.text) =
    if mentionsParent c.text then .parent
    else match column? c.text with
    | some (columnType,name) => .column (.ofList columnType) (.ofList name)
    | none => .unrecognized := by
  have kind := ofLine_letter 'C' (c.text.drop 1) (by decide)
  have unnamed : tableName? c.text = none := by
    rw [tableName?,show trimStart c.text = c.text from trimStart_cons 'C' _ (by decide)]
    rfl
  rw [show 'C' :: c.text.drop 1 = c.text from rfl,unnamed] at kind
  exact kind

private theorem takeWhile_stop (p : Char → Bool) (before after : List Char) (c : Char)
    (stops : p c = false) : (before ++ c :: after).takeWhile p = before.takeWhile p := by
  induction before with
  | nil => simp [stops]
  | cons b before ih => simp [List.takeWhile_cons,ih]

/-- What stands behind the mark of a column is cut at its first comma. -/
theorem column?_opened (indent rest : List Char) (blank : Blanks indent) :
    column? (indent ++ "C(".toList ++ rest) =
      (dropPrefix? [','] (rest.dropWhile (· ≠ ','))).bind fun behind =>
        (leadingWord? (trimStart behind)).bind fun name =>
          if (rest.takeWhile (· ≠ ',')).isEmpty then none
          else some (trim (rest.takeWhile (· ≠ ',')),name.1) := by
  have opened := (dropPrefix?_trimStart "C(".toList _ rest (by decide)
    ((stops_cons _ _ _).mpr (by decide))).mpr ⟨indent,rfl,blank⟩
  rw [column?,opened]
  rfl

/-- A column as it is read: the type ahead of the first comma, and the word behind that. -/
theorem column?_comma (indent type rest : List Char) (blank : Blanks indent) (filled : type ≠ [])
    (undivided : ',' ∉ type) : column? (indent ++ "C(".toList ++ (type ++ ',' :: rest)) =
      (leadingWord? (trimStart rest)).map fun word => (trim type,word.1) := by
  have comma : dropPrefix? [','] (',' :: rest) = some rest := rfl
  rw [column?_opened _ _ blank,takeWhile_upTo ',' type rest undivided,
    dropWhile_upTo ',' type rest undivided,comma,Option.bind_some]
  cases leadingWord? (trimStart rest) with
  | none => rfl
  | some word => simp [filled]

private theorem text_opened (c : DeclaredColumn) : c.text =
    [] ++ "C(".toList ++ (c.columnType.text ++ ',' :: ' ' :: (c.name.chars ++ [')'])) := by
  unfold DeclaredColumn.text
  simp only [List.append_assoc]
  rfl

theorem column?_type (c : DeclaredColumn) (columnType name : List Char)
    (read : column? c.text = some (columnType,name)) :
    columnType = trim (c.columnType.text.takeWhile (· ≠ ',')) := by
  rw [text_opened,column?_opened [] _ nofun,takeWhile_stop _ c.columnType.text _ ',' (by decide)] at read
  obtain ⟨behind,_,read⟩ := Option.bind_eq_some_iff.mp read
  obtain ⟨word,_,read⟩ := Option.bind_eq_some_iff.mp read
  split at read
  · cases read
  · cases read
    rfl

theorem column?_undivided (c : DeclaredColumn) (undivided : ',' ∉ c.columnType.text) :
    column? c.text = some (c.columnType.text,c.name.chars) := by
  obtain ⟨first,rest,named,nonblank⟩ := c.name.head
  have name : trimStart (' ' :: (c.name.chars ++ [')'])) = c.name.chars ++ [')'] :=
    trimStart_space _ (by simp [named,nonblank])
  rw [text_opened,column?_comma [] _ _ nofun c.columnType.nonempty undivided,name,
    leadingWord?_word c.name ')' [] (by decide),c.columnType.trimmed.trim]
  rfl

end LineKind

namespace TableDraft

theorem declaredColumn_plain (type : List Char) (name : String)
    (bare : optionalArgument? type = none) :
    declaredColumn .standard (.ofList type) name =
      ⟨name,if String.ofList (trim type) = "StringPool::Id" then "string" else .ofList (trim type),
        false,""⟩ := by
  simp only [declaredColumn,String.toList_ofList,bare,Dialect.standard,List.mem_singleton]

theorem declaredColumn_wrapped (type argument : List Char) (name : String)
    (wrapped : optionalArgument? type = some argument) :
    declaredColumn .standard (.ofList type) name =
      ⟨name,if String.ofList (trim argument) = "StringPool::Id" then "string"
        else .ofList (trim argument),true,""⟩ := by
  simp only [declaredColumn,String.toList_ofList,wrapped,Dialect.standard,List.mem_singleton]

private theorem undivided_shown (shown : List Char) (undivided : ',' ∉ shown) : ',' ∉
    (if String.ofList (trim shown) = "StringPool::Id" then "string"
      else String.ofList (trim shown)).toList := by
  split
  · decide
  · intro member
    exact undivided (mem_of_mem_trim ',' shown (by simpa using member))

theorem declaredColumn_undivided (type : List Char) (name : String) (undivided : ',' ∉ type) :
    ',' ∉ (declaredColumn .standard (.ofList type) name).columnType.toList := by
  cases found : optionalArgument? type with
  | none =>
    rw [declaredColumn_plain type name found]
    exact undivided_shown type undivided
  | some argument =>
    obtain ⟨before,behind,shape⟩ := optionalArgument?_some type argument found
    rw [declaredColumn_wrapped type argument name found]
    refine undivided_shown argument fun member => undivided ?_
    rw [shape]
    simp [member]

end TableDraft

theorem DeclaredType.divided_meaning (t : DeclaredType) (divided : ',' ∈ t.text) :
    ',' ∈ t.meaning.1.toList := by
  cases t with
  | plain type =>
    have inside : ',' ∈ type.chars := divided
    simpa [DeclaredType.meaning] using inside
  | optional qualifier qualified argument =>
    have outside := qualifier_lacks qualifier qualified ',' (by decide) (by decide)
    unfold DeclaredType.text at divided
    simp [outside] at divided
    simpa [DeclaredType.meaning] using divided

theorem DeclaredColumn.divided_column (c : DeclaredColumn) (divided : ',' ∈ c.columnType.text) :
    ',' ∈ c.column.columnType.toList := by
  have shown := c.columnType.divided_meaning divided
  unfold DeclaredColumn.column
  split
  · rename_i handle
    rw [handle] at shown
    exact absurd shown (by decide)
  · exact shown

/-! Readable columns. -/

namespace DeclaredColumn

theorem Readable.declared {c : DeclaredColumn} (readable : c.Readable) :
    TableDraft.declaredColumn .standard (.ofList c.columnType.text) (.ofList c.name.chars) =
      c.column := by
  obtain ⟨columnType,name⟩ := c
  cases columnType with
  | plain type =>
    have bare : TableDraft.optionalArgument? type.chars = none := by
      cases found : TableDraft.optionalArgument? type.chars with
      | none => rfl
      | some argument =>
        obtain ⟨before,behind,shape⟩ := TableDraft.optionalArgument?_some type.chars argument found
        exact absurd ⟨before,argument,behind,shape⟩ (readable.bare type rfl)
    have read := TableDraft.declaredColumn_plain type.chars (.ofList name.chars) bare
    rw [type.trimmed.trim] at read
    exact read
  | optional qualifier qualified argument =>
    have unopened := qualifier_lacks qualifier qualified '<' (by decide) (by decide)
    have wrapped := TableDraft.optionalArgument?_wrapper qualifier argument.chars unopened argument.single
    have read := TableDraft.declaredColumn_wrapped _ argument.chars (.ofList name.chars) wrapped
    rw [argument.trimmed.trim] at read
    exact read

theorem Readable.kind {c : DeclaredColumn} (readable : c.Readable) : LineKind.ofLine (.ofList c.text) =
    .column (.ofList c.columnType.text) (.ofList c.name.chars) := by
  have unrelated := (LineKind.mentionsParent_column_iff c).mpr readable.unrelated
  rw [LineKind.ofLine_column,unrelated,LineKind.column?_undivided c readable.undivided]
  rfl

theorem bare_of_declared (type : TypeText) (name : String)
    (declared : (TableDraft.declaredColumn .standard (.ofList type.chars) name).optional = false) :
    ¬ Wrapped type.chars := by
  cases found : TableDraft.optionalArgument? type.chars with
  | none => exact TableDraft.optionalArgument?_none type.chars type.single found
  | some argument =>
    rw [TableDraft.declaredColumn_wrapped type.chars argument name found] at declared
    cases declared

theorem readable_iff (c : DeclaredColumn) : c.Readable ↔ ∃ columnType name,
    LineKind.ofLine (.ofList c.text) = .column columnType name ∧
      TableDraft.declaredColumn .standard columnType name = c.column := by
  constructor
  · intro readable
    exact ⟨_,_,readable.kind,readable.declared⟩
  · rintro ⟨columnType,name,kind,declared⟩
    rw [LineKind.ofLine_column] at kind
    split at kind
    · cases kind
    · rename_i unrelated
      split at kind
      · rename_i type word read
        cases kind
        have undivided : ',' ∉ c.columnType.text := fun divided => by
          have outside : ',' ∉ type := fun member => by
            rw [LineKind.column?_type c type word read] at member
            have kept := List.mem_takeWhile_imp (mem_of_mem_trim ',' _ member)
            simp at kept
          have shown := c.divided_column divided
          rw [← declared] at shown
          exact TableDraft.declaredColumn_undivided type _ outside shown
        refine ⟨undivided,(LineKind.mentionsParent_column_iff c).mp (by simpa using unrelated),?_⟩
        intro plain same
        have whole := LineKind.column?_undivided c undivided
        rw [read] at whole
        cases whole
        refine bare_of_declared plain (.ofList c.name.chars) ?_
        have text : plain.chars = c.columnType.text := by rw [same]; rfl
        rw [text,declared,DeclaredColumn.column,same]
        rfl
      · cases kind

end DeclaredColumn
end ReferenceSite
