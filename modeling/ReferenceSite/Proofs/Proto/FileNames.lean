import Mathlib.Data.List.Basic
import ReferenceSite.Proofs.Proto.SourceNames
import ReferenceSite.Proto.Source.Symbol

/-! The names in a file. A scope is made of names with dots between them, and so is what a declaration is
called in full. Whatever is known under the name of a type in a file has such a name. -/
namespace ReferenceSite

namespace Proto
open ReferenceSite.Text ReferenceSite.Proto.Source

/-! Full names. -/

theorem isNameSign_of_isNamePart (c : Char) (part : isNamePart c = true) : isNameSign c = true := by
  simp only [isNameSign,Bool.or_eq_true]
  exact .inl (by simpa [isNamePart] using part)

/-- An empty scope, or one with a name. -/
def IsScope (scope : String) : Prop := ∀ c ∈ scope.toList, isNameSign c = true

/-- A name with dots, and none at its end. -/
structure IsQualified (name : String) : Prop extends IsName name where
  closed : name.toList.getLast? ≠ some '.'

theorem IsQualified.isScope {name : String} (named : IsQualified name) : IsScope name := named.signs

theorem IsScope.dotted {outer inner : String} (around : IsScope outer) (own : IsScope inner) :
    IsScope (outer ++ "." ++ inner) := by
  intro c member
  simp only [String.toList_append,List.mem_append] at member
  rcases member with (before | dot) | behind
  · exact around c before
  · rw [List.mem_singleton.mp dot]
    decide
  · exact own c behind

theorem Source.IsIdentifier.isScope {name : String} (identifier : IsIdentifier name) : IsScope name :=
  fun c member => isNameSign_of_isNamePart c (identifier.signs c member)

theorem qualify_isQualified (scope name : String) (around : IsScope scope) (identifier : IsIdentifier name) :
    IsQualified (qualify scope name) := by
  obtain ⟨front,last,ends⟩ := (List.eq_nil_or_concat' name.toList).resolve_left fun empty =>
    identifier.filled (String.toList_eq_nil_iff.mp empty)
  have dotless : last ≠ '.' := by
    rintro rfl
    exact absurd (identifier.signs '.' (by simp [ends])) (by decide)
  unfold qualify
  split
  · exact ⟨⟨identifier.filled,identifier.isScope⟩,by simpa [ends] using dotless⟩
  · have ended : (scope ++ "." ++ name).toList = (scope.toList ++ '.' :: front) ++ [last] := by simp [ends]
    refine ⟨⟨fun empty => ?_,around.dotted identifier.isScope⟩,
      by rw [ended,List.getLast?_concat]; simpa using dotless⟩
    simp [← String.toList_eq_nil_iff] at empty

theorem moreParts_isScope (soFar : String) (words : List Word) (around : IsScope soFar)
    (named : ∀ w ∈ words, w.IsNamed) : IsScope (moreParts soFar words).1 := by
  fun_induction moreParts soFar words with
  | case1 soFar s rest ih =>
    have identifier : IsIdentifier s := named (.name s) (by simp)
    exact ih (around.dotted identifier.isScope) fun w member => named w (by simp [member])
  | case2 => exact around

/-! Files. -/

namespace Source

structure SourceFile.IsNamed (f : SourceFile) : Prop where
  package : IsScope f.package
  declarations : ∀ d ∈ f.declarations, d.IsNamed

theorem SourceFile.add_named (f : SourceFile) (s : Statement) (next : SourceFile) (named : f.IsNamed)
    (words : s.IsNamed) (read : f.add s = some next) : next.IsNamed := by
  cases words with
  | line words =>
    unfold SourceFile.add at read
    simp only at read
    split at read
    · cases read
      exact named
    · rename_i rest shape
      split at read
      · rename_i name found
        split at read <;> cases read
        refine ⟨?_,named.declarations⟩
        unfold fullName? at found
        split at found
        · rename_i s behind
          obtain rfl := congrArg Prod.fst (Option.some.inj found)
          have first : IsIdentifier s := words (.name s) (by simp [shape])
          exact moreParts_isScope s behind (fun c member => isNameSign_of_isNamePart c (first.signs c member))
            fun w member => words w (by simp [shape,member])
        · cases found
      · cases read
    · cases read
      exact ⟨named.package,named.declarations⟩
    · cases read
      exact ⟨named.package,named.declarations⟩
    · cases read
      exact ⟨named.package,named.declarations⟩
    · obtain ⟨_,_,rfl⟩ := Option.map_eq_some_iff.mp read
      exact ⟨named.package,named.declarations⟩
    · cases read
  | block words inner =>
    obtain ⟨ds,found,rfl⟩ := Option.map_eq_some_iff.mp read
    exact ⟨named.package,List.forall_mem_append.mpr
      ⟨named.declarations,declarations?_named .file _ ds (.block words inner) found⟩⟩

theorem SourceFile.ofText?_named (name : String) (text : List Char) (f : SourceFile)
    (read : SourceFile.ofText? name text = some f) : f.IsNamed := by
  unfold SourceFile.ofText? at read
  obtain ⟨statements,found,read⟩ := Option.bind_eq_some_iff.mp read
  have named := statements?_named text statements found
  have start (isThird : Bool) : ({ SourceFile.empty name with isThird := isThird }).IsNamed :=
    ⟨by simp [SourceFile.empty,IsScope],by simp [SourceFile.empty]⟩
  have run := foldlM_kept SourceFile.IsNamed Statement.IsNamed SourceFile.add SourceFile.add_named
  cases statements with
  | nil =>
    cases read
    exact start false
  | cons first rest =>
    obtain ⟨version,_,read⟩ := Option.bind_eq_some_iff.mp read
    split at read
    · exact run rest (List.forall_mem_cons.mp named).2 _ f (start _) read
    · exact run _ named _ f (start false) read

mutual
theorem located_named (scope : String) (d : Declaration) (around : IsScope scope) (named : d.IsNamed) :
    ∀ p ∈ d.located scope, IsScope p.1 ∧ p.2.IsNamed := by
  cases named with
  | message comment identifier inner =>
    unfold Declaration.located
    exact List.forall_mem_cons.mpr ⟨⟨around,.message comment identifier inner⟩,
      locatedAll_named _ _ (qualify_isQualified scope _ around identifier).isScope inner⟩
  | group identifier inner =>
    unfold Declaration.located
    exact List.forall_mem_cons.mpr ⟨⟨around,.group identifier inner⟩,
      locatedAll_named _ _ (qualify_isQualified scope _ around identifier).isScope inner⟩
  | oneof name inner =>
    unfold Declaration.located
    exact List.forall_mem_cons.mpr ⟨⟨around,.oneof name inner⟩,locatedAll_named scope _ around inner⟩
  | extend target inner =>
    unfold Declaration.located
    exact List.forall_mem_cons.mpr ⟨⟨around,.extend target inner⟩,locatedAll_named scope _ around inner⟩
  | option o => exact List.forall_mem_singleton.mpr ⟨around,.option o⟩
  | field identifier => exact List.forall_mem_singleton.mpr ⟨around,.field identifier⟩
  | enumeration own => exact List.forall_mem_singleton.mpr ⟨around,.enumeration own⟩
  | reserved ranges names => exact List.forall_mem_singleton.mpr ⟨around,.reserved ranges names⟩
  | extensions ranges options => exact List.forall_mem_singleton.mpr ⟨around,.extensions ranges options⟩
  | service name methods options => exact List.forall_mem_singleton.mpr ⟨around,.service name methods options⟩

theorem locatedAll_named (scope : String) (ds : List Declaration) (around : IsScope scope)
    (named : ∀ d ∈ ds, d.IsNamed) : ∀ p ∈ Declaration.locatedAll scope ds, IsScope p.1 ∧ p.2.IsNamed := by
  cases ds with
  | nil => simp [Declaration.locatedAll]
  | cons d rest =>
    obtain ⟨here,later⟩ := List.forall_mem_cons.mp named
    rw [Declaration.locatedAll]
    exact List.forall_mem_append.mpr
      ⟨located_named scope d around here,locatedAll_named scope rest around later⟩
end

theorem SourceFile.IsNamed.located {f : SourceFile} (named : f.IsNamed) :
    ∀ p ∈ f.located, IsScope p.1 ∧ p.2.IsNamed := locatedAll_named f.package _ named.package named.declarations

theorem field?_isNamed (d : Declaration) (f : FieldDecl) (named : d.IsNamed) (field : d.field? = some f) :
    IsIdentifier f.name := by
  cases named with
  | field identifier => exact Option.some.inj field ▸ identifier
  | group identifier => exact Option.some.inj field ▸ identifier
  | _ => cases field

theorem fieldsOf_named (body : List Declaration) (named : ∀ d ∈ body, d.IsNamed) :
    ∀ p ∈ Declaration.fieldsOf body, IsIdentifier p.1.name := by
  intro p member
  obtain ⟨d,inside,member⟩ := List.mem_flatMap.mp member
  have own := named d inside
  split at member
  · rename_i name inner
    cases own with
    | oneof _ chosen =>
      obtain ⟨f,listed,rfl⟩ := List.mem_map.mp member
      obtain ⟨e,among,field⟩ := List.mem_filterMap.mp listed
      exact field?_isNamed e f (chosen e among) field
  · obtain ⟨f,listed,rfl⟩ := List.mem_map.mp member
    exact field?_isNamed d f own (Option.mem_toList.mp listed)

theorem messages_named (f : SourceFile) (named : f.IsNamed) :
    ∀ m ∈ f.messages, IsQualified m.qualifiedName ∧ ∀ d ∈ m.body, d.IsNamed := by
  intro m member
  obtain ⟨⟨scope,d⟩,listed,made⟩ := List.mem_filterMap.mp member
  obtain ⟨around,own⟩ := named.located _ listed
  simp only at made
  split at made
  · cases made
    cases own with
    | message _ identifier inner => exact ⟨qualify_isQualified scope _ around identifier,inner⟩
  · cases made
    cases own with
    | group identifier inner => exact ⟨qualify_isQualified scope _ around identifier,inner⟩
  · cases made

theorem enumerations_named (f : SourceFile) (named : f.IsNamed) :
    ∀ p ∈ f.enumerations, IsScope p.1 ∧ p.2.IsNamed := by
  intro p member
  obtain ⟨⟨scope,d⟩,listed,made⟩ := List.mem_filterMap.mp member
  obtain ⟨around,own⟩ := named.located _ listed
  simp only at made
  split at made
  · cases made
    cases own with
    | enumeration inner => exact ⟨around,inner⟩
  · cases made

/-! Symbols. -/

theorem isUpper_toUpper (c : Char) (small : 'a'.val ≤ c.val ∧ c.val ≤ 'z'.val) : c.toUpper.isUpper = true := by
  have first : (97 : Nat) ≤ c.val.toNat := small.1
  have last : c.val.toNat ≤ 122 := small.2
  obtain ⟨_,shifted⟩ : ∃ valid, c.toUpper = ⟨c.val + ('A'.val - 'a'.val),valid⟩ := ⟨_,dif_pos small⟩
  have moved : c.toUpper.val.toNat = c.val.toNat - 32 := by
    have step : ('A'.val - 'a'.val).toNat = 2 ^ 32 - 32 := by decide
    rw [shifted,UInt32.toNat_add]
    omega
  have capital : (65 : Nat) ≤ c.toUpper.val.toNat ∧ c.toUpper.val.toNat ≤ 90 := by omega
  exact decide_eq_true capital

theorem isLower_toLower (c : Char) (large : c.val ≥ 'A'.val ∧ c.val ≤ 'Z'.val) : c.toLower.isLower = true := by
  have first : (65 : Nat) ≤ c.val.toNat := large.1
  have last : c.val.toNat ≤ 90 := large.2
  obtain ⟨_,shifted⟩ : ∃ valid, c.toLower = ⟨c.val + ('a'.val - 'A'.val),valid⟩ := ⟨_,dif_pos large⟩
  have moved : c.toLower.val.toNat = c.val.toNat + 32 := by
    have step : ('a'.val - 'A'.val).toNat = 32 := by decide
    rw [shifted,UInt32.toNat_add]
    omega
  have small : (97 : Nat) ≤ c.toLower.val.toNat ∧ c.toLower.val.toNat ≤ 122 := by omega
  exact Bool.and_eq_true_iff.mpr ⟨decide_eq_true small.1,decide_eq_true small.2⟩

theorem isNamePart_of_letter (c : Char) (letter : c.isUpper = true ∨ c.isLower = true) : isNamePart c = true := by
  have signs : c.isAlphanum = (c.isUpper || c.isLower || c.isDigit) := rfl
  rw [isNamePart,signs]
  rcases letter with upper | lower
  · simp [upper]
  · simp [lower]

theorem toUpper_isNamePart (c : Char) (part : isNamePart c = true) : isNamePart c.toUpper = true := by
  by_cases small : 'a'.val ≤ c.val ∧ c.val ≤ 'z'.val
  · exact isNamePart_of_letter _ (.inl (isUpper_toUpper c small))
  · have same : c.toUpper = c := dif_neg small
    rwa [same]

theorem toLower_isNamePart (c : Char) (part : isNamePart c = true) : isNamePart c.toLower = true := by
  by_cases large : c.val ≥ 'A'.val ∧ c.val ≤ 'Z'.val
  · exact isNamePart_of_letter _ (.inr (isLower_toLower c large))
  · have same : c.toLower = c := dif_neg large
    rwa [same]

theorem entryName_isIdentifier (name : String) (signs : ∀ c ∈ name.toList, isNamePart c = true) :
    IsIdentifier (entryName name) := by
  have made (capital : Bool) (s : List Char) (signs : ∀ c ∈ s, isNamePart c = true) :
      entryName.go capital s ≠ [] ∧ ∀ c ∈ entryName.go capital s, isNamePart c = true := by
    fun_induction entryName.go capital s with
    | case1 => exact ⟨by simp,List.all_eq_true.mp (by decide)⟩
    | case2 capital rest ih => exact ih (List.forall_mem_cons.mp signs).2
    | case3 capital c rest _ ih =>
      obtain ⟨own,later⟩ := List.forall_mem_cons.mp signs
      refine ⟨by simp,List.forall_mem_cons.mpr ⟨?_,(ih later).2⟩⟩
      split
      · exact toUpper_isNamePart c own
      · exact own
  obtain ⟨filled,kept⟩ := made true name.toList signs
  refine ⟨fun empty => filled ?_,by simpa [entryName] using kept⟩
  simpa [entryName,← String.toList_eq_nil_iff] using empty

theorem groupFieldName_isIdentifier (name : String) (named : IsIdentifier name) :
    IsIdentifier (groupFieldName name) := by
  refine ⟨fun empty => named.filled ?_,fun c member => ?_⟩
  · simpa [groupFieldName,← String.toList_eq_nil_iff] using empty
  · rw [groupFieldName,String.toList_map] at member
    obtain ⟨d,inside,rfl⟩ := List.mem_map.mp member
    exact toLower_isNamePart d (named.signs d inside)

/-- Only types need names here; a package may be empty. -/
def Symbol.IsNamed (x : Symbol) : Prop := x.kind.isType = true → IsQualified x.name

theorem Symbol.isNamed_of_kind (x : Symbol) (other : x.kind.isType = false) : x.IsNamed :=
  fun type => by simp [other] at type

theorem fieldSymbols_named (package scope : String) (kind : SymbolKind) (f : FieldDecl)
    (around : IsScope scope) (named : IsIdentifier f.name) :
    ∀ x ∈ SourceFile.fieldSymbols package scope kind f, x.IsNamed := by
  have entry := entryName_isIdentifier f.name named.signs
  have inside := (qualify_isQualified scope _ around entry).isScope
  have own := qualify_isQualified scope _ around named
  unfold SourceFile.fieldSymbols
  split
  · exact List.forall_mem_singleton.mpr fun _ => own
  · exact List.forall_mem_singleton.mpr fun _ =>
      qualify_isQualified scope _ around (groupFieldName_isIdentifier f.name named)
  · simp only [List.forall_mem_cons]
    exact ⟨fun _ => own,fun _ => qualify_isQualified scope _ around entry,
      fun _ => qualify_isQualified _ _ inside (by decide),
      fun _ => qualify_isQualified _ _ inside (by decide),by simp⟩

theorem symbolsOf_named (package scope : String) (d : Declaration) (around : IsScope scope)
    (named : d.IsNamed) : ∀ x ∈ SourceFile.symbolsOf package scope d, x.IsNamed := by
  have message (name : String) (body : List Declaration) (identifier : IsIdentifier name)
      (inner : ∀ d ∈ body, d.IsNamed) :
      ∀ x ∈ (⟨qualify scope name,.message,package⟩ :: (Declaration.fieldsOf body).flatMap fun p =>
        SourceFile.fieldSymbols package (qualify scope name) .member p.1 : List Symbol), x.IsNamed := by
    have own := qualify_isQualified scope name around identifier
    refine List.forall_mem_cons.mpr ⟨fun _ => own,fun x member => ?_⟩
    obtain ⟨p,listed,among⟩ := List.mem_flatMap.mp member
    exact fieldSymbols_named package _ _ p.1 own.isScope (fieldsOf_named body inner p listed) x among
  cases named with
  | message comment identifier inner => exact message _ _ identifier inner
  | group identifier inner => exact message _ _ identifier inner
  | oneof name inner => exact List.forall_mem_singleton.mpr (Symbol.isNamed_of_kind _ rfl)
  | enumeration own =>
    refine List.forall_mem_cons.mpr ⟨fun _ => qualify_isQualified scope _ around own.name,fun x member => ?_⟩
    obtain ⟨v,_,rfl⟩ := List.mem_map.mp member
    exact Symbol.isNamed_of_kind _ rfl
  | extend target inner =>
    intro x member
    obtain ⟨f,listed,among⟩ := List.mem_flatMap.mp member
    obtain ⟨d,inside,field⟩ := List.mem_filterMap.mp listed
    exact fieldSymbols_named package scope _ f around (field?_isNamed d f (inner d inside) field) x among
  | service name methods options =>
    refine List.forall_mem_cons.mpr ⟨Symbol.isNamed_of_kind _ rfl,fun x member => ?_⟩
    obtain ⟨m,_,rfl⟩ := List.mem_map.mp member
    exact Symbol.isNamed_of_kind _ rfl
  | _ => simp [SourceFile.symbolsOf]

theorem symbols_named (f : SourceFile) (named : f.IsNamed) : ∀ x ∈ f.symbols, x.IsNamed := by
  intro x member
  rcases List.mem_append.mp member with package | declared
  · obtain ⟨_,_,rfl⟩ := List.mem_map.mp package
    exact Symbol.isNamed_of_kind _ rfl
  · obtain ⟨p,listed,among⟩ := List.mem_flatMap.mp declared
    obtain ⟨around,own⟩ := named.located p listed
    exact symbolsOf_named f.package p.1 p.2 around own x among

theorem search?_mem (s : Symbols) (wanted : Symbol → Bool) (name : String) (scopes : List String) (x : Symbol)
    (found : s.search? wanted name scopes = some x) : x ∈ s ∧ wanted x = true := by
  have kept (q : String) (found : (s.find? q).filter wanted = some x) : x ∈ s ∧ wanted x = true := by
    obtain ⟨listed,wished⟩ := Option.filter_eq_some_iff.mp found
    exact ⟨List.mem_of_find?_eq_some listed,wished⟩
  induction scopes with
  | nil => cases found
  | cons scope outer ih =>
    unfold Symbols.search? at found
    simp only at found
    split at found
    · split at found
      · rename_i y here
        cases found
        exact kept _ here
      · exact ih found
    · split at found
      · split at found
        · exact kept _ found
        · exact ih found
      · exact ih found

theorem type?_named (s : Symbols) (named : ∀ x ∈ s, x.IsNamed) (scope name : String) (x : Symbol)
    (found : s.type? scope name = some x) : IsQualified x.name := by
  unfold Symbols.type? Symbols.resolve? at found
  split at found
  · obtain ⟨listed,wished⟩ := Option.filter_eq_some_iff.mp found
    exact named x (List.mem_of_find?_eq_some listed) wished
  · obtain ⟨listed,wished⟩ := search?_mem s _ name _ x found
    exact named x listed wished

end Source

end Proto
end ReferenceSite
