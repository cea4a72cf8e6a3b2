import Mathlib.Data.Bool.AllAny
import ReferenceSite.Proofs.Proto.FileNames
import ReferenceSite.Proofs.Proto.LoadedFiles

/-! The names in a loaded schema. Types have names with dots, fields and values have identifiers, and a
declared type is a name or a map of two. -/
namespace ReferenceSite
namespace Proto
open ReferenceSite.Text ReferenceSite.Proto.Source

/-! The pool. -/

def Kind.IsNamed : Kind → Prop
  | .scalar name => IsIdentifier name
  | .message q _ | .enumeration q _ => IsQualified q

structure PoolField.IsNamed (f : PoolField) : Prop where
  name : IsIdentifier f.name
  kind : f.kind.IsNamed

structure PoolMessage.IsNamed (m : PoolMessage) : Prop where
  name : IsQualified m.qualifiedName
  fields : ∀ f ∈ m.fields, f.IsNamed

structure PoolEnum.IsNamed (e : PoolEnum) : Prop where
  name : IsQualified e.qualifiedName
  values : ∀ v ∈ e.values, IsIdentifier v.name

structure Pool.IsNamed (p : Pool) : Prop where
  messages : ∀ m ∈ p.messages, m.IsNamed
  enumerations : ∀ e ∈ p.enumerations, e.IsNamed

namespace Source

theorem visible_named (files : List SourceFile) (named : ∀ f ∈ files, f.IsNamed) (f : SourceFile) :
    ∀ x ∈ visible files f, x.IsNamed := by
  intro x member
  obtain ⟨g,kept,among⟩ := List.mem_flatMap.mp member
  exact symbols_named g (named g (List.mem_filter.mp kept).1) x among

section Compiled
variable {s : Symbols} (known : ∀ x ∈ s, x.IsNamed)
include known

theorem kindOf_named (scope name : String) (k : Kind) (found : kindOf s scope name = .ok k) : k.IsNamed := by
  have scalars : ∀ name ∈ scalarNames, IsIdentifier name := List.all_iff_forall_prop.mp (by decide)
  unfold kindOf at found
  split at found
  · rename_i scalar
    cases found
    exact scalars name (by simpa using scalar)
  · split at found
    · rename_i q package type
      cases found
      exact type?_named s known scope name _ type
    · rename_i q _ package _ type
      cases found
      exact type?_named s known scope name _ type
    · cases found

theorem poolField_named (package scope : String) (around : IsScope scope) (f : FieldDecl)
    (named : IsIdentifier f.name) (compiled : PoolField)
    (made : poolField s package scope f = .ok compiled) : compiled.IsNamed := by
  unfold poolField at made
  obtain ⟨kind,found,made⟩ := (bind_ok_iff ..).mp made
  have own : kind.IsNamed := by
    unfold fieldKind at found
    split at found
    · exact kindOf_named known _ _ _ found
    · cases found
      exact qualify_isQualified scope _ around (entryName_isIdentifier f.name named.signs)
    · cases found
      exact qualify_isQualified scope _ around named
  cases made
  split
  · exact ⟨groupFieldName_isIdentifier f.name named,own⟩
  · exact ⟨named,own⟩

theorem entryMessages_named (file package scope : String) (around : IsScope scope) (f : FieldDecl)
    (named : IsIdentifier f.name) (compiled : List PoolMessage)
    (made : entryMessages s file package scope f = .ok compiled) : ∀ m ∈ compiled, m.IsNamed := by
  unfold entryMessages at made
  split at made
  · obtain ⟨key,keyed,made⟩ := (bind_ok_iff ..).mp made
    obtain ⟨value,valued,made⟩ := (bind_ok_iff ..).mp made
    cases made
    refine List.forall_mem_singleton.mpr
      ⟨qualify_isQualified scope _ around (entryName_isIdentifier f.name named.signs),?_⟩
    have names : IsIdentifier "key" ∧ IsIdentifier "value" := by decide
    exact List.forall_mem_cons.mpr ⟨⟨names.1,kindOf_named known _ _ _ keyed⟩,
      List.forall_mem_singleton.mpr ⟨names.2,kindOf_named known _ _ _ valued⟩⟩
  · cases made
    simp

theorem poolMessages_named (file package : String) (m : MessageDecl) (name : IsQualified m.qualifiedName)
    (body : ∀ d ∈ m.body, d.IsNamed) (compiled : List PoolMessage)
    (made : poolMessages s file package m = .ok compiled) : ∀ p ∈ compiled, p.IsNamed := by
  have declared : ∀ f ∈ (Declaration.fieldsOf m.body).map (·.1), IsIdentifier f.name :=
    List.forall_mem_map.mpr (fieldsOf_named m.body body)
  unfold poolMessages at made
  obtain ⟨fields,own,made⟩ := (bind_ok_iff ..).mp made
  obtain ⟨entries,others,made⟩ := (bind_ok_iff ..).mp made
  cases made
  refine List.forall_mem_cons.mpr ⟨⟨name,fun f member => ?_⟩,fun p member => ?_⟩
  · obtain ⟨d,inside,compiled⟩ := mem_of_mapM _ _ _ own f (List.mem_mergeSort.mp member)
    exact poolField_named known _ _ name.isScope d (declared d inside) f compiled
  · obtain ⟨some,listed,among⟩ := List.mem_flatten.mp member
    obtain ⟨d,inside,compiled⟩ := mem_of_mapM _ _ _ others some listed
    exact entryMessages_named known _ _ _ name.isScope d (declared d inside) some compiled p among

end Compiled

theorem poolEnum_named (file package scope : String) (around : IsScope scope) (e : EnumDecl)
    (named : e.IsNamed) : (poolEnum file package scope e).IsNamed := by
  refine ⟨qualify_isQualified scope _ around named.name,fun v member => ?_⟩
  obtain ⟨d,inside,rfl⟩ := List.mem_map.mp (List.mem_mergeSort.mp member)
  exact named.values d (List.mem_reverse.mp inside)

theorem poolOf_named (files : List SourceFile) (named : ∀ f ∈ files, f.IsNamed) (f : SourceFile)
    (member : f ∈ files) (pool : Pool) (compiled : poolOf files f = .ok pool) : pool.IsNamed := by
  unfold poolOf at compiled
  obtain ⟨messages,made,compiled⟩ := (bind_ok_iff ..).mp compiled
  cases compiled
  refine ⟨fun p inside => ?_,List.forall_mem_map.mpr fun e inside => ?_⟩
  · obtain ⟨some,listed,among⟩ := List.mem_flatten.mp inside
    obtain ⟨m,declared,made⟩ := mem_of_mapM _ _ _ made some listed
    obtain ⟨name,body⟩ := messages_named f (named f member) m declared
    exact poolMessages_named (visible_named files named f) _ _ m name body some made p among
  · obtain ⟨around,own⟩ := enumerations_named f (named f member) e inside
    exact poolEnum_named _ _ e.1 around e.2 own

theorem link_named (files : List SourceFile) (named : ∀ f ∈ files, f.IsNamed) (pool : Pool)
    (linked : link files = .ok pool) : pool.IsNamed := by
  obtain ⟨pools,rfl,made⟩ := link_pools files pool linked
  have own (p : Pool) (member : p ∈ pools) : p.IsNamed := by
    obtain ⟨f,inside,compiled⟩ := made p member
    exact poolOf_named files named f inside p compiled
  constructor
  · intro m member
    obtain ⟨p,listed,inside⟩ := List.mem_flatMap.mp member
    exact (own p listed).messages m inside
  · intro e member
    obtain ⟨p,listed,inside⟩ := List.mem_flatMap.mp member
    exact (own p listed).enumerations e inside

end Source

/-! Types. -/

theorem nameInPackage_isName (q package : String) (named : IsQualified q) : IsName (nameInPackage q package) := by
  unfold nameInPackage
  split
  · exact named.toIsName
  · split
    · rename_i rest found
      obtain ⟨behind,outer,inner⟩ := Option.bind_eq_some_iff.mp found
      have whole : q.toList = package.toList ++ '.' :: rest := by
        rw [dropPrefix?_eq_some outer,dropPrefix?_eq_some inner]
        rfl
      refine ⟨fun empty => named.closed ?_,fun c member => named.signs c ?_⟩
      · have nothing : rest = [] := by simpa [← String.toList_eq_nil_iff] using empty
        simp [whole,nothing]
      · rw [String.toList_ofList] at member
        simp [whole,member]
    · exact named.toIsName

theorem withoutPackage_isName (package q : String) (named : IsName q) : IsName (withoutPackage package q) := by
  unfold withoutPackage
  split
  · rename_i rest found
    simp only
    split
    · exact named
    · rename_i further
      refine ⟨fun empty => further (.inr ?_),fun c member => named.signs c ?_⟩
      · simpa [← String.toList_eq_nil_iff] using empty
      · rw [String.toList_ofList] at member
        rw [dropPrefix?_eq_some found]
        exact List.mem_append_right _ ((List.dropWhile_suffix _).mem member)
  · exact named

end Proto

/-- What a declared type is written with: a name, or a map of names. -/
structure IsTypeName (type : String) : Prop where
  filled : type ≠ ""
  signs : ∀ c ∈ type.toList, isNameSign c = true ∨ c ∈ ['<',',',' ','>']

structure Field.IsNamed (f : Field) : Prop where
  name : Proto.Source.IsIdentifier f.name
  type : IsTypeName f.declaredType
  target : ∀ target, f.target = some target → IsName target.fullName

def TypeBody.IsNamed : TypeBody → Prop
  | .enumeration values => ∀ v ∈ values, Proto.Source.IsIdentifier v.name
  | .message fields => ∀ f ∈ fields, f.IsNamed

structure TypeDef.IsNamed (d : TypeDef) : Prop where
  name : IsName d.fullName
  body : d.body.IsNamed

namespace Proto
open ReferenceSite.Proto.Source

theorem Kind.describe_named (k : Kind) (named : k.IsNamed) :
    IsName k.describe.1 ∧ ∀ target, k.describe.2 = some target → IsName target.fullName := by
  have pointed (q package : String) (named : IsQualified q) (target : TypeRef)
      (points : some (TypeRef.mk q (nameInPackage q package)) = some target) : IsName target.fullName := by
    obtain rfl := Option.some.inj points
    exact nameInPackage_isName q package named
  cases k with
  | scalar name =>
    refine ⟨⟨named.filled,fun c member => isNameSign_of_isNamePart c (named.signs c member)⟩,fun _ points => ?_⟩
    cases points
  | message q package => exact ⟨nameInPackage_isName q package named,pointed q package named⟩
  | enumeration q package => exact ⟨nameInPackage_isName q package named,pointed q package named⟩

theorem Pool.mapOf?_named (p : Pool) (named : p.IsNamed) (f : PoolField) (key value : Kind)
    (found : p.mapOf? f = some (key,value)) : key.IsNamed ∧ value.IsNamed := by
  unfold Pool.mapOf? at found
  split at found
  · obtain ⟨entry,listed,found⟩ := Option.bind_eq_some_iff.mp found
    have fields := (named.messages entry (List.mem_of_find?_eq_some listed)).fields
    split at found
    · split at found
      · rename_i first second shape
        cases found
        rw [shape] at fields
        simp only [List.forall_mem_cons] at fields
        exact ⟨fields.1.kind,fields.2.1.kind⟩
      · cases found
    · cases found
  · cases found

theorem mapText_isTypeName (key value : String) (keyed : IsName key) (valued : IsName value) :
    IsTypeName ("map<" ++ key ++ ", " ++ value ++ ">") := by
  have start : ∀ c ∈ "map<".toList, isNameSign c = true ∨ c ∈ ['<',',',' ','>'] :=
    List.all_iff_forall_prop.mp (by decide)
  have comma : ∀ c ∈ ", ".toList, c ∈ ['<',',',' ','>'] := List.all_iff_forall_prop.mp (by decide)
  have ended : ∀ c ∈ ">".toList, c ∈ ['<',',',' ','>'] := List.all_iff_forall_prop.mp (by decide)
  refine ⟨fun empty => ?_,fun c member => ?_⟩
  · simp [← String.toList_eq_nil_iff] at empty
  · simp only [String.toList_append,List.mem_append] at member
    rcases member with (((opening | first) | between) | second) | closing
    · exact start c opening
    · exact .inl (keyed.signs c first)
    · exact .inr (comma c between)
    · exact .inl (valued.signs c second)
    · exact .inr (ended c closing)

theorem Pool.describe_named (p : Pool) (named : p.IsNamed) (f : PoolField) (own : f.kind.IsNamed) :
    IsTypeName (p.describe f).1 ∧ ∀ target, (p.describe f).2 = some target → IsName target.fullName := by
  unfold Pool.describe
  split
  · rename_i key value found
    obtain ⟨keyed,valued⟩ := p.mapOf?_named named f key value found
    obtain ⟨second,target⟩ := value.describe_named valued
    exact ⟨mapText_isTypeName _ _ (key.describe_named keyed).1 second,target⟩
  · obtain ⟨name,target⟩ := f.kind.describe_named own
    exact ⟨⟨name.filled,fun c member => .inl (name.signs c member)⟩,target⟩

theorem Pool.field_named (p : Pool) (named : p.IsNamed) (f : PoolField) (own : f.IsNamed) :
    (p.field f).IsNamed := by
  obtain ⟨type,target⟩ := p.describe_named named f own.kind
  exact ⟨own.name,type,target⟩

theorem Pool.types_named (p : Pool) (named : p.IsNamed) : ∀ d ∈ p.types, d.IsNamed := by
  refine List.forall_mem_append.mpr ⟨List.forall_mem_map.mpr fun m member => ?_,
    List.forall_mem_map.mpr fun e member => ?_⟩
  · have own := named.messages m (List.mem_filter.mp member).1
    exact ⟨withoutPackage_isName _ _ own.name.toIsName,
      List.forall_mem_map.mpr fun f inside => p.field_named named f (own.fields f inside)⟩
  · have own := named.enumerations e member
    exact ⟨withoutPackage_isName _ _ own.name.toIsName,own.values⟩

namespace Source

theorem source_named (t : FileTree) (root : Path) (b : Bundle) (name : String) (f : SourceFile)
    (found : source t root b name = .ok f) : f.IsNamed := by
  obtain ⟨_,text,read,_⟩ := source_ok t root b name f found
  exact SourceFile.ofText?_named name _ f read

end Source
end Proto

/-- Whatever a source is called and says, the names in its schema are names. -/
theorem Schema.load_named (t : FileTree) (root file : Path) (b : Proto.Bundle) (s : Schema)
    (loaded : load t root file b = .ok s) : ∀ d ∈ s.types, d.IsNamed := by
  obtain ⟨files,pool,found,linked,rfl⟩ := load_files t root file b s loaded
  have named : ∀ f ∈ files, f.IsNamed := fun f member => Proto.Source.source_named t root b f.name f (found f member)
  exact fun d member =>
    pool.types_named (Proto.Source.link_named files named pool linked) d (mem_of_mem_ofList _ d member)

end ReferenceSite
