import ReferenceSite.Proofs.Proto.LoadedFiles
import ReferenceSite.Proofs.Reference.Anchors
import ReferenceSite.Proofs.Text.Lines

/-! The schema of a pool. It stores every type under its qualified name, but for the messages made for
the entries of maps, and what a field refers to is stored under the full name that the field shows. The
one exception is a single field of such an entry: only repeated ones are taken for maps, so it refers
to a message that the schema leaves out, and a walk ends there. -/
namespace ReferenceSite
namespace Proto
open ReferenceSite.Text ReferenceSite.Proto.Source

/-! Pools as a compiler makes them. -/

/-- A path behind the package. A path does not begin with a dot. -/
def InPackage (qualifiedName package : String) : Prop :=
  ∃ path, path ≠ "" ∧ path.toList.head? ≠ some '.' ∧ qualifiedName = qualify package path

namespace Pool

def Knows (p : Pool) : Kind → Prop
  | .scalar _ => True
  | .message q package => ∃ m ∈ p.messages, m.qualifiedName = q ∧ m.package = package
  | .enumeration q package => ∃ e ∈ p.enumerations, e.qualifiedName = q ∧ e.package = package

/-- The kind of a message that stands for the entries of a map. -/
def IsEntry (p : Pool) (k : Kind) : Prop :=
  ∃ m ∈ p.messages, m.isMapEntry = true ∧ k = .message m.qualifiedName m.package

/-- Names are distinct and lie in their packages, fields have kinds of the pool, and an entry has a key
and a value, which is no entry itself. -/
structure IsLinked (p : Pool) : Prop where
  distinct : (p.messages.map (·.qualifiedName) ++ p.enumerations.map (·.qualifiedName)).Nodup
  messages : ∀ m ∈ p.messages, InPackage m.qualifiedName m.package
  enumerations : ∀ e ∈ p.enumerations, InPackage e.qualifiedName e.package
  known : ∀ m ∈ p.messages, ∀ f ∈ m.fields, p.Knows f.kind
  entries : ∀ m ∈ p.messages, m.isMapEntry = true →
    ∃ key value, m.fields = [key,value] ∧ ¬ p.IsEntry value.kind

/-- A field of an entry that is no map, since it is single. -/
def Exposes (p : Pool) (f : PoolField) : Prop := f.isRepeated = false ∧ p.IsEntry f.kind

end Pool

/-- The package is taken off the name of a type as it is off the names that refer to it. -/
theorem withoutPackage_eq (q package : String) (inside : InPackage q package) :
    withoutPackage package q = nameInPackage q package := by
  obtain ⟨path,filled,undotted,rfl⟩ := inside
  unfold withoutPackage nameInPackage qualify
  by_cases top : package = ""
  · subst top
    simp [dropPrefix?]
  · have whole : (package ++ "." ++ path).toList = package.toList ++ '.' :: path.toList := by simp
    have front : path.toList.dropWhile (· = '.') = path.toList :=
      dropWhile_kept _ _ fun c first => by
        have other : c ≠ '.' := fun same => undotted (same ▸ first)
        simpa using other
    simp [top,whole,dropPrefix?_append,dropPrefix?,front,filled]

end Proto

/-- Where names are distinct, looking for one finds the item that has it. -/
private theorem find?_name_iff {α : Type} (name : α → String) (items : List α)
    (distinct : (items.map name).Nodup) (n : String) (x : α) :
    items.find? (fun y => name y = n) = some x ↔ x ∈ items ∧ name x = n := by
  constructor
  · intro found
    exact ⟨List.mem_of_find?_eq_some found,by simpa using List.find?_some found⟩
  · rintro ⟨member,rfl⟩
    obtain ⟨y,found⟩ : ∃ y, items.find? (fun y => name y = name x) = some y := by
      rw [← Option.isSome_iff_exists,List.find?_isSome]
      exact ⟨x,member,by simp⟩
    have same : name y = name x := by simpa using List.find?_some found
    rw [found,List.inj_on_of_nodup_map distinct (List.mem_of_find?_eq_some found) member same]

namespace Schema

theorem get?_eq_some_iff (s : Schema) (q : String) (d : TypeDef) :
    s.get? q = some d ↔ d ∈ s.types ∧ d.qualifiedName = q :=
  find?_name_iff TypeDef.qualifiedName s.types s.distinct q d

/-- What is stored already stays, unless a later type has its name. -/
theorem mem_insertAll_iff (start : Schema) (types : List TypeDef)
    (distinct : (types.map (·.qualifiedName)).Nodup) (d : TypeDef) :
    d ∈ (types.foldl insert start).types ↔
      d ∈ types ∨ d ∈ start.types ∧ d.qualifiedName ∉ types.map (·.qualifiedName) := by
  induction types generalizing start with
  | nil => simp
  | cons e types ih =>
    obtain ⟨apart,others⟩ := List.nodup_cons.mp distinct
    rw [List.foldl_cons,ih _ others]
    simp only [insert,List.mem_cons,List.mem_filter,List.map_cons,decide_eq_true_eq,not_or,ne_eq]
    by_cases same : d = e
    · subst same
      simp [apart]
    · simp [same,and_assoc]

theorem mem_ofList_iff (types : List TypeDef) (distinct : (types.map (·.qualifiedName)).Nodup)
    (d : TypeDef) : d ∈ (ofList types).types ↔ d ∈ types := by
  simpa [ofList,empty] using mem_insertAll_iff empty types distinct d

end Schema

namespace Proto
namespace Pool
variable {p : Pool}

theorem mem_types (d : TypeDef) : d ∈ p.types ↔
    (∃ m ∈ p.messages, m.isMapEntry = false ∧ p.messageType m = d) ∨ ∃ e ∈ p.enumerations, enumType e = d := by
  simp [types,and_assoc]

theorem IsLinked.message?_iff (linked : p.IsLinked) (q : String) (m : PoolMessage) :
    p.message? q = some m ↔ m ∈ p.messages ∧ m.qualifiedName = q :=
  find?_name_iff PoolMessage.qualifiedName p.messages linked.distinct.of_append_left q m

theorem IsLinked.message_unique (linked : p.IsLinked) (m n : PoolMessage) (mem : m ∈ p.messages)
    (mem' : n ∈ p.messages) (same : m.qualifiedName = n.qualifiedName) : m = n :=
  List.inj_on_of_nodup_map linked.distinct.of_append_left mem mem' same

theorem IsLinked.types_distinct (linked : p.IsLinked) : (p.types.map (·.qualifiedName)).Nodup := by
  have kept := (List.filter_sublist (p := fun m : PoolMessage => ! m.isMapEntry) (l := p.messages)).map
    (·.qualifiedName)
  have names : p.types.map (·.qualifiedName) = (p.messages.filter (! ·.isMapEntry)).map (·.qualifiedName) ++
      p.enumerations.map (·.qualifiedName) := by
    simp only [types,List.map_append,List.map_map]
    rfl
  rw [names]
  exact (kept.append_right _).nodup linked.distinct

theorem IsLinked.get?_iff (linked : p.IsLinked) (q : String) (d : TypeDef) :
    (Schema.ofPool p).get? q = some d ↔ d ∈ p.types ∧ d.qualifiedName = q := by
  rw [Schema.get?_eq_some_iff,Schema.ofPool,Schema.mem_ofList_iff _ linked.types_distinct]

/-- An entry's name is the name of no stored type. -/
theorem IsLinked.get?_entry (linked : p.IsLinked) (m : PoolMessage) (mem : m ∈ p.messages)
    (entry : m.isMapEntry = true) : (Schema.ofPool p).get? m.qualifiedName = none := by
  rw [Option.eq_none_iff_forall_ne_some]
  intro d found
  obtain ⟨stored,same⟩ := (linked.get?_iff _ d).mp found
  rcases (mem_types d).mp stored with ⟨n,mem',plain,rfl⟩ | ⟨e,mem',rfl⟩
  · rw [linked.message_unique n m mem' mem same,entry] at plain
    cases plain
  · have apart := List.disjoint_of_nodup_append linked.distinct
    exact apart (List.mem_map_of_mem mem) (List.mem_map.mpr ⟨e,mem',same⟩)

/-- A kind that is no entry refers to a stored type, whose full name it is written as. -/
theorem IsLinked.describe_leads (linked : p.IsLinked) (k : Kind) (known : p.Knows k)
    (other : ¬ p.IsEntry k) (target : TypeRef) (points : k.describe.2 = some target) :
    ∃ d, (Schema.ofPool p).get? target.qualifiedName = some d ∧ d.fullName = target.fullName ∧
      d.fullName = k.describe.1 := by
  cases k with
  | scalar name => cases points
  | message q package =>
    cases points
    obtain ⟨m,mem,rfl,rfl⟩ := known
    have plain : m.isMapEntry = false := Bool.eq_false_iff.mpr fun entry => other ⟨m,mem,entry,rfl⟩
    have full := withoutPackage_eq _ _ (linked.messages m mem)
    exact ⟨p.messageType m,(linked.get?_iff _ _).mpr ⟨(mem_types _).mpr (.inl ⟨m,mem,plain,rfl⟩),rfl⟩,full,full⟩
  | enumeration q package =>
    cases points
    obtain ⟨e,mem,rfl,rfl⟩ := known
    have full := withoutPackage_eq _ _ (linked.enumerations e mem)
    exact ⟨enumType e,(linked.get?_iff _ _).mpr ⟨(mem_types _).mpr (.inr ⟨e,mem,rfl⟩),rfl⟩,full,full⟩

theorem IsLinked.mapOf?_eq_some (linked : p.IsLinked) (f : PoolField) (known : p.Knows f.kind)
    (key value : Kind) (map : p.mapOf? f = some (key,value)) :
    p.IsEntry f.kind ∧ p.Knows value ∧ ¬ p.IsEntry value := by
  unfold mapOf? at map
  split at map
  · rename_i q package _ kind
    obtain ⟨entry,found,map⟩ := Option.bind_eq_some_iff.mp map
    obtain ⟨mem,named⟩ := (linked.message?_iff q entry).mp found
    split at map
    · rename_i marked
      obtain ⟨first,second,fields,plain⟩ := linked.entries entry mem marked
      rw [fields] at map
      cases map
      rw [kind] at known ⊢
      obtain ⟨m,mem',rfl,rfl⟩ := known
      rw [← linked.message_unique entry m mem mem' named]
      exact ⟨⟨entry,mem,marked,rfl⟩,linked.known entry mem second (by simp [fields]),plain⟩
    · cases map
  · cases map

/-- A repeated field of an entry is a map. -/
theorem IsLinked.mapOf?_entry (linked : p.IsLinked) (f : PoolField) (repeated : f.isRepeated = true)
    (entry : p.IsEntry f.kind) : ∃ key value, p.mapOf? f = some (key,value) := by
  obtain ⟨m,mem,marked,kind⟩ := entry
  obtain ⟨key,value,fields,_⟩ := linked.entries m mem marked
  have found : p.message? m.qualifiedName = some m := (linked.message?_iff _ m).mpr ⟨mem,rfl⟩
  exact ⟨key.kind,value.kind,by simp [mapOf?,repeated,kind,found,marked,fields]⟩

end Pool

/-- How a type is written as the type of a field: by its full name, or as the values of a map. -/
def Shows (declaredType fullName : String) : Prop :=
  declaredType = fullName ∨ ∃ key, declaredType = "map<" ++ key ++ ", " ++ fullName ++ ">"

/-- A stored type has the name, the full name as well, and the field is written with it. -/
def Leads (s : Schema) (f : Field) (target : TypeRef) : Prop :=
  ∃ d, s.get? target.qualifiedName = some d ∧ d.fullName = target.fullName ∧ Shows f.declaredType d.fullName

namespace Pool
variable {p : Pool}

theorem IsLinked.field_leads (linked : p.IsLinked) (f : PoolField) (known : p.Knows f.kind)
    (hidden : ¬ p.Exposes f) (target : TypeRef) (points : (p.field f).target = some target) :
    Leads (.ofPool p) (p.field f) target := by
  have shown : (p.field f).declaredType = (p.describe f).1 := rfl
  replace points : (p.describe f).2 = some target := points
  rw [Leads,shown]
  unfold describe at points ⊢
  cases map : p.mapOf? f with
  | none =>
    have other : ¬ p.IsEntry f.kind := fun entry => by
      cases repeated : f.isRepeated with
      | false => exact hidden ⟨repeated,entry⟩
      | true =>
        obtain ⟨key,value,found⟩ := linked.mapOf?_entry f repeated entry
        rw [map] at found
        cases found
    rw [map] at points
    obtain ⟨d,found,same,written⟩ := linked.describe_leads f.kind known other target points
    exact ⟨d,found,same,.inl written.symm⟩
  | some kinds =>
    obtain ⟨_,valued,plain⟩ := linked.mapOf?_eq_some f known kinds.1 kinds.2 map
    rw [map] at points
    obtain ⟨d,found,same,written⟩ := linked.describe_leads kinds.2 valued plain target points
    exact ⟨d,found,same,.inr ⟨kinds.1.describe.1,by rw [written]⟩⟩

/-- What is exposed is referred to. -/
theorem Exposes.target {f : PoolField} (exposed : p.Exposes f) :
    ∃ m ∈ p.messages, m.isMapEntry = true ∧ ∃ fullName, (p.field f).target = some ⟨m.qualifiedName,fullName⟩ := by
  obtain ⟨single,m,mem,entry,kind⟩ := exposed
  have plain : p.mapOf? f = none := by simp [mapOf?,single]
  refine ⟨m,mem,entry,nameInPackage m.qualifiedName m.package,?_⟩
  show (p.describe f).2 = _
  rw [describe,plain,kind]
  rfl

/-- The references of a field all lead to stored types, unless the field exposes an entry. -/
theorem IsLinked.field_leads_iff (linked : p.IsLinked) (f : PoolField) (known : p.Knows f.kind) :
    (∀ target, (p.field f).target = some target → Leads (.ofPool p) (p.field f) target) ↔
      ¬ p.Exposes f := by
  refine ⟨fun leads exposed => ?_,linked.field_leads f known⟩
  obtain ⟨m,mem,entry,fullName,points⟩ := exposed.target
  obtain ⟨d,found,_⟩ := leads _ points
  rw [linked.get?_entry m mem entry] at found
  cases found

theorem mem_targets (m : PoolMessage) (target : TypeRef) :
    target ∈ (p.messageType m).targets ↔ ∃ f ∈ m.fields, (p.field f).target = some target := by
  have fields : (p.messageType m).fields = m.fields.map p.field := rfl
  simp only [TypeDef.mem_targets,fields,List.mem_map,exists_exists_and_eq_and]

/-- A reference that leads nowhere is to an entry. -/
theorem IsLinked.missing_entry (linked : p.IsLinked) (f : PoolField) (known : p.Knows f.kind)
    (target : TypeRef) (points : (p.field f).target = some target)
    (missing : (Schema.ofPool p).get? target.qualifiedName = none) :
    ∃ m ∈ p.messages, m.isMapEntry = true ∧ m.qualifiedName = target.qualifiedName := by
  have exposed : p.Exposes f := by
    by_contra hidden
    obtain ⟨d,found,_⟩ := linked.field_leads f known hidden target points
    rw [missing] at found
    cases found
  obtain ⟨m,mem,entry,fullName,same⟩ := exposed.target
  rw [points] at same
  cases same
  exact ⟨m,mem,entry,rfl⟩

theorem IsLinked.closed (linked : p.IsLinked)
    (hidden : ∀ m ∈ p.messages, m.isMapEntry = false → ∀ f ∈ m.fields, ¬ p.Exposes f) :
    (Schema.ofPool p).Closed := by
  refine (Schema.ofPool p).closed_iff.mpr fun d stored target member => ?_
  rcases (mem_types d).mp (Schema.mem_of_mem_ofList _ d stored) with ⟨m,mem,plain,rfl⟩ | ⟨e,_,rfl⟩
  · obtain ⟨f,inside,points⟩ := (mem_targets m target).mp member
    obtain ⟨d,found,_⟩ :=
      linked.field_leads f (linked.known m mem f inside) (hidden m mem plain f inside) target points
    exact ⟨d,found⟩
  · cases member

end Pool
end Proto

namespace Schema
open ReferenceSite.Proto

theorem follow_unknown (s : Schema) (depth : Nat) (targets : List TypeRef)
    (missing : ∃ target ∈ targets, s.get? target.qualifiedName = none) :
    ∃ target ∈ targets, s.get? target.qualifiedName = none ∧
      s.follow depth targets = .error (.unknownType target.qualifiedName) := by
  induction targets with
  | nil => simp at missing
  | cons target rest ih =>
    simp only [follow]
    split
    · rename_i d here
      have later : ∃ other ∈ rest, s.get? other.qualifiedName = none := by simpa [here] using missing
      obtain ⟨other,member,absent,failed⟩ := ih later
      refine ⟨other,List.mem_cons_of_mem _ member,absent,?_⟩
      rw [failed]
      rfl
    · rename_i absent
      exact ⟨target,by simp,absent,rfl⟩

/-- In a closed schema a walk fails only for its start, and then nothing is visited. -/
theorem collect_outcome (s : Schema) (closed : s.Closed) (start : String) (depth : Nat) (v : Visits) :
    (∃ d, s.resolve start = .ok d ∧ ∃ after es, s.collect start depth v = (after,.ok es)) ∨
      ∃ fault, s.resolve start = .error fault ∧ s.collect start depth v = (v,.error fault) := by
  cases resolved : s.resolve start with
  | ok d =>
    rw [s.collect_resolved start depth v d resolved]
    exact .inl ⟨d,rfl,visitAll_closed s closed v _⟩
  | error fault =>
    exact .inr ⟨fault,rfl,s.collect_unresolved start depth v fault resolved⟩

theorem collect_unknown (s : Schema) (start : String) (depth : Nat) (v : Visits) (d : TypeDef)
    (resolved : s.resolve start = .ok d) (free : v.emitted? d.name = none)
    (missing : ∃ target ∈ d.targets, s.get? target.qualifiedName = none) :
    ∃ target ∈ d.targets, s.get? target.qualifiedName = none ∧
      s.collect start depth v = (v.take d,.error (.unknownType target.qualifiedName)) := by
  obtain ⟨target,member,absent,failed⟩ := s.follow_unknown depth d.targets missing
  refine ⟨target,member,absent,?_⟩
  rw [s.collect_resolved start depth v d resolved,visitAll]
  split
  · rename_i taken
    rw [free] at taken
    cases taken
  · rw [failed]

/-- The schema of a linked pool stores its types and nothing else. The references of a field lead to
stored types exactly if the field exposes no entry, and walks stop short only where one does. -/
theorem ofPool_references (p : Pool) (linked : p.IsLinked) :
    (∀ q d, (ofPool p).get? q = some d ↔ d.qualifiedName = q ∧
      ((∃ m ∈ p.messages, m.isMapEntry = false ∧ p.messageType m = d) ∨
        ∃ e ∈ p.enumerations, Pool.enumType e = d)) ∧
    (∀ m ∈ p.messages, m.isMapEntry = false → ∀ f ∈ m.fields,
      ((∀ target, (p.field f).target = some target → Leads (ofPool p) (p.field f) target) ↔
        ¬ p.Exposes f)) ∧
    ((∀ m ∈ p.messages, m.isMapEntry = false → ∀ f ∈ m.fields, ¬ p.Exposes f) →
      ∀ start depth v, (∃ d, (ofPool p).resolve start = .ok d ∧
          ∃ after es, (ofPool p).collect start depth v = (after,.ok es)) ∨
        ∃ fault, (ofPool p).resolve start = .error fault ∧
          (ofPool p).collect start depth v = (v,.error fault)) ∧
    ∀ m ∈ p.messages, m.isMapEntry = false → (∃ f ∈ m.fields, p.Exposes f) →
      ∀ start depth v, (ofPool p).resolve start = .ok (p.messageType m) →
        v.emitted? (p.messageType m).name = none → ∃ entry ∈ p.messages, entry.isMapEntry = true ∧
          (ofPool p).collect start depth v =
            (v.take (p.messageType m),.error (.unknownType entry.qualifiedName)) := by
  refine ⟨fun q d => ?_,fun m mem plain f inside => ?_,fun hidden start depth v => ?_,?_⟩
  · rw [linked.get?_iff,Pool.mem_types,and_comm]
  · exact linked.field_leads_iff f (linked.known m mem f inside)
  · exact collect_outcome _ (linked.closed hidden) start depth v
  · rintro m mem plain ⟨f,inside,exposed⟩ start depth v resolved free
    obtain ⟨left,away,marked,fullName,points⟩ := exposed.target
    obtain ⟨other,member,absent,failed⟩ := collect_unknown _ start depth v _ resolved free
      ⟨_,(Pool.mem_targets m _).mpr ⟨f,inside,points⟩,linked.get?_entry left away marked⟩
    obtain ⟨g,inside',points'⟩ := (Pool.mem_targets m other).mp member
    obtain ⟨entry,mem',marked,named⟩ :=
      linked.missing_entry g (linked.known m mem g inside') other points' absent
    exact ⟨entry,mem',marked,named ▸ failed⟩

end Schema

/-! A message with a map, and one with a single field of the entries of that map or without it. -/

def mapField : Proto.PoolField := ⟨"m",1,.message "A.MEntry" "",true,""⟩

def entryField : Proto.PoolField := ⟨"x",1,.message "A.MEntry" "",false,""⟩

def mapper : Proto.PoolMessage := ⟨"A","","a.proto","",[mapField],false⟩

def mapEntry : Proto.PoolMessage :=
  ⟨"A.MEntry","","a.proto","",[⟨"key",1,.scalar "string",false,""⟩,⟨"value",2,.message "B" "",false,""⟩],true⟩

def mapped (fields : List Proto.PoolField) : Proto.PoolMessage := ⟨"B","","a.proto","",fields,false⟩

def mapping (fields : List Proto.PoolField) : Proto.Pool := ⟨[mapper,mapEntry,mapped fields],[]⟩

def entryText : String := "message A{map<string,B>m=1;}message B{optional A.MEntry x=1;}"

def entryTree : FileTree := ⟨[],[(["p"],.directory),(["p","a.proto"],.file entryText.toUTF8)]⟩

private theorem mapping_linked (fields : List Proto.PoolField)
    (known : ∀ f ∈ fields, f.kind = .message "A.MEntry" "") : (mapping fields).IsLinked where
  distinct := by simp [mapping,mapper,mapEntry,mapped]
  messages := by
    simp only [mapping,List.forall_mem_cons]
    exact ⟨⟨"A",by decide,by decide,rfl⟩,⟨"A.MEntry",by decide,by decide,rfl⟩,⟨"B",by decide,by decide,rfl⟩,by simp⟩
  enumerations := by simp [mapping]
  known := by
    have entry : (mapping fields).Knows (.message "A.MEntry" "") := ⟨mapEntry,by simp [mapping],rfl,rfl⟩
    have value : (mapping fields).Knows (.message "B" "") := ⟨mapped fields,by simp [mapping],rfl,rfl⟩
    simp only [mapping,mapper,mapEntry,mapped,List.forall_mem_cons]
    exact ⟨⟨entry,by simp⟩,⟨trivial,value,by simp⟩,fun f inside => (known f inside).symm ▸ entry,by simp⟩
  entries := by
    simp only [mapping,List.forall_mem_cons]
    refine ⟨nofun,fun _ => ⟨_,_,rfl,?_⟩,nofun,by simp⟩
    rintro ⟨m,member,marked,same⟩
    simp only [List.mem_cons,List.not_mem_nil,or_false] at member
    rcases member with rfl | rfl | rfl
    · cases marked
    · simp [mapEntry] at same
    · cases marked

private theorem mapping_exposes : (mapping [entryField]).Exposes entryField :=
  ⟨rfl,mapEntry,by simp [mapping],rfl,rfl⟩

private theorem mapping_hides :
    ∀ m ∈ (mapping []).messages, m.isMapEntry = false → ∀ f ∈ m.fields, ¬ (mapping []).Exposes f := by
  intro m member plain f inside shown
  simp only [mapping,List.mem_cons,List.not_mem_nil,or_false] at member
  rcases member with rfl | rfl | rfl
  · obtain rfl := List.mem_singleton.mp inside
    cases shown.1
  · cases plain
  · cases inside

theorem mapping_references :
    (mapping []).IsLinked ∧ (mapping [entryField]).IsLinked ∧
    ((mapping []).field mapField).target = some ⟨"B","B"⟩ ∧
    Proto.Leads (.ofPool (mapping [])) ((mapping []).field mapField) ⟨"B","B"⟩ ∧
    (∃ after es, (Schema.ofPool (mapping [])).collect "A" 0 .none = (after,.ok es)) ∧
    (mapping [entryField]).Exposes entryField ∧
    ∃ entry ∈ (mapping [entryField]).messages, entry.isMapEntry = true ∧
      (Schema.ofPool (mapping [entryField])).collect "B" 0 .none =
        (⟨[("B","B")],[]⟩,.error (.unknownType entry.qualifiedName)) := by
  have linked := mapping_linked [] (by simp)
  have linked' := mapping_linked [entryField] (by simp [entryField])
  obtain ⟨_,leads,walks,_⟩ := Schema.ofPool_references (mapping []) linked
  obtain ⟨_,_,_,ends⟩ := Schema.ofPool_references (mapping [entryField]) linked'
  have aims : ((mapping []).field mapField).target = some ⟨"B","B"⟩ := by decide
  have hidden := mapping_hides mapper (by simp [mapping]) rfl mapField (by simp [mapper])
  refine ⟨linked,linked',aims,(leads mapper (by simp [mapping]) rfl mapField (by simp [mapper])).mpr hidden _ aims,
    ?_,mapping_exposes,?_⟩
  · rcases walks mapping_hides "A" 0 .none with ⟨_,_,walked⟩ | ⟨fault,refused,_⟩
    · exact walked
    · have found : (Schema.ofPool (mapping [])).resolve "A" = .ok ((mapping []).messageType mapper) := rfl
      rw [found] at refused
      cases refused
  · exact ends (mapped [entryField]) (by simp [mapping]) rfl ⟨entryField,by simp [mapped],mapping_exposes⟩ "B" 0 .none
      rfl rfl

/-- The single field refers to the message of the entries, which the schema does not have. -/
theorem entry_unresolved :
    ((Proto.compile entryTree ⟨"p"⟩ ⟨"a.proto"⟩).toOption.map fun p => (p.messages,p.enumerations)) =
      some ((mapping [entryField]).messages,(mapping [entryField]).enumerations) ∧
    (mapping [entryField]).IsLinked ∧
    ((mapping [entryField]).field entryField).target = some ⟨"A.MEntry","A.MEntry"⟩ ∧
    (Schema.ofPool (mapping [entryField])).get? "A.MEntry" = none ∧
    ((Schema.ofPool (mapping [entryField])).resolve "B").toOption.map (·.qualifiedName) = some "B" ∧
    (Schema.ofPool (mapping [entryField])).collect "B" 0 .none =
      (⟨[("B","B")],[]⟩,.error (.unknownType "A.MEntry")) := by
  refine ⟨by decide +kernel,mapping_linked [entryField] (by simp [entryField]),by decide,by decide,by decide,?_⟩
  obtain ⟨target,member,_,failed⟩ := Schema.collect_unknown
    (.ofPool (mapping [entryField])) "B" 0 .none _ rfl rfl ⟨⟨"A.MEntry","A.MEntry"⟩,by decide,by decide⟩
  have only : target ∈ [TypeRef.mk "A.MEntry" "A.MEntry"] := member
  obtain rfl := List.mem_singleton.mp only
  exact failed

end ReferenceSite
