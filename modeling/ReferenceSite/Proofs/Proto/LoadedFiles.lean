import ReferenceSite.Proofs.Page.DeadReferences
import ReferenceSite.Proofs.Proto.SourceNames
import ReferenceSite.Proto.Compile

/-! Where the types of a loaded schema come from. Each is defined in a file that was read under the
name which the type carries: one that lies below the root, or else a bundled one. -/
namespace ReferenceSite
namespace Proto
open ReferenceSite.Proto.Source

theorem SourceFile.add_name (f g : SourceFile) (s : Statement) (added : f.add s = some g) :
    g.name = f.name := by
  unfold SourceFile.add at added
  repeat' split at added
  all_goals first
    | cases added; rfl
    | cases added
    | (obtain ⟨_,_,rfl⟩ := Option.map_eq_some_iff.mp added; rfl)

theorem SourceFile.foldlM_name (statements : List Statement) (f g : SourceFile)
    (read : statements.foldlM SourceFile.add f = some g) : g.name = f.name :=
  foldlM_kept (·.name = f.name) (fun _ => True) SourceFile.add
    (fun before s after same _ added => (SourceFile.add_name before after s added).trans same)
    statements (fun _ _ => trivial) f g rfl read

theorem SourceFile.ofText?_name (name : String) (text : List Char) (f : SourceFile)
    (read : SourceFile.ofText? name text = some f) : f.name = name := by
  unfold SourceFile.ofText? at read
  obtain ⟨statements,_,read⟩ := Option.bind_eq_some_iff.mp read
  cases statements with
  | nil =>
    cases read
    rfl
  | cons first rest =>
    obtain ⟨version,_,read⟩ := Option.bind_eq_some_iff.mp read
    split at read
    · exact SourceFile.foldlM_name _ _ f read
    · exact SourceFile.foldlM_name _ _ f read

namespace Source

theorem readSource_ok_iff (name : String) (text : List Char) (f : SourceFile) :
    readSource name text = .ok f ↔ SourceFile.ofText? name text = some f := by
  unfold readSource
  cases SourceFile.ofText? name text <;> simp

/-- A file is read below the root, or it is a bundled one of which there is none below the root. -/
theorem source_ok (t : FileTree) (root : Path) (b : Bundle) (name : String) (f : SourceFile)
    (found : source t root b name = .ok f) : isPlainName name = true ∧
      ∃ text, SourceFile.ofText? name text = some f ∧ (t.readText (root.join name) = .ok (.ofList text) ∨
        t.readText (root.join name) = .error .notFound ∧ (name,text) ∈ b) := by
  unfold source at found
  split at found
  · cases found
  · rename_i plain
    refine ⟨by simpa using plain,?_⟩
    split at found
    · rename_i text read
      exact ⟨_,(readSource_ok_iff name _ f).mp found,.inl (by rw [read,String.ofList_toList])⟩
    · rename_i missing
      split at found
      · rename_i text bundled
        obtain ⟨before,after,rfl,_⟩ := List.lookup_eq_some_iff.mp bundled
        exact ⟨text,(readSource_ok_iff name text f).mp found,.inr ⟨missing,by simp⟩⟩
      · cases found
    · cases found

theorem gather_source (t : FileTree) (root : Path) (b : Bundle) (fuel : Nat) (above : List String)
    (loaded files : List SourceFile) (name : String)
    (gathered : gather t root b fuel above loaded name = .ok files) :
    ∀ f ∈ files, f ∈ loaded ∨ source t root b f.name = .ok f := by
  induction fuel generalizing above loaded files name with
  | zero => cases gathered
  | succ fuel ih =>
    unfold gather at gathered
    split at gathered
    · cases gathered
    · split at gathered
      · cases gathered
        exact fun f member => .inl member
      · obtain ⟨f,found,gathered⟩ := (bind_ok_iff ..).mp gathered
        obtain ⟨more,imported,gathered⟩ := (bind_ok_iff ..).mp gathered
        cases gathered
        obtain ⟨_,text,read,_⟩ := source_ok t root b name f found
        have named := SourceFile.ofText?_name name _ f read
        have imports (is : List Import) (start : List SourceFile) (ended : List SourceFile)
            (run : is.foldlM (fun loaded i => gather t root b fuel (name :: above) loaded i.name) start =
              .ok ended) : ∀ g ∈ ended, g ∈ start ∨ source t root b g.name = .ok g := by
          induction is generalizing start with
          | nil =>
            cases run
            exact fun g member => .inl member
          | cons i is further =>
            rw [List.foldlM_cons] at run
            obtain ⟨next,first,run⟩ := (bind_ok_iff ..).mp run
            intro g member
            exact (further next run g member).elim (ih _ _ _ _ first g) .inr
        intro g member
        rcases List.mem_append.mp member with early | last
        · exact imports _ _ _ imported g early
        · obtain rfl := List.mem_singleton.mp last
          exact .inr (named.symm ▸ found)

theorem poolMessages_file (s : Symbols) (file package : String) (m : MessageDecl)
    (compiled : List PoolMessage) (run : poolMessages s file package m = .ok compiled) :
    ∀ p ∈ compiled, p.file = file := by
  unfold poolMessages at run
  obtain ⟨fields,_,run⟩ := (bind_ok_iff ..).mp run
  obtain ⟨entries,made,run⟩ := (bind_ok_iff ..).mp run
  cases run
  refine List.forall_mem_cons.mpr ⟨rfl,fun p member => ?_⟩
  obtain ⟨some,listed,inside⟩ := List.mem_flatten.mp member
  obtain ⟨f,_,made⟩ := mem_of_mapM _ _ _ made some listed
  unfold entryMessages at made
  split at made
  · obtain ⟨key,_,made⟩ := (bind_ok_iff ..).mp made
    obtain ⟨value,_,made⟩ := (bind_ok_iff ..).mp made
    cases made
    rw [List.mem_singleton.mp inside]
  · cases made
    simp at inside

theorem poolOf_file (files : List SourceFile) (f : SourceFile) (pool : Pool)
    (compiled : poolOf files f = .ok pool) :
    (∀ m ∈ pool.messages, m.file = f.name) ∧ ∀ e ∈ pool.enumerations, e.file = f.name := by
  unfold poolOf at compiled
  obtain ⟨messages,made,compiled⟩ := (bind_ok_iff ..).mp compiled
  cases compiled
  constructor
  · intro m member
    obtain ⟨some,listed,inside⟩ := List.mem_flatten.mp member
    obtain ⟨d,_,made⟩ := mem_of_mapM _ _ _ made some listed
    exact poolMessages_file _ _ _ d some made m inside
  · intro e member
    obtain ⟨d,_,rfl⟩ := List.mem_map.mp member
    rfl

/-- The pool of all files is put together from those of the single files. -/
theorem link_pools (files : List SourceFile) (pool : Pool) (linked : link files = .ok pool) :
    ∃ pools : List Pool, pool = ⟨pools.flatMap (·.messages),pools.flatMap (·.enumerations)⟩ ∧
      ∀ p ∈ pools, ∃ f ∈ files, poolOf files f = .ok p := by
  unfold link at linked
  obtain ⟨_,_,linked⟩ := (bind_ok_iff ..).mp linked
  obtain ⟨_,_,linked⟩ := (bind_ok_iff ..).mp linked
  obtain ⟨pools,made,linked⟩ := (bind_ok_iff ..).mp linked
  cases linked
  exact ⟨pools,rfl,mem_of_mapM _ _ _ made⟩

theorem link_file (files : List SourceFile) (pool : Pool) (linked : link files = .ok pool) :
    ∀ d ∈ pool.types, ∃ f ∈ files, d.file = f.name := by
  obtain ⟨pools,rfl,made⟩ := link_pools files pool linked
  have origin (p : Pool) (member : p ∈ pools) : ∃ f ∈ files,
      (∀ m ∈ p.messages, m.file = f.name) ∧ ∀ e ∈ p.enumerations, e.file = f.name := by
    obtain ⟨f,inside,compiled⟩ := made p member
    exact ⟨f,inside,poolOf_file files f p compiled⟩
  intro d member
  rcases List.mem_append.mp member with message | enumeration
  · obtain ⟨m,kept,rfl⟩ := List.mem_map.mp message
    obtain ⟨p,listed,inside⟩ := List.mem_flatMap.mp (List.mem_filter.mp kept).1
    obtain ⟨f,among,own,_⟩ := origin p listed
    exact ⟨f,among,own m inside⟩
  · obtain ⟨e,kept,rfl⟩ := List.mem_map.mp enumeration
    obtain ⟨p,listed,inside⟩ := List.mem_flatMap.mp kept
    obtain ⟨f,among,_,own⟩ := origin p listed
    exact ⟨f,among,own e inside⟩

end Source
end Proto

namespace Schema
open Proto.Source

theorem mem_of_mem_ofList (types : List TypeDef) : ∀ d ∈ (Schema.ofList types).types, d ∈ types := by
  have grown (start : Schema) (types : List TypeDef) :
      ∀ d ∈ (types.foldl insert start).types, d ∈ start.types ∨ d ∈ types := by
    induction types generalizing start with
    | nil => exact fun d member => .inl member
    | cons e types ih =>
      intro d member
      rcases ih (start.insert e) d member with early | later
      · rcases List.mem_cons.mp early with rfl | kept
        · exact .inr (by simp)
        · exact .inl (List.mem_filter.mp kept).1
      · exact .inr (List.mem_cons_of_mem e later)
  intro d member
  exact (grown .empty types d member).resolve_left (by simp [Schema.empty])

/-- What is linked are files that were found under their names. -/
theorem load_files (t : FileTree) (root file : Path) (b : Proto.Bundle) (s : Schema)
    (loaded : load t root file b = .ok s) :
    ∃ files pool, (∀ f ∈ files, source t root b f.name = .ok f) ∧ link files = .ok pool ∧ s = .ofPool pool := by
  unfold load at loaded
  split at loaded
  · rename_i pool compiled
    cases loaded
    unfold Proto.compile at compiled
    split at compiled
    · cases compiled
    · rename_i name _
      obtain ⟨files,gathered,compiled⟩ := (bind_ok_iff ..).mp compiled
      split at compiled
      · cases compiled
      · refine ⟨files,pool,fun f member => ?_,compiled,rfl⟩
        exact (gather_source t root b _ [] [] files name gathered f member).resolve_left (by simp)
  · cases loaded

/-- Each type of a loaded schema carries the name of a file that was found under it. -/
theorem load_source (t : FileTree) (root file : Path) (b : Proto.Bundle) (s : Schema)
    (loaded : load t root file b = .ok s) : ∀ d ∈ s.types, ∃ f, source t root b d.file = .ok f := by
  obtain ⟨files,pool,found,linked,rfl⟩ := load_files t root file b s loaded
  intro d member
  obtain ⟨f,inside,same⟩ := link_file files pool linked d (mem_of_mem_ofList _ d member)
  exact ⟨f,same ▸ found f inside⟩

end Schema
end ReferenceSite
