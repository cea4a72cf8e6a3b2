import ReferenceSite.Files.Tree
import ReferenceSite.Proofs.Outcome

/-! How a tree of files changes while something is written into it. Directories stay directories and
files stay files, so a path that leads somewhere leads there ever after, and that place is known from
its names alone. One place gets a new content; elsewhere nothing appears but directories. -/
namespace ReferenceSite.FileTree

/-- One step by its name, without a look at the tree. -/
def descend (here : Location) (segment : String) : Location :=
  if Path.isSilent segment then here else if segment = ".." then here.dropLast else here ++ [segment]

/-- Where a path leads by its names, if it leads anywhere. -/
def place (t : FileTree) (p : Path) : Location :=
  p.segments.foldl descend (if p.isAbsolute then [] else t.workingDirectory)

def content (t : FileTree) (here : Location) : Option ByteArray :=
  match t.lookup here with
  | some (.file content) => some content
  | _ => none

theorem lookup_root (t : FileTree) : t.lookup [] = some .directory := rfl

theorem lookup_put (t : FileTree) (here other : Location) (entry : Entry) (inner : here ≠ []) :
    (t.put here entry).lookup other = if other = here then some entry else t.lookup other := by
  by_cases same : other = here
  · subst same
    simp [lookup,put,inner]
  · by_cases root : other = []
    · simp [root,lookup_root,inner.symm]
    · have apart : here ≠ other := fun equal => same equal.symm
      have skipped (e : Location × Entry) :
          decide (decide (e.1 ≠ here) = true ∧ decide (e.1 = other) = true) = decide (e.1 = other) := by
        by_cases found : e.1 = other <;> simp [found,same]
      simp only [lookup,put,root,same,if_false,List.find?_cons,apart,decide_false,List.find?_filter,
        skipped]

/-! Steps by name. -/

theorem step_ok_iff (t : FileTree) (here next : Location) (segment : String) :
    t.step here segment = .ok next ↔ t.lookup here = some .directory ∧ next = descend here segment := by
  constructor
  · intro taken
    unfold step at taken
    split at taken
    · cases taken
    · cases taken
    · rename_i directory
      exact ⟨directory,(Except.ok.inj taken).symm⟩
  · rintro ⟨directory,rfl⟩
    simp only [step,directory,descend]

theorem foldlM_step (t : FileTree) (segments : List String) (start here : Location)
    (walked : segments.foldlM t.step start = .ok here) : segments.foldl descend start = here := by
  induction segments generalizing start with
  | nil => exact Except.ok.inj walked
  | cons segment rest ih =>
    rw [List.foldlM_cons] at walked
    obtain ⟨next,taken,walked⟩ := (bind_ok_iff ..).mp walked
    obtain ⟨_,rfl⟩ := (t.step_ok_iff ..).mp taken
    exact ih _ walked

theorem walk_ok (t : FileTree) (p : Path) (here : Location) (walked : t.walk p = .ok here) :
    here = t.place p := by
  unfold walk at walked
  split at walked
  · cases walked
  · exact (t.foldlM_step _ _ here walked).symm

theorem find_ok_iff (t : FileTree) (p : Path) (here : Location) (entry : Entry) :
    t.find p = .ok (here,entry) ↔ t.walk p = .ok here ∧ t.lookup here = some entry := by
  unfold find
  cases walked : t.walk p with
  | error fault => simp [bind,Except.bind]
  | ok there =>
    cases found : t.lookup there with
    | none =>
      refine ⟨fun failed => ?_,?_⟩
      · simp [found,bind,Except.bind,throw,throwThe,MonadExceptOf.throw] at failed
      · rintro ⟨same,known⟩
        cases same
        simp [found] at known
    | some known =>
      simp only [found,bind,Except.bind,pure,Except.pure,Except.ok.injEq,Prod.mk.injEq]
      constructor
      · rintro ⟨rfl,rfl⟩
        exact ⟨rfl,found⟩
      · rintro ⟨rfl,same⟩
        exact ⟨rfl,Option.some.inj (found.symm.trans same)⟩

/-! Growth. -/

/-- Directories and files stay what they are. -/
structure Grows (t t' : FileTree) : Prop where
  start : t'.workingDirectory = t.workingDirectory
  directories : ∀ here, t.lookup here = some .directory → t'.lookup here = some .directory
  files : ∀ here content, t.lookup here = some (.file content) →
    ∃ after, t'.lookup here = some (.file after)

theorem Grows.refl (t : FileTree) : Grows t t := ⟨rfl,fun _ found => found,fun _ content found => ⟨content,found⟩⟩

theorem Grows.trans {t t' t'' : FileTree} (first : Grows t t') (second : Grows t' t'') : Grows t t'' where
  start := second.start.trans first.start
  directories := fun here found => second.directories here (first.directories here found)
  files := fun here content found => by
    obtain ⟨middle,found⟩ := first.files here content found
    exact second.files here middle found

theorem Grows.place {t t' : FileTree} (grows : Grows t t') (p : Path) : t'.place p = t.place p := by
  unfold FileTree.place
  rw [grows.start]

theorem Grows.foldlM {t t' : FileTree} (grows : Grows t t') (segments : List String) (start here : Location)
    (walked : segments.foldlM t.step start = .ok here) : segments.foldlM t'.step start = .ok here := by
  induction segments generalizing start with
  | nil => exact walked
  | cons segment rest ih =>
    rw [List.foldlM_cons] at walked ⊢
    obtain ⟨next,taken,walked⟩ := (bind_ok_iff ..).mp walked
    obtain ⟨directory,rfl⟩ := (t.step_ok_iff ..).mp taken
    have taken' := (t'.step_ok_iff start _ segment).mpr ⟨grows.directories start directory,rfl⟩
    exact (bind_ok_iff ..).mpr ⟨_,taken',ih _ walked⟩

theorem Grows.walk {t t' : FileTree} (grows : Grows t t') (p : Path) (here : Location)
    (walked : t.walk p = .ok here) : t'.walk p = .ok here := by
  unfold FileTree.walk at walked ⊢
  split at walked
  · cases walked
  · rename_i named
    rw [if_neg named,grows.start]
    exact grows.foldlM _ _ here walked

/-- A place holds what it held, unless a directory has appeared there. -/
def Spares (t t' : FileTree) (here : Location) : Prop :=
  t'.lookup here = t.lookup here ∨ t.lookup here = none ∧ t'.lookup here = some .directory

theorem Spares.refl (t : FileTree) (here : Location) : Spares t t here := .inl rfl

theorem Spares.trans {t t' t'' : FileTree} {here : Location} (first : Spares t t' here)
    (second : Spares t' t'' here) : Spares t t'' here := by
  rcases first with same | ⟨absent,appeared⟩
  · rcases second with same' | ⟨absent,appeared⟩
    · exact .inl (same'.trans same)
    · exact .inr ⟨same ▸ absent,appeared⟩
  · rcases second with same' | ⟨absent',_⟩
    · exact .inr ⟨absent,same'.trans appeared⟩
    · rw [appeared] at absent'
      cases absent'

theorem Spares.content {t t' : FileTree} {here : Location} (spares : Spares t t' here) :
    t'.content here = t.content here := by
  unfold FileTree.content
  rcases spares with same | ⟨absent,appeared⟩
  · rw [same]
  · rw [absent,appeared]

/-! Directories. -/

/-- Nothing has changed but that directories have appeared. -/
structure Extends (t t' : FileTree) : Prop where
  start : t'.workingDirectory = t.workingDirectory
  spares : ∀ here, Spares t t' here

theorem Extends.refl (t : FileTree) : Extends t t := ⟨rfl,.refl t⟩

theorem Extends.trans {t t' t'' : FileTree} (first : Extends t t') (second : Extends t' t'') :
    Extends t t'' :=
  ⟨second.start.trans first.start,fun here => (first.spares here).trans (second.spares here)⟩

theorem Extends.grows {t t' : FileTree} (extend : Extends t t') : Grows t t' where
  start := extend.start
  directories := fun here found => by
    rcases extend.spares here with same | ⟨absent,_⟩
    · rw [same,found]
    · rw [absent] at found
      cases found
  files := fun here content found => by
    rcases extend.spares here with same | ⟨absent,_⟩
    · exact ⟨content,by rw [same,found]⟩
    · rw [absent] at found
      cases found

theorem createDirectory_extends (t made : FileTree) (p : Path)
    (created : t.createDirectory p = .ok made) : Extends t made := by
  obtain ⟨here,_,created⟩ := (bind_ok_iff ..).mp created
  split at created
  · cases created
  · rename_i absent
    rw [Option.not_isSome_iff_eq_none] at absent
    have inner : here ≠ [] := fun root => by simp [root,lookup_root] at absent
    cases created
    refine ⟨rfl,fun other => ?_⟩
    unfold Spares
    rw [lookup_put t here other _ inner]
    by_cases same : other = here
    · exact .inr ⟨same ▸ absent,by simp [same]⟩
    · exact .inl (by simp [same])

/-- Creates the directory if it is missing. -/
def settle (t : FileTree) (p : Path) : FileTree × Except FileFault Unit :=
  match t.createDirectory p with
  | .ok made => (made,.ok ())
  | .error fault => (t,if t.isDirectory p then .ok () else .error fault)

theorem settle_extends (t : FileTree) (p : Path) : Extends t (t.settle p).1 := by
  unfold settle
  split
  · rename_i made created
    exact t.createDirectory_extends made p created
  · exact .refl t

theorem createAll_eq (t : FileTree) (absolute : Bool) (reversed : List String) :
    t.createAll absolute reversed =
      if (Path.ofSegments absolute reversed.reverse).text = "" then (t,.ok ())
      else match t.createDirectory (Path.ofSegments absolute reversed.reverse),reversed with
      | .error .notFound,_ :: above =>
        match t.createAll absolute (Path.dropSilent absolute above) with
        | (t,.ok ()) => t.settle (Path.ofSegments absolute reversed.reverse)
        | failed => failed
      | _,_ => t.settle (Path.ofSegments absolute reversed.reverse) := by
  rw [createAll.eq_def]
  rfl

theorem createAll_extends (t : FileTree) (absolute : Bool) (reversed : List String) :
    Extends t (t.createAll absolute reversed).1 := by
  cases reversed with
  | nil =>
    rw [createAll_eq]
    split
    · exact .refl t
    · split
      · contradiction
      · exact t.settle_extends _
  | cons segment above =>
    have higher := t.createAll_extends absolute (Path.dropSilent absolute above)
    rw [createAll_eq]
    split
    · exact .refl t
    · split
      · rename_i same
        obtain ⟨rfl,rfl⟩ := List.cons.inj same
        split
        · rename_i made outcome
          rw [outcome] at higher
          exact higher.trans (made.settle_extends _)
        · exact higher
      · exact t.settle_extends _
termination_by reversed.length
decreasing_by
  have := Path.dropSilent_length absolute above
  simp
  omega

theorem createDirectories_extends (t : FileTree) (p : Path) : Extends t (t.createDirectories p).1 :=
  t.createAll_extends _ _

/-- Nothing is created where a directory is. -/
theorem createDirectories_present (t : FileTree) (p : Path)
    (present : t.isDirectory (Path.ofSegments p.isAbsolute p.reversedSegments.reverse) = true) :
    t.createDirectories p = (t,.ok ()) := by
  have refused : t.createDirectory (Path.ofSegments p.isAbsolute p.reversedSegments.reverse) =
      .error .alreadyExists := by
    unfold isDirectory at present
    split at present
    · rename_i here found
      obtain ⟨walked,held⟩ := (t.find_ok_iff _ here _).mp found
      simp [createDirectory,walked,held,bind,Except.bind,throw,throwThe,MonadExceptOf.throw]
    · cases present
  unfold createDirectories
  rw [createAll_eq]
  split
  · rfl
  · simp only [refused,settle,present,if_true]

/-! Contents. -/

/-- A place that is no directory gets a content, and nothing else changes. -/
structure Stores (t t' : FileTree) (here : Location) (content : ByteArray) : Prop where
  start : t'.workingDirectory = t.workingDirectory
  free : t.lookup here ≠ some .directory
  held : t'.lookup here = some (.file content)
  others : ∀ other, other ≠ here → t'.lookup other = t.lookup other

theorem put_stores (t : FileTree) (here : Location) (content : ByteArray)
    (free : t.lookup here ≠ some .directory) : Stores t (t.put here (.file content)) here content := by
  have inner : here ≠ [] := fun root => free (by rw [root,lookup_root])
  refine ⟨rfl,free,?_,fun other apart => ?_⟩
  · rw [lookup_put t here here _ inner,if_pos rfl]
  · rw [lookup_put t here other _ inner,if_neg apart]

theorem Stores.grows {t t' : FileTree} {here : Location} {content : ByteArray}
    (stores : Stores t t' here content) : Grows t t' where
  start := stores.start
  directories := fun other found => by
    by_cases same : other = here
    · exact absurd (same ▸ found) stores.free
    · rw [stores.others other same,found]
  files := fun other before found => by
    by_cases same : other = here
    · exact ⟨content,same ▸ stores.held⟩
    · exact ⟨before,by rw [stores.others other same,found]⟩

theorem slot_ok (t : FileTree) (p : Path) (here : Location) (slot : t.slot p = .ok here) :
    t.walk p = .ok here ∧ t.lookup here ≠ some .directory := by
  unfold FileTree.slot at slot
  split at slot
  · split at slot <;> cases slot
  · cases slot
  · rename_i there walked
    split at slot
    · cases slot
    · rename_i free
      cases slot
      exact ⟨walked,free⟩

theorem write_stores (t t' : FileTree) (p : Path) (content : ByteArray)
    (written : t.write p content = .ok t') :
    t.walk p = .ok (t.place p) ∧ Stores t t' (t.place p) content := by
  obtain ⟨here,slot,written⟩ := (bind_ok_iff ..).mp written
  cases written
  obtain ⟨walked,free⟩ := t.slot_ok p here slot
  obtain rfl := t.walk_ok p here walked
  exact ⟨walked,t.put_stores _ content free⟩

/-- A copy arrives as it is, unless it goes where it comes from. -/
theorem copy_stores (t t' : FileTree) (source destination : Path)
    (copied : t.copy source destination = .ok t') :
    ∃ content, t.lookup (t.place source) = some (.file content) ∧
      t.walk destination = .ok (t.place destination) ∧
      Stores t t' (t.place destination)
        (if t.place destination = t.place source then .empty else content) := by
  obtain ⟨⟨origin,entry⟩,found,copied⟩ := (bind_ok_iff ..).mp copied
  cases entry with
  | directory => cases copied
  | file content =>
    obtain ⟨reached,held⟩ := (t.find_ok_iff source origin _).mp found
    obtain rfl := t.walk_ok source origin reached
    obtain ⟨target,slot,copied⟩ := (bind_ok_iff ..).mp copied
    cases copied
    obtain ⟨walked,free⟩ := t.slot_ok destination target slot
    obtain rfl := t.walk_ok destination target walked
    exact ⟨content,held,walked,t.put_stores _ _ free⟩

/-! Reading. -/

theorem isFile_iff (t : FileTree) (p : Path) : t.isFile p = true ↔
    ∃ here content, t.walk p = .ok here ∧ t.lookup here = some (.file content) := by
  have found (here : Location) (entry : Entry) := t.find_ok_iff p here entry
  unfold isFile
  constructor
  · intro file
    split at file
    · rename_i here content same
      exact ⟨here,content,(found here _).mp same⟩
    · cases file
  · rintro ⟨here,content,walked,held⟩
    rw [(found here _).mpr ⟨walked,held⟩]

theorem Grows.isFile {t t' : FileTree} (grows : Grows t t') (p : Path) (file : t.isFile p = true) :
    t'.isFile p = true := by
  obtain ⟨here,content,walked,held⟩ := (t.isFile_iff p).mp file
  obtain ⟨after,held⟩ := grows.files here content held
  exact (t'.isFile_iff p).mpr ⟨here,after,grows.walk p here walked,held⟩

/-- Reading a file gives what its place holds. -/
theorem read_ok_iff (t : FileTree) (p : Path) (file : t.isFile p = true) (content : ByteArray) :
    t.read p = .ok content ↔ t.content (t.place p) = some content := by
  obtain ⟨here,held,walked,stored⟩ := (t.isFile_iff p).mp file
  have found := (t.find_ok_iff p here _).mpr ⟨walked,stored⟩
  obtain rfl := t.walk_ok p here walked
  simp [FileTree.read,FileTree.content,found,stored,bind,Except.bind,pure,Except.pure]

theorem read_of_isFile (t : FileTree) (p : Path) (file : t.isFile p = true) :
    ∃ content, t.read p = .ok content := by
  obtain ⟨here,content,walked,held⟩ := (t.isFile_iff p).mp file
  obtain rfl := t.walk_ok p here walked
  exact ⟨content,(t.read_ok_iff p file content).mpr (by rw [FileTree.content,held])⟩

theorem read_eq_of_content {t t' : FileTree} {p q : Path} (file : t.isFile p = true)
    (file' : t'.isFile q = true) (same : t'.content (t'.place q) = t.content (t.place p)) :
    t'.read q = t.read p := by
  obtain ⟨content,read⟩ := t.read_of_isFile p file
  have held := (t.read_ok_iff p file content).mp read
  rw [read]
  exact (t'.read_ok_iff q file' content).mpr (same.trans held)

theorem isFile_of_readText (t : FileTree) (p : Path) (text : String) (read : t.readText p = .ok text) :
    t.isFile p = true := by
  obtain ⟨content,read,_⟩ := (bind_ok_iff ..).mp read
  obtain ⟨⟨here,entry⟩,found,read⟩ := (bind_ok_iff ..).mp read
  cases entry with
  | directory => cases read
  | file content => rw [isFile,found]

end ReferenceSite.FileTree
