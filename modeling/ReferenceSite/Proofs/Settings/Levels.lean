import ReferenceSite.Proofs.Settings.Layering

/-! The levels of headings that get an anchor. Layers put values behind keys, one after the other, and the last
integer that is written for a level is the level that is loaded, or nothing is: an integer that is no level
is refused and never becomes another level. All other layers, keys and values are arbitrary. -/
namespace ReferenceSite
open ReferenceSite.Settings

namespace Settings

def Value.assign (whole : Value) (a : Assignment) : Value := a.2.place a.1 whole

namespace Layer

/-- What a file puts into a configuration, in its order. -/
def assignmentsOf : Except Fault (String × Toml.Entries) → List Assignment
  | .ok (origin,entries) => entries.map fun (name,v) => ((Key.read? name).getD [.name name],.ofToml origin v)
  | .error _ => []

def fileAssignments (t : FileTree) : Layer → List Assignment
  | .file name => assignmentsOf (readFile t name)
  | .setting .. => []

/-- All that layers put, in the order in which it counts: single settings come over all files, the last
of each key. -/
def assignments (t : FileTree) (layers : List Layer) : List Assignment :=
  layers.flatMap (fileAssignments t) ++ byKey (layers.flatMap settingAssignments)

theorem addFile_assignments (t : FileTree) (whole next : Value) (layer : Layer)
    (step : addFile t whole layer = .ok next) : next = (layer.fileAssignments t).foldl Value.assign whole := by
  cases layer with
  | setting text v =>
    cases step
    rfl
  | file name =>
    obtain ⟨⟨origin,entries⟩,read,step⟩ := (bind_ok_iff ..).mp step
    cases step
    rw [fileAssignments,read,assignmentsOf,List.foldl_map]
    rfl

theorem addFiles_assignments (t : FileTree) (layers : List Layer) (whole merged : Value)
    (run : layers.foldlM (addFile t) whole = .ok merged) :
    merged = (layers.flatMap (fileAssignments t)).foldl Value.assign whole := by
  induction layers generalizing whole with
  | nil =>
    cases run
    rfl
  | cons layer layers ih =>
    rw [List.foldlM_cons] at run
    obtain ⟨next,step,run⟩ := (bind_ok_iff ..).mp run
    rw [List.flatMap_cons,List.foldl_append,← addFile_assignments t whole next layer step]
    exact ih next run

theorem merge_assignments (t : FileTree) (whole merged : Value) (layers : List Layer)
    (run : merge t whole layers = .ok merged) : merged = (assignments t layers).foldl Value.assign whole := by
  obtain ⟨settings,listed,run⟩ := (bind_ok_iff ..).mp run
  obtain ⟨files,filled,run⟩ := (bind_ok_iff ..).mp run
  cases run
  rw [assignments,List.foldl_append,← addFiles_assignments t layers whole files filled,
    ← settings_assignments layers settings listed]
  rfl

end Layer

/-! Names do not depend on case, and a table that is merged changes only the names that it has. -/

theorem Value.get?_lower (v : Value) (name other : String) (same : lowerName name = lowerName other) :
    v.get? name = v.get? other := by
  unfold get?
  rw [same]

theorem Value.mergeEntries_append (target : Value) (front behind : List (String × Value)) :
    mergeEntries target (front ++ behind) = mergeEntries (mergeEntries target front) behind := by
  induction front generalizing target with
  | nil => rw [List.nil_append,mergeEntries]
  | cons entry front ih =>
    obtain ⟨name,v⟩ := entry
    rw [List.cons_append,mergeEntries,mergeEntries,ih]

theorem Value.get?_mergeEntries_other (target : Value) (entries : List (String × Value)) (name : String)
    (others : ∀ entry ∈ entries, lowerName entry.1 ≠ lowerName name) :
    (mergeEntries target entries).get? name = target.get? name := by
  induction entries generalizing target with
  | nil => rw [mergeEntries]
  | cons entry entries ih =>
    obtain ⟨first,later⟩ := List.forall_mem_cons.mp others
    obtain ⟨other,v⟩ := entry
    rw [mergeEntries,ih _ later,get?_put,if_neg fun same => first same.symm]

theorem Value.get?_place_other (incoming v : Value) (name other : String) (rest : Key)
    (apart : lowerName name ≠ lowerName other) :
    (incoming.place (.name name :: rest) v).get? other = v.get? other := by
  cases rest with
  | nil => rw [place_name,get?_put,if_neg apart.symm]
  | cons step rest =>
    rw [place,get?_put,if_neg apart.symm]
    exact List.cons_ne_nil _ _

end Settings

namespace Setting

/-- What a configuration has for the setting under its key. -/
def entryIn (c : Setting) (whole : Value) : Option Value := (c.groupIn whole).get? c.name

/-- An integer is put behind the key of the setting, alone or with others of its group. -/
inductive Gives (c : Setting) (n : Int) : Assignment → Prop
  | alone (g name : String) (origin : Option String) (grouped : Value.lowerName g = c.group.name)
      (named : Value.lowerName name = c.name) : Gives c n ([.name g,.name name],.scalar (.integer n) origin)
  | together (g name : String) (front behind : List (String × Value)) (own origin : Option String)
      (grouped : Value.lowerName g = c.group.name) (named : Value.lowerName name = c.name)
      (last : ∀ entry ∈ behind, Value.lowerName entry.1 ≠ c.name) :
      Gives c n ([.name g],.table (front ++ (name,.scalar (.integer n) own) :: behind) origin)

/-- A value is put elsewhere: into another group, behind another name, or a table without the name. -/
inductive Spares (c : Setting) : Assignment → Prop
  | group (g : String) (rest : Key) (v : Value) (other : Value.lowerName g ≠ c.group.name) :
      Spares c (.name g :: rest,v)
  | name (g name : String) (rest : Key) (v : Value) (other : Value.lowerName name ≠ c.name) :
      Spares c (.name g :: .name name :: rest,v)
  | table (g : String) (entries : List (String × Value)) (origin : Option String)
      (others : ∀ entry ∈ entries, Value.lowerName entry.1 ≠ c.name) :
      Spares c ([.name g],.table entries origin)

/-- The last that layers write for the setting is this integer. -/
def Written (c : Setting) (t : FileTree) (layers : List Layer) (n : Int) : Prop :=
  ∃ before a behind, Layer.assignments t layers = before ++ a :: behind ∧ c.Gives n a ∧
    ∀ later ∈ behind, c.Spares later

theorem entryIn_put (c : Setting) (whole v : Value) (g : String) :
    c.entryIn (whole.put g v) = if Value.lowerName g = c.group.name then v.get? c.name else c.entryIn whole := by
  rw [entryIn,groupIn_put]
  exact apply_ite (Value.get? · c.name) _ _ _

theorem lowerName_ne (c : Setting) {name : String} (other : Value.lowerName name ≠ c.name) :
    Value.lowerName name ≠ Value.lowerName c.name := by rwa [c.lowerName_name]

theorem entryIn_same (c : Setting) (whole : Value) (g : String) (grouped : Value.lowerName g = c.group.name) :
    c.entryIn whole = ((whole.get? g).getD .null).get? c.name := by
  rw [entryIn,groupIn,whole.get?_lower g c.group.name (grouped.trans c.lowerName_group.symm)]

theorem entryIn_merged (c : Setting) (whole : Value) (g : String) (entries : List (String × Value))
    (origin : Option String) (grouped : Value.lowerName g = c.group.name) :
    c.entryIn (whole.assign ([.name g],.table entries origin)) =
      (Value.mergeEntries ((whole.get? g).getD .emptyTable) entries).get? c.name := by
  rw [Value.assign,Value.place_name,entryIn_put,if_pos grouped,Value.mergedInto]

theorem entryIn_spared (c : Setting) (whole : Value) (a : Assignment) (spares : c.Spares a) :
    c.entryIn (whole.assign a) = c.entryIn whole := by
  have elsewhere (g : String) (rest : Key) (v : Value) (other : Value.lowerName g ≠ c.group.name) :
      c.entryIn (whole.assign (.name g :: rest,v)) = c.entryIn whole := by
    have apart : Value.lowerName g ≠ Value.lowerName c.group.name := by rwa [c.lowerName_group]
    rw [entryIn,groupIn,Value.assign,Value.get?_place_other _ _ _ _ _ apart]
    rfl
  cases spares with
  | group g rest v other => exact elsewhere g rest v other
  | name g name rest v other =>
    by_cases grouped : Value.lowerName g = c.group.name
    · -- In the group of the setting the key goes on to another name, so only the group is opened.
      have stepped : whole.assign (.name g :: .name name :: rest,v) =
          whole.put g (v.place (.name name :: rest) ((whole.get? g).getD .null)) := by
        rw [Value.assign,Value.place]
        exact List.cons_ne_nil _ _
      rw [stepped,entryIn_put,if_pos grouped,Value.get?_place_other _ _ _ _ _ (c.lowerName_ne other),
        c.entryIn_same whole g grouped]
    · exact elsewhere g (.name name :: rest) v grouped
  | table g entries origin others =>
    by_cases grouped : Value.lowerName g = c.group.name
    · rw [entryIn_merged c whole g entries origin grouped,
        Value.get?_mergeEntries_other _ _ _ fun entry member => c.lowerName_ne (others entry member),
        c.entryIn_same whole g grouped]
      cases whole.get? g <;> rfl
    · exact elsewhere g [] _ grouped

theorem entryIn_given (c : Setting) (whole : Value) (n : Int) (a : Assignment) (gives : c.Gives n a) :
    ∃ origin, c.entryIn (whole.assign a) = some (.scalar (.integer n) origin) := by
  cases gives with
  | alone g name origin grouped named =>
    refine ⟨origin,?_⟩
    rw [Value.assign,Value.place_pair _ _ _ _ rfl,entryIn_put,if_pos grouped,Value.get?_put,
      if_pos (c.lowerName_name.trans named.symm)]
  | together g name front behind own origin grouped named last =>
    refine ⟨own,?_⟩
    rw [entryIn_merged c whole g _ origin grouped,Value.mergeEntries_append,Value.mergeEntries,
      Value.get?_mergeEntries_other _ _ _ fun entry member => c.lowerName_ne (last entry member),
      Value.get?_put,if_pos (c.lowerName_name.trans named.symm),Value.mergedInto_other _ _ rfl]

/-- The integer that is written last stands in the merged configuration. -/
theorem entryIn_written (c : Setting) (t : FileTree) (layers : List Layer) (n : Int) (whole merged : Value)
    (written : c.Written t layers n) (run : Layer.merge t whole layers = .ok merged) :
    ∃ origin, c.entryIn merged = some (.scalar (.integer n) origin) := by
  obtain ⟨before,a,behind,listed,gives,spares⟩ := written
  rw [Layer.merge_assignments t whole merged layers run,listed,List.foldl_append,List.foldl_cons]
  clear listed
  obtain ⟨origin,given⟩ := c.entryIn_given (before.foldl Value.assign whole) n a gives
  refine ⟨origin,?_⟩
  rw [← given]
  -- It stands there now, whatever came before it, and each assignment behind it leaves it there.
  generalize (before.foldl Value.assign whole).assign a = reached
  induction behind generalizing reached with
  | nil => rfl
  | cons b behind ih =>
    obtain ⟨first,later⟩ := List.forall_mem_cons.mp spares
    rw [List.foldl_cons,ih later,c.entryIn_spared reached b first]

/-- Whether it is the first or the last level of those that get an anchor. -/
def IsLevel (c : Setting) : Prop := c = .firstLevel ∨ c = .lastLevel

/-- The level of a range that the setting is for. -/
def levelIn (c : Setting) (levels : Nat × Nat) : Nat := if c = .lastLevel then levels.2 else levels.1

theorem held_level (c : Setting) (level : c.IsLevel) (s : Settings) : c.held s = .ofLevel (c.levelIn s.levels) := by
  rcases level with rfl | rfl <;> rfl

theorem IsLevel.kind {c : Setting} (level : c.IsLevel) : c.kind = .level := by rcases level with rfl | rfl <;> rfl

theorem read_ofLevel (key : String) (n : Nat) (small : n < 256) :
    Kind.level.read key (.ofLevel n) = .ok (.ofLevel n) := by
  refine (map_ok_iff ..).mpr ⟨n,?_,rfl⟩
  dsimp only [Value.ofLevel,Value.level]
  rw [if_neg (by omega),Value.boundedLevel,Int.toNat_natCast,if_pos small]

/-- An integer that stands for a level is read as it is, if it is read. -/
theorem levelIn_read (c : Setting) (level : c.IsLevel) (whole : Value) (s : Settings) (n : Int)
    (origin : Option String) (found : c.entryIn whole = some (.scalar (.integer n) origin))
    (loaded : Settings.ofValue whole = .ok s) : (c.levelIn s.levels : Int) = n ∧ c.levelIn s.levels < 256 := by
  obtain ⟨entry,key,member,read⟩ := ofValue_reads whole s loaded c
  cases (get?_member found c.place).symm.trans member
  rw [level.kind,c.held_level level] at read
  obtain ⟨m,own,same⟩ := (map_ok_iff ..).mp read
  obtain ⟨whole,small⟩ := level_integer n origin key m own
  cases same
  exact ⟨whole.symm,small⟩

/-- The settings with another level. -/
def withLevel (c : Setting) (n : Nat) (s : Settings) : Settings :=
  { s with levels := if c = .lastLevel then (s.levels.1,n) else (n,s.levels.2) }

theorem held_withLevel (c : Setting) (level : c.IsLevel) (n : Nat) (s : Settings) (other : Setting) :
    other.held (c.withLevel n s) = if other = c then .ofLevel n else other.held s := by
  rcases level with rfl | rfl <;> cases other <;> rfl

theorem entryIn_values (c : Setting) (v : Setting → Value) : c.entryIn (written v) = some (v c) := by
  obtain ⟨entries,grouped,entry⟩ := written_group v c
  rw [entryIn,groupIn,grouped,Option.getD_some,entry]

/-- A setting of its own, over the defaults, is taken if it is a level, and only then. -/
theorem level_alone_iff (t : FileTree) (c : Setting) (level : c.IsLevel) (n : Int) :
    (∃ s, Settings.load t [.setting c.key (.ofLevel n)] = .ok s) ↔ 0 ≤ n ∧ n ≤ 255 := by
  have merged : Layer.merge t Settings.standard.toValue [.setting c.key (.ofLevel n)] =
      .ok (written fun other => if other = c then .ofLevel n else other.held .standard) := by
    simp only [Layer.merge,written_standard,List.mapM_cons,List.mapM_nil,List.foldlM_cons,List.foldlM_nil,
      Layer.setting?,Layer.addFile,read?_key,bind,Except.bind,pure,Except.pure]
    rw [← written_override (fun other => other.held .standard) c (.ofLevel n) rfl]
    rfl
  constructor
  · rintro ⟨s,loaded⟩
    obtain ⟨whole,run,valued⟩ := (bind_ok_iff ..).mp loaded
    cases merged.symm.trans run
    have read := c.levelIn_read level _ s n none ((c.entryIn_values _).trans (congrArg some (if_pos rfl))) valued
    omega
  · intro inside
    obtain ⟨m,rfl⟩ := Int.eq_ofNat_of_zero_le inside.1
    refine ⟨c.withLevel m .standard,(bind_ok_iff ..).mpr ⟨_,merged,ofValue_written _ _ fun other key => ?_⟩⟩
    rw [c.held_withLevel level]
    split
    · rename_i same
      rw [same,level.kind]
      exact read_ofLevel key m (by omega)
    · cases other <;> rfl

end Setting

/-- Whatever else is written, the integer that is written last for a level is the level of the range, or
nothing is loaded. Nothing is loaded if it is below 0 or above 255, and any other is taken where it is
written alone. -/
theorem Settings.load_level (t : FileTree) (layers : List Layer) (c : Setting) (level : c.IsLevel) (n : Int)
    (written : c.Written t layers n) :
    (∀ s, Settings.load t layers = .ok s →
      c.held s = .ofLevel n ∧ ∀ document, c.levelIn (s.renderContext document).levels = n) ∧
    (n < 0 ∨ 255 < n → ∃ fault, Settings.load t layers = .error fault) ∧
    ((∃ s, Settings.load t [.setting c.key (.ofLevel n)] = .ok s) ↔ 0 ≤ n ∧ n ≤ 255) := by
  have read (s : Settings) (loaded : Settings.load t layers = .ok s) :
      (c.levelIn s.levels : Int) = n ∧ c.levelIn s.levels < 256 := by
    obtain ⟨whole,merged,valued⟩ := (bind_ok_iff ..).mp loaded
    obtain ⟨origin,found⟩ := c.entryIn_written t layers n _ whole written merged
    exact c.levelIn_read level whole s n origin found valued
  refine ⟨fun s loaded => ?_,fun outside => ?_,c.level_alone_iff t level n⟩
  · have same := (read s loaded).1
    exact ⟨(c.held_level level s).trans (congrArg Value.ofLevel same),fun _ => same⟩
  · cases loaded : Settings.load t layers with
    | error fault => exact ⟨fault,rfl⟩
    | ok s =>
      have inside := read s loaded
      omega

/-! A file with a last level that is too large, below a setting of the first level. -/

def oversized : FileTree := ⟨[],[(["a.toml"],.file "[headings]\nanchor_max_level=256".toUTF8)]⟩

private theorem oversized_read :
    readFile oversized "a.toml" = .ok ("a.toml",Setting.lastLevel.alone .headed (.integer 256)) :=
  readFile_root oversized "a.toml" _ _ rfl (by decide) (by decide) (by decide) rfl
    (by with_unfolding_all rfl) (by with_unfolding_all rfl)

theorem Setting.written_setting (t : FileTree) (c : Setting) (n : Int) :
    c.Written t [.setting c.key (.ofLevel n)] n := by
  refine ⟨[],([.name c.group.name,.name c.name],.ofLevel n),[],?_,
    .alone _ _ none c.lowerName_group c.lowerName_name,nofun⟩
  rw [Layer.assignments,List.flatMap_singleton,List.flatMap_singleton,Layer.settingAssignments,c.read?_key]
  rfl

theorem level_taken_or_refused :
    (Setting.firstLevel.Written oversized [.setting Setting.firstLevel.key (.ofLevel 255)] 255 ∧
      ∃ s, Settings.load oversized [.setting Setting.firstLevel.key (.ofLevel 255)] = .ok s ∧
        s.levels.1 = 255) ∧
    Setting.lastLevel.Written oversized [.file "a.toml",.setting Setting.firstLevel.key (.ofLevel 4)] 256 ∧
      ∃ fault, Settings.load oversized [.file "a.toml",.setting Setting.firstLevel.key (.ofLevel 4)] =
        .error fault := by
  have taken := Setting.firstLevel.written_setting oversized 255
  have highest := Settings.load_level oversized _ .firstLevel (.inl rfl) 255 taken
  obtain ⟨s,loaded⟩ := highest.2.2.mpr (by decide)
  have same := (highest.1 s loaded).2 ⟨"a.md"⟩
  have refused : Setting.lastLevel.Written oversized
      [.file "a.toml",.setting Setting.firstLevel.key (.ofLevel 4)] 256 := by
    refine ⟨[],([.name "headings"],.table [("anchor_max_level",.scalar (.integer 256) "a.toml")] "a.toml"),
      [([.name "headings",.name "anchor_min_level"],.ofLevel 4)],?_,
      .together "headings" "anchor_max_level" [] [] "a.toml" "a.toml" Setting.lastLevel.lowerName_group
        Setting.lastLevel.lowerName_name nofun,?_⟩
    · rw [Layer.assignments]
      simp only [List.flatMap_cons,List.flatMap_nil,Layer.fileAssignments,Layer.settingAssignments,oversized_read,
        Layer.assignmentsOf,Setting.alone,List.map_cons,List.map_nil,Setting.read?_key]
      rw [Key.read?_single _ Setting.lastLevel.group_single.2]
      rfl
    · intro later member
      obtain rfl := List.mem_singleton.mp member
      exact .name _ _ [] _ fun same =>
        absurd (Setting.firstLevel.lowerName_name.symm.trans same) (by decide)
  exact ⟨⟨taken,s,loaded,Int.ofNat.inj same⟩,refused,
    (Settings.load_level oversized _ .lastLevel (.inr rfl) 256 refused).2.1 (.inr (by decide))⟩

end ReferenceSite
