import ReferenceSite.Proofs.Settings.Reading

/-! Which layer decides a setting. The settings are decided one by one: by the last layer that sets
the setting itself, else by the last file that has a value for it, else by the defaults. -/
namespace ReferenceSite
open ReferenceSite.Settings

/-! What layers say about a setting: a file among the entries of its group, by name in a table and by
place in a list, and any other layer by its key. -/

def Toml.Value.isTable : Toml.Value → Bool
  | .table .. => true
  | _ => false

namespace Setting

/-- The value that an entry of a group is for the setting. A table in the place of a value is none. -/
def named? (c : Setting) (entry : String × Toml.Value) : Option Toml.Value :=
  if entry.1 = c.name ∧ entry.2.isTable = false then some entry.2 else none

def valuesIn (c : Setting) : Toml.Value → List Toml.Value
  | .table _ entries => entries.filterMap c.named?
  | .array items => items[c.place]?.toList
  | .tables latestFirst => latestFirst.reverse[c.place]?.toList
  | _ => []

def given (c : Setting) (entries : Toml.Entries) : List Toml.Value :=
  entries.flatMap fun entry => if entry.1 = c.group.name then c.valuesIn entry.2 else []

def fromFile (c : Setting) : Except Settings.Fault (String × Toml.Entries) → List Value
  | .ok (origin,entries) => (c.given entries).map (.ofToml origin)
  | .error _ => []

/-- The values that a layer has for the setting if it is a file. -/
def filed (c : Setting) (t : FileTree) : Layer → List Value
  | .file name => c.fromFile (readFile t name)
  | .setting .. => []

def override? (c : Setting) : Layer → Option Value
  | .file _ => none
  | .setting key v => if key = c.key then some v else none

def path (c : Setting) : Key := [.name c.group.name,.name c.name]

theorem path_injective (c other : Setting) (same : c.path = other.path) : c = other := by
  cases c <;> cases other <;> first | rfl | exact absurd same (by decide)

end Setting

namespace Settings

/-- A value and the key behind which it is put. -/
abbrev Assignment := Key × Value

namespace Layer

def settingAssignments : Layer → List Assignment
  | .file _ => []
  | .setting text v => (Key.read? text).toList.map (·,v)

theorem settings_assignments (layers : List Layer) (settings : List (Option Assignment))
    (run : layers.mapM setting? = .ok settings) : settings.filterMap id = layers.flatMap settingAssignments := by
  have related := (mapM_ok_iff ..).mp run
  clear run
  induction related with
  | nil => rfl
  | @cons layer first layers more step _ ih =>
    rw [List.flatMap_cons,← ih]
    cases layer with
    | file name =>
      cases step
      rfl
    | setting text v =>
      rw [setting?] at step
      cases read : Key.read? text with
      | none =>
        rw [read] at step
        cases step
      | some key =>
        rw [read] at step
        cases step
        rw [settingAssignments,read]
        rfl

end Layer
end Settings

def Setting.assigned? (c : Setting) (a : Assignment) : Option Value := if a.1 = c.path then some a.2 else none

/-- Lower case, and no key of several steps. -/
def IsSingleName (name : String) : Prop :=
  Value.lowerName name = name ∧ ∀ c ∈ name.toList, c ≠ '.' ∧ c ≠ '['

def Toml.Value.names : Toml.Value → List String
  | .table _ entries => entries.map (·.1)
  | _ => []

/-- A file with names in lower case, those of groups being single names, or a value that fits one of
the settings. -/
def Settings.Layer.Documented (t : FileTree) : Layer → Prop
  | .file name => ∀ origin entries, readFile t name = .ok (origin,entries) →
    ∀ entry ∈ entries, IsSingleName entry.1 ∧ ∀ inner ∈ entry.2.names, Value.lowerName inner = inner
  | .setting key v => ∃ c : Setting, key = c.key ∧ c.kind.Fits v

namespace Settings.Value

theorem ofTomlItems_eq (origin : String) (items : List Toml.Value) :
    ofTomlItems origin items = items.map (ofToml origin) := by
  induction items with
  | nil => rw [ofTomlItems,List.map_nil]
  | cons v items ih => rw [ofTomlItems,ih,List.map_cons]

theorem ofToml_isTable (origin : String) (v : Toml.Value) : (ofToml origin v).isTable = v.isTable := by
  cases v <;> rw [ofToml] <;> rfl

end Settings.Value

namespace Setting

/-- Nothing else can be read from the group for the setting. -/
def HasOnly (c : Setting) (g v : Value) : Prop :=
  ∀ entry, g.member? c.place c.name = some entry → entry = v ∨ entry.isTable = true

theorem member?_put (c : Setting) (g entry : Value) (name : String) (lower : Value.lowerName name = name) :
    (g.put name entry).member? c.place c.name = if name = c.name then some entry else g.get? c.name := by
  rw [member?_table (Value.put_isTable g name entry),Value.get?_put,lowerName_name,lower]
  by_cases same : name = c.name
  · rw [if_pos same,if_pos same.symm]
  · rw [if_neg same,if_neg fun equal => same equal.symm]

theorem HasOnly.put {c : Setting} {g v : Value} (has : c.HasOnly g v) (origin : String)
    (entry : String × Toml.Value) (lower : Value.lowerName entry.1 = entry.1) :
    c.HasOnly (g.put entry.1 ((Value.ofToml origin entry.2).mergedInto (g.get? entry.1)))
      (((c.named? entry).map (Value.ofToml origin)).getD v) := by
  intro found member
  rw [member?_put c g _ entry.1 lower] at member
  by_cases here : entry.1 = c.name
  · rw [if_pos here] at member
    obtain rfl := Option.some.inj member
    cases table : entry.2.isTable with
    | false =>
      left
      rw [Value.mergedInto_other _ _ ((Value.ofToml_isTable origin entry.2).trans table)]
      simp [named?,here,table]
    | true =>
      have next : (((c.named? entry).map (Value.ofToml origin)).getD v) = v := by simp [named?,here,table]
      rw [next]
      obtain ⟨standing,inner,written⟩ : ∃ standing inner, entry.2 = .table standing inner := by
        cases shape : entry.2 with
        | table standing inner => exact ⟨standing,inner,rfl⟩
        | _ => rw [shape] at table; cases table
      rw [written,Value.ofToml]
      -- A table without entries leaves what it meets, which may be no table.
      rcases Value.mergedInto_table (g.get? entry.1) (Value.ofTomlEntries origin inner) (some origin) with
        kept | merged
      · rw [here] at kept
        rw [here]
        exact has _ (get?_member kept c.place)
      · exact .inr merged
  · rw [if_neg here] at member
    have same := has found (get?_member member c.place)
    simpa [named?,here] using same

def latest (values : List Value) (v : Value) : Value := values.getLast?.getD v

theorem latest_append (first second : List Value) (v : Value) :
    latest (first ++ second) v = latest second (latest first v) := by
  rw [latest,List.getLast?_append]
  cases last : second.getLast? <;> simp [latest,last]

theorem latest_cons (w : Value) (values : List Value) (v : Value) : latest (w :: values) v = latest values w := by
  rw [latest,List.getLast?_cons]
  rfl

theorem HasOnly.merge {c : Setting} {g v : Value} (has : c.HasOnly g v) (origin : String)
    (inner : List (String × Toml.Value)) (lower : ∀ name ∈ inner.map (·.1), Value.lowerName name = name) :
    c.HasOnly (g.mergeEntries (Value.ofTomlEntries origin inner))
      (latest ((inner.filterMap c.named?).map (Value.ofToml origin)) v) := by
  induction inner generalizing g v with
  | nil =>
    rw [Value.ofTomlEntries,Value.mergeEntries]
    exact has
  | cons entry inner ih =>
    obtain ⟨own,later⟩ := List.forall_mem_cons.mp lower
    obtain ⟨name,tv⟩ := entry
    rw [Value.ofTomlEntries,Value.mergeEntries]
    have rest := ih (has.put origin (name,tv) own) later
    rw [List.filterMap_cons]
    cases named : c.named? (name,tv) with
    | none =>
      rw [named] at rest
      exact rest
    | some w =>
      rw [named] at rest
      dsimp only
      rw [List.map_cons,latest_cons]
      exact rest

theorem hasOnly_list (c : Setting) (items : List Toml.Value) (origin : String) (v : Value) :
    c.HasOnly (.list (Value.ofTomlItems origin items) origin)
      (latest (items[c.place]?.toList.map (Value.ofToml origin)) v) := by
  intro entry member
  rw [Value.ofTomlItems_eq] at member
  left
  have there : (items.map (Value.ofToml origin))[c.place]? = some entry := member
  rw [List.getElem?_map] at there
  obtain ⟨item,found,rfl⟩ := Option.map_eq_some_iff.mp there
  rw [found]
  rfl

theorem HasOnly.group {c : Setting} {v : Value} {existing : Option Value}
    (has : c.HasOnly (existing.getD .null) v) (origin : String) (tv : Toml.Value)
    (lower : ∀ name ∈ tv.names, Value.lowerName name = name) :
    c.HasOnly ((Value.ofToml origin tv).mergedInto existing)
      (latest ((c.valuesIn tv).map (Value.ofToml origin)) v) := by
  cases tv with
  | table standing inner =>
    rw [Value.ofToml,Value.mergedInto]
    have start : c.HasOnly (existing.getD .emptyTable) v := by
      cases existing with
      | none => exact fun entry member => by cases member
      | some g => exact has
    exact start.merge origin inner lower
  | array items =>
    rw [Value.mergedInto_other _ _ (Value.ofToml_isTable origin _),Value.ofToml]
    exact c.hasOnly_list items origin v
  | tables latestFirst =>
    rw [Value.mergedInto_other _ _ (Value.ofToml_isTable origin _),Value.ofToml]
    have reversed := c.hasOnly_list latestFirst.reverse origin v
    rw [Value.ofTomlItems_eq,List.map_reverse,← Value.ofTomlItems_eq] at reversed
    exact reversed
  | _ =>
    rw [Value.mergedInto_other _ _ (Value.ofToml_isTable origin _),Value.ofToml]
    exact fun entry member => by cases member

theorem groupIn_put (c : Setting) (whole g : Value) (name : String) :
    c.groupIn (whole.put name g) = if Value.lowerName name = c.group.name then g else c.groupIn whole := by
  rw [groupIn,Value.get?_put,lowerName_group]
  by_cases same : Value.lowerName name = c.group.name
  · rw [if_pos same,if_pos same.symm]
    rfl
  · rw [if_neg same,if_neg fun equal => same equal.symm]
    rfl

theorem HasOnly.entry {c : Setting} {whole v : Value} (has : c.HasOnly (c.groupIn whole) v)
    (origin : String) (entry : String × Toml.Value) (single : IsSingleName entry.1)
    (lower : ∀ name ∈ entry.2.names, Value.lowerName name = name) :
    c.HasOnly (c.groupIn ((Value.ofToml origin entry.2).place
        ((Key.read? entry.1).getD [.name entry.1]) whole))
      (latest ((if entry.1 = c.group.name then c.valuesIn entry.2 else []).map (Value.ofToml origin)) v) := by
  rw [Key.read?_single entry.1 single.2,Value.place_name,groupIn_put,single.1]
  by_cases here : entry.1 = c.group.name
  · rw [if_pos here,if_pos here,here]
    exact has.group origin entry.2 lower
  · rw [if_neg here,if_neg here]
    exact has

theorem HasOnly.file {c : Setting} {whole v : Value} (has : c.HasOnly (c.groupIn whole) v)
    (origin : String) (entries : Toml.Entries)
    (documented : ∀ entry ∈ entries, IsSingleName entry.1 ∧
      ∀ name ∈ entry.2.names, Value.lowerName name = name) :
    c.HasOnly (c.groupIn (whole.addEntries origin entries))
      (latest ((c.given entries).map (Value.ofToml origin)) v) := by
  induction entries generalizing whole v with
  | nil => exact has
  | cons entry entries ih =>
    obtain ⟨⟨single,lower⟩,later⟩ := List.forall_mem_cons.mp documented
    rw [given,List.flatMap_cons,List.map_append,latest_append]
    exact ih (has.entry origin entry single lower) later

theorem HasOnly.files {c : Setting} {t : FileTree} {whole merged v : Value}
    (has : c.HasOnly (c.groupIn whole) v) (layers : List Layer)
    (documented : ∀ layer ∈ layers, layer.Documented t)
    (run : layers.foldlM (Layer.addFile t) whole = .ok merged) :
    c.HasOnly (c.groupIn merged) (latest (layers.flatMap (c.filed t)) v) := by
  induction layers generalizing whole v with
  | nil =>
    cases run
    exact has
  | cons layer layers ih =>
    obtain ⟨own,later⟩ := List.forall_mem_cons.mp documented
    rw [List.foldlM_cons] at run
    obtain ⟨next,step,run⟩ := (bind_ok_iff ..).mp run
    rw [List.flatMap_cons,latest_append]
    refine ih ?_ later run
    cases layer with
    | setting key w =>
      cases step
      exact has
    | file name =>
      obtain ⟨⟨origin,entries⟩,read,step⟩ := (bind_ok_iff ..).mp step
      cases step
      rw [filed,read,fromFile]
      exact has.file origin entries (own origin entries read)

theorem HasOnly.override {c : Setting} {whole v : Value} (has : c.HasOnly (c.groupIn whole) v)
    (other : Setting) (w : Value) (plain : w.isTable = false) :
    c.HasOnly (c.groupIn (w.place [.name other.group.name,.name other.name] whole))
      (if other.key = c.key then w else v) := by
  rw [Value.place_pair _ _ _ _ plain,groupIn_put,other.lowerName_group]
  intro entry member
  by_cases grouped : other.group.name = c.group.name
  · rw [if_pos grouped,member?_put _ _ _ _ other.lowerName_name] at member
    by_cases named : other.name = c.name
    · rw [if_pos named] at member
      rw [if_pos (by rw [key,key,grouped,named])]
      exact .inl (Option.some.inj member).symm
    · have apart : other.key ≠ c.key := fun same => named (by rw [key_injective other c same])
      rw [if_neg named,grouped] at member
      rw [if_neg apart]
      exact has entry (get?_member member c.place)
  · have apart : other.key ≠ c.key := fun same => grouped (by rw [key_injective other c same])
    rw [if_neg grouped] at member
    rw [if_neg apart]
    exact has entry member

theorem latest_repeated (c : Setting) (key : Key) (w v : Value) (settings : List Assignment)
    (repeated : settings.any (·.1 = key) = true) :
    latest (((key,w) :: settings).filterMap c.assigned?) v = latest (settings.filterMap c.assigned?) v := by
  by_cases here : key = c.path
  · have own : c.assigned? (key,w) = some w := if_pos here
    rw [List.filterMap_cons_some own,latest_cons]
    obtain ⟨a,member,same⟩ := List.any_eq_true.mp repeated
    have later : a.2 ∈ settings.filterMap c.assigned? :=
      List.mem_filterMap.mpr ⟨a,member,if_pos ((of_decide_eq_true same).trans here)⟩
    rw [latest,latest,List.getLast?_eq_some_getLast (List.ne_nil_of_mem later)]
    rfl
  · have own : c.assigned? (key,w) = none := if_neg here
    rw [List.filterMap_cons_none own]

theorem HasOnly.overrides {c : Setting} {whole v : Value} (has : c.HasOnly (c.groupIn whole) v)
    (settings : List Assignment)
    (named : ∀ a ∈ settings, ∃ other : Setting, a.1 = other.path ∧ a.2.isTable = false) :
    c.HasOnly (c.groupIn ((Layer.byKey settings).foldl (fun whole (key,w) => w.place key whole) whole))
      (latest (settings.filterMap c.assigned?) v) := by
  induction settings generalizing whole v with
  | nil => exact has
  | cons a settings ih =>
    obtain ⟨key,w⟩ := a
    obtain ⟨⟨other,path,plain⟩,later⟩ := List.forall_mem_cons.mp named
    dsimp only at path plain
    rw [Layer.byKey]
    split
    · rename_i repeated
      rw [latest_repeated c key w v settings repeated]
      exact ih has later
    · rw [List.foldl_cons]
      subst path
      have decided := ih (has.override other w plain) later
      by_cases here : other = c
      · have own : c.assigned? (other.path,w) = some w := if_pos (congrArg Setting.path here)
        rw [if_pos (congrArg Setting.key here)] at decided
        rw [List.filterMap_cons_some own,latest_cons]
        exact decided
      · have own : c.assigned? (other.path,w) = none := if_neg fun same => here (path_injective other c same)
        rw [if_neg fun same => here (key_injective other c same)] at decided
        rw [List.filterMap_cons_none own]
        exact decided

theorem override?_eq (c : Setting) (t : FileTree) (layer : Layer) (documented : layer.Documented t) :
    (c.override? layer).toList = layer.settingAssignments.filterMap c.assigned? := by
  cases layer with
  | file name => rfl
  | setting key w =>
    obtain ⟨other,rfl,_⟩ := documented
    have put : (Layer.setting other.key w).settingAssignments = [(other.path,w)] := by
      rw [Layer.settingAssignments,read?_key]
      rfl
    rw [override?,put,List.filterMap_cons,assigned?]
    by_cases here : other = c
    · rw [if_pos (congrArg Setting.key here),if_pos (congrArg Setting.path here)]
      rfl
    · rw [if_neg fun same => here (key_injective other c same),
        if_neg fun same => here (path_injective other c same)]
      rfl

theorem overrides_eq (c : Setting) {t : FileTree} (layers : List Layer)
    (documented : ∀ layer ∈ layers, layer.Documented t) :
    layers.filterMap c.override? = (layers.flatMap Layer.settingAssignments).filterMap c.assigned? := by
  induction layers with
  | nil => rfl
  | cons layer layers ih =>
    obtain ⟨own,later⟩ := List.forall_mem_cons.mp documented
    rw [List.flatMap_cons,List.filterMap_append,← ih later,← override?_eq c t layer own,List.filterMap_cons]
    cases c.override? layer <;> rfl

theorem overrides_named {t : FileTree} (layers : List Layer) (documented : ∀ layer ∈ layers, layer.Documented t) :
    ∀ a ∈ layers.flatMap Layer.settingAssignments,
      ∃ other : Setting, a.1 = other.path ∧ a.2.isTable = false := by
  intro a member
  obtain ⟨layer,listed,inside⟩ := List.mem_flatMap.mp member
  have own := documented layer listed
  cases layer with
  | file name => cases inside
  | setting key w =>
    obtain ⟨other,rfl,fits⟩ := own
    rw [Layer.settingAssignments,read?_key] at inside
    obtain rfl := List.mem_singleton.mp inside
    exact ⟨other,rfl,fits.plain⟩

/-- What decides a setting is what is read for it. -/
theorem load_reads (t : FileTree) (layers : List Layer) (s : Settings)
    (documented : ∀ layer ∈ layers, layer.Documented t) (loaded : Settings.load t layers = .ok s)
    (c : Setting) : c.kind.read c.key (latest (layers.filterMap c.override?)
      (latest (layers.flatMap (c.filed t)) (c.held .standard))) = .ok (c.held s) := by
  obtain ⟨whole,merged,valued⟩ := (bind_ok_iff ..).mp loaded
  obtain ⟨settings,listed,merged⟩ := (bind_ok_iff ..).mp merged
  obtain ⟨files,run,merged⟩ := (bind_ok_iff ..).mp merged
  cases merged
  have start : c.HasOnly (c.groupIn Settings.standard.toValue) (c.held .standard) := fun entry member =>
    .inl (Option.some.inj (member.symm.trans c.standard_member))
  have final := (start.files layers documented run).overrides _ (overrides_named layers documented)
  rw [← overrides_eq c layers documented,← Layer.settings_assignments layers settings listed] at final
  obtain ⟨entry,key,member,read⟩ := ofValue_reads _ s valued c
  rcases final entry member with rfl | table
  · exact Kind.read_key _ key c.key _ _ read
  · exact absurd read (Kind.read_table _ key entry _ table)

theorem override_fits {t : FileTree} {layers : List Layer} (documented : ∀ layer ∈ layers, layer.Documented t)
    (c : Setting) (v : Value) (member : v ∈ layers.filterMap c.override?) : c.kind.Fits v := by
  obtain ⟨layer,listed,own⟩ := List.mem_filterMap.mp member
  have fits := documented layer listed
  cases layer with
  | file name => cases own
  | setting key w =>
    obtain ⟨other,rfl,fits⟩ := fits
    rw [override?] at own
    split at own
    · rename_i same
      cases own
      rwa [← key_injective other c same]
    · cases own

end Setting

/-- Each setting holds what decides it: the last layer for it alone, else the last value that a file has
for it, else the default. A file without a value for it changes nothing there. -/
theorem Settings.load_layered (t : FileTree) (layers : List Layer) (s : Settings)
    (documented : ∀ layer ∈ layers, layer.Documented t) (loaded : Settings.load t layers = .ok s)
    (c : Setting) :
    (match (layers.filterMap c.override?).getLast?,(layers.flatMap (c.filed t)).getLast? with
      | some v,_ => c.held s = v
      | none,some v => c.kind.read c.key v = .ok (c.held s)
      | none,none => c.held s = c.held .standard) ∧
    ∀ before name after, layers = before ++ .file name :: after → c.filed t (.file name) = [] →
      ∀ other, Settings.load t (before ++ after) = .ok other → c.held other = c.held s := by
  have read := Setting.load_reads t layers s documented loaded c
  constructor
  · cases last : (layers.filterMap c.override?).getLast? with
    | some v =>
      have fits := Setting.override_fits documented c v (List.mem_of_getLast? last)
      rw [Setting.latest,last] at read
      exact fits.read c.key (c.held s) read
    | none =>
      rw [Setting.latest,last] at read
      cases filed : (layers.flatMap (c.filed t)).getLast? with
      | some v =>
        rw [Option.getD_none,Setting.latest,filed] at read
        exact read
      | none =>
        rw [Option.getD_none,Setting.latest,filed] at read
        exact (c.held_fits .standard).read c.key (c.held s) read
  · rintro before name after rfl silent other reloaded
    have fewer : ∀ layer ∈ before ++ after, layer.Documented t := fun layer member =>
      documented layer (List.mem_append.mpr ((List.mem_append.mp member).imp_right (List.mem_cons_of_mem _)))
    have again := Setting.load_reads t (before ++ after) other fewer reloaded c
    have aside : c.override? (.file name) = none := rfl
    rw [List.filterMap_append,List.filterMap_cons_none aside,← List.filterMap_append,
      List.flatMap_append,List.flatMap_cons,silent,List.nil_append,← List.flatMap_append] at read
    exact Except.ok.inj (again.symm.trans read)

/-! Two files that give a setting each, below two settings of the same key. -/

namespace Setting

theorem group_single (c : Setting) : IsSingleName c.group.name := by
  have plain : c.group.name.toList.all (fun sign => sign ≠ '.' && sign ≠ '[') = true := by
    cases c <;> decide +kernel
  exact ⟨c.lowerName_group,by simpa using plain⟩

/-- What a file has that gives the setting only. -/
def alone (c : Setting) (standing : Toml.Standing) (v : Toml.Value) : Toml.Entries :=
  [(c.group.name,.table standing [(c.name,v)])]

theorem alone_documented (c : Setting) (standing : Toml.Standing) (v : Toml.Value) :
    ∀ entry ∈ c.alone standing v, IsSingleName entry.1 ∧
      ∀ name ∈ entry.2.names, Value.lowerName name = name := by
  intro entry member
  obtain rfl := List.mem_singleton.mp member
  refine ⟨c.group_single,fun name inside => ?_⟩
  obtain rfl := List.mem_singleton.mp inside
  exact c.lowerName_name

theorem written_alone (v : Setting → Value) (c : Setting) (origin : String) (standing : Toml.Standing)
    (given : Toml.Value) (plain : given.isTable = false) :
    (written v).addEntries origin (c.alone standing given) =
      written fun other => if other = c then .ofToml origin given else v other := by
  rw [Value.addEntries,alone,List.foldl_cons,List.foldl_nil]
  dsimp only
  rw [Key.read?_single _ c.group_single.2,Value.place_name,Value.ofToml,Value.ofTomlEntries,Value.ofTomlEntries,
    Value.mergedInto,Value.mergeEntries,Value.mergeEntries,
    Value.mergedInto_other _ _ ((Value.ofToml_isTable origin given).trans plain)]
  exact written_put v c _ _

end Setting

def layered : FileTree :=
  ⟨[],[(["a.toml"],.file "tables.invocation_macro='T'".toUTF8),
    (["b.toml"],.file "[tables]\nhandle_types=[]".toUTF8)]⟩

def layers : List Layer :=
  [.setting Setting.codeClass.key (.ofText "a"),.file "a.toml",
    .setting Setting.codeClass.key (.ofText "b"),.file "b.toml"]

def decided : Settings := { Settings.standard with codeClass := "b", dialect := ⟨"T",[]⟩ }

theorem readFile_root (t : FileTree) (name text : String) (entries : Toml.Entries)
    (start : t.workingDirectory = []) (path : (Path.mk "/").join name = ⟨"/" ++ name⟩)
    (shown : (Path.mk ("/" ++ name)).relativeTo ⟨"/"⟩ = ⟨name⟩) (file : t.isFile ⟨"/" ++ name⟩ = true)
    (held : t.read ⟨"/" ++ name⟩ = .ok text.toUTF8) (decoded : contentText text.toUTF8 = text)
    (read : Toml.document? text = some entries) : readFile t name = .ok (name,entries) := by
  have root : Path.ofSegments true t.workingDirectory = ⟨"/"⟩ := by rw [start]; rfl
  have located : locate? t name = some ⟨"/" ++ name⟩ := by
    rw [locate?,root,path]
    exact if_pos file
  unfold readFile
  rw [located]
  dsimp only
  rw [held]
  dsimp only
  rw [decoded,read,root,shown]

private theorem layered_a :
    readFile layered "a.toml" = .ok ("a.toml",Setting.invocationMacro.alone .dotted (.text "T")) :=
  readFile_root layered "a.toml" _ _ rfl (by decide) (by decide) (by decide) rfl
    (by with_unfolding_all rfl) (by with_unfolding_all rfl)

private theorem layered_b :
    readFile layered "b.toml" = .ok ("b.toml",Setting.handleTypes.alone .headed (.array [])) :=
  readFile_root layered "b.toml" _ _ rfl (by decide) (by decide) (by decide) rfl
    (by with_unfolding_all rfl) (by with_unfolding_all rfl)

private theorem layers_merged (whole : Value) :
    Layer.merge layered whole layers = .ok
      ((Value.ofText "b").place [.name Setting.codeClass.group.name,.name Setting.codeClass.name]
        ((whole.addEntries "a.toml" (Setting.invocationMacro.alone .dotted (.text "T"))).addEntries
          "b.toml" (Setting.handleTypes.alone .headed (.array [])))) := by
  simp only [Layer.merge,layers,List.mapM_cons,List.mapM_nil,List.foldlM_cons,List.foldlM_nil,
    Layer.setting?,Layer.addFile,layered_a,layered_b,Setting.read?_key,bind,Except.bind,pure,Except.pure]
  rfl

private theorem layers_loaded : Settings.load layered layers = .ok decided := by
  refine (bind_ok_iff ..).mpr ⟨_,layers_merged _,?_⟩
  rw [Setting.written_standard,Setting.written_alone _ _ _ _ (.text "T") rfl,
    Setting.written_alone _ _ _ _ (.array []) rfl,Setting.written_override _ _ (.ofText "b") rfl]
  refine Setting.ofValue_written _ _ fun c key => ?_
  cases c <;> rfl

private theorem layers_documented : ∀ layer ∈ layers, layer.Documented layered := by
  have file (c : Setting) (name : String) (standing : Toml.Standing) (v : Toml.Value)
      (read : readFile layered name = .ok (name,c.alone standing v)) :
      (Layer.file name).Documented layered := fun origin entries other => by
    obtain ⟨rfl,rfl⟩ := Prod.mk.inj (Except.ok.inj (read.symm.trans other))
    exact c.alone_documented standing v
  intro layer member
  simp only [layers,List.mem_cons,List.not_mem_nil,or_false] at member
  rcases member with rfl | rfl | rfl | rfl
  · exact ⟨.codeClass,rfl,"a",rfl⟩
  · exact file .invocationMacro _ .dotted _ layered_a
  · exact ⟨.codeClass,rfl,"b",rfl⟩
  · exact file .handleTypes _ .headed _ layered_b

theorem layers_decided :
    (∀ layer ∈ layers, layer.Documented layered) ∧ Settings.load layered layers = .ok decided ∧
      Setting.codeClass.held decided = .ofText "b" ∧
      Setting.Kind.text.read Setting.invocationMacro.key (.scalar (.text "T") "a.toml") =
        .ok (Setting.invocationMacro.held decided) := by
  have held := Settings.load_layered layered layers decided layers_documented layers_loaded
  have asked : layers.filterMap Setting.invocationMacro.override? = [] := by decide
  have filed : layers.flatMap (Setting.invocationMacro.filed layered) = [.scalar (.text "T") "a.toml"] := by
    simp only [layers,List.flatMap_cons,List.flatMap_nil,Setting.filed,layered_a,layered_b]
    rfl
  have fromFile := (held .invocationMacro).1
  rw [asked,filed] at fromFile
  exact ⟨layers_documented,layers_loaded,(held .codeClass).1,fromFile⟩

end ReferenceSite
