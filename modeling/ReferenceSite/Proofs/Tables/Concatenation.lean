import Mathlib.Data.List.Forall2
import ReferenceSite.Command.Run
import ReferenceSite.Proofs.Tables.HeaderReading

/-! Headers read one after the other. A list of headers yields what each of them yields, in order, up
to the first that cannot be read, and so does a header with its announcements. What is printed of
several headers is what is printed of each. -/
namespace ReferenceSite

namespace HeaderTables

theorem append_none (a : HeaderTables) : a.append .none = a := by simp [append,none]

theorem append_assoc (a b c : HeaderTables) : (a.append b).append c = a.append (b.append c) := by
  simp [append]

end HeaderTables

theorem Reference.tables_append (a b : List Table) :
    Reference.tables (a ++ b) = Reference.tables a ++ Reference.tables b := by
  simp [Reference.tables]

namespace Header

/-- The second reading adds to the first, unless that one was stopped. -/
def followed (a b : HeaderTables × Option SchemaFault) : HeaderTables × Option SchemaFault :=
  match a with
  | (found,none) => (found.append b.1,b.2)
  | stopped => stopped

theorem followed_assoc (a b c : HeaderTables × Option SchemaFault) :
    followed (followed a b) c = followed a (followed b c) := by
  obtain ⟨found,_ | fault⟩ := a
  · obtain ⟨more,_ | fault⟩ := b
    · simp only [followed,HeaderTables.append_assoc]
    · rfl
  · rfl

theorem finished_followed (a b : HeaderTables × Option SchemaFault) : finished (followed a b) =
    (do let found ← finished a
        let more ← finished b
        pure (found.append more)) := by
  obtain ⟨found,_ | fault⟩ := a
  · obtain ⟨more,_ | fault⟩ := b
    · rfl
    · rfl
  · rfl

theorem both_ok_iff (first second : Except SchemaFault HeaderTables) (found : HeaderTables) :
    (do let a ← first
        let b ← second
        pure (a.append b)) = .ok found ↔
      ∃ a b, first = .ok a ∧ second = .ok b ∧ a.append b = found := by
  cases first with
  | error fault => exact ⟨nofun,nofun⟩
  | ok a =>
    cases second with
    | error fault => exact ⟨nofun,nofun⟩
    | ok b =>
      constructor
      · intro same
        exact ⟨a,b,rfl,rfl,Except.ok.inj same⟩
      · rintro ⟨_,_,⟨⟩,⟨⟩,rfl⟩
        rfl

/-! One header. -/

/-- What one announcement adds. -/
def entry (path : Path) (dialect : Dialect) (source definition : String) :
    HeaderTables × Option SchemaFault :=
  match tableOf path dialect source definition with
  | .error fault => (.none,some fault)
  | .ok more => (more,none)

theorem finished_entry (path : Path) (dialect : Dialect) (source definition : String) :
    finished (entry path dialect source definition) = tableOf path dialect source definition := by
  unfold entry
  cases tableOf path dialect source definition <;> rfl

theorem extend_found (path : Path) (dialect : Dialect) (source : String) (found : HeaderTables)
    (names : List String) : extend path dialect source found names =
      followed (found,none) (extend path dialect source .none names) := by
  induction names generalizing found with
  | nil => simp only [extend,followed,HeaderTables.append_none]
  | cons name names ih =>
    rw [extend,extend]
    cases tableOf path dialect source name with
    | error fault => simp only [followed,HeaderTables.append_none]
    | ok more =>
      -- Both sides have read one more table, behind what was found and behind nothing.
      have here := ih (found.append more)
      have afresh := ih (HeaderTables.none.append more)
      dsimp only
      rw [here,afresh]
      exact followed_assoc (found,none) (more,none) _

theorem extend_cons (path : Path) (dialect : Dialect) (source name : String) (names : List String) :
    extend path dialect source .none (name :: names) =
      followed (entry path dialect source name) (extend path dialect source .none names) := by
  rw [extend,entry]
  cases tableOf path dialect source name with
  | error fault => rfl
  | ok more => exact extend_found path dialect source _ names

/-- Announcements yield an entry each, a table where the definition is in the source. -/
theorem extend_ok_iff (path : Path) (dialect : Dialect) (source : String) (names : List String)
    (found : HeaderTables) : finished (extend path dialect source .none names) = .ok found ↔
      List.Forall₂ (fun body table => Table.ofBody path dialect body = .ok table)
        (names.filterMap (body? source)) found.tables ∧
      found.missing = (names.filter fun d => (body? source d).isNone).map (⟨·,path⟩) := by
  induction names generalizing found with
  | nil =>
    obtain ⟨tables,missing⟩ := found
    constructor
    · rintro ⟨⟩
      exact ⟨.nil,rfl⟩
    · rintro ⟨none,same⟩
      obtain rfl := List.forall₂_nil_left_iff.mp none
      obtain rfl : missing = [] := same
      rfl
  | cons name names ih =>
    rw [extend_cons,finished_followed,finished_entry,both_ok_iff]
    cases located : body? source name with
    | none =>
      rw [List.filterMap_cons_none located,List.filter_cons_of_pos (by simp [located]),List.map_cons]
      simp only [tableOf,located]
      constructor
      · rintro ⟨_,rest,⟨⟩,read,rfl⟩
        obtain ⟨tables,missing⟩ := (ih rest).mp read
        exact ⟨tables,congrArg (_ :: ·) missing⟩
      · rintro ⟨tables,missing⟩
        have rest := (ih ⟨found.tables,(names.filter fun d => (body? source d).isNone).map _⟩).mpr ⟨tables,rfl⟩
        refine ⟨_,_,rfl,rest,?_⟩
        rw [HeaderTables.append,List.nil_append,List.singleton_append,← missing]
    | some body =>
      rw [List.filterMap_cons_some located,List.filter_cons_of_neg (by simp [located]),
        List.forall₂_cons_left_iff]
      constructor
      · rintro ⟨more,rest,here,read,rfl⟩
        obtain ⟨table,own,rfl⟩ := (tableOf_eq_ok path dialect source name body located more).mp here
        obtain ⟨tables,missing⟩ := (ih rest).mp read
        exact ⟨⟨table,rest.tables,own,tables,rfl⟩,missing⟩
      · rintro ⟨⟨table,tables,own,later,whole⟩,missing⟩
        have here := (tableOf_eq_ok path dialect source name body located _).mpr ⟨table,own,rfl⟩
        refine ⟨_,⟨tables,_⟩,here,(ih _).mpr ⟨later,rfl⟩,?_⟩
        rw [HeaderTables.append,List.nil_append,List.singleton_append,← missing,← whole]

/-! Several headers. -/

section
variable (t : FileTree) (dialect : Dialect)

theorem extendFiles_found (found : HeaderTables) (paths : List Path) :
    extendFiles t dialect found paths = followed (found,none) (extendFiles t dialect .none paths) := by
  induction paths generalizing found with
  | nil => simp only [extendFiles,followed,HeaderTables.append_none]
  | cons path paths ih =>
    rw [extendFiles,extendFiles]
    cases t.readText path with
    | error fault => simp only [followed,HeaderTables.append_none]
    | ok source =>
      dsimp only
      rw [extend_found path dialect source found]
      obtain ⟨more,_ | fault⟩ := extend path dialect source .none (invocations dialect source)
      · simp only [followed]
        rw [ih (found.append more),ih more]
        exact followed_assoc (found,none) (more,none) _
      · rfl

theorem extendFiles_append (first second : List Path) : extendFiles t dialect .none (first ++ second) =
    followed (extendFiles t dialect .none first) (extendFiles t dialect .none second) := by
  induction first with
  | nil => rfl
  | cons path first ih =>
    rw [List.cons_append,extendFiles,extendFiles]
    cases t.readText path with
    | error fault => rfl
    | ok source =>
      dsimp only
      obtain ⟨more,_ | fault⟩ := extend path dialect source .none (invocations dialect source)
      · dsimp only
        rw [extendFiles_found,ih,extendFiles_found t dialect more first]
        exact (followed_assoc (more,none) _ _).symm
      · rfl

theorem parseFiles_append (first second : List Path) : parseFiles t dialect (first ++ second) =
    (do let a ← parseFiles t dialect first
        let b ← parseFiles t dialect second
        pure (a.append b)) := by
  rw [parseFiles,extendFiles_append,finished_followed]
  rfl

/-- A list of one header is that header's text, or the fault of reading it. -/
theorem parseFiles_single (path : Path) : parseFiles t dialect [path] =
    match t.readText path with
    | .ok source => parse path dialect source
    | .error fault => .error (.unreadableFile path fault) := by
  rw [parseFiles,extendFiles]
  cases t.readText path with
  | error fault => rfl
  | ok source =>
    dsimp only
    rw [parse]
    obtain ⟨found,_ | fault⟩ := extend path dialect source .none (invocations dialect source)
    · rfl
    · rfl

/-- The definitions that the announcements of the files lead to, each with its file. -/
def located (paths : List Path) : List (Path × List (Nat × String)) :=
  paths.flatMap fun path =>
    match t.readText path with
    | .ok source => ((invocations dialect source).filterMap (body? source)).map (path,·)
    | .error _ => []

/-- One table is read from each of the definitions. -/
theorem parseFiles_tables (paths : List Path) (found : HeaderTables)
    (read : parseFiles t dialect paths = .ok found) :
    List.Forall₂ (fun b table => Table.ofBody b.1 dialect b.2 = .ok table) (located t dialect paths)
      found.tables := by
  induction paths generalizing found with
  | nil =>
    cases read
    exact .nil
  | cons path paths ih =>
    rw [← List.singleton_append,parseFiles_append,both_ok_iff] at read
    obtain ⟨first,rest,here,later,rfl⟩ := read
    rw [parseFiles_single] at here
    cases stored : t.readText path with
    | error fault =>
      rw [stored] at here
      cases here
    | ok source =>
      rw [stored] at here
      dsimp only at here
      rw [parse,extend_ok_iff] at here
      rw [located,List.flatMap_cons,stored]
      refine List.rel_append ?_ (ih rest later)
      exact List.forall₂_map_left_iff.mpr here.1

end

end Header

namespace Command

/-- A report on two runs, the second one made only if the first did not fail. -/
def Report.followedBy (a b : Report) : Report :=
  match a.failure,b.failure with
  | some _,_ => a
  | none,some fault => Invocation.failed (a.warnings ++ b.warnings) fault
  | none,none => ⟨a.output ++ b.output,none,a.warnings ++ b.warnings⟩

/-- What was printed goes into the file, if there is one. -/
def Report.redirected (r : Report) (output : Option String) (t : FileTree) : FileTree × Report :=
  match r.failure with
  | some _ => (t,r)
  | none => Invocation.emit t output r.warnings r.output

theorem Report.redirected_none (r : Report) (t : FileTree) : r.redirected none t = (t,r) := by
  obtain ⟨output,_ | fault,warnings⟩ := r
  · rfl
  · rfl

/-- The report on a reading of headers, its tables printed. -/
def Report.onTables (read : HeaderTables × Option SchemaFault) : Report :=
  match read with
  | (found,none) => ⟨Reference.tables found.tables,none,found.missing.map (·.message)⟩
  | (found,some fault) => Invocation.failed (found.missing.map (·.message)) (.extraction fault)

theorem Report.onTables_followed (a b : HeaderTables × Option SchemaFault) :
    onTables (Header.followed a b) = (onTables a).followedBy (onTables b) := by
  obtain ⟨found,_ | fault⟩ := a
  · obtain ⟨more,_ | fault⟩ := b
    · simp [Header.followed,onTables,followedBy,HeaderTables.append,Reference.tables_append]
    · simp [Header.followed,onTables,followedBy,HeaderTables.append,Invocation.failed]
  · rfl

namespace Invocation

theorem runTables_eq (s : Settings) (inputs : List String) (output : Option String) (t : FileTree) :
    runTables s inputs output t =
      (Report.onTables (Header.extendFiles t s.dialect .none (inputs.map Path.mk))).redirected output t := by
  unfold runTables
  obtain ⟨found,_ | fault⟩ := Header.extendFiles t s.dialect .none (inputs.map Path.mk) <;> rfl

/-- The report of a run that prints the tables of one header. -/
def printed (i : Invocation) (t : FileTree) (input : String) : Report :=
  ({ i with task := .tables [input] none }.run t).2

theorem run_tables (i : Invocation) (inputs : List String) (output : Option String) (t : FileTree) :
    ({ i with task := .tables inputs output } : Invocation).run t =
      match Settings.load t i.layers with
      | .error fault => (t,failed [] (.settings fault))
      | .ok s => runTables s inputs output t := rfl

theorem printed_unsettled (i : Invocation) (t : FileTree) (fault : Settings.Fault) (input : String)
    (refused : Settings.load t i.layers = .error fault) : i.printed t input = failed [] (.settings fault) := by
  rw [printed,run_tables,refused]

theorem printed_settled (i : Invocation) (t : FileTree) (s : Settings) (input : String)
    (loaded : Settings.load t i.layers = .ok s) :
    i.printed t input = .onTables (Header.extendFiles t s.dialect .none [⟨input⟩]) := by
  rw [printed,run_tables,loaded]
  dsimp only
  rw [runTables_eq,Report.redirected_none,List.map_singleton]

end Invocation

/-- Reports on headers read after others. -/
theorem Report.foldl_onTables (t : FileTree) (dialect : Dialect) (before : List Path) (inputs : List String) :
    (inputs.map fun input => onTables (Header.extendFiles t dialect .none [⟨input⟩])).foldl followedBy
        (onTables (Header.extendFiles t dialect .none before)) =
      onTables (Header.extendFiles t dialect .none (before ++ inputs.map Path.mk)) := by
  induction inputs generalizing before with
  | nil => simp
  | cons input inputs ih =>
    rw [List.map_cons,List.foldl_cons,← onTables_followed,← Header.extendFiles_append,ih]
    simp

theorem Report.foldl_failed (warnings : List String) (fault : Fault) (more : List Report) :
    more.foldl followedBy (Invocation.failed warnings fault) = Invocation.failed warnings fault := by
  induction more with
  | nil => rfl
  | cons r more ih => exact ih

end Command

/-- Lists of headers are read one after the other, a single one by its text, and so are the announcements
of a header, each with an entry of its own. A run for several headers prints, or writes, what the runs
for each of them print. -/
theorem Header.reading_concatenates (t : FileTree) :
    (∀ dialect first second, parseFiles t dialect (first ++ second) =
      (do let a ← parseFiles t dialect first
          let b ← parseFiles t dialect second
          pure (a.append b))) ∧
    (∀ dialect path, parseFiles t dialect [path] =
      match t.readText path with
      | .ok source => parse path dialect source
      | .error fault => .error (.unreadableFile path fault)) ∧
    (∀ path dialect source found, parse path dialect source = .ok found ↔
      List.Forall₂ (fun body table => Table.ofBody path dialect body = .ok table)
        ((invocations dialect source).filterMap (body? source)) found.tables ∧
      found.missing =
        ((invocations dialect source).filter fun d => (body? source d).isNone).map (⟨·,path⟩)) ∧
    ∀ (i : Command.Invocation) first rest output,
      ({ i with task := .tables (first :: rest) output } : Command.Invocation).run t =
        ((rest.map (i.printed t)).foldl .followedBy (i.printed t first)).redirected output t := by
  refine ⟨fun dialect => parseFiles_append t dialect,fun dialect => parseFiles_single t dialect,
    fun path dialect source => ?_,fun i first rest output => ?_⟩
  · exact extend_ok_iff path dialect source (invocations dialect source)
  · rw [Command.Invocation.run_tables]
    cases loaded : Settings.load t i.layers with
    | error fault =>
      have alone := funext fun input => i.printed_unsettled t fault input loaded
      rw [alone,Command.Report.foldl_failed]
      rfl
    | ok s =>
      have alone := funext fun input => i.printed_settled t s input loaded
      have whole := Command.Report.foldl_onTables t s.dialect [⟨first⟩] rest
      rw [alone,whole]
      exact Command.Invocation.runTables_eq s (first :: rest) output t

end ReferenceSite
