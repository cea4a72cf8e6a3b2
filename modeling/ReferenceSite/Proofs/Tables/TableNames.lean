import ReferenceSite.Proofs.Tables.ReadTables

/-! The names of tables. A table is called what the last name line of its definition says. There is a
table for each announcement, so the names are distinct exactly if those lines say different names; an
announcement made twice brings the same name twice. -/
namespace ReferenceSite
open ReferenceSite.Text

namespace LineKind

def givenName? : LineKind → Option String
  | .tableName name => some name
  | _ => none

theorem givenName?_isWord (line name : String) (given : (ofLine line).givenName? = some name) : IsWord name := by
  cases kind : ofLine line with
  | tableName other =>
    rw [kind] at given
    cases given
    exact (ofLine_signs line).1 name kind
  | _ =>
    rw [kind] at given
    cases given

end LineKind

/-- The names that lines give, in order. -/
def givenNames (lines : List String) : List String :=
  lines.filterMap fun raw => (LineKind.ofLine (stripContinuation raw)).givenName?

theorem givenNames_cons (raw : String) (lines : List String) : givenNames (raw :: lines) =
    (LineKind.ofLine (stripContinuation raw)).givenName?.toList ++ givenNames lines := by
  rw [givenNames,List.filterMap_cons,givenNames]
  cases (LineKind.ofLine (stripContinuation raw)).givenName? <;> rfl

/-- The name that counts: a later one takes the place of those before it. -/
def lastName? (body : List (Nat × String)) : Option String := (givenNames (body.map (·.2))).getLast?

namespace TableDraft

theorem readLine_name (dialect : Dialect) (d next : TableDraft) (kind : LineKind)
    (read : d.readLine dialect kind = some next) : next.table.name = kind.givenName?.getD d.table.name := by
  have commented (draft : TableDraft) (text : String) : (draft.addComment text).table.name = draft.table.name := by
    unfold addComment
    split <;> rfl
  cases kind with
  | comment text =>
    cases read
    exact commented d text
  | columnComment name text =>
    cases read
    exact commented { d with target := .column name } text
  | unrecognized => cases read
  | _ =>
    cases read
    rfl

theorem read_name (dialect : Dialect) (lines : List String) (d after : TableDraft)
    (read : lines.foldlM (readRaw dialect) d = some after) :
    after.table.name = (givenNames lines).getLast?.getD d.table.name := by
  induction lines generalizing d with
  | nil =>
    cases read
    rfl
  | cons raw lines ih =>
    rw [List.foldlM_cons] at read
    obtain ⟨next,step,rest⟩ := Option.bind_eq_some_iff.mp read
    rw [ih next rest,readLine_name dialect d next _ step,givenNames_cons,List.getLast?_append]
    generalize (LineKind.ofLine (stripContinuation raw)).givenName? = here
    generalize (givenNames lines).getLast? = later
    cases later with
    | some name => rfl
    | none => cases here <;> rfl

end TableDraft

theorem Table.ofBody_name (path : Path) (dialect : Dialect) (body : List (Nat × String)) (table : Table)
    (read : Table.ofBody path dialect body = .ok table) : table.name = (lastName? body).getD "" := by
  obtain ⟨draft,folded,rfl⟩ := (Table.ofBody_eq_ok path dialect body table).mp read
  exact TableDraft.read_name dialect _ .start draft folded

theorem lastName?_isWord (body : List (Nat × String)) (name : String) (last : lastName? body = some name) :
    IsWord name := by
  obtain ⟨raw,_,given⟩ := List.mem_filterMap.mp (List.mem_of_getLast? last)
  exact LineKind.givenName?_isWord _ name given

private theorem names_of_last (dialect : Dialect) (bodies : List (Path × List (Nat × String)))
    (tables : List Table)
    (related : List.Forall₂ (fun b table => Table.ofBody b.1 dialect b.2 = .ok table) bodies tables)
    (given : ∀ b ∈ bodies, lastName? b.2 ≠ none) :
    tables.map (·.name) = bodies.filterMap (lastName? ·.2) := by
  induction related with
  | nil => rfl
  | @cons b table bodies tables own _ ih =>
    obtain ⟨here,later⟩ := List.forall_mem_cons.mp given
    obtain ⟨name,last⟩ := Option.ne_none_iff_exists'.mp here
    rw [List.map_cons,List.filterMap_cons,ih later,Table.ofBody_name _ dialect _ table own,last]
    rfl

/-- The tables of headers are named by the last name lines of their definitions. If each definition
has one, no name is empty, and the names are distinct exactly if those of the lines are. -/
theorem Header.parseFiles_names (t : FileTree) (dialect : Dialect) (paths : List Path) (found : HeaderTables)
    (read : parseFiles t dialect paths = .ok found) :
    List.Forall₂ (fun b table => Table.ofBody b.1 dialect b.2 = .ok table ∧
        ∀ name, lastName? b.2 = some name → name ≠ "" ∧ table.name = name)
      (located t dialect paths) found.tables ∧
    ((∀ b ∈ located t dialect paths, lastName? b.2 ≠ none) →
      (∀ table ∈ found.tables, table.name ≠ "") ∧
      ((found.tables.map (·.name)).Nodup ↔ ((located t dialect paths).filterMap (lastName? ·.2)).Nodup)) := by
  have related := parseFiles_tables t dialect paths found read
  constructor
  · refine related.imp fun b table own => ⟨own,fun name last => ⟨(lastName?_isWord b.2 name last).1,?_⟩⟩
    rw [Table.ofBody_name b.1 dialect b.2 table own,last]
    rfl
  · intro given
    have whole := names_of_last dialect _ _ related given
    refine ⟨fun table member => ?_,by rw [whole]⟩
    have listed : table.name ∈ found.tables.map (·.name) := List.mem_map_of_mem member
    rw [whole] at listed
    obtain ⟨b,_,last⟩ := List.mem_filterMap.mp listed
    exact (lastName?_isWord b.2 table.name last).1

/-! Short headers: definitions of one line each behind the define, and announcements. -/

def headerText (defined : List (String × String)) (announced : List String) : String :=
  String.join (defined.map fun (definition,line) => "#define " ++ definition ++ "(C) \\\n" ++ line ++ "\n") ++
    String.join (announced.map fun definition => "PERFETTO_TP_TABLE(" ++ definition ++ ")\n")

def headerTree (defined : List (String × String)) (announced : List String) : FileTree :=
  ⟨[],[(["a.h"],.file (headerText defined announced).toUTF8)]⟩

def twoNames : FileTree := headerTree [("F","NAME(Foo, f)"),("G","NAME(Bar, g)")] ["F","G"]

theorem names_distinct :
    Header.parseFiles twoNames .standard [⟨"a.h"⟩] = .ok ⟨[⟨"Foo","",[]⟩,⟨"Bar","",[]⟩],[]⟩ ∧
    (∀ b ∈ Header.located twoNames .standard [⟨"a.h"⟩], lastName? b.2 ≠ none) ∧
    (∀ table ∈ [Table.mk "Foo" "" [],⟨"Bar","",[]⟩], table.name ≠ "") ∧
    ([Table.mk "Foo" "" [],⟨"Bar","",[]⟩].map (·.name)).Nodup := by
  have read : Header.parseFiles twoNames .standard [⟨"a.h"⟩] = .ok ⟨[⟨"Foo","",[]⟩,⟨"Bar","",[]⟩],[]⟩ :=
    ok_of_toOption _ _ (by decide +kernel)
  have located : (Header.located twoNames .standard [⟨"a.h"⟩]).map (lastName? ·.2) = [some "Foo",some "Bar"] := by
    decide +kernel
  have given : ∀ b ∈ Header.located twoNames .standard [⟨"a.h"⟩], lastName? b.2 ≠ none := by
    intro b member
    have listed : lastName? b.2 ∈ [some "Foo",some "Bar"] := located ▸ List.mem_map_of_mem member
    intro missing
    rw [missing] at listed
    exact absurd listed (by decide)
  obtain ⟨_,named⟩ := Header.parseFiles_names _ _ _ _ read
  obtain ⟨filled,distinct⟩ := named given
  refine ⟨read,given,filled,distinct.mpr ?_⟩
  have lasts := congrArg (List.filterMap id) located
  rw [List.filterMap_map] at lasts
  exact lasts ▸ (by decide)

/-- A definition announced twice brings its name twice, and one without a name line brings none. -/
theorem names_repeated :
    Header.parseFiles (headerTree [("F","NAME(Foo, f)")] ["F","F"]) .standard [⟨"a.h"⟩] =
      .ok ⟨[⟨"Foo","",[]⟩,⟨"Foo","",[]⟩],[]⟩ ∧
    ¬ ([Table.mk "Foo" "" [],⟨"Foo","",[]⟩].map (·.name)).Nodup ∧
    Header.parseFiles (headerTree [("F","C(t, x)")] ["F"]) .standard [⟨"a.h"⟩] =
      .ok ⟨[⟨"","",[⟨"x","t",false,""⟩]⟩],[]⟩ :=
  ⟨ok_of_toOption _ _ (by decide +kernel),by decide +kernel,ok_of_toOption _ _ (by decide +kernel)⟩

end ReferenceSite
