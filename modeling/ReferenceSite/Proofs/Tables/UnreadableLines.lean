import ReferenceSite.Proofs.Outcome
import ReferenceSite.Proofs.Tables.ReadTables

/-! Where the reading of a header stops. It stops exactly if some announced definition has a line that
is not understood; the report names the first such line of the first such definition, with its number
and its text in the source. -/
namespace ReferenceSite

def isUnknown (line : Nat × String) : Bool := LineKind.ofLine (stripContinuation line.2) = .unrecognized

def reportOn (path : Path) (line : Nat × String) : SchemaFault :=
  .unreadableLine path line.1 (stripContinuation line.2)

theorem TableDraft.readLine_eq_none_iff (dialect : Dialect) (d : TableDraft) (kind : LineKind) :
    d.readLine dialect kind = none ↔ kind = .unrecognized := by
  cases kind <;> simp [readLine]

theorem Table.ofBody_eq_error (path : Path) (dialect : Dialect) (body : List (Nat × String))
    (fault : SchemaFault) : Table.ofBody path dialect body = .error fault ↔
      ∃ line, body.find? isUnknown = some line ∧ fault = reportOn path line := by
  rw [Table.ofBody,map_error_iff]
  refine foldlM_error_iff _ isUnknown (reportOn path) ?_ ?_ body TableDraft.start fault
  · rintro draft ⟨number,raw⟩ unknown
    have none := (TableDraft.readLine_eq_none_iff dialect draft _).mpr (of_decide_eq_true unknown)
    simp only [none]
    rfl
  · rintro draft ⟨number,raw⟩ known
    cases step : draft.readLine dialect (.ofLine (stripContinuation raw)) with
    | some next => exact ⟨next,by simp only [step]⟩
    | none => exact absurd (decide_eq_true ((TableDraft.readLine_eq_none_iff dialect draft _).mp step)) known

namespace Header

def firstUnknown? (source definition : String) : Option (Nat × String) :=
  (body? source definition).bind (·.find? isUnknown)

theorem tableOf_eq_error (path : Path) (dialect : Dialect) (source definition : String)
    (fault : SchemaFault) : tableOf path dialect source definition = .error fault ↔
      ∃ line, firstUnknown? source definition = some line ∧ fault = reportOn path line := by
  rw [tableOf,firstUnknown?]
  cases body? source definition with
  | none =>
    constructor
    · intro stop
      cases stop
    · rintro ⟨line,found,_⟩
      cases found
  | some body =>
    rw [Option.bind_some,← Table.ofBody_eq_error path dialect body fault]
    dsimp only
    rw [bind_error_iff]
    constructor
    · rintro (stop | ⟨table,_,found⟩)
      · exact stop
      · cases found
    · exact .inl

theorem finished_extend_eq_error (path : Path) (dialect : Dialect) (source : String) (names : List String)
    (fault : SchemaFault) : finished (extend path dialect source .none names) = .error fault ↔
      ∃ line, names.findSome? (firstUnknown? source) = some line ∧ fault = reportOn path line := by
  induction names with
  | nil => exact ⟨nofun,nofun⟩
  | cons name names ih =>
    have here := tableOf_eq_error path dialect source name
    rw [extend_cons,finished_followed,finished_entry,List.findSome?_cons]
    cases first : firstUnknown? source name with
    | some line =>
      rw [(here (reportOn path line)).mpr ⟨line,first,rfl⟩]
      constructor
      · rintro ⟨⟩
        exact ⟨line,rfl,rfl⟩
      · rintro ⟨_,⟨⟩,rfl⟩
        rfl
    | none =>
      dsimp only
      rw [← ih]
      cases read : tableOf path dialect source name with
      | error own =>
        obtain ⟨line,found,_⟩ := (here own).mp read
        rw [first] at found
        cases found
      | ok more =>
        cases finished (extend path dialect source .none names) with
        | error later => exact Iff.rfl
        | ok rest => exact ⟨nofun,nofun⟩

theorem mem_numbered {source : String} {line : Nat × String} (member : line ∈ numbered source) :
    1 ≤ line.1 ∧ line.1 ≤ (Text.lines source.toList).length ∧
      (Text.lines source.toList)[line.1 - 1]? = some line.2.toList := by
  obtain ⟨i,bound,rfl⟩ := List.mem_mapIdx.mp member
  refine ⟨by simp,bound,?_⟩
  rw [String.toList_ofList]
  exact List.getElem?_eq_getElem bound

theorem firstUnknown?_numbered {source definition : String} {line : Nat × String}
    (first : firstUnknown? source definition = some line) : line ∈ numbered source := by
  obtain ⟨body,located,found⟩ := Option.bind_eq_some_iff.mp first
  exact body?_lines source definition body located line (List.mem_of_find?_eq_some found)

/-- The reading stops at the first unknown line of the first definition that has one. The report has
the number of the line in the source, and its text. -/
theorem parse_eq_error (path : Path) (dialect : Dialect) (source : String) :
    ((∃ fault, parse path dialect source = .error fault) ↔
      ∃ definition ∈ invocations dialect source, ∃ body, body? source definition = some body ∧
        ∃ line ∈ body, LineKind.ofLine (stripContinuation line.2) = .unrecognized) ∧
    ∀ fault, parse path dialect source = .error fault ↔
      ∃ number raw, (invocations dialect source).findSome? (firstUnknown? source) = some (number,raw) ∧
        1 ≤ number ∧ number ≤ (Text.lines source.toList).length ∧
        (Text.lines source.toList)[number - 1]? = some raw.toList ∧
        fault = .unreadableLine path number (stripContinuation raw) := by
  have stops := finished_extend_eq_error path dialect source (invocations dialect source)
  constructor
  · have stopped : (∃ fault, parse path dialect source = .error fault) ↔
        ((invocations dialect source).findSome? (firstUnknown? source)).isSome := by
      rw [Option.isSome_iff_exists]
      constructor
      · rintro ⟨fault,stop⟩
        obtain ⟨line,first,_⟩ := (stops fault).mp stop
        exact ⟨line,first⟩
      · rintro ⟨line,first⟩
        exact ⟨reportOn path line,(stops _).mpr ⟨line,first,rfl⟩⟩
    rw [stopped,List.isSome_findSome?,List.any_eq_true]
    refine exists_congr fun definition => and_congr_right fun _ => ?_
    rw [firstUnknown?]
    cases body? source definition with
    | none => simp
    | some body => simp [isUnknown]
  · intro fault
    rw [parse,stops]
    constructor
    · rintro ⟨⟨number,raw⟩,first,rfl⟩
      obtain ⟨definition,_,found⟩ := List.exists_of_findSome?_eq_some first
      obtain ⟨least,most,line⟩ := mem_numbered (firstUnknown?_numbered found)
      exact ⟨number,raw,first,least,most,line,rfl⟩
    · rintro ⟨number,raw,first,_,_,_,rfl⟩
      exact ⟨(number,raw),first,rfl⟩

end Header
end ReferenceSite
