import Mathlib.Data.List.Nodup
import ReferenceSite.Proofs.Proto.WalkCourse

/-! Types that a walk passes over. A target of an emitted type is emitted as well or recorded under
its local name, unless the type that took the name has the same full name: two types of different
packages with the same nesting path are not told apart, and the later one is lost. -/
namespace ReferenceSite

/-- A record says that the type met the name of an emitted type. -/
def Visits.Records (v : Visits) (es : List Entity) (d : TypeDef) : Prop :=
  ∃ e ∈ es, e.definition.name = d.name ∧ ⟨d.name,e.definition.fullName,d.fullName⟩ ∈ v.collisions

/-- Another emitted type has both the local and the full name of the type. -/
def Hides (es : List Entity) (d : TypeDef) : Prop :=
  ∃ e ∈ es, e.definition ≠ d ∧ e.definition.name = d.name ∧ e.definition.fullName = d.fullName

namespace Schema
variable {s : Schema} {after : Visits} {pending : List s.Pending} {es : List Entity}

private theorem emitted_unique (walked : s.Walked .none pending after es) (e f : Entity)
    (he : e ∈ es) (hf : f ∈ es) (same : e.definition.name = f.definition.name) : e = f :=
  List.inj_on_of_nodup_map (walked_distinct walked) he hf same

private theorem taken_by (walked : s.Walked .none pending after es) (name emitted : String)
    (taken : after.emitted? name = some emitted) :
    ∃ e ∈ es, e.definition.name = name ∧ e.definition.fullName = emitted := by
  rcases (walked_taken walked name emitted).mp taken with old | new
  · simp [Visits.none,Visits.emitted?] at old
  · exact new

private theorem record_differs (walked : s.Walked .none pending after es) (e : Entity) (d : TypeDef)
    (recorded : ⟨d.name,e.definition.fullName,d.fullName⟩ ∈ after.collisions) :
    e.definition.fullName ≠ d.fullName := by
  rcases walked_records walked _ recorded with old | ⟨different,_⟩
  · simp [Visits.none] at old
  · exact different

theorem accounts_iff_not_hides (walked : s.Walked .none pending after es) (d : TypeDef)
    (accounted : after.Accounts es d) :
    d ∈ es.map (·.definition) ∨ after.Records es d ↔ ¬ Hides es d := by
  constructor
  · rintro (listed | ⟨e,member,name,recorded⟩) ⟨other,inside,different,sameName,sameFull⟩
    · obtain ⟨e,member,rfl⟩ := List.mem_map.mp listed
      obtain rfl := emitted_unique walked other e inside member sameName
      exact different rfl
    · obtain rfl := emitted_unique walked other e inside member (sameName.trans name.symm)
      exact record_differs walked other d recorded sameFull
  · intro visible
    rcases accounted with listed | ⟨emitted,taken,reason⟩
    · exact .inl listed
    · obtain ⟨e,member,name,rfl⟩ := taken_by walked d.name emitted taken
      rcases reason with same | recorded
      · by_cases itself : e.definition = d
        · exact .inl (itself ▸ List.mem_map_of_mem member)
        · exact absurd ⟨e,member,itself,name,same⟩ visible
      · exact .inr ⟨e,member,name,recorded⟩

/-- Exactly when no target of an emitted type is dropped silently: it is emitted or recorded if and
only if no other emitted type has its local and its full name. -/
theorem collect_accounts_iff (s : Schema) (closed : s.Closed) (start : String) (depth : Nat)
    (root : TypeDef) (resolved : s.resolve start = .ok root) :
    ∃ after es, s.collect start depth .none = (after,.ok es) ∧
      ∀ e ∈ es, ∀ target ∈ e.definition.targets, ∃ d, s.get? target.qualifiedName = some d ∧
        (d ∈ es.map (·.definition) ∨ after.Records es d ↔ ¬ Hides es d) := by
  obtain ⟨after,es,ok⟩ := visitAll_closed s closed .none [(⟨root,mem_of_resolve resolved⟩,depth)]
  have walked := visitAll_walked s .none after _ es ok
  refine ⟨after,es,(collect_resolved s start depth .none root resolved).trans ok,?_⟩
  intro e member target field
  obtain ⟨p,inside,reaches⟩ := walked_reached walked e member
  obtain ⟨d,found⟩ := s.closed_iff.mp closed _ (reaches_mem s p.1.1 _ p.1.2 reaches) target field
  have used := walked_uses walked e member d ((s.uses_iff _ _).mpr ⟨target,field,found⟩)
  exact ⟨d,found,accounts_iff_not_hides walked d used⟩

/-- A message that holds one type of each of two packages, both at the same nesting path. -/
def twins : Schema := ofList [holder,config "a",config "b"]
where
  holder : TypeDef := ⟨"Root","r.Root","Root","","r.proto",.message
    [⟨"a","Config",some ⟨"a.Config","Config"⟩,""⟩,⟨"b","Config",some ⟨"b.Config","Config"⟩,""⟩]⟩
  config (package : String) : TypeDef :=
    ⟨"Config",package ++ ".Config","Config","",package ++ ".proto",.message []⟩

theorem twins_walk : twins.Closed ∧ twins.resolve "r.Root" = .ok twins.holder ∧
    ∃ after es, twins.collect "r.Root" 0 .none = (after,.ok es) ∧
      ∀ e ∈ es, ∀ target ∈ e.definition.targets, ∃ d, twins.get? target.qualifiedName = some d ∧
        (d ∈ es.map (·.definition) ∨ after.Records es d ↔ ¬ Hides es d) := by
  have closed : twins.Closed := by decide
  exact ⟨closed,rfl,collect_accounts_iff twins closed "r.Root" 0 twins.holder rfl⟩

/-- Of two types with one full name the second is neither emitted nor recorded. -/
theorem twins_dropped : twins.Closed ∧ ∃ after es,
    twins.collect "r.Root" 0 .none = (after,.ok es) ∧
      ∃ e ∈ es, ∃ target ∈ e.definition.targets, ∃ d, twins.get? target.qualifiedName = some d ∧
        ¬ (d ∈ es.map (·.definition) ∨ after.Records es d) := by
  have course : twins.Walked .none [(⟨twins.holder,by decide⟩,0)]
      ⟨[("Config","Config"),("Root","Root")],[]⟩ [⟨twins.holder,0⟩,⟨twins.config "a",1⟩] := by
    refine .emit _ _ _ [] [(⟨twins.config "a",by decide⟩,1),(⟨twins.config "b",by decide⟩,1)] _ rfl rfl ?_
    refine .emit _ _ _ [(⟨twins.config "b",by decide⟩,1)] [] _ (by decide) rfl ?_
    exact .met _ _ _ [] _ "Config" (by decide) (.nil _)
  refine ⟨by decide,_,_,(collect_resolved twins "r.Root" 0 .none twins.holder rfl).trans
    (walked_visitAll twins _ _ _ _ course),⟨twins.holder,0⟩,by simp,⟨"b.Config","Config"⟩,by decide,
    twins.config "b",by decide,?_⟩
  rintro (listed | ⟨e,member,name,recorded⟩)
  · exact absurd listed (by decide)
  · simp at recorded

end Schema
end ReferenceSite
