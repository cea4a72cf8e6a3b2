import ReferenceSite.Proofs.Proto.Reach

/-! What every walk keeps and what it leaves behind: names once taken stay taken, each emitted type
takes a free name, nothing unreachable is emitted, and every pending type is accounted for. -/
namespace ReferenceSite

namespace Visits

@[simp] theorem emitted?_meet (v : Visits) (d : TypeDef) (emitted name : String) :
    (v.meet d emitted).emitted? name = v.emitted? name := by
  unfold meet emitted?
  split <;> rfl

@[simp] theorem emitted?_take (v : Visits) (d : TypeDef) (name : String) :
    (v.take d).emitted? name = if d.name = name then some d.fullName else v.emitted? name := by
  by_cases same : d.name = name <;> simp [take,emitted?,same]

/-- A type is emitted itself, or its name is taken: by the same full name, or with a record. -/
def Accounts (v : Visits) (es : List Entity) (d : TypeDef) : Prop :=
  d ∈ es.map (·.definition) ∨ ∃ emitted, v.emitted? d.name = some emitted ∧
    (emitted = d.fullName ∨ ⟨d.name,emitted,d.fullName⟩ ∈ v.collisions)

theorem accounts_cons (v : Visits) (e : Entity) (es : List Entity) (d : TypeDef)
    (accounted : v.Accounts es d) : v.Accounts (e :: es) d := by
  rcases accounted with listed | taken
  · exact .inl (by simp [listed])
  · exact .inr taken

end Visits

namespace Schema
variable {s : Schema} {v after : Visits} {pending : List s.Pending} {es : List Entity}

theorem walked_fresh (walked : s.Walked v pending after es) :
    ∀ e ∈ es, v.emitted? e.definition.name = none := by
  induction walked with
  | nil => simp
  | met v after p rest es emitted taken tail ih => simpa using ih
  | emit v after p rest targets es free found tail ih =>
    intro e member
    rcases List.mem_cons.mp member with rfl | later
    · exact free
    · have behind := ih e later
      simp only [Visits.emitted?_take] at behind
      split at behind
      · cases behind
      · exact behind

theorem walked_keeps (walked : s.Walked v pending after es) (name emitted : String)
    (taken : v.emitted? name = some emitted) : after.emitted? name = some emitted := by
  induction walked with
  | nil => exact taken
  | met v after p rest es other _ tail ih => exact ih (by simpa using taken)
  | emit v after p rest targets es free found tail ih =>
    refine ih ?_
    have other : p.1.1.name ≠ name := by
      rintro rfl
      simp [free] at taken
    simpa [other] using taken

/-- The names taken behind a walk are those taken before it and those of the emitted types. -/
theorem walked_taken (walked : s.Walked v pending after es) (name emitted : String) :
    after.emitted? name = some emitted ↔ v.emitted? name = some emitted ∨
      ∃ e ∈ es, e.definition.name = name ∧ e.definition.fullName = emitted := by
  induction walked with
  | nil => simp
  | met v after p rest es other taken tail ih => simpa using ih
  | emit v after p rest targets es free found tail ih =>
    rw [ih]
    by_cases same : p.1.1.name = name
    · subst name
      simp [free]
    · simp [same]

theorem walked_distinct (walked : s.Walked v pending after es) :
    (es.map (·.definition.name)).Nodup := by
  induction walked with
  | nil => simp
  | met v after p rest es emitted taken tail ih => exact ih
  | emit v after p rest targets es free found tail ih =>
    refine List.nodup_cons.mpr ⟨?_,ih⟩
    intro again
    obtain ⟨e,later,same⟩ := List.mem_map.mp again
    have behind := walked_fresh tail e later
    simp [same] at behind

theorem walked_reached (walked : s.Walked v pending after es) :
    ∀ e ∈ es, ∃ p ∈ pending, s.Reaches p.1.1 e.definition := by
  induction walked with
  | nil => simp
  | met v after p rest es emitted taken tail ih =>
    intro e member
    obtain ⟨q,inside,reaches⟩ := ih e member
    exact ⟨q,by simp [inside],reaches⟩
  | emit v after p rest targets es free found tail ih =>
    intro e member
    rcases List.mem_cons.mp member with rfl | later
    · exact ⟨p,by simp,.refl⟩
    · obtain ⟨q,inside,reaches⟩ := ih e later
      rcases List.mem_append.mp inside with target | waiting
      · have uses := (follow_uses s p.2 p.1.1 targets found q.1.1).mpr ⟨q,target,rfl⟩
        exact ⟨p,by simp,.head uses reaches⟩
      · exact ⟨q,by simp [waiting],reaches⟩

theorem walked_collisions (walked : s.Walked v pending after es) :
    ∀ c ∈ v.collisions, c ∈ after.collisions := by
  induction walked with
  | nil => simp
  | met v after p rest es emitted taken tail ih =>
    intro c old
    refine ih c ?_
    unfold Visits.meet
    split
    · exact old
    · simp [old]
  | emit v after p rest targets es free found tail ih => exact ih

/-- A walk records only types that met another full name under their own local name. -/
theorem walked_records (walked : s.Walked v pending after es) :
    ∀ c ∈ after.collisions, c ∈ v.collisions ∨
      c.emitted ≠ c.skipped ∧ after.emitted? c.localName = some c.emitted := by
  induction walked with
  | nil => exact fun c old => .inl old
  | met v after p rest es emitted taken tail ih =>
    intro c recorded
    rcases ih c recorded with known | fresh
    · unfold Visits.meet at known
      split at known
      · exact .inl known
      · rename_i different
        rcases List.mem_append.mp known with old | new
        · exact .inl old
        · obtain rfl := List.mem_singleton.mp new
          exact .inr ⟨different,walked_keeps tail _ _ (by simpa using taken)⟩
    · exact .inr fresh
  | emit v after p rest targets es free found tail ih => exact ih

/-- The invariant of a walk: all that was pending is emitted or accounted for in the end. -/
theorem walked_pending (walked : s.Walked v pending after es) :
    ∀ p ∈ pending, after.Accounts es p.1.1 := by
  induction walked with
  | nil => simp
  | met v after p rest es emitted taken tail ih =>
    intro q member
    rcases List.mem_cons.mp member with rfl | waiting
    · refine .inr ⟨emitted,walked_keeps tail _ _ (by simpa using taken),?_⟩
      by_cases same : emitted = q.1.1.fullName
      · exact .inl same
      · exact .inr (walked_collisions tail _ (by simp [Visits.meet,same]))
    · exact ih q waiting
  | emit v after p rest targets es free found tail ih =>
    intro q member
    rcases List.mem_cons.mp member with rfl | waiting
    · exact .inl (by simp)
    · exact Visits.accounts_cons _ _ _ _ (ih q (by simp [waiting]))

/-- Each target of an emitted type was pending once, so it is accounted for as well. -/
theorem walked_uses (walked : s.Walked v pending after es) :
    ∀ e ∈ es, ∀ d, s.Uses e.definition d → after.Accounts es d := by
  induction walked with
  | nil => simp
  | met v after p rest es emitted taken tail ih => exact ih
  | emit v after p rest targets es free found tail ih =>
    intro e member d uses
    refine Visits.accounts_cons _ _ _ _ ?_
    rcases List.mem_cons.mp member with rfl | later
    · obtain ⟨q,target,rfl⟩ := (follow_uses s p.2 p.1.1 targets found d).mp uses
      exact walked_pending tail q (by simp [target])
    · exact ih e later d uses

theorem walked_accounted (walked : s.Walked v pending after es) (d : TypeDef)
    (accounted : after.Accounts es d) : ∃ emitted, after.emitted? d.name = some emitted := by
  rcases accounted with listed | ⟨emitted,taken,_⟩
  · obtain ⟨e,member,rfl⟩ := List.mem_map.mp listed
    exact ⟨_,(walked_taken walked _ _).mpr (.inr ⟨e,member,rfl,rfl⟩)⟩
  · exact ⟨emitted,taken⟩

end Schema
end ReferenceSite
