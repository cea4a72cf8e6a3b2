import ReferenceSite.Proofs.Proto.WalkReach
import ReferenceSite.Reference

/-! The links between the sections of a reference. Each section names its anchor by a marker in its
heading, and the type column of a field links to the anchor of the type it uses. The markers that a
walk writes are distinct, and each link leads to one of them or to a type that was passed over. -/
namespace ReferenceSite

/-- Made from its qualified name and its package. -/
def TypeDef.Constructed (d : TypeDef) : Prop :=
  ∃ qualifiedName package file comment body, d = .new qualifiedName package file comment body

theorem TypeDef.Constructed.name_eq {d : TypeDef} (made : d.Constructed) :
    d.name = localName d.fullName := by
  obtain ⟨qualifiedName,package,file,comment,body,rfl⟩ := made
  rfl

namespace Schema
variable {s : Schema} {v after : Visits} {pending : List s.Pending} {es : List Entity}

/-- Every reference names a type of the schema, by its full name as well. -/
def Matched (s : Schema) : Prop :=
  ∀ d ∈ s.types, ∀ target ∈ d.targets,
    ∃ e, s.get? target.qualifiedName = some e ∧ e.fullName = target.fullName

instance (s : Schema) : Decidable s.Matched :=
  decidable_of_iff (∀ d ∈ s.types, ∀ target ∈ d.targets,
      (s.get? target.qualifiedName).any (·.fullName = target.fullName))
    (by simp only [Matched,Option.any_eq_true,decide_eq_true_eq])

theorem Matched.closed (matched : s.Matched) : s.Closed := s.closed_iff.mpr fun d inside target field =>
  (matched d inside target field).imp fun _ found => found.1

theorem walked_stored (walked : s.Walked v pending after es) : ∀ e ∈ es, e.definition ∈ s.types := by
  intro e member
  obtain ⟨p,_,reaches⟩ := walked_reached walked e member
  exact reaches_mem s p.1.1 _ p.1.2 reaches

/-- A target of an emitted type has its full name among the emitted types, or it was passed over. -/
theorem walked_target (walked : s.Walked .none pending after es) (matched : s.Matched) (e : Entity)
    (member : e ∈ es) (target : TypeRef) (field : target ∈ e.definition.targets) :
    (∃ other ∈ es, other.definition.fullName = target.fullName) ∨
      ∃ c ∈ after.collisions, c.skipped = target.fullName := by
  obtain ⟨d,found,same⟩ := matched _ (walked_stored walked e member) target field
  rw [← same]
  rcases walked_uses walked e member d ((s.uses_iff _ _).mpr ⟨target,field,found⟩) with listed | ⟨emitted,taken,reason⟩
  · obtain ⟨other,inside,rfl⟩ := List.mem_map.mp listed
    exact .inl ⟨other,inside,rfl⟩
  · rcases reason with rfl | recorded
    · rcases (walked_taken walked _ _).mp taken with old | ⟨other,inside,_,full⟩
      · simp [Visits.none,Visits.emitted?] at old
      · exact .inl ⟨other,inside,full⟩
    · exact .inr ⟨_,recorded,rfl⟩

end Schema

namespace Reference

/-- How a heading names its anchor. -/
def marker (name : String) : String := "\x7b#" ++ name ++ "\x7d"

def markerOf (e : Entity) : String := marker e.definition.fullName

theorem marker_injective : Function.Injective marker := by
  intro a b same
  simpa [marker,String.ext_iff] using same

/-- A section begins with its marker and its name, behind the number signs of its level. -/
theorem typeSection_marker (e : Entity) : ∃ rest, typeSection e =
    String.ofList (List.replicate (min e.depth deepestHeading + 1) '#') ++ " " ++ markerOf e ++ " " ++
      e.definition.fullName ++ "\n\n" ++ rest := by
  refine ⟨paragraph (Comment.singleLine (Comment.stripNextId e.definition.comment)) ++
    definedIn e.definition.file ++ typeBody e.definition.body ++ "\n",?_⟩
  apply String.toList_inj.mp
  simp [typeSection,heading,markerOf,marker]

/-- The type column of a field that links to a name. -/
def linkTo (f : Field) (name : String) : String := "[" ++ code f.declaredType ++ "](#" ++ name ++ ")"

theorem fieldType_eq_linkTo_iff (f : Field) (name : String) :
    fieldType f = linkTo f name ↔ ∃ target, f.target = some target ∧ target.fullName = name := by
  unfold fieldType linkTo
  cases f.target with
  | none =>
    refine ⟨fun same => ?_,fun ⟨_,missing,_⟩ => nomatch missing⟩
    have first := congrArg (·.toList.head?) same
    simp [code] at first
  | some target => simp [String.ext_iff]

/-- A walk writes one section for each type that it emits. The sections have distinct markers, and each
link in a type column leads to exactly one section or names a type that was passed over. -/
theorem walk_anchors (s : Schema) (made : ∀ d ∈ s.types, d.Constructed) (matched : s.Matched)
    (start : String) (depth : Nat) (root : TypeDef) (resolved : s.resolve start = .ok root) :
    ∃ after es, s.collect start depth .none = (after,.ok es) ∧
      walk s start depth .none = (after,.ok (String.join (es.map typeSection))) ∧
      (∀ e ∈ es, ∃ rest, typeSection e =
        String.ofList (List.replicate (min e.depth deepestHeading + 1) '#') ++ " " ++ markerOf e ++ " " ++
          e.definition.fullName ++ "\n\n" ++ rest) ∧
      (es.map markerOf).Nodup ∧
      ∀ e ∈ es, ∀ f ∈ e.definition.fields, ∀ name, fieldType f = linkTo f name →
        (es.map markerOf).count (marker name) = 1 ∨ ∃ c ∈ after.collisions, c.skipped = name := by
  obtain ⟨after,es,ok⟩ :=
    s.visitAll_closed matched.closed .none [(⟨root,Schema.mem_of_resolve resolved⟩,depth)]
  have walked := s.visitAll_walked .none after _ es ok
  have collected := (s.collect_resolved start depth .none root resolved).trans ok
  have written : walk s start depth .none = (after,.ok (String.join (es.map typeSection))) := by
    simp only [walk,collected]
    rfl
  have distinct : (es.map markerOf).Nodup := by
    have names : es.map (·.definition.name) = (es.map (·.definition.fullName)).map localName := by
      rw [List.map_map]
      exact List.map_congr_left fun e member => (made _ (Schema.walked_stored walked e member)).name_eq
    have full := names ▸ Schema.walked_distinct walked
    have markers : es.map markerOf = (es.map (·.definition.fullName)).map marker := by
      rw [List.map_map]
      rfl
    rw [markers]
    exact full.of_map.map marker_injective
  refine ⟨after,es,collected,written,fun e _ => typeSection_marker e,distinct,?_⟩
  intro e member f field name linked
  obtain ⟨target,points,rfl⟩ := (fieldType_eq_linkTo_iff f name).mp linked
  have used := (e.definition.mem_targets target).mpr ⟨f,field,points⟩
  refine (Schema.walked_target walked matched e member target used).imp_left ?_
  rintro ⟨other,inside,full⟩
  exact List.count_eq_one_of_mem distinct (full ▸ List.mem_map_of_mem inside)

end Reference

/-- Two messages of one package, each of which holds a message `Id` of its own. -/
def homonyms : Schema := .ofList
  [message "Root" [("track",track),("slice",slice)],track,slice,message "Track.Id" [],message "Slice.Id" []]
where
  message (name : String) (fields : List (String × TypeDef)) : TypeDef :=
    .new ("p." ++ name) "p" "p.proto" "" (.message (fields.map fun (name,type) => .ofType name "" type))
  track : TypeDef := message "Track" [("id",message "Track.Id" [])]
  slice : TypeDef := message "Slice" [("id",message "Slice.Id" [])]

theorem homonyms_anchors : (∀ d ∈ homonyms.types, d.Constructed) ∧ homonyms.Matched ∧
    ∃ root, homonyms.resolve "p.Root" = .ok root ∧ ∃ after es,
      homonyms.collect "p.Root" 0 .none = (after,.ok es) ∧ (es.map Reference.markerOf).Nodup ∧
      ∀ e ∈ es, ∀ f ∈ e.definition.fields, ∀ name, Reference.fieldType f = Reference.linkTo f name →
        (es.map Reference.markerOf).count (Reference.marker name) = 1 ∨
          ∃ c ∈ after.collisions, c.skipped = name := by
  have made : ∀ d ∈ homonyms.types, d.Constructed := by
    have types : homonyms.types = [homonyms.message "Slice.Id" [],homonyms.message "Track.Id" [],
      homonyms.slice,homonyms.track,
      homonyms.message "Root" [("track",homonyms.track),("slice",homonyms.slice)]] := by decide +kernel
    simp only [types,List.forall_mem_cons]
    exact ⟨⟨_,_,_,_,_,rfl⟩,⟨_,_,_,_,_,rfl⟩,⟨_,_,_,_,_,rfl⟩,⟨_,_,_,_,_,rfl⟩,⟨_,_,_,_,_,rfl⟩,by simp⟩
  have matched : homonyms.Matched := by decide +kernel
  have resolved : homonyms.resolve "p.Root" =
      .ok (homonyms.message "Root" [("track",homonyms.track),("slice",homonyms.slice)]) := by rfl
  obtain ⟨after,es,ok,_,_,distinct,links⟩ :=
    Reference.walk_anchors homonyms made matched "p.Root" 0 _ resolved
  exact ⟨made,matched,_,resolved,after,es,ok,distinct,links⟩

end ReferenceSite
