import Mathlib.Data.List.Nodup
import ReferenceSite.Proofs.Proto.WalkCourse

/-! Walks emit what can be reached, once each. Where local names are distinct, the types visited so
far are those reachable from the starts so far. This set is closed under references between two
walks, though not within one. -/
namespace ReferenceSite.Schema

def collectAll (s : Schema) (v : Visits) :
    List (String × Nat) → Visits × List (Except SchemaFault (List Entity))
  | [] => (v,[])
  | (start,depth) :: rest =>
    let (v,reached) := s.collect start depth v
    let (v,others) := s.collectAll v rest
    (v,reached :: others)

def emittedTypes : Except SchemaFault (List Entity) → List TypeDef
  | .ok es => es.map (·.definition)
  | .error _ => []

/-- All types that walks emit together, with nothing visited before them. -/
def emittedBy (s : Schema) (starts : List (String × Nat)) : List TypeDef :=
  (s.collectAll .none starts).2.flatMap emittedTypes

def ReachedFrom (s : Schema) (start : String) (d : TypeDef) : Prop :=
  ∃ root, s.resolve start = .ok root ∧ s.Reaches root d

def Covers (s : Schema) (v : Visits) (starts : List (String × Nat)) : Prop :=
  ∀ d ∈ s.types, (∃ emitted, v.emitted? d.name = some emitted) ↔
    ∃ start ∈ starts, s.ReachedFrom start.1 d

theorem reachedFrom_mem (s : Schema) (start : String) (d : TypeDef) (reached : s.ReachedFrom start d) :
    d ∈ s.types := by
  obtain ⟨root,resolved,reaches⟩ := reached
  exact reaches_mem s root d (mem_of_resolve resolved) reaches

theorem reachedFrom_uses (s : Schema) (start : String) (d e : TypeDef)
    (reached : s.ReachedFrom start d) (uses : s.Uses d e) : s.ReachedFrom start e := by
  obtain ⟨root,resolved,reaches⟩ := reached
  exact ⟨root,resolved,reaches.tail uses⟩

theorem reachedFrom_iff (s : Schema) (start : String) (root d : TypeDef)
    (resolved : s.resolve start = .ok root) : s.ReachedFrom start d ↔ s.Reaches root d := by
  constructor
  · rintro ⟨other,same,reaches⟩
    obtain rfl := Except.ok.inj (resolved.symm.trans same)
    exact reaches
  · exact fun reaches => ⟨root,resolved,reaches⟩

section
variable {s : Schema} (distinct : (s.types.map (·.name)).Nodup) {v after : Visits}
  {starts : List (String × Nat)} {es : List Entity} {start : String} {root : TypeDef}
  {inside : root ∈ s.types} {depth : Nat}
include distinct

private theorem emitted_of_name (walked : s.Walked v [(⟨root,inside⟩,depth)] after es) (d : TypeDef)
    (known : d ∈ s.types) (e : Entity) (member : e ∈ es) (same : e.definition.name = d.name) :
    e.definition = d := by
  obtain ⟨p,pending,reaches⟩ := walked_reached walked e member
  have stored : e.definition ∈ s.types := reaches_mem s p.1.1 _ p.1.2 reaches
  exact List.inj_on_of_nodup_map distinct stored known same

private theorem visited_uses (covers : s.Covers v starts)
    (walked : s.Walked v [(⟨root,inside⟩,depth)] after es) (d e : TypeDef) (known : d ∈ s.types)
    (visited : ∃ emitted, after.emitted? d.name = some emitted) (uses : s.Uses d e) :
    ∃ emitted, after.emitted? e.name = some emitted := by
  obtain ⟨emitted,taken⟩ := visited
  rcases (walked_taken walked d.name emitted).mp taken with old | ⟨entity,member,same,_⟩
  · obtain ⟨earlier,listed,reached⟩ := (covers d known).mp ⟨emitted,old⟩
    obtain ⟨before,seen⟩ := (covers e (uses_mem s d e uses)).mpr
      ⟨earlier,listed,reachedFrom_uses s earlier.1 d e reached uses⟩
    exact ⟨before,walked_keeps walked e.name before seen⟩
  · obtain rfl := emitted_of_name distinct walked d known entity member same
    exact walked_accounted walked e (walked_uses walked entity member e uses)

private theorem visited_reached (covers : s.Covers v starts)
    (walked : s.Walked v [(⟨root,inside⟩,depth)] after es) (d : TypeDef) (reaches : s.Reaches root d) :
    ∃ emitted, after.emitted? d.name = some emitted := by
  induction reaches with
  | refl => exact walked_accounted walked root (walked_pending walked (⟨root,inside⟩,depth) (by simp))
  | @tail d e path uses ih =>
    exact visited_uses distinct covers walked d e (reaches_mem s root d inside path) ih uses

/-- One walk emits what its start reaches and no earlier start did. -/
theorem walked_emits (resolved : s.resolve start = .ok root) (covers : s.Covers v starts)
    (walked : s.Walked v [(⟨root,inside⟩,depth)] after es) (d : TypeDef) :
    d ∈ es.map (·.definition) ↔
      s.ReachedFrom start d ∧ ∀ earlier ∈ starts, ¬ s.ReachedFrom earlier.1 d := by
  rw [reachedFrom_iff s start root d resolved]
  constructor
  · intro listed
    obtain ⟨e,member,rfl⟩ := List.mem_map.mp listed
    obtain ⟨p,pending,reaches⟩ := walked_reached walked e member
    obtain rfl := List.mem_singleton.mp pending
    refine ⟨reaches,fun earlier listed reached => ?_⟩
    obtain ⟨emitted,taken⟩ := (covers _ (reachedFrom_mem s earlier.1 _ reached)).mpr
      ⟨earlier,listed,reached⟩
    simp [walked_fresh walked e member] at taken
  · rintro ⟨reaches,unseen⟩
    have known := reaches_mem s root d inside reaches
    obtain ⟨emitted,taken⟩ := visited_reached distinct covers walked d reaches
    rcases (walked_taken walked d.name emitted).mp taken with old | ⟨e,member,same,_⟩
    · obtain ⟨earlier,listed,reached⟩ := (covers d known).mp ⟨emitted,old⟩
      exact absurd reached (unseen earlier listed)
    · exact List.mem_map.mpr ⟨e,member,emitted_of_name distinct walked d known e member same⟩

theorem walked_covers (resolved : s.resolve start = .ok root) (covers : s.Covers v starts)
    (walked : s.Walked v [(⟨root,inside⟩,depth)] after es) :
    s.Covers after (starts ++ [(start,depth)]) := by
  intro d known
  simp only [List.mem_append,List.mem_singleton,or_and_right,exists_or,exists_eq_left]
  constructor
  · rintro ⟨emitted,taken⟩
    rcases (walked_taken walked d.name emitted).mp taken with old | ⟨e,member,same,_⟩
    · exact .inl ((covers d known).mp ⟨emitted,old⟩)
    · obtain rfl := emitted_of_name distinct walked d known e member same
      exact .inr ((walked_emits distinct resolved covers walked _).mp
        (List.mem_map_of_mem member)).1
  · rintro (⟨earlier,listed,reached⟩ | reached)
    · obtain ⟨emitted,taken⟩ := (covers d known).mpr ⟨earlier,listed,reached⟩
      exact ⟨emitted,walked_keeps walked d.name emitted taken⟩
    · exact visited_reached distinct covers walked d
        ((reachedFrom_iff s start root d resolved).mp reached)

variable (closed : s.Closed)
include closed

/-- One call over visits that cover the earlier starts: it succeeds, and covers one start more. -/
theorem collect_covers (covers : s.Covers v starts) (start : String × Nat)
    (resolves : ∃ root, s.resolve start.1 = .ok root) :
    ∃ after es, s.collect start.1 start.2 v = (after,.ok es) ∧
      (es.map (·.definition)).Nodup ∧ s.Covers after (starts ++ [start]) ∧
      ∀ d, d ∈ es.map (·.definition) ↔
        s.ReachedFrom start.1 d ∧ ∀ earlier ∈ starts, ¬ s.ReachedFrom earlier.1 d := by
  obtain ⟨root,resolved⟩ := resolves
  obtain ⟨after,es,ok⟩ := visitAll_closed s closed v [(⟨root,mem_of_resolve resolved⟩,start.2)]
  have walked := visitAll_walked s v after _ es ok
  refine ⟨after,es,?_,?_,walked_covers distinct resolved covers walked,
    walked_emits distinct resolved covers walked⟩
  · rw [collect_resolved s start.1 start.2 v root resolved,ok]
  · refine List.Nodup.of_map (·.name) ?_
    rw [List.map_map]
    exact walked_distinct walked

theorem collectAll_runs (covers : s.Covers v starts) (later : List (String × Nat))
    (resolves : ∀ start ∈ later, ∃ root, s.resolve start.1 = .ok root) :
    ∃ runs : List (List Entity), (s.collectAll v later).2 = runs.map .ok ∧
      ∀ k start, later[k]? = some start → ∃ es, runs[k]? = some es ∧
        (es.map (·.definition)).Nodup ∧ ∀ d, d ∈ es.map (·.definition) ↔
          s.ReachedFrom start.1 d ∧ ∀ earlier ∈ starts ++ later.take k, ¬ s.ReachedFrom earlier.1 d := by
  induction later generalizing v starts with
  | nil => exact ⟨[],rfl,by simp⟩
  | cons start later ih =>
    obtain ⟨between,es,ok,once,covered,emits⟩ :=
      collect_covers distinct closed covers start (resolves start (by simp))
    obtain ⟨runs,results,each⟩ := ih covered fun other member => resolves other (by simp [member])
    refine ⟨es :: runs,by simp [collectAll,ok,results],?_⟩
    intro k other found
    cases k with
    | zero =>
      obtain rfl : start = other := by simpa using found
      exact ⟨es,rfl,once,by simpa using emits⟩
    | succ k => simpa using each k other (by simpa using found)

/-- Together, walks emit what any of their starts reaches beyond what is already visited. -/
theorem mem_collectAll (covers : s.Covers v starts) (later : List (String × Nat))
    (resolves : ∀ start ∈ later, ∃ root, s.resolve start.1 = .ok root) (d : TypeDef) :
    d ∈ (s.collectAll v later).2.flatMap emittedTypes ↔
      (∃ start ∈ later, s.ReachedFrom start.1 d) ∧
        ∀ earlier ∈ starts, ¬ s.ReachedFrom earlier.1 d := by
  induction later generalizing v starts with
  | nil => simp [collectAll]
  | cons start later ih =>
    obtain ⟨between,es,ok,_,covered,emits⟩ :=
      collect_covers distinct closed covers start (resolves start (by simp))
    have rest := ih covered fun other member => resolves other (by simp [member])
    simp only [List.mem_append,List.mem_singleton,or_imp,forall_and,forall_eq] at rest
    simp only [collectAll,ok,List.flatMap_cons,List.mem_append,rest,emittedTypes,emits,
      List.mem_cons,or_and_right,exists_or,exists_eq_left]
    by_cases here : s.ReachedFrom start.1 d <;> simp [here]

end

theorem none_covers (s : Schema) : s.Covers .none [] := by simp [Covers,Visits.none,Visits.emitted?]

/-- Walks that share their visits all succeed, and each emits exactly the types that its start
reaches and no earlier start did, each of them once. What they emit together does not depend on
their order. -/
theorem collectAll_reached (s : Schema) (closed : s.Closed)
    (distinct : (s.types.map (·.name)).Nodup) (starts : List (String × Nat))
    (resolves : ∀ start ∈ starts, ∃ root, s.resolve start.1 = .ok root) :
    (∃ runs : List (List Entity), (s.collectAll .none starts).2 = runs.map .ok ∧
      ∀ k start, starts[k]? = some start → ∃ es, runs[k]? = some es ∧
        (es.map (·.definition)).Nodup ∧ ∀ d, d ∈ es.map (·.definition) ↔
          s.ReachedFrom start.1 d ∧ ∀ earlier ∈ starts.take k, ¬ s.ReachedFrom earlier.1 d) ∧
    ∀ others : List (String × Nat), others.Perm starts →
      ∀ d, d ∈ s.emittedBy others ↔ d ∈ s.emittedBy starts := by
  refine ⟨by simpa using collectAll_runs distinct closed (none_covers s) starts resolves,?_⟩
  intro others same d
  have together := mem_collectAll distinct closed (none_covers s) starts resolves d
  have reordered := mem_collectAll distinct closed (none_covers s) others
    (fun start member => resolves start (same.mem_iff.mp member)) d
  unfold emittedBy
  rw [together,reordered]
  simp only [same.mem_iff]

/-- Two messages that point to each other, the second one also to a message that holds itself. -/
def ring : Schema := ofList [message "A" ["B"],message "B" ["A","C"],message "C" ["C"]]
where
  message (name : String) (fields : List String) : TypeDef :=
    ⟨name,"p." ++ name,name,"","p.proto",.message (fields.map fun used =>
      ⟨"of" ++ used,used,some ⟨"p." ++ used,used⟩,""⟩)⟩

private def ringA : { d : TypeDef // d ∈ ring.types } := ⟨ring.message "A" ["B"],.tail _ (.tail _ (.head _))⟩

private def ringB : { d : TypeDef // d ∈ ring.types } := ⟨ring.message "B" ["A","C"],.tail _ (.head _)⟩

private def ringC : { d : TypeDef // d ∈ ring.types } := ⟨ring.message "C" ["C"],.head _⟩

private theorem ring_first : ring.collect "C" 1 .none = (⟨[("C","C")],[]⟩,.ok [⟨ringC,1⟩]) := by
  have course : ring.Walked .none [(ringC,1)] ⟨[("C","C")],[]⟩ [⟨ringC,1⟩] :=
    .emit _ _ _ _ [(ringC,2)] _ rfl rfl (.met _ _ _ _ _ "C" rfl (.nil _))
  exact (ring.collect_resolved "C" 1 .none ringC rfl).trans (ring.walked_visitAll _ _ _ _ course)

private theorem ring_second : ring.collect ".p.A" 0 ⟨[("C","C")],[]⟩ =
    (⟨[("B","B"),("A","A"),("C","C")],[]⟩,.ok [⟨ringA,0⟩,⟨ringB,1⟩]) := by
  have course : ring.Walked ⟨[("C","C")],[]⟩ [(ringA,0)] ⟨[("B","B"),("A","A"),("C","C")],[]⟩
      [⟨ringA,0⟩,⟨ringB,1⟩] := by
    refine .emit _ _ _ _ [(ringB,1)] _ (by decide) rfl ?_
    refine .emit _ _ _ _ [(ringA,2),(ringC,2)] _ (by decide) rfl ?_
    refine .met _ _ _ _ _ "A" (by decide) ?_
    exact .met _ _ _ _ _ "C" (by decide) (.nil _)
  exact (ring.collect_resolved ".p.A" 0 _ ringA rfl).trans (ring.walked_visitAll _ _ _ _ course)

private theorem ring_third : ring.collect "B" 0 ⟨[("B","B"),("A","A"),("C","C")],[]⟩ =
    (⟨[("B","B"),("A","A"),("C","C")],[]⟩,.ok []) := by
  have course : ring.Walked ⟨[("B","B"),("A","A"),("C","C")],[]⟩ [(ringB,0)]
      ⟨[("B","B"),("A","A"),("C","C")],[]⟩ [] := .met _ _ _ _ _ "B" (by decide) (.nil _)
  exact (ring.collect_resolved "B" 0 _ ringB rfl).trans (ring.walked_visitAll _ _ _ _ course)

/-- The first walk emits the third message, the second one both others, and the third one nothing. -/
theorem ring_walks : ring.Closed ∧ (ring.types.map (·.name)).Nodup ∧
    (∀ start ∈ [("C",1),(".p.A",0),("B",0)], ∃ root, ring.resolve start.1 = .ok root) ∧
    (∃ runs : List (List Entity),
      (ring.collectAll .none [("C",1),(".p.A",0),("B",0)]).2 = runs.map .ok) ∧
    (ring.collectAll .none [("C",1),(".p.A",0),("B",0)]).2 = [.ok [⟨ring.message "C" ["C"],1⟩],
      .ok [⟨ring.message "A" ["B"],0⟩,⟨ring.message "B" ["A","C"],1⟩],.ok []] ∧
    ∀ d, d ∈ ring.emittedBy [("B",0),("C",1),(".p.A",0)] ↔
      d ∈ ring.emittedBy [("C",1),(".p.A",0),("B",0)] := by
  have closed : ring.Closed := by decide
  have distinct : (ring.types.map (·.name)).Nodup := by decide
  have resolves : ∀ start ∈ [("C",1),(".p.A",0),("B",0)], ∃ root, ring.resolve start.1 = .ok root := by
    simp only [List.forall_mem_cons]
    exact ⟨⟨_,rfl⟩,⟨_,rfl⟩,⟨_,rfl⟩,by simp⟩
  have emits : (ring.collectAll .none [("C",1),(".p.A",0),("B",0)]).2 =
      [.ok [⟨ringC,1⟩],.ok [⟨ringA,0⟩,⟨ringB,1⟩],.ok []] := by
    simp only [collectAll,ring_first,ring_second,ring_third]
  obtain ⟨⟨runs,succeed,_⟩,order⟩ := collectAll_reached ring closed distinct _ resolves
  exact ⟨closed,distinct,resolves,⟨runs,succeed⟩,emits,order _ (by decide)⟩

end ReferenceSite.Schema
