import Mathlib.Data.Finset.Card
import ReferenceSite.Proofs.Proto.WalkReach

/-! A walk as calls inside calls. A call for a type answers at once if its name is taken; else it takes the
name and makes a call for each target of the type in turn, from the visits that the calls before left
behind. A call that another one makes starts with fewer free names, so calls never nest deeper than there
are local names in the schema, and one more. -/
namespace ReferenceSite

/-- What a walk leaves behind: the visits, and what it emits or why it failed. -/
abbrev Outcome := Visits × Except SchemaFault (List Entity)

/-- One outcome and then another from its visits, unless it is a failure. -/
def Outcome.followedBy : Outcome → (Visits → Outcome) → Outcome
  | (v,.error fault),_ => (v,.error fault)
  | (v,.ok es),next => ((next v).1,(es ++ ·) <$> (next v).2)

namespace Visits

/-- What is taken stays taken, by the same type. -/
def Grows (v after : Visits) : Prop := ∀ name emitted, v.emitted? name = some emitted → after.emitted? name = some emitted

theorem Grows.trans {v between after : Visits} (first : v.Grows between) (second : between.Grows after) :
    v.Grows after := fun name emitted taken => second name emitted (first name emitted taken)

theorem grows_meet (v : Visits) (d : TypeDef) (emitted : String) : v.Grows (v.meet d emitted) :=
  fun _ _ taken => (emitted?_meet ..).trans taken

theorem grows_take (v : Visits) (d : TypeDef) (free : v.emitted? d.name = Option.none) : v.Grows (v.take d) := by
  intro name emitted taken
  have other : d.name ≠ name := by
    rintro rfl
    rw [free] at taken
    cases taken
  rw [emitted?_take,if_neg other,taken]

end Visits

namespace Schema
variable {s : Schema}

/-- Calls one after the other, up to the first that fails. Without an answer of one of them there is none. -/
def inTurn (call : Visits → s.Pending → Option Outcome) (v : Visits) : List s.Pending → Option Outcome
  | [] => some (v,.ok [])
  | p :: rest =>
    match call v p with
    | none => none
    | some (v,.error fault) => some (v,.error fault)
    | some (v,.ok es) => (inTurn call v rest).map fun (v,more) => (v,(es ++ ·) <$> more)

/-- The call for a type, with room for so many calls inside each other. It has no answer if the room does
not suffice. -/
def nested (s : Schema) : Nat → Visits → s.Pending → Option Outcome
  | 0,_,_ => none
  | room + 1,v,p =>
    match v.emitted? p.1.1.name with
    | some emitted => some (v.meet p.1.1 emitted,.ok [])
    | none =>
      match s.follow p.2 p.1.1.targets with
      | .error fault => some (v.take p.1.1,.error fault)
      | .ok targets =>
        (inTurn (s.nested room) (v.take p.1.1) targets).map fun (v,reached) => (v,(⟨p.1.1,p.2⟩ :: ·) <$> reached)

/-- A walk by calls that nest, from the type that `start` names. -/
def collectNested (s : Schema) (room : Nat) (start : String) (depth : Nat) (v : Visits) : Option Outcome :=
  match h : s.resolve start with
  | .error fault => some (v,.error fault)
  | .ok d => s.nested room v (⟨d,mem_of_resolve h⟩,depth)

/-- One call makes another: its own name is free, all targets of its type are known, and the calls for the
targets before this one have ended well. -/
inductive Calls (s : Schema) : Visits × s.Pending → Visits × s.Pending → Prop
  | target (v between : Visits) (p q : s.Pending) (before behind : List s.Pending) (room : Nat)
      (es : List Entity) (free : v.emitted? p.1.1.name = none)
      (found : s.follow p.2 p.1.1.targets = .ok (before ++ q :: behind))
      (earlier : inTurn (s.nested room) (v.take p.1.1) before = some (between,.ok es)) :
      Calls s (v,p) (between,q)

/-! The local names of a schema, and those of them that no visited type has taken. -/

def localNames (s : Schema) : Finset String := (s.types.map (·.name)).toFinset

def freeNames (s : Schema) (v : Visits) : Finset String := s.localNames.filter fun name => v.emitted? name = none

theorem freeNames_grows {v after : Visits} (grows : v.Grows after) : s.freeNames after ⊆ s.freeNames v := by
  intro name member
  obtain ⟨known,free⟩ := Finset.mem_filter.mp member
  refine Finset.mem_filter.mpr ⟨known,?_⟩
  cases taken : v.emitted? name with
  | none => rfl
  | some emitted =>
    rw [grows name emitted taken] at free
    cases free

theorem freeNames_take {v : Visits} {d : TypeDef} (inside : d ∈ s.types) (free : v.emitted? d.name = none) :
    (s.freeNames (v.take d)).card < (s.freeNames v).card := by
  apply Finset.card_lt_card
  refine ⟨freeNames_grows (v.grows_take d free),fun all => ?_⟩
  have known : d.name ∈ s.localNames := List.mem_toFinset.mpr (List.mem_map_of_mem inside)
  have still := all (Finset.mem_filter.mpr ⟨known,free⟩)
  simp [freeNames] at still

theorem freeNames_card_le (s : Schema) (v : Visits) : (s.freeNames v).card ≤ s.localNames.card :=
  Finset.card_filter_le ..

/-! The walk through pending types, taken apart into the walks through each of them. -/

theorem visitAll_grows (v : Visits) (pending : List s.Pending) : v.Grows (s.visitAll v pending).1 := by
  fun_induction visitAll s v pending with
  | case1 v => exact fun _ _ taken => taken
  | case2 v d inside depth rest emitted taken ih => exact (v.grows_meet d emitted).trans ih
  | case3 v d inside depth rest free fault missing => exact v.grows_take d free
  | case4 v d inside depth rest free targets found between reached run ih =>
    rw [run] at ih
    exact (v.grows_take d free).trans ih

theorem visitAll_takes (v : Visits) (p : s.Pending) (free : v.emitted? p.1.1.name = none) :
    (v.take p.1.1).Grows (s.visitAll v [p]).1 := by
  cases found : s.follow p.2 p.1.1.targets with
  | error fault =>
    rw [visitAll_unknown v p [] fault free found]
    exact fun _ _ taken => taken
  | ok targets =>
    rw [visitAll_entered v p [] targets free found]
    exact visitAll_grows _ _

theorem visitAll_append (v : Visits) (first second : List s.Pending) :
    s.visitAll v (first ++ second) = Outcome.followedBy (s.visitAll v first) (s.visitAll · second) := by
  fun_induction visitAll s v first with
  | case1 v =>
    refine Prod.ext rfl ?_
    dsimp only [List.nil_append,Outcome.followedBy]
    cases (s.visitAll v second).2 <;> rfl
  | case2 v d inside depth rest emitted taken ih =>
    rw [List.cons_append,visitAll_taken v (⟨d,inside⟩,depth) _ emitted taken,ih]
  | case3 v d inside depth rest free fault missing =>
    rw [List.cons_append,visitAll_unknown v (⟨d,inside⟩,depth) _ fault free missing]
    rfl
  | case4 v d inside depth rest free targets found between reached run ih =>
    rw [List.cons_append,visitAll_entered v (⟨d,inside⟩,depth) _ targets free found,← List.append_assoc,ih,run]
    cases reached with
    | error fault => rfl
    | ok es =>
      refine Prod.ext rfl ?_
      change _ <$> _ <$> (s.visitAll between second).2 = ((⟨d,depth⟩ :: es) ++ ·) <$> (s.visitAll between second).2
      cases (s.visitAll between second).2 <;> rfl

/-! The answers of nested calls, and the room that they need. -/

theorem inTurn_eq {call : Visits → s.Pending → Option Outcome}
    (answers : ∀ v p outcome, call v p = some outcome → outcome = s.visitAll v [p]) (v : Visits)
    (pending : List s.Pending) (outcome : Outcome) (answered : inTurn call v pending = some outcome) :
    outcome = s.visitAll v pending := by
  induction pending generalizing v outcome with
  | nil =>
    rw [visitAll]
    exact (Option.some.inj answered).symm
  | cons p rest ih =>
    rw [← List.singleton_append,visitAll_append]
    cases first : call v p with
    | none => simp [inTurn,first] at answered
    | some one =>
      rw [← answers v p one first]
      obtain ⟨between,fault | es⟩ := one
      · rw [inTurn,first] at answered
        exact (Option.some.inj answered).symm
      · rw [inTurn,first] at answered
        obtain ⟨more,later,rfl⟩ := Option.map_eq_some_iff.mp answered
        rw [ih between more later]
        rfl

/-- A call answers what the walk through its type leaves behind. -/
theorem nested_eq (room : Nat) (v : Visits) (p : s.Pending) (outcome : Outcome)
    (answered : s.nested room v p = some outcome) : outcome = s.visitAll v [p] := by
  induction room generalizing v p outcome with
  | zero => cases answered
  | succ room ih =>
    rw [nested] at answered
    split at answered
    · rename_i emitted taken
      rw [visitAll_taken v p [] emitted taken,visitAll]
      exact (Option.some.inj answered).symm
    · rename_i free
      split at answered
      · rename_i fault missing
        rw [visitAll_unknown v p [] fault free missing]
        exact (Option.some.inj answered).symm
      · rename_i targets found
        obtain ⟨below,inner,rfl⟩ := Option.map_eq_some_iff.mp answered
        rw [visitAll_entered v p [] targets free found,List.append_nil,← inTurn_eq ih _ _ _ inner]

theorem inTurn_answers {call : Visits → s.Pending → Option Outcome} {room : Nat}
    (answers : ∀ v p outcome, call v p = some outcome → outcome = s.visitAll v [p])
    (enough : ∀ v p, (s.freeNames v).card < room → ∃ outcome, call v p = some outcome) (v : Visits)
    (pending : List s.Pending) (room_left : (s.freeNames v).card < room) :
    ∃ outcome, inTurn call v pending = some outcome := by
  induction pending generalizing v with
  | nil => exact ⟨_,rfl⟩
  | cons p rest ih =>
    obtain ⟨one,first⟩ := enough v p room_left
    have grows := visitAll_grows v [p]
    rw [← answers v p one first] at grows
    rw [inTurn,first]
    obtain ⟨between,fault | es⟩ := one
    · exact ⟨_,rfl⟩
    · have fewer := Finset.card_le_card (freeNames_grows (s := s) grows)
      obtain ⟨more,later⟩ := ih between (Nat.lt_of_le_of_lt fewer room_left)
      exact ⟨_,Option.map_eq_some_iff.mpr ⟨more,later,rfl⟩⟩

/-- Room for all names that are still free and one call more suffices. -/
theorem nested_answers (room : Nat) (v : Visits) (p : s.Pending) (enough : (s.freeNames v).card < room) :
    ∃ outcome, s.nested room v p = some outcome := by
  induction room generalizing v p with
  | zero => omega
  | succ room ih =>
    rw [nested]
    split
    · exact ⟨_,rfl⟩
    · rename_i free
      split
      · exact ⟨_,rfl⟩
      · rename_i targets found
        have fewer := freeNames_take p.1.2 free
        obtain ⟨below,inner⟩ := inTurn_answers (nested_eq room) ih (v.take p.1.1) targets (by omega)
        exact ⟨_,Option.map_eq_some_iff.mpr ⟨below,inner,rfl⟩⟩

theorem nested_visitAll (room : Nat) (v : Visits) (p : s.Pending) (enough : (s.freeNames v).card < room) :
    s.nested room v p = some (s.visitAll v [p]) := by
  obtain ⟨outcome,answered⟩ := nested_answers room v p enough
  rw [answered,nested_eq room v p outcome answered]

theorem nested_grows (room : Nat) (v after : Visits) (p : s.Pending)
    (result : Except SchemaFault (List Entity)) (answered : s.nested room v p = some (after,result)) :
    v.Grows after := by
  have grows := visitAll_grows v [p]
  rwa [← nested_eq room v p _ answered] at grows

/-- The measure of nested calls: a call that another one makes starts with fewer free names. -/
theorem calls_fewer {v between : Visits} {p q : s.Pending} (calls : s.Calls (v,p) (between,q)) :
    v.Grows between ∧ (s.freeNames between).card < (s.freeNames v).card := by
  cases calls with
  | target _ _ _ _ before behind room es free found earlier =>
    have later := visitAll_grows (v.take p.1.1) before
    rw [← inTurn_eq (nested_eq room) _ _ _ earlier] at later
    exact ⟨(v.grows_take p.1.1 free).trans later,
      Nat.lt_of_le_of_lt (Finset.card_le_card (freeNames_grows later)) (freeNames_take p.1.2 free)⟩

theorem chain_bound (c : Visits × s.Pending) (cs : List (Visits × s.Pending))
    (chain : (c :: cs).IsChain s.Calls) : cs.length ≤ (s.freeNames c.1).card := by
  induction cs generalizing c with
  | nil => exact Nat.zero_le _
  | cons next cs ih =>
    obtain ⟨calls,tail⟩ := List.isChain_cons_cons.mp chain
    have fewer := (calls_fewer calls).2
    have := ih next tail
    rw [List.length_cons]
    omega

theorem collectNested_eq (room : Nat) (start : String) (depth : Nat) (v : Visits)
    (enough : (s.freeNames v).card < room) :
    s.collectNested room start depth v = some (s.collect start depth v) := by
  unfold collectNested
  split
  · rename_i fault unresolved
    rw [collect_unresolved s start depth v fault unresolved]
  · rename_i d resolved
    rw [collect_resolved s start depth v d resolved]
    exact nested_visitAll room v _ enough

/-- Every walk ends, over any schema and visits and from any start: calls that nest answer what the walk
does, with room for one call more than there are local names. A call that another one makes starts with
fewer free names, so no chain of calls is longer than this; what a call takes stays taken, also if it
fails, and a call that is not answered at once leaves fewer names free. -/
theorem collect_nested (s : Schema) :
    (∀ start depth v, s.collectNested (s.localNames.card + 1) start depth v = some (s.collect start depth v)) ∧
    (∀ v p between q, s.Calls (v,p) (between,q) → (s.freeNames between).card < (s.freeNames v).card) ∧
    (∀ calls : List (Visits × s.Pending), calls.IsChain s.Calls → calls.length ≤ s.localNames.card + 1) ∧
    ∀ room v p after result, s.nested room v p = some (after,result) →
      v.Grows after ∧ (v.emitted? p.1.1.name = none → (s.freeNames after).card < (s.freeNames v).card) := by
  refine ⟨fun start depth v => ?_,fun v p between q calls => (calls_fewer calls).2,fun calls chain => ?_,
    fun room v p after result answered => ⟨nested_grows room v after p result answered,fun free => ?_⟩⟩
  · have few := s.freeNames_card_le v
    exact collectNested_eq _ start depth v (by omega)
  · cases calls with
    | nil => exact Nat.zero_le _
    | cons c cs =>
      have few := s.freeNames_card_le c.1
      have short := chain_bound c cs chain
      rw [List.length_cons]
      omega
  · have later := visitAll_takes v p free
    rw [← nested_eq room v p _ answered] at later
    exact Nat.lt_of_le_of_lt (Finset.card_le_card (freeNames_grows later)) (freeNames_take p.1.2 free)

/-- The ring of types fills the room: its three names are taken inside each other, and the last call meets
the name of the message that holds itself. -/
theorem ring_nested : ring.localNames.card = 3 ∧ ring.collectNested 3 "p.A" 0 .none = none ∧
    ring.collectNested 4 "p.A" 0 .none = some (ring.collect "p.A" 0 .none) ∧
    ∃ a b between, ring.Calls (.none,a) (between,b) ∧
      (ring.freeNames between).card < (ring.freeNames .none).card := by
  obtain ⟨answers,fewer,_⟩ := collect_nested ring
  have calls : ring.Calls (.none,(⟨ring.message "A" ["B"],by decide⟩,0))
      (Visits.none.take (ring.message "A" ["B"]),(⟨ring.message "B" ["A","C"],by decide⟩,1)) :=
    .target _ _ _ _ [] [] 0 [] (by decide) rfl rfl
  exact ⟨by decide,rfl,answers "p.A" 0 .none,_,_,_,calls,fewer _ _ _ _ calls⟩

end Schema
end ReferenceSite
