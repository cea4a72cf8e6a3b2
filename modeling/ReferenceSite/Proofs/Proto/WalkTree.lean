import ReferenceSite.Proofs.Proto.WalkReach

/-! The tree that a walk goes through, depth first. The types a walk emits are the tree's nodes in
preorder: each of them but the first has its parent before it, one level up, with only deeper types
between the two, and the children of one parent stand in the order of its fields. -/
namespace ReferenceSite.Schema

/-- What pending types bring, one after the other. A type is passed over, or it stands before what
its own targets bring; none of the types behind that is the same. -/
inductive Brings (s : Schema) : List s.Pending → List Entity → Prop
  | nil : Brings s [] []
  | pass (p : s.Pending) (rest : List s.Pending) (es : List Entity)
      (apart : ∀ e ∈ es, e.definition ≠ p.1.1) (tail : Brings s rest es) : Brings s (p :: rest) es
  | emit (p : s.Pending) (rest targets : List s.Pending) (below es : List Entity)
      (found : s.follow p.2 p.1.1.targets = .ok targets) (apart : ∀ e ∈ es, e.definition ≠ p.1.1)
      (inner : Brings s targets below) (tail : Brings s rest es) :
      Brings s (p :: rest) (⟨p.1.1,p.2⟩ :: below ++ es)

theorem brings_append (s : Schema) (first second : List s.Pending) (es : List Entity)
    (brings : s.Brings (first ++ second) es) :
    ∃ before behind, es = before ++ behind ∧ s.Brings first before ∧ s.Brings second behind := by
  induction first generalizing es with
  | nil => exact ⟨[],es,rfl,.nil,brings⟩
  | cons p first ih =>
    cases brings with
    | pass _ _ _ apart tail =>
      obtain ⟨before,behind,rfl,left,right⟩ := ih es tail
      exact ⟨before,behind,rfl,.pass p first before (fun e member => apart e (by simp [member])) left,right⟩
    | emit _ _ targets below rest found apart inner tail =>
      obtain ⟨before,behind,rfl,left,right⟩ := ih rest tail
      refine ⟨⟨p.1.1,p.2⟩ :: below ++ before,behind,by simp,?_,right⟩
      exact .emit p first targets below before found (fun e member => apart e (by simp [member])) inner left

theorem walked_brings {s : Schema} {v after : Visits} {pending : List s.Pending} {es : List Entity}
    (walked : s.Walked v pending after es) : s.Brings pending es := by
  induction walked with
  | nil => exact .nil
  | met v after p rest es emitted taken tail ih =>
    refine .pass p rest es ?_ ih
    intro e member same
    have fresh := walked_fresh tail e member
    simp [same,taken] at fresh
  | emit v after p rest targets es free found tail ih =>
    obtain ⟨below,behind,rfl,inner,outer⟩ := brings_append s targets rest es ih
    refine .emit p rest targets below behind found ?_ inner outer
    intro e member same
    have fresh := walked_fresh tail e (by simp [member])
    simp [same] at fresh

/-! Parents by their position in the list. -/

/-- The parent of what stands at `i` stands at `j`: a field of it points there, and only deeper types
stand between. -/
def IsParent (s : Schema) (es : List Entity) (j i : Nat) : Prop :=
  j < i ∧ ∃ parent child, es[j]? = some parent ∧ es[i]? = some child ∧
    child.depth = parent.depth + 1 ∧ s.Uses parent.definition child.definition ∧
    ∀ k e, j < k → k < i → es[k]? = some e → parent.depth < e.depth

/-- The first field of a type that points to another one, among the fields that point to types. -/
def firstUse (s : Schema) (d e : TypeDef) : Nat :=
  d.targets.findIdx fun target => s.get? target.qualifiedName = some e

theorem isParent_left (s : Schema) (es more : List Entity) (j i : Nat) (inside : i < es.length) :
    s.IsParent (es ++ more) j i ↔ s.IsParent es j i := by
  unfold IsParent
  refine and_congr_right fun before => ?_
  have same : ∀ k, k ≤ i → (es ++ more)[k]? = es[k]? := fun k near =>
    List.getElem?_append_left (by omega)
  constructor
  · rintro ⟨parent,child,hp,hc,deeper,uses,between⟩
    rw [same j (by omega)] at hp
    rw [same i (Nat.le_refl i)] at hc
    exact ⟨parent,child,hp,hc,deeper,uses,fun k e low high found =>
      between k e low high ((same k (by omega)).trans found)⟩
  · rintro ⟨parent,child,hp,hc,deeper,uses,between⟩
    refine ⟨parent,child,(same j (by omega)).trans hp,(same i (Nat.le_refl i)).trans hc,deeper,uses,?_⟩
    exact fun k e low high found => between k e low high ((same k (by omega)).symm.trans found)

theorem isParent_right (s : Schema) (front es : List Entity) (j i : Nat) :
    s.IsParent (front ++ es) (front.length + j) (front.length + i) ↔ s.IsParent es j i := by
  have same : ∀ k, (front ++ es)[front.length + k]? = es[k]? := fun k => by
    rw [List.getElem?_append_right (by omega),Nat.add_sub_cancel_left]
  unfold IsParent
  simp only [same,Nat.add_lt_add_iff_left]
  refine and_congr_right fun _ => exists_congr fun parent => exists_congr fun child => ?_
  refine and_congr_right fun _ => and_congr_right fun _ => and_congr_right fun _ =>
    and_congr_right fun _ => ?_
  constructor
  · exact fun between k e low high found =>
      between (front.length + k) e (by omega) (by omega) ((same k).trans found)
  · intro between k e low high found
    obtain ⟨n,rfl⟩ := Nat.exists_eq_add_of_le (show front.length ≤ k by omega)
    exact between n e (by omega) (by omega) ((same n).symm.trans found)

/-- Depths decide where a parent can stand, so there is one at most. -/
theorem isParent_unique (s : Schema) (es : List Entity) (j k i : Nat) (first : s.IsParent es j i)
    (second : s.IsParent es k i) : j = k := by
  obtain ⟨low,p,c,hp,hc,deeper,_,between⟩ := first
  obtain ⟨low',q,d,hq,hd,deeper',_,between'⟩ := second
  obtain rfl := Option.some.inj (hc.symm.trans hd)
  rcases Nat.lt_trichotomy j k with less | same | more
  · have := between k q less low' hq
    omega
  · exact same
  · have := between' j p more low hp
    omega

section
variable {s : Schema} {pending : List s.Pending} {es : List Entity} {depth : Nat}

theorem follow_depth (d : TypeDef) (found : s.follow depth d.targets = .ok pending) :
    ∀ p ∈ pending, p.2 = depth + 1 := by
  have related := follow_targets s depth d.targets pending found
  generalize d.targets = targets at related
  clear found
  induction related with
  | nil => simp
  | cons head tail ih => exact List.forall_mem_cons.mpr ⟨head.2,ih⟩

/-- The place of a type among what a type points to is its first field that points there. -/
theorem follow_firstUse (d e : TypeDef) (found : s.follow depth d.targets = .ok pending) :
    pending.findIdx (fun p => p.1.1 = e) = s.firstUse d e := by
  have related := follow_targets s depth d.targets pending found
  unfold firstUse
  generalize d.targets = targets at related
  clear found
  induction related with
  | nil => rfl
  | cons head tail ih =>
    simp only [List.findIdx_cons,head.1,Option.some.injEq,ih]

theorem brings_deep (level : ∀ p ∈ pending, p.2 = depth) (brings : s.Brings pending es) :
    ∀ e ∈ es, depth ≤ e.depth := by
  induction brings generalizing depth with
  | nil => simp
  | pass p rest es apart tail ih => exact ih fun q member => level q (by simp [member])
  | emit p rest targets below es found apart inner tail below_ih ih =>
    obtain rfl := level p (by simp)
    have deeper := below_ih (follow_depth p.1.1 found)
    have others := ih fun q member => level q (by simp [member])
    intro e member
    rcases List.mem_append.mp member with front | behind
    · rcases List.mem_cons.mp front with rfl | inside
      · exact Nat.le_refl _
      · exact Nat.le_of_succ_le (deeper e inside)
    · exact others e behind

theorem brings_first (level : ∀ p ∈ pending, p.2 = depth) (brings : s.Brings pending es) :
    ∀ e, es[0]? = some e → e.depth = depth := by
  induction brings with
  | nil => simp
  | pass p rest es apart tail ih => exact ih fun q member => level q (by simp [member])
  | emit p rest targets below es found apart inner tail below_ih ih =>
    rintro e first
    obtain rfl : (⟨p.1.1,p.2⟩ : Entity) = e := by simpa using first
    exact level p (by simp)

theorem isParent_cons (root : Entity) (below : List Entity) (j i : Nat) :
    s.IsParent (root :: below) (j + 1) (i + 1) ↔ s.IsParent below j i := by
  have right := isParent_right s [root] below j i
  rwa [List.length_singleton,Nat.add_comm 1 j,Nat.add_comm 1 i] at right

/-- Whatever is emitted was pending itself, or has its parent before it. -/
theorem brings_parent (level : ∀ p ∈ pending, p.2 = depth) (brings : s.Brings pending es) :
    ∀ (i : Nat) (e : Entity), es[i]? = some e →
      (e.depth = depth ∧ ∃ p ∈ pending, p.1.1 = e.definition) ∨ ∃ j, s.IsParent es j i := by
  induction brings generalizing depth with
  | nil => simp
  | pass p rest es apart tail ih =>
    intro i e here
    rcases ih (fun q member => level q (by simp [member])) i e here with ⟨same,q,member,known⟩ | inside
    · exact .inl ⟨same,q,by simp [member],known⟩
    · exact .inr inside
  | emit p rest targets below es found apart inner tail below_ih ih =>
    obtain rfl := level p (by simp)
    have lower := follow_depth p.1.1 found
    intro i e here
    rcases Nat.lt_or_ge i (below.length + 1) with front | behind
    · rw [List.getElem?_append_left (by simpa using front)] at here
      simp only [isParent_left s (⟨p.1.1,p.2⟩ :: below) es _ i (by simpa using front)]
      cases i with
      | zero =>
        obtain rfl : (⟨p.1.1,p.2⟩ : Entity) = e := by simpa using here
        exact .inl ⟨rfl,p,by simp,rfl⟩
      | succ i =>
        rw [List.getElem?_cons_succ] at here
        refine .inr ?_
        rcases below_ih lower i e here with ⟨same,used⟩ | ⟨j,parent⟩
        · have uses := (follow_uses s p.2 p.1.1 targets found e.definition).mpr used
          refine ⟨0,by omega,_,e,rfl,by simpa using here,same,uses,?_⟩
          intro k f low high between
          obtain ⟨k,rfl⟩ := Nat.exists_eq_succ_of_ne_zero (Nat.ne_of_gt low)
          have member := List.mem_of_getElem? (l := below) (by simpa using between)
          exact brings_deep lower inner f member
        · exact ⟨j + 1,(isParent_cons _ below j i).mpr parent⟩
    · obtain ⟨n,rfl⟩ := Nat.exists_eq_add_of_le behind
      have shift := isParent_right s (⟨p.1.1,p.2⟩ :: below) es
      rw [List.getElem?_append_right (by simp),List.length_cons,Nat.add_sub_cancel_left] at here
      rcases ih (fun q member => level q (by simp [member])) n e here with ⟨same,q,member,known⟩ | ⟨j,parent⟩
      · exact .inl ⟨same,q,by simp [member],known⟩
      · exact .inr ⟨_,(shift j n).mpr parent⟩

/-- A pending type that is not among the emitted ones does not change their order. -/
theorem order_behind (p : s.Pending) (rest : List s.Pending) (apart : ∀ e ∈ es, e.definition ≠ p.1.1)
    (order : es.Pairwise fun e f => e.depth = depth → f.depth = depth →
      rest.findIdx (fun q => q.1.1 = e.definition) < rest.findIdx (fun q => q.1.1 = f.definition)) :
    es.Pairwise fun e f => e.depth = depth → f.depth = depth →
      (p :: rest).findIdx (fun q => q.1.1 = e.definition) < (p :: rest).findIdx (fun q => q.1.1 = f.definition) := by
  refine List.Pairwise.imp_of_mem ?_ order
  intro e f he hf order first second
  have first := order first second
  simpa [List.findIdx_cons,(apart e he).symm,(apart f hf).symm] using first

/-- Types that were pending themselves are emitted in the order in which they came first. -/
theorem brings_roots (level : ∀ p ∈ pending, p.2 = depth) (brings : s.Brings pending es) :
    es.Pairwise fun e f => e.depth = depth → f.depth = depth →
      pending.findIdx (fun p => p.1.1 = e.definition) < pending.findIdx (fun p => p.1.1 = f.definition) := by
  induction brings with
  | nil => exact .nil
  | pass p rest es apart tail ih => exact order_behind p rest apart (ih fun q member => level q (by simp [member]))
  | emit p rest targets below es found apart inner tail below_ih ih =>
    obtain rfl := level p (by simp)
    have deeper := brings_deep (follow_depth p.1.1 found) inner
    have later := order_behind p rest apart (ih fun q member => level q (by simp [member]))
    rw [List.cons_append,List.pairwise_cons,List.pairwise_append]
    refine ⟨?_,List.Pairwise.imp_of_mem ?_ (List.pairwise_of_forall fun _ _ => trivial),later,?_⟩
    · intro f member _ same
      rcases List.mem_append.mp member with inside | behind
      · have := deeper f inside
        omega
      · simp [List.findIdx_cons,(apart f behind).symm]
    · intro e f he _ _ same
      have := deeper e he
      omega
    · intro e he f _ same
      have := deeper e he
      omega

end

/-! The order of siblings. -/

/-- The children of one parent stand in the order of its first fields that point to them. -/
def SiblingsInOrder (s : Schema) (es : List Entity) : Prop :=
  ∀ j i k parent e f, s.IsParent es j i → s.IsParent es j k → i < k →
    es[j]? = some parent → es[i]? = some e → es[k]? = some f →
      s.firstUse parent.definition e.definition < s.firstUse parent.definition f.definition

section
variable {s : Schema} {pending : List s.Pending} {front es : List Entity} {depth : Nat}

/-- What begins on a level has no parent on that level or below it. -/
theorem isParent_within (deep : ∀ e ∈ front, depth ≤ e.depth)
    (first : ∀ e, es[0]? = some e → e.depth = depth) (j i : Nat) (inside : j < front.length)
    (parent : s.IsParent (front ++ es) j i) : i < front.length := by
  by_contra outside
  obtain ⟨_,p,c,hp,hc,deeper,_,between⟩ := parent
  rw [List.getElem?_append_left inside] at hp
  have low := deep p (List.mem_of_getElem? hp)
  rw [List.getElem?_append_right (by omega)] at hc
  rcases Nat.eq_or_lt_of_le (Nat.le_of_not_lt outside) with here | past
  · rw [← here,Nat.sub_self] at hc
    have := first c hc
    omega
  · obtain ⟨short,_⟩ := List.getElem?_eq_some_iff.mp hc
    obtain ⟨top,head⟩ : ∃ top, es[0]? = some top := ⟨_,List.getElem?_eq_getElem (by omega)⟩
    have shallow := between front.length top inside past (by
      rw [List.getElem?_append_right (Nat.le_refl _),Nat.sub_self,head])
    rw [first top head] at shallow
    omega

theorem siblings_append (deep : ∀ e ∈ front, depth ≤ e.depth)
    (first : ∀ e, es[0]? = some e → e.depth = depth) (left : s.SiblingsInOrder front)
    (right : s.SiblingsInOrder es) : s.SiblingsInOrder (front ++ es) := by
  intro j i k parent e f hi hk order hp he hf
  rcases Nat.lt_or_ge j front.length with inside | outside
  · have ii := isParent_within deep first j i inside hi
    have kk := isParent_within deep first j k inside hk
    rw [List.getElem?_append_left inside] at hp
    rw [List.getElem?_append_left ii] at he
    rw [List.getElem?_append_left kk] at hf
    exact left j i k parent e f ((isParent_left s front es j i ii).mp hi)
      ((isParent_left s front es j k kk).mp hk) order hp he hf
  · obtain ⟨j,rfl⟩ := Nat.exists_eq_add_of_le outside
    obtain ⟨i,rfl⟩ := Nat.exists_eq_add_of_le (Nat.le_trans outside (Nat.le_of_lt hi.1))
    obtain ⟨k,rfl⟩ := Nat.exists_eq_add_of_le (Nat.le_trans outside (Nat.le_of_lt hk.1))
    rw [List.getElem?_append_right (by omega),Nat.add_sub_cancel_left] at hp he hf
    exact right j i k parent e f ((isParent_right s front es j i).mp hi)
      ((isParent_right s front es j k).mp hk) (by omega) hp he hf

theorem siblings_cons (root : Entity) (below : List Entity)
    (children : below.Pairwise fun e f => e.depth = root.depth + 1 → f.depth = root.depth + 1 →
      s.firstUse root.definition e.definition < s.firstUse root.definition f.definition)
    (inner : s.SiblingsInOrder below) : s.SiblingsInOrder (root :: below) := by
  intro j i k parent e f hi hk order hp he hf
  obtain ⟨i,rfl⟩ := Nat.exists_eq_succ_of_ne_zero (Nat.ne_zero_of_lt hi.1)
  obtain ⟨k,rfl⟩ := Nat.exists_eq_succ_of_ne_zero (Nat.ne_zero_of_lt hk.1)
  cases j with
  | zero =>
    obtain rfl : root = parent := by simpa using hp
    have depth_of (n : Nat) (g : Entity) (up : s.IsParent (root :: below) 0 (n + 1))
        (there : (root :: below)[n + 1]? = some g) : g.depth = root.depth + 1 := by
      obtain ⟨_,p,c,hp',hc,deeper,_⟩ := up
      obtain rfl := Option.some.inj (hp.symm.trans hp')
      obtain rfl := Option.some.inj (there.symm.trans hc)
      exact deeper
    rw [List.getElem?_cons_succ] at he hf
    obtain ⟨short,rfl⟩ := List.getElem?_eq_some_iff.mp he
    obtain ⟨short',rfl⟩ := List.getElem?_eq_some_iff.mp hf
    exact List.pairwise_iff_getElem.mp children i k short short' (by omega)
      (depth_of i _ hi (by simp)) (depth_of k _ hk (by simp))
  | succ j =>
    rw [List.getElem?_cons_succ] at hp he hf
    exact inner j i k parent e f ((isParent_cons root below j i).mp hi)
      ((isParent_cons root below j k).mp hk) (by omega) hp he hf

theorem brings_siblings (level : ∀ p ∈ pending, p.2 = depth) (brings : s.Brings pending es) :
    s.SiblingsInOrder es := by
  induction brings generalizing depth with
  | nil =>
    rintro j i k parent e f ⟨_,p,_,hp,_⟩
    simp at hp
  | pass p rest es apart tail ih => exact ih fun q member => level q (by simp [member])
  | emit p rest targets below es found apart inner tail below_ih ih =>
    obtain rfl := level p (by simp)
    have others : ∀ q ∈ rest, q.2 = p.2 := fun q member => level q (by simp [member])
    have lower := follow_depth p.1.1 found
    have deeper := brings_deep lower inner
    have children := brings_roots lower inner
    simp only [follow_firstUse p.1.1 _ found] at children
    have front : ∀ e ∈ (⟨p.1.1,p.2⟩ : Entity) :: below, p.2 ≤ e.depth :=
      List.forall_mem_cons.mpr ⟨Nat.le_refl _,fun e member => Nat.le_of_succ_le (deeper e member)⟩
    exact siblings_append front (brings_first others tail)
      (siblings_cons ⟨p.1.1,p.2⟩ below children (below_ih lower)) (ih others)

end

/-- Where everything but the first has a parent, no step goes down by more than one level. -/
theorem depth_step (s : Schema) (es : List Entity)
    (parents : ∀ i, 0 < i → i < es.length → ∃ j, s.IsParent es j i) (i : Nat) (e f : Entity)
    (here : es[i]? = some e) (next : es[i + 1]? = some f) : f.depth ≤ e.depth + 1 := by
  obtain ⟨short,_⟩ := List.getElem?_eq_some_iff.mp next
  obtain ⟨j,before,p,c,hp,hc,deeper,_,between⟩ := parents (i + 1) (by omega) short
  obtain rfl := Option.some.inj (next.symm.trans hc)
  rcases Nat.eq_or_lt_of_le (Nat.le_of_lt_succ before) with same | earlier
  · subst same
    obtain rfl := Option.some.inj (here.symm.trans hp)
    exact Nat.le_of_eq deeper
  · have := between i e earlier (by omega) here
    omega

theorem depth_bound (es : List Entity) (root : Entity) (first : es[0]? = some root)
    (steps : ∀ i e f, es[i]? = some e → es[i + 1]? = some f → f.depth ≤ e.depth + 1) (i : Nat)
    (e : Entity) (here : es[i]? = some e) : e.depth ≤ root.depth + i := by
  induction i generalizing e with
  | zero =>
    obtain rfl := Option.some.inj (first.symm.trans here)
    exact Nat.le_refl _
  | succ i ih =>
    obtain ⟨short,_⟩ := List.getElem?_eq_some_iff.mp here
    have before := List.getElem?_eq_getElem (l := es) (i := i) (by omega)
    have above := ih es[i] before
    have := steps i es[i] e before here
    omega

section
variable {s : Schema} {p : s.Pending} {es : List Entity}

theorem brings_single (brings : s.Brings [p] es) (emits : es ≠ []) :
    ∃ targets below, s.follow p.2 p.1.1.targets = .ok targets ∧ s.Brings targets below ∧
      es = ⟨p.1.1,p.2⟩ :: below := by
  cases brings with
  | pass _ _ _ _ tail =>
    cases tail
    exact absurd rfl emits
  | emit _ _ targets below rest found apart inner tail =>
    cases tail
    exact ⟨targets,below,found,inner,by simp⟩

theorem brings_single_parent (brings : s.Brings [p] es) (i : Nat) (later : 0 < i)
    (short : i < es.length) : ∃ j, s.IsParent es j i := by
  have level : ∀ q ∈ [p], q.2 = p.2 := by simp
  rcases brings_parent level brings i es[i] (List.getElem?_eq_getElem short) with ⟨same,_⟩ | up
  · obtain ⟨targets,below,found,inner,rfl⟩ := brings_single brings (List.ne_nil_of_length_pos (by omega))
    obtain ⟨i,rfl⟩ := Nat.exists_eq_succ_of_ne_zero (Nat.ne_of_gt later)
    have inside : i < below.length := by simpa using short
    have deeper := brings_deep (follow_depth p.1.1 found) inner below[i] (List.getElem_mem inside)
    simp only [Nat.succ_eq_add_one,List.getElem_cons_succ] at same
    omega
  · exact up

end

/-- A walk that emits anything goes through a tree, depth first: the start comes first, everything
else behind its only parent, and siblings in the order of the first fields that point to them. So
the depth grows by steps of one, and no further than the position. -/
theorem collect_depthFirst (s : Schema) (start : String) (depth : Nat) (v after : Visits)
    (es : List Entity) (ok : s.collect start depth v = (after,.ok es)) (emits : es ≠ []) :
    (∃ root, s.resolve start = .ok root ∧ es[0]? = some ⟨root,depth⟩) ∧
    (∀ i, 0 < i → i < es.length → ∃ j, s.IsParent es j i ∧ ∀ k, s.IsParent es k i → k = j) ∧
    s.SiblingsInOrder es ∧
    (∀ i e f, es[i]? = some e → es[i + 1]? = some f → f.depth ≤ e.depth + 1) ∧
    ∀ i e, es[i]? = some e → e.depth ≤ depth + i := by
  obtain ⟨root,resolved,ok⟩ := collect_ok s start depth v after es ok
  have brings := walked_brings (visitAll_walked s v after _ es ok)
  have parents := brings_single_parent brings
  have steps := depth_step s es parents
  obtain ⟨targets,below,_,_,same⟩ := brings_single brings emits
  have first : es[0]? = some ⟨root,depth⟩ := by rw [same]; rfl
  have level : ∀ p ∈ [((⟨root,mem_of_resolve resolved⟩,depth) : s.Pending)], p.2 = depth := by simp
  refine ⟨⟨root,resolved,first⟩,?_,brings_siblings level brings,steps,
    depth_bound es ⟨root,depth⟩ first steps⟩
  intro i later short
  obtain ⟨j,up⟩ := parents i later short
  exact ⟨j,up,fun k other => isParent_unique s es k j i other up⟩

/-- A type whose second field points to a type that its first one leads to only later. -/
def fork : Schema :=
  ofList [ring.message "A" ["B","D","C"],ring.message "B" ["C"],ring.message "C" [],ring.message "D" []]

theorem fork_tree : ∃ after es, fork.collect "p.A" 0 .none = (after,.ok es) ∧ es ≠ [] ∧
    es.map (fun e => (e.definition.name,e.depth)) = [("A",0),("B",1),("C",2),("D",1)] ∧
    (∃ j, fork.IsParent es j 3 ∧ ∀ k, fork.IsParent es k 3 → k = j) ∧ fork.SiblingsInOrder es := by
  have course : fork.Walked .none [(⟨ring.message "A" ["B","D","C"],by decide⟩,0)]
      ⟨[("D","D"),("C","C"),("B","B"),("A","A")],[]⟩
      [⟨ring.message "A" ["B","D","C"],0⟩,⟨ring.message "B" ["C"],1⟩,⟨ring.message "C" [],2⟩,
        ⟨ring.message "D" [],1⟩] := by
    refine .emit _ _ _ [] [(⟨ring.message "B" ["C"],by decide⟩,1),(⟨ring.message "D" [],by decide⟩,1),
      (⟨ring.message "C" [],by decide⟩,1)] _ rfl rfl ?_
    refine .emit _ _ _ _ [(⟨ring.message "C" [],by decide⟩,2)] _ (by decide) rfl ?_
    refine .emit _ _ _ _ [] _ (by decide) rfl ?_
    refine .emit _ _ _ _ [] _ (by decide) rfl ?_
    exact .met _ _ _ [] _ "C" (by decide) (.nil _)
  have ok := (collect_resolved fork "p.A" 0 .none (ring.message "A" ["B","D","C"]) rfl).trans
    (walked_visitAll fork _ _ _ _ course)
  obtain ⟨_,parents,order,_⟩ := collect_depthFirst fork "p.A" 0 .none _ _ ok (by simp)
  exact ⟨_,_,ok,by simp,by decide,parents 3 (by decide) (by decide),order⟩

end ReferenceSite.Schema
