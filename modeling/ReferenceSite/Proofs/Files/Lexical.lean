import Mathlib.Data.List.Induction
import ReferenceSite.Files.Path

/-! Paths resolved by their names alone. A dot stays where it is and a double dot takes back the name
before it; no tree of files is asked. Going on from a directory by a path leaves the same steps as
going on by what that path resolves to, so what a relative path does is seen from it alone. -/
namespace ReferenceSite.Path

/-- One step behind the steps taken so far, the last one first. Above the root there is nothing. -/
def settle : List Component → Component → List Component
  | _,.root => [.root]
  | steps,.current => steps
  | .normal _ :: before,.parent => before
  | .root :: before,.parent => .root :: before
  | steps,.parent => .parent :: steps
  | steps,.normal name => .normal name :: steps

def resolved (p : Path) : List Component := (p.components.foldl settle []).reverse

/-- At or below another path, both resolved. -/
def Within (p base : Path) : Prop := base.resolved <+: p.resolved

instance (p base : Path) : Decidable (p.Within base) := inferInstanceAs (Decidable (_ <+: _))

/-- Below another path by names only, without a further step up. -/
def Descends (p base : Path) : Prop :=
  ∃ names : List String, p.resolved = base.resolved ++ names.map .normal

def stepsOf (cs : List Char) : List Component :=
  (((cs.splitOn '/').map String.ofList).filter (! isSilent ·)).map stepOf

theorem stepsOf_append (before after : List Char) :
    stepsOf (before ++ '/' :: after) = stepsOf before ++ stepsOf after := by
  simp [stepsOf,List.splitOn_append_cons_self]

@[simp] theorem stepsOf_nil : stepsOf [] = [] := by simp [stepsOf,isSilent]

/-- Behind a slash, or at the very start, steps begin anew. -/
theorem stepsOf_behind (before after : List Char)
    (ends : before = [] ∨ before.getLast? = some '/') :
    stepsOf (before ++ after) = stepsOf before ++ stepsOf after := by
  rcases ends with rfl | slash
  · simp
  · obtain ⟨front,rfl⟩ := List.getLast?_eq_some_iff.mp slash
    simp only [List.append_assoc,List.singleton_append,stepsOf_append,stepsOf_nil,List.append_nil]

private theorem components_relative (p : Path) (relative : p.isAbsolute = false) :
    p.components = stepsOf p.text.toList ∨ p.components = .current :: stepsOf p.text.toList := by
  unfold components
  simp only [relative,Bool.false_eq_true,if_false]
  split
  · rename_i rest first
    have listed := first
    simp only [segments,relative,Bool.false_eq_true,if_false] at listed
    exact .inr (by simp [stepsOf,listed,isSilent])
  · exact .inl (by simp [stepsOf,segments,relative])

/-- A leading dot is the only step that resolving drops from the components of a path. -/
theorem foldl_components (p : Path) (before : List Component) :
    p.components.foldl settle before =
      (stepsOf (if p.isAbsolute then p.text.toList.drop 1 else p.text.toList)).foldl settle
        (if p.isAbsolute then [.root] else before) := by
  cases absolute : p.isAbsolute with
  | true => simp [components,absolute,segments,stepsOf,settle]
  | false =>
    rcases p.components_relative absolute with same | same
    · simp [same]
    · simp [same,settle]

theorem isAbsolute_join (base : Path) (other : String) (relative : (Path.mk other).isAbsolute = false) :
    (base.join other).isAbsolute = base.isAbsolute := by
  obtain ⟨text⟩ := base
  by_cases named : text = ""
  · subst named
    have start : (Path.mk "").isAbsolute = false := rfl
    simp [join,relative,start]
  · obtain ⟨c,cs,shape⟩ := List.exists_cons_of_ne_nil (l := text.toList) (by simpa using named)
    unfold join
    simp only [relative,named,or_self,Bool.false_eq_true,if_false]
    split <;> simp [isAbsolute,shape]

private theorem stepsOf_join (base : Path) (other : String) (named : base.text ≠ "")
    (relative : (Path.mk other).isAbsolute = false) :
    stepsOf (if base.isAbsolute then (base.join other).text.toList.drop 1
        else (base.join other).text.toList) =
      stepsOf (if base.isAbsolute then base.text.toList.drop 1 else base.text.toList) ++
        stepsOf other.toList := by
  have nonempty : base.text.toList ≠ [] := by simpa using named
  obtain ⟨c,cs,shape⟩ := List.exists_cons_of_ne_nil nonempty
  by_cases slash : base.text.toList.getLast? = some '/'
  · have joined : base.join other = ⟨base.text ++ other⟩ := by simp [join,relative,named,slash]
    have inner : cs = [] ∨ cs.getLast? = some '/' := by
      cases cs with
      | nil => exact .inl rfl
      | cons d ds => exact .inr (by simpa [shape] using slash)
    rw [joined]
    split
    · simpa [shape] using stepsOf_behind cs other.toList inner
    · simpa using stepsOf_behind base.text.toList other.toList (.inr slash)
  · have joined : base.join other = ⟨base.text ++ "/" ++ other⟩ := by simp [join,relative,named,slash]
    rw [joined]
    split
    · simpa [shape] using stepsOf_append cs other.toList
    · simpa using stepsOf_append base.text.toList other.toList

theorem foldl_join (base : Path) (other : String) (relative : (Path.mk other).isAbsolute = false)
    (before : List Component) :
    (base.join other).components.foldl settle before =
      (Path.mk other).components.foldl settle (base.components.foldl settle before) := by
  by_cases named : base.text = ""
  · have empty : base.components = [] := by
      obtain ⟨text⟩ := base
      subst named
      rfl
    simp [join,named,empty]
  · have same := isAbsolute_join base other relative
    have steps := stepsOf_join base other named relative
    simp only [foldl_components,same,steps,relative,List.foldl_append,Bool.false_eq_true,if_false]

theorem resolved_join (base : Path) (other : String) (relative : (Path.mk other).isAbsolute = false) :
    (base.join other).resolved =
      ((Path.mk other).components.foldl settle base.resolved.reverse).reverse := by
  rw [resolved,foldl_join base other relative,resolved,List.reverse_reverse]

/-! Relative paths: as many steps up as they need, and names below. -/

private theorem stepsOf_inner (cs : List Char) : ∀ step ∈ stepsOf cs, step ≠ .root := by
  intro step member
  obtain ⟨segment,_,rfl⟩ := List.mem_map.mp member
  unfold stepOf
  split <;> simp

theorem components_inner (p : Path) (relative : p.isAbsolute = false) :
    ∀ step ∈ p.components, step ≠ .root := by
  have inner := stepsOf_inner p.text.toList
  rcases p.components_relative relative with same | same
  · rwa [same]
  · rw [same]
    exact List.forall_mem_cons.mpr ⟨nofun,inner⟩

/-- The steps of a relative path, the last one first: names above steps up. -/
theorem settle_shape (steps : List Component) (inner : ∀ step ∈ steps, step ≠ .root) :
    ∃ (names : List String) (ups : Nat),
      steps.foldl settle [] = names.map .normal ++ List.replicate ups .parent := by
  induction steps using List.reverseRecOn with
  | nil => exact ⟨[],0,rfl⟩
  | append_singleton steps step ih =>
    obtain ⟨names,ups,shape⟩ := ih fun s member => inner s (by simp [member])
    simp only [List.foldl_append,List.foldl_cons,List.foldl_nil,shape]
    cases step with
    | root => exact absurd rfl (inner .root (by simp))
    | current => exact ⟨names,ups,by simp [settle]⟩
    | normal name => exact ⟨name :: names,ups,by cases names <;> cases ups <;> rfl⟩
    | parent =>
      cases names with
      | cons last before => exact ⟨before,ups,rfl⟩
      | nil =>
        refine ⟨[],ups + 1,?_⟩
        cases ups <;> rfl

/-- Steps lead as far from anywhere as what they resolve to. -/
theorem foldl_resolved (steps : List Component) (inner : ∀ step ∈ steps, step ≠ .root)
    (before : List Component) :
    steps.foldl settle before = (steps.foldl settle []).reverse.foldl settle before := by
  induction steps using List.reverseRecOn with
  | nil => rfl
  | append_singleton steps step ih =>
    have known : ∀ s ∈ steps, s ≠ .root := fun s member => inner s (by simp [member])
    obtain ⟨names,ups,shape⟩ := settle_shape steps known
    simp only [List.foldl_append,List.foldl_cons,List.foldl_nil,ih known,shape]
    cases step with
    | root => exact absurd rfl (inner .root (by simp))
    | current => simp [settle]
    | normal name => cases names <;> cases ups <;> simp [settle,List.foldl_append]
    | parent =>
      cases names with
      | cons last rest => simp [settle,List.foldl_append]
      | nil => cases ups <;> simp [settle,List.foldl_append,List.replicate_succ]

theorem foldl_names (names : List String) (before : List Component) :
    (names.map Component.normal).foldl settle before = (names.map .normal).reverse ++ before := by
  induction names generalizing before with
  | nil => rfl
  | cons name rest ih => simp [ih,settle]

theorem resolved_shape (p : Path) (relative : p.isAbsolute = false) :
    ∃ (ups : Nat) (names : List String), p.resolved = List.replicate ups .parent ++ names.map .normal := by
  obtain ⟨names,ups,shape⟩ := settle_shape p.components (components_inner p relative)
  exact ⟨ups,names.reverse,by simp [resolved,shape]⟩

theorem resolved_join_eq (base : Path) (other : String)
    (relative : (Path.mk other).isAbsolute = false) :
    (base.join other).resolved =
      ((Path.mk other).resolved.foldl settle base.resolved.reverse).reverse := by
  rw [resolved_join base other relative,
    foldl_resolved _ (components_inner (Path.mk other) relative),← resolved]

theorem root_not_mem_resolved (p : Path) (relative : p.isAbsolute = false) : .root ∉ p.resolved := by
  obtain ⟨ups,names,shape⟩ := resolved_shape p relative
  simp [shape]

theorem resolved_absolute (p : Path) (absolute : p.isAbsolute = true) :
    ∃ names : List String, p.resolved = .root :: names.map .normal := by
  have kept (steps : List Component) (inner : ∀ step ∈ steps, step ≠ .root) (names : List String) :
      ∃ names' : List String,
        steps.foldl settle (names.map .normal ++ [.root]) = names'.map .normal ++ [.root] := by
    induction steps generalizing names with
    | nil => exact ⟨names,rfl⟩
    | cons step steps ih =>
      have later := ih fun s member => inner s (by simp [member])
      cases step with
      | root => exact absurd rfl (inner .root (by simp))
      | current => exact later names
      | normal name =>
        obtain ⟨names',shape⟩ := later (name :: names)
        exact ⟨names',by cases names <;> exact shape⟩
      | parent =>
        cases names with
        | nil => exact later []
        | cons last before => exact later before
  obtain ⟨names,shape⟩ := kept _ (stepsOf_inner (p.text.toList.drop 1)) []
  refine ⟨names.reverse,?_⟩
  rw [resolved,foldl_components p []]
  simp only [absolute,if_true]
  rw [show [Component.root] = [].map .normal ++ [.root] from rfl,shape]
  simp

/-! Which paths stay below a directory wherever both are joined to. -/

theorem descends_relative (q : Path) (d : String) (relative : (Path.mk d).isAbsolute = false)
    (below : q.Descends ⟨d⟩) : q.isAbsolute = false := by
  obtain ⟨names,shape⟩ := below
  cases absolute : q.isAbsolute with
  | false => rfl
  | true =>
    obtain ⟨others,rooted⟩ := resolved_absolute q absolute
    have outside := root_not_mem_resolved ⟨d⟩ relative
    have inside : Component.root ∈ (Path.mk d).resolved ++ names.map .normal := by
      rw [← shape,rooted]
      simp
    simp [outside] at inside

theorem within_of_descends (q : Path) (d : String) (relative : (Path.mk d).isAbsolute = false)
    (below : q.Descends ⟨d⟩) (base : Path) : (base.join q.text).Within (base.join d) := by
  have inner := descends_relative q d relative below
  obtain ⟨names,shape⟩ := below
  refine ⟨names.map .normal,?_⟩
  rw [resolved_join_eq base d relative,resolved_join_eq base q.text inner,shape]
  simp [List.foldl_append,foldl_names]

/-- Steps that neither lead up nor start anew are names. -/
theorem foldl_level (steps : List Component) (level : ∀ step ∈ steps, step ≠ .root ∧ step ≠ .parent)
    (before : List Component) :
    ∃ names : List String, steps.foldl settle before = (names.map .normal).reverse ++ before := by
  induction steps generalizing before with
  | nil => exact ⟨[],rfl⟩
  | cons step steps ih =>
    have later := ih fun s member => level s (by simp [member])
    cases step with
    | root => exact absurd rfl (level .root (by simp)).1
    | parent => exact absurd rfl (level .parent (by simp)).2
    | current => exact later before
    | normal name =>
      obtain ⟨names,shape⟩ := later (.normal name :: before)
      have step : settle before (.normal name) = .normal name :: before := by cases before <;> rfl
      exact ⟨name :: names,by simp [step,shape]⟩

theorem join_descends (base : Path) (other : String) (relative : (Path.mk other).isAbsolute = false)
    (level : .parent ∉ (Path.mk other).components) : (base.join other).Descends base := by
  have inner : ∀ step ∈ (Path.mk other).components, step ≠ .root ∧ step ≠ .parent := by
    intro step member
    exact ⟨components_inner _ relative step member,fun same => level (same ▸ member)⟩
  obtain ⟨names,shape⟩ := foldl_level _ inner base.resolved.reverse
  refine ⟨names,?_⟩
  rw [resolved_join base other relative,shape,List.reverse_append,List.reverse_reverse,List.reverse_reverse]

def nested (name : Char) (depth : Nat) : Path :=
  ⟨.ofList (List.replicate depth [name,'/']).flatten⟩

theorem nested_relative (name : Char) (depth : Nat) (inner : name ≠ '/') :
    (nested name depth).isAbsolute = false := by
  cases depth <;> simp [nested,isAbsolute,List.replicate_succ,inner]

theorem stepsOf_letter (name : Char) (inner : name ≠ '/') (named : name ≠ '.') :
    stepsOf [name] = [.normal (.singleton name)] := by
  have whole : [name].splitOn '/' = [[name]] := List.splitOn_eq_singleton (by simpa using inner.symm)
  have letters (other : String) (same : String.singleton name = other) : [name] = other.toList := by
    simpa using congrArg String.toList same
  have nonempty : String.singleton name ≠ "" := fun same => by simpa using letters _ same
  have sounded : String.singleton name ≠ "." := fun same => named (by simpa using letters _ same)
  have down : String.singleton name ≠ ".." := fun same => by simpa using letters _ same
  simp [stepsOf,whole,isSilent,stepOf,nonempty,sounded,down]

theorem resolved_nested (name : Char) (depth : Nat) (inner : name ≠ '/') (named : name ≠ '.') :
    (nested name depth).resolved = List.replicate depth (.normal (.singleton name)) := by
  have steps : stepsOf (nested name depth).text.toList =
      (List.replicate depth (String.singleton name)).map .normal := by
    induction depth with
    | zero => simp [nested]
    | succ depth ih =>
      have split : (List.replicate (depth + 1) [name,'/']).flatten =
          [name] ++ '/' :: (List.replicate depth [name,'/']).flatten := by
        simp [List.replicate_succ]
      simp only [nested,String.toList_ofList] at ih ⊢
      rw [split,stepsOf_append,stepsOf_letter name inner named,ih]
      simp [List.replicate_succ]
  rw [resolved,foldl_components]
  simp only [nested_relative name depth inner,Bool.false_eq_true,if_false,steps,foldl_names]
  simp

theorem foldl_parents (name : String) (ups depth : Nat) (enough : ups ≤ depth) :
    (List.replicate ups Component.parent).foldl settle (List.replicate depth (.normal name)) =
      List.replicate (depth - ups) (.normal name) := by
  induction ups generalizing depth with
  | zero => rfl
  | succ ups ih =>
    obtain ⟨depth,rfl⟩ : ∃ before, depth = before + 1 := ⟨depth - 1,by omega⟩
    simpa [List.replicate_succ,settle] using ih depth (by omega)

/-- From so many directories of one name, steps up leave fewer of them and names stay. -/
theorem resolved_nested_join (name : Char) (depth ups : Nat) (inner : name ≠ '/') (named : name ≠ '.')
    (enough : ups ≤ depth) (q : Path) (relative : q.isAbsolute = false) (names : List String)
    (shape : q.resolved = List.replicate ups .parent ++ names.map .normal) :
    ((nested name depth).join q.text).resolved =
      List.replicate (depth - ups) (.normal (.singleton name)) ++ names.map .normal := by
  rw [resolved_join_eq _ q.text relative,shape,resolved_nested name depth inner named,
    List.reverse_replicate,List.foldl_append,foldl_parents _ ups depth enough,foldl_names]
  simp

private theorem within_relative (q : Path) (d : String) (relative : (Path.mk d).isAbsolute = false)
    (stays : ∀ base : Path, (base.join q.text).Within (base.join d)) : q.isAbsolute = false := by
  obtain ⟨ups,names,shape⟩ := resolved_shape ⟨d⟩ relative
  cases absolute : q.isAbsolute with
  | false => rfl
  | true =>
    obtain ⟨others,rooted⟩ := resolved_absolute q absolute
    have same : (nested 'a' (ups + 1)).join q.text = q := by simp [join,absolute]
    have stay := stays (nested 'a' (ups + 1))
    rw [Within,same,rooted,resolved_nested_join 'a' _ ups (by decide) (by decide) (by omega) ⟨d⟩
      relative names shape] at stay
    simp [List.replicate_succ] at stay

theorem descends_of_within (q : Path) (d : String) (relative : (Path.mk d).isAbsolute = false)
    (stays : ∀ base : Path, (base.join q.text).Within (base.join d)) : q.Descends ⟨d⟩ := by
  have inner := within_relative q d relative stays
  obtain ⟨ups,names,shape⟩ := resolved_shape q inner
  obtain ⟨ups',names',shape'⟩ := resolved_shape ⟨d⟩ relative
  -- From two towers of as many directories as `q` steps up, names are all that is left of it.
  have letters (name : Char) (first : name ≠ '/') (second : name ≠ '.') (enough : ups' ≤ ups) :
      List.replicate (ups - ups') (.normal (.singleton name)) ++ names'.map .normal <+:
        names.map Component.normal := by
    have stay := stays (nested name ups)
    rw [Within,resolved_nested_join name ups ups first second (Nat.le_refl ups) q inner names shape,
      resolved_nested_join name ups ups' first second enough ⟨d⟩ relative names' shape'] at stay
    simpa using stay
  have here := stays ⟨""⟩
  have atOnce (other : String) : (Path.mk "").join other = ⟨other⟩ := by simp [join]
  rw [Within,atOnce,atOnce,shape,shape'] at here
  rcases Nat.lt_trichotomy ups ups' with higher | rfl | lower
  · obtain ⟨more,rfl⟩ : ∃ more, ups' = ups + (more + 1) := ⟨ups' - ups - 1,by omega⟩
    rw [← List.replicate_append_replicate,List.append_assoc,List.prefix_append_right_inj,
      List.replicate_succ] at here
    cases names <;> simp at here
  · obtain ⟨rest,same⟩ := (List.prefix_append_right_inj _).mp here
    obtain ⟨left,right,rfl,_,kept⟩ := List.map_eq_append_iff.mp same.symm
    exact ⟨right,by rw [shape,shape',kept,List.append_assoc,same]⟩
  · obtain ⟨more,rfl⟩ : ∃ more, ups = ups' + (more + 1) := ⟨ups - ups' - 1,by omega⟩
    have first := letters 'a' (by decide) (by decide) (by omega)
    have second := letters 'b' (by decide) (by decide) (by omega)
    rw [Nat.add_sub_cancel_left,List.replicate_succ,List.cons_append] at first second
    cases names with
    | nil => simp at first
    | cons name names =>
      have a := (List.cons_prefix_cons.mp first).1
      have b := (List.cons_prefix_cons.mp second).1
      exact absurd (a.trans b.symm) (by decide)

theorem within_iff_descends (q : Path) (d : String) (relative : (Path.mk d).isAbsolute = false) :
    (∀ base : Path, (base.join q.text).Within (base.join d)) ↔ q.Descends ⟨d⟩ :=
  ⟨descends_of_within q d relative,within_of_descends q d relative⟩

end ReferenceSite.Path
