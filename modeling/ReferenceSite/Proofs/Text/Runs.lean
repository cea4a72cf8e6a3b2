import ReferenceSite.Proofs.Text.Parts

/-! Runs of signs of one kind in a text. Two texts that are written next to each other keep their runs unless
one ends and the other begins with such a sign; then the last run of the first and the first run of the second
become one. Runs that are joined by another sign are found again. -/
namespace ReferenceSite.Text

/-- The longest runs of signs of a kind, in the order of the text. -/
def runs (p : Char → Bool) (s : List Char) : List (List Char) := (s.splitOnP (! p ·)).filter (· ≠ [])

/-- Between the two texts no run goes on. -/
def Apart (p : Char → Bool) (x y : List Char) : Prop := (∀ c, x.getLast? = some c → p c = false) ∨ Stops p y

variable (p : Char → Bool)

theorem mem_runs_iff (s run : List Char) : run ∈ runs p s ↔ run ≠ [] ∧ ∃ before behind,
    s = before ++ run ++ behind ∧ (∀ c ∈ run, p c = true) ∧ (∀ c, before.getLast? = some c → p c = false) ∧
      Stops p behind := by
  simp only [runs,List.mem_filter,mem_splitOnP_iff,Bool.not_eq_false',Bool.not_eq_true',decide_eq_true_eq,Stops]
  exact and_comm

theorem runs_nil : runs p [] = [] := rfl

theorem runs_append_cons (x y : List Char) (c : Char) (other : p c = false) :
    runs p (x ++ c :: y) = runs p x ++ runs p y := by
  rw [runs,List.splitOnP_append_cons x y (by simp [other]),List.filter_append]
  rfl

theorem runs_cons (c : Char) (s : List Char) (other : p c = false) : runs p (c :: s) = runs p s :=
  runs_append_cons p [] s c other

theorem runs_whole (s : List Char) (nonempty : s ≠ []) (kind : ∀ c ∈ s, p c = true) : runs p s = [s] := by
  rw [runs,List.splitOnP_eq_singleton fun c member => by simp [kind c member]]
  simp [nonempty]

theorem runs_eq_nil_iff (s : List Char) : runs p s = [] ↔ ∀ c ∈ s, p c = false := by
  induction s with
  | nil => simp [runs_nil]
  | cons c s ih =>
    cases kind : p c with
    | false => rw [runs_cons p c s kind,ih,List.forall_mem_cons,and_iff_right kind]
    | true =>
      have split := List.takeWhile_append_dropWhile (p := p) (l := c :: s)
      have run : (c :: s).takeWhile p ∈ runs p (c :: s) := by
        refine (mem_runs_iff p _ _).mpr ⟨by simp [kind],[],(c :: s).dropWhile p,split.symm,?_,nofun,?_⟩
        · exact fun d => List.mem_takeWhile_imp
        · exact stops_dropWhile p _
      refine ⟨fun none => absurd run (by simp [none]),fun none => ?_⟩
      simp [kind] at none

theorem runs_append {x y : List Char} (apart : Apart p x y) : runs p (x ++ y) = runs p x ++ runs p y := by
  rcases apart with ends | stops
  · rcases List.eq_nil_or_concat x with rfl | ⟨front,c,rfl⟩
    · rfl
    · have other : p c = false := ends c (by simp)
      rw [List.concat_eq_append,List.append_assoc,List.singleton_append,runs_append_cons p _ _ c other,
        runs_append_cons p front [] c other,runs_nil,List.append_nil]
  · cases y with
    | nil => simp [runs_nil]
    | cons c y =>
      have other : p c = false := (stops_cons p c y).mp stops
      rw [runs_append_cons p _ _ c other,runs_cons p c y other]

/-- The run that a text ends with. -/
theorem trailing_run (s : List Char) : ∃ front run, s = front ++ run ∧ (∀ c ∈ run, p c = true) ∧
    ∀ c, front.getLast? = some c → p c = false := by
  obtain ⟨run,split,kind,stops⟩ := (dropWhile_eq_iff p s.reverse _).mp rfl
  have whole := congrArg List.reverse split
  rw [List.reverse_append,List.reverse_reverse] at whole
  refine ⟨_,run.reverse,whole,fun c member => kind c (List.mem_reverse.mp member),fun c last => stops c ?_⟩
  rwa [List.getLast?_reverse] at last

/-- Where a run does go on, it is one run of the joined text, and the others are kept. -/
theorem runs_glued {x y : List Char} (glued : ¬ Apart p x y) : ∃ front u v back,
    runs p x = front ++ [u] ∧ runs p y = v :: back ∧ runs p (x ++ y) = front ++ (u ++ v) :: back := by
  obtain ⟨front,u,rfl,before,ends⟩ := trailing_run p x
  obtain ⟨v,y_eq,after,stops⟩ := (dropWhile_eq_iff p y _).mp rfl
  have open_ : u ≠ [] := by
    rintro rfl
    exact glued (.inl (by simpa using ends))
  have goes : v ≠ [] := by
    rintro rfl
    exact glued (.inr (y_eq ▸ stops))
  generalize y.dropWhile p = back at y_eq stops
  subst y_eq
  have joined : runs p (u ++ v) = [u ++ v] :=
    runs_whole p _ (by simp [open_]) (List.forall_mem_append.mpr ⟨before,after⟩)
  refine ⟨runs p front,u,v,runs p back,?_,?_,?_⟩
  · rw [runs_append p (.inl ends),runs_whole p u open_ before]
  · rw [runs_append p (.inr stops),runs_whole p v goes after]
    rfl
  · rw [List.append_assoc,← List.append_assoc u,runs_append p (.inl ends),runs_append p (.inr stops),joined]
    rfl

theorem runs_append_iff (x y : List Char) : runs p (x ++ y) = runs p x ++ runs p y ↔ Apart p x y := by
  refine ⟨fun kept => ?_,runs_append p⟩
  by_contra glued
  obtain ⟨front,u,v,back,first,second,joined⟩ := runs_glued p glued
  rw [first,second,joined] at kept
  simpa using congrArg List.length kept

theorem runs_intercalate (c : Char) (other : p c = false) (rs : List (List Char))
    (kind : ∀ run ∈ rs, run ≠ [] ∧ ∀ d ∈ run, p d = true) : runs p ([c].intercalate rs) = rs := by
  induction rs with
  | nil => rfl
  | cons run rs ih =>
    obtain ⟨⟨nonempty,own⟩,later⟩ := List.forall_mem_cons.mp kind
    cases rs with
    | nil => rw [List.intercalate_singleton,runs_whole p run nonempty own]
    | cons next rs =>
      rw [List.intercalate_cons_cons,List.append_assoc,List.singleton_append,runs_append_cons p _ _ c other,
        runs_whole p run nonempty own,ih later,List.singleton_append]

end ReferenceSite.Text
