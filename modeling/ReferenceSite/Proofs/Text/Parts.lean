import ReferenceSite.Proofs.Text.Lines

/-! The parts of a text. A scan that passes over signs of one kind splits the text where it says: all
signs before the split are of that kind, and the text behind it does not go on with one. -/
namespace ReferenceSite.Text

/-- Nothing but white space, if anything. -/
def Blanks (s : List Char) : Prop := ∀ c ∈ s, isBlank c = true

instance (s : List Char) : Decidable (Blanks s) := List.decidableBAll (fun c => isBlank c = true) s

theorem ofList_eq_iff (s : List Char) (text : String) : String.ofList s = text ↔ s = text.toList := by
  rw [← String.toList_inj,String.toList_ofList]

/-- The text does not go on with a sign of that kind. -/
def Stops (p : Char → Bool) (s : List Char) : Prop := ∀ c, s.head? = some c → p c = false

theorem stops_nil (p : Char → Bool) : Stops p [] := nofun

theorem stops_cons (p : Char → Bool) (c : Char) (s : List Char) : Stops p (c :: s) ↔ p c = false := by
  constructor
  · intro stops
    exact stops c rfl
  · rintro other d ⟨⟩
    exact other

instance (p : Char → Bool) : (s : List Char) → Decidable (Stops p s)
  | [] => isTrue (stops_nil p)
  | c :: s => decidable_of_iff (p c = false) (stops_cons p c s).symm

theorem stops_dropWhile (p : Char → Bool) (s : List Char) : Stops p (s.dropWhile p) := dropWhile_stops p s

theorem dropWhile_eq_iff (p : Char → Bool) (s rest : List Char) : s.dropWhile p = rest ↔
    ∃ passed, s = passed ++ rest ∧ (∀ c ∈ passed, p c = true) ∧ Stops p rest := by
  constructor
  · rintro rfl
    exact ⟨s.takeWhile p,List.takeWhile_append_dropWhile.symm,fun c => List.mem_takeWhile_imp,
      stops_dropWhile p s⟩
  · rintro ⟨passed,rfl,kind,stops⟩
    exact dropWhile_past p passed rest kind stops

/-- What stands behind the first of a sign is settled by the text. -/
theorem behind_first (c : Char) {before behind front rest : List Char}
    (same : before ++ c :: behind = front ++ c :: rest) (first : c ∉ before) (outside : c ∉ front) :
    behind = rest := by
  have cut := congrArg (List.dropWhile (· ≠ c)) same
  rw [dropWhile_upTo c before _ first,dropWhile_upTo c front _ outside] at cut
  exact (List.cons.inj cut).2

theorem trimStart_eq_iff (s rest : List Char) :
    trimStart s = rest ↔ ∃ indent, s = indent ++ rest ∧ Blanks indent ∧ Stops isBlank rest :=
  dropWhile_eq_iff isBlank s rest

theorem dropPrefix?_eq_some_iff (mark s rest : List Char) :
    dropPrefix? mark s = some rest ↔ s = mark ++ rest := by
  constructor
  · exact dropPrefix?_eq_some
  · rintro rfl
    exact dropPrefix?_append mark rest

theorem dropSuffix?_eq_some_iff (ending s rest : List Char) :
    dropSuffix? ending s = some rest ↔ s = rest ++ ending := by
  rw [dropSuffix?,Option.map_eq_some_iff]
  constructor
  · rintro ⟨back,found,rfl⟩
    have split := congrArg List.reverse ((dropPrefix?_eq_some_iff _ _ _).mp found)
    simpa using split
  · rintro rfl
    exact ⟨rest.reverse,(dropPrefix?_eq_some_iff _ _ _).mpr (by simp),List.reverse_reverse rest⟩

theorem dropWhileEnd_cons (p : Char → Bool) (c : Char) (s : List Char) (kept : p c = false) :
    ∃ rest, dropWhileEnd p (c :: s) = c :: rest := by
  rw [dropWhileEnd,List.reverse_cons,List.dropWhile_append]
  split
  · exact ⟨[],by simp [kept]⟩
  · exact ⟨_,by rw [List.reverse_append]; rfl⟩

/-- A mark behind white space, if the mark itself does not begin with any. -/
theorem dropPrefix?_trimStart (mark s rest : List Char) (nonempty : mark ≠ [])
    (solid : Stops isBlank mark) : dropPrefix? mark (trimStart s) = some rest ↔
      ∃ indent, s = indent ++ mark ++ rest ∧ Blanks indent := by
  rw [dropPrefix?_eq_some_iff,trimStart_eq_iff]
  refine exists_congr fun indent => ?_
  rw [List.append_assoc]
  refine and_congr_right fun _ => and_iff_left fun c first => solid c ?_
  obtain ⟨d,more,rfl⟩ := List.exists_cons_of_ne_nil nonempty
  exact first

theorem head?_trimStart (c : Char) (s : List Char) (solid : isBlank c = false) :
    (trimStart s).head? = some c ↔ ∃ space rest, s = space ++ c :: rest ∧ Blanks space := by
  simp only [List.head?_eq_some_iff,trimStart_eq_iff]
  constructor
  · rintro ⟨rest,space,whole,blank,_⟩
    exact ⟨space,rest,whole,blank⟩
  · rintro ⟨space,rest,whole,blank⟩
    exact ⟨rest,space,whole,blank,(stops_cons _ _ _).mpr solid⟩

/-- What is trimmed off is white space. -/
theorem trim_between (s : List Char) :
    ∃ indent trailing, s = indent ++ trim s ++ trailing ∧ Blanks indent ∧ Blanks trailing := by
  obtain ⟨indent,start,ahead,_⟩ := (trimStart_eq_iff s _).mp rfl
  obtain ⟨trailing,back,after,_⟩ := (dropWhile_eq_iff isBlank (trimStart s).reverse _).mp rfl
  refine ⟨indent,trailing.reverse,?_,ahead,fun c member => after c (List.mem_reverse.mp member)⟩
  have ended := congrArg List.reverse back
  rw [List.reverse_append,List.reverse_reverse] at ended
  rw [List.append_assoc,trim,trimEnd,dropWhileEnd,← ended]
  exact start

theorem mem_trim (c : Char) (s : List Char) (solid : isBlank c = false) (member : c ∈ s) : c ∈ trim s := by
  obtain ⟨indent,trailing,whole,ahead,after⟩ := trim_between s
  have outside {blank : List Char} (blanks : Blanks blank) : c ∉ blank := fun inside =>
    Bool.false_ne_true (solid.symm.trans (blanks c inside))
  rw [whole] at member
  simpa [outside ahead,outside after] using member

theorem trim_isEmpty_iff (s : List Char) : (trim s).isEmpty = true ↔ Blanks s := by
  cases start : trimStart s with
  | nil =>
    have blank : Blanks s := List.dropWhile_eq_nil_iff.mp start
    exact ⟨fun _ => blank,fun _ => by rw [trim,start]; rfl⟩
  | cons c rest =>
    obtain ⟨indent,rfl,_,solid⟩ := (trimStart_eq_iff s (c :: rest)).mp start
    have first : isBlank c = false := (stops_cons _ _ _).mp solid
    have shown := trim_cons_isEmpty c rest first
    rw [trim,trimStart_cons c rest first] at shown
    rw [trim,start,shown]
    refine ⟨fun empty => absurd empty Bool.false_ne_true,fun blank => ?_⟩
    rw [blank c (by simp)] at first
    cases first

/-- A piece of a text that is cut at signs of one kind has none of them, and lies between two of them
or at an end of the text. -/
theorem mem_splitOnP_iff (p : Char → Bool) (s piece : List Char) : piece ∈ s.splitOnP p ↔
    ∃ before behind, s = before ++ piece ++ behind ∧ (∀ c ∈ piece, p c = false) ∧
      (∀ c, before.getLast? = some c → p c = true) ∧ ∀ c, behind.head? = some c → p c = true := by
  constructor
  · intro member
    induction size : s.length using Nat.strong_induction_on generalizing s with
    | _ n ih =>
      rcases none_or_first p s with whole | ⟨front,c,rest,rfl,whole,cut⟩
      · rw [List.splitOnP_eq_singleton whole] at member
        obtain rfl := List.mem_singleton.mp member
        exact ⟨[],[],by simp,whole,nofun,nofun⟩
      · rw [List.splitOnP_append_cons _ _ cut,List.splitOnP_eq_singleton whole] at member
        rcases List.mem_cons.mp member with rfl | later
        · refine ⟨[],c :: rest,rfl,whole,nofun,?_⟩
          rintro d ⟨⟩
          exact cut
        · have shorter : rest.length < n := by
            simp only [← size,List.length_append,List.length_cons]
            omega
          obtain ⟨before,behind,rfl,inner,ahead,after⟩ := ih rest.length shorter rest later rfl
          refine ⟨front ++ c :: before,behind,by simp,inner,?_,after⟩
          intro d last
          rw [List.getLast?_append,List.getLast?_cons,Option.some_or] at last
          cases tail : before.getLast? with
          | none =>
            obtain rfl : c = d := by simpa [tail] using last
            exact cut
          | some e => exact ahead d (by simpa [tail] using last)
  · rintro ⟨before,behind,rfl,inner,ahead,after⟩
    have first : piece ∈ (piece ++ behind).splitOnP p := by
      cases behind with
      | nil => simp [List.splitOnP_eq_singleton inner]
      | cons c behind =>
        rw [List.splitOnP_append_cons _ _ (after c rfl),List.splitOnP_eq_singleton inner]
        simp
    rw [List.append_assoc]
    rcases List.eq_nil_or_concat before with rfl | ⟨front,c,rfl⟩
    · exact first
    · rw [List.concat_eq_append,List.append_assoc,List.singleton_append,
        List.splitOnP_append_cons _ _ (ahead c (by simp))]
      exact List.mem_append_right _ first

theorem mem_afterBlanks_iff (s rest : List Char) :
    rest ∈ afterBlanks s ↔ ∃ passed, s = passed ++ rest ∧ Blanks passed := by
  induction s with
  | nil =>
    constructor
    · intro member
      obtain rfl := List.mem_singleton.mp member
      exact ⟨[],rfl,nofun⟩
    · rintro ⟨passed,whole,_⟩
      obtain ⟨rfl,rfl⟩ := List.append_eq_nil_iff.mp whole.symm
      exact List.mem_singleton.mpr rfl
  | cons c s ih =>
    have split : (∃ passed, c :: s = passed ++ rest ∧ Blanks passed) ↔
        rest = c :: s ∨ isBlank c = true ∧ ∃ passed, s = passed ++ rest ∧ Blanks passed := by
      constructor
      · rintro ⟨passed,whole,blank⟩
        cases passed with
        | nil => exact .inl whole.symm
        | cons d passed =>
          obtain ⟨rfl,rfl⟩ := List.cons.inj whole
          exact .inr ⟨blank c (by simp),passed,rfl,fun d member => blank d (by simp [member])⟩
      · rintro (rfl | ⟨first,passed,rfl,blank⟩)
        · exact ⟨[],rfl,nofun⟩
        · exact ⟨c :: passed,rfl,List.forall_mem_cons.mpr ⟨first,blank⟩⟩
    rw [split,← ih,afterBlanks]
    split
    · rename_i blank
      simp [blank,or_comm]
    · rename_i solid
      simp [solid]

end ReferenceSite.Text
