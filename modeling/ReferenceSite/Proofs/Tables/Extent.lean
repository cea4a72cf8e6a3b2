import Mathlib.Data.List.DropRight
import Mathlib.Order.Bounds.Basic
import ReferenceSite.Proofs.Text.Parts
import ReferenceSite.Tables.Header

/-! How far the definition of a table reaches in its header. Its macro begins on the first line that
defines the name, and goes on to the first line that is not continued; the comment lines right above it
belong to it. Names that begin or end like the name are other names. -/
namespace ReferenceSite
open ReferenceSite.Text

namespace Header

/-- The line defines the macro, with white space where a definition can have some. -/
def Defines (definition line : String) : Prop :=
  ∃ indent gap space parameters, line.toList = indent ++ "#define".toList ++
      (gap ++ (definition.toList ++ (space ++ '(' :: parameters))) ∧
    Blanks indent ∧ Blanks gap ∧ gap ≠ [] ∧ Blanks space

def IsComment (line : String) : Prop :=
  ∃ indent text, line.toList = indent ++ "//".toList ++ text ∧ ∀ c ∈ indent, c = ' ' ∨ c = '\t'

def Continues (line : String) : Prop :=
  ∃ text space, line.toList = text ++ '\\' :: space ∧ Blanks space

/-- A name as macros have it: no white space in it, and no bracket. -/
def Unbroken (name : String) : Prop := ∀ c ∈ name.toList, isBlank c = false ∧ c ≠ '('

/-- Where lines of that kind stand, from zero on. -/
def places (lines : List String) (kind : String → Prop) : Set Nat :=
  {i | ∃ line, lines[i]? = some line ∧ kind line}

/-- The definition at the line `define` reaches from `first` to `last`. -/
structure Extent (lines : List String) (definition : String) (first define last : Nat) : Prop where
  defined : IsLeast (places lines (Defines definition)) define
  continued : define ∈ places lines Continues
  above : IsLeast {s | s ≤ define ∧ ∀ i, s ≤ i → i < define → i ∈ places lines IsComment} first
  below : IsLeast {e | define ≤ e ∧ e < lines.length ∧ e ∉ places lines Continues} last ∨
    (∀ i, define ≤ i → i < lines.length → i ∈ places lines Continues) ∧ last + 1 = lines.length

def lineTexts (source : String) : List String := (Text.lines source.toList).map .ofList

/-- The lines from the one to the other, with their numbers from one on. -/
def excerpt (lines : List String) (first last : Nat) : List (Nat × String) :=
  ((lines.mapIdx fun i line => (i + 1,line)).take (last + 1)).drop first

/-! Kinds of lines. -/

theorem definesMacro_iff (definition line : String) :
    definesMacro definition line = true ↔ Defines definition line := by
  have mark (rest : List Char) := dropPrefix?_trimStart "#define".toList line.toList rest (by decide)
    ((stops_cons _ _ _).mpr (by decide))
  have opened (s : List Char) := head?_trimStart '(' s (by decide)
  have named {p : List Char → Bool} (rest : List Char) : ((afterBlanks rest).any fun name =>
      name.length < rest.length && p name) = true ↔
        ∃ gap name, rest = gap ++ name ∧ Blanks gap ∧ gap ≠ [] ∧ p name = true := by
    simp only [List.any_eq_true,Bool.and_eq_true,decide_eq_true_eq,mem_afterBlanks_iff]
    constructor
    · rintro ⟨name,⟨gap,rfl,blank⟩,shorter,found⟩
      refine ⟨gap,name,rfl,blank,?_,found⟩
      rintro rfl
      simp at shorter
    · rintro ⟨gap,name,rfl,blank,nonempty,found⟩
      exact ⟨name,⟨gap,rfl,blank⟩,by simp [List.length_pos_iff.mpr nonempty],found⟩
  constructor
  · intro defines
    rw [definesMacro] at defines
    split at defines
    · rename_i rest found
      obtain ⟨indent,whole,indented⟩ := (mark rest).mp found
      obtain ⟨gap,name,rfl,blank,nonempty,found⟩ := (named rest).mp defines
      cases behind : dropPrefix? definition.toList name with
      | none => simp [behind] at found
      | some parameters =>
        obtain ⟨space,inner,rfl,spaced⟩ := (opened parameters).mp (by simpa [behind] using found)
        rw [dropPrefix?_eq_some behind] at whole
        exact ⟨indent,gap,space,inner,whole,indented,blank,nonempty,spaced⟩
    · cases defines
  · rintro ⟨indent,gap,space,parameters,whole,indented,blank,nonempty,spaced⟩
    rw [definesMacro,(mark _).mpr ⟨indent,whole,indented⟩]
    refine (named _).mpr ⟨gap,_,rfl,blank,nonempty,?_⟩
    rw [dropPrefix?_append]
    simpa using (opened _).mpr ⟨space,parameters,rfl,spaced⟩

theorem isCommentLine_iff (line : String) : isCommentLine line = true ↔ IsComment line := by
  rw [isCommentLine,Option.isSome_iff_exists]
  simp only [dropPrefix?_eq_some_iff,dropWhile_eq_iff]
  constructor
  · rintro ⟨text,indent,whole,blank,_⟩
    exact ⟨indent,text,by rw [List.append_assoc,whole],by simpa using blank⟩
  · rintro ⟨indent,text,whole,blank⟩
    rw [List.append_assoc] at whole
    exact ⟨text,indent,whole,by simpa using blank,(stops_cons _ _ _).mpr (by decide)⟩

theorem isContinued_iff (line : String) : isContinued line = true ↔ Continues line := by
  rw [isContinued,decide_eq_true_eq,trimEnd,dropWhileEnd,List.getLast?_reverse,List.head?_eq_some_iff]
  simp only [dropWhile_eq_iff]
  constructor
  · rintro ⟨text,space,whole,blank,_⟩
    refine ⟨text.reverse,space.reverse,?_,fun c member => blank c (List.mem_reverse.mp member)⟩
    have back := congrArg List.reverse whole
    simpa using back
  · rintro ⟨text,space,whole,blank⟩
    refine ⟨text.reverse,space.reverse,by simp [whole],?_,(stops_cons _ _ _).mpr (by decide)⟩
    exact fun c member => blank c (List.mem_reverse.mp member)

/-- A line defines one name at most, among those without white space and brackets. -/
theorem Defines.unique {definition other line : String} (one : Defines definition line)
    (two : Defines other line) (unbroken : Unbroken definition) (whole : Unbroken other) :
    definition = other := by
  let named (c : Char) : Bool := ! isBlank c && c ≠ '('
  have read (name : String) (defines : Defines name line) (unbroken : Unbroken name) :
      name.toList = (trimStart ((trimStart line.toList).drop 7)).takeWhile named := by
    obtain ⟨indent,gap,space,parameters,shape,indented,blank,_,spaced⟩ := defines
    have letters : ∀ c ∈ name.toList, named c = true := fun c member => by
      simpa [named] using unbroken c member
    have start := trimStart_past indent ("#define".toList ++ (gap ++ (name.toList ++
      (space ++ '(' :: parameters)))) indented ((stops_cons _ _ _).mpr (by decide))
    have ended : Stops named (space ++ '(' :: parameters) := by
      cases space with
      | nil => exact (stops_cons _ _ _).mpr (by simp [named])
      | cons c space =>
        have first : isBlank c = true := spaced c (by simp)
        exact (stops_cons _ _ _).mpr (by simp [named,first])
    rw [shape,List.append_assoc,start]
    show _ = (trimStart (gap ++ _)).takeWhile named
    cases chars : name.toList with
    | nil =>
      have bracket : trimStart (gap ++ (space ++ '(' :: parameters)) = '(' :: parameters := by
        rw [← List.append_assoc]
        exact trimStart_past (gap ++ space) _ (List.forall_mem_append.mpr ⟨blank,spaced⟩)
          ((stops_cons _ _ _).mpr (by decide))
      rw [List.nil_append,bracket]
      rfl
    | cons c rest =>
      rw [← chars]
      have solid : isBlank c = false := (unbroken c (by simp [chars])).1
      rw [trimStart_past gap _ blank (by rw [chars]; exact (stops_cons _ _ _).mpr solid),
        takeWhile_past named name.toList _ letters ended]
  exact String.toList_injective ((read definition one unbroken).trans (read other two whole).symm)

theorem Unbroken.part {name part : String} (unbroken : Unbroken name)
    (inside : part.toList <+: name.toList ∨ part.toList <:+ name.toList) : Unbroken part := by
  intro c member
  rcases inside with start | ending
  · exact unbroken c (start.mem member)
  · exact unbroken c (ending.mem member)

/-! The lines of a definition. -/

theorem numbered_eq (source : String) :
    numbered source = (lineTexts source).mapIdx fun i line => (i + 1,line) := by
  refine List.ext_getElem? fun i => ?_
  simp only [numbered,lineTexts,List.getElem?_mapIdx,List.getElem?_map,Option.map_map]
  rfl

theorem mem_places_iff (lines : List (Nat × String)) (kind : String → Prop) (i : Nat) :
    i ∈ places (lines.map (·.2)) kind ↔ ∃ line, lines[i]? = some line ∧ kind line.2 := by
  simp only [places,Set.mem_ofPred_eq,List.getElem?_map,Option.map_eq_some_iff]
  constructor
  · rintro ⟨_,⟨line,found,rfl⟩,same⟩
    exact ⟨line,found,same⟩
  · rintro ⟨line,found,same⟩
    exact ⟨_,⟨line,found,rfl⟩,same⟩

theorem numbered_lines (source : String) : (numbered source).map (·.2) = lineTexts source := by
  rw [numbered_eq]
  refine List.ext_getElem? fun i => ?_
  simp only [List.getElem?_map,List.getElem?_mapIdx,Option.map_map]
  exact Option.map_id_apply

/-- The run of lines of one kind that ends a list begins at the first place from which on all are. -/
theorem run_above (q : Nat × String → Bool) (lines : List (Nat × String)) : ∃ first ≤ lines.length,
    (lines.reverse.takeWhile q).reverse = lines.drop first ∧
    IsLeast {s | s ≤ lines.length ∧ ∀ line ∈ lines.drop s, q line = true} first := by
  obtain ⟨front,back,rfl,run,kind,stop⟩ : ∃ front back, lines = front ++ back ∧
      (lines.reverse.takeWhile q).reverse = back ∧ (∀ line ∈ back, q line = true) ∧
      ∀ nonempty : front ≠ [], ¬ q (front.getLast nonempty) :=
    ⟨lines.rdropWhile q,lines.rtakeWhile q,List.rdropWhile_append_rtakeWhile.symm,rfl,
      fun line => List.mem_rtakeWhile_imp,List.rdropWhile_last_not q lines⟩
  refine ⟨front.length,by simp,by rw [run,List.drop_left],⟨by simp,by rwa [List.drop_left]⟩,?_⟩
  rintro s ⟨_,all⟩
  by_contra earlier
  have inside : s < front.length := by omega
  have nonempty : front ≠ [] := List.ne_nil_of_length_pos (by omega)
  refine stop nonempty (all _ ?_)
  rw [List.drop_append_of_le_length inside.le,← List.getLast_drop (i := s) (by simpa using inside)]
  exact List.mem_append_left _ (List.getLast_mem _)

theorem run_below (line : Nat × String) (rest : List (Nat × String)) : ∃ n ≤ rest.length,
    continuedRun (line :: rest) = (line :: rest).take (n + 1) ∧
    (∀ i < n, ∀ l, (line :: rest)[i]? = some l → isContinued l.2 = true) ∧
    ∀ l, (line :: rest)[n]? = some l → n = rest.length ∨ isContinued l.2 = false := by
  induction rest generalizing line with
  | nil => exact ⟨0,le_refl 0,by simp [continuedRun],nofun,fun _ _ => .inl rfl⟩
  | cons next rest ih =>
    by_cases continued : isContinued line.2 = true
    · obtain ⟨n,bound,run,inner,stop⟩ := ih next
      refine ⟨n + 1,by simpa using bound,?_,?_,?_⟩
      · rw [continuedRun,if_pos continued,run]
        rfl
      · rintro (_ | i) earlier l found
        · obtain rfl : line = l := Option.some.inj found
          exact continued
        · exact inner i (by omega) l found
      · intro l found
        simpa using stop l found
    · refine ⟨0,Nat.zero_le _,by simp [continuedRun,continued],nofun,?_⟩
      intro l found
      obtain rfl : line = l := Option.some.inj found
      exact .inr (by simpa using continued)

theorem Extent.unique {lines : List String} {definition : String} {first define last : Nat}
    {first' define' last' : Nat} (one : Extent lines definition first define last)
    (two : Extent lines definition first' define' last') : first = first' ∧ last = last' := by
  obtain rfl := one.defined.unique two.defined
  refine ⟨one.above.unique two.above,?_⟩
  rcases one.below with stop | ⟨all,end₁⟩ <;> rcases two.below with stop' | ⟨all',end₂⟩
  · exact stop.unique stop'
  · exact absurd (all' last stop.1.1 stop.1.2.1) stop.1.2.2
  · exact absurd (all last' stop'.1.1 stop'.1.2.1) stop'.1.2.2
  · omega

section
variable {definition : String} {before rest : List (Nat × String)} {line : Nat × String}

theorem mem_places_before (kind : String → Prop) (i : Nat) (inside : i < before.length) :
    i ∈ places ((before ++ line :: rest).map (·.2)) kind ↔ kind before[i].2 := by
  rw [mem_places_iff,List.getElem?_append_left inside,List.getElem?_eq_getElem inside]
  simp

theorem mem_places_behind (kind : String → Prop) (i : Nat) :
    before.length + i ∈ places ((before ++ line :: rest).map (·.2)) kind ↔
      ∃ l, (line :: rest)[i]? = some l ∧ kind l.2 := by
  rw [mem_places_iff,List.getElem?_append_right (Nat.le_add_right _ _),Nat.add_sub_cancel_left]

theorem first_defined (earlier : ∀ l ∈ before, definesMacro definition l.2 = false)
    (defines : definesMacro definition line.2 = true) :
    IsLeast (places ((before ++ line :: rest).map (·.2)) (Defines definition)) before.length := by
  constructor
  · exact (mem_places_behind _ 0).mpr ⟨line,rfl,(definesMacro_iff _ _).mp defines⟩
  · intro i defined
    by_contra ahead
    have inside : i < before.length := by omega
    have missing := earlier _ (List.getElem_mem inside)
    rw [(definesMacro_iff _ _).mpr ((mem_places_before _ i inside).mp defined)] at missing
    cases missing

theorem comments_above : {s | s ≤ before.length ∧ ∀ i, s ≤ i → i < before.length →
      i ∈ places ((before ++ line :: rest).map (·.2)) IsComment} =
    {s | s ≤ before.length ∧ ∀ l ∈ before.drop s, isCommentLine l.2 = true} := by
  ext s
  refine and_congr_right fun _ => ?_
  simp only [isCommentLine_iff,List.mem_drop_iff_getElem]
  constructor
  · rintro all l ⟨i,inside,rfl⟩
    exact (mem_places_before _ (s + i) (by omega)).mp (all (s + i) (by omega) (by omega))
  · intro all i later inside
    exact (mem_places_before _ i inside).mpr (all _ ⟨i - s,by omega,by congr; omega⟩)

/-- The parts that a definition is put together from reach as far as they should. -/
theorem extent_of_split (earlier : ∀ l ∈ before, definesMacro definition l.2 = false)
    (defines : definesMacro definition line.2 = true) (continued : isContinued line.2 = true) :
    ∃ first last,
      Extent ((before ++ line :: rest).map (·.2)) definition first before.length last ∧
      (before.reverse.takeWhile (isCommentLine ·.2)).reverse ++ continuedRun (line :: rest) =
        ((before ++ line :: rest).take (last + 1)).drop first := by
  obtain ⟨first,inside,above,least⟩ := run_above (isCommentLine ·.2) before
  obtain ⟨n,bound,below,inner,stop⟩ := run_below line rest
  have size : ((before ++ line :: rest).map (·.2)).length = before.length + (rest.length + 1) := by simp
  have going (i : Nat) (later : before.length ≤ i) (early : i < before.length + n) :
      i ∈ places ((before ++ line :: rest).map (·.2)) Continues := by
    obtain ⟨j,rfl⟩ := Nat.exists_eq_add_of_le later
    have short : j < (line :: rest).length := by rw [List.length_cons]; omega
    refine (mem_places_behind _ j).mpr ⟨_,List.getElem?_eq_getElem short,(isContinued_iff _).mp ?_⟩
    exact inner j (by omega) _ (List.getElem?_eq_getElem short)
  refine ⟨first,before.length + n,⟨first_defined earlier defines,?_,?_,?_⟩,?_⟩
  · exact (mem_places_behind _ 0).mpr ⟨line,rfl,(isContinued_iff _).mp continued⟩
  · rw [comments_above]
    exact least
  · have short : n < (line :: rest).length := by rw [List.length_cons]; omega
    by_cases ends : isContinued ((line :: rest)[n]).2 = true
    · have last : n = rest.length := by
        rcases stop _ (List.getElem?_eq_getElem short) with last | open'
        · exact last
        · simp [ends] at open'
      refine .inr ⟨fun i later early => ?_,by omega⟩
      rcases Nat.lt_or_ge i (before.length + n) with inner | here
      · exact going i later inner
      · obtain rfl : i = before.length + n := by omega
        exact (mem_places_behind _ n).mpr ⟨_,List.getElem?_eq_getElem short,(isContinued_iff _).mp ends⟩
    · refine .inl ⟨⟨Nat.le_add_right _ _,by omega,?_⟩,?_⟩
      · intro member
        obtain ⟨l,found,continues⟩ := (mem_places_behind _ n).mp member
        rw [List.getElem?_eq_getElem short] at found
        exact ends (Option.some.inj found ▸ (isContinued_iff _).mpr continues)
      · rintro e ⟨later,_,open'⟩
        by_contra early
        exact open' (going e later (by omega))
  · have taken : (before ++ line :: rest).take (before.length + n + 1) =
        before ++ (line :: rest).take (n + 1) := by
      rw [Nat.add_assoc,List.take_length_add_append]
    rw [above,below,taken,List.drop_append_of_le_length inside]

end

theorem body?_of_split {source definition : String} {before rest : List (Nat × String)} {line : Nat × String}
    (split : numbered source = before ++ line :: rest)
    (earlier : ∀ l ∈ before, definesMacro definition l.2 = false)
    (defines : definesMacro definition line.2 = true) :
    body? source definition = if isContinued line.2 then
      some ((before.reverse.takeWhile (isCommentLine ·.2)).reverse ++ continuedRun (line :: rest))
    else none := by
  have passed : ∀ l ∈ before, (! definesMacro definition l.2) = true := by simpa using earlier
  have stops : ∀ l, (line :: rest).head? = some l → (! definesMacro definition l.2) = false := by
    rintro l ⟨⟩
    simp [defines]
  simp only [body?,split,takeWhile_past _ before _ passed stops,dropWhile_past _ before _ passed stops]

theorem body?_cases (source definition : String) :
    (∀ l ∈ numbered source, definesMacro definition l.2 = false) ∧ body? source definition = none ∨
    ∃ before line rest, numbered source = before ++ line :: rest ∧
      (∀ l ∈ before, definesMacro definition l.2 = false) ∧ definesMacro definition line.2 = true ∧
      body? source definition = if isContinued line.2 then
        some ((before.reverse.takeWhile (isCommentLine ·.2)).reverse ++ continuedRun (line :: rest))
      else none := by
  rcases none_or_first (definesMacro definition ·.2) (numbered source) with
    undefined | ⟨before,line,rest,split,earlier,defines⟩
  · have nothing : (numbered source).dropWhile (! definesMacro definition ·.2) = [] :=
      List.dropWhile_eq_nil_iff.mpr (by simpa using undefined)
    exact .inl ⟨undefined,by simp only [body?,nothing]⟩
  · exact .inr ⟨before,line,rest,split,earlier,defines,body?_of_split split earlier defines⟩

theorem defined_of_body? {source definition : String} {body : List (Nat × String)}
    (found : body? source definition = some body) :
    ∃ define, IsLeast (places (lineTexts source) (Defines definition)) define ∧
      define ∈ places (lineTexts source) Continues := by
  rcases body?_cases source definition with ⟨_,none⟩ | ⟨before,line,rest,split,earlier,defines,read⟩
  · rw [none] at found
    cases found
  · rw [← numbered_lines,split]
    refine ⟨before.length,first_defined earlier defines,(mem_places_behind _ 0).mpr ⟨line,rfl,?_⟩⟩
    by_contra ends
    rw [read,if_neg fun continued => ends ((isContinued_iff _).mp continued)] at found
    cases found

theorem body?_of_defined {source definition : String} {define : Nat}
    (defined : IsLeast (places (lineTexts source) (Defines definition)) define)
    (continued : define ∈ places (lineTexts source) Continues) :
    ∃ first last, Extent (lineTexts source) definition first define last ∧
      body? source definition = some (excerpt (lineTexts source) first last) := by
  rcases body?_cases source definition with ⟨undefined,_⟩ | ⟨before,line,rest,split,earlier,defines,read⟩
  · rw [← numbered_lines] at defined
    obtain ⟨l,found,same⟩ := (mem_places_iff _ _ _).mp defined.1
    have missing := undefined l (List.mem_of_getElem? found)
    rw [(definesMacro_iff _ _).mpr same] at missing
    cases missing
  · have numbers (first last : Nat) :
        excerpt (lineTexts source) first last = ((numbered source).take (last + 1)).drop first := by
      rw [excerpt,← numbered_eq]
    rw [← numbered_lines,split] at defined continued
    obtain rfl := defined.unique (first_defined earlier defines)
    obtain ⟨l,here,continues⟩ := (mem_places_behind _ 0).mp continued
    obtain rfl : line = l := Option.some.inj here
    have goes : isContinued line.2 = true := (isContinued_iff _).mpr continues
    obtain ⟨first,last,extent,lines⟩ := extent_of_split earlier defines goes
    rw [← split,numbered_lines] at extent
    refine ⟨first,last,extent,?_⟩
    rw [read,if_pos goes,lines,← split,numbers]

/-- A definition is found if the first line that defines the name is continued, and has then exactly
the lines of its extent. A line that defines a longer name does not define this one. -/
theorem body?_extent (source definition : String) :
    ((∃ body, body? source definition = some body) ↔
      ∃ define, IsLeast (places (lineTexts source) (Defines definition)) define ∧
        define ∈ places (lineTexts source) Continues) ∧
    (∀ body, body? source definition = some body ↔ ∃ first define last,
      Extent (lineTexts source) definition first define last ∧
        body = excerpt (lineTexts source) first last) ∧
    ∀ line name, Defines name line → Unbroken name → definition ≠ name →
      definition.toList <+: name.toList ∨ definition.toList <:+ name.toList →
      ¬ Defines definition line := by
  refine ⟨⟨?_,?_⟩,fun body => ⟨?_,?_⟩,?_⟩
  · rintro ⟨body,found⟩
    exact defined_of_body? found
  · rintro ⟨define,defined,continued⟩
    obtain ⟨first,last,_,found⟩ := body?_of_defined defined continued
    exact ⟨_,found⟩
  · intro found
    obtain ⟨define,defined,continued⟩ := defined_of_body? found
    obtain ⟨first,last,extent,lines⟩ := body?_of_defined defined continued
    exact ⟨first,define,last,extent,Option.some.inj (found.symm.trans lines)⟩
  · rintro ⟨first,define,last,extent,rfl⟩
    obtain ⟨first',last',other,lines⟩ := body?_of_defined extent.defined extent.continued
    obtain ⟨rfl,rfl⟩ := extent.unique other
    exact lines
  · intro line name defines unbroken other part same
    exact other (same.unique defines (unbroken.part part) unbroken)

example : body? "// On AB.\n#define AB(C) \\ \n  x \\\n  y\nz" "AB" =
    some [(1,"// On AB."),(2,"#define AB(C) \\ "),(3,"  x \\"),(4,"  y")] := by decide +kernel

end Header
end ReferenceSite
