import ReferenceSite.Anchor
import ReferenceSite.Proofs.Text.LowerCase
import ReferenceSite.Proofs.Text.Runs

/-! Anchors that are made of the text of a heading. Such an anchor is the list of the runs that are kept of the
text in lower case, with one hyphen between two of them. The runs can be read off the anchor again, so that it
depends on nothing else and is its own anchor. -/
namespace ReferenceSite.Anchor
open ReferenceSite.Text

/-- The runs of small letters, digits and low lines in the text in lower case. -/
def keptRuns (text : String) : List (List Char) := runs isKept (toLower text.toList)

theorem ne_hyphen_of_isKept (c : Char) (kept : isKept c = true) : c ≠ '-' := by
  rintro rfl
  exact absurd kept (by decide)

theorem isSmall_of_isKept (c : Char) (kept : isKept c = true) : isSmall c = true := by
  simp only [isKept,isSmall,Bool.or_eq_true,Bool.and_eq_true,decide_eq_true_eq,Char.le_def,UInt32.le_iff_toNat_le]
    at kept ⊢
  rcases kept with (⟨first,last⟩ | ⟨_,last⟩) | rfl
  · have letter : 97 ≤ c.toNat ∧ c.toNat ≤ 122 := ⟨first,last⟩
    omega
  · have digit : c.toNat ≤ 57 := last
    omega
  · decide

theorem stops_hyphenate (s : List Char) : Stops (· = '-') (hyphenate true s) := by
  induction s with
  | nil => exact stops_nil _
  | cons c s ih =>
    cases kept : isKept c with
    | true =>
      rw [hyphenate,if_pos kept]
      exact (stops_cons _ c _).mpr (by simpa using ne_hyphen_of_isKept c kept)
    | false => simpa [hyphenate,kept] using ih

/-- A hyphen at the front is the gap that the text begins with. -/
theorem dropWhile_hyphenate (s : List Char) : (hyphenate false s).dropWhile (· = '-') = hyphenate true s := by
  cases s with
  | nil => rfl
  | cons c s =>
    cases kept : isKept c with
    | true =>
      have same : hyphenate false (c :: s) = hyphenate true (c :: s) := by simp [hyphenate,kept]
      rw [same,dropWhile_kept _ _ (stops_hyphenate _)]
    | false => simpa [hyphenate,kept] using dropWhile_kept _ _ (stops_hyphenate s)

theorem intercalate_runs_eq_nil_iff (p : Char → Bool) (s : List Char) :
    ['-'].intercalate (runs p s) = [] ↔ runs p s = [] := by
  cases found : runs p s with
  | nil => simp
  | cons run rest =>
    have nonempty : run ≠ [] := ((mem_runs_iff p s run).mp (found ▸ List.mem_cons_self)).1
    cases rest <;> simp [nonempty,List.intercalate_cons_cons]

/-- What stands behind a kept sign: the rest of its run, or a hyphen if another run follows. -/
def followed (s : List Char) : List Char :=
  (if runs isKept s = [] ∨ s.head?.any isKept then [] else ['-']) ++ ['-'].intercalate (runs isKept s)

theorem intercalate_runs_cons (c : Char) (s : List Char) (kept : isKept c = true) :
    ['-'].intercalate (runs isKept (c :: s)) = c :: followed s := by
  have own : runs isKept [c] = [[c]] := runs_whole isKept [c] (by simp) (by simpa using kept)
  by_cases goes : s.head?.any isKept = true
  · have glued : ¬ Apart isKept [c] s := by
      rintro (ends | stops)
      · simpa [kept] using ends c rfl
      · obtain ⟨d,first,same⟩ := (Option.any_eq_true ..).mp goes
        simpa [same] using stops d first
    obtain ⟨front,u,v,rest,first,second,joined⟩ := runs_glued isKept glued
    obtain ⟨rfl,rfl⟩ : front = [] ∧ u = [c] := by simpa [own,List.append_eq_singleton_iff] using first.symm
    rw [List.singleton_append] at joined
    rw [followed,if_pos (.inr goes),second,joined]
    cases rest <;> simp [List.intercalate_cons_cons]
  · have stops : Stops isKept s := fun d first => by simpa [first] using goes
    have split : runs isKept (c :: s) = [c] :: runs isKept s := by
      rw [← List.singleton_append,runs_append isKept (.inr stops),own,List.singleton_append]
    rw [split,followed]
    cases runs isKept s <;> simp [goes,List.intercalate_cons_cons]

theorem dropWhileEnd_cons_eq (p : Char → Bool) (c : Char) (s : List Char) : dropWhileEnd p (c :: s) =
    if p c = true ∧ dropWhileEnd p s = [] then [] else c :: dropWhileEnd p s := by
  unfold dropWhileEnd
  rw [List.reverse_cons,List.dropWhile_append]
  cases back : s.reverse.dropWhile p with
  | nil => cases kind : p c <;> simp [kind]
  | cons d rest => simp

/-- Without the hyphens at its end, a text with hyphens for gaps is its runs with hyphens between them. -/
theorem dropWhileEnd_hyphenate (s : List Char) :
    dropWhileEnd (· = '-') (hyphenate true s) = ['-'].intercalate (runs isKept s) ∧
      dropWhileEnd (· = '-') (hyphenate false s) = followed s := by
  induction s with
  | nil => exact ⟨rfl,rfl⟩
  | cons c s ih =>
    obtain ⟨behindGap,behindKept⟩ := ih
    cases kept : isKept c with
    | true =>
      have whole := intercalate_runs_cons c s kept
      have front (gap : Bool) : dropWhileEnd (· = '-') (hyphenate gap (c :: s)) = c :: followed s := by
        rw [hyphenate,if_pos kept,dropWhileEnd_cons_eq,behindKept,if_neg]
        simpa using fun hyphen => absurd hyphen (ne_hyphen_of_isKept c kept)
      have onward : followed (c :: s) = c :: followed s := by
        rw [followed,if_pos (.inr kept),whole,List.nil_append]
      exact ⟨(front true).trans whole.symm,(front false).trans onward.symm⟩
    | false =>
      have same := runs_cons isKept c s kept
      have later : hyphenate true (c :: s) = hyphenate true s := by simp [hyphenate,kept]
      have gap : hyphenate false (c :: s) = '-' :: hyphenate true s := by simp [hyphenate,kept]
      refine ⟨by rw [later,behindGap,same],?_⟩
      rw [gap,dropWhileEnd_cons_eq,behindGap,followed,same]
      simp only [intercalate_runs_eq_nil_iff]
      by_cases none : runs isKept s = [] <;> simp [none,kept]

theorem derive_toList (text : String) : (derive text).toList = ['-'].intercalate (keptRuns text) := by
  rw [derive,String.toList_ofList,dropWhile_hyphenate]
  exact (dropWhileEnd_hyphenate _).1

/-! ### What the runs settle -/

theorem keptRuns_kind (text : String) : ∀ run ∈ keptRuns text, run ≠ [] ∧ ∀ c ∈ run, isKept c = true := by
  intro run member
  obtain ⟨nonempty,_,_,_,kind,_⟩ := (mem_runs_iff isKept _ run).mp member
  exact ⟨nonempty,kind⟩

theorem mem_derive (text : String) : ∀ c ∈ (derive text).toList, isKept c = true ∨ c = '-' := by
  have joined (rs : List (List Char)) (kind : ∀ run ∈ rs, ∀ c ∈ run, isKept c = true) :
      ∀ c ∈ ['-'].intercalate rs, isKept c = true ∨ c = '-' := by
    induction rs with
    | nil => simp
    | cons run rs ih =>
      obtain ⟨own,later⟩ := List.forall_mem_cons.mp kind
      cases rs with
      | nil => exact fun c member => .inl (own c (by simpa using member))
      | cons next rs =>
        intro c member
        rw [List.intercalate_cons_cons,List.mem_append,List.mem_append,List.mem_singleton] at member
        rcases member with (inside | hyphen) | further
        · exact .inl (own c inside)
        · exact .inr hyphen
        · exact ih later c further
  rw [derive_toList]
  exact joined _ fun run member => (keptRuns_kind text run member).2

/-- Between two hyphens, and between one and an end of the anchor, stands a run. -/
theorem splitOn_derive (text : String) (nonempty : derive text ≠ "") : [] ∉ (derive text).toList.splitOn '-' := by
  have unhyphened : ∀ run ∈ keptRuns text, '-' ∉ run := fun run member hyphen =>
    ne_hyphen_of_isKept '-' ((keptRuns_kind text run member).2 '-' hyphen) rfl
  have some : keptRuns text ≠ [] := fun none => nonempty (by
    rw [← String.toList_inj,derive_toList,none]
    rfl)
  rw [derive_toList,List.splitOn_intercalate '-' unhyphened some]
  exact fun member => (keptRuns_kind text [] member).1 rfl

theorem keptRuns_derive (text : String) : keptRuns (derive text) = keptRuns text := by
  have small : (derive text).toList.all isSmall = true := by
    rw [List.all_eq_true]
    intro c member
    rcases mem_derive text c member with kept | rfl
    · exact isSmall_of_isKept c kept
    · decide
  rw [keptRuns,toLower_small small,derive_toList]
  exact runs_intercalate isKept '-' (by decide) _ (keptRuns_kind text)

theorem derive_eq_iff (text other : String) : derive text = derive other ↔ keptRuns text = keptRuns other := by
  constructor
  · intro same
    rw [← keptRuns_derive text,same,keptRuns_derive]
  · intro same
    rw [← String.toList_inj,derive_toList,derive_toList,same]

theorem derive_eq_empty_iff (text : String) : derive text = "" ↔ ∀ c ∈ toLower text.toList, isKept c = false := by
  have empty : derive "" = "" := by decide +kernel
  rw [← runs_eq_nil_iff,← empty,derive_eq_iff]
  rfl

theorem isKept_iff (c : Char) (small : c.isUpper = false) : isKept c = true ↔ c.isAlphanum = true ∨ c = '_' := by
  have letters : c.isAlphanum = (c.isUpper || ('a' ≤ c && c ≤ 'z') || ('0' ≤ c && c ≤ '9')) := rfl
  rw [letters,small,Bool.false_or,isKept,Bool.or_eq_true,decide_eq_true_eq]

/-- In lower case no capital letter is left, so that each letter counts. -/
theorem derive_ne_empty_iff (text : String) :
    derive text ≠ "" ↔ ∃ c ∈ toLower text.toList, c.isAlphanum = true ∨ c = '_' := by
  rw [ne_eq,derive_eq_empty_iff,not_forall₂]
  refine exists_congr fun c => ⟨fun ⟨member,kept⟩ => ⟨member,?_⟩,fun ⟨member,kept⟩ => ⟨member,?_⟩⟩
  · exact (isKept_iff c (not_isUpper_toLower _ c member)).mp (by simpa using kept)
  · simpa using (isKept_iff c (not_isUpper_toLower _ c member)).mpr kept

/-- A text that does not fall into empty parts between its hyphens has none at its ends and no two in a row. -/
theorem hyphens_apart (s : List Char) (parts : [] ∉ s.splitOn '-') :
    s.head? ≠ some '-' ∧ s.getLast? ≠ some '-' ∧ ¬ ['-','-'] <:+: s := by
  have cut (before behind : List Char) (whole : s = before ++ behind)
      (ahead : ∀ c, before.getLast? = some c → c = '-') (after : ∀ c, behind.head? = some c → c = '-') : False :=
    parts ((mem_splitOnP_iff _ s []).mpr ⟨before,behind,by simpa using whole,nofun,
      fun c last => by simpa using ahead c last,fun c first => by simpa using after c first⟩)
  refine ⟨fun first => ?_,fun last => ?_,?_⟩
  · exact cut [] s rfl nofun fun c same => Option.some.inj (same.symm.trans first)
  · exact cut s [] (by simp) (fun c same => Option.some.inj (same.symm.trans last)) nofun
  · rintro ⟨before,behind,rfl⟩
    exact cut (before ++ ['-']) ('-' :: behind) (by simp) (by simp [eq_comm]) (by simp [eq_comm])

/-- An anchor is made of the kept runs of its text in lower case, with one hyphen between two of them, and
these are all that it depends on. -/
theorem derive_runs (text : String) :
    (derive text).toList = ['-'].intercalate (keptRuns text) ∧
    (∀ run, run ∈ keptRuns text ↔ run ≠ [] ∧ ∃ before behind, toLower text.toList = before ++ run ++ behind ∧
      (∀ c ∈ run, isKept c = true) ∧ (∀ c, before.getLast? = some c → isKept c = false) ∧
      ∀ c, behind.head? = some c → isKept c = false) ∧
    (∀ c ∈ (derive text).toList, isKept c = true ∨ c = '-') ∧
    (derive text).toList.head? ≠ some '-' ∧ (derive text).toList.getLast? ≠ some '-' ∧
    ¬ ['-','-'] <:+: (derive text).toList ∧
    (derive text = "" ↔ keptRuns text = []) ∧
    (∀ other, derive text = derive other ↔ keptRuns text = keptRuns other) ∧
    derive (derive text) = derive text := by
  have hyphens : (derive text).toList.head? ≠ some '-' ∧ (derive text).toList.getLast? ≠ some '-' ∧
      ¬ ['-','-'] <:+: (derive text).toList := by
    by_cases empty : derive text = ""
    · simp [empty]
    · exact hyphens_apart _ (splitOn_derive text empty)
  obtain ⟨opens,closes,single⟩ := hyphens
  refine ⟨derive_toList text,mem_runs_iff isKept _,mem_derive text,opens,closes,single,?_,derive_eq_iff text,?_⟩
  · rw [derive_eq_empty_iff,keptRuns,runs_eq_nil_iff]
  · exact (derive_eq_iff _ text).mpr (keptRuns_derive text)

/-- A Kelvin sign becomes a letter in lower case. -/
theorem kelvin_derived :
    'k' ∈ (derive "C++ & \u212A!").toList ∧ (isKept 'k' = true ∨ 'k' = '-') ∧
    keptRuns "C++ & \u212A!" = [['c'],['k']] ∧ derive "C++ & \u212A!" = derive "--c k" := by
  have runs : keptRuns "C++ & \u212A!" = [['c'],['k']] := by decide +kernel
  obtain ⟨joined,_,signs,_,_,_,_,same,_⟩ := derive_runs "C++ & \u212A!"
  have member : 'k' ∈ (derive "C++ & \u212A!").toList := by
    rw [joined,runs]
    decide
  exact ⟨member,signs _ member,runs,(same "--c k").mpr (by decide +kernel)⟩

end ReferenceSite.Anchor
