import ReferenceSite.Proofs.Tables.Announcements
import ReferenceSite.Proofs.Tables.ReadTables

/-! A header reads the same whichever of the two line ends it is written with. Its lines are what they
were, and so are its announcements: a carriage return ahead of a line feed is white space, and no macro
that stands on one line can begin or end inside of a line end. -/
namespace ReferenceSite
open ReferenceSite.Text

namespace Text

/-- The text with a carriage return ahead of each line feed. -/
def withReturns (s : List Char) : List Char :=
  s.flatMap fun c => if c = '\n' then ['\r','\n'] else [c]

@[simp] theorem withReturns_feed (s : List Char) :
    withReturns ('\n' :: s) = '\r' :: '\n' :: withReturns s := by
  simp [withReturns]

theorem withReturns_cons (c : Char) (s : List Char) (inner : c ≠ '\n') :
    withReturns (c :: s) = c :: withReturns s := by
  simp [withReturns,inner]

private theorem linesAfter_withReturns (current s : List Char) (plain : '\r' ∉ s)
    (ended : current.head? ≠ some '\r') : linesAfter current (withReturns s) = linesAfter current s := by
  induction s generalizing current with
  | nil => rfl
  | cons c s ih =>
    have later : '\r' ∉ s := fun member => plain (List.mem_cons_of_mem c member)
    by_cases feed : c = '\n'
    · subst feed
      have reading : linesAfter current ('\n' :: s) = current.reverse :: linesAfter [] s := by
        rw [linesAfter]
        intro before same
        apply ended
        rw [same]
        rfl
      rw [reading,withReturns_feed,linesAfter,linesAfter,ih [] later (by simp)]
      decide
    · have other : c ≠ '\r' := by
        intro same
        apply plain
        simp [same]
      rw [withReturns_cons c s feed,linesAfter,linesAfter]
      · exact ih (c :: current) later (by simpa using other)
      · exact feed
      · exact feed

theorem lines_withReturns (s : List Char) (plain : '\r' ∉ s) : lines (withReturns s) = lines s :=
  linesAfter_withReturns [] s plain (by simp)

/-- What a text begins with it also begins with in the other spelling, if that does not break off
inside of a line end. -/
theorem dropPrefix?_withReturns (start s : List Char) (single : '\n' ∉ start)
    (ended : start.getLast? ≠ some '\r') :
    dropPrefix? start (withReturns s) = (dropPrefix? start s).map withReturns := by
  induction start generalizing s with
  | nil => rfl
  | cons p start ih =>
    have first : p ≠ '\n' := fun same => single (by simp [same])
    have others : '\n' ∉ start := fun member => single (List.mem_cons_of_mem p member)
    cases s with
    | nil => rfl
    | cons c s =>
      by_cases feed : c = '\n'
      · subst feed
        rw [withReturns_feed]
        cases start with
        | nil =>
          have apart : p ≠ '\r' := by simpa using ended
          simp [dropPrefix?,first,apart]
        | cons q start =>
          have second : q ≠ '\n' := fun same => others (by simp [same])
          simp [dropPrefix?,first,second]
      · have tail : start.getLast? ≠ some '\r' := by
          intro last
          apply ended
          simp [List.getLast?_cons,last]
        rw [withReturns_cons c s feed,dropPrefix?,dropPrefix?,ih s others tail]
        split <;> rfl

theorem takeWhile_withReturns (p : Char → Bool) (s : List Char) (feed : p '\n' = false)
    (back : p '\r' = false) : (withReturns s).takeWhile p = s.takeWhile p ∧
      (withReturns s).dropWhile p = withReturns (s.dropWhile p) := by
  induction s with
  | nil => exact ⟨rfl,rfl⟩
  | cons c s ih =>
    by_cases ends : c = '\n'
    · subst ends
      simp [feed,back]
    · rw [withReturns_cons c s ends]
      cases passed : p c with
      | true => simp [passed,ih]
      | false => simp [passed,withReturns_cons c s ends]

end Text

namespace Header

theorem leadingWord?_withReturns (s : List Char) : LineKind.leadingWord? (withReturns s) =
    (LineKind.leadingWord? s).map fun (word,rest) => (word,withReturns rest) := by
  have feed : isWord '\n' = false := not_isWord_of_blank _ (by decide)
  have back : isWord '\r' = false := not_isWord_of_blank _ (by decide)
  obtain ⟨taken,left⟩ := takeWhile_withReturns isWord s feed back
  simp only [LineKind.leadingWord?,taken,left]
  split <;> rfl

section
variable (marker : List Char)

/-- The announcement right here, with nothing passed over. -/
private def announced? (t : List Char) : Option (List Char × List Char) := do
  let (definition,rest) ← LineKind.leadingWord? (← dropPrefix? (marker ++ ['(']) t)
  some (definition,← dropPrefix? [')'] rest)

private theorem invocation?_eq (s : List Char) :
    invocation? marker s = (afterBlanks s).findSome? (announced? marker) := rfl

variable (single : '\n' ∉ marker)
include single

private theorem announced?_withReturns (t : List Char) : announced? marker (withReturns t) =
    (announced? marker t).map fun (definition,rest) => (definition,withReturns rest) := by
  have opening := dropPrefix?_withReturns (marker ++ ['(']) t (by simpa using single) (by simp)
  unfold announced?
  rw [opening]
  cases dropPrefix? (marker ++ ['(']) t with
  | none => rfl
  | some behind =>
    have word := leadingWord?_withReturns behind
    simp only [Option.map_some,Option.bind_eq_bind,Option.bind_some,word]
    cases LineKind.leadingWord? behind with
    | none => rfl
    | some found =>
      have closing := dropPrefix?_withReturns [')'] found.2 (by simp) (by simp)
      simp only [Option.map_some,Option.bind_some,closing]
      cases dropPrefix? [')'] found.2 <;> rfl

/-- No announcement begins at a line end. -/
private theorem announced?_end (t : List Char) : announced? marker ('\n' :: t) = none ∧
    announced? marker ('\r' :: '\n' :: t) = none := by
  cases marker with
  | nil => exact ⟨rfl,rfl⟩
  | cons p marker =>
    have first : p ≠ '\n' := fun same => single (by simp [same])
    have inside : '\n' ∉ marker := fun member => single (List.mem_cons_of_mem p member)
    refine ⟨by simp [announced?,dropPrefix?,first],?_⟩
    cases marker with
    | nil => simp [announced?,dropPrefix?]
    | cons q marker =>
      have second : q ≠ '\n' := fun same => inside (by simp [same])
      simp [announced?,dropPrefix?,second]

theorem invocation?_withReturns (s : List Char) : invocation? marker (withReturns s) =
    (invocation? marker s).map fun (definition,rest) => (definition,withReturns rest) := by
  rw [invocation?_eq,invocation?_eq]
  induction s with
  | nil => simpa [afterBlanks,withReturns] using announced?_withReturns marker single []
  | cons c s ih =>
    by_cases feed : c = '\n'
    · subst feed
      obtain ⟨late,early⟩ := announced?_end marker single (withReturns s)
      obtain ⟨here,_⟩ := announced?_end marker single s
      have blank : isBlank '\n' = true ∧ isBlank '\r' = true := by decide
      simp [afterBlanks,blank,List.findSome?_append,late,early,here,ih]
    · have here := announced?_withReturns marker single (c :: s)
      rw [withReturns_cons c s feed] at here ⊢
      rw [afterBlanks,afterBlanks]
      cases isBlank c with
      | false => simp [here]
      | true =>
        simp only [if_true,List.findSome?_append,List.findSome?_cons,List.findSome?_nil,here,ih]
        cases (afterBlanks s).findSome? (announced? marker) with
        | some found => rfl
        | none => cases announced? marker (c :: s) <;> rfl

theorem invocationsFrom_withReturns (fresh : Bool) (s : List Char) :
    invocationsFrom marker fresh (withReturns s) = invocationsFrom marker fresh s := by
  fun_induction invocationsFrom marker fresh s with
  | case1 fresh s definition rest found ih =>
    split at found
    · rename_i start
      have same := invocation?_withReturns marker single s
      rw [found,Option.map_some] at same
      rw [start,invocationsFrom_found marker _ _ _ same,ih]
    · cases found
  | case2 fresh missing =>
    rw [withReturns,List.flatMap_nil,invocationsFrom_missing marker [] fresh]
    · rfl
    · intro start
      simpa [start] using missing
  | case3 fresh c rest missing ih =>
    have nowhere : fresh = true → invocation? marker (withReturns (c :: rest)) = none := by
      intro start
      rw [if_pos start] at missing
      rw [invocation?_withReturns marker single,missing,Option.map_none]
    rw [invocationsFrom_missing marker _ fresh nowhere,← ih]
    by_cases feed : c = '\n'
    · subst feed
      rw [withReturns_feed]
      exact invocationsFrom_within marker [] (withReturns rest) (by simp)
    · rw [withReturns_cons c rest feed]
      rfl

end

theorem numbered_withReturns (source : String) (plain : '\r' ∉ source.toList) :
    numbered (.ofList (withReturns source.toList)) = numbered source := by
  simp only [numbered,String.toList_ofList,lines_withReturns source.toList plain]

/-- With a carriage return ahead of each of its line feeds a header gives the same tables and the same
missing definitions, or stops at the same line. -/
theorem parse_withReturns (path : Path) (dialect : Dialect) (source : String)
    (plain : '\r' ∉ source.toList) (single : '\n' ∉ dialect.invocationMacro.toList) :
    parse path dialect (.ofList (withReturns source.toList)) = parse path dialect source := by
  have announced : invocations dialect (.ofList (withReturns source.toList)) =
      invocations dialect source := by
    simp only [invocations,String.toList_ofList]
    exact invocationsFrom_withReturns dialect.invocationMacro.toList single true source.toList
  have located (definition : String) :
      body? (.ofList (withReturns source.toList)) definition = body? source definition := by
    simp only [body?,numbered_withReturns source plain]
  have read (found : HeaderTables) (definitions : List String) :
      extend path dialect (.ofList (withReturns source.toList)) found definitions =
        extend path dialect source found definitions := by
    induction definitions generalizing found with
    | nil => rfl
    | cons definition rest ih => simp only [extend,tableOf,located,ih]
  rw [parse,parse,announced,read]

def sliceText : String :=
  "// Slices.\n#define F(C) \\\n  NAME(Foo, f) \\\n  C(int, x)\nPERFETTO_TP_TABLE(F)\nPERFETTO_TP_TABLE(G)\n"

theorem slices_returned :
    '\r' ∉ sliceText.toList ∧ '\n' ∉ Dialect.standard.invocationMacro.toList ∧
    parse ⟨"a.h"⟩ .standard (.ofList (withReturns sliceText.toList)) =
      .ok ⟨[⟨"Foo","Slices.\n",[⟨"x","int",false,""⟩]⟩],[⟨"G",⟨"a.h"⟩⟩]⟩ := by
  have plain : '\r' ∉ sliceText.toList := by decide +kernel
  have single : '\n' ∉ Dialect.standard.invocationMacro.toList := by decide +kernel
  have read : parse ⟨"a.h"⟩ .standard sliceText =
      .ok ⟨[⟨"Foo","Slices.\n",[⟨"x","int",false,""⟩]⟩],[⟨"G",⟨"a.h"⟩⟩]⟩ :=
    ok_of_toOption _ _ (by decide +kernel)
  exact ⟨plain,single,(parse_withReturns ⟨"a.h"⟩ .standard sliceText plain single).trans read⟩

end Header
end ReferenceSite
