import Mathlib.Data.Bool.AllAny
import Mathlib.Data.List.Chain
import Mathlib.Data.List.TakeWhile
import ReferenceSite.Markdown.Inline
import ReferenceSite.Proofs.Text.Lines

/-! Text of letters, digits and a few signs. Of these signs only underscores mean anything to the
inline structure, and an address may begin with three letters. Where no run of underscores can open,
or none can close, and no address begins, the text is a single piece of text. -/
namespace ReferenceSite.Markdown
open ReferenceSite.Text

def isPlain (c : Char) : Bool := c.isAlphanum || ['_','.','-','/','\x7b','#','\x7d',' '].contains c

/-- Plain signs are few enough to be looked at one by one. -/
theorem of_isPlain (P : Char → Prop) (all : ∀ n < 128, isPlain (.ofNat n) = true → P (.ofNat n))
    (c : Char) (plain : isPlain c = true) : P c := by
  have small : c.toNat < 128 := by
    simp only [isPlain,Bool.or_eq_true,List.contains_eq_mem,decide_eq_true_eq] at plain
    rcases plain with letter | sign
    · have ranges : c.isAlphanum = (decide ('A'.val ≤ c.val ∧ c.val ≤ 'Z'.val) ||
          (decide ('a'.val ≤ c.val) && decide (c.val ≤ 'z'.val)) ||
          (decide ('0'.val ≤ c.val) && decide (c.val ≤ '9'.val))) := rfl
      simp only [ranges,Bool.or_eq_true,Bool.and_eq_true,decide_eq_true_eq,UInt32.le_iff_toNat_le] at letter
      have code : c.toNat = c.val.toNat := rfl
      simp at letter
      omega
    · have listed : ∀ d ∈ ['_','.','-','/','\x7b','#','\x7d',' '], d.toNat < 128 :=
        List.all_iff_forall_prop.mp (by decide)
      exact listed c sign
  simpa [Char.ofNat_toNat] using all c.toNat small (by simpa [Char.ofNat_toNat] using plain)

theorem special_plain (c : Char) (plain : isPlain c = true) (special : isSpecial c = true) :
    c = '_' ∨ c = 'w' := by
  simp only [isSpecial,String.toList,List.contains_eq_mem,decide_eq_true_eq] at special
  have listed : c ∈ ['\n','_','*','"','`','\'','\\','&','<','[',']','!','~',':','w'] := special
  simp only [List.mem_cons,List.not_mem_nil,or_false] at listed
  rcases listed with rfl | rfl | rfl | rfl | rfl | rfl | rfl | rfl | rfl | rfl | rfl | rfl | rfl | rfl | rfl
  all_goals first | exact .inl rfl | exact .inr rfl | exact absurd plain (by decide)

/-- A sign without meaning is read together with all such signs behind it. -/
theorem readFrom_ordinary (references : References) (r : Reading) (before : List Char) (c : Char)
    (rest : List Char) (ordinary : isSpecial c = false) :
    readFrom references r before c rest =
      (r.pushText (if rest[(rest.takeWhile (! isSpecial ·)).length]? = some '\n' then
        trimSpaceEnd (c :: rest.takeWhile (! isSpecial ·)) else c :: rest.takeWhile (! isSpecial ·)),
        (rest.takeWhile (! isSpecial ·)).length) := by
  unfold readFrom
  split <;> first | exact absurd ordinary (by decide) | rfl

theorem readAll_cons (references : References) (r : Reading) (before : List Char) (c : Char)
    (rest : List Char) : readAll references r before (c :: rest) =
      readAll references (readFrom references r before c rest).1
        ((rest.take (readFrom references r before c rest).2).reverse ++ c :: before)
        (rest.drop (readFrom references r before c rest).2) := by
  rw [readAll]

namespace Piece

/-- The text that a piece stands for if it finds no partner. -/
def spelled : Piece → List Char
  | .node (.node (.text s) _) => s.toList
  | .node _ => []
  | .delimiter d => List.replicate d.left d.character

/-- Text, or a run of delimiters of some sort. -/
def IsText (sort : Delimiter → Prop) : Piece → Prop
  | .node n => ∃ s, n = .text s
  | .delimiter d => d.left ≠ 0 ∧ sort d

end Piece

theorem readFrom_w (references : References) (r : Reading) (before rest : List Char)
    (unlinked : r.inBrackets = true ∨ dropPrefix? "www.".toList ('w' :: rest) = none) :
    readFrom references r before 'w' rest = (r.pushText ['w'],0) := by
  have nothing : (if r.inBrackets then none else wwwLink? before.head? ('w' :: rest)) = none := by
    rcases unlinked with inside | other
    · rw [if_pos inside]
    · have missed : wwwLink? before.head? ('w' :: rest) = none := by
        simp only [wwwLink?,other,Option.isSome_none,Bool.false_eq_true,false_and,and_false,if_false]
      rw [missed,ite_self]
  unfold readFrom
  simp only [nothing]

theorem readFrom_underscore (references : References) (r : Reading) (before rest : List Char) :
    readFrom references r before '_' rest =
      (r.push (.piece (if (delimiterRun '_' before rest).opens || (delimiterRun '_' before rest).closes
        then .delimiter (delimiterRun '_' before rest)
        else .node (.text (List.replicate (delimiterRun '_' before rest).length '_')))),
        (rest.takeWhile (· = '_')).length) := rfl

/-- Whatever a scan passes over in a plain text, a bracket behind the text ends it. -/
theorem append_stops (p : Char → Bool) (left rest : List Char)
    (stops : ∀ c, rest.head? = some c → c = '[' ∨ c = ']') (outside : p '[' = false ∧ p ']' = false)
    (next : ∀ d, left.head? = some d → p d = false) : ∀ d, (left ++ rest).head? = some d → p d = false := by
  cases left with
  | nil =>
    intro d first
    rcases stops d first with rfl | rfl
    · exact outside.1
    · exact outside.2
  | cons e left => exact next

/-- One step reads a piece from the signs that it takes. It does not stop within a run of underscores. -/
structure ReadsPiece (references : References) (sort : Delimiter → Prop) (r : Reading) (before : List Char)
    (c : Char) (taken left rest : List Char) (p : Piece) : Prop where
  read : readFrom references r before c (taken ++ left ++ rest) = (r.push (.piece p),taken.length)
  spelled : p.spelled = c :: taken
  text : p.IsText sort
  apart : (taken.reverse ++ c :: before).head? = some '_' → left.head? ≠ some '_'

section PlainStep
variable (references : References) (sort : Delimiter → Prop) (r : Reading) (before : List Char)
  (s rest : List Char) (stops : ∀ c, rest.head? = some c → c = '[' ∨ c = ']')
include stops

theorem readsPiece_underscore (run : sort (delimiterRun '_' before (s ++ rest))) :
    ∃ taken left p, s = taken ++ left ∧ ReadsPiece references sort r before '_' taken left rest p := by
  obtain ⟨taken,left,rfl,passed,next⟩ := takeWhile_split (· = '_') s
  have unbroken := takeWhile_past (· = '_') taken (left ++ rest) passed
    (append_stops _ left rest stops (by decide) next)
  rw [← List.append_assoc] at unbroken
  have written : List.replicate (taken.length + 1) '_' = '_' :: taken := by
    rw [List.replicate_succ,← List.eq_replicate_iff.mpr ⟨rfl,fun d member => by simpa using passed d member⟩]
  have length : (delimiterRun '_' before (taken ++ left ++ rest)).length = taken.length + 1 := by
    simp only [delimiterRun,unbroken]
  have unused : (delimiterRun '_' before (taken ++ left ++ rest)).left = taken.length + 1 := length
  refine ⟨taken,left,_,rfl,by rw [readFrom_underscore,unbroken],?_,?_,fun _ first => by simpa using next _ first⟩
  · split
    · rw [Piece.spelled,unused]
      exact written
    · rw [length,written]
      simp [Piece.spelled,Node.text,Node.leaf]
  · split
    · exact ⟨by omega,run⟩
    · exact ⟨_,rfl⟩

theorem readsPiece_ordinary (c : Char) (ordinary : isSpecial c = false) (underscore : c ≠ '_')
    (plain : ∀ d ∈ s, isPlain d = true) :
    ∃ taken left p, s = taken ++ left ∧ ReadsPiece references sort r before c taken left rest p := by
  obtain ⟨taken,left,rfl,inner,next⟩ := takeWhile_split (! isSpecial ·) s
  have chunk := takeWhile_past (! isSpecial ·) taken (left ++ rest) inner
    (append_stops _ left rest stops (by decide) next)
  rw [← List.append_assoc] at chunk
  -- Blanks are kept, for no line ends behind them.
  have within : (taken ++ left ++ rest)[taken.length]? ≠ some '\n' := by
    rw [List.append_assoc,List.getElem?_append_right (Nat.le_refl _),Nat.sub_self]
    intro line
    have broken := append_stops (· = '\n') left rest stops (by decide) (fun d first => ?_) '\n'
      (by rw [List.head?_eq_getElem?]; exact line)
    · simp at broken
    · have read := plain d (List.mem_append_right _ (List.mem_of_head? first))
      rw [decide_eq_false_iff_not]
      rintro rfl
      exact absurd read (by decide)
  refine ⟨taken,left,.node (.text (c :: taken)),rfl,?_,by simp [Piece.spelled,Node.text,Node.leaf],⟨_,rfl⟩,?_⟩
  · rw [readFrom_ordinary references r before c _ ordinary,chunk,if_neg within]
    rfl
  · intro last
    rcases List.eq_nil_or_concat taken with rfl | ⟨front,d,rfl⟩
    · exact absurd (by simpa using last) underscore
    · have same : d = '_' := by simpa using last
      subst same
      exact absurd (inner '_' (by simp)) (by decide)

theorem readsPiece_plain (c : Char) (plain : ∀ d ∈ c :: s, isPlain d = true)
    (fresh : before.head? = some '_' → c ≠ '_')
    (unlinked : r.inBrackets = true ∨ dropPrefix? "www.".toList (c :: s ++ rest) = none)
    (run : c = '_' → before.head? ≠ some '_' → sort (delimiterRun '_' before (s ++ rest))) :
    ∃ taken left p, s = taken ++ left ∧ ReadsPiece references sort r before c taken left rest p := by
  obtain ⟨own,later⟩ := List.forall_mem_cons.mp plain
  by_cases underscore : c = '_'
  · subst underscore
    exact readsPiece_underscore references sort r before s rest stops (run rfl fun again => fresh again rfl)
  · by_cases w : c = 'w'
    · subst w
      exact ⟨[],s,.node (.text ['w']),rfl,readFrom_w references r before _ unlinked,
        by simp [Piece.spelled,Node.text,Node.leaf],⟨_,rfl⟩,by simp⟩
    · have ordinary : isSpecial c = false := by
        rw [Bool.eq_false_iff]
        exact fun special => (special_plain c own special).elim underscore w
      exact readsPiece_ordinary references sort r before s rest stops c ordinary underscore later

end PlainStep

/-- Reads a plain text up to a bracket or to its end. `sort` holds of each run of underscores in it. -/
theorem readAll_plain (references : References) (sort : Delimiter → Prop) (s rest : List Char)
    (r : Reading) (before : List Char) (plain : ∀ c ∈ s, isPlain c = true)
    (stops : ∀ c, rest.head? = some c → c = '[' ∨ c = ']')
    (fresh : before.head? = some '_' → s.head? ≠ some '_')
    (unlinked : r.inBrackets = true ∨ ∀ t, t <:+ s → dropPrefix? "www.".toList (t ++ rest) = none)
    (runs : ∀ front behind, front.reverse ++ '_' :: behind = before.reverse ++ s ++ rest →
      front.head? ≠ some '_' → sort (delimiterRun '_' front behind)) :
    ∃ ps : List Piece, readAll references r before (s ++ rest) =
        readAll references { r with tokens := (ps.map Token.piece).reverse ++ r.tokens }
          (s.reverse ++ before) rest ∧
      ps.flatMap Piece.spelled = s ∧ ∀ p ∈ ps, p.IsText sort := by
  -- A step may take many signs, so the induction is on what is left.
  induction size : s.length using Nat.strongRecOn generalizing s r before with
  | _ size ih =>
    cases s with
    | nil => exact ⟨[],rfl,rfl,by simp⟩
    | cons c s =>
      obtain ⟨taken,left,p,rfl,step⟩ := readsPiece_plain references sort r before s rest stops c plain
        (fun again same => fresh again (by simp [same])) (unlinked.imp_right fun none => none _ (List.suffix_refl _))
        (fun same => same ▸ runs before (s ++ rest) (by simp [same]))
      obtain ⟨ps,run,spells,texts⟩ := ih left.length (by simp at size; omega) left (r.push (.piece p))
        (taken.reverse ++ c :: before) (fun d member => plain d (by simp [member])) step.apart
        (unlinked.imp_right fun none t suffix =>
          none t (suffix.trans ((List.suffix_append taken left).trans (List.suffix_cons c _))))
        (fun front behind whole => runs front behind (by simpa using whole)) rfl
      refine ⟨p :: ps,?_,by simp [step.spelled,spells],List.forall_mem_cons.mpr ⟨step.text,texts⟩⟩
      rw [List.cons_append,readAll_cons,step.read]
      simpa [Reading.push,List.append_assoc] using run

/-! Runs that do not pair up. -/

theorem Piece.IsText.settle {sort : Delimiter → Prop} {p : Piece} (text : p.IsText sort) :
    p.settle = .text p.spelled := by
  cases p with
  | delimiter d => rfl
  | node n =>
    obtain ⟨s,rfl⟩ := text
    simp [Piece.settle,Piece.spelled,Node.text,Node.leaf]

theorem findOpener?_none (closer : Delimiter) (left : List Piece)
    (closed : ∀ d, .delimiter d ∈ left → d.opens = false) : closer.findOpener? left = none := by
  induction left with
  | nil => rfl
  | cons p left ih =>
    have further := ih fun d member => closed d (by simp [member])
    cases p with
    | node n => simp [Delimiter.findOpener?,further]
    | delimiter d => simp [Delimiter.findOpener?,Delimiter.pairs,closed d (by simp),further]

theorem pairRuns_apart (sort : Delimiter → Prop) (left right : List Piece)
    (texts : ∀ p ∈ left ++ right, p.IsText sort)
    (apart : (∀ d, sort d → d.closes = false) ∨ ∀ d, sort d → d.opens = false) :
    pairRuns left right = (left.reverse ++ right).map Piece.settle := by
  induction right generalizing left with
  | nil => simp [pairRuns]
  | cons p right ih =>
    have moved := ih (p :: left) (fun q member => texts q (by
      simp only [List.cons_append,List.mem_cons,List.mem_append] at member ⊢
      exact or_left_comm.mp member))
    rw [List.reverse_cons,List.append_assoc,List.singleton_append] at moved
    cases p with
    | node n => rw [pairRuns,moved]
    | delimiter d =>
      obtain ⟨unused,sorted⟩ := texts (.delimiter d) (by simp)
      have alone : (if d.closes then d.findOpener? left else none) = none := by
        rcases apart with never | never
        · simp [never d sorted]
        · rw [findOpener?_none d left fun e member => never e (texts (.delimiter e) (by simp [member])).2,
            ite_self]
      rw [pairRuns,if_neg unused,alone]
      exact moved

/-! Adjacent texts are one text, and a text without an at sign holds no mail address. -/

theorem splitMail?_none (s : List Char) (depth : Int) (before : List Char) (none : '@' ∉ s) :
    splitMail? depth before s = .none := by
  induction s generalizing depth before with
  | nil => rfl
  | cons c s ih =>
    obtain ⟨other,later⟩ := not_or.mp (List.mem_cons.not.mp none)
    simp only [splitMail?,Ne.symm other,false_and,if_false]
    exact ih _ _ later

theorem linkMail_none (limit : Nat) (s : List Char) (filled : s ≠ []) (none : '@' ∉ s) :
    linkMail limit s = [.text s] := by
  unfold linkMail
  simp [splitMail?_none s 0 [] none,filled]

theorem joinText_texts (texts : List (List Char)) (pending : List Char)
    (filled : pending ++ texts.flatten ≠ []) (none : '@' ∉ pending ++ texts.flatten) :
    joinText pending (texts.map Node.text) = [.text (pending ++ texts.flatten)] := by
  induction texts generalizing pending with
  | nil =>
    rw [List.flatten_nil,List.append_nil] at filled none ⊢
    simp only [List.map_nil,joinText,joinText.flush,List.isEmpty_iff,filled,if_false]
    exact linkMail_none _ _ filled none
  | cons s texts ih =>
    rw [List.flatten_cons,← List.append_assoc] at filled none ⊢
    rw [List.map_cons,Node.text,Node.leaf,joinText]
    simpa using ih (pending ++ s) filled none

theorem not_at_plain (s : List Char) (plain : ∀ c ∈ s, isPlain c = true) : '@' ∉ s :=
  fun member => absurd (plain _ member) (by decide)

theorem settle_plain (sort : Delimiter → Prop) (ps : List Piece)
    (texts : ∀ p ∈ ps, p.IsText sort) (filled : ps.flatMap Piece.spelled ≠ [])
    (none : '@' ∉ ps.flatMap Piece.spelled) :
    joinText [] (ps.map Piece.settle) = [.text (ps.flatMap Piece.spelled)] := by
  have settled : ps.map Piece.settle = (ps.map Piece.spelled).map Node.text := by
    rw [List.map_map]
    exact List.map_congr_left fun p member => (texts p member).settle
  rw [settled,List.flatMap_def] at *
  exact joinText_texts _ [] filled none

/-- A plain text in which no address begins and no runs pair up is one piece of text. -/
theorem inlines_plain (references : References) (sort : Delimiter → Prop) (s : List Char) (filled : s ≠ [])
    (ended : trimSpaceEnd s = s) (plain : ∀ c ∈ s, isPlain c = true)
    (unlinked : ∀ t, t <:+ s → dropPrefix? "www.".toList t = none)
    (runs : ∀ front behind, front.reverse ++ '_' :: behind = s → front.head? ≠ some '_' →
      sort (delimiterRun '_' front behind))
    (apart : (∀ d, sort d → d.closes = false) ∨ ∀ d, sort d → d.opens = false) :
    inlines references s = [.text s] := by
  obtain ⟨ps,read,spelled,texts⟩ := readAll_plain references sort s [] .start [] plain (by simp)
    (by simp) (.inr (by simpa using unlinked)) (by simpa using runs)
  rw [List.append_nil] at read
  rw [inlines,ended,read,readAll]
  have pieces : ((ps.map Token.piece).reverse ++ Reading.start.tokens).reverse.map Token.settle = ps := by
    simp [Reading.start,Function.comp_def,Token.settle]
  simp only [pieces]
  rw [pairRuns_apart sort [] ps (by simpa using texts) apart,List.reverse_nil,List.nil_append,
    settle_plain sort ps texts (spelled ▸ filled) (spelled ▸ not_at_plain s plain),spelled]

/-! Runs of underscores next to letters and digits. -/

theorem letter_signs (c : Char) (letter : c.isAlphanum = true) :
    isBlank c = false ∧ isPunctuationOrSymbol c = false ∧ c ≠ '~' ∧ c ≠ '_' := by
  have plain : isPlain c = true := by simp [isPlain,letter]
  exact of_isPlain (fun c => c.isAlphanum = true → isBlank c = false ∧ isPunctuationOrSymbol c = false ∧
    c ≠ '~' ∧ c ≠ '_') (by decide +kernel) c plain letter

theorem neighbour_letter (s : List Char) (c : Char) (first : s.head? = some c)
    (letter : c.isAlphanum = true) : neighbour s = c := by
  cases s with
  | nil => simp at first
  | cons d s =>
    obtain rfl : d = c := by simpa using first
    simp [neighbour,(letter_signs d letter).2.2.1]

theorem closes_before_letter (front behind : List Char) (c : Char)
    (first : (behind.dropWhile (· = '_')).head? = some c) (letter : c.isAlphanum = true) :
    (delimiterRun '_' front behind).closes = false := by
  obtain ⟨taken,left,rfl,run,next⟩ := takeWhile_split (· = '_') behind
  rw [dropWhile_past _ taken left run next] at first
  have after : neighbour ((taken ++ left).drop ((taken ++ left).takeWhile (· = '_')).length) = c := by
    rw [takeWhile_past _ taken left run next,List.drop_left]
    exact neighbour_letter _ c first letter
  obtain ⟨blank,sign,_⟩ := letter_signs c letter
  simp only [delimiterRun,Nat.add_sub_cancel,after]
  simp [flanking,blank,sign]

theorem opens_behind_letter (front behind : List Char) (c : Char) (last : front.head? = some c)
    (letter : c.isAlphanum = true) : (delimiterRun '_' front behind).opens = false := by
  obtain ⟨blank,sign,_⟩ := letter_signs c letter
  simp only [delimiterRun,neighbour_letter front c last letter]
  simp [flanking,blank,sign]

/-- Every underscore is followed by an underscore or by a letter or digit, at the end as well. -/
def RunsLead (s : List Char) : Prop :=
  s.IsChain (fun a b => a = '_' → b = '_' ∨ b.isAlphanum = true) ∧ s.getLast? ≠ some '_'

/-- Every underscore follows an underscore or a letter or digit, at the beginning as well. -/
def RunsTrail (s : List Char) : Prop :=
  s.IsChain (fun a b => b = '_' → a = '_' ∨ a.isAlphanum = true) ∧ s.head? ≠ some '_'

theorem RunsLead.append {a b : List Char} (first : RunsLead a) (second : RunsLead b) : RunsLead (a ++ b) := by
  refine ⟨List.isChain_append.mpr ⟨first.1,second.1,fun x last y _ same => ?_⟩,?_⟩
  · subst same
    exact absurd last first.2
  · cases b with
    | nil => simpa using first.2
    | cons c b => simpa [List.getLast?_append] using second.2

theorem RunsTrail.append {a b : List Char} (first : RunsTrail a) (second : RunsTrail b) : RunsTrail (a ++ b) := by
  refine ⟨List.isChain_append.mpr ⟨first.1,second.1,fun x _ y head same => ?_⟩,?_⟩
  · subst same
    exact absurd head second.2
  · cases a with
    | nil => exact second.2
    | cons c a => exact first.2

theorem RunsLead.behind {behind : List Char} (leads : RunsLead ('_' :: behind)) :
    ∃ c, (behind.dropWhile (· = '_')).head? = some c ∧ c.isAlphanum = true := by
  induction behind with
  | nil => exact absurd rfl leads.2
  | cons c behind ih =>
    obtain ⟨chain,ends⟩ := leads
    rw [List.isChain_cons_cons] at chain
    by_cases again : c = '_'
    · subst again
      have further := ih ⟨chain.2,by simpa using ends⟩
      simpa using further
    · refine ⟨c,by simp [again],(chain.1 rfl).resolve_left again⟩

theorem RunsLead.closes_false {s : List Char} (leads : RunsLead s) (front behind : List Char)
    (whole : front.reverse ++ '_' :: behind = s) : (delimiterRun '_' front behind).closes = false := by
  subst whole
  obtain ⟨chain,ends⟩ := leads
  have tail : RunsLead ('_' :: behind) :=
    ⟨(List.isChain_append.mp chain).2.1,by
      rwa [List.getLast?_append_of_ne_nil _ (by simp)] at ends⟩
  obtain ⟨c,first,letter⟩ := tail.behind
  exact closes_before_letter front behind c first letter

theorem RunsTrail.opens_false {s : List Char} (trails : RunsTrail s) (front behind : List Char)
    (whole : front.reverse ++ '_' :: behind = s) (fresh : front.head? ≠ some '_') :
    (delimiterRun '_' front behind).opens = false := by
  subst whole
  obtain ⟨chain,begins⟩ := trails
  cases front with
  | nil => exact absurd rfl begins
  | cons c front =>
    have next := (List.isChain_append.mp chain).2.2 c (by simp) '_' (by simp) rfl
    exact opens_behind_letter _ behind c rfl (next.resolve_left (by simpa using fresh))

end ReferenceSite.Markdown
