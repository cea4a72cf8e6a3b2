import ReferenceSite.Proofs.Page.HeadingAnchors

/-! The words of a heading that loses the marker which names its anchor. White space goes with the marker at an
end of its text, whatever stands next to that text in the heading. So the words are kept as if a space stood for
the marker, unless words on both sides of it meet there; then these two become one word. -/
namespace ReferenceSite.Markdown.Node
open ReferenceSite.Text

/-- The words of a text, which white space parts. -/
def words (s : List Char) : List (List Char) := runs (! isBlank ·) s

/-- What nodes of these kinds add to the wording of their heading. -/
def spoken (kinds : List Kind) : List Char := kinds.flatMap fun kind => (wordOf kind).toList

theorem wording_toList (nodes : List Node) : (wording nodes).toList = spoken (kindsAll nodes) := by
  have joined (texts : List String) : ("".intercalate texts).toList = texts.flatMap String.toList := by
    rw [String.toList_intercalate]
    induction texts with
    | nil => rfl
    | cons text texts ih => cases texts <;> simp_all
  rw [wording_eq,joined,List.flatMap_map]
  rfl

theorem spoken_append (first last : List Kind) : spoken (first ++ last) = spoken first ++ spoken last :=
  List.flatMap_append

theorem spoken_text (s : String) (last : List Kind) : spoken (.text s :: last) = s.toList ++ spoken last := rfl

theorem words_blank (s : List Char) (blank : Blanks s) : words s = [] :=
  (runs_eq_nil_iff _ s).mpr fun c member => by simp [blank c member]

theorem words_append_blank (x blank : List Char) (only : Blanks blank) : words (x ++ blank) = words x := by
  cases blank with
  | nil => rw [List.append_nil]
  | cons c rest =>
    have space : isBlank c = true := only c List.mem_cons_self
    have after : Blanks rest := fun d member => only d (List.mem_cons_of_mem c member)
    rw [words,runs_append_cons _ x rest c (by simp [space])]
    exact (congrArg (words x ++ ·) (words_blank rest after)).trans (List.append_nil _)

theorem words_blank_append (blank x : List Char) (only : Blanks blank) : words (blank ++ x) = words x := by
  induction blank with
  | nil => rfl
  | cons c blank ih =>
    have space : isBlank c = true := only c List.mem_cons_self
    have after := ih fun d member => only d (List.mem_cons_of_mem c member)
    rw [List.cons_append,words,runs_cons _ c _ (by simp [space])]
    exact after

theorem words_spaced (x y : List Char) : words (x ++ ' ' :: y) = words x ++ words y :=
  runs_append_cons _ x y ' ' (by decide)

namespace NamingMarker
variable {children : List Node} (m : NamingMarker children)

/-- The wording of the heading ahead of the marker. -/
def ahead : List Char := spoken m.first ++ (m.marked.left ++ m.marked.ahead)

/-- The wording of the heading behind the marker. -/
def behind : List Char := m.marked.behind ++ m.marked.right ++ spoken m.last

/-- The marker stands at an end of its text, and words meet where it was. -/
structure Glues : Prop where
  outer : m.marked.left = [] ∨ m.marked.right = []
  ends : ∃ c, (spoken m.first ++ m.marked.left).getLast? = some c ∧ isBlank c = false
  begins : ∃ c, (m.marked.right ++ spoken m.last).head? = some c ∧ isBlank c = false

theorem glues_iff : m.Glues ↔ (m.marked.left = [] ∨ m.marked.right = []) ∧
    ¬ Apart (! isBlank ·) (spoken m.first ++ m.marked.left) (m.marked.right ++ spoken m.last) := by
  have meets : ¬ Apart (! isBlank ·) (spoken m.first ++ m.marked.left) (m.marked.right ++ spoken m.last) ↔
      (∃ c, (spoken m.first ++ m.marked.left).getLast? = some c ∧ isBlank c = false) ∧
        ∃ c, (m.marked.right ++ spoken m.last).head? = some c ∧ isBlank c = false := by
    simp only [Apart,Stops,not_or,not_forall,exists_prop,Bool.not_eq_false,Bool.not_eq_true']
  rw [meets]
  constructor
  · intro glues
    exact ⟨glues.outer,glues.ends,glues.begins⟩
  · rintro ⟨outer,ends,begins⟩
    exact ⟨outer,ends,begins⟩

theorem wording_before : (wording children).toList = m.ahead ++ Anchor.mark m.marked.name ++ m.behind := by
  have whole := congrArg (spoken m.first ++ · ++ spoken m.last) m.marked.marks.1
  rw [wording_toList,m.found,spoken_append,spoken_text,← List.append_assoc]
  refine whole.trans ?_
  simp [ahead,behind]

theorem words_before : words (m.ahead ++ ' ' :: m.behind) =
    words (spoken m.first ++ m.marked.left) ++ words (m.marked.right ++ spoken m.last) := by
  obtain ⟨ahead,behind⟩ := m.marked.blank
  rw [words_spaced,NamingMarker.ahead,NamingMarker.behind,← List.append_assoc,words_append_blank _ _ ahead,
    List.append_assoc,words_blank_append _ _ behind]

/-- The words of the shown heading are those of what remains, with or without a space between its parts. -/
theorem words_after (levels : Nat × Nat) (level : Nat) (ends : ∀ n ∈ children, n.EndsInTexts) :
    words (wording (anchorHeading levels level children)).toList =
      if m.marked.left = [] ∨ m.marked.right = [] then
        words ((spoken m.first ++ m.marked.left) ++ (m.marked.right ++ spoken m.last))
      else words (spoken m.first ++ m.marked.left) ++ words (m.marked.right ++ spoken m.last) := by
  obtain ⟨rest,anchored,_,kinds⟩ := m.anchors ends levels level
  have shown : (wording (anchorHeading levels level children)).toList =
      spoken m.first ++ (m.marked.rest ++ spoken m.last) := by
    rw [anchored,wording_toList,kindsAll_cons,kinds,spoken_append,spoken_append,spoken_text,String.toList_ofList]
    rfl
  rw [shown,Anchor.Marked.rest]
  split
  · simp
  · rw [← words_spaced]
    simp

end NamingMarker

/-- The words of a heading are kept as if a space stood for its marker unless two of them meet where it was, and
then these two become one and all others are kept. -/
theorem anchorHeading_words_iff (levels : Nat × Nat) (level : Nat) (children : List Node)
    (ends : ∀ n ∈ children, n.EndsInTexts) (m : NamingMarker children) :
    (wording children).toList = m.ahead ++ Anchor.mark m.marked.name ++ m.behind ∧
    (words (wording (anchorHeading levels level children)).toList = words (m.ahead ++ ' ' :: m.behind) ↔
      ¬ m.Glues) ∧
    (m.Glues → ∃ earlier one other later,
      words (m.ahead ++ ' ' :: m.behind) = earlier ++ one :: other :: later ∧
      words (wording (anchorHeading levels level children)).toList = earlier ++ (one ++ other) :: later) := by
  refine ⟨m.wording_before,?_,?_⟩
  · rw [m.words_before,m.words_after levels level ends,m.glues_iff]
    split
    · rename_i outer
      rw [and_iff_right outer,not_not]
      exact runs_append_iff _ _ _
    · rename_i inner
      simp [inner]
  · intro glues
    obtain ⟨outer,meets⟩ := m.glues_iff.mp glues
    obtain ⟨earlier,one,other,later,first,second,joined⟩ := runs_glued _ meets
    refine ⟨earlier,one,other,later,?_,?_⟩
    · rw [m.words_before,words,words,first,second]
      simp
    · rw [m.words_after levels level ends,if_pos outer]
      exact joined

/-! The marker of the heading with two of them, which stands between words of its own text. -/

def twiceMarker : NamingMarker twiceMarked where
  first := [.emphasis,.text "a"]
  text := "b \x7b#\x7b#c\x7d d \x7b#e\x7d"
  last := []
  marked := {
    left := ['b']
    ahead := [' ']
    name := "\x7b#c".toList
    behind := [' ']
    right := "d \x7b#e\x7d".toList
    marks := by decide
    blank := by decide
    solid := ⟨by simp; decide,by decide⟩ }
  found := rfl
  silent := List.forall_mem_cons.mpr ⟨id,List.forall_mem_singleton.mpr (by rw [Kind.hasMarker_text]; decide)⟩
  leftmost := by decide

theorem twice_worded : (∀ n ∈ twiceMarked, n.EndsInTexts) ∧ ¬ twiceMarker.Glues ∧
    words (wording (anchorHeading (2,3) 4 twiceMarked)).toList =
      ["ab".toList,"d".toList,"\x7b#e\x7d".toList] := by
  have ends : ∀ n ∈ twiceMarked, n.EndsInTexts :=
    parse_inside_endsInTexts twice (node (.heading 4) twiceMarked) (by simp [parse_twice,preorder,preorderAll])
  have apart : ¬ twiceMarker.Glues := fun glues => by simpa [twiceMarker] using glues.outer
  obtain ⟨_,kept,_⟩ := anchorHeading_words_iff (2,3) 4 twiceMarked ends twiceMarker
  exact ⟨ends,apart,(kept.mpr apart).trans (by decide +kernel)⟩

/-! A heading that begins with a strong word, in front of a marker and another word. -/

def ring : String := "# **Ring** \x7b#ring\x7d buffers\n"

def ringMarked : List Node := [node .strong [leaf (.text "Ring")],leaf (.text " \x7b#ring\x7d buffers")]

set_option maxRecDepth 4000 in
theorem parse_ring : parse ring = node .document [node (.heading 1) ringMarked] := by
  have shapes : blocks ring.toList =
      ([],[.block (.heading 1) "**Ring** \x7b#ring\x7d buffers".toList false []]) := by with_unfolding_all rfl
  have inside : inlines [] "**Ring** \x7b#ring\x7d buffers".toList = ringMarked := by with_unfolding_all rfl
  rw [parse,shapes]
  simp only [Block.toNodes,Block.toNode,inside]

def ringMarker : NamingMarker ringMarked where
  first := [.strong,.text "Ring"]
  text := " \x7b#ring\x7d buffers"
  last := []
  marked := {
    left := []
    ahead := [' ']
    name := "ring".toList
    behind := [' ']
    right := "buffers".toList
    marks := by decide
    blank := by decide
    solid := ⟨nofun,by decide⟩ }
  found := rfl
  silent := List.forall_mem_cons.mpr ⟨id,List.forall_mem_singleton.mpr (by rw [Kind.hasMarker_text]; decide)⟩
  leftmost := by decide

/-- The space between the two words goes with the marker, and they become one. -/
theorem ring_glued : parse ring = node .document [node (.heading 1) ringMarked] ∧
    words (ringMarker.ahead ++ ' ' :: ringMarker.behind) = ["Ring".toList,"buffers".toList] ∧
    words (wording (anchorHeading (2,3) 1 ringMarked)).toList = ["Ringbuffers".toList] ∧
    standing.render sparse ring = .ok ⟨"<h1><a name=\"ring\" class=\"anchor\" href=\"#ring\"></a>" ++
      "<strong>Ring</strong>buffers</h1>\n",[]⟩ := by
  refine ⟨parse_ring,by decide +kernel,by decide +kernel,?_⟩
  rw [RenderContext.render,parse_ring]
  decide +kernel

end ReferenceSite.Markdown.Node
