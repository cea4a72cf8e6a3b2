import ReferenceSite.Markdown.Document

/-! What nodes the inline structure of a text is made of. A property of nodes that texts, emphasis and
addresses have passes through the pairing of runs and the joining of texts. To be of a kind that stands in a
line of text, and to hold nothing if it is text, is such a property, and every step of the reading keeps it. -/
namespace ReferenceSite.Markdown
open ReferenceSite.Text

theorem forall_mem_preorderAll (P : Node → Prop) (nodes : List Node) :
    (∀ m ∈ Node.preorderAll nodes, P m) ↔ ∀ n ∈ nodes, ∀ m ∈ n.preorder, P m := by
  induction nodes with
  | nil => simp [Node.preorderAll]
  | cons n nodes ih => simp [Node.preorderAll,or_imp,forall_and,ih]

theorem findOpener?_split (closer : Delimiter) (left between : List Piece) (o : Delimiter)
    (before : List Piece) (found : closer.findOpener? left = some (between,o,before)) :
    left = between ++ .delimiter o :: before := by
  induction left generalizing between with
  | nil => simp [Delimiter.findOpener?] at found
  | cons p left ih =>
    cases p with
    | node n =>
      simp only [Delimiter.findOpener?,Option.map_eq_some_iff,Prod.exists,Prod.mk.injEq] at found
      obtain ⟨_,_,_,later,rfl,rfl,rfl⟩ := found
      rw [ih _ later,List.cons_append]
    | delimiter d =>
      simp only [Delimiter.findOpener?] at found
      split at found
      · cases found
        rfl
      · simp only [Option.map_eq_some_iff,Prod.exists,Prod.mk.injEq] at found
        obtain ⟨_,_,_,later,rfl,rfl,rfl⟩ := found
        rw [ih _ later,List.cons_append]

/-- The node and all that is inside it are of such kinds with such children. -/
def Node.Holds (P : Kind → List Node → Prop) (n : Node) : Prop := ∀ m ∈ n.preorder, P m.kind m.children

/-- The same of a piece. Any part of a run may be left over as text. -/
def Piece.Holds (P : Kind → List Node → Prop) : Piece → Prop
  | .node n => n.Holds P
  | .delimiter d => ∀ n, P (.text (.ofList (List.replicate n d.character))) []

section General
variable {P : Kind → List Node → Prop}

theorem Node.holds_node (kind : Kind) (children : List Node) :
    (Node.node kind children).Holds P ↔ P kind children ∧ ∀ n ∈ children, n.Holds P := by
  rw [Holds,preorder,List.forall_mem_cons,forall_mem_preorderAll]
  rfl

theorem Node.holds_leaf (kind : Kind) : (Node.leaf kind).Holds P ↔ P kind [] := by
  rw [leaf,holds_node]
  simp

theorem Piece.Holds.settle {p : Piece} (holds : p.Holds P) : p.settle.Holds P := by
  cases p with
  | node n => exact holds
  | delimiter d => exact (Node.holds_leaf _).mpr (holds d.left)

theorem Delimiter.remainder_holds (d : Delimiter) (n : Nat) (own : (Piece.delimiter d).Holds P) :
    ∀ p ∈ d.remainder n, p.Holds P := by
  simp only [Delimiter.remainder]
  split
  · simp
  · exact List.forall_mem_singleton.mpr own

theorem pairRuns_holds
    (spans : ∀ opener closer kind children, Delimiter.meaning? opener closer = some kind → P kind children)
    (left right : List Piece) (holds : ∀ p ∈ left ++ right, p.Holds P) :
    ∀ n ∈ pairRuns left right, n.Holds P := by
  fun_induction pairRuns left right with
  | case1 left =>
    intro n member
    obtain ⟨p,inside,rfl⟩ := List.mem_map.mp member
    exact (holds p (by simpa using inside)).settle
  | case2 left n rest ih => exact ih (by simpa [or_imp,forall_and,and_left_comm] using holds)
  | case3 left d rest _ ih =>
    exact ih (fun p member => holds p (by
      simp only [List.mem_append,List.mem_cons] at member ⊢
      exact member.imp_right .inr))
  | case4 left d rest _ _ ih => exact ih (by simpa [or_imp,forall_and,and_left_comm] using holds)
  | case5 left d rest _ between opener before _ _ =>
    intro n member
    obtain ⟨p,inside,rfl⟩ := List.mem_map.mp member
    exact (holds p (by simpa using inside)).settle
  | case6 left d rest _ between opener before found kind means n node ih =>
    have opened : d.findOpener? left = some (between,opener,before) := by
      split at found
      · exact found
      · cases found
    have split := findOpener?_split d left between opener before opened
    subst split
    -- The pieces between the two runs become a node; what is left of the runs stays beside it.
    have inner : node.Holds P := by
      refine (Node.holds_node _ _).mpr ⟨spans _ _ _ _ means,?_⟩
      intro m member
      obtain ⟨p,inside,rfl⟩ := List.mem_map.mp member
      exact (holds p (by simp [List.mem_reverse.mp inside])).settle
    refine ih fun p member => ?_
    simp only [List.cons_append,List.mem_cons,List.mem_append] at member
    rcases member with rfl | (left | earlier) | right | later
    · exact inner
    · exact opener.remainder_holds _ (holds _ (by simp)) p left
    · exact holds p (by simp [earlier])
    · exact d.remainder_holds _ (holds _ (by simp)) p right
    · exact holds p (by simp [later])

/-- Joined texts have a property `Q` that texts of these nodes keep, and that what they are written out as
respects. Whatever else is joined inside may hold anything. -/
theorem joinText_holds (Q : List Char → Prop) (empty : Q [])
    (joins : ∀ pending s children, Q pending → P (.text s) children → Q (pending ++ s.toList))
    (flushes : ∀ s, Q s → ∀ n ∈ joinText.flush s, n.Holds P)
    (refills : ∀ kind children inner, (∀ s, kind ≠ .text s) → P kind children → P kind inner)
    (pending : List Char) (nodes : List Node) (own : Q pending) (holds : ∀ n ∈ nodes, n.Holds P) :
    ∀ n ∈ joinText pending nodes, n.Holds P := by
  have beside (pending : List Char) (own : Q pending) (n : Node) (others : List Node) (itself : n.Holds P)
      (further : ∀ n ∈ others, n.Holds P) : ∀ m ∈ joinText.flush pending ++ n :: others, m.Holds P :=
    List.forall_mem_append.mpr ⟨flushes pending own,List.forall_mem_cons.mpr ⟨itself,further⟩⟩
  fun_induction joinText pending nodes with
  | case1 pending => exact flushes pending own
  | case2 pending children rest s ih =>
    obtain ⟨first,later⟩ := List.forall_mem_cons.mp holds
    exact ih (joins pending s children own ((Node.holds_node _ _).mp first).1) later
  | case3 pending children rest url title ih | case4 pending children rest url title ih =>
    obtain ⟨first,later⟩ := List.forall_mem_cons.mp holds
    exact beside pending own _ _ first (ih empty later)
  | case5 pending kind children rest silent _ _ inner outer =>
    obtain ⟨first,later⟩ := List.forall_mem_cons.mp holds
    obtain ⟨itself,inside⟩ := (Node.holds_node _ _).mp first
    refine beside pending own _ _ ((Node.holds_node _ _).mpr ⟨?_,inner empty inside⟩) (outer empty later)
    exact refills kind children _ silent itself

end General

/-! ### The kinds in a line of text -/

def Kind.IsInline : Kind → Prop
  | .text _ | .softBreak | .lineBreak | .code _ | .htmlInline _ | .emphasis | .strong | .strikethrough
  | .link .. | .image .. => True
  | _ => False

/-- A kind that stands in a line of text, with nothing inside a text. -/
structure Kind.IsRead (kind : Kind) (children : List Node) : Prop where
  stands : kind.IsInline
  ends : ∀ s, kind = .text s → children = []

def Node.IsRead (n : Node) : Prop := n.Holds Kind.IsRead

theorem isRead_leaf (kind : Kind) (own : kind.IsInline) : (Node.leaf kind).IsRead :=
  (Node.holds_leaf kind).mpr ⟨own,fun _ _ => rfl⟩

theorem isRead_link (url title : String) (s : List Char) :
    (Node.node (.link url title) [.text s]).IsRead :=
  (Node.holds_node _ _).mpr ⟨⟨trivial,nofun⟩,List.forall_mem_singleton.mpr (isRead_leaf _ trivial)⟩

theorem webLink?_isRead (before s : List Char) (link : Node) (back n : Nat)
    (found : webLink? before s = some (link,back,n)) : link.IsRead := by
  simp only [webLink?,Option.ite_none_right_eq_some,Option.some.injEq,Prod.mk.injEq] at found
  obtain ⟨-,rfl,-⟩ := found
  exact isRead_link _ _ _

theorem wwwLink?_isRead (before : Option Char) (s : List Char) (link : Node) (n : Nat)
    (found : wwwLink? before s = some (link,n)) : link.IsRead := by
  simp only [wwwLink?,Option.ite_none_right_eq_some,Option.some.injEq,Prod.mk.injEq] at found
  obtain ⟨-,rfl,-⟩ := found
  exact isRead_link _ _ _

section Mail
variable {Q : Node → Prop} (linked : ∀ url title s, Q (.node (.link url title) [.text s]))
include linked

theorem mailLink?_holds (before after : List Char) (link : Node) (back ahead : Nat)
    (found : mailLink? before after = some (link,back,ahead)) : Q link := by
  simp only [mailLink?,Option.bind_eq_bind,Option.bind_eq_some_iff] at found
  obtain ⟨_,_,found⟩ := found
  split at found
  · cases found
  · split at found
    · cases found
    · simp only [Option.some.injEq,Prod.mk.injEq] at found
      obtain ⟨rfl,-⟩ := found
      exact linked _ _ _

theorem splitMail?_holds (depth : Int) (before s first last : List Char) (link : Node)
    (found : splitMail? depth before s = some (first,link,last)) : Q link := by
  induction s generalizing depth before with
  | nil => cases found
  | cons c rest ih =>
    simp only [splitMail?] at found
    split at found
    · rename_i addressed
      cases found
      exact mailLink?_holds linked _ _ _ _ _ (Option.ite_none_right_eq_some.mp addressed).2
    · exact ih _ _ found

variable (text : ∀ s, Q (.text s))
include text

theorem linkMail_holds (limit : Nat) (s : List Char) : ∀ n ∈ linkMail limit s, Q n := by
  have plain (s : List Char) : ∀ n ∈ (if s.isEmpty then [] else [Node.text s]), Q n := by
    split
    · simp
    · exact List.forall_mem_singleton.mpr (text s)
  induction limit generalizing s with
  | zero => exact plain s
  | succ limit ih =>
    unfold linkMail
    split
    · rename_i limit' before link after more found
      cases more
      exact List.forall_mem_append.mpr ⟨plain before,
        List.forall_mem_cons.mpr ⟨splitMail?_holds linked _ _ _ _ _ _ found,ih after⟩⟩
    · exact plain s

/-- A joined text is written out as texts, and as links around its mail addresses. -/
theorem flush_holds (s : List Char) : ∀ n ∈ joinText.flush s, Q n := by
  unfold joinText.flush
  split
  · simp
  · exact linkMail_holds linked text s.length s

end Mail

theorem flush_isRead (s : List Char) : ∀ n ∈ joinText.flush s, n.IsRead :=
  flush_holds isRead_link (fun _ => isRead_leaf _ trivial) s

theorem meaning?_isRead (opener closer : Delimiter) (kind : Kind) (children : List Node)
    (means : opener.meaning? closer = some kind) : kind.IsRead children := by
  simp only [Delimiter.meaning?] at means
  repeat' split at means
  all_goals cases means
  all_goals exact ⟨trivial,nofun⟩

theorem pairRuns_isRead (left right : List Piece) (holds : ∀ p ∈ left ++ right, p.Holds Kind.IsRead) :
    ∀ n ∈ pairRuns left right, n.IsRead :=
  pairRuns_holds meaning?_isRead left right holds

/-- Whatever is read, and what is still open if it becomes text, stands in a line of text and holds nothing
if it is text. -/
def Reading.IsRead (r : Reading) : Prop := ∀ t ∈ r.tokens, t.settle.Holds Kind.IsRead

namespace Reading
variable {r : Reading}

theorem IsRead.push (all : r.IsRead) (t : Token) (own : t.settle.Holds Kind.IsRead) :
    (r.push t).IsRead :=
  List.forall_mem_cons.mpr ⟨own,all⟩

theorem IsRead.pushNode (all : r.IsRead) (n : Node) (own : n.IsRead) : (r.pushNode n).IsRead :=
  all.push _ own

theorem IsRead.pushLeaf (all : r.IsRead) (kind : Kind) (own : kind.IsInline) :
    (r.pushNode (.leaf kind)).IsRead :=
  all.pushNode _ (isRead_leaf kind own)

theorem text_holds (s : List Char) : (Token.text s).settle.Holds Kind.IsRead := isRead_leaf _ trivial

theorem bracket_holds (image : Bool) (inside : List Char) (nested : Bool) :
    (Token.bracket image inside nested).settle.Holds Kind.IsRead := isRead_leaf _ trivial

theorem IsRead.pushText (all : r.IsRead) (s : List Char) : (r.pushText s).IsRead :=
  all.push _ (text_holds s)

theorem IsRead.unread (all : r.IsRead) (n : Nat) : (r.unread n).IsRead := by
  unfold Reading.unread
  split
  · rename_i s _ rest tokens
    have later : ∀ t ∈ rest, t.settle.Holds Kind.IsRead := fun t member =>
      all t (tokens ▸ List.mem_cons_of_mem _ member)
    intro t member
    simp only at member
    split at member
    · exact later t member
    · rcases List.mem_cons.mp member with rfl | inside
      · exact text_holds _
      · exact later t inside
  · exact all

theorem markNested_holds (tokens : List Token) (all : ∀ t ∈ tokens, t.settle.Holds Kind.IsRead) :
    ∀ t ∈ markNested tokens, t.settle.Holds Kind.IsRead := by
  fun_induction markNested tokens with
  | case1 => simp
  | case2 image inside _ rest =>
    exact List.forall_mem_cons.mpr ⟨bracket_holds _ _ _,(List.forall_mem_cons.mp all).2⟩
  | case3 t rest _ ih =>
    exact List.forall_mem_cons.mpr ((List.forall_mem_cons.mp all).imp_right ih)

theorem IsRead.openBracket (all : r.IsRead) (image : Bool) (inside : List Char) :
    (r.openBracket image inside).IsRead :=
  List.forall_mem_cons.mpr ⟨bracket_holds _ _ _,markNested_holds r.tokens all⟩

theorem splitBracket?_split (tokens before : List Token) (between : List Piece)
    (bracket : Bool × List Char × Bool) (found : splitBracket? tokens = some (between,bracket,before)) :
    tokens = between.map .piece ++ .bracket bracket.1 bracket.2.1 bracket.2.2 :: before := by
  fun_induction splitBracket? tokens generalizing between with
  | case1 => cases found
  | case2 =>
    cases found
    rfl
  | case3 p rest ih =>
    obtain ⟨⟨later,bracket',before'⟩,further,same⟩ := Option.map_eq_some_iff.mp found
    cases same
    rw [ih later further,List.map_cons,List.cons_append]

end Reading

theorem closeBracket_isRead (references : References) (r : Reading) (rest : List Char) (all : r.IsRead) :
    (closeBracket references r rest).1.IsRead := by
  unfold closeBracket
  simp only
  split
  · exact Reading.IsRead.pushText all _
  · rename_i between image inside nested before found
    have tokens := Reading.splitBracket?_split _ _ _ _ found
    have inner : ∀ p ∈ between, p.Holds Kind.IsRead := fun p member =>
      all (.piece p) (by simp [tokens,member])
    have earlier : ∀ t ∈ before, t.settle.Holds Kind.IsRead := fun t member =>
      all t (by simp [tokens,member])
    have refused : ∀ t ∈ Token.text [']'] :: (between.map .piece ++ .bracketText image :: before),
        t.settle.Holds Kind.IsRead := by
      refine List.forall_mem_cons.mpr ⟨Reading.text_holds _,List.forall_mem_append.mpr
        ⟨?_,List.forall_mem_cons.mpr ⟨Reading.text_holds _,earlier⟩⟩⟩
      exact List.forall_mem_map.mpr inner
    split
    · exact refused
    · split
      · exact refused
      · refine List.forall_mem_cons.mpr ⟨?_,earlier⟩
        -- What lies between the brackets becomes the inside of the link or image.
        refine (Node.holds_node _ _).mpr ⟨⟨by split <;> trivial,by split <;> exact nofun⟩,
          pairRuns_isRead [] between.reverse ?_⟩
        simpa using inner

theorem openAngle_isRead (r : Reading) (rest : List Char) (all : r.IsRead) :
    (openAngle r rest).1.IsRead := by
  unfold openAngle
  simp only
  split
  · exact all.pushNode _ (isRead_link _ _ _)
  · split
    · exact all.pushNode _ (isRead_link _ _ _)
    · split
      · exact all.pushLeaf _ trivial
      · exact all.pushText _

theorem openBackticks_isRead (r : Reading) (rest : List Char) (all : r.IsRead) :
    (openBackticks r rest).1.IsRead := by
  unfold openBackticks
  simp only
  split
  · exact all.pushLeaf _ trivial
  · exact all.pushText _

theorem pushRun_isRead (r : Reading) (d : Delimiter) (c : Char) (all : r.IsRead) :
    (r.push (.piece (if d.opens || d.closes then .delimiter d
      else .node (.text (List.replicate d.length c))))).IsRead := by
  refine all.push _ ?_
  split
  · exact fun _ => ⟨trivial,fun _ _ => rfl⟩
  · exact isRead_leaf _ trivial

theorem readFrom_isRead (references : References) (r : Reading) (before : List Char) (c : Char)
    (rest : List Char) (all : r.IsRead) : (readFrom references r before c rest).1.IsRead := by
  unfold readFrom
  split
  · exact all.pushLeaf _ (by split <;> trivial)
  · exact openBackticks_isRead r rest all
  · split
    · exact all.pushLeaf _ trivial
    · split <;> exact all.pushText _
    · exact all.pushText _
  · split <;> exact all.pushText _
  · exact openAngle_isRead r rest all
  · exact pushRun_isRead r _ _ all
  · exact pushRun_isRead r _ _ all
  · exact pushRun_isRead r _ _ all
  · exact all.openBracket _ _
  · exact closeBracket_isRead references r rest all
  · split
    · split
      · exact all.pushText _
      · exact all.openBracket _ _
    · exact all.pushText _
  · split
    · rename_i found
      split at found
      · cases found
      · exact (all.unread _).pushNode _ (webLink?_isRead _ _ _ _ _ found)
    · exact all.pushText _
  · split
    · rename_i found
      split at found
      · cases found
      · exact all.pushNode _ (wwwLink?_isRead _ _ _ _ found)
    · exact all.pushText _
  · exact all.pushText _
  · exact all.pushText _
  · exact all.pushText _

theorem readAll_isRead (references : References) (r : Reading) (before s : List Char) (all : r.IsRead) :
    (readAll references r before s).IsRead := by
  fun_induction readAll references r before s with
  | case1 => exact all
  | case2 r before c rest next n read ih =>
    refine ih ?_
    have step := readFrom_isRead references r before c rest all
    rwa [read] at step

/-- No text becomes anything that does not stand in a line of text, and no text in it holds other nodes. -/
theorem inlines_isRead (references : References) (s : List Char) : ∀ n ∈ inlines references s, n.IsRead := by
  have read : (readAll references .start [] (trimSpaceEnd s)).IsRead :=
    readAll_isRead references .start [] _ (fun _ none => absurd none List.not_mem_nil)
  refine joinText_holds (fun _ => True) trivial (fun _ _ _ _ _ => trivial) (fun s _ => flush_isRead s)
    (fun kind _ _ silent own => ⟨own.stands,fun s same => absurd same (silent s)⟩) [] _ trivial
    (pairRuns_isRead [] _ fun p member => ?_)
  obtain ⟨t,inside,rfl⟩ := List.mem_map.mp (by simpa using member)
  exact read t inside

def Node.IsInline (n : Node) : Prop := n.Holds fun kind _ => kind.IsInline

theorem inlines_isInline (references : References) (s : List Char) :
    ∀ n ∈ inlines references s, n.IsInline :=
  fun n member m inside => (inlines_isRead references s n member m inside).stands

/-! ### Documents -/

/-- Headings hold nothing but what stands in a line of text, so no heading stands in another one. -/
def Node.HeadingsInline (n : Node) : Prop :=
  ∀ m ∈ n.preorder, ∀ level, m.kind = .heading level → ∀ k ∈ m.children, k.IsInline

theorem Node.headingsInline_node (kind : Kind) (children : List Node) :
    (Node.node kind children).HeadingsInline ↔
      (∀ level, kind = .heading level → ∀ k ∈ children, k.IsInline) ∧ ∀ k ∈ children, k.HeadingsInline := by
  rw [HeadingsInline,preorder,List.forall_mem_cons,forall_mem_preorderAll]
  rfl

theorem Node.IsInline.headingsInline {n : Node} (inline : n.IsInline) : n.HeadingsInline := by
  intro m member level heading
  have own := inline m member
  rw [heading] at own
  exact own.elim

mutual
theorem toNode_headingsInline (references : References) (b : Block) :
    (b.toNode references).HeadingsInline := by
  obtain ⟨shape,text,_,children⟩ := b
  have inside := toNodes_headingsInline references children
  have line : ∀ k ∈ inlines references text, k.HeadingsInline := fun k member =>
    (inlines_isInline references text k member).headingsInline
  cases shape <;> simp only [Block.toNode,Node.leaf,Node.headingsInline_node]
  case heading => exact ⟨fun _ _ => inlines_isInline references text,line⟩
  all_goals exact ⟨nofun,by first | exact inside | exact line | simp⟩

theorem toNodes_headingsInline (references : References) (blocks : List Block) :
    ∀ n ∈ Block.toNodes references blocks, n.HeadingsInline := by
  cases blocks with
  | nil => simp [Block.toNodes]
  | cons b rest =>
    exact List.forall_mem_cons.mpr ⟨toNode_headingsInline references b,toNodes_headingsInline references rest⟩
end

theorem parse_headingsInline (text : String) : (parse text).HeadingsInline :=
  (Node.headingsInline_node _ _).mpr ⟨nofun,toNodes_headingsInline _ _⟩

end ReferenceSite.Markdown
