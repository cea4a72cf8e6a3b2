import Mathlib.Logic.IsEmpty.Basic
import ReferenceSite.Proofs.Anchor.Derived
import ReferenceSite.Proofs.Anchor.Marker
import ReferenceSite.Proofs.Markdown.TextLeaves
import ReferenceSite.Proofs.Page.ShownTree

/-! Which anchor a heading gets. The first marker of the first text that has one names it, at every level, and
is taken out of that text alone; without one the wording of the heading does, if its level is among those that
get an anchor and a letter, a digit or a low line is left of it in lower case. Any other heading stays as it is. -/
namespace ReferenceSite.Markdown
open ReferenceSite.Text

/-- A text with a marker in it. -/
def Kind.HasMarker : Kind → Prop
  | .text s => Nonempty (Anchor.Marked s.toList)
  | _ => False

theorem Kind.hasMarker_text (s : String) : (Kind.text s).HasMarker ↔ Anchor.takeExplicit? s ≠ none := by
  rw [ne_eq,Anchor.takeExplicit?_eq_none_iff,not_isEmpty_iff]
  rfl

theorem Kind.HasMarker.exists_text {kind : Kind} (has : kind.HasMarker) : ∃ s, kind = .text s := by
  cases kind <;> first | exact ⟨_,rfl⟩ | exact has.elim

namespace Node

/-! ### Trees by their shape and what their nodes are -/

def shapeAll (nodes : List Node) : List Node := mapKindsAll (fun _ => .document) nodes

def shape (n : Node) : Node := mapKinds (fun _ => .document) n

theorem length_kinds_of_shape (a b : Node) (same : shape a = shape b) : a.kinds.length = b.kinds.length := by
  have lengths := congrArg (fun n => n.kinds.length) same
  simpa [shape,kinds_mapKinds] using lengths

mutual
theorem eq_of_shape (a b : Node) (same : shape a = shape b) (kinds : a.kinds = b.kinds) : a = b := by
  obtain ⟨kind,children⟩ := a
  obtain ⟨kind',children'⟩ := b
  rw [kinds_node,kinds_node] at kinds
  obtain ⟨rfl,inside⟩ := List.cons.inj kinds
  simp only [shape,mapKinds,node.injEq,true_and] at same
  rw [eq_of_shapeAll children children' same inside]

theorem eq_of_shapeAll (as bs : List Node) (same : shapeAll as = shapeAll bs)
    (kinds : kindsAll as = kindsAll bs) : as = bs := by
  cases as with
  | nil =>
    cases bs with
    | nil => rfl
    | cons b bs => cases same
  | cons a as =>
    cases bs with
    | nil => cases same
    | cons b bs =>
      obtain ⟨first,others⟩ := List.cons.inj same
      rw [kindsAll_cons,kindsAll_cons] at kinds
      obtain ⟨own,later⟩ := List.append_inj kinds (length_kinds_of_shape a b first)
      rw [eq_of_shape a b first own,eq_of_shapeAll as bs others later]
end

/-! ### The first marker -/

/-- The first text with a marker gives it up, and nothing else changes. -/
def UnmarksFirst (name : String) (before after : List Kind) : Prop :=
  ∃ first s rest last, before = first ++ .text s :: last ∧ after = first ++ .text rest :: last ∧
    (∀ kind ∈ first, ¬ kind.HasMarker) ∧ Anchor.takeExplicit? s = some (name,rest)

theorem UnmarksFirst.between {name : String} {before after : List Kind} (unmarks : UnmarksFirst name before after)
    (ahead behind : List Kind) (silent : ∀ kind ∈ ahead, ¬ kind.HasMarker) :
    UnmarksFirst name (ahead ++ before ++ behind) (ahead ++ after ++ behind) := by
  obtain ⟨first,s,rest,last,rfl,rfl,quiet,taken⟩ := unmarks
  exact ⟨ahead ++ first,s,rest,last ++ behind,by simp,by simp,List.forall_mem_append.mpr ⟨silent,quiet⟩,taken⟩

mutual
theorem takeMarker?_eq_none_iff (n : Node) (ends : n.EndsInTexts) :
    takeMarker? n = none ↔ ∀ kind ∈ n.kinds, ¬ kind.HasMarker := by
  obtain ⟨kind,children⟩ := n
  obtain ⟨leaf,inside⟩ := (endsInTexts_node kind children).mp ends
  have within := takeMarkerAll?_eq_none_iff children inside
  rw [kinds_node,List.forall_mem_cons]
  by_cases spoken : ∃ s, kind = .text s
  · obtain ⟨s,rfl⟩ := spoken
    obtain rfl := leaf s rfl
    simp [takeMarker?,Kind.hasMarker_text,kindsAll,preorderAll]
  · rw [takeMarker?_node kind children fun s same => spoken ⟨s,same⟩,Option.map_eq_none_iff,within]
    exact (and_iff_right fun has => spoken has.exists_text).symm

theorem takeMarkerAll?_eq_none_iff (nodes : List Node) (ends : ∀ n ∈ nodes, n.EndsInTexts) :
    takeMarkerAll? nodes = none ↔ ∀ kind ∈ kindsAll nodes, ¬ kind.HasMarker := by
  cases nodes with
  | nil => simp [takeMarkerAll?,kindsAll,preorderAll]
  | cons n rest =>
    obtain ⟨first,later⟩ := List.forall_mem_cons.mp ends
    rw [kindsAll_cons,List.forall_mem_append,← takeMarker?_eq_none_iff n first,
      ← takeMarkerAll?_eq_none_iff rest later]
    simp only [takeMarkerAll?]
    cases takeMarker? n <;> simp
end

mutual
theorem takeMarker?_unmarksFirst (n n' : Node) (name : String) (ends : n.EndsInTexts)
    (found : takeMarker? n = some (name,n')) : UnmarksFirst name n.kinds n'.kinds ∧ shape n' = shape n := by
  obtain ⟨kind,children⟩ := n
  obtain ⟨leaf,inside⟩ := (endsInTexts_node kind children).mp ends
  by_cases spoken : ∃ s, kind = .text s
  · obtain ⟨s,rfl⟩ := spoken
    obtain ⟨⟨_,rest⟩,taken,same⟩ := Option.map_eq_some_iff.mp found
    cases same
    exact ⟨⟨[],s,rest,kindsAll children,kinds_node _ _,kinds_node _ _,by simp,taken⟩,rfl⟩
  · rw [takeMarker?_node kind children fun s same => spoken ⟨s,same⟩] at found
    obtain ⟨⟨_,children'⟩,taken,same⟩ := Option.map_eq_some_iff.mp found
    cases same
    obtain ⟨unmarks,shapes⟩ := takeMarkerAll?_unmarksFirst children children' _ inside taken
    have own : ∀ k ∈ [kind], ¬ k.HasMarker :=
      List.forall_mem_singleton.mpr fun has => spoken has.exists_text
    refine ⟨by simpa [kinds_node] using unmarks.between [kind] [] own,?_⟩
    exact congrArg (node .document) shapes

theorem takeMarkerAll?_unmarksFirst (nodes nodes' : List Node) (name : String)
    (ends : ∀ n ∈ nodes, n.EndsInTexts) (found : takeMarkerAll? nodes = some (name,nodes')) :
    UnmarksFirst name (kindsAll nodes) (kindsAll nodes') ∧ shapeAll nodes' = shapeAll nodes := by
  cases nodes with
  | nil => cases found
  | cons n rest =>
    obtain ⟨first,later⟩ := List.forall_mem_cons.mp ends
    simp only [takeMarkerAll?] at found
    cases own : takeMarker? n with
    | some taken =>
      obtain ⟨_,n'⟩ := taken
      rw [own] at found
      cases found
      obtain ⟨unmarks,shapes⟩ := takeMarker?_unmarksFirst n n' _ first own
      refine ⟨by simpa [kindsAll_cons] using unmarks.between [] (kindsAll rest) (by simp),?_⟩
      exact congrArg (· :: shapeAll rest) shapes
    | none =>
      rw [own] at found
      obtain ⟨⟨_,rest'⟩,taken,same⟩ := Option.map_eq_some_iff.mp found
      cases same
      obtain ⟨unmarks,shapes⟩ := takeMarkerAll?_unmarksFirst rest rest' _ later taken
      have silent := (takeMarker?_eq_none_iff n first).mp own
      refine ⟨by simpa [kindsAll_cons] using unmarks.between n.kinds [] silent,?_⟩
      exact congrArg (shape n :: ·) shapes
end

/-- The first item of a kind parts a list in one way. -/
theorem first_unique {α : Type} (P : α → Prop) {a a' b b' : List α} {x x' : α} (same : a ++ x :: b = a' ++ x' :: b')
    (quiet : ∀ y ∈ a, ¬ P y) (quiet' : ∀ y ∈ a', ¬ P y) (own : P x) (own' : P x') : a = a' ∧ x = x' ∧ b = b' := by
  induction a generalizing a' with
  | nil =>
    cases a' with
    | nil => exact ⟨rfl,List.cons.inj same⟩
    | cons y a' =>
      obtain ⟨rfl,_⟩ := List.cons.inj same
      exact absurd own (quiet' x List.mem_cons_self)
  | cons y a ih =>
    cases a' with
    | nil =>
      obtain ⟨rfl,_⟩ := List.cons.inj same
      exact absurd own' (quiet y List.mem_cons_self)
    | cons y' a' =>
      obtain ⟨rfl,later⟩ := List.cons.inj same
      obtain ⟨rfl,rest⟩ := ih later (List.forall_mem_cons.mp quiet).2 (List.forall_mem_cons.mp quiet').2
      exact ⟨rfl,rest⟩

theorem UnmarksFirst.unique {name name' : String} {before after after' : List Kind}
    (one : UnmarksFirst name before after) (other : UnmarksFirst name' before after') :
    name = name' ∧ after = after' := by
  obtain ⟨first,s,rest,last,was,rfl,quiet,taken⟩ := one
  obtain ⟨first',s',rest',last',was',rfl,quiet',taken'⟩ := other
  have marked (s : String) {found : String × String} (taken : Anchor.takeExplicit? s = some found) :
      (Kind.text s).HasMarker := (Kind.hasMarker_text s).mpr (by simp [taken])
  obtain ⟨rfl,same,rfl⟩ := first_unique Kind.HasMarker (was.symm.trans was') quiet quiet'
    (marked s taken) (marked s' taken')
  cases same
  obtain ⟨rfl,rfl⟩ := Prod.mk.inj (Option.some.inj (taken.symm.trans taken'))
  exact ⟨rfl,rfl⟩

/-! ### Headings -/

/-- The marker that names the anchor of a heading: the first one in the first text that has one. -/
structure NamingMarker (children : List Node) where
  first : List Kind
  text : String
  last : List Kind
  marked : Anchor.Marked text.toList
  found : kindsAll children = first ++ .text text :: last
  silent : ∀ kind ∈ first, ¬ kind.HasMarker
  leftmost : marked.IsFirst

theorem NamingMarker.unmarks {children : List Node} (m : NamingMarker children) :
    UnmarksFirst (.ofList m.marked.name) (kindsAll children)
      (m.first ++ .text (.ofList m.marked.rest) :: m.last) :=
  ⟨m.first,m.text,_,m.last,m.found,rfl,m.silent,
    Anchor.takeExplicit?_of_isFirst m.text m.marked m.leftmost⟩

theorem NamingMarker.anchors {children : List Node} (m : NamingMarker children)
    (ends : ∀ n ∈ children, n.EndsInTexts) (levels : Nat × Nat) (level : Nat) :
    ∃ rest, anchorHeading levels level children = leaf (.htmlInline (Anchor.html (.ofList m.marked.name))) :: rest ∧
      shapeAll rest = shapeAll children ∧
      kindsAll rest = m.first ++ .text (.ofList m.marked.rest) :: m.last := by
  cases found : takeMarkerAll? children with
  | none =>
    have unmarked := (takeMarkerAll?_eq_none_iff children ends).mp found
    exact absurd ⟨m.marked⟩ (unmarked (.text m.text) (by simp [m.found]))
  | some taken =>
    obtain ⟨name,rest⟩ := taken
    obtain ⟨unmarks,shapes⟩ := takeMarkerAll?_unmarksFirst children rest name ends found
    obtain ⟨rfl,kinds⟩ := unmarks.unique m.unmarks
    exact ⟨rest,by rw [anchorHeading,found],shapes,kinds⟩

/-- What is inside a heading when it is shown. -/
inductive ShownHeading (levels : Nat × Nat) (level : Nat) (children : List Node) : List Node → Prop
  /-- The text that had the marker is what remains of it. -/
  | named (m : NamingMarker children) (rest : List Node) (shapes : shapeAll rest = shapeAll children)
      (taken : kindsAll rest = m.first ++ .text (.ofList m.marked.rest) :: m.last) :
      ShownHeading levels level children (leaf (.htmlInline (Anchor.html (.ofList m.marked.name))) :: rest)
  | derived (unmarked : ∀ kind ∈ kindsAll children, ¬ kind.HasMarker)
      (within : levels.1 ≤ level ∧ level ≤ levels.2)
      (spoken : ∃ c ∈ toLower (wording children).toList, c.isAlphanum = true ∨ c = '_') :
      ShownHeading levels level children (leaf (.htmlInline (Anchor.html (Anchor.derive (wording children)))) :: children)
  | kept (unmarked : ∀ kind ∈ kindsAll children, ¬ kind.HasMarker)
      (without : ¬ ((levels.1 ≤ level ∧ level ≤ levels.2) ∧
        ∃ c ∈ toLower (wording children).toList, c.isAlphanum = true ∨ c = '_')) :
      ShownHeading levels level children children

theorem anchorHeading_unmarked (levels : Nat × Nat) (level : Nat) (children : List Node)
    (unmarked : takeMarkerAll? children = none) : anchorHeading levels level children =
      if (levels.1 ≤ level ∧ level ≤ levels.2) ∧ Anchor.derive (wording children) ≠ "" then
        leaf (.htmlInline (Anchor.html (Anchor.derive (wording children)))) :: children
      else children := by
  simp only [anchorHeading,unmarked,Anchor.implicit?,← and_assoc]
  by_cases anchored : (levels.1 ≤ level ∧ level ≤ levels.2) ∧ Anchor.derive (wording children) ≠ ""
  · rw [if_pos anchored,if_pos anchored]
  · rw [if_neg anchored,if_neg anchored]

/-- Exactly what becomes of a heading in which no text holds other nodes, as in every document. -/
theorem anchorHeading_iff (levels : Nat × Nat) (level : Nat) (children : List Node)
    (ends : ∀ n ∈ children, n.EndsInTexts) (shown : List Node) :
    anchorHeading levels level children = shown ↔ ShownHeading levels level children shown := by
  have worded := Anchor.derive_ne_empty_iff (wording children)
  constructor
  · rintro rfl
    cases found : takeMarkerAll? children with
    | some taken =>
      obtain ⟨name,rest⟩ := taken
      obtain ⟨⟨first,s,left,last,was,is,silent,taken⟩,shapes⟩ := takeMarkerAll?_unmarksFirst _ _ _ ends found
      obtain ⟨m,leftmost,rfl,rfl⟩ := (Anchor.takeExplicit?_eq_some_iff _ _ _).mp taken
      rw [anchorHeading,found]
      exact .named ⟨first,s,last,m,was,silent,leftmost⟩ rest shapes is
    | none =>
      have unmarked := (takeMarkerAll?_eq_none_iff children ends).mp found
      rw [anchorHeading_unmarked levels level children found]
      split
      · rename_i anchored
        exact .derived unmarked anchored.1 (worded.mp anchored.2)
      · rename_i without
        exact .kept unmarked (mt (And.imp_right worded.mpr) without)
  · intro shows
    cases shows with
    | named m rest shapes is =>
      obtain ⟨rest',anchored,shapes',is'⟩ := m.anchors ends levels level
      rw [anchored,eq_of_shapeAll rest rest' (shapes.trans shapes'.symm) (is.trans is'.symm)]
    | derived unmarked within spoken =>
      have found := (takeMarkerAll?_eq_none_iff children ends).mpr unmarked
      rw [anchorHeading_unmarked levels level children found,if_pos ⟨within,worded.mpr spoken⟩]
    | kept unmarked without =>
      have found := (takeMarkerAll?_eq_none_iff children ends).mpr unmarked
      rw [anchorHeading_unmarked levels level children found,if_neg (mt (And.imp_right worded.mp) without)]

/-! A heading below the levels that get an anchor, with two markers behind each other. -/

def twice : String := "#### *a*b \x7b#\x7b#c\x7d d \x7b#e\x7d\n"

def twiceMarked : List Node := [.node .emphasis [leaf (.text "a")],leaf (.text "b \x7b#\x7b#c\x7d d \x7b#e\x7d")]

set_option maxRecDepth 4000 in
theorem parse_twice : parse twice = node .document [node (.heading 4) twiceMarked] := by
  have shapes : blocks twice.toList =
      ([],[.block (.heading 4) "*a*b \x7b#\x7b#c\x7d d \x7b#e\x7d".toList false []]) := by with_unfolding_all rfl
  have inside : inlines [] "*a*b \x7b#\x7b#c\x7d d \x7b#e\x7d".toList = twiceMarked := by with_unfolding_all rfl
  rw [parse,shapes]
  simp only [Block.toNodes,Block.toNode,inside]

/-- The first marker begins at the first sign that can begin one, and the second marker stays. -/
theorem twice_anchored : (∀ n ∈ twiceMarked, n.EndsInTexts) ∧
    ShownHeading (2,3) 4 twiceMarked [leaf (.htmlInline (Anchor.html "\x7b#c")),
      .node .emphasis [leaf (.text "a")],leaf (.text "b d \x7b#e\x7d")] := by
  have ends : ∀ n ∈ twiceMarked, n.EndsInTexts :=
    parse_inside_endsInTexts twice (node (.heading 4) twiceMarked) (by simp [parse_twice,preorder,preorderAll])
  exact ⟨ends,(anchorHeading_iff (2,3) 4 twiceMarked ends _).mp (by with_unfolding_all rfl)⟩

end Node
end ReferenceSite.Markdown
