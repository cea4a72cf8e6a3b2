import ReferenceSite.Proofs.Page.ShownNodes
import ReferenceSite.Proofs.Reference.Anchors
import ReferenceSite.Proofs.Reference.LiveReferences
import ReferenceSite.Proofs.Reference.Provenance

/-! The links between the sections of a reference, as they are on the page. The title of a section is read
as one text if its name is legible, and the marker in it becomes the anchor that the links lead to. -/
namespace ReferenceSite
open ReferenceSite.Text ReferenceSite.Markdown

theorem infix_apart {α : Type} (part first second : List α) (sign : α) (foreign : sign ∉ part)
    (inside : part <:+: first ++ sign :: second) : part <:+: first ∨ part <:+: second := by
  rcases List.infix_append_iff.mp inside with before | behind | ⟨a,b,rfl,suffix,start⟩
  · exact .inl before
  · rcases List.infix_cons_iff.mp behind with start | behind
    · cases part with
      | nil => exact .inr (List.nil_infix)
      | cons c part =>
        obtain ⟨rfl,_⟩ := List.cons_prefix_cons.mp start
        simp at foreign
    · exact .inr behind
  · cases b with
    | nil => exact .inl (by simpa using suffix.isInfix)
    | cons c b =>
      obtain ⟨rfl,_⟩ := List.cons_prefix_cons.mp start
      simp at foreign

def webStart : String := "www."

/-- No address begins in the name, and either no part of it ends with an underscore or none begins
with one. -/
structure IsLegible (name : String) : Prop where
  unlinked : ¬ webStart.toList <:+: name.toList
  runs : RunsLead name.toList ∨ RunsTrail name.toList

theorem TypeDef.IsPrintable.field {d : TypeDef} (printable : d.IsPrintable) (f : Field) (field : f ∈ d.fields) :
    f.IsPrintable := by
  have within := printable.body
  unfold TypeDef.fields at field
  cases shape : d.body with
  | enumeration values => simp [shape] at field
  | message fields =>
    rw [shape] at within field
    exact within f field

namespace Reference

theorem title_trimmed (name : String) (named : IsName name) :
    trimSpaceEnd (title name).toList = (title name).toList := by
  obtain ⟨front,c,ends⟩ := (List.eq_nil_or_concat' name.toList).resolve_left fun empty =>
    named.filled (String.toList_eq_nil_iff.mp empty)
  have sign := nameSign_signs c (isFileSign_of_isNameSign c (named.signs c (by simp [ends])))
  have ended := trimSpaceEnd_past ('\x7b' :: '#' :: (name.toList ++ '\x7d' :: ' ' :: front)) c []
    sign.2.2.1 (by simp)
  have whole : (title name).toList = '\x7b' :: '#' :: (name.toList ++ '\x7d' :: ' ' :: front) ++ [c] := by
    simp [title_toList,ends]
  rw [whole]
  exact ended

theorem title_inlines (name : String) (named : IsName name) (legible : IsLegible name) :
    inlines [] (title name).toList = [.text (title name).toList] := by
  have unlinked : ∀ t, t <:+ (title name).toList → dropPrefix? webStart.toList t = none := by
    intro t suffix
    by_contra found
    obtain ⟨rest,found⟩ := Option.ne_none_iff_exists'.mp found
    have start : webStart.toList <+: t := ⟨rest,(dropPrefix?_eq_some found).symm⟩
    have inside := start.isInfix.trans suffix.isInfix
    rw [title_toList] at inside
    have behind := (infix_apart webStart.toList [] _ '\x7b' (by decide) inside).resolve_left (by decide)
    have further := (infix_apart webStart.toList [] _ '#' (by decide) behind).resolve_left (by decide)
    rcases infix_apart webStart.toList name.toList _ '\x7d' (by decide) further with first | second
    · exact legible.unlinked first
    · exact legible.unlinked
        ((infix_apart webStart.toList [] name.toList ' ' (by decide) second).resolve_left (by decide))
  have plain := title_plain name named
  have parts : (title name).toList = ['\x7b','#'] ++ (name.toList ++ (['\x7d',' '] ++ name.toList)) := by
    simp [title_toList]
  rcases legible.runs with leads | trails
  · have whole : RunsLead (title name).toList := by
      rw [parts]
      exact .append ⟨by decide,by decide⟩ (leads.append (.append ⟨by decide,by decide⟩ leads))
    exact inlines_plain [] (fun d => d.closes = false) _ (by simp [title_toList]) (title_trimmed name named) plain unlinked
      (fun front behind split _ => whole.closes_false front behind split) (.inl fun _ never => never)
  · have whole : RunsTrail (title name).toList := by
      rw [parts]
      exact .append ⟨by decide,by decide⟩ (trails.append (.append ⟨by decide,by decide⟩ trails))
    exact inlines_plain [] (fun d => d.opens = false) _ (by simp [title_toList]) (title_trimmed name named) plain unlinked
      (fun front behind split fresh => whole.opens_false front behind split fresh) (.inr fun _ never => never)

theorem takeExplicit?_title (name : String) (named : IsName name) :
    Anchor.takeExplicit? (title name) = some (name,name) := by
  have signs : ∀ c ∈ name.toList, c ≠ '\x7d' ∧ isBlank c = false := by
    intro c member
    have sign := named.signs c member
    have plain := (nameSign_signs c (isFileSign_of_isNameSign c sign)).1
    exact of_isPlain (fun c => isNameSign c = true → c ≠ '\x7d' ∧ isBlank c = false) (by decide) c plain sign
  have filled : name.toList ≠ [] := fun empty => named.filled (String.toList_eq_nil_iff.mp empty)
  have taken : (name.toList ++ '\x7d' :: ' ' :: name.toList).takeWhile (fun c => c ≠ '\x7d' ∧ ! isBlank c) =
      name.toList := by
    refine takeWhile_past _ _ _ (fun c member => ?_) (by simp)
    simp [signs c member]
  have marked : Anchor.marker? (title name).toList = some (name.toList,' ' :: name.toList) := by
    rw [title_toList,Anchor.marker?]
    simp only [dropPrefix?,if_true,Option.bind_eq_bind,Option.bind_some,taken]
    simp [filled,dropPrefix?]
  have behind : trimStart (' ' :: name.toList) = name.toList := by
    rw [trimStart,List.dropWhile_cons_of_pos (by decide)]
    refine dropWhile_kept _ _ fun c first => (signs c (List.mem_of_head? first)).2
  have split : Anchor.splitMarker? (title name).toList = some ([],name.toList,' ' :: name.toList) := by
    rw [title_toList] at marked ⊢
    rw [Anchor.splitMarker?,marked]
  rw [Anchor.takeExplicit?,split]
  simp [behind,trimEnd,dropWhileEnd]

def linkTag (name : String) : String := "<a href=\"" ++ anchorAddress name ++ "\">"

theorem classify_anchor (a : Address.Parser) (name : String) :
    LinkPolicy.standard.classify (anchorAddress name) a = .external := by
  have address : (anchorAddress name).toList = '#' :: name.toList := by simp [anchorAddress]
  obtain ⟨below,folder⟩ : ∃ below, LinkPolicy.standard.docsPrefix.toList = '/' :: below :=
    ⟨"docs/".toList,by decide⟩
  unfold LinkPolicy.classify
  rw [address,folder]
  rfl

theorem escapeHref_anchor (name : String) (named : IsName name) :
    escapeHref (anchorAddress name).toList = (anchorAddress name).toList := by
  have address : (anchorAddress name).toList = '#' :: name.toList := by simp [anchorAddress]
  have safe : ∀ c ∈ (anchorAddress name).toList, isHrefSafe c = true := by
    rw [address]
    refine List.forall_mem_cons.mpr ⟨by decide,fun c member => ?_⟩
    have sign := named.signs c member
    have plain := (nameSign_signs c (isFileSign_of_isNameSign c sign)).1
    exact of_isPlain (fun c => isNameSign c = true → isHrefSafe c = true) (by decide) c plain sign
  rw [escapeHref,List.flatMap_congr fun c member => if_pos (safe c member),List.flatMap_singleton']

/-- The texts that a link to an anchor opens with. -/
def linkTexts (name : String) : List (List Char) :=
  ["<a href=\"".toList,escapeHref (anchorAddress name).toList,[],"\">".toList]

theorem linkTexts_flatten (name : String) (named : IsName name) :
    (linkTexts name).flatten = (linkTag name).toList := by
  simp [linkTexts,linkTag,escapeHref_anchor name named]

/-- The first two cells and the comment of the row of a field. -/
def fieldCells (f : Field) : List Char × List Char × List Char :=
  ((code f.name).toList,(fieldType f).toList,(Comment.singleLine f.comment).toList)

/-- The title begins with a text that holds the marker. -/
def KeepsMarker (name : String) : Prop := ∃ s rest others,
  inlines [] (title name).toList = .leaf (.text s) :: others ∧ Anchor.takeExplicit? s = some (name,rest)

theorem keepsMarker_of_isLegible (name : String) (named : IsName name) (legible : IsLegible name) :
    KeepsMarker name := by
  refine ⟨title name,name,[],?_,takeExplicit?_title name named⟩
  rw [title_inlines name named legible,Node.text,String.ofList_toList]

section Published
variable {c : RenderContext} {t : FileTree} {h : Highlighter}

/-- The heading of a section begins with the anchor of its type. -/
theorem section_anchor (es : List Entity) (printable : ∀ e ∈ es, e.definition.IsPrintable) (e : Entity)
    (member : e ∈ es) (keeps : KeepsMarker e.definition.fullName) :
    (parse (types es)).Publishes c t h [(Anchor.html e.definition.fullName).toList] := by
  obtain ⟨s,rest,others,read,marked⟩ := keeps
  have heading : (Node.node (.heading (level e)) (inlines [] (title e.definition.fullName).toList)).Publishes c t h
      [(Anchor.html e.definition.fullName).toList] := by
    rw [read]
    exact Node.publishes_heading (level e) s _ rest others marked
  rw [parse_types es printable]
  exact heading.inside .document rfl rfl _ (List.mem_flatMap.mpr ⟨e,member,by simp [sectionNodes]⟩)

/-- The type column of a field shows a link to the anchor of its type. -/
theorem section_link (es : List Entity) (printable : ∀ e ∈ es, e.definition.IsPrintable) (e : Entity)
    (member : e ∈ es) (f : Field) (field : f ∈ e.definition.fields) (target : TypeRef)
    (points : f.target = some target) (outward : c.links = .standard) :
    (parse (types es)).Publishes c t h (linkTexts target.fullName) := by
  have within := (printable e member).field f field
  cases shape : e.definition.body with
  | enumeration values => simp [TypeDef.fields,shape] at field
  | message fields =>
    have inside : f ∈ fields := by simpa [TypeDef.fields,shape] using field
    have column : inlines [] (fieldType f).toList =
        [.node (.link (anchorAddress target.fullName) "") [.leaf (.code (.ofList (codeText f.declaredType.toList)))]] := by
      rw [fieldType_toList,points]
      exact linkCell_inlines _ _ within.type (within.target _ points)
    have link : (Node.node (.link (anchorAddress target.fullName) "")
        [.leaf (.code (.ofList (codeText f.declaredType.toList)))]).Publishes c t h (linkTexts target.fullName) :=
      Node.publishes_link _ (outward ▸ classify_anchor c.addresses target.fullName) _
    have cell := link.inside .tableCell rfl rfl _ (column ▸ List.mem_singleton_self _)
    have row : (rowNode (fieldCells f)).Publishes c t h (linkTexts target.fullName) :=
      cell.inside (.tableRow false) rfl rfl _ (List.mem_map_of_mem (.tail _ (.head _)))
    have listed : fieldCells f ∈ bodyRows (.message fields) := List.mem_map_of_mem inside
    have table : (bodyNode (.message fields)).Publishes c t h (linkTexts target.fullName) :=
      row.inside (.table [.unset,.unset,.unset]) rfl rfl _ (.tail _ (List.mem_map_of_mem listed))
    rw [parse_types es printable]
    refine table.inside .document rfl rfl _ (List.mem_flatMap.mpr ⟨e,member,?_⟩)
    simp [sectionNodes,shape]

end Published

/-- The page of a walk. The type column of a field links to its type, and the anchor of the type is on the
page if its title keeps the marker, as that of a legible name does, or else the type was passed over. -/
theorem walk_linked (s : Schema) (matched : s.Matched) (start : String) (depth : Nat) (after : Visits)
    (es : List Entity) (walked : s.collect start depth .none = (after,.ok es))
    (printable : ∀ e ∈ es, e.definition.IsPrintable) (document root : Path) (t : FileTree) (h : Highlighter)
    (shown : ∀ info literal, ∃ html, h info literal = .ok html)
    (alive : ∀ e ∈ es,
      (∀ target, ¬ (RenderContext.standard document root).Dead t (sourceLink e.definition.file) target) ∧
        ∀ n ∈ commentNodes e.definition, n.IsAlive (.standard document root) t) :
    walk s start depth .none = (after,.ok (types es)) ∧
    ∃ page, (RenderContext.standard document root).render t (types es) h = .ok page ∧
      ∀ e ∈ es, ∀ f ∈ e.definition.fields, ∀ target, f.target = some target →
        (linkTag target.fullName).toList <:+: page.html.toList ∧
        (KeepsMarker target.fullName → (Anchor.html target.fullName).toList <:+: page.html.toList ∨
          ∃ c ∈ after.collisions, c.skipped = target.fullName) ∧
        (IsLegible target.fullName → KeepsMarker target.fullName) := by
  have written : walk s start depth .none = (after,.ok (types es)) := by
    simp only [walk,walked]
    rfl
  obtain ⟨page,rendered⟩ := (render_ok_iff_isAlive (.standard document root) t h shown (types es)).mpr
    ((parse_isAlive _ t es printable).mpr alive)
  refine ⟨written,page,rendered,fun e member f field target points => ?_⟩
  have named := ((printable e member).field f field).target target points
  refine ⟨?_,fun keeps => ?_,keepsMarker_of_isLegible _ named⟩
  · rw [← linkTexts_flatten _ named]
    exact (section_link es printable e member f field target points rfl).render page rendered
  · obtain ⟨_,_,ok⟩ := s.collect_ok start depth .none after es walked
    have used := (e.definition.mem_targets target).mpr ⟨f,field,points⟩
    refine (Schema.walked_target (s.visitAll_walked .none after _ es ok) matched e member target used).imp_left ?_
    rintro ⟨other,inside,same⟩
    have anchored := (section_anchor es printable other inside (same ▸ keeps)).render page rendered
    rw [same] at anchored
    simpa using anchored

end Reference

/-! Messages whose names have underscores at either end. -/

/-- A message with one field. -/
def referring (name localName : String) (target : TypeRef) : TypeDef :=
  ⟨localName,name,name,"","a",.message [⟨"b",target.fullName,some target,""⟩]⟩

def shelf : FileTree := ⟨[],[(["p"],.directory),(["p","a"],.file .empty)]⟩

private theorem referring_printable (name localName : String) (target : TypeRef) (named : IsName name)
    (pointed : IsName target.fullName) : (referring name localName target).IsPrintable := by
  have silent : IsComment "" := by simp [IsComment]
  have field : IsName "b" := by decide
  have file : ∀ c ∈ "a".toList, isFileSign c = true := List.all_eq_true.mp (by decide)
  have row : Field.IsPrintable ⟨"b",target.fullName,some target,""⟩ := by
    refine ⟨Reference.isCode_of_isName _ field,Reference.isCode_of_isName _ pointed,fun other points => ?_,silent⟩
    obtain rfl := Option.some.inj points
    exact pointed
  exact ⟨named,silent,.inl (TypeDef.prose_eq_nil _ rfl),file,List.forall_mem_singleton.mpr row⟩

/-- Nothing on the page of such messages is dead if their file is there. -/
private theorem referring_alive (name localName : String) (target : TypeRef) :
    (∀ dead, ¬ standing.Dead shelf (Reference.sourceLink (referring name localName target).file) dead) ∧
      ∀ n ∈ Reference.commentNodes (referring name localName target), n.IsAlive standing shelf := by
  have single : "a".toList.head? ≠ some '/' := by decide
  have comment : inlines [] (trimSpace (Comment.singleLine "").toList) = [] := by with_unfolding_all rfl
  constructor
  · refine (Reference.sourceLink_alive_iff shelf ⟨"p"⟩ ⟨"a.md"⟩ "a" single).mpr (.inr ?_)
    rw [Reference.fileAddress_eq "a" single,
      Reference.dangles_plain_iff shelf ⟨"p"⟩ "a" (by decide) (by decide),Bool.not_eq_false]
    decide
  · rw [Reference.commentNodes,if_pos (TypeDef.prose_eq_nil _ rfl)]
    simp [referring,Reference.bodyRows,comment]

/-! Two messages that refer to each other, one inside the other. Their parts begin with underscores. -/

def outerType : TypeDef := referring "_A" "_A" ⟨"_A._B","_A._B"⟩

def innerType : TypeDef := referring "_A._B" "_B" ⟨"_A","_A"⟩

def led : Schema := ⟨[outerType,innerType],by simp [outerType,innerType,referring]⟩

private theorem collect_led : led.collect "_A" 0 .none =
    (⟨[("_B","_A._B"),("_A","_A")],[]⟩,.ok [⟨outerType,0⟩,⟨innerType,1⟩]) := by
  have course : led.Walked .none [(⟨outerType,.head _⟩,0)] ⟨[("_B","_A._B"),("_A","_A")],[]⟩
      [⟨outerType,0⟩,⟨innerType,1⟩] := by
    refine .emit _ _ _ [] [(⟨innerType,.tail _ (.head _)⟩,1)] _ rfl rfl ?_
    refine .emit _ _ _ _ [(⟨outerType,.head _⟩,2)] _ (by decide) rfl ?_
    exact .met _ _ _ [] _ "_A" (by decide) (.nil _)
  exact (led.collect_resolved "_A" 0 .none outerType rfl).trans (led.walked_visitAll _ _ _ _ course)

/-- Underscores at one end of a name leave its marker alone. -/
theorem led_linked : led.Matched ∧
    (∃ after es, led.collect "_A" 0 .none = (after,.ok es) ∧ after.collisions = [] ∧
      (∀ e ∈ es, e.definition.IsPrintable) ∧
      (∀ info literal, ∃ html, Highlighter.byScope info literal = .ok html) ∧
      (∀ e ∈ es, (∀ dead, ¬ standing.Dead shelf (Reference.sourceLink e.definition.file) dead) ∧
        ∀ n ∈ Reference.commentNodes e.definition, n.IsAlive standing shelf) ∧
      ∃ page, standing.render shelf (Reference.types es) = .ok page ∧
        (Reference.linkTag "_A._B").toList <:+: page.html.toList ∧
        (Anchor.html "_A._B").toList <:+: page.html.toList) := by
  have matched : led.Matched := by decide
  have outer : IsName "_A" := by decide
  have inner : IsName "_A._B" := by decide
  have legible : IsLegible "_A._B" := ⟨by decide,.inl ⟨by decide,by decide⟩⟩
  have printable : ∀ e ∈ [(⟨outerType,0⟩ : Entity),⟨innerType,1⟩], e.definition.IsPrintable :=
    List.forall_mem_cons.mpr ⟨referring_printable _ _ _ outer inner,
      List.forall_mem_singleton.mpr (referring_printable _ _ _ inner outer)⟩
  have alive : ∀ e ∈ [(⟨outerType,0⟩ : Entity),⟨innerType,1⟩],
      (∀ dead, ¬ standing.Dead shelf (Reference.sourceLink e.definition.file) dead) ∧
        ∀ n ∈ Reference.commentNodes e.definition, n.IsAlive standing shelf :=
    List.forall_mem_cons.mpr ⟨referring_alive _ _ _,List.forall_mem_singleton.mpr (referring_alive _ _ _)⟩
  have shown : ∀ info literal, ∃ html, Highlighter.byScope info literal = .ok html := fun _ _ => ⟨_,rfl⟩
  obtain ⟨_,page,rendered,links⟩ := Reference.walk_linked led matched "_A" 0 _ _ collect_led printable
    ⟨"a.md"⟩ ⟨"p"⟩ shelf .byScope shown alive
  obtain ⟨link,anchor,keeps⟩ := links _ (.head _) _ (.head _) ⟨"_A._B","_A._B"⟩ rfl
  exact ⟨matched,_,_,collect_led,rfl,printable,shown,alive,page,rendered,link,
    (anchor (keeps legible)).resolve_right (by simp)⟩

/-! A message that refers to itself. Its name begins and ends with an underscore. -/

def enclosing : TypeDef := referring "_A_" "_A_" ⟨"_A_","_A_"⟩

def enclosed : Schema := ⟨[enclosing],by simp⟩

set_option maxRecDepth 4000 in
private theorem enclosed_title : inlines [] (Reference.title "_A_").toList =
    [.text ['\x7b','#'],.node .emphasis [.text ['A']],.text ['\x7d',' '],.node .emphasis [.text ['A']]] := by
  rw [Reference.title_toList]
  with_unfolding_all rfl

/-- The document with some address of the defining file. -/
def enclosedNodes (source : String) : List Node :=
  [.node (.heading 1) [.text ['\x7b','#'],.node .emphasis [.text ['A']],.text ['\x7d',' '],
      .node .emphasis [.text ['A']]],
    .node .paragraph [.leaf (.text "Defined in "),.node (.link source "") [.leaf (.text "a")]],
    .node (.heading 4) [.leaf (.text "Fields:")],
    .node (.table [.unset,.unset,.unset])
      [.node (.tableRow true) [.node .tableCell [.leaf (.text "Field")],.node .tableCell [.leaf (.text "Type")],
          .node .tableCell [.leaf (.text "Description")]],
        .node (.tableRow false) [.node .tableCell [.leaf (.code "b")],
          .node .tableCell [.node (.link "#_A_" "") [.leaf (.code "_A_")]],.node .tableCell []]]]

def enclosedSource : String := "https://github.com/google/perfetto/blob/master/a"

private theorem enclosed_nodes : Reference.sectionNodes ⟨enclosing,0⟩ = enclosedNodes "/a" := by
  have silent : Reference.proseNodes enclosing.prose = [] := if_pos (enclosing.prose_eq_nil rfl)
  have source : inlines [] (Reference.sourceLine "a" ++ ['\n']) =
      [.leaf (.text "Defined in "),.node (.link "/a" "") [.leaf (.text "a")]] := by with_unfolding_all rfl
  have field : inlines [] (Reference.code "b").toList = [.leaf (.code "b")] := by with_unfolding_all rfl
  have type : inlines [] (Reference.fieldType ⟨"b","_A_",some ⟨"_A_","_A_"⟩,""⟩).toList =
      [.node (.link "#_A_" "") [.leaf (.code "_A_")]] := by
    rw [Reference.fieldType_toList]
    with_unfolding_all rfl
  have comment : inlines [] (trimSpace (Comment.singleLine "").toList) = [] := by with_unfolding_all rfl
  have words := Reference.opening_inlines (.message [])
  simp only [Reference.bodyTitle,Reference.bodyHeads,List.forall_mem_cons] at words
  obtain ⟨title,first,second,third,_⟩ := words
  rw [Reference.sectionNodes,silent]
  simp only [enclosing,referring,enclosed_title,source,
    Reference.bodyTitle,Reference.bodyNode,Reference.bodyHeads,Reference.bodyRows,List.map_cons,List.map_nil,
    Reference.cellNode,Reference.rowNode,title,first,second,third,field,type,comment]
  rfl

private theorem enclosed_rewritten : (Node.node .document (enclosedNodes "/a")).rewrite standing shelf .byScope =
    .ok (.node .document (enclosedNodes enclosedSource),[]) := by
  have source : standing.rewriteLink shelf "/a" = .ok enclosedSource := by
    have kind : standing.links.classify "/a" standing.addresses = .repository "/a" := by decide
    have checked : LinkPolicy.checkRepositoryTarget shelf standing.root "/a" = .ok () := by decide
    simp only [RenderContext.rewriteLink,kind,checked]
    rfl
  have anchor : standing.rewriteLink shelf "#_A_" = .ok "#_A_" := by
    have kind : standing.links.classify "#_A_" standing.addresses = .external := by decide
    simp only [RenderContext.rewriteLink,kind]
    rfl
  simp only [enclosedNodes,Node.rewrite,Node.rewriteAll,Node.leaf,Node.text,RenderContext.rewriteKind,source,anchor,
    bind,Except.bind,pure,Except.pure,List.append_nil]
  rfl

/-- Underscores at both ends pair up, and the marker is lost. -/
theorem enclosed_unanchored : enclosed.Matched ∧ IsName "_A_" ∧
    enclosed.collect "_A_" 0 .none = (⟨[("_A_","_A_")],[]⟩,.ok [⟨enclosing,0⟩]) ∧
    ∃ page, standing.render shelf (Reference.types [⟨enclosing,0⟩]) = .ok page ∧
      (Reference.linkTag "_A_").toList <:+: page.html.toList ∧
      ¬ "<a name=\"_A_\" class=\"anchor\"".toList <:+: page.html.toList := by
  have named : IsName "_A_" := by decide
  have course : enclosed.Walked .none [(⟨enclosing,.head _⟩,0)] ⟨[("_A_","_A_")],[]⟩ [⟨enclosing,0⟩] := by
    refine .emit _ _ _ [] [(⟨enclosing,.head _⟩,1)] _ rfl rfl ?_
    exact .met _ _ _ [] _ "_A_" (by decide) (.nil _)
  have walked := (enclosed.collect_resolved "_A_" 0 .none enclosing rfl).trans
    (enclosed.walked_visitAll _ _ _ _ course)
  have printable : ∀ e ∈ [(⟨enclosing,0⟩ : Entity)], e.definition.IsPrintable :=
    List.forall_mem_singleton.mpr (referring_printable _ _ _ named named)
  have rendered : standing.render shelf (Reference.types [⟨enclosing,0⟩]) =
      .ok ⟨(Node.node .document (enclosedNodes enclosedSource)).toHtml,[]⟩ := by
    rw [RenderContext.render,Reference.parse_types _ printable,List.flatMap_singleton,enclosed_nodes,
      enclosed_rewritten]
    rfl
  refine ⟨by decide,named,walked,_,rendered,?_⟩
  rw [Node.toHtml,String.toList_ofList]
  exact ⟨by decide +kernel,by decide +kernel⟩

end ReferenceSite
