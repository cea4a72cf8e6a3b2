import Mathlib.Data.List.TakeDrop
import ReferenceSite.Proofs.Comment.Bookkeeping
import ReferenceSite.Proofs.Proto.LoadedFiles
import ReferenceSite.Proofs.Reference.Anchors
import ReferenceSite.Proofs.Reference.LiveReferences
import ReferenceSite.Proofs.Link.Target
import ReferenceSite.Proofs.Files.Growth

/-! The links of a reference to the files that define its types. Such a link leads into the repository
if the file lies outside the documentation, and passes the check if the file lies below the root. The
files of a loaded schema do, but for the standard ones that the project does not have. -/
namespace ReferenceSite
open ReferenceSite.Text ReferenceSite.Markdown

theorem FileTree.contains_of_isFile (t : FileTree) (p : Path) (file : t.isFile p = true) :
    t.contains p = true := by
  unfold isFile at file
  unfold contains
  cases found : t.find p with
  | error fault => simp [found] at file
  | ok entry => rfl

/-- Only what is not there at all is not found. -/
theorem FileTree.contains_of_readText (t : FileTree) (p : Path) (missing : t.readText p = .error .notFound) :
    t.contains p = false := by
  unfold contains
  cases found : t.find p with
  | error fault => rfl
  | ok entry =>
    obtain ⟨here,_ | content⟩ := entry
    all_goals simp only [readText,FileTree.read,found,bind,Except.bind,pure,Except.pure,throw,throwThe,
      MonadExceptOf.throw] at missing
    · cases missing
    · split at missing <;> cases missing

namespace LinkPolicy

def docsFolder : String := "docs/"

/-- An address below the root leads into the documentation or is one of the repository. -/
theorem classify_slash (rest : List Char) (single : rest.head? ≠ some '/') :
    (docsFolder.toList <+: rest → ∃ path, standard.classify (.ofList ('/' :: rest)) = .docs path) ∧
    (¬ docsFolder.toList <+: rest →
      standard.classify (.ofList ('/' :: rest)) = .repository (.ofList (markLine ('/' :: rest)))) := by
  have opened : standard.docsPrefix.toList = '/' :: docsFolder.toList := by decide
  have inside := classify_docs_iff standard .standard (.ofList ('/' :: rest))
  constructor
  · rintro ⟨below,rfl⟩
    refine ⟨.ofList below,(inside _ (by rw [opened]; rfl)).mpr (.inl ?_)⟩
    rw [← String.toList_inj,String.toList_append,opened]
    simp
  · intro outside
    refine (classify_repository_iff ..).mpr ⟨fun docs found => ?_,_,?_,rfl⟩
    · rcases (inside docs (by rw [opened]; rfl)).mp found with below | ⟨bare,_⟩
      · rw [← String.toList_inj,String.toList_append,opened] at below
        exact outside ⟨docs.toList,by simpa using below.symm⟩
      · exact isBareRelative_head .standard _ bare (by simp)
    · rw [String.toList_ofList,repositoryPath?_slash rest single]

/-- A link that is one into the repository and passes the check. -/
def Leads (p : LinkPolicy) (t : FileTree) (root : Path) (href : String) : Prop :=
  ∃ path, p.classify href = .repository path ∧ checkRepositoryTarget t root path = .ok ()

theorem leads_slash_iff (t : FileTree) (root : Path) (rest : List Char) (single : rest.head? ≠ some '/') :
    standard.Leads t root (.ofList ('/' :: rest)) ↔
      ¬ docsFolder.toList <+: rest ∧ ¬ Dangles t root (.ofList ('/' :: rest)) := by
  obtain ⟨inside,outside⟩ := classify_slash rest single
  have marked := dangles_markLine t root ('/' :: rest)
  constructor
  · rintro ⟨path,kind,checked⟩
    have elsewhere : ¬ docsFolder.toList <+: rest := by
      intro below
      obtain ⟨page,docs⟩ := inside below
      rw [kind] at docs
      cases docs
    rw [outside elsewhere] at kind
    cases kind
    exact ⟨elsewhere,mt marked.mpr ((checkRepositoryTarget_ok_iff ..).mp checked)⟩
  · rintro ⟨elsewhere,sound⟩
    exact ⟨_,outside elsewhere,(checkRepositoryTarget_ok_iff ..).mpr (mt marked.mp sound)⟩

end LinkPolicy

namespace Proto.Source

theorem isPlainName_head (name : String) (plain : isPlainName name = true) :
    name.toList.head? ≠ some '/' ∧ name ≠ "" := by
  simp only [isPlainName,List.all_eq_true,decide_eq_true_eq] at plain
  constructor
  · intro slash
    obtain ⟨rest,shape⟩ := List.head?_eq_some_iff.mp slash
    have split : name.toList.splitOn '/' = [] :: rest.splitOn '/' := by
      rw [shape]
      simpa using List.splitOn_append_cons_self (a := '/') [] rest
    exact (plain [] (by simp [split])).1 rfl
  · rintro rfl
    exact (plain [] (by decide)).1 rfl

theorem isPlainName_parts (name : String) (plain : isPlainName name = true) :
    ".." ∉ (name.toList.splitOn '/').map String.ofList := by
  simp only [isPlainName,List.all_eq_true,decide_eq_true_eq] at plain
  intro member
  obtain ⟨part,inside,same⟩ := List.mem_map.mp member
  have dots : part = ['.','.'] := by
    have shown := congrArg String.toList same
    rw [String.toList_ofList] at shown
    exact shown
  exact (plain part inside).2.2 dots

end Proto.Source

namespace Reference
open Proto.Source

theorem dropWhile_slashes (file : String) (single : file.toList.head? ≠ some '/') :
    file.toList.dropWhile (· = '/') = file.toList := by
  refine dropWhile_kept _ _ fun c first => ?_
  rw [first] at single
  simpa using single

theorem fileAddress_eq (file : String) (single : file.toList.head? ≠ some '/') :
    fileAddress file = '/' :: file.toList := by
  rw [fileAddress,dropWhile_slashes file single]

/-- A file of a plain name dangles only if it is not there. -/
theorem dangles_plain_iff (t : FileTree) (root : Path) (file : String) (plain : isPlainName file = true)
    (whole : '#' ∉ file.toList ∧ '?' ∉ file.toList) :
    LinkPolicy.Dangles t root (.ofList ('/' :: file.toList)) ↔ t.contains (root.join file) = false := by
  have single := (isPlainName_head file plain).1
  have target : LinkPolicy.targetOf (.ofList ('/' :: file.toList)) = .ofList ('/' :: file.toList) := by
    rw [LinkPolicy.targetOf,LinkPolicy.splitTarget_fst,String.toList_ofList,List.takeWhile_eq_self_iff.mpr]
    refine List.forall_mem_cons.mpr ⟨by decide,fun c member => ?_⟩
    have sharp : c ≠ '#' := fun same => whole.1 (same ▸ member)
    have query : c ≠ '?' := fun same => whole.2 (same ▸ member)
    simp [sharp,query]
  have parts := isPlainName_parts file plain
  have segments : (Path.mk (.ofList ('/' :: file.toList))).segments =
      (file.toList.splitOn '/').map String.ofList := by
    simp [Path.segments,Path.isAbsolute]
  rw [LinkPolicy.Dangles,target,segments,String.toList_ofList,List.dropWhile_cons_of_pos (by simp),
    dropWhile_slashes file single,String.ofList_toList]
  exact or_iff_right parts

theorem alive_link_iff (c : RenderContext) (t : FileTree) (url title : String) :
    (∀ target, ¬ c.Dead t (.link url title) target) ↔
      ∀ path, c.links.classify url c.addresses = .repository path → ¬ LinkPolicy.Dangles t c.root path := by
  constructor
  · exact fun alive path kind dangles => alive _ (.link kind dangles)
  · rintro sound target dead
    cases dead with
    | link kind dangles => exact sound _ kind dangles

/-- The link to a defining file is not dead if it leads to a page of the documentation instead. -/
theorem sourceLink_alive_iff (t : FileTree) (root document : Path) (file : String)
    (single : file.toList.head? ≠ some '/') :
    (∀ target, ¬ (RenderContext.standard document root).Dead t (sourceLink file) target) ↔
      LinkPolicy.docsFolder.toList <+: file.toList ∨
        ¬ LinkPolicy.Dangles t root (.ofList (fileAddress file)) := by
  obtain ⟨inside,outside⟩ := LinkPolicy.classify_slash file.toList single
  rw [sourceLink,fileAddress_eq file single,alive_link_iff]
  by_cases below : LinkPolicy.docsFolder.toList <+: file.toList
  · obtain ⟨page,docs⟩ := inside below
    refine iff_of_true (fun path kind => ?_) (.inl below)
    have other := docs.symm.trans kind
    cases other
  · have kind := outside below
    rw [← LinkPolicy.dangles_markLine]
    constructor
    · exact fun sound => .inr (sound _ kind)
    · rintro (folder | sound) path found
      · exact absurd folder below
      · have same := LinkClass.repository.inj (kind.symm.trans found)
        exact same ▸ sound

theorem definedIn_address (file : String) : ∃ label,
    definedIn file = sourceWords ++ "[" ++ label ++ "](" ++ .ofList (fileAddress file) ++ ")\n\n" := by
  refine ⟨(Path.mk file).fileName?.getD file,String.toList_inj.mp ?_⟩
  simp [definedIn,sourceWords,fileAddress]

theorem sourceLink_mem (es : List Entity) (printable : ∀ e ∈ es, e.definition.IsPrintable) (e : Entity)
    (member : e ∈ es) : ∃ n ∈ (parse (types es)).preorder, n.kind = sourceLink e.definition.file := by
  obtain ⟨label,read,_⟩ := sourceLine_inlines e.definition.file (printable e member).file
  by_contra missing
  have absent : ∀ n ∈ (parse (types es)).preorder, n.kind ≠ sourceLink e.definition.file :=
    fun n inside same => missing ⟨n,inside,same⟩
  rw [parse_types es printable,Node.preorder,List.forall_mem_cons,forall_mem_preorderAll] at absent
  have line : Node.node .paragraph (inlines [] (sourceLine e.definition.file ++ ['\n'])) ∈
      es.flatMap sectionNodes := List.mem_flatMap.mpr ⟨e,member,by simp [sectionNodes]⟩
  have within := absent.2 _ line
  rw [read,Node.preorder,List.forall_mem_cons,forall_mem_preorderAll] at within
  have linked := within.2 (.node (sourceLink e.definition.file) label) (by simp [sourceLink])
  exact linked _ (by rw [Node.preorder]; exact List.mem_cons_self) rfl

/-- The file of a loaded type lies below the root, or it is a bundled one that does not. -/
theorem load_file (t : FileTree) (root file : Path) (b : Proto.Bundle) (s : Schema)
    (loaded : Schema.load t root file b = .ok s) (d : TypeDef) (stored : d ∈ s.types) :
    isPlainName d.file = true ∧ (t.isFile (root.join d.file) = true ∨
      t.contains (root.join d.file) = false ∧ ∃ text, (d.file,text) ∈ b) := by
  obtain ⟨f,found⟩ := Schema.load_source t root file b s loaded d stored
  obtain ⟨plain,text,_,read | ⟨missing,bundled⟩⟩ := source_ok t root b d.file f found
  · exact ⟨plain,.inl (t.isFile_of_readText _ _ read)⟩
  · exact ⟨plain,.inr ⟨t.contains_of_readText _ missing,text,bundled⟩⟩

/-- What the link to a defining file comes to. -/
structure Provenance (t : FileTree) (root : Path) (b : Proto.Bundle) (file : String) : Prop where
  written : ∃ label, definedIn file =
    sourceWords ++ "[" ++ label ++ "](" ++ .ofList (fileAddress file) ++ ")\n\n"
  /-- The file lies below the root, or it is a bundled one and nothing lies there. -/
  found : t.isFile (root.join file) = true ∨
    t.contains (root.join file) = false ∧ ∃ text, (file,text) ∈ b
  leads_iff : LinkPolicy.standard.Leads t root (.ofList (fileAddress file)) ↔
    ¬ LinkPolicy.docsFolder.toList <+: file.toList ∧ ¬ LinkPolicy.Dangles t root (.ofList (fileAddress file))
  dangles_iff : '#' ∉ file.toList → '?' ∉ file.toList →
    (LinkPolicy.Dangles t root (.ofList (fileAddress file)) ↔ t.isFile (root.join file) = false)

theorem load_provenance (t : FileTree) (root file : Path) (b : Proto.Bundle) (s : Schema)
    (loaded : Schema.load t root file b = .ok s) (d : TypeDef) (stored : d ∈ s.types) :
    Provenance t root b d.file := by
  obtain ⟨plain,found⟩ := load_file t root file b s loaded d stored
  have single := (isPlainName_head d.file plain).1
  have address := fileAddress_eq d.file single
  refine ⟨definedIn_address d.file,found,?_,fun sharp query => ?_⟩
  · rw [address]
    exact LinkPolicy.leads_slash_iff t root d.file.toList single
  · rw [address,dangles_plain_iff t root d.file plain ⟨sharp,query⟩]
    rcases found with present | ⟨absent,_⟩
    · simp [present,t.contains_of_isFile _ present]
    · exact iff_of_true absent (Bool.eq_false_iff.mpr fun present => by
        simp [t.contains_of_isFile _ present] at absent)

/-- A loaded schema's page is rendered exactly if every link to a defining file leads into the
documentation or below the root, and no comment holds a dead reference. -/
theorem walk_provenance (t : FileTree) (root file document : Path) (b : Proto.Bundle) (s : Schema)
    (h : Highlighter) (loaded : Schema.load t root file b = .ok s) (start : String) (depth : Nat) (v after : Visits)
    (es : List Entity) (walked : s.collect start depth v = (after,.ok es))
    (shown : ∀ info literal, ∃ html, h info literal = .ok html) :
    walk s start depth v = (after,.ok (types es)) ∧
    (∀ e ∈ es, Provenance t root b e.definition.file) ∧
    ((∀ e ∈ es, e.definition.IsTidy) →
      (∀ e ∈ es, ∃ n ∈ (parse (types es)).preorder, n.kind = sourceLink e.definition.file) ∧
      ((∃ page, (RenderContext.standard document root).render t (types es) h = .ok page) ↔
        ∀ e ∈ es, (LinkPolicy.docsFolder.toList <+: e.definition.file.toList ∨
            t.isFile (root.join e.definition.file) = true) ∧
          ∀ n ∈ commentNodes e.definition, n.IsAlive (.standard document root) t)) := by
  obtain ⟨_,_,ok⟩ := s.collect_ok start depth v after es walked
  have stored := Schema.walked_stored (s.visitAll_walked v after _ es ok)
  have provenance (e : Entity) (member : e ∈ es) : Provenance t root b e.definition.file :=
    load_provenance t root file b s loaded e.definition (stored e member)
  have written : walk s start depth v = (after,.ok (types es)) := by
    simp only [walk,walked]
    rfl
  refine ⟨written,provenance,fun tidy => ?_⟩
  have printable (e : Entity) (member : e ∈ es) : e.definition.IsPrintable :=
    printable_of_isNamed _ (Schema.load_named t root file b s loaded _ (stored e member)) (tidy e member)
  refine ⟨sourceLink_mem es printable,?_⟩
  set c := RenderContext.standard document root
  rw [render_ok_iff_isAlive c t h shown]
  refine (parse_isAlive c t es printable).trans (forall₂_congr fun e member => and_congr_left' ?_)
  obtain ⟨plain,_⟩ := load_file t root file b s loaded e.definition (stored e member)
  have signs := (tidy e member).file
  have single := (isPlainName_head _ plain).1
  have whole (sign : Char) (foreign : isFileSign sign = false) : sign ∉ e.definition.file.toList :=
    fun inside => by simp [signs sign inside] at foreign
  rw [sourceLink_alive_iff t root document _ single,
    (provenance e member).dangles_iff (whole _ (by decide)) (whole _ (by decide)),Bool.not_eq_false]

end Reference

/-! Two messages. One has a field of a well-known type whose file the project does not have. -/

/-- The comment of the well-known type. -/
def emptyLines : List String := [
  " A generic empty message that you can re-use to avoid defining duplicated",
  " empty messages in your APIs. A typical example is to use it as the request",
  " or the response type of an API method. For instance:",
  "",
  "     service Foo \x7b",
  "       rpc Bar(google.protobuf.Empty) returns (google.protobuf.Empty);",
  "     \x7d",
  ""]

def emptyComment : String := .ofList (emptyLines.flatMap fun line => line.toList ++ ['\n'])

def emptyType : TypeDef :=
  ⟨"Empty","google.protobuf.Empty","Empty",emptyComment,"google/protobuf/empty.proto",.message []⟩

def borrower : TypeDef := ⟨"A","A","A","","a.proto",.message [.ofType "e" "" emptyType]⟩

def modest : TypeDef := ⟨"B","B","B","","a.proto",.message []⟩

def borrowerText : String :=
  "import'google/protobuf/empty.proto';message A{optional google.protobuf.Empty e=1;}message B{}"

def borrowing : FileTree := ⟨[],[(["p"],.directory),(["p","a.proto"],.file borrowerText.toUTF8)]⟩

def borrowings : Schema := ⟨[modest,borrower,emptyType],by simp [modest,borrower,emptyType]⟩

theorem eq_ok_of_types (loaded : Except SchemaFault Schema) (s : Schema)
    (types : loaded.toOption.map (·.types) = some s.types) : loaded = .ok s := by
  cases loaded with
  | error fault => simp [Except.toOption] at types
  | ok found =>
    obtain ⟨stored,_⟩ := found
    obtain ⟨wanted,_⟩ := s
    simp only [Except.toOption,Option.map_some,Option.some.injEq] at types
    subst types
    rfl

private theorem load_borrowing : Schema.load borrowing ⟨"p"⟩ ⟨"a.proto"⟩ = .ok borrowings :=
  eq_ok_of_types _ borrowings (by decide +kernel)

private theorem collect_borrower : borrowings.collect "A" 0 .none =
    (⟨[("Empty","Empty"),("A","A")],[]⟩,.ok [⟨borrower,0⟩,⟨emptyType,1⟩]) := by
  have course : borrowings.Walked .none [(⟨borrower,.tail _ (.head _)⟩,0)]
      ⟨[("Empty","Empty"),("A","A")],[]⟩ [⟨borrower,0⟩,⟨emptyType,1⟩] := by
    refine .emit _ _ _ [] [(⟨emptyType,.tail _ (.tail _ (.head _))⟩,1)] _ rfl rfl ?_
    exact .emit _ _ _ _ [] _ (by decide) rfl (.nil _)
  exact (borrowings.collect_resolved "A" 0 .none borrower rfl).trans
    (borrowings.walked_visitAll _ _ _ _ course)

private theorem collect_modest : borrowings.collect "B" 0 .none = (⟨[("B","B")],[]⟩,.ok [⟨modest,0⟩]) := by
  have course : borrowings.Walked .none [(⟨modest,.head _⟩,0)] ⟨[("B","B")],[]⟩ [⟨modest,0⟩] :=
    .emit _ _ _ [] [] _ rfl rfl (.nil _)
  exact (borrowings.collect_resolved "B" 0 .none modest rfl).trans
    (borrowings.walked_visitAll _ _ _ _ course)

private theorem no_comment : IsComment "" := by simp [IsComment]

private theorem borrowings_tidy : ∀ d ∈ borrowings.types, d.IsTidy := by
  have file : ∀ c ∈ "a.proto".toList, isFileSign c = true := List.all_eq_true.mp (by decide)
  have remarked (e : TypeDef) (listed : e.remarks = [] ∨ e.remarks = [""]) : ∀ s ∈ e.remarks, IsComment s := by
    rcases listed with nothing | single
    · simp [nothing]
    · rw [single]
      exact List.forall_mem_singleton.mpr no_comment
  have whole : emptyComment.toList = emptyLines.flatMap fun line => line.toList ++ ['\n'] := String.toList_ofList
  have empty : IsComment emptyComment := by
    rw [IsComment,whole]
    exact List.all_iff_forall_prop.mp (by decide +kernel)
  have begins : ∃ rest, emptyComment.toList = [' '] ++ 'A' :: rest := ⟨_,whole⟩
  have unmarked : Comment.afterNextId? emptyComment.toList = none := by
    rw [whole]
    decide +kernel
  obtain ⟨rest,begins⟩ := begins
  have first : emptyType.prose.head? = some 'A' := Comment.stripNextId_head emptyComment [' '] rest 'A' begins
    (List.forall_mem_singleton.mpr (by decide)) (by decide) (by decide) unmarked
  have prose := Reference.isParagraph_of_first _ 'A' first (by decide) (by decide) (by decide)
  simp only [borrowings,List.forall_mem_cons]
  exact ⟨⟨no_comment,.inl (modest.prose_eq_nil rfl),file,remarked _ (.inl rfl)⟩,
    ⟨no_comment,.inl (borrower.prose_eq_nil rfl),file,remarked _ (.inr rfl)⟩,
    ⟨empty,.inr prose,List.all_eq_true.mp (by decide),remarked _ (.inl rfl)⟩,by simp⟩

private theorem missing_empty : borrowing.isFile ((Path.mk "p").join emptyType.file) = false := by
  decide

private theorem shown_byScope : ∀ info literal, ∃ html, Highlighter.byScope info literal = .ok html :=
  fun _ _ => ⟨_,rfl⟩

/-- The page of one message is rendered, that of the other one is not. -/
theorem borrowings_provenance :
    Schema.load borrowing ⟨"p"⟩ ⟨"a.proto"⟩ = .ok borrowings ∧
    borrowings.collect "A" 0 .none = (⟨[("Empty","Empty"),("A","A")],[]⟩,.ok [⟨borrower,0⟩,⟨emptyType,1⟩]) ∧
    borrowings.collect "B" 0 .none = (⟨[("B","B")],[]⟩,.ok [⟨modest,0⟩]) ∧
    (∀ info literal, ∃ html, Highlighter.byScope info literal = .ok html) ∧
    (∀ d ∈ borrowings.types, d.IsTidy) ∧
    Reference.Provenance borrowing ⟨"p"⟩ Proto.Standard.files emptyType.file ∧
    (∃ page, standing.render borrowing (Reference.types [⟨modest,0⟩]) = .ok page) ∧
    ¬ ∃ page, standing.render borrowing (Reference.types [⟨borrower,0⟩,⟨emptyType,1⟩]) = .ok page := by
  obtain ⟨_,_,alone⟩ := Reference.walk_provenance borrowing ⟨"p"⟩ ⟨"a.proto"⟩ ⟨"a.md"⟩ Proto.Standard.files
    borrowings .byScope load_borrowing "B" 0 .none _ _ collect_modest shown_byScope
  obtain ⟨_,provenance,borrowed⟩ := Reference.walk_provenance borrowing ⟨"p"⟩ ⟨"a.proto"⟩ ⟨"a.md"⟩
    Proto.Standard.files borrowings .byScope load_borrowing "A" 0 .none _ _ collect_borrower shown_byScope
  have tidy := borrowings_tidy
  simp only [borrowings,List.forall_mem_cons] at tidy
  obtain ⟨modestly,held,empty,_⟩ := tidy
  refine ⟨load_borrowing,collect_borrower,collect_modest,shown_byScope,borrowings_tidy,
    provenance ⟨emptyType,1⟩ (by simp),?_,?_⟩
  · refine (alone (List.forall_mem_singleton.mpr modestly)).2.mpr (List.forall_mem_singleton.mpr ⟨?_,?_⟩)
    · exact .inr (by decide)
    · rw [Reference.commentNodes,if_pos (modest.prose_eq_nil rfl)]
      simp [modest,Reference.bodyRows]
  · intro rendered
    have sound := (borrowed (List.forall_mem_cons.mpr ⟨held,List.forall_mem_singleton.mpr empty⟩)).2.mp
      rendered ⟨emptyType,1⟩ (by simp)
    rcases sound.1 with folder | present
    · exact absurd folder (by decide)
    · simp [missing_empty] at present

private theorem borrower_dead :
    ¬ (parse (Reference.types [⟨borrower,0⟩,⟨emptyType,1⟩])).IsAlive standing borrowing := by
  have printable (d : TypeDef) (stored : d ∈ borrowings.types) : d.IsPrintable :=
    Reference.printable_of_isNamed d (Schema.load_named _ _ _ _ _ load_borrowing d stored) (borrowings_tidy d stored)
  have both : ∀ e ∈ [(⟨borrower,0⟩ : Entity),⟨emptyType,1⟩], e.definition.IsPrintable :=
    List.forall_mem_cons.mpr ⟨printable _ (.tail _ (.head _)),
      List.forall_mem_singleton.mpr (printable _ (.tail _ (.tail _ (.head _))))⟩
  have single : emptyType.file.toList.head? ≠ some '/' := by decide
  have dangles : LinkPolicy.Dangles borrowing ⟨"p"⟩ (.ofList (Reference.fileAddress emptyType.file)) := by
    rw [Reference.fileAddress_eq _ single]
    exact .inr (by decide)
  rw [Reference.parse_isAlive standing borrowing [⟨borrower,0⟩,⟨emptyType,1⟩] both]
  intro links
  have sound := (Reference.sourceLink_alive_iff borrowing ⟨"p"⟩ ⟨"a.md"⟩ _ single).mp
    (links ⟨emptyType,1⟩ (.tail _ (.head _))).1
  exact sound.elim (fun folder => absurd folder (by decide)) (absurd dangles)

/-- The other page has a link that is refused. -/
theorem borrower_refused : Schema.load borrowing ⟨"p"⟩ ⟨"a.proto"⟩ = .ok borrowings ∧
    Reference.walk borrowings "A" 0 .none = (⟨[("Empty","Empty"),("A","A")],[]⟩,
      .ok (Reference.types [⟨borrower,0⟩,⟨emptyType,1⟩])) ∧
    Reference.definedIn emptyType.file = "Defined in [empty.proto](/google/protobuf/empty.proto)\n\n" ∧
    LinkPolicy.standard.classify "/google/protobuf/empty.proto" = .repository "/google/protobuf/empty.proto" ∧
    LinkPolicy.checkRepositoryTarget borrowing ⟨"p"⟩ "/google/protobuf/empty.proto" =
      .error "/google/protobuf/empty.proto" ∧
    ∃ target, standing.render borrowing (Reference.types [⟨borrower,0⟩,⟨emptyType,1⟩]) =
      .error (.deadLink ⟨"a.md"⟩ target) := by
  have written : Reference.walk borrowings "A" 0 .none = (⟨[("Empty","Empty"),("A","A")],[]⟩,
      .ok (Reference.types [⟨borrower,0⟩,⟨emptyType,1⟩])) := by
    simp only [Reference.walk,collect_borrower]
    rfl
  have outcome := render_outcome standing borrowing .byScope shown_byScope
    (Reference.types [⟨borrower,0⟩,⟨emptyType,1⟩])
  refine ⟨load_borrowing,written,by decide,by decide,by decide,?_⟩
  exact (outcome.resolve_left fun rendered => borrower_dead rendered.1).2

end ReferenceSite
