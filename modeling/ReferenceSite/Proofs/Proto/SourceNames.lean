import Mathlib.Data.List.TakeWhile
import ReferenceSite.Proto.Source.File

/-! The names in a source. What a declaration is called is a name that was read from the text, so it is
made of letters, digits and underscores, and scopes put dots between such names. -/
namespace ReferenceSite

def isNameSign (c : Char) : Bool := c.isAlphanum || c = '_' || c = '.'

/-- Letters, digits, underscores and dots. -/
structure IsName (name : String) : Prop where
  filled : name ≠ ""
  signs : ∀ c ∈ name.toList, isNameSign c = true

instance (name : String) : Decidable (IsName name) :=
  decidable_of_iff (name ≠ "" ∧ name.toList.all isNameSign = true)
    ⟨fun both => ⟨both.1,List.all_eq_true.mp both.2⟩,fun named => ⟨named.filled,List.all_eq_true.mpr named.signs⟩⟩

namespace Proto.Source
open ReferenceSite.Text

/-- Letters, digits and underscores. -/
structure IsIdentifier (name : String) : Prop where
  filled : name ≠ ""
  signs : ∀ c ∈ name.toList, isNamePart c = true

instance (name : String) : Decidable (IsIdentifier name) :=
  decidable_of_iff (name ≠ "" ∧ name.toList.all isNamePart = true)
    ⟨fun both => ⟨both.1,List.all_eq_true.mp both.2⟩,fun named => ⟨named.filled,List.all_eq_true.mpr named.signs⟩⟩

/-! Words. -/

def Word.IsNamed : Word → Prop
  | .name s => IsIdentifier s
  | _ => True

theorem number?_named (s : List Char) (w : Word) (read : number? s = some w) : w.IsNamed := by
  have whole (base : Nat) (digits : List Char)
      (read : (if digitsValue base digits < 0x10000000000000000 then
        some (Word.integer (digitsValue base digits)) else none) = some w) : w.IsNamed := by
    split at read <;> cases read
    trivial
  unfold number? at read
  repeat' split at read
  all_goals first
    | exact whole _ _ read
    | (cases read; trivial)
    | cases read

theorem word?_named (s rest : List Char) (w : Word) (read : word? s = some (w,rest)) : w.IsNamed := by
  cases s with
  | nil => cases read
  | cons c s =>
    unfold word? at read
    simp only at read
    split at read
    · rename_i start
      cases read
      refine ⟨fun empty => ?_,fun d member => ?_⟩
      · simp [← String.toList_eq_nil_iff] at empty
      · rw [String.toList_ofList] at member
        rcases List.mem_cons.mp member with rfl | inside
        · simp only [isNameStart,Bool.or_eq_true,decide_eq_true_eq] at start
          rcases start with letter | rfl
          · simp [isNamePart,Char.isAlphanum,letter]
          · decide
        · exact List.mem_takeWhile_imp inside
    · split at read
      · obtain ⟨v,number,same⟩ := Option.map_eq_some_iff.mp read
        cases same
        exact number?_named _ _ number
      · split at read
        · obtain ⟨v,_,same⟩ := Option.map_eq_some_iff.mp read
          cases same
          trivial
        · split at read <;> cases read
          trivial

theorem lexemes?_named (s : List Char) (lexemes : List Lexeme) (read : lexemes? s = some lexemes) :
    ∀ w, .word w ∈ lexemes → w.IsNamed := by
  fun_induction lexemes? s generalizing lexemes with
  | case1 =>
    cases read
    simp
  | case2 rest ih | case3 rest ih =>
    obtain ⟨further,more,rfl⟩ := Option.map_eq_some_iff.mp read
    simpa using ih further more
  | case4 => cases read
  | case5 rest comment after found ih =>
    obtain ⟨further,more,rfl⟩ := Option.map_eq_some_iff.mp read
    simpa using ih further more
  | case6 c rest _ _ _ gap ih => exact ih lexemes read
  | case7 => cases read
  | case8 c rest _ _ _ gap w after found ih =>
    obtain ⟨further,more,rfl⟩ := Option.map_eq_some_iff.mp read
    intro v member
    rcases List.mem_cons.mp member with same | later
    · cases same
      exact word?_named _ _ _ found
    · exact ih further more v later

theorem splitGap_suffix (s : List Lexeme) : (splitGap s).2 <:+ s := by
  fun_induction splitGap s with
  | case1 => exact List.suffix_refl _
  | case2 => exact List.suffix_refl _
  | case3 l rest _ before after found ih =>
    rw [found] at ih
    exact ih.trans (List.suffix_cons l rest)

theorem tokensAfter_word (atStart : Bool) (s : List Lexeme) :
    ∀ t ∈ (tokensAfter atStart s).2, .word t.word ∈ s := by
  fun_induction tokensAfter atStart s with
  | case1 atStart s gap w rest shape _ trailing tokens further ih =>
    have kept : .word w :: rest <:+ s := shape ▸ splitGap_suffix s
    rw [further] at ih
    refine List.forall_mem_cons.mpr ⟨kept.mem (by simp),fun t member => ?_⟩
    exact kept.mem (List.mem_cons_of_mem _ (ih t member))
  | case2 => simp

theorem tokens?_named (s : List Char) (tokens : List Token) (read : tokens? s = some tokens) :
    ∀ t ∈ tokens, t.word.IsNamed := by
  obtain ⟨lexemes,found,rfl⟩ := Option.map_eq_some_iff.mp read
  exact fun t member => lexemes?_named s lexemes found _ (tokensAfter_word true lexemes t member)

/-! Statements. -/

theorem foldlM_kept {α σ : Type} (P : σ → Prop) (Q : α → Prop) (step : σ → α → Option σ)
    (kept : ∀ x a y, P x → Q a → step x a = some y → P y) (items : List α) (all : ∀ a ∈ items, Q a)
    (x y : σ) (first : P x) (run : items.foldlM step x = some y) : P y := by
  induction items generalizing x with
  | nil =>
    cases run
    exact first
  | cons a items ih =>
    rw [List.foldlM_cons] at run
    obtain ⟨next,read,further⟩ := Option.bind_eq_some_iff.mp run
    obtain ⟨own,later⟩ := List.forall_mem_cons.mp all
    exact ih later next (kept x a next first own read) further

def Head.IsNamed (h : Head) : Prop := ∀ w ∈ h.words, w.IsNamed

inductive Statement.IsNamed : Statement → Prop
  | line {h : Head} : h.IsNamed → IsNamed (.line h)
  | block {h : Head} {body : List Statement} :
    h.IsNamed → (∀ s ∈ body, IsNamed s) → IsNamed (.block h body)

structure Reading.IsNamed (r : Reading) : Prop where
  outer : ∀ p ∈ r.outer, (∀ s ∈ p.1, s.IsNamed) ∧ p.2.IsNamed
  done : ∀ s ∈ r.done, s.IsNamed
  words : ∀ w ∈ r.words, w.IsNamed

theorem Reading.IsNamed.push {r : Reading} (named : r.IsNamed) (t : Token) (word : t.word.IsNamed)
    (depth : Nat) : (r.push t depth).IsNamed :=
  ⟨named.outer,named.done,List.forall_mem_cons.mpr ⟨word,named.words⟩⟩

theorem Reading.IsNamed.head {r : Reading} (named : r.IsNamed) (t : Token) : (r.head t).IsNamed :=
  fun w member => named.words w (List.mem_reverse.mp member)

theorem Reading.step_named (r next : Reading) (t : Token) (named : r.IsNamed) (word : t.word.IsNamed)
    (read : r.step t = some next) : next.IsNamed := by
  have pushed (depth : Nat) (same : some (r.push t depth) = some next) : next.IsNamed :=
    Option.some.inj same ▸ named.push t word depth
  unfold Reading.step at read
  split at read
  · exact pushed _ read
  · split at read
    · cases read
    · exact pushed _ read
  · split at read
    · exact pushed _ read
    · cases read
      exact ⟨List.forall_mem_cons.mpr ⟨⟨named.done,named.head t⟩,named.outer⟩,by simp,by simp⟩
  · split at read
    · exact pushed _ read
    · split at read
      · rename_i before head outer _ opened
        cases read
        have around := named.outer
        rw [opened] at around
        obtain ⟨⟨earlier,opening⟩,others⟩ := List.forall_mem_cons.mp around
        refine ⟨others,List.forall_mem_cons.mpr ⟨.block opening fun s member => ?_,earlier⟩,by simp⟩
        exact named.done s (List.mem_reverse.mp member)
      · cases read
  · split at read
    · exact pushed _ read
    · cases read
      exact ⟨named.outer,List.forall_mem_cons.mpr ⟨.line (named.head t),named.done⟩,by simp⟩
  · exact pushed _ read

theorem statements?_named (s : List Char) (statements : List Statement)
    (read : statements? s = some statements) : ∀ x ∈ statements, x.IsNamed := by
  unfold statements? at read
  obtain ⟨tokens,found,read⟩ := Option.bind_eq_some_iff.mp read
  obtain ⟨r,run,read⟩ := Option.bind_eq_some_iff.mp read
  have named : r.IsNamed := foldlM_kept Reading.IsNamed (·.word.IsNamed) Reading.step
    (fun r t next => Reading.step_named r next t) tokens (tokens?_named s tokens found) .start r
    ⟨by simp [Reading.start],by simp [Reading.start],by simp [Reading.start]⟩ run
  split at read <;> cases read
  exact fun x member => named.done x (List.mem_reverse.mp member)

/-! Declarations. -/

theorem moreParts_suffix (soFar : String) (words : List Word) : (moreParts soFar words).2 <:+ words := by
  fun_induction moreParts soFar words with
  | case1 soFar s rest ih => exact ih.trans ⟨[.sign '.',.name s],rfl⟩
  | case2 => exact List.suffix_refl _

theorem typeName?_suffix (words rest : List Word) (name : String) (read : typeName? words = some (name,rest)) :
    rest <:+ words := by
  unfold typeName? fullName? at read
  split at read
  · rename_i s behind
    obtain rfl := congrArg Prod.snd (Option.some.inj read)
    exact (moreParts_suffix ("." ++ s) behind).trans ⟨[.sign '.',.name s],rfl⟩
  · split at read
    · rename_i s behind _
      obtain rfl := congrArg Prod.snd (Option.some.inj read)
      exact (moreParts_suffix s behind).trans (List.suffix_cons _ _)
    · cases read

theorem label?_suffix (words : List Word) : (label? words).2 <:+ words := by
  unfold label?
  split
  all_goals first
    | exact List.suffix_cons _ _
    | exact List.suffix_refl _

theorem fieldType?_suffix (words rest : List Word) (type : FieldType)
    (read : fieldType? words = some (type,rest)) : rest <:+ words := by
  unfold fieldType? at read
  split at read
  · rename_i behind
    obtain ⟨⟨key,further⟩,first,read⟩ := Option.bind_eq_some_iff.mp read
    have keyed := typeName?_suffix _ _ _ first
    simp only at read
    split at read
    · obtain ⟨⟨value,last⟩,second,read⟩ := Option.bind_eq_some_iff.mp read
      have valued := typeName?_suffix _ _ _ second
      simp only at read valued
      split at read <;> cases read
      have inside : rest <:+ behind :=
        ((List.suffix_cons _ _).trans valued).trans ((List.suffix_cons _ _).trans keyed)
      exact inside.trans ⟨[.name "map",.sign '<'],rfl⟩
    · cases read
  · cases read
    exact List.suffix_cons _ _
  · obtain ⟨⟨name,further⟩,found,same⟩ := Option.map_eq_some_iff.mp read
    cases same
    exact typeName?_suffix _ _ _ found

theorem field?_named (h : Head) (f : FieldDecl) (named : h.IsNamed) (read : field? h = some f) :
    IsIdentifier f.name := by
  unfold field? at read
  simp only at read
  obtain ⟨⟨type,rest⟩,typed,read⟩ := Option.bind_eq_some_iff.mp read
  have kept : rest <:+ h.words := (fieldType?_suffix _ _ _ typed).trans (label?_suffix h.words)
  simp only at read
  split at read
  · rename_i name number behind
    obtain ⟨options,_,same⟩ := Option.bind_eq_some_iff.mp read
    cases same
    exact named (.name name) (kept.mem (by simp))
  · cases read

theorem value?_named (h : Head) (v : ValueDecl) (named : h.IsNamed) (read : value? h = some v) :
    IsIdentifier v.name := by
  unfold value? at read
  split at read
  · rename_i name rest words
    obtain ⟨_,_,read⟩ := Option.bind_eq_some_iff.mp read
    obtain ⟨_,_,same⟩ := Option.bind_eq_some_iff.mp read
    cases same
    exact named (.name name) (by simp [words])
  · cases read

structure EnumDecl.IsNamed (e : EnumDecl) : Prop where
  name : IsIdentifier e.name
  values : ∀ v ∈ e.values, IsIdentifier v.name

theorem EnumDecl.add_named (e : EnumDecl) (s : Statement) (next : EnumDecl) (named : e.IsNamed)
    (words : s.IsNamed) (read : e.add s = some next) : next.IsNamed := by
  cases words with
  | block => cases read
  | line words =>
    unfold EnumDecl.add at read
    simp only at read
    split at read
    · cases read
      exact named
    · obtain ⟨_,_,rfl⟩ := Option.map_eq_some_iff.mp read
      exact ⟨named.name,named.values⟩
    · obtain ⟨_,_,rfl⟩ := Option.map_eq_some_iff.mp read
      exact ⟨named.name,named.values⟩
    · obtain ⟨v,found,rfl⟩ := Option.map_eq_some_iff.mp read
      exact ⟨named.name,List.forall_mem_append.mpr
        ⟨named.values,List.forall_mem_singleton.mpr (value?_named _ v words found)⟩⟩

theorem enumeration?_named (name comment : String) (body : List Statement) (e : EnumDecl)
    (identifier : IsIdentifier name) (words : ∀ s ∈ body, s.IsNamed)
    (read : enumeration? name comment body = some e) : e.IsNamed :=
  foldlM_kept EnumDecl.IsNamed Statement.IsNamed EnumDecl.add EnumDecl.add_named body words _ e
    ⟨identifier,by simp⟩ read

/-- Whatever a declaration declares inside it is called by an identifier too. -/
inductive Declaration.IsNamed : Declaration → Prop
  | option (o : OptionUse) : IsNamed (.option o)
  | field {f : FieldDecl} : IsIdentifier f.name → IsNamed (.field f)
  | group {f : FieldDecl} {body : List Declaration} :
    IsIdentifier f.name → (∀ d ∈ body, IsNamed d) → IsNamed (.group f body)
  | oneof (name : String) {body : List Declaration} : (∀ d ∈ body, IsNamed d) → IsNamed (.oneof name body)
  | message {name : String} (comment : String) {body : List Declaration} :
    IsIdentifier name → (∀ d ∈ body, IsNamed d) → IsNamed (.message name comment body)
  | enumeration {e : EnumDecl} : e.IsNamed → IsNamed (.enumeration e)
  | extend (target : String) {body : List Declaration} :
    (∀ d ∈ body, IsNamed d) → IsNamed (.extend target body)
  | reserved (ranges : List Range) (names : List String) : IsNamed (.reserved ranges names)
  | extensions (ranges : List Range) (options : List OptionUse) : IsNamed (.extensions ranges options)
  | service (name : String) (methods : List MethodDecl) (options : List OptionUse) :
    IsNamed (.service name methods options)

theorem lineDeclarations?_named (place : Place) (h : Head) (ds : List Declaration) (named : h.IsNamed)
    (read : lineDeclarations? place h = some ds) : ∀ d ∈ ds, d.IsNamed := by
  have single (d : Declaration) (own : d.IsNamed) : ∀ e ∈ [d], e.IsNamed := List.forall_mem_singleton.mpr own
  have fielded (found : (field? h).map ([Declaration.field ·]) = some ds) : ∀ d ∈ ds, d.IsNamed := by
    obtain ⟨f,parsed,rfl⟩ := Option.map_eq_some_iff.mp found
    exact single _ (.field (field?_named h f named parsed))
  unfold lineDeclarations? at read
  split at read
  · cases read
    simp
  · exact fielded read
  · obtain ⟨o,_,rfl⟩ := Option.map_eq_some_iff.mp read
    exact single _ (.option o)
  · cases read
  · exact fielded read
  · obtain ⟨_,_,rfl⟩ := Option.map_eq_some_iff.mp read
    exact single _ (.reserved _ _)
  · obtain ⟨d,found,rfl⟩ := Option.map_eq_some_iff.mp read
    unfold extensions? at found
    obtain ⟨ranges,_,found⟩ := Option.bind_eq_some_iff.mp found
    obtain ⟨options,_,same⟩ := Option.bind_eq_some_iff.mp found
    cases same
    exact single _ (.extensions _ _)
  · split at read
    · cases read
    · exact fielded read
  · exact fielded read

theorem service?_named (name : String) (body : List Statement) (d : Declaration)
    (read : service? name body = some d) : d.IsNamed := by
  unfold service? at read
  obtain ⟨parts,_,same⟩ := Option.bind_eq_some_iff.mp read
  cases same
  exact .service _ _ _

mutual
theorem declarations?_named (place : Place) (s : Statement) (ds : List Declaration) (named : s.IsNamed)
    (read : declarations? place s = some ds) : ∀ d ∈ ds, d.IsNamed := by
  cases s with
  | line h =>
    unfold declarations? at read
    obtain ⟨found,line,read⟩ := Option.bind_eq_some_iff.mp read
    split at read <;> cases read
    cases named with
    | line words => exact lineDeclarations?_named place h ds words line
  | block h body =>
    cases named with
    | block words inner =>
      have single (d : Declaration) (own : d.IsNamed) : ∀ e ∈ [d], e.IsNamed := List.forall_mem_singleton.mpr own
      have called (word name : String) (shape : h.words = [.name word,.name name]) : IsIdentifier name :=
        words (.name name) (by simp [shape])
      -- Messages, enumerations and extensions are read alike in a file and in a message.
      have messages (name : String) (identifier : IsIdentifier name)
          (read : (allDeclarations? .message body).map
            (fun body => [Declaration.message name h.comment body]) = some ds) : ∀ d ∈ ds, d.IsNamed := by
        obtain ⟨inside,found,rfl⟩ := Option.map_eq_some_iff.mp read
        exact single _ (.message _ identifier (allDeclarations?_named .message body inside inner found))
      have enumerations (name : String) (identifier : IsIdentifier name)
          (read : (enumeration? name h.comment body).map ([Declaration.enumeration ·]) = some ds) :
          ∀ d ∈ ds, d.IsNamed := by
        obtain ⟨e,found,rfl⟩ := Option.map_eq_some_iff.mp read
        exact single _ (.enumeration (enumeration?_named name h.comment body e identifier inner found))
      have extensions (target : String)
          (read : (allDeclarations? .extend body).map
            (fun body => [Declaration.extend target body]) = some ds) : ∀ d ∈ ds, d.IsNamed := by
        obtain ⟨inside,found,rfl⟩ := Option.map_eq_some_iff.mp read
        exact single _ (.extend _ (allDeclarations?_named .extend body inside inner found))
      unfold declarations? at read
      split at read
      · rename_i name shape
        exact messages name (called _ name shape) read
      · rename_i name shape
        exact messages name (called _ name shape) read
      · rename_i name shape
        exact enumerations name (called _ name shape) read
      · rename_i name shape
        exact enumerations name (called _ name shape) read
      · obtain ⟨inside,found,rfl⟩ := Option.map_eq_some_iff.mp read
        exact single _ (.oneof _ (allDeclarations?_named .oneof body inside inner found))
      · obtain ⟨d,found,rfl⟩ := Option.map_eq_some_iff.mp read
        exact single _ (service?_named _ _ _ found)
      · split at read
        · exact extensions _ read
        · cases read
      · split at read
        · exact extensions _ read
        · cases read
      · cases read
      · split at read
        · rename_i f parsed
          split at read
          · obtain ⟨inside,found,rfl⟩ := Option.map_eq_some_iff.mp read
            exact single _ (.group (field?_named h f words parsed)
              (allDeclarations?_named .message body inside inner found))
          · cases read
        · cases read

theorem allDeclarations?_named (place : Place) (body : List Statement) (ds : List Declaration)
    (named : ∀ s ∈ body, s.IsNamed) (read : allDeclarations? place body = some ds) : ∀ d ∈ ds, d.IsNamed := by
  cases body with
  | nil =>
    cases read
    simp
  | cons s rest =>
    unfold allDeclarations? at read
    obtain ⟨first,own,read⟩ := Option.bind_eq_some_iff.mp read
    obtain ⟨more,further,same⟩ := Option.bind_eq_some_iff.mp read
    cases same
    obtain ⟨here,later⟩ := List.forall_mem_cons.mp named
    exact List.forall_mem_append.mpr
      ⟨declarations?_named place s first here own,allDeclarations?_named place rest more later further⟩
end

end Proto.Source
end ReferenceSite
