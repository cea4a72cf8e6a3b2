import ReferenceSite.Proofs.Proto.WalkAgreement
import ReferenceSite.Reference

/-! References and types that have nothing to do with them. Types can be added to a schema without a
change to the reference of a type that does not lead to them, whatever local and full names they have,
and the order of additions is not seen. Leading dots of a start are dropped before it is looked up. -/
namespace ReferenceSite
open Schema

namespace Reference

theorem ofType_eq {s s' : Schema} {start : String}
    (same : s'.collect start 0 .none = s.collect start 0 .none) : ofType s' start = ofType s start := by
  rw [ofType,ofType,walk,walk,same]

/-- Types with new names that nothing refers to leave a reference as it is, and types with distinct
names can be added in any order. -/
theorem ofType_further (s : Schema) (start : String) (root : TypeDef)
    (known : s.get? (.ofList (start.toList.dropWhile (· = '.'))) = some root) (further : List TypeDef)
    (new : ∀ d ∈ further, s.get? d.qualifiedName = none)
    (unrelated : ∀ e, s.Reaches root e → ∀ target ∈ e.targets, ∀ d ∈ further,
      target.qualifiedName ≠ d.qualifiedName) :
    ofType (further.foldl insert s) start = ofType s start ∧
    ∀ (base : Schema) (types types' : List TypeDef), types.Perm types' →
      (types.map (·.qualifiedName)).Nodup →
      (∀ q, (types'.foldl insert base).get? q = (types.foldl insert base).get? q) ∧
      (∀ name, (types'.foldl insert base).resolve name = (types.foldl insert base).resolve name) ∧
      ∀ other depth v,
        walk (types'.foldl insert base) other depth v = walk (types.foldl insert base) other depth v := by
  constructor
  · have apart : ∀ d ∈ further, d.qualifiedName ≠ String.ofList (start.toList.dropWhile (· = '.')) := by
      intro d member same
      have absent := new d member
      rw [same,known] at absent
      cases absent
    have resolved : s.resolve start = .ok root := by simp only [resolve,known]
    have resolved' : (further.foldl insert s).resolve start = .ok root := by
      simp only [resolve,get?_insertAll s further _ apart,known]
    apply ofType_eq
    apply collect_agrees start 0 .none root resolved resolved'
    intro e reaches target field
    apply get?_insertAll
    intro d member same
    exact unrelated e reaches target field d member same.symm
  · intro base types types' perm distinct
    have alike := insertAll_perm base types types' perm distinct
    refine ⟨get?_perm alike,resolve_perm alike,?_⟩
    intro other depth v
    rw [walk,walk,collect_perm alike]

end Reference

/-! A type with one field, beside types that share its names and that of its field. -/

def packaged (package path : String) (fields : List Field) : TypeDef :=
  .new (package ++ "." ++ path) package (package ++ ".proto") "" (.message fields)

def ringHolder : TypeDef := packaged "r" "Root" [.ofType "a" "" (packaged "a" "Config" [])]

def ringSchema : Schema := .ofList [ringHolder,packaged "a" "Config" []]

def namesakes : List TypeDef :=
  [packaged "b" "Config" [.ofType "r" "" ringHolder],packaged "c" "Root" [],packaged "d" "Root.Config" []]

theorem ringSchema_reference :
    ringSchema.get? "r.Root" = some ringHolder ∧
    (∀ d ∈ namesakes, ringSchema.get? d.qualifiedName = none) ∧
    (∀ e, ringSchema.Reaches ringHolder e → ∀ target ∈ e.targets, ∀ d ∈ namesakes,
      target.qualifiedName ≠ d.qualifiedName) ∧
    Reference.ofType (namesakes.foldl insert ringSchema) ".r.Root" = Reference.ofType ringSchema ".r.Root" := by
  have known : ringSchema.get? (.ofList (".r.Root".toList.dropWhile (· = '.'))) = some ringHolder := by
    decide
  have new : ∀ d ∈ namesakes, ringSchema.get? d.qualifiedName = none := by decide
  have stored : ∀ e ∈ ringSchema.types, ∀ target ∈ e.targets, ∀ d ∈ namesakes,
      target.qualifiedName ≠ d.qualifiedName := by decide
  have unrelated : ∀ e, ringSchema.Reaches ringHolder e → ∀ target ∈ e.targets, ∀ d ∈ namesakes,
      target.qualifiedName ≠ d.qualifiedName := by
    intro e reaches
    exact stored e (reaches_mem ringSchema ringHolder e (by decide) reaches)
  exact ⟨by decide,new,unrelated,
    (Reference.ofType_further ringSchema ".r.Root" ringHolder known namesakes new unrelated).1⟩

/-- A name that begins with a dot is stored, but its dot is dropped where the name is looked up: a type
without the dot is found in its place once it is there. -/
def dotted : TypeDef := .new ".A" "" "a.proto" "" (.message [])

def undotted : TypeDef := .new "A" "" "a.proto" "" (.message [])

def undottedText : String :=
  "# \x7b#A\x7d A\n\nDefined in [a.proto](/a.proto)\n\n#### Fields:\nField | Type | Description\n----- | ---- | -----------\n\n"

theorem dotted_displaced :
    (ofList [dotted]).get? ".A" = some dotted ∧ (ofList [dotted]).get? undotted.qualifiedName = none ∧
    (∀ e, (ofList [dotted]).Reaches dotted e → ∀ target ∈ e.targets,
      target.qualifiedName ≠ undotted.qualifiedName) ∧
    Reference.ofType (ofList [dotted]) ".A" = .error (.unknownType "A") ∧
    Reference.ofType ((ofList [dotted]).insert undotted) ".A" = .ok undottedText := by
  have stored : ∀ e ∈ (ofList [dotted]).types, ∀ target ∈ e.targets,
      target.qualifiedName ≠ undotted.qualifiedName := by decide
  have refused : (ofList [dotted]).resolve ".A" = .error (.unknownType "A") := by with_unfolding_all rfl
  have resolved : ((ofList [dotted]).insert undotted).resolve ".A" = .ok undotted := by with_unfolding_all rfl
  have course : ((ofList [dotted]).insert undotted).visitAll .none
      [(⟨undotted,mem_of_resolve resolved⟩,0)] = (⟨[("A","A")],[]⟩,.ok [⟨undotted,0⟩]) := by
    apply walked_visitAll
    apply Walked.emit
    · rfl
    · rfl
    · exact .nil _
  refine ⟨by decide,by decide,fun e reaches => ?_,?_,?_⟩
  · exact stored e (reaches_mem _ dotted e (by decide) reaches)
  · rw [Reference.ofType,Reference.walk,collect_unresolved _ ".A" 0 .none _ refused]
    rfl
  · rw [Reference.ofType,Reference.walk,collect_resolved _ ".A" 0 .none undotted resolved,course]
    have text : Reference.types [⟨undotted,0⟩] = undottedText := by decide +kernel
    exact congrArg Except.ok text

end ReferenceSite
