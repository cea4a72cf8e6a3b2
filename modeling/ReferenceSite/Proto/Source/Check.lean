import ReferenceSite.Proto.Source.Symbol

/-! The rules that message definitions have to keep beyond their form: which numbers and names may be
used, which labels a field needs, and which options and default values there are. A check answers
the first rule that is broken. -/
namespace ReferenceSite.Proto.Source

abbrev Checked := Except String Unit

def require (holds : Bool) (reason : String) : Checked := if holds then .ok () else .error reason

inductive OptionKind where
  | flag
  | text
  | oneOf (words : List String)
deriving DecidableEq

def OptionKind.accepts : OptionKind → OptionValue → Bool
  | flag,.word s => s = "true" || s = "false"
  | text,.text _ => true
  | oneOf words,.word s => words.contains s
  | _,_ => false

/-- What options can be set on: the message that holds them, and those that it has by itself. -/
structure OptionSet where
  holder : String
  known : List (String × OptionKind)

namespace OptionSet

def file : OptionSet := ⟨"google.protobuf.FileOptions",[("java_package",.text),
  ("java_outer_classname",.text),("java_multiple_files",.flag),
  ("java_generate_equals_and_hash",.flag),("java_string_check_utf8",.flag),
  ("optimize_for",.oneOf ["SPEED","CODE_SIZE","LITE_RUNTIME"]),("go_package",.text),
  ("cc_generic_services",.flag),("java_generic_services",.flag),("py_generic_services",.flag),
  ("php_generic_services",.flag),("deprecated",.flag),("cc_enable_arenas",.flag),
  ("objc_class_prefix",.text),("csharp_namespace",.text),("swift_prefix",.text),
  ("php_class_prefix",.text),("php_namespace",.text),("php_metadata_namespace",.text),
  ("ruby_package",.text)]⟩

def message : OptionSet := ⟨"google.protobuf.MessageOptions",[("message_set_wire_format",.flag),
  ("no_standard_descriptor_accessor",.flag),("deprecated",.flag),
  ("deprecated_legacy_json_field_conflicts",.flag)]⟩

def field : OptionSet := ⟨"google.protobuf.FieldOptions",[
  ("ctype",.oneOf ["STRING","CORD","STRING_PIECE"]),("packed",.flag),
  ("jstype",.oneOf ["JS_NORMAL","JS_STRING","JS_NUMBER"]),("lazy",.flag),
  ("unverified_lazy",.flag),("deprecated",.flag),("weak",.flag),("debug_redact",.flag),
  ("retention",.oneOf ["RETENTION_UNKNOWN","RETENTION_RUNTIME","RETENTION_SOURCE"]),
  ("json_name",.text)]⟩

def oneof : OptionSet := ⟨"google.protobuf.OneofOptions",[]⟩

def enumeration : OptionSet := ⟨"google.protobuf.EnumOptions",[("allow_alias",.flag),
  ("deprecated",.flag),("deprecated_legacy_json_field_conflicts",.flag)]⟩

def value : OptionSet := ⟨"google.protobuf.EnumValueOptions",[("deprecated",.flag),
  ("debug_redact",.flag)]⟩

def extensions : OptionSet := ⟨"google.protobuf.ExtensionRangeOptions",[]⟩

def service : OptionSet := ⟨"google.protobuf.ServiceOptions",[("deprecated",.flag)]⟩

def method : OptionSet := ⟨"google.protobuf.MethodOptions",[("deprecated",.flag),
  ("idempotency_level",.oneOf ["IDEMPOTENCY_UNKNOWN","NO_SIDE_EFFECTS","IDEMPOTENT"])]⟩

def all : List OptionSet :=
  [file,message,field,oneof,enumeration,value,extensions,service,method]

/-- Options that are extensions have to extend the right message. -/
def check (s : OptionSet) (symbols : Symbols) (scope : String) (uses : List OptionUse) : Checked := do
  for o in uses do
    match o.name with
    | ⟨true,name⟩ :: _ =>
      require (symbols.extended? scope name == some s.holder) "unknown option"
    | [⟨false,name⟩] =>
      match s.known.find? (·.1 = name) with
      | some (_,kind) => require (kind.accepts o.value) "bad option value"
      | none => throw "unknown option"
    | _ => throw "unknown option"
  let own := uses.filterMap fun o => match o.name with
    | [⟨false,name⟩] => some name
    | _ => none
  require (decide own.Nodup) "option set twice"

end OptionSet

def isFieldNumber (n : Int) : Bool :=
  1 ≤ n && n ≤ maxFieldNumber && ! (19000 ≤ n && n ≤ 19999)

def Range.contains (r : Range) (n : Int) : Bool := r.first ≤ n && n ≤ r.last

def areApart : List Range → Bool
  | [] => true
  | r :: rest =>
    r.first ≤ r.last && rest.all (fun o => o.last < r.first || r.last < o.first) && areApart rest

def mapKeys : List String :=
  ["int32","int64","uint32","uint64","sint32","sint64","fixed32","fixed64","sfixed32",
    "sfixed64","bool","string"]

def setting? (name : String) (uses : List OptionUse) : Option OptionValue :=
  (uses.find? fun o => o.name = [⟨false,name⟩]).map (·.value)

def integerRange? : String → Option (Int × Int)
  | "int32" | "sint32" | "sfixed32" => some (-0x80000000,0x7FFFFFFF)
  | "int64" | "sint64" | "sfixed64" => some (-0x8000000000000000,0x7FFFFFFFFFFFFFFF)
  | "uint32" | "fixed32" => some (0,0xFFFFFFFF)
  | "uint64" | "fixed64" => some (0,0xFFFFFFFFFFFFFFFF)
  | _ => none

def scalarAccepts (scalar : String) (v : OptionValue) : Bool :=
  match integerRange? scalar,v with
  | some (low,high),.integer n => low ≤ n && n ≤ high
  | some _,_ => false
  | none,.text _ => scalar = "string" || scalar = "bytes"
  | none,.word w =>
    if scalar = "bool" then w = "true" || w = "false"
    else (scalar = "float" || scalar = "double") && (w = "inf" || w = "nan")
  | none,.integer _ | none,.decimal => scalar = "float" || scalar = "double"
  | none,.aggregate => false

abbrev EnumValues := List (String × List String)

structure Surroundings where
  isThird : Bool
  symbols : Symbols
  values : EnumValues

/-- A default value fits the type of its field, which is a single one. -/
def checkDefault (c : Surroundings) (scope : String) (f : FieldDecl) (v : OptionValue) : Checked := do
  require (! c.isThird) "default value not allowed"
  require (f.label ≠ some .repeated) "default value not allowed"
  match f.type with
  | .single name =>
    if scalarNames.contains name then require (scalarAccepts name v) "bad default value"
    else
      match c.symbols.type? scope name,v with
      | some ⟨q,.enumeration,_⟩,.word w =>
        require (((c.values.find? (·.1 = q)).map (·.2.contains w)).getD false) "bad default value"
      | _,_ => throw "bad default value"
  | _ => throw "default value not allowed"

def checkField (c : Surroundings) (scope : String) (inChoice : Bool) (f : FieldDecl) : Checked := do
  require (isFieldNumber f.number) "bad field number"
  match f.type with
  | .map key value =>
    require (f.label = none && ! inChoice) "map field with a label"
    require (mapKeys.contains key) "bad map key"
    require (scalarNames.contains value || (c.symbols.type? scope value).isSome) "unknown type"
  | .group =>
    require (! c.isThird) "group not allowed"
    require (f.name.toList.head?.any Char.isUpper) "bad group name"
    require (if inChoice then f.label = none else f.label.isSome) "bad label"
  | .single name =>
    require (scalarNames.contains name || (c.symbols.type? scope name).isSome) "unknown type"
    if inChoice then require (f.label = none) "bad label"
    else if c.isThird then require (f.label ≠ some .required) "required field"
    else require f.label.isSome "missing label"
  let others := f.options.filter fun o => o.name ≠ [⟨false,"default"⟩]
  OptionSet.field.check c.symbols scope others
  match f.options.filter (fun o => o.name = [⟨false,"default"⟩]) with
  | [] => pure ()
  | [o] => checkDefault c scope f o.value
  | _ => throw "option set twice"

def looseName (name : String) : String := (name.map Char.toLower).replace "_" ""

def checkMessage (c : Surroundings) (m : MessageDecl) : Checked := do
  let fields := Declaration.fieldsOf m.body
  for (f,choice) in fields do checkField c m.qualifiedName choice.isSome f
  require (decide (fields.map (·.1.number)).Nodup) "duplicate number"
  let reserved := m.body.flatMap fun d => match d with
    | .reserved ranges _ => ranges
    | _ => []
  let reservedNames := m.body.flatMap fun d => match d with
    | .reserved _ names => names
    | _ => []
  let extensions := m.body.flatMap fun d => match d with
    | .extensions ranges _ => ranges
    | _ => []
  require (areApart (reserved ++ extensions)) "overlapping ranges"
  require ((reserved ++ extensions).all fun r => 1 ≤ r.first && r.last ≤ maxFieldNumber) "bad range"
  require (extensions.isEmpty || ! c.isThird) "extensions not allowed"
  for (f,_) in fields do
    require (! (reserved ++ extensions).any (·.contains f.number)) "reserved number"
    require (! reservedNames.contains f.name) "reserved name"
  require (decide reservedNames.Nodup) "name reserved twice"
  if c.isThird then require (decide (fields.map fun (f,_) => looseName f.name).Nodup) "similar names"
  let jsonNames := fields.filterMap fun (f,_) => setting? "json_name" f.options
  require (decide jsonNames.Nodup) "duplicate name"
  OptionSet.message.check c.symbols m.qualifiedName (m.body.filterMap fun d => match d with
    | .option o => some o
    | _ => none)
  for d in m.body do
    match d with
    | .oneof _ inner =>
      require (inner.any fun d => d.field?.isSome) "empty choice"
      OptionSet.oneof.check c.symbols m.qualifiedName (inner.filterMap fun d => match d with
        | .option o => some o
        | _ => none)
    | .extensions _ options => OptionSet.extensions.check c.symbols m.qualifiedName options
    | _ => pure ()

/-- An enumeration has values, and in the third version the first of them is zero. -/
def checkEnum (c : Surroundings) (scope : String) (e : EnumDecl) : Checked := do
  match e.values with
  | [] => throw "empty enumeration"
  | first :: _ => require (! c.isThird || first.number = 0) "first value is not zero"
  for v in e.values do
    require (-0x80000000 ≤ v.number && v.number ≤ maxEnumNumber) "bad enumeration number"
    require (! e.reserved.any (·.contains v.number)) "reserved number"
    require (! e.reservedNames.contains v.name) "reserved name"
    OptionSet.value.check c.symbols scope v.options
  require (areApart e.reserved) "overlapping ranges"
  OptionSet.enumeration.check c.symbols scope e.options
  if setting? "allow_alias" e.options ≠ some (.word "true") then
    require (decide (e.values.map (·.number)).Nodup) "duplicate number"

/-- An extension has a number that the extended message leaves to extensions. -/
def checkExtension (c : Surroundings) (left : List (String × List Range)) (scope target : String)
    (f : FieldDecl) : Checked := do
  match c.symbols.message? scope target with
  | none => throw "unknown type"
  | some x =>
    let ranges := ((left.find? (·.1 = x.name)).map (·.2)).getD []
    require (ranges.any (·.contains f.number)) "number not open to extensions"
    require (! c.isThird || OptionSet.all.any (·.holder = x.name)) "extension not allowed"
  require (match f.type with | .map .. => false | _ => true) "map extension"
  require (f.label ≠ some .required) "required extension"
  checkField c scope false f

def SourceFile.check (f : SourceFile) (symbols : Symbols) (values : EnumValues)
    (left : List (String × List Range)) : Checked := do
  let c : Surroundings := ⟨f.isThird,symbols,values⟩
  require (decide (f.imports.map (·.name)).Nodup) "imported twice"
  OptionSet.file.check symbols f.package f.options
  for m in f.messages do checkMessage c m
  for (scope,e) in f.enumerations do checkEnum c scope e
  for (scope,d) in f.located do
    match d with
    | .extend target body =>
      for field in body.filterMap Declaration.field? do checkExtension c left scope target field
    | .service name methods options =>
      OptionSet.service.check symbols (qualify scope name) options
      for m in methods do
        require (symbols.message? (qualify scope name) m.input).isSome "unknown type"
        require (symbols.message? (qualify scope name) m.output).isSome "unknown type"
        OptionSet.method.check symbols (qualify scope name) m.options
    | _ => pure ()

def SourceFile.openRanges (f : SourceFile) : List (String × List Range) :=
  f.messages.map fun m => (m.qualifiedName,m.body.flatMap fun d => match d with
    | .extensions ranges _ => ranges
    | _ => [])

def SourceFile.enumValues (f : SourceFile) : EnumValues :=
  f.enumerations.map fun (scope,e) => (qualify scope e.name,e.values.map (·.name))

end ReferenceSite.Proto.Source
