import ReferenceSite.Proto.Standard.Layout

/-! The files with the description of definitions themselves and with what compilers exchange with
their extensions. They carry no comments here. -/
namespace ReferenceSite.Proto.Standard

def uninterpreted : String := "repeated UninterpretedOption uninterpreted_option = 999"

def options (name : String) (fields : List String) (inner : List (List String)) :
    List String :=
  message name (fields ++ [uninterpreted,"extensions 1000 to max"]) inner

def descriptor : String × List Char := file "descriptor" "proto2" "google.protobuf" [] [
  message "FileDescriptorSet" ["repeated FileDescriptorProto file = 1"] [],
  message "FileDescriptorProto" ["optional string name = 1","optional string package = 2",
    "repeated string dependency = 3","repeated int32 public_dependency = 10",
    "repeated int32 weak_dependency = 11","repeated DescriptorProto message_type = 4",
    "repeated EnumDescriptorProto enum_type = 5","repeated ServiceDescriptorProto service = 6",
    "repeated FieldDescriptorProto extension = 7","optional FileOptions options = 8",
    "optional SourceCodeInfo source_code_info = 9","optional string syntax = 12"] [],
  message "DescriptorProto" ["optional string name = 1","repeated FieldDescriptorProto field = 2",
    "repeated FieldDescriptorProto extension = 6","repeated DescriptorProto nested_type = 3",
    "repeated EnumDescriptorProto enum_type = 4","repeated ExtensionRange extension_range = 5",
    "repeated OneofDescriptorProto oneof_decl = 8","optional MessageOptions options = 7",
    "repeated ReservedRange reserved_range = 9","repeated string reserved_name = 10"] [
    message "ExtensionRange" ["optional int32 start = 1","optional int32 end = 2",
      "optional ExtensionRangeOptions options = 3"] [],
    message "ReservedRange" ["optional int32 start = 1","optional int32 end = 2"] []],
  options "ExtensionRangeOptions" [] [],
  message "FieldDescriptorProto" ["optional string name = 1","optional int32 number = 3",
    "optional Label label = 4","optional Type type = 5","optional string type_name = 6",
    "optional string extendee = 2","optional string default_value = 7",
    "optional int32 oneof_index = 9","optional string json_name = 10",
    "optional FieldOptions options = 8","optional bool proto3_optional = 17"] [
    enumeration "Type" 1 ["TYPE_DOUBLE","TYPE_FLOAT","TYPE_INT64","TYPE_UINT64","TYPE_INT32",
      "TYPE_FIXED64","TYPE_FIXED32","TYPE_BOOL","TYPE_STRING","TYPE_GROUP","TYPE_MESSAGE",
      "TYPE_BYTES","TYPE_UINT32","TYPE_ENUM","TYPE_SFIXED32","TYPE_SFIXED64","TYPE_SINT32",
      "TYPE_SINT64"],
    enumeration "Label" 1 ["LABEL_OPTIONAL","LABEL_REQUIRED","LABEL_REPEATED"]],
  message "OneofDescriptorProto" ["optional string name = 1","optional OneofOptions options = 2"] [],
  message "EnumDescriptorProto" ["optional string name = 1",
    "repeated EnumValueDescriptorProto value = 2","optional EnumOptions options = 3",
    "repeated EnumReservedRange reserved_range = 4","repeated string reserved_name = 5"] [
    message "EnumReservedRange" ["optional int32 start = 1","optional int32 end = 2"] []],
  message "EnumValueDescriptorProto" ["optional string name = 1","optional int32 number = 2",
    "optional EnumValueOptions options = 3"] [],
  message "ServiceDescriptorProto" ["optional string name = 1",
    "repeated MethodDescriptorProto method = 2","optional ServiceOptions options = 3"] [],
  message "MethodDescriptorProto" ["optional string name = 1","optional string input_type = 2",
    "optional string output_type = 3","optional MethodOptions options = 4",
    "optional bool client_streaming = 5","optional bool server_streaming = 6"] [],
  options "FileOptions" ["optional string java_package = 1",
    "optional string java_outer_classname = 8","optional bool java_multiple_files = 10",
    "optional bool java_generate_equals_and_hash = 20","optional bool java_string_check_utf8 = 27",
    "optional OptimizeMode optimize_for = 9","optional string go_package = 11",
    "optional bool cc_generic_services = 16","optional bool java_generic_services = 17",
    "optional bool py_generic_services = 18","optional bool php_generic_services = 42",
    "optional bool deprecated = 23","optional bool cc_enable_arenas = 31",
    "optional string objc_class_prefix = 36","optional string csharp_namespace = 37",
    "optional string swift_prefix = 39","optional string php_class_prefix = 40",
    "optional string php_namespace = 41","optional string php_metadata_namespace = 44",
    "optional string ruby_package = 45"] [
    enumeration "OptimizeMode" 1 ["SPEED","CODE_SIZE","LITE_RUNTIME"]],
  options "MessageOptions" ["optional bool message_set_wire_format = 1",
    "optional bool no_standard_descriptor_accessor = 2","optional bool deprecated = 3",
    "optional bool map_entry = 7"] [],
  options "FieldOptions" ["optional CType ctype = 1","optional bool packed = 2",
    "optional JSType jstype = 6","optional bool lazy = 5","optional bool unverified_lazy = 15",
    "optional bool deprecated = 3","optional bool weak = 10"] [
    enumeration "CType" 0 ["STRING","CORD","STRING_PIECE"],
    enumeration "JSType" 0 ["JS_NORMAL","JS_STRING","JS_NUMBER"]],
  options "OneofOptions" [] [],
  options "EnumOptions" ["optional bool allow_alias = 2","optional bool deprecated = 3"] [],
  options "EnumValueOptions" ["optional bool deprecated = 1"] [],
  options "ServiceOptions" ["optional bool deprecated = 33"] [],
  options "MethodOptions" ["optional bool deprecated = 33",
    "optional IdempotencyLevel idempotency_level = 34"] [
    enumeration "IdempotencyLevel" 0 ["IDEMPOTENCY_UNKNOWN","NO_SIDE_EFFECTS","IDEMPOTENT"]],
  message "UninterpretedOption" ["repeated NamePart name = 2","optional string identifier_value = 3",
    "optional uint64 positive_int_value = 4","optional int64 negative_int_value = 5",
    "optional double double_value = 6","optional bytes string_value = 7",
    "optional string aggregate_value = 8"] [
    message "NamePart" ["required string name_part = 1","required bool is_extension = 2"] []],
  message "SourceCodeInfo" ["repeated Location location = 1"] [
    message "Location" ["repeated int32 path = 1","repeated int32 span = 2",
      "optional string leading_comments = 3","optional string trailing_comments = 4",
      "repeated string leading_detached_comments = 6"] []],
  message "GeneratedCodeInfo" ["repeated Annotation annotation = 1"] [
    message "Annotation" ["repeated int32 path = 1","optional string source_file = 2",
      "optional int32 begin = 3","optional int32 end = 4"] []]]

def plugin : String × List Char := file "compiler/plugin" "proto2" "google.protobuf.compiler" ["descriptor"] [
  message "Version" ["optional int32 major = 1","optional int32 minor = 2",
    "optional int32 patch = 3","optional string suffix = 4"] [],
  message "CodeGeneratorRequest" ["repeated string file_to_generate = 1",
    "optional string parameter = 2","repeated FileDescriptorProto proto_file = 15",
    "optional Version compiler_version = 3"] [],
  message "CodeGeneratorResponse" ["optional string error = 1",
    "optional uint64 supported_features = 2","repeated File file = 15"] [
    enumeration "Feature" 0 ["FEATURE_NONE","FEATURE_PROTO3_OPTIONAL"],
    message "File" ["optional string name = 1","optional string insertion_point = 2",
      "optional string content = 15","optional GeneratedCodeInfo generated_code_info = 16"] []]]

end ReferenceSite.Proto.Standard
