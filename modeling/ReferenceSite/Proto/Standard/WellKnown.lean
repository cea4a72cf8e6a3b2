import ReferenceSite.Proto.Standard.Layout

/-! The files with the well-known types. Comments with addresses of web pages are left out. -/
namespace ReferenceSite.Proto.Standard

def any : String × List Char := file "any" "proto3" "google.protobuf" [] [
  block "message Any" ["string type_url = 1;",
    "// Must be a valid serialized protocol buffer of the above specified type.","bytes value = 2;"]]

def api : String × List Char := file "api" "proto3" "google.protobuf" ["source_context","type"] [
  block "message Api" ["// The fully qualified name of this interface, including package name",
    "// followed by the interface's simple name.","string name = 1;",
    "// The methods of this interface, in unspecified order.","repeated Method methods = 2;",
    "// Any metadata attached to the interface.","repeated Option options = 3;",
    "string version = 4;",
    "// Source context for the protocol buffer service represented by this",
    "// message.","SourceContext source_context = 5;",
    "// Included interfaces. See [Mixin][].","repeated Mixin mixins = 6;",
    "// The source syntax of the service.","Syntax syntax = 7;"],
  ["// Method represents a method of an API interface."],
  block "message Method" ["// The simple name of this method.","string name = 1;",
    "// A URL of the input message type.","string request_type_url = 2;",
    "// If true, the request is streamed.","bool request_streaming = 3;",
    "// The URL of the output message type.","string response_type_url = 4;",
    "// If true, the response is streamed.","bool response_streaming = 5;",
    "// Any metadata attached to the method.","repeated Option options = 6;",
    "// The source syntax of this method.","Syntax syntax = 7;"],
  ["// Declares an API Interface to be included in this interface. The including",
    "// interface must redeclare all the methods from the included interface, but",
    "// documentation and options are inherited as follows:",
    "//",
    "// - If after comment and whitespace stripping, the documentation",
    "//   string of the redeclared method is empty, it will be inherited",
    "//   from the original method.",
    "//",
    "// - Each annotation belonging to the service config (http,",
    "//   visibility) which is not set in the redeclared method will be",
    "//   inherited.",
    "//",
    "// - If an http annotation is inherited, the path pattern will be",
    "//   modified as follows. Any version prefix will be replaced by the",
    "//   version of the including interface plus the [root][] path if",
    "//   specified.",
    "//",
    "// Example of a simple mixin:",
    "//",
    "//     package google.acl.v1;",
    "//     service AccessControl \x7b",
    "//       // Get the underlying ACL object.",
    "//       rpc GetAcl(GetAclRequest) returns (Acl) \x7b",
    "//         option (google.api.http).get = \"/v1/\x7bresource=**\x7d:getAcl\";",
    "//       \x7d",
    "//     \x7d",
    "//",
    "//     package google.storage.v2;",
    "//     service Storage \x7b",
    "//       rpc GetAcl(GetAclRequest) returns (Acl);",
    "//",
    "//       // Get a data record.",
    "//       rpc GetData(GetDataRequest) returns (Data) \x7b",
    "//         option (google.api.http).get = \"/v2/\x7bresource=**\x7d\";",
    "//       \x7d",
    "//     \x7d",
    "//",
    "// Example of a mixin configuration:",
    "//",
    "//     apis:",
    "//     - name: google.storage.v2.Storage",
    "//       mixins:",
    "//       - name: google.acl.v1.AccessControl",
    "//",
    "// The mixin construct implies that all methods in `AccessControl` are",
    "// also declared with same name and request/response types in",
    "// `Storage`. A documentation generator or annotation processor will",
    "// see the effective `Storage.GetAcl` method after inheriting",
    "// documentation and annotations as follows:",
    "//",
    "//     service Storage \x7b",
    "//       // Get the underlying ACL object.",
    "//       rpc GetAcl(GetAclRequest) returns (Acl) \x7b",
    "//         option (google.api.http).get = \"/v2/\x7bresource=**\x7d:getAcl\";",
    "//       \x7d",
    "//       ...",
    "//     \x7d",
    "//",
    "// Note how the version in the path pattern changed from `v1` to `v2`.",
    "//",
    "// If the `root` field in the mixin is specified, it should be a",
    "// relative path under which inherited HTTP paths are placed. Example:",
    "//",
    "//     apis:",
    "//     - name: google.storage.v2.Storage",
    "//       mixins:",
    "//       - name: google.acl.v1.AccessControl",
    "//         root: acls",
    "//",
    "// This implies the following inherited HTTP annotation:",
    "//",
    "//     service Storage \x7b",
    "//       // Get the underlying ACL object.",
    "//       rpc GetAcl(GetAclRequest) returns (Acl) \x7b",
    "//         option (google.api.http).get = \"/v2/acls/\x7bresource=**\x7d:getAcl\";",
    "//       \x7d",
    "//       ...",
    "//     \x7d"],
  block "message Mixin" ["// The fully qualified name of the interface which is included.","string name = 1;",
    "// If non-empty specifies a path under which inherited HTTP paths",
    "// are rooted.","string root = 2;"]]

def duration : String × List Char := file "duration" "proto3" "google.protobuf" [] [
  ["// A Duration represents a signed, fixed-length span of time represented",
    "// as a count of seconds and fractions of seconds at nanosecond",
    "// resolution. It is independent of any calendar and concepts like \"day\"",
    "// or \"month\". It is related to Timestamp in that the difference between",
    "// two Timestamp values is a Duration and it can be added or subtracted",
    "// from a Timestamp. Range is approximately +-10,000 years.",
    "//",
    "// # Examples",
    "//",
    "// Example 1: Compute Duration from two Timestamps in pseudo code.",
    "//",
    "//     Timestamp start = ...;",
    "//     Timestamp end = ...;",
    "//     Duration duration = ...;",
    "//",
    "//     duration.seconds = end.seconds - start.seconds;",
    "//     duration.nanos = end.nanos - start.nanos;",
    "//",
    "//     if (duration.seconds < 0 && duration.nanos > 0) \x7b",
    "//       duration.seconds += 1;",
    "//       duration.nanos -= 1000000000;",
    "//     \x7d else if (duration.seconds > 0 && duration.nanos < 0) \x7b",
    "//       duration.seconds -= 1;",
    "//       duration.nanos += 1000000000;",
    "//     \x7d",
    "//",
    "// Example 2: Compute Timestamp from Timestamp + Duration in pseudo code.",
    "//",
    "//     Timestamp start = ...;",
    "//     Duration duration = ...;",
    "//     Timestamp end = ...;",
    "//",
    "//     end.seconds = start.seconds + duration.seconds;",
    "//     end.nanos = start.nanos + duration.nanos;",
    "//",
    "//     if (end.nanos < 0) \x7b",
    "//       end.seconds -= 1;",
    "//       end.nanos += 1000000000;",
    "//     \x7d else if (end.nanos >= 1000000000) \x7b",
    "//       end.seconds += 1;",
    "//       end.nanos -= 1000000000;",
    "//     \x7d",
    "//",
    "// Example 3: Compute Duration from datetime.timedelta in Python.",
    "//",
    "//     td = datetime.timedelta(days=3, minutes=10)",
    "//     duration = Duration()",
    "//     duration.FromTimedelta(td)",
    "//",
    "// # JSON Mapping",
    "//",
    "// In JSON format, the Duration type is encoded as a string rather than an",
    "// object, where the string ends in the suffix \"s\" (indicating seconds) and",
    "// is preceded by the number of seconds, with nanoseconds expressed as",
    "// fractional seconds. For example, 3 seconds with 0 nanoseconds should be",
    "// encoded in JSON format as \"3s\", while 3 seconds and 1 nanosecond should",
    "// be expressed in JSON format as \"3.000000001s\", and 3 seconds and 1",
    "// microsecond should be expressed in JSON format as \"3.000001s\".",
    "//"],
  block "message Duration" ["// Signed seconds of the span of time. Must be from -315,576,000,000",
    "// to +315,576,000,000 inclusive. Note: these bounds are computed from:",
    "// 60 sec/min * 60 min/hr * 24 hr/day * 365.25 days/year * 10000 years","int64 seconds = 1;",
    "// Signed fractions of a second at nanosecond resolution of the span",
    "// of time. Durations less than one second are represented with a 0",
    "// `seconds` field and a positive or negative `nanos` field. For durations",
    "// of one second or more, a non-zero value for the `nanos` field must be",
    "// of the same sign as the `seconds` field. Must be from -999,999,999",
    "// to +999,999,999 inclusive.","int32 nanos = 2;"]]

def empty : String × List Char := file "empty" "proto3" "google.protobuf" [] [
  ["// A generic empty message that you can re-use to avoid defining duplicated",
    "// empty messages in your APIs. A typical example is to use it as the request",
    "// or the response type of an API method. For instance:",
    "//",
    "//     service Foo \x7b",
    "//       rpc Bar(google.protobuf.Empty) returns (google.protobuf.Empty);",
    "//     \x7d",
    "//"],
  block "message Empty" []]

def fieldMask : String × List Char := file "field_mask" "proto3" "google.protobuf" [] [
  ["// `FieldMask` represents a set of symbolic field paths, for example:",
    "//",
    "//     paths: \"f.a\"",
    "//     paths: \"f.b.d\"",
    "//",
    "// Here `f` represents a field in some root message, `a` and `b`",
    "// fields in the message found in `f`, and `d` a field found in the",
    "// message in `f.b`.",
    "//",
    "// Field masks are used to specify a subset of fields that should be",
    "// returned by a get operation or modified by an update operation.",
    "// Field masks also have a custom JSON encoding (see below).",
    "//",
    "// # Field Masks in Projections",
    "//",
    "// When used in the context of a projection, a response message or",
    "// sub-message is filtered by the API to only contain those fields as",
    "// specified in the mask. For example, if the mask in the previous",
    "// example is applied to a response message as follows:",
    "//",
    "//     f \x7b",
    "//       a : 22",
    "//       b \x7b",
    "//         d : 1",
    "//         x : 2",
    "//       \x7d",
    "//       y : 13",
    "//     \x7d",
    "//     z: 8",
    "//",
    "// The result will not contain specific values for fields x,y and z",
    "// (their value will be set to the default, and omitted in proto text",
    "// output):",
    "//",
    "//",
    "//     f \x7b",
    "//       a : 22",
    "//       b \x7b",
    "//         d : 1",
    "//       \x7d",
    "//     \x7d",
    "//",
    "// A repeated field is not allowed except at the last position of a",
    "// paths string.",
    "//",
    "// If a FieldMask object is not present in a get operation, the",
    "// operation applies to all fields (as if a FieldMask of all fields",
    "// had been specified).",
    "//",
    "// Note that a field mask does not necessarily apply to the",
    "// top-level response message. In case of a REST get operation, the",
    "// field mask applies directly to the response, but in case of a REST",
    "// list operation, the mask instead applies to each individual message",
    "// in the returned resource list. In case of a REST custom method,",
    "// other definitions may be used. Where the mask applies will be",
    "// clearly documented together with its declaration in the API.  In",
    "// any case, the effect on the returned resource/resources is required",
    "// behavior for APIs.",
    "//",
    "// # Field Masks in Update Operations",
    "//",
    "// A field mask in update operations specifies which fields of the",
    "// targeted resource are going to be updated. The API is required",
    "// to only change the values of the fields as specified in the mask",
    "// and leave the others untouched. If a resource is passed in to",
    "// describe the updated values, the API ignores the values of all",
    "// fields not covered by the mask.",
    "//",
    "// If a repeated field is specified for an update operation, new values will",
    "// be appended to the existing repeated field in the target resource. Note that",
    "// a repeated field is only allowed in the last position of a `paths` string.",
    "//",
    "// If a sub-message is specified in the last position of the field mask for an",
    "// update operation, then new value will be merged into the existing sub-message",
    "// in the target resource.",
    "//",
    "// For example, given the target message:",
    "//",
    "//     f \x7b",
    "//       b \x7b",
    "//         d: 1",
    "//         x: 2",
    "//       \x7d",
    "//       c: [1]",
    "//     \x7d",
    "//",
    "// And an update message:",
    "//",
    "//     f \x7b",
    "//       b \x7b",
    "//         d: 10",
    "//       \x7d",
    "//       c: [2]",
    "//     \x7d",
    "//",
    "// then if the field mask is:",
    "//",
    "//  paths: [\"f.b\", \"f.c\"]",
    "//",
    "// then the result will be:",
    "//",
    "//     f \x7b",
    "//       b \x7b",
    "//         d: 10",
    "//         x: 2",
    "//       \x7d",
    "//       c: [1, 2]",
    "//     \x7d",
    "//",
    "// An implementation may provide options to override this default behavior for",
    "// repeated and message fields.",
    "//",
    "// In order to reset a field's value to the default, the field must",
    "// be in the mask and set to the default value in the provided resource.",
    "// Hence, in order to reset all fields of a resource, provide a default",
    "// instance of the resource and set all fields in the mask, or do",
    "// not provide a mask as described below.",
    "//",
    "// If a field mask is not present on update, the operation applies to",
    "// all fields (as if a field mask of all fields has been specified).",
    "// Note that in the presence of schema evolution, this may mean that",
    "// fields the client does not know and has therefore not filled into",
    "// the request will be reset to their default. If this is unwanted",
    "// behavior, a specific service may require a client to always specify",
    "// a field mask, producing an error if not.",
    "//",
    "// As with get operations, the location of the resource which",
    "// describes the updated values in the request message depends on the",
    "// operation kind. In any case, the effect of the field mask is",
    "// required to be honored by the API.",
    "//",
    "// ## Considerations for HTTP REST",
    "//",
    "// The HTTP kind of an update operation which uses a field mask must",
    "// be set to PATCH instead of PUT in order to satisfy HTTP semantics",
    "// (PUT must only be used for full updates).",
    "//",
    "// # JSON Encoding of Field Masks",
    "//",
    "// In JSON, a field mask is encoded as a single string where paths are",
    "// separated by a comma. Fields name in each path are converted",
    "// to/from lower-camel naming conventions.",
    "//",
    "// As an example, consider the following message declarations:",
    "//",
    "//     message Profile \x7b",
    "//       User user = 1;",
    "//       Photo photo = 2;",
    "//     \x7d",
    "//     message User \x7b",
    "//       string display_name = 1;",
    "//       string address = 2;",
    "//     \x7d",
    "//",
    "// In proto a field mask for `Profile` may look as such:",
    "//",
    "//     mask \x7b",
    "//       paths: \"user.display_name\"",
    "//       paths: \"photo\"",
    "//     \x7d",
    "//",
    "// In JSON, the same mask is represented as below:",
    "//",
    "//     \x7b",
    "//       mask: \"user.displayName,photo\"",
    "//     \x7d",
    "//",
    "// # Field Masks and Oneof Fields",
    "//",
    "// Field masks treat fields in oneofs just as regular fields. Consider the",
    "// following message:",
    "//",
    "//     message SampleMessage \x7b",
    "//       oneof test_oneof \x7b",
    "//         string name = 4;",
    "//         SubMessage sub_message = 9;",
    "//       \x7d",
    "//     \x7d",
    "//",
    "// The field mask can be:",
    "//",
    "//     mask \x7b",
    "//       paths: \"name\"",
    "//     \x7d",
    "//",
    "// Or:",
    "//",
    "//     mask \x7b",
    "//       paths: \"sub_message\"",
    "//     \x7d",
    "//",
    "// Note that oneof type names (\"test_oneof\" in this case) cannot be used in",
    "// paths.",
    "//",
    "// ## Field Mask Verification",
    "//",
    "// The implementation of any API method which has a FieldMask type field in the",
    "// request should verify the included field paths, and return an",
    "// `INVALID_ARGUMENT` error if any path is unmappable."],
  block "message FieldMask" ["// The set of field mask paths.","repeated string paths = 1;"]]

def sourceContext : String × List Char := file "source_context" "proto3" "google.protobuf" [] [
  ["// `SourceContext` represents information about the source of a",
    "// protobuf element, like the file in which it is defined."],
  block "message SourceContext" ["// The path-qualified name of the .proto file that contained the associated",
    "// protobuf element.  For example: `\"google/protobuf/source_context.proto\"`.",
    "string file_name = 1;"]]

def struct : String × List Char := file "struct" "proto3" "google.protobuf" [] [
  ["// `Struct` represents a structured data value, consisting of fields",
    "// which map to dynamically typed values. In some languages, `Struct`",
    "// might be supported by a native representation. For example, in",
    "// scripting languages like JS a struct is represented as an",
    "// object. The details of that representation are described together",
    "// with the proto support for the language.",
    "//",
    "// The JSON representation for `Struct` is JSON object."],
  block "message Struct" ["// Unordered map of dynamically typed values.","map<string, Value> fields = 1;"],
  ["// `Value` represents a dynamically typed value which can be either",
    "// null, a number, a string, a boolean, a recursive struct value, or a",
    "// list of values. A producer of value is expected to set one of these",
    "// variants. Absence of any variant indicates an error.",
    "//",
    "// The JSON representation for `Value` is JSON value."],
  block "message Value" (
    ["// The kind of value."] ++
    block "oneof kind" ["// Represents a null value.","NullValue null_value = 1;",
      "// Represents a double value.","double number_value = 2;",
      "// Represents a string value.","string string_value = 3;",
      "// Represents a boolean value.","bool bool_value = 4;",
      "// Represents a structured value.","Struct struct_value = 5;",
      "// Represents a repeated `Value`.","ListValue list_value = 6;"]),
  ["// `NullValue` is a singleton enumeration to represent the null value for the",
    "// `Value` type union.",
    "//",
    "//  The JSON representation for `NullValue` is JSON `null`."],
  block "enum NullValue" ["// Null value.","NULL_VALUE = 0;"],
  ["// `ListValue` is a wrapper around a repeated field of values.",
    "//",
    "// The JSON representation for `ListValue` is JSON array."],
  block "message ListValue" ["// Repeated field of dynamically typed values.","repeated Value values = 1;"]]

def timestamp : String × List Char := file "timestamp" "proto3" "google.protobuf" [] [
  block "message Timestamp" ["// Represents seconds of UTC time since Unix epoch",
    "// 1970-01-01T00:00:00Z. Must be from 0001-01-01T00:00:00Z to",
    "// 9999-12-31T23:59:59Z inclusive.","int64 seconds = 1;",
    "// Non-negative fractions of a second at nanosecond resolution. Negative",
    "// second values with fractions must still have non-negative nanos values",
    "// that count forward in time. Must be from 0 to 999,999,999",
    "// inclusive.","int32 nanos = 2;"]]

def typeFile : String × List Char := file "type" "proto3" "google.protobuf" ["any","source_context"] [
  ["// A protocol buffer message type."],
  block "message Type" ["// The fully qualified message name.","string name = 1;",
    "// The list of fields.","repeated Field fields = 2;",
    "// The list of types appearing in `oneof` definitions in this type.",
    "repeated string oneofs = 3;",
    "// The protocol buffer options.","repeated Option options = 4;",
    "// The source context.","SourceContext source_context = 5;",
    "// The source syntax.","Syntax syntax = 6;"],
  ["// A single field of a message type."],
  block "message Field" (
    ["// Basic field types."] ++
    block "enum Kind" ["// Field type unknown.","TYPE_UNKNOWN = 0;",
      "// Field type double.","TYPE_DOUBLE = 1;",
      "// Field type float.","TYPE_FLOAT = 2;",
      "// Field type int64.","TYPE_INT64 = 3;",
      "// Field type uint64.","TYPE_UINT64 = 4;",
      "// Field type int32.","TYPE_INT32 = 5;",
      "// Field type fixed64.","TYPE_FIXED64 = 6;",
      "// Field type fixed32.","TYPE_FIXED32 = 7;",
      "// Field type bool.","TYPE_BOOL = 8;",
      "// Field type string.","TYPE_STRING = 9;",
      "// Field type group. Proto2 syntax only, and deprecated.","TYPE_GROUP = 10;",
      "// Field type message.","TYPE_MESSAGE = 11;",
      "// Field type bytes.","TYPE_BYTES = 12;",
      "// Field type uint32.","TYPE_UINT32 = 13;",
      "// Field type enum.","TYPE_ENUM = 14;",
      "// Field type sfixed32.","TYPE_SFIXED32 = 15;",
      "// Field type sfixed64.","TYPE_SFIXED64 = 16;",
      "// Field type sint32.","TYPE_SINT32 = 17;",
      "// Field type sint64.","TYPE_SINT64 = 18;"] ++
    ["// Whether a field is optional, required, or repeated."] ++
    block "enum Cardinality" ["// For fields with unknown cardinality.","CARDINALITY_UNKNOWN = 0;",
      "// For optional fields.","CARDINALITY_OPTIONAL = 1;",
      "// For required fields. Proto2 syntax only.","CARDINALITY_REQUIRED = 2;",
      "// For repeated fields.","CARDINALITY_REPEATED = 3;"] ++
    ["// The field type.","Kind kind = 1;",
      "// The field cardinality.","Cardinality cardinality = 2;",
      "// The field number.","int32 number = 3;",
      "// The field name.","string name = 4;",
      "string type_url = 6;",
      "// The index of the field type in `Type.oneofs`, for message or enumeration",
      "// types. The first type has index 1; zero means the type is not in the list.",
      "int32 oneof_index = 7;",
      "// Whether to use alternative packed wire representation.","bool packed = 8;",
      "// The protocol buffer options.","repeated Option options = 9;",
      "// The field JSON name.","string json_name = 10;",
      "// The string value of the default value of this field. Proto2 syntax only.",
      "string default_value = 11;"]),
  ["// Enum type definition."],
  block "message Enum" ["// Enum type name.","string name = 1;",
    "// Enum value definitions.","repeated EnumValue enumvalue = 2;",
    "// Protocol buffer options.","repeated Option options = 3;",
    "// The source context.","SourceContext source_context = 4;",
    "// The source syntax.","Syntax syntax = 5;"],
  ["// Enum value definition."],
  block "message EnumValue" ["// Enum value name.","string name = 1;",
    "// Enum value number.","int32 number = 2;",
    "// Protocol buffer options.","repeated Option options = 3;"],
  ["// A protocol buffer option, which can be attached to a message, field,",
    "// enumeration, etc."],
  block "message Option" ["// The option's name. For protobuf built-in options (options defined in",
    "// descriptor.proto), this is the short name. For example, `\"map_entry\"`.",
    "// For custom options, it should be the fully-qualified name. For example,",
    "// `\"google.api.http\"`.","string name = 1;",
    "// The option's value packed in an Any message. If the value is a primitive,",
    "// the corresponding wrapper type defined in google/protobuf/wrappers.proto",
    "// should be used. If the value is an enum, it should be stored as an int32",
    "// value using the google.protobuf.Int32Value type.","Any value = 2;"],
  ["// The syntax in which a protocol buffer element is defined."],
  block "enum Syntax" ["// Syntax `proto2`.","SYNTAX_PROTO2 = 0;",
    "// Syntax `proto3`.","SYNTAX_PROTO3 = 1;"]]

def wrapper (name scalar json : String) : List String :=
  ["// Wrapper message for `" ++ scalar ++ "`.","//",
    "// The JSON representation for `" ++ name ++ "` is " ++ json ++ "."] ++
    block ("message " ++ name) ["// The " ++ scalar ++ " value.",scalar ++ " value = 1;"]

def wrappers : String × List Char := file "wrappers" "proto3" "google.protobuf" [] [
  wrapper "DoubleValue" "double" "JSON number",
  wrapper "FloatValue" "float" "JSON number",
  wrapper "Int64Value" "int64" "JSON string",
  wrapper "UInt64Value" "uint64" "JSON string",
  wrapper "Int32Value" "int32" "JSON number",
  wrapper "UInt32Value" "uint32" "JSON number",
  wrapper "BoolValue" "bool" "JSON `true` and `false`",
  wrapper "StringValue" "string" "JSON string",
  wrapper "BytesValue" "bytes" "JSON string"]

end ReferenceSite.Proto.Standard
