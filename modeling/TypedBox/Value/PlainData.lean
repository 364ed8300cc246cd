import TypedBox.Value.Object

/-! # Plain data

The types of data that the clients of this library itself store in objects:
numbers, truth values, texts, identifiers, lists of numbers, and a type with
nothing in it but the identity of the object.  What is said of objects elsewhere
holds for any types of data.
-/
namespace TypedBox

/-- A type of plain data. -/
inductive PlainType where
  | int32 | int64 | uint8 | bool | text | int32List | unit | guid
  deriving DecidableEq

namespace PlainType

/-- The data of a type. -/
@[reducible] def Carrier : PlainType → Type
  | int32 => Int32
  | int64 => Int64
  | uint8 => UInt8
  | bool => Bool
  | text => String
  | int32List => List Int32
  | unit => Unit
  | guid => Guid

/-- The full name of a type of contents. -/
def fullName : TypeKey PlainType → String
  | .data int32 => "i32"
  | .data int64 => "i64"
  | .data uint8 => "u8"
  | .data bool => "bool"
  | .data text => "alloc::string::String"
  | .data int32List => "alloc::vec::Vec<i32>"
  | .data unit => "()"
  | .data guid => "propbox_foundation::structs::Guid"
  | .object => "propbox_engine::object::Object"
  | .value => "propbox_engine::value::BoxedValue"

end PlainType

instance : StoredTypes where
  Data := PlainType
  decEqData := inferInstance
  Carrier := PlainType.Carrier
  name := PlainType.fullName

namespace StoredType

abbrev int32 : StoredType := .data PlainType.int32
abbrev int64 : StoredType := .data PlainType.int64
abbrev uint8 : StoredType := .data PlainType.uint8
abbrev bool : StoredType := .data PlainType.bool
abbrev text : StoredType := .data PlainType.text
abbrev int32List : StoredType := .data PlainType.int32List
abbrev unit : StoredType := .data PlainType.unit
abbrev guid : StoredType := .data PlainType.guid

end StoredType

namespace Content

@[match_pattern] abbrev int32 (n : Int32) : Content := .data PlainType.int32 n
@[match_pattern] abbrev int64 (n : Int64) : Content := .data PlainType.int64 n
@[match_pattern] abbrev uint8 (n : UInt8) : Content := .data PlainType.uint8 n
@[match_pattern] abbrev bool (b : Bool) : Content := .data PlainType.bool b
@[match_pattern] abbrev text (s : String) : Content := .data PlainType.text s
@[match_pattern] abbrev int32List (ns : List Int32) : Content := .data PlainType.int32List ns
@[match_pattern] abbrev unit : Content := .data PlainType.unit ()
@[match_pattern] abbrev guid (g : Guid) : Content := .data PlainType.guid g

instance : Coe Int64 Content := ⟨int64⟩

end Content
end TypedBox
