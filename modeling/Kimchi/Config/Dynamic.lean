import Kimchi.ByteString

/-!
# Parsed JSON values

`folly::dynamic` as the loader and the JWT layer read it.  Reading a field of a
value that is not an object, iterating a value that is not an array and taking the
string of a value that is not a string throw `folly::TypeError`; indexing an object
at a missing key throws `std::out_of_range`.  The text parser `folly::parseJson` is
not part of the repository; it is a parameter wherever a text is parsed.
-/

namespace Kimchi

/-- `folly::dynamic`.  The value of a double is never read, its bits stand for
it. -/
inductive Dynamic where
  | null
  | bool (value : Bool)
  | int64 (value : Int64)
  | double (bits : UInt64)
  | string (value : Str)
  | array (elems : List Dynamic)
  | object (fields : List (Str × Dynamic))

/-- The exceptions of `folly::dynamic`, all of them a `std::exception`. -/
inductive DynamicError where
  | typeError (expected : String)
  | outOfRange (key : String)
  deriving DecidableEq, Repr

namespace Dynamic

/-- `d.get_ptr(key)`: the field if there is one; throws unless `d` is an object. -/
def getPtr (d : Dynamic) (key : String) : Except DynamicError (Option Dynamic) :=
  match d with
  | object fields => .ok (fields.lookup (str key))
  | _ => .error (.typeError "object")

/-- `d[key]` on a constant value: throws when the field is missing. -/
def index (d : Dynamic) (key : String) : Except DynamicError Dynamic := do
  match ← d.getPtr key with
  | some v => .ok v
  | none => .error (.outOfRange key)

/-- `for (const auto& x : d)`. -/
def iterate : Dynamic → Except DynamicError (List Dynamic)
  | array elems => .ok elems
  | _ => .error (.typeError "array")

/-- `d.getString()`. -/
def getString : Dynamic → Except DynamicError Str
  | string value => .ok value
  | _ => .error (.typeError "string")

end Dynamic

/-- `static_cast<uint16_t>` of an `int64_t`. -/
def castUInt16 (n : Int64) : UInt16 := n.toUInt64.toUInt16

/-- `static_cast<int32_t>` of an `int64_t`. -/
def castInt32 (n : Int64) : Int32 := n.toInt32

end Kimchi
