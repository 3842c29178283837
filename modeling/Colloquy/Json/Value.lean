/-!
# JSON values

A JSON value as this library reads it. A number keeps the form it was read in:

* a whole number from `0` to `2^64 - 1`;
* a negative whole number from `-2^63` to `-1`;
* otherwise a binary64 value. That covers any number with a point or an exponent, whole
  numbers out of those ranges, and `-0`.

An object keeps every entry in the order read, including repeated keys. `Value.merged` gives
the object view in which a repeated key keeps its first position and takes its last value.
-/

namespace Colloquy.Json

/-- A JSON number in the form it was read. -/
inductive Number where
  /-- A whole number below `2^64`. -/
  | nat (n : Nat)
  /-- A negative whole number at or above `-2^63`. -/
  | neg (n : Int)
  /-- Any other number. -/
  | float (x : Float)
  deriving Inhabited

/-- A JSON value. -/
inductive Value where
  | null
  | bool (b : Bool)
  | number (n : Number)
  | string (s : String)
  | array (items : List Value)
  | object (fields : List (String × Value))
  deriving Inhabited

namespace Value

/-- The word for the kind of a value: `null`, `boolean`, `number`, `string`, `array` or
`object`. -/
def kind : Value → String
  | null => "null"
  | bool _ => "boolean"
  | number _ => "number"
  | string _ => "string"
  | array _ => "array"
  | object _ => "object"

/-- Inserts an entry into merged entries: a key already present keeps its place and takes the
new value; a new key goes last. -/
def insertField (k : String) (v : Value) : List (String × Value) → List (String × Value)
  | [] => [(k, v)]
  | (k', v') :: rest => if k' = k then (k, v) :: rest else (k', v') :: insertField k v rest

/-- Merges the entries of one object, in order. -/
def mergeFields (fs : List (String × Value)) : List (String × Value) :=
  fs.foldl (fun acc (k, v) => insertField k v acc) []

mutual
/-- The object view of a value, at every depth: a repeated key keeps its first position and
takes its last value. -/
def merged : Value → Value
  | array items => array (mergedList items)
  | object fields => object (mergeFields (mergedFields fields))
  | v => v

/-- `merged` on each item. -/
def mergedList : List Value → List Value
  | [] => []
  | v :: rest => merged v :: mergedList rest

/-- `merged` on each entry's value. -/
def mergedFields : List (String × Value) → List (String × Value)
  | [] => []
  | (k, v) :: rest => (k, merged v) :: mergedFields rest
end

/-- The value of a key in merged entries. -/
def lookup (fs : List (String × Value)) (k : String) : Option Value :=
  (fs.find? (·.1 == k)).map (·.2)

end Value

end Colloquy.Json
