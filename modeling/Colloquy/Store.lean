import Colloquy.KeyMap
import Colloquy.Scalar
/-!
# The variable store

Variables are scalars under names, listed in byte order of the names. Setting a variable
replaces its value. `Store.ofBindings` sets a list of bindings in order, so a later binding of
a name wins.

The typed getters answer with a default when the variable is unset or of the wrong kind:
* `getInt` answers for a whole value, and for an integral binary64 value in the 64-bit range.
* `getNumber` answers for both number kinds.
-/

namespace Colloquy

/-- Variables by name. -/
structure Store where
  map : KeyMap Scalar := KeyMap.empty
  deriving Inhabited

namespace Store

/-- The empty store. -/
def empty : Store := {}

/-- Sets a variable. -/
def set (s : Store) (name : String) (v : Scalar) : Store :=
  ⟨s.map.insert name v⟩

/-- Sets bindings in order; a later binding of a name wins. -/
def setAll (s : Store) (bs : List (String × Scalar)) : Store :=
  bs.foldl (fun s (k, v) => s.set k v) s

/-- **The store of a list of bindings.** -/
def ofBindings (bs : List (String × Scalar)) : Store :=
  empty.setAll bs

/-- The value of a variable. -/
def get? (s : Store) (name : String) : Option Scalar :=
  s.map.find? name

/-- Whether a variable is set. -/
def contains (s : Store) (name : String) : Bool :=
  s.map.contains name

/-- A boolean variable, or the default. -/
def getBool (s : Store) (name : String) (default : Bool) : Bool :=
  ((s.get? name).bind Scalar.asBool?).getD default

/-- A whole-number variable, or the default. -/
def getInt (s : Store) (name : String) (default : Int) : Int :=
  ((s.get? name).bind Scalar.asInt?).getD default

/-- A number variable, or the default. -/
def getNumber (s : Store) (name : String) (default : Float) : Float :=
  ((s.get? name).bind Scalar.asNumber?).getD default

/-- A text variable, or the default. -/
def getString (s : Store) (name : String) (default : String) : String :=
  ((s.get? name).bind Scalar.asString?).getD default

/-- The bindings in name order. -/
def toList (s : Store) : List (String × Scalar) :=
  s.map.entries

/-- The number of variables. -/
def size (s : Store) : Nat :=
  s.map.size

/-- Whether no variable is set. -/
def isEmpty (s : Store) : Bool :=
  s.map.isEmpty

end Store

end Colloquy
