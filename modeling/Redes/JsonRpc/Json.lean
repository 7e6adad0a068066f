import Mathlib.Data.Int.Notation
import Mathlib.Data.List.Basic

/-!
# JSON values and the objects of Python

What `json.loads` returns, the dictionaries that are built from it, and the exceptions that the
functions which are registered in a server can raise.

## Main definitions

* `PyStr`, `Json`, `dictGet` — strings, values and dictionaries.
* `Json.truthy` — `bool`.
* `PyObj`, `PyExc` — what a registered function can put into an exception.
-/

namespace Redes

/-! ### Strings and values -/

/-- A string as its code points: `json.loads` also makes strings that are no text, of single
surrogates. -/
abbrev PyStr : Type := List UInt32

/-- A string that is written in the source. -/
def py (s : String) : PyStr := s.toList.map Char.val

/-- A value that `json.loads` returns. -/
inductive Json
  /-- `None`. -/
  | null
  /-- `True` or `False`. -/
  | bool (b : Bool)
  /-- An `int`. -/
  | int (n : ℤ)
  /-- A `float`, as it is printed. -/
  | float (repr : PyStr)
  /-- A `str`. -/
  | str (s : PyStr)
  /-- A `list`. -/
  | arr (items : List Json)
  /-- A `dict`, in the order of its keys. -/
  | obj (fields : List (PyStr × Json))

/-- `d.get(key)`, and `none` if the key is absent. -/
def dictGet {α : Type} (d : List (PyStr × α)) (key : PyStr) : Option α :=
  d.lookup key

/-- `key in d`. -/
def dictHas {α : Type} (d : List (PyStr × α)) (key : PyStr) : Bool := (dictGet d key).isSome

/-- `bool(j)`. -/
def Json.truthy : Json → Bool
  | .null => false
  | .bool b => b
  | .int n => decide (n ≠ 0)
  | .float repr => decide (repr ≠ py "0.0" ∧ repr ≠ py "-0.0")
  | .str s => !s.isEmpty
  | .arr items => !items.isEmpty
  | .obj fields => !fields.isEmpty

/-- `type(j).__name__`. -/
def Json.typeName : Json → PyStr
  | .null => py "NoneType"
  | .bool _ => py "bool"
  | .int _ => py "int"
  | .float _ => py "float"
  | .str _ => py "str"
  | .arr _ => py "list"
  | .obj _ => py "dict"

/-- `sep.join(parts)`. -/
def join (sep : PyStr) : List PyStr → PyStr
  | [] => []
  | [part] => part
  | part :: parts => part ++ sep ++ join sep parts

/-! ### Exceptions -/

/-- An object that a registered function hands over. -/
inductive PyObj
  /-- A JSON value. -/
  | json (j : Json)
  /-- Anything else. -/
  | other

/-- An exception, with what a handler looks at: the arguments, and what printing it gives, which is
a string or another exception. -/
inductive PyExc
  /-- A `ValueError`. -/
  | valueError (args : List PyObj)
  /-- An `AttributeError`. -/
  | attributeError (args : List PyObj) (str : Except PyExc PyStr)
  /-- Any other `Exception`. -/
  | exception (str : Except PyExc PyStr)
  /-- A `BaseException` that is no `Exception`, such as `SystemExit`. -/
  | baseException

end Redes
