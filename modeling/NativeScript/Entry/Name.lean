import NativeScript.Text.Lead
import NativeScript.Text.LetterCase

/-!
# Names on the side of the engine

A virtual hook such as `_ready` is spelled `v_ready` or `VReady` in a
declaration.  Generated functions are named in snake case.
-/

namespace NativeScript.Entry

/-- Camel case to snake case.  A capital after a lower-case letter or a digit
starts a new word; `afterLower` tells whether the character before was one. -/
def snakeCaseFrom (afterLower : Bool) : List Char → List Char
  | [] => []
  | char :: name =>
      if Text.isUpper char then
        (if afterLower then ['_'] else []) ++ Text.lowered char ++ snakeCaseFrom false name
      else
        char :: snakeCaseFrom (Text.isLower char || char.isDigit) name

/-- Camel case to snake case, such as `PhysicsProcess` to `physics_process`. -/
def snakeCase (name : String) : String :=
  String.ofList (snakeCaseFrom false name.toList)

/-- The name of a hook spelled `VReady`: what follows the `V`, in snake case and
after an underscore. -/
def camelHookName? : List Char → Option (List Char)
  | 'V' :: second :: name =>
      if Text.isUpper second then some ('_' :: snakeCaseFrom false (second :: name)) else none
  | _ => none

/-- The name of a hook spelled `v_ready`: what follows the `v`. -/
def snakeHookName? (name : List Char) : Option (List Char) :=
  match Text.after? ['v', '_'] name with
  | some (char :: rest) => some ('_' :: char :: rest)
  | _ => none

/-- The name under which the engine calls a method: virtual hooks begin with an
underscore, every other name stays as it is. -/
def hookName (name : String) : String :=
  String.ofList <|
    (snakeHookName? name.toList).getD <| (camelHookName? name.toList).getD name.toList

/-- The name of the generated function that prepares a class. -/
def initFunction (className : String) : String :=
  "native_script_init_" ++ snakeCase className

end NativeScript.Entry
