import NativeScript.Entry.Member
import NativeScript.Kind.OfType
import NativeScript.Scan.Declaration
import NativeScript.Scan.Error

/-!
# The shape of lifecycle functions

A constructor takes nothing and returns a pointer to its class, and nothing
else.  A destructor takes nothing and returns nothing.  Neither has a receiver.
In an `impl` block `Self` is the type that the block is for.
-/

namespace NativeScript.Scan

open Source (OwnedFunction TypeExpr)

/-- The kind of a result of a lifecycle function.  A type without a kind counts
as a value that is boxed already. -/
def resultKind (owner : Option String) (type : TypeExpr) : Kind :=
  let kind := type.kindOr .variant
  match owner with
  | some owner => kind.replaceSelf owner
  | none => kind

/-- What a constructor and a destructor have in common: no receiver and no
parameters. -/
def checkInputs (function : OwnedFunction) : Except ShapeFault Unit :=
  if function.decl.hasReceiver then
    .error (.method function.owner)
  else if function.decl.inputs.isEmpty then
    .ok ()
  else
    .error (.parameters function.decl.inputs.length)

/-- The kind that a function returns as the constructor of a class. -/
def constructorResult (className : String) (function : OwnedFunction) :
    Except ShapeFault Kind := do
  checkInputs function
  match function.decl.results with
  | [] => .error .noResult
  | [type] =>
      let kind := resultKind function.owner type
      if kind.isPointerTo className then .ok kind else .error (.wrongResult kind)
  | types => .error (.manyResults types.length)

/-- Check that a function can be a destructor. -/
def checkDestructor (function : OwnedFunction) : Except ShapeFault Unit := do
  checkInputs function
  match function.decl.results with
  | [] => .ok ()
  | types => .error (.unwantedResults (types.map (resultKind function.owner)))

/-- A function as the constructor of a class. -/
def asConstructor (className : String) (function : OwnedFunction) :
    Except ScanError Entry.Constructor :=
  match constructorResult className function with
  | .ok result => .ok ⟨className, function.decl.name, result⟩
  | .error fault => .error (.invalidLifecycle .constructor className function.decl.name fault)

/-- A function as the destructor of a class. -/
def asDestructor (className : String) (function : OwnedFunction) :
    Except ScanError Entry.Destructor :=
  match checkDestructor function with
  | .ok _ => .ok ⟨className, function.decl.name⟩
  | .error fault => .error (.invalidLifecycle .destructor className function.decl.name fault)

end NativeScript.Scan
