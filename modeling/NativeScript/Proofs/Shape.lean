import NativeScript.Proofs.Outcome
import NativeScript.Scan.Shape

/-!
# The shape of lifecycle functions

A function passes as a constructor exactly when it takes nothing and returns one
pointer to its class, and as a destructor exactly when it takes nothing and
returns nothing.
-/

namespace NativeScript.Scan

open Outcome (Exact)
open Source (OwnedFunction)

/-- The shape that a lifecycle function of a class must have. -/
def HasShape (className : String) (function : OwnedFunction) : Lifecycle → Prop
  | .constructor =>
      function.decl.inputs = [] ∧
        ∃ type, function.decl.results = [type] ∧
          (resultKind function.owner type).isPointerTo className = true
  | .destructor => function.decl.inputs = [] ∧ function.decl.results = []

/-- A function as the constructor of a class, whatever its shape. -/
def constructorOf (className : String) (function : OwnedFunction) : Entry.Constructor where
  className
  function := function.decl.name
  result := (function.decl.results.head?.map (resultKind function.owner)).getD .variant

/-- A function as the destructor of a class, whatever its shape. -/
def destructorOf (className : String) (function : OwnedFunction) : Entry.Destructor where
  className
  function := function.decl.name

theorem checkInputs_exact (function : OwnedFunction) :
    Exact (checkInputs function) (function.decl.inputs = []) () := by
  unfold checkInputs
  by_cases empty : function.decl.inputs = []
  · have noReceiver : function.decl.hasReceiver = false := by
      simp [Source.Function.hasReceiver, empty]
    rw [noReceiver, if_neg Bool.false_ne_true, if_pos (List.isEmpty_iff.mpr empty)]
    exact Exact.ok empty
  · split
    · exact Exact.error empty
    · rw [if_neg (mt List.isEmpty_iff.mp empty)]
      exact Exact.error empty

theorem constructorResult_exact (className : String) (function : OwnedFunction) :
    Exact (constructorResult className function) (HasShape className function .constructor)
      (constructorOf className function).result := by
  apply (checkInputs_exact function).bind
  intro empty
  unfold constructorOf
  cases results : function.decl.results with
  | nil => exact Exact.error (by simp)
  | cons type types =>
      cases types with
      | cons other types => exact Exact.error (by simp)
      | nil =>
          by_cases isPointer : (resultKind function.owner type).isPointerTo className = true
          · simp only [isPointer, if_true]
            exact Exact.ok (by simp [isPointer])
          · simp only [if_neg isPointer]
            exact Exact.error (by simp [isPointer])

theorem checkDestructor_exact (className : String) (function : OwnedFunction) :
    Exact (checkDestructor function) (HasShape className function .destructor) () := by
  apply (checkInputs_exact function).bind
  intro empty
  cases results : function.decl.results with
  | nil => exact Exact.ok rfl
  | cons type types => exact Exact.error (by simp)

theorem asConstructor_exact (className : String) (function : OwnedFunction) :
    Exact (asConstructor className function) (HasShape className function .constructor)
      (constructorOf className function) := by
  have exact := constructorResult_exact className function
  unfold asConstructor
  cases outcome : constructorResult className function with
  | error fault => exact Exact.error (exact.not_of_eq_error outcome)
  | ok result =>
      rcases (exact result).mp outcome with ⟨shape, rfl⟩
      exact Exact.ok shape

theorem asDestructor_exact (className : String) (function : OwnedFunction) :
    Exact (asDestructor className function) (HasShape className function .destructor)
      (destructorOf className function) := by
  have exact := checkDestructor_exact className function
  unfold asDestructor
  cases outcome : checkDestructor function with
  | error fault => exact Exact.error (exact.not_of_eq_error outcome)
  | ok result => exact Exact.ok ((exact result).mp outcome).1

end NativeScript.Scan
