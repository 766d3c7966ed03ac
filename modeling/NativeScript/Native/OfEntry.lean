import NativeScript.Native.Session
import NativeScript.Registry

/-!
# Registering what a scan found

A scanned class is registered under its registered name, with its methods under
the names by which the engine calls them.  What its properties say is written as
tags and read back; the bodies of its methods are not part of a scan, and the
signals are registered without their arguments.
-/

namespace NativeScript.Native.Session

/-- A scanned method of the class registered as `owner`. -/
def methodOfEntry (owner : String) (entry : Entry.Method) : Method :=
  .named owner entry.engineName fun _ _ _ _ => .nil

/-- A scanned property of the class registered as `owner`. -/
def propertyOfEntry (session : Session) (owner : String) (entry : Entry.Property) :
    Except RegistrationError (Property × Session) :=
  (session.newProperty owner entry.registeredName entry.hint.name entry.hintString
    entry.usage.render entry.rset.name).map fun (property, session) =>
      ({ property with attributes := { property.attributes with type := entry.type } }, session)

/-- Scanned properties of the class registered as `owner`. -/
def propertiesOfEntries (session : Session) (owner : String) :
    List Entry.Property → Except RegistrationError (List Property × Session)
  | [] => .ok ([], session)
  | entry :: entries => do
      let (property, session) ← session.propertyOfEntry owner entry
      let (properties, session) ← session.propertiesOfEntries owner entries
      pure (property :: properties, session)

/-- A scanned signal of the class registered as `owner`. -/
def signalOfEntry (owner : String) (entry : Entry.Signal) : Signal where
  className := owner
  name := entry.name

/-- Make a scanned class ready to be registered. -/
def classOfEntry (session : Session) (entry : Entry.Class) :
    Except RegistrationError (Class × Session) := do
  let owner := entry.registeredName
  let (properties, session) ← session.propertiesOfEntries owner entry.properties
  pure ({
    info := ⟨owner, entry.base, entry.tool⟩
    methods := entry.methods.map (methodOfEntry owner)
    properties
    signals := entry.signals.map (signalOfEntry owner) }, session)

/-- Register a scanned class. -/
def registerEntry (session : Session) (entry : Entry.Class) :
    Except RegistrationError Session := do
  let (nativeClass, session) ← session.classOfEntry entry
  session.register nativeClass

/-- Register all classes of a registry, in their order. -/
def registerAll (session : Session) (registry : Registry) : Except RegistrationError Session :=
  registry.classes.foldlM registerEntry session

end NativeScript.Native.Session
