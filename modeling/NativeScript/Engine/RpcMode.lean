import NativeScript.Engine.Tag

/-!
# Remote calls

The mode of a property or method says who may reach it over the network.  Two
modes have a second, older name in field tags.
-/

namespace NativeScript.Engine

/-- Who may reach a property or a method over the network. -/
inductive RpcMode where
  | disabled
  | remote
  | master
  | puppet
  | remotesync
  | mastersync
  | puppetsync
deriving DecidableEq

namespace RpcMode

/-- Every value, in the order of the engine's numbers. -/
def all : List RpcMode := [
    .disabled, .remote, .master, .puppet, .remotesync, .mastersync, .puppetsync
  ]

/-- The name of a value, as tags spell it. -/
def name : RpcMode → String
  | disabled => "Disabled"
  | remote => "Remote"
  | master => "Master"
  | puppet => "Puppet"
  | remotesync => "Remotesync"
  | mastersync => "Mastersync"
  | puppetsync => "Puppetsync"

/-- The number of a value on the side of the engine. -/
def code (value : RpcMode) : Nat :=
  all.idxOf value

/-- The value with a given number. -/
def ofCode? (code : Nat) : Option RpcMode :=
  all[code]?

/-- The names under which tags look a value up. -/
def entries : List (String × RpcMode) :=
  all.map (fun value => (value.name, value)) ++ [("slave", .puppet), ("sync", .remotesync)]

/-- The value that a tag names. -/
def ofTag? (text : String) : Option RpcMode :=
  Tag.find? "MethodRpcMode" entries text

/-- The accepted tags, in lower case. -/
def tagNames : List String :=
  all.map (fun value => Tag.lowerName value.name)

instance : Inhabited RpcMode := ⟨.disabled⟩

end RpcMode

end NativeScript.Engine
