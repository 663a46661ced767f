import KeyPath.Lookup.Walk
/-!
# Custom objects

A registry numbers custom objects in the order in which they are made; an object may refer to
objects made before it. Each object keeps a log of the keys of every call, and the log is the
state in which lookups run.
-/

namespace KeyPath

/-- How a custom object answers a call. -/
inductive Conduct where
  /-- Call by call from a list of answers, of which the last is repeated. -/
  | script (answers : List DigResult)
  /-- By following the keys in a value of its own, without the first few of them. -/
  | forward (value : Value) (skip : Nat)
  /-- With its keys as an array. -/
  | echo
  | sealed

structure CustomObject where
  typeName : String
  conduct : Conduct

/-- The keys of each call to each object, objects by number and calls in order. -/
abbrev CallLog := List (List (List Key))

/-- Custom objects, the last one first. -/
abbrev Registry := List CustomObject

namespace CallLog

def callsTo (log : CallLog) (id : Nat) : List (List Key) := log[id]?.getD []

def record (log : CallLog) (id : Nat) (keys : List Key) : CallLog :=
  log.modify id (· ++ [keys])

end CallLog

namespace Registry

def emptyLog (registry : Registry) : CallLog := List.replicate registry.length []

/-- The reference by which values mention the object of a given number. -/
def ref? (registry : Registry) (id : Nat) : Option ObjectRef :=
  registry.reverse[id]?.map fun object => ⟨id, object.typeName⟩

def refuse (typeName : String) : List Key → DigResult
  | [] => .error .noKeys
  | key :: _ => .error (.notDiggable typeName key)

/-- The answer at a given call of a script, the last answer standing for all later calls. -/
def scripted (answers : List DigResult) (call : Nat) : DigResult :=
  answers[min call (answers.length - 1)]?.getD (.ok .absent)

def respond : Registry → ObjectRef → List Key → StateM CallLog DigResult
  | [], ref, keys => pure (refuse ref.typeName keys)
  | object :: earlier, ref, keys =>
    if ref.id = earlier.length then do
      let log ← get
      set (log.record ref.id keys)
      match object.conduct with
      | .script answers => pure (scripted answers (log.callsTo ref.id).length)
      | .forward value skip => dig (respond earlier) value (keys.drop skip)
      | .echo => pure (.ok (.ofValue (.array (keys.map Value.ofKey))))
      | .sealed => pure (refuse object.typeName keys)
    else respond earlier ref keys

end Registry

end KeyPath
