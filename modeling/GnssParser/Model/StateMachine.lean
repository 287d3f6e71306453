import GnssParser.Lib.OrderedMap
import GnssParser.Lib.Decimal
import Mathlib.Data.Char
import Mathlib.Data.List.Lex

/-!
# State machines

`StateMachineRegistry`: the conditions of the driver that persist, with their timeouts. Times are
nanoseconds of the steady clock; its reading is an argument.
-/

namespace GnssParser
open Text

inductive StateMachineState where
  | deactive
  | active
  deriving DecidableEq

structure StateMachineDefinition where
  id : List Char
  displayName : List Char := []
  /-- `std::chrono::milliseconds` -/
  deactivateTimeout : Int64 := 0

structure StateMachineInstance where
  state : StateMachineState := .deactive
  activeCount : UInt64 := 0
  lastEventTime : Int := 0
  lastTransitionTime : Int := 0
  lastDetail : List Char := []

structure StateMachineRegistry where
  definitions : OrderedMap (List Char) StateMachineDefinition := .empty
  instances : OrderedMap (List Char) StateMachineInstance := .empty

def composeInstanceId (definitionId instanceKey : List Char) : List Char :=
  if instanceKey = [] then definitionId else definitionId ++ ':' :: instanceKey

/-- The instance, and whether its state changed. -/
def setStateLocked (inst : StateMachineInstance) (newState : StateMachineState) (detail : List Char)
    (now : Int) : Bool × StateMachineInstance :=
  let changed := decide (inst.state ≠ newState)
  (changed, { inst with
    state := newState
    lastDetail := detail
    lastTransitionTime := if changed then now else inst.lastTransitionTime })

namespace StateMachineRegistry

/-- The identifier of the instance and its value, which is the default for a new one. -/
def ensureInstanceLocked (r : StateMachineRegistry) (definitionId instanceKey : List Char) :
    Except Exception (List Char × StateMachineInstance) :=
  match r.definitions.get? definitionId with
  | none => .error .invalidArgument
  | some _ =>
      let instanceId := composeInstanceId definitionId instanceKey
      .ok (instanceId, (r.instances.get? instanceId).getD {})

def store (r : StateMachineRegistry) (instanceId : List Char) (inst : StateMachineInstance) :
    StateMachineRegistry :=
  { r with instances := r.instances.set instanceId inst }

def registerDefinition (r : StateMachineRegistry) (definition : StateMachineDefinition) :
    Except Exception StateMachineRegistry := do
  if definition.id = [] then throw .invalidArgument
  let definition :=
    if definition.displayName = [] then { definition with displayName := definition.id }
    else definition
  let r := { r with definitions := r.definitions.set definition.id definition }
  let (instanceId, inst) ← r.ensureInstanceLocked definition.id []
  pure (r.store instanceId inst)

def reportEvent (r : StateMachineRegistry) (now : Int) (definitionId instanceKey detail : List Char) :
    Except Exception (Bool × StateMachineRegistry) := do
  let (instanceId, inst) ← r.ensureInstanceLocked definitionId instanceKey
  let inst := { inst with activeCount := inst.activeCount + 1, lastEventTime := now }
  let (changed, inst) := setStateLocked inst .active detail now
  pure (changed, r.store instanceId inst)

def setActive (r : StateMachineRegistry) (now : Int) (definitionId instanceKey detail : List Char) :
    Except Exception (Bool × StateMachineRegistry) := do
  let (instanceId, inst) ← r.ensureInstanceLocked definitionId instanceKey
  let inst := { inst with lastEventTime := now }
  let (changed, inst) := setStateLocked inst .active detail now
  pure (changed, r.store instanceId inst)

def setDeactive (r : StateMachineRegistry) (now : Int) (definitionId instanceKey detail : List Char) :
    Except Exception (Bool × StateMachineRegistry) := do
  let (instanceId, inst) ← r.ensureInstanceLocked definitionId instanceKey
  let (changed, inst) := setStateLocked inst .deactive detail now
  pure (changed, r.store instanceId inst)

/-- `std::chrono::nanoseconds` of milliseconds, whose 64 bits can overflow. -/
def nanoseconds (milliseconds : Int64) : Int64 := milliseconds * 1000000

/-- The body of the inner loop of `tick`. -/
def expire (now : Int) (definition : StateMachineDefinition) (instanceId : List Char)
    (inst : StateMachineInstance) : Bool × StateMachineInstance :=
  -- `instance_id.rfind(definition.id, 0) != 0`
  if ¬ definition.id.isPrefixOf instanceId then (false, inst)
  else if inst.state ≠ .active then (false, inst)
  else if now - inst.lastEventTime < (nanoseconds definition.deactivateTimeout).toInt then (false, inst)
  else setStateLocked inst .deactive "timeout".toList now

def tick (r : StateMachineRegistry) (now : Int) : Bool × StateMachineRegistry :=
  r.definitions.entries.foldl (fun (changed, r) (_, definition) =>
    if definition.deactivateTimeout ≤ 0 then (changed, r)
    else
      (changed || r.instances.entries.any fun (instanceId, inst) =>
          (expire now definition instanceId inst).1,
        { r with instances := r.instances.mapValues fun instanceId inst =>
          (expire now definition instanceId inst).2 })) (false, r)

/-- What the two loops of `renderStatusList` print. -/
def statusEntries (r : StateMachineRegistry) :
    List (StateMachineDefinition × List Char × StateMachineInstance) :=
  r.definitions.entries.flatMap fun (_, definition) =>
    (r.instances.entries.filter fun (instanceId, _) => definition.id.isPrefixOf instanceId).map
      fun (instanceId, inst) => (definition, instanceId, inst)

def stateColor : StateMachineState → List Char
  | .active => Char.ofNat 27 :: "[31m".toList
  | .deactive => Char.ofNat 27 :: "[32m".toList

def stateLabel : StateMachineState → List Char
  | .active => "ACTIVE".toList
  | .deactive => "DEACTIVE".toList

/-- The key that is printed, if one is. -/
def printedKey (definition : StateMachineDefinition) (instanceId : List Char) : Option (List Char) :=
  if instanceId.length > definition.id.length + 1 then
    some (instanceId.drop (definition.id.length + 1))
  else none

def statusLine : StateMachineDefinition × List Char × StateMachineInstance → List Char
  | (definition, instanceId, inst) =>
      "\n  ".toList ++ stateColor inst.state ++ '[' :: padRight 8 (stateLabel inst.state) ++ [']', ' '] ++
        definition.displayName ++
        (match printedKey definition instanceId with
          | some key => " key=".toList ++ key
          | none => []) ++
        " count=".toList ++ natText inst.activeCount.toNat ++
        (if inst.lastDetail = [] then [] else " detail=".toList ++ inst.lastDetail) ++
        (Char.ofNat 27 :: "[0m".toList)

def renderStatusList (r : StateMachineRegistry) : List Char :=
  "State Machine List:".toList ++ r.statusEntries.flatMap statusLine

end StateMachineRegistry

end GnssParser
