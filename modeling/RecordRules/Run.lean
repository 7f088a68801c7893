import RecordRules.Event
import RecordRules.Registry

/-!
Runs: what is done with a registry at hand. A run ends with a result or with a fault, it may leave
the registry changed, and it reports events. After a fault nothing further happens.
-/

namespace RecordRules

/-- A registry, and the serial number of the next thing that is made. -/
structure Session where
  registry : Registry
  nextSerial : Nat
  deriving Inhabited

namespace Session

def new (localizer : Localizer) : Session :=
  ⟨.new localizer, 0⟩

end Session

structure Outcome (α : Type) where
  result : Except Fault α
  session : Session
  events : List Event

def Run (α : Type) : Type :=
  Session → Outcome α

namespace Run

protected def pure (a : α) : Run α := fun session =>
  ⟨.ok a, session, []⟩

protected def bind (x : Run α) (f : α → Run β) : Run β := fun session =>
  let first := x session
  match first.result with
  | .ok a =>
    let second := f a first.session
    ⟨second.result, second.session, first.events ++ second.events⟩
  | .error fault => ⟨.error fault, first.session, first.events⟩

instance : Monad Run where
  pure := Run.pure
  bind := Run.bind

def fail (fault : Fault) : Run α := fun session =>
  ⟨.error fault, session, []⟩

def ofExcept : Except Fault α → Run α
  | .ok a => pure a
  | .error fault => fail fault

def failWith? : Option Fault → Run Unit
  | some fault => fail fault
  | none => pure ()

def report (event : Event) : Run Unit := fun session =>
  ⟨.ok (), session, [event]⟩

/-- Reports an event when the run ends with a fault. -/
def reportingFaults (x : Run α) (event : Fault → Event) : Run α := fun session =>
  let outcome := x session
  match outcome.result with
  | .ok _ => outcome
  | .error fault => { outcome with events := outcome.events ++ [event fault] }

def serial : Run Nat := fun session =>
  ⟨.ok session.nextSerial, { session with nextSerial := session.nextSerial + 1 }, []⟩

def registry : Run Registry := fun session =>
  ⟨.ok session.registry, session, []⟩

def setRegistry (registry : Registry) : Run Unit := fun session =>
  ⟨.ok (), { session with registry := registry }, []⟩

/-- The shared predicates of the registry, made when they are first asked for. -/
def predicates : Run Nat := do
  let registry ← registry
  match registry.predicates with
  | some serial => return serial
  | none =>
    let made ← serial
    setRegistry { registry with predicates := some made }
    return made

def makeRule (kind : Builtin) (name : String) : Run Rule := do
  report (.instantiating kind)
  let predicates ← predicates
  let made ← serial
  let registry ← registry
  let rule : Rule := ⟨made, kind, predicates, registry.localizer⟩
  setRegistry { registry with rules := Keyed.put name rule registry.rules }
  return rule

/-- The shared rule of a name. An empty name is a fault; no other name is one, but most have no
rule. -/
def rule? (name : String) : Run (Option Rule) :=
  if name.isEmpty then fail Message.emptyDirective.fault
  else
    match Builtin.lookup? name with
    | none => return none
    | some kind => do
      let registry ← registry
      let key := Text.lowerCase name
      match Keyed.find? key registry.rules with
      | some rule => return some rule
      | none => return some (← makeRule kind key)

end Run

end RecordRules
