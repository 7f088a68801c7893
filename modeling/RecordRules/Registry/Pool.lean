import RecordRules.Run

/-!
Several registries that draw their serial numbers from one supply. Runs on one of them leave the
others as they are.
-/

namespace RecordRules

structure Pool where
  registries : List Registry
  nextSerial : Nat
  deriving Inhabited

namespace Pool

def new (localizers : List Localizer) : Pool :=
  ⟨localizers.map Registry.new, 0⟩

def session (pool : Pool) (index : Nat) : Session :=
  ⟨pool.registries.getD index default, pool.nextSerial⟩

def update (pool : Pool) (index : Nat) (session : Session) : Pool :=
  ⟨pool.registries.set index session.registry, session.nextSerial⟩

def run (pool : Pool) (index : Nat) (x : Run α) : Except Fault α × List Event × Pool :=
  let outcome := x (pool.session index)
  (outcome.result, outcome.events, pool.update index outcome.session)

end Pool

end RecordRules
