import TableTransfer.Error

namespace TableTransfer

/-- Drivers of one name are told apart by a serial number. -/
structure Driver where
  id : String
  scheme : String
  serial : Nat := 0
deriving DecidableEq

inductive DriverCall where
  | register (d : Driver)
  | deregister (d : Driver)
deriving DecidableEq

structure Registration where
  driver : Driver
  handles : Nat
deriving DecidableEq

structure Registry where
  registrations : List Registration := []
  calls : List DriverCall := []
deriving DecidableEq

namespace Registry

def find? (r : Registry) (id : String) : Option Registration :=
  r.registrations.find? fun g => g.driver.id == id

def handleCount (r : Registry) (id : String) : Nat :=
  match r.find? id with
  | some g => g.handles
  | none => 0

def isRegistered (r : Registry) (id : String) : Bool := (r.find? id).isSome

def update (r : Registry) (g : Registration) : Registry :=
  { r with registrations := r.registrations.map fun h => if h.driver.id == g.driver.id then g else h }

/-- One more handle. The first one registers the driver, unless the driver reports a fault. -/
def acquire (r : Registry) (d : Driver) (fault : Option Error) : Except Error Unit × Registry :=
  match r.find? d.id with
  | some g => (.ok (), r.update { g with handles := g.handles + 1 })
  | none =>
    match fault with
    | some e => (.error (.resource (.registration d.id d.scheme e.message)), r)
    | none =>
      (.ok (),
       { registrations := r.registrations ++ [⟨d, 1⟩], calls := r.calls ++ [.register d] })

/-- One handle less. The last one deregisters the driver that was registered. -/
def release (r : Registry) (id : String) : Registry :=
  match r.find? id with
  | none => r
  | some g =>
    if 1 < g.handles then r.update { g with handles := g.handles - 1 }
    else
      { registrations := r.registrations.filter fun h => h.driver.id != id
        calls := r.calls ++ [.deregister g.driver] }

def described (r : Registry) : String :=
  let entry (g : Registration) : String :=
    Text.quoted g.driver.id ++ ": " ++ Text.intText g.handles
  "DriverRegistry \x7b registrations: \x7b" ++ ", ".intercalate (r.registrations.map entry) ++
    "\x7d \x7d"

end Registry

/-- A registry and the handles that it gave out: for each request the driver's name, or nothing
if the request was refused or the handle is given back. -/
structure Leases where
  registry : Registry := {}
  handles : List (Option String) := []

namespace Leases

def acquire (l : Leases) (d : Driver) (fault : Option Error) : Except Error Unit × Leases :=
  match l.registry.acquire d fault with
  | (.ok _, r) => (.ok (), ⟨r, l.handles ++ [some d.id]⟩)
  | (.error e, r) => (.error e, ⟨r, l.handles ++ [none]⟩)

def release (l : Leases) (n : Nat) : Bool × Leases :=
  match l.handles[n]?.join with
  | some id => (true, ⟨l.registry.release id, l.handles.set n none⟩)
  | none => (false, l)

end Leases

end TableTransfer
