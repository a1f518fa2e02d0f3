import Storefront.Config
import Storefront.Database.Engine
import Storefront.Sessions
import Storefront.Store.Statement

/-!
# The shop and its services

The shop is its configuration, its store, the state of its connection and the sessions of its
browsers. A service is done to a shop: it gives a value or fails, it leaves a shop behind in either
case, and it records what it does. A service that fails has written nothing to the store or to a
session; all that may have changed is which statements the connection has prepared and which fault
is left on it.

## Main definitions

* `Shop` — the state
* `Service`, `Service.Outcome` — services and what they come to
* `Service.call` — a statement made through the connection
* `Service.onStore` — work on the store that is no statement with values
* `Service.guarded` — a service as the guard leaves it
* `Service.recover` — a service whose failure is dealt with

## Main results

* `Service.bind_of_ok`, `Service.bind_of_error` — a service goes on after a value and not after a
  failure
* `Service.recover_of_ok`, `Service.recover_of_error` — only a failure is dealt with
* `Service.guarded_of_ok` — the guard does nothing to a service that ends well
-/

namespace Storefront

/-- The state of a shop. -/
structure Shop where
  config : Config
  /-- The least number of a record that is written to the log. -/
  threshold : Int
  store : Store := {}
  /-- The statements that the connection has prepared. -/
  prepared : List Statement := []
  /-- The fault that is left on the connection by what was done there last. -/
  left : Option Fault := none
  /-- Whether no connection can be opened. -/
  outage : Bool := false
  sessions : Sessions := []

namespace Shop

/-- The shop with a statement prepared, which needs its table. -/
def remember (shop : Shop) (statement : Statement) : Shop :=
  if shop.store.has statement.table && !shop.prepared.contains statement then
    { shop with prepared := statement :: shop.prepared }
  else shop

/-- The shop after something has gone well on its connection, which opens unless there is an
outage. -/
def probed (shop : Shop) : Shop := if shop.outage then shop else { shop with left := none }

/-- The engine of the shop: in an outage no connection opens, and otherwise all goes well. -/
def engine (shop : Shop) : Database.Engine where
  rest := if shop.outage then { connect := some (.fault .cannotOpen) } else {}

/-- A dealing with the engine, seen by its result alone. -/
def outcome {α : Type} (shop : Shop) (work : Database.Work α) : Except Failure α :=
  (work shop.engine).result

end Shop

/-- What a service comes to. -/
structure Service.Outcome (α : Type) where
  result : Except Failure α
  shop : Shop
  log : List Log.Record := []

/-- A service. -/
def Service (α : Type) := Shop → Service.Outcome α

namespace Service

variable {α β : Type}

/-- A service that leaves the shop alone. -/
def ofResult (result : Except Failure α) : Service α := fun shop => { result, shop }

/-- A service that goes on after a value. -/
def bind (service : Service α) (next : α → Service β) : Service β := fun shop =>
  let first := service shop
  match first.result with
  | .ok a =>
    let second := next a first.shop
    { second with log := first.log ++ second.log }
  | .error failure => { result := .error failure, shop := first.shop, log := first.log }

instance : Monad Service where
  pure a := ofResult (.ok a)
  bind := bind

variable {service : Service α} {start : Shop}

/-- A service goes on from where the one before it ended. -/
theorem bind_of_ok {a : α} (h : (service start).result = .ok a) (next : α → Service β) :
    (service >>= next) start =
      { next a (service start).shop with
        log := (service start).log ++ (next a (service start).shop).log } := by
  change Service.bind service next start = _
  simp only [Service.bind, h]

/-- A service does not go on after a failure. -/
theorem bind_of_error {failure : Failure} (h : (service start).result = .error failure)
    (next : α → Service β) :
    (service >>= next) start =
      { result := .error failure, shop := (service start).shop, log := (service start).log } := by
  change Service.bind service next start = _
  simp only [Service.bind, h]

instance : LawfulMonad Service := LawfulMonad.mk' Service
  (by
    intro α service
    funext start
    change Service.bind service _ start = service start
    cases h : service start with
    | mk result shop log => cases result <;> simp [Service.bind, h, ofResult])
  (by
    intro α β a next
    funext start
    change Service.bind _ next start = next a start
    simp [Service.bind, pure, ofResult])
  (by
    intro α β γ service next last
    funext start
    change Service.bind (Service.bind service next) last start =
      Service.bind service (fun a => Service.bind (next a) last) start
    unfold Service.bind
    cases service start with
    | mk result shop log =>
      cases result with
      | error failure => rfl
      | ok a =>
        dsimp only
        cases next a shop with
        | mk second after more => cases second <;> simp)

/-- A service that fails. -/
def fail (failure : Failure) : Service α := ofResult (.error failure)

/-- A value, or the fault that there is instead. -/
def ofFault (result : Except Fault α) : Service α := ofResult (result.mapError .fault)

instance : MonadLift (Except Fault) Service := ⟨ofFault⟩

/-- The shop as it is. -/
def shop : Service Shop := fun shop => { result := .ok shop, shop }

/-- The shop changed. -/
def change (next : Shop → Shop) : Service Unit := fun shop =>
  { result := .ok (), shop := next shop }

/-- A record written. -/
def record (entry : Log.Record) : Service Unit := fun shop =>
  { result := .ok (), shop, log := [entry] }

/-- A service whose failure is dealt with. -/
def recover (service : Service α) (next : Failure → Service α) : Service α := fun shop =>
  let first := service shop
  match first.result with
  | .ok _ => first
  | .error failure =>
    let second := next failure first.shop
    { second with log := first.log ++ second.log }

/-- A service that ends well has nothing that is to be dealt with. -/
theorem recover_of_ok {a : α} (h : (service start).result = .ok a)
    (next : Failure → Service α) : recover service next start = service start := by
  simp only [recover, h]

/-- A failure is dealt with where the service ended. -/
theorem recover_of_error {failure : Failure} (h : (service start).result = .error failure)
    (next : Failure → Service α) :
    recover service next start =
      { next failure (service start).shop with
        log := (service start).log ++ (next failure (service start).shop).log } := by
  simp only [recover, h]

/-- A connection opened, which is all that a service needs of the engine. -/
def connected : Service Unit := do
  if (← shop).outage then fail (.fault .cannotOpen)

/-- A statement made on the store, whether or not connections open. -/
def perform (call : Statement.Call β α) : Service α := fun shop =>
  let isPrepared := shop.prepared.contains call.statement
  let after := shop.remember call.statement
  match call.run isPrepared shop.left shop.store with
  | .ok (a, store) => { result := .ok a, shop := { after with store, left := none } }
  | .error fault =>
    let left := call.leaves isPrepared shop.store fault
    { result := .error (.fault fault), shop := { after with left } }

/-- A statement made through the connection. -/
def call (call : Statement.Call β α) : Service α := do
  connected
  perform call

/-- Work on the store that is no statement with values, whether or not connections open. -/
def onStore (work : Store → Except Fault (α × Store)) : Service α := fun shop =>
  match work shop.store with
  | .ok (a, store) => { result := .ok a, shop := { shop with store, left := none } }
  | .error fault => { result := .error (.fault fault), shop := { shop with left := some fault } }

/-- Whether the guard probes the database in the light of a result. -/
def isProbed : Except Failure α → Bool
  | .error (.fault fault) => fault.kind = .operational
  | _ => false

/-- A service, guarded. -/
def guarded (service : Service α) : Service α := fun shop =>
  let done := service shop
  { done with
    result := done.shop.outcome (Database.guard (.ofResult done.result))
    shop := if isProbed done.result then done.shop.probed else done.shop }

/-- A service that ends well is left as it is. -/
theorem guarded_of_ok {a : α} (h : (service start).result = .ok a) :
    guarded service start = service start := by
  have same : (service start).shop.outcome (Database.guard (.ofResult (service start).result)) =
      (service start).result := by
    unfold Shop.outcome
    rw [Database.guard_eq_of_ok (a := a) (by simpa [Database.Work.ofResult] using h)]
    rfl
  have unprobed : isProbed (service start).result = false := by rw [h]; rfl
  simp [guarded, same, unprobed]

end Service

end Storefront
