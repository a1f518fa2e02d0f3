import Storefront.Shop.Start
import Storefront.Web.Visit

/-!
# Runs

A run is a list of steps: requests of browsers, direct calls of the services, and what happens to
the shop from outside, such as an outage or a deleted row. Each step has an answer and its records
in the log.

## Main definitions

* `Step`, `Answer` — steps and their answers
* `Step.service` — what a step does
* `Shop.step` — what comes of a step
* `Shop.run` — what comes of a list of steps
-/

namespace Storefront

/-- A step of a run. -/
inductive Step
  | request (request : Request)
  /-- A user number is written from outside into a browser's session at the usual host. -/
  | setUserNumber (client : Text) (id : Json)
  /-- From now on no connection can be opened, or can again. -/
  | setOutage (on : Bool)
  /-- From now on the store takes no writes, or does again. -/
  | setReadOnly (on : Bool)
  | dropTable (table : Table)
  | deleteRow (table : Table) (id : Int)
  | prepare
  | check
  | judge (payload : Json)
  /-- A product is made from named fields. -/
  | addProduct (fields : Json.Members)
  | findProduct (id : Int)
  | userFor (email : Text)
  | dump

/-- The answer to a step. -/
inductive Answer
  | response (response : Response)
  | done
  | confirmed
  | count (rows : Nat)
  | report (report : Product.Report)
  | product (product : Option Product)
  | user (user : User)
  | rows (users : List User) (products : List Product)
  | failed (failure : Failure)

/-- What a step does. -/
def Step.service : Step → Service Answer
  | .request sent => .response <$> Shop.respond sent
  | .setUserNumber client id => do
    let key : Sessions.Key := { client, host := Target.defaultHost }
    Service.change fun shop => { shop with sessions := shop.sessions.set key id }
    return .done
  | .setOutage on => do
    Service.change fun shop => { shop with outage := on }
    return .done
  | .setReadOnly on => do
    Service.onStore fun store => .ok ((), { store with readOnly := on })
    return .done
  | .dropTable table => do
    Service.onStore fun store => (store.drop table).map ((), ·)
    return .done
  | .deleteRow table id => .count <$> Service.perform (Store.delete table id)
  | .prepare => do
    Shop.prepare
    return .done
  | .check => do
    Service.ofResult ((← Service.shop).outcome Database.check)
    Service.change (·.probed)
    return .confirmed
  | .judge payload => .report <$> Shop.judge payload
  | .addProduct fields => do
    let draft ← Service.ofFault (Product.Draft.ofFields fields)
    return .product (some (← Shop.addProduct draft))
  | .findProduct id => .product <$> Shop.findProduct id
  | .userFor email => .user <$> Shop.userFor email
  | .dump => do
    Service.connected
    let (users, products) ← Service.onStore fun store => store.dump.map (·, store)
    return .rows users products

namespace Shop

/-- What comes of a step. -/
structure Progress where
  answer : Answer
  shop : Shop
  log : List Log.Record

/-- What comes of a step, with the records that reach the threshold. -/
def step (shop : Shop) (step : Step) : Progress :=
  let outcome := step.service shop
  { answer := match outcome.result with
      | .ok answer => answer
      | .error failure => .failed failure
    shop := outcome.shop
    log := Log.filter shop.threshold outcome.log }

/-- The answers to a list of steps with their records, and the shop after them. -/
def run (shop : Shop) : List Step → List (Answer × List Log.Record) × Shop
  | [] => ([], shop)
  | first :: rest =>
    let progress := shop.step first
    let (answers, last) := progress.shop.run rest
    ((progress.answer, progress.log) :: answers, last)

end Shop

end Storefront
