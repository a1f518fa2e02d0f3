import Storefront.Database.Engine
import Storefront.Database.Url
import Storefront.Log

/-!
# Preparing the database

Before a shop opens, its database is probed and the tables that it lacks are made. If the database
cannot be reached, that is recorded with the cause.

## Main definitions

* `Database.prepare` — the probe and the guarded making of tables
* `Database.announce` — what it comes to, and what is recorded of it
-/

namespace Storefront.Database

/-- The probe, and then the tables in a guarded block. -/
def prepare {α : Type} (makeTables : Work α) : Work α := do
  check
  guard makeTables

/-- The record of a database that is there with all its tables. -/
def verifiedRecord (address : Text) : Log.Record where
  level := .debug
  source := .database
  message := Text.ofString "Schema verified for " ++ address

/-- The record of a database that cannot be reached. -/
def unavailableRecord (cause : Option Fault) : Log.Record where
  level := .error
  source := .database
  message := Text.ofString "Database unavailable at start-up: " ++
    (cause.map Fault.description).getD (Text.ofString "None")

/-- What the preparing of the database at an address comes to, and what is recorded of it, once the
tables are made or not. In the record the database is shown by its address, so an address that
cannot be shown is a fault even then. -/
def announce {α : Type} (url : Url) : Except Failure α → Except Failure α × List Log.Record
  | .ok a =>
    match url.shown with
    | .ok address => (.ok a, [verifiedRecord address])
    | .error fault => (.error (.fault fault), [])
  | .error (.unreachable message cause) =>
    (.error (.unreachable message cause), [unavailableRecord cause])
  | .error (.fault fault) => (.error (.fault fault), [])

end Storefront.Database
