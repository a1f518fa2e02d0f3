import Storefront.Database.Schema
import Storefront.Shop.Basic

/-!
# Opening a shop

A shop opens on an empty database. Its log level and the address of its database must be readable;
then the database is probed and its tables are made. The tables can be made again at any time,
which adds those that are missing.

## Main definitions

* `Shop.prepare` — the missing tables made, after a probe
* `Shop.start` — a shop opened
-/

namespace Storefront.Shop

/-- The missing tables made, after a probe, in the database at an address. -/
def prepareAt (url : Database.Url) : Service Unit := fun shop =>
  let made : Except Failure Store :=
    if shop.outage then .error (.fault .cannotOpen) else shop.store.makeTables.mapError .fault
  let prepared := shop.outcome (Database.prepare (.ofResult made))
  let (result, log) := Database.announce url prepared
  { result := result.map fun _ => ()
    shop := { shop with store := prepared.toOption.getD shop.store }.probed
    log }

/-- The missing tables made, after a probe. -/
def prepare : Service Unit := do
  prepareAt (← Service.ofFault (Database.Url.read (← Service.shop).config.databaseUrl))

/-- A shop opened on an empty database, and what is written to its log. -/
def start (config : Config) (outage : Bool) : Except Failure Shop × List Log.Record :=
  match config.logLevel.threshold with
  | .error fault => (.error (.fault fault), [])
  | .ok threshold =>
    let opened := prepare { config, threshold, outage }
    (opened.result.map fun _ => opened.shop, Log.filter threshold opened.log)

end Storefront.Shop
