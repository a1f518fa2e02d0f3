import Storefront.Command

/-!
# The command line

`check-db` tells on one line whether the database can be reached, with exit status 1 if not.
`routes` opens the shop and lists what it serves. Both read the environment.
-/

namespace Storefront.Command

/-- The environment of the process. -/
def readEnvironment : IO Environment := do
  let setting (name : String) : IO (Option Text) := do
    return (← IO.getEnv name).map Text.ofString
  return {
    secretKey := ← setting "SECRET_KEY"
    databaseUrl := ← setting "DATABASE_URL"
    logLevel := ← setting "LOG_LEVEL" }

/-- A route on one line. -/
def routeLine (route : Route) : String :=
  let methods := route.methods.map fun m => m.name.toString
  route.rule ++ " " ++ route.endpoint.name.toString ++ " " ++ ",".intercalate methods

/-- The failure of a command, on the error stream. -/
def complain (failure : Failure) : IO UInt32 := do
  IO.eprintln failure.message.toString
  return 1

end Storefront.Command

open Storefront

def main (arguments : List String) : IO UInt32 := do
  let environment ← Command.readEnvironment
  match arguments with
  | ["check-db"] =>
    match Command.checkDatabase environment false with
    | .ok verdict =>
      IO.println verdict.line.toString
      return verdict.status.toUInt32
    | .error failure => Command.complain failure
  | ["routes"] =>
    match Command.serve environment false true with
    | .ok (routes, _) =>
      for route in routes do
        IO.println (Command.routeLine route)
      return 0
    | .error failure => Command.complain failure
  | _ =>
    IO.eprintln "usage: storefront check-db | routes"
    return 2
