import Storefront.Web.Visit
import Storefront.Proofs.Statement

/-!
# Views and the requests for them

A request is handed to a view when it asks for the view's path with one of the view's methods. Which
view that is depends on neither the shop nor the session, so what is said of views is said of the
requests for their paths.

## Main definitions

* `View.asked?` — the path of a view that has one path, with its methods
* `Visit`, `Request.visit?` — the view that a request is handed to, and the session that it shows
* `Request.AsksFor` — requests for a path

## Main results

* `exists_route_of_resolve` — a view is the view of a route that has the path and takes the method
* `resolve_eq_view_iff` — the paths and methods that are resolved to a view
* `Request.asksFor_iff` — requests for the path of a view are those that are handed to it
-/

namespace Storefront

/-- The path of a view that has one path, and the methods with which it is asked for. -/
def View.asked? : View → Option (String × List Method)
  | .home => some ("/", [.get, .head])
  | .dashboard => some ("/dashboard", [.get, .head])
  | .loginForm => some ("/login", [.get, .head])
  | .login => some ("/login", [.post])
  | .logout => some ("/logout", [.get, .head])
  | .addProduct => some ("/products", [.post])
  | .productForm => some ("/products/create", [.get, .head])
  | .product _ | .file => none

section Resolve

variable {method path : Text} {isSocket : Bool} {view : View}

theorem Route.resolve_ne_view_of_moved (route : Route) (moved : Text) :
    route.resolve method isSocket (fun _ => .moved moved) ≠ .view view := by
  unfold Route.resolve
  split
  · nofun
  · split <;> nofun

theorem resolveMoved_ne_view : resolveMoved method isSocket path ≠ .view view := by
  unfold resolveMoved
  split
  · nofun
  · exact Route.resolve_ne_view_of_moved _ _

/-- A view is the view of a route that has the path and takes the method. -/
theorem exists_route_of_resolve (h : resolve method isSocket path = .view view) :
    isSocket = false ∧ ∃ route ∈ routes, route.pattern.fits path = true ∧
      ∃ taken ∈ route.methods, taken.name = method.capitals ∧ taken ≠ .options ∧
        ∃ number, view = route.endpoint.view taken number := by
  unfold resolve at h
  split at h
  · -- An empty path is moved or missing.
    split at h
    · cases h
    · cases h
  split at h
  next route found =>
    unfold Route.resolve at h
    split at h
    · cases h
    next taken takes =>
      split at h
      · cases h
      next plain =>
        unfold Route.accept at h
        dsimp only at h
        -- A number of too many digits and a question for methods lead to no view either.
        split at h
        · cases h
        split at h
        · cases h
        next asked =>
          have fits : route.pattern.fits path = true := by
            unfold route? at found
            simpa using List.find?_some found
          have named : taken.name = method.capitals := by simpa using List.find?_some takes
          exact ⟨by simpa using plain, route, List.mem_of_find?_eq_some found, fits, taken,
            List.mem_of_find?_eq_some takes, named, asked, _, (Resolution.view.inj h).symm⟩
  · exact absurd h resolveMoved_ne_view

/-- A route that leads to a view with one path has that path and no other. -/
theorem pattern_eq_of_asked {route : Route} {taken : Method} {number : Nat} {known : String}
    {methods : List Method} (mem : route ∈ routes) (takes : taken ∈ route.methods)
    (proper : taken ≠ .options)
    (asked : (route.endpoint.view taken number).asked? = some (known, methods)) :
    route.pattern = .exact known ∧ taken ∈ methods := by
  -- The table is gone through route by route and method by method.
  simp only [routes, List.mem_cons, List.not_mem_nil, or_false] at mem
  rcases mem with rfl | rfl | rfl | rfl | rfl | rfl | rfl | rfl <;> cases taken <;>
    simp_all [Endpoint.view, View.asked?, readingMethods] <;>
    exact asked.2 ▸ by simp

/-- The table has each view at its path for each of its methods. -/
theorem resolve_of_asked {known : String} {methods : List Method}
    (asked : view.asked? = some (known, methods)) :
    ∀ taken ∈ methods, resolve taken.name false (Text.ofString known) = .view view := by
  cases view with
  | product id => cases asked
  | file => cases asked
  | _ =>
    cases asked
    decide

/-- Only the capitals of a method matter. -/
theorem resolve_congr {other : Text} (same : method.capitals = other.capitals) :
    resolve method isSocket path = resolve other isSocket path := by
  unfold resolve resolveMoved Route.resolve
  rw [same]

/-- The paths and methods that are resolved to a view which has one path. -/
theorem resolve_eq_view_iff {known : String} {methods : List Method}
    (asked : view.asked? = some (known, methods)) :
    resolve method isSocket path = .view view ↔
      isSocket = false ∧ path = Text.ofString known ∧
        ∃ taken ∈ methods, taken.name = method.capitals := by
  constructor
  · intro h
    obtain ⟨plain, route, mem, fits, taken, takes, named, proper, number, rfl⟩ :=
      exists_route_of_resolve h
    obtain ⟨pattern, listed⟩ := pattern_eq_of_asked mem takes proper asked
    have same : path = Text.ofString known := by simpa [pattern, Pattern.fits] using fits
    exact ⟨plain, same, taken, listed, named⟩
  · rintro ⟨rfl, rfl, taken, listed, named⟩
    -- The name of a method is in capitals already.
    have capitals : method.capitals = taken.name.capitals := by
      rw [← named]
      cases taken <;> rfl
    rw [resolve_congr capitals]
    exact resolve_of_asked asked taken listed

end Resolve

/-- A view that a request is handed to, for a target and with the session that it shows. -/
structure Visit where
  target : Target
  key : Sessions.Key
  view : View

namespace Request

/-- The view that a request is handed to, if it can be sent and is. -/
def visit? (request : Request) : Option Visit :=
  match request.read with
  | .error _ => none
  | .ok target =>
    if target.isMisnamed then none
    else
      match resolve request.method target.isSocket target.path with
      | .view view => some { target, key := Shop.sessionKey request target, view }
      | _ => none

theorem visit?_eq_some_iff {request : Request} {visit : Visit} :
    request.visit? = some visit ↔
      request.read = .ok visit.target ∧ visit.target.isMisnamed = false ∧
        visit.key = Shop.sessionKey request visit.target ∧
        resolve request.method visit.target.isSocket visit.target.path = .view visit.view := by
  obtain ⟨target, key, view⟩ := visit
  unfold visit?
  constructor
  · intro h
    split at h
    · cases h
    next target read =>
      split at h
      · cases h
      next named =>
        split at h
        · next view found =>
          cases h
          exact ⟨read, by simpa using named, rfl, found⟩
        · cases h
  · rintro ⟨read, named, shown, found⟩
    dsimp only at read named shown found
    simp [read, named, shown, found]

/-- A request for a path with one of some methods, at a host that can be asked, with the session
that it shows. -/
def AsksFor (request : Request) (methods : List Method) (path : String) (key : Sessions.Key) :
    Prop :=
  ∃ target, request.read = .ok target ∧ target.isMisnamed = false ∧ target.isSocket = false ∧
    target.path = Text.ofString path ∧
    (∃ method ∈ methods, method.name = request.method.capitals) ∧
    key = Shop.sessionKey request target

/-- Requests for the path of a view are those that are handed to it. -/
theorem asksFor_iff {request : Request} {path : String} {methods : List Method}
    {key : Sessions.Key} (view : View) (asked : view.asked? = some (path, methods)) :
    request.AsksFor methods path key ↔
      ∃ target, request.visit? = some { target, key, view } := by
  simp only [AsksFor, visit?_eq_some_iff, resolve_eq_view_iff asked]
  constructor
  · rintro ⟨target, read, named, plain, same, method, shown⟩
    exact ⟨target, read, named, shown, plain, same, method⟩
  · rintro ⟨target, read, named, shown, plain, same, method⟩
    exact ⟨target, read, named, plain, same, method, shown⟩

/-- A request that is handed to a view has asked for its path. -/
theorem asksFor_of_visited {request : Request} {visit : Visit} {path : String}
    {methods : List Method} (visited : request.visit? = some visit)
    (asked : visit.view.asked? = some (path, methods)) :
    request.AsksFor methods path visit.key :=
  (asksFor_iff visit.view asked).2 ⟨visit.target, visited⟩

end Request

end Storefront
