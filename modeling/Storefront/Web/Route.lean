import Storefront.Number.Integer
import Storefront.Text.Capital

/-!
# Routes

The routes are a table of patterns for paths, each with the methods that it takes. What a request
is answered with is settled in this order: no pattern fits, the method is not among those of
the route, the methods are asked for, or the request is handed to a view. A path that fits a pattern
only once its runs of slashes are single slashes, or once the empty path is a slash, is moved
there. All but the views depend on nothing but the target and the method.

## Main definitions

* `Method`, `Pattern`, `Route`, `routes` — the table
* `View`, `Resolution`, `resolve` — what becomes of a request
-/

namespace Storefront

/-- The methods that routes take. -/
inductive Method
  | get
  | head
  | options
  | post
  deriving DecidableEq, Repr

/-- The name of a method. -/
def Method.name : Method → Text
  | get => Text.ofString "GET"
  | head => Text.ofString "HEAD"
  | options => Text.ofString "OPTIONS"
  | post => Text.ofString "POST"

/-- What a path may look like. -/
inductive Pattern
  /-- One path. -/
  | exact (path : String)
  /-- The path of a product: its number in decimal digits of any script. -/
  | product
  /-- The path of a file. -/
  | file
  deriving DecidableEq, Repr

namespace Pattern

/-- The digits of a product's number, if the path is that of a product. -/
def productDigits? (path : Text) : Option (List Nat) :=
  let start := Text.ofString "/products/"
  if start.isPrefixOf path then
    match path.drop start.length with
    | [] => none
    | number => number.mapM CodePoint.digit?
  else none

/-- Whether a path is that of a file: a name that does not start with a slash and has no line end
after its first character. -/
def isFile (path : Text) : Bool :=
  let start := Text.ofString "/static/"
  start.isPrefixOf path &&
    match path.drop start.length with
    | [] => false
    | c :: rest => c != ('/' : CodePoint) && !rest.contains ('\n' : CodePoint)

/-- Whether a path fits a pattern. -/
def fits (pattern : Pattern) (path : Text) : Bool :=
  match pattern with
  | exact expected => path == Text.ofString expected
  | product => (productDigits? path).isSome
  | file => isFile path

end Pattern

/-- What a route leads to. -/
inductive Endpoint
  | home
  | dashboard
  | login
  | logout
  | addProduct
  | product
  | productForm
  | file
  deriving DecidableEq, Repr

/-- The name of an endpoint. -/
def Endpoint.name : Endpoint → Text
  | home => Text.ofString "home.index"
  | dashboard => Text.ofString "home.dashboard"
  | login => Text.ofString "auth.login"
  | logout => Text.ofString "auth.logout"
  | addProduct => Text.ofString "products.store"
  | product => Text.ofString "products.show"
  | productForm => Text.ofString "products.create"
  | file => Text.ofString "static"

/-- A route. -/
structure Route where
  rule : String
  pattern : Pattern
  endpoint : Endpoint
  /-- The methods in the order of their names. -/
  methods : List Method
  deriving DecidableEq, Repr

/-- The methods of a route that only shows something. -/
def readingMethods : List Method := [.get, .head, .options]

/-- The routes in the order of their rules. No path fits two of them. -/
def routes : List Route :=
  [⟨"/", .exact "/", .home, readingMethods⟩,
   ⟨"/dashboard", .exact "/dashboard", .dashboard, readingMethods⟩,
   ⟨"/login", .exact "/login", .login, [.get, .head, .options, .post]⟩,
   ⟨"/logout", .exact "/logout", .logout, readingMethods⟩,
   ⟨"/products", .exact "/products", .addProduct, [.options, .post]⟩,
   ⟨"/products/<int:product_id>", .product, .product, readingMethods⟩,
   ⟨"/products/create", .exact "/products/create", .productForm, readingMethods⟩,
   ⟨"/static/<path:filename>", .file, .file, readingMethods⟩]

/-- What is to be shown or done. -/
inductive View
  | home
  | dashboard
  | loginForm
  | login
  | logout
  | addProduct
  | product (id : Nat)
  | productForm
  | file
  deriving DecidableEq, Repr

/-- What becomes of a request, as far as its target and method settle it. -/
inductive Resolution
  /-- No route has the path. -/
  | missing
  /-- The route does not take the method. -/
  | refused (allow : List Method)
  /-- A lasting connection is asked for, which no route offers. -/
  | unsuited
  /-- The path is to be asked for in another form. -/
  | moved (path : Text)
  /-- The methods of the route are asked for. -/
  | described (allow : List Method)
  /-- A view answers. -/
  | view (view : View)
  deriving DecidableEq

/-- The view of an endpoint for a method other than that which asks for methods. -/
def Endpoint.view (endpoint : Endpoint) (method : Method) (number : Nat) : View :=
  match endpoint with
  | home => .home
  | dashboard => .dashboard
  | login => if method = .post then .login else .loginForm
  | logout => .logout
  | addProduct => .addProduct
  | product => .product number
  | productForm => .productForm
  | file => .file

/-- A path with each run of slashes made one slash. -/
def mergeSlashes : Text → Text
  | a :: b :: rest =>
    if a = ('/' : CodePoint) && b = ('/' : CodePoint) then mergeSlashes (b :: rest)
    else a :: mergeSlashes (b :: rest)
  | t => t

/-- The route of a path, if there is one. -/
def route? (path : Text) : Option Route := routes.find? fun route => route.pattern.fits path

/-- What becomes of a request for a path that a route has, given what becomes of one with a method
that the route takes. -/
def Route.resolve (route : Route) (method : Text) (isSocket : Bool)
    (accepted : Method → Resolution) : Resolution :=
  match route.methods.find? fun taken => taken.name = method.capitals with
  | none => .refused route.methods
  | some taken => if isSocket then .unsuited else accepted taken

/-- What becomes of a request with a method that the route of its path takes. A product's number of
too many digits is the number of none. -/
def Route.accept (route : Route) (path : Text) (method : Method) : Resolution :=
  let digits := (Pattern.productDigits? path).getD []
  if Integer.maxDigits < digits.length then .missing
  else if method = .options then .described route.methods
  else .view (route.endpoint.view method (valueOfDigits digits))

/-- What becomes of a request for a path that no route has as it is. -/
def resolveMoved (method : Text) (isSocket : Bool) (path : Text) : Resolution :=
  match route? path with
  | none => .missing
  | some route => route.resolve method isSocket fun _ => .moved path

/-- What becomes of a request for a path. -/
def resolve (method : Text) (isSocket : Bool) (path : Text) : Resolution :=
  match path with
  | [] =>
    -- An empty path is no path with a wrong method: only what can be moved is.
    match resolveMoved method isSocket (Text.ofString "/") with
    | .moved path => .moved path
    | _ => .missing
  | path =>
    match route? path with
    | some route => route.resolve method isSocket (route.accept path)
    | none => resolveMoved method isSocket (mergeSlashes path)

end Storefront
