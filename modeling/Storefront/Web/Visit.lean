import Storefront.Shop.Accounts
import Storefront.Shop.Catalogue
import Storefront.Web.Message
import Storefront.Web.Page

/-!
# Answering requests

A request is answered by a service that gives a response. Every page but the home page and the fixed
pages for what the shop does not serve looks up the user whom the session names, even where it does
not show one; so a page fails when that user cannot be loaded, and the page for an unreachable
database is no exception.

## Main definitions

* `Shop.view` — what a view does
* `Shop.answer` — what a request comes to: a response or a failure that nothing caught
* `Shop.respond` — the same, with a failure turned into a response outside of tests
-/

namespace Storefront.Shop

/-- A page that looks up the user whom the session names. -/
def page (key : Sessions.Key) (status : Nat) (body : Text) : Service Response := do
  let _ ← currentUser key
  return .page status body

/-- The home page for the user whom the session names. -/
def homePage (key : Sessions.Key) : Service Response := do
  let user ← currentUser key
  return .page 200 (Page.home (user.map User.email))

/-- What is done for whoever is logged in; anybody else is told to log in first. -/
def forUser (key : Sessions.Key) (work : Service Response) : Service Response := do
  match ← currentUser key with
  | some _ => work
  -- The page looks the user up again and finds nobody again.
  | none => page key 401 Page.unauthorized

/-- A login: the session names the user of the email that was sent. -/
def logIn (key : Sessions.Key) (body : Body) : Service Response :=
  let email := ((body.pairs.lookup (Text.ofString "email")).getD []).strip
  if email.isEmpty then page key 422 (Page.login (some (Text.ofString "Missing email")))
  else do
    let user ← userFor email
    Service.change fun shop =>
      { shop with sessions := shop.sessions.set key (.str (Text.ofNat user.id)) }
    Service.record (userRecord "User " user " logged in")
    return .page 200 (Page.loggedIn user.email)

/-- A logout: the session names nobody afterwards. -/
def logOut (key : Sessions.Key) : Service Response := do
  match ← currentUser key with
  | some user => Service.record (userRecord "User " user " logged out")
  | none => pure ()
  Service.change fun shop => { shop with sessions := shop.sessions.clear key }
  return .page 200 Page.loggedOut

/-- The response to fields with complaints. -/
def complaintResponse (report : Product.Report) : Response :=
  .json 422 <| .obj [
    (Text.ofString "errors",
      .obj (report.complaints.map fun entry => (entry.1, .str entry.2.message))),
    (Text.ofString "message", .str (Text.ofString "The given data was invalid."))]

/-- The response to a product that was stored. -/
def createdResponse (product : Product) : Response :=
  .json 201 <| .obj [
    (Text.ofString "data", .obj [
      (Text.ofString "id", .int product.id),
      (Text.ofString "title", .str product.title)]),
    (Text.ofString "message", .str (Text.ofString "created"))]

/-- A product submitted: judged, and stored if there is no complaint. -/
def submitProduct (fields : Json.Members) : Service Response := do
  let report ← judge (.obj fields)
  if report.complaints.isEmpty then return createdResponse (← addProduct report.draft)
  else return complaintResponse report

/-- A product submitted in a body, once that can be read. -/
def submitBody (body : Body) : Service Response := do
  Service.ofFault (body.checkDepth (← Service.shop).config.maxDepth)
  submitProduct body.fields

/-- The product with a number, or word that there is none. -/
def showProduct (id : Nat) : Service Response := do
  match ← findProduct id with
  | some product => return .json 200 product.summary.json
  | none =>
    return .json 404 <| .obj [
      (Text.ofString "message", .str (Text.ofString "Product not found"))]

/-- The form for a new product, if what it shows can be written. -/
def productForm (key : Sessions.Key) : Service Response := do
  let limits := (← Service.shop).limits
  let body := Page.productForm limits.title.shown limits.sku.shown
  let response ← page key 200 body
  body.checkWritten
  return response

/-- What a view does. -/
def view (view : View) (key : Sessions.Key) (body : Body) : Service Response :=
  match view with
  | .home => homePage key
  | .dashboard => forUser key (homePage key)
  | .loginForm => page key 200 (Page.login none)
  | .login => logIn key body
  | .logout => logOut key
  | .addProduct => forUser key (submitBody body)
  | .product id => showProduct id
  | .productForm => forUser key (productForm key)
  | .file => return .page 404 Page.notFound

/-- The record of a request that met an unreachable database. -/
def unreachableRecord (failure : Failure) : Log.Record where
  level := .error
  source := .application
  message := Text.ofString "Database connection failed: " ++ failure.message
  failure := some failure

/-- What a request comes to when its view has failed. An unreachable database is recorded and
answered with a page, which may fail in its turn. -/
def answerFailure (key : Sessions.Key) (failure : Failure) : Service Response :=
  match failure with
  | .unreachable .. => do
    Service.record (unreachableRecord failure)
    page key 503 Page.unavailable
  | .fault _ => .fail failure

/-- The session that a request shows. -/
def sessionKey (request : Request) (target : Target) : Sessions.Key where
  client := request.client
  host := target.sessionHost

/-- What a request comes to. -/
def answer (request : Request) (target : Target) : Service Response :=
  if target.isMisnamed then return .page 400 Page.badRequest
  else match resolve request.method target.isSocket target.path with
  | .missing => return .page 404 Page.notFound
  | .refused allow => return (Response.page 405 Page.methodNotAllowed).allowing allow
  | .unsuited => return .page 400 Page.badRequest
  | .moved path => return .page 308 (Page.moved (target.location path))
  | .described allow => return (Response.page 200 []).allowing allow
  | .view v =>
    let key := sessionKey request target
    (view v key request.body).recover (answerFailure key)

/-- The record of a request that has failed. -/
def failedRecord (request : Request) (target : Target) (failure : Failure) : Log.Record where
  level := .error
  source := .application
  message := Text.ofString "Exception on " ++ target.path ++ Text.ofString " [" ++
    request.method.capitals ++ [(']' : CodePoint)]
  failure := some failure

/-- What becomes of a failure that nothing caught. Under test it is passed on; otherwise it is
recorded and answered with a page. -/
def settle (request : Request) (target : Target) (failure : Failure) : Service Response := do
  if (← Service.shop).config.isTesting then Service.fail failure
  else
    Service.record (failedRecord request target failure)
    return .page 500 Page.internalError

/-- What a browser gets for a request, if the request can be sent. -/
def respond (request : Request) : Service Response := do
  let target ← Service.ofFault request.read
  let response ← (answer request target).recover (settle request target)
  return if request.isHead then response.withoutBody else response

end Storefront.Shop
