import Storefront.Proofs.Access
import Storefront.Proofs.Paths
import Storefront.Proofs.UnderTest

/-!
# Routing

What becomes of a request is settled by its method and its target. The shop is not asked, and
neither is the session, so two shops in whatever states route the same request alike. What no view
answers is answered alike too, in an outage as at any other time, and leaves the shop as it is.

On the path of a route, a method is refused if and only if the route does not take it, and whoever
is refused or asks for the methods is told those of the route.

## Main definitions

* `Request.resolution` — what becomes of a request
* `Answer.look` — the answers that are given without a view, as they can be told from the others
* `Request.RoutedAlike` — two requests that are routed alike in all shops
* `Route.TellsMethods` — what is told of the methods of a route on its path

## Main results

* `Shop.look_step` — the answers given without a view are known by their looks
* `Shop.step_of_settled` — an answer that is settled without the shop leaves the shop as it is
* `route?_of_fits` — a path that fits a route fits no other
* `Shop.routing` — routing depends on the method and the target alone
-/

namespace Storefront

open Service

/-! ### What becomes of a request -/

/-- What becomes of a request for a target. At a host that cannot be asked it is unsuited. -/
def Request.resolution (request : Request) (target : Target) : Resolution :=
  if target.isMisnamed then .unsuited
  else resolve request.method target.isSocket target.path

/-- The response that settles a request without a look at the shop. The view of a file looks at
nothing either, as there are no files. -/
def Resolution.response? (target : Target) : Resolution → Option Response
  | .missing => some (.page 404 Page.notFound)
  | .refused allow => some ((Response.page 405 Page.methodNotAllowed).allowing allow)
  | .unsuited => some (.page 400 Page.badRequest)
  | .moved path => some (.page 308 (Page.moved (target.location path)))
  | .described allow => some ((Response.page 200 []).allowing allow)
  | .view .file => some (.page 404 Page.notFound)
  | .view _ => none

/-- How an answer looks to whoever knows the pages that are given without a view. -/
inductive Look
  /-- The page for a path that nothing is found at. -/
  | missing
  /-- A method that the path does not take. -/
  | refused
  /-- The methods of the path. -/
  | described
  /-- Anything else. -/
  | other
  deriving DecidableEq

/-- How a response looks. -/
def Response.look (response : Response) : Look :=
  if response.status = 405 then .refused
  else if response.status = 404 ∧ response.media = .html then .missing
  else if response.status = 200 ∧ response.allow ≠ none then .described
  else .other

/-- How an answer looks. -/
def Answer.look : Answer → Look
  | .response given => given.look
  | _ => .other

/-- How what becomes of a request looks. -/
def Resolution.look : Resolution → Look
  | .missing | .view .file => .missing
  | .refused _ => .refused
  | .described _ => .described
  | _ => .other

/-- Two requests with one method for one target, which both can be sent or cannot. -/
structure Request.Alike (a b : Request) : Prop where
  method : a.method = b.method
  target : a.target = b.target
  body : a.body.check = b.body.check

section Resolution

variable {a b request : Request} {target : Target} {resolution : Resolution} {response : Response}

namespace Request

theorem Alike.read (alike : a.Alike b) : a.read = b.read := by
  unfold Request.read
  rw [alike.target, alike.body]

theorem Alike.resolution_eq (alike : a.Alike b) : a.resolution target = b.resolution target := by
  unfold Request.resolution
  rw [alike.method]

theorem Alike.delivered (alike : a.Alike b) : a.delivered = b.delivered := by
  funext response
  unfold Request.delivered isHead
  rw [alike.method]

/-- Only the session can be another one. -/
theorem Alike.handed (alike : a.Alike b) : a.visit?.map Visit.view = b.visit?.map Visit.view := by
  unfold visit?
  rw [alike.read, alike.method]
  split
  · rfl
  · split
    · rfl
    · split <;> rfl

/-- A request that a view answers is handed to it. -/
theorem visit?_of_resolution {view : View} (read : request.read = .ok target)
    (resolved : request.resolution target = .view view) :
    request.visit? = some { target, key := Shop.sessionKey request target, view } := by
  unfold resolution at resolved
  split at resolved
  · cases resolved
  · next named => exact visit?_eq_some_iff.2 ⟨read, Bool.eq_false_iff.2 named, rfl, resolved⟩

/-- A response without its body looks as it does with it. -/
theorem look_delivered (request : Request) (response : Response) :
    (request.delivered response).look = response.look := by
  unfold delivered
  split <;> rfl

end Request

namespace Resolution

theorem look_of_settled (settled : resolution.response? target = some response) :
    response.look = resolution.look := by
  cases resolution with
  | view view =>
    cases view <;> cases settled
    rfl
  | _ =>
    cases settled
    rfl

/-- Nothing but a view looks at the shop. -/
theorem exists_view_of_unsettled (unsettled : resolution.response? target = none) :
    ∃ view, resolution = .view view ∧ view ≠ .file := by
  cases resolution with
  | view view =>
    refine ⟨view, rfl, fun file => ?_⟩
    rw [file] at unsettled
    cases unsettled
  | _ => cases unsettled

end Resolution

end Resolution

/-! ### What is answered -/

namespace Shop

variable {a b request : Request} {target : Target} {resolution : Resolution} {response : Response}

/-- A request that is settled by a response comes to that and to nothing else. -/
theorem answer_of_settled (settled : (request.resolution target).response? target = some response) :
    answer request target = pure response := by
  unfold Request.resolution at settled
  unfold answer
  split at settled
  next misnamed =>
    cases settled
    exact if_pos misnamed
  next named =>
    rw [if_neg named]
    cases found : resolve request.method target.isSocket target.path with
    | view view =>
      rw [found] at settled
      cases view <;> cases settled
      rfl
    | _ =>
      rw [found] at settled
      cases settled
      rfl

/-- Nothing is touched and nothing is recorded, whatever the state of the shop. -/
theorem step_of_settled (read : request.read = .ok target)
    (settled : (request.resolution target).response? target = some response) (shop : Shop) :
    shop.step (.request request) =
      { answer := .response (request.delivered response), shop, log := [] } := by
  have same := answer_of_settled settled
  have answered : (answer request target shop).result = .ok response := by
    rw [same]
    rfl
  rw [step_of_answered read answered, same]
  rfl

/-- A view that looks at the shop answers with none of the pages that are given without one. -/
theorem Serves.look {start changed : Shop} {key : Sessions.Key} {body : Body} {view : View}
    (serves : start.Serves key body view response changed) (looks : view ≠ .file) :
    response.look = .other := by
  cases serves with
  | file => exact absurd rfl looks
  | _ => rfl

theorem look_of_visited {visit : Visit} (visited : request.visit? = some visit)
    (looks : visit.view ≠ .file) (start : Shop) :
    (start.step (.request request)).answer.look = .other := by
  obtain ⟨changed, handles, -⟩ := start.exists_handles request
  cases handled : (start.step (.request request)).answer with
  | response given =>
    rw [handled] at handles
    cases handles with
    | unvisited unvisited => cases unvisited.symm.trans visited
    | served visited' serves =>
      obtain rfl := Option.some.inj (visited'.symm.trans visited)
      exact (request.look_delivered _).trans (serves.look looks)
    | unavailable => exact request.look_delivered _
    | broken => exact request.look_delivered _
  | _ => rfl

/-- A request that cannot be sent looks like nothing. -/
theorem look_step_of_unread {fault : Fault} (unread : request.read = .error fault) (shop : Shop) :
    (shop.step (.request request)).answer.look = .other := by
  rw [step_of_unread unread]
  rfl

/-- The pages that are given without a view are known by their looks in every shop. -/
theorem look_step_of_read (read : request.read = .ok target) (shop : Shop) :
    (shop.step (.request request)).answer.look = (request.resolution target).look := by
  cases settled : (request.resolution target).response? target with
  | some response =>
    rw [step_of_settled read settled]
    exact (request.look_delivered _).trans (Resolution.look_of_settled settled)
  | none =>
    obtain ⟨view, resolved, looks⟩ := Resolution.exists_view_of_unsettled settled
    rw [look_of_visited (Request.visit?_of_resolution read resolved) looks, resolved]
    cases view <;> first | rfl | exact absurd rfl looks

/-! ### Two shops -/

/-- Two requests that are routed alike, whatever the shops that they are sent to and the sessions
that they show. -/
structure RoutedAlike (a b : Request) : Prop where
  /-- Both are handed to one view, or neither is handed to any. -/
  handed : a.visit?.map Visit.view = b.visit?.map Visit.view
  /-- Both are answered by one of the pages that are given without a view, or neither is. -/
  look : ∀ start other : Shop, (start.step (.request a)).answer.look =
    (other.step (.request b)).answer.look
  /-- These pages are the same in all shops, and they touch nothing. -/
  same : ∀ start : Shop, (start.step (.request a)).answer.look ≠ .other →
    ∃ answer, ∀ shop : Shop, shop.step (.request a) = { answer, shop, log := [] } ∧
      shop.step (.request b) = { answer, shop, log := [] }
  /-- So is all else that no view answers. -/
  unvisited : a.visit? = none →
    ∃ answer, ∀ shop : Shop, shop.step (.request a) = { answer, shop, log := [] } ∧
      shop.step (.request b) = { answer, shop, log := [] }

theorem exists_answer_of_settled (alike : a.Alike b) (read : a.read = .ok target)
    (settled : (a.resolution target).response? target = some response) :
    ∃ answer, ∀ shop : Shop, shop.step (.request a) = { answer, shop, log := [] } ∧
      shop.step (.request b) = { answer, shop, log := [] } := by
  refine ⟨.response (a.delivered response), fun shop => ⟨step_of_settled read settled shop, ?_⟩⟩
  rw [alike.delivered]
  rw [alike.resolution_eq] at settled
  exact step_of_settled (alike.read ▸ read) settled shop

theorem routedAlike (alike : a.Alike b) : RoutedAlike a b where
  handed := alike.handed
  look start other := by
    cases read : a.read with
    | error fault =>
      rw [look_step_of_unread read, look_step_of_unread (alike.read ▸ read)]
    | ok target =>
      rw [look_step_of_read read, look_step_of_read (alike.read ▸ read), alike.resolution_eq]
  same start seen := by
    cases read : a.read with
    | error fault => exact absurd (look_step_of_unread read start) seen
    | ok target =>
      cases settled : (a.resolution target).response? target with
      | some response => exact exists_answer_of_settled alike read settled
      | none =>
        obtain ⟨view, resolved, looks⟩ := Resolution.exists_view_of_unsettled settled
        exact absurd (look_of_visited (Request.visit?_of_resolution read resolved) looks start) seen
  unvisited unvisited := by
    cases read : a.read with
    | error fault =>
      exact ⟨.failed (.fault fault), fun shop =>
        ⟨step_of_unread read, step_of_unread (alike.read ▸ read)⟩⟩
    | ok target =>
      cases settled : (a.resolution target).response? target with
      | some response => exact exists_answer_of_settled alike read settled
      | none =>
        obtain ⟨view, resolved, -⟩ := Resolution.exists_view_of_unsettled settled
        cases unvisited.symm.trans (Request.visit?_of_resolution read resolved)

end Shop

/-! ### The paths of routes -/

section Paths

variable {route : Route} {path method : Text} {isSocket : Bool} {pattern : Pattern}

/-- One path fits no other pattern than those that it is known to fit. -/
theorem Pattern.fits_exact_eq_false (fits : pattern.fits path = true) (known : String)
    (other : pattern.fits (Text.ofString known) = false) : (exact known).fits path = false := by
  rw [Bool.eq_false_iff]
  intro same
  obtain rfl : path = Text.ofString known := by simpa [Pattern.fits] using same
  exact Bool.false_ne_true (other.symm.trans fits)

/-- No file is a product. -/
theorem Pattern.fits_product_eq_false (fits : file.fits path = true) :
    product.fits path = false := by
  have started : Text.ofString "/static/" <+: path := by
    simp only [Pattern.fits, isFile, Bool.and_eq_true, List.isPrefixOf_iff_prefix] at fits
    exact fits.1
  change (productDigits? path).isSome = false
  unfold productDigits?
  dsimp only
  rw [if_neg]
  · rfl
  · intro other
    have shorter := List.prefix_of_prefix_length_le started (List.isPrefixOf_iff_prefix.1 other)
      (by decide)
    exact absurd shorter (by decide)

/-- A path that fits a route is the path of that route and of no other. -/
theorem route?_of_fits (mem : route ∈ routes) (fits : route.pattern.fits path = true) :
    route? path = some route := by
  -- The first route of the table that the path fits is the one, so the earlier ones are excluded.
  have one {known : String} (fits : (Pattern.exact known).fits path = true) :
      path = Text.ofString known := by simpa [Pattern.fits] using fits
  simp only [routes, List.mem_cons, List.not_mem_nil, or_false] at mem
  rcases mem with rfl | rfl | rfl | rfl | rfl | rfl | rfl | rfl
  case inr.inr.inr.inr.inr.inl =>
    -- The number of a product is no word.
    have other := Pattern.fits_exact_eq_false fits
    simp [route?, routes, other "/" (by decide), other "/dashboard" (by decide),
      other "/login" (by decide), other "/logout" (by decide), other "/products" (by decide), fits]
  case inr.inr.inr.inr.inr.inr.inr =>
    have other := Pattern.fits_exact_eq_false fits
    simp [route?, routes, other "/" (by decide), other "/dashboard" (by decide),
      other "/login" (by decide), other "/logout" (by decide), other "/products" (by decide),
      other "/products/create" (by decide), Pattern.fits_product_eq_false fits, fits]
  all_goals
    obtain rfl := one fits
    decide

/-- Whether a route takes a method, which may be sent in small letters. -/
def Route.Takes (route : Route) (method : Text) : Prop :=
  ∃ taken ∈ route.methods, taken.name = method.capitals

/-- A request for the path of a route, at a host that can be asked. -/
def Route.IsAskedBy (route : Route) (request : Request) : Prop :=
  ∃ target, request.read = .ok target ∧ target.isMisnamed = false ∧
    route.pattern.fits target.path = true

theorem resolve_of_fits (mem : route ∈ routes) (fits : route.pattern.fits path = true) :
    resolve method isSocket path = route.resolve method isSocket (route.accept path) := by
  have found := route?_of_fits mem fits
  unfold resolve
  split
  · cases found
  · rw [found]

theorem Route.resolve_of_not_takes {accepted : Method → Resolution}
    (refuses : ¬route.Takes method) :
    route.resolve method isSocket accepted = .refused route.methods := by
  have none : (route.methods.find? fun taken => taken.name = method.capitals) = none := by
    refine List.find?_eq_none.2 fun taken mem named => refuses ⟨taken, mem, ?_⟩
    simpa using named
  rw [Route.resolve, none]

/-- A method that is taken leads to a page or to a view, unless a lasting connection is asked
for. -/
theorem Route.exists_resolve_of_takes {accepted : Method → Resolution} (takes : route.Takes method) :
    ∃ taken, taken.name = method.capitals ∧
      (route.resolve method isSocket accepted = .unsuited ∨
        route.resolve method isSocket accepted = accepted taken) := by
  unfold Route.resolve
  split
  next none =>
    obtain ⟨taken, mem, named⟩ := takes
    exact absurd (decide_eq_true named) (List.find?_eq_none.1 none taken mem)
  next taken found =>
    refine ⟨taken, by simpa using List.find?_some found, ?_⟩
    split
    · exact .inl rfl
    · exact .inr rfl

theorem Route.look_accept (route : Route) (path : Text) (method : Method) :
    (route.accept path method).look ≠ .refused := by
  unfold Route.accept
  dsimp only
  split
  · nofun
  · split
    · nofun
    · cases route.endpoint.view method _ <;> nofun

/-- A question for methods is no matter for a view. -/
theorem Route.accept_options (route : Route) (path : Text) :
    route.accept path .options = .missing ∨
      route.accept path .options = .described route.methods := by
  unfold Route.accept
  dsimp only
  split
  · exact .inl rfl
  · exact .inr (if_pos rfl)

end Paths

/-- What is told of the methods of a route on its path. -/
structure Route.TellsMethods (route : Route) : Prop where
  head_mem_iff : .head ∈ route.methods ↔ .get ∈ route.methods
  /-- A method is refused if and only if it is none of the route. -/
  refused_iff : ∀ request, route.IsAskedBy request → ∀ shop : Shop,
    (shop.step (.request request)).answer.status? = some 405 ↔ ¬route.Takes request.method
  /-- Whoever is refused is told the methods. -/
  allow_of_refused : ∀ request, route.IsAskedBy request → ∀ (shop : Shop) response,
    (shop.step (.request request)).answer = .response response → response.status = 405 →
      response.allow = some route.methods
  /-- So is whoever asks for them. -/
  allow_of_described : ∀ request, route.IsAskedBy request → ∀ (shop : Shop) response,
    (shop.step (.request request)).answer = .response response → response.status = 200 →
      request.method.capitals = Method.options.name → response.allow = some route.methods

section Methods

variable {route : Route} {request : Request} {shop : Shop} {response : Response}

theorem Response.look_eq_refused_iff : response.look = .refused ↔ response.status = 405 := by
  unfold look
  constructor
  · intro seen
    split at seen
    · assumption
    · split at seen
      · cases seen
      · split at seen <;> cases seen
  · exact fun refused => if_pos refused

theorem Answer.look_eq_refused_iff {answer : Answer} :
    answer.look = .refused ↔ answer.status? = some 405 := by
  cases answer with
  | response given => exact Response.look_eq_refused_iff.trans Option.some_inj.symm
  | _ => exact ⟨nofun, nofun⟩

@[simp] theorem Request.allow_delivered (request : Request) (response : Response) :
    (request.delivered response).allow = response.allow := by
  unfold delivered
  split <;> rfl

theorem Request.resolution_of_fits {target : Target} (mem : route ∈ routes)
    (named : target.isMisnamed = false) (fits : route.pattern.fits target.path = true) :
    request.resolution target =
      route.resolve request.method target.isSocket (route.accept target.path) := by
  rw [resolution, named, if_neg Bool.false_ne_true, resolve_of_fits mem fits]

/-- A method that the route does not take is refused with the methods that it does. -/
theorem Shop.step_of_not_takes (mem : route ∈ routes) (asks : route.IsAskedBy request)
    (refuses : ¬route.Takes request.method) (shop : Shop) :
    (shop.step (.request request)).answer = .response
      (request.delivered ((Response.page 405 Page.methodNotAllowed).allowing route.methods)) := by
  obtain ⟨target, read, named, fits⟩ := asks
  have settled : (request.resolution target).response? target =
      some ((Response.page 405 Page.methodNotAllowed).allowing route.methods) := by
    rw [Request.resolution_of_fits mem named fits, Route.resolve_of_not_takes refuses]
    rfl
  rw [step_of_settled read settled]

theorem Shop.look_step_of_takes (mem : route ∈ routes) (asks : route.IsAskedBy request)
    (takes : route.Takes request.method) (shop : Shop) :
    (shop.step (.request request)).answer.look ≠ .refused := by
  obtain ⟨target, read, named, fits⟩ := asks
  rw [look_step_of_read read, Request.resolution_of_fits mem named fits]
  obtain ⟨taken, -, unsuited | accepted⟩ := Route.exists_resolve_of_takes takes
  · rw [unsuited]
    nofun
  · rw [accepted]
    exact route.look_accept _ _

/-- A question for methods that is answered at all is answered with those of the route. -/
theorem Shop.allow_of_options (mem : route ∈ routes) (asks : route.IsAskedBy request)
    (takes : route.Takes request.method) (options : request.method.capitals = Method.options.name)
    (answered : (shop.step (.request request)).answer = .response response)
    (well : response.status = 200) : response.allow = some route.methods := by
  obtain ⟨target, read, named, fits⟩ := asks
  have resolved := request.resolution_of_fits mem named fits
  obtain ⟨taken, asked, found⟩ := Route.exists_resolve_of_takes takes
  obtain rfl : taken = .options := by
    rw [options] at asked
    cases taken <;> first | rfl | exact absurd asked (by decide)
  rw [← resolved] at found
  -- There are three ways to answer, and only one of them is to the question.
  have settles {expected : Response}
      (settled : (request.resolution target).response? target = some expected) :
      response = request.delivered expected := by
    rw [step_of_settled read settled] at answered
    exact (Answer.response.inj answered).symm
  rcases found with unsuited | accepted
  · obtain rfl := settles (by rw [unsuited]; rfl)
    simp at well
  · rcases route.accept_options target.path with missing | described
    · obtain rfl := settles (by rw [accepted, missing]; rfl)
      simp at well
    · obtain rfl := settles (by rw [accepted, described]; rfl)
      rw [Request.allow_delivered]
      rfl

/-- The table of routes tells the methods of its routes as it takes them. -/
theorem Route.tellsMethods (mem : route ∈ routes) : route.TellsMethods where
  head_mem_iff := by
    have all : ∀ route ∈ routes, .head ∈ route.methods ↔ .get ∈ route.methods := by decide
    exact all route mem
  refused_iff request asks shop := by
    rw [← Answer.look_eq_refused_iff]
    constructor
    · intro refused takes
      exact Shop.look_step_of_takes mem asks takes shop refused
    · intro refuses
      rw [Shop.step_of_not_takes mem asks refuses]
      exact request.look_delivered _
  allow_of_refused request asks shop response answered refused := by
    have refuses : ¬route.Takes request.method := by
      intro takes
      refine Shop.look_step_of_takes mem asks takes shop ?_
      rw [answered]
      exact Response.look_eq_refused_iff.2 refused
    rw [Shop.step_of_not_takes mem asks refuses] at answered
    obtain rfl := Answer.response.inj answered
    rw [Request.allow_delivered]
    rfl
  allow_of_described request asks shop response answered well options := by
    by_cases takes : route.Takes request.method
    · exact Shop.allow_of_options mem asks takes options answered well
    · rw [Shop.step_of_not_takes mem asks takes] at answered
      obtain rfl := Answer.response.inj answered
      simp at well

/-- A target that names no host is at the usual one, which can be asked. -/
theorem Target.isMisnamed_of_authority_eq_nil {address : Address} {target : Target}
    (bare : address.authority = []) (read : ofAddress address = .ok target) :
    target.isMisnamed = false := by
  obtain ⟨rest, -, read⟩ := Except.bind_eq_ok_iff.1 read
  obtain ⟨path, -, read⟩ := Except.bind_eq_ok_iff.1 read
  obtain ⟨sent, usual, read⟩ := Except.bind_eq_ok_iff.1 read
  rw [bare] at usual
  obtain rfl := Except.ok.inj (sent_defaultHost.symm.trans usual)
  obtain rfl := Except.ok.inj read
  rfl

/-- A request for a path alone is at a host that can be asked. -/
theorem Request.isMisnamed_of_authority_eq_nil {address : Address} {target : Target}
    (split : Address.split request.target = .ok address) (bare : address.authority = [])
    (read : request.read = .ok target) : target.isMisnamed = false := by
  obtain ⟨address', split', read⟩ := Except.bind_eq_ok_iff.1 read
  obtain rfl := Except.ok.inj (split.symm.trans split')
  obtain ⟨target', read', read⟩ := Except.bind_eq_ok_iff.1 read
  -- What is checked after this leaves the target as it is.
  obtain ⟨-, -, read⟩ := Except.bind_eq_ok_iff.1 read
  obtain ⟨-, -, read⟩ := Except.bind_eq_ok_iff.1 read
  obtain ⟨-, -, read⟩ := Except.bind_eq_ok_iff.1 read
  obtain rfl := Except.ok.inj read
  exact Target.isMisnamed_of_authority_eq_nil bare read'

end Methods

namespace Shop

/-- How a request is routed depends on its method and its target alone. In any two shops, whatever
their tables and their sessions, and whether or not connections open, two requests that agree in
these are both answered by the page for a path that nothing is found at, are both refused, are both
told the methods, or are both handed to one view; and what no view answers is answered alike and
leaves both shops as they are. On the path of a route a request is refused if and only if the route
does not take its method, and the methods that are told are those of the route, where `HEAD` goes
with `GET`. A request that names no host is never kept from this by its host. -/
theorem routing_by_method_and_target :
    (∀ a b : Request, a.Alike b → RoutedAlike a b) ∧
    (∀ route ∈ routes, route.TellsMethods) ∧
    ∀ (request : Request) (address : Address) (target : Target),
      Address.split request.target = .ok address → address.authority = [] →
        request.read = .ok target → target.isMisnamed = false :=
  ⟨fun _ _ alike => routedAlike alike, fun _ mem => Route.tellsMethods mem,
    fun _ _ _ split bare read => Request.isMisnamed_of_authority_eq_nil split bare read⟩

/-- A method that no route takes. -/
def deletion (client : String) : Request where
  client := Text.ofString client
  method := Text.ofString "delete"
  target := Text.ofString "/login"
  body := .form none []

/-- What is to be deleted at the path of the login is refused to every browser in every shop. -/
theorem routing_deletion :
    (deletion "a").Alike (deletion "b") ∧ RoutedAlike (deletion "a") (deletion "b") ∧
      ∀ shop : Shop, (shop.step (.request (deletion "b"))).answer.status? = some 405 := by
  have alike : (deletion "a").Alike (deletion "b") := ⟨rfl, rfl, rfl⟩
  have read : (deletion "b").read = .ok (.usual (Text.ofString "/login")) := rfl
  have named : (Target.usual (Text.ofString "/login")).isMisnamed = false :=
    routing_by_method_and_target.2.2 (deletion "b")
      { scheme := [], authority := [], path := Text.ofString "/login", query := [] } _ rfl rfl read
  have tells := routing_by_method_and_target.2.1
    ⟨"/login", .exact "/login", .login, [.get, .head, .options, .post]⟩ (by decide)
  have asks : Route.IsAskedBy ⟨"/login", .exact "/login", .login, [.get, .head, .options, .post]⟩
      (deletion "b") := ⟨_, read, named, by decide⟩
  refine ⟨alike, routing_by_method_and_target.1 _ _ alike, fun shop => ?_⟩
  exact (tells.refused_iff (deletion "b") asks shop).2 (by unfold Route.Takes; decide)

end Shop

end Storefront
