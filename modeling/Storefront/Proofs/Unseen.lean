import Storefront.Proofs.Altered
import Storefront.Proofs.Requests

/-!
# Settings that no service looks up

A few settings are looked up while a shop is open: the address of its database, the name of a new
user, the limits for products and how deep a body may be nested. The level of the log is not, since
it decides what is written down and not what is done; and whether the shop is under test is asked in
one place, where a request has failed and nothing has dealt with the failure. All that comes before
does not see these settings.

## Main definitions

* `Config.Spares` — changes that spare the settings that are looked up

## Main results

* `Shop.ignores_answer` — a request does not see such a change, up to what becomes of a failure
* `Shop.ignores_service_of_noRequest` — nor does a step that is no request
* `Shop.ignores_service` — nor does any step if the shop is under test as before, or not as before
* `Shop.step_of_ignores` — what comes of such a step
-/

namespace Storefront

open Service

/-- A change to the configuration that spares what is looked up there. -/
structure Config.Spares (f : Config → Config) : Prop where
  databaseUrl : ∀ config, (f config).databaseUrl = config.databaseUrl
  defaultUserName : ∀ config, (f config).defaultUserName = config.defaultUserName
  titleMax : ∀ config, (f config).titleMax = config.titleMax
  skuMax : ∀ config, (f config).skuMax = config.skuMax
  maxDepth : ∀ config, (f config).maxDepth = config.maxDepth

namespace Shop

/-! ### Services -/

section Services

variable {f : Config → Config} {t : Int → Int}

theorem ignores_page (key : Sessions.Key) (status : Nat) (body : Text) :
    (page key status body).Ignores { config := f, threshold := t } :=
  (ignores_currentUser key fun _ => rfl).bind fun _ => ignores_pure _

theorem ignores_homePage (key : Sessions.Key) :
    (homePage key).Ignores { config := f, threshold := t } :=
  (ignores_currentUser key fun _ => rfl).bind fun _ => ignores_pure _

theorem ignores_forUser (key : Sessions.Key) {work : Service Response}
    (h : work.Ignores { config := f, threshold := t }) :
    (forUser key work).Ignores { config := f, threshold := t } := by
  refine (ignores_currentUser key fun _ => rfl).bind fun found => ?_
  cases found with
  | some user => exact h
  | none => exact ignores_page _ _ _

theorem ignores_logOut (key : Sessions.Key) :
    (logOut key).Ignores { config := f, threshold := t } := by
  refine (ignores_currentUser key fun _ => rfl).bind fun found => ?_
  cases found with
  | some user =>
    refine (ignores_record _).bind fun _ => ?_
    exact Ignores.bind (ignores_change fun _ => rfl) fun _ => ignores_pure _
  | none => exact Ignores.bind (ignores_change fun _ => rfl) fun _ => ignores_pure _

theorem ignores_answerFailure (key : Sessions.Key) (failure : Failure) :
    (answerFailure key failure).Ignores { config := f, threshold := t } := by
  cases failure with
  | unreachable message cause => exact (ignores_record _).bind fun _ => ignores_page _ _ _
  | fault fault => exact ignores_fail _

variable (spares : Config.Spares f)

include spares

theorem limits_changed (shop : Shop) :
    (shop.changed { config := f, threshold := t }).limits = shop.limits := by
  unfold limits changed
  rw [spares.titleMax, spares.skuMax]

theorem ignores_judge (payload : Json) :
    (judge payload).Ignores { config := f, threshold := t } := by
  cases payload with
  | obj fields =>
    refine ignores_shop_bind (fun shop => by rw [limits_changed spares]) fun shop => ?_
    refine (ignores_ofFault _).bind fun title => Ignores.bind ?_ fun sku => ignores_pure _
    unfold Product.judgeSku
    split
    · exact ignores_pure _
    · split
      · refine (ignores_ofFault _).bind fun verdict => ?_
        cases verdict with
        | accepted sku =>
          refine (ignores_isTaken sku).bind fun taken => ?_
          split <;> exact ignores_pure _
        | absent => exact ignores_pure _
        | refused complaint => exact ignores_pure _
      · exact ignores_pure _
  | _ => exact ignores_fail _

theorem ignores_prepare : prepare.Ignores { config := f, threshold := t } := by
  refine ignores_shop_bind (fun shop => ?_) fun _ => (ignores_ofFault _).bind ignores_prepareAt
  dsimp only [changed]
  rw [spares.databaseUrl]

theorem ignores_logIn (key : Sessions.Key) (body : Body) :
    (logIn key body).Ignores { config := f, threshold := t } := by
  unfold logIn
  dsimp only
  split
  · exact ignores_page _ _ _
  · refine (ignores_userFor spares.defaultUserName _).bind fun user => ?_
    refine Ignores.bind (ignores_change fun _ => rfl) fun _ => ?_
    exact (ignores_record _).bind fun _ => ignores_pure _

theorem ignores_submitProduct (fields : Json.Members) :
    (submitProduct fields).Ignores { config := f, threshold := t } := by
  refine (ignores_judge spares _).bind fun report => ?_
  split
  · exact (ignores_addProduct _).bind fun _ => ignores_pure _
  · exact ignores_pure _

theorem ignores_submitBody (body : Body) :
    (submitBody body).Ignores { config := f, threshold := t } := by
  refine ignores_shop_bind (fun shop => ?_) fun _ =>
    (ignores_ofFault _).bind fun _ => ignores_submitProduct spares _
  dsimp only [changed]
  rw [spares.maxDepth]

theorem ignores_productForm (key : Sessions.Key) :
    (productForm key).Ignores { config := f, threshold := t } :=
  ignores_shop_bind (fun shop => by rw [limits_changed spares]) fun _ =>
    (ignores_page _ _ _).bind fun _ => (ignores_ofFault _).bind fun _ => ignores_pure _

theorem ignores_view (v : View) (key : Sessions.Key) (body : Body) :
    (view v key body).Ignores { config := f, threshold := t } := by
  cases v with
  | home => exact ignores_homePage key
  | dashboard => exact ignores_forUser key (ignores_homePage key)
  | loginForm => exact ignores_page _ _ _
  | login => exact ignores_logIn spares key body
  | logout => exact ignores_logOut key
  | addProduct => exact ignores_forUser key (ignores_submitBody spares body)
  | product id => exact ignores_showProduct id
  | productForm => exact ignores_forUser key (ignores_productForm spares key)
  | file => exact ignores_pure _

/-! ### Requests and steps -/

/-- A request does not see the change, up to what becomes of a failure. -/
theorem ignores_answer (request : Request) (target : Target) :
    (answer request target).Ignores { config := f, threshold := t } := by
  unfold answer
  split
  · exact ignores_pure _
  · split
    case h_6 => exact (ignores_view spares _ _ _).recover fun _ => ignores_answerFailure _ _
    all_goals exact ignores_pure _

/-- What is no request is never settled. -/
theorem ignores_service_of_noRequest {step : Step} (noRequest : ∀ request, step ≠ .request request) :
    step.service.Ignores { config := f, threshold := t } := by
  cases step with
  | request request => exact (noRequest request rfl).elim
  | setUserNumber client id =>
    exact Ignores.bind (ignores_change fun _ => rfl) fun _ => ignores_pure _
  | setOutage on => exact Ignores.bind (ignores_change fun _ => rfl) fun _ => ignores_pure _
  | setReadOnly on => exact (ignores_onStore _).bind fun _ => ignores_pure _
  | dropTable table => exact (ignores_onStore _).bind fun _ => ignores_pure _
  | deleteRow table id => exact (ignores_perform _).map _
  | prepare => exact (ignores_prepare spares).bind fun _ => ignores_pure _
  | check =>
    refine ignores_shop_bind (fun _ => rfl) fun _ => (ignores_ofResult _).bind fun _ => ?_
    exact Ignores.bind (ignores_change fun shop => shop.probed_changed) fun _ => ignores_pure _
  | judge payload => exact (ignores_judge spares payload).map _
  | addProduct fields =>
    refine (ignores_ofFault _).bind fun draft => ?_
    exact (ignores_addProduct draft).bind fun _ => ignores_pure _
  | findProduct id => exact (ignores_findProduct id).map _
  | userFor email => exact (ignores_userFor spares.defaultUserName email).map _
  | dump =>
    refine ignores_connected.bind fun _ => ?_
    exact (ignores_onStore _).bind fun _ => ignores_pure _

/-- A failure is settled alike in shops that are both under test, or both not. -/
theorem ignores_respond (tested : ∀ config, (f config).isTesting = config.isTesting)
    (request : Request) : (respond request).Ignores { config := f, threshold := t } := by
  cases read : request.read with
  | error fault =>
    rw [respond_of_unread read]
    exact ignores_fail _
  | ok target =>
    rw [respond_of_read read]
    refine Ignores.map (Ignores.recover (ignores_answer spares request target) fun failure => ?_) _
    refine ignores_shop_bind (fun shop => ?_) fun shop => ?_
    · dsimp only [changed]
      rw [tested]
    · split
      · exact ignores_fail _
      · exact (ignores_record _).bind fun _ => ignores_pure _

theorem ignores_service (tested : ∀ config, (f config).isTesting = config.isTesting)
    (step : Step) : step.service.Ignores { config := f, threshold := t } := by
  cases step with
  | request request => exact (ignores_respond spares tested request).map _
  | _ => exact ignores_service_of_noRequest spares nofun

end Services

/-- A step that does not see a change does the same after it, and writes the records that reach the
threshold then. -/
theorem step_of_ignores {k : Change} {step : Step} (h : step.service.Ignores k) (shop : Shop) :
    (shop.changed k).step step =
      { answer := (shop.step step).answer
        shop := (shop.step step).shop.changed k
        log := Log.filter (k.threshold shop.threshold) (step.service shop).log } := by
  unfold Shop.step
  rw [h shop]
  rfl

end Shop

end Storefront
