import Storefront.Proofs.Altered
import Storefront.Proofs.Live
import Storefront.Proofs.Recording

/-!
# Sessions that name nobody

A session can hold a value that is the number of no user: the row is gone, or the value was written
from outside. As long as rows can be searched for the value, its browser is answered as if the
session were empty. A value that stands for no number at all, or for one that the store has no form
for, is a fault of every view that looks up the user, and nothing deals with that fault.

## Main definitions

* `Service.IsBlind` — services that have nothing to do with sessions
* `Service.Shows` — services that give a value and record nothing
* `View.looksUp`, `View.forNobody` — the views that look up the user, and what they show to nobody
* `Shop.IsStranger` — sessions that can be read and name nobody
* `Shop.lookupFault` — the fault that the looking up of a user comes to

## Main results

* `Shop.IsStranger.shows_view`, `Shop.exists_fails_view_of_lookupFault` — a view that looks up a
  user who is nobody
* `Shop.echoes_view` — a view that does not look up the user
* `Shop.answer_of_stranger` — what is answered to the browser of such a session
* `Shop.not_always_stranger` — a session that names nobody is not always taken for an empty one
-/

namespace Storefront

/-- The shop with other sessions. -/
def Shop.holding (shop : Shop) (sessions : Sessions) : Shop := { shop with sessions }

namespace Service

variable {α β : Type} {service : Service α} {next : α → Service β} {start first second : Shop}

/-! ### Services that have nothing to do with sessions -/

/-- A service that neither looks at sessions nor changes them. -/
def IsBlind (service : Service α) : Prop :=
  ∀ (start : Shop) (sessions : Sessions), service (start.holding sessions) =
    { service start with shop := (service start).shop.holding sessions }

/-- Other sessions are a change that such a service does not see. -/
theorem isBlind_iff_commutes :
    service.IsBlind ↔ ∀ sessions : Sessions, service.Commutes id fun _ => sessions :=
  ⟨fun h sessions start => h start sessions, fun h start sessions => h sessions start⟩

theorem isBlind_pure (a : α) : IsBlind (pure a) :=
  isBlind_iff_commutes.2 fun _ => (ignores_pure a).commutes

/-! ### Outcomes that are told alike -/

/-- Outcomes with the same result and the same records. -/
structure Outcome.Echoes (x y : Outcome α) : Prop where
  result : y.result = x.result
  log : y.log = x.log

theorem IsBlind.echoes (h : service.IsBlind) (start : Shop) (sessions : Sessions) :
    (service start).Echoes (service (start.holding sessions)) := by
  rw [h start sessions]
  exact ⟨rfl, rfl⟩

theorem echoes_bind (h : (service first).Echoes (service second))
    (hn : ∀ a, (service first).result = .ok a →
      (next a (service first).shop).Echoes (next a (service second).shop)) :
    ((service >>= next) first).Echoes ((service >>= next) second) := by
  cases result : (service first).result with
  | ok a =>
    rw [bind_of_ok result, bind_of_ok (h.result.trans result)]
    exact ⟨(hn a result).result, congrArg₂ (· ++ ·) h.log (hn a result).log⟩
  | error failure =>
    rw [bind_of_error result, bind_of_error (h.result.trans result)]
    exact ⟨rfl, h.log⟩

theorem echoes_map (h : (service first).Echoes (service second)) (f : α → β) :
    ((f <$> service) first).Echoes ((f <$> service) second) := by
  rw [← bind_pure_comp]
  exact echoes_bind h fun _ _ => ⟨rfl, rfl⟩

theorem echoes_recover {handler : Failure → Service α} (h : (service first).Echoes (service second))
    (hn : ∀ failure, (service first).result = .error failure →
      (handler failure (service first).shop).Echoes (handler failure (service second).shop)) :
    (service.recover handler first).Echoes (service.recover handler second) := by
  cases result : (service first).result with
  | ok a =>
    rw [recover_of_ok result, recover_of_ok (h.result.trans result)]
    exact h
  | error failure =>
    rw [recover_of_error result, recover_of_error (h.result.trans result)]
    exact ⟨(hn failure result).result, congrArg₂ (· ++ ·) h.log (hn failure result).log⟩

/-! ### Values without records -/

/-- A service that gives a value and records nothing. -/
structure Shows (service : Service α) (start : Shop) (a : α) : Prop where
  result : (service start).result = .ok a
  log : (service start).log = []

theorem shows_pure (a : α) (start : Shop) : Shows (pure a) start a := ⟨rfl, rfl⟩

theorem Shows.bind {a : α} {b : β} (h : service.Shows start a)
    (hn : (next a).Shows (service start).shop b) : (service >>= next).Shows start b := by
  constructor
  · rw [bind_of_ok h.result]
    exact hn.result
  · rw [bind_of_ok h.result, h.log, hn.log]
    rfl

theorem Shows.echoes {a : α} (h : service.Shows first a) (h' : service.Shows second a) :
    (service first).Echoes (service second) :=
  ⟨h'.result.trans h.result.symm, h'.log.trans h.log.symm⟩

end Service

open Service

/-- Whether a view looks up the user whom the session names. -/
def View.looksUp (body : Body) : View → Bool
  | .product _ | .file => false
  | .login => body.email.isEmpty
  | _ => true

/-- What a view that looks up the user shows to nobody. -/
def View.forNobody : View → Response
  | .home => .page 200 (Page.home none)
  | .loginForm => .page 200 (Page.login none)
  | .login => .page 422 (Page.login (some (Text.ofString "Missing email")))
  | .logout => .page 200 Page.loggedOut
  | _ => .page 401 Page.unauthorized

namespace Shop

variable {start shop : Shop} {key : Sessions.Key} {id : Json} {body : Body} {v : View}
variable {fault : Fault}

/-! ### Nobody is found -/

/-- A session that can be read and names nobody. -/
structure IsStranger (shop : Shop) (key : Sessions.Key) : Prop where
  outage : shop.outage = false
  table : shop.store.users.isSome = true
  readable : shop.CanRead key
  nobody : shop.userNamed key = none

theorem IsStranger.of_alike {after : Shop} (h : start.IsStranger key) (like : start.Alike after) :
    after.IsStranger key :=
  ⟨like.outage.trans h.outage, like.store ▸ h.table, like.canRead h.readable,
    (like.userNamed_eq key).trans h.nobody⟩

namespace IsStranger

theorem shows_currentUser (h : start.IsStranger key) : (currentUser key).Shows start none := by
  obtain ⟨after, asked⟩ := exists_gives_currentUser h.outage h.table h.readable
  rw [h.nobody] at asked
  exact ⟨asked.1, isSilent_currentUser key start⟩

/-- The shop in which the looking up of nobody ends is like the one before. -/
theorem afterLookup (h : start.IsStranger key) : (currentUser key start).shop.IsStranger key :=
  h.of_alike (isQuiet_currentUser key start)

theorem shows_page (h : start.IsStranger key) (status : Nat) (text : Text) :
    (page key status text).Shows start (.page status text) :=
  h.shows_currentUser.bind (shows_pure _ _)

theorem shows_homePage (h : start.IsStranger key) :
    (homePage key).Shows start (.page 200 (Page.home none)) :=
  h.shows_currentUser.bind (shows_pure _ _)

theorem shows_forUser (h : start.IsStranger key) (work : Service Response) :
    (forUser key work).Shows start (.page 401 Page.unauthorized) :=
  h.shows_currentUser.bind (h.afterLookup.shows_page _ _)

theorem shows_logOut (h : start.IsStranger key) :
    (logOut key).Shows start (.page 200 Page.loggedOut) :=
  h.shows_currentUser.bind ⟨rfl, rfl⟩

/-- A view that looks up the user has one response for nobody. -/
theorem shows_view (h : start.IsStranger key) (looks : v.looksUp body = true) :
    (view v key body).Shows start v.forNobody := by
  cases v with
  | home => exact h.shows_homePage
  | dashboard => exact h.shows_forUser _
  | loginForm => exact h.shows_page _ _
  | login =>
    change (logIn key body).Shows start _
    rw [logIn_of_isEmpty looks]
    exact h.shows_page _ _
  | logout => exact h.shows_logOut
  | addProduct => exact h.shows_forUser _
  | productForm => exact h.shows_forUser _
  | product number => cases looks
  | file => cases looks

end IsStranger

/-! ### The look-up fails -/

/-- The fault that the looking up of a user comes to while there are users: the value stands for no
number, or the number is too wide for the store. In the second case a fault that is left on the
connection is told instead, if the query has been prepared there before. -/
def lookupFault (shop : Shop) (id : Json) : Option Fault :=
  match userNumber id with
  | .error fault => some fault
  | .ok number =>
    if Cell.fits number then none
    else some ((if shop.prepared.contains .userById then shop.left else none).getD .integerTooWide)

/-- A session can be read if looking up its user comes to no fault. -/
theorem canRead_of_lookupFault (held : shop.sessions.get? key = some id)
    (sound : shop.lookupFault id = none) : shop.CanRead key := by
  intro other same
  obtain rfl := Option.some.inj (held.symm.trans same)
  unfold lookupFault at sound
  split at sound
  · cases sound
  · next number read =>
    split at sound
    · next fits => exact ⟨number, read, fits⟩
    · cases sound

/-- The fault is passed on by the guard. -/
theorem exists_fails_loadUser_of_lookupFault (live : shop.IsLive)
    (table : shop.store.users.isSome = true) (meets : shop.lookupFault id = some fault) :
    ∃ after, (loadUser id).Fails shop (.fault fault) after := by
  unfold lookupFault at meets
  split at meets
  · next told read =>
    obtain rfl := Option.some.inj meets
    refine exists_fails_guarded (fails_bind_iff.2 (.inl ?_)) live fun operational => ?_
    · exact fails_ofFault_iff.2 ⟨_, read, rfl, rfl⟩
    · exact absurd operational (kind_ne_operational_of_userNumber read)
  · next number read =>
    split at meets
    · cases meets
    · next wide =>
      have ready : (Store.userById number).isReady (shop.prepared.contains .userById)
          shop.store = true :=
        Bool.or_eq_true_iff.2 (.inr table)
      have ran := Statement.Call.run_of_isReady rfl (if_neg wide) ready shop.left
      rw [Option.some.inj meets] at ran
      obtain ⟨after, called, liveAfter, passed⟩ :=
        exists_fails_call (Store.isRegular_userById number) live ran
      refine exists_fails_guarded (fails_bind_iff.2 (.inr ⟨number, shop, ?_, called⟩)) liveAfter
        passed
      exact gives_ofFault_iff.2 ⟨read, rfl⟩

/-- So it is by every view that looks up the user. -/
theorem exists_fails_view_of_lookupFault (live : shop.IsLive)
    (table : shop.store.users.isSome = true) (held : shop.sessions.get? key = some id)
    (meets : shop.lookupFault id = some fault) (looks : v.looksUp body = true) :
    ∃ after, (view v key body).Fails shop (.fault fault) after := by
  obtain ⟨after, fails⟩ := exists_fails_loadUser_of_lookupFault live table meets
  have asked : (currentUser key).Fails shop (.fault fault) after := by
    rw [Fails, currentUser_of_get?_eq_some held]
    exact fails
  refine ⟨after, ?_⟩
  cases v with
  | login =>
    change (logIn key body).Fails shop _ _
    rw [logIn_of_isEmpty looks]
    exact fails_bind_iff.2 (.inl asked)
  | product number => cases looks
  | file => cases looks
  | _ => exact fails_bind_iff.2 (.inl asked)

/-! ### The look-up is not made -/

theorem isBlind_userFor (email : Text) : (userFor email).IsBlind :=
  isBlind_iff_commutes.2 fun _ => (ignores_userFor (fun _ => rfl) email).commutes

theorem isBlind_showProduct (id : Nat) : (showProduct id).IsBlind :=
  isBlind_iff_commutes.2 fun _ => (ignores_showProduct id).commutes

/-- A view that does not look up the user comes to the same whatever sessions there are. -/
theorem echoes_view (unasked : v.looksUp body = false) (start : Shop) (sessions : Sessions) :
    (view v key body start).Echoes (view v key body (start.holding sessions)) := by
  cases v with
  | login =>
    change (logIn key body start).Echoes (logIn key body (start.holding sessions))
    rw [logIn_of_not_isEmpty unasked]
    -- The session is written once the user is there, which nothing that is told depends on.
    exact echoes_bind ((isBlind_userFor _).echoes start sessions) fun _ _ => ⟨rfl, rfl⟩
  | product id => exact (isBlind_showProduct id).echoes start sessions
  | file => exact (isBlind_pure _).echoes start sessions
  | _ => cases unasked

/-! ### Requests -/

variable {first second : Shop} {request : Request} {visit : Visit}

theorem echoes_settle (config : second.config = first.config) (request : Request) (target : Target)
    (failure : Failure) :
    (settle request target failure first).Echoes (settle request target failure second) := by
  unfold settle
  rw [shop_bind, shop_bind, config]
  split <;> exact ⟨rfl, rfl⟩

/-- A request is answered alike in two shops in which its view comes to the same, if the database
can be reached. -/
theorem step_of_echoes (live : first.IsLive) (config : second.config = first.config)
    (threshold : second.threshold = first.threshold)
    (same : ∀ visit, request.visit? = some visit →
      (view visit.view visit.key request.body first).Echoes
        (view visit.view visit.key request.body second)) :
    (second.step (.request request)).answer = (first.step (.request request)).answer ∧
      (second.step (.request request)).log = (first.step (.request request)).log := by
  have responds : (respond request first).Echoes (respond request second) := by
    cases visited : request.visit? with
    | none =>
      rcases respond_of_unvisited visited with ⟨fault, unsent⟩ | ⟨response, -, known⟩
      · rw [unsent]
        exact ⟨rfl, rfl⟩
      · rw [known]
        exact ⟨rfl, rfl⟩
    | some visit =>
      let viewed := (view visit.view visit.key request.body).recover (answerFailure visit.key)
      have echoes : (viewed first).Echoes (viewed second) := by
        refine echoes_recover (same visit visited) fun failure failed => ?_
        -- What a view fails with is a fault, which the page for an unreachable database leaves.
        obtain ⟨fault, rfl, -⟩ := (neverUnreachable_view _ _ _ live).2 failure failed
        exact ⟨rfl, rfl⟩
      have atomic : viewed.IsAtomic := isAtomic_recover_answerFailure _ _ _
      rw [respond_of_visited visited]
      refine echoes_map (echoes_recover echoes fun failure failed => ?_) _
      have kept := (atomic ⟨failed, rfl⟩).config
      have kept' := (atomic ⟨echoes.result.trans failed, rfl⟩).config
      exact echoes_settle (kept'.trans (config.trans kept.symm)) _ _ _
  have answers := echoes_map responds Answer.response
  constructor
  · simp only [Shop.step, Step.service, answers.result]
  · simp only [Shop.step, Step.service, answers.log, threshold]

/-- A browser whose session names nobody is answered as one with an empty session, unless the
request is handed to a view that looks up the user and the look-up comes to a fault. Nothing deals
with that fault. -/
theorem answer_of_stranger {config : Config} (reachable : shop.IsReachable (fun _ => True) config)
    (outage : shop.outage = false) (table : shop.store.users.isSome = true)
    (held : shop.sessions.get? key = some id) (nobody : shop.userNamed key = none)
    (own : ∀ visit, request.visit? = some visit → visit.key = key) :
    let cleared := shop.holding (shop.sessions.clear key)
    (shop.lookupFault id = none ∨ request.visit?.any (·.view.looksUp request.body) = false →
      (shop.step (.request request)).answer = (cleared.step (.request request)).answer ∧
        (shop.step (.request request)).log = (cleared.step (.request request)).log) ∧
    ∀ visit, request.visit? = some visit → visit.view.looksUp request.body = true →
      (cleared.step (.request request)).answer =
          .response (request.delivered visit.view.forNobody) ∧
        ∀ fault, shop.lookupFault id = some fault →
          (shop.step (.request request)).answer = (Step.request request).answerTo shop fault := by
  intro cleared
  have live : shop.IsLive := ⟨outage, isIntact_of_isReachable reachable⟩
  have empty : cleared.sessions.get? key = none := Sessions.get?_clear_self
  have visitor : cleared.IsStranger key := by
    refine ⟨outage, table, fun other same => ?_, userNamed_of_get?_eq_none empty⟩
    rw [empty] at same
    cases same
  constructor
  · intro sound
    have same : (cleared.step (.request request)).answer = (shop.step (.request request)).answer ∧
        (cleared.step (.request request)).log = (shop.step (.request request)).log := by
      refine step_of_echoes live rfl rfl fun visit visited => ?_
      obtain rfl := own visit visited
      cases looks : visit.view.looksUp request.body with
      | false => exact echoes_view looks shop _
      | true =>
        have sound : shop.lookupFault id = none := by simpa [visited, looks] using sound
        have stranger : shop.IsStranger visit.key :=
          ⟨outage, table, canRead_of_lookupFault held sound, nobody⟩
        exact (stranger.shows_view looks).echoes (visitor.shows_view looks)
    exact ⟨same.1.symm, same.2.symm⟩
  · intro visit visited looks
    obtain rfl := own visit visited
    have shown := (visitor.shows_view looks).result
    refine ⟨step_of_gives_view visited ⟨shown, rfl⟩, fun fault met => ?_⟩
    obtain ⟨after, fails⟩ := exists_fails_view_of_lookupFault live table held met looks
    exact answer_of_view_fails visited fails

/-- A shop with the session of a user who has gone, and with one in which something has been written
that is no number. -/
def withStrangers : Shop :=
  (forTests.run [.request (.forLogin "a" "a@example.com"), .deleteRow .users 1,
    .setUserNumber (Text.ofString "b") (.str (Text.ofString "abc"))]).2

theorem isReachable_withStrangers :
    withStrangers.IsReachable (fun _ => True) (Config.forTests {}) :=
  ⟨false, forTests, _, rfl, fun _ _ => trivial, rfl⟩

/-- The dashboard is refused to the first of them and the home page fails for the other. -/
theorem answer_of_stranger_withStrangers :
    withStrangers.outage = false ∧ withStrangers.store.users.isSome = true ∧
      withStrangers.sessions.get? (.usual "a") = some (.str (Text.ofNat 1)) ∧
      withStrangers.userNamed (.usual "a") = none ∧
      (withStrangers.step (.request (.forPage "a" "/dashboard"))).answer =
        .response (.page 401 Page.unauthorized) ∧
      withStrangers.sessions.get? (.usual "b") = some (.str (Text.ofString "abc")) ∧
      withStrangers.userNamed (.usual "b") = none ∧
      (withStrangers.step (.request (.forPage "b" "/"))).answer =
        .failed (.fault (.misreadInteger (Text.ofString "abc") .malformed)) := by
  have dashboard : (Request.forPage "a" "/dashboard").visit? = some ⟨_, .usual "a", .dashboard⟩ :=
    rfl
  have home : (Request.forPage "b" "/").visit? = some ⟨_, .usual "b", .home⟩ := rfl
  have ownA : ∀ visit, (Request.forPage "a" "/dashboard").visit? = some visit →
      visit.key = .usual "a" := fun visit visited => by
    rw [← Option.some.inj (dashboard.symm.trans visited)]
  have ownB : ∀ visit, (Request.forPage "b" "/").visit? = some visit →
      visit.key = .usual "b" := fun visit visited => by
    rw [← Option.some.inj (home.symm.trans visited)]
  have heldA : withStrangers.sessions.get? (.usual "a") = some (.str (Text.ofNat 1)) := rfl
  have heldB : withStrangers.sessions.get? (.usual "b") = some (.str (Text.ofString "abc")) := rfl
  have nobodyA : withStrangers.userNamed (.usual "a") = none := by decide +kernel
  have nobodyB : withStrangers.userNamed (.usual "b") = none := by decide +kernel
  have shownA := answer_of_stranger isReachable_withStrangers rfl rfl heldA nobodyA ownA
  have shownB := answer_of_stranger isReachable_withStrangers rfl rfl heldB nobodyB ownB
  refine ⟨rfl, rfl, heldA, nobodyA, ?_, heldB, nobodyB, ?_⟩
  · exact (shownA.1 (.inl rfl)).1.trans (shownA.2 _ dashboard rfl).1
  · exact (shownB.2 _ home rfl).2 _ rfl

/-- A session that names nobody is not always taken for an empty one. -/
theorem not_always_stranger :
    ¬∀ (config : Config) (shop : Shop), shop.IsReachable (fun _ => True) config →
      shop.outage = false → shop.store.users.isSome = true → shop.store.products.isSome = true →
        ∀ (key : Sessions.Key) (t : Text), shop.sessions.get? key = some (.str t) →
          (∀ n, Integer.read t = .ok n →
            ∀ user ∈ shop.store.users.getD [], (user.id : Int) ≠ n) →
          ∀ request : Request, (∀ visit, request.visit? = some visit → visit.key = key) →
            (shop.step (.request request)).answer =
              ((shop.holding (shop.sessions.clear key)).step (.request request)).answer := by
  intro always
  have home : (Request.forPage "b" "/").visit? = some ⟨_, .usual "b", .home⟩ := rfl
  have unread : ∀ n, Integer.read (Text.ofString "abc") ≠ .ok n := nofun
  have same := always _ _ isReachable_withStrangers rfl rfl rfl (.usual "b") (Text.ofString "abc")
    rfl (fun n read => absurd read (unread n)) (.forPage "b" "/") fun visit visited => by
      rw [← Option.some.inj (home.symm.trans visited)]
  have failed : (withStrangers.step (.request (.forPage "b" "/"))).answer =
      .failed (.fault (.misreadInteger (Text.ofString "abc") .malformed)) := rfl
  rw [failed] at same
  cases same

end Shop

end Storefront
