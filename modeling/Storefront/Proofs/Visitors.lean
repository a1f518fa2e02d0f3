import Storefront.Visitor
import Storefront.Proofs.Markup
import Storefront.Proofs.Reachable

/-!
# Pages that show an email

Two pages show a text from outside: the home page greets whoever is looking by their email, and the
page after a login names the email that was sent. Both are fixed but for that text, which stands
between two tags of the page in its escaped form, so no email can bring a tag of its own into a page
or take one out of it.

Whom the home page greets depends on the email alone. A visitor who counts as absent, who says that
they are anonymous or who has no email to show is nobody. A visitor who has no such attribute or
member gets no page at all.

## Main definitions

* `Visitor.isFalsy`, `Visitor.isAnonymous`, `Visitor.HasEmail` — what matters of a visitor
* `Page.IsFramed` — pages that are fixed but for an escaped text
* `Page.GreetsNobody` — pages that greet nobody and offer no logout
* `Visitor.IsGreeted` — what the home page is for a visitor

## Main results

* `Page.isFramed_home`, `Page.isFramed_loggedIn` — the two pages that show an email
* `Visitor.isGreeted` — the home page for a visitor
* `Shop.body_of_login` — the page after a login
* `Shop.pages_of_emails` — every email is shown in this way, to every visitor and after every login
-/

namespace Storefront

open Service

/-! ### The two pages -/

namespace Page

/-- Pages that are fixed but for a text from outside, which stands between two tags in its escaped
form. -/
structure IsFramed (page : Text → Text) : Prop where
  exists_frame : ∃ frame : Frame, ∀ t, page t = frame.before ++ t.escaped ++ frame.after
  injective : Function.Injective page
  tags_eq : ∀ t u, tags (page t) = tags (page u)

theorem Frame.isFramed_page (frame : Frame) : IsFramed frame.page where
  exists_frame := ⟨frame, fun _ => rfl⟩
  injective := frame.page_injective
  tags_eq t u := (frame.tags_page t).trans (frame.tags_page u).symm

/-- A page of lines is framed if one line shows an escaped text, between fixed lines. -/
theorem isFramed_lines {above below : List Text} {left right : Text} (some : above ≠ [])
    (others : below ≠ [])
    (outside : Place.text.after (lines above ++ ('\n' : CodePoint) :: left) = .text) :
    IsFramed fun t => lines (above ++ (left ++ t.escaped ++ right) :: below) := by
  let frame : Frame :=
    { before := lines above ++ ('\n' : CodePoint) :: left
      after := right ++ ('\n' : CodePoint) :: lines below
      outside }
  have same : frame.page = fun t => lines (above ++ (left ++ t.escaped ++ right) :: below) := by
    funext t
    rw [lines_append some (List.cons_ne_nil _ _), ← List.singleton_append (l := below),
      lines_append (List.cons_ne_nil _ _) others]
    simp [Frame.page, frame, lines]
  rw [← same]
  exact frame.isFramed_page

/-- Pages that greet nobody and offer no logout. -/
structure GreetsNobody (page : Text) : Prop where
  told : Text.ofString "You are not logged in" <:+: page
  noGreeting : ¬Text.ofString "Hello" <:+: page
  noLogout : ¬Text.ofString "/logout" <:+: page

theorem greetsNobody_home : GreetsNobody (home none) := by
  constructor <;> decide +kernel

theorem isFramed_home : IsFramed fun email => home (some email) := by
  -- Only lines are gathered; the line with the email stays as it is.
  simp only [home, List.append_assoc (α := Text), List.cons_append, List.nil_append]
  refine isFramed_lines ?_ ?_ ?_
  · simp [fixed]
  · simp
  · decide +kernel

theorem isFramed_loggedIn : IsFramed loggedIn := by
  unfold loggedIn
  simp only [List.append_assoc (α := Text), List.cons_append, List.nil_append]
  refine isFramed_lines ?_ ?_ ?_
  · simp [fixed]
  · simp [fixed]
  · decide +kernel

end Page

/-! ### Visitors -/

namespace Visitor

variable {visitor : Visitor} {email : Json}

/-- Visitors that count as absent. -/
def isFalsy : Visitor → Bool
  | .absent => true
  | .value shown => !shown.isTruthy
  | _ => false

/-- Visitors that say of themselves that they are anonymous. -/
def isAnonymous : Visitor → Bool
  | .anonymous => true
  | .record attributes =>
    ((Json.Members.get? attributes (Text.ofString "is_anonymous")).getD .null).isTruthy
  | _ => false

/-- The email that a visitor has: an attribute of a record, a column of a user or a member of an
object. -/
inductive HasEmail : Visitor → Json → Prop
  | ofRecord {attributes : Json.Members} {email : Json}
      (given : attributes.get? emailName = some email) : HasEmail (.record attributes) email
  | ofUser {fields : Json.Members} {made : Record} {email : Json}
      (user : Record.ofFields .users fields = .ok made)
      (given : made.read emailName = .ok email) : HasEmail (.user fields) email
  | ofObject {members : Json.Members} {email : Json}
      (given : members.get? emailName = some email) : HasEmail (.value (.obj members)) email

/-- The email of somebody is found. -/
theorem email?_of_hasEmail (present : visitor.isFalsy = false)
    (named : visitor.isAnonymous = false) (has : visitor.HasEmail email) :
    visitor.email? = .ok email := by
  cases has with
  | ofRecord given =>
    rw [isAnonymous] at named
    simp only [email?, named, Bool.false_eq_true, if_false, given]
  | ofUser user given =>
    rw [email?, user]
    exact given
  | ofObject given =>
    rw [isFalsy] at present
    simp only [email?, present, Bool.false_eq_true, if_false, given]

/-- Nobody has the email of nobody. -/
theorem email?_of_nobody
    (nobody : visitor.isFalsy = true ∨ visitor.isAnonymous = true ∨ visitor.HasEmail .null) :
    visitor.email? = .ok .null := by
  cases falsy : visitor.isFalsy with
  | true =>
    cases visitor with
    | absent => rfl
    | value shown => exact if_pos falsy
    | _ => cases falsy
  | false =>
    cases anonymous : visitor.isAnonymous with
    | true =>
      cases visitor with
      | anonymous => rfl
      | record attributes => exact if_pos anonymous
      | _ => cases anonymous
    | false =>
      rw [falsy, anonymous] at nobody
      exact email?_of_hasEmail falsy anonymous (by simpa using nobody)

/-- Of somebody without an email none is found. -/
theorem exists_email?_eq_error (present : visitor.isFalsy = false)
    (named : visitor.isAnonymous = false) (lacks : ∀ email, ¬visitor.HasEmail email) :
    ∃ fault, visitor.email? = .error fault := by
  cases found : visitor.email? with
  | error fault => exact ⟨fault, rfl⟩
  | ok email =>
    cases visitor with
    | absent => cases present
    | anonymous => cases named
    | record attributes =>
      rw [isAnonymous] at named
      cases given : Json.Members.get? attributes emailName with
      | some email => exact absurd (.ofRecord given) (lacks email)
      | none => simp [email?, named, given] at found
    | user fields =>
      obtain ⟨made, user, given⟩ := Except.bind_eq_ok_iff.1 found
      exact absurd (.ofUser user given) (lacks email)
    | value shown =>
      rw [isFalsy] at present
      cases shown with
      | obj members =>
        cases given : Json.Members.get? members emailName with
        | some email => exact absurd (.ofObject given) (lacks email)
        | none => simp [email?, present, given] at found
      | _ => simp [email?, present] at found

/-- The home page for a visitor: it greets nobody, or somebody by the text as which their email is
shown, or there is none. -/
structure IsGreeted (visitor : Visitor) : Prop where
  nobody : visitor.isFalsy = true ∨ visitor.isAnonymous = true ∨ visitor.HasEmail .null →
    visitor.homePage = .ok (Page.home none)
  somebody : visitor.isFalsy = false → visitor.isAnonymous = false → ∀ email,
    visitor.HasEmail email → email ≠ .null →
      visitor.homePage = .ok (Page.home (some email.shown))
  unknown : visitor.isFalsy = false → visitor.isAnonymous = false →
    (∀ email, ¬visitor.HasEmail email) → ∃ fault, visitor.homePage = .error fault

theorem isGreeted (visitor : Visitor) : visitor.IsGreeted where
  nobody nobody := by
    rw [homePage, email?_of_nobody nobody]
    rfl
  somebody present named email has proper := by
    rw [homePage, email?_of_hasEmail present named has]
    cases email with
    | null => exact absurd rfl proper
    | _ => rfl
  unknown present named lacks := by
    obtain ⟨fault, missing⟩ := exists_email?_eq_error present named lacks
    exact ⟨fault, by rw [homePage, missing]; rfl⟩

end Visitor

/-! ### Logins -/

namespace Shop

variable {start : Shop} {request : Request} {key : Sessions.Key} {response : Response}

/-- A login that went well is answered with the page for the email that was sent. -/
theorem body_of_login (asks : request.AsksFor [.post] "/login" key)
    (answered : (start.step (.request request)).answer = .response response)
    (well : response.status = 200) : response.body = Page.loggedIn request.body.email := by
  obtain ⟨target, visited⟩ := (Request.asksFor_iff .login rfl).1 asks
  obtain ⟨changed, handles, -⟩ := start.exists_handles request
  rw [answered] at handles
  cases handles with
  | unvisited unvisited known =>
    rw [visited] at unvisited
    cases unvisited
  | served visited' serves =>
    obtain rfl := Option.some.inj (visited.symm.trans visited')
    rw [Request.delivered_of_post asks] at well ⊢
    cases serves with
    | refused isProtected nobody => cases isProtected
    | emailMissing missing => simp at well
    | loggedIn given email known => rw [← email]; rfl
    | registered given email isNew => rw [← email]; rfl
  | unavailable visited' => simp at well
  | broken visited' => simp at well

/-- Emails are shown as text and as nothing else. The home page greets by a visitor's email if there
is one, and the page after a login names the email that was sent; both are fixed but for that email
in its escaped form, which is inert and can be read back. -/
theorem pages_of_emails :
    (∀ t : Text, t.escaped.IsInert ∧ t.escaped.unescaped = t) ∧
      Page.IsFramed (fun email => Page.home (some email)) ∧ Page.IsFramed Page.loggedIn ∧
      Page.GreetsNobody (Page.home none) ∧ (∀ visitor : Visitor, visitor.IsGreeted) ∧
      ∀ (start : Shop) (request : Request) (key : Sessions.Key) (response : Response),
        request.AsksFor [.post] "/login" key →
          (start.step (.request request)).answer = .response response → response.status = 200 →
            response.body = Page.loggedIn request.body.email :=
  ⟨fun t => ⟨t.isInert_escaped, t.unescaped_escaped⟩, Page.isFramed_home, Page.isFramed_loggedIn,
    Page.greetsNobody_home, Visitor.isGreeted, fun _ _ _ _ => body_of_login⟩

/-- An email with tags, quotes and entities of its own. -/
def hostileEmail : Text := Text.ofString "</p><b title=\"x\">o'neil &amp; co"

/-- A visitor with such an email is greeted by it, and a login with it is answered by it. -/
theorem pages_of_emails_hostile :
    (Visitor.record [(Visitor.emailName, .str hostileEmail)]).homePage =
        .ok (Page.home (some hostileEmail)) ∧
      hostileEmail.escaped = Text.ofString
        "&lt;/p&gt;&lt;b title=&#34;x&#34;&gt;o&#39;neil &amp;amp; co" ∧
      hostileEmail.escaped.IsInert ∧
      Page.tags (Page.home (some hostileEmail)) =
        Page.tags (Page.home (some (Text.ofString "a@example.com"))) ∧
      (Request.forLogin "a" "  <b> ").AsksFor [.post] "/login" (.usual "a") ∧
      ∃ response, (forTests.step (.request (.forLogin "a" "  <b> "))).answer = .response response ∧
        response.status = 200 ∧ response.body = Page.loggedIn (Text.ofString "<b>") := by
  obtain ⟨escapes, home, -, -, greets, login⟩ := pages_of_emails
  have asks : (Request.forLogin "a" "  <b> ").AsksFor [.post] "/login" (.usual "a") :=
    ⟨_, rfl, rfl, rfl, rfl, ⟨.post, by simp, rfl⟩, rfl⟩
  have answered : (forTests.step (.request (.forLogin "a" "  <b> "))).answer =
      .response (.page 200 (Page.loggedIn (Text.ofString "<b>"))) := rfl
  have stripped : (Request.forLogin "a" "  <b> ").body.email = Text.ofString "<b>" := by decide
  have greeted := (greets (.record [(Visitor.emailName, .str hostileEmail)])).somebody rfl rfl
    (.str hostileEmail) (.ofRecord rfl) nofun
  have body := login forTests _ _ _ asks answered rfl
  rw [stripped] at body
  exact ⟨greeted, by decide +kernel, (escapes hostileEmail).1,
    home.tags_eq hostileEmail (Text.ofString "a@example.com"), asks, _, answered, rfl, body⟩

end Shop

end Storefront
