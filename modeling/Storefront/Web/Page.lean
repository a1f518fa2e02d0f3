import Storefront.Number.Numeral
import Storefront.Text.Markup

/-!
# Pages

The pages of the shop. Text from outside enters a page only in its escaped form; all else is
fixed.

## Main definitions

* `Page.home`, `Page.loggedIn`, `Page.login`, `Page.loggedOut`, `Page.productForm` — the pages of
  the shop
* `Page.unauthorized`, `Page.unavailable` — the pages for what a browser may not see or cannot now
* `Page.failure` — the page for what the shop does not serve
* `Page.moved` — the page for what is to be asked for at another address
-/

namespace Storefront.Page

/-- Lines, without an end after the last. -/
def lines (texts : List Text) : Text := [('\n' : CodePoint)].intercalate texts

/-- Lines above others end before those begin. -/
theorem lines_append {above below : List Text} (some : above ≠ []) (others : below ≠ []) :
    lines (above ++ below) = lines above ++ ('\n' : CodePoint) :: lines below := by
  obtain ⟨first, rest, rfl⟩ := List.exists_cons_of_ne_nil others
  induction above with
  | nil => exact absurd rfl some
  | cons line above ih =>
    cases above with
    | nil =>
      simp only [lines, List.cons_append, List.nil_append, List.intercalate_cons_cons,
        List.intercalate_singleton, List.append_assoc]
    | cons next above =>
      have tail := ih (List.cons_ne_nil next above)
      simp only [lines, List.cons_append, List.intercalate_cons_cons, List.append_assoc] at tail ⊢
      rw [tail]

/-- Fixed lines. -/
def fixed (texts : List String) : List Text := texts.map Text.ofString

/-- The home page: a greeting for the email of whoever is logged in. -/
def home (email : Option Text) : Text :=
  lines <|
    fixed [
      "<!doctype html>", "<html>", "", "<head>", "  <meta charset=\"utf-8\">",
      "  <title>Home</title>", "</head>", "", "<body>",
      "  <p><a href=\"/\">Home</a>. <a href=\"/login\">Login</a> | " ++
        "<a href=\"/products/create\">Create Product</a> | " ++
        "<a href=\"/dashboard\">Dashboard</a></p>"] ++
    (match email with
      | some email =>
        [Text.ofString "  <p>Hello, " ++ email.escaped ++ Text.ofString "!</p>",
         Text.ofString "  <p><a href=\"/logout\">Logout</a></p>"]
      | none => [Text.ofString "  <p>You are not logged in</p>"]) ++
    fixed ["</body>", "", "</html>"]

/-- The login form, with what was wrong with the last one if something was. -/
def login (error : Option Text) : Text :=
  lines <|
    fixed [
      "<!doctype html>", "<html>", "", "<head>", "  <meta charset=\"utf-8\">",
      "  <title>Login</title>", "</head>", "", "<body>", "  <h1>Login</h1>", "  "] ++
    (match error with
      | some error =>
        [Text.ofString "  <p>" ++ error.escaped ++ Text.ofString "</p>", Text.ofString "  "]
      | none => []) ++
    fixed [
      "  <form method=\"post\" action=\"/login\">",
      "    <label>Email: <input name=\"email\" type=\"email\" value=\"\" required></label><br>",
      "    <button type=\"submit\">Login</button>", "  </form>", "</body>", "", "</html>"]

/-- The page after a login. -/
def loggedIn (email : Text) : Text :=
  lines <|
    fixed [
      "<!doctype html>", "<html>",
      "<head><meta charset=\"utf-8\"><title>Logged in</title></head>", "<body>"] ++
    [Text.ofString "  <p>Logged in as " ++ email.escaped ++
      Text.ofString ". Go to <a href=\"/dashboard\">Dashboard</a></p>"] ++
    fixed ["</body>", "</html>"]

/-- The page after a logout. -/
def loggedOut : Text :=
  lines <| fixed [
    "<!doctype html>", "<html>",
    "<head><meta charset=\"utf-8\"><title>Logged out</title></head>", "<body>",
    "  <p>Logged out. <a href=\"/\">Home</a></p>", "</body>", "</html>"]

/-- The form for a new product, with what is set for the longest title and SKU. -/
def productForm (titleMax skuMax : Text) : Text :=
  lines <|
    fixed [
      "<!doctype html>", "<html>",
      "<head><meta charset=\"utf-8\"><title>Create Product</title></head>", "<body>",
      "  <h1>Create Product</h1>", "  <form method=\"post\" action=\"/products\">"] ++
    [Text.ofString "    <label>Title: <input name=\"title\" maxlength=\"" ++ titleMax.escaped ++
       Text.ofString "\" required></label><br>",
     Text.ofString "    <label>SKU: <input name=\"sku\" maxlength=\"" ++ skuMax.escaped ++
       Text.ofString "\"></label><br>"] ++
    fixed [
      "    <label>Description: <textarea name=\"description\"></textarea></label><br>",
      "    <label>Price: <input name=\"price\" type=\"number\" min=\"0\" step=\"0.01\" " ++
        "required></label><br>",
      "    <label>Stock: <input name=\"stock\" type=\"number\" min=\"0\" step=\"1\" " ++
        "value=\"0\"></label><br>",
      "    <label>Active:", "      <select name=\"is_active\">",
      "        <option value=\"1\" selected>Yes</option>",
      "        <option value=\"0\">No</option>", "      </select>", "    </label><br>",
      "    <button type=\"submit\">Create</button>", "  </form>", "</body>", "</html>"]

/-- The page for whoever must log in first. -/
def unauthorized : Text :=
  lines <| fixed [
    "<!doctype html>", "<html>",
    "<head><meta charset=\"utf-8\"><title>Unauthorized</title></head>", "<body>",
    "  <h1>401 Unauthorized</h1>", "  <p><a href=\"/login\">Login</a></p>", "</body>", "</html>"]

/-- The page for when the database cannot be reached. -/
def unavailable : Text :=
  lines <| fixed [
    "<!doctype html>", "<html>",
    "<head><meta charset=\"utf-8\"><title>Service unavailable</title></head>", "<body>",
    "  <h1>Service temporarily unavailable</h1>",
    "  <p>We could not reach the database. Please try again in a moment.</p>",
    "  <p><a href=\"/\">Home</a></p>", "</body>", "</html>"]

/-- The page for a request that the shop does not serve: a status, its name and an explanation, with
an end after the last line. -/
def failure (status : Nat) (name explanation : String) : Text :=
  lines <|
    fixed ["<!doctype html>", "<html lang=en>"] ++
    [Text.ofString "<title>" ++ Text.ofNat status ++ Text.ofString (" " ++ name ++ "</title>"),
     Text.ofString ("<h1>" ++ name ++ "</h1>"),
     Text.ofString ("<p>" ++ explanation ++ "</p>"),
     []]

/-- The page for a path that nothing is found at. -/
def notFound : Text :=
  failure 404 "Not Found" <|
    "The requested URL was not found on the server. If you entered the URL manually please " ++
    "check your spelling and try again."

/-- The page for a method that a path does not take. -/
def methodNotAllowed : Text :=
  failure 405 "Method Not Allowed" "The method is not allowed for the requested URL."

/-- The page for a lasting connection, which is not to be had. -/
def badRequest : Text :=
  failure 400 "Bad Request"
    "The browser (or proxy) sent a request that this server could not understand."

/-- The page for a path that is to be asked for at another address. -/
def moved (address : Text) : Text :=
  lines <|
    fixed ["<!doctype html>", "<html lang=en>", "<title>Redirecting...</title>",
      "<h1>Redirecting...</h1>"] ++
    [Text.ofString "<p>You should be redirected automatically to the target URL: <a href=\"" ++
      address.escaped ++ Text.ofString "\">" ++ address.escaped ++
      Text.ofString "</a>. If not, click the link.",
     []]

/-- The page for a request that has failed. -/
def internalError : Text :=
  failure 500 "Internal Server Error" <|
    "The server encountered an internal error and was unable to complete your request. Either " ++
    "the server is overloaded or there is an error in the application."

end Storefront.Page
