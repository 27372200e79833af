import Mathlib.Data.Int.Notation
import Mathlib.Data.List.Basic

/-!
# A client's cookie jar

A server sets cookies with its responses. A client keeps each under its
name and path, a later one in the place of an earlier one, drops those
whose `Max-Age` has run out when they arrive, and sends back the cookies
whose path matches that of a request. Attributes that only restrict who may
read a cookie, or over what it travels, are recorded and have no effect: the
client is one that sends back whatever it has kept.

What a server can count on is in `Jar.store_single` and `Jar.sent_single`: a
jar that only ever knew one name and path holds the last value set, or
nothing.
-/

/-! ## Setting a cookie -/

/-- The `SameSite` policies. -/
inductive SameSite where
  | lax
  | strict
  | none
deriving DecidableEq

/-- **A `Set-Cookie` header.** -/
structure SetCookie where
  /-- The name. -/
  name : String
  /-- The value. -/
  value : String
  /-- `Max-Age`, in seconds. -/
  maxAge : ℤ
  /-- `Path`. -/
  path : String
  /-- `HttpOnly`. -/
  httpOnly : Bool
  /-- `Secure`. -/
  secure : Bool
  /-- `SameSite`. -/
  sameSite : SameSite
deriving DecidableEq

/-- `http.cookies.CookieError`. -/
inductive CookieError where
  /-- The name is that of an attribute. -/
  | reserved
  /-- The name is empty or has a character a name must not have. -/
  | illegal
deriving DecidableEq

/-- The names of the attributes, which no cookie can have. -/
def reservedNames : List String :=
  ["expires", "path", "comment", "domain", "max-age", "secure", "httponly", "version", "samesite"]

/-- **A cookie with a name that cookies can have**; the case of a reserved
name does not matter. -/
def SetCookie.checked (c : SetCookie) : Except CookieError SetCookie :=
  if c.name.toList.map Char.toLower ∈ reservedNames.map String.toList then
    .error .reserved
  else if c.name ≠ "" ∧ c.name.toList.all
      (fun x => x.isAlphanum || x ∈ "!#$%&'*+-.^_`|~:".toList) then
    .ok c
  else
    .error .illegal

theorem SetCookie.checked_eq_ok {c c' : SetCookie} (h : c.checked = .ok c') : c' = c := by
  unfold checked at h
  split at h
  · cases h
  · split at h
    · exact (Except.ok.inj h).symm
    · cases h

/-! ## Paths -/

/-- **The directory of a request**, the path of a cookie that has none. -/
def defaultPath (requestPath : String) : String :=
  match ((requestPath.toList.reverse.dropWhile (· ≠ '/')).drop 1).reverse with
  | [] => "/"
  | directory => String.ofList directory

/-- The path a cookie is kept under. -/
def SetCookie.pathFor (c : SetCookie) (requestPath : String) : String :=
  if c.path.toList.head? = some '/' then c.path else defaultPath requestPath

/-- **A path matches itself and what is below it.** -/
def pathMatches (requestPath cookiePath : String) : Bool :=
  let rest := requestPath.toList.drop cookiePath.length
  cookiePath.toList.isPrefixOf requestPath.toList &&
    (rest.isEmpty || cookiePath.toList.getLast? = some '/' || rest.head? = some '/')

/-! ## The jar -/

/-- A cookie that is kept. -/
structure Cookie where
  /-- The name. -/
  name : String
  /-- The value. -/
  value : String
  /-- The path. -/
  path : String
deriving DecidableEq

/-- **The cookies a client keeps.** -/
abbrev Jar : Type := List Cookie

namespace Jar

variable {jar : Jar} {requestPath : String}

/-- **Keep a cookie** that came with the response to a request. -/
def store (requestPath : String) (c : SetCookie) (jar : Jar) : Jar :=
  let others := jar.filter (fun x => !(x.name = c.name && x.path = c.pathFor requestPath))
  if 0 < c.maxAge then others ++ [⟨c.name, c.value, c.pathFor requestPath⟩] else others

/-- **The cookies sent with a request.** -/
def sent (requestPath : String) (jar : Jar) : List (String × String) :=
  (jar.filter (fun x => pathMatches requestPath x.path)).map (fun x => (x.name, x.value))

/-- **A new cookie takes the place of those with its name and path**, or
just their place if it has run out. -/
theorem store_single {c : SetCookie}
    (h : ∀ x ∈ jar, x.name = c.name ∧ x.path = c.pathFor requestPath) :
    jar.store requestPath c =
      if 0 < c.maxAge then [⟨c.name, c.value, c.pathFor requestPath⟩] else [] := by
  have hnone : jar.filter (fun x => !(x.name = c.name && x.path = c.pathFor requestPath)) = [] := by
    refine List.filter_eq_nil_iff.mpr (fun x hx => ?_)
    simp [h x hx]
  unfold store
  rw [hnone]
  rfl

/-- A jar with one cookie sends it where its path matches. -/
theorem sent_single {x : Cookie} (h : pathMatches requestPath x.path = true) :
    sent requestPath [x] = [(x.name, x.value)] := by
  have hkept : [x].filter (fun x => pathMatches requestPath x.path) = [x] :=
    List.filter_eq_self.mpr (fun y hy => List.mem_singleton.mp hy ▸ h)
  rw [sent, hkept]
  rfl

end Jar

/-! ## Reading a cookie -/

/-- **The value of a cookie of a request**; the last one counts. -/
def cookieParam (name : String) (cookies : List (String × String)) : Option String :=
  (cookies.reverse.find? (fun c => c.1 = name)).map Prod.snd

theorem cookieParam_single {name name' value : String} :
    cookieParam name [(name', value)] = if name' = name then some value else none := by
  unfold cookieParam
  by_cases h : name' = name <;> simp [h]

/-- A cookie the client does not keep is not read. -/
theorem Jar.cookieParam_sent {jar : Jar} {name requestPath : String}
    (h : ∀ x ∈ jar, x.name ≠ name) : cookieParam name (jar.sent requestPath) = none := by
  unfold cookieParam
  rw [Option.map_eq_none_iff, List.find?_eq_none]
  intro c hc
  obtain ⟨x, hx, rfl⟩ := List.mem_map.mp (List.mem_reverse.mp hc)
  simpa using h x (List.mem_filter.mp hx).1
