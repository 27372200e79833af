import Accounts.UnknownFamily
import Accounts.Validation

/-!
# The gate of the internal face

`service_guard` lets a request of the internal face pass whose
`X-Service-Token` is the configured one. It compares the two with
`hmac.compare_digest`, which is for ASCII text: on any other it raises, and
the guard does not look before it compares. A header is any text of Latin-1
characters, so a client can have the guard raise; and a token that is not
ASCII locks everybody out, whoever presents it included.

The settings are what the dependency `get_settings` provides. That one refuses
settings without a token, so that the application does not start without one,
and the tests override it to get at the branch which then is left; here they
are any settings.
-/

open Py (Object)

/-! ## The guard -/

/-- `text.isascii()`. -/
def Py.isAscii (text : String) : Bool := text.toList.all (fun c => c.toNat < 128)

/-- `hmac.compare_digest(a, b)`, of two strings: `none` is `TypeError`. -/
def Py.compareDigest (a b : String) : Option Bool :=
  if isAscii a && isAscii b then some (a = b) else none

/-- **The text of a header**: the bytes that were sent, decoded as Latin-1. -/
structure HeaderText where
  /-- The text. -/
  text : String
  /-- Its characters are those of Latin-1. -/
  latin1 : ∀ c ∈ text.toList, c.toNat < 256

/-- What the guard raises. -/
inductive GuardExn where
  /-- `HTTPException`: status and detail. -/
  | http (statusCode : ℕ) (detail : String)
  /-- `TypeError`. -/
  | typeError
deriving DecidableEq

/-- The 401 of the guard. -/
abbrev GuardExn.invalidToken : GuardExn := http 401 "invalid service token"

/-- `service_guard`. -/
def serviceGuard (xServiceToken : Option HeaderText) (serviceToken : Option String) :
    Except GuardExn Unit :=
  match serviceToken with
  | none => .error (.http 503 "internal face not configured")
  | some expected =>
    if expected = "" then .error (.http 503 "internal face not configured")
    else
      match xServiceToken with
      | none => .error .invalidToken
      | some token =>
        if token.text = "" then .error .invalidToken
        else
          match Py.compareDigest token.text expected with
          | none => .error .typeError
          | some true => .ok ()
          | some false => .error .invalidToken

/-! ## A request of the internal face -/

/-- **What becomes of a request**: its route is called, and ends in what the
route ends in; or the guard raises, and a handler answers. -/
inductive InternalAnswer where
  /-- The service was reached. -/
  | served (r : Except Exn Response)
  /-- The guard has raised. -/
  | refused (r : Except Py.RenderError JSONResponse)
deriving DecidableEq

section Handlers

variable (repr : ℚ → String) (requestId : String)

/-- `_http_exc`. -/
def httpExc (statusCode : ℕ) (detail : String) : Except Py.RenderError JSONResponse :=
  envelope repr requestId statusCode (.ofString detail)

/-- The handler of what the guard raises: `_http_exc`, or `_unhandled_exc` for
what is no `HTTPException`. -/
def answerGuard : GuardExn → Except Py.RenderError JSONResponse
  | .http statusCode detail => httpExc repr requestId statusCode detail
  | .typeError => unhandledExc repr requestId

/-- **A request of the internal face**: the guard, then the route. -/
def internalFace (P : Platform) (env : Env) (serviceToken : Option String)
    (xServiceToken : Option HeaderText) (familyId : UUID) (op : FamilyOp) (d : Database) :
    InternalAnswer × Database :=
  match serviceGuard xServiceToken serviceToken with
  | .error e => (.refused (answerGuard repr requestId e), d)
  | .ok () => (.served (serveInternal P env familyId op d).1, (serveInternal P env familyId op d).2)

end Handlers

/-! ## What the guard decides -/

variable {serviceToken : Option String} {xServiceToken : Option HeaderText}

/-- **A token is configured.** -/
def Configured (serviceToken : Option String) : Prop := ∃ t ∈ serviceToken, t ≠ ""

instance (serviceToken : Option String) : Decidable (Configured serviceToken) :=
  match serviceToken with
  | none => isFalse (fun ⟨_, h, _⟩ => by cases h)
  | some t =>
    decidable_of_iff (t ≠ "") ⟨fun h => ⟨t, rfl, h⟩, fun ⟨_, ht, h⟩ => by cases ht; exact h⟩

/-- **The credential is right**: a token is configured, and the header is
that token. -/
def Admits (serviceToken : Option String) (xServiceToken : Option HeaderText) : Prop :=
  ∃ t ∈ serviceToken, t ≠ "" ∧ ∃ h ∈ xServiceToken, h.text = t

/-- **The comparison is defined**, where it comes to it: the configured token
and the header are ASCII, unless one of them is not there or empty. -/
def Comparable (serviceToken : Option String) (xServiceToken : Option HeaderText) : Prop :=
  ∀ t ∈ serviceToken, t ≠ "" → ∀ h ∈ xServiceToken, h.text ≠ "" →
    Py.isAscii t = true ∧ Py.isAscii h.text = true

/-- Nobody is let in where no token is configured. -/
theorem not_admits_of_not_configured (h : ¬ Configured serviceToken) :
    ¬ Admits serviceToken xServiceToken := by
  rintro ⟨t, ht, hne, -⟩
  exact h ⟨t, ht, hne⟩

/-- With a token configured, the right header is that token. -/
theorem admits_some_iff {t : String} (ht : t ≠ "") :
    Admits (some t) xServiceToken ↔ ∃ h ∈ xServiceToken, h.text = t := by
  constructor
  · rintro ⟨t', ht', -, h⟩
    exact Option.some.inj ht' ▸ h
  · exact fun h => ⟨t, rfl, ht, h⟩

/-- **The guard lets the right credential pass** and raises one of its two
`HTTPException`s on every other, as long as the comparison is defined. -/
theorem serviceGuard_of_comparable (h : Comparable serviceToken xServiceToken) :
    (Admits serviceToken xServiceToken ∧ serviceGuard xServiceToken serviceToken = .ok ()) ∨
      (¬ Admits serviceToken xServiceToken ∧ ∃ detail,
        serviceGuard xServiceToken serviceToken
          = .error (.http (if Configured serviceToken then 401 else 503) detail)) := by
  by_cases hconf : Configured serviceToken
  · obtain ⟨t, rfl, ht⟩ := id hconf
    rw [if_pos hconf, admits_some_iff ht]
    unfold serviceGuard
    dsimp only
    rw [if_neg ht]
    cases xServiceToken with
    | none =>
      refine Or.inr ⟨?_, _, rfl⟩
      rintro ⟨_, ⟨⟩, -⟩
    | some x =>
      dsimp only
      by_cases hx : x.text = ""
      · rw [if_pos hx]
        refine Or.inr ⟨?_, _, rfl⟩
        rintro ⟨_, ⟨⟩, heq⟩
        exact ht (heq.symm.trans hx)
      · obtain ⟨hat, hax⟩ := h t rfl ht x rfl hx
        rw [if_neg hx, Py.compareDigest, hat, hax]
        by_cases heq : x.text = t
        · exact Or.inl ⟨⟨x, rfl, heq⟩, by simp [heq]⟩
        · refine Or.inr ⟨?_, "invalid service token", by simp [heq]⟩
          rintro ⟨_, ⟨⟩, heq'⟩
          exact heq heq'
  · rw [if_neg hconf]
    refine Or.inr ⟨not_admits_of_not_configured hconf, "internal face not configured", ?_⟩
    unfold serviceGuard
    cases serviceToken with
    | none => rfl
    | some t =>
      dsimp only
      rw [if_pos]
      by_contra ht
      exact hconf ⟨t, rfl, ht⟩

/-- **Where the comparison is not defined, the guard fails.** -/
theorem serviceGuard_of_not_comparable (h : ¬ Comparable serviceToken xServiceToken) :
    serviceGuard xServiceToken serviceToken = .error .typeError := by
  simp only [Comparable, not_forall] at h
  obtain ⟨t, rfl, ht, x, rfl, hx, hascii⟩ := h
  have hno : Py.compareDigest x.text t = none := by
    rw [Py.compareDigest, if_neg]
    rw [Bool.and_eq_true]
    exact fun hboth => hascii hboth.symm
  unfold serviceGuard
  dsimp only
  rw [if_neg ht, if_neg hx, hno]

/-! ## The result -/

/-- **The gate answers the credential** of a request of the internal face: it
reaches its service if the credential is right; and if not, the answer is the
envelope with status 503 where no token is configured, and with status 401
elsewhere, and the database is left as it is. -/
structure GateAnswers (repr : ℚ → String) (requestId : String) (P : Platform) (env : Env)
    (serviceToken : Option String) (xServiceToken : Option HeaderText) (f : UUID) (op : FamilyOp)
    (d : Database) : Prop where
  /-- The right credential. -/
  reaches : Admits serviceToken xServiceToken →
    internalFace repr requestId P env serviceToken xServiceToken f op d
      = (.served (serveInternal P env f op d).1, (serveInternal P env f op d).2)
  /-- Every other one. -/
  refuses : ¬ Admits serviceToken xServiceToken → ∃ detail r,
    envelope repr requestId (if Configured serviceToken then 401 else 503) (.ofString detail)
        = .ok r ∧
      internalFace repr requestId P env serviceToken xServiceToken f op d = (.refused (.ok r), d)

/-- **Which credentials the gate answers**, for every request: those it can
compare. -/
theorem internal_gate (repr : ℚ → String) (requestId : String) (P : Platform) (env : Env)
    (serviceToken : Option String) (xServiceToken : Option HeaderText) (f : UUID) (op : FamilyOp)
    (d : Database) :
    GateAnswers repr requestId P env serviceToken xServiceToken f op d ↔
      Comparable serviceToken xServiceToken := by
  constructor
  · rintro ⟨hreaches, hrefuses⟩
    by_contra hno
    have hout : internalFace repr requestId P env serviceToken xServiceToken f op d
        = (.refused (unhandledExc repr requestId), d) := by
      rw [internalFace, serviceGuard_of_not_comparable hno]
      rfl
    by_cases hadmits : Admits serviceToken xServiceToken
    · cases hout.symm.trans (hreaches hadmits)
    · obtain ⟨detail, r, hr, hout'⟩ := hrefuses hadmits
      -- the answer has status 500
      have h500 : unhandledExc repr requestId = .ok r :=
        InternalAnswer.refused.inj (Prod.mk.inj (hout.symm.trans hout')).1
      have hstatus : 500 = if Configured serviceToken then 401 else 503 :=
        (envelope_statusCode h500).symm.trans (envelope_statusCode hr)
      split at hstatus <;> cases hstatus
  · intro h
    rcases serviceGuard_of_comparable h with ⟨hadmits, hguard⟩ | ⟨hno, detail, hguard⟩
    · refine ⟨fun _ => ?_, fun hno => absurd hadmits hno⟩
      rw [internalFace, hguard]
    · refine ⟨fun hadmits => absurd hadmits hno, fun _ => ?_⟩
      obtain ⟨text, ht⟩ : ∃ text, envelope repr requestId
          (if Configured serviceToken then 401 else 503) (.ofString detail) = .ok ⟨_, text⟩ :=
        exists_envelope_iff.mpr (Object.serialisable_ofString detail)
      refine ⟨detail, _, ht, ?_⟩
      rw [internalFace, hguard]
      exact Prod.ext (congrArg InternalAnswer.refused ht) rfl

/-- A header with an accent. -/
def Sample.accent : HeaderText :=
  have hall : "clé".toList.all (fun c => c.toNat < 256) = true := by decide
  ⟨"clé", fun c hc => of_decide_eq_true (List.all_eq_true.mp hall c hc)⟩

/-- **A header outside ASCII is an unhandled error**, whatever the token – and
the right one, if the token is that text. -/
theorem internal_gate_accent :
    let P := Sample.platform 2592000
    let env := Sample.env 2 (Sample.second 60)
    let d := Sample.signedUp 2592000
    let unhandled : InternalAnswer := .refused (.ok ⟨500, "\x7b\"error\":\x7b\"code\":500," ++
      "\"message\":\"internal server error\",\"request_id\":\"1\"\x7d\x7d"⟩)
    (internalFace (fun _ => "0.0") "1" P env (some "s3cret") (some Sample.accent) 1 .context d).1
        = unhandled ∧
      Admits (some "clé") (some Sample.accent) ∧
      (internalFace (fun _ => "0.0") "1" P env (some "clé") (some Sample.accent) 1 .context d).1
        = unhandled := by
  exact ⟨by decide +kernel, ⟨"clé", rfl, by decide, Sample.accent, rfl, rfl⟩, by decide +kernel⟩
