import Accounts.Emails
import Accounts.Serialization

/-!
# Rejected signups

A signup body that its schema does not accept is answered by the handler of
`RequestValidationError`: an envelope with status 422, whose message is the
list of errors as the validation library reports them. An entry echoes the
value it is about, and the error of a `field_validator` carries the
exception that was raised. The handler passes both on as they are, and where
they cannot be rendered, it is the handler that fails: the client is answered
with status 500.

`signup_rejection` says which bodies are answered with 422, and that the
others are answered with 500.
-/

open Py (Object Text)

/-! ## Errors of the validation library -/

/-- **What is wrong with a value.** -/
structure LineError where
  /-- The type of the error. -/
  type : String
  /-- Its message. -/
  msg : String
  /-- Its context, if it has one. -/
  ctx : Option (List (String × Object))

/-- **An entry of `exc.errors()`.** -/
structure ErrorEntry extends LineError where
  /-- Where the value is. -/
  loc : List String
  /-- The value. -/
  input : Object

/-- An entry as a `dict`. -/
def ErrorEntry.toObject (e : ErrorEntry) : Object :=
  .ofFields ([("type", .ofString e.type), ("loc", .list (e.loc.map .ofString)),
    ("msg", .ofString e.msg), ("input", e.input)] ++ e.ctx.toList.map (("ctx", .ofFields ·)))

namespace Pydantic

/-- A value that is not there. -/
def missing : LineError := ⟨"missing", "Field required", none⟩

/-- A model of something that is no `dict`. -/
def modelAttributesType : LineError :=
  ⟨"model_attributes_type",
    "Input should be a valid dictionary or object to extract fields from", none⟩

/-- A `str` of something that is none. -/
def stringType : LineError := ⟨"string_type", "Input should be a valid string", none⟩

/-- A number of characters. -/
def characters (n : ℕ) : String := toString n ++ if n = 1 then " character" else " characters"

/-- `str`. -/
def str : Object → Option LineError
  | .str _ => none
  | _ => some stringType

/-- `str | None`. -/
def strOrNone : Object → Option LineError
  | .none => none
  | v => str v

/-- `str` with `Field(min_length=…, max_length=…)`. -/
def constrainedStr (minLength maxLength : ℕ) : Object → Option LineError
  | .str t =>
    match t.encode with
    | none => some ⟨"string_unicode",
        "Input should be a valid string, unable to parse raw data as a unicode string", none⟩
    | some s =>
      if s.length < minLength then
        some ⟨"string_too_short", "String should have at least " ++ characters minLength,
          some [("min_length", .int minLength)]⟩
      else if maxLength < s.length then
        some ⟨"string_too_long", "String should have at most " ++ characters maxLength,
          some [("max_length", .int maxLength)]⟩
      else none
  | _ => some stringType

/-- `str` with a `field_validator`, which may raise a `ValueError`. -/
def validatedStr (validator : Text → Except String String) : Object → Option LineError
  | .str t =>
    match validator t with
    | .ok _ => none
    | .error message => some ⟨"value_error", "Value error, " ++ message,
        some [("error", .exception message)]⟩
  | _ => some stringType

/-- **A field of a model.** -/
structure Field where
  /-- Its name. -/
  name : String
  /-- Whether it has no default. -/
  required : Bool
  /-- What is wrong with a value of it. -/
  check : Object → Option LineError

namespace Field

/-- The value of the field. -/
def value (field : Field) (o : List (Text × Object)) : Option Object :=
  Object.get? o field.name

/-- What is wrong with the field in a `dict`. -/
def errors (o : List (Text × Object)) (field : Field) : List ErrorEntry :=
  match field.value o with
  | none => if field.required then [⟨missing, ["body", field.name], .dict o⟩] else []
  | some v => (field.check v).toList.map (⟨·, ["body", field.name], v⟩)

end Field

end Pydantic

/-! ## The schema -/

/-- A text with a private-use character for every surrogate: what `strip`,
`lower` and the look for an `@` do to the one they do to the other. -/
def Py.Text.masked (t : Text) : String := String.ofList (t.map (Sum.elim id fun _ => '\ue000'))

namespace SignupRequest

open Pydantic

/-- `email: str`, with `_normalize_email` for its validator. -/
def emailField : Field := ⟨"email", true, validatedStr (fun t => normalizeEmail t.masked)⟩

/-- `password: str = Field(min_length=8, max_length=256)`. -/
def passwordField : Field := ⟨"password", true, constrainedStr 8 256⟩

/-- The fields of `SignupRequest`. -/
def fields : List Field := [
  emailField,
  passwordField,
  ⟨"family_name", false, strOrNone⟩,
  ⟨"display_name", false, strOrNone⟩,
  ⟨"role", false, str⟩,
  ⟨"language_preference", false, strOrNone⟩,
  ⟨"invite_code", false, strOrNone⟩]

/-- **What is wrong with a body**, as `json.loads` returns it. -/
def errors : Object → List ErrorEntry
  | .none => [⟨missing, ["body"], .none⟩]
  | .dict o => fields.flatMap (Field.errors o)
  | v => [⟨modelAttributesType, ["body"], v⟩]

end SignupRequest

/-! ## The handlers -/

/-- `JSONResponse`, rendered. -/
structure JSONResponse where
  /-- Its status. -/
  statusCode : ℕ
  /-- Its body. -/
  body : String
deriving DecidableEq

section Handlers

variable (repr : ℚ → String) (requestId : String)

/-- `_envelope`. -/
def envelope (statusCode : ℕ) (message : Object) : Except Py.RenderError JSONResponse :=
  (Py.render repr (.ofFields [("error", .ofFields [("code", .int statusCode),
    ("message", message), ("request_id", .ofString requestId)])])).map (⟨statusCode, ·⟩)

/-- `_validation_exc`. -/
def validationExc (errors : List ErrorEntry) : Except Py.RenderError JSONResponse :=
  envelope repr requestId 422 (.list (errors.map ErrorEntry.toObject))

/-- `_unhandled_exc`. -/
def unhandledExc : Except Py.RenderError JSONResponse :=
  envelope repr requestId 500 (.ofString "internal server error")

/-- **The answer to a body with errors**: that of the handler – or, where the
handler raises, that to an exception nothing has handled. -/
def answerErrors (errors : List ErrorEntry) : Except Py.RenderError JSONResponse :=
  match validationExc repr requestId errors with
  | .ok r => .ok r
  | .error _ => unhandledExc repr requestId

/-- **The answer to a body that is rejected.** -/
def SignupRequest.rejection (body : Object) : Option (Except Py.RenderError JSONResponse) :=
  match errors body with
  | [] => none
  | e :: es => some (answerErrors repr requestId (e :: es))

end Handlers

variable {repr : ℚ → String} {requestId : String}

/-! ## What the envelope holds -/

/-- An envelope has the status it is given, and is rendered if its message
can be. -/
theorem exists_envelope_iff {statusCode : ℕ} {message : Object} :
    (∃ text, envelope repr requestId statusCode message = .ok ⟨statusCode, text⟩) ↔
      message.Serialisable := by
  have hcontent : (∃ text, Py.render repr (.ofFields [("error", .ofFields [
      ("code", .int statusCode), ("message", message), ("request_id", .ofString requestId)])])
        = .ok text) ↔ message.Serialisable := by
    rw [Py.exists_render_iff]
    simp
  rw [← hcontent]
  unfold envelope
  cases Py.render repr _ with
  | ok s => exact iff_of_true ⟨s, rfl⟩ ⟨s, rfl⟩
  | error e => exact iff_of_false (fun ⟨_, h⟩ => by cases h) (fun ⟨_, h⟩ => by cases h)

/-- The context of an error can be rendered. -/
def LineError.Serialisable (e : LineError) : Prop :=
  ∀ c ∈ e.ctx, ∀ p ∈ c, p.2.Serialisable

/-- **An entry can be rendered** just when what it echoes can, and its
context. -/
theorem ErrorEntry.serialisable_iff {e : ErrorEntry} :
    e.toObject.Serialisable ↔ e.input.Serialisable ∧ e.toLineError.Serialisable := by
  unfold toObject LineError.Serialisable
  simp

/-- An envelope that is rendered has the status it is given. -/
theorem envelope_statusCode {statusCode : ℕ} {message : Object} {r : JSONResponse}
    (h : envelope repr requestId statusCode message = .ok r) : r.statusCode = statusCode := by
  unfold envelope at h
  cases hr : Py.render repr _ with
  | ok s =>
    rw [hr] at h
    cases h
    rfl
  | error e =>
    rw [hr] at h
    cases h

/-- **The handler answers** just when every entry can be rendered. -/
theorem exists_validationExc_iff {errors : List ErrorEntry} :
    (∃ text, validationExc repr requestId errors = .ok ⟨422, text⟩) ↔
      ∀ e ∈ errors, e.toObject.Serialisable := by
  unfold validationExc
  rw [exists_envelope_iff, Object.serialisable_list, List.forall_mem_map]

/-- **The answer has status 422** if every entry can be rendered. -/
theorem answerErrors_of_serialisable {errors : List ErrorEntry}
    (h : ∀ e ∈ errors, e.toObject.Serialisable) :
    ∃ text, answerErrors repr requestId errors = .ok ⟨422, text⟩ := by
  obtain ⟨text, ht⟩ : ∃ text, validationExc repr requestId errors = .ok ⟨422, text⟩ :=
    exists_validationExc_iff.mpr h
  exact ⟨text, by rw [answerErrors, ht]⟩

/-- **And status 500** if one cannot. -/
theorem answerErrors_of_not_serialisable {errors : List ErrorEntry}
    (h : ¬ ∀ e ∈ errors, e.toObject.Serialisable) :
    ∃ text, answerErrors repr requestId errors = .ok ⟨500, text⟩ := by
  obtain ⟨text, ht⟩ : ∃ text, unhandledExc repr requestId = .ok ⟨500, text⟩ :=
    exists_envelope_iff.mpr (Object.serialisable_ofString _)
  cases hv : validationExc repr requestId errors with
  | ok r =>
    have hr : r = ⟨422, r.body⟩ := by rw [← envelope_statusCode hv]
    exact absurd (exists_validationExc_iff.mp ⟨r.body, hr ▸ hv⟩) h
  | error e => exact ⟨text, by rw [answerErrors, hv]; exact ht⟩

/-! ## What the errors hold -/

namespace Pydantic

variable {v : Object} {e : LineError}

theorem serialisable_of_ctx_eq_none (h : e.ctx = none) : e.Serialisable := by
  unfold LineError.Serialisable
  rw [h]
  rintro c ⟨⟩

theorem serialisable_of_str (h : str v = some e) : e.Serialisable := by
  unfold str at h
  split at h
  · cases h
  · cases h
    exact serialisable_of_ctx_eq_none rfl

theorem serialisable_of_strOrNone (h : strOrNone v = some e) : e.Serialisable := by
  unfold strOrNone at h
  split at h
  · cases h
  · exact serialisable_of_str h

/-- Bounds are numbers. -/
theorem serialisable_of_constrainedStr {minLength maxLength : ℕ}
    (h : constrainedStr minLength maxLength v = some e) : e.Serialisable := by
  have hbound : ∀ {type msg name : String} {n : ℕ},
      LineError.Serialisable ⟨type, msg, some [(name, .int n)]⟩ := by
    intro type msg name n
    unfold LineError.Serialisable
    simp
  unfold constrainedStr at h
  split at h
  · split at h
    · cases h
      exact serialisable_of_ctx_eq_none rfl
    · split at h
      · cases h
        exact hbound
      · split at h
        · cases h
          exact hbound
        · cases h
  · cases h
    exact serialisable_of_ctx_eq_none rfl

/-- What a validator accepts is a text that it raises nothing on. -/
theorem validatedStr_str_eq_none_iff {validator : Text → Except String String} {t : Text} :
    validatedStr validator (.str t) = none ↔ ∃ w, validator t = .ok w := by
  unfold validatedStr
  dsimp only
  cases validator t with
  | ok w => exact iff_of_true rfl ⟨w, rfl⟩
  | error message => exact iff_of_false (fun h => by cases h) (fun ⟨_, h⟩ => by cases h)

/-- **The error of a validator carries the exception**, that of a value it is
not asked about does not. -/
theorem serialisable_iff_of_validatedStr {validator : Text → Except String String}
    (h : validatedStr validator v = some e) :
    e.Serialisable ↔ ∀ t, v = .str t → ∃ w, validator t = .ok w := by
  by_cases hv : ∃ t, v = .str t
  · obtain ⟨t, rfl⟩ := hv
    have hraises : ¬ ∃ w, validator t = .ok w := fun hok => by
      rw [validatedStr_str_eq_none_iff.mpr hok] at h
      cases h
    refine iff_of_false (fun hs => ?_) (fun hok => hraises (hok t rfl))
    unfold validatedStr at h
    dsimp only at h
    cases hr : validator t with
    | ok w => exact hraises ⟨w, hr⟩
    | error message =>
      rw [hr] at h
      cases h
      exact Object.not_serialisable_exception _ (hs _ rfl _ (List.mem_singleton.mpr rfl))
  · have htype : e = stringType := by
      unfold validatedStr at h
      split at h
      · next t => exact absurd ⟨t, rfl⟩ hv
      · exact (Option.some.inj h).symm
    rw [htype]
    exact iff_of_true (serialisable_of_ctx_eq_none rfl) (fun t ht => absurd ⟨t, ht⟩ hv)

/-- What a validated string can be. -/
theorem exists_str_of_validatedStr {validator : Text → Except String String}
    (h : validatedStr validator v = none) : ∃ t w, v = .str t ∧ validator t = .ok w := by
  unfold validatedStr at h
  split at h
  · next t =>
    cases hw : validator t with
    | ok w => exact ⟨t, w, rfl, hw⟩
    | error message =>
      rw [hw] at h
      cases h
  · cases h

/-- What a bounded string can be. -/
theorem length_of_constrainedStr {minLength maxLength : ℕ}
    (h : constrainedStr minLength maxLength v = none) :
    ∃ t s, v = .str t ∧ t.encode = some s ∧ minLength ≤ s.length ∧ s.length ≤ maxLength := by
  unfold constrainedStr at h
  split at h
  · next t =>
    split at h
    · cases h
    · next s hs =>
      split at h
      · cases h
      · next hmin =>
        split at h
        · cases h
        · next hmax => exact ⟨t, s, rfl, hs, not_lt.mp hmin, not_lt.mp hmax⟩
  · cases h

namespace Field

variable {field : Field} {o : List (Text × Object)}

/-- **The entries of a field can be rendered** – where it is missing, if the
whole `dict` can; and where a value of it is refused, if the value can and
the context of the error. -/
theorem serialisable_errors_iff :
    (∀ e ∈ field.errors o, e.toObject.Serialisable) ↔
      (field.required → field.value o = none → (Object.dict o).Serialisable) ∧
        ∀ v e, field.value o = some v → field.check v = some e →
          v.Serialisable ∧ e.Serialisable := by
  unfold errors
  cases field.value o with
  | none =>
    have hmissing : LineError.Serialisable missing := serialisable_of_ctx_eq_none rfl
    by_cases hreq : field.required
    · simp only [if_pos hreq, List.forall_mem_singleton, ErrorEntry.serialisable_iff]
      exact ⟨fun h => ⟨fun _ _ => h.1, fun _ _ hv => (by cases hv)⟩,
        fun h => ⟨h.1 hreq trivial, hmissing⟩⟩
    · simp only [if_neg hreq]
      exact iff_of_true (List.forall_mem_nil _)
        ⟨fun h => absurd h hreq, fun _ _ hv => (by cases hv)⟩
  | some v =>
    simp only [List.forall_mem_map, Option.mem_toList, ErrorEntry.serialisable_iff]
    constructor
    · refine fun h => ⟨fun _ hv => (by cases hv), fun v' e hv he => ?_⟩
      obtain rfl := Option.some.inj hv
      exact h e he
    · exact fun h e he => h.2 v e rfl he

/-- A field that is required is there, and accepted. -/
theorem exists_value (hreq : field.required)
    (h : field.errors o = []) : ∃ v, field.value o = some v ∧ field.check v = none := by
  unfold errors at h
  cases hv : field.value o with
  | none =>
    rw [hv] at h
    dsimp only at h
    rw [if_pos hreq] at h
    cases h
  | some v =>
    rw [hv] at h
    refine ⟨v, rfl, ?_⟩
    cases hc : field.check v with
    | none => rfl
    | some e =>
      dsimp only at h
      rw [hc] at h
      cases h

end Field

end Pydantic

namespace SignupRequest

open Pydantic

/-- **A body whose errors can be rendered.** Its email is no string that the
validator refuses; and what the errors echo is serialisable: the body itself
if it is no object, all of it if a required field is missing, and each value
of a field that is refused. -/
def Answerable : Object → Prop
  | .none => True
  | .dict o =>
    (∀ t, emailField.value o = some (.str t) → ∃ w, normalizeEmail t.masked = .ok w) ∧
      ∀ field ∈ fields,
        (field.required → field.value o = none → (Object.dict o).Serialisable) ∧
          ∀ v, field.value o = some v → field.check v ≠ none → v.Serialisable
  | v => v.Serialisable

theorem emailField_check {v : Object} :
    emailField.check v = validatedStr (fun t => normalizeEmail t.masked) v :=
  rfl

theorem passwordField_check {v : Object} : passwordField.check v = constrainedStr 8 256 v := rfl

/-- The email field accepts the strings its validator does. -/
theorem emailField_check_str {t : Text} :
    emailField.check (.str t) = none ↔ ∃ w, normalizeEmail t.masked = .ok w := by
  rw [emailField_check]
  exact @validatedStr_str_eq_none_iff (fun t => normalizeEmail t.masked) t

/-- **Only the email has an error that carries an exception**, where it is a
string that its validator refuses. -/
theorem serialisable_iff_of_check {field : Field} (hf : field ∈ fields) {v : Object} {e : LineError}
    (h : field.check v = some e) : e.Serialisable ↔
      (field = emailField → ∀ t, v = .str t → ∃ w, normalizeEmail t.masked = .ok w) := by
  by_cases hemail : field = emailField
  · rw [forall_prop_of_true hemail]
    rw [hemail, emailField_check] at h
    exact serialisable_iff_of_validatedStr h
  · refine iff_of_true ?_ (fun h => absurd h hemail)
    simp only [fields, List.mem_cons, List.not_mem_nil, or_false, hemail, false_or] at hf
    rcases hf with rfl | rfl | rfl | rfl | rfl | rfl
    · rw [passwordField_check] at h
      exact serialisable_of_constrainedStr h
    all_goals dsimp only at h
    · exact serialisable_of_strOrNone h
    · exact serialisable_of_strOrNone h
    · exact serialisable_of_str h
    · exact serialisable_of_strOrNone h
    · exact serialisable_of_strOrNone h

/-- The errors of the fields of an object can be rendered just when it is
answerable. -/
theorem serialisable_fields_iff {o : List (Text × Object)} :
    (∀ field ∈ fields, ∀ e ∈ field.errors o, e.toObject.Serialisable) ↔ Answerable (.dict o) := by
  simp only [Field.serialisable_errors_iff]
  constructor
  · intro h
    refine ⟨fun t ht => ?_, fun field hf => ⟨(h field hf).1, fun v hv hne => ?_⟩⟩
    · have hmem : emailField ∈ fields := List.mem_cons_self
      rw [← emailField_check_str]
      by_contra hrefused
      obtain ⟨e, he⟩ := Option.ne_none_iff_exists'.mp hrefused
      have hserialisable := ((h emailField hmem).2 (.str t) e ht he).2
      exact hrefused (emailField_check_str.mpr
        ((serialisable_iff_of_check hmem he).mp hserialisable rfl t rfl))
    · obtain ⟨e, he⟩ := Option.ne_none_iff_exists'.mp hne
      exact ((h field hf).2 v e hv he).1
  · rintro ⟨hemail, h⟩ field hf
    refine ⟨(h field hf).1, fun v e hv he => ⟨(h field hf).2 v hv (by simp [he]), ?_⟩⟩
    refine (serialisable_iff_of_check hf he).mpr (fun hfield t ht => hemail t ?_)
    rw [← hfield, ← ht]
    exact hv

/-- **The errors of a body can be rendered** just when it is answerable. -/
theorem serialisable_errors_iff {body : Object} :
    (∀ e ∈ errors body, e.toObject.Serialisable) ↔ Answerable body := by
  have hsingle : ∀ {loc : List String} {e : LineError} {v : Object}, e.ctx = none →
      ((∀ e' ∈ [(⟨e, loc, v⟩ : ErrorEntry)], e'.toObject.Serialisable) ↔ v.Serialisable) := by
    intro loc e v he
    rw [List.forall_mem_singleton, ErrorEntry.serialisable_iff]
    exact and_iff_left (serialisable_of_ctx_eq_none he)
  cases body with
  | none => exact hsingle rfl
  | dict o =>
    rw [← serialisable_fields_iff]
    show (∀ e ∈ fields.flatMap (Field.errors o), _) ↔ _
    simp only [List.mem_flatMap]
    exact ⟨fun h field hf e he => h e ⟨field, hf, he⟩, fun h e ⟨field, hf, he⟩ => h field hf e he⟩
  | bool | int | float | str | list | exception => exact hsingle rfl

end SignupRequest

/-! ## What is accepted -/

namespace SignupRequest

open Pydantic

/-- The text of a field, if it has one. -/
def text (o : List (Text × Object)) (name : String) : Option String :=
  match Object.get? o name with
  | some (.str t) => t.encode
  | _ => none

/-- The text of a field that may be any text. -/
def anyText (o : List (Text × Object)) (name : String) : Option Text :=
  match Object.get? o name with
  | some (.str t) => some t
  | _ => none

/-- **The request a body makes** – of texts without surrogates, but for the
invite code. -/
def ofBody : Object → Option SignupRequest
  | .dict o => do
    let email ← text o "email"
    let email ← (normalizeEmail email).toOption
    let password ← (text o "password").bind Password.ofText
    return {
      email
      password
      familyName := text o "family_name"
      displayName := text o "display_name"
      role := (text o "role").getD "parent"
      languagePreference := text o "language_preference"
      inviteCode := anyText o "invite_code" }
  | _ => none

/-- A text without surrogates is what it is. -/
theorem normalizeEmail_masked {t : Text} {s : String} (h : t.encode = some s) :
    normalizeEmail t.masked = normalizeEmail s := by
  have hmasked : t.masked = s := by
    rw [Text.encode_eq_some_iff.mp h, Text.masked, Text.ofString, Text.ofChars, List.map_map]
    simp
  rw [hmasked]

/-- The text of a field that UTF-8 holds. -/
theorem exists_text {o : List (Text × Object)} {name : String} {t : Text}
    (h : Object.get? o name = some (.str t)) (ht : t.Encodable) :
    ∃ s, t.encode = some s ∧ text o name = some s := by
  obtain ⟨s, hs⟩ := Text.exists_encode_iff.mpr ht
  refine ⟨s, hs, ?_⟩
  unfold text
  rw [h]
  exact hs

/-- **A body that is not rejected** makes a request that the results about
the service are about, if UTF-8 holds its texts: its email is one that the
validator returns, and its password is as long as it has to be, or there would
be none. -/
theorem exists_ofBody {o : List (Text × Object)} (h : errors (.dict o) = [])
    (ho : ∀ field ∈ fields, ∀ t, field.value o = some (.str t) → t.Encodable) :
    ∃ b, ofBody (.dict o) = some b ∧ (Request.auth (.signup b)).EmailAccepted := by
  have hmem : emailField ∈ fields ∧ passwordField ∈ fields := by simp [fields]
  have hfields : ∀ field ∈ fields, field.errors o = [] := List.flatMap_eq_nil_iff.mp h
  obtain ⟨v, hv, hcheck⟩ : ∃ v, emailField.value o = some v ∧ emailField.check v = none :=
    Field.exists_value rfl (hfields _ hmem.1)
  rw [emailField_check] at hcheck
  obtain ⟨t, email, rfl, hvalid⟩ := exists_str_of_validatedStr hcheck
  obtain ⟨raw, hraw, htext⟩ := exists_text hv (ho _ hmem.1 t hv)
  rw [normalizeEmail_masked hraw] at hvalid
  obtain ⟨v', hv', hcheck'⟩ :
      ∃ v, passwordField.value o = some v ∧ passwordField.check v = none :=
    Field.exists_value rfl (hfields _ hmem.2)
  rw [passwordField_check] at hcheck'
  obtain ⟨t', password, rfl, hencode, hmin, hmax⟩ := length_of_constrainedStr hcheck'
  obtain ⟨password', hencode', htext'⟩ := exists_text hv' (ho _ hmem.2 t' hv')
  obtain rfl := Option.some.inj (hencode.symm.trans hencode')
  obtain ⟨b, hb, rfl⟩ : ∃ b, ofBody (.dict o) = some b ∧ b.email = email := by
    have hemail : text o "email" = some raw := htext
    have hpassword : (text o "password").bind Password.ofText
        = some ⟨password, hmin, hmax⟩ := by
      rw [show text o "password" = some password from htext', Option.bind_some,
        Password.ofText, dif_pos ⟨hmin, hmax⟩]
    simp only [ofBody, hemail, hpassword, hvalid, Except.toOption, Option.bind_eq_bind,
      Option.bind_some, Option.pure_def, Option.some.injEq, exists_eq_left']
  exact ⟨b, hb, raw, hvalid⟩

end SignupRequest

/-! ## The result -/

/-- **Which rejected signups are answered with status 422**: those whose body
is answerable. Every other one is answered with status 500. -/
theorem signup_rejection (repr : ℚ → String) (requestId : String) (body : Object) :
    ((∀ r, SignupRequest.rejection repr requestId body = some r →
      ∃ text, r = .ok ⟨422, text⟩) ↔ SignupRequest.Answerable body) ∧
    (¬ SignupRequest.Answerable body →
      ∃ text, SignupRequest.rejection repr requestId body = some (.ok ⟨500, text⟩)) := by
  rw [← SignupRequest.serialisable_errors_iff]
  unfold SignupRequest.rejection
  cases SignupRequest.errors body with
  | nil =>
    exact ⟨iff_of_true (fun r hr => by cases hr) (List.forall_mem_nil _),
      fun h => absurd (List.forall_mem_nil _) h⟩
  | cons e es =>
    dsimp only
    by_cases h : ∀ e' ∈ e :: es, e'.toObject.Serialisable
    · refine ⟨iff_of_true (fun r hr => ?_) h, fun hn => absurd h hn⟩
      obtain rfl := Option.some.inj hr
      exact answerErrors_of_serialisable h
    · obtain ⟨text, ht⟩ : ∃ text, answerErrors repr requestId (e :: es) = .ok ⟨500, text⟩ :=
        answerErrors_of_not_serialisable h
      refine ⟨iff_of_false (fun h422 => ?_) h, fun _ => ⟨text, congrArg some ht⟩⟩
      obtain ⟨text', ht'⟩ := h422 _ rfl
      cases ht.symm.trans ht'

/-- An email without an `@`. -/
def Sample.nobody : Object :=
  .ofFields [("email", .ofString "nobody"), ("password", .ofString Sample.password.text)]

/-- **An email that its validator refuses, and a `NaN` in its place**: the
handler fails, and the client is answered with status 500. -/
theorem signup_rejection_unhandled :
    let unhandled : JSONResponse := ⟨500, "\x7b\"error\":\x7b\"code\":500,\"message\":" ++
      "\"internal server error\",\"request_id\":\"1\"\x7d\x7d"⟩
    SignupRequest.rejection (fun _ => "0.0") "1" Sample.nobody = some (.ok unhandled) ∧
      SignupRequest.rejection (fun _ => "0.0") "1" (.ofFields [("email", .float .nan),
        ("password", .ofString Sample.password.text)]) = some (.ok unhandled) := by
  decide +kernel
