import Mathlib.Logic.Basic

/-!
# The two-factor verification client

`VerifyOTP` and `PushAuth` post one request body to two endpoints of GitLab's internal API, with the
one-time password the user typed or an empty one, and return whether the check succeeded and the
message to show. The body names the user by the command's key id when it has one, and otherwise by
the user id the discover client looks up. `encoding/json` leaves out a field tagged `omitempty`
whose value is zero. The discover client, the HTTP client and the JSON decoding of the answer are
the environment's, so they are parameters.
-/

namespace Sshd.TwoFactorVerify

/-- The field of `commandargs.Shell` that `getRequestBody` reads. -/
structure Shell where
  gitlabKeyId : String

/-- The answer of GitLab's internal API. -/
structure Response where
  success : Bool
  message : String
  deriving DecidableEq, Repr

structure RequestBody where
  keyId : String := ""
  userId : Int := 0
  otpAttempt : String
  deriving DecidableEq, Repr

/-- A JSON value the request body holds. -/
inductive JsonValue
  | str (s : String)
  | int (n : Int)
  deriving DecidableEq, Repr

/-- `json.Marshal` of a `RequestBody`: its members in field order, the `omitempty` ones
(`key_id`, `user_id`) left out when zero. -/
def RequestBody.toJson (b : RequestBody) : List (String × JsonValue) :=
  (if b.keyId = "" then [] else [("key_id", .str b.keyId)]) ++
    (if b.userId = 0 then [] else [("user_id", .int b.userId)]) ++
    [("otp_attempt", .str b.otpAttempt)]

/-- What `VerifyOTP` and `PushAuth` ask of the environment, for one command. -/
structure Env (DiscoverClient HttpResponse : Type) where
  /-- `discover.NewClient(c.config)`. -/
  newDiscoverClient : Except String DiscoverClient
  /-- `client.GetByCommandArgs(ctx, args)`, the `UserId` of its answer. -/
  getByCommandArgs : DiscoverClient → Except String Int
  /-- `c.client.Post(ctx, path, requestBody)`, which sends the body's JSON. -/
  post : String → List (String × JsonValue) → Except String HttpResponse
  /-- `gitlabnet.ParseJSON(hr, response)`. -/
  parseJSON : HttpResponse → Except String Response

variable {DiscoverClient HttpResponse : Type}

/-- `NewClient`: the client keeps the config and the HTTP client `gitlabnet.GetClient` makes, or
fails with that error wrapped. -/
def newClient {Config HttpClient : Type} (getClient : Config → Except String HttpClient)
    (config : Config) : Except String (Config × HttpClient) :=
  match getClient config with
  | .error err => .error ("Error creating http client: " ++ err)
  | .ok client => .ok (config, client)

/-- `getRequestBody`: the discover client is made first, whether or not it is needed. -/
def getRequestBody (env : Env DiscoverClient HttpResponse) (args : Shell) (otp : String) :
    Except String RequestBody :=
  match env.newDiscoverClient with
  | .error err => .error err
  | .ok client =>
    if args.gitlabKeyId ≠ "" then .ok { keyId := args.gitlabKeyId, otpAttempt := otp }
    else
      match env.getByCommandArgs client with
      | .error err => .error err
      | .ok userId => .ok { userId := userId, otpAttempt := otp }

/-- `parse`: whether the check succeeded and the message, or the error of decoding the answer. -/
def parse (env : Env DiscoverClient HttpResponse) (hr : HttpResponse) :
    Bool × String × Option String :=
  match env.parseJSON hr with
  | .error err => (false, "", some err)
  | .ok response => if !response.success then (false, response.message, none)
    else (true, response.message, none)

/-- The body shared by `VerifyOTP` and `PushAuth`: build the request, post it to `path`, parse the
answer; an error on the way returns `false, ""` and the error. -/
def otpCheck (env : Env DiscoverClient HttpResponse) (path : String) (args : Shell) (otp : String) :
    Bool × String × Option String :=
  match getRequestBody env args otp with
  | .error err => (false, "", some err)
  | .ok requestBody =>
    match env.post path requestBody.toJson with
    | .error err => (false, "", some err)
    | .ok response => parse env response

def verifyOTP (env : Env DiscoverClient HttpResponse) (args : Shell) (otp : String) :
    Bool × String × Option String :=
  otpCheck env "/two_factor_manual_otp_check" args otp

def pushAuth (env : Env DiscoverClient HttpResponse) (args : Shell) :
    Bool × String × Option String :=
  otpCheck env "/two_factor_push_otp_check" args ""

/-! ## What a check answers -/

/-- The request body for the command: its key id when it has one, and otherwise the user id the
lookup answers; the discover client is made either way. -/
inductive BuildsBody (env : Env DiscoverClient HttpResponse) (args : Shell) (otp : String) :
    RequestBody → Prop
  | keyId {client : DiscoverClient} : env.newDiscoverClient = .ok client → args.gitlabKeyId ≠ "" →
      BuildsBody env args otp { keyId := args.gitlabKeyId, otpAttempt := otp }
  | userId {client : DiscoverClient} {userId : Int} : env.newDiscoverClient = .ok client →
      args.gitlabKeyId = "" → env.getByCommandArgs client = .ok userId →
      BuildsBody env args otp { userId := userId, otpAttempt := otp }

/-- What a check at `path` answers, by the call that decided it: a failing call's error is
returned as it is, with `false` and no message, and an answer decoded from GitLab is returned as
GitLab gave it. -/
inductive OtpCheckResult (env : Env DiscoverClient HttpResponse) (path : String) (args : Shell)
    (otp : String) : Bool × String × Option String → Prop
  | discoverFailed {err : String} : env.newDiscoverClient = .error err →
      OtpCheckResult env path args otp (false, "", some err)
  | lookupFailed {client : DiscoverClient} {err : String} : env.newDiscoverClient = .ok client →
      args.gitlabKeyId = "" → env.getByCommandArgs client = .error err →
      OtpCheckResult env path args otp (false, "", some err)
  | postFailed {body : RequestBody} {err : String} : BuildsBody env args otp body →
      env.post path body.toJson = .error err → OtpCheckResult env path args otp (false, "", some err)
  | decodeFailed {body : RequestBody} {hr : HttpResponse} {err : String} :
      BuildsBody env args otp body → env.post path body.toJson = .ok hr →
      env.parseJSON hr = .error err → OtpCheckResult env path args otp (false, "", some err)
  | answered {body : RequestBody} {hr : HttpResponse} {response : Response} :
      BuildsBody env args otp body → env.post path body.toJson = .ok hr →
      env.parseJSON hr = .ok response →
      OtpCheckResult env path args otp (response.success, response.message, none)

section Check

variable {env : Env DiscoverClient HttpResponse} {path : String} {args : Shell} {otp : String}

theorem getRequestBody_eq_ok_iff {body : RequestBody} :
    getRequestBody env args otp = .ok body ↔ BuildsBody env args otp body := by
  constructor
  · intro h
    unfold getRequestBody at h
    split at h
    · cases h
    · rename_i client hc
      split at h
      · cases h; exact .keyId hc ‹_›
      · split at h
        · cases h
        · cases h; exact .userId hc (not_not.1 ‹_›) ‹_›
  · rintro (⟨hc, hk⟩ | ⟨hc, hk, hu⟩)
    · simp [getRequestBody, hc, hk]
    · simp [getRequestBody, hc, hk, hu]

theorem parse_eq (hr : HttpResponse) :
    parse env hr = match env.parseJSON hr with
      | .error err => (false, "", some err)
      | .ok response => (response.success, response.message, none) := by
  unfold parse
  split
  · rfl
  · cases (‹Response›).success <;> rfl

/-- `otpCheck` answers exactly what `OtpCheckResult` says. -/
theorem otpCheck_eq_iff (r : Bool × String × Option String) :
    otpCheck env path args otp = r ↔ OtpCheckResult env path args otp r := by
  constructor
  · rintro rfl
    unfold otpCheck
    split
    · -- the request body could not be built: the discover client or the lookup failed
      rename_i err hb
      unfold getRequestBody at hb
      split at hb
      · cases hb; exact .discoverFailed ‹_›
      · rename_i client hc
        split at hb
        · cases hb
        · split at hb
          · cases hb; exact .lookupFailed hc (not_not.1 ‹_›) ‹_›
          · cases hb
    · rename_i body hb
      have hb' := getRequestBody_eq_ok_iff.1 hb
      split
      · exact .postFailed hb' ‹_›
      · rw [parse_eq]
        split
        · exact .decodeFailed hb' ‹_› ‹_›
        · exact .answered hb' ‹_› ‹_›
  · intro h
    cases h with
    | discoverFailed hc => simp [otpCheck, getRequestBody, hc]
    | lookupFailed hc hk hu => simp [otpCheck, getRequestBody, hc, hk, hu]
    | postFailed hb hp => simp [otpCheck, getRequestBody_eq_ok_iff.2 hb, hp]
    | decodeFailed hb hp hj => simp [otpCheck, getRequestBody_eq_ok_iff.2 hb, hp, parse_eq, hj]
    | answered hb hp hj => simp [otpCheck, getRequestBody_eq_ok_iff.2 hb, hp, parse_eq, hj]

end Check

/-- GitLab accepts the one-time password of the command's key. -/
def acceptingEnv : Env Unit Unit where
  newDiscoverClient := .ok ()
  getByCommandArgs _ := .error "no lookup expected"
  post _ _ := .ok ()
  parseJSON _ := .ok ⟨true, "OTP has been validated successfully"⟩

example : verifyOTP acceptingEnv ⟨"1"⟩ "123456" = (true, "OTP has been validated successfully", none) :=
  rfl

end Sshd.TwoFactorVerify
