import Mathlib.Logic.Function.Basic

/-!
# The configuration `gitlab-sshd` runs with

`config.Config` as `newFromFile` builds it: the defaults, the YAML file laid over them, the secret
resolved from the file it names unless the YAML holds it, and a relative log file resolved against
the directory of the configuration. The file system and Go's YAML, URL and path libraries are the
environment's, so they are parameters.

`GracePeriod` turns seconds into a `time.Duration`, a count of nanoseconds in an `int64` whose
conversion and arithmetic wrap. `HttpClient` builds the GitLab client once, under a `sync.Once`.
-/

namespace Sshd.ConfigFile

def configFile : String := "config.yml"

def defaultSecretFileName : String := ".gitlab_shell_secret"

/-- The fields of `config.ServerConfig` that the defaults set or `GracePeriod` reads, with Go's
zero values as defaults. -/
structure ServerConfig where
  listen : String := ""
  webListen : String := ""
  concurrentSessionsLimit : Int := 0
  gracePeriodSeconds : UInt64 := 0
  readinessProbe : String := ""
  livenessProbe : String := ""
  hostKeyFiles : List String := []
  deriving DecidableEq, Repr

structure HttpSettingsConfig where
  readTimeoutSeconds : UInt64 := 0
  caFile : String := ""
  caPath : String := ""
  selfSignedCert : Bool := false
  deriving DecidableEq, Repr

/-- The exported fields of `config.Config` that the loader, `IsSane` and `HttpClient` use. -/
structure Config where
  user : String := ""
  rootDir : String := ""
  logFile : String := ""
  logFormat : String := ""
  gitlabUrl : String := ""
  gitlabRelativeURLRoot : String := ""
  secretFilePath : String := ""
  secret : String := ""
  sslCertDir : String := ""
  httpSettings : HttpSettingsConfig := {}
  server : ServerConfig := {}
  deriving DecidableEq, Repr

def defaultServerConfig : ServerConfig where
  listen := "[::]:22"
  webListen := "localhost:9122"
  concurrentSessionsLimit := 10
  gracePeriodSeconds := 10
  readinessProbe := "/start"
  livenessProbe := "/health"
  hostKeyFiles := ["/run/secrets/ssh-hostkeys/ssh_host_rsa_key",
    "/run/secrets/ssh-hostkeys/ssh_host_ecdsa_key", "/run/secrets/ssh-hostkeys/ssh_host_ed25519_key"]

def defaultConfig : Config where
  logFile := "gitlab-shell.log"
  logFormat := "json"
  server := defaultServerConfig
  user := "git"

/-! ## `GracePeriod` -/

/-- Go's conversion to `int64`, and its `int64` arithmetic: two's complement wrap onto
`[-2^63, 2^63)`. -/
def wrapInt64 (x : Int) : Int :=
  (x + 9223372036854775808) % 18446744073709551616 - 9223372036854775808

def second : Int := 1000000000

/-- `time.Duration(sc.GracePeriodSeconds) * time.Second`, in nanoseconds. -/
def ServerConfig.gracePeriod (sc : ServerConfig) : Int :=
  wrapInt64 (wrapInt64 sc.gracePeriodSeconds.toNat * second)

theorem wrapInt64_add_mul (x q : Int) : wrapInt64 (x + 18446744073709551616 * q) = wrapInt64 x := by
  unfold wrapInt64
  rw [Int.add_right_comm, Int.add_mul_emod_self_left]

theorem wrapInt64_eq_self_iff (x : Int) :
    wrapInt64 x = x ↔ -9223372036854775808 ≤ x ∧ x < 9223372036854775808 := by
  unfold wrapInt64
  omega

theorem wrapInt64_neg_iff (x : Int) : wrapInt64 x < 0 ↔ 9223372036854775808 ≤ x % 18446744073709551616 := by
  unfold wrapInt64
  omega

/-- Wrapping the seconds to `int64` before the product changes nothing: the product wraps anyway. -/
theorem gracePeriod_eq_wrap (sc : ServerConfig) :
    sc.gracePeriod = wrapInt64 (sc.gracePeriodSeconds.toNat * second) := by
  have h : wrapInt64 sc.gracePeriodSeconds.toNat * second = sc.gracePeriodSeconds.toNat * second +
      18446744073709551616 *
        -((sc.gracePeriodSeconds.toNat + 9223372036854775808) / 18446744073709551616 * second) := by
    unfold wrapInt64 second
    omega
  rw [ServerConfig.gracePeriod, h, wrapInt64_add_mul]

/-- The grace period is the configured number of seconds exactly when that number is at most
`9223372036`, the most whole seconds an `int64` count of nanoseconds holds; a larger
`grace_period` wraps, and the duration is negative exactly when the nanoseconds, taken modulo
`2^64`, reach `2^63`. -/
theorem gracePeriod_exact_iff (sc : ServerConfig) :
    (sc.gracePeriod = sc.gracePeriodSeconds.toNat * second ↔
      sc.gracePeriodSeconds.toNat ≤ 9223372036) ∧
    (sc.gracePeriod < 0 ↔
      9223372036854775808 ≤ sc.gracePeriodSeconds.toNat * second % 18446744073709551616) := by
  rw [gracePeriod_eq_wrap, wrapInt64_eq_self_iff, wrapInt64_neg_iff]
  exact ⟨by unfold second; omega, Iff.rfl⟩

example : defaultServerConfig.gracePeriod = 10 * second := by decide

example : ({ gracePeriodSeconds := 9223372037 } : ServerConfig).gracePeriod < 0 := by decide

/-! ## `HttpClient` -/

/-- The unexported fields `httpClient`, `httpClientErr` and `httpClientOnce` of `config.Config`. -/
structure HttpClientOnce (Client : Type) where
  httpClient : Option Client := none
  httpClientErr : Option String := none
  done : Bool := false

variable {Client : Type}

/-- What the function passed to `httpClientOnce.Do` stores. `newHTTPClientWithOpts` is
`client.NewHTTPClientWithOpts` as it answers at the call, given the URL, the relative URL root,
the CA file and path, whether to accept a self-signed certificate, and the read timeout;
`instrument` is `promhttp.InstrumentRoundTripperDuration` put on the transport. -/
def buildHttpClient
    (newHTTPClientWithOpts : String → String → String → String → Bool → UInt64 → Except String Client)
    (instrument : Client → Client) (c : Config) : Option Client × Option String :=
  match newHTTPClientWithOpts c.gitlabUrl c.gitlabRelativeURLRoot c.httpSettings.caFile
      c.httpSettings.caPath c.httpSettings.selfSignedCert c.httpSettings.readTimeoutSeconds with
  | .error err => (none, some err)
  | .ok client => (some (instrument client), none)

/-- `c.HttpClient()`: the first call runs the constructor and stores its client or its error;
every call returns what is stored. `sync.Once` makes a concurrent call wait until the first one
has stored, so calls take effect one at a time. -/
def httpClient
    (newHTTPClientWithOpts : String → String → String → String → Bool → UInt64 → Except String Client)
    (instrument : Client → Client) (c : Config) (st : HttpClientOnce Client) :
    (Option Client × Option String) × HttpClientOnce Client :=
  let st := if st.done then st else
    let built := buildHttpClient newHTTPClientWithOpts instrument c
    { httpClient := built.1, httpClientErr := built.2, done := true }
  ((st.httpClient, st.httpClientErr), st)

/-! ## Loading the configuration -/

/-- What `newFromFile` asks of the system and of Go's libraries. -/
structure LoadEnv where
  readFile : String → Except String String
  /-- `yaml.Unmarshal` of the file's content into a config that already holds values. -/
  unmarshal : String → Config → Except String Config
  pathUnescape : String → Except String String
  dir : String → String
  /-- `filepath.Join` and `path.Join` of two elements, which agree on Unix. -/
  join : String → String → String
  isAbs : String → Bool

/-- The file `parseSecret` reads the secret from: `secret_file`, `.gitlab_shell_secret` when it is
unset, taken relative to the configuration's directory unless it is absolute. -/
def secretPath (env : LoadEnv) (cfg : Config) : String :=
  let path := if cfg.secretFilePath = "" then defaultSecretFileName else cfg.secretFilePath
  if env.isAbs path then path else env.join cfg.rootDir path

/-- `parseSecret`: a secret given in the YAML is kept and no file is read; otherwise the secret is
the whole content of the secret file. -/
def parseSecret (env : LoadEnv) (cfg : Config) : Except String Config :=
  if cfg.secret ≠ "" then .ok cfg
  else
    let path := secretPath env cfg
    match env.readFile path with
    | .error err => .error err
    | .ok content => .ok { cfg with secretFilePath := path, secret := content }

def unescapeGitlabUrl (env : LoadEnv) (cfg : Config) : Except String Config :=
  if cfg.gitlabUrl ≠ "" then (fun u => { cfg with gitlabUrl := u }) <$> env.pathUnescape cfg.gitlabUrl
  else .ok cfg

def resolveLogFile (env : LoadEnv) (cfg : Config) : Config :=
  if 0 < cfg.logFile.length ∧ cfg.logFile.front ≠ '/' ∧ cfg.rootDir ≠ "" then
    { cfg with logFile := env.join cfg.rootDir cfg.logFile }
  else cfg

/-- `newFromFile`: the defaults with `RootDir` set to the file's directory, the YAML over them,
then the URL, the secret and the log file; the first error is returned as it is. -/
def newFromFile (env : LoadEnv) (path : String) : Except String Config := do
  let configBytes ← env.readFile path
  let cfg ← env.unmarshal configBytes { defaultConfig with rootDir := env.dir path }
  let cfg ← unescapeGitlabUrl env cfg
  let cfg ← parseSecret env cfg
  pure (resolveLogFile env cfg)

def newFromDir (env : LoadEnv) (dir : String) : Except String Config :=
  newFromFile env (env.join dir configFile)

def Config.applyGlobalState (c : Config) (environ : String → Option String) :
    String → Option String :=
  if c.sslCertDir ≠ "" then Function.update environ "SSL_CERT_DIR" (some c.sslCertDir) else environ

/-- `NewFromDirExternal`, with the process environment it leaves behind. -/
def newFromDirExternal (env : LoadEnv) (dir : String) (environ : String → Option String) :
    Except String Config × (String → Option String) :=
  match newFromFile env (env.join dir configFile) with
  | .error err => (.error err, environ)
  | .ok cfg => (.ok cfg, cfg.applyGlobalState environ)

/-- `NewFromDirExternal` leaves the process environment as it was, unless the configuration loads
with an `ssl_cert_dir`; then it changes `SSL_CERT_DIR` alone. -/
theorem newFromDirExternal_environ (env : LoadEnv) (dir : String)
    (environ : String → Option String) :
    (newFromDirExternal env dir environ).2 = environ ∨
      ∃ cfg, (newFromDirExternal env dir environ).1 = .ok cfg ∧ cfg.sslCertDir ≠ "" ∧
        (newFromDirExternal env dir environ).2 =
          Function.update environ "SSL_CERT_DIR" (some cfg.sslCertDir) := by
  unfold newFromDirExternal
  split
  · exact .inl rfl
  · rename_i cfg _
    by_cases hs : cfg.sslCertDir = ""
    · exact .inl (by simp [Config.applyGlobalState, hs])
    · exact .inr ⟨cfg, rfl, hs, by simp [Config.applyGlobalState, hs]⟩

def Config.isSane (cfg : Config) : Except String Unit :=
  if cfg.gitlabUrl = "" then .error "gitlab_url is required"
  else if cfg.secret = "" then .error "secret or secret_file_path is required"
  else .ok ()

/-- The secret `parseSecret` leaves is the YAML's, or the content of the file it records. -/
theorem parseSecret_secret {env : LoadEnv} {cfg cfg' : Config} (h : parseSecret env cfg = .ok cfg') :
    cfg'.secret ≠ "" ∨ env.readFile cfg'.secretFilePath = .ok cfg'.secret := by
  unfold parseSecret at h
  split at h
  · cases h; exact .inl ‹_›
  · cases hr : env.readFile (secretPath env cfg) <;> simp only [hr] at h
    · cases h
    · cases h; exact .inr hr

theorem except_bind_eq_ok {α β : Type} {x : Except String α} {f : α → Except String β} {b : β}
    (h : x >>= f = .ok b) : ∃ a, x = .ok a ∧ f a = .ok b := by
  cases x with
  | error e => cases h
  | ok a => exact ⟨a, rfl, h⟩

/-- A loaded configuration without a secret names a secret file that exists and is empty. So
`IsSane`'s "secret or secret_file_path is required" never means that neither was set: a missing
secret file already makes the load fail, and this error is left for an empty one. -/
theorem isSane_secret_error_means_empty_file {env : LoadEnv} {path : String} {cfg : Config}
    (h : newFromFile env path = .ok cfg)
    (he : cfg.isSane = .error "secret or secret_file_path is required") :
    env.readFile cfg.secretFilePath = .ok "" := by
  have hs : cfg.secret = "" := by
    unfold Config.isSane at he
    split at he
    · exact absurd (Except.error.inj he) (by decide)
    · split at he
      · assumption
      · cases he
  obtain ⟨_, -, h⟩ := except_bind_eq_ok h
  obtain ⟨_, -, h⟩ := except_bind_eq_ok h
  obtain ⟨_, -, h⟩ := except_bind_eq_ok h
  obtain ⟨cfg₃, hp, h⟩ := except_bind_eq_ok h
  cases h
  have hr : (resolveLogFile env cfg₃).secret = cfg₃.secret ∧
      (resolveLogFile env cfg₃).secretFilePath = cfg₃.secretFilePath := by
    unfold resolveLogFile; split <;> exact ⟨rfl, rfl⟩
  rw [hr.1] at hs
  rw [hr.2, ← hs]
  exact (parseSecret_secret hp).resolve_left (not_not.2 hs)

/-- A file system with the configuration and an empty default secret file next to it. -/
def emptySecretEnv : LoadEnv where
  readFile p :=
    if p = "/etc/gitlab-shell/config.yml" then .ok "gitlab_url: http://localhost:8080"
    else if p = "/etc/gitlab-shell/.gitlab_shell_secret" then .ok ""
    else .error "no such file or directory"
  unmarshal _ cfg := .ok { cfg with gitlabUrl := "http://localhost:8080" }
  pathUnescape u := .ok u
  dir _ := "/etc/gitlab-shell"
  join a b := a ++ "/" ++ b
  isAbs p := p.front = '/'

theorem empty_secret_file_fails_isSane :
    ∃ cfg, newFromFile emptySecretEnv "/etc/gitlab-shell/config.yml" = .ok cfg ∧
      cfg.isSane = .error "secret or secret_file_path is required" ∧
      emptySecretEnv.readFile cfg.secretFilePath = .ok "" :=
  have h : newFromFile emptySecretEnv "/etc/gitlab-shell/config.yml" = .ok _ := rfl
  ⟨_, h, rfl, isSane_secret_error_means_empty_file h rfl⟩

end Sshd.ConfigFile
