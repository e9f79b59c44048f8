import Mathlib.Logic.Basic
import Sshd.ConfigFile

/-!
# Building the server and its handshake configuration

`NewServer` creates the authorized-keys client and loads the host keys, skipping with a warning
every file it cannot read or parse and failing only when none is left. The public-key callback of
`serverConfig` refuses a wrong user name and keys of type `ssh-dss` on its own, and otherwise asks
the authorization gateway about the presented key, recording the key id it answers as the `key-id`
extension of the connection's permissions. The file system, key parser, gateway and encoding are
the environment's, so they are parameters.
-/

namespace Sshd

open ConfigFile (Config)

/-- `os.ReadFile` and `ssh.ParsePrivateKey`. -/
structure HostKeyEnv (Signer : Type) where
  readFile : String → Except String (List UInt8)
  parsePrivateKey : List UInt8 → Except String Signer

variable {Client Signer : Type}

/-- One pass of the host-key loop: the parsed key, or the warning logged before `continue`. -/
def loadHostKey (env : HostKeyEnv Signer) (filename : String) : Except String Signer :=
  match env.readFile filename with
  | .error _ => .error ("Failed to read host key " ++ filename)
  | .ok keyRaw =>
    match env.parsePrivateKey keyRaw with
    | .error _ => .error ("Failed to parse host key " ++ filename)
    | .ok key => .ok key

/-- The body of `for _, filename := range cfg.Server.HostKeyFiles`, on the keys appended to
`hostKeys` and the warnings logged so far. -/
def loadHostKeyStep (env : HostKeyEnv Signer) (acc : List Signer × List String)
    (filename : String) : List Signer × List String :=
  match loadHostKey env filename with
  | .ok key => (acc.1 ++ [key], acc.2)
  | .error warning => (acc.1, acc.2 ++ [warning])

def loadHostKeys (env : HostKeyEnv Signer) (files : List String) : List Signer × List String :=
  files.foldl (loadHostKeyStep env) ([], [])

structure NewServerResult (Client Signer : Type) where
  authorizedKeysClient : Client
  hostKeys : List Signer

/-- `NewServer`; `newClient` is `authorizedkeys.NewClient`. -/
def newServer (newClient : Config → Except String Client) (env : HostKeyEnv Signer)
    (cfg : Config) : Except String (NewServerResult Client Signer) :=
  match newClient cfg with
  | .error err => .error ("failed to initialize GitLab client: " ++ err)
  | .ok client =>
    let hostKeys := (loadHostKeys env cfg.server.hostKeyFiles).1
    if hostKeys.length = 0 then .error "No host keys could be loaded, aborting"
    else .ok ⟨client, hostKeys⟩

def hostKeyOf (env : HostKeyEnv Signer) (filename : String) : Option Signer :=
  (loadHostKey env filename).toOption

def warningOf (env : HostKeyEnv Signer) (filename : String) : Option String :=
  match loadHostKey env filename with
  | .ok _ => none
  | .error warning => some warning

theorem foldl_loadHostKeyStep (env : HostKeyEnv Signer) (files : List String)
    (keys : List Signer) (warnings : List String) :
    files.foldl (loadHostKeyStep env) (keys, warnings) =
      (keys ++ files.filterMap (hostKeyOf env), warnings ++ files.filterMap (warningOf env)) := by
  induction files generalizing keys warnings with
  | nil => simp
  | cons f files ih =>
    simp only [List.foldl_cons, loadHostKeyStep, List.filterMap_cons, hostKeyOf, warningOf]
    cases loadHostKey env f <;> simp [ih, Except.toOption]

/-- The loop keeps the keys of the files that read and parse, in configuration order, and logs
one warning for each other file. -/
theorem loadHostKeys_eq (env : HostKeyEnv Signer) (files : List String) :
    loadHostKeys env files = (files.filterMap (hostKeyOf env), files.filterMap (warningOf env)) := by
  simpa using foldl_loadHostKeyStep env files [] []

/-- A configuration with one valid key and one missing file. -/
def oneValidKey : HostKeyEnv Nat :=
  ⟨fun f => if f = "ed25519" then .ok [1] else .error "no such file", fun _ => .ok 7⟩

example : loadHostKeys oneValidKey ["ed25519", "missing"] =
    ([7], ["Failed to read host key missing"]) := by
  decide

/-- `NewServer` succeeds exactly when the client is created and at least one host-key file reads
and parses; the server then holds the keys of those files, in configuration order. -/
theorem newServer_eq_ok_iff (newClient : Config → Except String Client) (env : HostKeyEnv Signer)
    (cfg : Config) (srv : NewServerResult Client Signer) :
    newServer newClient env cfg = .ok srv ↔
      newClient cfg = .ok srv.authorizedKeysClient ∧
      srv.hostKeys = cfg.server.hostKeyFiles.filterMap (hostKeyOf env) ∧ srv.hostKeys ≠ [] := by
  rcases srv with ⟨client, keys⟩
  unfold newServer
  rw [loadHostKeys_eq]
  cases newClient cfg with
  | error err => simp
  | ok c =>
    by_cases h : cfg.server.hostKeyFiles.filterMap (hostKeyOf env) = []
    · simp [h]
    · simp only [List.length_eq_zero, h, if_false, Except.ok.injEq, NewServerResult.mk.injEq]
      constructor
      · rintro ⟨rfl, rfl⟩
        exact ⟨rfl, rfl, h⟩
      · rintro ⟨rfl, rfl, -⟩
        exact ⟨rfl, rfl⟩

/-! ## The public-key callback -/

/-- `ssh.KeyAlgoDSA`, compared with `key.Type()` for equality: a DSA certificate, whose type is
`ssh-dss-cert-v01@openssh.com`, is not refused by it. -/
def keyAlgoDSA : String := "ssh-dss"

/-- The key a client presents: `key.Type()` and `key.Marshal()`. -/
structure PublicKey where
  type : String
  marshal : List UInt8

structure Permissions where
  extensions : List (String × String)
  deriving DecidableEq

/-- `PublicKeyCallback` of `serverConfig`: it refuses another user than `cfg.User` and a key whose
type is exactly `ssh-dss`, and asks the gateway about every other key. `encode` is
`base64.RawStdEncoding.EncodeToString`, and `getByKey` is `s.authorizedKeysClient.GetByKey` under
its ten-second timeout, answering the `Id` of the key it finds. -/
def publicKeyCallback (cfg : Config) (encode : List UInt8 → String)
    (getByKey : String → Except String Int) (user : String) (key : PublicKey) :
    Except String Permissions :=
  if user ≠ cfg.user then .error "unknown user"
  else if key.type = keyAlgoDSA then .error "DSA is prohibited"
  else
    match getByKey (encode key.marshal) with
    | .error err => .error err
    | .ok id => .ok ⟨[("key-id", toString id)]⟩

section Callback

variable (cfg : Config) (encode : List UInt8 → String) (user : String) (key : PublicKey)

/-- The callback accepts exactly the configured user with a key not of type `ssh-dss` that the
gateway knows, and records the key id the gateway answers, in decimal, as `key-id`. -/
theorem publicKeyCallback_eq_ok_iff (getByKey : String → Except String Int) (perms : Permissions) :
    publicKeyCallback cfg encode getByKey user key = .ok perms ↔
      user = cfg.user ∧ key.type ≠ keyAlgoDSA ∧
        ∃ id, getByKey (encode key.marshal) = .ok id ∧ perms = ⟨[("key-id", toString id)]⟩ := by
  unfold publicKeyCallback
  by_cases hu : user = cfg.user
  · by_cases hk : key.type = keyAlgoDSA
    · simp [hu, hk]
    · cases hg : getByKey (encode key.marshal) <;> simp [hu, hk, eq_comm]
  · simp [hu]

/-- The public-key part of `ssh.NewServerConn`: the client offers its keys in turn, and the
handshake is authenticated by the first one the callback accepts, with that call's permissions
(`none`: every offered key was refused). -/
def publicKeyAuth (callback : String → PublicKey → Except String Permissions) (user : String) :
    List PublicKey → Option Permissions
  | [] => none
  | key :: keys =>
    match callback user key with
    | .ok perms => some perms
    | .error _ => publicKeyAuth callback user keys

/-- `sconn.Permissions.Extensions["key-id"]`, which `handleConn` gives every session of the
connection as its `gitlabKeyId`; a missing entry reads as `""`. -/
def gitlabKeyId (perms : Permissions) : String := (perms.extensions.lookup "key-id").getD ""

end Callback

/-- A client offering a DSA key, then an Ed25519 key the gateway knows as key 42. -/
def dsaThenEd25519 : List PublicKey := [⟨keyAlgoDSA, [1]⟩, ⟨"ssh-ed25519", [2]⟩]

end Sshd
