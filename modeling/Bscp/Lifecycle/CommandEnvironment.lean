import Bscp.DictLayers
import Mathlib.Data.List.Sort
import Mathlib.Data.List.Lex
import Mathlib.Data.Char

/-!
The environment of a launch, which is computed three times: planned by `materialize`
(`runtime.py`), taken apart by `command_environment` (`environment_evidence.py`) for the command
that `WindowsOwner.start` records, and put together again by `spawn_reviewed`
(`vendor/owned_job.py`).
-/

namespace Bscp.CommandEnvironment

abbrev Environ := Dict Text Text

def raise {α : Type} (kind : Exc) (text : String) : Except Fault α := .error ⟨kind, text⟩

def need (ok : Bool) (text : String) : Except Fault Unit :=
  if ok then .ok () else raise .valueError text

/-! ### Profiles -/

inductive Platform where
  | windows
  | linux
  | macos
  deriving DecidableEq, Repr

/-- What is read of a profile. Optional members may be of any type. -/
structure Profile where
  platform : Platform
  environment : Environ
  guestSdk : Option (Reply Int) := none
  windowsServiceMode : Option (Reply Text) := none
  vm : Text
  virtmgr : Text
  crosvm : Text
  apex : Text
  system : Text
  systemExt : Text
  pathPrefix : Text

structure Config where
  cid : Nat
  gpuMode : Option (Reply Text) := none

inductive Mode where
  | on
  | off
  deriving DecidableEq, Repr

def gpuMode (cfg : Config) : Except Fault Mode :=
  match cfg.gpuMode with
  | none => .ok .on
  | some (.value mode) =>
      if mode = "on".toList then .ok .on
      else if mode = "off".toList then .ok .off
      else raise .valueError "invalid GPU mode"
  | some .other => raise .valueError "invalid GPU mode"

def guestSdk (p : Profile) : Except Fault Int :=
  match p.guestSdk with
  | none => .ok 35
  | some (.value sdk) =>
      if sdk = 35 ∨ sdk = 37 then .ok sdk else raise .valueError "unsupported Guest SDK contract"
  | some .other => raise .valueError "unsupported Guest SDK contract"

def VIRTMGR_SERVICE_DIR : Text := "VIRTMGR_SERVICE_DIR".toList

def VIRTMGR_MICRODROID_JSON : Text := "VIRTMGR_MICRODROID_JSON".toList

def requireInitialContract (p : Profile) : Except Fault Unit := do
  need (decide (p.windowsServiceMode = some (.value "initial-original-handle".toList)))
    "Windows SDK37 requires Initial original HANDLE ownership"
  need (decide (VIRTMGR_SERVICE_DIR ∉ p.environment.keys))
    "Initial profile cannot request persistent discovery"

def startsWith (name : Text) (starts : List String) : Bool :=
  starts.any fun start => start.toList.isPrefixOf name

/-- The variables of the graphics stack, which a launch without it does not get. -/
def GPU_STARTS : List String := ["VK_", "GFXSTREAM_", "ANDROID_EMU_", "MVK_"]

def modeEnvironment (p : Profile) (mode : Mode) : Environ :=
  match mode with
  | .on => p.environment
  | .off => p.environment.filter fun entry => !startsWith entry.1 GPU_STARTS

/-! ### Planning -/

def replaceFrom (old new : Text) : Nat → Text → Text
  | _, [] => []
  | skip + 1, _ :: rest => replaceFrom old new skip rest
  | 0, char :: rest =>
      if old.isPrefixOf (char :: rest) then new ++ replaceFrom old new (old.length - 1) rest
      else char :: replaceFrom old new 0 rest

def replace (old new value : Text) : Text :=
  if old = [] then new ++ value.flatMap fun char => char :: new else replaceFrom old new 0 value

structure Paths where
  state : Text
  service : Text
  logs : Text
  temp : Text

structure Plan where
  argv : List Text
  paths : Paths
  environment : Environ

/-- Variables that are not taken over from the environment of the controller. -/
def BLOCKED : List String :=
  ["BASH_ENV", "ENV", "SHELLOPTS", "BASHOPTS", "ANGLE_DEFAULT_PLATFORM"]

def BLOCKED_STARTS : List String :=
  ["BASH_FUNC_", "BSCP_", "GFXSTREAM_", "VIRTMGR_", "VMCLIENT_", "ANDROID_EMU_", "MVK_", "VK_",
    "DYLD_", "LD_"]

def blocked (name : Text) : Bool :=
  BLOCKED.any (fun word => decide (word.toList = name)) || startsWith name BLOCKED_STARTS

def ANDROID_PROP_RO_BUILD_VERSION_SDK : Text := "ANDROID_PROP_RO_BUILD_VERSION_SDK".toList

def PATH : Text := "PATH".toList

def decimal (value : Nat) : Text := Nat.toDigits 10 value

section Materialize

-- `attempt` gives the text of a path below the directory of the attempt; `configure` is the outcome
-- of checking the pinned configuration and of writing the one that is derived from it
variable (p : Profile) (cfg : Config) (attempt : List String → Text) (state : Text)
  (basePlan : Profile → Config → Except Fault Plan) (configure : Except Fault Unit)

def runPaths : Environ :=
  [("VIRTMGR_GUEST_CID".toList, decimal cfg.cid),
    (VIRTMGR_SERVICE_DIR, attempt ["service"]),
    ("VIRTMGR_TRACE_FILE".toList, attempt ["service", "virtmgr-trace.log"]),
    ("VMCLIENT_TRACE_FILE".toList, attempt ["client-trace.log"]),
    ("VIRTMGR_CONSOLE_LOG_DIR".toList, attempt ["console"])]

def windowsPaths (sdk : Int) : Environ :=
  [("VIRTMGR_PATH".toList, p.virtmgr), ("VIRTMGR_CROSVM_PATH".toList, p.crosvm),
    ("VIRTMGR_APEX_ROOT".toList, p.apex), ("VIRTMGR_SYSTEM_ROOT".toList, p.system),
    ("VIRTMGR_SYSTEM_EXT_ROOT".toList, p.systemExt), ("VIRTMGR_KEEP_TEMP".toList, ['1']),
    (ANDROID_PROP_RO_BUILD_VERSION_SDK, decimal sdk.toNat),
    ("TMP".toList, attempt ["tmp"]), ("TEMP".toList, attempt ["tmp"])]

/-- `old` is what the paths of the plan are replaced by. -/
def translate (old : Paths) (value : Text) : Text :=
  (Dict.latest [(old.state, state), (old.service, attempt ["service"]),
    (old.logs, attempt ["logs"]), (old.temp, attempt ["tmp"])]).foldl
      (fun value entry => replace entry.1 entry.2 value) value

def materialize (ambient : Environ) : Except Fault Plan := do
  let plan ← basePlan p cfg
  let argv := plan.argv.map (translate attempt state plan.paths)
  let argv := if p.platform = .windows then
    argv.map (replace "app.idsig".toList "payload.idsig".toList) else argv
  let clean : Environ := ambient.filter fun entry => !blocked entry.1
  let mode ← gpuMode cfg
  let clean := clean.update (modeEnvironment p mode)
  let clean ← if mode = .off then do
      configure
      pure (clean.put VIRTMGR_MICRODROID_JSON (attempt ["microdroid-gpu-off.json"]))
    else pure clean
  let clean := clean.update (runPaths cfg attempt)
  let clean ← if p.platform = .windows then do
      let sdk ← guestSdk p
      let clean ← if sdk = 37 then do
          requireInitialContract p
          pure (clean.remove VIRTMGR_SERVICE_DIR)
        else pure clean
      let clean := clean.update (windowsPaths p attempt sdk)
      pure (clean.put PATH (p.pathPrefix ++ ";C:/Windows/System32;C:/Windows".toList))
    else pure (clean.put PATH "/usr/bin:/bin:/usr/sbin:/sbin".toList)
  let socket := (String.ofList (attempt ["service", "virtmgr-service.sock"])).utf8ByteSize
  if p.platform ≠ .windows ∧ (if p.platform = .macos then 104 else 108) ≤ socket then
    raise .runtimeError "per-attempt socket pathname too long"
  let sdk ← guestSdk p
  return { plan with
    argv := argv
    environment := clean.put ANDROID_PROP_RO_BUILD_VERSION_SDK (decimal sdk.toNat) }

end Materialize

/-! ### The command -/

def FIXED : List Text :=
  ["VIRTMGR_GUEST_CID", "VIRTMGR_SERVICE_DIR", "VIRTMGR_TRACE_FILE", "VMCLIENT_TRACE_FILE",
    "VIRTMGR_CONSOLE_LOG_DIR", "VIRTMGR_PATH", "VIRTMGR_CROSVM_PATH", "VIRTMGR_APEX_ROOT",
    "VIRTMGR_SYSTEM_ROOT", "VIRTMGR_SYSTEM_EXT_ROOT", "VIRTMGR_KEEP_TEMP",
    "ANDROID_PROP_RO_BUILD_VERSION_SDK", "TMP", "TEMP", "PATH",
    "VIRTMGR_MICRODROID_JSON"].map String.toList

def REMOVED : List Text :=
  ["VIRTMGR_DEBUG_POLICY_JSON", "GFXSTREAM_KVM_COHERENT_CACHED_ONLY",
    "VIRTMGR_CAPTURE_GUEST_CONSOLE", "VIRTMGR_CAPTURE_CROSVM_STDIO"].map String.toList

/-- `sorted(set(names))` -/
def sorted (names : List Text) : List Text :=
  names.dedup.insertionSort (· ≤ ·)

structure Overlay where
  set : Environ
  unset : List Text
  transientUnset : List Text

def commandEnvironment (plan ambient : Environ) (reviewedProfileKeys : List Text) :
    Except Fault Overlay := do
  let allowed := FIXED ++ reviewedProfileKeys
  if plan.any fun entry => decide (entry.1 ∉ allowed ∧ ambient.find entry.1 ≠ some entry.2) then
    raise .valueError "unreviewed non-task environment change"
  let overlay := plan.filter fun entry => decide (entry.1 ∈ allowed)
  let removed := sorted (ambient.keys.filter (fun key => decide (key ∉ plan.keys)) ++ REMOVED)
  let actual := (removed.foldl Dict.remove ambient).update overlay
  if !actual.same plan then raise .valueError "environment preservation failed"
  return { set := overlay, unset := sorted REMOVED, transientUnset := removed }

/-- What `spawn_reviewed` makes of the environment of the controller. -/
def spawnEnvironment (ambient envSet : Environ) (envUnset : List Text) : Environ :=
  (envUnset.foldl Dict.remove ambient).update envSet

/-- The document of `command.json`, with the members of its dictionaries in their order. -/
structure Command where
  executable : Text
  args : List Text
  cwd : Text
  allowedImages : Dict Text Text
  envSet : Environ
  envUnset : List Text
  deriving DecidableEq, Repr

/-- `json.dumps` escapes what is not a printable ASCII character. -/
def hexEscape (unit : Nat) : Text :=
  '\\' :: 'u' :: [unit / 4096, unit / 256 % 16, unit / 16 % 16, unit % 16].map Nat.digitChar

def escape (char : Char) : Text :=
  let code := char.toNat
  if char = '"' ∨ char = '\\' then ['\\', char]
  else if char = '\n' then ['\\', 'n']
  else if char = '\r' then ['\\', 'r']
  else if char = '\t' then ['\\', 't']
  else if code = 12 then ['\\', 'f']
  else if code = 8 then ['\\', 'b']
  else if 32 ≤ code ∧ code ≤ 126 then [char]
  else if code < 0x10000 then hexEscape code
  else hexEscape (0xd800 + (code - 0x10000) / 1024) ++ hexEscape (0xdc00 + (code - 0x10000) % 1024)

def quote (text : Text) : Text := '"' :: text.flatMap escape ++ ['"']

def newline (depth : Nat) : Text := '\n' :: List.replicate (2 * depth) ' '

def block (opening closing : Char) (depth : Nat) (items : List Text) : Text :=
  match items with
  | [] => [opening, closing]
  | _ => opening :: newline (depth + 1) ++
      List.intercalate (',' :: newline (depth + 1)) items ++ newline depth ++ [closing]

def member (name : Text) (value : Text) : Text := quote name ++ ": ".toList ++ value

def dumpList (items : List Text) : Text := block '[' ']' 1 (items.map quote)

def dumpDict (dict : Dict Text Text) : Text :=
  block '{' '}' 1 (dict.map fun entry => member entry.1 (quote entry.2))

def Command.json (command : Command) : Text :=
  block '{' '}' 0 [
    member "version".toList ['1'],
    member "executable".toList (quote command.executable),
    member "args".toList (dumpList command.args),
    member "cwd".toList (quote command.cwd),
    member "allowed_images".toList (dumpDict command.allowedImages),
    member "env_set".toList (dumpDict command.envSet),
    member "env_unset".toList (dumpList command.envUnset)]

section Start

-- `topology` is the outcome of `require_final_topology`, `sha` hashes a file
variable (p : Profile) (plan : Plan) (run : Text) (topology : Except Fault Unit)
  (sha : Text → Except Fault Text)

def allowedImages : Except Fault (Dict Text Text) := do
  let images ← [p.vm, p.virtmgr, p.crosvm, "C:/Windows/System32/conhost.exe".toList].mapM
    fun image => do
      let digest ← sha image
      return (image, digest)
  return Dict.latest images

/-- The front of `start`: the command that is recorded, and the names that are kept in memory. -/
def start (ambient : Environ) : Except Fault (Command × List Text) := do
  let sdk ← guestSdk p
  if sdk = 37 then
    requireInitialContract p
    topology
  let allowed ← allowedImages p sha
  let overlay ← commandEnvironment plan.environment ambient p.environment.keys
  match plan.argv with
  | [] => raise .other "list index out of range"
  | executable :: args =>
      return ({
        executable := executable
        args := args
        cwd := run
        allowedImages := allowed
        envSet := overlay.set
        envUnset := overlay.unset }, overlay.transientUnset)

end Start

end Bscp.CommandEnvironment
