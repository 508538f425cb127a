import Bscp.Lifecycle.CommandEnvironment
import Mathlib.Data.List.Dedup

/-!
What the environment of the controller contributes to a launch. Names that the command records are
settled by the profile and the attempt; the others are passed on unless they are blocked.
-/

namespace Bscp.CommandEnvironment

open Dict

/-! ### Planning -/

section Layers

variable (p : Profile) (cfg : Config) (attempt : List String → Text) (state : Text)
  (basePlan : Profile → Config → Except Fault Plan) (configure : Except Fault Unit)

def layered (mode : Mode) (sdk : Int) (clean : Environ) : Environ :=
  let clean := clean.update (modeEnvironment p mode)
  let clean := if mode = .off then
    clean.put VIRTMGR_MICRODROID_JSON (attempt ["microdroid-gpu-off.json"]) else clean
  let clean := clean.update (runPaths cfg attempt)
  let clean := if sdk = 37 then clean.remove VIRTMGR_SERVICE_DIR else clean
  ((clean.update (windowsPaths p attempt sdk)).put PATH
    (p.pathPrefix ++ ";C:/Windows/System32;C:/Windows".toList)).put
      ANDROID_PROP_RO_BUILD_VERSION_SDK (decimal sdk.toNat)

variable {p cfg attempt state basePlan configure}

/-- Whether there is a plan does not depend on the ambient environment. -/
theorem materialize_eq_ok (windows : p.platform = .windows) {ambient : Environ} {plan : Plan} :
    materialize p cfg attempt state basePlan configure ambient = .ok plan ↔
      ∃ base mode sdk, basePlan p cfg = .ok base ∧ gpuMode cfg = .ok mode ∧
        (mode = .off → configure = .ok ()) ∧ guestSdk p = .ok sdk ∧
        (sdk = 37 → requireInitialContract p = .ok ()) ∧
        plan = { base with
          argv := (base.argv.map (translate attempt state base.paths)).map
            (replace "app.idsig".toList "payload.idsig".toList)
          environment := layered p cfg attempt mode sdk
            (ambient.filter fun entry => !blocked entry.1) } := by
  unfold materialize
  cases basePlan p cfg with
  | error fault => simp [bind, Except.bind]
  | ok base =>
  cases gpuMode cfg with
  | error fault => simp [bind, Except.bind]
  | ok mode =>
  simp only [bind, Except.bind, windows, pure, Except.pure, if_true, ne_eq, not_true_eq_false,
    false_and, if_false]
  cases guestSdk p with
  | error fault => cases mode <;> cases configure <;> simp
  | ok sdk =>
  by_cases new : sdk = 37
  · simp only [new, if_true]
    cases requireInitialContract p <;> cases mode <;> cases configure <;> simp [layered, eq_comm]
  · cases mode <;> cases configure <;> simp [new, layered, eq_comm]

def allowed (p : Profile) : List Text := FIXED ++ p.environment.keys

theorem startsWith_mono {name : Text} {some all : List String} (within : some ⊆ all)
    (starts : startsWith name some = true) : startsWith name all = true := by
  obtain ⟨start, member, front⟩ := List.any_eq_true.mp starts
  exact List.any_eq_true.mpr ⟨start, within member, front⟩

theorem blocked_gpu {name : Text} (starts : startsWith name GPU_STARTS = true) :
    blocked name = true := by
  have all : GPU_STARTS ⊆ BLOCKED_STARTS := by decide
  simp [blocked, startsWith_mono all starts]

theorem keys_modeEnvironment (mode : Mode) :
    (modeEnvironment p mode).keys ⊆ p.environment.keys := by
  cases mode with
  | on => exact fun _ member => member
  | off => exact (List.filter_sublist.map _).subset

/-- A name of the profile that a mode leaves out is blocked as well. -/
theorem blocked_of_left {name : Text} (mode : Mode) (listed : name ∈ p.environment.keys)
    (absent : name ∉ (modeEnvironment p mode).keys) : blocked name = true := by
  cases mode with
  | on => exact absurd listed absent
  | off =>
      refine blocked_gpu (Bool.not_eq_false _ |>.mp fun clean => absent ?_)
      obtain ⟨entry, member, rfl⟩ := List.mem_map.mp listed
      exact List.mem_map.mpr ⟨entry, List.mem_filter.mpr ⟨member, by simp [clean]⟩, rfl⟩

def RUN_NAMES : List Text :=
  ["VIRTMGR_GUEST_CID", "VIRTMGR_SERVICE_DIR", "VIRTMGR_TRACE_FILE", "VMCLIENT_TRACE_FILE",
    "VIRTMGR_CONSOLE_LOG_DIR"].map String.toList

def WINDOWS_NAMES : List Text :=
  ["VIRTMGR_PATH", "VIRTMGR_CROSVM_PATH", "VIRTMGR_APEX_ROOT", "VIRTMGR_SYSTEM_ROOT",
    "VIRTMGR_SYSTEM_EXT_ROOT", "VIRTMGR_KEEP_TEMP", "ANDROID_PROP_RO_BUILD_VERSION_SDK", "TMP",
    "TEMP"].map String.toList

def written (p : Profile) (mode : Mode) (sdk : Int) : List Text :=
  let profile := (modeEnvironment p mode).keys
  let configured := if mode = .off then VIRTMGR_MICRODROID_JSON :: profile else profile
  let run := RUN_NAMES ++ configured
  let served := if sdk = 37 then VIRTMGR_SERVICE_DIR :: run else run
  ANDROID_PROP_RO_BUILD_VERSION_SDK :: PATH :: (WINDOWS_NAMES ++ served)

variable (p cfg attempt) in
theorem layered_settles (mode : Mode) (sdk : Int) :
    Settles (layered p cfg attempt mode sdk) (written p mode sdk) := by
  have profile := Settles.nothing.update (modeEnvironment p mode)
  rw [List.append_nil] at profile
  have configured := Settles.branch (mode = .off)
    (profile.put VIRTMGR_MICRODROID_JSON (attempt ["microdroid-gpu-off.json"])) profile
  have run := configured.update (runPaths cfg attempt)
  have served := Settles.branch (sdk = 37) (run.remove VIRTMGR_SERVICE_DIR) run
  have windows := served.update (windowsPaths p attempt sdk)
  exact (windows.put PATH _).put ANDROID_PROP_RO_BUILD_VERSION_SDK _

theorem mem_written {mode : Mode} {sdk : Int} {key : Text} : key ∈ written p mode sdk ↔
    key = ANDROID_PROP_RO_BUILD_VERSION_SDK ∨ key = PATH ∨ key ∈ WINDOWS_NAMES ∨
      sdk = 37 ∧ key = VIRTMGR_SERVICE_DIR ∨ key ∈ RUN_NAMES ∨
        mode = .off ∧ key = VIRTMGR_MICRODROID_JSON ∨ key ∈ (modeEnvironment p mode).keys := by
  by_cases off : mode = .off <;> by_cases new : sdk = 37 <;>
    simp only [written, off, new, if_true, if_false, List.mem_cons, List.mem_append, true_and,
      false_and, false_or]

theorem written_allowed {mode : Mode} {sdk : Int} {key : Text} (member : key ∈ written p mode sdk) :
    key ∈ allowed p := by
  have windows : ∀ key ∈ WINDOWS_NAMES, key ∈ FIXED := by decide
  have run : ∀ key ∈ RUN_NAMES, key ∈ FIXED := by decide
  rcases mem_written.mp member with rfl | rfl | listed | ⟨-, rfl⟩ | listed | ⟨-, rfl⟩ | profile
  · exact List.mem_append_left _ (by decide)
  · exact List.mem_append_left _ (by decide)
  · exact List.mem_append_left _ (windows key listed)
  · exact List.mem_append_left _ (by decide)
  · exact List.mem_append_left _ (run key listed)
  · exact List.mem_append_left _ (by decide)
  · exact List.mem_append_right _ (keys_modeEnvironment mode profile)

theorem blocked_of_unwritten {mode : Mode} {sdk : Int} {key : Text} (member : key ∈ allowed p)
    (absent : key ∉ written p mode sdk) : blocked key = true := by
  have whole : ∀ key ∈ FIXED, key = VIRTMGR_MICRODROID_JSON ∨ key = PATH ∨
      key ∈ RUN_NAMES ∨ key ∈ WINDOWS_NAMES := by decide
  rw [mem_written] at absent
  rcases List.mem_append.mp member with fixed | profile
  · rcases whole key fixed with rfl | path | run | windows
    · decide
    · exact absurd (.inr (.inl path)) absent
    · exact absurd (.inr (.inr (.inr (.inr (.inl run))))) absent
    · exact absurd (.inr (.inr (.inl windows))) absent
  · exact blocked_of_left mode profile fun kept =>
      absent (.inr (.inr (.inr (.inr (.inr (.inr kept))))))

end Layers

/-! ### The command -/

@[simp] theorem mem_sorted {names : List Text} {name : Text} :
    name ∈ sorted names ↔ name ∈ names := by
  rw [sorted, List.mem_insertionSort, List.mem_dedup]

section Command

variable {plan ambient : Environ} {profileKeys : List Text}

def overlaid (plan ambient : Environ) (profileKeys : List Text) : Overlay where
  set := plan.filter fun entry => decide (entry.1 ∈ FIXED ++ profileKeys)
  unset := sorted REMOVED
  transientUnset := sorted (ambient.keys.filter (fun key => decide (key ∉ plan.keys)) ++ REMOVED)

theorem find_overlaid (key : Text) : find (overlaid plan ambient profileKeys).set key =
    if key ∈ FIXED ++ profileKeys then plan.find key else none := by
  refine (find_filter plan (fun key => decide (key ∈ FIXED ++ profileKeys)) key).trans ?_
  simp only [decide_eq_true_eq]

/-- Variables that are not reviewed come from the ambient environment, and none that is always
removed is among them. -/
structure Inherits (plan ambient : Environ) (profileKeys : List Text) : Prop where
  kept : ∀ key, key ∉ FIXED ++ profileKeys → ∀ value, plan.find key = some value →
    ambient.find key = some value
  removed : ∀ key ∈ REMOVED, key ∉ FIXED ++ profileKeys → plan.find key = none

/-- The overlay and the removals give the planned environment back. -/
theorem spawn_overlaid (inherits : Inherits plan ambient profileKeys) (distinct : plan.keys.Nodup)
    (key : Text) : (spawnEnvironment ambient (overlaid plan ambient profileKeys).set
      (overlaid plan ambient profileKeys).transientUnset).find key = plan.find key := by
  have gone : plan.find key = none → key ∉ (overlaid plan ambient profileKeys).transientUnset →
      ambient.find key = none := by
    intro absent stays
    refine (find_none_iff ambient key).mpr fun listed => stays ?_
    have missing := (find_none_iff plan key).mp absent
    simp [overlaid, listed, missing]
  have recorded : (keys (overlaid plan ambient profileKeys).set).Nodup := nodup_filter distinct _
  rw [spawnEnvironment, find_update recorded, find_removes, find_overlaid]
  by_cases reviewed : key ∈ FIXED ++ profileKeys
  · rw [if_pos reviewed]
    cases found : plan.find key with
    | none =>
        split
        · rfl
        · exact gone found ‹_›
    | some value => rfl
  · rw [if_neg reviewed, Option.none_or]
    cases found : plan.find key with
    | none =>
        split
        · rfl
        · exact gone found ‹_›
    | some value =>
        have planned : key ∈ plan.keys := by
          by_contra missing
          simp [(find_none_iff plan key).mpr missing] at found
        have stays : key ∉ REMOVED := fun listed => by
          simp [inherits.removed key listed reviewed] at found
        simpa [overlaid, planned, stays] using inherits.kept key reviewed value found

theorem commandEnvironment_ok (inherits : Inherits plan ambient profileKeys)
    (distinct : plan.keys.Nodup) :
    commandEnvironment plan ambient profileKeys = .ok (overlaid plan ambient profileKeys) := by
  have reviewed : (plan.any fun entry => decide (entry.1 ∉ FIXED ++ profileKeys ∧
      ambient.find entry.1 ≠ some entry.2)) = false := by
    rw [List.any_eq_false]
    rintro ⟨key, value⟩ member unreviewed
    obtain ⟨other, changed⟩ := of_decide_eq_true unreviewed
    exact changed (inherits.kept key other value (find_of_mem distinct member))
  have preserved : (spawnEnvironment ambient (overlaid plan ambient profileKeys).set
      (overlaid plan ambient profileKeys).transientUnset).same plan = true :=
    (same_iff _ _).mpr (spawn_overlaid inherits distinct)
  unfold commandEnvironment
  simp only [reviewed, Bool.false_eq_true, if_false]
  change (if !(spawnEnvironment ambient (overlaid plan ambient profileKeys).set
    (overlaid plan ambient profileKeys).transientUnset).same plan then _ else _) = _
  rw [preserved]
  rfl

end Command

section Start

variable {p : Profile} {plan : Plan} {run : Text} {topology : Except Fault Unit}
  {sha : Text → Except Fault Text} {ambient : Environ} {overlay : Overlay} {command : Command}
  {unset : List Text}

theorem start_eq_ok (composed :
      commandEnvironment plan.environment ambient p.environment.keys = .ok overlay) :
    start p plan run topology sha ambient = .ok (command, unset) ↔
      ∃ sdk images executable args, guestSdk p = .ok sdk ∧
        (sdk = 37 → requireInitialContract p = .ok () ∧ topology = .ok ()) ∧
        allowedImages p sha = .ok images ∧ plan.argv = executable :: args ∧
        command = {
          executable := executable
          args := args
          cwd := run
          allowedImages := images
          envSet := overlay.set
          envUnset := overlay.unset } ∧ unset = overlay.transientUnset := by
  unfold start
  cases guestSdk p with
  | error fault => simp [bind, Except.bind]
  | ok sdk =>
  simp only [bind, Except.bind, pure, Except.pure, composed]
  by_cases new : sdk = 37
  · cases requireInitialContract p <;> cases topology <;> cases allowedImages p sha <;>
      cases plan.argv <;> simp [new, raise, eq_comm]
  · cases allowedImages p sha <;> cases plan.argv <;> simp [new, raise, eq_comm]

end Start

section Launch

variable {p : Profile} {cfg : Config} {attempt : List String → Text} {state run : Text}
  {basePlan : Profile → Config → Except Fault Plan} {configure topology : Except Fault Unit}
  {sha : Text → Except Fault Text} {ambient other : Environ} {plan : Plan} {mode : Mode} {sdk : Int}

/-- What is taken over from the ambient environment. -/
theorem find_clean (key : Text) : find (ambient.filter fun entry => !blocked entry.1) key =
    if blocked key then none else ambient.find key := by
  refine (find_filter ambient (fun key => !blocked key) key).trans ?_
  cases blocked key <;> rfl

theorem layered_inherits : Inherits
    (layered p cfg attempt mode sdk (ambient.filter fun entry => !blocked entry.1)) ambient
      p.environment.keys where
  kept := by
    intro key unreviewed value found
    have left := (layered_settles p cfg attempt mode sdk).left key fun member =>
      unreviewed (written_allowed member)
    rw [left, find_clean] at found
    split at found
    · cases found
    · exact found
  removed := by
    intro key listed unreviewed
    have hidden : ∀ key ∈ REMOVED, blocked key = true := by decide
    have left := (layered_settles p cfg attempt mode sdk).left key fun member =>
      unreviewed (written_allowed member)
    rw [left, find_clean, hidden key listed, if_pos rfl]

/-- Names that may be recorded, and those that are blocked, have the same values in every ambient
environment. -/
theorem layered_same {key : Text} (private_ : key ∈ allowed p ∨ blocked key = true) :
    find (layered p cfg attempt mode sdk (ambient.filter fun entry => !blocked entry.1)) key =
      find (layered p cfg attempt mode sdk (other.filter fun entry => !blocked entry.1)) key := by
  have settles := layered_settles p cfg attempt mode sdk
  by_cases member : key ∈ written p mode sdk
  · exact settles.settled key member _ _
  · have hidden : blocked key = true := private_.elim (blocked_of_unwritten · member) id
    rw [settles.left key member, settles.left key member, find_clean, find_clean, hidden]
    rfl

/-- Plans of two ambient environments: the same but for what is taken over. -/
theorem materialize_twin (windows : p.platform = .windows)
    (planned : materialize p cfg attempt state basePlan configure ambient = .ok plan)
    (other : Environ) : ∃ mode sdk twin,
      materialize p cfg attempt state basePlan configure other = .ok twin ∧ twin.argv = plan.argv ∧
        plan.environment =
          layered p cfg attempt mode sdk (ambient.filter fun entry => !blocked entry.1) ∧
        twin.environment =
          layered p cfg attempt mode sdk (other.filter fun entry => !blocked entry.1) := by
  obtain ⟨base, mode, sdk, based, chosen, configured, guest, contract, same⟩ :=
    (materialize_eq_ok windows).mp planned
  refine ⟨mode, sdk, _, (materialize_eq_ok windows).mpr
    ⟨base, mode, sdk, based, chosen, configured, guest, contract, rfl⟩, ?_, ?_, rfl⟩
  · rw [same]
  · rw [same]

theorem start_twin {twin : Plan} {command : Command} {unset : List Text}
    (argv : twin.argv = plan.argv)
    (here : commandEnvironment plan.environment ambient p.environment.keys =
      .ok (overlaid plan.environment ambient p.environment.keys))
    (there : commandEnvironment twin.environment other p.environment.keys =
      .ok (overlaid twin.environment other p.environment.keys))
    (started : start p plan run topology sha ambient = .ok (command, unset)) :
    (command.envSet = (overlaid plan.environment ambient p.environment.keys).set ∧
        unset = (overlaid plan.environment ambient p.environment.keys).transientUnset ∧
        command.envUnset = sorted REMOVED) ∧
      ∃ rest, start p twin run topology sha other =
        .ok ({ command with
          envSet := (overlaid twin.environment other p.environment.keys).set }, rest) := by
  obtain ⟨sdk, images, executable, args, guest, contract, pinned, listed, rfl, rfl⟩ :=
    (start_eq_ok here).mp started
  exact ⟨⟨rfl, rfl, rfl⟩, _, (start_eq_ok there).mpr
    ⟨sdk, images, executable, args, guest, contract, pinned, argv.trans listed, rfl, rfl⟩⟩

/-- The child gets the planned environment, and the record of the command shows at most in which
order the ambient environment came. -/
theorem environment_planned (windows : p.platform = .windows) (one : ambient.keys.Nodup)
    (two : other.keys.Nodup)
    (planned : materialize p cfg attempt state basePlan configure ambient = .ok plan) :
    (∃ overlay, commandEnvironment plan.environment ambient p.environment.keys = .ok overlay ∧
      ∀ key, (spawnEnvironment ambient overlay.set overlay.transientUnset).find key =
        plan.environment.find key) ∧
    ∃ twin, materialize p cfg attempt state basePlan configure other = .ok twin ∧
      (∀ key, blocked key = true → plan.environment.find key = twin.environment.find key) ∧
      ∀ command unset, start p plan run topology sha ambient = .ok (command, unset) →
        (∀ key, (spawnEnvironment ambient command.envSet unset).find key =
          plan.environment.find key) ∧
        (∀ key ∈ command.envSet.keys, key ∈ FIXED ++ p.environment.keys) ∧
        command.envUnset = sorted REMOVED ∧
        ∃ envSet rest, start p twin run topology sha other =
          .ok ({ command with envSet := envSet }, rest) ∧ envSet.Perm command.envSet := by
  obtain ⟨mode, sdk, twin, made, argv, first, second⟩ := materialize_twin windows planned other
  have settles := layered_settles p cfg attempt mode sdk
  have distinct : plan.environment.keys.Nodup :=
    first ▸ settles.distinct _ (nodup_filter one fun entry => !blocked entry.1)
  have apart : twin.environment.keys.Nodup :=
    second ▸ settles.distinct _ (nodup_filter two fun entry => !blocked entry.1)
  have inherits : Inherits plan.environment ambient p.environment.keys := first ▸ layered_inherits
  have inherited : Inherits twin.environment other p.environment.keys := second ▸ layered_inherits
  have here := commandEnvironment_ok inherits distinct
  have there := commandEnvironment_ok inherited apart
  have spawned := spawn_overlaid inherits distinct
  refine ⟨⟨_, here, spawned⟩, twin, made, fun key hidden => ?_, fun command unset started => ?_⟩
  · rw [first, second, layered_same (.inr hidden)]
  · obtain ⟨⟨recorded, rfl, removed⟩, rest, again⟩ := start_twin argv here there started
    refine ⟨recorded ▸ spawned, fun key member => ?_, removed, _, rest, again, ?_⟩
    · rw [recorded] at member
      obtain ⟨entry, entered, rfl⟩ := List.mem_map.mp member
      exact of_decide_eq_true (List.mem_filter.mp entered).2
    · rw [recorded]
      refine perm_of_find (nodup_filter apart _) (nodup_filter distinct _) fun key => ?_
      rw [find_overlaid, find_overlaid]
      by_cases reviewed : key ∈ FIXED ++ p.environment.keys
      · rw [if_pos reviewed, if_pos reviewed, first, second, layered_same (.inl reviewed)]
      · rw [if_neg reviewed, if_neg reviewed]

end Launch

/-! ### What the order shows -/

def sampleProfile : Profile where
  platform := .windows
  environment := []
  vm := ['v']
  virtmgr := ['m']
  crosvm := ['c']
  apex := ['a']
  system := ['s']
  systemExt := ['e']
  pathPrefix := ['p']

def sampleAttempt (names : List String) : Text := (String.join names).toList

def samplePlan (_ : Profile) (_ : Config) : Except Fault Plan :=
  .ok { argv := [['v']], paths := ⟨['q'], ['w'], ['l'], ['t']⟩, environment := [] }

def sampleRecord (ambient : Environ) : Option Text :=
  match materialize sampleProfile { cid := 10 } sampleAttempt ['s'] samplePlan (.ok ()) ambient with
  | .error _ => none
  | .ok plan =>
      match start sampleProfile plan ['r'] (.ok ()) (fun _ => .ok ['h']) ambient with
      | .error _ => none
      | .ok (command, _) => some command.json

theorem command_not_identical : ∃ one two : Environ, one.keys.Nodup ∧ two.keys.Nodup ∧
    (sampleRecord one).isSome ∧ (sampleRecord two).isSome ∧ sampleRecord one ≠ sampleRecord two :=
  ⟨[], [(PATH, ['x'])], by decide, by decide, by decide +kernel⟩

def sampleAmbient : Environ :=
  [(PATH, ['x']), ("VK_DEBUG".toList, ['y']), ("USER".toList, ['u'])]

theorem environment_planned_sample : ∃ plan overlay,
    materialize sampleProfile { cid := 10 } sampleAttempt ['s'] samplePlan (.ok ())
      sampleAmbient = .ok plan ∧
    commandEnvironment plan.environment sampleAmbient [] = .ok overlay ∧
    ∀ key, (spawnEnvironment sampleAmbient overlay.set overlay.transientUnset).find key =
      plan.environment.find key := by
  obtain ⟨overlay, composed, same⟩ := (@environment_planned sampleProfile { cid := 10 }
    sampleAttempt ['s'] ['r'] samplePlan (.ok ()) (.ok ()) (fun _ => .ok ['h']) sampleAmbient [] _
    rfl (by decide) (by decide) rfl).1
  exact ⟨_, overlay, rfl, composed, same⟩

end Bscp.CommandEnvironment
