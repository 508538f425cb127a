import Bscp.Lifecycle.ComputeProtocolResponse
import Bscp.Lifecycle.Supervise

/-!
The requests of a supervised run: which lines are accepted, which calls they lead to, and what a
result tells when it is emitted. What happens is kept as a history, and every part of the supervisor
but the treatment of an accepted line leaves the history alone.
-/

namespace Bscp.Supervise

open Script ComputeProtocol

section Statement

variable {Ω Snap : Type}

structure Accepted where
  poll : Nat
  id : Nat
  command : Text

def Call.requested : Call Snap → Option Text
  | .request command _ => some command
  | _ => none

/-- The commands that the owner was asked for, newest first. -/
def requests (calls : List (Call Snap)) : List Text := calls.filterMap Call.requested

def IsValue (response : Text) (value : Int) : Prop :=
  ∃ magnitude : Nat,
    (value = magnitude ∧ response = "VALUE ".toList ++ (Decimal.digits magnitude ++ ['\n'])) ∨
    (value = -magnitude ∧ response = "VALUE ".toList ++ ('-' :: Decimal.digits magnitude ++ ['\n']))

inductive Answered (command response : Text) : Prop
  | value (named : command = "GET".toList ∨ "SET ".toList.isPrefixOf command = true ∨
      "ADD ".toList.isPrefixOf command = true)
      (number : ∃ value : Int, -(2 ^ 63) ≤ value ∧ value < 2 ^ 63 ∧ IsValue response value)
  | info (named : command = "INFO".toList)
      (contract : response = "HEADLESS_COUNTER_V1 GUEST_ENCRYPTED_STORAGE\n".toList)
  | sums {n : Nat} {a b : List Nat} {line : Line} (parsed : parse command = .ok (n, a, b))
      (formed : line.Formed n) (text : response = line.text n) (same : line.values = sums a b)

/-- A success is that of the request in the result. -/
def Reported (result : Result Snap) : Prop :=
  result.taskResult = .success → ∃ request response, result.request = some request ∧
    request.state = .complete ∧ request.response = some response ∧ singleLine response = true ∧
    Answered request.command response

/-- Of the results that were emitted, no success failed to be written down when it was new. -/
def Quiet (emit : Result Snap → Script Ω Fault Unit) (emissions : List (Result Snap × Ω)) : Prop :=
  ∀ emission ∈ emissions, emission.1.events.getLast? = some .requestComplete →
    emission.1.taskResult = .success → ∀ fault, (emit emission.1 emission.2).1 ≠ .raised fault

def Accepts (last : Nat) (line : Text) (id : Nat) (command : Text) : Prop :=
  matchRequest line = some (id, command) ∧ last < id ∧
    ("VADD ".toList.isPrefixOf command = true → ∃ vectors, parse command = .ok vectors)

/-- A line that is no command of the supervisor, and no request that is accepted. -/
def Rejected (last : Nat) (line : Text) : Prop :=
  line ∉ ["status".toList, "__INPUT_ERROR__".toList, "stop".toList, "__EOF__".toList] ∧
    ∀ id command, ¬ Accepts last line id command

/-- Lines are accepted, the owner is asked for the command of the last of them, and results are
emitted with the request that was accepted last. -/
inductive History (commands : Nat → Option Text) (good : Result Snap → Prop) :
    List Accepted → List Text → List (Result Snap) → Prop
  | start : History commands good [] [] []
  | accept {accepted : List Accepted} {calls : List Text} {told : List (Result Snap)}
      {entry : Accepted} {line : Text} (history : History commands good accepted calls told)
      (given : commands entry.poll = some line)
      (accepts : Accepts ((accepted.head?.map Accepted.id).getD 0) line entry.id entry.command)
      (later : ∀ other ∈ accepted, other.poll < entry.poll)
      (answered : calls = accepted.map Accepted.command) :
      History commands good (entry :: accepted) calls told
  | call {accepted : List Accepted} {calls : List Text} {told : List (Result Snap)}
      {entry : Accepted} (history : History commands good (entry :: accepted) calls told)
      (fresh : calls = accepted.map Accepted.command) :
      History commands good (entry :: accepted) (entry.command :: calls) told
  | emit {accepted : List Accepted} {calls : List Text} {told : List (Result Snap)}
      {result : Result Snap} (history : History commands good accepted calls told)
      (entry : result.request.map (fun request => (request.id, request.command)) =
        accepted.head?.map fun entry => (entry.id, entry.command))
      (reported : good result) :
      History commands good accepted calls (result :: told)

end Statement

/-! ### Histories -/

section Histories

variable {Snap : Type} {commands : Nat → Option Text} {good : Result Snap → Prop}
  {accepted : List Accepted} {calls : List Text} {told : List (Result Snap)}

/-- The ids go up, and the polls with them. -/
theorem History.increasing (history : History commands good accepted calls told) :
    accepted.Pairwise fun later earlier => earlier.id < later.id ∧ earlier.poll < later.poll := by
  induction history with
  | start => exact .nil
  | @accept accepted calls told entry line history given accepts later answered before =>
      refine .cons (fun other among => ⟨?_, later other among⟩) before
      obtain ⟨-, above, -⟩ := accepts
      cases accepted with
      | nil => cases among
      | cons first rest =>
          rcases List.mem_cons.mp among with rfl | old
          · exact above
          · exact Nat.lt_trans (List.rel_of_pairwise_cons before old).1 above
  | call history fresh before => exact before
  | emit history entry reported before => exact before

/-- What was asked for are the commands of the accepted lines; the last may not be asked for yet. -/
theorem History.asked (history : History commands good accepted calls told) :
    calls = accepted.map Accepted.command ∨ calls = accepted.tail.map Accepted.command := by
  induction history with
  | start => exact .inl rfl
  | accept history given accepts later answered before => exact .inr answered
  | call history fresh before => exact .inl (by rw [fresh]; rfl)
  | emit history entry reported before => exact before

theorem History.lines (history : History commands good accepted calls told) :
    ∀ entry ∈ accepted, ∃ line, commands entry.poll = some line ∧
      matchRequest line = some (entry.id, entry.command) := by
  induction history with
  | start => simp
  | accept history given accepts later answered before =>
      exact List.forall_mem_cons.mpr ⟨⟨_, given, accepts.1⟩, before⟩
  | call history fresh before => exact before
  | emit history entry reported before => exact before

theorem History.emitted (history : History commands good accepted calls told) :
    ∀ result ∈ told, good result := by
  induction history with
  | start => simp
  | accept history given accepts later answered before => exact before
  | call history fresh before => exact before
  | emit history entry reported before => exact List.forall_mem_cons.mpr ⟨reported, before⟩

theorem History.mono {weaker : Result Snap → Prop} (less : ∀ result, good result → weaker result)
    (history : History commands good accepted calls told) :
    History commands weaker accepted calls told := by
  induction history with
  | start => exact .start
  | accept history given accepts later answered before =>
      exact before.accept given accepts later answered
  | call history fresh before => exact before.call fresh
  | emit history entry reported before => exact before.emit entry (less _ reported)

end Histories

/-! ### Parts that leave the requests alone -/

section Parts

variable {Ω Snap : Type}

structure Calm (before after : World Ω Snap) : Prop where
  requests : requests after.calls = requests before.calls
  emissions : after.emissions = before.emissions
  polls : after.polls = before.polls
  lastRequest : after.lastRequest = before.lastRequest
  request : after.result.request = before.result.request
  taskResult : after.result.taskResult = before.result.taskResult

structure Lasting (P : World Ω Snap → Prop) : Prop where
  calm : ∀ before after, P before → Calm before after → P after
  told : ∀ world, P world →
    P { world with emissions := (world.result, world.owner) :: world.emissions }

abbrev Stays (P : World Ω Snap → Prop) {α : Type} (part : Step Ω Snap α) : Prop :=
  Triple P P part (fun _ => P) (fun _ => P)

variable {P : World Ω Snap → Prop} {α : Type}

/-- A part that is calm whatever its end is. -/
theorem stays_of_calm {part : Step Ω Snap α} (lasting : Lasting P)
    (calm : ∀ world, Calm world (part world).2) : Stays P part :=
  keeps_iff.mp fun world holds => lasting.calm world _ holds (calm world)

theorem ask_calm {event : Except Fault α → Call Snap} {operation : Script Ω Fault α}
    (plain : ∀ answer, (event answer).requested = none) (world : World Ω Snap) :
    Calm world (ask event operation world).2 := by
  unfold ask
  match operation world.owner with
  | (.done value, after) => exact ⟨List.filterMap_cons_none (plain _), rfl, rfl, rfl, rfl, rfl⟩
  | (.raised error, after) => exact ⟨List.filterMap_cons_none (plain _), rfl, rfl, rfl, rfl, rfl⟩
  | (.unfinished, after) => exact ⟨rfl, rfl, rfl, rfl, rfl, rfl⟩

theorem ask_stays {event : Except Fault α → Call Snap} {operation : Script Ω Fault α}
    (lasting : Lasting P) (plain : ∀ answer, (event answer).requested = none) :
    Stays P (ask event operation) :=
  stays_of_calm lasting (ask_calm plain)

theorem update_stays {change : Result Snap → Result Snap} (lasting : Lasting P)
    (request : ∀ result, (change result).request = result.request)
    (taskResult : ∀ result, (change result).taskResult = result.taskResult) :
    Stays P (update change : Step Ω Snap Unit) :=
  stays_of_calm lasting fun _ => ⟨rfl, rfl, rfl, rfl, request _, taskResult _⟩

theorem inside_stays {part : Script Ω Fault α} (lasting : Lasting P) :
    Stays P (inside part : Step Ω Snap α) :=
  stays_of_calm lasting fun _ => ⟨rfl, rfl, rfl, rfl, rfl, rfl⟩

theorem clock_stays {around : Surroundings Ω Snap} (lasting : Lasting P) : Stays P (clock around) :=
  stays_of_calm lasting fun _ => ⟨rfl, rfl, rfl, rfl, rfl, rfl⟩

theorem setTransportUnknown_stays {owner : Owner Ω Snap} {unknown : Bool} (lasting : Lasting P) :
    Stays P (setTransportUnknown owner unknown) :=
  stays_of_calm lasting fun _ => ⟨rfl, rfl, rfl, rfl, rfl, rfl⟩

theorem ret_stays {value : α} : Stays P (Script.ret value) := Triple.ret fun _ holds => holds

theorem raise_stays {fault : Fault} : Stays P (Script.raise fault : Step Ω Snap α) :=
  Triple.raise fun _ holds => holds

theorem andThen_stays {β : Type} {first : Step Ω Snap α} {next : α → Step Ω Snap β}
    (head : Stays P first) (tail : ∀ value, Stays P (next value)) :
    Stays P (andThen first next) :=
  Triple.andThen head tail

theorem given_stays {condition : Bool} {body : Step Ω Snap Unit} (taken : Stays P body) :
    Stays P (given condition body) :=
  Triple.given (fun _ => taken) fun _ _ holds => holds

theorem handle_stays {body : Step Ω Snap α} {handler : Fault → Step Ω Snap α} (main : Stays P body)
    (rescue : ∀ fault, Stays P (handler fault)) : Stays P (handle body handler) :=
  Triple.handle main rescue

theorem loop_stays {body : Step Ω Snap (Next α)} (round : Stays P body) (fuel : Nat) :
    Stays P (loop body fuel) := by
  refine Triple.loop (round.consequence (fun _ holds => holds) ?_ fun _ _ holds => holds)
    (fun _ holds => holds) fuel
  rintro (_ | _) _ holds <;> exact holds

theorem note_stays {around : Surroundings Ω Snap} {event : Note} (lasting : Lasting P) :
    Stays P (note around event) := by
  unfold note
  refine andThen_stays (update_stays lasting (fun _ => rfl) fun _ => rfl) fun _ => ?_
  refine Triple.andThen (m := fun now world => P world ∧ now = world)
    (Triple.get fun _ holds => ⟨holds, rfl⟩) fun now => ?_
  apply Triple.start
  rintro start ⟨holds, rfl⟩
  refine Triple.andThen (m := fun _ => P) (Triple.modify ?_) fun _ => inside_stays lasting
  rintro world rfl
  exact lasting.told _ holds

end Parts

/-! ### The parts of a run -/

section Run

variable {Ω Snap : Type} {owner : Owner Ω Snap} {around : Surroundings Ω Snap}
variable {P : World Ω Snap → Prop}

theorem startUp_stays (lasting : Lasting P) (deadline : Int) (fuel : Nat) :
    Stays P (startUp owner around deadline fuel) := by
  unfold startUp
  refine andThen_stays (ask_stays lasting fun _ => rfl) fun _ => ?_
  refine andThen_stays (note_stays lasting) fun _ => ?_
  refine andThen_stays (loop_stays ?_ fuel) fun _ => ?_
  · refine andThen_stays (ask_stays lasting fun _ => rfl) fun ready => ?_
    refine Triple.ite (fun _ => ret_stays) fun _ => ?_
    refine andThen_stays (clock_stays lasting) fun now => ?_
    exact Triple.ite (fun _ => raise_stays) fun _ => ret_stays
  refine andThen_stays (update_stays lasting (fun _ => rfl) fun _ => rfl) fun _ => ?_
  exact note_stays lasting

theorem stopGuest_stays (lasting : Lasting P) (fuel : Nat) :
    Stays P (stopGuest owner around fuel) := by
  unfold stopGuest
  refine andThen_stays (update_stays lasting (fun _ => rfl) fun _ => rfl) fun _ => ?_
  refine andThen_stays (note_stays lasting) fun _ => ?_
  refine andThen_stays (ask_stays lasting fun _ => rfl) fun reply => ?_
  cases reply with
  | other => exact raise_stays
  | value reply =>
      refine andThen_stays (update_stays lasting (fun _ => rfl) fun _ => rfl) fun _ => ?_
      refine Triple.ite (fun _ => raise_stays) fun _ => ?_
      refine andThen_stays (clock_stays lasting) fun now => loop_stays ?_ fuel
      refine andThen_stays (ask_stays lasting fun _ => rfl) fun done => ?_
      refine Triple.ite (fun _ => ret_stays) fun _ => ?_
      refine andThen_stays (clock_stays lasting) fun later => ?_
      exact Triple.ite (fun _ => raise_stays) fun _ => ret_stays

theorem safeNote_stays (lasting : Lasting P) (event : Note) : Stays P (safeNote around event) :=
  handle_stays (note_stays lasting) fun _ => update_stays lasting (fun _ => rfl) fun _ => rfl

/-- A turn, in which at most a request line is not calm. -/
theorem turn_rule {before after broken : World Ω Snap → Prop}
    (calm : ∀ world next, before world → Calm world next → before next) (lasting : Lasting after)
    (weaken : ∀ world, before world → after world) (fails : ∀ world, after world → broken world)
    (polled : ∀ world, before world → after { world with polls := world.polls + 1 })
    (requested : ∀ line, Triple broken
      (fun world => ∃ earlier, before earlier ∧ around.commands earlier.polls = some line ∧
        world = { earlier with polls := earlier.polls + 1 })
      (requestLine owner around line) (fun _ => after) (fun _ => broken)) (deadline : Int) :
    Triple broken before (turn owner around deadline) (fun _ => after) (fun _ => broken) := by
  have calmly {α : Type} {part : Step Ω Snap α} (known : Stays before part) :
      Triple broken before part (fun _ => before) (fun _ => broken) :=
    (known.loosen fun _ holds => fails _ (weaken _ holds)).consequence (fun _ holds => holds)
      (fun _ _ holds => holds) fun _ _ holds => fails _ (weaken _ holds)
  have noted {event : Note} : Triple broken after (note around event) (fun _ => after)
      (fun _ => broken) :=
    ((note_stays lasting).loosen fails).consequence (fun _ holds => holds)
      (fun _ _ holds => holds) fun _ _ holds => fails _ holds
  -- Emitting has no part in these steps, so `before` need not last over it.
  have asked {α : Type} {event : Except Fault α → Call Snap} {operation : Script Ω Fault α}
      (plain : ∀ answer, (event answer).requested = none) :
      Triple broken before (ask event operation) (fun _ => before) (fun _ => broken) :=
    calmly (keeps_iff.mp fun world holds => calm world _ holds (ask_calm plain world))
  unfold turn
  refine Triple.andThen (asked fun _ => rfl) fun _ => ?_
  refine Triple.andThen (asked fun _ => rfl) fun done => ?_
  refine Triple.ite (fun _ => Triple.raise fun _ holds => fails _ (weaken _ holds)) fun _ => ?_
  refine Triple.andThen (m := fun _ => before) (fun world holds =>
    calm world _ holds ⟨rfl, rfl, rfl, rfl, rfl, rfl⟩) fun now => ?_
  apply Triple.ite
  · intro _
    refine Triple.andThen (m := fun _ => before) (Triple.modify fun world holds =>
      calm world _ holds ⟨rfl, rfl, rfl, rfl, rfl, rfl⟩) fun _ => ?_
    exact Triple.ret fun _ holds => weaken _ holds
  intro _
  refine Triple.andThen (m := fun command world => ∃ earlier, before earlier ∧
    around.commands earlier.polls = command ∧ world = { earlier with polls := earlier.polls + 1 })
    (fun world holds => ⟨world, holds, rfl, rfl⟩) fun command => ?_
  have reached : ∀ world, (∃ earlier, before earlier ∧ around.commands earlier.polls = command ∧
      world = { earlier with polls := earlier.polls + 1 }) → after world := by
    rintro world ⟨earlier, holds, -, rfl⟩
    exact polled earlier holds
  have again {part : Step Ω Snap Unit}
      (known : Triple broken after part (fun _ => after) (fun _ => broken)) :
      Triple broken after (do part; Script.ret (Next.again : Next Unit)) (fun _ => after)
        (fun _ => broken) :=
    Triple.andThen known fun _ => Triple.ret fun _ holds => holds
  cases command with
  | none => exact Triple.ret reached
  | some line =>
      refine Triple.ite (fun _ => (again noted).before reached) fun _ => ?_
      refine Triple.ite (fun _ => Triple.raise fun _ holds => fails _ (reached _ holds)) fun _ => ?_
      refine Triple.ite (fun _ => Triple.andThen (requested line) fun _ =>
        Triple.ret fun _ holds => holds) fun _ => ?_
      refine Triple.ite (fun _ => Triple.ret reached) fun _ => ?_
      exact (again noted).before reached

variable [DecidableEq Snap] [EmptyCollection Snap]

theorem release_stays (lasting : Lasting P) : Stays P (release owner around) := by
  unfold release
  refine andThen_stays (ask_stays lasting fun _ => rfl) fun code => ?_
  refine Triple.ite (fun _ => raise_stays) fun _ => ?_
  refine andThen_stays (update_stays lasting (fun _ => rfl) fun _ => rfl) fun _ => ?_
  refine andThen_stays (note_stays lasting) fun _ => ?_
  refine andThen_stays (ask_stays lasting fun _ => rfl) fun _ => ?_
  refine andThen_stays (update_stays lasting (fun _ => rfl) fun _ => rfl) fun _ => ?_
  refine andThen_stays (note_stays lasting) fun _ => ?_
  refine andThen_stays (ask_stays lasting fun _ => rfl) fun snapshot => ?_
  refine andThen_stays (update_stays lasting (fun _ => rfl) fun _ => rfl) fun _ => ?_
  refine Triple.ite (fun _ => raise_stays) fun _ => ?_
  refine andThen_stays (update_stays lasting (fun _ => rfl) fun _ => rfl) fun _ => ?_
  exact note_stays lasting

theorem cleanUp_stays (lasting : Lasting P) : Stays P (cleanUp owner) := by
  unfold cleanUp
  refine andThen_stays (ask_stays lasting fun _ => rfl) fun reply => ?_
  refine andThen_stays (update_stays lasting (fun _ => rfl) fun _ => rfl) fun _ => ?_
  cases reply with
  | other => exact raise_stays
  | value cleanup =>
      refine given_stays ?_
      cases cleanup.storageSnapshot with
      | none => exact raise_stays
      | some kept =>
          cases kept with
          | other => exact raise_stays
          | value snapshot =>
              refine Triple.ite (fun _ => raise_stays) fun _ => ?_
              exact update_stays lasting (fun _ => rfl) fun _ => rfl

theorem failure_stays (lasting : Lasting P) (exc : Fault) : Stays P (failure owner around exc) := by
  have plainly {change : Result Snap → Result Snap}
      (request : ∀ result, (change result).request = result.request)
      (taskResult : ∀ result, (change result).taskResult = result.taskResult) :
      Stays P (update change : Step Ω Snap Unit) := update_stays lasting request taskResult
  unfold failure
  refine andThen_stays (plainly (fun _ => rfl) fun _ => rfl) fun _ => ?_
  refine andThen_stays (safeNote_stays lasting _) fun _ => ?_
  refine andThen_stays (handle_stays (cleanUp_stays lasting)
    fun _ => plainly (fun _ => rfl) fun _ => rfl) fun _ => ?_
  refine Triple.andThen (m := fun _ => P) (Triple.get fun _ holds => holds) fun now => ?_
  refine andThen_stays (given_stays (plainly (fun _ => rfl) fun _ => rfl)) fun _ => ?_
  refine andThen_stays (given_stays (plainly (fun _ => rfl) fun _ => rfl)) fun _ => ?_
  split
  · exact raise_stays
  · refine andThen_stays (given_stays (plainly (fun _ => rfl) fun _ => rfl)) fun _ => ?_
    refine andThen_stays (plainly (fun _ => rfl) fun _ => rfl) fun _ => ?_
    exact safeNote_stays lasting _

end Run

/-! ### Requests -/

section Requests

variable {Ω Snap : Type} {owner : Owner Ω Snap} {around : Surroundings Ω Snap}
  {accepted older : List Accepted} {entry : Accepted} {waiting : Bool} {line : Text}
  {world : World Ω Snap}

def Request.key (request : Request) : Nat × Text := (request.id, request.command)

def Accepted.key (entry : Accepted) : Nat × Text := (entry.id, entry.command)

/-- The history of a world; while it is waiting, the last line has been accepted and the owner has
not been asked yet. -/
structure Sound (around : Surroundings Ω Snap) (waiting : Bool) (accepted : List Accepted)
    (world : World Ω Snap) : Prop where
  history : History around.commands
    (fun result => Quiet around.emit world.emissions → Reported result) accepted
    (requests world.calls) world.emitted
  asked : requests world.calls =
    (if waiting then accepted.tail else accepted).map Accepted.command
  last : world.lastRequest = (accepted.head?.map Accepted.id).getD 0
  polls : ∀ entry ∈ accepted, entry.poll < world.polls
  entry : world.result.request.map Request.key = accepted.head?.map Accepted.key
  reported : Quiet around.emit world.emissions → Reported world.result

def Idle (around : Surroundings Ω Snap) (world : World Ω Snap) : Prop :=
  ∃ accepted, Sound around false accepted world

def Broken (around : Surroundings Ω Snap) (world : World Ω Snap) : Prop :=
  ∃ waiting accepted, Sound around waiting accepted world

theorem Reported.congr {one other : Result Snap} (reported : Reported one)
    (request : other.request = one.request) (task : other.taskResult = one.taskResult) :
    Reported other := by
  unfold Reported
  rw [request, task]
  exact reported

theorem Sound.calm {next : World Ω Snap} (sound : Sound around waiting accepted world)
    (calm : Calm world next) : Sound around waiting accepted next where
  history := by
    unfold World.emitted
    rw [calm.requests, calm.emissions]
    exact sound.history
  asked := calm.requests.trans sound.asked
  last := calm.lastRequest.trans sound.last
  polls := by
    rw [calm.polls]
    exact sound.polls
  entry := by
    rw [calm.request]
    exact sound.entry
  reported quiet :=
    (sound.reported (calm.emissions ▸ quiet)).congr calm.request calm.taskResult

theorem Quiet.before {emission : Result Snap × Ω} {emissions : List (Result Snap × Ω)}
    (quiet : Quiet around.emit (emission :: emissions)) : Quiet around.emit emissions :=
  fun one among => quiet one (List.mem_cons_of_mem _ among)

theorem Sound.told (sound : Sound around waiting accepted world) :
    Sound around waiting accepted
      { world with emissions := (world.result, world.owner) :: world.emissions } where
  history := (sound.history.mono fun _ reported quiet => reported quiet.before).emit sound.entry
    fun quiet => sound.reported quiet.before
  asked := sound.asked
  last := sound.last
  polls := sound.polls
  entry := sound.entry
  reported quiet := sound.reported quiet.before

theorem Sound.polled (sound : Sound around waiting accepted world) :
    Sound around waiting accepted { world with polls := world.polls + 1 } :=
  { sound with polls := fun entry among => Nat.lt_succ_of_lt (sound.polls entry among) }

/-- Another result for the same request. -/
theorem Sound.result {result : Result Snap} (sound : Sound around waiting accepted world)
    (same : result.request.map Request.key = world.result.request.map Request.key)
    (reported : Quiet around.emit world.emissions → Reported result) :
    Sound around waiting accepted { world with result := result } :=
  { sound with entry := same.trans sound.entry, reported := reported }

theorem idle_lasting : Lasting (Idle around) :=
  ⟨fun _ _ ⟨accepted, sound⟩ calm => ⟨accepted, sound.calm calm⟩,
    fun _ ⟨accepted, sound⟩ => ⟨accepted, sound.told⟩⟩

theorem broken_lasting : Lasting (Broken around) :=
  ⟨fun _ _ ⟨waiting, accepted, sound⟩ calm => ⟨waiting, accepted, sound.calm calm⟩,
    fun _ ⟨waiting, accepted, sound⟩ => ⟨waiting, accepted, sound.told⟩⟩

theorem Idle.broken (idle : Idle around world) : Broken around world :=
  let ⟨accepted, sound⟩ := idle
  ⟨false, accepted, sound⟩

def Faulty (around : Surroundings Ω Snap) (entry : Accepted) (older : List Accepted)
    (world : World Ω Snap) : Prop :=
  (∃ waiting, Sound around waiting (entry :: older) world) ∧
    (Quiet around.emit world.emissions → world.result.taskResult ≠ .success)

def Open (around : Surroundings Ω Snap) (waiting : Bool) (entry : Accepted)
    (older : List Accepted) (shape : Request → Prop) (world : World Ω Snap) : Prop :=
  Sound around waiting (entry :: older) world ∧ world.result.taskResult = .unknown ∧
    ∃ request, world.result.request = some request ∧ request.command = entry.command ∧
      shape request

theorem Open.faulty {shape : Request → Prop} (open_ : Open around waiting entry older shape world) :
    Faulty around entry older world :=
  ⟨⟨waiting, open_.1⟩, fun _ => by rw [open_.2.1]; nofun⟩

theorem open_lasting {shape : Request → Prop} :
    Lasting (Open around waiting entry older shape) := by
  refine ⟨?_, ?_⟩
  · rintro before after ⟨sound, task, request, present, more⟩ calm
    exact ⟨sound.calm calm, calm.taskResult.trans task, request, calm.request.trans present, more⟩
  · rintro world ⟨sound, more⟩
    exact ⟨sound.told, more⟩

def Judged (command response : Text) (request : Request) : Prop :=
  if "VADD ".toList.isPrefixOf command = true then
    ∃ task, validateResponse command response = .ok task ∧ request.task = some task
  else request.task = none

def Complete (command response : Text) (request : Request) : Prop :=
  request.state = .complete ∧ request.response = some response ∧ Judged command response request

theorem canonical_of_digits {digits : Text}
    (shape : (decide (digits = ['0']) || isPositive digits.length digits) = true) :
    Decimal.Canonical digits := by
  simp only [Bool.or_eq_true, decide_eq_true_eq] at shape
  rcases shape with rfl | positive
  · exact Decimal.canonical_digits 0
  · exact (isPositive_iff.mp positive).1

theorem isValue_of_match {response digits : Text} {negative : Bool}
    (matched : matchValue response = some (negative, digits)) :
    IsValue response (if negative then -(number digits : Int) else number digits) := by
  unfold matchValue at matched
  split at matched
  · rename_i starts
    simp only [Bool.and_eq_true, decide_eq_true_eq] at starts
    obtain ⟨begins, ends⟩ := starts
    obtain ⟨rest, rfl⟩ := List.isPrefixOf_iff_prefix.mp begins
    have rest_is : ("VALUE ".toList ++ rest).drop 6 = rest := rfl
    simp only [rest_is] at matched
    -- Whatever the digits are, there are some, so the newline is the last of what follows `VALUE`.
    have cut (front : Text) (some_front : rest.dropLast = front) (some : front ≠ []) :
        rest = front ++ ['\n'] := by
      have some_rest : rest ≠ [] := by
        rintro rfl
        exact some some_front.symm
      rw [List.getLast?_append, List.getLast?_eq_some_getLast some_rest, Option.some_or] at ends
      rw [← some_front, ← Option.some.inj ends, List.dropLast_concat_getLast]
    by_cases minus : rest.dropLast.head? = some '-'
    · simp only [minus, decide_true, if_true] at matched
      split at matched
      · rename_i shape
        simp only [Option.some.injEq, Prod.mk.injEq] at matched
        obtain ⟨rfl, rfl⟩ := matched
        have front : rest.dropLast = '-' :: rest.dropLast.tail := by
          cases whole : rest.dropLast with
          | nil => simp [whole] at minus
          | cons first tail =>
              rw [whole] at minus
              rw [Option.some.inj minus]
              rfl
        have written := Decimal.digits_of_canonical (canonical_of_digits shape)
        refine ⟨number rest.dropLast.tail, .inr ⟨rfl, ?_⟩⟩
        rw [number_eq, written]
        exact congrArg _ (cut _ front (by simp))
      · cases matched
    · simp only [minus, decide_false, Bool.false_eq_true, if_false] at matched
      split at matched
      · rename_i shape
        simp only [Option.some.injEq, Prod.mk.injEq] at matched
        obtain ⟨rfl, rfl⟩ := matched
        have canonical := canonical_of_digits shape
        have written := Decimal.digits_of_canonical canonical
        refine ⟨number rest.dropLast, .inl ⟨rfl, ?_⟩⟩
        rw [number_eq, written]
        exact congrArg _ (cut _ rfl canonical.1)
      · cases matched
  · cases matched

/-- Who has no verdict of a task yet gets none from the word that the owner answers. -/
theorem reported_of_complete {result : Result Snap} {command response : Text} {request : Request}
    (present : result.request = some request) (same : request.command = command)
    (complete : Complete command response request) (single : singleLine response = true)
    (answered : result.taskResult = .success → Answered command response) : Reported result :=
  fun success => ⟨request, response, present, complete.1, complete.2.1, single,
    same ▸ answered success⟩

theorem judge_sound {response : Text} (single : singleLine response = true) :
    Triple (Broken around) (Open around false entry older (Complete entry.command response))
      (judge entry.command response) (fun _ => Sound around false (entry :: older))
      (fun _ => Faulty around entry older) := by
  unfold judge
  apply Triple.start
  rintro start ⟨sound, -, request, present, same, complete⟩
  by_cases vadd : "VADD ".toList.isPrefixOf entry.command = true
  · obtain ⟨task, valid, tasked⟩ : ∃ task, validateResponse entry.command response = .ok task ∧
        request.task = some task := by
      have judged := complete.2.2
      rwa [Judged, if_pos vadd] at judged
    have others : ¬ (entry.command = "GET".toList ∨ "SET ".toList.isPrefixOf entry.command = true ∨
        "ADD ".toList.isPrefixOf entry.command = true) := by
      obtain ⟨rest, shape⟩ := List.isPrefixOf_iff_prefix.mp vadd
      rw [← shape]
      simp
    have info : entry.command ≠ "INFO".toList := by
      obtain ⟨rest, shape⟩ := List.isPrefixOf_iff_prefix.mp vadd
      rw [← shape]
      simp
    refine Triple.andThen (m := fun _ => Sound around false (entry :: older)) (Triple.modify ?_)
      fun _ => ?_
    · rintro world rfl
      refine sound.result rfl fun _ => ?_
      refine reported_of_complete present same complete single fun success => ?_
      obtain ⟨⟨n, a, b⟩, parsed, -⟩ := Struct.bind_inv valid
      obtain ⟨-, ⟨-, -, rfl⟩ | ⟨line, formed, text, rfl⟩⟩ :=
        (validateResponse_eq_ok parsed).mp valid
      · simp [present, tasked, refused] at success
      · refine .sums parsed formed text (by_contra fun differ => ?_)
        simp [present, tasked, Line.task, Ne.symm differ] at success
    · refine Triple.ite (fun other => absurd other others) fun _ => ?_
      refine Triple.given (fun contract => ?_) fun _ _ holds => holds
      simp only [decide_eq_true_eq] at contract
      exact absurd contract.1 info
  · have untasked : request.task = none := by
      have judged := complete.2.2
      rwa [Judged, if_neg vadd] at judged
    refine Triple.andThen (m := fun _ => Open around false entry older
      (Complete entry.command response)) (Triple.modify ?_) fun _ => ?_
    · rintro world rfl
      have nothing : world.result.request.bind Request.task = none := by
        rw [present, Option.bind_some, untasked]
      simp only [nothing]
      refine ⟨sound.result rfl fun _ success => ?_, rfl, request, present, same, complete⟩
      cases success
    · have succeeds (answered : Answered entry.command response) :
          Triple (Broken around) (Open around false entry older (Complete entry.command response))
            (update fun result : Result Snap => { result with taskResult := TaskResult.success })
            (fun _ => Sound around false (entry :: older))
            (fun _ => Faulty around entry older) := by
        refine Triple.modify ?_
        rintro world ⟨sound, -, request, present, same, complete⟩
        exact sound.result rfl fun _ =>
          reported_of_complete present same complete single fun _ => answered
      apply Triple.ite
      · intro named
        cases matched : matchValue response with
        | none => exact Triple.ret fun _ open_ => open_.1
        | some value =>
            obtain ⟨negative, digits⟩ := value
            refine Triple.ite (fun _ => Triple.raise fun _ open_ => open_.faulty) fun _ => ?_
            refine Triple.given (fun range => succeeds ?_) fun _ _ open_ => open_.1
            rw [decide_eq_true_eq] at range
            exact .value named ⟨_, range.1, range.2, isValue_of_match matched⟩
      · intro _
        refine Triple.given (fun contract => succeeds ?_) fun _ _ open_ => open_.1
        rw [decide_eq_true_eq] at contract
        exact .info contract.1 contract.2

/-- The last note of an exchange fails without a success in the result, if emitting is quiet. -/
theorem complete_sound :
    Triple (Broken around) (Sound around false (entry :: older)) (note around .requestComplete)
      (fun _ => Sound around false (entry :: older)) (fun _ => Faulty around entry older) := by
  unfold note
  refine Triple.andThen (m := fun _ world => Sound around false (entry :: older) world ∧
    world.result.events.getLast? = some .requestComplete) (Triple.modify ?_) fun _ => ?_
  · intro world sound
    refine ⟨sound.calm ⟨rfl, rfl, rfl, rfl, rfl, rfl⟩, ?_⟩
    simp only [List.getLast?_drop, List.length_append, List.length_singleton]
    rw [if_neg (by omega)]
    exact List.getLast?_concat
  refine Triple.andThen (m := fun now world => (Sound around false (entry :: older) world ∧
    world.result.events.getLast? = some .requestComplete) ∧ now = world)
    (Triple.get fun _ holds => ⟨holds, rfl⟩) fun now => ?_
  apply Triple.start
  rintro start ⟨⟨sound, last⟩, rfl⟩
  refine Triple.andThen (m := fun _ world => Sound around false (entry :: older) world ∧
    world.result = now.result ∧ (now.result, world.owner) ∈ world.emissions)
    (Triple.modify ?_) fun _ => ?_
  · rintro world rfl
    exact ⟨sound.told, rfl, List.mem_cons_self⟩
  rintro world ⟨sound, same, told⟩
  unfold inside
  cases ends : around.emit now.result world.owner with
  | mk outcome after =>
      have calm : Calm world { world with owner := after } := ⟨rfl, rfl, rfl, rfl, rfl, rfl⟩
      cases outcome with
      | done value => exact sound.calm calm
      | raised fault =>
          refine ⟨⟨false, sound.calm calm⟩, fun quiet success => ?_⟩
          rw [same] at success
          exact quiet _ told last success fault (by rw [ends])
      | unfinished => exact ⟨false, _, sound.calm calm⟩

theorem exchange_sound :
    Triple (Broken around) (Open around true entry older fun request => request.task = none)
      (exchange owner around entry.command) (fun _ => Sound around false (entry :: older))
      (fun _ => Faulty around entry older) := by
  have calmly {α : Type} {waiting : Bool} {shape : Request → Prop} {part : Step Ω Snap α}
      (stays : Stays (Open around waiting entry older shape) part) :
      Triple (Broken around) (Open around waiting entry older shape) part
        (fun _ => Open around waiting entry older shape) (fun _ => Faulty around entry older) :=
    (stays.loosen fun _ open_ => ⟨waiting, _, open_.1⟩).consequence (fun _ holds => holds)
      (fun _ _ holds => holds) fun _ _ open_ => open_.faulty
  unfold exchange
  refine Triple.andThen (calmly (note_stays open_lasting)) fun _ => ?_
  refine Triple.andThen (calmly (setTransportUnknown_stays open_lasting)) fun _ => ?_
  refine Triple.andThen (m := fun _ => Open around false entry older
    fun request => request.task = none) ?_ fun reply => ?_
  · rintro world ⟨sound, more⟩
    have called {answer : Except Fault (Reply Text)} {after : Ω} :
        Open around false entry older (fun request => request.task = none)
          { world with owner := after, calls := .request entry.command answer :: world.calls } := by
      have asked : requests (.request entry.command answer :: world.calls) =
          entry.command :: requests world.calls := rfl
      have before := sound.asked
      simp only [if_true, List.tail_cons] at before
      refine ⟨{ sound with history := ?_, asked := ?_ }, more⟩
      · rw [asked]
        exact sound.history.call before
      · rw [asked, before]
        rfl
    unfold ask
    cases ends : owner.request entry.command world.owner with
    | mk outcome after =>
        cases outcome with
        | done value => exact called
        | raised fault => exact called.faulty
        | unfinished => exact ⟨true, _, sound.calm ⟨rfl, rfl, rfl, rfl, rfl, rfl⟩⟩
  cases reply with
  | other => exact Triple.raise fun _ open_ => open_.faulty
  | value response =>
      refine Triple.ite (fun _ => Triple.raise fun _ open_ => open_.faulty) fun single => ?_
      rw [not_not] at single
      refine Triple.andThen (m := fun _ => Open around false entry older
        (Judged entry.command response)) (Triple.given (fun vadd => ?_) ?_) fun _ => ?_
      · cases valid : validateResponse entry.command response with
        | error fault =>
            exact Triple.andThen (m := fun _ _ => False)
              (Triple.raise fun _ open_ => open_.faulty) fun _ _ impossible => impossible.elim
        | ok task =>
            refine Triple.andThen (m := fun now world => now = task ∧ Open around false entry older
              (fun request => request.task = none) world) (Triple.ret fun _ open_ => ⟨rfl, open_⟩)
              fun now => Triple.modify ?_
            rintro world ⟨rfl, sound, unknown, request, present, same, -⟩
            refine ⟨sound.result (by simp [present, Request.key]) fun _ success => ?_, unknown,
              { request with task := some now }, by simp [present], same, ?_⟩
            · rw [unknown] at success
              cases success
            · rw [Judged, if_pos vadd]
              exact ⟨now, valid, rfl⟩
      · rintro plain world ⟨sound, unknown, request, present, same, untasked⟩
        refine ⟨sound, unknown, request, present, same, ?_⟩
        rw [Judged, if_neg (by rw [plain]; simp)]
        exact untasked
      refine Triple.andThen (m := fun _ => Open around false entry older
        (Complete entry.command response)) (Triple.modify ?_) fun _ => ?_
      · rintro world ⟨sound, unknown, request, present, same, judged⟩
        refine ⟨sound.result (by simp [present, Request.key]) fun _ success => ?_, unknown,
          { request with state := .complete, response := some response }, by simp [present], same,
          rfl, rfl, judged⟩
        rw [unknown] at success
        cases success
      exact Triple.andThen (judge_sound single) fun _ => complete_sound

theorem request_sound (given : around.commands entry.poll = some line)
    (accepts : Accepts ((older.head?.map Accepted.id).getD 0) line entry.id entry.command) :
    Triple (Broken around)
      (fun world => Sound around false older world ∧ (∀ other ∈ older, other.poll < entry.poll) ∧
        entry.poll < world.polls)
      (request owner around entry.id entry.command) (fun _ => Idle around)
      (fun _ => Broken around) := by
  unfold request
  refine Triple.andThen (m := fun _ => Open around true entry older fun request =>
    request.task = none) (Triple.modify ?_) fun _ => ?_
  · rintro world ⟨sound, later, polled⟩
    refine ⟨⟨sound.history.accept given accepts later sound.asked, sound.asked, rfl, ?_, rfl,
      fun _ => nofun⟩, rfl, _, rfl, rfl, rfl⟩
    exact List.forall_mem_cons.mpr ⟨polled, sound.polls⟩
  refine Triple.andThen (m := fun _ => Open around true entry older fun request =>
    request.task = none) (((setTransportUnknown_stays open_lasting).loosen fun _ open_ =>
      ⟨true, _, open_.1⟩).consequence (fun _ holds => holds) (fun _ _ holds => holds)
      fun _ _ open_ => ⟨true, _, open_.1⟩) fun _ => ?_
  refine Triple.handle (exchange_sound.consequence (fun _ holds => holds)
    (fun _ _ sound => ⟨_, sound⟩) fun _ _ holds => holds) fun exc => ?_
  refine Triple.andThen (m := fun _ => Faulty around entry older) (Triple.modify ?_) fun _ => ?_
  · rintro world ⟨⟨waiting, sound⟩, task⟩
    exact ⟨⟨waiting, sound.calm ⟨rfl, rfl, rfl, rfl, rfl, rfl⟩⟩, task⟩
  refine Triple.andThen (m := fun _ => Broken around) (Triple.modify ?_) fun _ =>
    Triple.raise fun _ holds => holds
  rintro world ⟨⟨waiting, sound⟩, task⟩
  refine ⟨waiting, _, sound.result ?_ fun quiet success => absurd success (task quiet)⟩
  exact Option.map_map _ _ _

/-- A line of the queue, whether it is accepted or not. -/
theorem requestLine_sound (line : Text) :
    Triple (Broken around)
      (fun world => ∃ earlier, Idle around earlier ∧ around.commands earlier.polls = some line ∧
        world = { earlier with polls := earlier.polls + 1 })
      (requestLine owner around line) (fun _ => Idle around) (fun _ => Broken around) := by
  have noted {event : Note} : Triple (Broken around) (Idle around) (note around event)
      (fun _ => Idle around) (fun _ => Broken around) :=
    ((note_stays idle_lasting).loosen fun _ idle => idle.broken).consequence (fun _ holds => holds)
      (fun _ _ holds => holds) fun _ _ idle => idle.broken
  apply Triple.start
  rintro start ⟨earlier, ⟨accepted, sound⟩, given, rfl⟩
  have idle : Idle around { earlier with polls := earlier.polls + 1 } := ⟨accepted, sound.polled⟩
  unfold requestLine
  refine Triple.andThen (m := fun now world => now = { earlier with polls := earlier.polls + 1 } ∧
    world = { earlier with polls := earlier.polls + 1 }) (Triple.get fun _ same => ⟨same, same⟩)
    fun now => ?_
  apply Triple.start
  rintro world ⟨rfl, rfl⟩
  cases matched : matchRequest line with
  | none => exact noted.before fun _ same => same ▸ idle
  | some found =>
      obtain ⟨id, command⟩ := found
      refine Triple.ite (fun _ => noted.before fun _ same => same ▸ idle) fun above => ?_
      have served (parsed : "VADD ".toList.isPrefixOf command = true →
          ∃ vectors, parse command = .ok vectors) :
          Triple (Broken around) (fun world => world = { earlier with polls := earlier.polls + 1 })
            (request owner around id command) (fun _ => Idle around) (fun _ => Broken around) := by
        have last := sound.last
        refine (@request_sound Ω Snap owner around accepted ⟨earlier.polls, id, command⟩ line given
          ⟨matched, ?_, parsed⟩).before ?_
        · rw [← last]
          exact Nat.lt_of_not_le above
        · rintro world rfl
          exact ⟨sound.polled, sound.polls, Nat.lt_succ_self _⟩
      refine Triple.ite (fun vadd => ?_) fun plain => served fun vadd => absurd vadd plain
      cases parsed : parse command with
      | error fault => exact noted.before fun _ same => same ▸ idle
      | ok vectors => exact served fun _ => ⟨vectors, parsed⟩

theorem turn_sound (deadline : Int) :
    Triple (Broken around) (Idle around) (turn owner around deadline) (fun _ => Idle around)
      (fun _ => Broken around) :=
  turn_rule idle_lasting.calm idle_lasting (fun _ idle => idle) (fun _ idle => idle.broken)
    (fun _ ⟨accepted, sound⟩ => ⟨accepted, sound.polled⟩) requestLine_sound deadline

variable [DecidableEq Snap] [EmptyCollection Snap]

theorem ordinary_sound (deadline : Int) (fuel : Nat) :
    Triple (Broken around) (Idle around) (ordinary owner around deadline fuel)
      (fun _ => Broken around) (fun _ => Broken around) := by
  have idly {α : Type} {part : Step Ω Snap α} (stays : Stays (Idle around) part) :
      Triple (Broken around) (Idle around) part (fun _ => Idle around) (fun _ => Broken around) :=
    (stays.loosen fun _ idle => idle.broken).consequence (fun _ holds => holds)
      (fun _ _ holds => holds) fun _ _ idle => idle.broken
  unfold ordinary
  refine Triple.andThen (idly (startUp_stays idle_lasting deadline fuel)) fun _ => ?_
  refine Triple.andThen (m := fun _ => Idle around) (Triple.loop ?_
    (fun _ idle => idle.broken) fuel) fun _ => ?_
  · refine (turn_sound deadline).consequence (fun _ holds => holds) ?_ fun _ _ holds => holds
    rintro (_ | _) _ idle <;> exact idle
  refine Triple.andThen (idly (stopGuest_stays idle_lasting fuel)) fun _ => ?_
  exact (idly (release_stays idle_lasting)).consequence (fun _ holds => holds)
    (fun _ _ idle => idle.broken) fun _ _ holds => holds

theorem supervise_sound (fuel : Nat) :
    Triple (Broken around) (Idle around) (supervise owner around fuel) (fun _ => Broken around)
      (fun _ => Broken around) := by
  unfold supervise
  refine Triple.andThen (m := fun _ => Idle around) (fun world idle =>
    idle_lasting.calm world _ idle ⟨rfl, rfl, rfl, rfl, rfl, rfl⟩) fun now => ?_
  refine Triple.andThen (m := fun _ => Broken around) (Triple.handle (ordinary_sound _ fuel)
    fun exc => failure_stays broken_lasting exc) fun _ => ?_
  exact Triple.andThen (m := fun _ => Broken around) (Triple.get fun _ holds => holds)
    fun _ => Triple.ret fun _ holds => holds

end Requests

/-! ### Rejected lines -/

section Rejections

variable {Ω Snap : Type} {owner : Owner Ω Snap} {around : Surroundings Ω Snap}

structure Alike (before after : World Ω Snap) : Prop where
  requests : requests after.calls = requests before.calls
  lastRequest : after.lastRequest = before.lastRequest
  request : after.result.request = before.result.request
  taskResult : after.result.taskResult = before.result.taskResult

theorem alike_lasting {start : World Ω Snap} : Lasting (Alike start) where
  calm _ _ alike calm := ⟨calm.requests.trans alike.requests,
    calm.lastRequest.trans alike.lastRequest, calm.request.trans alike.request,
    calm.taskResult.trans alike.taskResult⟩
  told _ alike := { alike with }

theorem turn_rejected {start : World Ω Snap} {line : Text}
    (polled : around.commands start.polls = some line)
    (rejected : Rejected start.lastRequest line) (deadline : Int) :
    Alike start (turn owner around deadline start).2 := by
  have turned : Triple (Alike start) (fun world => Alike start world ∧ world.polls = start.polls)
      (turn owner around deadline) (fun _ => Alike start) (fun _ => Alike start) := by
    refine turn_rule ?_ alike_lasting (fun _ both => both.1) (fun _ alike => alike)
      (fun _ both => { both.1 with }) (fun other => ?_) deadline
    · rintro world next ⟨alike, polls⟩ calm
      exact ⟨alike_lasting.calm _ _ alike calm, calm.polls.trans polls⟩
    · apply Triple.start
      rintro world ⟨earlier, ⟨alike, polls⟩, given, rfl⟩
      rw [polls, polled] at given
      cases given
      have noted {event : Note} : Triple (Alike start)
          (fun world => world = { earlier with polls := earlier.polls + 1 }) (note around event)
          (fun _ => Alike start) (fun _ => Alike start) :=
        (note_stays alike_lasting).before fun _ same => same ▸ { alike with }
      unfold requestLine
      refine Triple.andThen (m := fun now world =>
        now = { earlier with polls := earlier.polls + 1 } ∧
        world = { earlier with polls := earlier.polls + 1 }) (Triple.get fun _ same => ⟨same, same⟩)
        fun now => ?_
      apply Triple.start
      rintro world ⟨rfl, rfl⟩
      cases matched : matchRequest line with
      | none => exact noted
      | some found =>
          obtain ⟨id, command⟩ := found
          refine Triple.ite (fun _ => noted) fun above => ?_
          have refused := rejected.2 id command
          rw [← alike.lastRequest] at refused
          refine Triple.ite (fun vadd => ?_) fun plain => absurd
            ⟨matched, Nat.lt_of_not_le above, fun vadd => absurd vadd plain⟩ refused
          cases parsed : parse command with
          | error fault => exact noted
          | ok vectors =>
              exact absurd ⟨matched, Nat.lt_of_not_le above, fun _ => ⟨vectors, parsed⟩⟩ refused
  have reached := turned start ⟨⟨rfl, rfl, rfl, rfl⟩, rfl⟩
  match ends : turn owner around deadline start with
  | (.done value, after) => simpa [ends] using reached
  | (.raised fault, after) => simpa [ends] using reached
  | (.unfinished, after) => simpa [ends] using reached

end Rejections

/-- In every run the accepted lines have rising ids, the owner is asked for their commands, once for
each, and what is emitted has the request accepted last; a success is that of a completed request,
unless writing one down has failed. A rejected line changes none of it. -/
theorem supervise_requests {Ω Snap : Type} [DecidableEq Snap] [EmptyCollection Snap]
    (owner : Owner Ω Snap) (around : Surroundings Ω Snap) :
    (∀ state fuel, ∃ accepted, History around.commands
        (fun result => Quiet around.emit
          (supervise owner around fuel { owner := state }).2.emissions → Reported result) accepted
        (requests (supervise owner around fuel { owner := state }).2.calls)
        (supervise owner around fuel { owner := state }).2.emitted ∧
      (accepted.Pairwise fun later earlier => earlier.id < later.id ∧ earlier.poll < later.poll) ∧
      (requests (supervise owner around fuel { owner := state }).2.calls =
          accepted.map Accepted.command ∨
        requests (supervise owner around fuel { owner := state }).2.calls =
          accepted.tail.map Accepted.command) ∧
      (∀ entry ∈ accepted, ∃ line, around.commands entry.poll = some line ∧
        matchRequest line = some (entry.id, entry.command)) ∧
      (Quiet around.emit (supervise owner around fuel { owner := state }).2.emissions →
        ∀ result ∈ (supervise owner around fuel { owner := state }).2.emitted, Reported result)) ∧
    ∀ (start : World Ω Snap) line deadline, around.commands start.polls = some line →
      Rejected start.lastRequest line → Alike start (turn owner around deadline start).2 := by
  refine ⟨fun state fuel => ?_, fun _ _ deadline polled rejected =>
    turn_rejected polled rejected deadline⟩
  have idle : Idle around ({ owner := state } : World Ω Snap) :=
    ⟨[], .start, rfl, rfl, by simp, rfl, fun _ => nofun⟩
  have reached : Broken around (supervise owner around fuel { owner := state }).2 := by
    have sound := @supervise_sound Ω Snap owner around _ _ fuel _ idle
    match ends : supervise owner around fuel { owner := state } with
    | (.done value, after) => simpa [ends] using sound
    | (.raised fault, after) => simpa [ends] using sound
    | (.unfinished, after) => simpa [ends] using sound
  obtain ⟨waiting, accepted, sound⟩ := reached
  exact ⟨accepted, sound.history, sound.history.increasing, sound.history.asked,
    sound.history.lines, fun quiet result among => sound.history.emitted result among quiet⟩

/-! ### A failing output -/

namespace Sample

def counter : Owner Unit (List Nat) where
  start := Script.ret ()
  ready := Script.ret true
  observe := Script.ret ()
  request _ := Script.ret (.value "VALUE 1\n".toList)
  guestDone := Script.ret false
  stop := Script.ret (.value "BYE\n".toList)
  guestExit := Script.ret (.value 0)
  cleanupServices := Script.ret ()
  snapshot := Script.ret (.value [1])
  failureCleanup := Script.ret (.value {})
  setTransportUnknown _ state := state
  forcedMacosCleanupRequested _ := false
  forcedLinuxCleanupRequested _ := false
  forcedCleanupRequested _ := false

def surroundings (fails : Bool) : Surroundings Unit (List Nat) where
  clock _ := 0
  commands poll := if poll = 0 then some "request 1 GET".toList else some "stop".toList
  timeout := 60
  emit result :=
    if fails ∧ result.request.map Request.state = some .complete then
      Script.raise ⟨.osError, "Broken pipe"⟩
    else Script.ret ()

end Sample

theorem Sample.quiet (emissions : List (Result (List Nat) × Unit)) :
    Quiet (surroundings false).emit emissions := by
  intro emission _ _ _ fault
  have writes : (surroundings false).emit emission.1 = Script.ret () := by
    simp only [surroundings, Bool.false_eq_true, false_and, if_false]
  rw [writes]
  nofun

theorem supervise_requests_counter :
    ∀ result ∈ (supervise Sample.counter (Sample.surroundings false) 3 { owner := () }).2.emitted,
      Reported result :=
  ((supervise_requests Sample.counter (Sample.surroundings false)).1 () 3).elim
    fun _ facts => facts.2.2.2.2 (Sample.quiet _)

theorem Sample.last_emitted :
    ((supervise counter (surroundings true) 3 { owner := () }).2.emitted.head?.map fun result =>
        (result.taskResult, result.request.map Request.state)) =
      some (.success, some .unknown) := by
  decide +kernel

/-- The exchange is doubted when its completion cannot be written, but its success stays. -/
theorem supervise_success_of_unknown : ¬ ∀ (owner : Owner Unit (List Nat)) around fuel,
    ∀ result ∈ (supervise owner around fuel { owner := () }).2.emitted, Reported result := by
  intro all
  have every := all Sample.counter (Sample.surroundings true) 3
  have last := Sample.last_emitted
  generalize (supervise Sample.counter (Sample.surroundings true) 3 { owner := () }).2.emitted =
    emitted at every last
  obtain ⟨result, first, shape⟩ := Option.map_eq_some_iff.mp last
  simp only [Prod.mk.injEq] at shape
  obtain ⟨request, _, present, complete, -⟩ :=
    every result (List.mem_of_mem_head? first) shape.1
  rw [present, Option.map_some, complete] at shape
  cases shape.2

end Bscp.Supervise
