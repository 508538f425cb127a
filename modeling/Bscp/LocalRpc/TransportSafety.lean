import Bscp.LocalRpc.TransportRead

/-!
What holds in every run of a transport: a record is finished only when it was read whole and
in order under its own phase, no two records share a phase, and a failure is the end.
-/

namespace Bscp.LocalRpc.Transport

open Transport.State

namespace Entry

/-- The operation has failed: it neither found another one under way, nor was called without
a place for the proof, nor is it a poll that found nothing. -/
def Failed (e : Entry) : Prop :=
  e.reply.status ≠ .ok ∧ e.busy = false ∧ e.operation ≠ .finish false ∧
    ¬(e.operation = .poll ∧ e.reply.status = .wouldBlock)

def Silent (e : Entry) : Prop :=
  (e.operation ≠ .shutdown → e.reply.status ≠ .ok) ∧ e.reply.data = [] ∧ e.reply.handles = [] ∧
    e.proof = none

end Entry

/-- Where the bytes that were delivered came from: an entry of the open phase is of the
packet at hand, and the other way round. -/
def Marked (t : State) (log : List Entry) : Prop :=
  ∀ e ∈ log, e.reply.data ≠ [] → e.received ≤ t.received ∧ e.opened ≤ t.opened ∧
    (t.stopped = false →
      (t.phaseOpen = true → e.opened = t.opened → e.received = t.received ∧ t.packet.isSome = true) ∧
      (t.packet.isSome = true → e.received = t.received → t.phaseOpen = true ∧ e.opened = t.opened))

structure Sound (client : Bool) (process : Nat) (run : Run) : Prop where
  owner : run.transport.client = client ∧ run.transport.process = process
  good : run.transport.stopped = false → Good run.transport run.log
  marked : Marked run.transport run.log
  paired : run.log.Pairwise fun newer older => newer.reply.data ≠ [] → older.reply.data ≠ [] →
    (newer.received = older.received ↔ newer.opened = older.opened)
  stops : ∀ e ∈ run.log, e.Failed → run.transport.stopped = true
  halted : run.log.Pairwise fun newer older => older.Failed → newer.Silent
  reading : ∀ call, run.reading = some call → call.total = span call.iovs ∧
    (run.transport.stopped = false → run.transport.phaseOpen = true)

theorem sound_start {client : Bool} {process : Nat} : Sound client process (start client process) where
  owner := ⟨rfl, rfl⟩
  good _ := good_start
  marked := nofun
  paired := .nil
  stops := nofun
  halted := .nil
  reading := nofun

section Marks

variable {t after : State} {log : List Entry}

theorem Marked.stop (marked : Marked t log) (received : t.received ≤ after.received)
    (opened : t.opened ≤ after.opened) (stopped : after.stopped = true) : Marked after log := by
  intro e listed data
  obtain ⟨one, two, _⟩ := marked e listed data
  refine ⟨Nat.le_trans one received, Nat.le_trans two opened, ?_⟩
  intro living
  rw [stopped] at living
  cases living

theorem Marked.load (marked : Marked t log) (living : t.stopped = false) (empty : t.packet = none)
    {payload : List UInt8} {handles : List Nat} : Marked (t.load payload handles) log := by
  intro e listed data
  obtain ⟨received, opened, marks⟩ := marked e listed data
  refine ⟨Nat.le_succ_of_le received, opened, fun _ => ⟨?_, ?_⟩⟩
  · intro phase same
    have some' := ((marks living).1 phase same).2
    rw [empty] at some'
    cases some'
  · intro _ same
    change e.received = t.received + 1 at same
    omega

theorem Marked.open (marked : Marked t log) (living : t.stopped = false)
    (closed : t.phaseOpen = false) {phase : Phase} : Marked (t.openPhase phase) log := by
  intro e listed data
  obtain ⟨received, opened, marks⟩ := marked e listed data
  refine ⟨received, Nat.le_succ_of_le opened, fun _ => ⟨?_, ?_⟩⟩
  · intro _ same
    change e.opened = t.opened + 1 at same
    omega
  · intro some' same
    have phase := ((marks living).2 some' same).1
    rw [closed] at phase
    cases phase

theorem Marked.finish (marked : Marked t log) : Marked t.finishRecord log := by
  intro e listed data
  obtain ⟨received, opened, _⟩ := marked e listed data
  exact ⟨received, opened, fun _ => ⟨nofun, nofun⟩⟩

theorem Marked.read (marked : Marked t log) (living : t.stopped = false) {packet : Packet}
    (has : t.packet = some packet) {total : Nat} : Marked (t.readOn packet total) log := by
  intro e listed data
  obtain ⟨received, opened, marks⟩ := marked e listed data
  refine ⟨received, opened, fun _ => ⟨?_, ?_⟩⟩
  · intro phase same
    exact ⟨((marks living).1 phase same).1, rfl⟩
  · intro _ same
    exact (marks living).2 (by rw [has]; rfl) same

end Marks

section Runs

variable {client : Bool} {process : Nat} {run : Run}

/-- One more entry. -/
theorem Sound.append (sound : Sound client process run) {after : State} {reading : Option ReadCall} {e : Entry}
    (good : after.stopped = false → Good after (e :: run.log)) (marked : Marked after run.log)
    (mine : e.reply.data ≠ [] → (e.received = after.received ∧ e.opened = after.opened) ∧
      after.stopped = false ∧ after.phaseOpen = true ∧ after.packet.isSome = true)
    (stopped : run.transport.stopped = true → after.stopped = true ∧ e.Silent)
    (failed : e.Failed → after.stopped = true)
    (waits : ∀ call, reading = some call → call.total = span call.iovs ∧
      (after.stopped = false → after.phaseOpen = true))
    (owner : after.client = run.transport.client ∧ after.process = run.transport.process) :
    Sound client process ⟨after, reading, e :: run.log⟩ := by
  constructor
  case owner => exact ⟨owner.1.trans sound.owner.1, owner.2.trans sound.owner.2⟩
  case good => exact good
  case marked =>
      intro other listed data
      obtain rfl | old := List.mem_cons.1 listed
      · obtain ⟨⟨received, opened⟩, _, phase, some'⟩ := mine data
        exact ⟨Nat.le_of_eq received, Nat.le_of_eq opened,
          fun _ => ⟨fun _ _ => ⟨received, some'⟩, fun _ _ => ⟨phase, opened⟩⟩⟩
      · exact marked other old data
  case paired =>
      refine List.pairwise_cons.2 ⟨?_, sound.paired⟩
      intro older listed data before
      obtain ⟨⟨received, opened⟩, living, phase, some'⟩ := mine data
      obtain ⟨_, _, marks⟩ := marked older listed before
      rw [received, opened]
      constructor
      · exact fun same => ((marks living).2 some' same.symm).2.symm
      · exact fun same => ((marks living).1 phase same.symm).1.symm
  case stops =>
      intro other listed fails
      obtain rfl | old := List.mem_cons.1 listed
      · exact failed fails
      · exact (stopped (sound.stops other old fails)).1
  case halted =>
      refine List.pairwise_cons.2 ⟨?_, sound.halted⟩
      intro older listed fails
      exact (stopped (sound.stops older listed fails)).2
  case reading => exact waits

/-- An operation that stops the transport, or finds it stopped. -/
theorem Sound.fails (sound : Sound client process run) {status : Status} {after : State}
    (fails : Fails run.transport status after) {operation : Operation} {proof : Option Nat}
    (none' : proof = none) :
    Sound client process
      { transport := after
        log := ⟨operation, { status := status }, false, proof, after.received, after.opened⟩ ::
          run.log } := by
  subst none'
  refine sound.append ?_ (sound.marked.stop fails.received fails.opened fails.stopped) ?_ ?_ ?_ nofun
    fails.owner
  · exact fun living => nomatch fails.stopped.symm.trans living
  · exact fun data => absurd rfl data
  · exact fun _ => ⟨fails.stopped, fun _ => fails.status, rfl, rfl, rfl⟩
  · exact fun _ => fails.stopped

theorem fails_dead {t : State} (stopped : t.stopped = true) : Fails t .deadObject t := by
  refine ⟨fun fine => ?_, stopped, Nat.le_refl _, Nat.le_refl _, rfl, rfl⟩
  cases fine

/-- The same transport, an entry that brings nothing and is no failure. -/
theorem Sound.note (sound : Sound client process run) {e : Entry} (begins : e.begins = false)
    (finishes : e.finishes = false) (data : e.reply.data = []) (handles : e.reply.handles = [])
    (quiet : run.transport.stopped = true → e.Silent) (fine : ¬e.Failed)
    {reading : Option ReadCall} (waits : reading = none ∨ reading = run.reading) :
    Sound client process ⟨run.transport, reading, e :: run.log⟩ := by
  refine sound.append ?_ sound.marked ?_ ?_ ?_ ?_ ⟨rfl, rfl⟩
  · exact fun living => (sound.good living).note begins finishes data handles
  · exact fun some' => absurd data some'
  · exact fun stopped => ⟨stopped, quiet stopped⟩
  · exact fun fails => absurd fails fine
  · intro call here
    obtain rfl | rfl := waits
    · cases here
    · exact sound.reading call here

/-- An operation that finds another one under way. -/
theorem Sound.refuses (sound : Sound client process run) (operation : Operation) : Sound client process (run.refuses operation) := by
  refine sound.note ?_ ?_ rfl rfl ?_ ?_ (.inr rfl)
  · cases operation <;> rfl
  · exact Bool.and_false _
  · intro _
    refine ⟨?_, rfl, rfl, rfl⟩
    intro _
    nofun
  · rintro ⟨_, free, _⟩
    cases free

theorem Sound.poll (sound : Sound client process run) (idle : run.reading = none) (receive : Receive) :
    Sound client process (run.step (.poll receive)) := by
  have loads := @loadPacket_cases run.transport receive
  rw [Run.step, idle]
  change Sound client process (run.returns .poll { status := (run.transport.pollRead receive).1 }
    (run.transport.pollRead receive).2)
  unfold State.pollRead
  generalize run.transport.loadPacket receive = result at loads
  -- A poll that finds a packet changes nothing but that.
  have found {t : State} (living : t.stopped = false) (good : Good t run.log) (marked : Marked t run.log)
      (before : run.transport.stopped = false)
      (owner : t.client = run.transport.client ∧ t.process = run.transport.process) (status : Status)
      (fine : status = .ok ∨ status = .wouldBlock) :
      Sound client process (run.returns .poll { status := status } t) := by
    refine sound.append ?_ marked (fun data => absurd rfl data) ?_ ?_ nofun owner
    · exact fun _ => good.note rfl rfl rfl rfl
    · exact fun stopped => nomatch before.symm.trans stopped
    · rintro ⟨bad, _, _, other⟩
      exact absurd ⟨rfl, fine.resolve_left bad⟩ other
  cases loads with
  | dead stopped => exact sound.fails (fails_dead stopped) rfl
  | nothing empty living => exact found living (sound.good living) sound.marked living ⟨rfl, rfl⟩ _ (.inr rfl)
  | fails fails =>
      rename_i status after
      cases status with
      | ok => exact absurd rfl fails.status
      | _ => exact sound.fails fails rfl
  | ready has living =>
      dsimp only
      rw [has]
      dsimp only
      split
      · exact found living (sound.good living) sound.marked living ⟨rfl, rfl⟩ _ (.inl rfl)
      · exact found living (sound.good living) sound.marked living ⟨rfl, rfl⟩ _ (.inr rfl)
  | loads payload handles empty living shape =>
      have good := (sound.good living).load empty shape
      have marked := @Marked.load _ _ sound.marked living empty payload handles
      dsimp only
      rw [show (run.transport.load payload handles).packet = some _ from rfl]
      dsimp only
      split
      · exact @found (run.transport.load payload handles) living good marked living ⟨rfl, rfl⟩ _ (.inl rfl)
      · exact @found (run.transport.load payload handles) living good marked living ⟨rfl, rfl⟩ _ (.inr rfl)

theorem Sound.begin (sound : Sound client process run) (idle : run.reading = none) (phase : Option Phase) :
    Sound client process (run.step (.begin phase)) := by
  have begins := @beginNdrRecord_cases run.transport phase
  rw [Run.step, idle]
  change Sound client process (run.returns (.begin phase) { status := (run.transport.beginNdrRecord phase).1 }
    (run.transport.beginNdrRecord phase).2)
  generalize run.transport.beginNdrRecord phase = result at begins
  cases begins with
  | dead stopped => exact sound.fails (fails_dead stopped) rfl
  | fails fails => exact sound.fails fails rfl
  | opens phase same living closed shape =>
      subst same
      refine sound.append ?_ (sound.marked.open living closed) (fun data => absurd rfl data) ?_ ?_ nofun
        ⟨rfl, rfl⟩
      · exact fun _ => (sound.good living).open closed shape rfl rfl rfl
      · exact fun stopped => nomatch living.symm.trans stopped
      · exact fun failed => absurd rfl failed.1

theorem Sound.finish (sound : Sound client process run) (idle : run.reading = none) (finishing : Finishing) :
    Sound client process (run.step (.finish true finishing)) := by
  have finishes := @finishNdrRecord_cases run.transport finishing
  rw [Run.step, idle]
  dsimp only [Option.isSome_none]
  change Sound client process
    { transport := (run.transport.finishNdrRecord finishing).2.2
      log := ⟨.finish true, { status := (run.transport.finishNdrRecord finishing).1 }, false,
        (run.transport.finishNdrRecord finishing).2.1,
        (run.transport.finishNdrRecord finishing).2.2.received,
        (run.transport.finishNdrRecord finishing).2.2.opened⟩ :: run.log }
  generalize run.transport.finishNdrRecord finishing = result at finishes
  cases finishes with
  | dead stopped => exact sound.fails (fails_dead stopped) rfl
  | fails fails => exact sound.fails fails rfl
  | finishes finishable =>
      have living := finishable.living
      refine sound.append ?_ sound.marked.finish (fun data => absurd rfl data) ?_ ?_ nofun ⟨rfl, rfl⟩
      · exact fun _ => (sound.good living).finish finishable rfl
      · exact fun stopped => nomatch living.symm.trans stopped
      · exact fun failed => absurd rfl failed.1

inductive Starts (t : State) : (Reply ⊕ ReadCall) × State → Prop
  | fails {status : Status} {after : State} (fails : Fails t status after) :
      Starts t (.inl { status := status }, after)
  | nothing (living : t.stopped = false) : Starts t (.inl { status := .ok }, t)
  | waits {call : ReadCall} (living : t.stopped = false) (phase : t.phaseOpen = true)
      (size : call.total = span call.iovs) : Starts t (.inr call, t)

theorem startRead_cases {t : State} (iovs : Option (List Iovec)) (fds : Option Nat) :
    Starts t (t.startRead iovs fds) := by
  unfold State.startRead
  split
  · exact .fails (fails_dead ‹_›)
  · rename_i living
    rw [Bool.not_eq_true] at living
    split
    · rename_i vectors total size
      split
      · exact .fails (fail_fails (Nat.le_refl _) (Nat.le_refl _) ⟨rfl, rfl⟩ _)
      · rename_i phase
        split
        · exact .nothing living
        · refine .waits living ?_ (iovSize_sum size)
          simpa using phase
    · exact .fails (fail_fails (Nat.le_refl _) (Nat.le_refl _) ⟨rfl, rfl⟩ _)

theorem Sound.read (sound : Sound client process run) (idle : run.reading = none) (iovs : Option (List Iovec))
    (fds : Option Nat) : Sound client process (run.step (.read iovs fds)) := by
  have starts := @startRead_cases run.transport iovs fds
  rw [Run.step, idle]
  dsimp only [Option.isSome_none]
  generalize run.transport.startRead iovs fds = result at starts
  cases starts with
  | fails fails => exact sound.fails fails rfl
  | nothing living =>
      refine sound.note rfl rfl rfl rfl ?_ ?_ (.inl rfl)
      · exact fun stopped => nomatch living.symm.trans stopped
      · exact fun failed => absurd rfl failed.1
  | waits living phase size =>
      refine ⟨sound.owner, sound.good, sound.marked, sound.paired, sound.stops, sound.halted, ?_⟩
      intro call same
      cases same
      exact ⟨size, fun _ => phase⟩

inductive Rounds (t : State) (total : Nat) : Option Reply × State → Prop
  | fails {status : Status} {after : State} (fails : Fails t status after) :
      Rounds t total (some { status := status }, after)
  | waits (living : t.stopped = false) : Rounds t total (none, t)
  | delivers {before : State} {packet : Packet} (living : t.stopped = false)
      (comes : before = t ∨ (t.packet = none ∧ ∃ payload handles, before = t.load payload handles ∧
        (t.phaseOpen = true → shapeFits t.phase payload.length handles.length = true)))
      (has : before.packet = some packet) (fits : before.readBytes + total ≤ packet.payload.length) :
      Rounds t total
        (some { status := .ok
                data := (packet.payload.drop before.readBytes).take total
                handles := if before.descriptorsDone then [] else packet.handles },
          before.readOn packet total)

theorem readRound_cases {t : State} {log : List Entry} (good : t.stopped = false → Good t log)
    (phase : t.stopped = false → t.phaseOpen = true) {call : ReadCall}
    (size : call.total = span call.iovs) (round : Round) :
    Rounds t call.total (t.readRound call round) := by
  unfold State.readRound
  split
  · exact .fails (fail_fails (Nat.le_refl _) (Nat.le_refl _) ⟨rfl, rfl⟩ _)
  · have loads := @loadPacket_cases t round.receive
    generalize t.loadPacket round.receive = result at loads
    cases loads with
    | dead stopped => exact .fails (fails_dead stopped)
    | nothing empty living =>
        dsimp only
        rw [living, if_neg Bool.false_ne_true]
        split
        · exact .waits living
        · exact .fails (fail_fails (Nat.le_refl _) (Nat.le_refl _) ⟨rfl, rfl⟩ _)
    | fails fails =>
        rename_i status after
        cases status with
        | ok => exact absurd rfl fails.status
        | wouldBlock =>
            -- `loadPacket` has stopped the transport, and the pause notices.
            dsimp only
            rw [fails.stopped]
            exact .fails (fail_fails fails.received fails.opened fails.owner _)
        | _ => exact .fails fails
    | ready has living =>
        rename_i packet
        dsimp only
        rw [has]
        have delivers := deliver_cases (good living) (phase living) has size round
        dsimp only
        generalize t.deliver packet call round = result at delivers
        cases delivers with
        | fails fails => exact .fails fails
        | delivers fits => exact .delivers living (.inl rfl) has fits
    | loads payload handles empty living shape =>
        have loaded := (good living).load empty shape
        have delivers := @deliver_cases (t.load payload handles) log _ loaded (phase living) rfl call size round
        dsimp only
        rw [show (t.load payload handles).packet = some _ from rfl]
        dsimp only
        generalize (t.load payload handles).deliver _ call round = result at delivers
        cases delivers with
        | fails fails =>
            exact .fails ⟨fails.status, fails.stopped, Nat.le_of_succ_le fails.received, fails.opened,
              fails.owner⟩
        | delivers fits =>
            exact .delivers living (.inr ⟨empty, payload, handles, rfl, shape⟩) rfl fits

theorem Sound.round (sound : Sound client process run) (round : Round) : Sound client process (run.step (.round round)) := by
  cases here : run.reading with
  | none =>
      rw [Run.step, here]
      exact sound
  | some call =>
      obtain ⟨size, phase⟩ := sound.reading call here
      have rounds := readRound_cases sound.good phase size round
      rw [Run.step, here]
      dsimp only
      generalize run.transport.readRound call round = result at rounds
      cases rounds with
      | fails fails => exact sound.fails fails rfl
      | waits living =>
          refine ⟨sound.owner, sound.good, sound.marked, sound.paired, sound.stops, sound.halted, ?_⟩
          intro other same
          exact sound.reading other (here.symm ▸ same)
      | delivers living comes has fits =>
          rename_i before packet
          have ready : before.stopped = false ∧ before.phaseOpen = true ∧ Good before run.log ∧
              Marked before run.log ∧
              (before.client = run.transport.client ∧ before.process = run.transport.process) := by
            obtain rfl | ⟨empty, payload, handles, rfl, shape⟩ := comes
            · exact ⟨living, phase living, sound.good living, sound.marked, rfl, rfl⟩
            · exact ⟨living, phase living, (sound.good living).load empty shape,
                sound.marked.load living empty, rfl, rfl⟩
          obtain ⟨still, opened, good, marked, owner⟩ := ready
          refine sound.append ?_ (marked.read still has) ?_ ?_ ?_ nofun owner
          · exact fun _ => good.read opened has fits rfl rfl rfl rfl
          · exact fun _ => ⟨⟨rfl, rfl⟩, still, opened, rfl⟩
          · exact fun stopped => nomatch living.symm.trans stopped
          · exact fun failed => absurd rfl failed.1

theorem Sound.shutdown (sound : Sound client process run) (status : Status) : Sound client process (run.step (.shutdown status)) := by
  refine sound.append nofun ?_ (fun data => absurd rfl data) ?_ (fun _ => rfl) ?_ ⟨rfl, rfl⟩
  · exact sound.marked.stop (Nat.le_refl _) (Nat.le_refl _) rfl
  · exact fun _ => ⟨rfl, fun other => absurd rfl other, rfl, rfl, rfl⟩
  · intro call here
    exact ⟨(sound.reading call here).1, nofun⟩

/-- Every move keeps it. -/
theorem Sound.step (sound : Sound client process run) (move : Move) : Sound client process (run.step move) := by
  have busy {call : ReadCall} (here : run.reading = some call) : run.reading.isSome = true := by
    rw [here]
    rfl
  cases move with
  | shutdown status => exact sound.shutdown status
  | poll receive =>
      cases here : run.reading with
      | none => exact sound.poll here receive
      | some call =>
          rw [Run.step, if_pos (busy here)]
          exact sound.refuses _
  | begin phase =>
      cases here : run.reading with
      | none => exact sound.begin here phase
      | some call =>
          rw [Run.step, if_pos (busy here)]
          exact sound.refuses _
  | finish proof finishing =>
      cases proof with
      | false =>
          refine sound.note rfl rfl rfl rfl ?_ ?_ (.inr rfl)
          · exact fun _ => ⟨fun _ => nofun, rfl, rfl, rfl⟩
          · exact fun failed => absurd rfl failed.2.2.1
      | true =>
          cases here : run.reading with
          | none => exact sound.finish here finishing
          | some call =>
              rw [Run.step, if_pos (busy here)]
              exact sound.refuses _
  | read iovs fds =>
      cases here : run.reading with
      | none => exact sound.read here iovs fds
      | some call =>
          rw [Run.step, if_pos (busy here)]
          exact sound.refuses _
  | round round => exact sound.round round

end Runs

variable {client : Bool} {process : Nat}

theorem play_sound (moves : List Move) : Sound client process (play client process moves) :=
  Machine.play_keeps (fun _ move sound => sound.step move) moves _ sound_start

/-- A finish that succeeds finds a record that was read whole under its phase. -/
theorem finish_finds {client : Bool} {process : Nat} {run : Run} (sound : Sound client process run)
    {finishing : Finishing} (ok : (run.transport.finishNdrRecord finishing).1 = .ok) :
    ∃ packet phase, run.transport.packet = some packet ∧ announced run.log = some phase ∧
      packet.sequence.toNat = run.log.countP Entry.finishes + 1 ∧ bytes run.log = packet.payload ∧
      given run.log = packet.handles ∧
      shapeFits phase packet.payload.length packet.handles.length = true ∧
      (phase = .command → bodySize packet.payload = packet.payload.length - wireHeaderSize) ∧
      (client = false → (run.transport.finishNdrRecord finishing).2.1 = some process) := by
  have finishes := @finishNdrRecord_cases run.transport finishing
  generalize run.transport.finishNdrRecord finishing = result at finishes ok
  cases finishes with
  | dead stopped => cases ok
  | fails fails => exact absurd ok fails.status
  | finishes finishable =>
      rename_i packet proof
      obtain ⟨living, has, phaseOpen, read, done, body, proof, _⟩ := finishable
      have good := sound.good living
      have loaded := good.loaded packet has
      have whole : packet.payload.take run.transport.readBytes = packet.payload := by
        rw [read, List.take_length]
      refine ⟨packet, run.transport.phase, has, good.announced phaseOpen, ?_, ?_, ?_,
        loaded.shape phaseOpen, ?_, ?_⟩
      · rw [loaded.sequence]
        exact good.count
      · rw [good.bytes phaseOpen, payload_some has, whole]
      · rw [good.given phaseOpen, done, handles_some has]
        rfl
      · intro command
        have long : wireHeaderSize ≤ packet.payload.length := by
          have shape := loaded.shape phaseOpen
          rw [command] at shape
          exact of_decide_eq_true shape
        rw [← body command, good.header phaseOpen, payload_some has, whole]
        exact (bodySize_headerOf long).symm
      · intro server
        rw [← sound.owner.2]
        exact proof (sound.owner.1.trans server)

/-- In every run. -/
theorem records_finished_whole_and_failures_final (client : Bool) (process : Nat) (moves : List Move) :
    (∀ finishing, ((play client process moves).transport.finishNdrRecord finishing).1 = .ok →
      ∃ packet phase, (play client process moves).transport.packet = some packet ∧
        announced (play client process moves).log = some phase ∧
        packet.sequence.toNat = (play client process moves).log.countP Entry.finishes + 1 ∧
        bytes (play client process moves).log = packet.payload ∧
        given (play client process moves).log = packet.handles ∧
        shapeFits phase packet.payload.length packet.handles.length = true ∧
        (phase = .command → bodySize packet.payload = packet.payload.length - wireHeaderSize) ∧
        (client = false →
          ((play client process moves).transport.finishNdrRecord finishing).2.1 = some process)) ∧
      ((play client process moves).log.Pairwise fun newer older =>
        newer.reply.data ≠ [] → older.reply.data ≠ [] →
          (newer.received = older.received ↔ newer.opened = older.opened)) ∧
      (∀ e ∈ (play client process moves).log, e.Failed →
        (play client process moves).transport.stopped = true) ∧
      ((play client process moves).log.Pairwise fun newer older => older.Failed → newer.Silent) := by
  have sound := @play_sound client process moves
  exact ⟨fun _ ok => finish_finds sound ok, sound.paired, sound.stops, sound.halted⟩

def samplePayload : List UInt8 := [0, 0, 0, 0, 4, 0, 0, 0, 0, 0, 0, 0, 0, 0, 0, 0, 1, 2, 3, 4]

def sampleRound : Round where
  triggered := false
  receive := ⟨none, .ok (.serverInbound, 1, samplePayload, [7, 8])⟩
  pause := .ok
  allocates := true
  take _ := ⟨none, none⟩

def sampleMoves : List Move :=
  [.begin (some .command), .read (some [⟨true, 16⟩]) (some 0), .round sampleRound,
    .read (some [⟨true, 1⟩, ⟨true, 3⟩]) none, .round sampleRound]

def sampleFinishing : Finishing := ⟨⟨none, .ok 5, true⟩, none, none⟩

theorem sample_record_finished :
    ((play false 5 sampleMoves).transport.finishNdrRecord sampleFinishing).1 = .ok ∧
      ∃ packet, (play false 5 sampleMoves).transport.packet = some packet ∧
        bytes (play false 5 sampleMoves).log = packet.payload ∧
        given (play false 5 sampleMoves).log = packet.handles := by
  have finishes : ((play false 5 sampleMoves).transport.finishNdrRecord sampleFinishing).1 = .ok := by
    decide +kernel
  obtain ⟨packet, _, has, _, _, whole, handles, _⟩ :=
    (records_finished_whole_and_failures_final false 5 sampleMoves).1 sampleFinishing finishes
  exact ⟨finishes, packet, has, whole, handles⟩

end Bscp.LocalRpc.Transport
