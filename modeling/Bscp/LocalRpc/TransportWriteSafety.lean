import Bscp.LocalRpc.TransportWrite

/-!
What the writer's calls have to do with what the peer obtains: the packets of the calls that
returned OK, in their order, and at most one more, of a call that failed and was the last to
offer anything.
-/

namespace Bscp.LocalRpc.Writing

open PacketCodec (Handle Kernel Encoded encodeWindowsNdrPacket decodeWindowsNdrPacket)

/-! ### The writer -/

namespace Writer

variable {w : Writer} {tail : List Encoded}

def made (w : Writer) : List Encoded := w.returned.filterMap Return.packet

theorem sent_append (w : Writer) (result : Return) :
    sent { w with returned := w.returned ++ [result] } =
      w.sent ++ (if result.status = .ok then result.packet else none).toList := by
  unfold sent
  rw [List.filterMap_append]
  cases kept : (if result.status = .ok then result.packet else none) <;> simp [kept]

theorem made_append (w : Writer) (result : Return) :
    made { w with returned := w.returned ++ [result] } = w.made ++ result.packet.toList := by
  unfold made
  rw [List.filterMap_append]
  cases found : result.packet <;> simp [found]

def Fate (w : Writer) (tail : List Encoded) (result : Return) (packet : Encoded) : Prop :=
  (tail = [] ∧ (w.flight = none ∨
      result.lost = true ∧ ∃ sequence, w.flight = some ⟨packet, sequence⟩)) ∨
    (tail = [packet] ∧ w.flight = none ∧ (result.accepted = true ∨ result.lost = true))

structure Last (w : Writer) (tail : List Encoded) : Prop where
  stopped : w.stopped = true
  idle : w.phase = .idle
  failed : ∃ before result after packet, w.returned = before ++ result :: after ∧
    result.packet = some packet ∧ result.status ≠ .ok ∧
    (∀ later ∈ after, later.packet = none ∧ later.status ≠ .ok) ∧
    before.filterMap Return.packet = w.sent ∧
    w.Fate tail result packet

/-- The stages of the writer, and the packets that were put in beyond those of the calls that
returned OK. -/
inductive Stage (w : Writer) : List Encoded → Prop
  | free (clean : w.made = w.sent) (none_offered : w.flight = none)
      (outside : w.phase = .idle ∨ ∃ write packet, w.phase = .looping write packet ∨
        w.phase = .pausing write packet) : Stage w []
  | offered {write : Write} {packet : Encoded} (clean : w.made = w.sent)
      (here : w.phase = .calling write packet) (offer : w.flight = some ⟨packet, w.nextWrite⟩) :
      Stage w []
  | landed {write : Write} {packet : Encoded} (clean : w.made = w.sent)
      (here : w.phase = .calling write packet ∨ w.phase = .accepted write packet)
      (none_offered : w.flight = none) : Stage w [packet]
  | ended {tail : List Encoded} (last : w.Last tail) : Stage w tail

/-- A call that returns with a packet, and not with OK, is the last. -/
theorem give_last {result : Return} {packet : Encoded} (stopped : w.stopped = true)
    (clean : w.made = w.sent) (holds : result.packet = some packet) (refused : result.status ≠ .ok)
    (fate : w.Fate tail result packet) : Stage (w.give result) tail := by
  refine .ended ⟨stopped, rfl, w.returned, result, [], packet, rfl, holds, refused, nofun, ?_, fate⟩
  refine clean.trans (Eq.trans ?_ (sent_append w result).symm)
  rw [if_neg refused]
  exact (List.append_nil _).symm

theorem fail_last {result : Return} {packet : Encoded} (clean : w.made = w.sent)
    (holds : result.packet = some packet) (fate : w.Fate tail result packet) :
    Stage (w.fail result) tail := by
  have refused : (if result.status = .ok then .unknownError else result.status) ≠
      Transport.Status.ok := by
    split
    · nofun
    · assumption
  exact @give_last w.shutdown tail { result with status := _ } packet rfl clean holds refused fate

/-- A return without a packet changes nothing, if it is not too late for it. -/
theorem Stage.append {result : Return} (stage : Stage w tail) (holds : result.packet = none)
    (refused : w.stopped = true → result.status ≠ .ok) :
    Stage { w with returned := w.returned ++ [result] } tail := by
  have sent_same : sent { w with returned := w.returned ++ [result] } = w.sent := by
    rw [sent_append, holds]
    split <;> exact List.append_nil _
  have made_same : made { w with returned := w.returned ++ [result] } = w.made := by
    rw [made_append, holds]
    exact List.append_nil _
  cases stage with
  | free clean flight outside =>
      exact .free (by rw [sent_same, made_same, clean]) flight outside
  | offered clean here offer =>
      exact .offered (by rw [sent_same, made_same, clean]) here offer
  | landed clean here flight =>
      exact .landed (by rw [sent_same, made_same, clean]) here flight
  | ended last =>
      obtain ⟨before, failed, after, packet, returned, has, status, later, earlier, fate⟩ :=
        last.failed
      refine .ended ⟨last.stopped, last.idle, before, failed, after ++ [result], packet, ?_, has,
        status, ?_, by rw [sent_same, earlier], fate⟩
      · change w.returned ++ [result] = _
        rw [returned, List.append_assoc]
        rfl
      · intro other member
        rcases List.mem_append.1 member with old | new
        · exact later other old
        · rw [List.mem_singleton.1 new]
          exact ⟨holds, refused last.stopped⟩

/-- A call that is idle may be stopped and given its return. -/
theorem Stage.stop (stage : Stage w tail) : Stage w.shutdown tail := by
  cases stage with
  | free clean flight outside => exact .free clean flight outside
  | offered clean here offer => exact .offered clean here offer
  | landed clean here flight => exact .landed clean here flight
  | ended last =>
      exact .ended ⟨rfl, last.idle, last.failed⟩

/-- A return without a packet, of the call that was idle. -/
theorem Stage.give {result : Return} (stage : Stage w tail) (here : w.phase = .idle)
    (holds : result.packet = none) (refused : w.stopped = true → result.status ≠ .ok) :
    Stage (w.give result) tail := by
  have same : w.give result = { w with returned := w.returned ++ [result] } := by
    rw [Writer.give, ← here]
  rw [same]
  exact stage.append holds refused

theorem Stage.call (stage : Stage w tail) (write : Write) (preparation : Preparation) :
    Stage (w.call write preparation) tail := by
  unfold Writer.call
  split
  · exact stage.append rfl fun _ => nofun
  · rename_i here
    rw [not_not] at here
    split
    · exact stage.give here rfl fun _ => nofun
    · rename_i running
      split
      · exact stage.give here rfl fun stopped => absurd stopped running
      · refine stage.stop.give here rfl fun _ => ?_
        dsimp only
        split
        · nofun
        · assumption
      · rename_i packet _
        -- only a writer that is free is idle and runs
        cases stage with
        | free clean flight outside => exact .free clean flight (.inr ⟨write, packet, .inl rfl⟩)
        | offered clean calling offer => exact nomatch here.symm.trans calling
        | landed clean calling flight => exact nomatch calling.imp here.symm.trans here.symm.trans
        | ended last => exact absurd last.stopped running

/-- A refusal: the packet is kept for another round, or the call fails. -/
theorem refuse_stage {write : Write} {packet : Encoded} {failure : Failure}
    (clean : w.made = w.sent) (flight : w.flight = none) :
    Stage (w.refuse write packet failure) [] := by
  unfold refuse
  split
  · exact .free clean flight (.inr ⟨write, packet, .inr rfl⟩)
  · exact fail_last clean rfl (.inl ⟨rfl, .inl flight⟩)

theorem Stage.waiting {write : Write} {packet : Encoded} (stage : Stage w tail)
    (here : w.phase = .looping write packet ∨ w.phase = .pausing write packet) :
    w.made = w.sent ∧ w.flight = none ∧ tail = [] := by
  cases stage with
  | free clean flight outside => exact ⟨clean, flight, rfl⟩
  | offered clean calling offer =>
      rw [calling] at here
      rcases here with there | there <;> cases there
  | landed clean calling flight =>
      rcases calling with same | same <;> rw [same] at here <;>
        rcases here with there | there <;> cases there
  | ended last =>
      rw [last.idle] at here
      rcases here with there | there <;> cases there

theorem Stage.calling {write : Write} {packet : Encoded} (stage : Stage w tail)
    (here : w.phase = .calling write packet) :
    w.made = w.sent ∧ ((tail = [] ∧ w.flight = some ⟨packet, w.nextWrite⟩) ∨
      (tail = [packet] ∧ w.flight = none)) := by
  cases stage with
  | free clean flight outside =>
      rw [here] at outside
      obtain there | ⟨_, _, there | there⟩ := outside <;> cases there
  | offered clean calling offer =>
      rw [here] at calling
      cases calling
      exact ⟨clean, .inl ⟨rfl, offer⟩⟩
  | landed clean calling flight =>
      rw [here] at calling
      rcases calling with there | there
      · cases there
        exact ⟨clean, .inr ⟨rfl, flight⟩⟩
      · cases there
  | ended last => exact nomatch here.symm.trans last.idle

theorem Stage.accepted {write : Write} {packet : Encoded} (stage : Stage w tail)
    (here : w.phase = .accepted write packet) :
    w.made = w.sent ∧ w.flight = none ∧ tail = [packet] := by
  cases stage with
  | free clean flight outside =>
      rw [here] at outside
      obtain there | ⟨_, _, there | there⟩ := outside <;> cases there
  | offered clean calling offer => exact nomatch here.symm.trans calling
  | landed clean calling flight =>
      rw [here] at calling
      rcases calling with there | there
      · cases there
      · cases there
        exact ⟨clean, flight, rfl⟩
  | ended last => exact nomatch here.symm.trans last.idle

theorem Stage.round (stage : Stage w tail) (round : Round) : Stage (w.round round) tail := by
  unfold Writer.round
  split
  · rename_i write packet here
    obtain ⟨clean, flight, rfl⟩ := stage.waiting (.inl here)
    split
    · rename_i stopped
      exact give_last stopped clean rfl nofun (.inl ⟨rfl, .inl flight⟩)
    · split
      · exact fail_last clean rfl (.inl ⟨rfl, .inl flight⟩)
      · split
        · exact refuse_stage clean flight
        · split
          · exact refuse_stage clean flight
          · exact .offered clean rfl rfl
  · exact stage

theorem Stage.answer (stage : Stage w tail) (answer : Answer) : Stage (w.answer answer) tail := by
  unfold Writer.answer
  split
  · -- a success, and the packet was put in
    rename_i write packet here
    obtain ⟨clean, ⟨rfl, offer⟩ | ⟨rfl, flight⟩⟩ := stage.calling here
    · rw [if_neg (by rw [offer]; nofun)]
      exact stage
    · rw [if_pos (by rw [flight]; rfl)]
      exact .landed clean (.inr rfl) flight
  · -- a refusal, and it was not
    rename_i write packet failure here
    obtain ⟨clean, ⟨rfl, offer⟩ | ⟨rfl, flight⟩⟩ := stage.calling here
    · rw [if_pos (by rw [offer]; rfl)]
      exact @refuse_stage { w with flight := none } write packet failure clean rfl
    · rw [if_neg (by rw [flight]; nofun)]
      exact stage
  · -- no answer, and it may have been so or may come to be
    rename_i write packet here
    split
    · obtain ⟨clean, ⟨rfl, offer⟩ | ⟨rfl, flight⟩⟩ := stage.calling here
      · exact fail_last clean rfl (.inl ⟨rfl, .inr ⟨rfl, _, offer⟩⟩)
      · exact fail_last clean rfl (.inr ⟨rfl, flight, .inr rfl⟩)
    · exact stage
  · exact stage

theorem Stage.paused (stage : Stage w tail) (status : Transport.Status) :
    Stage (w.paused status) tail := by
  unfold Writer.paused
  split
  · rename_i write packet here
    obtain ⟨clean, flight, rfl⟩ := stage.waiting (.inr here)
    split
    · exact .free clean flight (.inr ⟨write, packet, .inl rfl⟩)
    · exact fail_last clean rfl (.inl ⟨rfl, .inl flight⟩)
  · exact stage

/-! What the returns say of the packets that were sent. -/

structure Keeps (w after : Writer) : Prop where
  sent : after.sent = w.sent
  next : after.nextWrite = w.nextWrite
  client : after.client = w.client

theorem Keeps.settled {after : Writer} (keeps : w.Keeps after)
    (counted : w.nextWrite.toNat = w.sent.length + 1) :
    after.sent ++ tail = w.sent ++ tail ∧ after.nextWrite.toNat = after.sent.length + 1 := by
  rw [keeps.sent, keeps.next]
  exact ⟨rfl, counted⟩

theorem keeps_give {result : Return} (other : result.status ≠ .ok ∨ result.packet = none) :
    w.Keeps (w.give result) := by
  refine ⟨(sent_append w result).trans ?_, rfl, rfl⟩
  rcases other with refused | empty
  · rw [if_neg refused]
    exact List.append_nil _
  · rw [empty, ite_self]
    exact List.append_nil _

theorem keeps_fail {result : Return} : w.Keeps (w.fail result) := by
  have refused : (if result.status = .ok then .unknownError else result.status) ≠
      Transport.Status.ok := by
    split
    · nofun
    · assumption
  obtain ⟨sent, next, client⟩ := @keeps_give w.shutdown { result with status := _ } (.inl refused)
  exact ⟨sent, next, client⟩

theorem keeps_refuse {write : Write} {packet : Encoded} {failure : Failure} :
    w.Keeps (w.refuse write packet failure) := by
  unfold refuse
  split
  · exact ⟨rfl, rfl, rfl⟩
  · exact keeps_fail

theorem keeps_call (write : Write) (preparation : Preparation) :
    w.Keeps (w.call write preparation) := by
  unfold Writer.call
  split
  · exact ⟨(sent_append w _).trans (List.append_nil _), rfl, rfl⟩
  · split
    · exact keeps_give (.inr rfl)
    · split
      · exact keeps_give (.inr rfl)
      · exact keeps_fail
      · exact ⟨rfl, rfl, rfl⟩

theorem keeps_round (round : Round) : w.Keeps (w.round round) := by
  unfold Writer.round
  split
  · split
    · exact keeps_give (.inl nofun)
    · split
      · exact keeps_fail
      · split
        · exact keeps_refuse
        · split
          · exact keeps_refuse
          · exact ⟨rfl, rfl, rfl⟩
  · exact ⟨rfl, rfl, rfl⟩

theorem keeps_answer (answer : Answer) : w.Keeps (w.answer answer) := by
  unfold Writer.answer
  split
  · split <;> exact ⟨rfl, rfl, rfl⟩
  · split
    · obtain ⟨sent, next, client⟩ := @keeps_refuse { w with flight := none } _ _ _
      exact ⟨sent, next, client⟩
    · exact ⟨rfl, rfl, rfl⟩
  · split
    · exact keeps_fail
    · exact ⟨rfl, rfl, rfl⟩
  · exact ⟨rfl, rfl, rfl⟩

theorem keeps_paused (status : Transport.Status) : w.Keeps (w.paused status) := by
  unfold Writer.paused
  split
  · split
    · exact ⟨rfl, rfl, rfl⟩
    · exact keeps_fail
  · exact ⟨rfl, rfl, rfl⟩

/-- A call that returns OK takes its packet out of the tail, and the number goes up by one. -/
theorem Stage.finish (stage : Stage w tail) (closes : Bool)
    (counted : w.nextWrite.toNat = w.sent.length + 1) :
    ∃ rest, Stage (w.finish closes) rest ∧ (w.finish closes).sent ++ rest = w.sent ++ tail ∧
      (w.finish closes).nextWrite.toNat = (w.finish closes).sent.length + 1 := by
  unfold Writer.finish
  split
  · rename_i write packet here
    obtain ⟨clean, flight, rfl⟩ := stage.accepted here
    split
    · refine ⟨[packet], fail_last clean rfl (.inr ⟨rfl, flight, .inl rfl⟩), ?_⟩
      exact keeps_fail.settled counted
    · split
      · refine ⟨[packet], fail_last clean rfl (.inr ⟨rfl, flight, .inl rfl⟩), ?_⟩
        exact keeps_fail.settled counted
      · rename_i below
        have grown : (Writer.give { w with nextWrite := w.nextWrite + 1 } ⟨write, .ok,
            write.vectors.map fun vectors => vectors.map Vector.advanced, some packet, true,
            false⟩).sent = w.sent ++ [packet] :=
          sent_append w _
        refine ⟨[], .free ?_ flight (.inl rfl), ?_, ?_⟩
        · exact (made_append w _).trans ((congrArg (· ++ [packet]) clean).trans grown.symm)
        · rw [List.append_nil]
          exact grown
        · have small : w.nextWrite.toNat + 1 < 2 ^ 64 := by
            have bound := w.nextWrite.toNat_lt
            have different : w.nextWrite.toNat ≠ 2 ^ 64 - 1 := by
              intro same
              apply below
              rw [← same, UInt64.ofNat_toNat]
            omega
          rw [grown, List.length_append, List.length_singleton]
          change (w.nextWrite + 1).toNat = _
          rw [UInt64.toNat_add, UInt64.toNat_one, Nat.mod_eq_of_lt small, counted]
  · exact ⟨tail, stage, rfl, counted⟩

/-- Whatever the writer does, the packets that were put in stay accounted for. -/
theorem Stage.step (stage : Stage w tail) (event : Event)
    (counted : w.nextWrite.toNat = w.sent.length + 1) :
    ∃ rest, Stage (w.step event) rest ∧ (w.step event).sent ++ rest = w.sent ++ tail ∧
      (w.step event).nextWrite.toNat = (w.step event).sent.length + 1 := by
  cases event with
  | call write preparation =>
      exact ⟨tail, stage.call write preparation, (keeps_call write preparation).settled counted⟩
  | round round => exact ⟨tail, stage.round round, (keeps_round round).settled counted⟩
  | answer answer => exact ⟨tail, stage.answer answer, (keeps_answer answer).settled counted⟩
  | paused status => exact ⟨tail, stage.paused status, (keeps_paused status).settled counted⟩
  | finish closes => exact stage.finish closes counted
  | shutdown => exact ⟨tail, stage.stop, rfl, counted⟩

/-- A packet that is put in was on offer. -/
theorem Stage.put (stage : Stage w tail) {flight : Flight} (offer : w.flight = some flight) :
    tail = [] ∧ Stage { w with flight := none } [flight.packet] := by
  cases stage with
  | free clean none_offered outside => exact nomatch offer.symm.trans none_offered
  | offered clean here mine =>
      rw [mine] at offer
      cases offer
      exact ⟨rfl, .landed clean (.inl here) rfl⟩
  | landed clean here none_offered => exact nomatch offer.symm.trans none_offered
  | ended last =>
      obtain ⟨before, result, after, packet, returned, has, status, later, earlier, fate⟩ :=
        last.failed
      rcases fate with ⟨rfl, gone | ⟨lost, sequence, mine⟩⟩ | ⟨-, gone, -⟩
      · exact nomatch offer.symm.trans gone
      · rw [mine] at offer
        cases offer
        exact ⟨rfl, .ended ⟨last.stopped, last.idle, before, result, after, packet, returned, has,
          status, later, earlier, .inr ⟨rfl, rfl, .inr lost⟩⟩⟩
      · exact nomatch offer.symm.trans gone

theorem step_client (w : Writer) (event : Event) : (w.step event).client = w.client := by
  cases event with
  | call write preparation => exact (keeps_call write preparation).client
  | round round => exact (keeps_round round).client
  | answer answer => exact (keeps_answer answer).client
  | paused status => exact (keeps_paused status).client
  | finish closes =>
      simp only [step, Writer.finish]
      split
      · split
        · rfl
        · split <;> rfl
      · rfl
  | shutdown => rfl

end Writer

/-! ### The packets and the vectors -/

def Encodes (write : Write) (packet : Encoded) : Prop :=
  ∃ preparation, prepare write preparation = .sends packet

theorem prepare_sends {write : Write} {preparation : Preparation} {packet : Encoded}
    (sends : prepare write preparation = .sends packet) :
    (∃ size, write.size = some (size + 1)) ∧
      ∃ handles, write.descriptors.mapM preparation.toHandle = .ok handles ∧
        encodeWindowsNdrPacket preparation.kernel preparation.memory write.bytes handles =
          (none, packet) := by
  unfold prepare at sends
  split at sends
  · cases sends
  · split at sends <;> cases sends
  · rename_i size sized
    refine ⟨⟨size, sized⟩, ?_⟩
    split at sends
    · cases sends
    · split at sends
      · cases sends
      · split at sends
        · cases sends
        · split at sends
          · cases sends
          · rename_i handles mapped
            split at sends
            · cases sends
            · rename_i encoded
              cases sends
              exact ⟨handles, mapped, encoded⟩

/-- A packet that a call sends decodes to the bytes of its vectors and to its handles. -/
theorem Encodes.decodes {write : Write} {packet : Encoded} (encodes : Encodes write packet) :
    ∃ (toHandle : Nat → Except Transport.Status Handle) (handles : List Handle),
      write.descriptors.mapM toHandle = .ok handles ∧
      decodeWindowsNdrPacket true packet.view = (none, ⟨write.bytes, handles⟩) := by
  obtain ⟨preparation, sends⟩ := encodes
  obtain ⟨-, handles, mapped, encoded⟩ := prepare_sends sends
  have packed := PacketCodec.encode_packed encoded
  exact ⟨preparation.toHandle, handles, mapped,
    packed.decode_view (PacketCodec.encode_present encoded) true⟩

theorem Encodes.nonempty {write : Write} {packet : Encoded} (encodes : Encodes write packet) :
    write.size ≠ some 0 := by
  obtain ⟨preparation, sends⟩ := encodes
  obtain ⟨⟨size, sized⟩, -⟩ := prepare_sends sends
  rw [sized]
  nofun

/-- Vectors that hold nothing are at their ends. -/
theorem prepare_nothing {write : Write} {preparation : Preparation}
    (nothing : prepare write preparation = .nothing) :
    write.vectors.map (fun vectors => vectors.map Vector.advanced) = write.vectors := by
  have empty : write.size = some 0 := by
    unfold prepare at nothing
    split at nothing
    · cases nothing
    · assumption
    · repeat' split at nothing
      all_goals cases nothing
  unfold Write.size at empty
  cases found : write.vectors with
  | none => rfl
  | some vectors =>
      rw [found] at empty
      have total := Transport.iovSize_sum empty
      have each : ∀ vector ∈ vectors, vector.advanced = vector := by
        intro vector member
        have listed : vector.bytes.length ∈ (vectors.map Vector.iovec).map Transport.State.Iovec.len := by
          rw [List.map_map]
          exact List.mem_map.2 ⟨vector, member, rfl⟩
        have none_left := List.sum_eq_zero_iff_forall_eq_nat.1 total.symm _ listed
        obtain ⟨base, bytes⟩ := vector
        cases List.eq_nil_of_length_eq_zero none_left
        rfl
      exact congrArg some ((List.map_congr_left each).trans (List.map_id' _))

namespace Writer

variable {w : Writer}

structure Honest (result : Return) : Prop where
  advanced : result.status = .ok →
    result.vectors = result.write.vectors.map fun vectors => vectors.map Vector.advanced
  encoded : ∀ packet, result.packet = some packet → Encodes result.write packet

def held (w : Writer) : Option (Write × Encoded) :=
  match w.phase with
  | .idle => none
  | .looping write packet => some (write, packet)
  | .calling write packet => some (write, packet)
  | .pausing write packet => some (write, packet)
  | .accepted write packet => some (write, packet)

structure Faithful (w : Writer) : Prop where
  returns : ∀ result ∈ w.returned, Honest result
  holds : ∀ write packet, w.held = some (write, packet) → Encodes write packet

namespace Faithful

theorem append (faithful : Faithful w) {result : Return} (honest : Honest result) :
    ∀ other ∈ w.returned ++ [result], Honest other := by
  intro other member
  rcases List.mem_append.1 member with old | new
  · exact faithful.returns other old
  · rw [List.mem_singleton.1 new]
    exact honest

theorem give (faithful : Faithful w) {result : Return} (honest : Honest result) :
    Faithful (w.give result) := ⟨faithful.append honest, nofun⟩

theorem fail (faithful : Faithful w) {result : Return}
    (encoded : ∀ packet, result.packet = some packet → Encodes result.write packet) :
    Faithful (w.fail result) := by
  refine ⟨faithful.append ⟨fun done => ?_, encoded⟩, nofun⟩
  dsimp only at done
  split at done
  · cases done
  · contradiction

/-- A call that fails while it holds a packet. -/
theorem fail_held (faithful : Faithful w) {write : Write} {packet : Encoded}
    (here : w.held = some (write, packet)) {status : Transport.Status} {accepted lost : Bool} :
    Faithful (w.fail ⟨write, status, write.vectors, some packet, accepted, lost⟩) := by
  apply faithful.fail
  intro other same
  cases same
  exact faithful.holds write packet here

/-- The call goes on with its packet. -/
theorem moves (faithful : Faithful w) {after : Writer} (returned : after.returned = w.returned)
    (held : after.held = w.held) : Faithful after := by
  constructor
  · rw [returned]
    exact faithful.returns
  · rw [held]
    exact faithful.holds

theorem refuse (faithful : Faithful w) {write : Write} {packet : Encoded}
    (here : w.held = some (write, packet)) {failure : Failure} :
    Faithful (w.refuse write packet failure) := by
  unfold Writer.refuse
  split
  · exact faithful.moves rfl here.symm
  · exact faithful.fail_held here

theorem call (faithful : Faithful w) (write : Write) (preparation : Preparation) :
    Faithful (w.call write preparation) := by
  unfold Writer.call
  split
  · exact ⟨faithful.append ⟨nofun, nofun⟩, faithful.holds⟩
  · split
    · exact faithful.give ⟨nofun, nofun⟩
    · split
      · rename_i nothing
        exact faithful.give ⟨fun _ => (prepare_nothing nothing).symm, nofun⟩
      · exact faithful.fail nofun
      · rename_i packet sends
        refine ⟨faithful.returns, fun other made same => ?_⟩
        cases same
        exact ⟨preparation, sends⟩

theorem round (faithful : Faithful w) (round : Round) : Faithful (w.round round) := by
  unfold Writer.round
  split
  · rename_i write packet here
    have held : w.held = some (write, packet) := by rw [Writer.held, here]
    split
    · refine faithful.give ⟨nofun, fun other same => ?_⟩
      cases same
      exact faithful.holds write packet held
    · split
      · exact faithful.fail_held held
      · split
        · exact faithful.refuse held
        · split
          · exact faithful.refuse held
          · exact faithful.moves rfl held.symm
  · exact faithful

theorem answer (faithful : Faithful w) (answer : Answer) : Faithful (w.answer answer) := by
  unfold Writer.answer
  split
  · rename_i write packet here
    split
    · exact faithful.moves rfl (by rw [Writer.held, Writer.held, here])
    · exact faithful
  · rename_i write packet failure here
    split
    · have landed : Faithful { w with flight := none } := ⟨faithful.returns, faithful.holds⟩
      exact landed.refuse (by rw [Writer.held, here])
    · exact faithful
  · rename_i write packet here
    split
    · exact faithful.fail_held (by rw [Writer.held, here])
    · exact faithful
  · exact faithful

theorem paused (faithful : Faithful w) (status : Transport.Status) : Faithful (w.paused status) := by
  unfold Writer.paused
  split
  · rename_i write packet here
    split
    · exact faithful.moves rfl (by rw [Writer.held, Writer.held, here])
    · exact faithful.fail_held (by rw [Writer.held, here])
  · exact faithful

theorem finish (faithful : Faithful w) (closes : Bool) : Faithful (w.finish closes) := by
  unfold Writer.finish
  split
  · rename_i write packet here
    have held : w.held = some (write, packet) := by rw [Writer.held, here]
    split
    · exact faithful.fail_held held
    · split
      · exact faithful.fail_held held
      · refine ⟨faithful.append ⟨fun _ => rfl, fun other same => ?_⟩, nofun⟩
        cases same
        exact faithful.holds write packet held
  · exact faithful

theorem step (faithful : Faithful w) (event : Event) : Faithful (w.step event) := by
  cases event with
  | call write preparation => exact faithful.call write preparation
  | round round => exact faithful.round round
  | answer answer => exact faithful.answer answer
  | paused status => exact faithful.paused status
  | finish closes => exact faithful.finish closes
  | shutdown => exact ⟨faithful.returns, faithful.holds⟩

end Faithful

end Writer

/-! ### The writer and its channel -/

/-- How a step of the channel numbers the record that it makes. -/
theorem step_created {s after : State} (step : LocalRpc.Step s after) (direction : Direction) :
    s.created ≤ after.created ∧ (after.put direction = s.put direction ∨
      ∃ record, after.put direction = s.put direction ++ [record] ∧ record.number = s.created ∧
        after.created = s.created + 1) := by
  cases step with
  | putIn here puts =>
      rename_i thread holder call mine sequence
      refine ⟨Nat.le_succ _, ?_⟩
      by_cases hit : direction = mine
      · subst hit
        exact .inr ⟨_, Function.update_self .., rfl, rfl⟩
      · exact .inl (Function.update_of_ne hit ..)
  | makeBreaks here puts => exact ⟨Nat.le_succ _, .inl rfl⟩
  | _ => exact ⟨le_rfl, .inl rfl⟩

namespace Joint

structure Kept (client : Bool) (j : Joint) : Prop where
  sound : Sound j.channel
  side : j.writer.client = client
  numbers : ∀ record ∈ j.channel.put j.writer.direction, record.number < j.channel.created
  near : (j.channel.put j.writer.direction).length ≤
    (j.channel.taken j.writer.direction).length + 1
  counted : j.writer.nextWrite.toNat = j.writer.sent.length + 1
  faithful : j.writer.Faithful
  staged : ∃ tail, j.writer.Stage tail ∧
    (j.channel.put j.writer.direction).map (fun record => j.contents record.number) =
      j.writer.sent ++ tail

variable {client : Bool} {j : Joint}

theorem kept_start {generation : UInt64} : Kept client (start client generation) where
  sound := sound_start
  side := rfl
  numbers := nofun
  near := Nat.zero_le _
  counted := rfl
  faithful := ⟨nofun, nofun⟩
  staged := ⟨[], .free rfl rfl (.inl rfl), rfl⟩

/-- At most the last record that was put in is not yet taken, or never will be. -/
theorem near_step {s after : State} (sound : Sound s) (step : LocalRpc.Step s after)
    (direction : Direction) (near : (s.put direction).length ≤ (s.taken direction).length + 1) :
    (after.put direction).length ≤ (after.taken direction).length + 1 := by
  cases sound.served step direction with
  | untouched put next taken box =>
      rw [put, taken]
      exact near
  | puts thread record locked left associated living empty sequence box next put taken =>
      have order := (sound.mail direction).order living
      rw [empty, Option.toList_none, List.append_nil] at order
      rw [put, taken, order, List.length_append, List.length_singleton]
  | takes thread record locked left living found box next put taken =>
      rw [put, taken, List.length_append, List.length_singleton]
      omega

theorem Kept.channel (kept : Kept client j) {after : State} (step : LocalRpc.Step j.channel after)
    (same : after.put j.writer.direction = j.channel.put j.writer.direction) :
    Kept client { j with channel := after } where
  sound := kept.sound.step step
  side := kept.side
  numbers := by
    intro record member
    rw [same] at member
    exact (kept.numbers record member).trans_le (step_created step j.writer.direction).1
  near := near_step kept.sound step _ kept.near
  counted := kept.counted
  faithful := kept.faithful
  staged := by
    obtain ⟨tail, stage, wire⟩ := kept.staged
    refine ⟨tail, stage, ?_⟩
    rw [same]
    exact wire

theorem Kept.put (kept : Kept client j) {after : State} {record : Record} {flight : Flight}
    (step : LocalRpc.Step j.channel after)
    (more : after.put j.writer.direction = j.channel.put j.writer.direction ++ [record])
    (offered : j.writer.flight = some flight) :
    Kept client
      { channel := after
        writer := { j.writer with flight := none }
        contents := Function.update j.contents record.number flight.packet } := by
  -- the record is new
  obtain ⟨number, created⟩ : record.number = j.channel.created ∧
      after.created = j.channel.created + 1 := by
    obtain ⟨-, same | ⟨other, put, number, created⟩⟩ := step_created step j.writer.direction
    · have longer := congrArg List.length (same.symm.trans more)
      rw [List.length_append, List.length_singleton] at longer
      omega
    · cases List.append_cancel_left (put.symm.trans more)
      exact ⟨number, created⟩
  constructor
  case sound => exact kept.sound.step step
  case side => exact kept.side
  case numbers =>
      intro other member
      change other ∈ after.put j.writer.direction at member
      change other.number < after.created
      rw [more] at member
      rcases List.mem_append.1 member with old | new
      · have before := kept.numbers other old
        omega
      · rw [List.mem_singleton.1 new]
        omega
  case near => exact near_step kept.sound step _ kept.near
  case counted => exact kept.counted
  case faithful => exact ⟨kept.faithful.returns, kept.faithful.holds⟩
  case staged =>
      obtain ⟨tail, stage, wire⟩ := kept.staged
      obtain ⟨rfl, landed⟩ := stage.put offered
      refine ⟨_, landed, ?_⟩
      change (after.put j.writer.direction).map _ = j.writer.sent ++ [flight.packet]
      rw [List.append_nil] at wire
      rw [more, List.map_append, ← wire]
      congr 1
      · -- the earlier records keep what they were made of
        apply List.map_congr_left
        intro other member
        have before := kept.numbers other member
        exact Function.update_of_ne (by omega) ..
      · exact congrArg (fun packet => [packet]) (Function.update_self ..)

theorem Kept.writer (kept : Kept client j) (event : Event) :
    Kept client { j with writer := j.writer.step event } := by
  obtain ⟨tail, stage, wire⟩ := kept.staged
  obtain ⟨rest, after, accounts, counted⟩ := stage.step event kept.counted
  have direction : (j.writer.step event).direction = j.writer.direction := by
    unfold Writer.direction
    rw [Writer.step_client]
  constructor
  case sound => exact kept.sound
  case side => exact (Writer.step_client _ _).trans kept.side
  case numbers =>
      rw [direction]
      exact kept.numbers
  case near =>
      rw [direction]
      exact kept.near
  case counted => exact counted
  case faithful => exact kept.faithful.step event
  case staged =>
      refine ⟨rest, after, ?_⟩
      rw [direction, accounts]
      exact wire

theorem reachable_kept {generation : UInt64} (reached : Reachable client generation j) :
    Kept client j := by
  refine Machine.reach_keeps kept_start ?_ reached
  intro state next kept step
  cases step with
  | channel step same => exact kept.channel step same
  | put step more offered sequence => exact kept.put step more offered
  | writer event => exact kept.writer event

theorem zip_numbers {α β : Type} {f : α → β} {g : α → UInt64} {list : List α} {packets : List β}
    (values : list.map f = packets)
    (numbers : list.map g = (List.range list.length).map fun index => UInt64.ofNat (index + 1))
    (small : list.length < 2 ^ 64) :
    list.map (fun item => (f item, (g item).toNat)) = packets.zipIdx 1 := by
  subst values
  apply List.ext_getElem
  · simp
  · intro i before after
    have inside : i < list.length := by simpa using before
    have number : g list[i] = UInt64.ofNat (i + 1) := by
      have found := List.getElem_of_eq numbers (by simpa using inside)
      simpa using found
    simp only [List.getElem_map, List.getElem_zipIdx, number]
    rw [UInt64.toNat_ofNat_of_lt' (by unfold UInt64.size; omega), Nat.add_comm]

/-- The one packet that may follow those of the calls that returned OK: the call is not over
yet, or it failed after its packet was put in or with its answer lost, and it was the last to
have one. -/
def Straggler (w : Writer) (packet : Encoded) : Prop :=
  (∃ write, w.phase = .calling write packet ∨ w.phase = .accepted write packet) ∨
    (w.stopped = true ∧ w.phase = .idle ∧ ∃ (before : List Return) (result : Return) (after : List Return),
      w.returned = before ++ result :: after ∧ result.packet = some packet ∧
      result.status ≠ .ok ∧ (result.accepted = true ∨ result.lost = true) ∧
      before.filterMap Return.packet = w.sent ∧
      ∀ later ∈ after, later.packet = none ∧ later.status ≠ .ok)

theorem stage_tail {w : Writer} {tail : List Encoded} (stage : w.Stage tail) :
    tail.length ≤ 1 ∧ ∀ packet ∈ tail, Straggler w packet := by
  cases stage with
  | free clean flight outside => exact ⟨Nat.zero_le _, nofun⟩
  | offered clean here offer => exact ⟨Nat.zero_le _, nofun⟩
  | landed clean here flight =>
      refine ⟨le_rfl, fun packet member => ?_⟩
      rw [List.mem_singleton.1 member]
      exact .inl ⟨_, here⟩
  | ended last =>
      obtain ⟨before, result, after, packet, returned, has, status, later, earlier, fate⟩ :=
        last.failed
      rcases fate with ⟨rfl, -⟩ | ⟨rfl, -, fate⟩
      · exact ⟨Nat.zero_le _, nofun⟩
      · refine ⟨le_rfl, fun other member => ?_⟩
        rw [List.mem_singleton.1 member]
        exact .inr ⟨last.stopped, last.idle, before, result, after, returned, has, status, fate,
          earlier, later⟩

/-- What the channel was given are the packets of the calls that returned OK, in their order and
numbered from one, and at most one more; the peer obtains them in this order, all but perhaps
the last. A packet holds the bytes and the handles of its call, a call of no bytes has none, and
the vectors of a call that returned OK are at their ends. -/
theorem writes_delivered_in_order {generation : UInt64} (reached : Reachable client generation j) :
    (∃ tail, tail.length ≤ 1 ∧ j.wire = (j.writer.sent ++ tail).zipIdx 1 ∧
      ∀ packet ∈ tail, Straggler j.writer packet) ∧
    j.obtained <+: j.wire ∧ j.wire.length ≤ j.obtained.length + 1 ∧
    ∀ result ∈ j.writer.returned,
      (result.status = .ok →
        result.vectors = result.write.vectors.map fun vectors => vectors.map Vector.advanced) ∧
      (result.write.size = some 0 → result.packet = none) ∧
      ∀ packet, result.packet = some packet →
        ∃ (toHandle : Nat → Except Transport.Status Handle) (handles : List Handle),
          result.write.descriptors.mapM toHandle = .ok handles ∧
          decodeWindowsNdrPacket true packet.view = (none, ⟨result.write.bytes, handles⟩) := by
  have kept := reachable_kept reached
  obtain ⟨tail, stage, packets⟩ := kept.staged
  obtain ⟨short, straggler⟩ := stage_tail stage
  have mail := kept.sound.mail j.writer.direction
  refine ⟨⟨tail, short, ?_, straggler⟩, ?_, ?_, ?_⟩
  · apply zip_numbers packets mail.numbered
    have size := congrArg List.length packets
    rw [List.length_map, List.length_append] at size
    have bound := j.writer.nextWrite.toNat_lt
    have counted := kept.counted
    omega
  · exact mail.lost.map _
  · unfold wire obtained
    rw [List.length_map, List.length_map]
    exact kept.near
  · intro result member
    have honest := kept.faithful.returns result member
    refine ⟨honest.advanced, fun empty => ?_, fun packet has => (honest.encoded packet has).decodes⟩
    cases has : result.packet with
    | none => rfl
    | some packet => exact absurd empty (honest.encoded packet has).nonempty

/-! A call that returned OK, and the server's end of the channel shut down before the peer
came for the record. -/

def sampleWrite : Write := ⟨some [⟨1, [5]⟩], none⟩

def samplePreparation : Preparation where
  buffer := true
  reserve := true
  toHandle := fun _ => .error .badValue
  kernel := PacketCodec.sampleKernel
  memory := fun _ => true

theorem sample_run : ∃ j, Reachable false 7 j ∧ j.channel.closing = true ∧
    j.channel.taken .outbound = [] ∧ j.writer.client = false ∧ j.writer.sent.length = 1 := by
  have associating := Relation.ReflTransGen.tail .refl
    (@Step.channel (start false 7) _ (.associate rfl rfl ⟨rfl, rfl⟩) rfl)
  have associated := associating.tail (.channel (.associated rfl rfl ⟨rfl, rfl⟩) rfl)
  have borrowed := associated.tail (.channel (.borrow 1 rfl (by decide)) rfl)
  have called := borrowed.tail (.writer _ (.call sampleWrite samplePreparation))
  have offered := called.tail (.writer _ (.round ⟨false, none⟩))
  have entered := offered.tail
    (.channel (.enter 1 1 (.push 1) rfl (by decide) rfl (by decide)) rfl)
  have landed := entered.tail (.put (@LocalRpc.Step.putIn _ 1 _ _ _ _ rfl rfl) rfl rfl rfl)
  have answered := landed.tail (.writer _ (.answer .success))
  have finished := answered.tail (.writer _ (.finish true))
  have swept := finished.tail
    (.channel (.shutdown 2 1 false rfl (by decide) (by decide) rfl) rfl)
  exact ⟨_, swept, rfl, rfl, rfl, rfl⟩

/-- Two writes, of which the second finds the mailbox full until the peer comes. -/
theorem sample_writes_delivered : ∃ j, Reachable false 7 j ∧ j.writer.sent.length = 2 ∧
    j.obtained.length = 1 ∧ j.obtained <+: j.wire ∧
    ∃ tail, tail.length ≤ 1 ∧ j.wire = (j.writer.sent ++ tail).zipIdx 1 := by
  have associating := Relation.ReflTransGen.tail .refl
    (@Step.channel (start false 7) _ (.associate rfl rfl ⟨rfl, rfl⟩) rfl)
  have associated := associating.tail (.channel (.associated rfl rfl ⟨rfl, rfl⟩) rfl)
  have called := associated.tail (.writer _ (.call sampleWrite samplePreparation))
  have offered := called.tail (.writer _ (.round ⟨false, none⟩))
  have entered := offered.tail
    (.channel (.enter 1 0 (.push 1) rfl (by decide) rfl (by decide)) rfl)
  have landed := entered.tail (.put (@LocalRpc.Step.putIn _ 1 _ _ _ _ rfl rfl) rfl rfl rfl)
  have answered := landed.tail (.writer _ (.answer .success))
  have finished := answered.tail (.writer _ (.finish true))
  -- The second write is refused while the mailbox holds the record of the first.
  have called_again := finished.tail (.writer _ (.call sampleWrite samplePreparation))
  have offered_again := called_again.tail (.writer _ (.round ⟨false, none⟩))
  have busy := offered_again.tail (.writer _ (.answer (.refused .busy)))
  have receiving := busy.tail
    (.channel (.enter 2 0 (.tryReceive 7) rfl (by decide) rfl (by decide)) rfl)
  have received := receiving.tail
    (.channel (@LocalRpc.Step.takeOut _ 2 _ _ .outbound ⟨0, 1⟩ rfl rfl rfl) rfl)
  have paused := received.tail (.writer _ (.paused .ok))
  have third := paused.tail (.writer _ (.round ⟨false, none⟩))
  have entered_again := third.tail
    (.channel (.enter 1 0 (.push 2) rfl (by decide) rfl (by decide)) rfl)
  have landed_again := entered_again.tail
    (.put (@LocalRpc.Step.putIn _ 1 _ _ _ _ rfl rfl) rfl rfl rfl)
  have answered_again := landed_again.tail (.writer _ (.answer .success))
  have finished_again := answered_again.tail (.writer _ (.finish true))
  obtain ⟨⟨tail, short, wire, _⟩, first, _⟩ := writes_delivered_in_order finished_again
  exact ⟨_, finished_again, rfl, rfl, first, tail, short, wire⟩

/-- A run of both is a run of the channel. -/
theorem reach_channel {later : Joint} (run : Machine.Reach Step j later) :
    Machine.Reach LocalRpc.Step j.channel later.channel ∧
      later.writer.client = j.writer.client := by
  induction run with
  | refl => exact ⟨.refl, rfl⟩
  | tail _ step held =>
      obtain ⟨before, side⟩ := held
      cases step with
      | channel step same => exact ⟨before.tail step, side⟩
      | put step more offered sequence => exact ⟨before.tail step, side⟩
      | writer event => exact ⟨before, (Writer.step_client _ _).trans side⟩

theorem swept_write_never_obtained :
    ¬∀ client generation j, Reachable client generation j →
      ∃ later, Machine.Reach Step j later ∧ j.writer.sent <+: later.obtained.map Prod.fst := by
  intro claim
  obtain ⟨j, reached, closing, none_taken, side, sent⟩ := sample_run
  obtain ⟨later, run, all⟩ := claim false 7 j reached
  obtain ⟨channel, same⟩ := reach_channel run
  have taken := ((reachable_kept reached).sound.shut_for_good (.inl closing) channel).2.2
  have direction : later.writer.direction = .outbound := by
    unfold Writer.direction
    rw [same, side]
    rfl
  have nothing : later.obtained = [] := by
    unfold obtained
    rw [direction, taken, none_taken]
    rfl
  rw [nothing, List.map_nil] at all
  rw [List.prefix_nil.1 all] at sent
  cases sent

end Joint

end Bscp.LocalRpc.Writing
