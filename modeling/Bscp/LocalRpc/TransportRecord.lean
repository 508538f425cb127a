import Bscp.LocalRpc.Transport

/-!
What a transport that has not stopped keeps about the record at hand, through each of its
operations.
-/

namespace Bscp.LocalRpc.Transport

namespace Entry

def begins (e : Entry) : Bool :=
  match e.operation with
  | .begin _ => e.reply.status = .ok
  | _ => false

def finishes (e : Entry) : Bool := e.operation = .finish true && e.reply.status = .ok

end Entry

def bytes : List Entry → List UInt8
  | [] => []
  | e :: older => if e.begins then [] else bytes older ++ e.reply.data

def given : List Entry → List Nat
  | [] => []
  | e :: older => if e.begins then [] else given older ++ e.reply.handles

def announced : List Entry → Option Phase
  | [] => none
  | e :: older =>
      match e.operation, e.begins with
      | .begin phase, true => phase
      | _, _ => announced older

namespace State

def payload (t : State) : List UInt8 := (t.packet.map Packet.payload).getD []

def handles (t : State) : List Nat := (t.packet.map Packet.handles).getD []

def headerOf (bytes : List UInt8) : List UInt8 :=
  (bytes ++ List.replicate wireHeaderSize 0).take wireHeaderSize

end State

open Transport.State

structure Loaded (t : State) (packet : Packet) : Prop where
  sane : packet.Sane
  sequence : packet.sequence = t.nextRead
  role : packet.role = t.role
  consumed : packet.consumed = t.readBytes
  within : t.readBytes ≤ packet.payload.length
  shape : t.phaseOpen = true → shapeFits t.phase packet.payload.length packet.handles.length = true
  disposed : packet.disposed = List.replicate packet.handles.length
    (if t.phaseOpen && t.descriptorsDone then .taken else .kept)

structure Good (t : State) (log : List Entry) : Prop where
  count : t.nextRead.toNat = log.countP Entry.finishes + 1
  loaded : ∀ packet, t.packet = some packet → Loaded t packet
  unloaded : t.packet = none → t.readBytes = 0
  closed : t.phaseOpen = false → t.readBytes = 0
  announced : t.phaseOpen = true → announced log = some t.phase
  bytes : t.phaseOpen = true → bytes log = t.payload.take t.readBytes
  header : t.phaseOpen = true → t.header = headerOf (t.payload.take t.readBytes)
  given : t.phaseOpen = true → given log = if t.descriptorsDone then t.handles else []
  undone : t.phaseOpen = true → t.descriptorsDone = false → t.readBytes = 0
  done : t.phaseOpen = true → t.descriptorsDone = true → t.packet.isSome = true

theorem good_start {client : Bool} {process : Nat} : Good { client := client, process := process } [] where
  count := rfl
  loaded := nofun
  unloaded _ := rfl
  closed _ := rfl
  announced := nofun
  bytes := nofun
  header := nofun
  given := nofun
  undone := nofun
  done := nofun

section Header

/-- Saving what is read keeps the first bytes of it all. -/
theorem saveHeader_append (before bytes : List UInt8) :
    saveHeader (headerOf before) before.length bytes = headerOf (before ++ bytes) := by
  unfold saveHeader headerOf
  split
  · rename_i short
    -- The saved part is what fits behind the bytes there are; zeros fill the rest.
    let zeros : List UInt8 := List.replicate wireHeaderSize 0
    let save := min bytes.length (wireHeaderSize - before.length)
    have kept : ((before ++ zeros).take wireHeaderSize).take before.length = before := by
      rw [List.take_take, Nat.min_eq_left (Nat.le_of_lt short), List.take_left]
    have saved : bytes.take save = bytes.take (wireHeaderSize - before.length) := by
      rw [List.take_eq_take_iff]
      omega
    have rest : ((before ++ zeros).take wireHeaderSize).drop (before.length + save) =
        zeros.take (wireHeaderSize - before.length - bytes.length) := by
      rw [List.drop_take, List.drop_append, List.drop_eq_nil_of_le (Nat.le_add_right _ _),
        List.nil_append, List.drop_replicate, List.take_replicate, List.take_replicate]
      congr 1
      omega
    change ((before ++ zeros).take wireHeaderSize).take before.length ++ bytes.take save ++
      ((before ++ zeros).take wireHeaderSize).drop (before.length + save) =
        (before ++ bytes ++ zeros).take wireHeaderSize
    rw [kept, rest, saved, List.append_assoc, List.append_assoc, List.take_append,
      List.take_of_length_le (Nat.le_of_lt short), List.take_append]
  · rename_i long
    rw [Nat.not_lt] at long
    rw [List.append_assoc, List.take_append_of_le_length long, List.take_append_of_le_length long]

theorem bodySize_headerOf {payload : List UInt8} (long : wireHeaderSize ≤ payload.length) :
    bodySize (headerOf payload) = bodySize payload := by
  unfold bodySize headerOf
  rw [List.take_append_of_le_length long, List.drop_take, List.take_take]
  rfl

end Header

section Outcomes

variable {t : State} {log : List Entry}

structure Fails (t : State) (status : Status) (after : State) : Prop where
  status : status ≠ .ok
  stopped : after.stopped = true
  received : t.received ≤ after.received
  opened : t.opened ≤ after.opened
  owner : after.client = t.client ∧ after.process = t.process

theorem fail_fails {before : State} (received : t.received ≤ before.received)
    (opened : t.opened ≤ before.opened)
    (owner : before.client = t.client ∧ before.process = t.process) (status : Status) :
    Fails t (before.fail status).1 (before.fail status).2 := by
  refine ⟨?_, rfl, received, opened, owner⟩
  unfold State.fail
  split
  · nofun
  · assumption

def State.load (t : State) (payload : List UInt8) (handles : List Nat) : State :=
  { t with
    packet := some (Packet.decoded t.role t.nextRead payload handles)
    received := t.received + 1 }

inductive Loads (t : State) : Status × State → Prop
  | dead (stopped : t.stopped = true) : Loads t (.deadObject, t)
  | ready {packet : Packet} (has : t.packet = some packet) (living : t.stopped = false) : Loads t (.ok, t)
  | nothing (empty : t.packet = none) (living : t.stopped = false) : Loads t (.wouldBlock, t)
  | fails {status : Status} {after : State} (fails : Fails t status after) : Loads t (status, after)
  | loads (payload : List UInt8) (handles : List Nat) (empty : t.packet = none)
      (living : t.stopped = false)
      (shape : t.phaseOpen = true → shapeFits t.phase payload.length handles.length = true) :
      Loads t (.ok, t.load payload handles)

/-- What `validateShape` finds, on the way of some operation. -/
theorem validateShape_cases {before : State} (received : t.received ≤ before.received)
    (opened : t.opened ≤ before.opened)
    (owner : before.client = t.client ∧ before.process = t.process) :
    (before.validateShape = (.ok, before) ∧ ∀ packet, before.packet = some packet →
        before.phaseOpen = true →
          shapeFits before.phase packet.payload.length packet.handles.length = true) ∨
      Fails t before.validateShape.1 before.validateShape.2 := by
  unfold State.validateShape
  split
  · rename_i empty
    refine .inl ⟨rfl, ?_⟩
    intro packet has
    rw [empty] at has
    cases has
  · rename_i packet has
    split
    · rename_i closed
      refine .inl ⟨rfl, ?_⟩
      intro _ _ phase
      rw [phase] at closed
      cases closed
    · split
      · rename_i fits
        refine .inl ⟨rfl, ?_⟩
        intro other same _
        rw [has] at same
        cases same
        exact fits
      · exact .inr (fail_fails received opened owner _)

theorem loadPacket_cases (receive : Receive) : Loads t (t.loadPacket receive) := by
  have failed (status : Status) : Loads t (t.fail status) :=
    .fails (fail_fails (Nat.le_refl _) (Nat.le_refl _) ⟨rfl, rfl⟩ status)
  unfold State.loadPacket
  split
  · exact .dead ‹_›
  · rename_i living
    rw [Bool.not_eq_true] at living
    split
    · rename_i some'
      obtain ⟨packet, has⟩ := Option.isSome_iff_exists.1 some'
      exact .ready has living
    · rename_i none'
      have empty : t.packet = none := by simpa using none'
      split
      · exact failed _
      · exact .nothing empty living
      · exact failed _
      · rename_i role sequence payload handles _ _
        let before : State := { t with
          packet := some (Packet.decoded role sequence payload handles)
          received := t.received + 1 }
        have bad : Fails t (before.fail .badValue).1 (before.fail .badValue).2 :=
          @fail_fails t before (Nat.le_succ _) (Nat.le_refl _) ⟨rfl, rfl⟩ _
        have valid := @validateShape_cases t before (Nat.le_succ _) (Nat.le_refl _) ⟨rfl, rfl⟩
        change Loads t (if (sequence ≠ before.nextRead || role ≠ before.role) = true then
          before.fail .badValue else before.validateShape)
        split
        · exact .fails bad
        · rename_i fits
          simp only [Bool.or_eq_true, decide_eq_true_eq, not_or, not_not] at fits
          obtain ⟨next, from'⟩ := fits
          obtain rfl : sequence = t.nextRead := next
          obtain rfl : role = t.role := from'
          obtain ⟨same, shape⟩ | bad := valid
          · rw [same]
            exact .loads payload handles empty living fun phase => shape _ rfl phase
          · exact .fails bad

def State.openPhase (t : State) (phase : Phase) : State :=
  { t with
    phase := phase
    phaseOpen := true
    descriptorsDone := false
    readBytes := 0
    header := List.replicate wireHeaderSize 0
    opened := t.opened + 1 }

inductive Begins (t : State) (announced : Option Phase) : Status × State → Prop
  | dead (stopped : t.stopped = true) : Begins t announced (.deadObject, t)
  | fails {status : Status} {after : State} (fails : Fails t status after) :
      Begins t announced (status, after)
  | opens (phase : Phase) (same : announced = some phase) (living : t.stopped = false) (closed : t.phaseOpen = false)
      (shape : ∀ packet, t.packet = some packet →
        shapeFits phase packet.payload.length packet.handles.length = true) :
      Begins t announced (.ok, t.openPhase phase)

theorem beginNdrRecord_cases (phase : Option Phase) : Begins t phase (t.beginNdrRecord phase) := by
  have failed (status : Status) : Begins t phase (t.fail status) :=
    .fails (fail_fails (Nat.le_refl _) (Nat.le_refl _) ⟨rfl, rfl⟩ status)
  unfold State.beginNdrRecord
  split
  · exact .dead ‹_›
  · rename_i living
    rw [Bool.not_eq_true] at living
    split
    · exact failed _
    · rename_i closed
      rw [Bool.not_eq_true] at closed
      cases phase with
      | none => exact failed _
      | some phase =>
          change Begins t (some phase) (t.openPhase phase).validateShape
          obtain ⟨same, shape⟩ | bad :=
            @validateShape_cases t (t.openPhase phase) (Nat.le_refl _) (Nat.le_succ _) ⟨rfl, rfl⟩
          · rw [same]
            exact .opens phase rfl living closed fun packet has => shape packet has rfl
          · exact .fails bad

def State.finishRecord (t : State) : State :=
  { t with packet := none, phaseOpen := false, readBytes := 0, nextRead := t.nextRead + 1 }

structure Finishable (t : State) (packet : Packet) (proof : Option Nat) : Prop where
  living : t.stopped = false
  has : t.packet = some packet
  phaseOpen : t.phaseOpen = true
  read : t.readBytes = packet.payload.length
  descriptorsDone : t.descriptorsDone = true
  body : t.phase = .command → bodySize t.header = packet.payload.length - wireHeaderSize
  proof : t.client = false → proof = some t.process
  last : t.nextRead ≠ UInt64.ofNat (2 ^ 64 - 1)

inductive Finishes (t : State) : Status × Option Nat × State → Prop
  | dead (stopped : t.stopped = true) : Finishes t (.deadObject, none, t)
  | fails {status : Status} {after : State} (fails : Fails t status after) :
      Finishes t (status, none, after)
  | finishes {packet : Packet} {proof : Option Nat} (finishable : Finishable t packet proof) :
      Finishes t (.ok, proof, t.finishRecord)

theorem proves_none {proof : Option Nat} {finishing : Finishing} (proves : t.proves proof finishing = none)
    (server : t.client = false) : proof = some t.process := by
  unfold State.proves at proves
  rw [server] at proves
  cases proof with
  | none => cases proves
  | some process =>
      dsimp only at proves
      split at proves
      · cases proves
      · split at proves
        · rename_i same
          rw [same]
        · cases proves

theorem finishNdrRecord_cases (finishing : Finishing) : Finishes t (t.finishNdrRecord finishing) := by
  have failed {before : State} (received : t.received ≤ before.received)
      (opened : t.opened ≤ before.opened)
      (owner : before.client = t.client ∧ before.process = t.process) (status : Status) :
      Finishes t ((before.fail status).1, none, (before.fail status).2) :=
    .fails (fail_fails received opened owner status)
  have same (status : Status) : Finishes t ((t.fail status).1, none, (t.fail status).2) :=
    failed (Nat.le_refl _) (Nat.le_refl _) ⟨rfl, rfl⟩ status
  unfold State.finishNdrRecord
  dsimp only
  split
  · exact .dead ‹_›
  · rename_i living
    rw [Bool.not_eq_true] at living
    split
    · exact same _
    · rename_i packet has
      split
      · exact same _
      · rename_i phaseOpen
        split
        · exact same _
        · rename_i read
          split
          · exact same _
          · rename_i body
            split
            · exact @failed { t with packet := some _ } (Nat.le_refl _) (Nat.le_refl _) ⟨rfl, rfl⟩ _
            · split
              · exact @failed { t with packet := some _ } (Nat.le_refl _) (Nat.le_refl _) ⟨rfl, rfl⟩ _
              · rename_i proves
                split
                · exact @failed { t with packet := none, phaseOpen := false, readBytes := 0 }
                    (Nat.le_refl _) (Nat.le_refl _) ⟨rfl, rfl⟩ _
                · rename_i last
                  simp only [Bool.or_eq_true, decide_eq_true_eq, Bool.not_eq_true', not_or, not_not,
                    Bool.not_eq_false] at phaseOpen read
                  refine @Finishes.finishes t packet _ ⟨living, has, phaseOpen, read.1, read.2, ?_,
                    proves_none proves, last⟩
                  intro command
                  simpa [command] using body

end Outcomes

/-! What is kept. -/

section Keeps

variable {t : State} {log : List Entry}

theorem announced_note {e : Entry} (begins : e.begins = false) : announced (e :: log) = announced log := by
  unfold announced
  rw [begins]
  split
  · cases ‹false = true›
  · cases log <;> rfl

theorem payload_some {packet : Packet} (has : t.packet = some packet) : t.payload = packet.payload := by
  unfold State.payload
  rw [has]
  rfl

theorem handles_some {packet : Packet} (has : t.packet = some packet) : t.handles = packet.handles := by
  unfold State.handles
  rw [has]
  rfl

/-- An entry that brings nothing. -/
theorem Good.note (good : Good t log) {e : Entry} (begins : e.begins = false) (finishes : e.finishes = false)
    (data : e.reply.data = []) (handles : e.reply.handles = []) : Good t (e :: log) := by
  have bytes : Transport.bytes (e :: log) = Transport.bytes log := by
    rw [Transport.bytes, begins, data, List.append_nil]
    rfl
  have given : Transport.given (e :: log) = Transport.given log := by
    rw [Transport.given, begins, handles, List.append_nil]
    rfl
  constructor
  case count =>
      rw [List.countP_cons_of_neg]
      · exact good.count
      · rw [finishes]
        nofun
  case loaded => exact good.loaded
  case unloaded => exact good.unloaded
  case closed => exact good.closed
  case announced => rw [announced_note begins]; exact good.announced
  case bytes => rw [bytes]; exact good.bytes
  case header => exact good.header
  case given => rw [given]; exact good.given
  case undone => exact good.undone
  case done => exact good.done

theorem Good.load (good : Good t log) (empty : t.packet = none) {payload : List UInt8} {handles : List Nat}
    (shape : t.phaseOpen = true → shapeFits t.phase payload.length handles.length = true) :
    Good (t.load payload handles) log := by
  have zero := good.unloaded empty
  -- Nothing of the record at hand was read or handed out before it came.
  have undone : (t.phaseOpen && t.descriptorsDone) = false := by
    by_contra both
    rw [Bool.not_eq_false, Bool.and_eq_true] at both
    have some' := good.done both.1 both.2
    rw [empty] at some'
    cases some'
  have fresh : (t.load payload handles).readBytes = 0 := zero
  constructor
  case count => exact good.count
  case loaded =>
      intro packet has
      cases has
      refine ⟨⟨rfl, rfl⟩, rfl, rfl, zero.symm, ?_, shape, ?_⟩
      · rw [fresh]
        exact Nat.zero_le _
      · rw [show ((t.load payload handles).phaseOpen && (t.load payload handles).descriptorsDone) = false
          from undone]
        rfl
  case unloaded => nofun
  case closed => exact good.closed
  case announced => exact good.announced
  case bytes =>
      intro phase
      rw [good.bytes phase, fresh, zero, List.take_zero, List.take_zero]
  case header =>
      intro phase
      rw [show (t.load payload handles).header = t.header from rfl, good.header phase, fresh, zero,
        List.take_zero, List.take_zero]
  case given =>
      intro phase
      have undone' : t.descriptorsDone = false := by
        rw [show t.phaseOpen = true from phase, Bool.true_and] at undone
        exact undone
      rw [good.given phase, show (t.load payload handles).descriptorsDone = t.descriptorsDone from rfl,
        undone']
      rfl
  case undone => exact good.undone
  case done => exact fun _ _ => rfl

theorem Good.open (good : Good t log) {phase : Phase} (closed : t.phaseOpen = false)
    (shape : ∀ packet, t.packet = some packet →
      shapeFits phase packet.payload.length packet.handles.length = true) {e : Entry}
    (operation : e.operation = .begin (some phase)) (begins : e.begins = true)
    (finishes : e.finishes = false) : Good (t.openPhase phase) (e :: log) := by
  have zero := good.closed closed
  constructor
  case count =>
      rw [List.countP_cons_of_neg]
      · exact good.count
      · rw [finishes]
        nofun
  case loaded =>
      intro packet has
      have loaded := good.loaded packet has
      refine ⟨loaded.sane, loaded.sequence, loaded.role, ?_, Nat.zero_le _, fun _ => shape packet has, ?_⟩
      · rw [loaded.consumed, zero]
        rfl
      · have disposed := loaded.disposed
        rw [closed] at disposed
        exact disposed
  case unloaded => exact fun _ => rfl
  case closed => exact fun _ => rfl
  case announced =>
      intro _
      unfold Transport.announced
      rw [operation, begins]
      rfl
  case bytes =>
      intro _
      rw [Transport.bytes, begins]
      exact (List.take_zero).symm
  case header => exact fun _ => rfl
  case given =>
      intro _
      rw [Transport.given, begins]
      rfl
  case undone => exact fun _ _ => rfl
  case done => nofun

theorem Good.finish (good : Good t log) {packet : Packet} {proof : Option Nat}
    (finishable : Finishable t packet proof) {e : Entry} (finishes : e.finishes = true) :
    Good t.finishRecord (e :: log) := by
  constructor
  case count =>
      have last : t.nextRead.toNat < 2 ^ 64 - 1 := by
        have bound := t.nextRead.toNat_lt
        have apart : t.nextRead.toNat ≠ 2 ^ 64 - 1 := by
          intro same
          apply finishable.last
          rw [← same, UInt64.ofNat_toNat]
        omega
      rw [List.countP_cons_of_pos finishes, ← good.count]
      change (t.nextRead + 1).toNat = t.nextRead.toNat + 1
      rw [UInt64.toNat_add]
      exact Nat.mod_eq_of_lt (by change t.nextRead.toNat + 1 < 2 ^ 64; omega)
  case loaded => nofun
  case unloaded => exact fun _ => rfl
  case closed => exact fun _ => rfl
  case announced => nofun
  case bytes => nofun
  case header => nofun
  case given => nofun
  case undone => nofun
  case done => nofun

end Keeps

end Bscp.LocalRpc.Transport
