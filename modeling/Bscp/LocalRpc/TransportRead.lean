import Bscp.LocalRpc.TransportRecord

/-!
Reads: the handles of a record are handed out with its first bytes, and its bytes in order,
however the reads are split.
-/

namespace Bscp.LocalRpc.Transport

open Transport.State

def span (iovs : List Iovec) : Nat := (iovs.map Iovec.len).sum

theorem iovSize_sum {iovs : List Iovec} {total : Nat} (size : iovSize (some iovs) = some total) :
    total = span iovs := by
  have fold (rest : List Iovec) (start : Nat)
      (folds : rest.foldl (fun total iov => total.bind fun total =>
        if (!iov.base && iov.len ≠ 0) || iov.len > kNdrBinderPacketMax - total then none
        else some (total + iov.len)) (some start) = some total) : total = start + span rest := by
    induction rest generalizing start with
    | nil =>
        cases folds
        rfl
    | cons iov rest next =>
        rw [List.foldl_cons, Option.bind_some] at folds
        split at folds
        · -- Once a vector is refused, the size stays unknown.
          have lost : ∀ rest : List Iovec, rest.foldl (fun total iov => total.bind fun total =>
              if (!iov.base && iov.len ≠ 0) || iov.len > kNdrBinderPacketMax - total then none
              else some (total + iov.len)) none = (none : Option Nat) := by
            intro rest
            induction rest with
            | nil => rfl
            | cons iov rest still => exact still
          rw [lost] at folds
          cases folds
        · rw [next _ folds]
          change start + iov.len + span rest = start + (iov.len + span rest)
          omega
  exact (fold iovs 0 size).trans (Nat.zero_add _)

/-- Handles are taken in their order, each once. -/
theorem takeHandles_ok {take : Nat → Adoption} {after : Packet} {handles : List Nat} (count first : Nat)
    (packet : Packet)
    (disposed : packet.disposed =
      List.replicate first Disposition.taken ++ List.replicate count Disposition.kept)
    (length : first + count = packet.handles.length)
    (took : takeHandles take (List.range' first count) packet = (.ok handles, after)) :
    handles = packet.handles.drop first ∧
      after = { packet with disposed := List.replicate (first + count) .taken } := by
  induction count generalizing first packet handles with
  | zero =>
      rw [List.range'_zero] at took
      cases took
      refine ⟨?_, ?_⟩
      · rw [List.drop_eq_nil_of_le (by omega)]
      · rw [List.replicate_zero, List.append_nil] at disposed
        rw [Nat.add_zero, ← disposed]
  | succ count next =>
      rw [List.range'_succ, takeHandles] at took
      split at took
      · cases took
      · rename_i handle one first'
        split at took
        · cases took
        · split at took
          · cases took
          · rename_i rest last further
            cases took
            obtain ⟨found, rfl⟩ := Packet.takeDuplicatedHandle_ok first'
            have taken : (packet.disposed.set first .taken) =
                List.replicate (first + 1) .taken ++ List.replicate count .kept := by
              rw [disposed, List.set_append_right _ _ (by rw [List.length_replicate]),
                List.length_replicate, Nat.sub_self, List.replicate_succ, List.set_cons_zero,
                List.replicate_succ', List.append_assoc]
              rfl
            obtain ⟨rest', last'⟩ := next (first + 1) _ taken (by
              change first + 1 + count = packet.handles.length
              omega) further
            subst rest' last'
            refine ⟨?_, ?_⟩
            · have bound : first < packet.handles.length := by omega
              rw [List.drop_eq_getElem_cons bound]
              rw [List.getElem?_eq_getElem bound] at found
              cases found
              rfl
            · rw [Nat.add_assoc, Nat.add_comm 1 count]

/-- All the vectors are filled, from where the last read ended. -/
theorem copyOut_ok (iovs : List Iovec) (cursor : Cursor) (sane : cursor.packet.Sane)
    (consumed : cursor.packet.consumed = cursor.readBytes)
    (fits : cursor.readBytes + span iovs ≤ cursor.packet.payload.length)
    (header : cursor.header = headerOf (cursor.packet.payload.take cursor.readBytes)) :
    copyOut iovs cursor =
      (none, (cursor.packet.payload.drop cursor.readBytes).take (span iovs),
        { packet := { cursor.packet with consumed := cursor.readBytes + span iovs }
          readBytes := cursor.readBytes + span iovs
          header := headerOf (cursor.packet.payload.take (cursor.readBytes + span iovs)) }) := by
  induction iovs generalizing cursor with
  | nil =>
      change (none, [], cursor) = _
      obtain ⟨packet, readBytes, head⟩ := cursor
      change packet.consumed = readBytes at consumed
      change head = headerOf (packet.payload.take readBytes) at header
      subst header consumed
      rfl
  | cons iov rest next =>
      obtain ⟨packet, readBytes, head⟩ := cursor
      change packet.consumed = readBytes at consumed
      change head = headerOf (packet.payload.take readBytes) at header
      change readBytes + (iov.len + span rest) ≤ packet.payload.length at fits
      subst header consumed
      have first : iov.len ≤ packet.payload.length - packet.consumed := by omega
      have saved : saveHeader (headerOf (packet.payload.take packet.consumed)) packet.consumed
          ((packet.payload.drop packet.consumed).take iov.len) =
          headerOf (packet.payload.take (packet.consumed + iov.len)) := by
        have length : (packet.payload.take packet.consumed).length = packet.consumed :=
          List.length_take_of_le (by omega)
        rw [List.take_add, ← saveHeader_append, length]
      let onward : Cursor :=
        { packet := { packet with consumed := packet.consumed + iov.len }
          readBytes := packet.consumed + iov.len
          header := headerOf (packet.payload.take (packet.consumed + iov.len)) }
      have within : packet.consumed + iov.len + span rest ≤ packet.payload.length := by omega
      rw [copyOut, Packet.readPayloadExact_ok sane first]
      dsimp only
      rw [saved, next onward ⟨sane.1, sane.2⟩ rfl within rfl]
      have sum : packet.consumed + iov.len + span rest = packet.consumed + span (iov :: rest) :=
        Nat.add_assoc _ _ _
      have data : (packet.payload.drop packet.consumed).take iov.len ++
          (packet.payload.drop (packet.consumed + iov.len)).take (span rest) =
          (packet.payload.drop packet.consumed).take (span (iov :: rest)) := by
        change _ = (packet.payload.drop packet.consumed).take (iov.len + span rest)
        rw [List.take_add, List.drop_drop]
      change (none, _ ++ (packet.payload.drop (packet.consumed + iov.len)).take (span rest),
        Cursor.mk { packet with consumed := packet.consumed + iov.len + span rest }
          (packet.consumed + iov.len + span rest)
          (headerOf (packet.payload.take (packet.consumed + iov.len + span rest)))) = _
      rw [data, sum]

/-! A read that has its packet. -/

section Deliver

variable {t : State} {log : List Entry} {packet : Packet}

/-- What the handles are afterwards, and which were handed out. -/
theorem handOver_ok (loaded : Loaded t packet) (phase : t.phaseOpen = true) {call : ReadCall} {round : Round}
    {handles : List Nat} {after : Packet} (ended : t.handOver packet call round = (.ok handles, after)) :
    handles = (if t.descriptorsDone then [] else packet.handles) ∧
      after = { packet with disposed := List.replicate packet.handles.length .taken } := by
  have disposed := loaded.disposed
  rw [phase, Bool.true_and] at disposed
  unfold State.handOver at ended
  split at ended
  · rename_i done
    cases ended
    rw [if_pos done] at disposed
    rw [if_pos done, ← disposed]
    exact ⟨rfl, rfl⟩
  · rename_i undone
    rw [if_neg undone] at disposed ⊢
    split at ended
    · split at ended
      · cases ended
      · rename_i none'
        rw [not_not] at none'
        split at ended
        · cases ended
        · rename_i discarded
          cases ended
          unfold Packet.discardRemainingHandles at discarded
          rw [loaded.sane.1, loaded.sane.2, disposed, none'] at discarded
          cases discarded
          refine ⟨(List.eq_nil_of_length_eq_zero none').symm, ?_⟩
          rw [none', loaded.sane.1, loaded.sane.2]
          rfl
    · split at ended
      · cases ended
      · split at ended
        · cases ended
        · rw [List.range_eq_range'] at ended
          have took := takeHandles_ok packet.handles.length 0 packet disposed (Nat.zero_add _) ended
          rw [List.drop_zero, Nat.zero_add] at took
          exact took

def State.readOn (t : State) (packet : Packet) (total : Nat) : State :=
  { t with
    descriptorsDone := true
    packet := some { packet with
      disposed := List.replicate packet.handles.length .taken
      consumed := t.readBytes + total }
    readBytes := t.readBytes + total
    header := headerOf (packet.payload.take (t.readBytes + total)) }

inductive Delivers (t : State) (packet : Packet) (total : Nat) : Reply × State → Prop
  | fails {status : Status} {after : State} (fails : Fails t status after) :
      Delivers t packet total ({ status := status }, after)
  | delivers (fits : t.readBytes + total ≤ packet.payload.length) :
      Delivers t packet total
        ({ status := .ok
           data := (packet.payload.drop t.readBytes).take total
           handles := if t.descriptorsDone then [] else packet.handles }, t.readOn packet total)

theorem deliver_cases (good : Good t log) (phase : t.phaseOpen = true) (has : t.packet = some packet)
    {call : ReadCall} (size : call.total = span call.iovs) (round : Round) :
    Delivers t packet call.total (t.deliver packet call round) := by
  have loaded := good.loaded packet has
  unfold State.deliver
  split
  · exact .fails (fail_fails (Nat.le_refl _) (Nat.le_refl _) ⟨rfl, rfl⟩ _)
  · rename_i fits
    have within : t.readBytes + span call.iovs ≤ packet.payload.length := by
      have bound := loaded.within
      rw [← size]
      omega
    split
    · exact .fails (@fail_fails t { t with packet := some _ } (Nat.le_refl _) (Nat.le_refl _) ⟨rfl, rfl⟩ _)
    · rename_i handles ended hands
      obtain ⟨rfl, rfl⟩ := handOver_ok loaded phase hands
      have header := good.header phase
      rw [payload_some has] at header
      have copied := copyOut_ok call.iovs
        ⟨{ packet with disposed := List.replicate packet.handles.length .taken }, t.readBytes, t.header⟩
        loaded.sane loaded.consumed within header
      rw [copied]
      have delivers := @Delivers.delivers t packet call.total (by rw [size]; exact within)
      rw [size] at delivers ⊢
      exact delivers

theorem Good.read (good : Good t log) (phase : t.phaseOpen = true) (has : t.packet = some packet)
    {total : Nat} (fits : t.readBytes + total ≤ packet.payload.length) {e : Entry}
    (begins : e.begins = false) (finishes : e.finishes = false)
    (data : e.reply.data = (packet.payload.drop t.readBytes).take total)
    (handles : e.reply.handles = if t.descriptorsDone then [] else packet.handles) :
    Good (t.readOn packet total) (e :: log) := by
  have loaded := good.loaded packet has
  constructor
  case count =>
      rw [List.countP_cons_of_neg]
      · exact good.count
      · rw [finishes]
        exact Bool.false_ne_true
  case loaded =>
      intro other same
      cases same
      refine ⟨loaded.sane, loaded.sequence, loaded.role, rfl, fits, loaded.shape, ?_⟩
      rw [show ((t.readOn packet total).phaseOpen && (t.readOn packet total).descriptorsDone) = true by
        rw [show (t.readOn packet total).phaseOpen = true from phase]; rfl]
      rfl
  case unloaded =>
      intro none
      cases none
  case closed =>
      intro closed
      cases phase.symm.trans closed
  case announced => rw [announced_note begins]; exact good.announced
  case bytes =>
      intro _
      rw [Transport.bytes, begins, good.bytes phase, payload_some has, data]
      exact List.take_add.symm
  case header => exact fun _ => rfl
  case given =>
      intro _
      rw [Transport.given, begins, good.given phase, handles_some has, handles]
      change _ = packet.handles
      cases t.descriptorsDone with
      | true => exact List.append_nil _
      | false => rfl
  case undone =>
      intro _ undone
      cases undone
  case done => exact fun _ _ => rfl

end Deliver

end Bscp.LocalRpc.Transport
