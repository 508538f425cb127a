import Bscp.LocalRpc.BootstrapClient

/-!
What the client has seen of an offer by the time it accepts it, and which offers it has
accepted.
-/

namespace Bscp.LocalRpc.Bootstrap

structure SameData (before after : InitialChannel) : Prop where
  launch : after.launch = before.launch
  generation : after.generation = before.generation
  id : after.id = before.id
  nonce : after.nonce = before.nonce

structure Kept (before after : InitialChannel) : Prop where
  data : SameData before after
  proofCount : after.proofCount = before.proofCount
  configured : after.stage = .configured → before.stage = .configured
  awaiting : after.stage = .awaiting → before.stage = .awaiting
  retiring : before.retiring = true → after.retiring = true

theorem kept_refl {channel : InitialChannel} : Kept channel channel :=
  ⟨⟨rfl, rfl, rfl, rfl⟩, rfl, id, id, id⟩

structure Drafted (before after : InitialChannel) : Prop where
  configured : before.stage = .configured
  launch : after.launch = before.launch
  proofCount : after.proofCount = before.proofCount
  retiring : after.retiring = before.retiring

structure ConnectFrame (c next : Client) : Prop where
  offer : next.offer = c.offer
  accepted : next.accepted = c.accepted
  made : c.made ≤ next.made
  pending : c.Silent ∨ next.pending = c.pending
  channel : ∀ p < c.made, Kept (c.channel p) (next.channel p) ∨
    (c.pending = none ∧ Drafted (c.channel p) (next.channel p))
  retiring : ∀ p, (next.channel p).retiring = true → (c.channel p).retiring = true ∨ p < c.made

section Frames

variable {config : Config} {life : Process → Life} {c next : Client}

/-- Nothing but who is where, the flags and the channels that were returned. -/
theorem frame_same (offer : next.offer = c.offer) (accepted : next.accepted = c.accepted)
    (made : next.made = c.made) (pending : c.Silent ∨ next.pending = c.pending)
    (channel : next.channel = c.channel) : ConnectFrame c next where
  offer := offer
  accepted := accepted
  made := Nat.le_of_eq made.symm
  pending := pending
  channel p _ := by
    rw [channel]
    exact .inl kept_refl
  retiring p retiring := by
    rw [channel] at retiring
    exact .inl retiring

theorem frame_write {p : Nat} {written : InitialChannel} (made : p < c.made)
    (offer : next.offer = c.offer) (accepted : next.accepted = c.accepted)
    (count : next.made = c.made) (pending : c.Silent ∨ next.pending = c.pending)
    (channel : next.channel = Function.update c.channel p written)
    (mine : Kept (c.channel p) written ∨ (c.pending = none ∧ Drafted (c.channel p) written)) :
    ConnectFrame c next where
  offer := offer
  accepted := accepted
  made := Nat.le_of_eq count.symm
  pending := pending
  channel q _ := by
    rw [channel]
    by_cases hit : q = p
    · subst hit
      rw [Function.update_self]
      exact mine
    · rw [Function.update_of_ne hit]
      exact .inl kept_refl
  retiring q retiring := by
    by_cases hit : q = p
    · subst hit
      exact .inr made
    · rw [channel, Function.update_of_ne hit] at retiring
      exact .inl retiring

theorem ClientSound.frame (sound : ClientSound c) {event : Event}
    (move : ConnectStep config life event c next) : ConnectFrame c next := by
  -- Whoever has a channel in hand has one that was made.
  have known {thread p : Nat} {place : Place} (here : c.connect thread = .holding p place) :
      p < c.made := by
    have fits := sound.fits thread
    rw [here] at fits
    obtain ⟨_, made, _⟩ | ⟨_, owned⟩ := fits
    · exact made
    · exact (sound.returned p owned).1
  cases move with
  | allocate here =>
      rename_i thread launch generation
      let fresh : InitialChannel := { launch := launch, generation := generation }
      have theirs {p : Nat} (apart : p ≠ c.made) :
          Function.update c.channel c.made fresh p = c.channel p := Function.update_of_ne apart _ _
      refine ⟨rfl, rfl, Nat.le_succ _, .inr rfl, ?_, ?_⟩
      · intro p made
        refine .inl ?_
        change Kept (c.channel p) (Function.update c.channel c.made fresh p)
        rw [theirs (Nat.ne_of_lt made)]
        exact kept_refl
      · intro p retiring
        change (Function.update c.channel c.made fresh p).retiring = true at retiring
        by_cases hit : p = c.made
        · rw [hit, Function.update_self] at retiring
          cases retiring
        · rw [theirs hit] at retiring
          exact .inl retiring
  | opens id here =>
      obtain ⟨made, _, quiet, configured, _⟩ := sound.holds here rfl
      exact frame_write made rfl rfl rfl (.inr rfl) rfl (.inr ⟨quiet, configured, rfl, rfl, rfl⟩)
  | offer nonce here free =>
      obtain ⟨made, _, quiet, configured, _⟩ := sound.holds here rfl
      exact frame_write made rfl rfl rfl (.inl (sound.silent quiet)) rfl
        (.inr ⟨quiet, configured, rfl, rfl, rfl⟩)
  | registerFails here => exact frame_same rfl rfl rfl (.inl (sound.holds here rfl).2.2.2.1) rfl
  | registered here =>
      exact frame_write (known here) rfl rfl rfl (.inr rfl) rfl
        (.inl ⟨⟨rfl, rfl, rfl, rfl⟩, rfl, id, id, id⟩)
  | retire here retires listed =>
      exact frame_write (known here) rfl rfl rfl (.inr rfl) rfl
        (.inl ⟨⟨rfl, rfl, rfl, rfl⟩, rfl, nofun, nofun, fun _ => rfl⟩)
  | unlisted here retires unlisted =>
      exact frame_write (known here) rfl rfl rfl (.inr rfl) rfl
        (.inl ⟨⟨rfl, rfl, rfl, rfl⟩, rfl, id, id, fun _ => rfl⟩)
  | drain here none' =>
      have drained := sound.inside_of here ⟨nofun, nofun⟩
      exact frame_write (known here) rfl rfl rfl (.inl (sound.holds here drained).2.2.2.1) rfl
        (.inl ⟨⟨rfl, rfl, rfl, rfl⟩, rfl, id, id, id⟩)
  | publish here live =>
      exact frame_write (known here) rfl rfl rfl (.inr rfl) rfl
        (.inl ⟨⟨rfl, rfl, rfl, rfl⟩, rfl, nofun, nofun, id⟩)
  | close thread here owned =>
      exact frame_write (sound.returned _ owned).1 rfl rfl rfl (.inr rfl) rfl
        (.inl ⟨⟨rfl, rfl, rfl, rfl⟩, rfl, nofun, nofun, id⟩)
  | shutdown owned =>
      exact frame_write (sound.returned _ owned).1 rfl rfl rfl (.inr rfl) rfl
        (.inl ⟨⟨rfl, rfl, rfl, rfl⟩, rfl, nofun, nofun, id⟩)
  | _ => exact frame_same rfl rfl rfl (.inr rfl) rfl

end Frames

/-! What an offer has shown. -/

/-- No two processes that are alive have one PID. -/
def Distinct (config : Config) (life : Process → Life) : Prop :=
  ∀ one other, life one = .alive → life other = .alive → config.pid one = config.pid other → one = other

def Heard (config : Config) (life : Process → Life) (c : Client) (offer : Offer) : Prop :=
  ∀ p, c.pending = some p → life (c.channel p).launch = .alive →
    config.pid (c.channel p).launch = config.pid offer.caller → offer.caller = (c.channel p).launch

def Passed (config : Config) (channel : InitialChannel) (offer : Offer) : Progress → Prop
  | .borrowed => True
  | .sender => offer.caller = channel.launch
  | .client => offer.caller = channel.launch ∧ offer.actualClient = config.self
  | .challenge => offer.caller = channel.launch ∧ offer.actualClient = config.self ∧
      offer.protocol = 1 ∧ offer.nonce = channel.nonce ∧ offer.generation = channel.generation ∧
      offer.id = channel.id

def Sincere (config : Config) (life : Process → Life) (c : Client) : OfferPc → Prop
  | .called offer => Heard config life c offer
  | .checking p offer progress =>
      Heard config life c offer ∧ c.pending = some p ∧ Passed config (c.channel p) offer progress
  | _ => True

def Connect.launch : Connect → Option Process
  | .checked launch _ => some launch
  | .guarded launch _ => some launch
  | _ => none

structure Evidence (config : Config) (life : Process → Life) (c : Client) : Prop where
  named : ∀ thread launch, (c.connect thread).launch = some launch → life launch ≠ .unborn
  launched : ∀ p < c.made, life (c.channel p).launch ≠ .unborn
  sincere : ∀ k, Sincere config life c (c.offer k)
  accepted : ∀ entry ∈ c.accepted, entry.1 < c.made ∧ (c.channel entry.1).stage ≠ .configured ∧
    Passed config (c.channel entry.1) entry.2 .challenge
  count : ∀ p < c.made, c.accepted.countP (fun entry => entry.1 = p) = (c.channel p).proofCount
  once : ∀ p < c.made, (c.channel p).proofCount ≤ 1 ∧
    ((c.channel p).stage = .configured ∨ (c.channel p).stage = .awaiting → (c.channel p).proofCount = 0)
  begun : ∀ p, (c.channel p).retiring = true → p < c.made

theorem evidence_start {config : Config} {life : Process → Life} : Evidence config life {} where
  named := nofun
  launched := nofun
  sincere _ := trivial
  accepted := nofun
  count := nofun
  once := nofun
  begun := nofun

section Steps

variable {config : Config} {life : Process → Life} {c next : Client}

theorem passed_frame {before after : InitialChannel} (same : SameData before after) {offer : Offer}
    {progress : Progress} (passed : Passed config before offer progress) :
    Passed config after offer progress := by
  cases progress with
  | borrowed => trivial
  | sender => exact passed.trans same.launch.symm
  | client => exact ⟨passed.1.trans same.launch.symm, passed.2⟩
  | challenge =>
      obtain ⟨caller, client, protocol, nonce, generation, id⟩ := passed
      exact ⟨caller.trans same.launch.symm, client, protocol, nonce.trans same.nonce.symm,
        generation.trans same.generation.symm, id.trans same.id.symm⟩

/-- An offer has shown as much while its channel stays pending. -/
theorem sincere_frame (pending : next.pending = c.pending)
    (data : ∀ p, c.pending = some p → SameData (c.channel p) (next.channel p)) {pc : OfferPc}
    (sincere : Sincere config life c pc) : Sincere config life next pc := by
  have heard {offer : Offer} (before : Heard config life c offer) : Heard config life next offer := by
    intro p waits alive same
    rw [pending] at waits
    rw [(data p waits).launch] at alive same ⊢
    exact before p waits alive same
  cases pc with
  | called offer => exact heard sincere
  | checking p offer progress =>
      obtain ⟨before, waits, passed⟩ := sincere
      exact ⟨heard before, pending.trans waits, passed_frame (data p waits) passed⟩
  | _ => trivial

/-- A silent interface has no offer to speak of. -/
theorem sincere_silent (silent : c.Silent) (k : Nat) : Sincere config life next (c.offer k) := by
  have still := silent.2 k
  cases pc : c.offer k with
  | called offer =>
      rw [pc] at still
      cases still
  | checking p offer progress =>
      rw [pc] at still
      cases still
  | _ => trivial

/-- Whose launch process a call names, it has found alive. -/
theorem ConnectStep.launch {event : Event} (move : ConnectStep config life event c next) {thread : Nat}
    {launch : Process} (names : (next.connect thread).launch = some launch) :
    (c.connect thread).launch = some launch ∨ life launch = .alive := by
  -- A call that has a channel in hand, or none to come, names nobody.
  have update {mover : Nat} {pc : Connect} (mine : pc.launch = some launch →
        (c.connect mover).launch = some launch ∨ life launch = .alive)
      (names : (Function.update c.connect mover pc thread).launch = some launch) :
      (c.connect thread).launch = some launch ∨ life launch = .alive := by
    by_cases same : thread = mover
    · subst same
      rw [Function.update_self] at names
      exact mine names
    · rw [Function.update_of_ne same] at names
      exact .inl names
  cases move with
  | check mover other generation here live =>
      refine update ?_ names
      intro same
      cases same
      exact .inr live
  | guard here free => exact update (fun same => .inl (by rw [here]; exact same)) names
  | unregisterFails here =>
      rename_i after
      refine update ?_ names
      cases after <;> nofun
  | drainBusy here some' =>
      rename_i after
      refine update ?_ names
      cases after <;> nofun
  | destroy here gone =>
      rename_i after
      refine update ?_ names
      cases after <;> nofun
  | shutdown owned => exact .inl names
  | _ =>
      refine update ?_ names
      nofun

/-- A new channel has the launch process of its call. -/
theorem ConnectStep.fresh {event : Event} (move : ConnectStep config life event c next) {p : Nat}
    (old : c.made ≤ p) (made : p < next.made) :
    p = c.made ∧ ∃ thread launch generation, (c.connect thread).launch = some launch ∧
      next.channel p = { launch := launch, generation := generation } := by
  cases move with
  | allocate here =>
      rename_i thread launch generation
      have same : p = c.made := Nat.le_antisymm (Nat.le_of_lt_succ made) old
      subst same
      exact ⟨rfl, thread, launch, generation, by rw [here]; rfl, Function.update_self ..⟩
  | _ => exact absurd made (Nat.not_lt.2 old)

theorem Evidence.connect (evidence : Evidence config life c) (sound : ClientSound c) {event : Event}
    (move : ConnectStep config life event c next) : Evidence config life next := by
  have frame := sound.frame move
  have known {thread : Nat} {launch : Process} (names : (next.connect thread).launch = some launch) :
      life launch ≠ .unborn := by
    obtain before | alive := move.launch names
    · exact evidence.named thread launch before
    · rw [alive]
      nofun
  -- The channels that were there keep their launch process and their count.
  have kept {p : Nat} (made : p < c.made) : (next.channel p).launch = (c.channel p).launch ∧
      (next.channel p).proofCount = (c.channel p).proofCount ∧
      ((next.channel p).stage = .configured ∨ (next.channel p).stage = .awaiting →
        (c.channel p).stage = .configured ∨ (c.channel p).stage = .awaiting) := by
    obtain kept | ⟨_, drafted⟩ := frame.channel p made
    · exact ⟨kept.data.launch, kept.proofCount, Or.imp kept.configured kept.awaiting⟩
    · exact ⟨drafted.launch, drafted.proofCount, fun _ => .inl drafted.configured⟩
  constructor
  case named => exact fun thread launch names => known names
  case launched =>
      intro p made
      by_cases old : p < c.made
      · rw [(kept old).1]
        exact evidence.launched p old
      · obtain ⟨_, thread, launch, generation, names, same⟩ := move.fresh (Nat.le_of_not_lt old) made
        rw [same]
        exact evidence.named thread launch names
  case sincere =>
      intro k
      rw [frame.offer]
      obtain silent | pending := frame.pending
      · exact sincere_silent silent k
      · refine sincere_frame pending ?_ (evidence.sincere k)
        intro p waits
        obtain kept | ⟨quiet, _⟩ := frame.channel p (sound.pending p waits).1
        · exact kept.data
        · exact nomatch quiet.symm.trans waits
  case accepted =>
      rw [frame.accepted]
      intro entry listed
      obtain ⟨made, begun, passed⟩ := evidence.accepted entry listed
      obtain kept | ⟨_, drafted⟩ := frame.channel entry.1 made
      · exact ⟨Nat.lt_of_lt_of_le made frame.made, fun stage => begun (kept.configured stage),
          passed_frame kept.data passed⟩
      · exact absurd drafted.configured begun
  case count =>
      rw [frame.accepted]
      intro p made
      by_cases old : p < c.made
      · rw [(kept old).2.1]
        exact evidence.count p old
      · obtain ⟨_, _, _, _, _, same⟩ := move.fresh (Nat.le_of_not_lt old) made
        rw [same, List.countP_eq_zero]
        intro entry listed hit
        exact old (of_decide_eq_true hit ▸ (evidence.accepted entry listed).1)
  case once =>
      intro p made
      by_cases old : p < c.made
      · obtain ⟨_, count, stage⟩ := kept old
        rw [count]
        exact ⟨(evidence.once p old).1, fun early => (evidence.once p old).2 (stage early)⟩
      · obtain ⟨_, _, _, _, _, same⟩ := move.fresh (Nat.le_of_not_lt old) made
        rw [same]
        exact ⟨Nat.zero_le _, fun _ => rfl⟩
  case begun =>
      intro p retiring
      obtain before | made := frame.retiring p retiring
      · exact Nat.lt_of_lt_of_le (evidence.begun p before) frame.made
      · exact Nat.lt_of_lt_of_le made frame.made

/-- One offer goes on; it has shown what its next place asks for. -/
theorem sincere_update (sincere : ∀ k, Sincere config life c (c.offer k)) {k : Nat} {pc : OfferPc}
    (mine : Sincere config life c pc) (j : Nat) :
    Sincere config life c (Function.update c.offer k pc j) := by
  by_cases same : j = k
  · rw [same, Function.update_self]
    exact mine
  · rw [Function.update_of_ne same]
    exact sincere j

/-- What the offers have shown, after the step of one of them. -/
theorem Evidence.shown (evidence : Evidence config life c) (distinct : Distinct config life)
    (move : OfferStep config life c next) : ∀ k, Sincere config life c (next.offer k) := by
  have before {k : Nat} {pc : OfferPc} (here : c.offer k = pc) : Sincere config life c pc :=
    here ▸ evidence.sincere k
  cases move with
  | begin k offer fresh listed live =>
      refine sincere_update evidence.sincere ?_
      intro p _ alive same
      exact distinct _ _ live alive same.symm
  | borrow here found awaiting =>
      exact sincere_update evidence.sincere ⟨before here, found, trivial⟩
  | unwanted here nobody => exact sincere_update evidence.sincere trivial
  | sender here live same launched equal =>
      obtain ⟨heard, waits, _⟩ := before here
      refine sincere_update evidence.sincere ⟨heard, waits, ?_⟩
      rw [equal] at same
      exact heard _ waits launched same
  | client here live equal =>
      obtain ⟨heard, waits, sender⟩ := before here
      exact sincere_update evidence.sincere ⟨heard, waits, sender, equal⟩
  | challenge here protocol nonce generation id =>
      obtain ⟨heard, waits, sender, client⟩ := before here
      exact sincere_update evidence.sincere
        ⟨heard, waits, sender, client, protocol, nonce, generation.symm, id.symm⟩
  | deny here => exact sincere_update evidence.sincere trivial
  | accept here found awaiting live => exact sincere_update evidence.sincere trivial
  | release ok here agrees => exact sincere_update evidence.sincere trivial
  | answer here => exact sincere_update evidence.sincere trivial

theorem OfferFrame.data (frame : OfferFrame c next) (p : Nat) :
    SameData (c.channel p) (next.channel p) := by
  obtain same | ⟨_, _, same⟩ := frame.channel p
  · rw [same]
    exact ⟨rfl, rfl, rfl, rfl⟩
  · rw [same]
    exact ⟨rfl, rfl, rfl, rfl⟩

/-- An offer is accepted while its channel waits for one, or nothing is accepted and the
channels stay. -/
theorem OfferStep.accepts (move : OfferStep config life c next) :
    (next.accepted = c.accepted ∧ next.channel = c.channel) ∨
      ∃ k p offer, c.offer k = .checking p offer .challenge ∧ c.pending = some p ∧
        (c.channel p).stage = .awaiting ∧ next.accepted = (p, offer) :: c.accepted ∧
        next.channel = Function.update c.channel p { c.channel p with
          stage := .proofReady
          proofCount := (c.channel p).proofCount + 1 } := by
  cases move with
  | accept here found awaiting live => exact .inr ⟨_, _, _, here, found, awaiting, rfl, rfl⟩
  | _ => exact .inl ⟨rfl, rfl⟩

theorem Evidence.offer (evidence : Evidence config life c) (sound : ClientSound c)
    (distinct : Distinct config life) (move : OfferStep config life c next) :
    Evidence config life next := by
  have frame := move.frame
  have shown := evidence.shown distinct move
  constructor
  case named => rw [frame.connect]; exact evidence.named
  case launched =>
      rw [frame.made]
      intro p made
      rw [(frame.data p).launch]
      exact evidence.launched p made
  case sincere => exact fun k => sincere_frame frame.pending (fun p _ => frame.data p) (shown k)
  case begun =>
      intro p retiring
      rw [frame.retiring] at retiring
      rw [frame.made]
      exact evidence.begun p retiring
  all_goals
    rw [frame.made]
    obtain ⟨accepted, channel⟩ | ⟨k, p, offer, here, waits, awaiting, accepted, channel⟩ := move.accepts
  case accepted.inl => rw [accepted, channel]; exact evidence.accepted
  case count.inl => rw [accepted, channel]; exact evidence.count
  case once.inl => rw [channel]; exact evidence.once
  case accepted.inr =>
      intro entry listed
      rw [accepted] at listed
      obtain rfl | old := List.mem_cons.1 listed
      · have sincere := evidence.sincere k
        rw [here] at sincere
        refine ⟨(sound.pending p waits).1, ?_, passed_frame (frame.data p) sincere.2.2⟩
        rw [channel, Function.update_self]
        nofun
      · obtain ⟨made, begun, passed⟩ := evidence.accepted entry old
        refine ⟨made, ?_, passed_frame (frame.data entry.1) passed⟩
        by_cases hit : entry.1 = p
        · rw [channel, hit, Function.update_self]
          nofun
        · rw [channel, Function.update_of_ne hit]
          exact begun
  case count.inr =>
      intro q made
      rw [accepted, channel, List.countP_cons]
      by_cases hit : q = p
      · subst hit
        rw [Function.update_self, evidence.count q made]
        simp
      · rw [Function.update_of_ne hit, evidence.count q made]
        simp [Ne.symm hit]
  case once.inr =>
      intro q made
      rw [channel]
      by_cases hit : q = p
      · subst hit
        have none' := (evidence.once q made).2 (.inr awaiting)
        rw [Function.update_self]
        exact ⟨Nat.le_of_eq (by rw [none']), fun early => early.elim nofun nofun⟩
      · rw [Function.update_of_ne hit]
        exact evidence.once q made

/-- Processes come and go. -/
theorem Evidence.live (evidence : Evidence config life c) (sound : ClientSound c)
    {after : Process → Life} (born : ∀ process, life process ≠ .unborn → after process ≠ .unborn)
    (alive : ∀ process, life process ≠ .unborn → after process = .alive → life process = .alive) :
    Evidence config after c where
  named thread launch names := born launch (evidence.named thread launch names)
  launched p made := born _ (evidence.launched p made)
  sincere k := by
    have heard {offer : Offer} (before : Heard config life c offer) : Heard config after c offer := by
      intro p waits live same
      have known := evidence.launched p (sound.pending p waits).1
      exact before p waits (alive _ known live) same
    have sincere := evidence.sincere k
    cases pc : c.offer k with
    | called offer =>
        rw [pc] at sincere
        exact heard sincere
    | checking p offer progress =>
        rw [pc] at sincere
        exact ⟨heard sincere.1, sincere.2⟩
    | _ => trivial
  accepted := evidence.accepted
  count := evidence.count
  once := evidence.once
  begun := evidence.begun

end Steps

end Bscp.LocalRpc.Bootstrap
