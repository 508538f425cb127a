import Bscp.LocalRpc.BootstrapEvidence
import Bscp.LocalRpc.BootstrapServer

/-!
The two sides of the handshake together: what the client may conclude from a successful
`AssociateInitial`, and what holds in every run.
-/

namespace Bscp.LocalRpc.Bootstrap

def Place.answered : Place → Bool
  | .associated => true
  | .proven => true
  | .retiring .publish => true
  | .drained .publish => true
  | .retired .publish => true
  | .published => true
  | _ => false

def Place.checked : Place → Bool
  | .associated => false
  | place => place.answered

def Informed (c : Client) (v : Server) : Connect → Prop
  | .holding p place =>
      (∀ k, place = .calling k → (v.call k).request =
        some ⟨(c.channel p).id, (c.channel p).generation, (c.channel p).nonce⟩) ∧
      (place.answered = true → v.Associated (c.channel p).id (c.channel p).generation) ∧
      (place.checked = true → (c.channel p).proofCount = 1)
  | _ => True

structure Proved (c : Client) (v : Server) : Prop where
  informed : ∀ thread, Informed c v (c.connect thread)
  returned : ∀ p ∈ c.connected, v.Associated (c.channel p).id (c.channel p).generation ∧
    (c.channel p).proofCount = 1

theorem proved_start : Proved {} {} := ⟨fun _ => trivial, nofun⟩

section Steps

variable {config : Config} {life : Process → Life} {c next : Client} {v after : Server}

def Server.Recalls (v after : Server) : Prop :=
  ∀ k request, (v.call k).request = some request → (after.call k).request = some request

theorem recalls_setCall {k : Nat} {pc : CallPc}
    (same : ∀ request, (v.call k).request = some request → pc.request = some request) :
    v.Recalls (v.setCall k pc) := by
  intro j request asked
  by_cases hit : j = k
  · subst hit
    rw [show (v.setCall j pc).call j = pc from Function.update_self ..]
    exact same request asked
  · rw [show (v.setCall k pc).call j = v.call j from Function.update_of_ne hit _ _]
    exact asked

theorem serve_recalls {offers : Nat → OfferPc} (move : ServerStep config offers v after) :
    v.Recalls after := by
  cases move with
  | opens generation => exact fun _ _ => id
  | request k request fresh known =>
      refine recalls_setCall ?_
      rw [fresh]
      nofun
  | refuse here =>
      refine recalls_setCall ?_
      rw [here]
      exact fun _ => id
  | begin ok here living generation fresh =>
      rename_i k request
      refine @recalls_setCall v k _ ?_
      rw [here]
      cases ok <;> exact fun _ => id
  | callback here answered own =>
      refine recalls_setCall ?_
      rw [here]
      exact fun _ => id
  | callbackFails here =>
      refine recalls_setCall ?_
      rw [here]
      exact fun _ => id
  | settle here =>
      rename_i k request ok
      refine @recalls_setCall v k _ ?_
      rw [here]
      exact fun _ => id
  | close id => exact fun _ _ known => known
  | closeSession id => exact fun _ _ known => known

theorem answers_recall {event : Event} (answer : Answers event v after) : v.Recalls after := by
  cases event with
  | silent =>
      obtain rfl := answer
      exact fun _ _ => id
  | opens generation id =>
      obtain ⟨_, rfl⟩ := answer
      exact fun _ _ known => known
  | calls k request =>
      obtain ⟨fresh, _, rfl⟩ := answer
      refine recalls_setCall ?_
      rw [fresh]
      nofun
  | returns k =>
      obtain ⟨rfl, _⟩ := answer
      exact fun _ _ => id

/-- What is known stays known: the channel keeps its data and its count. -/
theorem informed_frame {p : Nat} {place : Place} (informed : Informed c v (.holding p place))
    (data : place.answered = true ∨ (∃ k, place = .calling k) → SameData (c.channel p) (next.channel p))
    (count : place.checked = true → (next.channel p).proofCount = (c.channel p).proofCount)
    (recalls : v.Recalls after) (onward : v.Onward after) :
    Informed next after (.holding p place) := by
  obtain ⟨calling, associated, proven⟩ := informed
  refine ⟨?_, ?_, ?_⟩
  · intro k here
    have same := data (.inr ⟨k, here⟩)
    rw [same.id, same.generation, same.nonce]
    exact recalls k _ (calling k here)
  · intro here
    have same := data (.inl here)
    rw [same.id, same.generation]
    exact (associated here).onward onward
  · intro here
    rw [count here]
    exact proven here

theorem answered_of_checked {place : Place} (checked : place.checked = true) : place.answered = true := by
  cases place with
  | associated => rfl
  | _ => exact checked

/-- A call goes on with what it knows. -/
theorem informed_on {p : Nat} {place onward : Place} (informed : Informed c v (.holding p place))
    (checked : place.checked = true) (other : ∀ k, onward ≠ .calling k) :
    Informed c v (.holding p onward) :=
  ⟨fun k here => absurd here (other k), fun _ => informed.2.1 (answered_of_checked checked),
    fun _ => informed.2.2 checked⟩

/-- A channel that was proved is past its draft. -/
theorem Evidence.kept (evidence : Evidence config life c) {p : Nat} (made : p < c.made)
    (count : (c.channel p).proofCount = 1) (frame : ConnectFrame c next) :
    Kept (c.channel p) (next.channel p) := by
  obtain kept | ⟨_, drafted⟩ := frame.channel p made
  · exact kept
  · have none' := (evidence.once p made).2 (.inl drafted.configured)
    rw [none'] at count
    cases count

/-- A call keeps what it knows while the client and the service go on. -/
theorem Proved.keeps (proved : Proved c v) (sound : ClientSound c) (evidence : Evidence config life c)
    (frame : ConnectFrame c next) (recalls : v.Recalls after) (onward : v.Onward after) (thread : Nat) :
    Informed next after (c.connect thread) := by
  have informed := proved.informed thread
  cases here : c.connect thread with
  | holding p place =>
      rw [here] at informed
      have kept : place.answered = true ∨ (∃ k, place = .calling k) →
          Kept (c.channel p) (next.channel p) := by
        intro late
        have inside : place.inside = true := by
          apply sound.inside_of here
          constructor
          · rintro rfl
            exact late.elim nofun nofun
          · rintro rfl
            exact late.elim nofun nofun
        obtain ⟨made, _, held⟩ := sound.holds here inside
        by_cases checked : place.checked = true
        · exact evidence.kept made (informed.2.2 checked) frame
        · -- Before the proof is looked at the channel is pending.
          have waits : c.pending = some p := by
            obtain answered | ⟨k, rfl⟩ := late
            · cases place with
              | associated => exact held.1
              | _ => exact absurd answered checked
            · exact held.1
          obtain kept | ⟨quiet, _⟩ := frame.channel p made
          · exact kept
          · exact nomatch quiet.symm.trans waits
      refine informed_frame informed (fun late => (kept late).data) ?_ recalls onward
      exact fun checked => (kept (.inl (answered_of_checked checked))).proofCount
  | _ => trivial

theorem Proved.connect (proved : Proved c v) (sound : ClientSound c) (evidence : Evidence config life c)
    (served : ServerSound v) {event : Event} (move : ConnectStep config life event c next)
    (answer : Answers event v after) : Proved next after := by
  have frame := sound.frame move
  have onward := answers_onward answer
  have still := proved.keeps sound evidence frame (answers_recall answer) onward
  have returned : ∀ p ∈ c.connected, after.Associated (next.channel p).id (next.channel p).generation ∧
      (next.channel p).proofCount = 1 := by
    intro p owned
    obtain ⟨associated, count⟩ := proved.returned p owned
    have kept := evidence.kept (sound.returned p owned).1 count frame
    rw [kept.data.id, kept.data.generation, kept.proofCount]
    exact ⟨associated.onward onward, count⟩
  -- The call that moves, and the others.
  have update {mover : Nat} {pc : Connect} (mine : Informed next after pc) (thread : Nat) :
      Informed next after (Function.update c.connect mover pc thread) := by
    by_cases same : thread = mover
    · rw [same, Function.update_self]
      exact mine
    · rw [Function.update_of_ne same]
      exact still thread
  have know {thread p : Nat} {place : Place} (here : c.connect thread = .holding p place) :
      Informed next after (.holding p place) := here ▸ still thread
  cases move with
  | calls call here =>
      rename_i thread p
      obtain ⟨_, _, rfl⟩ := answer
      refine ⟨update ⟨?_, nofun, nofun⟩, returned⟩
      intro k same
      cases same
      rw [show (Server.setCall v call _).call call = _ from Function.update_self ..]
      rfl
  | returns here =>
      rename_i thread p call
      obtain ⟨rfl, request, done⟩ := answer
      have asked := (know here).1 call rfl
      rw [done] at asked
      obtain rfl := Option.some.inj asked
      exact ⟨update ⟨nofun, fun _ => served.returned call _ done, nofun⟩, returned⟩
  | proven here proof =>
      exact ⟨update ⟨nofun, fun _ => (know here).2.1 rfl, fun _ => proof.2⟩, returned⟩
  | retire here retires listed =>
      rename_i thread p place after'
      cases place <;> cases retires
      · exact ⟨update (informed_on (know here) rfl nofun), returned⟩
      · exact ⟨update ⟨nofun, nofun, nofun⟩, returned⟩
      · exact ⟨update ⟨nofun, nofun, nofun⟩, returned⟩
  | unlisted here retires unlisted =>
      rename_i thread p place after'
      cases place <;> cases retires
      · exact ⟨update (informed_on (know here) rfl nofun), returned⟩
      · exact ⟨update ⟨nofun, nofun, nofun⟩, returned⟩
      · exact ⟨update ⟨nofun, nofun, nofun⟩, returned⟩
  | unregister here waited =>
      rename_i thread p after'
      cases after' with
      | publish => exact ⟨update (informed_on (know here) rfl nofun), returned⟩
      | fail => exact ⟨update ⟨nofun, nofun, nofun⟩, returned⟩
      | close => exact ⟨update ⟨nofun, nofun, nofun⟩, returned⟩
  | unregisterFails here =>
      rename_i thread p after'
      cases after' with
      | publish => exact ⟨update ⟨nofun, nofun, nofun⟩, returned⟩
      | fail => exact ⟨update ⟨nofun, nofun, nofun⟩, returned⟩
      | close => exact ⟨update trivial, returned⟩
  | drain here none' =>
      rename_i thread p after'
      cases after' with
      | publish => exact ⟨update (informed_on (know here) rfl nofun), returned⟩
      | fail => exact ⟨update ⟨nofun, nofun, nofun⟩, returned⟩
      | close => exact ⟨update ⟨nofun, nofun, nofun⟩, returned⟩
  | drainBusy here some' =>
      rename_i thread p after'
      cases after' with
      | publish => exact ⟨update ⟨nofun, nofun, nofun⟩, returned⟩
      | fail => exact ⟨update ⟨nofun, nofun, nofun⟩, returned⟩
      | close => exact ⟨update trivial, returned⟩
  | publish here live => exact ⟨update (informed_on (know here) rfl nofun), returned⟩
  | succeed here =>
      refine ⟨update trivial, ?_⟩
      intro q owned
      obtain rfl | owned := List.mem_cons.1 owned
      · exact ⟨(know here).2.1 rfl, (know here).2.2 rfl⟩
      · exact returned q owned
  | destroy here gone =>
      rename_i thread p after'
      cases after' with
      | publish => exact absurd rfl gone
      | fail => exact ⟨update ⟨nofun, nofun, nofun⟩, returned⟩
      | close => exact ⟨update trivial, returned⟩
  | shutdown owned => exact ⟨still, returned⟩
  | check => exact ⟨update trivial, returned⟩
  | busy => exact ⟨update trivial, returned⟩
  | guard => exact ⟨update trivial, returned⟩
  | allocateFails => exact ⟨update trivial, returned⟩
  | finish => exact ⟨update trivial, returned⟩
  | _ => exact ⟨update ⟨nofun, nofun, nofun⟩, returned⟩

/-- An offer does not touch a channel that was proved. -/
theorem Evidence.count_kept (evidence : Evidence config life c) (frame : OfferFrame c next) {p : Nat}
    (made : p < c.made) (count : (c.channel p).proofCount = 1) :
    (next.channel p).proofCount = (c.channel p).proofCount := by
  obtain same | ⟨_, awaiting, _⟩ := frame.channel p
  · rw [same]
  · have none' := (evidence.once p made).2 (.inr awaiting)
    rw [none'] at count
    cases count

theorem Proved.offer (proved : Proved c v) (sound : ClientSound c) (evidence : Evidence config life c)
    (move : OfferStep config life c next) : Proved next v := by
  have frame := move.frame
  constructor
  case informed =>
      intro thread
      rw [frame.connect]
      have informed := proved.informed thread
      cases here : c.connect thread with
      | holding p place =>
          rw [here] at informed
          refine informed_frame informed (fun _ => frame.data p) ?_ (fun _ _ => id) onward_refl
          intro checked
          have inside : place.inside = true := by
            apply sound.inside_of here
            constructor
            · rintro rfl
              cases checked
            · rintro rfl
              cases checked
          exact evidence.count_kept frame (sound.holds here inside).1 (informed.2.2 checked)
      | _ => trivial
  case returned =>
      rw [frame.connected]
      intro p owned
      obtain ⟨associated, count⟩ := proved.returned p owned
      rw [(frame.data p).id, (frame.data p).generation,
        evidence.count_kept frame (sound.returned p owned).1 count]
      exact ⟨associated, count⟩

theorem Proved.serve (proved : Proved c v) (served : ServerSound v) {offers : Nat → OfferPc}
    (move : ServerStep config offers v after) : Proved c after := by
  have onward := served.onward move
  constructor
  case informed =>
      intro thread
      have informed := proved.informed thread
      cases here : c.connect thread with
      | holding p place =>
          rw [here] at informed
          exact informed_frame informed (fun _ => ⟨rfl, rfl, rfl, rfl⟩) (fun _ => rfl) (serve_recalls move)
            onward
      | _ => trivial
  case returned =>
      intro p owned
      obtain ⟨associated, count⟩ := proved.returned p owned
      exact ⟨associated.onward onward, count⟩

end Steps

/-! Every run. -/

structure Sound (config : Config) (s : State) : Prop where
  distinct : Distinct config s.life
  client : ClientSound s.client
  evidence : Evidence config s.life s.client
  server : ServerSound s.server
  proved : Proved s.client s.server

section Runs

variable {config : Config} {s after : State}

theorem sound_start : Sound config (State.start config) where
  distinct := by
    intro one other first second _
    have self {process : Process} (alive : (State.start config).life process = .alive) :
        process = config.self := by
      by_contra apart
      exact nomatch (if_neg apart).symm.trans alive
    exact (self first).trans (self second).symm
  client := client_start
  evidence := evidence_start
  server := server_start
  proved := proved_start

theorem distinct_spawn (distinct : Distinct config s.life) {process : Process}
    (apart : ∀ other, s.life other = .alive → config.pid other ≠ config.pid process) :
    Distinct config (Function.update s.life process .alive) := by
  intro one other first second same
  by_cases left : one = process
  · by_cases right : other = process
    · exact left.trans right.symm
    · rw [Function.update_of_ne right] at second
      exact absurd same.symm (left ▸ apart other second)
  · rw [Function.update_of_ne left] at first
    by_cases right : other = process
    · exact absurd same (right ▸ apart one first)
    · rw [Function.update_of_ne right] at second
      exact distinct one other first second same

theorem distinct_exit (distinct : Distinct config s.life) {process : Process} :
    Distinct config (Function.update s.life process .exited) := by
  have before {one : Process} (alive : Function.update s.life process .exited one = .alive) :
      s.life one = .alive := by
    by_cases hit : one = process
    · rw [hit, Function.update_self] at alive
      cases alive
    · rw [Function.update_of_ne hit] at alive
      exact alive
  intro one other first second same
  exact distinct one other (before first) (before second) same

theorem evidence_spawn (evidence : Evidence config s.life s.client) (client : ClientSound s.client)
    {process : Process} (unborn : s.life process = .unborn) :
    Evidence config (Function.update s.life process .alive) s.client := by
  have different {other : Process} (known : s.life other ≠ .unborn) : other ≠ process :=
    fun same => known (same ▸ unborn)
  refine evidence.live client ?_ ?_
  · intro other known
    rw [Function.update_of_ne (different known)]
    exact known
  · intro other known alive
    rw [Function.update_of_ne (different known)] at alive
    exact alive

theorem evidence_exit (evidence : Evidence config s.life s.client) (client : ClientSound s.client)
    {process : Process} (alive : s.life process = .alive) :
    Evidence config (Function.update s.life process .exited) s.client := by
  refine evidence.live client ?_ ?_
  · intro other known
    by_cases hit : other = process
    · rw [hit, Function.update_self]
      nofun
    · rw [Function.update_of_ne hit]
      exact known
  · intro other _ live
    by_cases hit : other = process
    · rw [hit]
      exact alive
    · rw [Function.update_of_ne hit] at live
      exact live

theorem Sound.step (sound : Sound config s) (step : Step config s after) : Sound config after := by
  obtain ⟨distinct, client, evidence, server, proved⟩ := sound
  cases step with
  | spawn process unborn apart =>
      exact ⟨distinct_spawn distinct apart, client, evidence_spawn evidence client unborn, server, proved⟩
  | exit process alive =>
      exact ⟨distinct_exit distinct, client, evidence_exit evidence client alive, server, proved⟩
  | offer move =>
      exact ⟨distinct, client.offer move, evidence.offer client distinct move, server,
        proved.offer client evidence move⟩
  | connect move answer =>
      exact ⟨distinct, client.connect move, evidence.connect client move, server.answers answer,
        proved.connect client evidence server move answer⟩
  | serve move => exact ⟨distinct, client, evidence, server.step move, proved.serve server move⟩

theorem reachable_sound (reached : Reachable config s) : Sound config s :=
  Machine.reach_keeps sound_start (fun _ _ sound step => sound.step step) reached

/-- Once `retireCallback` has begun for a channel, no offer is accepted for it. -/
theorem Sound.retired_step (sound : Sound config s) (step : Step config s after) {p : Nat}
    (retiring : (s.client.channel p).retiring = true) :
    (after.client.channel p).retiring = true ∧
      after.client.accepted.filter (fun entry => entry.1 = p) =
        s.client.accepted.filter (fun entry => entry.1 = p) := by
  cases step with
  | spawn process unborn apart => exact ⟨retiring, rfl⟩
  | exit process alive => exact ⟨retiring, rfl⟩
  | serve move => exact ⟨retiring, rfl⟩
  | offer move =>
      refine ⟨(move.frame.retiring p).trans retiring, ?_⟩
      obtain ⟨same, _⟩ | ⟨k, q, offer, _, waits, awaiting, accepted, _⟩ := move.accepts
      · rw [same]
      · have apart : q ≠ p := by
          rintro rfl
          exact sound.client.retired q retiring waits awaiting
        rw [accepted, List.filter_cons_of_neg]
        simpa using apart
  | connect move answer =>
      have frame := sound.client.frame move
      refine ⟨?_, by rw [frame.accepted]⟩
      obtain kept | ⟨_, drafted⟩ := frame.channel p (sound.evidence.begun p retiring)
      · exact kept.retiring retiring
      · exact drafted.retiring.trans retiring

theorem Sound.retired_run (sound : Sound config s) {p : Nat}
    (retiring : (s.client.channel p).retiring = true) {later : State}
    (run : Machine.Reach (Step config) s later) :
    (Sound config later ∧ (later.client.channel p).retiring = true) ∧
      later.client.accepted.filter (fun entry => entry.1 = p) =
        s.client.accepted.filter (fun entry => entry.1 = p) := by
  induction run with
  | refl => exact ⟨⟨sound, retiring⟩, rfl⟩
  | tail _ step held =>
      obtain ⟨⟨kept, begun⟩, same⟩ := held
      obtain ⟨still, again⟩ := kept.retired_step step begun
      exact ⟨⟨kept.step step, still⟩, again.trans same⟩

theorem Sound.accepted_once (sound : Sound config s) (p : Nat) :
    s.client.accepted.countP (fun entry => entry.1 = p) ≤ 1 := by
  by_cases made : p < s.client.made
  · rw [sound.evidence.count p made]
    exact (sound.evidence.once p made).1
  · have none' : s.client.accepted.countP (fun entry => entry.1 = p) = 0 := by
      rw [List.countP_eq_zero]
      intro entry listed hit
      exact made (of_decide_eq_true hit ▸ (sound.evidence.accepted entry listed).1)
    rw [none']
    exact Nat.zero_le 1

theorem Sound.associations (sound : Sound config s) (step : Step config s after) :
    s.server.Onward after.server := by
  cases step with
  | connect move answer => exact answers_onward answer
  | serve move => exact sound.server.onward move
  | _ => exact onward_refl

/-- The guard is the only way in. -/
theorem ConnectStep.enters {life : Process → Life} {c next : Client} {event : Event}
    (move : ConnectStep config life event c next) {thread : Nat}
    (out : (c.connect thread).inside = false) (inside : (next.connect thread).inside = true) :
    c.handshakeBusy = false := by
  -- Whoever moves on past the guard has been there.
  have update {mover : Nat} {pc : Connect}
      (mine : pc.inside = true → (c.connect mover).inside = true ∨ c.handshakeBusy = false)
      (inside : (Function.update c.connect mover pc thread).inside = true) : c.handshakeBusy = false := by
    by_cases same : thread = mover
    · subst same
      rw [Function.update_self] at inside
      obtain before | free := mine inside
      · exact nomatch out.symm.trans before
      · exact free
    · rw [Function.update_of_ne same] at inside
      exact nomatch out.symm.trans inside
  have late {mover p : Nat} {place : Place} {pc : Connect} (here : c.connect mover = .holding p place)
      (from' : pc.inside = true → place.inside = true)
      (inside : (Function.update c.connect mover pc thread).inside = true) : c.handshakeBusy = false := by
    refine update ?_ inside
    intro there
    rw [here]
    exact .inl (from' there)
  cases move with
  | guard here free => exact free
  | check => exact update (by nofun) inside
  | busy => exact update (by nofun) inside
  | allocateFails => exact update (by nofun) inside
  | allocate here => exact update (fun _ => by rw [here]; exact .inl rfl) inside
  | fails here fallible =>
      rename_i place
      refine late here ?_ inside
      intro _
      cases place with
      | retired after => cases after <;> first | rfl | cases fallible
      | _ => first | rfl | cases fallible
  | retire here retires listed =>
      rename_i place after'
      refine late here ?_ inside
      cases place <;> cases retires <;> exact id
  | unlisted here retires unlisted =>
      rename_i place after'
      refine late here ?_ inside
      cases place <;> cases retires <;> exact id
  | unregister here waited =>
      rename_i after'
      refine late here ?_ inside
      cases after' <;> exact id
  | unregisterFails here =>
      rename_i after'
      refine late here ?_ inside
      cases after' <;> exact id
  | drain here none' =>
      rename_i after'
      refine late here ?_ inside
      cases after' <;> exact id
  | drainBusy here some' =>
      rename_i after'
      refine late here ?_ inside
      cases after' <;> exact id
  | destroy here gone =>
      rename_i after'
      refine late here ?_ inside
      cases after' <;> exact id
  | close thread here owned => exact update (by nofun) inside
  | shutdown owned => exact nomatch out.symm.trans inside
  | succeed here => exact update (by nofun) inside
  | finish here => exact update (by nofun) inside
  | opens id here => exact late here (fun _ => rfl) inside
  | offer nonce here free => exact late here (fun _ => rfl) inside
  | registerFails here => exact late here (fun _ => rfl) inside
  | register here => exact late here (fun _ => rfl) inside
  | registered here => exact late here (fun _ => rfl) inside
  | calls call here => exact late here (fun _ => rfl) inside
  | returns here => exact late here (fun _ => rfl) inside
  | proven here proof => exact late here (fun _ => rfl) inside
  | unproven here missing => exact late here (fun _ => rfl) inside
  | publish here live => exact late here (fun _ => rfl) inside

/-- Who passes the guard finds nobody past it, and nothing pending. -/
theorem Sound.guarded (sound : Sound config s) (step : Step config s after) {thread : Nat}
    (out : (s.client.connect thread).inside = false) (inside : (after.client.connect thread).inside = true) :
    s.client.pending = none ∧ ∀ other, (s.client.connect other).inside = false := by
  have free : s.client.handshakeBusy = false := by
    cases step with
    | connect move answer => exact move.enters out inside
    | offer move =>
        rw [move.frame.connect, out] at inside
        cases inside
    | _ => exact nomatch out.symm.trans inside
  refine ⟨sound.client.free free, ?_⟩
  intro other
  by_contra there
  rw [Bool.not_eq_false] at there
  exact nomatch free.symm.trans (sound.client.busy other there)

end Runs

/-- In every state that a run of the two processes reaches. -/
theorem handshake_accepts_once_and_associates {config : Config} {s : State}
    (reached : Reachable config s) :
    (∀ p, s.client.accepted.countP (fun entry => entry.1 = p) ≤ 1) ∧
      (∀ p offer, (p, offer) ∈ s.client.accepted →
        offer.nonce = (s.client.channel p).nonce ∧
          offer.generation = (s.client.channel p).generation ∧ offer.id = (s.client.channel p).id ∧
          offer.caller = (s.client.channel p).launch) ∧
      (∀ p later, (s.client.channel p).retiring = true → Machine.Reach (Step config) s later →
        later.client.accepted.filter (fun entry => entry.1 = p) =
          s.client.accepted.filter (fun entry => entry.1 = p)) ∧
      (∀ after, Step config s after → ∀ id ≤ s.server.opened,
        Moves (s.server.channel id).association (after.server.channel id).association) ∧
      (∀ p ∈ s.client.connected,
        (s.server.channel (s.client.channel p).id).generation = (s.client.channel p).generation ∧
          (s.server.channel (s.client.channel p).id).association = .associated ∧
          (s.client.channel p).proofCount = 1) ∧
      (s.client.pending ≠ none → s.client.handshakeBusy = true) ∧
      (∀ after thread, Step config s after → (s.client.connect thread).inside = false →
        (after.client.connect thread).inside = true →
        s.client.pending = none ∧ ∀ other, (s.client.connect other).inside = false) := by
  have sound := reachable_sound reached
  refine ⟨sound.accepted_once, ?_, ?_, ?_, ?_, ?_, ?_⟩
  · intro p offer listed
    obtain ⟨_, _, caller, _, _, nonce, generation, id⟩ := sound.evidence.accepted (p, offer) listed
    exact ⟨nonce, generation, id, caller⟩
  · intro p later retiring run
    exact (sound.retired_run retiring run).2
  · intro after step id known
    exact ((sound.associations step).2 id known).1
  · intro p owned
    obtain ⟨⟨_, associated, generation⟩, count⟩ := sound.proved.returned p owned
    exact ⟨generation, associated, count⟩
  · intro pending
    by_contra free
    rw [Bool.not_eq_true] at free
    exact pending (sound.client.free free)
  · intro after thread step out inside
    exact sound.guarded step out inside

/-! One handshake that succeeds. -/

def sampleConfig : Config := { pid := id, self := 0, service := 1 }

def sampleOffer : Offer where
  caller := 1
  sender := 1
  actualClient := 0
  nonce := Vector.replicate 32 5
  generation := 7
  id := 1
  protocol := 1

def sampleRequest : Request := ⟨1, 7, sampleOffer.nonce⟩

/-- A handshake from the beginning to its end: process 0 connects to process 1. -/
theorem handshake_completes : ∃ s, Reachable sampleConfig s ∧ s.client.connected = [0] := by
  have apart : ∀ other, (State.start sampleConfig).life other = .alive → other ≠ 1 := by
    rintro other alive rfl
    cases alive
  have spawned := Relation.ReflTransGen.tail .refl (@Step.spawn sampleConfig _ 1 rfl apart)
  have checked := spawned.tail (.connect (.check 0 1 7 rfl rfl) rfl)
  have guarded := checked.tail (.connect (@ConnectStep.guard _ _ _ 0 1 7 rfl rfl) rfl)
  have allocated := guarded.tail (.connect (@ConnectStep.allocate _ _ _ 0 1 7 rfl) rfl)
  have opened := allocated.tail (.connect (@ConnectStep.opens _ _ _ 0 0 1 rfl) ⟨rfl, rfl⟩)
  have offered := opened.tail (.connect (@ConnectStep.offer _ _ _ 0 0 sampleOffer.nonce rfl rfl) rfl)
  have listening := offered.tail (.connect (@ConnectStep.register _ _ _ 0 0 rfl) rfl)
  have ready := listening.tail (.connect (@ConnectStep.registered _ _ _ 0 0 rfl) rfl)
  have calling := ready.tail (.connect (@ConnectStep.calls _ _ _ 0 0 0 rfl) ⟨rfl, by decide, rfl⟩)
  have begun := calling.tail (.serve (@ServerStep.begin _ _ _ 0 sampleRequest true rfl ⟨rfl, rfl⟩ rfl rfl))
  have called := begun.tail (.offer (.begin 0 sampleOffer rfl rfl rfl))
  have borrowed := called.tail (.offer (@OfferStep.borrow _ _ _ 0 0 sampleOffer rfl rfl rfl))
  have sent := borrowed.tail (.offer (@OfferStep.sender _ _ _ 0 0 sampleOffer rfl rfl rfl rfl rfl))
  have known := sent.tail (.offer (@OfferStep.client _ _ _ 0 0 sampleOffer rfl rfl rfl))
  have matched := known.tail (.offer (@OfferStep.challenge _ _ _ 0 0 sampleOffer rfl rfl rfl rfl rfl))
  have accepted := matched.tail (.offer (@OfferStep.accept _ _ _ 0 0 sampleOffer rfl rfl rfl ⟨rfl, rfl, rfl⟩))
  have released := accepted.tail (.offer (@OfferStep.release _ _ _ 0 0 sampleOffer true true rfl id))
  have answered := released.tail (.offer (@OfferStep.answer _ _ _ 0 sampleOffer true rfl))
  have settling := answered.tail
    (.serve (@ServerStep.callback _ _ _ 0 0 sampleRequest sampleOffer rfl rfl ⟨rfl, rfl, rfl, rfl, rfl⟩))
  have settled := settling.tail (.serve (@ServerStep.settle _ _ _ 0 sampleRequest true rfl))
  have associated := settled.tail (.connect (@ConnectStep.returns _ _ _ 0 0 0 rfl) ⟨rfl, _, rfl⟩)
  have proven := associated.tail (.connect (@ConnectStep.proven _ _ _ 0 0 rfl ⟨rfl, rfl⟩) rfl)
  have retiring := proven.tail (.connect (@ConnectStep.retire _ _ _ 0 0 .proven .publish rfl rfl rfl) rfl)
  have drained := retiring.tail (.connect (@ConnectStep.unregister _ _ _ 0 0 .publish rfl (by
    intro k
    cases k <;> rfl)) rfl)
  have retired := drained.tail (.connect (@ConnectStep.drain _ _ _ 0 0 .publish rfl rfl) rfl)
  have published := retired.tail (.connect (@ConnectStep.publish _ _ _ 0 0 rfl ⟨rfl, rfl⟩) rfl)
  have connected := published.tail (.connect (@ConnectStep.succeed _ _ _ 0 0 rfl) rfl)
  exact ⟨_, connected, rfl⟩

theorem handshake_associates : ∃ s, Reachable sampleConfig s ∧ s.client.connected = [0] ∧
    (s.server.channel (s.client.channel 0).id).association = .associated := by
  obtain ⟨s, reached, connected⟩ := handshake_completes
  have returned := (handshake_accepts_once_and_associates reached).2.2.2.2.1
  exact ⟨s, reached, connected, (returned 0 (by rw [connected]; exact List.mem_singleton.2 rfl)).2.1⟩

end Bscp.LocalRpc.Bootstrap
