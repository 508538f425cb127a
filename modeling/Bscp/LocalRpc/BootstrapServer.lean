import Bscp.LocalRpc.Bootstrap

/-!
The service's side of the handshake: the calls that are at work on a channel, and how its
association moves.
-/

namespace Bscp.LocalRpc.Bootstrap

inductive Moves : Association → Association → Prop
  | stays (association : Association) : Moves association association
  | begins : Moves .unassociated .associating
  | succeeds : Moves .associating .associated
  | fails : Moves .associating .refused

namespace CallPc

def request : CallPc → Option Request
  | .absent => none
  | .called request => some request
  | .callback request => some request
  | .settling request _ => some request
  | .returned request _ => some request

def works : CallPc → Option Request
  | .callback request => some request
  | .settling request _ => some request
  | _ => none

end CallPc

def Server.Associated (v : Server) (id : Nat) (generation : UInt64) : Prop :=
  id ≤ v.opened ∧ (v.channel id).association = .associated ∧ (v.channel id).generation = generation

structure ServerSound (v : Server) : Prop where
  known : ∀ k request, (v.call k).request = some request → request.channel ≤ v.opened
  works : ∀ k request, (v.call k).works = some request →
    (v.channel request.channel).association = .associating ∧
      (v.channel request.channel).generation = request.generation
  alone : ∀ k j first second, (v.call k).works = some first → (v.call j).works = some second →
    first.channel = second.channel → k = j
  returned : ∀ k request, v.call k = .returned request true →
    v.Associated request.channel request.generation

theorem server_start : ServerSound {} where
  known := nofun
  works := nofun
  alone := nofun
  returned := nofun

namespace ServerSound

variable {v : Server}

theorem request_of_works {pc : CallPc} {request : Request} (works : pc.works = some request) :
    pc.request = some request := by
  cases pc with
  | callback => exact works
  | settling => exact works
  | absent => cases works
  | called => cases works
  | returned => cases works

/-- A channel that no call knows yet. -/
theorem openChannel (sound : ServerSound v) (generation : UInt64) :
    ServerSound (v.openChannel generation) := by
  have old {id : Nat} (known : id ≤ v.opened) :
      (v.openChannel generation).channel id = v.channel id :=
    Function.update_of_ne (Nat.ne_of_lt (Nat.lt_succ_of_le known)) _ _
  constructor
  case known =>
      intro k request asked
      exact Nat.le_succ_of_le (sound.known k request asked)
  case works =>
      intro k request works
      rw [old (sound.known k request (request_of_works works))]
      exact sound.works k request works
  case alone => exact sound.alone
  case returned =>
      intro k request returned
      obtain ⟨known, associated, same⟩ := sound.returned k request returned
      refine ⟨Nat.le_succ_of_le known, ?_, ?_⟩
      · rw [old known]
        exact associated
      · rw [old known]
        exact same

/-- A call that is not at work afterwards, the channels left alone. -/
theorem setCall (sound : ServerSound v) {k : Nat} {pc : CallPc}
    (known : ∀ request, pc.request = some request → request.channel ≤ v.opened)
    (works : ∀ request, pc.works = some request → (v.call k).works = some request)
    (returned : ∀ request, pc = .returned request true → v.Associated request.channel request.generation) :
    ServerSound (v.setCall k pc) := by
  have before {j : Nat} {request : Request} (at' : ((v.setCall k pc).call j).works = some request) :
      (v.call j).works = some request := by
    by_cases same : j = k
    · subst same
      rw [show (v.setCall j pc).call j = pc from Function.update_self ..] at at'
      exact works request at'
    · rw [show (v.setCall k pc).call j = v.call j from Function.update_of_ne same _ _] at at'
      exact at'
  constructor
  case known =>
      intro j request asked
      by_cases same : j = k
      · subst same
        rw [show (v.setCall j pc).call j = pc from Function.update_self ..] at asked
        exact known request asked
      · rw [show (v.setCall k pc).call j = v.call j from Function.update_of_ne same _ _] at asked
        exact sound.known j request asked
  case works => exact fun j request at' => sound.works j request (before at')
  case alone => exact fun i j first second one two => sound.alone i j first second (before one) (before two)
  case returned =>
      intro j request at'
      by_cases same : j = k
      · subst same
        rw [show (v.setCall j pc).call j = pc from Function.update_self ..] at at'
        exact returned request at'
      · rw [show (v.setCall k pc).call j = v.call j from Function.update_of_ne same _ _] at at'
        exact sound.returned j request at'

/-- A flag of a channel. -/
theorem setFlags (sound : ServerSound v) {id : Nat} {channel : ServerChannel}
    (association : channel.association = (v.channel id).association)
    (generation : channel.generation = (v.channel id).generation) :
    ServerSound (v.setChannel id channel) := by
  have same (other : Nat) : ((v.setChannel id channel).channel other).association =
      (v.channel other).association ∧
      ((v.setChannel id channel).channel other).generation = (v.channel other).generation := by
    by_cases hit : other = id
    · subst hit
      rw [show (v.setChannel other channel).channel other = channel from Function.update_self ..]
      exact ⟨association, generation⟩
    · rw [show (v.setChannel id channel).channel other = v.channel other from
        Function.update_of_ne hit _ _]
      exact ⟨rfl, rfl⟩
  constructor
  case known => exact sound.known
  case works =>
      intro k request works
      rw [(same request.channel).1, (same request.channel).2]
      exact sound.works k request works
  case alone => exact sound.alone
  case returned =>
      intro k request returned
      obtain ⟨known, associated, made⟩ := sound.returned k request returned
      exact ⟨known, (same request.channel).1.trans associated, (same request.channel).2.trans made⟩

section Lock

variable {k : Nat} {request : Request} {pc : CallPc} {association : Association}

/-- A call has the channel's lock, and no other call rests on the channel as it was. -/
theorem setBoth (sound : ServerSound v) (asked : (v.call k).request = some request)
    (keeps : pc.request = some request)
    (works : ∀ mine, pc.works = some mine → association = .associating ∧
      (v.channel request.channel).generation = request.generation)
    (returned : pc = .returned request true →
      association = .associated ∧ (v.channel request.channel).generation = request.generation)
    (others : ∀ j other, j ≠ k → (v.call j).works = some other → other.channel ≠ request.channel)
    (unmade : (v.channel request.channel).association ≠ .associated) :
    ServerSound ((v.setCall k pc).setChannel request.channel
      { v.channel request.channel with association := association }) := by
  -- The channel of the request, the other channels, and the calls, afterwards.
  let after := (v.setCall k pc).setChannel request.channel
    { v.channel request.channel with association := association }
  have mine : after.channel request.channel =
      { v.channel request.channel with association := association } := Function.update_self ..
  have theirs {id : Nat} (apart : id ≠ request.channel) : after.channel id = v.channel id :=
    Function.update_of_ne apart _ _
  have own : after.call k = pc := Function.update_self ..
  have rest {j : Nat} (apart : j ≠ k) : after.call j = v.call j := Function.update_of_ne apart _ _
  have known := sound.known k request asked
  have worker {pc : CallPc} {one other : Request} (working : pc.works = some one)
      (asks : pc.request = some other) : one = other :=
    Option.some.inj ((request_of_works working).symm.trans asks)
  constructor
  case known =>
      intro j other asks
      by_cases same : j = k
      · rw [same, show after.call k = pc from own, keeps] at asks
        cases asks
        exact known
      · rw [rest same] at asks
        exact sound.known j other asks
  case works =>
      intro j other working
      by_cases same : j = k
      · rw [same, own] at working
        obtain ⟨associating, generation⟩ := works other working
        obtain rfl := worker working keeps
        rw [mine]
        exact ⟨associating, generation⟩
      · rw [rest same] at working
        rw [theirs (others j other same working)]
        exact sound.works j other working
  case alone =>
      intro i j first second one two same
      by_cases hit : i = k
      · by_cases too : j = k
        · exact hit.trans too.symm
        · rw [hit, own] at one
          rw [rest too] at two
          rw [worker one keeps] at same
          exact absurd same.symm (others j second too two)
      · rw [rest hit] at one
        by_cases too : j = k
        · rw [too, own] at two
          rw [worker two keeps] at same
          exact absurd same (others i first hit one)
        · rw [rest too] at two
          exact sound.alone i j first second one two same
  case returned =>
      intro j other done
      by_cases same : j = k
      · rw [same, own] at done
        subst done
        obtain rfl := Option.some.inj keeps
        obtain ⟨associated, generation⟩ := returned rfl
        refine ⟨known, ?_, ?_⟩
        · rw [mine]
          exact associated
        · rw [mine]
          exact generation
      · rw [rest same] at done
        obtain ⟨old, associated, generation⟩ := sound.returned j other done
        have apart : other.channel ≠ request.channel := by
          intro hit
          rw [hit] at associated
          exact unmade associated
        refine ⟨old, ?_, ?_⟩
        · rw [theirs apart]
          exact associated
        · rw [theirs apart]
          exact generation

end Lock

variable {config : Config} {offers : Nat → OfferPc} {next : Server}

theorem step (sound : ServerSound v) (move : ServerStep config offers v next) : ServerSound next := by
  cases move with
  | opens generation => exact sound.openChannel generation
  | request k request fresh known =>
      refine sound.setCall ?_ nofun nofun
      intro other asked
      cases asked
      exact known
  | refuse here =>
      rename_i k request
      refine sound.setCall ?_ nofun nofun
      intro other asked
      exact sound.known k other (by rw [here]; exact asked)
  | begin ok here living generation fresh =>
      rename_i k request
      have others : ∀ j other, j ≠ k → (v.call j).works = some other → other.channel ≠ request.channel := by
        intro j other _ working same
        have associating := (sound.works j other working).1
        rw [same, fresh] at associating
        cases associating
      have asked : (v.call k).request = some request := by rw [here]; rfl
      have unmade : (v.channel request.channel).association ≠ .associated := by rw [fresh]; nofun
      cases ok with
      | true => exact sound.setBoth asked rfl (fun _ _ => ⟨rfl, generation⟩) nofun others unmade
      | false => exact sound.setBoth asked rfl (fun _ _ => ⟨rfl, generation⟩) nofun others unmade
  | callback here answered own =>
      rename_i k o request offer
      refine sound.setCall ?_ ?_ nofun
      · intro other asked
        exact sound.known k other (by rw [here]; exact asked)
      · intro other working
        rw [here]
        exact working
  | callbackFails here =>
      rename_i k request
      refine sound.setCall ?_ ?_ nofun
      · intro other asked
        exact sound.known k other (by rw [here]; exact asked)
      · intro other working
        rw [here]
        exact working
  | settle here =>
      rename_i k request ok
      have working : (v.call k).works = some request := by rw [here]; rfl
      obtain ⟨associating, generation⟩ := sound.works k request working
      have unmade : (v.channel request.channel).association ≠ .associated := by rw [associating]; nofun
      refine sound.setBoth (request_of_works working) rfl nofun ?_ ?_ unmade
      · intro done
        obtain ⟨_, made⟩ := CallPc.returned.inj done
        rw [made]
        exact ⟨rfl, generation⟩
      · intro j other apart working' same
        exact apart (sound.alone j k other request working' working same)
  | close id => exact sound.setFlags rfl rfl
  | closeSession id => exact sound.setFlags rfl rfl

theorem answers (sound : ServerSound v) {event : Event} (answer : Answers event v next) :
    ServerSound next := by
  cases event with
  | silent =>
      obtain rfl := answer
      exact sound
  | opens generation id =>
      obtain ⟨_, rfl⟩ := answer
      exact sound.openChannel generation
  | calls k request =>
      obtain ⟨_, known, rfl⟩ := answer
      refine sound.setCall ?_ nofun nofun
      intro other asked
      cases asked
      exact known
  | returns k =>
      obtain ⟨rfl, _⟩ := answer
      exact sound

end ServerSound

/-! How the associations move. -/

section Moves

variable {v next : Server} {config : Config} {offers : Nat → OfferPc}

def Server.Onward (v next : Server) : Prop :=
  v.opened ≤ next.opened ∧ ∀ id ≤ v.opened,
    Moves (v.channel id).association (next.channel id).association ∧
      (next.channel id).generation = (v.channel id).generation

theorem onward_refl : v.Onward v := ⟨Nat.le_refl _, fun _ _ => ⟨.stays _, rfl⟩⟩

theorem onward_openChannel (generation : UInt64) : v.Onward (v.openChannel generation) := by
  refine ⟨Nat.le_succ _, ?_⟩
  intro id known
  rw [show (v.openChannel generation).channel id = v.channel id from
    Function.update_of_ne (Nat.ne_of_lt (Nat.lt_succ_of_le known)) _ _]
  exact ⟨.stays _, rfl⟩

theorem onward_setChannel {id : Nat} {channel : ServerChannel}
    (moves : Moves (v.channel id).association channel.association)
    (generation : channel.generation = (v.channel id).generation) : v.Onward (v.setChannel id channel) := by
  refine ⟨Nat.le_refl _, ?_⟩
  intro other _
  by_cases hit : other = id
  · subst hit
    rw [show (v.setChannel other channel).channel other = channel from Function.update_self ..]
    exact ⟨moves, generation⟩
  · rw [show (v.setChannel id channel).channel other = v.channel other from Function.update_of_ne hit _ _]
    exact ⟨.stays _, rfl⟩

theorem ServerSound.onward (sound : ServerSound v) (move : ServerStep config offers v next) :
    v.Onward next := by
  cases move with
  | opens generation => exact onward_openChannel generation
  | begin ok here living generation fresh =>
      rename_i k request
      refine @onward_setChannel (v.setCall k _) _ _ ?_ rfl
      rw [show ((v.setCall k _).channel request.channel).association = .unassociated from fresh]
      exact .begins
  | settle here =>
      rename_i k request ok
      have associating := (sound.works k request (by rw [here]; rfl)).1
      refine @onward_setChannel (v.setCall k _) _ _ ?_ rfl
      rw [show ((v.setCall k _).channel request.channel).association = .associating from associating]
      cases v.settles request ok with
      | true => exact .succeeds
      | false => exact .fails
  | close id => exact onward_setChannel (.stays _) rfl
  | closeSession id => exact onward_setChannel (.stays _) rfl
  | _ => exact onward_refl

theorem answers_onward {event : Event} (answer : Answers event v next) : v.Onward next := by
  cases event with
  | silent =>
      obtain rfl := answer
      exact onward_refl
  | opens generation id =>
      obtain ⟨_, rfl⟩ := answer
      exact onward_openChannel generation
  | calls k request =>
      obtain ⟨_, _, rfl⟩ := answer
      exact onward_refl
  | returns k =>
      obtain ⟨rfl, _⟩ := answer
      exact onward_refl

/-- An association that is made stays. -/
theorem Server.Associated.onward {id : Nat} {generation : UInt64} (made : v.Associated id generation)
    (onward : v.Onward next) : next.Associated id generation := by
  obtain ⟨known, associated, same⟩ := made
  obtain ⟨moves, kept⟩ := onward.2 id known
  refine ⟨Nat.le_trans known onward.1, ?_, kept.trans same⟩
  rw [associated] at moves
  generalize (next.channel id).association = association at moves
  cases moves with
  | stays => rfl

end Moves

end Bscp.LocalRpc.Bootstrap
