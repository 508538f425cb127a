import Bscp.LocalRpc.Bootstrap

/-!
The client's side of the handshake: one `InitialConnect` at a time is past the guard, the
callback interface is silent while nothing is pending, and what each call relies on.
-/

namespace Bscp.LocalRpc.Bootstrap

/-- No offer is running, and none can begin. -/
def Client.Silent (c : Client) : Prop := c.interface = false ∧ ∀ k, (c.offer k).running = false

def Place.inside : Place → Bool
  | .closing => false
  | .retiring .close => false
  | .drained .close => false
  | .retired .close => false
  | _ => true

def Connect.inside : Connect → Bool
  | .guarded _ _ => true
  | .holding _ place => place.inside
  | _ => false

def Held (c : Client) (p : Nat) : Place → Prop
  | .allocated => c.pending = none ∧ (c.channel p).stage = .configured ∧
      (c.channel p).registered = false ∧ (c.channel p).retiring = false
  | .opened => c.pending = none ∧ (c.channel p).stage = .configured ∧
      (c.channel p).registered = false ∧ (c.channel p).retiring = false
  | .offered => c.pending = some p ∧ c.Silent ∧ (c.channel p).registered = false
  | .listening => c.pending = some p
  | .ready => c.pending = some p ∧ (c.channel p).registered = true
  | .calling _ => c.pending = some p ∧ (c.channel p).registered = true
  | .associated => c.pending = some p ∧ (c.channel p).registered = true
  | .proven => c.pending = some p ∧ (c.channel p).registered = true
  | .failing => (c.pending = some p ∧ (c.channel p).registered = true) ∨
      (c.pending = none ∧ (c.channel p).registered = false)
  | .retiring _ => c.pending = some p ∧ (c.channel p).registered = true
  | .drained _ => c.pending = some p ∧ c.Silent ∧ (c.channel p).registered = true
  | .retired _ => c.pending = none ∧ (c.channel p).registered = false
  | .published => c.pending = none ∧ (c.channel p).registered = false
  | .destroyed => c.pending = none ∨ c.pending = some p
  | .closing => True

/-- A call past the guard has a channel of its own; one that closes has a channel that was
returned, whose callback is retired. -/
def Fits (c : Client) : Connect → Prop
  | .idle => True
  | .checked _ _ => True
  | .guarded _ _ => c.pending = none
  | .holding p place =>
      (place.inside = true ∧ p < c.made ∧ p ∉ c.connected ∧ Held c p place) ∨
        ((place = .closing ∨ place = .retired .close) ∧ p ∈ c.connected)

structure ClientSound (c : Client) : Prop where
  fits : ∀ thread, Fits c (c.connect thread)
  busy : ∀ thread, (c.connect thread).inside = true → c.handshakeBusy = true
  alone : ∀ one other, (c.connect one).inside = true → (c.connect other).inside = true → one = other
  free : c.handshakeBusy = false → c.pending = none
  silent : c.pending = none → c.Silent
  pending : ∀ p, c.pending = some p → p < c.made ∧ p ∉ c.connected
  returned : ∀ p ∈ c.connected, p < c.made ∧ (c.channel p).registered = false
  retired : ∀ p, (c.channel p).retiring = true → c.pending = some p → (c.channel p).stage ≠ .awaiting

theorem client_start : ClientSound {} where
  fits _ := trivial
  busy := nofun
  alone := nofun
  free _ := rfl
  silent _ := ⟨rfl, fun _ => rfl⟩
  pending := nofun
  returned := nofun
  retired := nofun

/-! Offers. -/

section Offers

variable {config : Config} {life : Process → Life} {c next : Client}

theorem no_offer_while_silent (silent : c.Silent) : ¬OfferStep config life c next := by
  obtain ⟨unlisted, still⟩ := silent
  have idle {k : Nat} {pc : OfferPc} (here : c.offer k = pc) : pc.running = false := here ▸ still k
  intro move
  cases move with
  | begin k offer fresh listed live =>
      rw [unlisted] at listed
      cases listed
  | borrow here found awaiting => cases idle here
  | unwanted here nobody => cases idle here
  | sender here live same launched equal => cases idle here
  | client here live equal => cases idle here
  | challenge here protocol nonce generation id => cases idle here
  | deny here => cases idle here
  | accept here found awaiting live => cases idle here
  | release ok here agrees => cases idle here
  | answer here => cases idle here

structure OfferFrame (c next : Client) : Prop where
  pending : next.pending = c.pending
  handshakeBusy : next.handshakeBusy = c.handshakeBusy
  made : next.made = c.made
  connect : next.connect = c.connect
  connected : next.connected = c.connected
  channel : ∀ p, next.channel p = c.channel p ∨
    (c.pending = some p ∧ (c.channel p).stage = .awaiting ∧
      next.channel p = { c.channel p with
        stage := .proofReady
        proofCount := (c.channel p).proofCount + 1 })

theorem OfferStep.frame (move : OfferStep config life c next) : OfferFrame c next := by
  cases move with
  | accept here found awaiting live =>
      rename_i k p offer
      refine ⟨rfl, rfl, rfl, rfl, rfl, ?_⟩
      intro q
      by_cases hit : q = p
      · subst hit
        exact .inr ⟨found, awaiting, Function.update_self ..⟩
      · exact .inl (Function.update_of_ne hit _ _)
  | _ => exact ⟨rfl, rfl, rfl, rfl, rfl, fun _ => .inl rfl⟩

namespace OfferFrame

theorem registered (frame : OfferFrame c next) (p : Nat) :
    (next.channel p).registered = (c.channel p).registered := by
  obtain same | ⟨_, _, same⟩ := frame.channel p <;> rw [same]

theorem retiring (frame : OfferFrame c next) (p : Nat) :
    (next.channel p).retiring = (c.channel p).retiring := by
  obtain same | ⟨_, _, same⟩ := frame.channel p <;> rw [same]

/-- The calls of `InitialConnect` rely on nothing that an offer changes. -/
theorem held (frame : OfferFrame c next) (loud : ¬c.Silent) (quiet : c.pending = none → c.Silent)
    {p : Nat} {place : Place} (held : Held c p place) : Held next p place := by
  have some' : c.pending ≠ none := fun none' => loud (quiet none')
  have pending := frame.pending
  have registered := frame.registered p
  cases place with
  | allocated => exact absurd held.1 some'
  | opened => exact absurd held.1 some'
  | offered => exact absurd held.2.1 loud
  | listening => exact pending.trans held
  | ready => exact ⟨pending.trans held.1, registered.trans held.2⟩
  | calling call => exact ⟨pending.trans held.1, registered.trans held.2⟩
  | associated => exact ⟨pending.trans held.1, registered.trans held.2⟩
  | proven => exact ⟨pending.trans held.1, registered.trans held.2⟩
  | failing =>
      refine held.imp ?_ ?_
      · exact fun both => ⟨pending.trans both.1, registered.trans both.2⟩
      · exact fun both => ⟨pending.trans both.1, registered.trans both.2⟩
  | closing => trivial
  | retiring after => exact ⟨pending.trans held.1, registered.trans held.2⟩
  | drained after => exact absurd held.2.1 loud
  | retired after => exact absurd held.1 some'
  | published => exact absurd held.1 some'
  | destroyed => exact held.imp pending.trans pending.trans

end OfferFrame

theorem ClientSound.offer (sound : ClientSound c) (move : OfferStep config life c next) :
    ClientSound next := by
  have frame := move.frame
  have loud : ¬c.Silent := fun silent => no_offer_while_silent silent move
  have some' : c.pending ≠ none := fun none' => loud (sound.silent none')
  constructor
  case fits =>
      intro thread
      rw [frame.connect]
      have fits := sound.fits thread
      generalize c.connect thread = pc at fits
      cases pc with
      | idle => trivial
      | checked => trivial
      | guarded launch generation => exact absurd fits some'
      | holding p place =>
          obtain ⟨inside, made, apart, held⟩ | ⟨closes, owned⟩ := fits
          · refine .inl ⟨inside, ?_, ?_, frame.held loud sound.silent held⟩
            · rw [frame.made]
              exact made
            · rw [frame.connected]
              exact apart
          · refine .inr ⟨closes, ?_⟩
            rw [frame.connected]
            exact owned
  case busy => rw [frame.connect, frame.handshakeBusy]; exact sound.busy
  case alone => rw [frame.connect]; exact sound.alone
  case free => rw [frame.handshakeBusy, frame.pending]; exact sound.free
  case silent => rw [frame.pending]; exact fun none' => absurd none' some'
  case pending => rw [frame.pending, frame.made, frame.connected]; exact sound.pending
  case returned =>
      rw [frame.made, frame.connected]
      intro p owned
      rw [frame.registered]
      exact sound.returned p owned
  case retired =>
      intro p retiring pending
      rw [frame.retiring] at retiring
      rw [frame.pending] at pending
      obtain same | ⟨_, _, same⟩ := frame.channel p
      · rw [same]
        exact sound.retired p retiring pending
      · rw [same]
        nofun

end Offers

/-! The calls of `InitialConnect` and `InitialChannelClose`. -/

section Connects

variable {config : Config} {life : Process → Life} {c next : Client} {thread : Nat}

theorem held_frame {p : Nat} {place : Place} (held : Held c p place) (pending : next.pending = c.pending)
    (silent : c.Silent → next.Silent) (channel : next.channel p = c.channel p) : Held next p place := by
  cases place with
  | offered => exact ⟨pending.trans held.1, silent held.2.1, by rw [channel]; exact held.2.2⟩
  | drained after => exact ⟨pending.trans held.1, silent held.2.1, by rw [channel]; exact held.2.2⟩
  | closing => trivial
  | listening => exact pending.trans held
  | destroyed => exact held.imp pending.trans pending.trans
  | _ =>
      simp only [Held] at held ⊢
      rw [pending, channel]
      exact held

/-- Nothing but who is where. -/
theorem fits_setConnect {pc at' : Connect} (fits : Fits c at') : Fits (c.setConnect thread pc) at' := by
  cases at' with
  | idle => trivial
  | checked => trivial
  | guarded => exact fits
  | holding p place =>
      refine fits.imp ?_ id
      rintro ⟨inside, made, apart, held⟩
      exact ⟨inside, made, apart, held_frame held rfl id rfl⟩

namespace ClientSound

/-- A call goes on from one place to another. -/
theorem turn (sound : ClientSound c) {pc : Connect} (mine : Fits c pc)
    (stays : pc.inside = true → (c.connect thread).inside = true) :
    ClientSound (c.setConnect thread pc) := by
  have inside {other : Nat} (there : ((c.setConnect thread pc).connect other).inside = true) :
      (c.connect other).inside = true := by
    by_cases same : other = thread
    · subst same
      rw [show (c.setConnect other pc).connect other = pc from Function.update_self ..] at there
      exact stays there
    · rw [show (c.setConnect thread pc).connect other = c.connect other from
        Function.update_of_ne same _ _] at there
      exact there
  constructor
  case fits =>
      intro other
      apply fits_setConnect
      by_cases same : other = thread
      · subst same
        rw [show (c.setConnect other pc).connect other = pc from Function.update_self ..]
        exact mine
      · rw [show (c.setConnect thread pc).connect other = c.connect other from
          Function.update_of_ne same _ _]
        exact sound.fits other
  case busy => exact fun other there => sound.busy other (inside there)
  case alone => exact fun one other first second => sound.alone one other (inside first) (inside second)
  case free => exact sound.free
  case silent => exact sound.silent
  case pending => exact sound.pending
  case returned => exact sound.returned
  case retired => exact sound.retired

/-- A channel is written to, as its holder and those who returned it allow. -/
theorem edit (sound : ClientSound c) {p : Nat} {channel : InitialChannel}
    (held : ∀ thread place, c.connect thread = .holding p place → place.inside = true →
      Held c p place → Held (c.setChannel p channel) p place)
    (returned : p ∈ c.connected → channel.registered = false)
    (retired : channel.retiring = true → c.pending = some p → channel.stage ≠ .awaiting) :
    ClientSound (c.setChannel p channel) := by
  have mine : (c.setChannel p channel).channel p = channel := Function.update_self ..
  have theirs {q : Nat} (apart : q ≠ p) : (c.setChannel p channel).channel q = c.channel q :=
    Function.update_of_ne apart _ _
  constructor
  case fits =>
      intro other
      have fits := sound.fits other
      change Fits (c.setChannel p channel) (c.connect other)
      cases there : c.connect other with
      | idle => trivial
      | checked => trivial
      | guarded =>
          rw [there] at fits
          exact fits
      | holding q place =>
          rw [there] at fits
          refine fits.imp ?_ id
          rintro ⟨inside, made, apart, before⟩
          refine ⟨inside, made, apart, ?_⟩
          by_cases hit : q = p
          · subst hit
            exact held other place there inside before
          · exact held_frame before rfl id (theirs hit)
  case busy => exact sound.busy
  case alone => exact sound.alone
  case free => exact sound.free
  case silent => exact sound.silent
  case pending => exact sound.pending
  case returned =>
      intro q owned
      refine ⟨(sound.returned q owned).1, ?_⟩
      by_cases hit : q = p
      · subst hit
        rw [mine]
        exact returned owned
      · rw [theirs hit]
        exact (sound.returned q owned).2
  case retired =>
      intro q retiring pending
      by_cases hit : q = p
      · subst hit
        rw [mine] at retiring ⊢
        exact retired retiring pending
      · rw [theirs hit] at retiring ⊢
        exact sound.retired q retiring pending

/-- What a call past the guard knows of its channel. -/
theorem holds (sound : ClientSound c) {p : Nat} {place : Place}
    (here : c.connect thread = .holding p place) (inside : place.inside = true) :
    p < c.made ∧ p ∉ c.connected ∧ Held c p place := by
  have fits := sound.fits thread
  rw [here] at fits
  obtain ⟨_, rest⟩ | ⟨rfl | rfl, _⟩ := fits
  · exact rest
  · cases inside
  · cases inside

/-- One call at a time is past the guard. -/
theorem holder (sound : ClientSound c) {p q other : Nat} {place at' : Place}
    (here : c.connect thread = .holding p place) (inside : place.inside = true)
    (there : c.connect other = .holding q at') (too : at'.inside = true) : at' = place := by
  have same : other = thread := by
    apply sound.alone
    · rw [there]
      exact too
    · rw [here]
      exact inside
  rw [same, here] at there
  cases there
  rfl

/-- The others, while one call is past the guard. -/
theorem outside (sound : ClientSound c) (inside : (c.connect thread).inside = true) {other : Nat}
    (apart : other ≠ thread) : (c.connect other).inside = false := by
  by_contra there
  rw [Bool.not_eq_false] at there
  exact apart (sound.alone other thread there inside)

/-- A step of the only call past the guard. -/
theorem advance (sound : ClientSound c) {pc : Connect}
    (connect : next.connect = Function.update c.connect thread pc)
    (outside : ∀ other, other ≠ thread → (c.connect other).inside = false)
    (connected : ∀ p ∈ c.connected, p ∈ next.connected) (mine : Fits next pc)
    (busy : pc.inside = true → next.handshakeBusy = true)
    (free : next.handshakeBusy = false → next.pending = none)
    (silent : next.pending = none → next.Silent)
    (pending : ∀ p, next.pending = some p → p < next.made ∧ p ∉ next.connected)
    (returned : ∀ p ∈ next.connected, p < next.made ∧ (next.channel p).registered = false)
    (retired : ∀ p, (next.channel p).retiring = true → next.pending = some p →
      (next.channel p).stage ≠ .awaiting) : ClientSound next := by
  have only {other : Nat} (there : (next.connect other).inside = true) : other = thread := by
    by_contra apart
    rw [connect, Function.update_of_ne apart, outside other apart] at there
    cases there
  constructor
  case fits =>
      intro other
      rw [connect]
      by_cases same : other = thread
      · rw [same, Function.update_self]
        exact mine
      · rw [Function.update_of_ne same]
        have out := outside other same
        have fits := sound.fits other
        -- Whoever is outside relies only on channels that were returned.
        cases there : c.connect other with
        | idle => trivial
        | checked => trivial
        | guarded =>
            rw [there] at out
            cases out
        | holding p place =>
            rw [there] at fits out
            obtain ⟨inside, _⟩ | ⟨closes, owned⟩ := fits
            · exact nomatch inside.symm.trans out
            · exact .inr ⟨closes, connected p owned⟩
  case busy =>
      intro other there
      obtain rfl := only there
      rw [connect, Function.update_self] at there
      exact busy there
  case alone => exact fun one other first second => (only first).trans (only second).symm
  case free => exact free
  case silent => exact silent
  case pending => exact pending
  case returned => exact returned
  case retired => exact retired

/-- The holder past the guard writes to its channel. -/
theorem write (sound : ClientSound c) {p : Nat} {place : Place} {channel : InitialChannel}
    (here : c.connect thread = .holding p place) (inside : place.inside = true)
    (held : Held c p place → Held (c.setChannel p channel) p place)
    (retired : channel.retiring = true → c.pending = some p → channel.stage ≠ .awaiting) :
    ClientSound (c.setChannel p channel) := by
  refine sound.edit ?_ ?_ retired
  · intro other at' there too before
    obtain rfl := sound.holder here inside there too
    exact held before
  · exact fun owned => absurd owned (sound.holds here inside).2.1

/-- A channel that was returned is written to. -/
theorem writeReturned (sound : ClientSound c) {p : Nat} {channel : InitialChannel}
    (owned : p ∈ c.connected) (registered : channel.registered = (c.channel p).registered) :
    ClientSound (c.setChannel p channel) := by
  refine sound.edit ?_ ?_ ?_
  · intro other at' there too
    exact absurd owned (sound.holds there too).2.1
  · exact fun _ => registered.trans (sound.returned p owned).2
  · exact fun _ pending => absurd owned (sound.pending p pending).2

theorem guarded_quiet (sound : ClientSound c) {launch : Process} {generation : UInt64}
    (here : c.connect thread = .guarded launch generation) :
    (c.connect thread).inside = true ∧ c.pending = none := by
  have fits := sound.fits thread
  rw [here] at fits ⊢
  exact ⟨rfl, fits⟩

/-- A place of a call that does not close is past the guard. -/
theorem inside_of (sound : ClientSound c) {p : Nat} {place : Place}
    (here : c.connect thread = .holding p place) (open' : place ≠ .closing ∧ place ≠ .retired .close) :
    place.inside = true := by
  have fits := sound.fits thread
  rw [here] at fits
  obtain ⟨inside, _⟩ | ⟨rfl | rfl, _⟩ := fits
  · exact inside
  · exact absurd rfl open'.1
  · exact absurd rfl open'.2

theorem guard (sound : ClientSound c) {launch : Process} {generation : UInt64}
    (free : c.handshakeBusy = false) :
    ClientSound { c.setConnect thread (.guarded launch generation) with handshakeBusy := true } := by
  have quiet := sound.free free
  refine sound.advance rfl ?_ (fun _ => id) quiet (fun _ => rfl) nofun sound.silent sound.pending
    sound.returned sound.retired
  intro other _
  by_contra there
  rw [Bool.not_eq_false] at there
  exact nomatch free.symm.trans (sound.busy other there)

theorem allocate (sound : ClientSound c) {launch : Process} {generation : UInt64}
    (here : c.connect thread = .guarded launch generation) :
    ClientSound { (c.setConnect thread (.holding c.made .allocated)).setChannel c.made
        { launch := launch, generation := generation } with
      made := c.made + 1 } := by
  obtain ⟨inside, quiet⟩ := sound.guarded_quiet here
  have fresh : c.made ∉ c.connected := fun owned => Nat.lt_irrefl _ (sound.returned _ owned).1
  have mine : Function.update c.channel c.made { launch := launch, generation := generation } c.made =
      { launch := launch, generation := generation } := Function.update_self ..
  refine sound.advance rfl (fun _ => sound.outside inside) (fun _ => id) ?_
    (fun _ => sound.busy thread inside) (fun _ => quiet) sound.silent ?_ ?_ ?_
  · refine .inl ⟨rfl, Nat.lt_succ_self _, fresh, quiet, ?_, ?_, ?_⟩
    · exact congrArg InitialChannel.stage mine
    · exact congrArg InitialChannel.registered mine
    · exact congrArg InitialChannel.retiring mine
  · exact fun p pending => nomatch quiet.symm.trans pending
  · intro p owned
    obtain ⟨made, registered⟩ := sound.returned p owned
    refine ⟨Nat.lt_succ_of_lt made, ?_⟩
    exact (congrArg InitialChannel.registered (Function.update_of_ne (Nat.ne_of_lt made) _ _)).trans
      registered
  · exact fun p _ pending => nomatch quiet.symm.trans pending

theorem offers (sound : ClientSound c) {p : Nat} {nonce : Nonce}
    (here : c.connect thread = .holding p .opened) :
    ClientSound { (c.setConnect thread (.holding p .offered)).setChannel p
        { c.channel p with nonce := nonce, stage := .awaiting } with
      pending := some p } := by
  obtain ⟨made, apart, quiet, _, unregistered, unretired⟩ := sound.holds here rfl
  have inside : (c.connect thread).inside = true := by rw [here]; rfl
  have mine : Function.update c.channel p { c.channel p with nonce := nonce, stage := .awaiting } p =
      { c.channel p with nonce := nonce, stage := .awaiting } := Function.update_self ..
  refine sound.advance rfl (fun _ => sound.outside inside) (fun _ => id) ?_
    (fun _ => sound.busy thread inside) ?_ nofun ?_ ?_ ?_
  · refine .inl ⟨rfl, made, apart, rfl, sound.silent quiet, ?_⟩
    exact (congrArg InitialChannel.registered mine).trans unregistered
  · exact fun free => nomatch (sound.busy thread inside).symm.trans free
  · intro q same
    cases same
    exact ⟨made, apart⟩
  · intro q owned
    have different : q ≠ p := fun same => apart (same ▸ owned)
    refine ⟨(sound.returned q owned).1, ?_⟩
    exact (congrArg InitialChannel.registered (Function.update_of_ne different _ _)).trans
      (sound.returned q owned).2
  · intro q retiring same
    cases same
    have retired : (c.channel p).retiring = true :=
      (congrArg InitialChannel.retiring mine).symm.trans retiring
    exact nomatch unretired.symm.trans retired

theorem drain (sound : ClientSound c) {p : Nat} {after : After}
    (here : c.connect thread = .holding p (.drained after)) :
    ClientSound { (c.setConnect thread (.holding p (.retired after))).setChannel p
        { c.channel p with registered := false } with
      pending := if c.pending = some p then none else c.pending } := by
  have drained := sound.inside_of here ⟨nofun, nofun⟩
  obtain ⟨made, apart, waits, silent, _⟩ := sound.holds here drained
  have inside : (c.connect thread).inside = true := by rw [here]; exact drained
  have closes : after ≠ .close := by rintro rfl; cases drained
  have ended : (if c.pending = some p then none else c.pending) = none := if_pos waits
  have mine : Function.update c.channel p { c.channel p with registered := false } p =
      { c.channel p with registered := false } := Function.update_self ..
  refine sound.advance rfl (fun _ => sound.outside inside) (fun _ => id) ?_
    (fun _ => sound.busy thread inside) (fun _ => ended) (fun _ => silent) ?_ ?_ ?_
  · refine .inl ⟨?_, made, apart, ended, congrArg InitialChannel.registered mine⟩
    cases after with
    | publish => rfl
    | fail => rfl
    | close => exact absurd rfl closes
  · exact fun q pending => nomatch ended.symm.trans pending
  · intro q owned
    have different : q ≠ p := fun same => apart (same ▸ owned)
    refine ⟨(sound.returned q owned).1, ?_⟩
    exact (congrArg InitialChannel.registered (Function.update_of_ne different _ _)).trans
      (sound.returned q owned).2
  · exact fun q _ pending => nomatch ended.symm.trans pending

/-- A `retireCallback` that fails leaves its channel pending. -/
theorem stuck (sound : ClientSound c) {p : Nat} {place : Place} {after : After}
    (here : c.connect thread = .holding p place) (inside : place.inside = true)
    (waits : c.pending = some p ∧ (c.channel p).registered = true) (closes : after ≠ .close) :
    ClientSound (c.setConnect thread (after.stuck p)) := by
  obtain ⟨made, apart, _⟩ := sound.holds here inside
  refine sound.turn ?_ (fun _ => by rw [here]; exact inside)
  cases after with
  | publish => exact .inl ⟨rfl, made, apart, .inl waits⟩
  | fail => exact .inl ⟨rfl, made, apart, .inr waits.1⟩
  | close => exact absurd rfl closes

/-- A call that has failed goes to its clean-up. -/
theorem fails (sound : ClientSound c) {p : Nat} {place : Place}
    (here : c.connect thread = .holding p place) (inside : place.inside = true)
    (knows : Held c p place → Held c p .failing) :
    ClientSound (c.setConnect thread (.holding p .failing)) := by
  obtain ⟨made, apart, held⟩ := sound.holds here inside
  exact sound.turn (.inl ⟨rfl, made, apart, knows held⟩) (fun _ => by rw [here]; exact inside)

theorem retire (sound : ClientSound c) {p : Nat} {place : Place} {after : After}
    (here : c.connect thread = .holding p place) (retires : place.retires = some after)
    (listed : (c.channel p).registered = true) :
    ClientSound ((c.setConnect thread (.holding p (.retiring after))).setChannel p
      { c.channel p with stage := .closing, retiring := true }) := by
  have fits := sound.fits thread
  rw [here] at fits
  obtain ⟨inside, made, apart, held⟩ | ⟨_, owned⟩ := fits
  · have waits : c.pending = some p ∧ (c.channel p).registered = true := by
      cases place <;> cases retires
      · exact held
      · obtain waits | ⟨_, unlisted⟩ := held
        · exact waits
        · exact nomatch listed.symm.trans unlisted
      · cases inside
    let channel : InitialChannel := { c.channel p with stage := .closing, retiring := true }
    have mine : (c.setChannel p channel).channel p = channel := Function.update_self ..
    have registered : ((c.setChannel p channel).channel p).registered = true := by
      rw [mine]
      exact listed
    have still : Held c p place → Held (c.setChannel p channel) p place := by
      intro _
      cases place <;> cases retires
      · exact ⟨waits.1, registered⟩
      · exact .inl ⟨waits.1, registered⟩
      · cases inside
    have written := sound.write here inside still (fun _ _ => nofun)
    refine written.turn (.inl ⟨?_, made, apart, waits.1, registered⟩) ?_
    · cases place <;> cases retires
      · rfl
      · rfl
      · cases inside
    · exact fun _ => show (c.connect thread).inside = true by rw [here]; exact inside
  · exact nomatch listed.symm.trans (sound.returned p owned).2

theorem unlisted (sound : ClientSound c) {p : Nat} {place : Place} {after : After}
    (here : c.connect thread = .holding p place) (retires : place.retires = some after)
    (unlisted : (c.channel p).registered = false) :
    ClientSound ((c.setConnect thread (.holding p (.retired after))).setChannel p
      { c.channel p with retiring := true }) := by
  have fits := sound.fits thread
  rw [here] at fits
  let channel : InitialChannel := { c.channel p with retiring := true }
  have mine : (c.setChannel p channel).channel p = channel := Function.update_self ..
  have registered : ((c.setChannel p channel).channel p).registered = false := by
    rw [mine]
    exact unlisted
  obtain ⟨inside, made, apart, held⟩ | ⟨closes, owned⟩ := fits
  · -- Past the guard only a call that failed before it was registered comes here.
    have failing : place = .failing ∧ c.pending = none := by
      cases place <;> cases retires
      · exact nomatch unlisted.symm.trans held.2
      · obtain ⟨_, listed⟩ | ⟨quiet, _⟩ := held
        · exact nomatch unlisted.symm.trans listed
        · exact ⟨rfl, quiet⟩
      · cases inside
    obtain ⟨rfl, quiet⟩ := failing
    cases retires
    have written := sound.write here inside (fun _ => .inr ⟨quiet, registered⟩)
      (fun _ pending => nomatch quiet.symm.trans pending)
    refine written.turn (.inl ⟨rfl, made, apart, quiet, registered⟩) ?_
    exact fun _ => show (c.connect thread).inside = true by rw [here]; exact inside
  · have closing : after = .close := by
      obtain rfl | rfl := closes
      · exact (Option.some.inj retires).symm
      · cases retires
    subst closing
    have written : ClientSound (c.setChannel p channel) := sound.writeReturned owned rfl
    have moved : ClientSound ((c.setChannel p channel).setConnect thread (.holding p (.retired .close))) :=
      written.turn (.inr ⟨.inr rfl, owned⟩) nofun
    exact moved

/-- Every step of a call keeps it. -/
theorem connect (sound : ClientSound c) {event : Event} (move : ConnectStep config life event c next) :
    ClientSound next := by
  cases move with
  | check thread launch generation here live => exact sound.turn trivial nofun
  | busy here taken => exact sound.turn trivial nofun
  | guard here free => exact sound.guard free
  | allocateFails here =>
      obtain ⟨inside, quiet⟩ := sound.guarded_quiet here
      exact sound.advance rfl (fun _ => sound.outside inside) (fun _ => id) trivial nofun
        (fun _ => quiet) sound.silent sound.pending sound.returned sound.retired
  | allocate here => exact sound.allocate here
  | fails here fallible =>
      rename_i thread p place
      cases place with
      | allocated => exact sound.fails here rfl fun held => .inr ⟨held.1, held.2.2.1⟩
      | opened => exact sound.fails here rfl fun held => .inr ⟨held.1, held.2.2.1⟩
      | ready => exact sound.fails here rfl fun held => .inl held
      | calling call => exact sound.fails here rfl fun held => .inl held
      | retired after =>
          cases after with
          | publish => exact sound.fails here rfl fun held => .inr held
          | fail => cases fallible
          | close => cases fallible
      | _ => cases fallible
  | opens id here =>
      rename_i thread p
      let channel : InitialChannel := { c.channel p with id := id }
      have mine : (c.setChannel p channel).channel p = channel := Function.update_self ..
      obtain ⟨made, apart, quiet, rest⟩ := sound.holds here rfl
      have still : Held (c.setChannel p channel) p .allocated := by
        refine ⟨quiet, ?_⟩
        rw [mine]
        exact rest
      have written := sound.write here rfl (fun _ => still)
        (fun _ pending => nomatch quiet.symm.trans pending)
      refine written.turn (.inl ⟨rfl, made, apart, still⟩) ?_
      exact fun _ => show (c.connect thread).inside = true by rw [here]; rfl
  | offer nonce here free => exact sound.offers here
  | registerFails here =>
      rename_i thread p
      obtain ⟨made, apart, waits, silent, unlisted⟩ := sound.holds here rfl
      have inside : (c.connect thread).inside = true := by rw [here]; rfl
      exact sound.advance rfl (fun _ => sound.outside inside) (fun _ => id)
        (.inl ⟨rfl, made, apart, .inr ⟨rfl, unlisted⟩⟩) (fun _ => sound.busy thread inside)
        (fun _ => rfl) (fun _ => silent) nofun sound.returned nofun
  | register here =>
      rename_i thread p
      obtain ⟨made, apart, waits, silent, unlisted⟩ := sound.holds here rfl
      have inside : (c.connect thread).inside = true := by rw [here]; rfl
      exact sound.advance rfl (fun _ => sound.outside inside) (fun _ => id)
        (.inl ⟨rfl, made, apart, waits⟩) (fun _ => sound.busy thread inside) sound.free
        (fun quiet => nomatch waits.symm.trans quiet) sound.pending sound.returned sound.retired
  | registered here =>
      rename_i thread p
      obtain ⟨made, apart, waits⟩ := sound.holds here rfl
      let channel : InitialChannel := { c.channel p with registered := true }
      have mine : (c.setChannel p channel).channel p = channel := Function.update_self ..
      have written : ClientSound (c.setChannel p channel) :=
        sound.write here rfl (fun _ => waits) (sound.retired p)
      refine written.turn (.inl ⟨rfl, made, apart, waits, ?_⟩) ?_
      · exact congrArg InitialChannel.registered mine
      · exact fun _ => show (c.connect thread).inside = true by rw [here]; rfl
  | calls call here =>
      obtain ⟨made, apart, held⟩ := sound.holds here rfl
      exact sound.turn (.inl ⟨rfl, made, apart, held⟩) (fun _ => by rw [here]; rfl)
  | returns here =>
      obtain ⟨made, apart, held⟩ := sound.holds here rfl
      exact sound.turn (.inl ⟨rfl, made, apart, held⟩) (fun _ => by rw [here]; rfl)
  | proven here proof =>
      obtain ⟨made, apart, held⟩ := sound.holds here rfl
      exact sound.turn (.inl ⟨rfl, made, apart, held⟩) (fun _ => by rw [here]; rfl)
  | unproven here missing => exact sound.fails here rfl .inl
  | retire here retires listed => exact sound.retire here retires listed
  | unlisted here retires unlisted => exact sound.unlisted here retires unlisted
  | unregister here waited =>
      rename_i thread p after
      have retiring := sound.inside_of here ⟨nofun, nofun⟩
      obtain ⟨made, apart, waits, listed⟩ := sound.holds here retiring
      have inside : (c.connect thread).inside = true := by rw [here]; exact retiring
      refine sound.advance rfl (fun _ => sound.outside inside) (fun _ => id) (.inl ⟨?_, made, apart, waits,
        ⟨rfl, waited⟩, listed⟩) (fun _ => sound.busy thread inside) sound.free
        (fun quiet => nomatch waits.symm.trans quiet) sound.pending sound.returned sound.retired
      cases after with
      | publish => rfl
      | fail => rfl
      | close => cases retiring
  | unregisterFails here =>
      have retiring := sound.inside_of here ⟨nofun, nofun⟩
      obtain ⟨_, _, waits⟩ := sound.holds here retiring
      exact sound.stuck here retiring waits (by rintro rfl; cases retiring)
  | drain here none' => exact sound.drain here
  | drainBusy here some' =>
      have drained := sound.inside_of here ⟨nofun, nofun⟩
      obtain ⟨_, _, waits, _, listed⟩ := sound.holds here drained
      exact sound.stuck here drained ⟨waits, listed⟩ (by rintro rfl; cases drained)
  | publish here live =>
      rename_i thread p
      obtain ⟨made, apart, quiet, unlisted⟩ := sound.holds here rfl
      let channel : InitialChannel := { c.channel p with stage := .published }
      have mine : (c.setChannel p channel).channel p = channel := Function.update_self ..
      have registered : ((c.setChannel p channel).channel p).registered = false := by
        rw [mine]
        exact unlisted
      have written := sound.write here rfl (fun _ => ⟨quiet, registered⟩)
        (fun _ pending => nomatch quiet.symm.trans pending)
      refine written.turn (.inl ⟨rfl, made, apart, quiet, registered⟩) ?_
      exact fun _ => show (c.connect thread).inside = true by rw [here]; rfl
  | succeed here =>
      rename_i thread p
      obtain ⟨made, apart, quiet, unlisted⟩ := sound.holds here rfl
      have inside : (c.connect thread).inside = true := by rw [here]; rfl
      refine sound.advance rfl (fun _ => sound.outside inside) (fun _ => List.mem_cons_of_mem p) trivial
        nofun (fun _ => quiet) sound.silent (fun q pending => nomatch quiet.symm.trans pending) ?_
        sound.retired
      intro q owned
      obtain rfl | owned := List.mem_cons.1 owned
      · exact ⟨made, unlisted⟩
      · exact sound.returned q owned
  | destroy here gone =>
      rename_i thread p after
      cases after with
      | publish => exact absurd rfl gone
      | fail =>
          obtain ⟨made, apart, quiet, _⟩ := sound.holds here rfl
          exact sound.turn (.inl ⟨rfl, made, apart, .inl quiet⟩) (fun _ => by rw [here]; rfl)
      | close => exact sound.turn trivial nofun
  | finish here =>
      rename_i thread p
      have inside : (c.connect thread).inside = true := by rw [here]; rfl
      refine sound.advance rfl (fun _ => sound.outside inside) (fun _ => id) trivial nofun ?_
        sound.silent sound.pending sound.returned sound.retired
      intro free
      by_cases quiet : c.pending = none
      · exact quiet
      · exact sound.free ((if_neg quiet).symm.trans free)
  | close thread here owned =>
      rename_i p
      let channel : InitialChannel := { c.channel p with stage := .closing }
      have written : ClientSound (c.setChannel p channel) := sound.writeReturned owned rfl
      have moved : ClientSound ((c.setChannel p channel).setConnect thread (.holding p .closing)) :=
        written.turn (.inr ⟨.inl rfl, owned⟩) nofun
      exact moved
  | shutdown owned => exact sound.writeReturned owned rfl

end ClientSound

end Connects

end Bscp.LocalRpc.Bootstrap
