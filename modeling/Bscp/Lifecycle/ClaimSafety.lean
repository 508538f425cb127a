import Bscp.Lifecycle.ClaimProtocol

/-!
What holds of the claim protocol under every interleaving. The claim file is
always that of the one run whose program counter says that it holds it. Only the
holder writes `record.json`, so the content that it has re-validated stays the
content of the file until its own first save; and that save names an attempt
that no earlier content names.
-/

namespace Bscp.ClaimProtocol

open Machine

namespace Pc

def early : Pc → Bool
  | .preflight | .readPlan | .verifyMode | .readRecord | .readProfile | .readIdentity
  | .lookClaim | .awaitPort | .createClaim => true
  | _ => false

def holds : Pc → Bool
  | .released | .unlinked => false
  | pc => !pc.early

def quiet : Pc → Bool
  | .statClaim | .writeClaim | .syncClaim | .closeClaim | .recheckRecord | .recheckProfile
  | .recheckPlan | .recheckPort | .releaseLook | .releaseRead | .releaseUnlink | .released => true
  | pc => pc.early

def admitted : Pc → Bool
  | .preflight | .readPlan | .verifyMode | .readRecord => false
  | _ => true

def validated : Pc → Bool
  | .recheckProfile | .recheckPlan | .recheckPort | .prepareRoot | .prepareState
  | .prepareLayout | .prepareAttempt | .prepareOwner
  | .openNext .launch | .writeNext .launch | .replaceRecord .launch => true
  | _ => false

def marked : Pc → Bool
  | .launch | .serving | .unlinkClaim | .unlinked | .handler
  | .openNext .serving | .writeNext .serving | .replaceRecord .serving
  | .openNext .raise | .writeNext .raise | .replaceRecord .raise => true
  | _ => false

def authored : Pc → Bool
  | .launch | .serving | .unlinkClaim
  | .openNext .launch | .writeNext .launch | .replaceRecord .launch
  | .openNext .serving | .writeNext .serving | .replaceRecord .serving => true
  | _ => false

def closing : Pc → Bool
  | .openNext .raise | .writeNext .raise | .replaceRecord .raise => true
  | _ => false

def saving : Pc → Bool
  | .openNext _ | .writeNext _ | .replaceRecord _ => true
  | _ => false

end Pc

def Doc.startable (doc : Doc) : Prop := doc.state = .prepared ∨ doc.state = .stopped

def holder (files : Files) : Option RunId := files.claim.map Claim.file

structure Local.Ok (me : RunId) (mine : Local) : Prop where
  waiting : mine.status = .idle → mine.pc = .preflight
  released : mine.pc = .released → mine.status ≠ .active
  unlinked : mine.pc = .unlinked → mine.status = .returned
  admitted : mine.pc.admitted = true → ∃ doc, mine.before.value = some doc ∧ doc.startable
  authored : mine.pc.authored = true → mine.record.attempt = some me
  closing : mine.pc.closing = true → mine.record.state = .unknown

/-- Everything a step of a run does, as far as other runs and later steps depend
on it. -/
structure Turn (me : RunId) (mine : Local) (files : Files) (mine' : Local) (files' : Files) :
    Prop where
  ok : mine.status = .active → mine.Ok me → mine'.Ok me
  holding : (holder files' = holder files ∧ mine'.pc.holds = mine.pc.holds) ∨
    (holder files = none ∧ holder files' = some me ∧ mine'.pc.holds = true) ∨
    (mine.pc.holds = true ∧ mine'.pc.holds = false ∧ holder files' = none)
  claim : files'.claim = files.claim ∨ mine.pc.holds = true ∨ files.claim = none
  record : (files'.record = files.record ∧ (mine'.pc = .launch → mine.pc = .launch)) ∨
    (∃ point text, mine.pc = .replaceRecord point ∧ files.next = some text ∧
      files'.record = text ∧ mine'.pc.marked = true ∧ (mine'.pc = .launch → point = .launch))
  next : files'.next = files.next ∨ mine.pc.saving = true
  staged : ∀ point, mine'.pc = .replaceRecord point → mine'.status = .active →
    files'.next = some (dump mine'.record)
  before : mine'.before = mine.before ∨ mine.pc = .readRecord ∧ mine'.pc.validated = false
  entered : mine'.pc.admitted = true → mine.pc.admitted = true ∨
    (files.record.value = some mine.record ∧ mine'.record = mine.record)
  attempt : mine'.record.attempt = mine.record.attempt ∨ mine'.record.attempt = some me
  validated : mine'.pc.validated = true → mine.pc.validated = true ∨ files.record = mine.before
  marked : mine.pc.marked = true → mine'.pc.marked = true
  unlinked : mine.pc = .unlinked → mine'.pc = .unlinked
  quiet : mine.pc.quiet = true → files'.record = files.record ∧ files'.next = files.next ∧
    files'.plan = files.plan ∧ files'.root = files.root
  loud : mine.pc.quiet = false → mine'.pc.quiet = false

/-- The points that a step may go to which keeps the run's record and enters no
new phase of the protocol but the handler. -/
def Pc.follows (pc pc' : Pc) : Bool :=
  pc'.holds == pc.holds && (pc'.admitted → pc.admitted) && (pc'.validated → pc.validated) &&
    (pc'.authored → pc.authored) && (pc'.closing → pc.closing) && (pc.marked → pc'.marked) &&
    (pc' = .launch → pc = .launch) && (pc = .unlinked → pc' = .unlinked) &&
    (pc'.quiet → pc.quiet)

theorem Pc.follows_self (pc : Pc) : pc.follows pc = true := by simp [Pc.follows]

section Steps

variable {me : RunId} {mine mine' : Local} {files files' : Files}

theorem Turn.plain (follows : mine.pc.follows mine'.pc = true)
    (onward : mine'.pc = mine.pc ∨ mine'.pc ≠ .released ∧ mine'.pc ≠ .unlinked)
    (parked : mine'.status = .active → ∀ point, mine'.pc ≠ .replaceRecord point)
    (begun : mine.status = .active → mine'.status ≠ .idle)
    (kept : mine'.record = mine.record ∧ mine'.before = mine.before)
    (record : files'.record = files.record) (holding : holder files' = holder files)
    (claim : files'.claim = files.claim ∨ mine.pc.holds = true)
    (next : files'.next = files.next ∨ mine.pc.saving = true)
    (quiet : mine.pc.quiet = true →
      files'.next = files.next ∧ files'.plan = files.plan ∧ files'.root = files.root) :
    Turn me mine files mine' files' := by
  simp only [Pc.follows, Bool.and_eq_true, beq_iff_eq, decide_eq_true_eq] at follows
  obtain ⟨⟨⟨⟨⟨⟨⟨⟨holds, admitted⟩, validated⟩, authored⟩, closing⟩, marked⟩, launch⟩, unlinked⟩,
    silent⟩ := follows
  exact {
    ok := fun active known => {
      waiting := fun idle => absurd idle (begun active)
      released := fun at_ => by
        rcases onward with same | ⟨other, _⟩
        · exact absurd active (known.released (same.symm.trans at_))
        · exact absurd at_ other
      unlinked := fun at_ => by
        rcases onward with same | ⟨_, other⟩
        · have returned := known.unlinked (same.symm.trans at_)
          rw [active] at returned
          cases returned
        · exact absurd at_ other
      admitted := fun reached => by simpa only [kept.2] using known.admitted (admitted reached)
      authored := fun reached => by simpa only [kept.1] using known.authored (authored reached)
      closing := fun reached => by simpa only [kept.1] using known.closing (closing reached) }
    holding := .inl ⟨holding, holds⟩
    claim := claim.imp_right .inl
    record := .inl ⟨record, launch⟩
    next := next
    staged := fun point at_ active => absurd at_ (parked active point)
    before := .inl kept.2
    entered := fun reached => .inl (admitted reached)
    attempt := .inl (by rw [kept.1])
    validated := fun reached => .inl (validated reached)
    marked := marked
    unlinked := unlinked
    quiet := fun still => ⟨record, quiet still⟩
    loud := fun loud => by
      cases quiet' : mine'.pc.quiet with
      | true => exact absurd (silent quiet') (by rw [loud]; decide)
      | false => rfl }

/-- The same for a step that goes on at another point. -/
theorem Turn.goes {pc : Pc} (at_ : mine.pc = pc) (next : Pc) (follows : pc.follows next = true)
    (moving : next ≠ .released ∧ next ≠ .unlinked ∧ ∀ point, next ≠ .replaceRecord point)
    (record : files'.record = files.record) (holding : holder files' = holder files)
    (claim : files'.claim = files.claim ∨ pc.holds = true)
    (staged : files'.next = files.next ∨ pc.saving = true)
    (quiet : pc.quiet = true →
      files'.next = files.next ∧ files'.plan = files.plan ∧ files'.root = files.root) :
    Turn me mine files (mine.goto next) files' := by
  subst at_
  exact Turn.plain follows (.inr ⟨moving.1, moving.2.1⟩) (fun _ => moving.2.2) (fun active => by simp [Local.goto, active]) ⟨rfl, rfl⟩
    record holding claim staged quiet

theorem Turn.moves {pc : Pc} (at_ : mine.pc = pc) (next : Pc) (follows : pc.follows next = true)
    (moving : next ≠ .released ∧ next ≠ .unlinked ∧ ∀ point, next ≠ .replaceRecord point) :
    Turn me mine files (mine.goto next) files :=
  Turn.goes at_ next follows moving rfl rfl (.inl rfl) (.inl rfl) fun _ => ⟨rfl, rfl, rfl⟩

/-- A step that ends the run where it stands. -/
theorem Turn.ends (status : Status) (ended : status ≠ .active ∧ status ≠ .idle) :
    Turn me mine files { mine with status } files :=
  Turn.plain (Pc.follows_self _) (.inl rfl) (fun active => absurd active ended.1) (fun _ => ended.2) ⟨rfl, rfl⟩
    rfl rfl (.inl rfl) (.inl rfl) fun _ => ⟨rfl, rfl, rfl⟩

theorem holder_write (bytes : Option RunId) :
    holder { files with claim := files.claim.map fun claim =>
      if claim.file = me then { claim with bytes } else claim } = holder files := by
  cases known : files.claim with
  | none => simp [holder, known]
  | some claim => by_cases same : claim.file = me <;> simp [holder, known, same]

theorem failure_turn (left : Nat) :
    Turn me mine files (failure me left mine files).1 (failure me left mine files).2 := by
  have raises : Turn me mine files mine.raise files := Turn.ends .raised (by decide)
  cases at_ : mine.pc with
  | recheckRecord | recheckProfile | recheckPlan | recheckPort | prepareRoot | prepareState
  | launch | serving | unlinkClaim | prepareAttempt | prepareOwner =>
      simp only [failure, at_]
      exact Turn.moves at_ _ (by decide) (by simp)
  | writeClaim =>
      simp only [failure, at_]
      refine Turn.plain (Pc.follows_self _) (.inl rfl) (by simp [Local.raise]) (by simp [Local.raise]) ⟨rfl, rfl⟩
        rfl (holder_write none) (.inr (by simp +decide [at_])) (.inl rfl) ?_
      exact fun _ => ⟨rfl, rfl, rfl⟩
  | prepareLayout =>
      simp only [failure, at_]
      exact Turn.goes at_ _ (by decide) (by simp) rfl rfl (.inl rfl) (.inl rfl) nofun
  | openNext after | replaceRecord after =>
      simp only [failure, at_]
      cases after with
      | launch | serving => exact Turn.moves at_ _ (by decide) (by simp)
      | raise => exact raises
  | writeNext after =>
      simp only [failure, at_]
      cases after with
      | launch | serving =>
          exact Turn.goes at_ _ (by decide) (by simp) rfl rfl (.inl rfl) (.inr rfl) nofun
      | raise =>
          exact Turn.plain (Pc.follows_self _) (.inl rfl) (by simp [failure.caught, Local.raise])
            (by simp [failure.caught, Local.raise]) ⟨rfl, rfl⟩ rfl rfl (.inl rfl)
            (.inr (by simp +decide [at_])) (by simp +decide [at_])
  | _ =>
      simp only [failure, at_]
      exact raises

theorem advance_turn (inode : Nat) (serve : Serve) :
    Turn me mine files (advance me inode serve mine files).1
      (advance me inode serve mine files).2 := by
  have refused : Turn me mine files (failure me 0 mine files).1 (failure me 0 mine files).2 :=
    failure_turn 0
  cases at_ : mine.pc with
  | preflight | awaitPort | statClaim | syncClaim | closeClaim | recheckPort | launch =>
      simp only [advance, at_]
      exact Turn.moves at_ _ (by decide) (by simp)
  | readPlan =>
      simp only [advance, at_]
      exact Turn.plain (by rw [at_]; rfl) (by simp) (by simp) (fun active => by simp [Local.goto, active])
        ⟨rfl, rfl⟩ rfl rfl (.inl rfl) (.inl rfl) fun _ => ⟨rfl, rfl, rfl⟩
  | verifyMode =>
      simp only [advance, at_]
      split
      · split
        · exact Turn.moves at_ _ (by decide) (by simp)
        · exact refused
      · exact refused
  | readProfile | readIdentity | lookClaim | recheckProfile | recheckPlan =>
      simp only [advance, at_]
      split
      · exact Turn.moves at_ _ (by decide) (by simp)
      · exact refused
  | releaseLook | releaseRead =>
      simp only [advance, at_]
      split
      · split
        · exact Turn.moves at_ _ (by decide) (by simp)
        · exact refused
      · exact refused
  | writeClaim =>
      simp only [advance, at_]
      exact Turn.goes at_ _ (by decide) (by simp) rfl (holder_write (some me)) (.inr rfl) (.inl rfl)
        fun _ => ⟨rfl, rfl, rfl⟩
  | prepareState | prepareAttempt =>
      simp only [advance, at_]
      exact Turn.goes at_ _ (by decide) (by simp) rfl rfl (.inl rfl) (.inl rfl) nofun
  | prepareLayout =>
      simp only [advance, at_]
      split <;> exact Turn.goes at_ _ (by decide) (by simp) rfl rfl (.inl rfl) (.inl rfl) nofun
  | prepareRoot =>
      simp only [advance, at_]
      split
      · split
        · exact Turn.moves at_ _ (by decide) (by simp)
        · exact refused
      · split
        · exact Turn.goes at_ _ (by decide) (by simp) rfl rfl (.inl rfl) (.inl rfl) nofun
        · exact refused
  | openNext after =>
      simp only [advance, at_]
      split
      · cases after <;> exact Turn.goes at_ _ (by decide) (by simp) rfl rfl (.inl rfl) (.inr rfl) nofun
      · exact refused
  | readRecord =>
      simp only [advance, at_]
      split
      next known =>
        constructor
        case ok =>
          intro active ok
          have startable : mine.record.startable := by
            have eligible := known.2
            simp only [Doc.eligible, decide_eq_true_eq] at eligible
            cases resume : mine.resume <;> simp_all [Doc.startable]
          exact ⟨by simp [active], by simp, by simp, fun _ => ⟨mine.record, known.1, startable⟩, nofun, nofun⟩
        all_goals simp +decide [at_, holder, known.1]
      · exact refused
  | createClaim =>
      simp only [advance, at_]
      split
      next free =>
        constructor
        case ok =>
          intro active ok
          exact ⟨by simp [active], by simp, by simp, fun _ => ok.admitted (by rw [at_]; rfl), nofun, nofun⟩
        all_goals simp_all +decide [holder]
      · exact refused
  | recheckRecord =>
      simp only [advance, at_]
      split
      next same =>
        constructor
        case ok =>
          intro active ok
          exact ⟨by simp [active], by simp, by simp, fun _ => ok.admitted (by rw [at_]; rfl), nofun, nofun⟩
        all_goals simp +decide [at_, holder, same]
      · exact refused
  | releaseUnlink | unlinkClaim =>
      simp only [advance, at_]
      split
      next present =>
        constructor
        case ok =>
          intro _ ok
          exact ⟨by simp, by simp, by simp, fun _ => ok.admitted (by rw [at_]; rfl), nofun, nofun⟩
        all_goals simp +decide [at_, holder]
      · exact refused
  | prepareOwner =>
      simp only [advance, at_]
      constructor
      case ok =>
        intro active ok
        exact ⟨by simp [active], by simp, by simp, fun _ => ok.admitted (by rw [at_]; rfl), fun _ => rfl, nofun⟩
      all_goals simp +decide [at_, holder]
  | writeNext after =>
      simp only [advance, at_]
      constructor
      case ok =>
        intro active ok
        refine ⟨by simp [active], by simp, by simp, fun _ => ok.admitted (by rw [at_]; rfl),
          fun reached => ok.authored ?_, fun reached => ok.closing ?_⟩
        all_goals cases after <;> simp_all +decide
      all_goals cases after <;> simp +decide [at_, holder]
  | replaceRecord after =>
      simp only [advance, at_]
      split
      next text staged =>
        constructor
        case ok =>
          intro active ok
          cases after with
          | launch | serving =>
              exact ⟨by simp [active, advance.saved], by simp [advance.saved], by simp [advance.saved],
                fun _ => ok.admitted (by rw [at_]; rfl), fun _ => ok.authored (by rw [at_]; rfl), nofun⟩
          | raise =>
              exact ⟨by simp [advance.saved], by simp [advance.saved], by simp [advance.saved, at_],
                fun _ => ok.admitted (by rw [at_]; rfl), by simp +decide [advance.saved, at_],
                fun _ => ok.closing (by rw [at_]; rfl)⟩
        all_goals cases after <;> simp +decide [at_, holder, staged, advance.saved]
      · exact refused
  | serving =>
      simp only [advance, at_]
      split
      · constructor
        case ok =>
          intro active ok
          exact ⟨by simp [active], by simp, by simp, fun _ => ok.admitted (by rw [at_]; rfl),
            fun _ => ok.authored (by rw [at_]; rfl), nofun⟩
        all_goals simp +decide [at_, holder]
      · exact Turn.moves at_ _ (by decide) (by simp)
      · exact Turn.ends .returned (by decide)
  | handler =>
      simp only [advance, at_]
      constructor
      case ok =>
        intro active ok
        exact ⟨by simp [active], by simp, by simp, fun _ => ok.admitted (by rw [at_]; rfl), nofun, fun _ => rfl⟩
      all_goals simp +decide [at_, holder]
  | released | unlinked =>
      simp only [advance, at_]
      constructor
      case ok => exact fun _ ok => ok
      all_goals simp +decide [at_, holder]

theorem act_turn (choice : Choice) :
    Turn me mine files (act me choice mine files).1 (act me choice mine files).2 := by
  cases choice with
  | proceed inode serve => exact advance_turn inode serve
  | fail left => exact failure_turn left
  | kill => exact Turn.ends .killed (by decide)

end Steps

structure Moved (id : RunId) (system system' : System) : Prop where
  active : (system.runs id).status = .active
  turn : Turn id (system.runs id) system.files (system'.runs id) system'.files
  elsewhere : ∀ other, other ≠ id → system'.runs other = system.runs other

structure Sound (system : System) : Prop where
  ok : ∀ id, (system.runs id).Ok id
  holds : ∀ id, (system.runs id).pc.holds = true ↔ holder system.files = some id
  staged : ∀ id point, (system.runs id).pc = .replaceRecord point →
    (system.runs id).status = .active → system.files.next = some (dump (system.runs id).record)
  written : ∀ doc id, system.files.record.value = some doc → doc.attempt = some id →
    (system.runs id).pc.marked = true
  copied : ∀ id other, (system.runs id).pc.admitted = true →
    (system.runs id).record.attempt = some other →
    other = id ∨ (system.runs other).pc.marked = true
  validated : ∀ id, (system.runs id).pc.validated = true →
    system.files.record = (system.runs id).before

theorem Pc.unlinked_of_marked {pc : Pc} (marked : pc.marked = true) (free : pc.holds = false) :
    pc = .unlinked := by
  cases pc with
  | openNext after | writeNext after | replaceRecord after => cases free
  | unlinked => rfl
  | _ => first | (cases marked; done) | cases free

theorem Pc.holds_of_validated {pc : Pc} (validated : pc.validated = true) : pc.holds = true := by
  cases pc <;> first | rfl | cases validated

theorem Pc.holds_of_saving {pc : Pc} (saving : pc.saving = true) : pc.holds = true := by
  cases pc <;> first | rfl | cases saving

theorem Pc.not_validated_of_marked {pc : Pc} (marked : pc.marked = true) :
    ¬ pc.validated = true := by
  intro validated
  cases pc with
  | openNext after | writeNext after | replaceRecord after =>
      cases after <;> first | (cases marked; done) | cases validated
  | _ => first | (cases marked; done) | cases validated

section Runs

variable {system system' : System} {id other : RunId}

theorem Sound.exclusive (sound : Sound system) (mine : (system.runs id).pc.holds = true)
    (theirs : (system.runs other).pc.holds = true) : other = id := by
  have first := (sound.holds id).mp mine
  have second := (sound.holds other).mp theirs
  simpa [first] using second.symm

theorem Moved.marked (moved : Moved id system system') (known : (system.runs other).pc.marked = true) :
    (system'.runs other).pc.marked = true := by
  by_cases same : other = id
  · subst same
    exact moved.turn.marked known
  · rw [moved.elsewhere other same]
    exact known

theorem Moved.unlinked (moved : Moved id system system')
    (known : (system.runs other).pc = .unlinked) : (system'.runs other).pc = .unlinked := by
  by_cases same : other = id
  · subst same
    exact moved.turn.unlinked known
  · rw [moved.elsewhere other same]
    exact known

/-- Only the holder of the claim changes the record, and only by its save. -/
theorem Sound.record (sound : Sound system) (moved : Moved id system system') :
    (system'.files.record = system.files.record ∧
      ((system'.runs id).pc = .launch → (system.runs id).pc = .launch)) ∨
    (∃ point, (system.runs id).pc = .replaceRecord point ∧
      system'.files.record = dump (system.runs id).record ∧
      (system'.runs id).pc.marked = true ∧ ((system'.runs id).pc = .launch → point = .launch)) := by
  rcases moved.turn.record with kept | ⟨point, text, at_, next, record, past⟩
  · exact .inl kept
  · have staged := sound.staged id point at_ moved.active
    rw [next, Option.some.injEq] at staged
    exact .inr ⟨point, at_, by rw [record, staged], past⟩

theorem Sound.holds_moved (sound : Sound system) (moved : Moved id system system') :
    (system'.runs other).pc.holds = true ↔ holder system'.files = some other := by
  have before := sound.holds other
  by_cases same : other = id
  · subst same
    rcases moved.turn.holding with ⟨kept, still⟩ | ⟨_, taken, held⟩ | ⟨_, given, freed⟩
    · rw [kept, still]
      exact before
    · simp [taken, held]
    · simp [given, freed]
  · rw [moved.elsewhere other same]
    rcases moved.turn.holding with ⟨kept, still⟩ | ⟨free, taken, held⟩ | ⟨held, given, freed⟩
    · rw [kept]
      exact before
    · rw [before, free, taken]
      simpa using fun equal => same equal.symm
    · have mine := (sound.holds id).mp held
      rw [before, mine, freed]
      simpa using fun equal => same equal.symm

theorem Sound.moved (sound : Sound system) (moved : Moved id system system') : Sound system' where
  ok other := by
    by_cases same : other = id
    · subst same
      exact moved.turn.ok moved.active (sound.ok other)
    · rw [moved.elsewhere other same]
      exact sound.ok other
  holds other := sound.holds_moved moved
  staged other point at_ active := by
    by_cases same : other = id
    · subst same
      exact moved.turn.staged point at_ active
    · rw [moved.elsewhere other same] at at_ active ⊢
      rcases moved.turn.next with kept | saving
      · rw [kept]
        exact sound.staged other point at_ active
      · -- Two runs inside a save would both hold the claim.
        have theirs : (system.runs other).pc.holds = true := by rw [at_]; rfl
        exact absurd (sound.exclusive (Pc.holds_of_saving saving) theirs) same
  written doc author known named := by
    rcases sound.record moved with ⟨kept, _⟩ | ⟨point, at_, replaced, past, _⟩
    · rw [kept] at known
      exact moved.marked (sound.written doc author known named)
    · rw [replaced] at known
      obtain rfl : (system.runs id).record = doc := by simpa [dump] using known
      have entered : (system.runs id).pc.admitted = true := by rw [at_]; rfl
      rcases sound.copied id author entered named with mine | marked
      · rw [mine]
        exact past
      · exact moved.marked marked
  copied other author entered named := by
    by_cases same : other = id
    · subst same
      rcases moved.turn.attempt with kept | mine
      · rw [kept] at named
        rcases moved.turn.entered entered with already | ⟨read, _⟩
        · exact (sound.copied other author already named).imp_right moved.marked
        · exact .inr (moved.marked (sound.written _ author read named))
      · exact .inl (by simpa [mine] using named.symm)
    · rw [moved.elsewhere other same] at entered named
      exact (sound.copied other author entered named).imp_right moved.marked
  validated other inside := by
    by_cases same : other = id
    · subst same
      rcases sound.record moved with ⟨kept, _⟩ | ⟨_, _, _, past, _⟩
      · rcases moved.turn.before with carried | ⟨_, outside⟩
        · rw [kept, carried]
          exact (moved.turn.validated inside).elim (sound.validated other) fun equal => equal
        · exact absurd inside (by rw [outside]; decide)
      · exact absurd inside (Pc.not_validated_of_marked past)
    · rw [moved.elsewhere other same] at inside ⊢
      rcases sound.record moved with ⟨kept, _⟩ | ⟨point, at_, _⟩
      · rw [kept]
        exact sound.validated other inside
      · have saving : (system.runs id).pc.saving = true := by rw [at_]; rfl
        exact absurd (sound.exclusive (Pc.holds_of_saving saving) (Pc.holds_of_validated inside)) same

/-- A content of the record that some launch went from: it could be started, it
is no longer in the file, and the run that it names has given up its claim. -/
def Spent (system : System) (text : Stored Doc) : Prop :=
  text ≠ system.files.record ∧ ∃ doc, text.value = some doc ∧ doc.startable ∧
    ∀ id, doc.attempt = some id → (system.runs id).pc = .unlinked

structure Launching (system : System) : Prop where
  sound : Sound system
  launched : ∀ text ∈ system.started.map Prod.snd, Spent system text
  ready : ∀ id, (system.runs id).pc = .launch →
    Spent system (system.runs id).before ∧ (system.runs id).before ∉ system.started.map Prod.snd
  distinct : (system.started.map Prod.snd).Nodup

theorem Spent.moved {text : Stored Doc} (spent : Spent system text) (sound : Sound system)
    (moved : Moved id system system') : Spent system' text := by
  obtain ⟨gone, doc, read, startable, retired⟩ := spent
  refine ⟨?_, doc, read, startable, fun author named => moved.unlinked (retired author named)⟩
  rcases sound.record moved with ⟨kept, _⟩ | ⟨point, at_, replaced, _⟩
  · rw [kept]
    exact gone
  · -- The new content names the saving run, which still holds its claim, or is UNKNOWN.
    rw [replaced]
    intro equal
    obtain rfl : (system.runs id).record = doc := by simpa [equal, dump] using read
    cases point with
    | launch | serving =>
        have named := (sound.ok id).authored (by rw [at_]; rfl)
        exact absurd (retired id named) (by simp [at_])
    | raise =>
        have unknown := (sound.ok id).closing (by rw [at_]; rfl)
        simp [Doc.startable, unknown] at startable

/-- The first save turns the validated content into one that is spent. -/
theorem Sound.spent (sound : Sound system) (moved : Moved id system system')
    (at_ : (system.runs id).pc = .replaceRecord .launch)
    (replaced : system'.files.record = dump (system.runs id).record) :
    Spent system' (system.runs id).before := by
  have held : (system.runs id).pc.holds = true := by rw [at_]; rfl
  have current := sound.validated id (by rw [at_]; rfl)
  have named := (sound.ok id).authored (by rw [at_]; rfl)
  obtain ⟨doc, read, startable⟩ := (sound.ok id).admitted (by rw [at_]; rfl)
  have other_author : ∀ author, doc.attempt = some author → author ≠ id := by
    rintro author known rfl
    have marked := sound.written doc author (by rw [current]; exact read) known
    rw [at_] at marked
    cases marked
  refine ⟨?_, doc, read, startable, fun author known => moved.unlinked ?_⟩
  · rw [replaced]
    intro equal
    obtain rfl : (system.runs id).record = doc := by simpa [equal, dump] using read
    exact other_author id named rfl
  · have marked := sound.written doc author (by rw [current]; exact read) known
    refine Pc.unlinked_of_marked marked ?_
    cases theirs : (system.runs author).pc.holds with
    | true => exact absurd (sound.exclusive held theirs) (other_author author known)
    | false => rfl

def Lists (id : RunId) (system system' : System) : Prop :=
  system'.started = system.started ∨
    (system.runs id).pc = .launch ∧ (system'.runs id).pc ≠ .launch ∧
      system'.started = (id, (system.runs id).before) :: system.started

theorem Launching.entries (known : Launching system) (lists : Lists id system system')
    {text : Stored Doc} (entry : text ∈ system'.started.map Prod.snd) : Spent system text := by
  rcases lists with same | ⟨at_, _, grown⟩
  · rw [same] at entry
    exact known.launched text entry
  · rw [grown, List.map_cons, List.mem_cons] at entry
    rcases entry with here | earlier
    · rw [here]
      exact (known.ready id at_).1
    · exact known.launched text earlier

theorem Launching.moved (known : Launching system) (moved : Moved id system system')
    (lists : Lists id system system') : Launching system' where
  sound := known.sound.moved moved
  launched text entry := (known.entries lists entry).moved known.sound moved
  ready other at_ := by
    by_cases same : other = id
    · subst same
      have stays : system'.started = system.started := by
        rcases lists with same | ⟨_, left, _⟩
        · exact same
        · exact absurd at_ left
      have carried : (system'.runs other).before = (system.runs other).before ∧
          Spent system' (system.runs other).before ∧
          (system.runs other).before ∉ system.started.map Prod.snd := by
        rcases known.sound.record moved with ⟨_, stayed⟩ | ⟨point, saving, replaced, _, first⟩
        · have at_ := stayed at_
          have ready := known.ready other at_
          refine ⟨?_, ready.1.moved known.sound moved, ready.2⟩
          exact moved.turn.before.resolve_right fun read => by simp [at_] at read
        · obtain rfl := first at_
          refine ⟨?_, known.sound.spent moved saving replaced, ?_⟩
          · exact moved.turn.before.resolve_right fun read => by simp [saving] at read
          · intro entry
            have current := known.sound.validated other (by rw [saving]; rfl)
            exact (known.launched _ entry).1 current.symm
      rw [carried.1, stays]
      exact carried.2
    · rw [moved.elsewhere other same] at at_ ⊢
      rcases lists with stays | ⟨launching, _, _⟩
      · rw [stays]
        have ready := known.ready other at_
        exact ⟨ready.1.moved known.sound moved, ready.2⟩
      · -- Two runs about to launch would both hold the claim.
        have mine : (system.runs id).pc.holds = true := by rw [launching]; rfl
        have theirs : (system.runs other).pc.holds = true := by rw [at_]; rfl
        exact absurd (known.sound.exclusive mine theirs) same
  distinct := by
    rcases lists with stays | ⟨launching, _, grown⟩
    · rw [stays]
      exact known.distinct
    · rw [grown, List.map_cons, List.nodup_cons]
      exact ⟨(known.ready id launching).2, known.distinct⟩

structure Beside (system system' : System) : Prop where
  runs : ∀ id, system'.runs id = system.runs id ∨
    ((system.runs id).pc = .preflight ∧ (system'.runs id).pc = .preflight ∧
      (system'.runs id).status = .active)
  record : system'.files.record = system.files.record
  next : system'.files.next = system.files.next
  claim : system'.files.claim = system.files.claim
  started : system'.started = system.started

theorem Beside.pc (beside : Beside system system') (id : RunId) :
    (system'.runs id).pc = (system.runs id).pc := by
  rcases beside.runs id with same | ⟨before, after, _⟩
  · rw [same]
  · rw [before, after]

/-- Past its first step a run is not touched from beside. -/
theorem Beside.same (beside : Beside system system')
    (past : (system.runs id).pc ≠ .preflight) : system'.runs id = system.runs id :=
  (beside.runs id).resolve_right fun first => past first.1

theorem Sound.beside (sound : Sound system) (beside : Beside system system') : Sound system' where
  ok id := by
    rcases beside.runs id with same | ⟨_, at_, active⟩
    · rw [same]
      exact sound.ok id
    · exact ⟨by simp [active], by simp [at_], by simp [at_], by simp +decide [at_], by simp +decide [at_],
        by simp +decide [at_]⟩
  holds id := by
    rw [beside.pc id, holder, beside.claim]
    exact sound.holds id
  staged id point at_ active := by
    rw [beside.pc id] at at_
    have same := beside.same (by simp [at_] : (system.runs id).pc ≠ .preflight)
    rw [same] at active ⊢
    rw [beside.next]
    exact sound.staged id point at_ active
  written doc id read named := by
    rw [beside.record] at read
    rw [beside.pc id]
    exact sound.written doc id read named
  copied id other entered named := by
    rw [beside.pc id] at entered
    have past : (system.runs id).pc ≠ .preflight := fun first => by
      rw [first] at entered
      cases entered
    rw [beside.same past] at named
    rw [beside.pc other]
    exact sound.copied id other entered named
  validated id inside := by
    rw [beside.pc id] at inside
    have past : (system.runs id).pc ≠ .preflight := fun first => by
      rw [first] at inside
      cases inside
    rw [beside.same past, beside.record]
    exact sound.validated id inside

theorem Spent.beside {text : Stored Doc} (spent : Spent system text)
    (beside : Beside system system') : Spent system' text := by
  obtain ⟨gone, doc, read, startable, retired⟩ := spent
  refine ⟨by rw [beside.record]; exact gone, doc, read, startable, fun author named => ?_⟩
  rw [beside.pc author]
  exact retired author named

theorem Launching.beside (known : Launching system) (beside : Beside system system') :
    Launching system' where
  sound := known.sound.beside beside
  launched text entry := by
    rw [beside.started] at entry
    exact (known.launched text entry).beside beside
  ready id at_ := by
    rw [beside.pc id] at at_
    rw [beside.same (by simp [at_]), beside.started]
    exact ⟨(known.ready id at_).1.beside beside, (known.ready id at_).2⟩
  distinct := by
    rw [beside.started]
    exact known.distinct

theorem step_run (active : (system.runs id).status = .active) (choice : Choice) :
    Moved id system (step system (.run id choice)) ∧
      Lists id system (step system (.run id choice)) := by
  constructor
  · exact {
      active := active
      turn := by simpa [step, active] using act_turn choice
      elsewhere := fun other different => by simp [step, active, different] }
  · by_cases launching : launches (system.runs id) choice = true
    · have shape : (system.runs id).pc = .launch ∧ ∃ inode serve, choice = .proceed inode serve := by
        unfold launches at launching
        split at launching
        · next at_ => exact ⟨at_, _, _, rfl⟩
        · cases launching
      obtain ⟨at_, inode, serve, rfl⟩ := shape
      refine .inr ⟨at_, ?_, ?_⟩
      · simp [step, active, act, advance, at_]
      · simp [step, active, launching]
    · exact .inl (by simp [step, active, launching])

theorem step_launching (known : Launching system) (move : Move) :
    Launching (step system move) := by
  cases move with
  | run id choice =>
      by_cases active : (system.runs id).status = .active
      · obtain ⟨moved, lists⟩ := step_run active choice
        exact known.moved moved lists
      · simpa [step, active] using known
  | call id call =>
      by_cases idle : (system.runs id).status = .idle
      · have first := (known.sound.ok id).waiting idle
        refine known.beside ⟨fun other => ?_, ?_, ?_, ?_, ?_⟩
        · by_cases same : other = id
          · subst same
            exact .inr ⟨first, by simp [step, idle], by simp [step, idle]⟩
          · exact .inl (by simp [step, idle, same])
        all_goals simp [step, idle]
      · simpa [step, idle] using known
  | environment plan profile root =>
      exact known.beside ⟨fun _ => .inl rfl, rfl, rfl, rfl, rfl⟩

theorem fresh_launching (fresh : Instance) : Launching fresh.system where
  sound := {
    ok := fun _ => ⟨fun _ => rfl, nofun, nofun, nofun, nofun, nofun⟩
    holds := fun id => by simp +decide [Instance.system, holder, fresh.unclaimed]
    staged := nofun
    written := fun doc id read named => by
      rw [fresh.plain doc read] at named
      cases named
    copied := nofun
    validated := nofun }
  launched := by simp [Instance.system]
  ready := nofun
  distinct := List.nodup_nil

theorem runs_launching (fresh : Instance) (moves : List Move) :
    Launching (play step fresh.system moves) := by
  have keeps : ∀ (system : System) (move : Move), Launching system → Launching (step system move) :=
    fun _ move known => step_launching known move
  exact play_keeps keeps moves fresh.system (fresh_launching fresh)

theorem Sound.claim_moved (sound : Sound system) {claim : Claim}
    (present : system.files.claim = some claim) (move : Move)
    (changed : (step system move).files.claim ≠ some claim) : move.actor = some claim.file := by
  cases move with
  | run id choice =>
      by_cases active : (system.runs id).status = .active
      · rcases (step_run active choice).1.turn.claim with kept | held | absent
        · exact absurd (kept.trans present) changed
        · have mine := (sound.holds id).mp held
          simpa [holder, present, Move.actor] using mine.symm
        · rw [present] at absent
          cases absent
      · exact absurd (by simpa [step, active] using present) changed
  | call id call =>
      refine absurd ?_ changed
      by_cases idle : (system.runs id).status = .idle <;> simpa [step, idle] using present
  | environment plan profile root => exact absurd present changed

/-- Under every interleaving, no two launches go from the same content of
`record.json`, and a claim file is rewritten or removed only by the run whose
open call created it. -/
theorem launches_once_under_own_claim (fresh : Instance) (moves : List Move) :
    ((play step fresh.system moves).started.map Prod.snd).Nodup ∧
    ∀ move claim, (play step fresh.system moves).files.claim = some claim →
      (step (play step fresh.system moves) move).files.claim ≠ some claim →
      move.actor = some claim.file := by
  have known := runs_launching fresh moves
  exact ⟨known.distinct, fun move _ present changed => known.sound.claim_moved present move changed⟩

end Runs

end Bscp.ClaimProtocol
