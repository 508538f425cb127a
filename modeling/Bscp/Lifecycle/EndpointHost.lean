import Bscp.Lifecycle.HostTrace

/-!
The process that owns the guest RPC endpoint: `guest_rpc_macos::Endpoint`, with
its operating system calls free to fail, and the other threads that record
notices in the same trace.
-/

namespace Bscp.EndpointHost

open HostTrace

/-- What `lstat` shows of the path. -/
structure Entry where
  socket : Bool
  mode : Nat
  dev : Nat
  ino : Nat
  uid : Nat
  deriving DecidableEq, Repr

structure Endpoint where
  dev : Nat
  ino : Nat
  uid : Nat
  deriving DecidableEq, Repr

inductive Stage where
  | idle
  /-- `UnixListener::bind` has returned. -/
  | listening
  /-- `Self` has been built from the metadata of the path. -/
  | identified (endpoint : Endpoint)
  | narrowed (endpoint : Endpoint)
  | announcing (endpoint : Endpoint)
  | serving (endpoint : Endpoint)
  /-- `drop` has been entered. -/
  | dropping (endpoint : Endpoint)
  /-- The path is the endpoint's own and `remove_file` comes next. -/
  | removing (endpoint : Endpoint)
  | removed (endpoint : Endpoint)
  | retiring (endpoint : Endpoint)
  | retired (endpoint : Endpoint)
  /-- `drop` has returned and left the path as it was. -/
  | retained (endpoint : Endpoint)
  /-- `bind` has failed before there was an endpoint. -/
  | refused
  deriving DecidableEq, Repr

structure Host where
  path : Option Entry
  stage : Stage := .idle
  trace : Trace := {}
  deriving DecidableEq, Repr

/-- The process: what it asks the system about itself, and the CID of its Guest. -/
structure Process where
  cid : Nat
  pid : Nat
  uid : Nat
  deriving DecidableEq, Repr

def Process.row (process : Process) (phase : Phase) (endpoint : Endpoint) : Row where
  phase := phase
  cid := process.cid
  pid := process.pid
  dev := endpoint.dev
  ino := endpoint.ino
  uid := endpoint.uid

inductive Move where
  /-- The system makes this socket for `UnixListener::bind`. -/
  | bind (mode dev ino uid : Nat)
  /-- The call that the endpoint's code is in succeeds. -/
  | advance
  | fail
  /-- The owner of the endpoint drops it. -/
  | drop
  | notice (notice : Notice)
  | grow (count : Nat)
  | written
  | writeFails

def Stage.leaves : Stage → Bool
  | .retiring _ | .retired _ => true
  | _ => false

/-- A call of `record`: the code goes on to this stage when it has the lock. -/
def Host.record (host : Host) (line : Line) (stage : Stage) : Host :=
  match host.trace.writing with
  | some _ => host
  | none => { host with trace := host.trace.record line, stage := stage }

def Host.recorded (host : Host) (stage : Stage) : Host :=
  match host.trace.writing with
  | some _ => host
  | none => { host with stage := stage }

def Entry.belongs (entry : Entry) (process : Process) (endpoint : Endpoint) : Bool :=
  entry.socket && entry.uid == process.uid && entry.dev == endpoint.dev && entry.ino == endpoint.ino

section Step

variable (process : Process)

def Host.advance (host : Host) : Host :=
  match host.stage with
  | .listening =>
      match host.path with
      | some entry =>
          if entry.socket && entry.uid == process.uid then
            { host with stage := .identified ⟨entry.dev, entry.ino, entry.uid⟩ }
          else { host with stage := .refused }
      | none => { host with stage := .refused }
  | .identified endpoint =>
      { host with
        path := host.path.map fun entry => { entry with mode := 0o600 }
        stage := .narrowed endpoint }
  | .narrowed endpoint =>
      host.record (.event (process.row .bound endpoint)) (.announcing endpoint)
  | .announcing endpoint => host.recorded (.serving endpoint)
  | .dropping endpoint =>
      match host.path with
      | some entry =>
          if entry.belongs process endpoint then { host with stage := .removing endpoint }
          else { host with stage := .retained endpoint }
      | none => { host with stage := .retained endpoint }
  | .removing endpoint => { host with path := none, stage := .removed endpoint }
  | .removed endpoint =>
      host.record (.event (process.row .retired endpoint)) (.retiring endpoint)
  | .retiring endpoint => host.recorded (.retired endpoint)
  | _ => host

/-- A failed `set_permissions` drops the endpoint that `bind` has just built. -/
def Host.fail (host : Host) : Host :=
  match host.stage with
  | .idle | .listening => { host with stage := .refused }
  | .identified endpoint => { host with stage := .dropping endpoint }
  | .dropping endpoint | .removing endpoint => { host with stage := .retained endpoint }
  | _ => host

/-- A guest CID is at least 3, and an existing path is never replaced. -/
def Host.bind (host : Host) (entry : Entry) : Host :=
  match host.stage with
  | .idle =>
      if process.cid < 3 ∨ host.path.isSome then { host with stage := .refused }
      else { host with path := some entry, stage := .listening }
  | _ => host

def Stage.gone : Stage → Bool
  | .removed _ | .retiring _ | .retired _ => true
  | _ => false

/-- The threads that record notices have ended before `drop` records. -/
def Host.step (host : Host) : Move → Host
  | .bind mode dev ino uid => host.bind process ⟨true, mode, dev, ino, uid⟩
  | .advance => host.advance process
  | .fail => host.fail
  | .drop =>
      match host.stage with
      | .serving endpoint => { host with stage := .dropping endpoint }
      | _ => host
  | .notice said =>
      if host.stage.leaves then host else host.record (.notice said) host.stage
  | .grow count => { host with trace := host.trace.grow count }
  | .written => { host with trace := host.trace.written }
  | .writeFails => { host with trace := host.trace.writeFails }

end Step

section Story

def rowOf : Line → Option Row
  | .notice _ => none
  | .event row => some row

def rows (lines : List Line) : List Row := lines.filterMap rowOf

def tailRows : Tail → List Row
  | .under (.event row) => [row]
  | _ => []

def Holds (path : Option Entry) (endpoint : Endpoint) : Prop :=
  ∃ entry, path = some entry ∧ entry.socket = true ∧ entry.dev = endpoint.dev ∧
    entry.ino = endpoint.ino ∧ entry.uid = endpoint.uid

variable (process : Process)

/-- What the path shows and what has been told at each stage, the event under way
included. An event is missing where its record was refused or broke off. -/
def Story (path : Option Entry) (told : List Row) : Stage → Prop
  | .idle | .listening | .refused => told = []
  | .identified endpoint | .narrowed endpoint => told = [] ∧ Holds path endpoint
  | .announcing endpoint | .serving endpoint | .dropping endpoint | .removing endpoint
  | .retained endpoint => told <+: [process.row .bound endpoint] ∧ Holds path endpoint
  | .removed endpoint => told <+: [process.row .bound endpoint] ∧ path = none
  | .retiring endpoint | .retired endpoint => path = none ∧
      (told <+: [process.row .bound endpoint, process.row .retired endpoint] ∨
        told <+: [process.row .retired endpoint])

variable {process}

theorem Story.shorter {path : Option Entry} {told less : List Row} {stage : Stage}
    (story : Story process path told stage) (part : less <+: told) :
    Story process path less stage := by
  cases stage with
  | idle | listening | refused => exact List.prefix_nil.mp (story ▸ part)
  | identified _ | narrowed _ => exact ⟨List.prefix_nil.mp (story.1 ▸ part), story.2⟩
  | announcing _ | serving _ | dropping _ | removing _ | retained _ | removed _ =>
      exact ⟨part.trans story.1, story.2⟩
  | retiring _ | retired _ => exact ⟨story.1, story.2.imp part.trans part.trans⟩

/-- Two complete events are told only where the path is gone. -/
theorem Story.pair {path : Option Entry} {told : List Row} {stage : Stage}
    (story : Story process path told stage) (two : 2 ≤ told.length) :
    stage.leaves = true ∧ path = none ∧ ∃ endpoint,
      told = [process.row .bound endpoint, process.row .retired endpoint] := by
  have short : ∀ {row : Row}, told <+: [row] → False := by
    intro row part
    have bound := part.length_le
    simp only [List.length_singleton] at bound
    omega
  cases stage with
  | idle | listening | refused =>
      rw [show told = [] from story] at two
      cases two
  | identified _ | narrowed _ =>
      rw [story.1] at two
      cases two
  | announcing _ | serving _ | dropping _ | removing _ | retained _ | removed _ =>
      exact (short story.1).elim
  | retiring endpoint | retired endpoint =>
      obtain ⟨gone, both | late⟩ := story
      · exact ⟨rfl, gone, endpoint, both.eq_of_length_le two⟩
      · exact (short late).elim

end Story

structure Sound (process : Process) (host : Host) (lines : List Line) (tail : Tail) (torn : Text) :
    Prop where
  trace : HostTrace.Sound host.trace lines tail torn
  story : Story process host.path (rows lines ++ tailRows tail) host.stage
  silent : host.stage.leaves = true → ∀ said, tail ≠ .under (.notice said)

/-- What a reader can rely on between two moments: lines are only added, and
nothing follows the second event. -/
structure Onward (lines : List Line) (torn : Text) (lines' : List Line) (torn' : Text) : Prop where
  grows : lines <+: lines'
  final : 2 ≤ (rows lines).length → lines' = lines ∧ torn' = torn

theorem Onward.refl (lines : List Line) (torn : Text) : Onward lines torn lines torn :=
  ⟨List.prefix_rfl, fun _ => ⟨rfl, rfl⟩⟩

theorem Onward.trans {lines₁ lines₂ lines₃ : List Line} {torn₁ torn₂ torn₃ : Text}
    (first : Onward lines₁ torn₁ lines₂ torn₂) (second : Onward lines₂ torn₂ lines₃ torn₃) :
    Onward lines₁ torn₁ lines₃ torn₃ where
  grows := first.grows.trans second.grows
  final two := by
    obtain ⟨rfl, rfl⟩ := first.final two
    exact second.final two

section Steps

variable {process : Process} {host : Host} {lines : List Line} {tail : Tail} {torn : Text}

def Steps (process : Process) (after : Host) (lines : List Line) (torn : Text) : Prop :=
  ∃ lines' tail' torn', Sound process after lines' tail' torn' ∧ Onward lines torn lines' torn'

theorem rows_append (front back : List Line) : rows (front ++ back) = rows front ++ rows back :=
  List.filterMap_append

theorem rows_completed (lines : List Line) (line : Line) :
    rows (lines ++ [line]) ++ tailRows .clean = rows lines ++ tailRows (.under line) := by
  rw [rows_append]
  cases line <;> simp [rows, rowOf, tailRows]

/-- Nothing is being written behind the second event. -/
theorem Sound.settled (sound : Sound process host lines tail torn) (two : 2 ≤ (rows lines).length)
    (line : Line) : tail ≠ .under line := by
  rintro rfl
  have long : 2 ≤ (rows lines ++ tailRows (.under line)).length := by
    rw [List.length_append]
    omega
  obtain ⟨leaves, _, endpoint, told⟩ := sound.story.pair long
  cases line with
  | notice said => exact sound.silent leaves said rfl
  | event row =>
      have size := congrArg List.length told
      simp only [tailRows, List.length_append, List.length_cons, List.length_nil] at size
      omega

theorem Sound.written (sound : Sound process host lines tail torn) (write : Write)
    (other : ∀ line, write ≠ .record line) :
    Steps process { host with trace := host.trace.step write } lines torn := by
  obtain ⟨lines', tail', torn', next, follows⟩ := sound.trace.step write
  cases follows with
  | same => exact ⟨_, _, _, ⟨next, sound.story, sound.silent⟩, .refl _ _⟩
  | opened line _ what => exact absurd what (other line)
  | grown line _ _ under _ =>
      exact ⟨_, _, _, ⟨next, sound.story, sound.silent⟩, List.prefix_rfl,
        fun two => absurd under (sound.settled two line)⟩
  | completed line _ under _ =>
      subst under
      refine ⟨_, _, _, ⟨next, ?_, by simp⟩, List.prefix_append _ _,
        fun two => absurd rfl (sound.settled two line)⟩
      rw [rows_completed]
      exact sound.story
  | broke line under _ =>
      subst under
      refine ⟨_, _, _, ⟨next, ?_, by simp⟩, List.prefix_rfl,
        fun two => absurd rfl (sound.settled two line)⟩
      exact sound.story.shorter (by simp [tailRows])

/-- A step that leaves the trace alone. -/
theorem Sound.moved (sound : Sound process host lines tail torn) (path : Option Entry)
    {stage : Stage} (story : Story process path (rows lines ++ tailRows tail) stage)
    (silent : stage.leaves = true → host.stage.leaves = true) :
    Steps process { host with path := path, stage := stage } lines torn :=
  ⟨_, _, _, ⟨sound.trace, story, fun leaves => sound.silent (silent leaves)⟩,
    List.prefix_rfl, fun _ => ⟨rfl, rfl⟩⟩

/-- The code goes on to a stage at which the same may have been told. -/
theorem Sound.turned (sound : Sound process host lines tail torn) {stage : Stage}
    (story : Story process host.path (rows lines ++ tailRows tail) stage)
    (silent : stage.leaves = true → host.stage.leaves = true) :
    Steps process { host with stage := stage } lines torn :=
  sound.moved host.path story silent

theorem Sound.stays (sound : Sound process host lines tail torn) :
    Steps process host lines torn :=
  ⟨_, _, _, sound, .refl _ _⟩

theorem Sound.returned (sound : Sound process host lines tail torn) {stage : Stage}
    (story : Story process host.path (rows lines ++ tailRows tail) stage)
    (silent : stage.leaves = true → host.stage.leaves = true) :
    Steps process (host.recorded stage) lines torn := by
  unfold Host.recorded
  split
  case h_1 _ _ => exact sound.stays
  case h_2 _ => exact sound.turned story silent

/-- A call of `record` tells a row more, or none when the trace has failed. -/
theorem Sound.recording (sound : Sound process host lines tail torn) (line : Line) {stage : Stage}
    (kept : Story process host.path (rows lines ++ tailRows tail) stage)
    (told : Story process host.path (rows lines ++ tailRows (.under line)) stage)
    (silent : stage.leaves = true → ∀ said, line ≠ .notice said) :
    Steps process (host.record line stage) lines torn := by
  unfold Host.record
  split
  case h_1 _ _ => exact sound.stays
  case h_2 free =>
      obtain ⟨lines', tail', torn', next, follows⟩ := sound.trace.step (.record line)
      cases follows with
      | same =>
          refine ⟨_, _, _, ⟨next, kept, fun leaves said => ?_⟩, List.prefix_rfl,
            fun _ => ⟨rfl, rfl⟩⟩
          rintro rfl
          -- A line under way holds the lock.
          obtain ⟨_, _, _, busy, _⟩ := sound.trace.fits
          rw [free] at busy
          cases busy
      | opened line clean what =>
          cases what
          subst clean
          have empty : torn = [] := sound.trace.fits.1
          refine ⟨_, _, _, ⟨next, told, fun leaves said under => ?_⟩, List.prefix_rfl,
            fun _ => ⟨rfl, empty.symm⟩⟩
          cases under
          exact silent leaves said rfl
      | grown _ _ _ _ what => cases what
      | completed _ _ _ what => cases what
      | broke _ _ what => cases what

theorem Sound.advance (sound : Sound process host lines tail torn) :
    Steps process (host.advance process) lines torn := by
  have story := sound.story
  unfold Host.advance
  cases standing : host.stage with
  | idle | serving _ | retired _ | retained _ | refused => exact sound.stays
  | listening =>
      rw [standing] at story
      simp only
      split
      case h_1 entry shown =>
          split
          case isTrue own =>
              obtain ⟨socket, _⟩ := Bool.and_eq_true_iff.mp own
              exact sound.turned ⟨story, entry, shown, socket, rfl, rfl, rfl⟩ nofun
          case isFalse _ => exact sound.turned story nofun
      case h_2 _ => exact sound.turned story nofun
  | identified endpoint =>
      rw [standing] at story
      obtain ⟨untold, entry, shown, held⟩ := story
      refine sound.moved _ ⟨untold, { entry with mode := 0o600 }, ?_, held⟩ nofun
      rw [shown]
      rfl
  | narrowed endpoint =>
      rw [standing] at story
      obtain ⟨untold, held⟩ := story
      have nothing := List.append_eq_nil_iff.mp untold
      refine sound.recording _ ⟨?_, held⟩ ⟨?_, held⟩ nofun
      · rw [untold]
        exact List.nil_prefix
      · rw [nothing.1]
        exact List.prefix_rfl
  | announcing endpoint =>
      rw [standing] at story
      exact sound.returned story nofun
  | dropping endpoint =>
      rw [standing] at story
      simp only
      split
      case h_1 entry shown =>
          split
          case isTrue _ => exact sound.turned story nofun
          case isFalse _ => exact sound.turned story nofun
      case h_2 _ => exact sound.turned story nofun
  | removing endpoint =>
      rw [standing] at story
      exact sound.moved none ⟨story.1, rfl⟩ nofun
  | removed endpoint =>
      rw [standing] at story
      obtain ⟨told, gone⟩ := story
      have before : rows lines <+: [process.row .bound endpoint] :=
        (List.prefix_append _ _).trans told
      refine sound.recording _ ⟨gone, .inl (told.trans (List.prefix_append _ _))⟩ ⟨gone, ?_⟩
        (fun _ => nofun)
      rcases List.prefix_cons_iff.mp before with none | ⟨rest, one, short⟩
      · rw [none]
        exact .inr List.prefix_rfl
      · rw [one, List.prefix_nil.mp short]
        exact .inl List.prefix_rfl
  | retiring endpoint =>
      rw [standing] at story
      exact sound.returned story (fun _ => by simp [standing, Stage.leaves])

theorem Sound.fail (sound : Sound process host lines tail torn) :
    Steps process host.fail lines torn := by
  have story := sound.story
  unfold Host.fail
  cases standing : host.stage with
  | idle | listening =>
      rw [standing] at story
      exact sound.turned story nofun
  | identified endpoint =>
      rw [standing] at story
      obtain ⟨untold, held⟩ := story
      refine sound.turned ⟨?_, held⟩ nofun
      rw [untold]
      exact List.nil_prefix
  | dropping endpoint | removing endpoint =>
      rw [standing] at story
      exact sound.turned story nofun
  | narrowed _ | announcing _ | serving _ | removed _ | retiring _ | retired _ | retained _
  | refused => exact sound.stays

theorem Sound.bind (sound : Sound process host lines tail torn) (entry : Entry) :
    Steps process (host.bind process entry) lines torn := by
  have story := sound.story
  unfold Host.bind
  split
  case h_1 standing =>
      rw [standing] at story
      split
      case isTrue _ => exact sound.turned story nofun
      case isFalse _ => exact sound.moved _ story nofun
  case h_2 _ => exact sound.stays

theorem Sound.step (sound : Sound process host lines tail torn) (move : Move) :
    Steps process (host.step process move) lines torn := by
  cases move with
  | bind mode dev ino uid => exact sound.bind _
  | advance => exact sound.advance
  | fail => exact sound.fail
  | drop =>
      have story := sound.story
      unfold Host.step
      simp only
      split
      case h_1 endpoint standing =>
          rw [standing] at story
          exact sound.turned story nofun
      case h_2 _ => exact sound.stays
  | notice said =>
      unfold Host.step
      simp only
      split
      case isTrue _ => exact sound.stays
      case isFalse early =>
          refine sound.recording _ sound.story ?_ (fun leaves => absurd leaves early)
          exact sound.story.shorter (by simp [tailRows])
  | grow count => exact sound.written (.grow count) nofun
  | written => exact sound.written .written nofun
  | writeFails => exact sound.written .writeFails nofun

/-- Whatever the process does between two moments, in any order. -/
theorem Sound.play (sound : Sound process host lines tail torn) (moves : List Move) :
    Steps process (Machine.play (Host.step process) host moves) lines torn := by
  induction moves generalizing host lines tail torn with
  | nil => exact sound.stays
  | cons move moves next =>
      obtain ⟨lines₁, tail₁, torn₁, sound₁, onward₁⟩ := sound.step move
      obtain ⟨lines₂, tail₂, torn₂, sound₂, onward₂⟩ := next sound₁
      exact ⟨lines₂, tail₂, torn₂, sound₂, onward₁.trans onward₂⟩

theorem Sound.start (process : Process) (path : Option Entry) :
    Sound process { path := path } [] .clean [] :=
  ⟨HostTrace.Sound.start, rfl, nofun⟩

end Steps

section Reader

variable {process : Process} {host : Host} {lines : List Line} {tail : Tail} {torn : Text}

theorem Sound.complete (sound : Sound process host lines tail torn) :
    Story process host.path (rows lines) host.stage :=
  sound.story.shorter (List.prefix_append _ _)

/-- Complete events that begin with a creation are those of one endpoint, and a path
that is there is its socket. -/
theorem Sound.original (sound : Sound process host lines tail torn) {row : Row}
    (first : [row] <+: rows lines) (bound : row.phase = .bound) :
    ∃ endpoint, row = process.row .bound endpoint ∧
      rows lines <+: [row, process.row .retired endpoint] ∧
      (host.path = none ∨ Holds host.path endpoint) := by
  have story := sound.complete
  have none : rows lines ≠ [] := by
    intro empty
    rw [empty] at first
    exact absurd (List.prefix_nil.mp first) (List.cons_ne_nil _ _)
  have one : ∀ {endpoint}, rows lines <+: [process.row .bound endpoint] →
      row = process.row .bound endpoint ∧
        rows lines <+: [row, process.row .retired endpoint] := by
    intro endpoint part
    have same : row = process.row .bound endpoint := by simpa using first.trans part
    exact ⟨same, part.trans (by simp [same])⟩
  cases standing : host.stage with
  | idle | listening | refused =>
      rw [standing] at story
      exact absurd story none
  | identified _ | narrowed _ =>
      rw [standing] at story
      exact absurd story.1 none
  | announcing endpoint | serving endpoint | dropping endpoint | removing endpoint
  | retained endpoint =>
      rw [standing] at story
      exact ⟨endpoint, (one story.1).1, (one story.1).2, .inr story.2⟩
  | removed endpoint =>
      rw [standing] at story
      exact ⟨endpoint, (one story.1).1, (one story.1).2, .inl story.2⟩
  | retiring endpoint | retired endpoint =>
      rw [standing] at story
      obtain ⟨gone, both | late⟩ := story
      · have same : row = process.row .bound endpoint := by simpa using first.trans both
        exact ⟨endpoint, same, by rw [same]; exact both, .inl gone⟩
      · have same : row = process.row .retired endpoint := by simpa using first.trans late
        rw [same] at bound
        cases bound

theorem Sound.creator (sound : Sound process host lines tail torn) {row : Row}
    (told : row ∈ rows lines) : row.cid = process.cid ∧ row.pid = process.pid := by
  have story := sound.complete
  have listed : ∀ {others : List Row}, rows lines <+: others →
      (∀ other ∈ others, other.cid = process.cid ∧ other.pid = process.pid) →
      row.cid = process.cid ∧ row.pid = process.pid := fun part all => all row (part.subset told)
  cases standing : host.stage with
  | idle | listening | refused =>
      rw [standing] at story
      rw [show rows lines = [] from story] at told
      cases told
  | identified _ | narrowed _ =>
      rw [standing] at story
      rw [story.1] at told
      cases told
  | announcing _ | serving _ | dropping _ | removing _ | retained _ | removed _ =>
      rw [standing] at story
      exact listed story.1 (by simp [Process.row])
  | retiring _ | retired _ =>
      rw [standing] at story
      obtain ⟨_, both | late⟩ := story
      · exact listed both (by simp [Process.row])
      · exact listed late (by simp [Process.row])

end Reader

end Bscp.EndpointHost
