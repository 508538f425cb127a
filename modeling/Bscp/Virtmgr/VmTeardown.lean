import Bscp.Virtmgr.VmExit

/-!
What a dead instance leaves behind: its callbacks (`registerCallback`,
`callback_on_died`) and its host bridges (`startHostVsockTcpBridge`,
`stop_host_vsock_tcp_bridges`), on every desktop host.
-/

namespace Bscp.Virtmgr

def Monitor.late : Monitor → Bool
  | .published | .storing _ | .notifying _ => true
  | _ => false

def State.owed (s : State) : List Nat :=
  match s.monitor with
  | .notifying left => left
  | _ => s.callbacks

structure Notified (s : State) : Prop where
  owed : s.accepted = s.died ++ s.owed
  fresh : s.accepted.Nodup
  late : s.monitor.late = true → s.vm = .dead
  cleared : s.vm = .dead → s.monitor = .leaving ∨ s.monitor = .gone → s.callbacks = []

theorem notified_start : Notified {} where
  owed := rfl
  fresh := List.nodup_nil
  late := nofun
  cleared := nofun

section Callbacks

variable {config : Config} {s next : State}

theorem State.owed_of_not_late (quiet : s.monitor.late = false) : s.owed = s.callbacks := by
  unfold State.owed
  split
  · rename_i standing
    rw [standing] at quiet
    cases quiet
  · rfl

/-- Only a host that is shutting down makes `start` tell the callbacks. -/
theorem StartStep.notices {number : Nat} (step : StartStep config number s next) :
    next.accepted = s.accepted ∧ next.bridges = s.bridges ∧ next.active = s.active ∧
      next.made = s.made ∧
      ((next.callbacks = s.callbacks ∧ next.died = s.died) ∨
        (config.shuttingDown = true ∧ next.monitor = s.monitor ∧ next.vm = s.vm ∧
          next.callbacks = [] ∧ next.died = s.died ++ s.callbacks)) := by
  cases step <;> simp_all [State.setStart]

/-- `start` touches the exit monitor before there is one only. -/
theorem Booted.startMonitor (booted : Booted s) {number : Nat}
    (step : StartStep config number s next) :
    next.monitor = s.monitor ∨ s.monitor = .absent ∧ next.monitor = .waiting := by
  cases step.move with
  | outside _ _ _ _ _ monitor => exact .inl monitor
  | enter _ _ _ _ _ _ _ monitor => exact .inl monitor
  | fail _ _ _ _ _ monitor => exact .inl monitor
  | prepare _ _ _ _ _ monitor => exact .inl monitor
  | watch before _ _ _ _ _ monitor => exact .inr ⟨booted.unwatched number before, monitor⟩
  | guard _ _ _ _ _ _ monitor => exact .inl monitor
  | publish _ _ _ _ _ _ monitor => exact .inl monitor

theorem StartStep.dead {number : Nat} (step : StartStep config number s next)
    (dead : next.vm = .dead) : s.vm = .dead := by
  have move := step.move
  cases move <;> simp_all

theorem Notified.startStep (notified : Notified s) (booted : Booted s)
    (down : config.shuttingDown = true → Unstarted s) {number : Nat}
    (step : StartStep config number s next) : Notified next := by
  obtain ⟨accepted, _, _, _, notices⟩ := step.notices
  have monitor := booted.startMonitor step
  have standing : s.vm = .dead → next.vm = .dead := by
    intro dead
    have move := booted.vmMove (.start number step)
    rw [dead] at move
    generalize next.vm = after at move ⊢
    cases move
    rfl
  constructor
  case owed =>
      rw [accepted, notified.owed]
      rcases notices with ⟨callbacks, died⟩ | ⟨shutdown, same, _, callbacks, died⟩
      · rw [died]
        congr 1
        rcases monitor with same | ⟨absent, waiting⟩
        · rw [State.owed, State.owed, same, callbacks]
        · rw [State.owed, State.owed, absent, waiting, callbacks]
      · -- No exit monitor is there to tell them again.
        have absent := (down shutdown).monitor
        have after := same.trans absent
        rw [State.owed_of_not_late (by rw [absent]; rfl), State.owed_of_not_late (by rw [after]; rfl),
          callbacks, died, List.append_nil]
  case fresh => rw [accepted]; exact notified.fresh
  case late =>
      intro late
      rcases monitor with same | ⟨_, waiting⟩
      · exact standing (notified.late (same ▸ late))
      · rw [waiting] at late
        cases late
  case cleared =>
      intro dead leaving
      rcases notices with ⟨callbacks, _⟩ | ⟨_, _, _, callbacks, _⟩
      · rw [callbacks]
        rcases monitor with same | ⟨_, waiting⟩
        · exact notified.cleared (step.dead dead) (same ▸ leaving)
        · rw [waiting] at leaving
          rcases leaving with leaving | leaving <;> cases leaving
      · exact callbacks

theorem Notified.monitorStep (notified : Notified s) (booted : Booted s)
    (step : MonitorStep config s next) : Notified next := by
  obtain ⟨owed, fresh, late, cleared⟩ := notified
  -- A monitor that has not published has no dead instance before it.
  have living : s.monitor.early = true → s.vm ≠ .dead := by
    intro early dead
    rw [booted.early dead] at early
    cases early
  cases step <;> constructor <;> simp_all [State.owed, Monitor.late, Monitor.early]

theorem Notified.step (notified : Notified s) (booted : Booted s)
    (down : config.shuttingDown = true → Unstarted s) (step : Step config s next) :
    Notified next := by
  cases step with
  | start number step => exact notified.startStep booted down step
  | kill caller step =>
      obtain ⟨_, _, _, _, _, monitor, _, _, _, _, _, _, callbacks, accepted, died, _, _, _, _, move⟩ :=
        step.frame
      have dead : next.vm = .dead ↔ s.vm = .dead := by
        rcases move with same | ⟨running, stopping, _⟩
        · rw [same]
        · rw [running, stopping]; simp
      constructor
      case owed => rw [State.owed, accepted, died, monitor, callbacks]; exact notified.owed
      case fresh => rw [accepted]; exact notified.fresh
      case late => rw [monitor, dead]; exact notified.late
      case cleared => rw [monitor, dead, callbacks]; exact notified.cleared
  | monitor step => exact notified.monitorStep booted step
  | hangup step => rw [step.frame]; exact ⟨notified.owed, notified.fresh, notified.late, notified.cleared⟩
  | outside step => rw [step.frame]; exact ⟨notified.owed, notified.fresh, notified.late, notified.cleared⟩
  | client step =>
      cases step with
      | @registerCallback callback fresh free living =>
          have quiet : s.monitor.late = false := by
            by_contra late
            exact living (notified.late (by simpa using late))
          constructor
          case owed =>
              have owed := notified.owed
              rw [State.owed_of_not_late quiet] at owed
              have after : State.owed { s with
                  callbacks := s.callbacks ++ [callback]
                  accepted := s.accepted ++ [callback] } = s.callbacks ++ [callback] :=
                State.owed_of_not_late quiet
              rw [after]
              change s.accepted ++ [callback] = s.died ++ (s.callbacks ++ [callback])
              rw [owed, List.append_assoc]
          case fresh =>
              refine List.nodup_append.2 ⟨notified.fresh, by simp, ?_⟩
              rintro other held last listed rfl
              exact fresh (List.mem_singleton.1 listed ▸ held)
          case late => exact notified.late
          case cleared => exact fun dead => absurd dead living
      | startBridge _ _ _ _ _ => exact ⟨notified.owed, notified.fresh, notified.late, notified.cleared⟩
      | getState _ => exact ⟨notified.owed, notified.fresh, notified.late, notified.cleared⟩

theorem reachable_notified (reach : Reachable config s) : Notified s := by
  induction reach with
  | refl => exact notified_start
  | tail reach step notified =>
      exact notified.step (reachable_ordered reach).booted
        (fun down => reachable_unstarted down reach) step

end Callbacks

def State.Tracked (s : State) (bridge : Bridge) : Prop :=
  bridge ∈ s.bridges ∨ (∃ caller flags, s.kill caller = .storing flags ∧ bridge.flag ∈ flags) ∨
    ∃ flags, s.monitor = .storing flags ∧ bridge.flag ∈ flags

structure Bridged (s : State) : Prop where
  flags : ∀ bridge ∈ s.made, bridge.flag < s.made.length
  listed : ∀ bridge ∈ s.bridges, bridge ∈ s.made
  ports : ∀ one ∈ s.bridges, ∀ other ∈ s.bridges, one.host = other.host → one = other
  tracked : ∀ bridge ∈ s.made, s.active bridge.flag = true → s.Tracked bridge
  single : ∀ one ∈ s.made, ∀ other ∈ s.made, one.host = other.host →
    s.active one.flag = true → s.active other.flag = true → one = other
  swept : s.vm = .dead → s.monitor ≠ .published → s.bridges = []

theorem bridged_start : Bridged {} where
  flags := nofun
  listed := nofun
  ports := nofun
  tracked := nofun
  single := nofun
  swept := nofun

section Bridges

variable {config : Config} {s next : State}

/-- A step that starts no bridge, lights no flag and loses no bridge that is lit. -/
theorem Bridged.frame (bridged : Bridged s) (made : next.made = s.made)
    (bridges : next.bridges = s.bridges ∨ next.bridges = [])
    (active : ∀ flag, next.active flag = true → s.active flag = true)
    (tracked : ∀ bridge, next.active bridge.flag = true → s.Tracked bridge → next.Tracked bridge)
    (swept : next.vm = .dead → next.monitor ≠ .published → next.bridges = []) :
    Bridged next := by
  have mem : ∀ bridge ∈ next.bridges, bridge ∈ s.bridges := by
    rcases bridges with same | empty
    · rw [same]; exact fun _ => id
    · rw [empty]; exact nofun
  constructor
  case flags => rw [made]; exact bridged.flags
  case listed => rw [made]; exact fun bridge held => bridged.listed bridge (mem bridge held)
  case ports =>
      exact fun one first other second => bridged.ports one (mem one first) other (mem other second)
  case tracked =>
      rw [made]
      exact fun bridge held lit => tracked bridge lit (bridged.tracked bridge held (active _ lit))
  case single =>
      rw [made]
      exact fun one first other second port lit glows =>
        bridged.single one first other second port (active _ lit) (active _ glows)
  case swept => exact swept

/-- What a call of `kill` does to the bridges. -/
theorem KillStep.sweep {caller : Caller} (step : KillStep config caller s next) :
    (next.bridges = s.bridges ∧ next.active = s.active ∧
      ∀ flags, s.kill caller = .storing flags → flags = []) ∨
    (next.bridges = [] ∧ next.active = s.active ∧ s.kill caller = .sweeping ∧
      next.kill caller = .storing (s.bridges.map Bridge.flag)) ∨
    (∃ flag rest, s.kill caller = .storing (flag :: rest) ∧ next.kill caller = .storing rest ∧
      next.bridges = s.bridges ∧ next.active = Function.update s.active flag false) := by
  cases step <;> simp_all [State.setKill]

/-- What the exit monitor does to the bridges. -/
theorem MonitorStep.sweep (step : MonitorStep config s next) :
    (next.bridges = s.bridges ∧ next.active = s.active ∧
      (∀ flags, s.monitor = .storing flags → flags = []) ∧ s.monitor ≠ .published) ∨
    (next.bridges = [] ∧ next.active = s.active ∧ s.monitor = .published ∧
      next.monitor = .storing (s.bridges.map Bridge.flag)) ∨
    (∃ flag rest, s.monitor = .storing (flag :: rest) ∧ next.monitor = .storing rest ∧
      next.bridges = s.bridges ∧ next.active = Function.update s.active flag false) := by
  cases step <;> simp_all

theorem lit_of_update {active : Nat → Bool} {flag cleared : Nat}
    (lit : Function.update active cleared false flag = true) :
    flag ≠ cleared ∧ active flag = true := by
  by_cases same : flag = cleared
  · rw [same, Function.update_self] at lit
    cases lit
  · rw [Function.update_of_ne same] at lit
    exact ⟨same, lit⟩

theorem Bridged.killStep (bridged : Bridged s) {caller : Caller}
    (step : KillStep config caller s next) : Bridged next := by
  have others := fun other => @KillStep.others config s next caller other step
  obtain ⟨_, _, _, _, _, monitor, _, _, _, _, _, _, _, _, _, made, _, _, _, move⟩ := step.frame
  have dead : next.vm = .dead → s.vm = .dead := by
    rcases move with same | ⟨_, stopping, _⟩
    · rw [same]; exact id
    · rw [stopping]; nofun
  rcases step.sweep with ⟨bridges, active, idle⟩ | ⟨bridges, active, sweeping, storing⟩ |
    ⟨flag, rest, storing, left, bridges, active⟩
  · refine bridged.frame made (.inl bridges) (by rw [active]; exact fun _ => id) ?_ ?_
    · rintro bridge _ (held | ⟨other, flags, holds, listed⟩ | swept)
      · exact .inl (bridges ▸ held)
      · by_cases same : other = caller
        · rw [idle flags (same ▸ holds)] at listed
          cases listed
        · exact .inr (.inl ⟨other, flags, (others other same).trans holds, listed⟩)
      · exact .inr (.inr (monitor ▸ swept))
    · rw [bridges, monitor]
      exact fun now => bridged.swept (dead now)
  · refine bridged.frame made (.inr bridges) (by rw [active]; exact fun _ => id) ?_ (fun _ _ => bridges)
    rintro bridge _ (held | ⟨other, flags, holds, listed⟩ | swept)
    · exact .inr (.inl ⟨caller, _, storing, List.mem_map_of_mem held⟩)
    · have different : other ≠ caller := by
        rintro rfl
        rw [sweeping] at holds
        cases holds
      exact .inr (.inl ⟨other, flags, (others other different).trans holds, listed⟩)
    · exact .inr (.inr (monitor ▸ swept))
  · refine bridged.frame made (.inl bridges) ?_ ?_ ?_
    · rw [active]; exact fun _ lit => (lit_of_update lit).2
    · rintro bridge lit (held | ⟨other, flags, holds, listed⟩ | swept)
      · exact .inl (bridges ▸ held)
      · by_cases same : other = caller
        · rw [same, storing] at holds
          cases holds
          rw [active] at lit
          exact .inr (.inl ⟨caller, rest, left,
            (List.mem_cons.1 listed).resolve_left (lit_of_update lit).1⟩)
        · exact .inr (.inl ⟨other, flags, (others other same).trans holds, listed⟩)
      · exact .inr (.inr (monitor ▸ swept))
    · rw [bridges, monitor]
      exact fun now => bridged.swept (dead now)

theorem Bridged.monitorStep (bridged : Bridged s) (step : MonitorStep config s next)
    (made : next.made = s.made) : Bridged next := by
  obtain ⟨_, _, _, kill, _, _, _, _, _, move⟩ := step.frame
  rcases step.sweep with ⟨bridges, active, idle, unpublished⟩ | ⟨bridges, active, _, storing⟩ |
    ⟨flag, rest, storing, left, bridges, active⟩
  · refine bridged.frame made (.inl bridges) (by rw [active]; exact fun _ => id) ?_ ?_
    · rintro bridge _ (held | taken | ⟨flags, holds, listed⟩)
      · exact .inl (bridges ▸ held)
      · exact .inr (.inl (kill ▸ taken))
      · rw [idle flags holds] at listed
        cases listed
    · intro now late
      rw [bridges]
      rcases move with ⟨same, _⟩ | ⟨_, _, _, published⟩
      · exact bridged.swept (same ▸ now) unpublished
      · exact absurd published late
  · refine bridged.frame made (.inr bridges) (by rw [active]; exact fun _ => id) ?_ (fun _ _ => bridges)
    rintro bridge _ (held | taken | ⟨flags, holds, listed⟩)
    · exact .inr (.inr ⟨_, storing, List.mem_map_of_mem held⟩)
    · exact .inr (.inl (kill ▸ taken))
    · simp_all
  · refine bridged.frame made (.inl bridges) ?_ ?_ ?_
    · rw [active]; exact fun _ lit => (lit_of_update lit).2
    · rintro bridge lit (held | taken | ⟨flags, holds, listed⟩)
      · exact .inl (bridges ▸ held)
      · exact .inr (.inl (kill ▸ taken))
      · rw [storing] at holds
        cases holds
        rw [active] at lit
        exact .inr (.inr ⟨rest, left,
          (List.mem_cons.1 listed).resolve_left (lit_of_update lit).1⟩)
    · intro now _
      rw [bridges]
      rcases move with ⟨same, _⟩ | ⟨_, cleaning, _, _⟩
      · exact bridged.swept (same ▸ now) (by rw [storing]; nofun)
      · rw [storing] at cleaning
        cases cleaning

/-- While the VM runs nothing has been swept: a bridge that is lit is in the map. -/
theorem Bridged.lit (bridged : Bridged s) (stops : Stops s) (notified : Notified s)
    (running : s.vm = .running) {bridge : Bridge} (made : bridge ∈ s.made)
    (lit : s.active bridge.flag = true) : bridge ∈ s.bridges := by
  rcases bridged.tracked bridge made lit with held | ⟨caller, flags, storing, _⟩ | ⟨flags, storing, _⟩
  · exact held
  · have idle := (stops.quiet (by rw [running]; rfl)).2 caller
    rw [storing] at idle
    cases idle
  · have dead := notified.late (by rw [storing]; rfl)
    rw [running] at dead
    cases dead

theorem Bridged.startBridge (bridged : Bridged s) (stops : Stops s) (notified : Notified s)
    {host guest : Nat} (running : s.vm = .running)
    (idle : ∀ bridge ∈ s.bridges, bridge.host = host → s.active bridge.flag = false) :
    Bridged { s with
      bridges := ⟨host, guest, s.made.length⟩ :: s.bridges.filter (fun bridge => bridge.host ≠ host)
      active := Function.update s.active s.made.length true
      made := s.made ++ [⟨host, guest, s.made.length⟩] } := by
  -- The flag of the new bridge is that of no other.
  have before : ∀ bridge ∈ s.made, Function.update s.active s.made.length true bridge.flag =
      s.active bridge.flag := fun bridge held =>
    Function.update_of_ne (Nat.ne_of_lt (bridged.flags bridge held)) true s.active
  have other : ∀ bridge ∈ s.made, bridge.host = host → s.active bridge.flag = true → False := by
    intro bridge held port lit
    have dark := idle bridge (bridged.lit stops notified running held lit) port
    rw [lit] at dark
    cases dark
  constructor
  case flags =>
      intro bridge held
      rw [List.length_append, List.length_singleton]
      rcases List.mem_append.1 held with old | new
      · exact Nat.lt_succ_of_lt (bridged.flags bridge old)
      · rw [List.mem_singleton.1 new]
        exact Nat.lt_succ_self _
  case listed =>
      intro bridge held
      rcases List.mem_cons.1 held with new | old
      · exact List.mem_append.2 (.inr (List.mem_singleton.2 new))
      · exact List.mem_append.2 (.inl (bridged.listed bridge (List.mem_filter.1 old).1))
  case ports =>
      intro one first two second port
      rcases List.mem_cons.1 first with new | old <;> rcases List.mem_cons.1 second with late | past
      · rw [new, late]
      · have apart := (List.mem_filter.1 past).2
        rw [new] at port
        simp [← port] at apart
      · have apart := (List.mem_filter.1 old).2
        rw [late] at port
        simp [port] at apart
      · exact bridged.ports one (List.mem_filter.1 old).1 two (List.mem_filter.1 past).1 port
  case tracked =>
      intro bridge held lit
      rcases List.mem_append.1 held with old | new
      · have glows : s.active bridge.flag = true := (before bridge old).symm.trans lit
        have mapped := bridged.lit stops notified running old glows
        refine .inl (List.mem_cons_of_mem _ (List.mem_filter.2 ⟨mapped, ?_⟩))
        simpa using fun port => other bridge old port glows
      · exact .inl (List.mem_cons.2 (.inl (List.mem_singleton.1 new)))
  case single =>
      intro one first two second port lit glows
      rcases List.mem_append.1 first with old | new <;> rcases List.mem_append.1 second with past | late
      · exact bridged.single one old two past port ((before one old).symm.trans lit)
          ((before two past).symm.trans glows)
      · rw [List.mem_singleton.1 late] at port
        exact (other one old port ((before one old).symm.trans lit)).elim
      · rw [List.mem_singleton.1 new] at port
        exact (other two past port.symm ((before two past).symm.trans glows)).elim
      · rw [List.mem_singleton.1 new, List.mem_singleton.1 late]
  case swept =>
      intro dead
      rw [running] at dead
      cases dead

theorem MonitorStep.made (step : MonitorStep config s next) :
    next.made = s.made ∧ next.accepted = s.accepted := by
  cases step <;> exact ⟨rfl, rfl⟩

/-- A bridge's thread may end by itself; nothing outside lights a flag. -/
theorem OutsideStep.dims (step : OutsideStep s next) (flag : Nat)
    (lit : next.active flag = true) : s.active flag = true := by
  cases step with
  | bridgeEnds ended => exact (lit_of_update lit).2
  | _ => exact lit

theorem Bridged.step (bridged : Bridged s) (ordered : Ordered s) (notified : Notified s)
    (step : Step config s next) : Bridged next := by
  cases step with
  | start number step =>
      obtain ⟨_, bridges, active, made, _⟩ := step.notices
      have kill := step.frame.1
      have monitor := ordered.booted.startMonitor step
      refine bridged.frame made (.inl bridges) (by rw [active]; exact fun _ => id) ?_ ?_
      · rintro bridge _ (held | taken | ⟨flags, storing, listed⟩)
        · exact .inl (bridges ▸ held)
        · exact .inr (.inl (kill ▸ taken))
        · rcases monitor with same | ⟨absent, _⟩
          · exact .inr (.inr ⟨flags, same.trans storing, listed⟩)
          · rw [absent] at storing
            cases storing
      · intro dead late
        rw [bridges]
        refine bridged.swept (step.dead dead) ?_
        rcases monitor with same | ⟨absent, _⟩
        · exact same ▸ late
        · rw [absent]
          nofun
  | kill caller step => exact bridged.killStep step
  | monitor step => exact bridged.monitorStep step step.made.1
  | hangup step =>
      rw [step.frame]
      exact bridged.frame rfl (.inl rfl) (fun _ => id) (fun _ _ => id) bridged.swept
  | outside step =>
      have dims := step.dims
      rw [step.frame] at dims ⊢
      exact bridged.frame rfl (.inl rfl) dims (fun _ _ => id) bridged.swept
  | client step =>
      cases step with
      | registerCallback _ _ _ =>
          exact bridged.frame rfl (.inl rfl) (fun _ => id) (fun _ _ => id) bridged.swept
      | startBridge _ running _ _ idle => exact bridged.startBridge ordered.stops notified running idle
      | getState _ => exact bridged.frame rfl (.inl rfl) (fun _ => id) (fun _ _ => id) bridged.swept

theorem reachable_bridged (reach : Reachable config s) : Bridged s := by
  induction reach with
  | refl => exact bridged_start
  | tail reach step bridged =>
      exact bridged.step (reachable_ordered reach) (reachable_notified reach) step

/-- An entry that is lit is not replaced: its host port keeps its guest port. -/
theorem Bridged.keeps (bridged : Bridged s) (step : Step config s next) {bridge : Bridge}
    (held : bridge ∈ s.bridges) (lit : s.active bridge.flag = true) :
    ∀ other ∈ next.bridges, other.host = bridge.host → other = bridge := by
  intro other listed port
  have old : ∀ {entry : Bridge}, entry ∈ s.bridges → entry.host = bridge.host → entry = bridge :=
    fun mem port => bridged.ports _ mem bridge held port
  cases step with
  | start number step =>
      rw [step.notices.2.1] at listed
      exact old listed port
  | kill caller step =>
      rcases step.sweep with ⟨same, _⟩ | ⟨empty, _⟩ | ⟨_, _, _, _, same, _⟩
      · exact old (same ▸ listed) port
      · rw [empty] at listed
        cases listed
      · exact old (same ▸ listed) port
  | monitor step =>
      rcases step.sweep with ⟨same, _⟩ | ⟨empty, _⟩ | ⟨_, _, _, _, same, _⟩
      · exact old (same ▸ listed) port
      · rw [empty] at listed
        cases listed
      · exact old (same ▸ listed) port
  | hangup step => rw [step.frame] at listed; exact old listed port
  | outside step => rw [step.frame] at listed; exact old listed port
  | client step =>
      cases step with
      | registerCallback _ _ _ => exact old listed port
      | @startBridge host guest _ _ _ _ idle =>
          rcases List.mem_cons.1 listed with new | past
          · -- The new bridge's port would be that of a lit one.
            rw [new] at port
            have dark := idle bridge held port.symm
            rw [lit] at dark
            cases dark
          · exact old (List.mem_filter.1 past).1 port
      | getState _ => exact old listed port

end Bridges

section Death

variable {config : Config} {s next : State}

/-- The exit monitor does not come to `callback_on_died` while a call of `kill` has taken
bridges out of the map and not yet cleared their flags. -/
def CallsInTime (s next : State) : Prop :=
  s.monitor = .storing [] → next.monitor ≠ .storing [] →
    ∀ caller flag rest, s.kill caller ≠ .storing (flag :: rest)

def Monitor.swept : Monitor → Bool
  | .notifying _ | .leaving | .gone => true
  | _ => false

def Dark (s : State) : Prop :=
  s.vm = .dead → s.monitor.swept = true → ∀ bridge ∈ s.made, s.active bridge.flag = false

theorem Dark.frame (dark : Dark s) (vm : next.vm = .dead → s.vm = .dead)
    (monitor : next.monitor = s.monitor) (made : next.made = s.made)
    (active : ∀ flag, next.active flag = true → s.active flag = true) : Dark next := by
  intro dead swept bridge held
  rw [made] at held
  rw [monitor] at swept
  by_contra lit
  have before := active bridge.flag (by simpa using lit)
  rw [dark (vm dead) swept bridge held] at before
  cases before

theorem KillStep.dims {caller : Caller} (step : KillStep config caller s next) (flag : Nat)
    (lit : next.active flag = true) : s.active flag = true := by
  rcases step.sweep with ⟨_, active, _⟩ | ⟨_, active, _⟩ | ⟨_, _, _, _, _, active⟩
  · exact active ▸ lit
  · exact active ▸ lit
  · rw [active] at lit
    exact (lit_of_update lit).2

/-- The sweep of the exit monitor leaves what it has swept. -/
theorem MonitorStep.sweeps (step : MonitorStep config s next) (swept : next.monitor.swept = true) :
    next.vm = s.vm ∧ next.active = s.active ∧
      (s.monitor.swept = true ∨ s.monitor = .storing [] ∨ s.monitor.early = true) := by
  cases step <;> simp_all [Monitor.swept, Monitor.early]

theorem Dark.monitorStep (dark : Dark s) (booted : Booted s) (bridged : Bridged s)
    (step : MonitorStep config s next) (calls : CallsInTime s next) : Dark next := by
  intro dead swept bridge held
  rw [step.made.1] at held
  obtain ⟨vm, active, before⟩ := step.sweeps swept
  rw [vm] at dead
  rw [active]
  rcases before with already | last | early
  · exact dark dead already bridge held
  · -- The map is empty and the monitor has cleared its own flags.
    have waits := calls last (fun same => by rw [same] at swept; cases swept)
    by_contra lit
    rcases bridged.tracked bridge held (by simpa using lit) with listed | ⟨caller, flags, storing, listed⟩ |
      ⟨flags, storing, listed⟩
    · rw [bridged.swept dead (by rw [last]; nofun)] at listed
      cases listed
    · cases flags with
      | nil => cases listed
      | cons flag rest => exact waits caller flag rest storing
    · rw [last] at storing
      cases storing
      cases listed
  · rw [booted.early dead] at early
    cases early

theorem Dark.step (dark : Dark s) (booted : Booted s) (bridged : Bridged s)
    (step : Step config s next) (calls : CallsInTime s next) : Dark next := by
  cases step with
  | start number step =>
      obtain ⟨_, _, active, made, _⟩ := step.notices
      rcases booted.startMonitor step with same | ⟨_, waiting⟩
      · exact dark.frame step.dead same made (by rw [active]; exact fun _ => id)
      · intro _ swept
        rw [waiting] at swept
        cases swept
  | kill caller step =>
      obtain ⟨_, _, _, _, _, monitor, _, _, _, _, _, _, _, _, _, made, _, _, _, move⟩ := step.frame
      refine dark.frame ?_ monitor made step.dims
      rcases move with same | ⟨_, stopping, _⟩
      · rw [same]; exact id
      · rw [stopping]; nofun
  | monitor step => exact dark.monitorStep booted bridged step calls
  | hangup step => rw [step.frame]; exact dark
  | outside step =>
      have dims := step.dims
      rw [step.frame] at dims ⊢
      exact dark.frame id rfl rfl dims
  | client step =>
      cases step with
      | registerCallback _ _ _ => exact dark
      | startBridge _ running _ _ _ => exact fun dead => by rw [running] at dead; cases dead
      | getState _ => exact dark

/-- From `Dead` on the exit monitor needs nobody to come to its end. -/
theorem leaving_ends (here : s.monitor = .leaving) :
    ∃ done, Machine.Reach (MonitorStep config) s done ∧ done.monitor = .gone ∧
      done.vm = s.vm ∧ done.accepted = s.accepted :=
  ⟨_, .single (.retain here), rfl, rfl, rfl⟩

theorem notifying_ends {left : List Nat} : ∀ {s : State}, s.monitor = .notifying left →
    ∃ done, Machine.Reach (MonitorStep config) s done ∧ done.monitor = .gone ∧
      done.vm = s.vm ∧ done.accepted = s.accepted := by
  induction left with
  | nil =>
      intro s here
      obtain ⟨done, run, rest⟩ := @leaving_ends config { s with monitor := .leaving, callbacks := [] } rfl
      exact ⟨done, .head (.clear here) run, rest⟩
  | cons callback left ends =>
      intro s here
      obtain ⟨done, run, rest⟩ := @ends
        { s with monitor := .notifying left, died := s.died ++ [callback] } rfl
      exact ⟨done, .head (.tell here) run, rest⟩

theorem storing_ends {flags : List Nat} : ∀ {s : State}, s.monitor = .storing flags →
    ∃ done, Machine.Reach (MonitorStep config) s done ∧ done.monitor = .gone ∧
      done.vm = s.vm ∧ done.accepted = s.accepted := by
  induction flags with
  | nil =>
      intro s here
      obtain ⟨done, run, rest⟩ := @notifying_ends config s.callbacks
        { s with monitor := .notifying s.callbacks, diedCalled := true } rfl
      exact ⟨done, .head (.call here) run, rest⟩
  | cons flag flags ends =>
      intro s here
      obtain ⟨done, run, rest⟩ := @ends
        { s with monitor := .storing flags, active := Function.update s.active flag false } rfl
      exact ⟨done, .head (.store here) run, rest⟩

theorem dead_ends (booted : Booted s) (dead : s.vm = .dead) :
    ∃ done, Machine.Reach (MonitorStep config) s done ∧ done.monitor = .gone ∧
      done.vm = s.vm ∧ done.accepted = s.accepted := by
  have late := booted.early dead
  cases here : s.monitor with
  | published =>
      obtain ⟨done, run, rest⟩ := @storing_ends config (s.bridges.map Bridge.flag)
        { s with monitor := .storing (s.bridges.map Bridge.flag), bridges := [] } rfl
      exact ⟨done, .head (.take here) run, rest⟩
  | storing flags => exact storing_ends here
  | notifying left => exact notifying_ends here
  | leaving => exact leaving_ends here
  | gone => exact ⟨s, .refl, here, rfl, rfl⟩
  | absent => rw [here] at late; cases late
  | waiting => rw [here] at late; cases late
  | observing left => rw [here] at late; cases late
  | cleaning => rw [here] at late; cases late

theorem Notified.told (notified : Notified s) (dead : s.vm = .dead)
    (done : s.monitor = .leaving ∨ s.monitor = .gone) : s.died = s.accepted := by
  have quiet : s.monitor.late = false := by rcases done with here | here <;> rw [here] <;> rfl
  have owed := notified.owed
  rw [State.owed_of_not_late quiet, notified.cleared dead done, List.append_nil] at owed
  exact owed.symm

/-- Nothing is accepted once `Dead` is published, and bridges are made while it runs only. -/
theorem Step.admits (step : Step config s next) :
    (s.vm = .dead → next.accepted = s.accepted) ∧
      (next.made = s.made ∨ s.vm = .running ∧ next.vm = .running) := by
  cases step with
  | start number step => exact ⟨fun _ => step.notices.1, .inl step.notices.2.2.2.1⟩
  | kill caller step =>
      obtain ⟨_, _, _, _, _, _, _, _, _, _, _, _, _, accepted, _, made, _⟩ := step.frame
      exact ⟨fun _ => accepted, .inl made⟩
  | monitor step => exact ⟨fun _ => step.made.2, .inl step.made.1⟩
  | hangup step => rw [step.frame]; exact ⟨fun _ => rfl, .inl rfl⟩
  | outside step => rw [step.frame]; exact ⟨fun _ => rfl, .inl rfl⟩
  | client step =>
      cases step with
      | registerCallback _ _ living => exact ⟨fun dead => absurd dead living, .inl rfl⟩
      | startBridge _ running _ _ _ => exact ⟨fun _ => rfl, .inr ⟨running, running⟩⟩
      | getState _ => exact ⟨fun _ => rfl, .inl rfl⟩

/-- After the last callback nobody is told. -/
theorem Step.told (step : Step config s next) (up : config.shuttingDown = false)
    (done : s.monitor = .leaving ∨ s.monitor = .gone) : next.died = s.died := by
  cases step with
  | start number step =>
      obtain ⟨_, _, _, _, ⟨_, died⟩ | ⟨down, _⟩⟩ := step.notices
      · exact died
      · rw [up] at down
        cases down
  | kill caller step =>
      obtain ⟨_, _, _, _, _, _, _, _, _, _, _, _, _, _, died, _⟩ := step.frame
      exact died
  | monitor step =>
      rcases done with leaving | gone
      · cases step <;> simp_all
      · cases step <;> simp_all
  | hangup step => rw [step.frame]
  | outside step => rw [step.frame]
  | client step => rw [step.frame]

/-- In every run in which the exit monitor calls in time: each accepted callback is told
once and none afterwards, bridges start while the VM runs only, a host port has one lit
bridge that is not redirected, and none is lit when the callbacks are called. -/
theorem callbacks_told_and_bridges_stopped (config : Config) (s : State)
    (reach : Machine.Reach (Machine.Under (Step config) CallsInTime) {} s) :
    (s.died.Nodup ∧ ∀ callback ∈ s.died, callback ∈ s.accepted) ∧
    (s.vm = .dead → ∃ done, Machine.Reach (MonitorStep config) s done ∧ done.monitor = .gone ∧
      done.died = s.accepted) ∧
    (s.vm = .dead → s.monitor = .leaving ∨ s.monitor = .gone → s.died = s.accepted ∧
      ∀ next, Step config s next → next.died = s.died ∧ next.accepted = s.accepted) ∧
    (∀ next, Step config s next → next.made ≠ s.made → s.vm = .running ∧ next.vm = .running) ∧
    (∀ one ∈ s.made, ∀ other ∈ s.made, one.host = other.host → s.active one.flag = true →
      s.active other.flag = true → one = other) ∧
    (∀ next, Step config s next → ∀ bridge ∈ s.bridges, s.active bridge.flag = true →
      ∀ other ∈ next.bridges, other.host = bridge.host → other = bridge) ∧
    (∀ left, s.monitor = .notifying left → ∀ bridge ∈ s.made, s.active bridge.flag = false) := by
  have plain : Reachable config s := Machine.Under.reach reach
  have ordered := reachable_ordered plain
  have notified := reachable_notified plain
  have bridged := reachable_bridged plain
  have dark : Dark s := by
    induction reach with
    | refl => exact fun dead => nofun
    | tail before move dark =>
        have earlier : Reachable config _ := Machine.Under.reach before
        exact (dark earlier (reachable_ordered earlier) (reachable_notified earlier)
          (reachable_bridged earlier)).step (reachable_ordered earlier).booted
          (reachable_bridged earlier) move.1 move.2
  have up : s.vm = .dead → config.shuttingDown = false := by
    intro dead
    by_contra down
    have unstarted := (reachable_unstarted (by simpa using down) plain).vm
    rw [dead] at unstarted
    cases unstarted
  have told := notified.fresh
  rw [notified.owed] at told
  refine ⟨⟨(List.nodup_append.1 told).1, ?_⟩, ?_, ?_, ?_, bridged.single, ?_, ?_⟩
  · intro callback called
    rw [notified.owed]
    exact List.mem_append_left _ called
  · intro dead
    obtain ⟨done, run, gone, vm, accepted⟩ := @dead_ends config s ordered.booted dead
    have later : Reachable config done :=
      plain.trans (run.lift id fun _ _ step => .monitor step)
    exact ⟨done, run, gone,
      ((reachable_notified later).told (vm.trans dead) (.inr gone)).trans accepted⟩
  · intro dead done
    exact ⟨notified.told dead done, fun next step =>
      ⟨step.told (up dead) done, step.admits.1 dead⟩⟩
  · exact fun next step new => step.admits.2.resolve_left new
  · exact fun next step bridge held lit => bridged.keeps step held lit
  · intro left here
    exact dark (notified.late (by rw [here]; rfl)) (by rw [here]; rfl)

end Death

/-- A guest with a callback and a bridge exits by itself. -/
theorem exited_guest_tells_and_stops : ∃ s,
    Machine.Reach (Machine.Under (Step ⟨.macos, false, false, false⟩) CallsInTime) {} s ∧
    s.made = [⟨8080, 5555, 0⟩] ∧ s.accepted = [7] ∧ s.died = [7] := by
  have run : ∃ s, Machine.Reach (Machine.Under (Step ⟨.macos, false, false, false⟩) CallsInTime) {} s ∧
      s.vm = .dead ∧ s.monitor = .gone ∧ s.made = [⟨8080, 5555, 0⟩] ∧ s.accepted = [7] :=
    ⟨_, .head ⟨.client (@ClientStep.registerCallback _ 7 nofun rfl nofun), nofun⟩ <|
      .head ⟨.start 0 (.retain rfl rfl rfl rfl), nofun⟩ <|
      .head ⟨.start 0 (.serve rfl), nofun⟩ <|
      .head ⟨.start 0 (.enter rfl rfl rfl), nofun⟩ <|
      .head ⟨.start 0 (.spawn rfl), nofun⟩ <|
      .head ⟨.start 0 (.bindPeer rfl nofun), nofun⟩ <|
      .head ⟨.start 0 (.monitor rfl), nofun⟩ <|
      .head ⟨.start 0 (.guard rfl), nofun⟩ <|
      .head ⟨.start 0 (.publish rfl), nofun⟩ <|
      .head ⟨.client (@ClientStep.startBridge _ 8080 5555 rfl rfl (by decide) (by decide) nofun), nofun⟩ <|
      .head ⟨.outside (.exits rfl), nofun⟩ <|
      .head ⟨.outside (.deliver rfl), nofun⟩ <|
      .head ⟨.monitor (.waitMac rfl rfl rfl), nofun⟩ <|
      .head ⟨.monitor (.observe rfl rfl), nofun⟩ <|
      .head ⟨.monitor (.publish rfl rfl), nofun⟩ <|
      .head ⟨.monitor (.take rfl), nofun⟩ <|
      .head ⟨.monitor (.store rfl), nofun⟩ <|
      -- No call of `kill` is under way.
      .head ⟨.monitor (.call rfl), fun _ _ _ _ _ => nofun⟩ <|
      .head ⟨.monitor (.tell rfl), nofun⟩ <|
      .head ⟨.monitor (.clear rfl), nofun⟩ <|
      .head ⟨.monitor (.release rfl (.inr rfl)), nofun⟩ .refl, rfl, rfl, rfl, rfl⟩
  obtain ⟨s, reach, dead, gone, made, accepted⟩ := run
  obtain ⟨_, _, told, _⟩ := callbacks_told_and_bridges_stopped _ s reach
  exact ⟨s, reach, made, accepted, (told dead (.inr gone)).1.trans accepted⟩

/-- A stop has taken the bridge out and not cleared its flag when the exit monitor, which
finds nothing to sweep, calls the callbacks. -/
theorem bridge_lit_as_callbacks_are_called : ∃ s, Reachable ⟨.macos, false, false, false⟩ s ∧
    s.monitor = .notifying [] ∧ s.made = [⟨8080, 5555, 0⟩] ∧ s.active 0 = true := by
  exact ⟨_, .head (.start 0 (.retain rfl rfl rfl rfl)) <|
    .head (.start 0 (.serve rfl)) <|
    .head (.start 0 (.enter rfl rfl rfl)) <|
    .head (.start 0 (.spawn rfl)) <|
    .head (.start 0 (.bindPeer rfl nofun)) <|
    .head (.start 0 (.monitor rfl)) <|
    .head (.start 0 (.guard rfl)) <|
    .head (.start 0 (.publish rfl)) <|
    .head (.client (@ClientStep.startBridge _ 8080 5555 rfl rfl (by decide) (by decide) nofun)) <|
    .head (.kill (.client 0) (.first rfl nofun rfl rfl)) <|
    .head (.kill (.client 0) (.proceed rfl nofun)) <|
    .head (.kill (.client 0) (.take rfl)) <|
    .head (.outside (.exits rfl)) <|
    .head (.outside (.deliver rfl)) <|
    .head (.monitor (.waitMac rfl rfl rfl)) <|
    .head (.monitor (.observe rfl rfl)) <|
    .head (.monitor (.publish rfl rfl)) <|
    .head (.monitor (.take rfl)) <|
    .head (.monitor (.call rfl)) .refl, rfl, rfl, rfl⟩

end Bscp.Virtmgr
