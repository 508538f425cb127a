import Bscp.Virtmgr.HostService

/-!
Every call of the service fails and leaves its state alone, or does what its name
says; from that the order of the four maps, the exclusive leases and the drops outside
the lock follow for every run of every number of services.
-/

namespace Bscp.Virtmgr.HostService

open Transaction

section Calls

variable {α : Type} {me : Nat} {s : Local}

theorem clean_locked {body : Action α} {post : α → Local → Prop} (free : s.held = false)
    (clean : Clean { s with held := true } body fun value t => post value { t with held := false }) :
    Clean s (locked body) post := by
  have back : { s with held := false } = s := by rw [← free]
  rcases clean with ⟨error, fails⟩ | ⟨value, t, ends, holds⟩
  · refine Or.inl ⟨error, ?_⟩
    change ((Action.on body { s with held := true }).1,
      { (Action.on body { s with held := true }).2 with held := false }) = _
    rw [fails]
    exact congrArg _ back
  · refine Or.inr ⟨value, { t with held := false }, ?_, holds⟩
    change ((Action.on body { s with held := true }).1,
      { (Action.on body { s with held := true }).2 with held := false }) = _
    rw [ends]

/-- `flock` gives a file that nobody has locked, or the call fails. -/
theorem acquire_cases {key : LeaseKey} {possible : Bool} :
    (acquire me key possible).on s = (.error .lease, s) ∨
      s.leases key = none ∧ (acquire me key possible).on s =
        (.ok (), { s with leases := Function.update s.leases key (some me) }) := by
  unfold acquire
  rw [on_bind_ok on_get]
  by_cases taken : possible = false ∨ s.leases key ≠ none
  · exact .inl (on_bind_error (on_refuse_pos taken))
  · refine .inr ⟨?_, ?_⟩
    · by_contra held
      exact taken (.inr held)
    · rw [on_bind_ok (on_refuse_neg taken)]
      rfl

theorem createContext_clean {env : Environment} {cid : Int} :
    Clean s (createContext me env cid) fun context t =>
      context.cid = cid ∧ s.leases (.cid cid) = none ∧ ∃ path, t = { s with
        leases := Function.update s.leases (.cid cid) (some me)
        service := { s.service with contexts := s.service.contexts.insert cid path } } := by
  unfold createContext
  rcases acquire_cases with fails | ⟨free, acquires⟩
  · exact .error (on_bind_error fails)
  · by_cases creatable : env.creatable = true
    · refine Or.inr ⟨⟨cid, contextPath me env.root cid⟩, _, ?_, rfl, free,
        contextPath me env.root cid, rfl⟩
      rw [on_bind_ok acquires, if_pos creatable]
      rfl
    · -- The lease is given back, and the file is unlocked as it was before.
      refine Or.inl ⟨.directory, ?_⟩
      rw [on_bind_ok acquires, if_neg creatable]
      change (Except.error Error.directory, { s with
        leases := Function.update (Function.update s.leases (.cid cid) (some me)) (.cid cid) none }) = _
      rw [Function.update_idem, ← free, Function.update_eq_self]

theorem clean_authorize {allowed : Bool} {rest : Unit → Action α} {post : α → Local → Prop}
    (next : Clean s (rest ()) post) : Clean s (authorize allowed >>= rest) post :=
  .refuse fun _ => next

theorem allocateVmContext_clean {env : Environment} (free : s.held = false) :
    Clean s (allocateVmContext me env) fun context t =>
      s.leases (.cid context.cid) = none ∧ ∃ path, t = { s with
        leases := Function.update s.leases (.cid context.cid) (some me)
        service := { s.service with contexts := s.service.contexts.insert context.cid path } } := by
  have based : Clean s env.base fun _ t => t = s ∧ True := by
    unfold Environment.base
    split
    · exact .ok rfl ⟨rfl, trivial⟩
    · exact .error rfl
    · exact .ok rfl ⟨rfl, trivial⟩
  refine clean_authorize (based.bind fun base _ => .refuse fun _ => .refuse fun _ => .refuse fun _ => ?_)
  refine clean_locked free (.get (.refuse fun _ => .refuse fun _ => .refuse fun _ => ?_))
  refine createContext_clean.imp ?_
  rintro context t ⟨same, unleased, path, after⟩
  rw [same]
  refine ⟨unleased, path, ?_⟩
  rw [after, ← free]

theorem registerVirtualMachine_clean {allowed : Bool} {cid : Int} {vm : Vm} (free : s.held = false) :
    Clean s (registerVirtualMachine allowed cid vm) fun _ t =>
      cid ∈ s.service.contexts ∧ t = { s with
        service := { s.service with registered := s.service.registered.insert cid vm } } := by
  refine clean_authorize (clean_locked free (.get (.refuse fun known => ?_)))
  refine .ok rfl ⟨?_, by rw [← free]⟩
  by_contra unknown
  exact known (.inl unknown)

theorem retainForStart_clean {cid : Int} {alive : Bool} (free : s.held = false) :
    Clean s (retainForStart cid alive) fun _ t => cid ∈ s.service.registered ∧ ∃ vm, t = { s with
      service := { s.service with owned := s.service.owned.insert cid vm } } := by
  refine clean_locked free (.get (.refuse fun unowned => ?_))
  -- What the insertion would drop under the lock is not there.
  have empty : s.service.owned.lookup cid = none := AList.lookup_eq_none.2 unowned
  cases found : s.service.registered.lookup cid with
  | none => exact .error rfl
  | some vm =>
      have listed : cid ∈ s.service.registered := AList.lookup_isSome.1 (by rw [found]; rfl)
      refine .refuse fun _ => ?_
      simp only [empty]
      exact .ok rfl ⟨listed, vm, by rw [← free]⟩

/-- A removal that finds nothing changes nothing. -/
theorem erase_absent {κ : Type} {β : κ → Type} [DecidableEq κ] {map : AList β} {key : κ}
    (absent : map.lookup key = none) : map.erase key = map :=
  AList.ext (List.kerase_of_notMem_keys (AList.lookup_eq_none.1 absent))

theorem releaseOwnedRegistration_clean {cid : Int} (free : s.held = false) :
    Clean s (releaseOwnedRegistration cid) fun _ t => t = { s with
      service := { s.service with
        registered := s.service.registered.erase cid
        owned := s.service.owned.erase cid } } := by
  refine clean_locked free (.get ?_)
  by_cases absent : s.service.registered.lookup cid = none
  · refine Or.inl ⟨.notRegistered, ?_⟩
    have erased : s.service.registered.erase cid = s.service.registered := erase_absent absent
    refine (on_bind_ok (on_modify _)).trans ((on_bind_error (on_refuse_pos absent)).trans ?_)
    simp only [erased]
  · refine Or.inr ⟨s.service.owned.lookup cid, _,
      (on_bind_ok (on_modify _)).trans ((on_bind_ok (on_refuse_neg absent)).trans rfl), ?_⟩
    rw [← free]

theorem claimVmInstance_clean {allowed leasable : Bool} {id : InstanceId} (free : s.held = false) :
    Clean s (claimVmInstance me allowed id leasable) fun _ t =>
      s.leases (.instance id) = none ∧ t = { s with
        leases := Function.update s.leases (.instance id) (some me)
        service := { s.service with claims := s.service.claims.insert id () } } := by
  refine clean_authorize (clean_locked free (.get (.refuse fun _ => ?_)))
  rcases acquire_cases with fails | ⟨unleased, acquires⟩
  · exact .error (on_bind_error fails)
  · exact .ok ((on_bind_ok acquires).trans rfl) ⟨unleased, by rw [← free]⟩

theorem removeVmInstance_clean {allowed : Bool} {id : InstanceId} (free : s.held = false) :
    Clean s (removeVmInstance allowed id) fun _ t => id ∈ s.service.claims ∧ t = { s with
      leases := Function.update s.leases (.instance id) none
      service := { s.service with claims := s.service.claims.erase id } } := by
  refine clean_authorize (clean_locked free (.get ?_))
  by_cases absent : s.service.claims.lookup id = none
  · refine Or.inl ⟨.notClaimed, ?_⟩
    have erased : s.service.claims.erase id = s.service.claims := erase_absent absent
    refine (on_bind_ok (on_modify _)).trans ((on_bind_error (on_refuse_pos absent)).trans ?_)
    simp only [erased]
  · refine Or.inr ⟨(), _,
      (on_bind_ok (on_modify _)).trans ((on_bind_ok (on_refuse_neg absent)).trans rfl), ?_, ?_⟩
    · by_contra unclaimed
      exact absent (AList.lookup_eq_none.2 unclaimed)
    · rw [← free]

inductive Done (me : Nat) (s t : Local) : Reply → Prop
  | allocated (context : VmContext) (path : String) (unleased : s.leases (.cid context.cid) = none)
      (after : t = { s with
        leases := Function.update s.leases (.cid context.cid) (some me)
        service := { s.service with contexts := s.service.contexts.insert context.cid path } }) :
      Done me s t { context := some context }
  | registered (cid : Int) (vm : Vm) (known : cid ∈ s.service.contexts)
      (after : t = { s with
        service := { s.service with registered := s.service.registered.insert cid vm } }) :
      Done me s t {}
  | retained (cid : Int) (vm : Vm) (listed : cid ∈ s.service.registered)
      (after : t = { s with
        service := { s.service with owned := s.service.owned.insert cid vm } }) :
      Done me s t {}
  | released (cid : Int) (removed : Option Vm)
      (after : t = { s with
        service := { s.service with
          registered := s.service.registered.erase cid
          owned := s.service.owned.erase cid } }) :
      Done me s t { removed := removed }
  | claimed (id : InstanceId) (unleased : s.leases (.instance id) = none)
      (after : t = { s with
        leases := Function.update s.leases (.instance id) (some me)
        service := { s.service with claims := s.service.claims.insert id () } }) :
      Done me s t {}
  | removed (id : InstanceId) (mine : id ∈ s.service.claims)
      (after : t = { s with
        leases := Function.update s.leases (.instance id) none
        service := { s.service with claims := s.service.claims.erase id } }) :
      Done me s t {}

theorem Call.clean (call : Call) (free : s.held = false) :
    Clean s (call.run me) fun reply t => Done me s t reply := by
  cases call with
  | allocateVmContext env =>
      refine (allocateVmContext_clean free).map ?_
      rintro context t ⟨unleased, path, after⟩
      exact .allocated context path unleased after
  | registerVirtualMachine allowed cid vm =>
      refine (registerVirtualMachine_clean free).map ?_
      rintro _ t ⟨known, after⟩
      exact .registered cid vm known after
  | retainForStart cid alive =>
      refine (retainForStart_clean free).map ?_
      rintro _ t ⟨listed, vm, after⟩
      exact .retained cid vm listed after
  | unregisterVirtualMachine allowed cid =>
      have released : Clean s (HostService.unregisterVirtualMachine allowed cid) _ :=
        clean_authorize (releaseOwnedRegistration_clean free)
      exact released.map fun vm t after => .released cid vm after
  | unregisterOwnedVm cid =>
      exact (releaseOwnedRegistration_clean free).map fun vm t after => .released cid vm after
  | claimVmInstance allowed id leasable =>
      refine (claimVmInstance_clean free).map ?_
      rintro _ t ⟨unleased, after⟩
      exact .claimed id unleased after
  | removeVmInstance allowed id =>
      refine (removeVmInstance_clean free).map ?_
      rintro _ t ⟨mine, after⟩
      exact .removed id mine after

end Calls

structure Sound (w : World) : Prop where
  owned : ∀ me s, w.services me = some s → ∀ cid ∈ s.owned, cid ∈ s.registered
  registered : ∀ me s, w.services me = some s → ∀ cid ∈ s.registered, cid ∈ s.contexts
  leased : ∀ me s, w.services me = some s → ∀ cid ∈ s.contexts, w.leases (.cid cid) = some me
  claimed : ∀ me s, w.services me = some s → ∀ id ∈ s.claims, w.leases (.instance id) = some me
  handed : ∀ me s, w.services me = some s → ∀ cid ∈ w.handed me, cid ∈ s.contexts
  fresh : ∀ me, (w.handed me).Nodup
  dropped : ∀ drop ∈ w.dropped, drop.2 = false

theorem sound_start : Sound {} where
  owned := nofun
  registered := nofun
  leased := nofun
  claimed := nofun
  handed := nofun
  fresh _ := List.nodup_nil
  dropped := nofun

section Runs

variable {w : World} {me : Nat} {s : Service}

/-- A call that fails leaves the world as it was. -/
theorem World.after_error (live : w.services me = some s) (error : Error) :
    w.after me (.error error, { service := s, leases := w.leases }) = w := by
  have same : Function.update w.services me (some s) = w.services := by
    rw [← live, Function.update_eq_self]
  unfold World.after
  simp only [same, List.nil_append]

/-- The services other than the one that has made the call. -/
theorem of_update {services : Nat → Option Service} {mine : Service} {other : Nat} {found : Service}
    (live : Function.update services me (some mine) other = some found) :
    other = me ∧ found = mine ∨ other ≠ me ∧ services other = some found := by
  by_cases same : other = me
  · rw [same, Function.update_self] at live
    exact .inl ⟨same, (Option.some.inj live).symm⟩
  · rw [Function.update_of_ne same] at live
    exact .inr ⟨same, live⟩

def Reply.handed (reply : Reply) (before : List Int) : List Int :=
  match reply.context with
  | some context => context.cid :: before
  | none => before

theorem after_handed {reply : Reply} {t : Local} {other : Nat} :
    (w.after me (.ok reply, t)).handed other =
      if other = me then reply.handed (w.handed me) else w.handed other := by
  obtain ⟨context, removed⟩ := reply
  cases context with
  | none =>
      change w.handed other = _
      split
      · rename_i same
        rw [same]
        rfl
      · rfl
  | some context =>
      change Function.update w.handed me (context.cid :: w.handed me) other = _
      split
      · rename_i same
        rw [same, Function.update_self]
        rfl
      · rename_i different
        rw [Function.update_of_ne different]

/-- What a call has to keep: the order of its own maps, its own leases, and those of the
other services. -/
theorem Sound.after (sound : Sound w) {t : Service} {leases : Leases} {reply : Reply}
    (owned : ∀ cid ∈ t.owned, cid ∈ t.registered)
    (registered : ∀ cid ∈ t.registered, cid ∈ t.contexts)
    (leased : ∀ cid ∈ t.contexts, leases (.cid cid) = some me)
    (claimed : ∀ id ∈ t.claims, leases (.instance id) = some me)
    (others : ∀ key other, other ≠ me → w.leases key = some other → leases key = some other)
    (handed : ∀ cid ∈ reply.handed (w.handed me), cid ∈ t.contexts)
    (fresh : (reply.handed (w.handed me)).Nodup) :
    Sound (w.after me (.ok reply, { service := t, leases := leases })) := by
  constructor
  case owned =>
      intro other found here
      rcases of_update here with ⟨rfl, rfl⟩ | ⟨_, before⟩
      · exact owned
      · exact sound.owned other found before
  case registered =>
      intro other found here
      rcases of_update here with ⟨rfl, rfl⟩ | ⟨_, before⟩
      · exact registered
      · exact sound.registered other found before
  case leased =>
      intro other found here
      rcases of_update here with ⟨rfl, rfl⟩ | ⟨different, before⟩
      · exact leased
      · exact fun cid held => others _ other different (sound.leased other found before cid held)
  case claimed =>
      intro other found here
      rcases of_update here with ⟨rfl, rfl⟩ | ⟨different, before⟩
      · exact claimed
      · exact fun id held => others _ other different (sound.claimed other found before id held)
  case handed =>
      intro other found here
      rw [after_handed]
      rcases of_update here with ⟨rfl, rfl⟩ | ⟨different, before⟩
      · rw [if_pos rfl]; exact handed
      · rw [if_neg different]; exact sound.handed other found before
  case fresh =>
      intro other
      rw [after_handed]
      split
      · exact fresh
      · exact sound.fresh other
  case dropped => exact sound.dropped

/-- A lease that is taken from nobody is taken from no other service. -/
theorem update_others {leases : Leases} {key : LeaseKey} (unleased : leases key = none) :
    ∀ other holder, holder ≠ me → leases other = some holder →
      Function.update leases key (some me) other = some holder := by
  intro other holder _ holds
  have different : other ≠ key := by
    rintro rfl
    rw [unleased] at holds
    cases holds
  rw [Function.update_of_ne different]
  exact holds

theorem Sound.done (sound : Sound w) (live : w.services me = some s) {t : Local} {reply : Reply}
    (done : Done me { service := s, leases := w.leases } t reply) :
    Sound (w.after me (.ok reply, t)) := by
  have owned := sound.owned me s live
  have registered := sound.registered me s live
  have leased := sound.leased me s live
  have claimed := sound.claimed me s live
  have handed := sound.handed me s live
  have fresh := sound.fresh me
  have same : ∀ key other, other ≠ me → w.leases key = some other → w.leases key = some other :=
    fun _ _ _ => id
  cases done with
  | allocated context path unleased after =>
      subst after
      have new : ∀ cid, cid ∈ s.contexts.insert context.cid path ↔ cid = context.cid ∨ cid ∈ s.contexts :=
        fun cid => AList.mem_insert s.contexts
      -- A CID without a lease is none of those handed out before.
      have unknown : context.cid ∉ s.contexts := by
        intro known
        have holds := leased _ known
        rw [show w.leases (.cid context.cid) = none from unleased] at holds
        cases holds
      refine sound.after owned ?_ ?_ ?_ (update_others unleased) ?_ ?_
      · exact fun cid held => (new cid).2 (.inr (registered cid held))
      · intro cid held
        by_cases mine : cid = context.cid
        · rw [mine, Function.update_self]
        · rw [Function.update_of_ne (by simpa using mine)]
          exact leased cid (((new cid).1 held).resolve_left mine)
      · intro id held
        rw [Function.update_of_ne (by simp)]
        exact claimed id held
      · intro cid held
        exact (new cid).2 ((List.mem_cons.1 held).imp id (handed cid))
      · exact List.nodup_cons.2 ⟨fun known => unknown (handed _ known), fresh⟩
  | registered cid vm known after =>
      subst after
      refine sound.after ?_ ?_ leased claimed same handed fresh
      · exact fun other held => (AList.mem_insert _).2 (.inr (owned other held))
      · intro other held
        rcases (AList.mem_insert _).1 held with rfl | before
        · exact known
        · exact registered other before
  | retained cid vm listed after =>
      subst after
      refine sound.after ?_ registered leased claimed same handed fresh
      intro other held
      rcases (AList.mem_insert _).1 held with rfl | before
      · exact listed
      · exact owned other before
  | released cid removed after =>
      subst after
      refine sound.after ?_ ?_ leased claimed same handed fresh
      · intro other held
        obtain ⟨different, before⟩ := AList.mem_erase.1 held
        exact AList.mem_erase.2 ⟨different, owned other before⟩
      · exact fun other held => registered other (AList.mem_erase.1 held).2
  | claimed id unleased after =>
      subst after
      refine sound.after owned registered ?_ ?_ (update_others unleased) handed fresh
      · intro cid held
        rw [Function.update_of_ne (by simp)]
        exact leased cid held
      · intro other held
        by_cases mine : other = id
        · rw [mine, Function.update_self]
        · rw [Function.update_of_ne (by simpa using mine)]
          exact claimed other (((AList.mem_insert _).1 held).resolve_left mine)
  | removed id mine after =>
      subst after
      refine sound.after owned registered ?_ ?_ ?_ handed fresh
      · intro cid held
        rw [Function.update_of_ne (by simp)]
        exact leased cid held
      · intro other held
        obtain ⟨different, before⟩ := AList.mem_erase.1 held
        rw [Function.update_of_ne (by simpa using different)]
        exact claimed other before
      · intro key other different holds
        have elsewhere : key ≠ .instance id := by
          rintro rfl
          rw [claimed id mine] at holds
          exact different (Option.some.inj holds).symm
        rw [Function.update_of_ne elsewhere]
        exact holds

theorem Sound.start (sound : Sound w) (me : Nat) : Sound { w with
    services := Function.update w.services me (some {})
    handed := Function.update w.handed me [] } := by
  constructor
  case owned =>
      intro other found here
      rcases of_update here with ⟨_, rfl⟩ | ⟨_, before⟩
      · exact nofun
      · exact sound.owned other found before
  case registered =>
      intro other found here
      rcases of_update here with ⟨_, rfl⟩ | ⟨_, before⟩
      · exact nofun
      · exact sound.registered other found before
  case leased =>
      intro other found here
      rcases of_update here with ⟨_, rfl⟩ | ⟨_, before⟩
      · exact nofun
      · exact sound.leased other found before
  case claimed =>
      intro other found here
      rcases of_update here with ⟨_, rfl⟩ | ⟨_, before⟩
      · exact nofun
      · exact sound.claimed other found before
  case handed =>
      intro other found here cid listed
      change cid ∈ Function.update w.handed me [] other at listed
      rcases of_update here with ⟨rfl, _⟩ | ⟨different, before⟩
      · rw [Function.update_self] at listed
        cases listed
      · rw [Function.update_of_ne different] at listed
        exact sound.handed other found before cid listed
  case fresh =>
      intro other
      change (Function.update w.handed me [] other).Nodup
      by_cases same : other = me
      · rw [same, Function.update_self]
        exact List.nodup_nil
      · rw [Function.update_of_ne same]
        exact sound.fresh other
  case dropped => exact sound.dropped

/-- A service that goes releases its own leases only. -/
theorem Sound.exit (sound : Sound w) (me : Nat) : Sound { w with
    services := Function.update w.services me none
    leases := fun key => if w.leases key = some me then none else w.leases key
    carried := w.carried.filter fun held => held.1 ≠ me } := by
  have living : ∀ other found, Function.update w.services me none other = some found →
      other ≠ me ∧ w.services other = some found := by
    intro other found here
    by_cases same : other = me
    · rw [same, Function.update_self] at here
      cases here
    · rw [Function.update_of_ne same] at here
      exact ⟨same, here⟩
  have keeps : ∀ key other, other ≠ me → w.leases key = some other →
      (if w.leases key = some me then none else w.leases key) = some other := by
    intro key other different holds
    rw [holds, if_neg (by simpa using different)]
  constructor
  case owned => exact fun other found here => sound.owned other found (living other found here).2
  case registered => exact fun other found here => sound.registered other found (living other found here).2
  case leased =>
      intro other found here cid held
      obtain ⟨different, before⟩ := living other found here
      exact keeps _ other different (sound.leased other found before cid held)
  case claimed =>
      intro other found here id held
      obtain ⟨different, before⟩ := living other found here
      exact keeps _ other different (sound.claimed other found before id held)
  case handed => exact fun other found here => sound.handed other found (living other found here).2
  case fresh => exact sound.fresh
  case dropped => exact sound.dropped

theorem Sound.step (sound : Sound w) {next : World} (step : Step w next) : Sound next := by
  cases step with
  | start me _ => exact sound.start me
  | @call me s live call =>
      have clean := @Call.clean me { service := s, leases := w.leases } call rfl
      rcases clean with ⟨error, fails⟩ | ⟨reply, t, ends, done⟩
      · rw [World.call, fails, World.after_error live]
        exact sound
      · rw [World.call, ends]
        exact sound.done live done
  | drop _ _ =>
      -- The thread that drops has left the lock.
      refine ⟨sound.owned, sound.registered, sound.leased, sound.claimed, sound.handed, sound.fresh, ?_⟩
      intro drop listed
      rcases List.mem_cons.1 listed with new | old
      · rw [new]
      · exact sound.dropped drop old
  | exit me => exact sound.exit me

theorem reachable_sound (reach : Reachable w) : Sound w :=
  Machine.reach_keeps sound_start (fun _ _ sound step => sound.step step) reach

/-- In every run of any number of services: the maps stay in order, no CID and no
instance is held by two, no CID is handed out twice, a failed call changes nothing, and
no VM object is dropped with `State` locked. -/
theorem ownership_kept (w : World) (reach : Reachable w) :
    (∀ me s, w.services me = some s →
      s.owned.keys ⊆ s.registered.keys ∧ s.registered.keys ⊆ s.contexts.keys) ∧
    (∀ me other s t, w.services me = some s → w.services other = some t →
      (∃ cid, cid ∈ s.contexts ∧ cid ∈ t.contexts) ∨ (∃ id, id ∈ s.claims ∧ id ∈ t.claims) →
      me = other) ∧
    (∀ me, (w.handed me).Nodup) ∧
    (∀ me s call error t, w.services me = some s →
      (Call.run me call).on { service := s, leases := w.leases } = (.error error, t) →
      t.service = s ∧ w.call me s call = w) ∧
    (∀ drop ∈ w.dropped, drop.2 = false) := by
  have sound := reachable_sound reach
  refine ⟨?_, ?_, sound.fresh, ?_, sound.dropped⟩
  · intro me s live
    exact ⟨fun cid held => sound.owned me s live cid held,
      fun cid held => sound.registered me s live cid held⟩
  · rintro me other s t mine theirs (⟨cid, first, second⟩ | ⟨id, first, second⟩)
    · exact Option.some.inj ((sound.leased me s mine cid first).symm.trans
        (sound.leased other t theirs cid second))
    · exact Option.some.inj ((sound.claimed me s mine id first).symm.trans
        (sound.claimed other t theirs id second))
  · intro me s call error t live fails
    have clean := @Call.clean me { service := s, leases := w.leases } call rfl
    rcases clean with ⟨_, same⟩ | ⟨_, _, ends, _⟩
    · rw [fails] at same
      have unchanged := (Prod.mk.inj same).2
      rw [World.call, fails, unchanged, World.after_error live]
      exact ⟨rfl, rfl⟩
    · rw [fails] at ends
      cases ends

end Runs

/-- One service allocates, registers, retains and releases a VM while another, which
asks for the same CID, is refused. -/
theorem two_services_keep_ownership : ∃ w, Reachable w ∧ w.handed 0 = [2048] ∧ w.handed 1 = [] ∧
    w.dropped = [(7, false)] ∧ (w.handed 0).Nodup := by
  have run : ∃ w, Reachable w ∧ w.handed 0 = [2048] ∧ w.handed 1 = [] ∧ w.dropped = [(7, false)] :=
    ⟨_, .head (.start 0 rfl) <| .head (.start 1 rfl) <|
      .head (@Step.call _ 0 _ rfl (.allocateVmContext ⟨true, none, "/", true, true, true, true, true⟩)) <|
      .head (@Step.call _ 1 _ rfl (.allocateVmContext ⟨true, none, "/", true, true, true, true, true⟩)) <|
      .head (@Step.call _ 0 _ rfl (.registerVirtualMachine true 2048 7)) <|
      .head (@Step.call _ 0 _ rfl (.retainForStart 2048 true)) <|
      .head (@Step.call _ 0 _ rfl (.unregisterOwnedVm 2048)) <|
      .head (@Step.drop _ [] [] 0 7 _ rfl rfl) .refl, rfl, rfl, rfl⟩
  obtain ⟨w, reach, first, second, dropped⟩ := run
  exact ⟨w, reach, first, second, dropped, (ownership_kept w reach).2.2.1 0⟩

end Bscp.Virtmgr.HostService
