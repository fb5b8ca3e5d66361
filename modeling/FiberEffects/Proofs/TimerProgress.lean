import FiberEffects.Effect.Coroutine
import FiberEffects.Host.Run
import FiberEffects.Proofs.CmdContract
import FiberEffects.Proofs.TimerQueueRefinement
import FiberEffects.Protocol.Timers

namespace FiberEffects

namespace Time

theorem le_later_left (a b : Time) : a ≤ a.later b := by
  unfold later
  split
  · next h => exact h
  · exact Nat.le_refl _

theorem le_later_right (a b : Time) : b ≤ a.later b := by
  unfold later
  split
  · exact Nat.le_refl _
  · next h => exact Nat.le_of_lt (Nat.lt_of_not_le h)

end Time

namespace TimerQueue

variable {α : Type} {q : TimerQueue α}

theorem nextDeadline_eq_none : q.nextDeadline = none ↔ q.entries = [] := by
  unfold nextDeadline
  cases q.entries <;> simp

/-- Once the time has reached the earliest deadline, that registration is due. -/
theorem dueEntries_length_pos {d now : Time} (hd : q.nextDeadline = some d) (hle : d ≤ now) :
    0 < (q.dueEntries now).length := by
  unfold nextDeadline at hd
  unfold dueEntries
  cases hq : q.entries with
  | nil => simp [hq] at hd
  | cons e rest =>
    rw [hq] at hd
    have hed : e.1.deadline = d := by simpa using hd
    rw [List.takeWhile_cons_of_pos (by simpa [hed] using hle)]
    exact Nat.succ_pos _

end TimerQueue

theorem exists_of_bind_eq_ok {ε α β : Type} {x : Except ε α} {f : α → Except ε β} {b : β}
    (h : (x >>= f) = .ok b) : ∃ a, x = .ok a ∧ f a = .ok b := by
  cases x with
  | error e => cases h
  | ok a => exact ⟨a, rfl, h⟩

namespace Protocol.DriverRun

/-- A registration touches only the queue and the handles. -/
theorem register_frame {r r' : DriverRun} {j : Json} {d : Time} (hr : r.register j = .ok (d, r')) :
    r'.now = r.now ∧ r'.fired = r.fired ∧ (r.queue.Wf → r'.queue.Wf) := by
  unfold register at hr
  -- a registration is decoded from three fields before it is made
  cases h₁ : reqStr j "label" <;> cases h₂ : reqNat j "register" <;>
    cases h₃ : optNat j "cancel" <;> simp [h₁, h₂, h₃, bind, Except.bind, pure, Except.pure] at hr
  obtain ⟨-, rfl⟩ := hr
  exact ⟨rfl, rfl, fun hq => hq.register _ _⟩

theorem fire_of_registered {r₀ r' : DriverRun} {j : Json} {ts : List ChainedTimer}
    (hr : ((fun x => x.2) <$> r₀.register j >>= fun r => r.fire ts) = .ok r')
    (hq : r₀.queue.Wf) :
    ∃ r₁ : DriverRun, r₁.fire ts = .ok r' ∧ r₁.now = r₀.now ∧ r₁.fired = r₀.fired ∧
      r₁.queue.Wf := by
  obtain ⟨r₁, hreg, hr₁⟩ := exists_of_bind_eq_ok hr
  obtain ⟨⟨d, r₂⟩, hreg', hok⟩ := exists_of_bind_eq_ok hreg
  cases hok
  obtain ⟨hnow, hfired, hwf⟩ := register_frame hreg'
  exact ⟨r₂, hr₁, hnow, hfired, hwf hq⟩

theorem fire_frame :
    ∀ (ts : List ChainedTimer) {r r' : DriverRun}, r.queue.Wf → r.fire ts = .ok r' →
      r'.now = r.now ∧ r'.fired = r.fired ++ ts.map (·.label) ∧ r'.queue.Wf
  | [], r, r', hq, hr => by
    cases hr
    exact ⟨rfl, (List.append_nil _).symm, hq⟩
  | t :: ts, r, r', hq, hr => by
    unfold fire at hr
    dsimp only at hr
    -- the callback may cancel and register; neither touches the time or the labels fired
    have hstep : ∃ r₁ : DriverRun,
        r₁.fire ts = .ok r' ∧ r₁.now = r.now ∧ r₁.fired = r.fired ++ [t.label] ∧ r₁.queue.Wf := by
      split at hr <;> split at hr
      · exact fire_of_registered hr (hq.cancel _)
      · exact fire_of_registered hr hq
      · rw [pure_bind] at hr
        exact ⟨_, hr, rfl, rfl, hq.cancel _⟩
      · rw [pure_bind] at hr
        exact ⟨_, hr, rfl, rfl, hq⟩
    obtain ⟨r₁, hr₁, hnow, hfired, hq₁⟩ := hstep
    obtain ⟨hnow', hfired', hq'⟩ := fire_frame ts hq₁ hr₁
    refine ⟨hnow'.trans hnow, ?_, hq'⟩
    rw [hfired', hfired, List.map_cons, List.append_assoc, List.singleton_append]

theorem process_fires {r r' : DriverRun} {n : Nat} (hr : r.process = .ok (n, r'))
    (hq : r.queue.Wf) :
    n = (r.queue.dueEntries r.now).length ∧ r'.now = r.now ∧
      r'.fired = r.fired ++ (r.queue.dueEntries r.now).map (·.2.label) ∧ r'.queue.Wf := by
  unfold process at hr
  have htake : r.queue.takeDue r.now =
      ((r.queue.dueEntries r.now).map (·.2), (r.queue.takeDue r.now).2) := rfl
  rw [htake] at hr
  obtain ⟨r₁, hf, hpure⟩ := exists_of_bind_eq_ok hr
  cases hpure
  obtain ⟨hnow, hfired, hq'⟩ := fire_frame _ (hq.takeDue r.now) hf
  refine ⟨List.length_map _, hnow, ?_, hq'⟩
  rw [hfired, List.map_map]
  rfl

theorem park_progress {r r' : DriverRun} {res : Option Nat} (hr : r.park = .ok (res, r'))
    (hq : r.queue.Wf) :
    (res = none ↔ r.queue.entries = []) ∧ r'.queue.Wf ∧
      ∀ n, res = some n → 0 < n ∧ r.now ≤ r'.now ∧ r'.fired.length = r.fired.length + n := by
  unfold park at hr
  rcases hnd : r.queue.nextDeadline with _ | d
  · rw [hnd] at hr
    cases hr
    exact ⟨iff_of_true rfl (TimerQueue.nextDeadline_eq_none.1 hnd), hq, fun n hn => by cases hn⟩
  · rw [hnd] at hr
    obtain ⟨⟨n, r₁⟩, hp, hpure⟩ := exists_of_bind_eq_ok hr
    cases hpure
    obtain ⟨hn, hnow, hfired, hq'⟩ := process_fires hp hq
    -- the earliest registration is due once the time has moved to its deadline
    have hpos : 0 < n := hn ▸ TimerQueue.dueEntries_length_pos hnd (Time.le_later_right _ _)
    refine ⟨iff_of_false (fun h => by cases h) fun he => ?_, hq', fun m hm => ?_⟩
    · rw [TimerQueue.nextDeadline_eq_none.2 he] at hnd
      cases hnd
    · cases hm
      refine ⟨hpos, hnow ▸ Time.le_later_left _ _, ?_⟩
      rw [hfired, List.length_append, List.length_map, ← hn]

theorem cancel_wf {r r' : DriverRun} {i : Nat} {was : Bool} (hr : r.cancel i = .ok (was, r'))
    (hq : r.queue.Wf) : r'.queue.Wf := by
  unfold cancel at hr
  split at hr
  · cases hr
    exact hq.cancel _
  · cases hr

/-- Every operation of a driver keeps its queue well formed. -/
theorem step_wf {r r' : DriverRun} {j out : Json} (hr : r.step j = .ok (out, r'))
    (hq : r.queue.Wf) : r'.queue.Wf := by
  unfold step at hr
  split at hr
  · obtain ⟨⟨d, r₁⟩, hreg, hpure⟩ := exists_of_bind_eq_ok hr
    cases hpure
    exact (register_frame hreg).2.2 hq
  split at hr
  · obtain ⟨i, -, hr⟩ := exists_of_bind_eq_ok hr
    obtain ⟨⟨was, r₁⟩, hc, hpure⟩ := exists_of_bind_eq_ok hr
    cases hpure
    exact cancel_wf hc hq
  split at hr
  · obtain ⟨⟨n, r₁⟩, hp, hpure⟩ := exists_of_bind_eq_ok hr
    cases hpure
    exact (process_fires hp hq).2.2.2
  split at hr
  · obtain ⟨⟨n, r₁⟩, hp, hpure⟩ := exists_of_bind_eq_ok hr
    cases hpure
    exact (park_progress hp hq).2.1
  -- the remaining operations move the time only
  split at hr
  · obtain ⟨k, -, hpure⟩ := exists_of_bind_eq_ok hr
    cases hpure
    exact hq
  split at hr
  · obtain ⟨k, -, hpure⟩ := exists_of_bind_eq_ok hr
    cases hpure
    exact hq
  split at hr
  · obtain ⟨k, -, hpure⟩ := exists_of_bind_eq_ok hr
    cases hpure
    exact hq
  · cases hr

end Protocol.DriverRun

namespace Machine

theorem length_ofVal_toVal {α : Type} [Answer α] (xs : List α) :
    (Answer.ofVal (Answer.toVal xs) : List α).length = xs.length := by
  show ((Val.list (xs.map Answer.toVal)).toList.map Answer.ofVal).length = xs.length
  rw [Val.toList, List.length_map, List.length_map]

/-- A program that ends by returning a value returns that value whenever its run returns. -/
theorem exec_runCmd_bind_pure {α β : Type} (b : β) :
    ∀ (n : Nat) (p : Cmd α) (h : Heap) (r : β),
      (exec (runCmd n (p >>= fun _ => pure b)) h).1 = .ok r → r = b
  | 0, _, _, _, hr => by
    rw [runCmd] at hr
    cases hr
  | n + 1, .done a, h, r, hr => by
    change (exec (runCmd (n + 1) (Prog.done b)) h).1 = .ok r at hr
    rw [runCmd] at hr
    cases hr
    rfl
  | n + 1, .panic m, h, r, hr => by
    change (exec (runCmd (n + 1) (Prog.panic m)) h).1 = .ok r at hr
    rw [runCmd] at hr
    cases hr
  | n + 1, Prog.call req k, h, r, hr => by
    change (exec (runCmd (n + 1) (Prog.call req fun v => k v >>= fun _ => pure b)) h).1 = .ok r
      at hr
    rw [runCmd, exec_bind] at hr
    split at hr
    · exact exec_runCmd_bind_pure b n _ _ r hr
    · cases hr

/-- Processing the host timers counts the registrations due at its start, whatever their callbacks do. -/
theorem processTimers_count (n : Nat) (h : Heap) (k : Nat)
    (hk : (exec (runCmd n Cmd.processTimers) h).1 = .ok k) :
    k = (h.data.timers.dueEntries h.data.now).length := by
  unfold Cmd.processTimers at hk
  rw [modify_bind] at hk
  rcases n with _ | _ | m
  · rw [runCmd] at hk
    cases hk
  · rw [runCmd, exec_bind, perform] at hk
    cases hk
  · rw [exec_runCmd_data] at hk
    rw [exec_runCmd_bind_pure _ _ _ _ _ hk, length_ofVal_toVal]
    exact List.length_map _

theorem drive_at_deadline {h h' : Heap} {d : Time} {k : Nat} (hd : exec Host.drive h = (.ok k, h'))
    (hnd : h.data.timers.nextDeadline = some d) (hle : d ≤ h.data.now) : 0 < k := by
  rw [processTimers_count _ _ _ (congrArg Prod.fst hd)]
  exact TimerQueue.dueEntries_length_pos hnd hle

theorem advance_result {h h' : Heap} {res : Option Nat}
    (hr : exec Host.advance h = (.ok res, h')) :
    (res = none ∧ h'.data.timers.entries = []) ∨ ∃ k, res = some k ∧ 0 < k := by
  unfold Host.advance at hr
  rw [exec_bind] at hr
  rcases hd : exec Host.drive h with ⟨_ | fired, h₁⟩
  · rw [hd] at hr
    cases hr
  rw [hd] at hr
  dsimp only at hr
  by_cases hpos : fired > 0
  · -- what was due fired at once
    rw [if_pos hpos] at hr
    cases hr
    exact .inr ⟨fired, rfl, hpos⟩
  · rw [if_neg hpos, exec_bind, exec_data] at hr
    dsimp only at hr
    rcases hnd : h₁.data.timers.nextDeadline with _ | d
    · rw [hnd] at hr
      cases hr
      exact .inl ⟨rfl, TimerQueue.nextDeadline_eq_none.1 hnd⟩
    · -- the source moves to the earliest deadline, where that registration is due
      rw [hnd] at hr
      dsimp only at hr
      rw [exec_bind, exec_modifyData] at hr
      dsimp only at hr
      rw [exec_map] at hr
      rcases hd₂ : exec Host.drive _ with ⟨_ | k, h₂⟩
      · rw [hd₂] at hr
        cases hr
      rw [hd₂] at hr
      cases hr
      exact .inr ⟨k, rfl, drive_at_deadline hd₂ hnd (Time.le_later_right _ _)⟩

/-- Waiting for a fiber stalls only when no timer is pending, and says so. -/
theorem await_stall (f : Nat) : ∀ (n : Nat) (h : Heap) (err : HostError),
    (exec (Host.await f n) h).1 = .ok (.error err) →
      ∃ id, err = Host.noTimersStall id ∧ (exec (Host.await f n) h).2.data.timers.entries = []
  | 0, h, err, hr => by
    rw [Host.await] at hr
    cases hr
  | n + 1, h, err, hr => by
    rw [Host.await] at hr ⊢
    rw [exec_bind, exec_book] at hr ⊢
    dsimp only at hr ⊢
    rcases hx : (h.book f).exit with _ | exit
    · rw [hx] at hr
      dsimp only at hr ⊢
      rw [exec_bind, exec_data] at hr ⊢
      dsimp only at hr ⊢
      rw [exec_bind] at hr ⊢
      rcases ha : exec Host.advance h with ⟨_ | res, h₁⟩
      · rw [ha] at hr
        cases hr
      rw [ha] at hr
      dsimp only at hr ⊢
      rcases advance_result ha with ⟨rfl, hempty⟩ | ⟨k, rfl, hk⟩
      · -- no timer is pending: the stall says so
        cases hr
        exact ⟨_, rfl, hempty⟩
      · -- a timer fired, so the wait goes on
        have hk' : (k == 0) = false := by simp [Nat.pos_iff_ne_zero.1 hk]
        rw [exec_bind, exec_data, hk'] at hr ⊢
        simp only [Bool.false_and, Bool.false_eq_true, ↓reduceIte] at hr ⊢
        exact await_stall f n h₁ err hr
    · rw [hx] at hr
      cases hr

/-- Running an effect to its exit stalls only when no timer is pending, and says so. -/
theorem blockOn_stall (rt : Runtime) (e : Effect) (h : Heap) (err : HostError)
    (hr : (exec (Host.blockOn rt e) h).1 = .ok (.error err)) :
    ∃ id, err = Host.noTimersStall id ∧
      (exec (Host.blockOn rt e) h).2.data.timers.entries = [] := by
  unfold Host.blockOn at hr ⊢
  rw [exec_bind] at hr ⊢
  rcases hs : exec (Host.run (rt.runWith e {} none)) h with ⟨_ | f, h₁⟩
  · rw [hs] at hr
    cases hr
  rw [hs] at hr
  exact await_stall f Host.fuel h₁ err hr

end Machine

/-- Timers fire as an ordered queue of registrations, and parking on virtual time makes progress. -/
theorem timers_fire_in_order_and_time_advances {α : Type} :
    (∀ calls : List (TimerCall α),
      TimerQueue.Agrees (({} : TimerQueue α).run calls) (({} : Registrations α).run calls) ∧
        ((({} : TimerQueue α).run calls).1.flatMap TimerReply.firedHandles).Nodup) ∧
    (∀ (pre post : List (TimerCall α)) (th : TimerHandle),
      ((({} : TimerQueue α).run pre).2.cancel th).1 = true →
        th ∉ (((({} : TimerQueue α).run pre).2.cancel th).2.run post).1.flatMap
          TimerReply.firedHandles) ∧
    (∀ (r r' : Protocol.DriverRun) (n : Nat), r.queue.Wf → r.process = .ok (n, r') →
      n = (r.queue.entries.filter (·.1.deadline ≤ r.now)).length ∧
        r'.fired = r.fired ++ (r.queue.entries.filter (·.1.deadline ≤ r.now)).map (·.2.label) ∧
        (r.queue.entries.filter (·.1.deadline ≤ r.now)).Pairwise (fun e f => e.1.Before f.1) ∧
        r'.now = r.now) ∧
    (∀ (r r' : Protocol.DriverRun) (j out : Json), r.queue.Wf → r.step j = .ok (out, r') →
      r'.queue.Wf) ∧
    (∀ (r r' : Protocol.DriverRun) (res : Option Nat), r.queue.Wf → r.park = .ok (res, r') →
      (res = none ↔ r.queue.entries = []) ∧
        ∀ n, res = some n → 0 < n ∧ r.now ≤ r'.now ∧ r'.fired.length = r.fired.length + n) ∧
    (∀ (h h' : Heap) (res : Option Nat), Machine.exec Host.advance h = (.ok res, h') →
      (res = none ∧ h'.data.timers.entries = []) ∨ ∃ k, res = some k ∧ 0 < k) ∧
    (∀ (rt : Runtime) (e : Effect) (h : Heap) (err : HostError),
      (Machine.exec (Host.blockOn rt e) h).1 = .ok (.error err) →
        ∃ id, err = Host.noTimersStall id ∧
          (Machine.exec (Host.blockOn rt e) h).2.data.timers.entries = []) := by
  refine ⟨fun calls => ⟨TimerQueue.run_refines_registrations calls, TimerQueue.run_fires_once calls⟩,
    TimerQueue.cancelled_never_fires, fun r r' n hq hr => ?_,
    fun r r' j out hq hr => Protocol.DriverRun.step_wf hr hq, fun r r' res hq hr => ?_,
    fun h h' res hr => Machine.advance_result hr, Machine.blockOn_stall⟩
  · -- the prefix a well formed queue detaches is what is pending and due, in firing order
    obtain ⟨hn, hnow, hfired, -⟩ := Protocol.DriverRun.process_fires hr hq
    rw [hq.dueEntries_eq] at hn hfired
    exact ⟨hn, hfired, hq.sorted.filter _, hnow⟩
  · obtain ⟨hnone, -, hsome⟩ := Protocol.DriverRun.park_progress hr hq
    exact ⟨hnone, hsome⟩

theorem timers_fire_cancel_park_and_stall :
    let q : TimerQueue Protocol.ChainedTimer := (TimerQueue.register {} (Time.ofNat 3) ⟨"a", none, none⟩).2
    let r : Protocol.DriverRun := { now := Time.ofNat 5, queue := q }
    let r' : Protocol.DriverRun := { r with queue := ⟨[], 1⟩, fired := ["a"] }
    let pre := [TimerCall.register (Time.ofNat 3) ()]
    let th : TimerHandle := ⟨Time.ofNat 3, 0⟩
    let due := r.queue.entries.filter (·.1.deadline ≤ r.now)
    ((((({} : TimerQueue Unit).run pre).2.cancel th).1 = true ∧
      th ∉ (((({} : TimerQueue Unit).run pre).2.cancel th).2.run [.process (Time.ofNat 5)]).1.flatMap
        TimerReply.firedHandles) ∧
    (r.queue.Wf ∧ r.process = .ok (1, r') ∧ 1 = due.length ∧ r'.fired = r.fired ++ due.map (·.2.label) ∧
      due.Pairwise (fun e f => e.1.Before f.1) ∧ r'.now = r.now) ∧
    (∃ out r₁, r.step (.obj [("label", .str "b"), ("register", .int 3)]) = .ok (out, r₁) ∧
      r₁.queue.Wf) ∧
    (r.park = .ok (some 1, r') ∧ (((some 1 : Option Nat) = none) ↔ r.queue.entries = []) ∧
      ∀ n, some 1 = some n → 0 < n ∧ r.now ≤ r'.now ∧ r'.fired.length = r.fired.length + n) ∧
    (∃ h', Machine.exec Host.advance default = (.ok none, h') ∧
      (((none : Option Nat) = none ∧ h'.data.timers.entries = []) ∨ ∃ k, (none : Option Nat) = some k ∧ 0 < k)) ∧
    ∃ err, (Machine.exec (Host.blockOn (Runtime.assemble default false default).1 (Effect.await 0))
        { data := (Runtime.assemble default false default).2 }).1 = .ok (.error err) ∧
      ∃ id, err = Host.noTimersStall id ∧
        (Machine.exec (Host.blockOn (Runtime.assemble default false default).1 (Effect.await 0))
          { data := (Runtime.assemble default false default).2 }).2.data.timers.entries = []) := by
  intro q r r' pre th due
  have T := @timers_fire_in_order_and_time_advances Unit
  have hwf : r.queue.Wf := TimerQueue.wf_empty.register _ _
  have hproc : r.process = .ok (1, r') := rfl
  have hpark : r.park = .ok (some 1, r') := rfl
  have hcancel : ((({} : TimerQueue Unit).run pre).2.cancel th).1 = true := by decide
  -- the two host runs are evaluated by the kernel, through decidable projections of their results
  have hadv : Machine.exec Host.advance default = (.ok none, (Machine.exec Host.advance default).2) := by
    have hb : (Machine.exec Host.advance (default : Heap)).1.toOption = some none := by decide +kernel
    refine Prod.ext ?_ rfl
    revert hb
    cases (Machine.exec Host.advance (default : Heap)).1 <;> simp [Except.toOption]
  obtain ⟨err, herr⟩ : ∃ err, (Machine.exec (Host.blockOn (Runtime.assemble default false default).1
      (Effect.await 0)) { data := (Runtime.assemble default false default).2 }).1 = .ok (.error err) := by
    have hb : ((Machine.exec (Host.blockOn (Runtime.assemble default false default).1 (Effect.await 0))
        { data := (Runtime.assemble default false default).2 }).1.toOption.map Except.toBool) =
        some false := by decide +kernel
    revert hb
    rcases (Machine.exec (Host.blockOn (Runtime.assemble default false default).1 (Effect.await 0))
        { data := (Runtime.assemble default false default).2 }).1 with _ | e | x
    · simp [Except.toOption]
    · exact fun _ => ⟨e, rfl⟩
    · simp [Except.toOption, Except.toBool]
  obtain ⟨out, r₁, hstep⟩ : ∃ out r₁,
      r.step (.obj [("label", .str "b"), ("register", .int 3)]) = .ok (out, r₁) := ⟨_, _, rfl⟩
  exact ⟨⟨hcancel, T.2.1 pre _ th hcancel⟩, ⟨hwf, hproc, T.2.2.1 r r' 1 hwf hproc⟩,
    ⟨out, r₁, hstep, T.2.2.2.1 r r₁ _ out hwf hstep⟩, ⟨hpark, T.2.2.2.2.1 r r' _ hwf hpark⟩,
    ⟨_, hadv, T.2.2.2.2.2.1 _ _ _ hadv⟩, ⟨err, herr, T.2.2.2.2.2.2 _ _ _ err herr⟩⟩

end FiberEffects
