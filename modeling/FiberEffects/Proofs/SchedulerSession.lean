import FiberEffects.Proofs.SchedulerTimer

namespace FiberEffects

/-- An operation of a session on a scheduler. -/
inductive SchedulerOp where
  | add (arrival : Time) (task : Nat)
  | cancel (i : Nat)
  | dispose
  | fire

namespace Cmd

/-- Runs a session's operations on scheduler core `c`, keeping the handles additions return. -/
def runSession (c : Nat) : List SchedulerOp → List Nat → Cmd (List Nat)
  | [], hs => pure hs
  | .add arrival task :: ops, hs => do
    let r ← addTask c arrival task
    runSession c ops (hs ++ r.toList)
  | .cancel i :: ops, hs => do
    match hs[i]? with
    | some k => dispose k
    | none => pure ()
    runSession c ops hs
  | .dispose :: ops, hs => do
    disposeScheduler c
    runSession c ops hs
  | .fire :: ops, hs => do
    runReadyTasks c
    runSession c ops hs

end Cmd

namespace Heap

/-- What a session keeps of scheduler core `c` among `N` cores, with tasks from `T` and handles
`hs`: the core tracks its timeline, at exactly its nearest arrival when `exact` holds, every
handle removes a task of the core or has released, and every waiting task is one of `T`, whose
callbacks return at once. -/
structure SessionOk (h : Heap) (c N : Nat) (T : List Nat) (exact : Bool) (hs : List Nat) : Prop where
  tracks : h.data.CoreTracks c
  size : h.data.cores.size = N
  nearest : exact = true → (h.data.core c).ArmedAtNearest
  handles : ∀ k ∈ hs, h.data.RemovesTask c k
  waiting : ∀ t ∈ (h.data.core c).timeline.entries.map (·.2), t ∈ T
  inert : ∀ t ∈ T, h.Inert t

def SessionFrame (h : Heap) (c : Nat) (T hs : List Nat) : Prop :=
  (∀ k ∈ hs, h.data.RemovesTask c k) ∧ ∀ t ∈ T, h.Inert t

theorem SessionFrame.follows {h h' : Heap} {c : Nat} {T hs : List Nat} (hF : h.SessionFrame c T hs)
    (hf : h.Follows h') : h'.SessionFrame c T hs :=
  ⟨fun k hk => hf.removesTask (hF.1 k hk), fun t ht => hf.inert (hF.2 t ht)⟩

end Heap

namespace Cmd

variable {c N : Nat} {T : List Nat} {exact : Bool} {hs : List Nat}

theorem contract_of_core {α : Type} {p : Cmd α} {post : α → Heap → Prop}
    (hp : ∀ X : CoreCell, X.Tracks → (exact = true → X.ArmedAtNearest) →
      (∀ t ∈ X.timeline.entries.map (·.2), t ∈ T) →
      Contract p (fun h => h.SessionOk c N T exact hs ∧ h.data.core c = X) post) :
    Contract p (fun h => h.SessionOk c N T exact hs) post := by
  refine Contract.ghost (fun h => h.data.core c) fun X => ?_
  refine Contract.assume (X.Tracks ∧ (exact = true → X.ArmedAtNearest) ∧
    ∀ t ∈ X.timeline.entries.map (·.2), t ∈ T) (fun h hh => ?_) fun hX => hp X hX.1 hX.2.1 hX.2.2
  rw [← hh.2]
  exact ⟨hh.1.tracks.core, hh.1.nearest, hh.1.waiting⟩

theorem Contract.sessionFrame {α : Type} {p : Cmd α} {pre : Heap → Prop} {post : α → Heap → Prop}
    (hp : Contract p pre post) :
    Contract p (fun h => pre h ∧ h.SessionFrame c T hs) fun v h => post v h ∧ h.SessionFrame c T hs :=
  hp.frame _ fun _ _ hF hf => hF.follows hf

variable (hc : c < N)
include hc

/-- An addition of a task from `T` keeps a session's invariant, with the handle it returns. -/
theorem contract_add_step {arrival : Time} {task : Nat} (ht : task ∈ T) :
    Contract (addTask c arrival task) (fun h => h.SessionOk c N T exact hs)
      fun r h => h.SessionOk c N T exact (hs ++ r.toList) := by
  refine contract_of_core fun X hXt hXn hXw => ?_
  refine (contract_addTask X N hc hXt arrival task).sessionFrame.mono
    (fun h hh => ⟨⟨⟨hh.2, hh.1.size⟩, hh.1.tracks.handle⟩, hh.1.handles, hh.1.inert⟩) fun r h hh => ?_
  obtain ⟨⟨⟨hN, hok⟩, hdisp, hadd⟩, hhandles, hinert⟩ := hh
  rcases Bool.eq_false_or_eq_true X.disposed with hd | hd
  · -- a disposed scheduler takes no task
    obtain ⟨rfl, hcore⟩ := hdisp hd
    rw [Option.toList_none, List.append_nil]
    exact ⟨⟨hcore ▸ hXt, hok⟩, hN, fun he => hcore ▸ hXn he, hhandles, hcore ▸ hXw, hinert⟩
  · obtain ⟨⟨k, rfl, hk⟩, harm⟩ := hadd hd
    set X' : CoreCell := { X with timeline := (X.timeline.add arrival task).2 } with hX'
    have hready : X'.Ready := ⟨hXt.sorted.add arrival task, fun hd' => absurd (hd.symm.trans hd') (by decide)⟩
    refine ⟨⟨hready.tracks_of_rearmAt harm, hok⟩, hN, fun he => ?_, fun k' hk' => ?_, fun t ht' => ?_, hinert⟩
    · -- the new task becomes the nearest or leaves the nearest arrival as it was
      exact harm.armedAtNearest ((hXn he).rearmAt_add arrival task)
    · rcases List.mem_append.1 hk' with hk' | hk'
      · exact hhandles k' hk'
      · rw [Option.toList_some, List.mem_singleton] at hk'
        exact .inr ⟨_, hk' ▸ hk⟩
    · -- a waiting task is the new one or one that waited before
      rw [harm.timeline] at ht'
      obtain ⟨e, he, rfl⟩ := List.mem_map.1 ht'
      rw [Timeline.entries_add] at he
      rcases Timeline.mem_insertEntry he with rfl | he
      · exact ht
      · exact hXw _ (List.mem_map_of_mem he)

theorem contract_cancel_step (hexact : exact = false) (k : Nat) (hk : k ∈ hs) :
    Contract (dispose k) (fun h => h.SessionOk c N T exact hs) fun _ h => h.SessionOk c N T exact hs := by
  refine contract_of_core fun X hXt _ hXw => ?_
  refine (contract_cancel X N hc hXt k).sessionFrame.mono
    (fun h hh => ⟨⟨⟨hh.2, hh.1.size⟩, hh.1.tracks.handle, hh.1.handles k hk⟩, hh.1.handles, hh.1.inert⟩)
    fun _ h hh => ?_
  obtain ⟨hcancel, hhandles, hinert⟩ := hh
  refine ⟨hcancel.tracks, hcancel.size, fun he => absurd (hexact.symm.trans he) (by decide), hhandles,
    fun t ht => ?_, hinert⟩
  obtain ⟨e, he, rfl⟩ := List.mem_map.1 ht
  exact hXw _ (List.mem_map_of_mem (hcancel.sublist.subset he))

/-- Disposing the scheduler keeps a session's invariant: nothing waits and nothing is armed. -/
theorem contract_dispose_step :
    Contract (disposeScheduler c) (fun h => h.SessionOk c N T exact hs)
      fun _ h => h.SessionOk c N T exact hs := by
  refine Contract.ghost (fun h => h.data.core c) fun X => ?_
  refine (contract_disposeScheduler X N hc).sessionFrame.mono
    (fun h hh => ⟨⟨⟨hh.2, hh.1.size⟩, hh.1.tracks.handle⟩, hh.1.handles, hh.1.inert⟩) fun _ h hh => ?_
  obtain ⟨⟨⟨hN, hok⟩, hcore⟩, hhandles, hinert⟩ := hh
  refine ⟨⟨hcore ▸ CoreCell.tracks_of_empty rfl rfl, hok⟩, hN, fun _ => by rw [hcore]; rfl, hhandles,
    fun t ht => ?_, hinert⟩
  rw [hcore] at ht
  cases ht

theorem contract_fire_step :
    Contract (runReadyTasks c) (fun h => h.SessionOk c N T exact hs)
      fun _ h => h.SessionOk c N T exact hs := by
  refine contract_of_core fun X hXt _ hXw => ?_
  -- the tasks are callbacks that return at once, so they leave the core alone
  have htask : ∀ t ∈ X.timeline.entries.map (·.2), ∀ Y : CoreCell, Contract (discard (call t .unit))
      (fun h => (∀ t ∈ T, h.Inert t) ∧ h.data.core c = Y ∧ h.data.cores.size = N ∧ h.data.HandleOk c)
      fun _ h => (∀ t ∈ T, h.Inert t) ∧ h.data.core c = Y ∧ h.data.cores.size = N ∧ h.data.HandleOk c :=
    fun t ht _ => contract_call_inert t .unit fun h hh => hh.1 t (hXw t ht)
  refine (contract_runReadyTasks X N hc (fun h => ∀ t ∈ T, h.Inert t) (fun h d hF t ht => hF t ht)
    htask).sessionFrame.mono
    (fun h hh => ⟨⟨hh.1.inert, ⟨hh.2, hh.1.size⟩, hh.1.tracks.handle⟩, hh.1.handles, hh.1.inert⟩)
    fun _ h hh => ?_
  obtain ⟨⟨⟨hN, hok⟩, u, harm⟩, hhandles, hinert⟩ := hh
  -- what remains after the firing drains the arrived tasks is a ready core
  set Y : CoreCell := { X with timeline := (X.timeline.takeReady u).2, armed := none } with hY
  have hready : Y.Ready := ⟨hXt.sorted.takeReady u, fun hd => by
    show (X.timeline.takeReady u).2.entries = []
    rw [Timeline.entries_takeReady, hXt.disposed hd]
    rfl⟩
  have hrearm : Y.rearmAt = (X.timeline.takeReady u).2.nextArrival := CoreCell.rearmAt_of_unarmed rfl
  refine ⟨⟨hready.tracks_of_rearmAt (hrearm ▸ harm), hok⟩, hN, fun _ => harm.armedAtNearest rfl, hhandles,
    fun t ht => ?_, hinert⟩
  rw [harm.timeline] at ht
  obtain ⟨e, he, rfl⟩ := List.mem_map.1 ht
  rw [Timeline.entries_takeReady] at he
  exact hXw _ (List.mem_map_of_mem (List.mem_of_mem_filter he))

theorem contract_runSession : ∀ (ops : List SchedulerOp) (hs : List Nat),
    (∀ a t, SchedulerOp.add a t ∈ ops → t ∈ T) → (exact = true → ∀ i, SchedulerOp.cancel i ∉ ops) →
    Contract (runSession c ops hs) (fun h => h.SessionOk c N T exact hs)
      fun hs' h => h.SessionOk c N T exact hs'
  | [], hs, _, _ => by
    rw [runSession]
    exact contract_pure hs fun _ hh => hh
  | op :: ops, hs, hT, hE => by
    have hT' : ∀ a t, SchedulerOp.add a t ∈ ops → t ∈ T := fun a t h => hT a t (List.mem_cons_of_mem _ h)
    have hE' : exact = true → ∀ i, SchedulerOp.cancel i ∉ ops := fun he i h =>
      hE he i (List.mem_cons_of_mem _ h)
    cases op with
    | add arrival task =>
      rw [runSession]
      exact (contract_add_step hc (hT arrival task List.mem_cons_self)).bind fun r =>
        contract_runSession ops (hs ++ r.toList) hT' hE'
    | cancel i =>
      -- a session that cancels is not one that keeps the timer at the nearest arrival
      have hexact : exact = false := by
        cases exact with
        | false => rfl
        | true => exact absurd List.mem_cons_self (hE rfl i)
      rw [runSession]
      cases hk : hs[i]? with
      | none => exact contract_runSession ops hs hT' hE'
      | some k =>
        exact (contract_cancel_step hc hexact k (List.mem_of_getElem? hk)).bind fun _ =>
          contract_runSession ops hs hT' hE'
    | dispose =>
      rw [runSession]
      exact (contract_dispose_step hc).bind fun _ => contract_runSession ops hs hT' hE'
    | fire =>
      rw [runSession]
      exact (contract_fire_step hc).bind fun _ => contract_runSession ops hs hT' hE'

end Cmd

namespace Machine

theorem session_keeps_timer {h : Heap} {c : Nat} (hc : c < h.data.cores.size) {T : List Nat}
    {exact : Bool} (hstart : h.SessionOk c h.data.cores.size T exact []) (ops : List SchedulerOp)
    (hT : ∀ a t, SchedulerOp.add a t ∈ ops → t ∈ T) (hE : exact = true → ∀ i, SchedulerOp.cancel i ∉ ops)
    {n : Nat} (hfuel : (exec (runCmd n (Cmd.runSession c ops [])) h).1 ≠ .error .outOfFuel) :
    ∃ hs, (exec (runCmd n (Cmd.runSession c ops [])) h).1 = .ok hs ∧
      (exec (runCmd n (Cmd.runSession c ops [])) h).2.data.CoreTracks c ∧
      (exact = true → ((exec (runCmd n (Cmd.runSession c ops [])) h).2.data.core c).ArmedAtNearest) := by
  obtain ⟨hs, hok, hend⟩ := (Cmd.contract_runSession hc ops [] hT hE).exec hstart hfuel
  exact ⟨hs, hok, hend.tracks, hend.nearest⟩

end Machine

end FiberEffects
