import FiberEffects.Proofs.FrameMachine
import FiberEffects.Proofs.LoopSteps

namespace FiberEffects

namespace FiberBook

variable (b : FiberBook)

def scopes : Scopes := ⟨b.context, b.stores, b.flags⟩

def setScopes (S : Scopes) : FiberBook :=
  { b with context := S.context, stores := S.stores, flags := S.flags }

@[simp] theorem scopes_setScopes (S : Scopes) : (b.setScopes S).scopes = S := rfl

theorem scopes_popScope (q : Restore) : (b.popScope q).scopes = b.scopes.pop q := by
  cases q <;> rfl

theorem popScope_eq (q : Restore) : b.popScope q = b.setScopes (b.scopes.pop q) := by
  cases q <;> rfl

/-- Nothing is pending for a fiber beside its code and its scoped stacks: no interruption is
requested or unwound, no teardown, no exit and no observer. -/
structure Quiet : Prop where
  cause : b.interruptCause = .empty
  interrupting : b.interrupting = false
  finalizing : b.finalizing = false
  pendingExit : b.pendingExit = none
  exit : b.exit = none
  observers : b.observers = []

theorem Quiet.setScopes {b : FiberBook} (hb : b.Quiet) (S : Scopes) : (b.setScopes S).Quiet :=
  ⟨hb.cause, hb.interrupting, hb.finalizing, hb.pendingExit, hb.exit, hb.observers⟩

theorem Quiet.interruptsNow {b : FiberBook} (hb : b.Quiet) : b.interruptsNow = false := by
  simp [FiberBook.interruptsNow, hb.interrupting, hb.finalizing, hb.cause, Cause.isEmpty]

theorem Quiet.recoverInterrupt {b : FiberBook} (hb : b.Quiet) : b.recoverInterrupt = b := by
  simp [FiberBook.recoverInterrupt, hb.interrupting]

end FiberBook

namespace Heap

/-- The heap agrees with the world: the clock, the kept effects and builders are the world's,
and each future that has resolved resolved with the world's effect. -/
structure Agrees (h : Heap) (W : World) : Prop where
  time : h.data.unixTimeIn = W.time
  effect : ∀ k, h.effects[k]? = W.effect k
  builder : ∀ k, h.builders[k]? = W.builder k
  future : ∀ k e, h.futures[k]? = some (some e) → W.future k = some e

/-- Fiber `f` runs alone in `h` under `W`, with the scoped stacks `S`: it has code and a book, it
is inside its loop with nothing pending, no other fiber is in its scope, and the heap agrees with
`W`. -/
structure Alone (W : World) (f : Nat) (h : Heap) (S : Scopes) : Prop where
  hasCode : f < h.code.size
  hasBook : f < h.data.fibers.size
  scopes : (h.book f).scopes = S
  quiet : (h.book f).Quiet
  running : (h.book f).running = true
  children : h.data.children (h.book f).scope = []
  agrees : h.Agrees W

theorem Alone.fiberUnixTime {W : World} {f : Nat} {h : Heap} {S : Scopes} (ha : h.Alone W f S) :
    h.data.fiberUnixTime f = W.stamp S.env := by
  simp only [Data.fiberUnixTime, World.stamp, ha.agrees.time, ← ha.scopes]
  rfl

end Heap

def Data.Idle (d : Data) (g : Nat) : Prop :=
  ∃ cell, d.groups[g]? = some cell ∧ cell.members = [] ∧ cell.disposed = false

/-- Fiber `f` of `h` is at a configuration of its loop: frames `K`, scoped stacks `S` and next
instruction `i`, waiting on nothing, with a group that holds nothing. -/
structure Ready (W : World) (f : Nat) (h : Heap) (S : Scopes) (K : List Frame) (i : Option Effect) :
    Prop where
  alone : h.Alone W f S
  code : h.codeOf f = ⟨i, K⟩
  suspension : (h.book f).suspension = none
  group : h.data.Idle (h.book f).group

def Waiting (W : World) (f : Nat) (h : Heap) (S : Scopes) (K : List Frame) (k : Nat) : Prop :=
  h.Alone W f S ∧ h.codeOf f = ⟨none, K⟩ ∧
    ∃ sub link w key nk, (h.book f).suspension = some ⟨sub, link⟩ ∧
      h.data.disposables[sub]? = some ⟨false, some (.unwatch w)⟩ ∧ h.data.watched.lookup w = some k ∧
      h.data.disposables[link]? = some ⟨false, some (.detach (h.book f).group key)⟩ ∧
      h.data.groups[(h.book f).group]? = some ⟨[(key, sub)], nk, false⟩

section Ready

variable {W : World} {f : Nat} {h : Heap} {S : Scopes} {K : List Frame} {i : Option Effect}

namespace Ready

theorem interruptsNow (hr : Ready W f h S K i) : (h.book f).interruptsNow = false :=
  hr.alone.quiet.interruptsNow

theorem setCode (hr : Ready W f h S K i) (i' : Option Effect) (K' : List Frame) :
    Ready W f (h.setCode f ⟨i', K'⟩) S K' i' := by
  obtain ⟨⟨hc, hb, hs, hq, hrun, hch, ⟨htime, heff, hbld, hfut⟩⟩, _, hsus, hidle⟩ := hr
  exact ⟨⟨by simpa using hc, hb, hs, hq, hrun, hch, ⟨htime, heff, hbld, hfut⟩⟩,
    Heap.codeOf_setCode _ hc, hsus, hidle⟩

theorem popped (hr : Ready W f h S K i) : Ready W f (h.popped f) S K.tail i := by
  have hp : h.popped f = h.setCode f ⟨i, K.tail⟩ :=
    Heap.updateCode_congr (by rw [hr.code])
  rw [hp]
  exact hr.setCode i K.tail

theorem pushed (hr : Ready W f h S K i) (fr : Frame) :
    Ready W f (h.updateCode f fun c => { c with frames := fr :: c.frames }) S (fr :: K) i := by
  have hp : (h.updateCode f fun c => { c with frames := fr :: c.frames }) = h.setCode f ⟨i, fr :: K⟩ :=
    Heap.updateCode_congr (by rw [hr.code])
  rw [hp]
  exact hr.setCode i (fr :: K)

/-- Changing the fiber's scoped stacks keeps everything else. -/
theorem updateBook (hr : Ready W f h S K i) (g : FiberBook → FiberBook) {S' : Scopes}
    (hg : g (h.book f) = (h.book f).setScopes S') : Ready W f (h.updateBook f g) S' K i := by
  obtain ⟨⟨hc, hb, hs, hq, hrun, hch, ⟨htime, heff, hbld, hfut⟩⟩, hcode, hsus, hidle⟩ := hr
  have hbook : (h.updateBook f g).book f = (h.book f).setScopes S' := by
    rw [Heap.book_updateBook_self _ hb, hg]
  refine ⟨⟨by simpa using hc, by simpa using hb, by rw [hbook]; rfl, by rw [hbook]; exact hq.setScopes S',
    by rw [hbook]; exact hrun, by rw [hbook]; exact hch, ⟨htime, heff, hbld, hfut⟩⟩,
    by simpa using hcode, by rw [hbook]; exact hsus, by rw [hbook]; exact hidle⟩

theorem popScope (hr : Ready W f h S K i) (q : Restore) :
    Ready W f (h.updateBook f (·.popScope q)) (S.pop q) K i :=
  hr.updateBook _ (by rw [FiberBook.popScope_eq, hr.alone.scopes])

end Ready

end Ready

def Frame.Passes : Frame → Exit → Prop
  | .mapCause _, .ok _ | .flatMapCause _, .ok _ | .map _, .error _ | .flatMap _, .error _ => True
  | _, _ => False

namespace Machine

def Needs {α : Type} (m : Nat → Machine α) (h : Heap) (c : Nat) (R : Except Fault α × Heap) : Prop :=
  ∀ n, (c ≤ n → exec (m n) h = R) ∧ (n < c → (exec (m n) h).1 = .error .outOfFuel)

namespace Needs

variable {α β : Type} {m : Nat → Machine α} {h : Heap} {c : Nat} {R : Except Fault α × Heap}

theorem run (hm : Needs m h c R) {n : Nat} (hn : c ≤ n) : exec (m n) h = R := (hm n).1 hn

theorem le_of_ne (hm : Needs m h c R) {n : Nat} (hne : (exec (m n) h).1 ≠ .error .outOfFuel) :
    c ≤ n := by
  by_contra hlt
  exact hne ((hm n).2 (by omega))

theorem pure (a : α) (h : Heap) : Needs (fun _ => (Pure.pure a : Machine α)) h 0 (.ok a, h) :=
  fun _ => ⟨fun _ => rfl, fun hn => absurd hn (Nat.not_lt_zero _)⟩

theorem congr {m' : Nat → Machine α} (heq : ∀ n, exec (m n) h = exec (m' n) h) (hm' : Needs m' h c R) :
    Needs m h c R :=
  fun n => by rw [heq]; exact hm' n

/-- One more unit of fuel: with none the run runs out, and with `n + 1` it goes on as `m' n`. -/
theorem succ {m' : Nat → Machine α} {h' : Heap} (h0 : (exec (m 0) h).1 = .error .outOfFuel)
    (hs : ∀ n, exec (m (n + 1)) h = exec (m' n) h') (hm' : Needs m' h' c R) : Needs m h (c + 1) R := by
  intro n
  cases n with
  | zero => exact ⟨fun hc => absurd hc (by omega), fun _ => h0⟩
  | succ n =>
    rw [hs]
    exact ⟨fun hc => hm'.run (by omega), fun hc => (hm' n).2 (by omega)⟩

/-- A sequence: the second part runs from where the first left off, with the same fuel. -/
theorem bind {k : Nat → α → Machine β} {a : α} {h' : Heap} {d : Nat} {R' : Except Fault β × Heap}
    (hm : Needs m h c (.ok a, h')) (hk : Needs (fun n => k n a) h' d R') :
    Needs (fun n => m n >>= k n) h (max c d) R' := by
  intro n
  constructor
  · intro hn
    rw [exec_bind, hm.run (by omega)]
    exact hk.run (by omega)
  · intro hn
    rw [exec_bind]
    rcases Nat.lt_or_ge n c with hc | hc
    · have hout := (hm n).2 hc
      rcases hx : exec (m n) h with ⟨_ | _, _⟩
      · rw [hx] at hout
        cases hout
        rfl
      · rw [hx] at hout
        cases hout
    · rw [hm.run hc]
      exact (hk n).2 (by omega)

/-- A sequence whose first part fails fails with it. -/
theorem bind_error {k : Nat → α → Machine β} {e : Fault} {h' : Heap} (hm : Needs m h c (.error e, h')) :
    Needs (fun n => m n >>= k n) h c (.error e, h') := by
  intro n
  constructor
  · intro hn
    rw [exec_bind, hm.run hn]
  · intro hn
    rw [exec_bind]
    have hout := (hm n).2 hn
    rcases hx : exec (m n) h with ⟨_ | _, _⟩
    · rw [hx] at hout
      cases hout
      rfl
    · rw [hx] at hout
      cases hout

theorem map {g : α → β} {a : α} {h' : Heap} (hm : Needs m h c (.ok a, h')) :
    Needs (fun n => g <$> m n) h c (.ok (g a), h') := by
  intro n
  constructor
  · intro hn
    rw [exec_map, hm.run hn]
  · intro hn
    rw [exec_map]
    have hout := (hm n).2 hn
    rcases hx : exec (m n) h with ⟨_ | _, _⟩
    · rw [hx] at hout
      cases hout
      rfl
    · rw [hx] at hout
      cases hout

theorem map_error {g : α → β} {e : Fault} {h' : Heap} (hm : Needs m h c (.error e, h')) :
    Needs (fun n => g <$> m n) h c (.error e, h') := by
  intro n
  constructor
  · intro hn
    rw [exec_map, hm.run hn]
  · intro hn
    rw [exec_map]
    have hout := (hm n).2 hn
    rcases hx : exec (m n) h with ⟨_ | _, _⟩
    · rw [hx] at hout
      cases hout
      rfl
    · rw [hx] at hout
      cases hout

end Needs

theorem needs_runCmd_done {α : Type} (a : α) (h : Heap) :
    Needs (fun n => runCmd n (Prog.done a : Cmd α)) h 1 (.ok a, h) := by
  intro n
  cases n with
  | zero => exact ⟨fun hc => absurd hc (by omega), fun _ => by simp only [runCmd]; rfl⟩
  | succ n => exact ⟨fun _ => by simp only [runCmd]; rfl, fun hc => absurd hc (by omega)⟩

theorem needs_runCmd_panic {α : Type} (msg : String) (h : Heap) :
    Needs (fun n => runCmd n (Prog.panic msg : Cmd α)) h 1 (.error (.panic msg), h) := by
  intro n
  cases n with
  | zero => exact ⟨fun hc => absurd hc (by omega), fun _ => by simp only [runCmd]; rfl⟩
  | succ n => exact ⟨fun _ => by simp only [runCmd]; rfl, fun hc => absurd hc (by omega)⟩

def resolve (n f : Nat) : Exit → Machine Outcome
  | .ok v => continueWith n f v
  | .error c => continueWithCause n f c

section Frames

variable {f n : Nat} {h : Heap} {K : List Frame}

theorem exec_resolve_zero (x : Exit) (h : Heap) : (exec (resolve 0 f x) h).1 = .error .outOfFuel := by
  cases x with
  | ok v => rw [resolve, continueWith]; rfl
  | error c => rw [resolve, continueWithCause]; rfl

theorem exec_resolve_nil {x : Exit} (hfr : (h.codeOf f).frames = []) :
    exec (resolve (n + 1) f x) h = exec (Pure.pure (Outcome.done x)) (h.popped f) := by
  cases x with
  | ok v => rw [resolve, continueWith, exec_bind, exec_popFrame, hfr]; rfl
  | error c => rw [resolve, continueWithCause, exec_bind, exec_popFrame, hfr]; rfl

theorem exec_resolve_map {g : Val → Cmd Val} {v : Val} (hfr : (h.codeOf f).frames = .map g :: K) :
    exec (resolve (n + 1) f (.ok v)) h = exec (runCmd n (g v) >>= fun v' => resolve n f (.ok v')) (h.popped f) := by
  rw [resolve, continueWith, exec_bind, exec_popFrame, hfr]
  rfl

theorem exec_resolve_mapCause {g : Cause Json → Cmd (Cause Json)} {c : Cause Json}
    (hfr : (h.codeOf f).frames = .mapCause g :: K) :
    exec (resolve (n + 1) f (.error c)) h =
      exec (runCmd n (g c) >>= fun c' => resolve n f (.error c')) (h.popped f) := by
  rw [resolve, continueWithCause, exec_bind, exec_popFrame, hfr]
  rfl

theorem exec_resolve_pass {fr : Frame} {x : Exit} (hfr : (h.codeOf f).frames = fr :: K)
    (hpass : fr.Passes x) : exec (resolve (n + 1) f x) h = exec (resolve n f x) (h.popped f) := by
  cases fr <;> cases x <;> first
    | exact hpass.elim
    | (rw [resolve, continueWith, exec_bind, exec_popFrame, hfr]; rfl)
    | (rw [resolve, continueWithCause, exec_bind, exec_popFrame, hfr]; rfl)

theorem exec_resolve_onValue {g : Val → Cmd Effect} {v : Val}
    (hfr : (h.codeOf f).frames = .flatMap g :: K ∨ ∃ onCause, (h.codeOf f).frames = .fold onCause g :: K) :
    exec (resolve (n + 1) f (.ok v)) h = exec (Outcome.next <$> runCmd n (g v)) (h.popped f) := by
  rcases hfr with hfr | ⟨onCause, hfr⟩ <;> (rw [resolve, continueWith, exec_bind, exec_popFrame, hfr]; rfl)

theorem exec_resolve_onCause {g : Cause Json → Cmd Effect} {c : Cause Json}
    (hquiet : (h.book f).Quiet)
    (hfr : (h.codeOf f).frames = .flatMapCause g :: K ∨ ∃ onValue, (h.codeOf f).frames = .fold g onValue :: K) :
    exec (resolve (n + 1) f (.error c)) h = exec (Outcome.next <$> runCmd n (g c)) (h.popped f) := by
  have hrecover : (h.popped f).updateBook f (·.recoverInterrupt) = h.popped f :=
    Heap.updateBook_eq_self (by simpa [Heap.popped] using hquiet.recoverInterrupt)
  rcases hfr with hfr | ⟨onValue, hfr⟩
  · rw [resolve, continueWithCause, exec_bind, exec_popFrame, hfr]
    show exec (modifyBook f (·.recoverInterrupt) >>= fun _ => Outcome.next <$> runCmd n (g c)) (h.popped f) = _
    rw [exec_bind, exec_modifyBook, hrecover]
  · rw [resolve, continueWithCause, exec_bind, exec_popFrame, hfr]
    show exec (modifyBook f (·.recoverInterrupt) >>= fun _ => Outcome.next <$> runCmd n (g c)) (h.popped f) = _
    rw [exec_bind, exec_modifyBook, hrecover]

/-- An interruption marker acts on nothing when no interruption is requested. -/
theorem exec_resolve_interrupt {x : Exit} (hnow : (h.book f).interruptsNow = false)
    (hfr : (h.codeOf f).frames = .interrupt :: K) :
    exec (resolve (n + 1) f x) h = exec (resolve n f x) (h.popped f) := by
  have hcalm : ((h.popped f).book f).interruptsNow = false := by simpa [Heap.popped] using hnow
  cases x with
  | ok v =>
    rw [resolve, continueWith, exec_bind, exec_popFrame, hfr]
    show exec (takeInterrupt f >>= _) (h.popped f) = _
    rw [exec_bind, exec_takeInterrupt_of_calm hcalm]
    rfl
  | error c =>
    rw [resolve, continueWithCause, exec_bind, exec_popFrame, hfr]
    show exec (takeInterrupt f >>= _) (h.popped f) = _
    rw [exec_bind, exec_takeInterrupt_of_calm hcalm]
    rfl

theorem exec_resolve_restore {q : Restore} {x : Exit} (hfr : (h.codeOf f).frames = .restore q :: K) :
    exec (resolve (n + 1) f x) h = exec (resolve n f x) ((h.popped f).updateBook f (·.popScope q)) := by
  cases x with
  | ok v =>
    rw [resolve, continueWith, exec_bind, exec_popFrame, hfr]
    show exec (restore f q >>= _) (h.popped f) = _
    rw [exec_bind, restore_eq, exec_modifyBook]
    rfl
  | error c =>
    rw [resolve, continueWithCause, exec_bind, exec_popFrame, hfr]
    show exec (restore f q >>= _) (h.popped f) = _
    rw [exec_bind, restore_eq, exec_modifyBook]
    rfl

end Frames

def Lands (W : World) (f : Nat) (R : Except Fault Outcome × Heap) : TurnEnd → Prop
  | .next ⟨e, K, S⟩ => ∃ h', Ready W f h' S K none ∧
      (R = (.ok (.next e), h') ∨
        ∃ m, R = (.error (.panic m), h') ∧ e = Effect.failCause (.unexpected (W.stamp S.env) m))
  | .done x => ∃ h' S, Ready W f h' S [] none ∧ R = (.ok (.done x), h')

section Unwinding

variable {W : World} {f : Nat}

theorem needs_next {h : Heap} {S : Scopes} {K : List Frame} {t : TurnEnd} {p : Cmd Effect}
    (hr : Ready W f h S K none) (hu : TurnEnd.ofNext K S (p.nextAt (W.stamp S.env)) = some t) :
    ∃ R, Needs (fun n => Outcome.next <$> runCmd n p) h 1 R ∧ Lands W f R t := by
  obtain ⟨e, he, rfl⟩ := TurnEnd.ofNext_eq_some.1 hu
  cases p with
  | done e' =>
    cases he
    exact ⟨_, (needs_runCmd_done _ h).map, h, hr, .inl rfl⟩
  | panic m =>
    cases he
    exact ⟨_, (needs_runCmd_panic m h).map_error, h, hr, .inr ⟨m, rfl, rfl⟩⟩
  | call _ _ => cases he

theorem needs_resolve : ∀ {K : List Frame} {x : Exit} {S : Scopes} {h : Heap} {t : TurnEnd},
    Ready W f h S K none → unwind W x K S = some t →
      ∃ c R, Needs (resolve · f x) h c R ∧ Lands W f R t := by
  intro K
  induction K with
  | nil =>
    intro x S h t hr hu
    simp only [unwind, Option.some.injEq] at hu
    subst hu
    have hfr : (h.codeOf f).frames = [] := by rw [hr.code]
    exact ⟨1, _, .succ (exec_resolve_zero x h) (fun n => exec_resolve_nil hfr) (Needs.pure _ _),
      _, S, hr.popped, rfl⟩
  | cons fr K ih =>
    intro x S h t hr hu
    have hfr : (h.codeOf f).frames = fr :: K := by rw [hr.code]
    have hp : Ready W f (h.popped f) S K none := hr.popped
    -- frames that pass the exit on leave one frame less to go, one unit of fuel later
    have pass : ∀ {x' : Exit} {h' : Heap} {S' : Scopes}, Ready W f h' S' K none →
        (∀ n, exec (resolve (n + 1) f x) h = exec (resolve n f x') h') → unwind W x' K S' = some t →
        ∃ c R, Needs (resolve · f x) h c R ∧ Lands W f R t := by
      intro x' h' S' hr' heq hu'
      obtain ⟨c, R, hn, hl⟩ := ih hr' hu'
      exact ⟨c + 1, R, .succ (exec_resolve_zero x h) heq hn, hl⟩
    -- a builder frame ends the turn with what its callback builds
    have build : ∀ {p : Cmd Effect},
        (∀ n, exec (resolve (n + 1) f x) h = exec (Outcome.next <$> runCmd n p) (h.popped f)) →
        TurnEnd.ofNext K S (p.nextAt (W.stamp S.env)) = some t →
        ∃ c R, Needs (resolve · f x) h c R ∧ Lands W f R t := by
      intro p heq hu'
      obtain ⟨R, hn, hl⟩ := needs_next hp hu'
      exact ⟨2, R, .succ (exec_resolve_zero x h) heq hn, hl⟩
    cases fr with
    | map g =>
      cases x with
      | ok v =>
        cases hv : g v with
        | done v' =>
          simp only [unwind, hv] at hu
          obtain ⟨c, R, hn, hl⟩ := ih hp hu
          have hk : Needs (fun n => runCmd n (Prog.done v' : Cmd Val) >>= fun a => resolve n f (.ok a))
              (h.popped f) (max 1 c) R := (needs_runCmd_done v' _).bind hn
          exact ⟨max 1 c + 1, R, .succ (exec_resolve_zero _ h)
            (fun n => by rw [exec_resolve_map hfr, hv]) hk, hl⟩
        | panic m =>
          simp only [unwind, hv, Option.some.injEq] at hu
          subst hu
          have hk : Needs (fun n => runCmd n (Prog.panic m : Cmd Val) >>= fun a => resolve n f (.ok a))
              (h.popped f) 1 (.error (.panic m), h.popped f) := (needs_runCmd_panic m _).bind_error
          exact ⟨1 + 1, _, .succ (exec_resolve_zero _ h) (fun n => by rw [exec_resolve_map hfr, hv]) hk,
            _, hp, .inr ⟨m, rfl, rfl⟩⟩
        | call _ _ => simp [unwind, hv] at hu
      | error c => exact pass hp (fun n => exec_resolve_pass hfr trivial) hu
    | flatMap g =>
      cases x with
      | ok v => exact build (fun n => exec_resolve_onValue (.inl hfr)) hu
      | error c => exact pass hp (fun n => exec_resolve_pass hfr trivial) hu
    | mapCause g =>
      cases x with
      | ok v => exact pass hp (fun n => exec_resolve_pass hfr trivial) hu
      | error c =>
        cases hc : g c with
        | done c' =>
          simp only [unwind, hc] at hu
          obtain ⟨d, R, hn, hl⟩ := ih hp hu
          have hk : Needs (fun n => runCmd n (Prog.done c' : Cmd (Cause Json)) >>= fun a => resolve n f (.error a))
              (h.popped f) (max 1 d) R := (needs_runCmd_done c' _).bind hn
          exact ⟨max 1 d + 1, R, .succ (exec_resolve_zero _ h)
            (fun n => by rw [exec_resolve_mapCause hfr, hc]) hk, hl⟩
        | panic m =>
          simp only [unwind, hc, Option.some.injEq] at hu
          subst hu
          have hk : Needs (fun n => runCmd n (Prog.panic m : Cmd (Cause Json)) >>= fun a => resolve n f (.error a))
              (h.popped f) 1 (.error (.panic m), h.popped f) := (needs_runCmd_panic m _).bind_error
          exact ⟨1 + 1, _, .succ (exec_resolve_zero _ h) (fun n => by rw [exec_resolve_mapCause hfr, hc]) hk,
            _, hp, .inr ⟨m, rfl, rfl⟩⟩
        | call _ _ => simp [unwind, hc] at hu
    | flatMapCause g =>
      cases x with
      | ok v => exact pass hp (fun n => exec_resolve_pass hfr trivial) hu
      | error c => exact build (fun n => exec_resolve_onCause hr.alone.quiet (.inl hfr)) hu
    | fold onCause onValue =>
      cases x with
      | ok v => exact build (fun n => exec_resolve_onValue (.inr ⟨onCause, hfr⟩)) hu
      | error c => exact build (fun n => exec_resolve_onCause hr.alone.quiet (.inr ⟨onValue, hfr⟩)) hu
    | interrupt =>
      exact pass hp (fun n => exec_resolve_interrupt hr.interruptsNow hfr) (by cases x <;> exact hu)
    | restore q =>
      exact pass (hp.popScope q) (fun n => exec_resolve_restore hfr) (by cases x <;> exact hu)

end Unwinding

def settle (n f : Nat) : SyncOutcome → Machine Outcome
  | .value v => continueWith n f v
  | .expected err => do continueWithCause n f (.expected (← unixTime f) err)
  | .defect m => do continueWithCause n f (← defectCause f m)

def Steps (W : World) (f : Nat) (R : Except Fault Outcome × Heap) (σ : Conf) : Prop :=
  (∃ t, turnOf W σ = some t ∧ Lands W f R t) ∨
    ∃ k tr, σ.instr = ⟨.await k, tr⟩ ∧ R.1 = .ok .suspend ∧ Waiting W f R.2 σ.scopes σ.frames k

section Step

variable {W : World} {f : Nat} {h : Heap} {S : Scopes} {K : List Frame}

theorem exec_step_zero (e : Effect) (h : Heap) : (exec (step 0 f e) h).1 = .error .outOfFuel := by
  rw [step]
  rfl

theorem exec_step_sync {n : Nat} {run : Cmd SyncOutcome} {tr : Option String} :
    exec (step (n + 1) f ⟨.sync run, tr⟩) h = exec (runCmd n run >>= settle n f) h := by
  rw [step]
  rfl

/-- A synchronous body that returns an outcome settles it where `turnOf` hands it to the frames. -/
theorem needs_settle (hr : Ready W f h S K none) (o : SyncOutcome) {t : TurnEnd} {tr : Option String}
    (ht : turnOf W ⟨⟨.sync (Prog.done o), tr⟩, K, S⟩ = some t) :
    ∃ c R, Needs (fun n => settle n f o) h c R ∧ Lands W f R t := by
  have hτ := hr.alone.fiberUnixTime
  cases o with
  | value v => exact needs_resolve hr ht
  | expected err =>
    obtain ⟨c, R, hn, hl⟩ := needs_resolve hr ht
    refine ⟨c, R, .congr (fun n => ?_) hn, hl⟩
    simp only [settle, exec_bind, exec_unixTime, hτ]
    rfl
  | defect m =>
    obtain ⟨c, R, hn, hl⟩ := needs_resolve hr ht
    refine ⟨c, R, .congr (fun n => ?_) hn, hl⟩
    simp only [settle, defectCause, exec_bind, exec_unixTime, hτ]
    rfl

theorem needs_of_eq {e : Effect} {R : Except Fault Outcome × Heap}
    (heq : ∀ n, exec (step (n + 1) f e) h = R) : Needs (step · f e) h 1 R := by
  intro n
  cases n with
  | zero => exact ⟨fun hc => absurd hc (by omega), fun _ => exec_step_zero e h⟩
  | succ n => exact ⟨fun _ => heq n, fun hc => absurd hc (by omega)⟩

@[simp] theorem exec_currentFlags (h : Heap) :
    exec (currentFlags f) h = (.ok (h.book f).flags.current, h) := rfl

theorem exec_pushFlags (hr : Ready W f h S K none) (fl : Flags) :
    ∃ H, exec (pushFlags f fl) h = (.ok (), H) ∧
      Ready W f H (S.pushFlags fl) (Conf.enterFlags Effect.unit K S fl).frames none := by
  have hcur : (h.book f).flags.current = S.env.flags := by rw [← hr.alone.scopes]; rfl
  let g : FiberBook → FiberBook := fun b => { b with flags := b.flags.push fl }
  have hg : ∀ {H : Heap}, (H.book f).scopes = S → g (H.book f) = (H.book f).setScopes (S.pushFlags fl) := by
    intro H hH
    rw [← hH]
    rfl
  rw [pushFlags, exec_bind, exec_currentFlags, hcur]
  simp only [Conf.enterFlags]
  by_cases hc : (S.env.flags.interruptible && !fl.interruptible) = true
  · have h1 := hr.pushed .interrupt
    have h3 := (h1.updateBook g (hg h1.alone.scopes)).pushed (.restore .flags)
    rw [if_pos hc, if_pos hc]
    exact ⟨_, rfl, h3⟩
  · have h3 := (hr.updateBook g (hg hr.alone.scopes)).pushed (.restore .flags)
    rw [if_neg hc, if_neg hc]
    exact ⟨_, rfl, h3⟩

/-- A future that has resolved is continued with at once. -/
theorem needs_suspendOn_resolved {k : Nat} {e : Effect} (hk : h.futures[k]? = some (some e)) :
    Needs (suspendOn · f k) h 1 (.ok (.next e), h) := by
  intro n
  beta_reduce
  cases n with
  | zero => exact ⟨fun hc => absurd hc (by omega), fun _ => by rw [suspendOn]; rfl⟩
  | succ n =>
    refine ⟨fun _ => ?_, fun hc => absurd hc (by omega)⟩
    rw [suspendOn]
    simp only [exec_bind, exec_get, hk]
    rfl

theorem needs_suspendOn_pending {k : Nat} (hr : Ready W f h S K none)
    (hk : ∀ e, h.futures[k]? ≠ some (some e)) :
    ∃ H, Needs (suspendOn · f k) h 2 (.ok .suspend, H) ∧ Waiting W f H S K k := by
  obtain ⟨cell, hcell, hmem, hdisp⟩ := hr.group
  have hb := hr.alone.hasBook
  -- the watcher, the subscription, the group's new member and its link, in that order
  let w := h.data.watchers.size
  let d₁ := (h.data.addWatcher k (.resume f)).2
  let sub := h.data.disposables.size
  let d₂ := (d₁.newDisposable (some (.unwatch w))).2
  let key := cell.nextKey
  let d₃ : Data :=
    { d₂ with
      groups := d₂.groups.set! (h.book f).group { cell with members := [(key, sub)], nextKey := key + 1 }
      disposables := d₂.disposables.push { action := some (.detach (h.book f).group key) } }
  let H := (h.setData d₃).updateBook f fun b => { b with suspension := some ⟨sub, d₂.disposables.size⟩ }
  have h1 : exec (modifyGetData (·.addWatcher k (.resume f))) h = (.ok w, h.setData d₁) := rfl
  have h2 : exec (modifyGetData (·.newDisposable (some (.unwatch w)))) (h.setData d₁) =
      (.ok sub, h.setData d₂) := rfl
  have h3 : exec (book f) (h.setData d₂) = (.ok (h.book f), h.setData d₂) := rfl
  have hadd : d₂.groupAdd (h.book f).group sub = (some key, { d₂ with
      groups := d₂.groups.set! (h.book f).group { cell with members := [(key, sub)], nextKey := key + 1 } }) := by
    have hc2 : d₂.groups[(h.book f).group]? = some cell := hcell
    simp [Data.groupAdd, hc2, hdisp, hmem, key]
  have h4 : ∀ n, exec (groupAdd (n + 1) (h.book f).group sub) (h.setData d₂) =
      (.ok d₂.disposables.size, h.setData d₃) := by
    intro n
    rw [groupAdd, exec_bind, exec_modifyGetData, Heap.data_setData, hadd]
    rfl
  have h4' : exec (groupAdd 0 (h.book f).group sub) (h.setData d₂) = (.error .outOfFuel, h.setData d₂) := by
    rw [groupAdd]
    rfl
  refine ⟨H, fun n => ?_, ?_⟩
  · beta_reduce
    rcases n with _ | _ | n
    · exact ⟨fun hc => absurd hc (by omega), fun _ => by rw [suspendOn]; rfl⟩
    · refine ⟨fun hc => absurd hc (by omega), fun _ => ?_⟩
      rw [suspendOn]
      simp only [exec_bind, exec_get]
      simp only [h1, h2, h3, h4']
    · refine ⟨fun _ => ?_, fun hc => absurd hc (by omega)⟩
      rw [suspendOn]
      simp only [exec_bind, exec_get]
      simp only [h1, h2, h3, h4, exec_modifyBook]
      rfl
  · -- the fiber's book changes only in its suspension, and the data only in what was added
    have hbook : H.book f = { h.book f with suspension := some ⟨sub, d₂.disposables.size⟩ } :=
      Heap.book_updateBook_self _ (by simpa [d₃, d₂, d₁, Data.newDisposable, Data.addWatcher] using hb)
    have hdisposables : H.data.disposables = (h.data.disposables.push ⟨false, some (.unwatch w)⟩).push
        ⟨false, some (.detach (h.book f).group key)⟩ := rfl
    obtain ⟨⟨hc, _, hs, hq, hrun, hch, ⟨htime, heff, hbld, hfut⟩⟩, hcode, _, _⟩ := hr
    refine ⟨⟨by simpa [H] using hc, by simpa [H, d₃, d₂, d₁, Data.newDisposable, Data.addWatcher] using hb,
      by rw [hbook]; exact hs,
      by rw [hbook]; exact ⟨hq.cause, hq.interrupting, hq.finalizing, hq.pendingExit, hq.exit, hq.observers⟩,
      by rw [hbook]; exact hrun,
      by rw [hbook]; exact hch, ⟨htime, heff, hbld, hfut⟩⟩, by simpa [H] using hcode,
      sub, d₂.disposables.size, w, key, key + 1, by rw [hbook], ?_, ?_, ?_, ?_⟩
    · simp only [hdisposables, Array.getElem?_push, Array.size_push]
      simp [sub]
    · simp [H, d₃, d₂, d₁, w, Heap.updateBook, Data.modifyFiber, Data.newDisposable, Data.addWatcher]
    · simp only [hbook, hdisposables, Array.getElem?_push, Array.size_push]
      simp [d₂, d₁, Data.newDisposable, Data.addWatcher]
    · have hlt : (h.book f).group < h.data.groups.size := (Array.getElem?_eq_some_iff.1 hcell).1
      rw [hbook]
      simp [H, d₃, d₂, d₁, Heap.updateBook, Data.modifyFiber, Data.newDisposable, Data.addWatcher, hlt, hdisp]

theorem needs_await (hr : Ready W f h S K none) (k : Nat) (tr : Option String) :
    ∃ c R, Needs (step · f ⟨.await k, tr⟩) h c R ∧ Steps W f R ⟨⟨.await k, tr⟩, K, S⟩ := by
  have hs : ∀ n, exec (step (n + 1) f ⟨.await k, tr⟩) h = exec (suspendOn n f k) h := by
    intro n
    rw [step]
    rfl
  by_cases hk : ∃ e, h.futures[k]? = some (some e)
  · obtain ⟨e, hk⟩ := hk
    have hw : W.future k = some e := hr.alone.agrees.future k e hk
    refine ⟨1 + 1, _, .succ (exec_step_zero _ h) hs (needs_suspendOn_resolved hk),
      .inl ⟨.next ⟨e, K, S⟩, ?_, h, hr, .inl rfl⟩⟩
    simp [turnOf, hw, TurnEnd.ofNext]
  · obtain ⟨H, hn, hw⟩ := needs_suspendOn_pending hr (fun e he => hk ⟨e, he⟩)
    exact ⟨2 + 1, _, .succ (exec_step_zero _ h) hs hn, .inr ⟨k, tr, rfl, rfl, hw⟩⟩

theorem needs_turn (hr : Ready W f h S K none) {i : Instr} {tr : Option String}
    (hi : ∀ k, i ≠ .await k) {t : TurnEnd} (ht : turnOf W ⟨⟨i, tr⟩, K, S⟩ = some t) :
    ∃ c R, Needs (step · f ⟨i, tr⟩) h c R ∧ Lands W f R t := by
  -- an instruction that hands an exit to the frames
  have leaf : ∀ {x : Exit}, (∀ n, exec (step (n + 1) f ⟨i, tr⟩) h = exec (resolve n f x) h) →
      unwind W x K S = some t → ∃ c R, Needs (step · f ⟨i, tr⟩) h c R ∧ Lands W f R t := by
    intro x hs hu
    obtain ⟨c, R, hn, hl⟩ := needs_resolve hr hu
    exact ⟨c + 1, R, .succ (exec_step_zero _ h) hs hn, hl⟩
  -- an instruction that goes on with what a callback builds
  have build : ∀ {p : Cmd Effect},
      (∀ n, exec (step (n + 1) f ⟨i, tr⟩) h = exec (Outcome.next <$> runCmd n p) h) →
      TurnEnd.ofNext K S (p.nextAt (W.stamp S.env)) = some t →
      ∃ c R, Needs (step · f ⟨i, tr⟩) h c R ∧ Lands W f R t := by
    intro p hs hu
    obtain ⟨R, hn, hl⟩ := needs_next hr hu
    exact ⟨1 + 1, R, .succ (exec_step_zero _ h) hs hn, hl⟩
  -- an instruction that goes on with an effect it holds, from a heap at the next configuration
  have enter : ∀ {H : Heap} {e : Effect} {K' : List Frame} {S' : Scopes},
      (∀ n, exec (step (n + 1) f ⟨i, tr⟩) h = (.ok (.next e), H)) → Ready W f H S' K' none →
      t = .next ⟨e, K', S'⟩ → ∃ c R, Needs (step · f ⟨i, tr⟩) h c R ∧ Lands W f R t := by
    intro H e K' S' hs hH hte
    subst hte
    exact ⟨1, _, needs_of_eq hs, H, hH, .inl rfl⟩
  have hscopes := hr.alone.scopes
  have hflags : (h.book f).flags.current = S.env.flags := by rw [← hscopes]; rfl
  cases i with
  | of v => exact leaf (fun n => by rw [step]; rfl) ht
  | fail c => exact leaf (fun n => by rw [step]; rfl) ht
  | sync run =>
    cases run with
    | done o =>
      obtain ⟨c, R, hn, hl⟩ := needs_settle hr o ht
      exact ⟨max 1 c + 1, R,
        .succ (exec_step_zero _ h) (fun n => exec_step_sync) ((needs_runCmd_done o h).bind hn), hl⟩
    | panic m =>
      simp only [turnOf, Option.some.injEq] at ht
      subst ht
      exact ⟨1 + 1, _, .succ (exec_step_zero _ h) (fun n => exec_step_sync)
        (needs_runCmd_panic m h).bind_error, h, hr, .inr ⟨m, rfl, rfl⟩⟩
    | call _ _ => simp [turnOf] at ht
  | suspend p => exact build (fun n => by rw [step]; rfl) ht
  | stored k =>
    simp only [turnOf, Option.some.injEq] at ht
    have he : (h.effects[k]?).getD (Effect.of .unit) = (W.effect k).getD Effect.unit := by
      rw [hr.alone.agrees.effect]
      rfl
    exact enter (fun n => by rw [step, ← he]; rfl) hr ht.symm
  | apply k arg =>
    have hb := hr.alone.agrees.builder k
    cases hg : W.builder k with
    | some g =>
      simp only [turnOf, hg] at ht
      rw [hg] at hb
      exact build (fun n => by rw [step]; dsimp only [Effect.instr]; simp only [exec_bind, exec_get, hb]) ht
    | none =>
      simp only [turnOf, hg, Option.some.injEq] at ht
      rw [hg] at hb
      exact enter (fun n => by rw [step]; dsimp only [Effect.instr]; simp only [exec_bind, exec_get, hb]; rfl) hr ht.symm
  | map e g =>
    simp only [turnOf, Option.some.injEq] at ht
    exact enter (fun n => by rw [step]; rfl) (hr.pushed _) ht.symm
  | flatMap e g =>
    simp only [turnOf, Option.some.injEq] at ht
    exact enter (fun n => by rw [step]; rfl) (hr.pushed _) ht.symm
  | mapCause e g =>
    simp only [turnOf, Option.some.injEq] at ht
    exact enter (fun n => by rw [step]; rfl) (hr.pushed _) ht.symm
  | flatMapCause e g =>
    simp only [turnOf, Option.some.injEq] at ht
    exact enter (fun n => by rw [step]; rfl) (hr.pushed _) ht.symm
  | fold e onCause onValue =>
    simp only [turnOf, Option.some.injEq] at ht
    exact enter (fun n => by rw [step]; rfl) (hr.pushed _) ht.symm
  | access g =>
    have hctx : (h.book f).context.current = S.env.context := by rw [← hscopes]; rfl
    exact build (fun n => by rw [step, ← hctx]; rfl) ht
  | provide e ctx =>
    simp only [turnOf, Option.some.injEq] at ht
    let g : FiberBook → FiberBook := fun b => { b with context := b.context.push (b.context.current.merge ctx) }
    have hg : g (h.book f) = (h.book f).setScopes (S.pushContext (S.env.context.merge ctx)) := by
      rw [← hscopes]
      rfl
    exact enter (fun n => by rw [step]; rfl) ((hr.updateBook g hg).pushed _) ht.symm
  | await k => exact absurd rfl (hi k)
  | setInterruptible e on =>
    simp only [turnOf, Option.some.injEq] at ht
    obtain ⟨H, hpush, hH⟩ := exec_pushFlags hr { S.env.flags with interruptible := on }
    exact enter (fun n => by rw [step]; dsimp only [Effect.instr]; simp only [exec_bind, exec_currentFlags, hflags, hpush]; rfl)
      hH ht.symm
  | updateFlags e g =>
    simp only [turnOf, Option.some.injEq] at ht
    obtain ⟨H, hpush, hH⟩ := exec_pushFlags hr (g S.env.flags)
    exact enter (fun n => by rw [step]; dsimp only [Effect.instr]; simp only [exec_bind, exec_currentFlags, hflags, hpush]; rfl)
      hH ht.symm
  | getFlags => exact leaf (fun n => by rw [← hflags, step]; rfl) ht
  | getStore =>
    have hstore : (h.book f).stores.current = S.env.store := by rw [← hscopes]; rfl
    exact leaf (fun n => by rw [← hstore, step]; rfl) ht
  | withStore e s =>
    simp only [turnOf, Option.some.injEq] at ht
    let g : FiberBook → FiberBook := fun b => { b with stores := b.stores.push s }
    have hg : g (h.book f) = (h.book f).setScopes (S.pushStore s) := by
      rw [← hscopes]
      rfl
    exact enter (fun n => by rw [step]; rfl) ((hr.updateBook g hg).pushed _) ht.symm
  | getOptions => simp [turnOf] at ht
  | getScope => simp [turnOf] at ht

/-- Running the instruction of a configuration that `turnOf` ends, or that awaits a future. -/
theorem needs_step (hr : Ready W f h S K none) {e : Effect}
    (hd : (∃ t, turnOf W ⟨e, K, S⟩ = some t) ∨ ∃ k tr, e = ⟨.await k, tr⟩) :
    ∃ c R, Needs (step · f e) h c R ∧ Steps W f R ⟨e, K, S⟩ := by
  obtain ⟨i, tr⟩ := e
  by_cases hi : ∃ k, i = .await k
  · obtain ⟨k, rfl⟩ := hi
    exact needs_await hr k tr
  · have hne : ∀ k, i ≠ .await k := fun k hk => hi ⟨k, hk⟩
    obtain ⟨t, ht⟩ := hd.resolve_right (by
      rintro ⟨k, tr', he⟩
      cases he
      exact hne k rfl)
    obtain ⟨c, R, hn, hl⟩ := needs_turn hr hne ht
    exact ⟨c, R, hn, .inl ⟨t, ht, hl⟩⟩

end Step

end Machine

end FiberEffects
