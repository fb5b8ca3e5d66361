import FiberEffects.Proofs.LoopInvariant

namespace FiberEffects

namespace FiberBook

def Rests (b : FiberBook) (c : FiberCode) : Prop :=
  c.instr = none ∧ (b.exit.isSome ∨ (b.suspension.isSome ∧ b.interruptsNow = false))

def Live (b : FiberBook) (c : FiberCode) : Prop :=
  (c.instr.isSome ∧ b.suspension = none ∧ b.exit = none) ∨ b.Rests c

variable {b : FiberBook}

theorem takeInterrupt_of_none (h : b.takeInterrupt.1 = none) : b.takeInterrupt.2 = b := by
  unfold takeInterrupt at h ⊢
  split at h <;> simp_all

@[simp] theorem started_takeInterrupt : b.takeInterrupt.2.started = b.started := by
  unfold takeInterrupt; split <;> rfl

@[simp] theorem running_takeInterrupt : b.takeInterrupt.2.running = b.running := by
  unfold takeInterrupt; split <;> rfl

@[simp] theorem exit_takeInterrupt : b.takeInterrupt.2.exit = b.exit := by
  unfold takeInterrupt; split <;> rfl

@[simp] theorem suspension_takeInterrupt : b.takeInterrupt.2.suspension = b.suspension := by
  unfold takeInterrupt; split <;> rfl

@[simp] theorem started_popScope (r : Restore) : (b.popScope r).started = b.started := by
  cases r <;> rfl

@[simp] theorem running_popScope (r : Restore) : (b.popScope r).running = b.running := by
  cases r <;> rfl

@[simp] theorem exit_popScope (r : Restore) : (b.popScope r).exit = b.exit := by
  cases r <;> rfl

@[simp] theorem suspension_popScope (r : Restore) : (b.popScope r).suspension = b.suspension := by
  cases r <;> rfl

@[simp] theorem unwinding_popScope (r : Restore) : (b.popScope r).unwinding = b.unwinding := by
  cases r <;> rfl

@[simp] theorem started_recoverInterrupt : b.recoverInterrupt.started = b.started := by
  unfold recoverInterrupt; split <;> rfl

@[simp] theorem running_recoverInterrupt : b.recoverInterrupt.running = b.running := by
  unfold recoverInterrupt; split <;> rfl

@[simp] theorem exit_recoverInterrupt : b.recoverInterrupt.exit = b.exit := by
  unfold recoverInterrupt; split <;> rfl

@[simp] theorem suspension_recoverInterrupt : b.recoverInterrupt.suspension = b.suspension := by
  unfold recoverInterrupt; split <;> rfl

@[simp] theorem unwinding_recoverInterrupt : b.recoverInterrupt.unwinding = false := by
  unfold recoverInterrupt unwinding; split <;> simp_all

theorem inWindow_recoverInterrupt : b.recoverInterrupt.inWindow = b.inWindow := by
  unfold recoverInterrupt; split <;> rfl

theorem depthOf_popScope (r r' : Restore) :
    (b.popScope r).depthOf r' = b.depthOf r' - if r = r' then 1 else 0 := by
  cases r <;> cases r' <;> simp [popScope, depthOf]

end FiberBook

@[simp] theorem Pause.holds_frames {p : Pause} {b : FiberBook} {c : FiberCode} {fs : List Frame} :
    p.holds b { c with frames := fs } ↔ p.holds b c := by
  cases p <;> exact Iff.rfl


/-- What one fiber must satisfy for a heap to be steady. -/
structure Fits (w : Set Nat) (P : Nat → Option Pause) (d : Data) (f : Nat) (b : FiberBook)
    (c : FiberCode) : Prop where
  ok : FiberOk b c
  inert : ∀ s, b.suspension = some s → d.inert s.subscription ∧ d.inert s.link
  window : b.inWindow = true ↔ f ∈ w
  held : ∀ p, P f = some p → p.holds b c
  ready : f < d.fibers.size → b.started = false → c.instr.isSome

namespace Fits

variable {w : Set Nat} {P : Nat → Option Pause} {d d' : Data} {f : Nat} {b : FiberBook}
  {c : FiberCode}

theorem congr_data (hfit : Fits w P d f b c) (hsz : d'.fibers.size = d.fibers.size)
    (hd : ∀ k, d'.inert k = d.inert k) : Fits w P d' f b c :=
  ⟨hfit.ok, fun s hs => by rw [hd, hd]; exact hfit.inert s hs, hfit.window, hfit.held,
    hsz ▸ hfit.ready⟩

theorem of_ok (hok : FiberOk b c) (hst : b.started = true)
    (hin : ∀ s, b.suspension = some s → d.inert s.subscription ∧ d.inert s.link)
    (hwin : b.inWindow = true ↔ f ∈ w) (hP : P f = none) : Fits w P d f b c :=
  ⟨hok, hin, hwin, fun p hp => by simp [hP] at hp, fun _ h => absurd (hst.symm.trans h) (by simp)⟩

end Fits

namespace Steady

variable {w w' : Set Nat} {P : Nat → Option Pause} {h h' : Heap} {f : Nat}

theorem fits (hs : Steady w P h) (g : Nat) : Fits w P h.data g (h.book g) (h.codeOf g) :=
  ⟨hs.inv.fibers g, hs.inv.inert g, by rw [← hs.windows]; rfl, hs.held g, hs.inv.ready g⟩

/-- A heap that differs from a steady one in one fiber only is steady when that fiber fits. -/
theorem of_agree (hs : Steady w' P h) (hw : ∀ g, g ≠ f → (g ∈ w' ↔ g ∈ w))
    (hsize : h'.code.size = h'.data.fibers.size)
    (hlt : ∀ g, g ≠ f → g < h'.data.fibers.size → g < h.data.fibers.size)
    (hbook : ∀ g, g ≠ f → h'.book g = h.book g) (hcode : ∀ g, g ≠ f → h'.codeOf g = h.codeOf g)
    (hinert : ∀ k, h'.data.inert k = h.data.inert k)
    (hfit : Fits w P h'.data f (h'.book f) (h'.codeOf f)) : Steady w P h' := by
  refine ⟨⟨hsize, fun g => ?_, fun g hg => ?_, fun g s hsus => ?_⟩, ?_, fun g p hp => ?_⟩
  · by_cases hg : g = f
    · subst hg; exact hfit.ok
    · rw [hbook g hg, hcode g hg]; exact hs.inv.fibers g
  · by_cases hgf : g = f
    · subst hgf; exact hfit.ready hg
    · rw [hbook g hgf, hcode g hgf]; exact hs.inv.ready g (hlt g hgf hg)
  · by_cases hg : g = f
    · subst hg; exact hfit.inert s hsus
    · rw [hbook g hg] at hsus
      rw [hinert, hinert]
      exact hs.inv.inert g s hsus
  · ext g
    by_cases hg : g = f
    · subst hg; exact hfit.window
    · show (h'.book g).inWindow = true ↔ g ∈ w
      rw [hbook g hg, ← hw g hg, ← hs.windows]; rfl
  · by_cases hg : g = f
    · subst hg; exact hfit.held p hp
    · rw [hbook g hg, hcode g hg]; exact hs.held g p hp

end Steady

namespace FiberOk

variable {b : FiberBook} {c : FiberCode}

theorem started_of_running (hok : FiberOk b c) (hr : b.running = true) : b.started = true := by
  cases hs : b.started
  · simp [(hok.fresh hs).1] at hr
  · rfl

theorem run (hok : FiberOk b c) (hs : b.started = true) : FiberOk { b with running := true } c :=
  ⟨hok.counted, fun h => by simp_all, hok.done, fun _ h => by simp at h, hok.unwinding⟩

theorem stop (hok : FiberOk b c)
    (hw : b.suspension.isSome → b.interruptsNow = false ∧ c.instr = none) :
    FiberOk { b with running := false } c :=
  ⟨hok.counted, fun h => ⟨rfl, (hok.fresh h).2⟩, hok.done, fun h _ => hw h, hok.unwinding⟩

theorem takeInstr (hok : FiberOk b c) (hs : b.started = true) :
    FiberOk b { c with instr := none } :=
  ⟨hok.counted, fun h => by simp_all, fun h => ⟨(hok.done h).1, rfl⟩,
    fun h hr => ⟨(hok.waiting h hr).1, rfl⟩, fun hx hu => ⟨(hok.unwinding hx hu).1, rfl⟩⟩

theorem setInstr {e : Effect} (hok : FiberOk b c) (hx : b.exit = none)
    (hw : b.suspension.isSome → b.running = true) (hu : b.unwinding = true → e.isFailure = true) :
    FiberOk b { c with instr := some e } := by
  refine ⟨hok.counted, hok.fresh, fun h => by simp_all, fun h hr => by simp_all, fun hx' hu' => ?_⟩
  exact ⟨(hok.unwinding hx' hu').1, by simpa using hu hu'⟩

theorem takeInterrupt (hok : FiberOk b c) (hc : c.instr = none) (hs : b.suspension = none) :
    FiberOk b.takeInterrupt.2 c := by
  unfold FiberBook.takeInterrupt
  split
  · exact ⟨hok.counted, hok.fresh, hok.done, fun h => by simp_all, fun _ _ => ⟨hs, by simp [hc]⟩⟩
  · exact hok

theorem recover (hok : FiberOk b c) : FiberOk b.recoverInterrupt c := by
  unfold FiberBook.recoverInterrupt
  split
  · refine ⟨hok.counted, hok.fresh, hok.done, fun h hr => ?_, fun _ hu => by simp_all [FiberBook.unwinding]⟩
    exact ⟨by simp [FiberBook.interruptsNow, Cause.isEmpty], (hok.waiting h hr).2⟩
  · exact hok

theorem rescope {b' : FiberBook} {c' : FiberCode} (hok : FiberOk b c) (hs : b.suspension = none)
    (hb : b'.started = b.started ∧ b'.running = b.running ∧ b'.suspension = b.suspension ∧
      b'.exit = b.exit ∧ b'.unwinding = b.unwinding)
    (hi : c'.instr = c.instr) (hcount : ∀ r, b'.depthOf r = c'.frames.countP (·.restores r)) :
    FiberOk b' c' := by
  obtain ⟨h1, h2, h3, h4, h5⟩ := hb
  refine ⟨hcount, fun h => ?_, fun h => ?_, fun h => by simp_all, fun hx hu => ?_⟩
  · rw [h1] at h; rw [h2, h3, h4]; exact hok.fresh h
  · rw [h4] at h; rw [h3, hi]; exact hok.done h
  · rw [h4] at hx; rw [h5] at hu; rw [h3, hi]; exact hok.unwinding hx hu

theorem suspend {s : Suspension} (hok : FiberOk b c) (hr : b.running = true) (hx : b.exit = none)
    (hu : b.unwinding = false) : FiberOk { b with suspension := some s } c :=
  ⟨hok.counted, fun h => by simp [hok.started_of_running hr] at h, fun h => by simp_all,
    fun _ h => by simp_all, fun _ h => absurd (hu.symm.trans h) Bool.false_ne_true⟩

theorem leave (hok : FiberOk b c) : FiberOk { b with suspension := none } c :=
  ⟨hok.counted, fun h => ⟨(hok.fresh h).1, rfl, (hok.fresh h).2.2⟩, fun h => ⟨rfl, (hok.done h).2⟩,
    fun h => by simp at h, fun hx hu => ⟨rfl, (hok.unwinding hx hu).2⟩⟩

theorem start (hok : FiberOk b c) (hs : b.started = false) : FiberOk { b with started := true } c := by
  obtain ⟨hr, hsus, hx⟩ := hok.fresh hs
  exact ⟨hok.counted, fun h => by simp at h, fun h => by simp_all, fun h => by simp_all, hok.unwinding⟩

theorem request {x : Cause Json} (hok : FiberOk b c)
    (hw : b.suspension.isSome → b.running = false →
      ({ b with interruptCause := b.interruptCause.combine x } : FiberBook).interruptsNow = false) :
    FiberOk { b with interruptCause := b.interruptCause.combine x } c :=
  ⟨hok.counted, hok.fresh, hok.done, fun h hr => ⟨hw h hr, (hok.waiting h hr).2⟩, hok.unwinding⟩

theorem beginUnwinding (hok : FiberOk b c) (hs : b.suspension = none) (hc : c.instr = none) :
    FiberOk { b with interrupting := true } c :=
  ⟨hok.counted, hok.fresh, hok.done, fun h => by simp_all, fun _ _ => ⟨hs, by simp [hc]⟩⟩

theorem finalize {x : Exit} (hok : FiberOk b c) :
    FiberOk { b with pendingExit := some x, finalizing := true } c :=
  ⟨hok.counted, hok.fresh, hok.done,
    fun h hr => ⟨by simp [FiberBook.interruptsNow], (hok.waiting h hr).2⟩,
    fun _ hu => by simp [FiberBook.unwinding] at hu⟩

theorem unpend (hok : FiberOk b c) : FiberOk { b with pendingExit := none } c :=
  ⟨hok.counted, hok.fresh, hok.done, hok.waiting, hok.unwinding⟩

/-- Publishing the exit of a running fiber whose frames ran out. -/
theorem complete {x : Exit} (hok : FiberOk b c) (hr : b.running = true) (hfr : c.frames = []) :
    FiberOk { b with suspension := none, exit := some x } {} := by
  refine ⟨fun r => ?_, fun h => by simp [hok.started_of_running hr] at h, fun _ => ⟨rfl, rfl⟩,
    fun h => by simp at h, fun hx => by simp at hx⟩
  have := hok.counted r
  rw [hfr] at this
  simpa [FiberBook.depthOf] using this

/-- Clearing the code of a running fiber whose frames ran out. -/
theorem clear (hok : FiberOk b c) (hr : b.running = true) (hfr : c.frames = []) :
    FiberOk b {} := by
  refine ⟨fun r => ?_, fun h => by simp [hok.started_of_running hr] at h, fun h => ?_,
    fun h => by simp_all, fun hx hu => ⟨(hok.unwinding hx hu).1, rfl⟩⟩
  · have := hok.counted r
    rw [hfr] at this
    simpa using this
  · exact ⟨(hok.done h).1, rfl⟩

/-- Dropping a top frame that restores nothing. -/
theorem dropFrame (hok : FiberOk b c) (hs : b.suspension = none)
    (hfr : ∀ fr ∈ c.frames.head?, ∀ r, fr.restores r = false) :
    FiberOk b { c with frames := c.frames.tail } := by
  refine hok.rescope hs ⟨rfl, rfl, rfl, rfl, rfl⟩ rfl fun r => ?_
  rw [hok.counted r]
  cases hfs : c.frames with
  | nil => rfl
  | cons fr rest =>
    rw [hfs] at hfr
    simp [hfr fr rfl r]

theorem pushFrame {fr : Frame} (hok : FiberOk b c) (hs : b.suspension = none)
    (hfr : ∀ r, fr.restores r = false) : FiberOk b { c with frames := fr :: c.frames } :=
  hok.rescope hs ⟨rfl, rfl, rfl, rfl, rfl⟩ rfl fun r => by simp [hok.counted r, hfr r]

/-- Entering a scope: one more override of kind `r`, above one more restore frame of that kind. -/
theorem pushScope {b' : FiberBook} {r : Restore} (hok : FiberOk b c) (hs : b.suspension = none)
    (hb : b'.started = b.started ∧ b'.running = b.running ∧ b'.suspension = b.suspension ∧
      b'.exit = b.exit ∧ b'.unwinding = b.unwinding)
    (hd : ∀ r', b'.depthOf r' = b.depthOf r' + if r = r' then 1 else 0) :
    FiberOk b' { c with frames := .restore r :: c.frames } :=
  hok.rescope hs hb rfl fun r' => by
    by_cases h : r = r' <;> simp [hd r', hok.counted r', Frame.restores, h]

/-- Popping a restore frame together with the override it restores. -/
theorem popRestore {r : Restore} (hok : FiberOk b c) (hs : b.suspension = none)
    (hfr : c.frames.head? = some (.restore r)) :
    FiberOk (b.popScope r) { c with frames := c.frames.tail } := by
  refine hok.rescope hs ⟨by cases r <;> rfl, by simp, by simp, by simp, by simp⟩ rfl fun r' => ?_
  obtain ⟨rest, hfs⟩ : ∃ rest, c.frames = .restore r :: rest := by
    cases hc : c.frames with
    | nil => simp [hc] at hfr
    | cons fr rest => simp [hc] at hfr; exact ⟨rest, by rw [hfr]⟩
  have hcount := hok.counted r'
  rw [hfs, List.countP_cons] at hcount
  rw [FiberBook.depthOf_popScope, hcount, hfs, List.tail_cons]
  by_cases hr : r = r' <;> simp [Frame.restores, hr]

theorem started_of_suspended (hok : FiberOk b c) {s : Suspension} (hsus : b.suspension = some s) :
    b.started = true := by
  cases hst : b.started
  · simp [(hok.fresh hst).2.1] at hsus
  · rfl

theorem exit_of_suspended (hok : FiberOk b c) {s : Suspension} (hsus : b.suspension = some s) : b.exit = none := by
  cases hx : b.exit
  · rfl
  · simp [(hok.done (by simp [hx])).1] at hsus

theorem unwinding_of_suspended (hok : FiberOk b c) {s : Suspension} (hsus : b.suspension = some s) :
    b.unwinding = false := by
  cases hu : b.unwinding
  · rfl
  · simp [(hok.unwinding (hok.exit_of_suspended hsus) hu).1] at hsus

/-- A new fiber has overridden nothing, begun nothing, and has its effect to run. -/
theorem new (e : Effect) (id : FiberId) (opts : Options) (g : Nat) :
    FiberOk
      { id, scope := opts.scope, baseStore := opts.store, context := .new opts.context,
        stores := .new opts.store, flags := .new opts.flags, group := g } { instr := some e } := by
  refine ⟨fun r => ?_, fun _ => by simp, fun h => by simp at h, fun h => by simp at h,
    fun _ h => by simp [FiberBook.unwinding] at h⟩
  cases r <;> rfl

end FiberOk

namespace Steady

variable {w w' : Set Nat} {P : Nat → Option Pause} {h : Heap} {f : Nat} {p : Pause} {s : Suspension}

theorem updateBook (hs : Steady w' P h) (hw : ∀ g, g ≠ f → (g ∈ w' ↔ g ∈ w))
    (hf : f < h.data.fibers.size) {F : FiberBook → FiberBook}
    (hfit : Fits w P h.data f (F (h.book f)) (h.codeOf f)) : Steady w P (h.updateBook f F) :=
  hs.of_agree hw (by simp [hs.inv.sizes]) (fun _ _ hg => by simpa using hg)
    (fun g hg => by simp [Ne.symm hg]) (fun g _ => by simp) (fun _ => rfl)
    (by rw [Heap.book_updateBook_self _ hf, Heap.codeOf_updateBook]
        exact hfit.congr_data (by simp) fun _ => rfl)

theorem updateCode (hs : Steady w' P h) (hw : ∀ g, g ≠ f → (g ∈ w' ↔ g ∈ w))
    (hf : f < h.data.fibers.size) {G : FiberCode → FiberCode}
    (hfit : Fits w P h.data f (h.book f) (G (h.codeOf f))) : Steady w P (h.updateCode f G) :=
  hs.of_agree hw (by simp [hs.inv.sizes]) (fun _ _ hg => by simpa using hg) (fun g _ => by simp)
    (fun g hg => by simp [Ne.symm hg]) (fun _ => rfl) (by simpa [hf, hs.inv.sizes] using hfit)

theorem update (hs : Steady w' P h) (hw : ∀ g, g ≠ f → (g ∈ w' ↔ g ∈ w))
    (hf : f < h.data.fibers.size) {F : FiberBook → FiberBook} {G : FiberCode → FiberCode}
    (hfit : Fits w P h.data f (F (h.book f)) (G (h.codeOf f))) :
    Steady w P ((h.updateBook f F).updateCode f G) :=
  hs.of_agree hw (by simp [hs.inv.sizes]) (fun _ _ hg => by simpa using hg)
    (fun g hg => by simp [Ne.symm hg]) (fun g hg => by simp [Ne.symm hg]) (fun _ => rfl)
    (by rw [Heap.codeOf_updateCode_self _ (by simp [hs.inv.sizes, hf]), Heap.book_updateCode,
      Heap.book_updateBook_self _ hf]; exact hfit.congr_data (by simp) fun _ => rfl)

/-- A paused fiber is running. -/
theorem running_of_held (hs : Steady w P h) {p : Pause} (hp : P f = some p) :
    (h.book f).running = true := by
  have := hs.held f p hp
  cases p
  · exact this.1.1
  · exact this.1
  · exact this.1
  · exact this.1.1

theorem not_held (hs : Steady w P h) (hr : (h.book f).running = false) : P f = none := by
  cases hp : P f with
  | none => rfl
  | some p => simp [hs.running_of_held hp] at hr

theorem not_mem_of_running (hs : Steady w P h) (hr : (h.book f).running = true) : f ∉ w := by
  rw [← (hs.fits f).window]
  simp [FiberBook.inWindow, FiberBook.atRest, hr]

theorem started_of_running (hs : Steady w P h) (hr : (h.book f).running = true) :
    (h.book f).started = true :=
  (hs.fits f).ok.started_of_running hr

theorem lt_of_running (hs : Steady w P h) (hr : (h.book f).running = true) :
    f < h.data.fibers.size :=
  Heap.lt_of_started (hs.started_of_running hr)

/-- The head of the loop: the instruction is taken and a deliverable interruption claimed. -/
theorem loopHead (hs : Steady w P h) (hP : P f = none) (hr : (h.book f).running = true)
    (hsus : (h.book f).suspension = none) :
    Steady w P ((h.updateCode f fun c => { c with instr := none }).updateBook f
      (·.takeInterrupt.2)) := by
  rw [Heap.updateCode_updateBook]
  have hok := (hs.fits f).ok
  refine hs.update (fun _ _ => Iff.rfl) (hs.lt_of_running hr) (.of_ok
    ((hok.takeInstr (hok.started_of_running hr)).takeInterrupt rfl hsus)
    (by simpa using hs.started_of_running hr) (fun s hsusp => ?_) ?_ hP)
  · simp [hsus] at hsusp
  · simp [FiberBook.inWindow, FiberBook.atRest, hr, hs.not_mem_of_running hr]

theorem takeInstr (hs : Steady w P h) (hP : P f = none) (hr : (h.book f).running = true) :
    Steady w P (h.updateCode f fun c => { c with instr := none }) :=
  hs.updateCode (fun _ _ => Iff.rfl) (hs.lt_of_running hr) (.of_ok
    ((hs.fits f).ok.takeInstr (hs.started_of_running hr)) (hs.started_of_running hr)
    (hs.fits f).inert (hs.fits f).window hP)

theorem setInstr {e : Effect} (hs : Steady w P h) (hP : P f = none)
    (hb : (h.book f).Busy (h.codeOf f)) (hu : (h.book f).unwinding = true → e.isFailure = true) :
    Steady w P (h.updateCode f fun c => { c with instr := some e }) :=
  hs.updateCode (fun _ _ => Iff.rfl) (hs.lt_of_running hb.1) (.of_ok
    ((hs.fits f).ok.setInstr hb.2.1 (fun _ => hb.1) hu) (hs.started_of_running hb.1)
    (hs.fits f).inert (hs.fits f).window hP)

/-- Pausing a fiber inside its loop for a nested computation. -/
theorem hold (hs : Steady w P h) (hp : p.holds (h.book f) (h.codeOf f)) :
    Steady w (Function.update P f (some p)) h := by
  refine ⟨hs.inv, hs.windows, fun g q hq => ?_⟩
  by_cases hg : g = f
  · subst hg
    obtain rfl : p = q := by simpa using hq
    exact hp
  · rw [Function.update_of_ne hg] at hq
    exact hs.held g q hq

theorem unhold (hs : Steady w (Function.update P f (some p)) h) (hP : P f = none) :
    Steady w P h ∧ p.holds (h.book f) (h.codeOf f) := by
  refine ⟨⟨hs.inv, hs.windows, fun g q hq => ?_⟩, hs.held f p (by simp)⟩
  by_cases hg : g = f
  · subst hg; simp [hP] at hq
  · exact hs.held g q (by rwa [Function.update_of_ne hg])

theorem lt_code_of_running (hs : Steady w P h) (hr : (h.book f).running = true) :
    f < h.code.size :=
  hs.inv.sizes ▸ hs.lt_of_running hr

theorem dropFrame (hs : Steady w P h) (hP : P f = none) (hb : (h.book f).Busy (h.codeOf f))
    (hfr : ∀ fr ∈ (h.codeOf f).frames.head?, ∀ r, fr.restores r = false) :
    Steady w P (h.updateCode f fun c => { c with frames := c.frames.tail }) :=
  hs.updateCode (fun _ _ => Iff.rfl) (hs.lt_of_running hb.1) (.of_ok
    ((hs.fits f).ok.dropFrame hb.2.2.1 hfr) (hs.started_of_running hb.1) (hs.fits f).inert
    (hs.fits f).window hP)

/-- Popping a restore frame of a busy fiber with the override it restores. -/
theorem popRestore {r : Restore} (hs : Steady w P h) (hP : P f = none)
    (hb : (h.book f).Busy (h.codeOf f)) (hfr : (h.codeOf f).frames.head? = some (.restore r)) :
    Steady w P ((h.updateBook f (·.popScope r)).updateCode f fun c =>
      { c with frames := c.frames.tail }) := by
  refine hs.update (fun _ _ => Iff.rfl) (hs.lt_of_running hb.1) (.of_ok
    ((hs.fits f).ok.popRestore hb.2.2.1 hfr) (by simpa using hs.started_of_running hb.1)
    (fun s hsus => ?_) ?_ hP)
  · simp [hb.2.2.1] at hsus
  · simp [FiberBook.inWindow, FiberBook.atRest, hb.1, hs.not_mem_of_running hb.1]

/-- A busy fiber claims its interruption. -/
theorem claim (hs : Steady w P h) (hP : P f = none) (hb : (h.book f).Busy (h.codeOf f)) :
    Steady w P (h.updateBook f (·.takeInterrupt.2)) := by
  refine hs.updateBook (fun _ _ => Iff.rfl) (hs.lt_of_running hb.1) (.of_ok
    ((hs.fits f).ok.takeInterrupt hb.2.2.2 hb.2.2.1) (by simpa using hs.started_of_running hb.1)
    (fun s hsus => ?_) ?_ hP)
  · simp [hb.2.2.1] at hsus
  · simp [FiberBook.inWindow, FiberBook.atRest, hb.1, hs.not_mem_of_running hb.1]

theorem pushFrame (fr : Frame) (hs : Steady w P h) (hP : P f = none)
    (hb : (h.book f).Busy (h.codeOf f)) (hfr : ∀ r, fr.restores r = false) :
    Steady w P (h.updateCode f fun c => { c with frames := fr :: c.frames }) :=
  hs.updateCode (fun _ _ => Iff.rfl) (hs.lt_of_running hb.1) (.of_ok
    ((hs.fits f).ok.pushFrame hb.2.2.1 hfr) (hs.started_of_running hb.1) (hs.fits f).inert
    (hs.fits f).window hP)

/-- A busy fiber enters a scope of kind `r`. -/
theorem pushScope {r : Restore} {F : FiberBook → FiberBook} (hs : Steady w P h) (hP : P f = none)
    (hb : (h.book f).Busy (h.codeOf f))
    (hF : (F (h.book f)).started = (h.book f).started ∧ (F (h.book f)).running = (h.book f).running ∧
      (F (h.book f)).suspension = (h.book f).suspension ∧ (F (h.book f)).exit = (h.book f).exit ∧
      (F (h.book f)).unwinding = (h.book f).unwinding)
    (hd : ∀ r', (F (h.book f)).depthOf r' = (h.book f).depthOf r' + if r = r' then 1 else 0) :
    Steady w P ((h.updateBook f F).updateCode f fun c => { c with frames := .restore r :: c.frames }) := by
  have ⟨h1, h2, h3, h4, _⟩ := hF
  refine hs.update (fun _ _ => Iff.rfl) (hs.lt_of_running hb.1) (.of_ok
    ((hs.fits f).ok.pushScope hb.2.2.1 hF hd) (h1.trans (hs.started_of_running hb.1))
    (fun s hsus => ?_) ?_ hP)
  · rw [h3, hb.2.2.1] at hsus; cases hsus
  · rw [← (hs.fits f).window]
    simp [FiberBook.inWindow, FiberBook.atRest, h1, h2, h3, h4]

theorem recover (hs : Steady w P h) (hP : P f = none) (hb : (h.book f).Busy (h.codeOf f)) :
    Steady w P (h.updateBook f (·.recoverInterrupt)) := by
  refine hs.updateBook (fun _ _ => Iff.rfl) (hs.lt_of_running hb.1) (.of_ok (hs.fits f).ok.recover
    (by simpa using hs.started_of_running hb.1) (fun s hsus => ?_) ?_ hP)
  · simp [hb.2.2.1] at hsus
  · rw [FiberBook.inWindow_recoverInterrupt]; exact (hs.fits f).window

/-- A suspended fiber is paused by no one. -/
theorem not_held_of_suspended (hs : Steady w P h) (hsus : (h.book f).suspension = some s) :
    P f = none := by
  cases hp : P f with
  | none => rfl
  | some p =>
    have hh := hs.held f p hp
    have hx := (hs.fits f).ok.exit_of_suspended hsus
    cases p
    · simp [hh.1.2.2.1] at hsus
    · simp [hh.2.2.1] at hsus
    · simp [Pause.holds, hx] at hh
    · simp [hh.1.2.2.1] at hsus

theorem of_mem_window (hs : Steady w P h) (hfw : f ∈ w) :
    (h.book f).started = true ∧ (h.book f).running = false ∧ (h.book f).exit = none ∧
      (h.book f).suspension = none := by
  have := (hs.fits f).window.2 hfw
  simpa [FiberBook.inWindow, FiberBook.atRest, and_assoc] using this

/-- A fiber out of its loop whose bookkeeping changes into one in a window enters the windows. -/
theorem enterWindow (hs : Steady w P h) (hf : f < h.data.fibers.size)
    (hr : (h.book f).running = false) {F : FiberBook → FiberBook}
    (hok : FiberOk (F (h.book f)) (h.codeOf f)) (hwin : (F (h.book f)).inWindow = true) :
    Steady (insert f w) P (h.updateBook f F) := by
  have hst : (F (h.book f)).started = true := by
    simp only [FiberBook.inWindow, FiberBook.atRest, Bool.and_eq_true] at hwin
    exact hwin.1.1.1
  refine hs.updateBook (fun g hg => by simp [hg]) hf (.of_ok hok hst (fun s hsus => ?_)
    (by simp [hwin]) (hs.not_held hr))
  simp [FiberBook.inWindow, hsus] at hwin

/-- A suspended fiber out of its loop leaves its future into a window. -/
theorem leave (hs : Steady w P h) (hsus : (h.book f).suspension = some s)
    (hr : (h.book f).running = false) :
    Steady (insert f w) P (h.updateBook f fun b => { b with suspension := none }) := by
  have hok := (hs.fits f).ok
  have hst := hok.started_of_suspended hsus
  refine hs.enterWindow (Heap.lt_of_started hst) hr hok.leave ?_
  simp [FiberBook.inWindow, FiberBook.atRest, hst, hr, hok.exit_of_suspended hsus]

theorem request {x : Cause Json} (hs : Steady w P h)
    (hw : (h.book f).suspension.isSome → (h.book f).running = false →
      ({ h.book f with interruptCause := (h.book f).interruptCause.combine x } : FiberBook).interruptsNow
        = false) :
    Steady w P (h.updateBook f fun b => { b with interruptCause := b.interruptCause.combine x }) := by
  rcases Nat.lt_or_ge f h.data.fibers.size with hf | hf
  · have hfit := hs.fits f
    refine hs.updateBook (fun _ _ => Iff.rfl) hf ⟨hfit.ok.request hw, hfit.inert, hfit.window,
      fun p hp => ?_, hfit.ready⟩
    -- a pause reads the interruption cause only to know it is not empty, which a request keeps
    have := hfit.held p hp
    cases p
    case asked => exact ⟨this.1, this.2.1, by simp [this.2.2]⟩
    all_goals exact this
  · rw [Heap.updateBook_of_le _ hf]
    exact hs

theorem beginUnwinding (hs : Steady w P h) (hfw : f ∈ w) (hc : (h.codeOf f).instr = none) :
    Steady w P (h.updateBook f fun b => { b with interrupting := true }) := by
  have hfit := hs.fits f
  obtain ⟨hst, hr, -, hsus⟩ := hs.of_mem_window hfw
  exact hs.updateBook (fun _ _ => Iff.rfl) (Heap.lt_of_started hst) (.of_ok
    (hfit.ok.beginUnwinding hsus hc) hst (fun _ h => by simp [hsus] at h) hfit.window (hs.not_held hr))

/-- A suspended fiber inside its loop leaves its future. -/
theorem leaveRunning (hs : Steady w P h) (hsus : (h.book f).suspension = some s)
    (hr : (h.book f).running = true) :
    Steady w P (h.updateBook f fun b => { b with suspension := none }) := by
  have hok := (hs.fits f).ok
  have hst := hok.started_of_suspended hsus
  refine hs.updateBook (fun _ _ => Iff.rfl) (Heap.lt_of_started hst)
    (.of_ok hok.leave hst (fun _ h => by cases h) ?_ (hs.not_held_of_suspended hsus))
  simp [FiberBook.inWindow, FiberBook.atRest, hr, hs.not_mem_of_running hr]

theorem setInstrAt {e : Effect} (hs : Steady w P h) (hP : P f = none)
    (hst : (h.book f).started = true) (hx : (h.book f).exit = none)
    (hsus : (h.book f).suspension = none) (hu : (h.book f).unwinding = true → e.isFailure = true) :
    Steady w P (h.updateCode f fun c => { c with instr := some e }) :=
  hs.updateCode (fun _ _ => Iff.rfl) (Heap.lt_of_started hst) (.of_ok
    ((hs.fits f).ok.setInstr hx (by simp [hsus]) hu) hst (hs.fits f).inert (hs.fits f).window hP)

theorem pushFuture (hs : Steady w P h) (x : Option Effect) (b : FutureBook) :
    Steady w P { h with
      futures := h.futures.push x, data := { h.data with futures := h.data.futures.push b } } :=
  (hs.setData (d := { h.data with futures := h.data.futures.push b }) (.of_eq rfl rfl)).of_data_code
    rfl rfl

/-- A new fiber, not started, joins the heap at the end, in no window and paused by no one. -/
theorem pushFiber {b : FiberBook} {c : FiberCode} (hs : Steady w P h) (hok : FiberOk b c)
    (hst : b.started = false) (hi : c.instr.isSome) :
    Steady w P { h with
      data := { h.data with fibers := h.data.fibers.push b }, code := h.code.push c } := by
  have hsz := hs.inv.sizes
  -- the slot of the new fiber held the bookkeeping of no started fiber
  have hold : (h.book h.data.fibers.size).started = false :=
    Bool.eq_false_iff.2 fun h' => Nat.lt_irrefl _ (Heap.lt_of_started h')
  obtain ⟨hr, hsus, -⟩ := hok.fresh hst
  refine hs.of_agree (f := h.data.fibers.size) (fun _ _ => Iff.rfl) (by simp [hsz])
    (fun g hg hlt => by simp at hlt; omega)
    (fun g hg => by simp [Heap.book, Data.fiber, Array.getElem?_push, hg])
    (fun g hg => by simp [Heap.codeOf, Array.getElem?_push, hsz, hg]) (fun _ => rfl) ?_
  have hb : (h.data.fibers.push b)[h.data.fibers.size]? = some b := Array.getElem?_push_size
  have hc : (h.code.push c)[h.data.fibers.size]? = some c := hsz ▸ Array.getElem?_push_size
  show Fits w P _ _ ((h.data.fibers.push b)[h.data.fibers.size]?.getD default)
    ((h.code.push c)[h.data.fibers.size]?.getD {})
  rw [hb, hc]
  refine ⟨hok, fun s h => by simp [hsus] at h, ?_, fun p hp => ?_, fun _ _ => hi⟩
  · rw [← (hs.fits _).window]
    simp [FiberBook.inWindow, FiberBook.atRest, hst, hold]
  · simp [hs.not_held ((hs.fits _).ok.fresh hold).1] at hp

end Steady

end FiberEffects
