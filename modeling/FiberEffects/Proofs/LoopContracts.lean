import FiberEffects.Proofs.FiberSteps
import FiberEffects.Proofs.InertDisposal

open Std.Do

set_option mvcgen.warning false

namespace FiberEffects

namespace FiberBook

def Stepping (b : FiberBook) (c : FiberCode) (e : Effect) : Prop :=
  b.Busy c ∧ (e.isFailure = true ∨ (b.unwinding = false ∧ b.interruptsNow = false))

theorem Stepping.calm {b : FiberBook} {c : FiberCode} {e : Effect} (hst : b.Stepping c e)
    (hne : ∀ x, e.instr ≠ .fail x) : Pause.calm.holds b c ∧ b.interruptsNow = false := by
  rcases hst.2 with hf | hq
  · obtain ⟨x, hx⟩ := Effect.instr_of_isFailure hf
    exact absurd hx (hne x)
  · exact ⟨⟨hst.1, hq.1⟩, hq.2⟩

end FiberBook

def Outcome.holds : Outcome → FiberBook → FiberCode → Prop
  | .next _, b, c => b.Busy c ∧ b.unwinding = false
  | .suspend, b, c => b.running = true ∧ b.exit = none ∧ c.instr = none ∧ b.suspension.isSome ∧
      b.interruptsNow = false
  | .done _, b, c => b.Busy c ∧ c.frames = []

namespace FiberOk

variable {b : FiberBook} {c : FiberCode}

theorem stepping_loopHead {e : Effect} (hok : FiberOk b c) (hc : c.instr = some e)
    (hr : b.running = true) (hx : b.exit = none) (hsus : b.suspension = none) :
    (∀ x, b.takeInterrupt.1 = some x →
      b.takeInterrupt.2.Stepping { c with instr := none } (Effect.failCause x)) ∧
    (b.takeInterrupt.1 = none → b.takeInterrupt.2.Stepping { c with instr := none } e) := by
  unfold FiberBook.takeInterrupt
  split
  · exact ⟨fun _ _ => ⟨⟨hr, hx, hsus, rfl⟩, .inl rfl⟩, fun h => by simp at h⟩
  · rename_i hnow
    refine ⟨fun _ h => by simp at h, fun _ => ⟨⟨hr, hx, hsus, rfl⟩, ?_⟩⟩
    cases hu : b.unwinding
    · exact .inr ⟨rfl, by simpa using hnow⟩
    · have := (hok.unwinding hx hu).2
      rw [hc] at this
      exact .inl (by simpa using this)

end FiberOk

def InLoop {α : Type} (m : Machine α) (f : Nat) (pre : FiberBook → FiberCode → Prop)
    (post : α → FiberBook → FiberCode → Prop) (fault : FiberBook → FiberCode → Prop) : Prop :=
  ∀ w P, ⦃fun h => ⌜P f = none ∧ Steady w P h ∧ pre (h.book f) (h.codeOf f)⌝⦄ m
    ⦃post⟨fun a h => ⌜Steady w P h ∧ post a (h.book f) (h.codeOf f)⌝,
      fun e h => ⌜e.Leaves (fun h => Steady w P h ∧ fault (h.book f) (h.codeOf f)) h⌝⟩⦄

namespace Machine

variable {n f : Nat}

theorem runLoop_succ
    (hturns : InLoop (turns n f) f (fun b c => b.running = true ∧ b.Live c)
      (fun _ b c => b.running = true ∧ b.Rests c) (fun b _ => b.running = true))
    (w : Set Nat) (P : Nat → Option Pause) (hfw : f ∉ w) :
    ⦃fun h => ⌜Steady (insert f w) P h ∧ (h.codeOf f).instr.isSome⌝⦄ runLoop (n + 1) f
    ⦃post⟨fun _ h => ⌜Steady w P h⌝, fun e h => ⌜e.Leaves (Steady w P) h⌝⟩⦄ := by
  have ht := hturns w P
  rw [runLoop]
  mvcgen [ht] with
  | vc1 h hpre hbusy =>
    have hwin := (hpre.1.fits f).window.2 (Set.mem_insert f w)
    simp [FiberBook.inWindow, FiberBook.atRest] at hwin
    simp [hwin] at hbusy
  | vc2 h hpre hidle =>
    obtain ⟨hs, hinstr⟩ := hpre
    have hwin := (hs.fits f).window.2 (Set.mem_insert f w)
    simp only [FiberBook.inWindow, FiberBook.atRest, Bool.and_eq_true, Bool.not_eq_true',
      Option.isNone_iff_eq_none] at hwin
    obtain ⟨⟨⟨hst, hr⟩, hx⟩, hsus⟩ := hwin
    have hf := Heap.lt_of_started hst
    have hP := hs.not_held hr
    refine ⟨hP, hs.updateBook (fun g hg => by simp [hg]) hf (.of_ok ((hs.fits f).ok.run hst) hst
      (fun s h => by simp [hsus] at h) (by simp [FiberBook.inWindow, FiberBook.atRest, hfw]) hP), ?_, ?_⟩
    · simp [hf]
    · left; simp [hf, hinstr, hsus, hx]
  | vc3 h₀ hpre hidle _ h hpost =>
    obtain ⟨hs, hr, hinstr, hrest⟩ := hpost
    have hP : P f = none := by
      have hwin := (hpre.1.fits f).window.2 (Set.mem_insert f w)
      simp [FiberBook.inWindow, FiberBook.atRest] at hwin
      exact hpre.1.not_held hwin.1.1.2
    have hok := (hs.fits f).ok
    have hf := Heap.lt_of_started (hok.started_of_running hr)
    refine hs.updateBook (fun _ _ => Iff.rfl) hf (.of_ok (hok.stop fun hsus => ?_)
      (hok.started_of_running hr) (fun s h => (hs.fits f).inert s h) ?_ hP)
    · rcases hrest with hx | ⟨_, hnow⟩
      · simp [(hok.done hx).1] at hsus
      · exact ⟨hnow, hinstr⟩
    · rcases hrest with hx | ⟨hsus, _⟩
      · simp [FiberBook.inWindow, FiberBook.atRest, Option.isSome_iff_ne_none.1 hx, hfw]
      · simp [FiberBook.inWindow, FiberBook.atRest, Option.isSome_iff_ne_none.1 hsus, hfw]
  | vc4 => exact fun he => he.mono fun _ h => h.1

theorem turns_succ
    (hstep : ∀ e, InLoop (step n f e) f (fun b c => b.Stepping c e) Outcome.holds
      Pause.busy.holds)
    (hdone : ∀ x, InLoop (done n f x) f (fun b c => b.Busy c ∧ c.frames = [])
      (fun _ b c => b.running = true ∧ b.Live c) (fun b _ => b.running = true))
    (hturns : InLoop (turns n f) f (fun b c => b.running = true ∧ b.Live c)
      (fun _ b c => b.running = true ∧ b.Rests c) (fun b _ => b.running = true)) :
    InLoop (turns (n + 1) f) f (fun b c => b.running = true ∧ b.Live c)
      (fun _ b c => b.running = true ∧ b.Rests c) (fun b _ => b.running = true) := by
  intro w P
  have hs := fun e => hstep e w P
  have hd := fun x => hdone x w P
  have ht := hturns w P
  rw [turns]
  mvcgen [hs, hd, ht] with
  | vc1 h hpre hc =>
    obtain ⟨hP, hs, hr, hlive⟩ := hpre
    have hrest : (h.book f).Rests (h.codeOf f) := by
      rcases hlive with ⟨hi, -⟩ | hrest
      · simp [hc] at hi
      · exact hrest
    have hf := hs.lt_of_running hr
    exact ⟨hs.takeInstr hP hr, by simpa using hr, by simpa [hf, hs.inv.sizes, FiberBook.Rests] using hrest.2⟩
  | vc2 h hpre e hc =>
    obtain ⟨hP, hs, hr, hlive⟩ := hpre
    obtain ⟨-, hsus, hx⟩ : (h.codeOf f).instr.isSome ∧ (h.book f).suspension = none ∧
        (h.book f).exit = none := by
      rcases hlive with hl | ⟨hi, -⟩
      · exact hl
      · simp [hc] at hi
    have hf := hs.lt_of_running hr
    refine ⟨hP, hs.loopHead hP hr hsus, ?_⟩
    have hhead := (hs.fits f).ok.stepping_loopHead hc hr hx hsus
    have hfc : f < h.code.size := hs.inv.sizes ▸ hf
    simp only [Heap.updateCode_updateBook, Heap.book_updateCode, Heap.book_updateBook_self _ hf]
    rw [Heap.codeOf_updateCode_self _ (by simpa using hfc), Heap.codeOf_updateBook]
    split
    · exact hhead.1 _ ‹_›
    · exact hhead.2 ‹_›
  | vc3 h₀ hpre _ _ o _ e ho h hpost =>
    obtain ⟨⟨hr, hx, hsus, hi⟩, hu⟩ := hpost.2
    refine ⟨hpre.1, hpost.1.setInstr hpre.1 ⟨hr, hx, hsus, hi⟩ (by simp [hu]), by simpa using hr, ?_⟩
    left
    simp [hpost.1.lt_of_running hr, hpost.1.inv.sizes, hsus, hx]
  | vc4 h₀ hpre _ _ o _ ho h hpost =>
    obtain ⟨hr, hx, hi, hsus, hnow⟩ := hpost.2
    exact ⟨hpre.1, hpost.1, hr, .inr ⟨hi, .inr ⟨hsus, hnow⟩⟩⟩
  | vc5 h₀ hpre _ _ o _ x ho h hpost => exact ⟨hpre.1, hpost⟩
  | vc6 h₀ hpre _ _ o _ x ho h₁ _ _ h hpost => exact ⟨hpre.1, hpost⟩
  | vc7 h₀ hpre _ _ e m he h hpost _ =>
    obtain ⟨hs, hb⟩ := hpost
    refine ⟨hpre.1, hs.setInstr hpre.1 hb (fun _ => rfl), by simpa using hb.1, ?_⟩
    left
    simp [hs.lt_of_running hb.1, hs.inv.sizes, hb.2.2.1, hb.2.1]

theorem continueWith_succ (v : Val)
    (hrun : ∀ q : Cmd Val, Keeps (runCmd n q)) (hrunE : ∀ q : Cmd Effect, Keeps (runCmd n q))
    (hcw : ∀ v, InLoop (continueWith n f v) f Pause.calm.holds Outcome.holds Pause.busy.holds)
    (hcc : ∀ c, InLoop (continueWithCause n f c) f Pause.busy.holds Outcome.holds
      Pause.busy.holds) :
    InLoop (continueWith (n + 1) f v) f Pause.calm.holds Outcome.holds Pause.busy.holds := by
  intro w P
  have hr := fun q => hrun q w (Function.update P f (some .calm))
  have hre := fun q => hrunE q w (Function.update P f (some .calm))
  have hv := fun v => hcw v w P
  have hc := fun c => hcc c w P
  rw [continueWith]
  mvcgen [hr, hre, hv, hc] with
  | vc1 h hpre hfr =>
    obtain ⟨hP, hs, hcalm⟩ := hpre
    have hnil : (h.codeOf f).frames = [] := List.head?_eq_none_iff.1 hfr
    refine ⟨hs.dropFrame hP hcalm.1 (by simp [hfr]), ?_⟩
    simpa [hs.lt_code_of_running hcalm.1.1, hnil, Outcome.holds, FiberBook.Busy] using hcalm.1
  | vc2 h hpre g hfr | vc5 h hpre g hfr | vc8 h hpre _ g hfr =>
    obtain ⟨hP, hs, hcalm⟩ := hpre
    refine (hs.dropFrame hP hcalm.1 (by simp [hfr, Frame.restores])).hold ?_
    simpa [hs.lt_code_of_running hcalm.1.1] using hcalm
  | vc3 h₀ hpre _ hfr _ h hpost => exact ⟨hpre.1, hpost.unhold hpre.1⟩
  | vc6 h₀ hpre _ hfr e h | vc9 h₀ hpre _ _ hfr e h =>
    exact fun hpost => hpost.unhold hpre.1
  | vc4 h₀ hpre _ _ e h | vc7 h₀ hpre _ _ e h | vc10 h₀ hpre _ _ _ e h =>
    exact fun he => he.mono fun h hh => ⟨(hh.unhold hpre.1).1, (hh.unhold hpre.1).2.1⟩
  | vc11 h hpre hfr x hx =>
    obtain ⟨hP, hs, hcalm⟩ := hpre
    have hd := hs.dropFrame hP hcalm.1 (by simp [hfr, Frame.restores])
    refine ⟨hP, hd.claim hP ?_, ?_⟩
    · simpa [hs.lt_code_of_running hcalm.1.1, FiberBook.Busy] using hcalm.1
    · simpa [hs.lt_code_of_running hcalm.1.1, hs.lt_of_running hcalm.1.1, FiberBook.Busy, Pause.holds]
        using hcalm.1
  | vc12 h hpre hfr hx =>
    obtain ⟨hP, hs, hcalm⟩ := hpre
    have hd := hs.dropFrame hP hcalm.1 (by simp [hfr, Frame.restores])
    simp only [Heap.book_updateCode] at hx
    rw [Heap.updateBook_eq_self (by simpa using FiberBook.takeInterrupt_of_none hx)]
    refine ⟨hP, hd, ?_⟩
    simpa [hs.lt_code_of_running hcalm.1.1] using hcalm
  | vc13 h hpre r hfr =>
    obtain ⟨hP, hs, hcalm⟩ := hpre
    refine ⟨hP, by simpa using hs.popRestore hP hcalm.1 hfr, ?_⟩
    simpa [hs.lt_code_of_running hcalm.1.1, hs.lt_of_running hcalm.1.1, FiberBook.Busy, Pause.holds]
      using hcalm
  | vc14 h hpre g hfr | vc15 h hpre g hfr =>
    obtain ⟨hP, hs, hcalm⟩ := hpre
    refine ⟨hP, hs.dropFrame hP hcalm.1 (by simp [hfr, Frame.restores]), ?_⟩
    simpa [hs.lt_code_of_running hcalm.1.1] using hcalm

theorem continueWithCause_succ (c : Cause Json)
    (hrunC : ∀ q : Cmd (Cause Json), Keeps (runCmd n q)) (hrunE : ∀ q : Cmd Effect, Keeps (runCmd n q))
    (hcc : ∀ c, InLoop (continueWithCause n f c) f Pause.busy.holds Outcome.holds
      Pause.busy.holds) :
    InLoop (continueWithCause (n + 1) f c) f Pause.busy.holds Outcome.holds Pause.busy.holds := by
  intro w P
  have hr := fun q => hrunC q w (Function.update P f (some .busy))
  have hre := fun q => hrunE q w (Function.update P f (some .calm))
  have hc := fun c => hcc c w P
  rw [continueWithCause]
  mvcgen [hr, hre, hc] with
  | vc1 h hpre hfr =>
    obtain ⟨hP, hs, hb⟩ := hpre
    have hnil : (h.codeOf f).frames = [] := List.head?_eq_none_iff.1 hfr
    refine ⟨hs.dropFrame hP hb (by simp [hfr]), ?_⟩
    simpa [hs.lt_code_of_running hb.1, hnil, Outcome.holds, FiberBook.Busy, Pause.holds] using hb
  | vc2 h hpre g hfr =>
    obtain ⟨hP, hs, hb⟩ := hpre
    refine (hs.dropFrame hP hb (by simp [hfr, Frame.restores])).hold ?_
    simpa [hs.lt_code_of_running hb.1] using hb
  | vc3 h₀ hpre _ hfr _ h hpost => exact ⟨hpre.1, hpost.unhold hpre.1⟩
  | vc4 h₀ hpre _ _ e h => exact fun he => he.mono fun h hh => hh.unhold hpre.1
  | vc5 h hpre g hfr | vc8 h hpre g _ hfr =>
    obtain ⟨hP, hs, hb⟩ := hpre
    have hfc := hs.lt_code_of_running hb.1
    have hd := hs.dropFrame hP hb (by simp [hfr, Frame.restores])
    refine (hd.recover hP (by simpa [hfc, FiberBook.Busy, Pause.holds] using hb)).hold ?_
    simpa [hfc, hs.lt_of_running hb.1, FiberBook.Busy, Pause.holds] using hb
  | vc6 h₀ hpre _ hfr e h | vc9 h₀ hpre _ _ hfr e h =>
    exact fun hpost => hpost.unhold hpre.1
  | vc7 h₀ hpre _ _ e h | vc10 h₀ hpre _ _ _ e h =>
    exact fun he => he.mono fun h hh => ⟨(hh.unhold hpre.1).1, (hh.unhold hpre.1).2.1⟩
  | vc11 h hpre hfr x hx =>
    obtain ⟨hP, hs, hb⟩ := hpre
    have hfc := hs.lt_code_of_running hb.1
    refine ⟨hP, (hs.dropFrame hP hb (by simp [hfr, Frame.restores])).claim hP ?_, ?_⟩
    · simpa [hfc, FiberBook.Busy, Pause.holds] using hb
    · simpa [hfc, hs.lt_of_running hb.1, FiberBook.Busy, Pause.holds] using hb
  | vc12 h hpre hfr hx =>
    obtain ⟨hP, hs, hb⟩ := hpre
    simp only [Heap.book_updateCode] at hx
    rw [Heap.updateBook_eq_self (by simpa using FiberBook.takeInterrupt_of_none hx)]
    refine ⟨hP, hs.dropFrame hP hb (by simp [hfr, Frame.restores]), ?_⟩
    simpa [hs.lt_code_of_running hb.1] using hb
  | vc13 h hpre r hfr =>
    obtain ⟨hP, hs, hb⟩ := hpre
    refine ⟨hP, by simpa using hs.popRestore hP hb hfr, ?_⟩
    simpa [hs.lt_code_of_running hb.1, hs.lt_of_running hb.1, FiberBook.Busy, Pause.holds] using hb
  | vc14 h hpre g hfr | vc15 h hpre g hfr =>
    obtain ⟨hP, hs, hb⟩ := hpre
    refine ⟨hP, hs.dropFrame hP hb (by simp [hfr, Frame.restores]), ?_⟩
    simpa [hs.lt_code_of_running hb.1] using hb

theorem pushFlags_inLoop (fl : Flags) :
    InLoop (pushFlags f fl) f Pause.calm.holds (fun _ => Pause.calm.holds) Pause.busy.holds := by
  intro w P
  mvcgen [pushFlags] with
  | vc1 h hpre _ _ =>
    obtain ⟨hP, hs, hcalm⟩ := hpre
    have hf := hs.lt_of_running hcalm.1.1
    have hfc := hs.lt_code_of_running hcalm.1.1
    have hi := hs.pushFrame .interrupt hP hcalm.1 (by simp [Frame.restores])
    refine ⟨hi.pushScope hP (by simpa [hfc, FiberBook.Busy] using hcalm.1) ⟨rfl, rfl, rfl, rfl, rfl⟩
      (fun r => by cases r <;> simp [FiberBook.depthOf]), ?_⟩
    simpa [hf, hfc, FiberBook.Busy, Pause.holds, FiberBook.unwinding] using hcalm
  | vc2 h hpre _ _ =>
    obtain ⟨hP, hs, hcalm⟩ := hpre
    have hf := hs.lt_of_running hcalm.1.1
    have hfc := hs.lt_code_of_running hcalm.1.1
    refine ⟨hs.pushScope hP hcalm.1 ⟨rfl, rfl, rfl, rfl, rfl⟩
      (fun r => by cases r <;> simp [FiberBook.depthOf]), ?_⟩
    simpa [hf, hfc, FiberBook.Busy, Pause.holds, FiberBook.unwinding] using hcalm

theorem step_succ (e : Effect)
    (hrun : ∀ {β : Type} (q : Cmd β), Keeps (runCmd n q))
    (hcw : ∀ v, InLoop (continueWith n f v) f Pause.calm.holds Outcome.holds Pause.busy.holds)
    (hcc : ∀ c, InLoop (continueWithCause n f c) f Pause.busy.holds Outcome.holds
      Pause.busy.holds)
    (hsus : ∀ k, InLoop (suspendOn n f k) f (fun b c => Pause.calm.holds b c ∧ b.interruptsNow = false)
      Outcome.holds Pause.busy.holds) :
    InLoop (step (n + 1) f e) f (fun b c => b.Stepping c e) Outcome.holds Pause.busy.holds := by
  intro w P
  have hrS := fun q : Cmd SyncOutcome => hrun q w (Function.update P f (some .calm))
  have hrE := fun q : Cmd Effect => hrun q w (Function.update P f (some .calm))
  have hv := fun v => hcw v w P
  have hc := fun c => hcc c w P
  have hk := fun k => hsus k w P
  have hpf := fun fl => pushFlags_inLoop (f := f) fl w P
  rw [step]
  mvcgen [hrS, hrE, hv, hc, hk, hpf] with
  | vc1 _ heq h hpre | vc28 heq h hpre | vc29 heq h hpre | vc31 heq h hpre | vc32 heq h hpre
    | vc26 _ _ heq h hpre | vc27 _ _ heq h hpre =>
    exact ⟨hpre.1, hpre.2.1, (hpre.2.2.calm (by simp [heq])).1⟩
  | vc2 _ heq h hpre => exact ⟨hpre.1, hpre.2.1, hpre.2.2.1⟩
  | vc25 _ heq h hpre => exact ⟨hpre.1, hpre.2.1, hpre.2.2.calm (by simp [heq])⟩
  | vc3 _ heq h hpre | vc8 _ heq h hpre | vc21 _ heq h hpre | vc12 _ _ heq h hpre _ _ =>
    exact hpre.2.1.hold (hpre.2.2.calm (by simp [heq])).1
  | vc4 _ _ h₀ hpre _ _ _ h hpost => exact ⟨hpre.1, hpost.unhold hpre.1⟩
  | vc5 _ _ h₀ hpre _ _ _ h hpost | vc6 _ _ h₀ hpre _ _ _ h hpost =>
    exact ⟨hpre.1, (hpost.unhold hpre.1).1, (hpost.unhold hpre.1).2.1⟩
  | vc9 _ _ h₀ hpre _ h | vc22 _ _ h₀ hpre _ h | vc13 _ _ _ h₀ hpre _ _ _ h =>
    exact fun hpost => hpost.unhold hpre.1
  | vc7 _ _ h₀ hpre _ h | vc10 _ _ h₀ hpre _ h | vc23 _ _ h₀ hpre _ h
    | vc14 _ _ _ h₀ hpre _ _ _ h =>
    exact fun he => he.mono fun h hh => ⟨(hh.unhold hpre.1).1, (hh.unhold hpre.1).2.1⟩
  | vc11 _ heq h hpre | vc15 _ _ heq h hpre _ =>
    exact ⟨hpre.2.1, (hpre.2.2.calm (by simp [heq])).1⟩
  | vc16 _ _ heq h hpre | vc17 _ _ heq h hpre | vc18 _ _ heq h hpre | vc19 _ _ heq h hpre
    | vc20 _ _ _ heq h hpre =>
    obtain ⟨hP, hs, hst⟩ := hpre
    have hcalm := (hst.calm (by simp [heq])).1
    refine ⟨hs.pushFrame _ hP hcalm.1 (by simp [Frame.restores]), ?_⟩
    simpa [hs.lt_code_of_running hcalm.1.1, Outcome.holds, Pause.holds, FiberBook.Busy] using hcalm
  | vc24 _ _ heq h hpre | vc30 _ _ heq h hpre =>
    obtain ⟨hP, hs, hst⟩ := hpre
    have hcalm := (hst.calm (by simp [heq])).1
    refine ⟨hs.pushScope hP hcalm.1 ⟨rfl, rfl, rfl, rfl, rfl⟩
      (fun r => by cases r <;> simp [FiberBook.depthOf]), ?_⟩
    simpa [hs.lt_of_running hcalm.1.1, hs.lt_code_of_running hcalm.1.1, FiberBook.Busy,
      Pause.holds, Outcome.holds, FiberBook.unwinding] using hcalm

theorem suspendOn_inLoop (f k : Nat) :
    InLoop (suspendOn n f k) f (fun b c => Pause.calm.holds b c ∧ b.interruptsNow = false)
      Outcome.holds Pause.busy.holds := by
  intro w P
  cases n with
  | zero => rw [suspendOn]; mvcgen
  | succ n =>
    have hQ := TameStable.steady (w := w) (P := P) (f := f)
      (R := fun b c => Pause.calm.holds b c ∧ b.interruptsNow = false)
      fun b b' c hb hr =>
        ⟨Pause.holds_of_core_eq hb hr.1, (FiberBook.interruptsNow_of_core_eq hb).trans hr.2⟩
    have hg := fun g m => groupAdd_quiet (n := n) hQ g m
    rw [suspendOn]
    mvcgen [hg] with
    | vc1 h hpre _ _ => exact ⟨hpre.2.1, hpre.2.2.1⟩
    | vc2 h hpre _ _ _ =>
      have h1 := Data.tame_addWatcher (d := h.data) k (.resume f)
      have h2 := Data.tame_newDisposable (d := (h.data.addWatcher k (.resume f)).2)
        (some (.unwatch (h.data.addWatcher k (.resume f)).1))
      exact ⟨hQ _ _ (hQ h _ hpre.2 h1) (by simpa using h2),
        by simp [Data.inert_newDisposable, Release.quiet]⟩
    | vc3 h₀ hpre _ _ _ link h hpost =>
      obtain ⟨⟨hs, hcalm, hnow⟩, hlink, hsub⟩ := hpost
      have hr := hcalm.1.1
      have hf := hs.lt_of_running hr
      refine ⟨hs.updateBook (fun _ _ => Iff.rfl) hf (.of_ok
        ((hs.fits f).ok.suspend hr hcalm.1.2.1 hcalm.2) (hs.started_of_running hr)
        (fun s hsus => ?_) ?_ hpre.1), ?_⟩
      · cases hsus
        exact ⟨hsub, hlink⟩
      · simp [FiberBook.inWindow, FiberBook.atRest, hr, hs.not_mem_of_running hr]
      · simp only [Heap.book_updateBook_same, hf, if_true, Heap.codeOf_updateBook]
        exact ⟨hr, hcalm.1.2.1, hcalm.1.2.2.2, rfl, hnow⟩
    | vc4 => exact fun he => he.mono fun _ h => h.elim

theorem complete_succ (x : Exit) (hdisp : ∀ ks, Keeps (disposeAll n ks))
    (hcall : ∀ ks v, Keeps (callAll n ks v)) :
    InLoop (complete (n + 1) f x) f (fun b c => b.Busy c ∧ c.frames = [])
      (fun _ b c => b.running = true ∧ b.Live c) (fun b _ => b.running = true) := by
  intro w P
  have hd := fun ks => hdisp ks w (Function.update P f (some .closing))
  have hc := fun ks v => hcall ks v w (Function.update P f (some .closing))
  rw [complete]
  mvcgen [hd, hc] with
  | vc1 h hpre hx => simp [hpre.2.2.1.2.1] at hx
  | vc2 h hpre _ =>
    obtain ⟨hP, hs, hb, hfr⟩ := hpre
    have hf := hs.lt_of_running hb.1
    refine Steady.setData (Steady.hold ?_ ?_) (Data.tame_groupTake _)
    · rw [Heap.updateCode_updateBook]
      exact hs.update (fun _ _ => Iff.rfl) hf (.of_ok ((hs.fits f).ok.complete hb.1 hfr)
        (hs.started_of_running hb.1) (fun s hsus => by cases hsus) (by simp [FiberBook.inWindow, FiberBook.atRest,
          hs.not_mem_of_running hb.1]) hP)
    · simp [hf, Pause.holds, hb.1]
  | vc3 h₀ _ _ _ h hpost => exact hpost.setData (Data.tame_takeObservers f)
  | vc4 h₀ hpre _ _ _ _ _ h =>
    intro hpost
    obtain ⟨hs, hr, hx⟩ := hpost.unhold hpre.1
    exact ⟨hs, hr, .inr ⟨((hs.fits f).ok.done hx).2, .inl hx⟩⟩
  | vc5 h₀ hpre _ _ _ _ _ h | vc6 h₀ hpre _ _ h =>
    exact fun he => he.mono fun h hh => ⟨(hh.unhold hpre.1).1, (hh.unhold hpre.1).2.1⟩

theorem done_succ (x : Exit)
    (hcomp : ∀ x, InLoop (complete n f x) f (fun b c => b.Busy c ∧ c.frames = [])
      (fun _ b c => b.running = true ∧ b.Live c) (fun b _ => b.running = true)) :
    InLoop (done (n + 1) f x) f (fun b c => b.Busy c ∧ c.frames = [])
      (fun _ b c => b.running = true ∧ b.Live c) (fun b _ => b.running = true) := by
  intro w P
  have hc := fun x => hcomp x w P
  rw [done]
  mvcgen [hc] with
  | vc1 h hpre _ _ =>
    obtain ⟨hP, hs, hb, hfr⟩ := hpre
    have hf := hs.lt_of_running hb.1
    refine ⟨hP, hs.updateBook (fun _ _ => Iff.rfl) hf (.of_ok (hs.fits f).ok.unpend
      (hs.started_of_running hb.1) (hs.fits f).inert (hs.fits f).window hP), ?_⟩
    simpa [hf, FiberBook.Busy] using And.intro hb hfr
  | vc3 h hpre _ _ =>
    obtain ⟨hP, hs, hb, hfr⟩ := hpre
    have hf := hs.lt_of_running hb.1
    have hok := (hs.fits f).ok.finalize (x := x)
    refine ⟨hs.update (fun _ _ => Iff.rfl) hf (.of_ok (hok.setInstr hb.2.1 (fun _ => hb.1)
      (fun hu => by simp [FiberBook.unwinding] at hu)) (hs.started_of_running hb.1)
      (fun s hsus => ?_) (hs.fits f).window hP), ?_⟩
    · simp [hb.2.2.1] at hsus
    · simp [hf, hs.lt_code_of_running hb.1, FiberBook.Live, hb.1, hb.2.1, hb.2.2.1]

end Machine

end FiberEffects
