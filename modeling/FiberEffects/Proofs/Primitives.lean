import FiberEffects.Fiber.Machine
import Mathlib

open Std.Do

set_option mvcgen.warning false

namespace FiberEffects

namespace Heap

def book (h : Heap) (f : Nat) : FiberBook := h.data.fiber f

def codeOf (h : Heap) (f : Nat) : FiberCode := h.code[f]?.getD {}

def updateBook (h : Heap) (f : Nat) (g : FiberBook → FiberBook) : Heap :=
  { h with data := h.data.modifyFiber f g }

def updateCode (h : Heap) (f : Nat) (g : FiberCode → FiberCode) : Heap :=
  { h with code := h.code.modify f g }

def setData (h : Heap) (d : Data) : Heap := { h with data := d }

variable {h : Heap} {f f' : Nat}

@[simp] theorem book_setData (d : Data) : (h.setData d).book f = d.fiber f := rfl

@[simp] theorem codeOf_setData (d : Data) : (h.setData d).codeOf f = h.codeOf f := rfl

@[simp] theorem data_setData (d : Data) : (h.setData d).data = d := rfl

@[simp] theorem code_setData (d : Data) : (h.setData d).code = h.code := rfl

theorem book_updateBook_self (g : FiberBook → FiberBook) (hf : f < h.data.fibers.size) :
    (h.updateBook f g).book f = g (h.book f) := by
  simp [book, updateBook, Data.fiber, Data.modifyFiber, Data.modifyAt, Array.getElem_modify, hf]

@[simp] theorem book_updateBook_of_ne (g : FiberBook → FiberBook) (hne : f ≠ f') :
    (h.updateBook f g).book f' = h.book f' := by
  simp [book, updateBook, Data.fiber, Data.modifyFiber, Data.modifyAt, Array.getElem?_modify, hne]

theorem updateBook_of_le (g : FiberBook → FiberBook) (hf : h.data.fibers.size ≤ f) :
    h.updateBook f g = h := by
  have : h.data.fibers.modify f g = h.data.fibers := by
    simp [Array.modify, Array.modifyM, Nat.not_lt.2 hf]
  simp [updateBook, Data.modifyFiber, Data.modifyAt, this]

@[simp] theorem book_updateBook_same (g : FiberBook → FiberBook) :
    (h.updateBook f g).book f = if f < h.data.fibers.size then g (h.book f) else h.book f := by
  split
  · exact book_updateBook_self g ‹_›
  · rw [updateBook_of_le g (Nat.le_of_not_lt ‹_›)]

theorem codeOf_of_le (hf : h.code.size ≤ f) : h.codeOf f = {} := by
  simp [codeOf, Array.getElem?_eq_none hf]

theorem updateCode_of_le (g : FiberCode → FiberCode) (hf : h.code.size ≤ f) : h.updateCode f g = h := by
  have : h.code.modify f g = h.code := by
    simp [Array.modify, Array.modifyM, Nat.not_lt.2 hf]
  simp [updateCode, this]

theorem codeOf_updateCode_self (g : FiberCode → FiberCode) (hf : f < h.code.size) :
    (h.updateCode f g).codeOf f = g (h.codeOf f) := by
  simp [codeOf, updateCode, Array.getElem_modify, hf]

@[simp] theorem codeOf_updateCode_same (g : FiberCode → FiberCode) :
    (h.updateCode f g).codeOf f = if f < h.code.size then g (h.codeOf f) else h.codeOf f := by
  split
  · exact codeOf_updateCode_self g ‹_›
  · simp [codeOf, updateCode, Array.getElem?_modify, Array.getElem?_eq_none (Nat.le_of_not_lt ‹_›)]

@[simp] theorem codeOf_updateCode_of_ne (g : FiberCode → FiberCode) (hne : f ≠ f') :
    (h.updateCode f g).codeOf f' = h.codeOf f' := by
  simp [codeOf, updateCode, Array.getElem?_modify, hne]

@[simp] theorem book_updateCode (g : FiberCode → FiberCode) :
    (h.updateCode f g).book f' = h.book f' := rfl

@[simp] theorem codeOf_updateBook (g : FiberBook → FiberBook) :
    (h.updateBook f g).codeOf f' = h.codeOf f' := rfl

@[simp] theorem code_updateBook (g : FiberBook → FiberBook) : (h.updateBook f g).code = h.code := rfl

@[simp] theorem size_updateBook (g : FiberBook → FiberBook) :
    (h.updateBook f g).data.fibers.size = h.data.fibers.size := by
  simp [updateBook, Data.modifyFiber, Data.modifyAt]

@[simp] theorem size_updateCode (g : FiberCode → FiberCode) :
    (h.updateCode f g).code.size = h.code.size := by
  simp [updateCode]

@[simp] theorem data_updateCode (g : FiberCode → FiberCode) : (h.updateCode f g).data = h.data := rfl

@[simp] theorem updateBook_updateBook (F G : FiberBook → FiberBook) :
    (h.updateBook f F).updateBook f G = h.updateBook f (G ∘ F) := by
  simp only [updateBook, Data.modifyFiber, Data.modifyAt]
  congr 2
  apply Array.ext_getElem?
  intro j
  simp only [Array.getElem?_modify]
  split <;> simp_all

@[simp] theorem updateCode_updateCode (F G : FiberCode → FiberCode) :
    (h.updateCode f F).updateCode f G = h.updateCode f (G ∘ F) := by
  simp only [updateCode]
  congr 1
  apply Array.ext_getElem?
  intro j
  simp only [Array.getElem?_modify]
  split <;> simp_all

@[simp] theorem updateCode_updateBook (F : FiberBook → FiberBook) (G : FiberCode → FiberCode) :
    (h.updateCode f G).updateBook f F = (h.updateBook f F).updateCode f G := rfl

theorem lt_of_started (hs : (h.book f).started = true) : f < h.data.fibers.size := by
  rcases Nat.lt_or_ge f h.data.fibers.size with hf | hf
  · exact hf
  · simp [book, Data.fiber, Array.getElem?_eq_none hf] at hs
    cases hs

end Heap

namespace Fault

def Leaves (E : Heap → Prop) : Fault → Heap → Prop
  | .panic _, h => E h
  | .outOfFuel, _ => True

theorem Leaves.mono {E E' : Heap → Prop} {e : Fault} {h : Heap} (he : e.Leaves E h)
    (hm : ∀ h, E h → E' h) : e.Leaves E' h := by
  cases e
  · exact hm h he
  · trivial

theorem Leaves.and {E E' : Heap → Prop} {e : Fault} {h : Heap} (he : e.Leaves E h)
    (he' : e.Leaves E' h) : e.Leaves (fun h => E h ∧ E' h) h := by
  cases e
  · exact ⟨he, he'⟩
  · trivial

end Fault

namespace Machine

def exec {α : Type} (m : Machine α) (h : Heap) : Except Fault α × Heap := m.run.run h

abbrev Post (α : Type) := PostCond α (.except Fault (.arg Heap .pure))

theorem exec_of_triple {α : Type} {m : Machine α} {P : Heap → Prop} {Q : α → Heap → Prop}
    {E : Fault → Heap → Prop}
    (hs : ⦃fun h => ⌜P h⌝⦄ m ⦃post⟨fun a h => ⌜Q a h⌝, fun e h => ⌜E e h⌝⟩⦄) (h : Heap) (hp : P h) :
    match exec m h with
    | (.ok a, h') => Q a h'
    | (.error e, h') => E e h' := by
  have hw := hs h hp
  simp only [exec, wp, PredTrans.pushExcept, PredTrans.pushArg, ExceptT.run] at hw ⊢
  revert hw
  rcases hx : m.run.run h with ⟨r, h'⟩
  intro hw
  simp only [StateT.run, ExceptT.run] at hx
  simp only [PredTrans.apply, Id.run, StateT.run, hx] at hw
  simp only [StateT.run, hx]
  cases r <;> exact hw

/-- A fact about every run from a heap in `P` is a triple. -/
theorem triple_of_exec {α : Type} {m : Machine α} {P : Heap → Prop} {Q : α → Heap → Prop}
    {E : Fault → Heap → Prop}
    (hx : ∀ h, P h → match exec m h with
      | (.ok a, h') => Q a h'
      | (.error e, h') => E e h') :
    ⦃fun h => ⌜P h⌝⦄ m ⦃post⟨fun a h => ⌜Q a h⌝, fun e h => ⌜E e h⌝⟩⦄ := by
  intro h hp
  have hw := hx h hp
  simp only [exec, wp, PredTrans.pushExcept, PredTrans.pushArg, ExceptT.run] at hw ⊢
  revert hw
  rcases hr : m.run.run h with ⟨r, h'⟩
  simp only [StateT.run, ExceptT.run] at hr
  simp only [PredTrans.apply, Id.run, StateT.run, hr]
  cases r <;> exact id

theorem triple_of_ghost {α γ : Type} {m : Machine α} {P : Heap → Prop} {Q : Post α}
    (g : Heap → γ) (hs : ∀ x, ⦃fun h => ⌜P h ∧ g h = x⌝⦄ m ⦃Q⦄) : ⦃fun h => ⌜P h⌝⦄ m ⦃Q⦄ :=
  fun h hp => hs (g h) h ⟨hp, rfl⟩

theorem discard_eq {α : Type} (x : Machine α) : discard x = (fun _ => ()) <$> x := rfl

/-- A run of a sequence: the second part runs from where the first left off, unless it failed. -/
theorem exec_bind {α β : Type} (m : Machine α) (k : α → Machine β) (h : Heap) :
    exec (m >>= k) h = match exec m h with
      | (.ok a, h') => exec (k a) h'
      | (.error e, h') => (.error e, h') := by
  show (ExceptT.bind m k).run.run h = _
  simp only [exec, ExceptT.bind, ExceptT.run, ExceptT.mk, bind, StateT.bind, StateT.run]
  rcases m h with ⟨_ | _, _⟩ <;> rfl

@[simp] theorem exec_get (h : Heap) : exec (get : Machine Heap) h = (.ok h, h) := rfl

theorem exec_map {α β : Type} (g : α → β) (m : Machine α) (h : Heap) :
    exec (g <$> m) h = match exec m h with
      | (.ok a, h') => (.ok (g a), h')
      | (.error x, h') => (.error x, h') := by
  rw [map_eq_pure_bind, exec_bind]
  rcases exec m h with ⟨_ | _, _⟩ <;> rfl

@[simp] theorem exec_book (f : Nat) (h : Heap) : exec (book f) h = (.ok (h.book f), h) := rfl

@[simp] theorem exec_modifyBook (f : Nat) (g : FiberBook → FiberBook) (h : Heap) :
    exec (modifyBook f g) h = (.ok (), h.updateBook f g) := rfl

@[simp] theorem exec_unixTime (f : Nat) (h : Heap) :
    exec (unixTime f) h = (.ok (h.data.fiberUnixTime f), h) := rfl

private theorem setIfInBounds_eq_modify {α : Type} {xs : Array α} {i : Nat} {x : α}
    (hx : xs[i]? = some x) (F : α → α) : xs.setIfInBounds i (F x) = xs.modify i F := by
  apply Array.ext_getElem?
  intro j
  simp only [Array.getElem?_setIfInBounds, Array.getElem?_modify]
  by_cases hij : i = j
  · subst hij
    have hi : i < xs.size := by
      rcases Nat.lt_or_ge i xs.size with h | h
      · exact h
      · simp [Array.getElem?_eq_none h] at hx
    rw [Array.getElem?_eq_getElem hi, Option.some.injEq] at hx
    simp [hi, hx]
  · simp [hij]

private theorem modify_eq_self {α : Type} {xs : Array α} {i : Nat} {x : α} (hx : xs[i]? = some x)
    {F : α → α} (hF : F x = x) : xs.modify i F = xs := by
  apply Array.ext_getElem?
  intro j
  simp only [Array.getElem?_modify]
  by_cases hij : i = j
  · subst hij; simp [hx, hF]
  · simp [hij]

private theorem modify_eq_self_of_none {α : Type} {xs : Array α} {i : Nat} (hx : xs[i]? = none)
    (F : α → α) : xs.modify i F = xs := by
  apply Array.ext_getElem?
  intro j
  simp only [Array.getElem?_modify]
  split <;> simp_all

end Machine

namespace Heap

variable {h : Heap} {f f' : Nat}

/-- A change that leaves a fiber's bookkeeping as it is changes nothing. -/
theorem updateBook_eq_self {g : FiberBook → FiberBook} (hg : g (h.book f) = h.book f) :
    h.updateBook f g = h := by
  rcases Nat.lt_or_ge f h.data.fibers.size with hf | hf
  · have : h.data.fibers.modify f g = h.data.fibers :=
      Machine.modify_eq_self (Array.getElem?_eq_getElem hf) (by simpa [book, Data.fiber, hf] using hg)
    simp [updateBook, Data.modifyFiber, Data.modifyAt, this]
  · exact updateBook_of_le g hf

end Heap

namespace Machine

theorem modifyFiber_const {f : Nat} (d : Data) (F : FiberBook → FiberBook) :
    d.modifyFiber f (fun _ => F (d.fiber f)) = d.modifyFiber f F := by
  simp only [Data.modifyFiber, Data.modifyAt, Data.fiber]
  congr 1
  apply Array.ext_getElem?
  intro j
  simp only [Array.getElem?_modify]
  split
  · subst_vars; cases d.fibers[j]? <;> rfl
  · rfl

/-- Taking the next instruction empties the slot; a fiber without code has none. -/
theorem takeInstr_eq (f : Nat) : takeInstr f =
    modifyGet fun h => ((h.codeOf f).instr, h.updateCode f fun c => { c with instr := none }) := by
  unfold takeInstr
  congr 1
  funext h
  cases hc : h.code[f]? with
  | none => simp [Heap.codeOf, Heap.updateCode, hc, modify_eq_self_of_none hc]
  | some c =>
    simp [Heap.codeOf, Heap.updateCode, hc, setIfInBounds_eq_modify hc (fun c => { c with instr := none })]

/-- Popping a frame drops the top of the stack; an empty stack and a fiber without code give nothing. -/
theorem popFrame_eq (f : Nat) : popFrame f = modifyGet fun h =>
    ((h.codeOf f).frames.head?, h.updateCode f fun c => { c with frames := c.frames.tail }) := by
  unfold popFrame
  congr 1
  funext h
  cases hc : h.code[f]? with
  | none => simp [Heap.codeOf, Heap.updateCode, hc, modify_eq_self_of_none hc]
  | some c =>
    cases hfr : c.frames with
    | nil =>
      have hsame : h.code.modify f (fun c => { c with frames := c.frames.tail }) = h.code :=
        modify_eq_self hc (by cases c; simp_all)
      simp [Heap.codeOf, Heap.updateCode, hc, hfr, hsame]
    | cons fr rest =>
      have hset := setIfInBounds_eq_modify hc (fun c => { c with frames := c.frames.tail })
      simp only [hfr, List.tail_cons] at hset
      simp [Heap.codeOf, Heap.updateCode, hc, hfr, hset]

end Machine

namespace FiberBook

def popScope (b : FiberBook) : Restore → FiberBook
  | .context => { b with context := b.context.pop.2 }
  | .store => { b with stores := b.stores.pop.2 }
  | .flags => { b with flags := b.flags.pop.2 }

end FiberBook

namespace Machine

theorem restore_eq (f : Nat) (r : Restore) : restore f r = modifyBook f (·.popScope r) := by
  cases r <;> rfl

variable {f : Nat}

@[spec] theorem data_spec {Q : Post Data} : ⦃fun h => Q.1 h.data h⦄ data ⦃Q⦄ := by
  mvcgen [data]

@[spec] theorem modifyData_spec {F : Data → Data} {Q : Post Unit} :
    ⦃fun h => Q.1 () (h.setData (F h.data))⦄ modifyData F ⦃Q⦄ := by
  mvcgen [modifyData]

@[spec] theorem modifyGetData_spec {α : Type} {F : Data → α × Data} {Q : Post α} :
    ⦃fun h => Q.1 (F h.data).1 (h.setData (F h.data).2)⦄ modifyGetData F ⦃Q⦄ := by
  mvcgen [modifyGetData]

@[spec] theorem book_spec {Q : Post FiberBook} : ⦃fun h => Q.1 (h.book f) h⦄ book f ⦃Q⦄ := by
  mvcgen [book, data]

@[spec] theorem modifyBook_spec {g : FiberBook → FiberBook} {Q : Post Unit} :
    ⦃fun h => Q.1 () (h.updateBook f g)⦄ modifyBook f g ⦃Q⦄ := by
  mvcgen [modifyBook, modifyData]

@[spec] theorem modifyCode_spec {g : FiberCode → FiberCode} {Q : Post Unit} :
    ⦃fun h => Q.1 () (h.updateCode f g)⦄ modifyCode f g ⦃Q⦄ := by
  mvcgen [modifyCode]

@[spec] theorem takeInstr_spec {Q : Post (Option Effect)} :
    ⦃fun h => Q.1 (h.codeOf f).instr (h.updateCode f fun c => { c with instr := none })⦄
    takeInstr f ⦃Q⦄ := by
  rw [takeInstr_eq]
  mvcgen

@[spec] theorem setInstr_spec {e : Effect} {Q : Post Unit} :
    ⦃fun h => Q.1 () (h.updateCode f fun c => { c with instr := some e })⦄ setInstr f e ⦃Q⦄ := by
  mvcgen [setInstr]

@[spec] theorem popFrame_spec {Q : Post (Option Frame)} :
    ⦃fun h => Q.1 (h.codeOf f).frames.head?
      (h.updateCode f fun c => { c with frames := c.frames.tail })⦄ popFrame f ⦃Q⦄ := by
  rw [popFrame_eq]
  mvcgen

@[spec] theorem pushFrame_spec {fr : Frame} {Q : Post Unit} :
    ⦃fun h => Q.1 () (h.updateCode f fun c => { c with frames := fr :: c.frames })⦄
    pushFrame f fr ⦃Q⦄ := by
  mvcgen [pushFrame]

@[spec] theorem takeInterrupt_spec {Q : Post (Option (Cause Json))} :
    ⦃fun h => Q.1 (h.book f).takeInterrupt.1 (h.updateBook f fun b => b.takeInterrupt.2)⦄
    takeInterrupt f ⦃Q⦄ := by
  mvcgen [takeInterrupt]
  rename_i h hq
  simpa [Data.takeInterrupt, Heap.updateBook, Heap.setData, Heap.book,
    modifyFiber_const h.data (fun b => b.takeInterrupt.2)] using hq

@[spec] theorem restore_spec {r : Restore} {Q : Post Unit} :
    ⦃fun h => Q.1 () (h.updateBook f (·.popScope r))⦄ restore f r ⦃Q⦄ := by
  rw [restore_eq]
  mvcgen

@[spec] theorem unixTime_spec {Q : Post Time} :
    ⦃fun h => Q.1 (h.data.fiberUnixTime f) h⦄ unixTime f ⦃Q⦄ := by
  mvcgen [unixTime]

@[spec] theorem defectCause_spec {m : String} {Q : Post (Cause Json)} :
    ⦃fun h => Q.1 (.unexpected (h.data.fiberUnixTime f) m) h⦄ defectCause f m ⦃Q⦄ := by
  mvcgen [defectCause]

@[spec] theorem currentFlags_spec {Q : Post Flags} :
    ⦃fun h => Q.1 (h.book f).flags.current h⦄ currentFlags f ⦃Q⦄ := by
  mvcgen [currentFlags]

end Machine

end FiberEffects
