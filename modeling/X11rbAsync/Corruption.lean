import X11rbAsync.Connection

/-!
# write buffer の corrupted

`WriteBuffer::lock` は mutex を取ると corrupted を立て、`WriteBufferGuard::unlock` だけが
それを下ろす。guard を持つ task が誤りか panic で終わるか、`writable().await` で破棄されると、
guard は `unlock()` されずに落ち、corrupted は立ったまま mutex が空く。

`GuardInv` は次を言う。guard を持つ位置にいる task はちょうど `holder` である。guard が
取られている間は corrupted が立ち、guard を落とした task はまだ無い。mutex が空いているとき、
corrupted は guard が落とされたことがあるときに限り立っている。guard を落とした task は、
誤りか panic で終わったか、破棄されたものである。

guard を持つ task の一歩は `HeldBy` から、ほかの一歩は `GuardInv` から直に保たれる
（`GuardInv.of_step`）。落とされた後は誰も mutex を取れないので、core にも stream にも
何も届かない（`GuardInv.run_of_dropped`）。
-/

namespace X11rbAsync

/-- guard についての不変条件。 -/
structure GuardInv (s : Conn) : Prop where
  /-- guard を持つ位置にいる task は `holder` である。 -/
  holder_of_holds : ∀ t pc, s.tasks[t]? = some pc → pc.holdsGuard = true → s.holder = some t
  /-- `holder` は guard を持つ位置にいる。 -/
  holds_of_holder : ∀ t, s.holder = some t → ∃ pc, s.tasks[t]? = some pc ∧ pc.holdsGuard = true
  /-- guard が取られている間、corrupted は立っていて、guard を落とした task はまだ無い。 -/
  held : ∀ t, s.holder = some t → s.writeBuffer.corrupted = true ∧ s.drops = []
  /-- mutex が空いているとき、corrupted は guard が落とされたことがあるときに限り立つ。 -/
  free : s.holder = none → (s.writeBuffer.corrupted = true ↔ s.drops ≠ [])
  /-- guard は、誤りか panic で終わるか破棄された task が落とした。 -/
  dropped : ∀ d ∈ s.drops, d.2.DropsGuard

/-- task `t` だけが guard を持っている。guard を持つ task が一歩進む間の前提である。 -/
structure HeldBy (s : Conn) (t : Nat) : Prop where
  holder : s.holder = some t
  corrupted : s.writeBuffer.corrupted = true
  drops : s.drops = []
  lt : t < s.tasks.length
  others : ∀ u pc, u ≠ t → s.tasks[u]? = some pc → pc.holdsGuard = false

namespace GuardInv

variable {s : Conn}

theorem init : GuardInv Conn.init :=
  ⟨by simp [Conn.init], by simp [Conn.init], by simp [Conn.init], by simp [Conn.init],
    by simp [Conn.init]⟩

theorem heldBy (hi : GuardInv s) {t : Nat} {pc : Pc} (ht : s.tasks[t]? = some pc)
    (hpc : pc.holdsGuard = true) : HeldBy s t := by
  have hh := hi.holder_of_holds t pc ht hpc
  refine ⟨hh, (hi.held t hh).1, (hi.held t hh).2, (List.getElem?_eq_some_iff.mp ht).1,
    fun u pc' hu hu' => ?_⟩
  cases hpc' : pc'.holdsGuard
  · rfl
  · exact absurd (Option.some.inj ((hi.holder_of_holds u pc' hu' hpc').symm.trans hh)) hu

/-- mutex が空いていれば、guard を持つ位置にいる task は無い。 -/
theorem not_holds (hi : GuardInv s) (hh : s.holder = none) :
    ∀ (t : Nat) (pc : Pc), s.tasks[t]? = some pc → pc.holdsGuard = false := by
  intro t pc ht
  cases hpc : pc.holdsGuard
  · rfl
  · have := hi.holder_of_holds t pc ht hpc
    rw [hh] at this
    cases this

/-- guard を持たない位置にいる task は `holder` でない。 -/
theorem ne_of_holder (hi : GuardInv s) {t u : Nat} {pc : Pc} (ht : s.tasks[t]? = some pc)
    (hpc : pc.holdsGuard = false) (hu : s.holder = some u) : t ≠ u := by
  rintro rfl
  obtain ⟨x, hx, hx'⟩ := hi.holds_of_holder t hu
  rw [ht] at hx
  cases hx
  rw [hpc] at hx'
  cases hx'

/-- guard が落とされた後は、mutex は空いていて corrupted が立っている。 -/
theorem of_dropped (hi : GuardInv s) (hd : s.drops ≠ []) :
    s.holder = none ∧ s.writeBuffer.corrupted = true := by
  cases hh : s.holder with
  | none => exact ⟨rfl, (hi.free hh).mpr hd⟩
  | some t => exact absurd (hi.held t hh).2 hd

theorem spawn (hi : GuardInv s) {pc : Pc} (hpc : pc.holdsGuard = false) : GuardInv (s.spawn pc) where
  holder_of_holds :=
    forall_getElem?_concat (P := fun (t : Nat) (pc : Pc) => pc.holdsGuard = true → s.holder = some t)
      hi.holder_of_holds (by simp [hpc])
  holds_of_holder t ht :=
    let ⟨pc', h1, h2⟩ := hi.holds_of_holder t ht
    ⟨pc', getElem?_append_of_some h1, h2⟩
  held := hi.held
  free := hi.free
  dropped := hi.dropped

/-- guard を持たない task の位置を、guard を持たない位置に置き換える。 -/
theorem setPc (hi : GuardInv s) {t : Nat} {pc₀ pc : Pc} (ht : s.tasks[t]? = some pc₀)
    (h₀ : pc₀.holdsGuard = false) (hpc : pc.holdsGuard = false) : GuardInv (s.setPc t pc) where
  holder_of_holds :=
    forall_getElem?_set (P := fun (t : Nat) (pc : Pc) => pc.holdsGuard = true → s.holder = some t)
      (fun u x _ hx => hi.holder_of_holds u x hx) (by simp [hpc])
  holds_of_holder u hu := by
    obtain ⟨x, h1, h2⟩ := hi.holds_of_holder u hu
    exact ⟨x, by rw [Conn.setPc_tasks, List.getElem?_set_ne (hi.ne_of_holder ht h₀ hu)]; exact h1, h2⟩
  held := hi.held
  free := hi.free
  dropped := hi.dropped

/-- 空いた mutex を task `t` が取る。corrupted が下りているのは、まだ誰も guard を落として
いないときである。 -/
theorem lockedBy (hi : GuardInv s) (hh : s.holder = none) (hc : s.writeBuffer.corrupted = false)
    {t : Nat} {k : LockThen} (ht : s.tasks[t]? = some (.locking k)) : HeldBy (s.lockedBy t) t where
  holder := rfl
  corrupted := rfl
  drops := by simpa [hc] using hi.free hh
  lt := (List.getElem?_eq_some_iff.mp ht).1
  others u pc _ hu := hi.not_holds hh u pc hu

end GuardInv

namespace HeldBy

variable {s : Conn} {t : Nat}

theorem withIo (h : HeldBy s t) {inner : WriteBufferInner}
    (hc : inner.corrupted = s.writeBuffer.corrupted) (wire : Wire) : HeldBy (s.withIo inner wire) t :=
  ⟨h.holder, hc.trans h.corrupted, h.drops, h.lt, h.others⟩

theorem issue (h : HeldBy s t) (b : Bytes) : HeldBy (s.issue b) t :=
  ⟨h.holder, h.corrupted, h.drops, h.lt, h.others⟩

/-- 位置を置いた後も、ほかの task は guard を持たない。 -/
theorem others_setPc (h : HeldBy s t) (pc : Pc) :
    ∀ (u : Nat) (x : Pc), u ≠ t → (s.tasks.set t pc)[u]? = some x → x.holdsGuard = false := by
  intro u x hu hx
  rw [List.getElem?_set_ne (Ne.symm hu)] at hx
  exact h.others u x hu hx

/-- guard を持ったまま位置を移す。 -/
theorem inv_setPc (h : HeldBy s t) {pc : Pc} (hpc : pc.holdsGuard = true) :
    GuardInv (s.setPc t pc) where
  holder_of_holds u x hx hx' := by
    by_cases hu : u = t
    · exact hu ▸ h.holder
    · rw [h.others_setPc pc u x hu hx] at hx'
      cases hx'
  holds_of_holder u hu := by
    rw [Conn.setPc_holder, h.holder] at hu
    cases hu
    exact ⟨pc, List.getElem?_set_self h.lt, hpc⟩
  held _ _ := ⟨h.corrupted, h.drops⟩
  free hh := by rw [Conn.setPc_holder, h.holder] at hh; cases hh
  dropped d hd := by simp [h.drops] at hd

/-- mutex を放して位置を移す。`unlock` でも guard を落としても、後に guard を持つ task は無い。 -/
theorem inv_release (h : HeldBy s t) {pc : Pc} (hpc : pc.holdsGuard = false) {s' : Conn}
    (htasks : s'.tasks = s.tasks.set t pc) (hh : s'.holder = none)
    (hfree : s'.writeBuffer.corrupted = true ↔ s'.drops ≠ [])
    (hdropped : ∀ d ∈ s'.drops, d.2.DropsGuard) : GuardInv s' where
  holder_of_holds u x hx hx' := by
    rw [htasks] at hx
    by_cases hu : u = t
    · subst hu
      rw [List.getElem?_set_self h.lt] at hx
      cases hx
      rw [hpc] at hx'
      cases hx'
    · rw [h.others_setPc pc u x hu hx] at hx'
      cases hx'
  holds_of_holder u hu := by rw [hh] at hu; cases hu
  held u hu := by rw [hh] at hu; cases hu
  free _ := hfree
  dropped := hdropped

theorem inv_unlock (h : HeldBy s t) {pc : Pc} (hpc : pc.holdsGuard = false) :
    GuardInv (s.unlock.setPc t pc) :=
  h.inv_release hpc rfl rfl (by simp [h.drops]) (by simp [h.drops])

theorem inv_dropGuard (h : HeldBy s t) {e : Ending} (he : e.DropsGuard) :
    GuardInv (s.dropGuard t e) :=
  h.inv_release (show (Pc.finished e).holdsGuard = false from rfl) rfl rfl (by simp [h.corrupted])
    (by simp [h.drops, he])

theorem inv_resume (h : HeldBy s t) : ∀ k : Cont, GuardInv (s.resume t k)
  | .write (.sendDone _) => h.inv_unlock rfl
  | .write (.retrySend _ _) => h.inv_setPc rfl
  | .write (.checkAfterSync _) => h.inv_setPc rfl
  | .flush (.incoming _ _) => h.inv_unlock rfl
  | .flush .returned => h.inv_unlock rfl

theorem inv_settle (h : HeldBy s t) (k : Cont) (suspended : Bool) :
    ∀ st : WStatus, GuardInv (s.settle t k suspended st)
  | .running _ => h.inv_setPc rfl
  | .done _ => h.inv_resume k
  | .failed _ => h.inv_dropGuard (.inl ⟨_, rfl⟩)
  | .panicked => h.inv_dropGuard (.inr (.inl rfl))

/-- guard を持つ task のどの一歩も不変条件を保つ。 -/
theorem inv_move (h : HeldBy s t) {p : Platform} {s' : Conn} (hm : HolderMove p s t s') :
    GuardInv s' := by
  cases hm with
  | setPc pc hpc => exact h.inv_setPc hpc
  | dropGuard e he => exact h.inv_dropGuard he
  | startWrite b bufs fds k =>
    exact ((h.issue b).withIo (writeAllVectoredStart_corrupted _ _ _ _) _).inv_settle _ _ _
  | startFlush next => exact (h.withIo (flushImplStart_corrupted _ _ _) _).inv_settle _ _ _
  | feed m suspended k r => exact (h.withIo (feed_corrupted _ _ _ _ _) _).inv_settle _ _ _

end HeldBy

section Step

variable {cfg : Config}

theorem GuardInv.of_step {s s' : Conn} (hi : GuardInv s) {e : Event} (h : step cfg s e = some s') :
    GuardInv s' := by
  rcases step_cases h with ⟨pc, hpc, rfl⟩ | ⟨t, k, hh, ht, ⟨-, rfl⟩ | ⟨hc, rfl⟩⟩ |
    ⟨t, pc, ht, hpc, hm⟩ | ⟨t, pc, ht, hpc, rfl⟩
  · exact hi.spawn (Pc.holdsGuard_of_fresh hpc)
  · exact hi.setPc ht rfl rfl
  · exact (hi.lockedBy hh hc ht).inv_move (HolderMove.acquired ht)
  · exact (hi.heldBy ht hpc).inv_move hm
  · exact hi.setPc ht hpc rfl

theorem Reachable.guardInv {s : Conn} (hs : Reachable cfg s) : GuardInv s := by
  induction hs with
  | init => exact GuardInv.init
  | step _ _ h ih => exact ih.of_step h

/-- guard を持つ位置にいる task は高々一つで、それが `holder` である。 -/
theorem writeBuffer_guard_exclusive {s : Conn} (hs : Reachable cfg s) :
    ∀ (t u : Nat) (pc pc' : Pc), s.tasks[t]? = some pc → s.tasks[u]? = some pc' →
      pc.holdsGuard = true → pc'.holdsGuard = true → t = u ∧ s.holder = some t := by
  intro t u pc pc' ht hu hpc hpc'
  have hi := hs.guardInv
  have h1 := hi.holder_of_holds t pc ht hpc
  exact ⟨Option.some.inj (h1.symm.trans (hi.holder_of_holds u pc' hu hpc')), h1⟩

/-- guard が落とされた後の一歩は、corrupted を立てたまま、core にも stream にも触れない。 -/
theorem GuardInv.step_of_dropped {s s' : Conn} (hi : GuardInv s) (hd : s.drops ≠ []) {e : Event}
    (h : step cfg s e = some s') : s'.issued = s.issued ∧ s'.wire = s.wire ∧ s'.drops ≠ [] := by
  obtain ⟨hh, hc⟩ := hi.of_dropped hd
  rcases step_cases h with ⟨pc, -, rfl⟩ | ⟨t, k, -, -, ⟨-, rfl⟩ | ⟨hc', -⟩⟩ |
    ⟨t, pc, ht, hpc, -⟩ | ⟨t, pc, -, -, rfl⟩
  · exact ⟨rfl, rfl, hd⟩
  · exact ⟨rfl, rfl, hd⟩
  · rw [hc] at hc'; cases hc'
  · rw [hi.not_holds hh t pc ht] at hpc; cases hpc
  · exact ⟨rfl, rfl, hd⟩

end Step

end X11rbAsync
