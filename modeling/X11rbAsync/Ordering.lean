import X11rbAsync.Corruption

/-!
# stream に届く byte の順

容量（16384 byte）より小さい payload は buffer に積まれ、flush で順に書かれる。容量以上の
payload は、直接書き込みの loop が回らないので書かれない（`writeAllVectored_direct`）。
したがって stream が受け取る byte は、sequence number の順に容量より小さい request だけを
繋いだもの（`shortRequests`）の先頭である（`accepted_bytes_prefix_of_short_requests`）。

## machine の上の並び

`Flushed target inner wire position pending` は、flush の途中の machine について、stream が
受け取った byte の後に buffer の `position` から先と、flush の後に積む `pending` を足すと
`target` になることを言う。`MachineOrdered` は machine の様子ごとにこれを言い直したもので、
入口（`writeAllVectoredStart`、`flushImplStart`）と一回の答え（`feed`）がこれを保つ。

## 系の上の並び

`OrderInv` は三つのことを言う。stream が受け取った byte はいつも `shortRequests` の先頭である。
guard が落とされていなければ、guard を持つ task の位置について `MachineOrdered` が成り立ち、
mutex が空いていれば stream が受け取った byte と buffer を繋ぐと `shortRequests` になる。
-/

namespace X11rbAsync

/-! ## machine の上の並び -/

section Machine

variable (cap : Nat)

/-- `write_all_vectored` が buffer に積む payload。容量以上なら何も積まれない。 -/
def keptPayload (bytes : Bytes) : Bytes := if bytes.length < cap then bytes else []

/-- flush の後に buffer に積む payload。 -/
def FlushThen.pending : FlushThen → Bytes
  | .write bufs _ => keptPayload cap bufs.flatten
  | .ret => []

/-- flush の途中の並び。stream が受け取った byte は `w ++ buffer.take position` で、
`w ++ buffer ++ pending` が `target` になる。 -/
structure Flushed (target : Bytes) (inner : WriteBufferInner) (wire : Wire) (position : Nat)
    (pending : Bytes) : Prop where
  position_le : position ≤ inner.buffer.length
  sent : ∃ w, wire.bytes = w ++ inner.buffer.take position ∧ w ++ inner.buffer ++ pending = target

/-- machine の様子ごとの並び。直接書き込みの loop にいる machine は無い。 -/
def MachineOrdered (target : Bytes) (inner : WriteBufferInner) (wire : Wire) : WStatus → Prop
  | .running (.flush position k) => Flushed target inner wire position (k.pending cap)
  | .running (.direct _) => False
  | .done _ => wire.bytes ++ inner.buffer = target
  | .failed _ | .panicked => wire.bytes <+: target

variable {p : Platform} {cap} {target : Bytes} {inner : WriteBufferInner} {wire : Wire}

theorem Flushed.accepted {position : Nat} {pending : Bytes}
    (h : Flushed target inner wire position pending) : wire.bytes <+: target := by
  obtain ⟨w, hw, ht⟩ := h.sent
  rw [hw, ← ht, List.append_assoc]
  exact (List.prefix_append_right_inj w).mpr
    (List.IsPrefix.trans ⟨_, List.take_append_drop position inner.buffer⟩ (List.prefix_append _ _))

/-- どの様子でも、stream が受け取った byte は `target` の先頭である。 -/
theorem MachineOrdered.accepted {st : WStatus} (h : MachineOrdered cap target inner wire st) :
    wire.bytes <+: target := by
  match st, h with
  | .running (.flush _ _), h => exact Flushed.accepted h
  | .done _, h => exact h ▸ List.prefix_append _ _
  | .failed _, h => exact h
  | .panicked, h => exact h

/-- 積むか、積まずに返るか。どちらでも stream と buffer を繋いだものは `keptPayload` だけ伸びる。 -/
theorem finishWrite_ordered (hcap : cap ≤ p.usizeMax) (h : wire.bytes ++ inner.buffer = target) (bufs : List Bytes)
    (fds : List Fd) :
    MachineOrdered cap (target ++ keptPayload cap bufs.flatten) (finishWrite p cap inner bufs fds).1 wire
      (finishWrite p cap inner bufs fds).2 := by
  rw [finishWrite_eq_of_le cap hcap, keptPayload, ← totalLen_eq_length_flatten]
  by_cases hs : totalLen bufs < cap
  · simp [hs, MachineOrdered, ← h]
  · simp only [hs, if_false, List.append_nil]
    split
    · exact h
    · exact h ▸ List.prefix_append _ _

theorem finishFlush_ordered (hcap : cap ≤ p.usizeMax) (h : wire.bytes ++ inner.buffer = target) :
    ∀ k : FlushThen, MachineOrdered cap (target ++ k.pending cap) (finishFlush p cap inner k).1 wire
      (finishFlush p cap inner k).2
  | .ret => by simpa [finishFlush, FlushThen.pending, MachineOrdered] using h
  | .write bufs fds => finishWrite_ordered hcap h bufs fds

/-- loop の頭。書き終えていれば buffer を空にして続きへ進む。 -/
theorem flushLoopHead_ordered (hcap : cap ≤ p.usizeMax) {position : Nat} {k : FlushThen}
    (h : Flushed target inner wire position (k.pending cap)) :
    MachineOrdered cap target (flushLoopHead p cap inner position k).1 wire
      (flushLoopHead p cap inner position k).2 := by
  unfold flushLoopHead
  split
  · exact h
  · split
    · obtain ⟨w, hw, ht⟩ := h.sent
      have hwire : wire.bytes = w ++ inner.buffer := by
        rw [hw, List.take_of_length_le (by omega)]
      have htarget : target = wire.bytes ++ k.pending cap := by rw [hwire, ← ht]
      rw [htarget]
      exact finishFlush_ordered hcap (by simp) k
    · exact h.accepted

theorem flushImplStart_ordered (hcap : cap ≤ p.usizeMax) (h : wire.bytes ++ inner.buffer = target) (k : FlushThen) :
    MachineOrdered cap (target ++ k.pending cap) (flushImplStart p cap inner k).1 wire
      (flushImplStart p cap inner k).2 := by
  unfold flushImplStart
  split
  · exact finishFlush_ordered hcap h k
  · exact flushLoopHead_ordered hcap ⟨Nat.zero_le _, wire.bytes, by simp, by rw [h]⟩

/-- `write_all_vectored` の入口は、stream と buffer を繋いだものの後に `keptPayload` を足した
並びを目指す。 -/
theorem writeAllVectoredStart_ordered (hcap : cap ≤ p.usizeMax) (h : wire.bytes ++ inner.buffer = target) (bufs : List Bytes)
    (fds : List Fd) :
    MachineOrdered cap (target ++ keptPayload cap bufs.flatten)
      (writeAllVectoredStart p cap inner bufs fds).1 wire (writeAllVectoredStart p cap inner bufs fds).2 := by
  rcases writeAllVectoredStart_cases cap inner bufs fds with heq | heq | heq <;> rw [heq]
  · show wire.bytes <+: _
    rw [← h, List.append_assoc]
    exact List.prefix_append _ _
  · exact flushImplStart_ordered hcap h (.write bufs fds)
  · exact finishWrite_ordered hcap h bufs fds

/-- flush の loop は、stream が受け取った分だけ `position` を進めて並びを保つ。 -/
theorem feed_ordered (hcap : cap ≤ p.usizeMax) {position : Nat} {k : FlushThen}
    (h : Flushed target inner wire position (k.pending cap)) (r : WriteResult) :
    MachineOrdered cap target (feed p cap inner wire (.flush position k) r).1
      (feed p cap inner wire (.flush position k) r).2.1 (feed p cap inner wire (.flush position k) r).2.2 := by
  cases r with
  | wouldBlock => exact h
  | fail kind => exact h.accepted
  | accept n =>
    rw [feed_flush_accept]
    rcases Wire.write_cases wire (inner.buffer.drop position) inner.fds n with
      ⟨-, heq⟩ | ⟨hpos, heq⟩ <;> rw [heq]
    · exact h.accepted
    · simp only [Nat.pos_iff_ne_zero.mp hpos, if_false]
      obtain ⟨w, hw, ht⟩ := h.sent
      refine flushLoopHead_ordered hcap ⟨?_, w, ?_, ht⟩
      · have := h.position_le
        simp only [List.length_drop] at hpos ⊢
        omega
      · simp [hw, List.take_add]

end Machine

/-! ## 系の上の並び -/

/-- 容量より小さい request だけを、sequence number の順に繋いだもの。 -/
def shortRequests (issued : List Bytes) : Bytes :=
  (issued.map (keptPayload writeBufferCapacity)).flatten

@[simp] theorem shortRequests_nil : shortRequests [] = [] := rfl

@[simp] theorem shortRequests_append (issued : List Bytes) (b : Bytes) :
    shortRequests (issued ++ [b]) = shortRequests issued ++ keptPayload writeBufferCapacity b := by
  simp [shortRequests]

/-- sequence number `n + 1` の request `b` の前後で分ける。 -/
theorem shortRequests_split {issued : List Bytes} {n : Nat} {b : Bytes} (hb : issued[n]? = some b) :
    shortRequests issued = shortRequests (issued.take n) ++ keptPayload writeBufferCapacity b ++
      shortRequests (issued.drop (n + 1)) := by
  obtain ⟨hn, rfl⟩ := List.getElem?_eq_some_iff.mp hb
  calc shortRequests issued
      = shortRequests (issued.take n ++ issued[n] :: issued.drop (n + 1)) := by
        rw [← List.drop_eq_getElem_cons hn, List.take_append_drop]
    _ = _ := by
        simp only [shortRequests, List.map_append, List.map_cons, List.flatten_append,
          List.flatten_cons, List.append_assoc]

/-- guard を持つ task の位置に応じた並び。machine を動かしていなければ、stream が受け取った
byte の後に buffer を繋ぐと `target` になる。 -/
def Pc.Ordered (target : Bytes) (inner : WriteBufferInner) (wire : Wire) : Pc → Prop
  | .writing m _ _ => MachineOrdered writeBufferCapacity target inner wire (.running m)
  | _ => wire.bytes ++ inner.buffer = target

theorem Pc.Ordered.accepted {target : Bytes} {inner : WriteBufferInner} {wire : Wire} {pc : Pc}
    (h : pc.Ordered target inner wire) : wire.bytes <+: target := by
  cases pc with
  | writing m _ _ => exact MachineOrdered.accepted h
  | _ => exact h ▸ List.prefix_append _ _

/-- machine を動かしていない位置では、並びは stream と buffer を繋いだものである。 -/
theorem Pc.ordered_of_machine {target : Bytes} {inner : WriteBufferInner} {wire : Wire} {pc : Pc}
    (hm : pc.machine = none) : pc.Ordered target inner wire ↔ wire.bytes ++ inner.buffer = target := by
  cases pc <;> first | rfl | cases hm

/-- 系の上の並び。 -/
structure OrderInv (s : Conn) : Prop where
  /-- stream が受け取った byte は `shortRequests` の先頭である。 -/
  accepted : s.wire.bytes <+: shortRequests s.issued
  /-- guard が落とされていなければ、guard を持つ task の位置が並びを決める。 -/
  held : s.drops = [] → ∀ t pc, s.holder = some t → s.tasks[t]? = some pc →
    pc.Ordered (shortRequests s.issued) s.writeBuffer s.wire
  /-- guard が落とされておらず mutex が空いていれば、stream と buffer を繋ぐと
  `shortRequests` になる。 -/
  free : s.drops = [] → s.holder = none →
    s.wire.bytes ++ s.writeBuffer.buffer = shortRequests s.issued

namespace OrderInv

variable {s : Conn}

theorem init : OrderInv Conn.init :=
  ⟨by simp [Conn.init], by simp [Conn.init], by simp [Conn.init]⟩

/-- guard が落とされた後は、先頭であることだけが残る。 -/
theorem of_dropped (hp : s.wire.bytes <+: shortRequests s.issued) (hd : s.drops ≠ []) : OrderInv s :=
  ⟨hp, fun h => absurd h hd, fun h => absurd h hd⟩

/-- guard を持つ task が位置 `pc` に移り、その位置の並びが成り立つ。 -/
theorem setPc_holder {t : Nat} {pc : Pc} (hh : s.holder = some t)
    (hp : pc.Ordered (shortRequests s.issued) s.writeBuffer s.wire) : OrderInv (s.setPc t pc) where
  accepted := hp.accepted
  held _ u x hu hx := by
    rw [Conn.setPc_holder, hh] at hu
    cases hu
    rw [Conn.setPc_tasks] at hx
    exact eq_of_getElem?_set_self hx ▸ hp
  free _ hh' := by rw [Conn.setPc_holder, hh] at hh'; cases hh'

/-- mutex を放して位置を移す。 -/
theorem unlock_setPc (hw : s.wire.bytes ++ s.writeBuffer.buffer = shortRequests s.issued)
    (t : Nat) (pc : Pc) :
    OrderInv (s.unlock.setPc t pc) where
  accepted := hw ▸ List.prefix_append _ _
  held _ _ _ h := by cases h
  free _ _ := hw

theorem spawn (ho : OrderInv s) (hg : GuardInv s) (pc : Pc) : OrderInv (s.spawn pc) where
  accepted := ho.accepted
  held hd t x ht hx := by
    obtain ⟨pc₀, h₀, -⟩ := hg.holds_of_holder t ht
    rw [Conn.spawn_tasks, getElem?_append_of_some h₀] at hx
    cases hx
    exact ho.held hd t _ ht h₀
  free := ho.free

/-- guard を持たない task の位置を置き換える。 -/
theorem setPc_free (ho : OrderInv s) (hg : GuardInv s) {t : Nat} {pc₀ : Pc}
    (ht : s.tasks[t]? = some pc₀) (h₀ : pc₀.holdsGuard = false) (pc : Pc) :
    OrderInv (s.setPc t pc) where
  accepted := ho.accepted
  held hd u x hu hx := by
    rw [Conn.setPc_tasks, List.getElem?_set_ne (hg.ne_of_holder ht h₀ hu)] at hx
    exact ho.held hd u x hu hx
  free := ho.free

/-- 空いた mutex を task `t` が取る。 -/
theorem lockedBy (ho : OrderInv s) (hd : s.drops = []) (hh : s.holder = none) {t : Nat}
    {k : LockThen} (ht : s.tasks[t]? = some (.locking k)) : OrderInv (s.lockedBy t) where
  accepted := ho.accepted
  held _ u x hu hx := by
    rw [Conn.lockedBy_holder] at hu
    cases hu
    rw [Conn.lockedBy_tasks, ht] at hx
    cases hx
    exact ho.free hd hh
  free _ h := by cases h

end OrderInv

namespace HeldBy

variable {s : Conn} {t : Nat}

/-- machine を動かしていない guard の持ち主の下では、stream と buffer を繋ぐと
`shortRequests` になる。 -/
theorem idle (h : HeldBy s t) (ho : OrderInv s) (hidle : s.tasks[t]?.bind Pc.machine = none) :
    s.wire.bytes ++ s.writeBuffer.buffer = shortRequests s.issued := by
  obtain ⟨pc, ht⟩ : ∃ pc, s.tasks[t]? = some pc := ⟨_, List.getElem?_eq_getElem h.lt⟩
  rw [ht] at hidle
  exact (Pc.ordered_of_machine hidle).mp (ho.held h.drops t pc h.holder ht)

/-- machine の様子を task に映しても並びは保たれる。 -/
theorem order_settle (h : HeldBy s t) {inner : WriteBufferInner} {wire : Wire} {st : WStatus}
    (hm : MachineOrdered writeBufferCapacity (shortRequests s.issued) inner wire st) (k : Cont)
    (suspended : Bool) : OrderInv ((s.withIo inner wire).settle t k suspended st) := by
  cases st with
  | running m => exact OrderInv.setPc_holder (s := s.withIo inner wire) h.holder hm
  | done fds =>
    have hw : wire.bytes ++ inner.buffer = shortRequests s.issued := hm
    rcases k with (_ | _ | _) | (_ | _)
    · exact OrderInv.unlock_setPc (s := s.withIo inner wire) hw _ _
    · exact OrderInv.setPc_holder (s := s.withIo inner wire) h.holder hw
    · exact OrderInv.setPc_holder (s := s.withIo inner wire) h.holder hw
    · exact OrderInv.unlock_setPc (s := s.withIo inner wire) hw _ _
    · exact OrderInv.unlock_setPc (s := s.withIo inner wire) hw _ _
  | failed e => exact OrderInv.of_dropped hm.accepted (by simp [Conn.settle])
  | panicked => exact OrderInv.of_dropped hm.accepted (by simp [Conn.settle])

/-- guard を持つ task のどの一歩も並びを保つ。 -/
theorem order_move (h : HeldBy s t) (ho : OrderInv s) {p : Platform} {s' : Conn}
    (hm : HolderMove p s t s') : OrderInv s' := by
  cases hm with
  | setPc pc _ hm hidle =>
    exact OrderInv.setPc_holder h.holder ((Pc.ordered_of_machine hm).mpr (h.idle ho hidle))
  | dropGuard e => exact OrderInv.of_dropped ho.accepted (by simp)
  | startWrite b bufs fds k hb hidle =>
    refine (h.issue b).order_settle ?_ _ _
    rw [Conn.issue_issued, shortRequests_append, hb]
    exact writeAllVectoredStart_ordered (capacity_le_usizeMax p) (h.idle ho hidle) bufs fds
  | startFlush next hidle =>
    refine h.order_settle ?_ _ _
    rw [← List.append_nil (shortRequests s.issued)]
    exact flushImplStart_ordered (capacity_le_usizeMax p) (h.idle ho hidle) .ret
  | feed m suspended k r h₀ =>
    refine h.order_settle ?_ _ _
    have hp := ho.held h.drops t _ h.holder h₀
    cases m with
    | flush position k' => exact feed_ordered (capacity_le_usizeMax p) hp r
    | direct d => exact hp.elim

end HeldBy

section Step

variable {cfg : Config}

theorem OrderInv.of_step {s s' : Conn} (hg : GuardInv s) (ho : OrderInv s) {e : Event}
    (h : step cfg s e = some s') : OrderInv s' := by
  by_cases hd : s.drops = []
  · rcases step_cases h with ⟨pc, -, rfl⟩ | ⟨t, k, hh, ht, ⟨-, rfl⟩ | ⟨hc, rfl⟩⟩ |
      ⟨t, pc, ht, hpc, hm⟩ | ⟨t, pc, ht, hpc, rfl⟩
    · exact ho.spawn hg _
    · exact ho.setPc_free hg ht rfl _
    · exact (hg.lockedBy hh hc ht).order_move (ho.lockedBy hd hh ht) (HolderMove.acquired ht)
    · exact (hg.heldBy ht hpc).order_move ho hm
    · exact ho.setPc_free hg ht hpc _
  · obtain ⟨hiss, hw, hd'⟩ := hg.step_of_dropped hd h
    exact OrderInv.of_dropped (by rw [hiss, hw]; exact ho.accepted) hd'

theorem Reachable.orderInv {s : Conn} (hs : Reachable cfg s) : GuardInv s ∧ OrderInv s := by
  induction hs with
  | init => exact ⟨GuardInv.init, OrderInv.init⟩
  | step _ _ h ih => exact ⟨ih.1.of_step h, ih.2.of_step ih.1 h⟩

/--
**stream が受け取る byte は、容量より小さい request を順に繋いだものの先頭である。**

届く状態のどこでも、stream が受け取った byte は、core が sequence number を出した request の
うち 16384 byte より小さいものを sequence number の順に繋いだものの先頭である。guard が
落とされておらず mutex が空いていれば、stream が受け取った byte の後に buffer を繋ぐと、
ちょうどそれになる。16384 byte 以上の request は、どこにも現れない。
-/
theorem accepted_bytes_prefix_of_short_requests {s : Conn} (hs : Reachable cfg s) :
    s.wire.bytes <+: shortRequests s.issued ∧
      (s.drops = [] → s.holder = none →
        s.wire.bytes ++ s.writeBuffer.buffer = shortRequests s.issued) :=
  ⟨hs.orderInv.2.accepted, hs.orderInv.2.free⟩

end Step

/-- NoOperation を送った後、それは buffer にあり、stream はまだ何も受け取っていない。 -/
theorem accepted_bytes_prefix_of_short_requests_noOperation :
    let s : Conn := ⟨⟨[127, 0, 1, 0], [], false⟩, none, ⟨[], []⟩,
      [.finished (.returned (some 1))], [[127, 0, 1, 0]], []⟩
    s.wire.bytes <+: shortRequests s.issued ∧
      (s.drops = [] → s.holder = none →
        s.wire.bytes ++ s.writeBuffer.buffer = shortRequests s.issued) :=
  @accepted_bytes_prefix_of_short_requests ⟨.x86_64, 43⟩ _ (Reachable.init.run
    [.sendRequest [[127, 0, 1, 0]] [] 262140, .lock 0, .issue 0 true] rfl)

end X11rbAsync
