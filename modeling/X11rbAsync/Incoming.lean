import X11rbAsync.Ordering

/-!
# 返事を待つ前の flush

`wait_for_reply*` と `check_for_raw_error` は、`wait_for_incoming` に進む前に
`flush_impl(self.write_buffer.lock().await?)` を済ませて guard を `unlock()` する。`flush_impl` が
`Ok` で返ったとき buffer は空なので、呼び出しが `wait_for_incoming` に着いた一歩の後では、
buffer は空で、stream はそれまでに sequence number を得た request のうち容量より小さいものを
全部、順に受け取っている（`wait_reaches_incoming_after_flush`）。容量以上の request はここにも
現れない。

`RetFlush` は、`flush_impl` だけを走らせる machine（続きが `FlushThen.ret`）がその続きのまま
走り、`Ok` で返るときには buffer が空であることを言う。`Pc.ContOk` は、続きが `Cont.flush` の
task がそのような machine を動かしていることを言う。
-/

namespace X11rbAsync

/-! ## `flush_impl` だけの machine -/

section Machine

variable {p : Platform} (cap : Nat)

/-- `flush_impl` だけを走らせる machine の様子。 -/
def RetFlush (inner : WriteBufferInner) : WStatus → Prop
  | .running m => ∃ position, m = .flush position .ret
  | .done _ => inner.buffer = []
  | .failed _ | .panicked => True

theorem flushLoopHead_retFlush (inner : WriteBufferInner) (position : Nat) :
    RetFlush (flushLoopHead p cap inner position .ret).1 (flushLoopHead p cap inner position .ret).2 := by
  unfold flushLoopHead
  split
  · exact ⟨_, rfl⟩
  · split
    · rfl
    · trivial

theorem flushImplStart_retFlush (inner : WriteBufferInner) :
    RetFlush (flushImplStart p cap inner .ret).1 (flushImplStart p cap inner .ret).2 := by
  unfold flushImplStart
  split
  · next he =>
    simp only [Bool.and_eq_true, List.isEmpty_iff] at he
    exact he.1
  · exact flushLoopHead_retFlush cap inner 0

theorem feed_retFlush (inner : WriteBufferInner) (wire : Wire) (position : Nat) (r : WriteResult) :
    RetFlush (feed p cap inner wire (.flush position .ret) r).1
      (feed p cap inner wire (.flush position .ret) r).2.2 := by
  cases r with
  | wouldBlock => exact ⟨_, rfl⟩
  | fail kind => trivial
  | accept n =>
    rw [feed_flush_accept]
    split
    · trivial
    · exact flushLoopHead_retFlush cap _ _

end Machine

/-! ## 続きと machine -/

/-- 続きが `Cont.flush` の task は、`flush_impl` だけの machine を動かしている。 -/
def Pc.ContOk : Pc → Prop
  | .writing m _ (.flush _) => ∃ position, m = .flush position .ret
  | _ => True

/-- どの task の位置も `Pc.ContOk` を満たす。 -/
def ContOk (tasks : List Pc) : Prop := ∀ (t : Nat) (pc : Pc), tasks[t]? = some pc → pc.ContOk

theorem ContOk.get {tasks : List Pc} (hc : ContOk tasks) {t : Nat} {pc : Pc}
    (h : tasks[t]? = some pc) : pc.ContOk :=
  hc t pc h

theorem Pc.contOk_of_machine {pc : Pc} (hm : pc.machine = none) : pc.ContOk := by
  cases pc with
  | writing => simp [Pc.machine] at hm
  | _ => trivial

theorem ContOk.set {tasks : List Pc} (hc : ContOk tasks) (t : Nat) {pc : Pc} (hpc : pc.ContOk) :
    ContOk (tasks.set t pc) :=
  forall_getElem?_set (fun _ _ _ hx => hc.get hx) hpc

/-- machine の様子を task に映す。走り続ける machine が `Pc.ContOk` を満たせば保たれる。 -/
theorem ContOk.settle {s : Conn} (hc : ContOk s.tasks) (t : Nat) (k : Cont) (suspended : Bool)
    {inner : WriteBufferInner} {wire : Wire} {st : WStatus}
    (hst : ∀ m, st = .running m → (Pc.writing m suspended k).ContOk) :
    ContOk ((s.withIo inner wire).settle t k suspended st).tasks := by
  cases st with
  | running m => exact hc.set t (hst m rfl)
  | done _ => rcases k with (_ | _ | _) | (_ | _) <;> exact hc.set t trivial
  | failed _ => exact hc.set t trivial
  | panicked => exact hc.set t trivial

/-- `flush_impl` だけの machine は、続きが何であれ `Pc.ContOk` を満たす。 -/
theorem RetFlush.contOk {inner : WriteBufferInner} {st : WStatus} (h : RetFlush inner st)
    (suspended : Bool) (k : Cont) : ∀ m, st = .running m → (Pc.writing m suspended k).ContOk := by
  rintro m rfl
  obtain ⟨position, rfl⟩ := h
  rcases k with _ | _
  · trivial
  · exact ⟨position, rfl⟩

theorem HolderMove.contOk {p : Platform} {s s' : Conn} {t : Nat} (hm : HolderMove p s t s')
    (hc : ContOk s.tasks) :
    ContOk s'.tasks := by
  cases hm with
  | setPc pc _ hm _ => exact hc.set t (Pc.contOk_of_machine hm)
  | dropGuard e => exact hc.set t trivial
  | startWrite b bufs fds k =>
    exact ContOk.settle (s := s.issue b) hc t _ false fun _ _ => trivial
  | startFlush next =>
    exact hc.settle t _ false ((flushImplStart_retFlush _ s.writeBuffer).contOk false _)
  | feed m suspended k r h₀ =>
    refine hc.settle t k _ ?_
    rcases k with k | next
    · exact fun _ _ => trivial
    · obtain ⟨position, rfl⟩ := hc.get h₀
      exact (feed_retFlush _ s.writeBuffer s.wire position r).contOk _ _

/-! ## `wait_for_incoming` に着く一歩 -/

/-- machine の様子を task に映して task `u` が初めて `incoming` に着いたなら、machine は続き
`wait_for_incoming` のまま `Ok` で返り、guard は `unlock()` された。その machine が `RetFlush` を
満たせば buffer は空である。 -/
theorem settle_incoming {s : Conn} {t u : Nat} {k : Cont} {suspended : Bool}
    {inner : WriteBufferInner} {wire : Wire} {st : WStatus} {call : WaitCall} {seq : Nat}
    (hr : k = .flush (.incoming call seq) → RetFlush inner st)
    (hbefore : s.tasks[u]? ≠ some (.incoming call seq))
    (hafter : ((s.withIo inner wire).settle t k suspended st).tasks[u]? = some (.incoming call seq)) :
    ((s.withIo inner wire).settle t k suspended st).writeBuffer.buffer = [] ∧
      ((s.withIo inner wire).settle t k suspended st).holder = none ∧
      ((s.withIo inner wire).settle t k suspended st).drops = s.drops := by
  cases st with
  | done fds =>
    rcases k with (_ | _ | _) | (_ | _) <;>
      simp only [Conn.settle, Conn.resume, Conn.setPc_tasks, Conn.unlock_tasks,
        Conn.withIo_tasks] at hafter <;>
      cases eq_of_getElem?_set_of_ne hbefore hafter
    exact ⟨hr rfl, rfl, rfl⟩
  | running m | failed e | panicked =>
    simp only [Conn.settle, Conn.setPc_tasks, Conn.dropGuard_tasks, Conn.withIo_tasks] at hafter
    cases eq_of_getElem?_set_of_ne hbefore hafter

/-- guard を持つ task の一歩で task `u` が初めて `incoming` に着いたなら、buffer は空で、mutex は
空き、落とされた guard は増えていない。 -/
theorem HolderMove.incoming {p : Platform} {s s' : Conn} {t u : Nat} (hm : HolderMove p s t s')
    (hc : ContOk s.tasks)
    {call : WaitCall} {seq : Nat} (hbefore : s.tasks[u]? ≠ some (.incoming call seq))
    (hafter : s'.tasks[u]? = some (.incoming call seq)) :
    s'.writeBuffer.buffer = [] ∧ s'.holder = none ∧ s'.drops = s.drops := by
  cases hm with
  | setPc pc hpc _ _ =>
    cases eq_of_getElem?_set_of_ne hbefore hafter
    cases hpc
  | dropGuard e => cases eq_of_getElem?_set_of_ne hbefore hafter
  | startWrite b bufs fds k _ _ =>
    exact settle_incoming (s := s.issue b) (fun h => by cases h) hbefore hafter
  | startFlush next _ =>
    exact settle_incoming (fun _ => flushImplStart_retFlush _ _) hbefore hafter
  | feed m suspended k r h₀ =>
    refine settle_incoming ?_ hbefore hafter
    rintro rfl
    obtain ⟨position, rfl⟩ := hc.get h₀
    exact feed_retFlush _ _ _ _ _

section Step

variable {cfg : Config}

theorem ContOk.of_step {s s' : Conn} (hc : ContOk s.tasks) {e : Event} (h : step cfg s e = some s') :
    ContOk s'.tasks := by
  rcases step_cases h with ⟨pc, hpc, rfl⟩ | ⟨t, k, -, ht, ⟨-, rfl⟩ | ⟨-, rfl⟩⟩ |
    ⟨t, pc, -, -, hm⟩ | ⟨t, pc, -, -, rfl⟩
  · refine forall_getElem?_concat (fun _ _ hx => hc.get hx) ?_
    cases pc with
    | writing => cases hpc
    | _ => trivial
  · exact hc.set t trivial
  · exact (HolderMove.acquired ht).contOk hc
  · exact hm.contOk hc
  · exact hc.set t trivial

theorem Reachable.contOk {s : Conn} (hs : Reachable cfg s) : ContOk s.tasks := by
  induction hs with
  | init => exact fun t pc h => by simp [Conn.init] at h
  | step _ _ h ih => exact ih.of_step h

/-- 一歩で task `t` の位置が `incoming` に変わったなら、その一歩の後では buffer は空で、stream は
`shortRequests` を受け取っている。 -/
theorem incoming_flushed {s s' : Conn} (hs : Reachable cfg s) {e : Event}
    (h : step cfg s e = some s') {t : Nat} {call : WaitCall} {seq : Nat}
    (hbefore : s.tasks[t]? ≠ some (.incoming call seq))
    (hafter : s'.tasks[t]? = some (.incoming call seq)) :
    s'.writeBuffer.buffer = [] ∧ s'.wire.bytes = shortRequests s'.issued := by
  have hg := hs.guardInv
  suffices hf : s'.writeBuffer.buffer = [] ∧ s'.holder = none ∧ s'.drops = [] by
    have hw := (Reachable.step e hs h).orderInv.2.free hf.2.2 hf.2.1
    rw [hf.1, List.append_nil] at hw
    exact ⟨hf.1, hw⟩
  rcases step_cases h with ⟨pc, hpc, rfl⟩ | ⟨u, k, hh, hu, ⟨-, rfl⟩ | ⟨hcor, rfl⟩⟩ |
    ⟨u, pc, hu, hpc, hm⟩ | ⟨u, pc, -, -, rfl⟩
  · obtain ⟨-, rfl⟩ := (getElem?_concat_cases hafter).resolve_left hbefore
    cases hpc
  · cases eq_of_getElem?_set_of_ne hbefore hafter
  · obtain ⟨hb, hh', hd⟩ := (HolderMove.acquired hu).incoming hs.contOk hbefore hafter
    exact ⟨hb, hh', hd.trans (hg.lockedBy hh hcor hu).drops⟩
  · obtain ⟨hb, hh', hd⟩ := hm.incoming hs.contOk hbefore hafter
    exact ⟨hb, hh', hd.trans (hg.heldBy hu hpc).drops⟩
  · cases eq_of_getElem?_set_of_ne hbefore hafter

/--
**返事を待つ呼び出しが `wait_for_incoming` に着いた一歩の後では、buffer は空で、stream は容量より
小さい request を順に全部受け取っている。**

届く状態から一歩で task `t` の位置が `incoming call seq` に変わったなら、その一歩の後では
write buffer は空で、stream が受け取った byte はちょうど `shortRequests` である。
-/
theorem wait_reaches_incoming_after_flush {s s' : Conn} (hs : Reachable cfg s) {e : Event}
    (h : step cfg s e = some s') {t : Nat} {call : WaitCall} {seq : Nat}
    (hbefore : s.tasks[t]? ≠ some (.incoming call seq))
    (hafter : s'.tasks[t]? = some (.incoming call seq)) :
    s'.writeBuffer.buffer = [] ∧ s'.wire.bytes = shortRequests s'.issued :=
  incoming_flushed hs h hbefore hafter

/--
**待つ request が容量より小さければ、`wait_for_incoming` に着いたとき stream はその request を
全部受け取っている。**

sequence number `seq` の request は `issued` の `seq - 1` 番目である。返事を待つ呼び出しが
`wait_for_incoming` に着いた一歩の後では、stream が受け取った byte は、それより前の容量より
小さい request を順に繋ぎ、続けて request `seq` をそのまま置いたもので始まる。
-/
theorem wait_reaches_incoming_after_request_sent {s s' : Conn} (hs : Reachable cfg s) {e : Event}
    (h : step cfg s e = some s') {t : Nat} {call : WaitCall} {seq : Nat}
    (hbefore : s.tasks[t]? ≠ some (.incoming call seq))
    (hafter : s'.tasks[t]? = some (.incoming call seq)) {b : Bytes}
    (hb : s'.issued[seq - 1]? = some b) (hshort : b.length < writeBufferCapacity) :
    shortRequests (s'.issued.take (seq - 1)) ++ b <+: s'.wire.bytes := by
  rw [(incoming_flushed hs h hbefore hafter).2, shortRequests_split hb, keptPayload, if_pos hshort]
  exact List.prefix_append _ _

end Step

/-- NoOperation を送った後、`wait_for_reply` が flush を始め、stream が 4 byte を受け取ると
`wait_for_incoming` に着く。 -/
theorem wait_reaches_incoming_after_flush_waitForReply :
    let s : Conn := ⟨⟨[127, 0, 1, 0], [], true⟩, some 1, ⟨[], []⟩,
      [.finished (.returned (some 1)), .writing (.flush 0 .ret) false (.flush (.incoming .waitForReply 1))],
      [[127, 0, 1, 0]], []⟩
    let s' : Conn := ⟨⟨[], [], false⟩, none, ⟨[127, 0, 1, 0], []⟩,
      [.finished (.returned (some 1)), .incoming .waitForReply 1], [[127, 0, 1, 0]], []⟩
    step ⟨.x86_64, 43⟩ s (.answer 1 (.accept 4)) = some s' ∧
      s.tasks[1]? ≠ some (.incoming .waitForReply 1) ∧ s'.tasks[1]? = some (.incoming .waitForReply 1) ∧
      s'.writeBuffer.buffer = [] ∧ s'.wire.bytes = shortRequests s'.issued :=
  ⟨rfl, by decide, rfl, @wait_reaches_incoming_after_flush ⟨.x86_64, 43⟩ _ _ (Reachable.init.run
    [.sendRequest [[127, 0, 1, 0]] [] 262140, .lock 0, .issue 0 true, .wait .waitForReply 1 false,
      .lock 1] rfl) (.answer 1 (.accept 4)) rfl 1 .waitForReply 1 (by decide) rfl⟩

/-- 同じ run で、待つ NoOperation（sequence number 1）は stream に届いている。 -/
theorem wait_reaches_incoming_after_request_sent_waitForReply :
    let s : Conn := ⟨⟨[127, 0, 1, 0], [], true⟩, some 1, ⟨[], []⟩,
      [.finished (.returned (some 1)), .writing (.flush 0 .ret) false (.flush (.incoming .waitForReply 1))],
      [[127, 0, 1, 0]], []⟩
    let s' : Conn := ⟨⟨[], [], false⟩, none, ⟨[127, 0, 1, 0], []⟩,
      [.finished (.returned (some 1)), .incoming .waitForReply 1], [[127, 0, 1, 0]], []⟩
    step ⟨.x86_64, 43⟩ s (.answer 1 (.accept 4)) = some s' ∧
      s.tasks[1]? ≠ some (.incoming .waitForReply 1) ∧ s'.tasks[1]? = some (.incoming .waitForReply 1) ∧
      s'.issued[1 - 1]? = some [127, 0, 1, 0] ∧ [127, 0, 1, 0].length < writeBufferCapacity ∧
      shortRequests (s'.issued.take (1 - 1)) ++ [127, 0, 1, 0] <+: s'.wire.bytes :=
  ⟨rfl, by decide, rfl, rfl, by decide, @wait_reaches_incoming_after_request_sent ⟨.x86_64, 43⟩ _ _
    (Reachable.init.run [.sendRequest [[127, 0, 1, 0]] [] 262140, .lock 0, .issue 0 true,
      .wait .waitForReply 1 false, .lock 1] rfl) (.answer 1 (.accept 4)) rfl 1 .waitForReply 1
    (by decide) rfl _ rfl (by decide)⟩

end X11rbAsync
