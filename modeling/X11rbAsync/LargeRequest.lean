import X11rbAsync.Ordering

/-!
# stream に届く byte の順

`send_request` は core から sequence number を得た後で `write_all_vectored` を呼ぶ。payload が
buffer の容量（16384 byte）より小さければ buffer に積まれ、次の flush で順に書かれる。
容量以上の payload は直接書かれるはずだが、直接書き込みの loop は一度も回らない
（`writeAllVectored_direct`）ので、そのような request は sequence number を得たまま
stream に届かない。

## 大きな request の後

`run_large_then_wait` と `run_large_then_small` は、容量以上の任意の request について、
初めの状態から走らせた結果を symbolic に計算する。具体的な 16384 byte の request での
結果は、それを当てはめて得る。

* `waitForReply_before_large_request_written`: `send_request` が 1 を返した後、
  `wait_for_reply*(1)` も `check_for_raw_error(1)` も、stream が何も受け取らないまま
  `wait_for_incoming` に着く。
* `accepted_bytes_skip_large_request`: 続けて 4 byte の request を送って flush すると、stream が
  受け取った byte は、sequence number の順に request を繋いだものの先頭ではない。
-/

namespace X11rbAsync

/-! ## 大きな request の後 -/

section Large

variable (cfg : Config) {large : Bytes} {M : Nat}

/-- 容量以上の request を送り、その sequence number を待つ呼び出しを始めると、呼び出しは
stream が何も受け取らないまま `wait_for_incoming` に着く。 -/
theorem run_large_then_wait (hok : computeLengthField cfg.platform M [large] = .ok [large])
    (hbig : writeBufferCapacity ≤ large.length) (call : WaitCall) :
    run cfg Conn.init [.sendRequest [large] [] M, .lock 0, .issue 0 true, .wait call 1 false, .lock 1] =
      some ⟨⟨[], [], false⟩, none, ⟨[], []⟩, [.finished (.returned (some 1)), .incoming call 1],
        [large], []⟩ := by
  have hw : writeAllVectoredStart cfg.platform writeBufferCapacity ⟨[], [], true⟩ [large] [] =
      (⟨[], [], true⟩, .done []) :=
    writeAllVectoredStart_large _ (capacity_le_usizeMax cfg.platform) [] rfl rfl (by simpa using hbig)
  simp only [run, step, Conn.init, Conn.spawn, Conn.setPc, Conn.acquired, Conn.lockedBy, Conn.issue,
    Conn.startWrite, Conn.startFlush, Conn.withIo, Conn.settle, Conn.resume, Conn.unlock, hok, hw,
    flushImplStart_empty, finishFlush, ↓reduceIte, Bool.false_eq_true, and_false, Option.bind_some,
    Option.some_bind, List.nil_append, List.length_singleton, zero_lt_one, List.getElem?_eq_getElem,
    List.getElem_cons_zero, List.getElem_cons_succ, List.set_cons_zero, List.set_cons_succ,
    List.length_nil, zero_add, List.flatten_cons, List.flatten_nil, List.append_nil,
    List.singleton_append, List.length_cons, Nat.reduceAdd, Nat.one_lt_ofNat]

/-- 容量以上の request の後に小さい request を送って flush すると、stream は小さい request だけを
受け取り、どの task も `Ok` で返っている。 -/
theorem run_large_then_small {small : Bytes}
    (hok : computeLengthField cfg.platform M [large] = .ok [large])
    (hok' : computeLengthField cfg.platform M [small] = .ok [small])
    (hbig : writeBufferCapacity ≤ large.length) (hpos : 0 < small.length)
    (hsmall : small.length < writeBufferCapacity) :
    run cfg Conn.init [.sendRequest [large] [] M, .lock 0, .issue 0 true,
      .sendRequest [small] [] M, .lock 1, .issue 1 true, .flush, .lock 2,
      .answer 2 (.accept small.length)] =
      some ⟨⟨[], [], false⟩, none, ⟨small, []⟩, [.finished (.returned (some 1)),
        .finished (.returned (some 2)), .finished (.returned none)], [large, small], []⟩ := by
  have hw : writeAllVectoredStart cfg.platform writeBufferCapacity ⟨[], [], true⟩ [large] [] =
      (⟨[], [], true⟩, .done []) :=
    writeAllVectoredStart_large _ (capacity_le_usizeMax cfg.platform) [] rfl rfl (by simpa using hbig)
  have hw' : writeAllVectoredStart cfg.platform writeBufferCapacity ⟨[], [], true⟩ [small] [] =
      (⟨small, [], true⟩, .done []) := by
    rw [writeAllVectoredStart_fits _ (capacity_le_usizeMax cfg.platform) [] (by simpa using hsmall.le) (by simpa using hsmall)]
    simp
  have hf : flushImplStart cfg.platform writeBufferCapacity ⟨small, [], true⟩ .ret =
      (⟨small, [], true⟩, .running (.flush 0 .ret)) := flushImplStart_nonempty _ hpos _
  have hfeed : feed cfg.platform writeBufferCapacity ⟨small, [], true⟩ ⟨[], []⟩ (.flush 0 .ret)
      (.accept small.length) = (⟨[], [], true⟩, ⟨[] ++ small, []⟩, .done []) :=
    feed_flush_all _ rfl hpos _ (le_refl _)
  simp only [run, step, Conn.init, Conn.spawn, Conn.setPc, Conn.acquired, Conn.lockedBy, Conn.issue,
    Conn.startWrite, Conn.startFlush, Conn.withIo, Conn.settle, Conn.resume, Conn.unlock, hok, hok',
    hw, hw', hf, hfeed, ↓reduceIte, reduceCtorEq, decide_False, Bool.false_eq_true, Option.bind_some,
    Option.some_bind, List.nil_append, List.length_singleton, zero_lt_one, List.getElem?_eq_getElem,
    List.getElem_cons_zero, List.getElem_cons_succ, List.set_cons_zero, List.set_cons_succ,
    List.length_nil, zero_add, List.flatten_cons, List.flatten_nil, List.append_nil,
    List.singleton_append, List.cons_append, List.length_cons, Nat.reduceAdd, Nat.one_lt_ofNat,
    Nat.lt_add_one]

end Large

/-- 16384 byte の request。opcode 1、長さの欄は 4096（x86-64 の native byte order）。 -/
theorem totalLen_request16384 :
    totalLen [1 :: 0 :: 0 :: 16 :: List.replicate 16380 0] = 16384 := by
  rw [totalLen_first, List.length_replicate, totalLen_nil]

theorem computeLengthField_request16384 (M : Nat) :
    computeLengthField Platform.x86_64 M [1 :: 0 :: 0 :: 16 :: List.replicate 16380 0] =
      .ok [1 :: 0 :: 0 :: 16 :: List.replicate 16380 0] := by
  rw [computeLengthField_small _ M 1 0 0 16 _ [] (by rw [totalLen_request16384]; decide) (by rw [totalLen_request16384])
    (by rw [totalLen_request16384]; decide), totalLen_request16384, if_pos (by decide)]

theorem capacity_le_request16384 :
    writeBufferCapacity ≤ (1 :: 0 :: 0 :: 16 :: List.replicate 16380 (0 : UInt8)).length := by
  rw [List.length_cons, List.length_cons, List.length_cons, List.length_cons, List.length_replicate]
  decide

/--
**返った sequence number の request が書かれないまま、返事を待ち始める。**

x86-64 で、長さの欄が合った 16384 byte の request を `send_request` に渡すと、core が出した
sequence number 1 が返る。その後 `wait_for_reply(1)`、`wait_for_reply_or_raw_error(1)`、
`wait_for_reply_with_fds_raw(1)`、`check_for_raw_error(1)`（prepare が偽）のどれを呼んでも、
flush を済ませて `wait_for_incoming` に着いた時点で stream は 1 byte も受け取っていない。
-/
theorem waitForReply_before_large_request_written (call : WaitCall) :
    run ⟨.x86_64, 43⟩ Conn.init
      [.sendRequest [1 :: 0 :: 0 :: 16 :: List.replicate 16380 0] [] 262140, .lock 0, .issue 0 true,
        .wait call 1 false, .lock 1] =
      some ⟨⟨[], [], false⟩, none, ⟨[], []⟩, [.finished (.returned (some 1)), .incoming call 1],
        [1 :: 0 :: 0 :: 16 :: List.replicate 16380 0], []⟩ :=
  run_large_then_wait ⟨.x86_64, 43⟩ (computeLengthField_request16384 _) capacity_le_request16384 call

/--
**stream が受け取る byte は、request を sequence number の順に繋いだものの先頭ではない。**

x86-64 で、16384 byte の request（sequence number 1）と 4 byte の NoOperation
（sequence number 2）を送り、`flush()` が stream に 4 byte を書かせると、どの task も `Ok` で
返り buffer も空になった状態で、stream が受け取ったのは NoOperation の 4 byte だけである。
それは二つの request を順に繋いだものの先頭ではない。
-/
theorem accepted_bytes_skip_large_request :
    let s : Conn := ⟨⟨[], [], false⟩, none, ⟨[127, 0, 1, 0], []⟩,
      [.finished (.returned (some 1)), .finished (.returned (some 2)), .finished (.returned none)],
      [1 :: 0 :: 0 :: 16 :: List.replicate 16380 0, [127, 0, 1, 0]], []⟩
    run ⟨.x86_64, 43⟩ Conn.init
      [.sendRequest [1 :: 0 :: 0 :: 16 :: List.replicate 16380 0] [] 262140, .lock 0, .issue 0 true,
        .sendRequest [[127, 0, 1, 0]] [] 262140, .lock 1, .issue 1 true, .flush, .lock 2,
        .answer 2 (.accept 4)] = some s ∧
      ¬ s.wire.bytes <+: s.issued.flatten := by
  refine ⟨run_large_then_small _ (computeLengthField_request16384 _) (by rfl)
    capacity_le_request16384 (by decide) (by decide), ?_⟩
  show ¬ [127, 0, 1, 0] <+: [1 :: 0 :: 0 :: 16 :: List.replicate 16380 0, [127, 0, 1, 0]].flatten
  rw [List.flatten_cons, List.cons_append]
  exact fun h => absurd (List.cons_prefix_cons.mp h).1 (by decide)

end X11rbAsync
