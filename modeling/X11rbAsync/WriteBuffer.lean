import X11rbAsync.LengthField

/-!
# write buffer

`write_all_vectored` と `flush_impl` を、stream の答えを一つずつ受け取る機械として書く。

## 機械

guard が守る `WriteBufferInner` と stream（`Wire`）の上で、途中の位置（`Writing`）が
stream の答え（`WriteResult`）を一つ受けて進む（`feed`）。答えを待たずに進むところ
（loop の頭、buffer に積む、直接書き込みの入口）は `flushLoopHead` / `finishWrite` /
`directHead` がまとめて進める。`writeAllVectored` と `flushImpl` は、答えの列でこの機械を
止まるまで回したものである。並行な系（`Connection`）の task も同じ `feed` で進む。

## `usize` の和

`total_len` は `saturating_add` で足した和（`Platform.saturatingTotalLen`）で、`usize::MAX` で
止まる。flush するかどうかの判定 `self.buffer.len() + total_len > self.capacity` の `+` は
`usize` の `+` で（`Platform.add`）、overflow の検査が有効な build では溢れると panic し、
release build では `2 ^ usizeBits` で割った余りになる（`writeAllVectored_panics_only_on_overflow`）。
`debug_assert!` は `debugAssertions` が立っている build でだけ評価する。

## 直接書き込み

`write_all_vectored` は、buffer に収まらない payload を stream に直接書く。その loop の条件は
`total_len > 0 && !partial.is_empty()` で、`partial` は空から始まるので、loop は一度も回らない。
payload は書かれず、buffer にも積まれず、呼び出し元の fd も残る（`writeAllVectored_direct`）。
-/

namespace X11rbAsync

/-- `WriteBufferInner`。 -/
structure WriteBufferInner where
  buffer : Bytes
  fds : List Fd
  corrupted : Bool
  deriving DecidableEq, Repr

/-- 直接書き込みの closure が掴む `total_len`、`partial`、`bufs`、`fds`。 -/
structure DirectSt where
  totalLen : Nat
  partialBuf : Bytes
  bufs : List Bytes
  fds : List Fd
  deriving DecidableEq, Repr

/-- 直接書き込みの loop の条件 `total_len > 0 && !partial.is_empty()`。 -/
def DirectSt.running (d : DirectSt) : Bool := 0 < d.totalLen && !d.partialBuf.isEmpty

/-- `flush_impl` が返った後にすること。 -/
inductive FlushThen where
  /-- `write_all_vectored` の続き（payload を積むか、直接書く）。 -/
  | write (bufs : List Bytes) (fds : List Fd)
  /-- `flush_impl` の呼び出し元へ返る。 -/
  | ret
  deriving DecidableEq, Repr

/-- stream の答えを待つ位置。 -/
inductive Writing where
  /-- `flush_impl` の loop。`position` まで書いた。 -/
  | flush (position : Nat) (k : FlushThen)
  /-- `write_all_vectored` の直接書き込みの loop。 -/
  | direct (d : DirectSt)
  deriving DecidableEq, Repr

/-- 機械の様子。`done` は `Ok` で返ったことで、呼び出し元の `fds` に残ったものを持つ。 -/
inductive WStatus where
  | running (m : Writing)
  | done (fds : List Fd)
  | failed (e : ConnectionError)
  | panicked
  deriving DecidableEq, Repr

/-- `flush_impl` が loop の後で fd が残っているのを見たときの誤り。 -/
def fdsNotWritten : ConnectionError := .ioError ⟨.other, some "failed to write all fds"⟩

/-- `flush_impl` の write が 0 byte を受け取ったときの誤り。 -/
def flushWriteZero : ConnectionError := .ioError ⟨.writeZero, some "failed to write whole buffer"⟩

/-- 直接書き込みの write が 0 byte を受け取ったときの誤り（`io::Error::from(WriteZero)`）。 -/
def directWriteZero : ConnectionError := .ioError ⟨.writeZero, none⟩

/--
`write_vectored` が `n` byte 受け取った後の slice の進め方。

`while n > 0 { if n >= bufs[0].len() { n -= bufs[0].len(); bufs = &bufs[1..] }
else { partial = &bufs[0][n..]; n = 0 } }`。`bufs` が尽きれば添字の範囲外で `none`。
途中で切れた slice は `partial` に入るが、`bufs` からは外さない。
-/
def advanceSlices (n : Nat) : List Bytes → Option (Bytes × List Bytes)
  | [] => if n = 0 then some ([], []) else none
  | b :: bs =>
    if n = 0 then some ([], b :: bs)
    else if b.length ≤ n then advanceSlices (n - b.length) bs
    else some (b.drop n, b :: bs)

section Machine

variable (p : Platform) (cap : Nat)

/-- 直接書き込みの loop の頭。条件が偽なら closure は `Ok(())` を返す。 -/
def directHead (inner : WriteBufferInner) (d : DirectSt) : WriteBufferInner × WStatus :=
  if d.running then (inner, .running (.direct d)) else (inner, .done d.fds)

/-- `write_all_vectored` の後半。`total_len`（長さを飽和させて足したもの）が容量より小さければ
payload を buffer に積み、そうでなければ直接書く。`debug_assert!(buffer.is_empty())` は
debug assertions のある build でだけ確かめ、偽なら panic する。 -/
def finishWrite (inner : WriteBufferInner) (bufs : List Bytes) (fds : List Fd) :
    WriteBufferInner × WStatus :=
  if p.saturatingTotalLen bufs < cap then
    ({ inner with buffer := inner.buffer ++ bufs.flatten, fds := inner.fds ++ fds }, .done [])
  else if !p.debugAssertions || inner.buffer.isEmpty then
    directHead inner ⟨p.saturatingTotalLen bufs, [], bufs, fds⟩
  else (inner, .panicked)

/-- `flush_impl` が書き終えた後。 -/
def finishFlush (inner : WriteBufferInner) : FlushThen → WriteBufferInner × WStatus
  | .ret => (inner, .done [])
  | .write bufs fds => finishWrite p cap inner bufs fds

/-- `flush_impl` の loop の頭 `while position < buffer.len()`。loop を出たら fd が
残っていないかを見て、buffer を空にする。 -/
def flushLoopHead (inner : WriteBufferInner) (position : Nat) (k : FlushThen) :
    WriteBufferInner × WStatus :=
  if position < inner.buffer.length then (inner, .running (.flush position k))
  else if inner.fds.isEmpty then finishFlush p cap { inner with buffer := [] } k
  else (inner, .failed fdsNotWritten)

/-- `flush_impl` の入口。buffer も fd も空なら何もしない。 -/
def flushImplStart (inner : WriteBufferInner) (k : FlushThen) : WriteBufferInner × WStatus :=
  if inner.buffer.isEmpty && inner.fds.isEmpty then finishFlush p cap inner k
  else flushLoopHead p cap inner 0 k

/-- `write_all_vectored` の入口。`buffer.len() + total_len` は `usize` の `+` で、溢れると
overflow checks のある build は panic し、無い build は回った値で比べる。その和が容量を越えれば
先に flush する。 -/
def writeAllVectoredStart (inner : WriteBufferInner) (bufs : List Bytes) (fds : List Fd) :
    WriteBufferInner × WStatus :=
  match p.add inner.buffer.length (p.saturatingTotalLen bufs) with
  | none => (inner, .panicked)
  | some n =>
    if n > cap then flushImplStart p cap inner (.write bufs fds)
    else finishWrite p cap inner bufs fds

/-- 直接書き込みの loop の本体の一回。 -/
def directStep (inner : WriteBufferInner) (wire : Wire) (d : DirectSt) (n : Nat) :
    WriteBufferInner × Wire × WStatus :=
  if !d.partialBuf.isEmpty then
    let (wire', fds', m) := wire.write d.partialBuf d.fds n
    if m = 0 then (inner, wire, .failed directWriteZero)
    else (inner, wire', (directHead inner
      { d with partialBuf := d.partialBuf.drop m, totalLen := d.totalLen - m, fds := fds' }).2)
  else
    let (wire', fds', m) := wire.write d.bufs.flatten d.fds n
    if m = 0 then (inner, wire, .failed directWriteZero)
    else
      match advanceSlices m d.bufs with
      | some (partialBuf, bufs) =>
        (inner, wire', (directHead inner
          { totalLen := d.totalLen - m, partialBuf, bufs, fds := fds' }).2)
      | none => (inner, wire', .panicked)

/-- stream の答えを一つ受けて進む。`wouldBlock` の後は `writable()` を待ってやり直す。 -/
def feed (inner : WriteBufferInner) (wire : Wire) : Writing → WriteResult →
    WriteBufferInner × Wire × WStatus
  | .flush position k, .accept n =>
    let (wire', fds', m) := wire.write (inner.buffer.drop position) inner.fds n
    if m = 0 then (inner, wire, .failed flushWriteZero)
    else
      let r := flushLoopHead p cap { inner with fds := fds' } (position + m) k
      (r.1, wire', r.2)
  | .direct d, .accept n => directStep inner wire d n
  | m, .wouldBlock => (inner, wire, .running m)
  | _, .fail kind => (inner, wire, .failed (.ioError ⟨kind, none⟩))

/-- 答えの列で、答えが尽きるか返るまで回す。 -/
def runWriting : WriteBufferInner → Wire → WStatus → List WriteResult →
    WriteBufferInner × Wire × WStatus
  | inner, wire, .running m, r :: rs =>
    let x := feed p cap inner wire m r
    runWriting x.1 x.2.1 x.2.2 rs
  | inner, wire, st, _ => (inner, wire, st)

/-- `write_all_vectored(guard, bufs, &mut fds)`。 -/
def writeAllVectored (inner : WriteBufferInner) (bufs : List Bytes) (fds : List Fd) (wire : Wire)
    (rs : List WriteResult) : WriteBufferInner × Wire × WStatus :=
  let x := writeAllVectoredStart p cap inner bufs fds
  runWriting p cap x.1 wire x.2 rs

/-- `flush_impl(guard)`。 -/
def flushImpl (inner : WriteBufferInner) (wire : Wire) (rs : List WriteResult) :
    WriteBufferInner × Wire × WStatus :=
  let x := flushImplStart p cap inner .ret
  runWriting p cap x.1 wire x.2 rs

variable {p}

/-! ### 答えを待たずに進むところ -/

/-- 直接書き込みの loop は、`partial` が空のうちは回らない。 -/
@[simp] theorem directHead_nil (inner : WriteBufferInner) (n : Nat) (bufs : List Bytes)
    (fds : List Fd) : directHead inner ⟨n, [], bufs, fds⟩ = (inner, .done fds) := by
  simp [directHead, DirectSt.running]

/-- `finishWrite` は buffer に積むか、何もせずに返るか、assert で止まる。答えは待たない。 -/
theorem finishWrite_eq (inner : WriteBufferInner) (bufs : List Bytes) (fds : List Fd) :
    finishWrite p cap inner bufs fds =
      if p.saturatingTotalLen bufs < cap then
        ({ inner with buffer := inner.buffer ++ bufs.flatten, fds := inner.fds ++ fds }, .done [])
      else if !p.debugAssertions || inner.buffer.isEmpty then (inner, .done fds)
      else (inner, .panicked) := by
  simp [finishWrite]

/-- 容量が `usize::MAX` 以下なら、payload を積むかどうかは長さの和で決まる。 -/
theorem finishWrite_eq_of_le (hcap : cap ≤ p.usizeMax) (inner : WriteBufferInner) (bufs : List Bytes)
    (fds : List Fd) :
    finishWrite p cap inner bufs fds =
      if totalLen bufs < cap then
        ({ inner with buffer := inner.buffer ++ bufs.flatten, fds := inner.fds ++ fds }, .done [])
      else if !p.debugAssertions || inner.buffer.isEmpty then (inner, .done fds)
      else (inner, .panicked) := by
  rw [finishWrite_eq, if_congr (p.saturatingTotalLen_lt_iff hcap bufs) rfl rfl]

/-- buffer が空なら、`finishWrite` は panic しない。 -/
theorem finishWrite_of_empty {inner : WriteBufferInner} (hb : inner.buffer = []) (bufs : List Bytes)
    (fds : List Fd) :
    finishWrite p cap inner bufs fds =
      if p.saturatingTotalLen bufs < cap then
        ({ inner with buffer := bufs.flatten, fds := inner.fds ++ fds }, .done [])
      else (inner, .done fds) := by
  simp [finishWrite_eq, hb]

/-- `finishFlush` は答えを待たずに返るか、assert で止まる。 -/
theorem finishFlush_cases (inner : WriteBufferInner) (k : FlushThen) :
    (∃ fds, (finishFlush p cap inner k).2 = .done fds) ∨ (finishFlush p cap inner k).2 = .panicked := by
  cases k with
  | ret => exact .inl ⟨_, rfl⟩
  | write bufs fds =>
    simp only [finishFlush, finishWrite_eq]
    split
    · exact .inl ⟨_, rfl⟩
    · split
      · exact .inl ⟨_, rfl⟩
      · exact .inr rfl

theorem finishFlush_not_running (inner : WriteBufferInner) (k : FlushThen) (m : Writing) :
    (finishFlush p cap inner k).2 ≠ .running m := by
  rcases finishFlush_cases cap inner k with ⟨_, h⟩ | h <;> rw [h] <;> simp

@[simp] theorem runWriting_done (inner : WriteBufferInner) (wire : Wire) (fds : List Fd)
    (rs : List WriteResult) : runWriting p cap inner wire (.done fds) rs = (inner, wire, .done fds) := by
  cases rs <;> rfl

@[simp] theorem runWriting_failed (inner : WriteBufferInner) (wire : Wire) (e : ConnectionError)
    (rs : List WriteResult) : runWriting p cap inner wire (.failed e) rs = (inner, wire, .failed e) := by
  cases rs <;> rfl

@[simp] theorem runWriting_panicked (inner : WriteBufferInner) (wire : Wire)
    (rs : List WriteResult) : runWriting p cap inner wire .panicked rs = (inner, wire, .panicked) := by
  cases rs <;> rfl

@[simp] theorem runWriting_nil (inner : WriteBufferInner) (wire : Wire) (st : WStatus) :
    runWriting p cap inner wire st [] = (inner, wire, st) := by
  cases st <;> rfl

/-- 止まった機械は答えを使わない。 -/
theorem runWriting_stopped {st : WStatus} (hst : ∀ m, st ≠ .running m) (inner : WriteBufferInner)
    (wire : Wire) (rs : List WriteResult) : runWriting p cap inner wire st rs = (inner, wire, st) := by
  cases st with
  | running m => exact absurd rfl (hst m)
  | done | failed | panicked => cases rs <;> rfl

theorem runWriting_cons (inner : WriteBufferInner) (wire : Wire) (m : Writing) (r : WriteResult)
    (rs : List WriteResult) :
    runWriting p cap inner wire (.running m) (r :: rs) =
      runWriting p cap (feed p cap inner wire m r).1 (feed p cap inner wire m r).2.1
        (feed p cap inner wire m r).2.2 rs := rfl

/-! ### 機械は corrupted に触れない -/

@[simp] theorem directHead_fst (inner : WriteBufferInner) (d : DirectSt) :
    (directHead inner d).1 = inner := by
  unfold directHead; split <;> rfl

@[simp] theorem finishWrite_corrupted (inner : WriteBufferInner) (bufs : List Bytes) (fds : List Fd) :
    (finishWrite p cap inner bufs fds).1.corrupted = inner.corrupted := by
  rw [finishWrite_eq]; split
  · rfl
  · split <;> rfl

@[simp] theorem finishFlush_corrupted (inner : WriteBufferInner) (k : FlushThen) :
    (finishFlush p cap inner k).1.corrupted = inner.corrupted := by
  cases k <;> simp [finishFlush]

@[simp] theorem flushLoopHead_corrupted (inner : WriteBufferInner) (position : Nat) (k : FlushThen) :
    (flushLoopHead p cap inner position k).1.corrupted = inner.corrupted := by
  unfold flushLoopHead; split
  · rfl
  · split <;> simp

@[simp] theorem flushImplStart_corrupted (inner : WriteBufferInner) (k : FlushThen) :
    (flushImplStart p cap inner k).1.corrupted = inner.corrupted := by
  unfold flushImplStart; split <;> simp

@[simp] theorem writeAllVectoredStart_corrupted (inner : WriteBufferInner) (bufs : List Bytes)
    (fds : List Fd) : (writeAllVectoredStart p cap inner bufs fds).1.corrupted = inner.corrupted := by
  unfold writeAllVectoredStart
  split
  · rfl
  · split <;> simp

@[simp] theorem directStep_fst (inner : WriteBufferInner) (wire : Wire) (d : DirectSt) (n : Nat) :
    (directStep inner wire d n).1 = inner := by
  unfold directStep
  repeat' split
  all_goals rfl

@[simp] theorem feed_corrupted (inner : WriteBufferInner) (wire : Wire) (m : Writing) (r : WriteResult) :
    (feed p cap inner wire m r).1.corrupted = inner.corrupted := by
  cases m <;> cases r <;> simp only [feed, directStep_fst]
  split <;> simp

/-- buffer も fd も空なら、`flush_impl` は何も書かずに続きへ進む。 -/
theorem flushImplStart_empty {inner : WriteBufferInner} (hb : inner.buffer = []) (hf : inner.fds = [])
    (k : FlushThen) : flushImplStart p cap inner k = finishFlush p cap inner k := by
  simp [flushImplStart, hb, hf]

/-- buffer が空でなければ、`flush_impl` は位置 0 から stream の答えを待つ。 -/
theorem flushImplStart_nonempty {inner : WriteBufferInner} (hb : 0 < inner.buffer.length)
    (k : FlushThen) : flushImplStart p cap inner k = (inner, .running (.flush 0 k)) := by
  have hne : inner.buffer.isEmpty = false := by
    cases h : inner.buffer with
    | nil => rw [h] at hb; cases hb
    | cons => rfl
  simp [flushImplStart, flushLoopHead, hne, hb]

/-- `buffer.len() + total_len` の `+` が panic すれば、入口はそこで止まる。 -/
theorem writeAllVectoredStart_of_add_none {inner : WriteBufferInner} {bufs : List Bytes}
    (fds : List Fd) (hn : p.add inner.buffer.length (p.saturatingTotalLen bufs) = none) :
    writeAllVectoredStart p cap inner bufs fds = (inner, .panicked) := by
  rw [writeAllVectoredStart, hn]

/-- `buffer.len() + total_len` が `n` なら、`n` が容量を越えるときだけ先に flush する。 -/
theorem writeAllVectoredStart_of_add_some {inner : WriteBufferInner} {bufs : List Bytes}
    (fds : List Fd) {n : Nat} (hn : p.add inner.buffer.length (p.saturatingTotalLen bufs) = some n) :
    writeAllVectoredStart p cap inner bufs fds =
      if n > cap then flushImplStart p cap inner (.write bufs fds) else finishWrite p cap inner bufs fds := by
  rw [writeAllVectoredStart, hn]

/-- `write_all_vectored` の入口は、`+` で panic するか、先に flush するか、そのまま後半に進む。 -/
theorem writeAllVectoredStart_cases (inner : WriteBufferInner) (bufs : List Bytes) (fds : List Fd) :
    writeAllVectoredStart p cap inner bufs fds = (inner, .panicked) ∨
    writeAllVectoredStart p cap inner bufs fds = flushImplStart p cap inner (.write bufs fds) ∨
    writeAllVectoredStart p cap inner bufs fds = finishWrite p cap inner bufs fds := by
  cases hn : p.add inner.buffer.length (p.saturatingTotalLen bufs) with
  | none => exact .inl (writeAllVectoredStart_of_add_none cap fds hn)
  | some n =>
    rw [writeAllVectoredStart_of_add_some cap fds hn]
    split
    · exact .inr (.inl rfl)
    · exact .inr (.inr rfl)

/-- `buffer.len() + total_len` が溢れなければ、入口は長さの和で flush するかを決める。 -/
theorem writeAllVectoredStart_of_le {inner : WriteBufferInner} {bufs : List Bytes} (fds : List Fd)
    (hfit : inner.buffer.length + totalLen bufs ≤ p.usizeMax) :
    writeAllVectoredStart p cap inner bufs fds =
      if inner.buffer.length + totalLen bufs > cap then flushImplStart p cap inner (.write bufs fds)
      else finishWrite p cap inner bufs fds := by
  rw [writeAllVectoredStart_of_add_some cap fds (n := inner.buffer.length + totalLen bufs)]
  rw [p.saturatingTotalLen_of_le (by omega), Platform.add_of_le p hfit]

/-- 空の buffer に容量以上の payload を渡すと、`write_all_vectored` は答えを待たず、何も書かずに
`Ok` で返る。 -/
theorem writeAllVectoredStart_large (hcap : cap ≤ p.usizeMax) {inner : WriteBufferInner}
    {bufs : List Bytes} (fds : List Fd) (hb : inner.buffer = []) (hf : inner.fds = [])
    (hbig : cap ≤ totalLen bufs) :
    writeAllVectoredStart p cap inner bufs fds = (inner, .done fds) := by
  have hnot : ¬ p.saturatingTotalLen bufs < cap := by
    rw [p.saturatingTotalLen_lt_iff hcap]
    omega
  have hadd : p.add inner.buffer.length (p.saturatingTotalLen bufs) =
      some (p.saturatingTotalLen bufs) := by
    rw [hb, List.length_nil, Platform.add_of_le p (by rw [Platform.saturatingTotalLen_eq]; omega),
      Nat.zero_add]
  rw [writeAllVectoredStart_of_add_some cap fds hadd]
  split
  · rw [flushImplStart_empty cap hb hf, finishFlush, finishWrite_of_empty cap hb, if_neg hnot]
  · rw [finishWrite_of_empty cap hb, if_neg hnot]

/-- 収まる payload は、答えを待たずに buffer に積まれる。 -/
theorem writeAllVectoredStart_fits (hcap : cap ≤ p.usizeMax) {inner : WriteBufferInner}
    {bufs : List Bytes} (fds : List Fd) (hfit : inner.buffer.length + totalLen bufs ≤ cap)
    (hsmall : totalLen bufs < cap) :
    writeAllVectoredStart p cap inner bufs fds =
      ({ inner with buffer := inner.buffer ++ bufs.flatten, fds := inner.fds ++ fds }, .done []) := by
  rw [writeAllVectoredStart_of_le cap fds (by omega), if_neg (by omega),
    finishWrite_eq_of_le cap hcap, if_pos hsmall]

/-- fd の無い buffer を stream が一度に全部受け取ると、flush は buffer を空にして返る。 -/
theorem feed_flush_all {inner : WriteBufferInner} (hf : inner.fds = []) (hpos : 0 < inner.buffer.length)
    (wire : Wire) {n : Nat} (hn : inner.buffer.length ≤ n) :
    feed p cap inner wire (.flush 0 .ret) (.accept n) =
      ({ inner with buffer := [] }, ⟨wire.bytes ++ inner.buffer, wire.fds⟩, .done []) := by
  have hmin : min n inner.buffer.length = inner.buffer.length := Nat.min_eq_right hn
  have hne : inner.buffer.length ≠ 0 := by omega
  simp [feed, Wire.write, hmin, hne, flushLoopHead, finishFlush, hf]

/-! ### flush の loop -/

/-- `flush_impl` の loop が保つこと。buffer は変わらず、stream は buffer の先頭 `position` byte を
受け取った。fd は、まだ一度も書いていなければ手元に、書いたなら全部 stream に渡っている。 -/
structure FlushInv (inner₀ : WriteBufferInner) (wire₀ : Wire) (inner : WriteBufferInner)
    (wire : Wire) (position : Nat) : Prop where
  buffer : inner.buffer = inner₀.buffer
  corrupted : inner.corrupted = inner₀.corrupted
  position_le : position ≤ inner₀.buffer.length
  bytes : wire.bytes = wire₀.bytes ++ inner₀.buffer.take position
  fds : (position = 0 ∧ inner.fds = inner₀.fds ∧ wire.fds = wire₀.fds) ∨
    (inner.fds = [] ∧ wire.fds = wire₀.fds ++ inner₀.fds)

theorem FlushInv.start (inner : WriteBufferInner) (wire : Wire) : FlushInv inner wire inner wire 0 :=
  ⟨rfl, rfl, Nat.zero_le _, by simp, .inl ⟨rfl, rfl, rfl⟩⟩

/-- 一回の write が 1 byte 以上受け取れば、受け取った分だけ `position` が進んで保たれる。 -/
theorem FlushInv.write {inner₀ inner : WriteBufferInner} {wire₀ wire : Wire} {position : Nat}
    (h : FlushInv inner₀ wire₀ inner wire position) (n : Nat)
    (hm : (wire.write (inner.buffer.drop position) inner.fds n).2.2 ≠ 0) :
    FlushInv inner₀ wire₀ { inner with fds := (wire.write (inner.buffer.drop position) inner.fds n).2.1 }
      (wire.write (inner.buffer.drop position) inner.fds n).1
      (position + (wire.write (inner.buffer.drop position) inner.fds n).2.2) := by
  rcases Wire.write_cases wire (inner.buffer.drop position) inner.fds n with ⟨h0, heq⟩ | ⟨hpos, heq⟩
  · rw [heq] at hm; exact absurd rfl hm
  · rw [heq]
    have hb := h.buffer
    refine ⟨hb, h.corrupted, ?_, ?_, .inr ⟨rfl, ?_⟩⟩
    · have := h.position_le; simp only [List.length_drop, hb] at hpos ⊢; omega
    · simp only [h.bytes, List.append_assoc, hb, List.take_add]
    · rcases h.fds with ⟨-, hf, hw⟩ | ⟨hf, hw⟩ <;> simp [hf, hw]

/-- loop を出たとき（`position` が buffer の長さに届いた）の buffer は、元の buffer を空にし
fd を全部渡したものである。 -/
theorem FlushInv.exit {inner₀ inner : WriteBufferInner} {wire₀ wire : Wire} {position : Nat}
    (h : FlushInv inner₀ wire₀ inner wire position) (hp : 0 < position) :
    { inner with buffer := [] } = { inner₀ with buffer := [], fds := [] } ∧
      inner.fds = [] ∧ wire.fds = wire₀.fds ++ inner₀.fds := by
  rcases h.fds with ⟨h0, -⟩ | ⟨hf, hw⟩
  · omega
  · have hb := h.buffer
    have hc := h.corrupted
    cases inner
    simp_all

theorem feed_flush_accept (inner : WriteBufferInner) (wire : Wire) (position : Nat) (k : FlushThen)
    (n : Nat) : feed p cap inner wire (.flush position k) (.accept n) =
      if (wire.write (inner.buffer.drop position) inner.fds n).2.2 = 0 then
        (inner, wire, .failed flushWriteZero)
      else
        ((flushLoopHead p cap { inner with fds := (wire.write (inner.buffer.drop position) inner.fds n).2.1 }
          (position + (wire.write (inner.buffer.drop position) inner.fds n).2.2) k).1,
        (wire.write (inner.buffer.drop position) inner.fds n).1,
        (flushLoopHead p cap { inner with fds := (wire.write (inner.buffer.drop position) inner.fds n).2.1 }
          (position + (wire.write (inner.buffer.drop position) inner.fds n).2.2) k).2) := rfl

/-- flush の loop の途中から答えの列で回すと、答えが尽きてまだ待つか、誤りで止まるか、
buffer を書き切って `finishFlush` に進む。 -/
theorem runWriting_flush {inner₀ : WriteBufferInner} {wire₀ : Wire} (k : FlushThen) :
    ∀ (rs : List WriteResult) (inner : WriteBufferInner) (wire : Wire) (position : Nat),
    FlushInv inner₀ wire₀ inner wire position → position < inner₀.buffer.length →
    (∃ m, (runWriting p cap inner wire (.running (.flush position k)) rs).2.2 = .running m) ∨
    (∃ e, (runWriting p cap inner wire (.running (.flush position k)) rs).2.2 = .failed e) ∨
    ∃ wire', wire'.bytes = wire₀.bytes ++ inner₀.buffer ∧ wire'.fds = wire₀.fds ++ inner₀.fds ∧
      runWriting p cap inner wire (.running (.flush position k)) rs =
        ((finishFlush p cap { inner₀ with buffer := [], fds := [] } k).1, wire',
          (finishFlush p cap { inner₀ with buffer := [], fds := [] } k).2) := by
  intro rs
  induction rs with
  | nil => intro inner wire position _ _; exact .inl ⟨_, rfl⟩
  | cons r rs ih =>
    intro inner wire position h hlt
    rw [runWriting_cons]
    cases r with
    | wouldBlock => exact ih inner wire position h hlt
    | fail kind => exact .inr (.inl ⟨.ioError ⟨kind, none⟩, by simp [feed]⟩)
    | accept n =>
      rw [feed_flush_accept]
      split
      · exact .inr (.inl ⟨flushWriteZero, by simp⟩)
      · next hm =>
        have h' := h.write n hm
        simp only [flushLoopHead]
        split
        · next hlt' => exact ih _ _ _ h' (by rw [← h.buffer]; simpa using hlt')
        · next hge =>
          obtain ⟨hinner, hfds, hwfds⟩ := h'.exit (by omega)
          have hfds' : (wire.write (inner.buffer.drop position) inner.fds n).2.1 = [] := hfds
          simp only [hfds', List.isEmpty_nil, if_true, hinner]
          refine .inr (.inr ⟨_, ?_, hwfds, ?_⟩)
          · rw [h'.bytes, List.take_of_length_le (by rw [← h.buffer]; simpa using hge)]
          · rw [h.corrupted]
            exact runWriting_stopped cap (finishFlush_not_running cap _ k) _ _ rs

/--
**flush は buffer を順に書き切るか、途中で止まる。**

`flush_impl` を答えの列で回すと、答えが尽きてまだ loop にいるか、誤りで止まるか、
buffer を書き切る。書き切ったなら stream は元の buffer と fd をそのまま受け取り、
後は buffer を空にした状態で `finishFlush` が続ける。
-/
theorem runWriting_flushImplStart (inner : WriteBufferInner) (wire : Wire) (k : FlushThen)
    (rs : List WriteResult) :
    (∃ m, (runWriting p cap (flushImplStart p cap inner k).1 wire (flushImplStart p cap inner k).2 rs).2.2
      = .running m) ∨
    (∃ e, (runWriting p cap (flushImplStart p cap inner k).1 wire (flushImplStart p cap inner k).2 rs).2.2
      = .failed e) ∨
    ∃ wire', wire'.bytes = wire.bytes ++ inner.buffer ∧ wire'.fds = wire.fds ++ inner.fds ∧
      runWriting p cap (flushImplStart p cap inner k).1 wire (flushImplStart p cap inner k).2 rs =
        ((finishFlush p cap { inner with buffer := [], fds := [] } k).1, wire',
          (finishFlush p cap { inner with buffer := [], fds := [] } k).2) := by
  unfold flushImplStart
  split
  · next he =>
    simp only [Bool.and_eq_true, List.isEmpty_iff] at he
    obtain ⟨hb, hf⟩ := he
    refine .inr (.inr ⟨wire, by simp [hb], by simp [hf], ?_⟩)
    have : { inner with buffer := [], fds := [] } = inner := by cases inner; simp_all
    rw [this]
    exact runWriting_stopped cap (finishFlush_not_running cap _ k) _ _ rs
  · next hne =>
    simp only [flushLoopHead]
    split
    · exact runWriting_flush cap k rs inner wire 0 (FlushInv.start inner wire) ‹_›
    · next hlen =>
      have hb : inner.buffer = [] := List.eq_nil_of_length_eq_zero (by omega)
      have hf : inner.fds.isEmpty = false := by simpa [hb] using hne
      exact .inr (.inl ⟨fdsNotWritten, by simp [hf]⟩)

/-! ### `flush_impl` と `write_all_vectored` -/

/-- **`flush_impl` が `Ok` で返れば、stream は元の buffer をそのまま順に受け取り、fd も全部
受け取っている。** buffer と fd の列は空になる。 -/
theorem flushImpl_done {inner : WriteBufferInner} {wire : Wire} {rs : List WriteResult}
    {fds' : List Fd} (h : (flushImpl p cap inner wire rs).2.2 = .done fds') :
    (flushImpl p cap inner wire rs).2.1.bytes = wire.bytes ++ inner.buffer ∧
    (flushImpl p cap inner wire rs).2.1.fds = wire.fds ++ inner.fds ∧
    (flushImpl p cap inner wire rs).1.buffer = [] ∧ (flushImpl p cap inner wire rs).1.fds = [] := by
  unfold flushImpl at h ⊢
  rcases runWriting_flushImplStart cap inner wire .ret rs with ⟨m, hm⟩ | ⟨e, he⟩ | ⟨w, hb, hf, heq⟩
  · rw [hm] at h; cases h
  · rw [he] at h; cases h
  · rw [heq]; exact ⟨hb, hf, rfl, rfl⟩

/-- fd 3 を持つ NoOperation を、stream が一度に受け取る。 -/
theorem flushImpl_done_noOperation :
    (flushImpl Platform.x86_64 16384 ⟨[127, 0, 1, 0], [3], false⟩ ⟨[], []⟩ [.accept 4]).2.1.bytes = [] ++ [127, 0, 1, 0] ∧
    (flushImpl Platform.x86_64 16384 ⟨[127, 0, 1, 0], [3], false⟩ ⟨[], []⟩ [.accept 4]).2.1.fds = [] ++ [3] ∧
    (flushImpl Platform.x86_64 16384 ⟨[127, 0, 1, 0], [3], false⟩ ⟨[], []⟩ [.accept 4]).1.buffer = [] ∧
    (flushImpl Platform.x86_64 16384 ⟨[127, 0, 1, 0], [3], false⟩ ⟨[], []⟩ [.accept 4]).1.fds = [] :=
  flushImpl_done 16384 rfl

/-- `write_all_vectored` の入口から答えの列で回すと、`buffer.len() + total_len` の `+` で panic するか、
止まるまでに flush を済ませたか否かで二通りになる。payload の行き先は `finishWrite` が決める。 -/
theorem writeAllVectored_cases (inner : WriteBufferInner) (bufs : List Bytes) (fds : List Fd)
    (wire : Wire) (rs : List WriteResult) :
    (∃ m, (writeAllVectored p cap inner bufs fds wire rs).2.2 = .running m) ∨
    (∃ e, (writeAllVectored p cap inner bufs fds wire rs).2.2 = .failed e) ∨
    (p.add inner.buffer.length (p.saturatingTotalLen bufs) = none ∧
      writeAllVectored p cap inner bufs fds wire rs = (inner, wire, .panicked)) ∨
    (∃ n, p.add inner.buffer.length (p.saturatingTotalLen bufs) = some n ∧ cap < n ∧
      ∃ wire', wire'.bytes = wire.bytes ++ inner.buffer ∧ wire'.fds = wire.fds ++ inner.fds ∧
      writeAllVectored p cap inner bufs fds wire rs =
        ((finishWrite p cap { inner with buffer := [], fds := [] } bufs fds).1, wire',
          (finishWrite p cap { inner with buffer := [], fds := [] } bufs fds).2)) ∨
    (∃ n, p.add inner.buffer.length (p.saturatingTotalLen bufs) = some n ∧ n ≤ cap ∧
      writeAllVectored p cap inner bufs fds wire rs =
        ((finishWrite p cap inner bufs fds).1, wire, (finishWrite p cap inner bufs fds).2)) := by
  cases hn : p.add inner.buffer.length (p.saturatingTotalLen bufs) with
  | none =>
    refine .inr (.inr (.inl ⟨rfl, ?_⟩))
    simp only [writeAllVectored, writeAllVectoredStart_of_add_none cap fds hn, runWriting_panicked]
  | some n =>
    unfold writeAllVectored
    rw [writeAllVectoredStart_of_add_some cap fds hn]
    split
    · next hgt =>
      rcases runWriting_flushImplStart cap inner wire (.write bufs fds) rs with h | h | ⟨w, hb, hf, heq⟩
      · exact .inl h
      · exact .inr (.inl h)
      · exact .inr (.inr (.inr (.inl ⟨n, rfl, hgt, w, hb, hf, heq⟩)))
    · next hle =>
      refine .inr (.inr (.inr (.inr ⟨n, rfl, by omega, ?_⟩)))
      exact runWriting_stopped cap (finishFlush_not_running cap inner (.write bufs fds)) _ _ rs

/-- 溢れない `buffer.len() + total_len` が容量以下なら、payload だけで容量を満たすとき buffer は空で
ある。 -/
theorem buffer_eq_nil_of_add {inner : WriteBufferInner} {bufs : List Bytes} {n : Nat}
    (hn : p.add inner.buffer.length (p.saturatingTotalLen bufs) = some n) (hle : n ≤ cap)
    (hbig : cap ≤ p.saturatingTotalLen bufs)
    (hfit : inner.buffer.length + p.saturatingTotalLen bufs ≤ p.usizeMax) : inner.buffer = [] := by
  have := p.eq_of_add_eq_some hn hfit
  exact List.eq_nil_of_length_eq_zero (by omega)

/--
**`write_all_vectored` が panic するのは、`buffer.len() + total_len` が `usize` を溢れるときだけである。**

overflow checks のある build では、溢れればそこで panic する。release build（overflow checks も
debug assertions も無い）は panic しない。直接書き込みの前の `debug_assert!(buffer.is_empty())` は、
溢れない限り、flush した後か、payload だけで容量を満たすときにしか着かないので、buffer はいつも
空である。
-/
theorem writeAllVectored_panics_only_on_overflow (inner : WriteBufferInner) (bufs : List Bytes)
    (fds : List Fd) (wire : Wire) (rs : List WriteResult) :
    ((writeAllVectored p cap inner bufs fds wire rs).2.2 = .panicked →
      p.usizeMax < inner.buffer.length + p.saturatingTotalLen bufs) ∧
    (p.overflowChecks = true → p.usizeMax < inner.buffer.length + p.saturatingTotalLen bufs →
      (writeAllVectored p cap inner bufs fds wire rs).2.2 = .panicked) ∧
    (p.overflowChecks = false → p.debugAssertions = false →
      (writeAllVectored p cap inner bufs fds wire rs).2.2 ≠ .panicked) := by
  have hempty : ∀ inner' : WriteBufferInner, inner'.buffer = [] →
      (finishWrite p cap inner' bufs fds).2 ≠ .panicked := fun inner' hb => by
    rw [finishWrite_of_empty cap hb]
    split <;> simp
  have hrelease : p.debugAssertions = false → (finishWrite p cap inner bufs fds).2 ≠ .panicked :=
    fun hd => by rw [finishWrite_eq, hd]; split <;> simp
  refine ⟨fun h => ?_, fun hc hlt => ?_, fun hc hd h => ?_⟩
  · by_contra hfit
    rcases writeAllVectored_cases cap inner bufs fds wire rs with
      ⟨m, h'⟩ | ⟨e, h'⟩ | ⟨hn, -⟩ | ⟨n, -, -, w, -, -, heq⟩ | ⟨n, hn, hle, heq⟩
    · rw [h'] at h; cases h
    · rw [h'] at h; cases h
    · exact hfit (p.lt_of_add_eq_none hn)
    · rw [heq] at h; exact hempty _ rfl h
    · rw [heq] at h
      by_cases hbig : p.saturatingTotalLen bufs < cap
      · rw [finishWrite_eq, if_pos hbig] at h; cases h
      · exact hempty _ (buffer_eq_nil_of_add cap hn hle (by omega) (by omega)) h
  · simp only [writeAllVectored, writeAllVectoredStart_of_add_none cap fds (p.add_eq_none hc hlt),
      runWriting_panicked]
  · rcases writeAllVectored_cases cap inner bufs fds wire rs with
      ⟨m, h'⟩ | ⟨e, h'⟩ | ⟨hn, -⟩ | ⟨n, -, -, w, -, -, heq⟩ | ⟨n, -, -, heq⟩
    · rw [h'] at h; cases h
    · rw [h'] at h; cases h
    · rw [p.add_of_release hc] at hn; cases hn
    · rw [heq] at h; exact hempty _ rfl h
    · rw [heq] at h; exact hrelease hd h

/-- **容量より小さい payload は、順を保って buffer に積まれる。** `buffer.len() + total_len` が
`usize` を溢れず、`write_all_vectored` が `Ok` で返れば、呼び出しの間に stream が受け取った byte と
返った buffer を繋ぐと、元の buffer と payload を繋いだものになる。buffer は容量を越えず
（再確保しない）、呼び出し元の fd は空になって、stream か buffer に移っている。 -/
theorem writeAllVectored_buffered {inner : WriteBufferInner} {bufs : List Bytes} {fds : List Fd}
    {wire : Wire} {rs : List WriteResult} {fds' : List Fd} (hsmall : totalLen bufs < cap)
    (hfit : inner.buffer.length + totalLen bufs ≤ p.usizeMax)
    (h : (writeAllVectored p cap inner bufs fds wire rs).2.2 = .done fds') :
    ∃ sent, (writeAllVectored p cap inner bufs fds wire rs).2.1.bytes = wire.bytes ++ sent ∧
      sent ++ (writeAllVectored p cap inner bufs fds wire rs).1.buffer = inner.buffer ++ bufs.flatten ∧
      (writeAllVectored p cap inner bufs fds wire rs).1.buffer.length ≤ cap ∧ fds' = [] ∧
      (writeAllVectored p cap inner bufs fds wire rs).2.1.fds ++
        (writeAllVectored p cap inner bufs fds wire rs).1.fds = wire.fds ++ inner.fds ++ fds := by
  have hlen := totalLen_eq_length_flatten bufs
  have hsat := p.saturatingTotalLen_of_le (show totalLen bufs ≤ p.usizeMax by omega)
  have hsmall' : p.saturatingTotalLen bufs < cap := by omega
  rcases writeAllVectored_cases cap inner bufs fds wire rs with
    ⟨m, hm⟩ | ⟨e, he⟩ | ⟨-, heq⟩ | ⟨n, -, -, w, hb, hf, heq⟩ | ⟨n, hn, hle, heq⟩
  · rw [hm] at h; cases h
  · rw [he] at h; cases h
  · rw [heq] at h; cases h
  · rw [heq, finishWrite_eq, if_pos hsmall'] at h ⊢
    simp only [WStatus.done.injEq] at h
    refine ⟨inner.buffer, hb, rfl, ?_, h.symm, by simp [hf]⟩
    rw [List.nil_append, ← hlen]; omega
  · have := p.eq_of_add_eq_some hn (by omega)
    rw [heq, finishWrite_eq, if_pos hsmall'] at h ⊢
    simp only [WStatus.done.injEq] at h
    refine ⟨[], by simp, by simp, ?_, h.symm, by simp⟩
    rw [List.length_append, ← hlen]; omega

/-- 空の buffer に NoOperation と fd 3 を積む。 -/
theorem writeAllVectored_buffered_noOperation :
    ∃ sent, (writeAllVectored Platform.x86_64 16384 ⟨[], [], false⟩ [[127, 0, 1, 0]] [3] ⟨[], []⟩ []).2.1.bytes =
        [] ++ sent ∧
      sent ++ (writeAllVectored Platform.x86_64 16384 ⟨[], [], false⟩ [[127, 0, 1, 0]] [3] ⟨[], []⟩ []).1.buffer =
        [] ++ [[127, 0, 1, 0]].flatten ∧
      (writeAllVectored Platform.x86_64 16384 ⟨[], [], false⟩ [[127, 0, 1, 0]] [3] ⟨[], []⟩ []).1.buffer.length ≤
        16384 ∧
      ([] : List Fd) = [] ∧
      (writeAllVectored Platform.x86_64 16384 ⟨[], [], false⟩ [[127, 0, 1, 0]] [3] ⟨[], []⟩ []).2.1.fds ++
        (writeAllVectored Platform.x86_64 16384 ⟨[], [], false⟩ [[127, 0, 1, 0]] [3] ⟨[], []⟩ []).1.fds =
        [] ++ [] ++ [3] :=
  writeAllVectored_buffered 16384 (by decide) (by decide) rfl

/-- **容量以上の payload は、どこにも書かれずに `Ok` で返る。** `buffer.len() + total_len` が
`usize` を溢れず、`write_all_vectored` が `Ok` で返ったとき、stream が受け取ったのは flush した元の
buffer だけで、buffer は空、payload の byte は stream にも buffer にも無く、呼び出し元の fd も
そのまま残っている。 -/
theorem writeAllVectored_direct {inner : WriteBufferInner} {bufs : List Bytes} {fds : List Fd}
    {wire : Wire} {rs : List WriteResult} {fds' : List Fd} (hbig : cap ≤ totalLen bufs)
    (hfit : inner.buffer.length + totalLen bufs ≤ p.usizeMax)
    (h : (writeAllVectored p cap inner bufs fds wire rs).2.2 = .done fds') :
    (writeAllVectored p cap inner bufs fds wire rs).2.1.bytes = wire.bytes ++ inner.buffer ∧
      (writeAllVectored p cap inner bufs fds wire rs).1.buffer = [] ∧ fds' = fds := by
  have hsat := p.saturatingTotalLen_of_le (show totalLen bufs ≤ p.usizeMax by omega)
  have hnot : ¬ p.saturatingTotalLen bufs < cap := by omega
  rcases writeAllVectored_cases cap inner bufs fds wire rs with
    ⟨m, hm⟩ | ⟨e, he⟩ | ⟨-, heq⟩ | ⟨n, -, -, w, hb, -, heq⟩ | ⟨n, hn, hle, heq⟩
  · rw [hm] at h; cases h
  · rw [he] at h; cases h
  · rw [heq] at h; cases h
  · rw [heq, finishWrite_of_empty cap rfl, if_neg hnot] at h ⊢
    simp only [WStatus.done.injEq] at h ⊢
    exact ⟨hb, trivial, h.symm⟩
  · have hb := buffer_eq_nil_of_add cap hn hle (by omega) (by omega)
    rw [heq, finishWrite_of_empty cap hb, if_neg hnot] at h ⊢
    simp only [hb, WStatus.done.injEq] at h ⊢
    exact ⟨by simp, trivial, h.symm⟩

/-- 容量 4 の buffer に 4 byte の payload を渡すと、何も書かれず fd 3 が残る。 -/
theorem writeAllVectored_direct_atCapacity :
    (writeAllVectored Platform.x86_64 4 ⟨[], [], false⟩ [[127, 0, 1, 0]] [3] ⟨[], []⟩ []).2.1.bytes =
        [] ++ [] ∧
      (writeAllVectored Platform.x86_64 4 ⟨[], [], false⟩ [[127, 0, 1, 0]] [3] ⟨[], []⟩ []).1.buffer = [] ∧
      ([3] : List Fd) = [3] :=
  writeAllVectored_direct 4 (by decide) (by decide) rfl

end Machine

/--
**16384 byte の payload は書かれない。**

容量 16384（`Vec::with_capacity(16384)`）の空の buffer に、16384 byte の slice と fd 3 を
`write_all_vectored` で渡すと、stream に何も答えさせないまま `Ok` で返る。stream は何も
受け取らず、buffer は空のまま、fd 3 は呼び出し元の `fds` に残る。
-/
theorem writeAllVectored_drops_large_payload :
    writeAllVectored Platform.x86_64 16384 ⟨[], [], true⟩ [List.replicate 16384 0] [3] ⟨[], []⟩ [] =
      (⟨[], [], true⟩, ⟨[], []⟩, .done [3]) := by
  have hlen : totalLen [List.replicate 16384 (0 : UInt8)] = 16384 := by
    rw [totalLen_cons, totalLen_nil, List.length_replicate]
  unfold writeAllVectored
  rw [writeAllVectoredStart_large 16384 (by decide) [3] rfl rfl hlen.ge]
  rfl

end X11rbAsync
