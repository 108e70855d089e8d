import X11rbAsync.Ordering

/-!
# stream の上の request の枠

server は stream を頭から request ごとに読む（`decodeRequest`）。頭の 4 byte の長さの欄で
request の終わりを決めるので、stream の byte がどこかで一つずれると、後の request はすべて
読み違えられる。

## 枠を作るところ

容量（16384 byte）より小さい request は、16 bit の長さの欄の形（`SmallFramed`）で
長さの欄が request の長さと合っている。`send_request` の request は `compute_length_field` が
長さの欄を確かめたもの（`computeLengthField_ok_framed`）、`send_sync` の request は語数 1 の
4 byte（`syncRequest_framed`）だからである。`FramedInv` は、core に尋ねた request と、task が
まだ尋ねていない request についてこれを言い、一歩がこれを保つ（`FramedInv.of_step`）。

## server の読み方

枠に収まった request を繋いだものは、server が一つずつ元の request として読む
（`readRequests_frames`）。request の途中で切れた byte 列は読まれずに残る
（`SmallFramed.decode_truncated`）。stream が受け取った byte は容量より小さい request を繋いだ
ものの先頭なので（`OrderInv`）、server はいつでもそれまでに届いた request をちょうど読み、
次の request の頭だけを残す（`server_reads_short_requests`）。
-/

namespace X11rbAsync

/-! ## 枠 -/

/-- 16 bit の長さの欄を持つ request の枠。頭の 4 byte の 3、4 byte 目の語数が 0 でなく、
request の長さと合っている。 -/
def SmallFramed (e : Endian) (b : Bytes) : Prop :=
  ∃ op data l0 l1 body, b = op :: data :: l0 :: l1 :: body ∧ e.u16FromBytes l0 l1 ≠ 0 ∧
    b.length = 4 * e.u16FromBytes l0 l1

/-- 容量より小さければ `SmallFramed`。容量以上の request は stream に届かないので
（`shortRequests`）問わない。 -/
def ShortFramed (e : Endian) (b : Bytes) : Prop :=
  b.length < writeBufferCapacity → SmallFramed e b

/-- server が request `b` から読むもの（opcode、data byte、長さの欄の後の本体）。 -/
def requestFrame (b : Bytes) : UInt8 × UInt8 × Bytes := (b.headD 0, b.getD 1 0, b.drop 4)

section Frame

variable {e : Endian} {b : Bytes}

theorem SmallFramed.four_le (h : SmallFramed e b) : 4 ≤ b.length := by
  obtain ⟨op, data, l0, l1, body, rfl, -, -⟩ := h
  simp

/-- 枠に収まった request は、後ろに何が続いてもそれだけが一つの request として読まれる。 -/
theorem SmallFramed.decode (h : SmallFramed e b) (tail : Bytes) :
    decodeRequest e (b ++ tail) =
      some ((requestFrame b).1, (requestFrame b).2.1, (requestFrame b).2.2, tail) := by
  obtain ⟨op, data, l0, l1, body, rfl, h0, hl⟩ := h
  simp only [List.length_cons] at hl
  exact decodeRequest_small e op data l0 l1 body tail h0 (by omega)

/-- 枠に収まった request の途中で切れた byte 列は、request として読まれない。 -/
theorem SmallFramed.decode_truncated (h : SmallFramed e b) {p : Bytes} (hp : p <+: b)
    (hlt : p.length < b.length) : decodeRequest e p = none := by
  obtain ⟨op, data, l0, l1, body, rfl, h0, hl⟩ := h
  match p, hp with
  | [], _ | [_], _ | [_, _], _ | [_, _, _], _ => rfl
  | x0 :: x1 :: x2 :: x3 :: rest, hp =>
    obtain ⟨rfl, rfl, rfl, rfl, hp⟩ : x0 = op ∧ x1 = data ∧ x2 = l0 ∧ x3 = l1 ∧ rest <+: body := by
      simpa using hp
    simp only [List.length_cons] at hl hlt
    simp [decodeRequest, h0]
    omega

end Frame

/-! ## server の読み方 -/

/-- server が byte 列を頭から request ごとに読む。読めた request と、読めずに残った byte 列を
返す。`fuel` は読む request の数の上限である。 -/
def readRequests (e : Endian) : Nat → Bytes → List (UInt8 × UInt8 × Bytes) × Bytes
  | 0, bs => ([], bs)
  | fuel + 1, bs =>
    match decodeRequest e bs with
    | some (op, data, body, rest) =>
      ((op, data, body) :: (readRequests e fuel rest).1, (readRequests e fuel rest).2)
    | none => ([], bs)

section Read

variable {e : Endian}

/-- **枠に収まった request を繋いだものは、一つずつ元の request として読まれる。**
後ろに request として読めない byte 列 `p` があれば、それが残る。 -/
theorem readRequests_frames {L : List Bytes} (hL : ∀ b ∈ L, SmallFramed e b) {p : Bytes}
    (hp : decodeRequest e p = none) {fuel : Nat} (hfuel : L.length ≤ fuel) :
    readRequests e fuel (L.flatten ++ p) = (L.map requestFrame, p) := by
  induction L generalizing fuel with
  | nil => cases fuel <;> simp [readRequests, hp]
  | cons b L ih =>
    obtain ⟨fuel, rfl⟩ : ∃ f, fuel = f + 1 := ⟨fuel - 1, by simp at hfuel; omega⟩
    have hb := hL b (List.mem_cons_self _ _)
    simp only [List.flatten_cons, List.append_assoc, readRequests, hb.decode, List.map_cons]
    rw [ih (fun b' h' => hL b' (List.mem_cons_of_mem _ h')) (by simpa using hfuel)]

/-- NoOperation 一つと、次の NoOperation の頭の 2 byte。 -/
example : readRequests .little 6 [127, 0, 1, 0, 127, 0] = ([(127, 0, [])], [127, 0]) := by decide

theorem length_le_length_flatten {L : List Bytes} (hL : ∀ b ∈ L, SmallFramed e b) :
    L.length ≤ L.flatten.length := by
  induction L with
  | nil => exact le_rfl
  | cons b L ih =>
    have h4 := (hL b (List.mem_cons_self _ _)).four_le
    have ih := ih fun b' h' => hL b' (List.mem_cons_of_mem _ h')
    simp only [List.length_cons, List.flatten_cons, List.length_append]
    omega

end Read

/-- 繋いだものの先頭は、頭から `k` 個を繋いだものの後に、`k` 番目の途中までが続いたものである。 -/
theorem exists_prefix_flatten {L : List Bytes} {x : Bytes} (h : x <+: L.flatten) :
    ∃ k p, x = (L.take k).flatten ++ p ∧
      (p = [] ∨ ∃ b, L[k]? = some b ∧ p <+: b ∧ p.length < b.length) := by
  induction L generalizing x with
  | nil => exact ⟨0, x, by simp, .inl (List.prefix_nil.mp h)⟩
  | cons b L ih =>
    rw [List.flatten_cons] at h
    by_cases hx : x.length < b.length
    · exact ⟨0, x, by simp, .inr ⟨b, by simp,
        List.prefix_of_prefix_length_le h (List.prefix_append _ _) hx.le, hx⟩⟩
    · obtain ⟨x', rfl⟩ := List.prefix_of_prefix_length_le (List.prefix_append _ _) h (by omega)
      obtain ⟨k, p, rfl, hp⟩ := ih ((List.prefix_append_right_inj b).mp h)
      exact ⟨k + 1, p, by simp, by simpa using hp⟩

/-! ## 枠を作るところ -/

/-- `compute_length_field` が受け付けた request の頭の slice は 4 byte 以上ある。 -/
theorem computeLengthField_ok_four_le {p : Platform} {maxBytes : Nat} {firstBuf : Bytes}
    {rest bufs : List Bytes} (h : computeLengthField p maxBytes (firstBuf :: rest) = .ok bufs) :
    4 ≤ firstBuf.length := by
  obtain ⟨_, _, hreq, h4, -⟩ := computeLengthField_ok h
  cases hreq
  exact h4

/-- `compute_length_field` が返した request は、容量より小さければ枠に収まっている。容量より
小さいので長さの和は `usize` に収まり、16 bit に収まる長さでは長さの欄を確かめて返す。
収まらない長さでは容量を越える。 -/
theorem computeLengthField_ok_framed {p : Platform} {maxBytes : Nat} {request bufs : List Bytes}
    (h : computeLengthField p maxBytes request = .ok bufs) : ShortFramed p.endian bufs.flatten := by
  intro hcap
  have hfit : totalLen request ≤ p.usizeMax := by
    have := computeLengthField_ok_length h
    have := p.usizeMax_ge
    simp only [writeBufferCapacity] at hcap
    omega
  match request, h, hfit with
  | [], h, _ => simp [computeLengthField, Platform.sumLengths, computeLengthFieldFrom] at h
  | (b0 :: b1 :: b2 :: b3 :: more) :: rest, h, hfit =>
    have hlen := totalLen_first b0 b1 b2 b3 more rest
    rw [computeLengthField_of_le p maxBytes hfit] at h
    by_cases hL : totalLen ((b0 :: b1 :: b2 :: b3 :: more) :: rest) % 4 = 0
    · by_cases hs : totalLen ((b0 :: b1 :: b2 :: b3 :: more) :: rest) / 4 ≤ 65535
      · rw [← computeLengthField_of_le p maxBytes hfit,
          computeLengthField_small p maxBytes b0 b1 b2 b3 more rest hfit hL hs] at h
        split at h
        · next hw =>
          cases h
          refine ⟨b0, b1, b2, b3, more ++ rest.flatten, by simp, by omega, ?_⟩
          rw [hw, ← totalLen_eq_length_flatten]
          omega
        · cases h
      · rw [hlen] at hs
        simp only [computeLengthFieldFrom, hL, ne_eq, not_true_eq_false, if_false, hlen, hs] at h
        split_ifs at h <;> split at h <;> (try split_ifs at h) <;> cases h
        simp only [List.flatten_cons, List.length_append, List.length_cons, Endian.length_u32ToBytes,
          List.length_take, List.length_drop, ← totalLen_eq_length_flatten, writeBufferCapacity] at hcap
        omega
    · simp only [computeLengthFieldFrom, hL, ne_eq, not_false_eq_true, if_true] at h
      cases h
  | [] :: _, h, _ | [_] :: _, h, _ | [_, _] :: _, h, _ | [_, _, _] :: _, h, _ =>
    exact absurd (computeLengthField_ok_four_le h) (by simp)

/-- `send_sync` の request は語数 1 の 4 byte である。 -/
theorem syncRequest_framed (cfg : Config) : SmallFramed cfg.platform.endian cfg.syncRequest := by
  unfold Config.syncRequest
  generalize cfg.platform.endian = e
  cases e <;> exact ⟨_, _, _, _, [], rfl, by decide, rfl⟩

/-! ## 系の不変条件 -/

/-- core が sequence number を出した request のうち、容量より小さいもの。 -/
def shortIssued (issued : List Bytes) : List Bytes :=
  issued.filter fun b => b.length < writeBufferCapacity

theorem shortRequests_eq_flatten (issued : List Bytes) :
    shortRequests issued = (shortIssued issued).flatten := by
  induction issued using List.reverseRecOn with
  | nil => rfl
  | append_singleton issued b ih =>
    by_cases hb : b.length < writeBufferCapacity <;>
      simp [shortIssued, List.filter_append, ih, keptPayload, hb]

/-- core に尋ねた request と、task がまだ尋ねていない request は、容量より小さければ
枠に収まっている。 -/
structure FramedInv (e : Endian) (s : Conn) : Prop where
  issued : ∀ b ∈ s.issued, ShortFramed e b
  unissued : ∀ pc ∈ s.tasks, ∀ b, pc.unissued = some b → ShortFramed e b

namespace FramedInv

variable {e : Endian} {s : Conn}

theorem init : FramedInv e Conn.init := ⟨fun _ h => (nomatch h), fun _ h => (nomatch h)⟩

/-- request の列を変えずに、一つの task の位置を移す。 -/
theorem set (hf : FramedInv e s) {s' : Conn} {t : Nat} {pc : Pc} (hi : s'.issued = s.issued)
    (ht : s'.tasks = s.tasks.set t pc) (hpc : ∀ b, pc.unissued = some b → ShortFramed e b) :
    FramedInv e s' where
  issued := hi ▸ hf.issued
  unissued pc' h := by
    rw [ht] at h
    rcases List.mem_or_eq_of_mem_set h with h | rfl
    exacts [hf.unissued pc' h, hpc]

theorem setPc (hf : FramedInv e s) {t : Nat} {pc : Pc}
    (hpc : ∀ b, pc.unissued = some b → ShortFramed e b) : FramedInv e (s.setPc t pc) :=
  hf.set rfl rfl hpc

theorem dropGuard (hf : FramedInv e s) (t : Nat) (en : Ending) : FramedInv e (s.dropGuard t en) :=
  hf.set rfl (rfl : (s.dropGuard t en).tasks = s.tasks.set t (.finished en))
    fun _ h => by cases h

/-- 機械の様子を映した task は、機械の後に尋ねる request だけを持つ。 -/
theorem settle (hf : FramedInv e s) {k : Cont} (hk : ∀ b, k.unissued = some b → ShortFramed e b)
    (t : Nat) (suspended : Bool) (inner : WriteBufferInner) (wire : Wire) (st : WStatus) :
    FramedInv e ((s.withIo inner wire).settle t k suspended st) := by
  have hio : FramedInv e (s.withIo inner wire) := ⟨hf.issued, hf.unissued⟩
  cases st with
  | running m => exact hio.setPc hk
  | done _ => rcases k with (_ | _ | _) | (_ | _) <;> exact hio.set rfl rfl hk
  | failed _ | panicked => exact hio.dropGuard t _

theorem issue (hf : FramedInv e s) {b : Bytes} (hb : ShortFramed e b) : FramedInv e (s.issue b) where
  issued b' h := by
    rcases List.mem_append.mp h with h | h
    exacts [hf.issued b' h, List.mem_singleton.mp h ▸ hb]
  unissued := hf.unissued

theorem startWrite (hf : FramedInv e s) {k : WriteCont}
    (hk : ∀ b, (Cont.write k).unissued = some b → ShortFramed e b) (p : Platform) (t : Nat)
    (bufs : List Bytes) (fds : List Fd) : FramedInv e (s.startWrite p t bufs fds k) :=
  hf.settle hk t false _ _ _

theorem startFlush (hf : FramedInv e s) (p : Platform) (t : Nat) (next : AfterFlush) :
    FramedInv e (s.startFlush p t next) :=
  hf.settle (k := .flush next) (fun _ h => by cases h) t false _ _ _

theorem acquired (hf : FramedInv e s) {k : LockThen}
    (hk : ∀ b, (Pc.locking k).unissued = some b → ShortFramed e b) (p : Platform) (t : Nat) :
    FramedInv e ((s.lockedBy t).acquired p t k) := by
  have hl : FramedInv e (s.lockedBy t) := ⟨hf.issued, hf.unissued⟩
  cases k with
  | send bufs fds => exact hl.setPc hk
  | flush next => exact hl.startFlush p t next
  | sync seq => exact hl.setPc nofun

end FramedInv

@[simp] theorem Conn.settle_tasks_length (s : Conn) (t : Nat) (k : Cont) (suspended : Bool)
    (st : WStatus) : (s.settle t k suspended st).tasks.length = s.tasks.length := by
  cases st <;> (try rcases k with (_ | _ | _) | (_ | _)) <;> simp [Conn.settle, Conn.resume]

@[simp] theorem Conn.startWrite_tasks_length (s : Conn) (p : Platform) (t : Nat) (bufs : List Bytes)
    (fds : List Fd) (k : WriteCont) : (s.startWrite p t bufs fds k).tasks.length = s.tasks.length := by
  simp [Conn.startWrite]

@[simp] theorem Conn.startFlush_tasks_length (s : Conn) (p : Platform) (t : Nat) (next : AfterFlush) :
    (s.startFlush p t next).tasks.length = s.tasks.length := by
  simp [Conn.startFlush]

section Step

variable {cfg : Config}

/-- 一歩は、呼び出しを始めて task を一つ足すか、task の数を変えない。`send_request` が足す task は
`compute_length_field` が返した request を持つ。`Moves.spawn` はこれを忘れるので、ここで
`step` を開く。 -/
theorem step_spawn_framed {s s' : Conn} {e : Event} (h : step cfg s e = some s') :
    (∃ pc, s' = s.spawn pc ∧ ∀ b, pc.unissued = some b → ShortFramed cfg.platform.endian b) ∨
      s'.tasks.length = s.tasks.length := by
  cases e with
  | sendRequest request fds maxBytes =>
    simp only [step, Option.some.injEq] at h
    subst h
    split
    · next bufs hc =>
      exact .inl ⟨_, rfl, fun b hb => by cases hb; exact computeLengthField_ok_framed hc⟩
    all_goals exact .inl ⟨_, rfl, nofun⟩
  | flush => cases h; exact .inl ⟨_, rfl, nofun⟩
  | wait call seq prepare => cases h; exact .inl ⟨_, rfl, by split <;> exact nofun⟩
  | lock t =>
    obtain ⟨k, -, -, rfl⟩ := step_lock h
    split
    · exact .inr (List.length_set ..)
    · cases k <;> exact .inr (by simp only [Conn.acquired, Conn.startWrite_tasks_length, Conn.startFlush_tasks_length, Conn.settle_tasks_length,
      Conn.withIo_tasks, Conn.issue_tasks, Conn.setPc_tasks, Conn.dropGuard_tasks, Conn.lockedBy_tasks,
      List.length_set])
  | _ =>
    simp only [step] at h
    split at h <;> cases h <;> (try split) <;> exact .inr (by simp only [Conn.startWrite_tasks_length, Conn.startFlush_tasks_length, Conn.settle_tasks_length,
      Conn.withIo_tasks, Conn.issue_tasks, Conn.setPc_tasks, Conn.dropGuard_tasks, Conn.lockedBy_tasks,
      List.length_set])

theorem FramedInv.of_step {s s' : Conn} {e : Event} (hf : FramedInv cfg.platform.endian s)
    (h : step cfg s e = some s') : FramedInv cfg.platform.endian s' := by
  have hat : ∀ {t : Nat} {pc : Pc}, s.tasks[t]? = some pc →
      ∀ b, pc.unissued = some b → ShortFramed cfg.platform.endian b :=
    fun ht => hf.unissued _ (List.getElem?_mem ht)
  rcases step_spawn_framed h with ⟨pc, rfl, hpc⟩ | hlen
  · refine ⟨hf.issued, fun pc' h' => ?_⟩
    rcases List.mem_append.mp h' with h' | h'
    exacts [hf.unissued pc' h', List.mem_singleton.mp h' ▸ hpc]
  cases step_moves h with
  | spawn pc _ => simp at hlen
  | lockFailed t k _ _ _ => exact hf.setPc nofun
  | lock t k _ ht _ => exact hf.acquired (hat ht) _ t
  | issueSend t bufs fds ht =>
    exact (hf.issue (hat ht _ rfl)).startWrite (fun _ h => by cases h) _ t bufs fds
  | refuseSend t bufs fds ht => exact hf.setPc (hat ht :)
  | issueSync t k ht =>
    exact (hf.issue fun _ => syncRequest_framed cfg).startWrite (hat ht) _ t _ _
  | answer t m suspended k r ht => exact hf.settle (hat ht) t _ _ _ _
  | assertHolds t seq _ => exact hf.startFlush _ t _
  | refuseSync t k _ | assertFails t _ _ | abandonSuspended t _ _ _ => exact hf.dropGuard t _
  | abandonLocking t _ _ | abandonIncoming t _ _ _ => exact hf.setPc nofun

theorem Reachable.framedInv {s : Conn} (hs : Reachable cfg s) : FramedInv cfg.platform.endian s := by
  induction hs with
  | init => exact .init
  | step _ _ h ih => exact ih.of_step h

/--
**server は stream から、届いた request をちょうど読み、次の request の頭だけを残す。**

届く状態のどこでも、server が stream の受け取った byte を頭から読むと、容量より小さい
request の頭から `k` 個をそれぞれ元の request（opcode、data byte、本体）として読み、
読めずに残るのは空か、`k + 1` 個目の request の途中までである。request の境目を読み違える
ことはない。
-/
theorem server_reads_short_requests {s : Conn} (hs : Reachable cfg s) :
    ∃ k leftover, readRequests cfg.platform.endian s.wire.bytes.length s.wire.bytes =
        (((shortIssued s.issued).take k).map requestFrame, leftover) ∧
      (leftover = [] ∨ ∃ b, (shortIssued s.issued)[k]? = some b ∧ leftover <+: b ∧
        leftover.length < b.length) := by
  have hframed : ∀ b ∈ shortIssued s.issued, SmallFramed cfg.platform.endian b := fun b hb => by
    obtain ⟨hb, hshort⟩ := List.mem_filter.mp hb
    exact hs.framedInv.issued b hb (by simpa using hshort)
  have hacc := hs.orderInv.2.accepted
  rw [shortRequests_eq_flatten] at hacc
  obtain ⟨k, p, hw, hp⟩ := exists_prefix_flatten hacc
  have htake : ∀ b ∈ (shortIssued s.issued).take k, SmallFramed cfg.platform.endian b :=
    fun b hb => hframed b (List.mem_of_mem_take hb)
  have hnone : decodeRequest cfg.platform.endian p = none := by
    rcases hp with rfl | ⟨b, hb, hpb, hlt⟩
    · rfl
    · exact (hframed b (List.getElem?_mem hb)).decode_truncated hpb hlt
  refine ⟨k, p, ?_, hp⟩
  rw [hw]
  exact readRequests_frames htake hnone (by
    simp only [List.length_append]
    exact le_add_right (length_le_length_flatten htake))

end Step

/-- NoOperation を二つ送り、flush の最初の write で stream が 6 byte を受け取った状態。server は
一つ目を読み、二つ目の頭の 2 byte を残す。 -/
theorem server_reads_short_requests_partialWrite :
    let s : Conn := ⟨⟨[127, 0, 1, 0, 127, 0, 1, 0], [], true⟩, some 2, ⟨[127, 0, 1, 0, 127, 0], []⟩,
      [.finished (.returned (some 1)), .finished (.returned (some 2)),
        .writing (.flush 6 .ret) false (.flush .returned)], [[127, 0, 1, 0], [127, 0, 1, 0]], []⟩
    ∃ k leftover, readRequests Endian.little s.wire.bytes.length s.wire.bytes =
        (((shortIssued s.issued).take k).map requestFrame, leftover) ∧
      (leftover = [] ∨ ∃ b, (shortIssued s.issued)[k]? = some b ∧ leftover <+: b ∧
        leftover.length < b.length) :=
  @server_reads_short_requests ⟨.x86_64, 43⟩ _ (Reachable.init.run
    [.sendRequest [[127, 0, 1, 0]] [] 262140, .lock 0, .issue 0 true,
      .sendRequest [[127, 0, 1, 0]] [] 262140, .lock 1, .issue 1 true, .flush, .lock 2,
      .answer 2 (.accept 6)] rfl)

end X11rbAsync
