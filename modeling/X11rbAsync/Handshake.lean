import X11rbAsync.WriteBuffer

/-!
# 接続の setup request の書き出し

`connect_to_stream_with_auth_info` は `Connect::with_authorization` が作った setup request を
`while nwritten < setup_request.len()` の loop で書き出す。一回の write は `write_with` の中で
行い、WouldBlock なら `writable()` を待ってやり直し、`Ok(0)` は `WriteZero` の誤りにする。

setup request の中身はこの file に無い（`x11rb_protocol::connect`）ので、任意の byte 列とする。

## 一回の write と loop

`setupWriteStep_cases` が一回の write の答えを四通りに分ける。そこから、`n > 0` byte を受け取る
write は `nwritten` を進めること（`setupWriteStep_accept`）、loop の途中で stream が受け取った
byte は setup request の先頭であること（`writeSetupRequest_inv`）、受け取る byte 数の和が
残りに届けば loop は `done` で出ること（`writeSetupRequest_accepts`）、成功した write が残りの
byte 数だけ起きればそれより後の答えは読まれないこと（`writeSetupRequest_stops`）を導く。
-/

namespace X11rbAsync

/-- 書き出しの loop の状態。`fds` は空の `Vec` として始まる。 -/
structure SetupWrite where
  nwritten : Nat
  wire : Wire
  fds : List Fd
  deriving DecidableEq, Repr

/-- loop の様子。 -/
inductive SetupStatus where
  | running
  | done
  | failed (e : IoError)
  deriving DecidableEq, Repr

/-- loop の本体の一回の write の答えを受ける。 -/
def setupWriteStep (setupRequest : Bytes) (st : SetupWrite) : WriteResult → SetupWrite ⊕ SetupStatus
  | .accept n =>
    let (wire, fds, m) := st.wire.write (setupRequest.drop st.nwritten) st.fds n
    if m = 0 then .inr (.failed ⟨.writeZero, none⟩)
    else .inl ⟨st.nwritten + m, wire, fds⟩
  | .wouldBlock => .inl st
  | .fail kind => .inr (.failed ⟨kind, none⟩)

/-- `while nwritten < setup_request.len() { nwritten += write_with(..).await?; }` を答えの列で回す。
答えが尽きてもまだ書き終えていなければ `running`。 -/
def writeSetupRequest (setupRequest : Bytes) (st : SetupWrite) :
    List WriteResult → SetupWrite × SetupStatus
  | [] => (st, if st.nwritten < setupRequest.length then .running else .done)
  | r :: rs =>
    if st.nwritten < setupRequest.length then
      match setupWriteStep setupRequest st r with
      | .inl st' => writeSetupRequest setupRequest st' rs
      | .inr status => (st, status)
    else (st, .done)

/-- stream が 1 byte 以上書けたと答えた（`Ok(n)`、`n > 0`）。 -/
def WriteResult.succeeded : WriteResult → Bool
  | .accept n => 0 < n
  | _ => false

section Loop

variable (setupRequest : Bytes)

/-- **一回の write の答えは四通りである。** WouldBlock なら状態はそのままで（`writable()` を
待ってやり直す）、stream が残りの先頭を受け取れば `nwritten` がその分進み、何も受け取らなければ
`WriteZero`、stream の誤りはそのまま loop を出る。 -/
theorem setupWriteStep_cases (st : SetupWrite) (r : WriteResult) :
    (r = .wouldBlock ∧ setupWriteStep setupRequest st r = .inl st) ∨
    (∃ n, r = .accept n ∧ 0 < min n (setupRequest.length - st.nwritten) ∧
      setupWriteStep setupRequest st r = .inl ⟨st.nwritten + min n (setupRequest.length - st.nwritten),
        ⟨st.wire.bytes ++ (setupRequest.drop st.nwritten).take
          (min n (setupRequest.length - st.nwritten)), st.wire.fds ++ st.fds⟩, []⟩) ∨
    (∃ n, r = .accept n ∧ min n (setupRequest.length - st.nwritten) = 0 ∧
      setupWriteStep setupRequest st r = .inr (.failed ⟨.writeZero, none⟩)) ∨
    (∃ kind, r = .fail kind ∧ setupWriteStep setupRequest st r = .inr (.failed ⟨kind, none⟩)) := by
  cases r with
  | wouldBlock => exact .inl ⟨rfl, rfl⟩
  | fail kind => exact .inr (.inr (.inr ⟨kind, rfl, rfl⟩))
  | accept n =>
    rcases Wire.write_cases st.wire (setupRequest.drop st.nwritten) st.fds n with
      ⟨h0, heq⟩ | ⟨hpos, heq⟩
    · rw [List.length_drop] at h0
      exact .inr (.inr (.inl ⟨n, rfl, h0, by simp [setupWriteStep, heq]⟩))
    · rw [List.length_drop] at hpos heq
      exact .inr (.inl ⟨n, rfl, hpos,
        by simp only [setupWriteStep, heq, Nat.pos_iff_ne_zero.mp hpos, if_false]⟩)

/-- **`n > 0` byte を受け取る write は `nwritten` を進める。** まだ書き終えていなければ、stream は
残りの先頭 `min n (残り)` byte を受け取り、`nwritten` はその分だけ増える。 -/
theorem setupWriteStep_accept (st : SetupWrite) {n : Nat}
    (hlt : st.nwritten < setupRequest.length) (hn : 0 < n) :
    setupWriteStep setupRequest st (.accept n) =
      .inl ⟨st.nwritten + min n (setupRequest.length - st.nwritten),
        ⟨st.wire.bytes ++ (setupRequest.drop st.nwritten).take
          (min n (setupRequest.length - st.nwritten)), st.wire.fds ++ st.fds⟩, []⟩ := by
  rcases setupWriteStep_cases setupRequest st (.accept n) with ⟨h, -⟩ | ⟨_, h, -, hs⟩ |
    ⟨_, h, h0, -⟩ | ⟨_, h, -⟩ <;> cases h
  · exact hs
  · omega

/-- loop の本体が一回まわれば `nwritten` は増える。`Ok(0)` は誤りになるからである。 -/
theorem setupWriteStep_advances {st st' : SetupWrite} {n : Nat}
    (hs : setupWriteStep setupRequest st (.accept n) = .inl st') : st.nwritten < st'.nwritten := by
  rcases setupWriteStep_cases setupRequest st (.accept n) with ⟨h, -⟩ | ⟨_, -, hpos, hs'⟩ |
    ⟨_, -, -, hs'⟩ | ⟨_, h, -⟩
  · cases h
  · rw [hs] at hs'
    cases hs'
    simp only
    omega
  · rw [hs] at hs'
    cases hs'
  · cases h

/-- 一回の write で loop を出るのは誤りのときだけである。 -/
theorem setupWriteStep_inr {st : SetupWrite} {r : WriteResult} {status : SetupStatus}
    (hs : setupWriteStep setupRequest st r = .inr status) : ∃ e, status = .failed e := by
  rcases setupWriteStep_cases setupRequest st r with ⟨-, hs'⟩ | ⟨_, -, -, hs'⟩ | ⟨_, -, -, hs'⟩ |
    ⟨_, -, hs'⟩ <;> rw [hs] at hs' <;> cases hs'
  · exact ⟨_, rfl⟩
  · exact ⟨_, rfl⟩

/-- 書き終えていれば、loop は答えを読まずに出る。 -/
theorem writeSetupRequest_of_le {st : SetupWrite} (hle : setupRequest.length ≤ st.nwritten)
    (rs : List WriteResult) : writeSetupRequest setupRequest st rs = (st, .done) := by
  cases rs <;> simp [writeSetupRequest, Nat.not_lt.mpr hle]

/-- loop が保つこと。stream は setup request の先頭 `nwritten` byte をそのまま受け取っている。 -/
structure SetupInv (wire₀ : Wire) (st : SetupWrite) : Prop where
  bytes : st.wire.bytes = wire₀.bytes ++ setupRequest.take st.nwritten
  nwritten_le : st.nwritten ≤ setupRequest.length

/-- 一回の write が返れば不変条件は保たれる。 -/
theorem SetupInv.step {wire₀ : Wire} {st st' : SetupWrite} {r : WriteResult}
    (h : SetupInv setupRequest wire₀ st) (hs : setupWriteStep setupRequest st r = .inl st') :
    SetupInv setupRequest wire₀ st' := by
  rcases setupWriteStep_cases setupRequest st r with ⟨-, hs'⟩ | ⟨_, -, hpos, hs'⟩ |
    ⟨_, -, -, hs'⟩ | ⟨_, -, hs'⟩ <;> rw [hs] at hs' <;> cases hs'
  · exact h
  · have hle := h.nwritten_le
    refine ⟨?_, by simp only; omega⟩
    simp [h.bytes, List.take_add]

/-- loop を答えの列で回しても不変条件は保たれ、`done` で出たなら全部書き終えている。 -/
theorem writeSetupRequest_inv (wire₀ : Wire) (rs : List WriteResult) :
    ∀ (st : SetupWrite), SetupInv setupRequest wire₀ st →
      SetupInv setupRequest wire₀ (writeSetupRequest setupRequest st rs).1 ∧
      ((writeSetupRequest setupRequest st rs).2 = .done →
        (writeSetupRequest setupRequest st rs).1.nwritten = setupRequest.length) := by
  induction rs with
  | nil =>
    intro st h
    refine ⟨h, fun hd => ?_⟩
    have := h.nwritten_le
    simp only [writeSetupRequest] at hd ⊢
    by_cases hlt : st.nwritten < setupRequest.length
    · simp [hlt] at hd
    · omega
  | cons r rs ih =>
    intro st h
    simp only [writeSetupRequest]
    split
    · split
      · next st' hs => exact ih st' (h.step setupRequest hs)
      · next status hs =>
        obtain ⟨e, rfl⟩ := setupWriteStep_inr setupRequest hs
        exact ⟨h, fun hd => by cases hd⟩
    · have := h.nwritten_le
      exact ⟨h, fun _ => show st.nwritten = _ by omega⟩

/-- **受け取る byte 数の和が残りに届けば、loop は `done` で出る。** stream の答えがどれも
`n > 0` byte の受け取りなら、write が誤りになることはない。 -/
theorem writeSetupRequest_accepts :
    ∀ (ns : List Nat) (st : SetupWrite), st.nwritten ≤ setupRequest.length → (∀ n ∈ ns, 0 < n) →
      setupRequest.length ≤ st.nwritten + ns.sum →
      (writeSetupRequest setupRequest st (ns.map .accept)).2 = .done
  | [], st, _, _, hsum => by
    rw [List.sum_nil, Nat.add_zero] at hsum
    rw [writeSetupRequest_of_le setupRequest hsum]
  | n :: ns, st, hle, hpos, hsum => by
    by_cases hlt : st.nwritten < setupRequest.length
    · have hn := hpos n (List.mem_cons_self _ _)
      rw [List.map_cons, writeSetupRequest, if_pos hlt, setupWriteStep_accept setupRequest st hlt hn]
      rw [List.sum_cons] at hsum
      exact writeSetupRequest_accepts ns _ (by simp only; omega)
        (fun m hm => hpos m (List.mem_cons_of_mem _ hm)) (by simp only; omega)
    · rw [writeSetupRequest_of_le setupRequest (Nat.not_lt.mp hlt)]

/-- **成功した write が残りの byte 数だけ起きれば、loop はそれより後の答えを読まない。**
成功した write のたびに `nwritten` は 1 以上増え、setup request の長さを越えないので、
loop が成功した write を受けるのは残りの byte 数以下の回数である。 -/
theorem writeSetupRequest_stops (rs₂ : List WriteResult) :
    ∀ (rs₁ : List WriteResult) (st : SetupWrite), st.nwritten ≤ setupRequest.length →
      setupRequest.length - st.nwritten ≤ rs₁.countP WriteResult.succeeded →
      writeSetupRequest setupRequest st (rs₁ ++ rs₂) = writeSetupRequest setupRequest st rs₁ ∧
        (writeSetupRequest setupRequest st rs₁).2 ≠ .running
  | [], st, hle, hc => by
    rw [List.countP_nil, Nat.le_zero, Nat.sub_eq_zero_iff_le] at hc
    simp [writeSetupRequest_of_le setupRequest hc]
  | r :: rs₁, st, hle, hc => by
    by_cases hlt : st.nwritten < setupRequest.length
    · simp only [List.cons_append, writeSetupRequest, if_pos hlt]
      rw [List.countP_cons] at hc
      rcases setupWriteStep_cases setupRequest st r with ⟨rfl, hs⟩ | ⟨n, rfl, hpos, hs⟩ |
        ⟨_, -, -, hs⟩ | ⟨_, -, hs⟩ <;> rw [hs]
      · exact writeSetupRequest_stops rs₂ rs₁ st hle (by simpa [WriteResult.succeeded] using hc)
      · have hn : 0 < n := by omega
        simp only [WriteResult.succeeded, hn, decide_True, if_true] at hc
        exact writeSetupRequest_stops rs₂ rs₁ _ (by simp only; omega) (by simp only; omega)
      · exact ⟨rfl, by simp⟩
      · exact ⟨rfl, by simp⟩
    · simp [writeSetupRequest_of_le setupRequest (Nat.not_lt.mp hlt)]

end Loop

/--
**setup request は順に、欠けも重なりもなく書かれる。**

stream の答えがどう並んでも、

* loop の途中のどこでも stream は setup request の先頭 `nwritten` byte をそのまま受け取っており、
  `nwritten` は setup request の長さを越えない。loop を `done` で出たなら、stream はちょうど
  setup request を受け取っている。
* loop の本体が一回まわれば `nwritten` は増える（`Ok(0)` は `WriteZero` になる）。
* 成功した write が setup request の長さだけ起きれば、loop はもう出ていて、それより後の答えは
  読まない。したがって成功した write は setup request の長さ以下の回数である。
* 答えがどれも 1 byte 以上の受け取りで、その和が setup request の長さ以上なら、loop は `done`
  で出る。
-/
theorem writeSetupRequest_spec (setupRequest : Bytes) (wire : Wire) :
    (∀ rs, (writeSetupRequest setupRequest ⟨0, wire, []⟩ rs).1.wire.bytes =
        wire.bytes ++ setupRequest.take (writeSetupRequest setupRequest ⟨0, wire, []⟩ rs).1.nwritten ∧
      (writeSetupRequest setupRequest ⟨0, wire, []⟩ rs).1.nwritten ≤ setupRequest.length ∧
      ((writeSetupRequest setupRequest ⟨0, wire, []⟩ rs).2 = .done →
        (writeSetupRequest setupRequest ⟨0, wire, []⟩ rs).1.wire.bytes = wire.bytes ++ setupRequest)) ∧
    (∀ (st st' : SetupWrite) n, setupWriteStep setupRequest st (.accept n) = .inl st' →
      st.nwritten < st'.nwritten) ∧
    (∀ rs₁ rs₂, setupRequest.length ≤ rs₁.countP WriteResult.succeeded →
      writeSetupRequest setupRequest ⟨0, wire, []⟩ (rs₁ ++ rs₂) =
        writeSetupRequest setupRequest ⟨0, wire, []⟩ rs₁ ∧
      (writeSetupRequest setupRequest ⟨0, wire, []⟩ rs₁).2 ≠ .running) ∧
    (∀ ns : List Nat, (∀ n ∈ ns, 0 < n) → setupRequest.length ≤ ns.sum →
      (writeSetupRequest setupRequest ⟨0, wire, []⟩ (ns.map .accept)).2 = .done) := by
  have h0 : SetupInv setupRequest wire ⟨0, wire, []⟩ := ⟨by simp, Nat.zero_le _⟩
  refine ⟨fun rs => ?_, fun _ _ _ => setupWriteStep_advances setupRequest,
    fun rs₁ rs₂ hc => writeSetupRequest_stops setupRequest rs₂ rs₁ _ (Nat.zero_le _) hc,
    fun ns hpos hsum => writeSetupRequest_accepts setupRequest ns _ (Nat.zero_le _) hpos
      (by rwa [Nat.zero_add])⟩
  obtain ⟨h, hdone⟩ := writeSetupRequest_inv setupRequest wire rs _ h0
  exact ⟨h.bytes, h.nwritten_le, fun hd => by rw [h.bytes, hdone hd, List.take_length]⟩

/-- little-endian の setup request（認証なし、12 byte）を、stream が 5 byte と 7 byte の二回で
受け取ると、loop は `done` で出て、stream はちょうど setup request を受け取っている。 -/
theorem writeSetupRequest_spec_twoWrites :
    (writeSetupRequest [108, 0, 11, 0, 0, 0, 0, 0, 0, 0, 0, 0] ⟨0, ⟨[], []⟩, []⟩
        ([5, 7].map .accept)).2 = .done ∧
      (writeSetupRequest [108, 0, 11, 0, 0, 0, 0, 0, 0, 0, 0, 0] ⟨0, ⟨[], []⟩, []⟩
        ([5, 7].map .accept)).1.wire.bytes = [108, 0, 11, 0, 0, 0, 0, 0, 0, 0, 0, 0] := by
  have h := writeSetupRequest_spec [108, 0, 11, 0, 0, 0, 0, 0, 0, 0, 0, 0] ⟨[], []⟩
  have hd := h.2.2.2 [5, 7] (by decide) (by decide)
  exact ⟨hd, ((h.1 _).2.2 hd).trans (List.nil_append _)⟩

end X11rbAsync
