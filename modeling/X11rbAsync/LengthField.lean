import X11rbAsync.MaxRequestBytes

/-!
# 長さの欄と BIG-REQUESTS

`compute_length_field` は request の長さを語数（4 byte 単位）で数え、16 bit に収まれば
そのまま返し、収まらなければ BIG-REQUESTS の形に書き直す。頭の 4 byte を
「opcode、data byte、長さ 0、32 bit の語数」の 8 byte に置き換える形である。

## 読み戻し

書き直した request を server の側で読む `decodeRequest` を置き、書き直しと読み戻しが
合うことを示す（`computeLengthField_spec`）。`decodeRequest` は code には無い。
X11 の request の枠の読み方を、仕様の言葉どおりに書いたものである。

## 上限との比べ方

code は書き直す前の長さ `L` を上限と比べ、書き直した後の長さ `L + 4` とは比べない。
その差がどこに出るかは `computeLengthField_accepts_one_word_past_maximum` に記す。

## 長さの和

長さ `L` は `usize` の `sum()` で数える。`L` が `usize` に収まれば上の形で振る舞う
（`computeLengthField_spec`）。収まらないとき、release build では回った値で長さの欄を確かめ、
上限を越えた request をそのまま返しうる（`computeLengthField_wraps_total_length`）。
-/

namespace X11rbAsync

/-- 失敗しうる計算の結果。`panic` は `assert!` / `expect` / 添字の範囲外である。 -/
inductive Outcome (α : Type) where
  | ok (a : α)
  | err (e : ConnectionError)
  | panic
  deriving DecidableEq, Repr

/-- `compute_length_field` の、長さの和 `length` を数えた後。 -/
def computeLengthFieldFrom (p : Platform) (maxBytes : Nat) (requestBuffers : List Bytes)
    (length : Nat) : Outcome (List Bytes) :=
  if length % 4 ≠ 0 then .panic
  else
    let wireLength := length / 4
    match requestBuffers with
    | [] => .panic
    | firstBuf :: rest =>
      if wireLength ≤ 65535 then
        match firstBuf[2]?, firstBuf[3]? with
        | some b2, some b3 =>
          if wireLength = p.endian.u16FromBytes b2 b3 then .ok requestBuffers else .panic
        | _, _ => .panic
      else if length > maxBytes then .err .maximumRequestLengthExceeded
      else
        match p.checkedAdd wireLength 1 with
        | none => .err .maximumRequestLengthExceeded
        | some wl =>
          -- `.try_into().expect("X11 request larger than 2^34 bytes?!?")`
          if wl < 2 ^ 32 then
            if 4 ≤ firstBuf.length then
              .ok ((firstBuf.take 2 ++ [0, 0] ++ p.endian.u32ToBytes wl) :: firstBuf.drop 4 :: rest)
            else .panic
          else .panic

/--
`compute_length_field`。

`maxBytes` は `conn.maximum_request_bytes().await` の値で、16 bit に収まらないときだけ読む。
長さの和は `usize` の `sum()` で数える（`Platform.sumLengths`）。同じ slice を何度も並べれば
和は `usize::MAX` を越えうる。そのとき overflow checks のある build は panic し、無い build は
回った値で先へ進む。
-/
def computeLengthField (p : Platform) (maxBytes : Nat) (requestBuffers : List Bytes) :
    Outcome (List Bytes) :=
  match p.sumLengths requestBuffers with
  | none => .panic
  | some length => computeLengthFieldFrom p maxBytes requestBuffers length

/--
X11 の request を一つ読む（server の側）。

頭の 4 byte は opcode、data byte、16 bit の語数である。語数が 0 でなければそれが長さ、
0 なら BIG-REQUESTS の形で、続く 4 byte が 32 bit の語数（この 8 byte を含む）である。
返すのは（opcode、data byte、頭の後の本体、続く byte 列）。
-/
def decodeRequest (e : Endian) : Bytes → Option (UInt8 × UInt8 × Bytes × Bytes)
  | op :: data :: l0 :: l1 :: rest =>
    let len := e.u16FromBytes l0 l1
    if len ≠ 0 then
      if 4 * len - 4 ≤ rest.length then
        some (op, data, rest.take (4 * len - 4), rest.drop (4 * len - 4))
      else none
    else
      match rest with
      | x0 :: x1 :: x2 :: x3 :: body =>
        let len32 := e.u32FromBytes x0 x1 x2 x3
        if 2 ≤ len32 ∧ 4 * len32 - 8 ≤ body.length then
          some (op, data, body.take (4 * len32 - 8), body.drop (4 * len32 - 8))
        else none
      | _ => none
  | _ => none

theorem Endian.u16FromBytes_zero (e : Endian) : e.u16FromBytes 0 0 = 0 := by
  cases e <;> rfl

/-! ## 場合ごとの値 -/

section Cases

variable (p : Platform) (M : Nat) (b0 b1 b2 b3 : UInt8) (more : Bytes) (rest : List Bytes)

theorem totalLen_first :
    totalLen ((b0 :: b1 :: b2 :: b3 :: more) :: rest) = 4 + (more.length + totalLen rest) := by
  simp; omega

/-- 長さの和が `usize` に収まれば、`compute_length_field` はその和から先へ進む。 -/
theorem computeLengthField_of_le {bufs : List Bytes} (hfit : totalLen bufs ≤ p.usizeMax) :
    computeLengthField p M bufs = computeLengthFieldFrom p M bufs (totalLen bufs) := by
  rw [computeLengthField, p.sumLengths_of_le hfit]

/-- 16 bit に収まる長さ。長さの欄が合っていればそのまま返し、違えば panic する。 -/
theorem computeLengthField_small
    (hfit : totalLen ((b0 :: b1 :: b2 :: b3 :: more) :: rest) ≤ p.usizeMax)
    (hL : totalLen ((b0 :: b1 :: b2 :: b3 :: more) :: rest) % 4 = 0)
    (hs : totalLen ((b0 :: b1 :: b2 :: b3 :: more) :: rest) / 4 ≤ 65535) :
    computeLengthField p M ((b0 :: b1 :: b2 :: b3 :: more) :: rest) =
      if p.endian.u16FromBytes b2 b3 = totalLen ((b0 :: b1 :: b2 :: b3 :: more) :: rest) / 4
      then .ok ((b0 :: b1 :: b2 :: b3 :: more) :: rest) else .panic := by
  rw [computeLengthField_of_le p M hfit]
  simp only [computeLengthFieldFrom, hL, ne_eq, not_true_eq_false, if_false, hs, if_true]
  simp only [List.getElem?_cons_succ, List.getElem?_cons_zero]
  split <;> split <;> simp_all

/-- 16 bit に収まらず、上限を越える長さ。 -/
theorem computeLengthField_exceeded
    (hfit : totalLen ((b0 :: b1 :: b2 :: b3 :: more) :: rest) ≤ p.usizeMax)
    (hL : totalLen ((b0 :: b1 :: b2 :: b3 :: more) :: rest) % 4 = 0)
    (hb : 65535 < totalLen ((b0 :: b1 :: b2 :: b3 :: more) :: rest) / 4)
    (hM : M < totalLen ((b0 :: b1 :: b2 :: b3 :: more) :: rest)) :
    computeLengthField p M ((b0 :: b1 :: b2 :: b3 :: more) :: rest) =
      .err .maximumRequestLengthExceeded := by
  rw [computeLengthField_of_le p M hfit]
  simp only [computeLengthFieldFrom, hL, ne_eq, not_true_eq_false, if_false, gt_iff_lt, hM, if_true,
    show ¬ totalLen ((b0 :: b1 :: b2 :: b3 :: more) :: rest) / 4 ≤ 65535 by omega]

/-- 16 bit に収まらず上限内の長さ。語数 + 1 が 32 bit に収まれば BIG-REQUESTS の形に書き直す。 -/
theorem computeLengthField_big
    (hL : totalLen ((b0 :: b1 :: b2 :: b3 :: more) :: rest) % 4 = 0)
    (hb : 65535 < totalLen ((b0 :: b1 :: b2 :: b3 :: more) :: rest) / 4)
    (hM : totalLen ((b0 :: b1 :: b2 :: b3 :: more) :: rest) ≤ M) (hMax : M ≤ p.usizeMax) :
    computeLengthField p M ((b0 :: b1 :: b2 :: b3 :: more) :: rest) =
      if totalLen ((b0 :: b1 :: b2 :: b3 :: more) :: rest) / 4 + 1 < 2 ^ 32 then
        .ok ((b0 :: b1 :: [0, 0] ++
          p.endian.u32ToBytes (totalLen ((b0 :: b1 :: b2 :: b3 :: more) :: rest) / 4 + 1)) ::
          more :: rest)
      else .panic := by
  have hadd : p.checkedAdd (totalLen ((b0 :: b1 :: b2 :: b3 :: more) :: rest) / 4) 1 =
      some (totalLen ((b0 :: b1 :: b2 :: b3 :: more) :: rest) / 4 + 1) := by
    simp only [Platform.checkedAdd]; rw [if_pos (by omega)]
  rw [computeLengthField_of_le p M (by omega)]
  simp only [computeLengthFieldFrom, hL, ne_eq, not_true_eq_false, if_false, gt_iff_lt,
    show ¬ M < totalLen ((b0 :: b1 :: b2 :: b3 :: more) :: rest) by omega, hadd,
    show ¬ totalLen ((b0 :: b1 :: b2 :: b3 :: more) :: rest) / 4 ≤ 65535 by omega]
  simp

end Cases

/-- `compute_length_field` が `Ok` で返すのは、頭の slice が 4 byte 以上ある request で、それを
そのまま返すか、頭の 4 byte を BIG-REQUESTS の 8 byte に書き直したものである。16 bit に収まる
長さでは長さの欄（3、4 byte 目）を読むので、頭の slice はやはり 4 byte 以上ある。 -/
theorem computeLengthFieldFrom_ok {p : Platform} {maxBytes length : Nat} {request bufs : List Bytes}
    (h : computeLengthFieldFrom p maxBytes request length = .ok bufs) :
    ∃ firstBuf rest, request = firstBuf :: rest ∧ 4 ≤ firstBuf.length ∧
      (bufs = request ∨ ∃ wl,
        bufs = (firstBuf.take 2 ++ [0, 0] ++ p.endian.u32ToBytes wl) :: firstBuf.drop 4 :: rest) := by
  cases request with
  | nil => simp [computeLengthFieldFrom] at h
  | cons firstBuf rest =>
    refine ⟨firstBuf, rest, rfl, ?_⟩
    simp only [computeLengthFieldFrom] at h
    split_ifs at h with _ _ _ h4
    · split at h
      · next h3 =>
        split_ifs at h
        cases h
        exact ⟨(List.getElem?_eq_some_iff.mp h3).1, .inl rfl⟩
      · cases h
    · split at h
      · cases h
      · split_ifs at h
        cases h
        exact ⟨h4, .inr ⟨_, rfl⟩⟩
    · split at h <;> (try split_ifs at h); cases h

theorem computeLengthField_ok {p : Platform} {maxBytes : Nat} {request bufs : List Bytes}
    (h : computeLengthField p maxBytes request = .ok bufs) :
    ∃ firstBuf rest, request = firstBuf :: rest ∧ 4 ≤ firstBuf.length ∧
      (bufs = request ∨ ∃ wl,
        bufs = (firstBuf.take 2 ++ [0, 0] ++ p.endian.u32ToBytes wl) :: firstBuf.drop 4 :: rest) := by
  unfold computeLengthField at h
  split at h
  · cases h
  · exact computeLengthFieldFrom_ok h

/-- `compute_length_field` が受け付けた request は空でない。 -/
theorem computeLengthField_ok_ne_nil {p : Platform} {maxBytes : Nat} {request bufs : List Bytes}
    (h : computeLengthField p maxBytes request = .ok bufs) : bufs.flatten ≠ [] := by
  obtain ⟨firstBuf, rest, rfl, h4, rfl | ⟨wl, rfl⟩⟩ := computeLengthField_ok h
  · intro hn
    simp only [List.flatten_cons, List.append_eq_nil] at hn
    simp [hn.1] at h4
  · simp

/-- 返る request は、元の request より短くならない。 -/
theorem computeLengthField_ok_length {p : Platform} {maxBytes : Nat} {request bufs : List Bytes}
    (h : computeLengthField p maxBytes request = .ok bufs) : totalLen request ≤ bufs.flatten.length := by
  obtain ⟨firstBuf, rest, rfl, h4, rfl | ⟨wl, rfl⟩⟩ := computeLengthField_ok h
  · rw [totalLen_eq_length_flatten]
  · simp only [totalLen_cons, List.flatten_cons, List.length_append, List.length_take,
      List.length_drop, Endian.length_u32ToBytes, ← totalLen_eq_length_flatten]
    simp
    omega

/-! ## 読み戻し -/

/-- 16 bit の長さの欄を持つ request は、その語数だけ読まれる。 -/
theorem decodeRequest_small (e : Endian) (b0 b1 b2 b3 : UInt8) (body tail : Bytes)
    (hlen : e.u16FromBytes b2 b3 ≠ 0) (hbody : body.length = 4 * e.u16FromBytes b2 b3 - 4) :
    decodeRequest e (b0 :: b1 :: b2 :: b3 :: (body ++ tail)) = some (b0, b1, body, tail) := by
  simp [decodeRequest, hlen, ← hbody]

/-- BIG-REQUESTS の形の request は、長さ 0 の欄の後の 32 bit の語数だけ読まれる。 -/
theorem decodeRequest_big (e : Endian) (b0 b1 : UInt8) {n : Nat} (hn2 : 2 ≤ n) (hn : n < 2 ^ 32)
    (body tail : Bytes) (hbody : body.length = 4 * n - 8) :
    decodeRequest e (b0 :: b1 :: 0 :: 0 :: (e.u32ToBytes n ++ (body ++ tail))) =
      some (b0, b1, body, tail) := by
  obtain ⟨x0, x1, x2, x3, heq, hval⟩ := e.u32ToBytes_eq hn
  rw [heq]
  simp [decodeRequest, Endian.u16FromBytes_zero, hval, hn2, ← hbody]

/--
**長さの欄の書き直しは正しく、読み戻せる。**

頭の slice が 4 byte 以上あり、長さ `L` が 4 の倍数で `usize` に収まる request について
（収まらないときは `computeLengthField_wraps_total_length`）。
`M` は `maximum_request_bytes` の値（`usize`）である。

* `L / 4` が 16 bit に収まれば、request はそのまま返り、panic するのは頭の 2..4 byte の
  長さの欄が `L / 4` と違うときだけである。
* 収まらなければ、`MaximumRequestLengthExceeded` になるのは `L > M` のときちょうどである。
* そうでなく `L / 4 + 1` が 32 bit に収まれば、返る slice を繋ぐと
  「頭の 2 byte、0 が 2 byte、32 bit の `L / 4 + 1`、元の 4..L byte」になる。
  その長さは `L / 4 + 1` 語で、server の読み方で読むと opcode、data byte、
  元の 4..L byte がそのまま戻り、後ろに続く byte 列には触れない。
-/
theorem computeLengthField_spec (p : Platform) (M : Nat) (hMax : M ≤ p.usizeMax)
    (b0 b1 b2 b3 : UInt8) (more : Bytes) (rest : List Bytes)
    (hfit : totalLen ((b0 :: b1 :: b2 :: b3 :: more) :: rest) ≤ p.usizeMax)
    (hL : totalLen ((b0 :: b1 :: b2 :: b3 :: more) :: rest) % 4 = 0) :
    let bufs := (b0 :: b1 :: b2 :: b3 :: more) :: rest
    let L := totalLen bufs
    (L / 4 ≤ 65535 → computeLengthField p M bufs =
        if p.endian.u16FromBytes b2 b3 = L / 4 then .ok bufs else .panic) ∧
    (65535 < L / 4 →
      (computeLengthField p M bufs = .err .maximumRequestLengthExceeded ↔ M < L) ∧
      (L ≤ M → L / 4 + 1 < 2 ^ 32 → ∃ out, computeLengthField p M bufs = .ok out ∧
        out.flatten = [b0, b1, 0, 0] ++ p.endian.u32ToBytes (L / 4 + 1) ++ bufs.flatten.drop 4 ∧
        out.flatten.length = 4 * (L / 4 + 1) ∧
        ∀ tail, decodeRequest p.endian (out.flatten ++ tail) =
          some (b0, b1, bufs.flatten.drop 4, tail))) := by
  dsimp only
  have hlen := totalLen_first b0 b1 b2 b3 more rest
  have hflat : (more ++ rest.flatten).length = more.length + totalLen rest := by
    simp [totalLen_eq_length_flatten]
  refine ⟨computeLengthField_small p M b0 b1 b2 b3 more rest hfit hL, fun hb => ⟨?_, fun hM hw => ?_⟩⟩
  · constructor
    · intro herr
      by_contra hM
      rw [computeLengthField_big p M b0 b1 b2 b3 more rest hL hb (by omega) hMax] at herr
      split at herr <;> cases herr
    · exact computeLengthField_exceeded p M b0 b1 b2 b3 more rest hfit hL hb
  · refine ⟨_, by rw [computeLengthField_big p M b0 b1 b2 b3 more rest hL hb hM hMax, if_pos hw],
      by simp, ?_, fun tail => ?_⟩
    · simp only [List.flatten_cons, List.length_append, List.length_cons, Endian.length_u32ToBytes,
        List.length_nil, hflat]
      omega
    · have := decodeRequest_big p.endian b0 b1
        (n := totalLen ((b0 :: b1 :: b2 :: b3 :: more) :: rest) / 4 + 1) (by omega) hw
        (more ++ rest.flatten) tail (by rw [hflat]; omega)
      simpa using this

/-- 65536 語（262144 byte）の request を、上限 262144 byte の x86-64 で BIG-REQUESTS の形に
書き直す。 -/
theorem computeLengthField_spec_big :
    262144 ≤ Platform.x86_64.usizeMax ∧
    totalLen ((127 :: 0 :: 0 :: 0 :: List.replicate 262140 (0 : UInt8)) :: ([] : List Bytes)) ≤
      Platform.x86_64.usizeMax ∧
    totalLen ((127 :: 0 :: 0 :: 0 :: List.replicate 262140 (0 : UInt8)) :: ([] : List Bytes)) % 4 = 0 ∧
    let bufs := (127 :: 0 :: 0 :: 0 :: List.replicate 262140 (0 : UInt8)) :: ([] : List Bytes)
    let L := totalLen bufs
    (L / 4 ≤ 65535 → computeLengthField Platform.x86_64 262144 bufs =
        if Platform.x86_64.endian.u16FromBytes 0 0 = L / 4 then .ok bufs else .panic) ∧
    (65535 < L / 4 →
      (computeLengthField Platform.x86_64 262144 bufs = .err .maximumRequestLengthExceeded ↔
        262144 < L) ∧
      (L ≤ 262144 → L / 4 + 1 < 2 ^ 32 → ∃ out, computeLengthField Platform.x86_64 262144 bufs = .ok out ∧
        out.flatten = [127, 0, 0, 0] ++ Platform.x86_64.endian.u32ToBytes (L / 4 + 1) ++
          bufs.flatten.drop 4 ∧
        out.flatten.length = 4 * (L / 4 + 1) ∧
        ∀ tail, decodeRequest Platform.x86_64.endian (out.flatten ++ tail) =
          some (127, 0, bufs.flatten.drop 4, tail))) := by
  have hL :
      totalLen ((127 :: 0 :: 0 :: 0 :: List.replicate 262140 (0 : UInt8)) :: ([] : List Bytes)) = 262144 := by
    rw [totalLen_first, List.length_replicate, totalLen_nil]
  exact ⟨by decide, by rw [hL]; decide, by rw [hL],
    computeLengthField_spec Platform.x86_64 262144 (by decide) 127 0 0 0 _ [] (by rw [hL]; decide)
      (by rw [hL])⟩

/--
**長さの和が `usize` を越えると、上限を越えた request が通るか panic する。**

32 bit の platform で、`[1, 0, 1, 0]` の後に 1 MiB の slice を 4096 個並べた request
（同じ記憶域を指す `IoSlice` を並べればよい）は `L = 2^32 + 4` byte で、Enable の reply が
`maximum_request_length = 4194303` を告げたときの `maximum_request_bytes`（16777212）を越える。
release build の `sum()` は 4 に回り、request は長さの欄が語数 1 と合うのでそのまま返る。
debug build は足し算の溢れで panic する。どちらも `MaximumRequestLengthExceeded` を返さない。
-/
theorem computeLengthField_wraps_total_length :
    let request : List Bytes := [1, 0, 1, 0] :: List.replicate 4096 (List.replicate 1048576 0)
    totalLen request = 2 ^ 32 + 4 ∧ Platform.i686.wordsToBytes 4194303 < totalLen request ∧
    computeLengthField Platform.i686Release (Platform.i686Release.wordsToBytes 4194303) request =
      .ok request ∧
    computeLengthField Platform.i686 (Platform.i686.wordsToBytes 4194303) request = .panic := by
  intro request
  have hL : totalLen request = 2 ^ 32 + 4 := by
    rw [show request = [1, 0, 1, 0] :: List.replicate 4096 (List.replicate 1048576 0) from rfl,
      totalLen_cons, totalLen_replicate, List.length_replicate]
    rfl
  refine ⟨hL, by rw [hL, Platform.wordsToBytes_eq]; decide, ?_, ?_⟩
  · rw [computeLengthField, Platform.sumLengths_eq, Platform.add_of_release _ rfl, hL]
    rfl
  · rw [computeLengthField, Platform.sumLengths_eq, Platform.add_eq_none _ rfl (by rw [hL]; decide)]

/-! ## 上限との比べ方 -/

/-- 上限ちょうど（`L = 4 * W` byte、`W` は上限の語数）の request は `L > M` でないので通り、
長さの欄には `W + 1` 語と書かれる。`W + 1` が 32 bit に収まらなければ panic する。 -/
theorem computeLengthField_at_maximum (p : Platform) (W : Nat) (hW : W * 4 ≤ p.usizeMax)
    (b0 b1 b2 b3 : UInt8) (more : Bytes) (rest : List Bytes)
    (hL : totalLen ((b0 :: b1 :: b2 :: b3 :: more) :: rest) = 4 * W) (hb : 65535 < W) :
    computeLengthField p (p.wordsToBytes W) ((b0 :: b1 :: b2 :: b3 :: more) :: rest) =
      if W + 1 < 2 ^ 32 then
        .ok ((b0 :: b1 :: [0, 0] ++ p.endian.u32ToBytes (W + 1)) :: more :: rest)
      else .panic := by
  have hM : p.wordsToBytes W = W * 4 := by rw [Platform.wordsToBytes_eq]; omega
  rw [computeLengthField_big p _ b0 b1 b2 b3 more rest (by omega) (by omega) (by omega)
    (by omega), hL, show 4 * W / 4 = W by omega]

/--
**上限ちょうどの request は、告げられた上限を 1 語越えて送られる。**

x86-64 で Enable の reply が `maximum_request_length = 65536` 語を告げたとき
（`maximum_request_bytes` は 262144）、262144 byte の request は通り、長さの欄に 65537 語と
書かれる。上限が `u32::MAX` 語のときは、上限ちょうどの request で `L / 4 + 1 = 2^32` となり、
`expect("X11 request larger than 2^34 bytes?!?")` が 2^34 byte より小さい request で panic する。
-/
theorem computeLengthField_accepts_one_word_past_maximum :
    computeLengthField Platform.x86_64 (Platform.x86_64.wordsToBytes 65536)
        [0 :: 0 :: 0 :: 0 :: List.replicate 262140 0] =
      .ok [0 :: 0 :: [0, 0] ++ Endian.little.u32ToBytes (65536 + 1), List.replicate 262140 0] ∧
    computeLengthField Platform.x86_64 (Platform.x86_64.wordsToBytes 4294967295)
        [0 :: 0 :: 0 :: 0 :: List.replicate 17179869176 0] = .panic := by
  constructor
  · rw [computeLengthField_at_maximum _ 65536 (by decide) 0 0 0 0 _ []
      (by rw [totalLen_first, List.length_replicate, totalLen_nil]) (by decide), if_pos (by decide)]
    rfl
  · rw [computeLengthField_at_maximum _ 4294967295 (by decide) 0 0 0 0 _ []
      (by rw [totalLen_first, List.length_replicate, totalLen_nil]) (by decide), if_neg (by decide)]

end X11rbAsync
