import KuduRpc.Connection.Framing

/-!
# The socket loops, over every sequence of results

`read_at_least` (inside `poll_read_header`) reads until `min` bytes have come, and
`poll_flush` writes until `write_buf` is empty. The socket of the connection model is a
list of results. After the list come zero-byte reads forever when the peer has closed
the stream, and `WouldBlock` otherwise. Here a socket is any infinite sequence of
results, a `Stream'`. Each loop runs on it with a fuel that bounds its rounds, and a loop
that runs out of every fuel never exits.

* `readLoopFuel_readStream`, `readLoop_forever_iff`: on the connection model's socket, the
  loop of `read_at_least` ends as `readLoop` says once the fuel exceeds the listed reads.
  It runs out of every fuel exactly where `readLoop` says `forever`, so `readAtLeast`'s
  `diverge` is the loop not exiting;
* `readLoopFuel_const_zero`: at the end of the stream, where every read returns zero
  bytes, the loop never exits while bytes are missing;
* `readLoopFuel_isSome`: when no read returns zero bytes, it exits within one round per
  missing byte, and one more;
* `pollFlushLoopFuel_isSome`: `poll_flush` exits within one round per buffered byte, and
  one more, whatever the writes return, since a write that takes nothing is an error;
* `pollFlushLoopFuel_writeStream`: on the connection model's socket it is `flushLoop`.
-/

namespace KuduRpc

/-- What one `read_from` on a socket returns: the bytes read (none at the end of the
stream), `WouldBlock`, or another error. -/
inductive IoRead
  | data (bs : List UInt8)
  | wouldBlock
  | error (e : IoError)
  deriving DecidableEq, Repr

/-- What one `write_to` on a socket returns: it takes up to `n` bytes of the buffer;
`WouldBlock`; or another error. -/
inductive IoWrite
  | accept (n : Nat)
  | wouldBlock
  | error (e : IoError)
  deriving DecidableEq, Repr

def ReadResult.toIoRead : ReadResult → IoRead
  | .data bs => .data bs
  | .error e => .error e

def WriteResult.toIoWrite : WriteResult → IoWrite
  | .accept n => .accept n
  | .error e => .error e

/-- The reads of the connection model's socket: the listed ones, then zero bytes forever
when the peer has closed the stream, and `WouldBlock` forever otherwise. -/
def readStream (rs : List ReadResult) (closed : Bool) : Stream' IoRead :=
  rs.map ReadResult.toIoRead ++ₛ Stream'.const (if closed then .data [] else .wouldBlock)

/-- The writes of the connection model's socket: the listed ones, then `WouldBlock`. -/
def writeStream (ws : List WriteResult) : Stream' IoWrite :=
  ws.map WriteResult.toIoWrite ++ₛ Stream'.const .wouldBlock

@[simp] theorem readStream_nil (closed : Bool) :
    readStream [] closed = Stream'.const (if closed then .data [] else .wouldBlock) := rfl

@[simp] theorem readStream_cons (r : ReadResult) (rs : List ReadResult) (closed : Bool) :
    (readStream (r :: rs) closed).head = r.toIoRead ∧
      (readStream (r :: rs) closed).tail = readStream rs closed := ⟨rfl, rfl⟩

@[simp] theorem writeStream_nil : writeStream [] = Stream'.const .wouldBlock := rfl

@[simp] theorem writeStream_cons (w : WriteResult) (ws : List WriteResult) :
    (writeStream (w :: ws)).head = w.toIoWrite ∧ (writeStream (w :: ws)).tail = writeStream ws :=
  ⟨rfl, rfl⟩

/-! ## The loop of `read_at_least` -/

/-- The loop `while received < min { received += read_from(stream)? }` of `read_at_least`
over the reads `rs`, for `fuel` rounds at most: `none` when the fuel runs out, else the
buffer, the reads left, and how the loop ended. `Connection::recv` in `rpc.rs` runs the
same loop. -/
def readLoopFuel (min : Nat) : Nat → Nat → List UInt8 → Stream' IoRead →
    Option (List UInt8 × Stream' IoRead × ReadEnd)
  | 0, _, _, _ => none
  | fuel + 1, received, buf, rs =>
    if received < min then
      match rs.head with
      | .data bs => readLoopFuel min fuel (received + bs.length) (buf ++ bs) rs.tail
      | .wouldBlock => some (buf, rs.tail, .wouldBlock)
      | .error e => some (buf, rs.tail, .error e)
    else some (buf, rs, .done)

section ReadLoopFuel

variable {min : Nat}

theorem readLoop_error {closed : Bool} {received : Nat} {buf : List UInt8} (err : IoError)
    (rs : List ReadResult) (h : received < min) :
    readLoop min closed received buf (.error err :: rs) = (buf, rs, .error err) := by
  rw [readLoop, if_pos h]

theorem readLoopFuel_of_le {fuel received : Nat} (buf : List UInt8) (rs : Stream' IoRead)
    (h : min ≤ received) : readLoopFuel min (fuel + 1) received buf rs = some (buf, rs, .done) := by
  rw [readLoopFuel, if_neg (Nat.not_lt.2 h)]

theorem readLoopFuel_succ : ∀ {fuel received : Nat} {buf : List UInt8} {rs : Stream' IoRead}
    {r : List UInt8 × Stream' IoRead × ReadEnd}, readLoopFuel min fuel received buf rs = some r →
      readLoopFuel min (fuel + 1) received buf rs = some r
  | 0, _, _, _, _, h => by cases h
  | fuel + 1, received, buf, rs, r, h => by
    rw [readLoopFuel] at h ⊢
    split at h
    · next hlt =>
      rw [if_pos hlt]
      split at h
      · exact readLoopFuel_succ h
      all_goals exact h
    · next hlt => rw [if_neg hlt]; exact h

/-- The loop only appends to the buffer. -/
theorem readLoopFuel_append : ∀ {fuel received : Nat} {buf buf' : List UInt8}
    {rs rs' : Stream' IoRead} {e : ReadEnd},
    readLoopFuel min fuel received buf rs = some (buf', rs', e) → ∃ more, buf' = buf ++ more
  | 0, _, _, _, _, _, _, h => by cases h
  | fuel + 1, received, buf, buf', rs, rs', e, h => by
    rw [readLoopFuel] at h
    split at h
    · split at h
      · obtain ⟨more, rfl⟩ := readLoopFuel_append h
        exact ⟨_, List.append_assoc _ _ _⟩
      all_goals cases h; exact ⟨[], (List.append_nil _).symm⟩
    · cases h; exact ⟨[], (List.append_nil _).symm⟩

/-- More fuel gives the same result. -/
theorem readLoopFuel_mono {fuel fuel' received : Nat} {buf : List UInt8} {rs : Stream' IoRead}
    {r : List UInt8 × Stream' IoRead × ReadEnd} (h : readLoopFuel min fuel received buf rs = some r)
    (hle : fuel ≤ fuel') : readLoopFuel min fuel' received buf rs = some r := by
  induction hle with
  | refl => exact h
  | step _ ih => exact readLoopFuel_succ ih

/-- At the end of the stream every read returns zero bytes, and the loop never exits
while bytes are missing. -/
theorem readLoopFuel_const_zero : ∀ (fuel : Nat) {received : Nat} (buf : List UInt8),
    received < min → readLoopFuel min fuel received buf (Stream'.const (.data [])) = none
  | 0, _, _, _ => rfl
  | fuel + 1, received, buf, h => by
    rw [readLoopFuel, if_pos h]
    simpa using readLoopFuel_const_zero fuel buf h

/-- When no read returns zero bytes, the loop exits within one round per missing byte,
and one more. -/
theorem readLoopFuel_isSome : ∀ {fuel received : Nat} {buf : List UInt8} {rs : Stream' IoRead},
    (∀ n, rs.get n ≠ .data []) → min - received < fuel →
      (readLoopFuel min fuel received buf rs).isSome
  | 0, _, _, _, _, h => absurd h (Nat.not_lt_zero _)
  | fuel + 1, received, buf, rs, hrs, h => by
    rw [readLoopFuel]
    split
    · split
      · next bs hd =>
        have : 0 < bs.length := List.length_pos.2 fun hb => hrs 0 (hb ▸ hd)
        exact readLoopFuel_isSome (fun n => hrs (n + 1)) (by omega)
      all_goals rfl
    · rfl

/-- On the connection model's socket, with more rounds than listed reads, the loop ends
as `readLoop` does, and not at all where `readLoop` says `forever`. -/
theorem readLoopFuel_readStream (closed : Bool) : ∀ {rs : List ReadResult} {received fuel : Nat}
    {buf buf' : List UInt8} {rs' : List ReadResult} {e : ReadEnd},
    readLoop min closed received buf rs = (buf', rs', e) → rs.length < fuel →
      readLoopFuel min fuel received buf (readStream rs closed) =
        if e = .forever then none else some (buf', readStream rs' closed, e)
  | _, _, 0, _, _, _, _, _, hfuel => absurd hfuel (Nat.not_lt_zero _)
  | rs, received, fuel + 1, buf, buf', rs', e, h, hfuel => by
    by_cases hle : min ≤ received
    · rw [readLoop_of_le rs hle] at h
      cases h
      rw [readLoopFuel_of_le buf _ hle]
      rfl
    have hlt := Nat.lt_of_not_le hle
    match rs, h with
    | [], h =>
      rw [readLoop_nil hlt] at h
      cases h
      cases closed
      · rw [readLoopFuel, if_pos hlt]; rfl
      · simpa using readLoopFuel_const_zero (fuel + 1) buf hlt
    | .error err :: rs, h =>
      rw [readLoop_error err rs hlt] at h
      cases h
      rw [readLoopFuel, if_pos hlt]
      rfl
    | .data bs :: rs, h =>
      rw [readLoop_data bs rs hlt] at h
      rw [readLoopFuel, if_pos hlt]
      exact readLoopFuel_readStream closed h (by simpa using hfuel)

/-- `readLoop` says `forever` exactly when the loop on the connection model's socket runs
out of every fuel. -/
theorem readLoop_forever_iff (closed : Bool) (rs : List ReadResult) (received : Nat)
    (buf : List UInt8) : (readLoop min closed received buf rs).2.2 = .forever ↔
      ∀ fuel, readLoopFuel min fuel received buf (readStream rs closed) = none := by
  rcases h : readLoop min closed received buf rs with ⟨buf', rs', e⟩
  have key := fun fuel (hf : rs.length < fuel) => readLoopFuel_readStream closed h hf
  constructor
  · rintro rfl fuel
    cases hr : readLoopFuel min fuel received buf (readStream rs closed) with
    | none => rfl
    | some r =>
      have := key (max fuel (rs.length + 1)) (by omega)
      rw [readLoopFuel_mono hr (Nat.le_max_left _ _), if_pos rfl] at this
      cases this
  · intro hn
    by_contra he
    have := key (rs.length + 1) (Nat.lt_succ_self _)
    rw [hn, if_neg he] at this
    cases this

end ReadLoopFuel

/-- On a socket at the end of the stream, with fewer than four bytes buffered,
`poll_read_header` never returns: `read_at_least` waits for bytes that do not come. -/
theorem pollReadHeader_eof {c : Connection} {s : Socket} (hs : c.state.stream? = some s)
    (hc : s.closed = true) (hr : s.reads = []) (hb : c.recvBuf.length < 4) :
    pollReadHeader c = .diverge := by
  have hf : fillTo 4 c = .diverge := by
    rw [fillTo, if_pos hb, readAtLeast, if_pos (by omega),
      ConnM.bind_ok (show stream c = .ok s c by simp [stream, hs])]
    simp only [hr, readLoop_nil (show 0 < 4 - c.recvBuf.length by omega), hc, if_true]
  rw [pollReadHeader, tryReady, ConnM.bind_apply, hf]

/-! ## The loop of `poll_flush` -/

/-- The loop `while !write_buf.is_empty()` of `poll_flush` over the writes `ws`, for
`fuel` rounds at most, as `flushLoop`: a write that takes no bytes ends it with
`WriteZero`. -/
def pollFlushLoopFuel : Nat → List UInt8 → Stream' IoWrite → List UInt8 →
    Option (List UInt8 × Stream' IoWrite × List UInt8 × FlushEnd)
  | 0, _, _, _ => none
  | _ + 1, [], ws, sent => some ([], ws, sent, .done)
  | fuel + 1, buf@(_ :: _), ws, sent =>
    match ws.head with
    | .accept n =>
      if n = 0 then some (buf, ws.tail, sent, .writeZero)
      else pollFlushLoopFuel fuel (buf.drop n) ws.tail (sent ++ buf.take n)
    | .wouldBlock => some (buf, ws.tail, sent, .wouldBlock)
    | .error e => some (buf, ws.tail, sent, .error e)

/-- Whatever the writes return, `poll_flush` exits within one round per buffered byte,
and one more: each round that goes on takes at least one byte. -/
theorem pollFlushLoopFuel_isSome : ∀ {fuel : Nat} {buf : List UInt8} (ws : Stream' IoWrite)
    (sent : List UInt8), buf.length < fuel → (pollFlushLoopFuel fuel buf ws sent).isSome
  | 0, _, _, _, h => absurd h (Nat.not_lt_zero _)
  | _ + 1, [], _, _, _ => rfl
  | fuel + 1, b :: bs, ws, sent, h => by
    rw [pollFlushLoopFuel]
    split
    · next n _ =>
      split
      · rfl
      · exact pollFlushLoopFuel_isSome _ _ (by simp only [List.length_drop, List.length_cons] at h ⊢; omega)
    all_goals rfl

/-- On writes that take nothing, `poll_flush` returns `WriteZero` at the first. -/
theorem pollFlushLoopFuel_const_zero (fuel : Nat) {buf : List UInt8} (sent : List UInt8)
    (h : buf ≠ []) : pollFlushLoopFuel (fuel + 1) buf (Stream'.const (.accept 0)) sent =
      some (buf, Stream'.const (.accept 0), sent, .writeZero) := by
  obtain ⟨b, bs, rfl⟩ := List.exists_cons_of_ne_nil h
  rw [pollFlushLoopFuel]
  simp

/-- On the connection model's socket, with more rounds than buffered bytes, the loop is
`flushLoop`. -/
theorem pollFlushLoopFuel_writeStream : ∀ {fuel : Nat} {buf : List UInt8} {ws : List WriteResult}
    {sent buf' : List UInt8} {ws' : List WriteResult} {sent' : List UInt8} {e : FlushEnd},
    flushLoop buf ws sent = (buf', ws', sent', e) → buf.length < fuel →
      pollFlushLoopFuel fuel buf (writeStream ws) sent = some (buf', writeStream ws', sent', e)
  | 0, _, _, _, _, _, _, _, _, hfuel => absurd hfuel (Nat.not_lt_zero _)
  | _ + 1, [], ws, sent, _, _, _, _, h, _ => by rw [flushLoop] at h; cases h; rfl
  | _ + 1, _ :: _, [], _, _, _, _, _, h, _ => by rw [flushLoop] at h; cases h; rfl
  | _ + 1, _ :: _, .error _ :: _, _, _, _, _, _, h, _ => by rw [flushLoop] at h; cases h; rfl
  | fuel + 1, b :: bs, .accept n :: ws, sent, buf', ws', sent', e, h, hfuel => by
    rw [flushLoop] at h
    simp only [pollFlushLoopFuel, writeStream_cons, WriteResult.toIoWrite]
    split at h
    · cases h; rw [if_pos ‹n = 0›]
    · rw [if_neg ‹¬n = 0›]
      exact pollFlushLoopFuel_writeStream h
        (by simp only [List.length_drop, List.length_cons] at hfuel ⊢; omega)

end KuduRpc
