import GLDispatch.Text.Utf8

/-! # Decoding UTF-8

The decoder as a machine that reads byte after byte. What it has decoded before never matters for
what it decodes next, the encoding of a character takes it from between two characters to behind
that character, and a byte of ASCII ends whatever sequence is pending: it stands for itself behind
all bytes, malformed ones included. -/
namespace GLDispatch.Utf8

namespace Decoder

/-- The decoder after more bytes. -/
def run (d : Decoder) (bytes : Bytes) : Decoder :=
  bytes.foldl feed d

@[simp] theorem run_nil (d : Decoder) : d.run [] = d := rfl

@[simp] theorem run_cons (d : Decoder) (b : UInt8) (bytes : Bytes) :
    d.run (b :: bytes) = (d.feed b).run bytes := rfl

theorem run_append (d : Decoder) (first second : Bytes) :
    d.run (first ++ second) = (d.run first).run second :=
  List.foldl_append

/-- The same decoder where earlier characters, kept latest first, came before. -/
def behind (d : Decoder) (earlier : Text) : Decoder :=
  { d with decoded := d.decoded ++ earlier }

theorem start_behind (decoded earlier : Text) (b : UInt8) :
    start (decoded ++ earlier) b = (start decoded b).behind earlier := by
  unfold start behind
  split
  · rfl
  · cases Pending.ofLead? b <;> rfl

theorem feed_behind (d : Decoder) (earlier : Text) (b : UInt8) :
    (d.behind earlier).feed b = (d.feed b).behind earlier := by
  obtain ⟨pending, decoded⟩ := d
  cases pending with
  | none => exact start_behind decoded earlier b
  | some p =>
    simp only [feed, behind]
    split
    · split <;> rfl
    · exact start_behind (replacement :: decoded) earlier b

theorem run_behind (d : Decoder) (earlier : Text) (bytes : Bytes) :
    (d.behind earlier).run bytes = (d.run bytes).behind earlier := by
  induction bytes generalizing d with
  | nil => rfl
  | cons b bytes ih => rw [run_cons, run_cons, feed_behind, ih]

theorem finish_behind (d : Decoder) (earlier : Text) :
    (d.behind earlier).finish = earlier.reverse ++ d.finish := by
  obtain ⟨pending, decoded⟩ := d
  cases pending <;> simp [finish, behind]

/-- Between two characters, the rest is decoded as if nothing had come before. -/
theorem finish_run (decoded : Text) (bytes : Bytes) :
    (run ⟨none, decoded⟩ bytes).finish = decoded.reverse ++ decode bytes := by
  have later : (⟨none, decoded⟩ : Decoder) = behind {} decoded := rfl
  rw [later, run_behind, finish_behind]
  rfl

/-! ## Sequences -/

/-- Only bytes outside ASCII begin longer sequences, and only such bytes go on with them. -/
theorem high_of_ofLead? {b : UInt8} {p : Pending} (lead : Pending.ofLead? b = some p) :
    0x80 ≤ b ∧ 0x80 ≤ p.low := by
  have leads : ∀ n < 0x100, ∀ p ∈ Pending.ofLead? (.ofNat n), 0x80 ≤ n ∧ 0x80 ≤ p.low := by
    decide +kernel
  have here := leads b.toNat b.toNat_lt p (by rwa [UInt8.ofNat_toNat])
  exact ⟨UInt8.le_iff_toNat_le.mpr here.1, here.2⟩

theorem ofLead?_two : ∀ n < 0x20, 2 ≤ n →
    Pending.ofLead? (.ofNat (n + 0xc0)) = some ⟨1, 0x80, 0xbf, n⟩ := by
  decide

theorem ofLead?_three : ∀ n < 0x10,
    Pending.ofLead? (.ofNat (n + 0xe0)) =
      some ⟨2, if n = 0 then 0xa0 else 0x80, if n = 0xd then 0x9f else 0xbf, n⟩ := by
  decide

theorem ofLead?_four : ∀ n < 5,
    Pending.ofLead? (.ofNat (n + 0xf0)) =
      some ⟨3, if n = 0 then 0x90 else 0x80, if n = 4 then 0x8f else 0xbf, n⟩ := by
  decide

theorem feed_ascii {b : UInt8} (ascii : b < 0x80) (decoded : Text) :
    feed ⟨none, decoded⟩ b = ⟨none, Char.ofNat b.toNat :: decoded⟩ := by
  rw [feed, start, if_pos ascii]

theorem feed_lead {b : UInt8} {p : Pending} (lead : Pending.ofLead? b = some p) (decoded : Text) :
    feed ⟨none, decoded⟩ b = ⟨some p, decoded⟩ := by
  have notAscii : ¬ b < 0x80 := UInt8.not_lt.mpr (high_of_ofLead? lead).1
  simp only [feed, start, if_neg notAscii, lead]

/-- A byte in the range which the pending sequence allows adds its six bits. -/
theorem feed_allowed {p : Pending} {bits : Nat} (small : bits < 0x40)
    (low : p.low.toNat ≤ bits + 0x80) (high : bits + 0x80 ≤ p.high.toNat) (decoded : Text) :
    feed ⟨some p, decoded⟩ (.ofNat (bits + 0x80)) =
      if p.missing ≤ 1 then ⟨none, Char.ofNat (p.value * 0x40 + bits) :: decoded⟩
      else ⟨some ⟨p.missing - 1, 0x80, 0xbf, p.value * 0x40 + bits⟩, decoded⟩ := by
  have value : (UInt8.ofNat (bits + 0x80)).toNat = bits + 0x80 :=
    UInt8.toNat_ofNat_of_lt' (Nat.lt_trans (Nat.add_lt_add_right small 0x80) (by decide))
  have allowed : p.low ≤ .ofNat (bits + 0x80) ∧ .ofNat (bits + 0x80) ≤ p.high := by
    rw [UInt8.le_iff_toNat_le, UInt8.le_iff_toNat_le, value]
    exact ⟨low, high⟩
  simp only [feed, if_pos allowed, value, Nat.add_sub_cancel]

/-- The second byte of a sequence with more bytes behind it. -/
theorem feed_second {missing value bits : Nat} {low high : UInt8} (small : bits < 0x40)
    (notBelow : low.toNat ≤ bits + 0x80) (notAbove : bits + 0x80 ≤ high.toNat) (decoded : Text) :
    feed ⟨some ⟨missing + 2, low, high, value⟩, decoded⟩ (.ofNat (bits + 0x80)) =
      ⟨some ⟨missing + 1, 0x80, 0xbf, value * 0x40 + bits⟩, decoded⟩ := by
  have more : ¬ missing + 2 ≤ 1 := by omega
  rw [feed_allowed (p := ⟨missing + 2, low, high, value⟩) small notBelow notAbove, if_neg more]
  rfl

/-- From the third byte on, any six bits are allowed. -/
theorem feed_middle {missing value bits : Nat} (small : bits < 0x40) (decoded : Text) :
    feed ⟨some ⟨missing + 2, 0x80, 0xbf, value⟩, decoded⟩ (.ofNat (bits + 0x80)) =
      ⟨some ⟨missing + 1, 0x80, 0xbf, value * 0x40 + bits⟩, decoded⟩ := by
  have notBelow : (0x80 : UInt8).toNat ≤ bits + 0x80 := Nat.le_add_left 0x80 bits
  have notAbove : bits + 0x80 ≤ (0xbf : UInt8).toNat :=
    Nat.add_le_add_right (Nat.le_of_lt_succ small) 0x80
  exact feed_second small notBelow notAbove decoded

theorem feed_last {value bits : Nat} (small : bits < 0x40) (decoded : Text) :
    feed ⟨some ⟨1, 0x80, 0xbf, value⟩, decoded⟩ (.ofNat (bits + 0x80)) =
      ⟨none, Char.ofNat (value * 0x40 + bits) :: decoded⟩ := by
  rw [feed_allowed (p := ⟨1, 0x80, 0xbf, value⟩) small (Nat.le_add_left 0x80 bits)
    (Nat.add_le_add_right (Nat.le_of_lt_succ small) 0x80), if_pos (Nat.le_refl 1)]

/-! ## Characters -/

theorem run_one {n : Nat} (high : n < 0x80) (decoded : Text) :
    run ⟨none, decoded⟩ [.ofNat n] = ⟨none, Char.ofNat n :: decoded⟩ := by
  have value : (UInt8.ofNat n).toNat = n :=
    UInt8.toNat_ofNat_of_lt' (Nat.lt_trans high (by decide))
  have ascii : UInt8.ofNat n < 0x80 := UInt8.lt_iff_toNat_lt.mpr (by rwa [value])
  rw [run_cons, run_nil, feed_ascii ascii, value]

theorem run_two {n : Nat} (low : 0x80 ≤ n) (high : n < 0x800) (decoded : Text) :
    run ⟨none, decoded⟩ [.ofNat (n / 0x40 % 0x20 + 0xc0), .ofNat (n % 0x40 + 0x80)] =
      ⟨none, Char.ofNat n :: decoded⟩ := by
  have lead := ofLead?_two (n / 0x40) (by omega) (by omega)
  have whole : n / 0x40 * 0x40 + n % 0x40 = n := by omega
  rw [Nat.mod_eq_of_lt (by omega), run_cons, feed_lead lead, run_cons,
    feed_last (Nat.mod_lt n (by decide)), whole, run_nil]

/-- The second byte avoids overlong forms and surrogates, as the character is none of these. -/
theorem run_three {n : Nat} (low : 0x800 ≤ n) (high : n < 0x10000)
    (valid : n < 0xd800 ∨ 0xdfff < n) (decoded : Text) :
    run ⟨none, decoded⟩ [.ofNat (n / 0x1000 % 0x10 + 0xe0), .ofNat (n / 0x40 % 0x40 + 0x80),
      .ofNat (n % 0x40 + 0x80)] = ⟨none, Char.ofNat n :: decoded⟩ := by
  have lead := ofLead?_three (n / 0x1000) (by omega)
  have whole : (n / 0x1000 * 0x40 + n / 0x40 % 0x40) * 0x40 + n % 0x40 = n := by omega
  have notBelow : (if n / 0x1000 = 0 then (0xa0 : UInt8) else 0x80).toNat ≤
      n / 0x40 % 0x40 + 0x80 := by
    split <;> simp only [UInt8.reduceToNat] <;> omega
  have notAbove : n / 0x40 % 0x40 + 0x80 ≤
      (if n / 0x1000 = 0xd then (0x9f : UInt8) else 0xbf).toNat := by
    split <;> simp only [UInt8.reduceToNat] <;> omega
  rw [Nat.mod_eq_of_lt (by omega), run_cons, feed_lead lead, run_cons,
    feed_second (Nat.mod_lt _ (by decide)) notBelow notAbove, run_cons,
    feed_last (Nat.mod_lt n (by decide)), whole, run_nil]

/-- The second byte keeps to the code points there are. -/
theorem run_four {n : Nat} (low : 0x10000 ≤ n) (high : n < 0x110000) (decoded : Text) :
    run ⟨none, decoded⟩ [.ofNat (n / 0x40000 % 8 + 0xf0), .ofNat (n / 0x1000 % 0x40 + 0x80),
      .ofNat (n / 0x40 % 0x40 + 0x80), .ofNat (n % 0x40 + 0x80)] =
      ⟨none, Char.ofNat n :: decoded⟩ := by
  have lead := ofLead?_four (n / 0x40000) (by omega)
  have whole : ((n / 0x40000 * 0x40 + n / 0x1000 % 0x40) * 0x40 + n / 0x40 % 0x40) * 0x40 +
      n % 0x40 = n := by omega
  have notBelow : (if n / 0x40000 = 0 then (0x90 : UInt8) else 0x80).toNat ≤
      n / 0x1000 % 0x40 + 0x80 := by
    split <;> simp only [UInt8.reduceToNat] <;> omega
  have notAbove : n / 0x1000 % 0x40 + 0x80 ≤
      (if n / 0x40000 = 4 then (0x8f : UInt8) else 0xbf).toNat := by
    split <;> simp only [UInt8.reduceToNat] <;> omega
  rw [Nat.mod_eq_of_lt (by omega), run_cons, feed_lead lead, run_cons,
    feed_second (Nat.mod_lt _ (by decide)) notBelow notAbove, run_cons,
    feed_middle (Nat.mod_lt _ (by decide)), run_cons, feed_last (Nat.mod_lt n (by decide)), whole,
    run_nil]

/-- The encoding of a character is decoded to that character, and nothing is pending behind it. -/
theorem run_encodeChar (c : Char) (decoded : Text) :
    run ⟨none, decoded⟩ (String.utf8EncodeChar c) = ⟨none, c :: decoded⟩ := by
  have valid : c.toNat < 0xd800 ∨ 0xdfff < c.toNat ∧ c.toNat < 0x110000 := c.valid
  have code : c.val.toNat = c.toNat := rfl
  have target : (⟨none, c :: decoded⟩ : Decoder) = ⟨none, Char.ofNat c.toNat :: decoded⟩ := by
    rw [Char.ofNat_toNat]
  rw [String.utf8EncodeChar, code, target]
  split
  next high => exact run_one (Nat.lt_succ_of_le high) decoded
  next low =>
    split
    next high => exact run_two (by omega) (by omega) decoded
    next low =>
      split
      next high => exact run_three (by omega) (by omega) (by omega) decoded
      next low => exact run_four (by omega) (by omega) decoded

theorem run_encode (t decoded : Text) :
    run ⟨none, decoded⟩ (encode t) = ⟨none, t.reverse ++ decoded⟩ := by
  induction t generalizing decoded with
  | nil => rfl
  | cons c t ih =>
    have encoded : encode (c :: t) = String.utf8EncodeChar c ++ encode t := List.flatMap_cons
    rw [encoded, run_append, run_encodeChar, ih, List.reverse_cons, List.append_assoc,
      List.singleton_append]

/-! ## Bytes of ASCII -/

/-- No pending sequence waits for a byte of ASCII. -/
def Sound (d : Decoder) : Prop :=
  ∀ p ∈ d.pending, 0x80 ≤ p.low

theorem sound_start (decoded : Text) (b : UInt8) : (start decoded b).Sound := by
  unfold start
  split
  · simp [Sound]
  · cases lead : Pending.ofLead? b with
    | none => simp [Sound]
    | some p => simpa [Sound] using (high_of_ofLead? lead).2

theorem sound_feed (d : Decoder) (b : UInt8) : (d.feed b).Sound := by
  obtain ⟨pending, decoded⟩ := d
  cases pending with
  | none => exact sound_start decoded b
  | some p =>
    simp only [feed]
    split
    · split <;> simp [Sound]
    · exact sound_start (replacement :: decoded) b

theorem sound_run {d : Decoder} (sound : d.Sound) (bytes : Bytes) : (d.run bytes).Sound := by
  induction bytes generalizing d with
  | nil => exact sound
  | cons b bytes ih => exact ih (sound_feed d b)

/-- A byte of ASCII ends the pending sequence and stands for itself. -/
theorem Sound.feed_ascii {d : Decoder} (sound : d.Sound) {b : UInt8} (ascii : b < 0x80) :
    d.feed b = ⟨none, Char.ofNat b.toNat :: d.finish.reverse⟩ := by
  obtain ⟨pending, decoded⟩ := d
  cases pending with
  | none => simp [Decoder.feed_ascii ascii, finish]
  | some p =>
    have below : ¬ p.low ≤ b := UInt8.not_le.mpr (UInt8.lt_of_lt_of_le ascii (sound p rfl))
    simp [feed, start, finish, below, ascii]

end Decoder

/-- What was encoded is decoded again. -/
theorem decode_encode (t : Text) : decode (encode t) = t := by
  have run : Decoder.run {} (encode t) = ⟨none, t.reverse ++ []⟩ := Decoder.run_encode t []
  have decoded : decode (encode t) = (Decoder.run {} (encode t)).finish := rfl
  rw [decoded, run, Decoder.finish, List.append_nil, List.reverse_reverse]

/-- A byte of ASCII keeps the bytes in front of it and those behind it apart, malformed or not. -/
theorem decode_append_ascii (front : Bytes) {b : UInt8} (ascii : b < 0x80) (rest : Bytes) :
    decode (front ++ b :: rest) = decode front ++ Char.ofNat b.toNat :: decode rest := by
  have sound : (Decoder.run {} front).Sound := Decoder.sound_run (by simp [Decoder.Sound]) front
  calc decode (front ++ b :: rest)
      = (((Decoder.run {} front).feed b).run rest).finish := by
        rw [← Decoder.run_cons, ← Decoder.run_append]
        rfl
    _ = (Char.ofNat b.toNat :: (decode front).reverse).reverse ++ decode rest := by
        rw [sound.feed_ascii ascii, Decoder.finish_run]
        rfl
    _ = decode front ++ Char.ofNat b.toNat :: decode rest := by simp

example : decode [0xe2, 0x82, 0x0a, 0x41] = "\uFFFD\nA".toList := by decide

end GLDispatch.Utf8
