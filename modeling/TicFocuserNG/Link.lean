import TicFocuserNG.Device
import TicFocuserNG.Frames

/- A Tic behind the serial protocol: what a frame makes it do, and what a read
   loop brings of its replies. -/
namespace TicFocuserNG

open TiclibInterface (Command)

namespace SerialTic
variable (fw : Firmware)

/-- The Tic after an operation that came as the frame `f`. -/
def performed (t : SerialTic) (f : List UInt8) (op : TicOp) : SerialTic :=
  { t with frame := [], out := t.ops ++ [op], wire := t.wire ++ f, sent := t.sent ++ op.answer fw t.ops }

/-- Bytes from the line: the receiver takes them, and what it puts out is replied to. -/
theorem receive_foldl (bytes : List UInt8) (t : SerialTic) :
    bytes.foldl (receive fw) t =
      { t with
        toReceiver := bytes.foldl (Framing.receive compact) t.toReceiver
        wire := t.wire ++ bytes
        sent := t.sent ++
          fw.replies t.ops ((bytes.foldl (Framing.receive compact) t.toReceiver).out.drop t.ops.length) } := by
  induction bytes generalizing t with
  | nil => simp [Firmware.replies]
  | cons byte bytes ih =>
    obtain ⟨new, hnew⟩ := Framing.out_foldl compact [byte] t.toReceiver
    obtain ⟨rest, hrest⟩ := Framing.out_foldl compact bytes (Framing.receive compact t.toReceiver byte)
    have hone : (Framing.receive compact t.toReceiver byte).out = t.out ++ new := hnew
    rw [hone, List.append_assoc] at hrest
    rw [List.foldl_cons, ih, List.foldl_cons]
    simp only [receive, ops, hone, hrest, List.drop_left, List.length_append, ← List.drop_drop, fw.replies_append,
      List.append_assoc, List.singleton_append]

/-- A frame that arrives whole. -/
theorem receive_isFrame (t : SerialTic) {f : List UInt8} {op : TicOp} (h : Framing.IsFrame compact f op) :
    f.foldl (receive fw) t = t.performed fw f op := by
  rw [receive_foldl, h.receive]
  simp only [performed, ops, List.drop_left, Firmware.replies, List.append_nil]

end SerialTic

/-! ## The data bytes -/

theorem toNat_low7 (b : UInt8) : (b &&& 0x7F).toNat = b.toNat % 2 ^ 7 := by
  have h : (0x7F : UInt8).toNat = 2 ^ 7 - 1 := rfl
  rw [UInt8.toNat_and, h, Nat.and_two_pow_sub_one_eq_mod]

/-- Bit `i` of the extra byte is the top bit of byte `i`. -/
theorem testBit_msbs (val : UInt32) {i : Nat} (hi : i < 4) :
    (TicSerial.msbs val &&& 0x7F).toNat.testBit i = val.toNat.testBit (8 * i + 7) := by
  have h0 : (1 : UInt32).toNat = 2 ^ 0 := rfl
  have h1 : (2 : UInt32).toNat = 2 ^ 1 := rfl
  have h2 : (4 : UInt32).toNat = 2 ^ 2 := rfl
  have h3 : (8 : UInt32).toNat = 2 ^ 3 := rfl
  rw [toNat_low7, TicSerial.msbs, UInt32.toNat_toUInt8]
  simp only [UInt32.toNat_or, UInt32.toNat_and, UInt32.toNat_shiftRight, Nat.testBit_mod_two_pow,
    Nat.testBit_or, Nat.testBit_and, Nat.testBit_shiftRight, h0, h1, h2, h3, Nat.testBit_two_pow]
  match i, hi with
  | 0, _ => simp
  | 1, _ => simp
  | 2, _ => simp
  | 3, _ => simp

theorem toNat_byte (val : UInt32) (k : UInt32) (hk : k.toNat < 32) :
    (val >>> k).toUInt8.toNat = val.toNat / 2 ^ k.toNat % 256 := by
  rw [UInt32.toNat_toUInt8, UInt32.toNat_shiftRight, Nat.mod_eq_of_lt hk, Nat.shiftRight_eq_div_pow]

/-- The low bits of a byte of `n`, and its top bit. -/
theorem split_byte (n k : Nat) :
    n / 2 ^ k % 256 % 2 ^ 7 + 128 * (n.testBit (k + 7)).toNat = n / 2 ^ k % 256 := by
  rw [Nat.toNat_testBit, Nat.pow_add, ← Nat.div_div_eq_div_mul]
  omega

theorem decodeW32_w32Bytes (val : UInt32) :
    decodeW32 (TicSerial.msbs val &&& 0x7F) (val.toUInt8 &&& 0x7F) ((val >>> 8).toUInt8 &&& 0x7F)
      ((val >>> 16).toUInt8 &&& 0x7F) ((val >>> 24).toUInt8 &&& 0x7F) = val.toNat := by
  have m₀ : (TicSerial.msbs val &&& 0x7F).toNat.testBit 0 = val.toNat.testBit (0 + 7) := testBit_msbs val (by omega)
  have m₁ : (TicSerial.msbs val &&& 0x7F).toNat.testBit 1 = val.toNat.testBit (8 + 7) := testBit_msbs val (by omega)
  have m₂ : (TicSerial.msbs val &&& 0x7F).toNat.testBit 2 = val.toNat.testBit (16 + 7) := testBit_msbs val (by omega)
  have m₃ : (TicSerial.msbs val &&& 0x7F).toNat.testBit 3 = val.toNat.testBit (24 + 7) := testBit_msbs val (by omega)
  have b₀ : val.toUInt8.toNat = val.toNat / 2 ^ 0 % 256 := by simp
  have b₁ : (val >>> 8).toUInt8.toNat = val.toNat / 2 ^ 8 % 256 := toNat_byte val 8 (by decide)
  have b₂ : (val >>> 16).toUInt8.toNat = val.toNat / 2 ^ 16 % 256 := toNat_byte val 16 (by decide)
  have b₃ : (val >>> 24).toUInt8.toNat = val.toNat / 2 ^ 24 % 256 := toNat_byte val 24 (by decide)
  have hlt := val.toNat_lt
  rw [decodeW32, m₀, m₁, m₂, m₃]
  simp only [toNat_low7]
  rw [b₀, b₁, b₂, b₃, split_byte, split_byte, split_byte, split_byte]
  omega

theorem low7_lt (b : UInt8) : b &&& 0x7F < 0x80 := by
  have h : (0x80 : UInt8).toNat = 128 := rfl
  rw [UInt8.lt_iff_toNat_lt, toNat_low7, h]
  omega

theorem testBit_lengthByte (offset length : UInt8) (i : Nat) :
    (((length &&& (0x3F : UInt8)) ||| (offset >>> 1 &&& (0x40 : UInt8))) &&& 0x7F).toNat.testBit i =
      (decide (i < 6) && length.toNat.testBit i || decide (i = 6) && offset.toNat.testBit 7) := by
  have h3F : (0x3F : UInt8).toNat = 2 ^ 6 - 1 := rfl
  have h40 : (0x40 : UInt8).toNat = 2 ^ 6 := rfl
  have h1 : (1 : UInt8).toNat % 8 = 1 := rfl
  rw [toNat_low7]
  simp only [UInt8.toNat_or, UInt8.toNat_and, UInt8.toNat_shiftRight, h3F, h40, h1,
    Nat.and_two_pow_sub_one_eq_mod, Nat.testBit_mod_two_pow, Nat.testBit_or, Nat.testBit_and,
    Nat.testBit_shiftRight, Nat.testBit_two_pow]
  by_cases h : i = 6
  · subst h
    simp
  · have h' : ¬ 6 = i := fun h' => h h'.symm
    by_cases hlt : i < 6
    · have : i < 7 := by omega
      simp [h, h', hlt, this]
    · simp [h, h', hlt]

theorem decode_lengthByte (offset length : UInt8) :
    (((length &&& (0x3F : UInt8)) ||| (offset >>> 1 &&& (0x40 : UInt8))) &&& 0x7F).toNat % 64 =
      length.toNat % 64 := by
  have h64 : 64 = 2 ^ 6 := rfl
  rw [h64]
  apply Nat.eq_of_testBit_eq
  intro i
  rw [Nat.testBit_mod_two_pow, Nat.testBit_mod_two_pow, testBit_lengthByte]
  by_cases hlt : i < 6
  · have hne : i ≠ 6 := by omega
    simp [hlt, hne]
  · simp [hlt]

theorem decode_offset (offset length : UInt8) :
    (offset &&& 0x7F &&& 0x7F).toNat + 128 * ((((length &&& (0x3F : UInt8)) |||
      (offset >>> 1 &&& (0x40 : UInt8))) &&& 0x7F).toNat.testBit 6).toNat = offset.toNat := by
  have hlt := offset.toNat_lt
  rw [testBit_lengthByte, toNat_low7, toNat_low7]
  simp only [lt_irrefl, decide_false, decide_true, Bool.false_and, Bool.false_or, Bool.true_and, Nat.toNat_testBit]
  omega

theorem toNat_low6 (length : UInt8) : (length &&& 0x3F).toNat = length.toNat % 2 ^ 6 := by
  have h3F : (0x3F : UInt8).toNat = 2 ^ 6 - 1 := rfl
  rw [UInt8.toNat_and, h3F, Nat.and_two_pow_sub_one_eq_mod]

theorem mask_length {length : UInt8} (h : length.toNat < 64) : length &&& 0x3F = length := by
  apply UInt8.toNat_inj.mp
  rw [toNat_low6]
  exact Nat.mod_eq_of_lt h

/-! ## The frame of a call -/

/-- How many data bytes come with a command. -/
def TicCommand.Kind.size : Kind → Nat
  | .quick => 0
  | .w7 => 1
  | .segment => 2
  | .w32 => 5

/-- The number of data bytes decides. -/
theorem decodeData_none {cmd : TicCommand} {data : List UInt8} (h : data.length ≠ cmd.kind.size) :
    decodeData cmd data = none := by
  unfold decodeData
  split
  case h_1 hkind => exact absurd (by rw [hkind]; rfl) h
  case h_2 hkind => exact absurd (by rw [hkind]; rfl) h
  case h_3 hkind => exact absurd (by rw [hkind]; rfl) h
  case h_4 hkind => exact absurd (by rw [hkind]; rfl) h
  case h_5 => rfl

theorem decodeFrame_code (cmd : TicCommand) (data : List UInt8) :
    decodeFrame (cmd.code :: data) = decodeData cmd data := by
  rw [decodeFrame, TicCommand.ofCode_code, Option.bind_some]

namespace Call

theorem length_data (c : Call) : c.data.length = c.cmd.kind.size := by
  cases c with
  | quick cmd h => exact congrArg TicCommand.Kind.size h.symm
  | w32 cmd val h => exact congrArg TicCommand.Kind.size h.symm
  | w7 cmd val h => exact congrArg TicCommand.Kind.size h.symm
  | segment cmd offset length h => exact congrArg TicCommand.Kind.size h.symm

/-- Only the command byte is one. -/
theorem data_low (c : Call) : ∀ byte ∈ c.data, byte < 0x80 := by
  cases c <;> simp [data, TicSerial.w32Bytes, TicSerial.segmentBytes, low7_lt]

theorem decode_data (c : Call) : decodeData c.cmd c.data = some (c.op .serial) := by
  cases c with
  | quick cmd h => simp only [decodeData, Call.cmd, data, h, op]
  | w32 cmd val h => simp only [decodeData, Call.cmd, data, TicSerial.w32Bytes, h, decodeW32_w32Bytes, op]
  | w7 cmd val h =>
    simp only [decodeData, Call.cmd, data, h, toNat_low7, op]
    rfl
  | segment cmd offset length h =>
    simp only [decodeData, Call.cmd, data, TicSerial.segmentBytes, h, decode_offset, decode_lengthByte, op]
    rfl

end Call

/-- A call is one frame of what the line carries of it, and stands for nothing with bytes
    missing. -/
theorem robust_call (c : Call) : Framing.Robust compact (c.frame 255) (c.op .serial) := by
  show Framing.Robust compact (c.cmd.code :: c.data) (c.op .serial)
  apply Framing.Robust.of_length
  · exact decide_eq_true c.cmd.le_code
  · intro byte hbyte
    exact decide_eq_false (UInt8.not_le.mpr (c.data_low byte hbyte))
  · intro data hshort
    rw [c.length_data] at hshort
    exact (decodeFrame_code c.cmd data).trans (decodeData_none hshort.ne)
  · exact (decodeFrame_code c.cmd c.data).trans c.decode_data

/-- What a command of the driver asks the controller for. -/
def TiclibInterface.Command.op : Command → TicOp
  | .energize => .quick .energize
  | .deenergize => .quick .deenergize
  | .exitSafeStart => .quick .exitSafeStart
  | .haltAndHold => .quick .haltAndHold
  | .setTargetPosition position => .w32 .setTargetPosition position.toUInt32.toNat
  | .haltAndSetPosition position => .w32 .haltAndSetPosition position.toUInt32.toNat

theorem TiclibInterface.Command.op_call (w : Wire) (c : Command) : c.call.op w = c.op := by
  cases c <;> rfl

theorem robust_command (c : Command) : Framing.Robust compact (c.frame 255) c.op := by
  rw [← c.op_call .serial]
  exact robust_call c.call

namespace SerialTic
variable (fw : Firmware)

/-- The Tic once the request for a segment has arrived. -/
def requested (cmd : TicCommand) (offset length : UInt8) (t : SerialTic) : SerialTic :=
  t.performed fw (TicSerial.headerBytes 255 cmd ++ TicSerial.segmentBytes offset length)
    (.segment cmd offset.toNat (length.toNat % 64))

theorem receive_request {cmd : TicCommand} (hcmd : cmd.kind = .segment) (offset length : UInt8) (t : SerialTic) :
    (TicSerial.headerBytes 255 cmd ++ TicSerial.segmentBytes offset length).foldl (receive fw) t =
      t.requested fw cmd offset length :=
  receive_isFrame fw t (robust_call (.segment cmd offset length hcmd)).toIsFrame

theorem length_sent_requested (cmd : TicCommand) (offset length : UInt8) (t : SerialTic) :
    (t.requested fw cmd offset length).sent.length = t.sent.length + length.toNat % 64 := by
  simp [requested, performed, TicOp.answer]

/-- With nothing else on the link, the reply is next. -/
theorem next_requested (cmd : TicCommand) (offset length : UInt8) {t : SerialTic} (h : t.taken = t.sent.length) :
    (t.requested fw cmd offset length).next (length.toNat % 64) =
      fw.reply t.ops cmd offset.toNat (length.toNat % 64) := by
  show ((t.sent ++ fw.reply t.ops cmd offset.toNat (length.toNat % 64)).drop t.taken).take _ = _
  rw [h, List.drop_left, List.take_of_length_le (by simp)]

end SerialTic

/-! ## Reading the replies -/

namespace StreamBT
variable (fw : Firmware) (found : Nat → Nat)

/-- Every byte of a frame arrives at the first try. -/
theorem putAll_link (b : StreamBT) (bytes : List UInt8) (t : SerialTic) :
    TicSerial.putAll (stream (serialTic fw found)) bytes (b, t) = (b, bytes.foldl (SerialTic.receive fw) t) := by
  induction bytes generalizing t with
  | nil => rfl
  | cons byte bytes ih => exact ih (t.receive fw byte)

/-- What the loop has brought of the link `t` since it had `readC` bytes in `buffer`:
    `c` bytes, with `r` reads. -/
structure Brought (found : Nat → Nat) (n readC numZeros : Nat) (buffer : List UInt8) (b : StreamBT) (t : SerialTic)
    (c r readC' numZeros' : Nat) (buffer' : List UInt8) (b' : StreamBT) (t' : SerialTic) : Prop where
  count : readC' = readC + c
  filled : buffer' = poke buffer readC (t.next c)
  stream : b' = b
  link : t' = t.delivered c r
  fits : readC + c ≤ n
  sent : t.taken + c ≤ t.sent.length
  lively : (∀ k, 0 < found k) → n - readC ≤ t.sent.length - t.taken → numZeros < 5 → numZeros' < 5

section
variable {fw found} {n readC numZeros c r readC' numZeros' : Nat} {buffer buffer' : List UInt8} {b b' : StreamBT}
  {t t' t'' : SerialTic}

theorem Brought.nothing (hle : readC ≤ n) (htaken : t.taken ≤ t.sent.length) :
    Brought found n readC numZeros buffer b t 0 0 readC numZeros buffer b t where
  count := rfl
  filled := by simp [poke, SerialTic.next]
  stream := rfl
  link := rfl
  fits := hle
  sent := htaken
  lively := fun _ _ h => h

/-- The next read brings the bytes that follow. -/
theorem Brought.read (h : Brought found n readC numZeros buffer b t c r readC' numZeros' buffer' b' t')
    (hlt : readC' < n) {chunk : Option { bs : List UInt8 // bs.length ≤ n - readC' }}
    (hread : (serialTic fw found).read b'.btSocket (n - readC') t' = (chunk, t'')) :
    ∃ bs c', chunk = some bs ∧ bs.val = (t.delivered c r).next c' ∧ bs.val.length = c' ∧ c' ≤ n - readC' ∧
      t'' = t.delivered (c + c') (r + 1) ∧ t.taken + (c + c') ≤ t.sent.length ∧
      ((∀ k, 0 < found k) → n - readC ≤ t.sent.length - t.taken → 0 < c') := by
  obtain ⟨hcount, -, -, rfl, hfits, hsent, -⟩ := h
  have htaken : (t.delivered c r).taken ≤ (t.delivered c r).sent.length := hsent
  obtain ⟨bs, c', hbs, hval, hlen, hn, hmore, hsome⟩ := read_serialTic fw found b'.btSocket (n - readC') htaken
  rw [hbs, Prod.mk.injEq] at hread
  have hmore' : t.taken + c + c' ≤ t.sent.length := hmore
  refine ⟨bs, c', hread.1.symm, hval, hlen, hn, ?_, by omega, ?_⟩
  · rw [← hread.2]
    simp only [SerialTic.delivered, Nat.add_assoc]
  · intro hfound hpending
    have hleft : t.taken + c < t.sent.length := by omega
    exact hsome hfound (by omega) hleft

theorem Brought.idle (h : Brought found n readC numZeros buffer b t c r readC' numZeros' buffer' b' t')
    (hlt : readC' < n) {bs : { bs : List UInt8 // bs.length ≤ n - readC' }}
    (hread : (serialTic fw found).read b'.btSocket (n - readC') t' = (some bs, t'')) (hempty : bs.val = []) :
    Brought found n readC numZeros buffer b t c (r + 1) readC' (numZeros' + 1) buffer' b' t'' := by
  obtain ⟨bs', c', hbs, -, hlen, -, hlink, -, hsome⟩ := h.read hlt hread
  have hzero : c' = 0 := by
    rw [← hlen, ← Option.some_inj.mp hbs, hempty]
    rfl
  subst hzero
  exact ⟨h.count, h.filled, h.stream, hlink, h.fits, h.sent,
    fun hfound hpending _ => absurd (hsome hfound hpending) (Nat.lt_irrefl 0)⟩

theorem Brought.chunk (h : Brought found n readC numZeros buffer b t c r readC' numZeros' buffer' b' t')
    (hbuf : readC ≤ buffer.length) (hlt : readC' < n) {bs : { bs : List UInt8 // bs.length ≤ n - readC' }}
    (hread : (serialTic fw found).read b'.btSocket (n - readC') t' = (some bs, t'')) :
    Brought found n readC numZeros buffer b t (c + bs.val.length) (r + 1) (readC' + bs.val.length) 0
      (poke buffer' readC' bs) b' t'' := by
  obtain ⟨bs', c', hbs, hval, hlen, hn, hlink, hsent, -⟩ := h.read hlt hread
  rw [← Option.some_inj.mp hbs] at hval hlen
  have hnext : (t.next c).length = c := SerialTic.length_next h.sent
  have hcount := h.count
  rw [hlen, hval]
  refine ⟨by omega, ?_, h.stream, hlink, by omega, hsent, fun _ _ _ => Nat.succ_pos 4⟩
  calc poke buffer' readC' ((t.delivered c r).next c')
      = poke (poke buffer readC (t.next c)) (readC + (t.next c).length) ((t.delivered c r).next c') := by
        rw [h.filled, hcount, hnext]
    _ = poke buffer readC (t.next c ++ (t.delivered c r).next c') := poke_poke hbuf _
    _ = poke buffer readC (t.next (c + c')) := by rw [← SerialTic.next_add]

end

/-- The read loop brings the oldest bytes of the link, in order; where every
    read finds something and enough has been sent, it brings all it was asked
    for. -/
theorem readLoop_link {n fuel readC numZeros : Nat} {buffer : List UInt8} (b : StreamBT) {t : SerialTic}
    (hle : readC ≤ n) (hbuf : n ≤ buffer.length) (htaken : t.taken ≤ t.sent.length)
    (hfuel : 5 * (n - readC) ≤ fuel + numZeros) :
    ∃ c r, readLoop (serialTic fw found) n fuel readC numZeros buffer b t =
        some (readC + c, poke buffer readC (t.next c), b, t.delivered c r) ∧
      readC + c ≤ n ∧ t.taken + c ≤ t.sent.length ∧
      ((∀ k, 0 < found k) → n - readC ≤ t.sent.length - t.taken → numZeros < 5 → readC + c = n) := by
  obtain ⟨out, hret⟩ := readLoop_returns (serialTic fw found) n fuel readC numZeros buffer b t hfuel
  have hrun : ∃ numZeros', (∃ c r, Brought found n readC numZeros buffer b t c r out.1 numZeros' out.2.1 out.2.2.1
      out.2.2.2) ∧ ¬ (out.1 < n ∧ numZeros' < 5) := by
    refine readLoop_run (I := fun readC' numZeros' buffer' b' t' =>
      ∃ c r, Brought found n readC numZeros buffer b t c r readC' numZeros' buffer' b' t') ?_ ?_ ?_ hret
      ⟨0, 0, .nothing hle htaken⟩
    · -- a read of the link does not fail
      intro readC' numZeros' buffer' b' t' t'' hI hlt _ hread
      obtain ⟨c, r, h⟩ := hI
      obtain ⟨bs, c', hbs, -⟩ := h.read hlt hread
      cases hbs
    · intro readC' numZeros' buffer' b' t' t'' bs hI hlt _ hread hempty
      obtain ⟨c, r, h⟩ := hI
      exact ⟨c, r + 1, h.idle hlt hread hempty⟩
    · intro readC' numZeros' buffer' b' t' t'' bs hI hlt _ hread _
      obtain ⟨c, r, h⟩ := hI
      exact ⟨_, r + 1, h.chunk (hle.trans hbuf) hlt hread⟩
  obtain ⟨numZeros', ⟨c, r, h⟩, hend⟩ := hrun
  refine ⟨c, r, ?_, h.fits, h.sent, ?_⟩
  · rw [hret, ← h.count, ← h.filled, ← h.link]
    have hstream := h.stream
    rw [← hstream]
  · intro hfound hpending hnum
    have hlive := h.lively hfound hpending hnum
    have hfits := h.fits
    rw [h.count] at hend
    omega

theorem readBytes_link {n : Nat} {buffer : List UInt8} (b : StreamBT) {t : SerialTic} (hbuf : n ≤ buffer.length)
    (htaken : t.taken ≤ t.sent.length) :
    ∃ c r, readBytes (serialTic fw found) buffer n (b, t) =
        some (c, poke buffer 0 (t.next c), b, t.delivered c r) ∧
      c ≤ n ∧ t.taken + c ≤ t.sent.length ∧
      ((∀ k, 0 < found k) → n ≤ t.sent.length - t.taken → c = n) := by
  obtain ⟨c, r, hread, hle, hsent, hall⟩ :=
    readLoop_link fw found b (Nat.zero_le n) hbuf htaken (show 5 * (n - 0) ≤ 5 * n + 0 by omega)
  rw [Nat.zero_add] at hread hle hall
  refine ⟨c, r, hread, hle, hsent, ?_⟩
  intro hfound hpending
  exact hall hfound hpending (by omega)

/-- A segment: it comes without an error exactly when all bytes asked for came, and what
    came are the oldest bytes of the link. -/
theorem getSegment_link {cmd : TicCommand} (hcmd : cmd.kind = .segment) (offset length : UInt8) {buffer : List UInt8}
    (hbuf : length.toNat % 64 ≤ buffer.length) (lastError : UInt8) (product : TicProduct) (b : StreamBT)
    {t : SerialTic} (htaken : t.taken ≤ t.sent.length) :
    ∃ c r, TicSerial.getSegment (stream (serialTic fw found)) 255 cmd offset length buffer
        ⟨lastError, product, b, t⟩ =
      some (poke buffer 0 (if c = length.toNat % 64 then (t.requested fw cmd offset length).next c
          else List.replicate (length.toNat % 64) 0),
        ⟨if c = length.toNat % 64 then 0 else 50, product, b, (t.requested fw cmd offset length).delivered c r⟩) ∧
      c ≤ length.toNat % 64 ∧ t.taken + c ≤ t.sent.length + length.toNat % 64 ∧
      ((∀ k, 0 < found k) → t.taken = t.sent.length → c = length.toNat % 64) := by
  have hmask : (length &&& 0x3F).toNat = length.toNat % 64 := toNat_low6 length
  have hsent := t.length_sent_requested fw cmd offset length
  have htaken' : (t.requested fw cmd offset length).taken ≤ (t.requested fw cmd offset length).sent.length := by
    rw [hsent]
    exact Nat.le_add_right_of_le htaken
  obtain ⟨c, r, hread, hle, htot, hall⟩ := readBytes_link fw found b hbuf htaken'
  have hnext : ((t.requested fw cmd offset length).next c).length = c := SerialTic.length_next htot
  refine ⟨c, r, ?_, hle, hsent ▸ htot, ?_⟩
  · have hcount : UInt8.ofNat c = length &&& 0x3F ↔ c = length.toNat % 64 := by
      rw [← UInt8.toNat_inj, UInt8.toNat_ofNat', hmask]
      omega
    rw [TicSerial.getSegment_eq, putAll_link, t.receive_request fw hcmd, hmask]
    simp only [stream, hread, Option.map_some, ne_eq, hcount]
    by_cases hc : c = length.toNat % 64
    · simp only [hc, not_true_eq_false, if_false, if_true]
    · -- the buffer is cleared as far as it was asked for
      rw [← hnext] at hle
      simp only [hc, not_false_eq_true, if_true, if_false, drop_poke hle]
      simp [poke]
  · intro hfound hnone
    refine hall hfound ?_
    rw [hsent]
    show length.toNat % 64 ≤ t.sent.length + length.toNat % 64 - t.taken
    omega

/-- A short segment fills its buffer. -/
theorem getSegment_fills {cmd : TicCommand} (hcmd : cmd.kind = .segment) (offset : UInt8) {length : UInt8}
    (hlen : length.toNat < 64) {buffer : List UInt8} (hbuf : buffer.length = length.toNat) (lastError : UInt8)
    (product : TicProduct) (b : StreamBT) {t : SerialTic} (htaken : t.taken ≤ t.sent.length) :
    ∃ c r, TicSerial.getSegment (stream (serialTic fw found)) 255 cmd offset length buffer
        ⟨lastError, product, b, t⟩ =
      some (if c = length.toNat then (t.requested fw cmd offset length).next c else List.replicate length.toNat 0,
        ⟨if c = length.toNat then 0 else 50, product, b, (t.requested fw cmd offset length).delivered c r⟩) ∧
      c ≤ length.toNat ∧ t.taken + c ≤ t.sent.length + length.toNat := by
  have hmod : length.toNat % 64 = length.toNat := Nat.mod_eq_of_lt hlen
  obtain ⟨c, r, hget, hle, htot, -⟩ := getSegment_link fw found hcmd offset length (by rw [hmod, hbuf]) lastError
    product b htaken
  rw [hmod] at hget hle htot
  have hsent := t.length_sent_requested fw cmd offset length
  rw [hmod] at hsent
  have hnext : ((t.requested fw cmd offset length).next c).length = c :=
    SerialTic.length_next (by rw [hsent]; exact htot)
  have hwhole : ∀ chunk : List UInt8, chunk.length = length.toNat → poke buffer 0 chunk = chunk :=
    fun chunk h => poke_zero (h.trans hbuf.symm)
  refine ⟨c, r, ?_, hle, htot⟩
  rw [hget]
  by_cases hc : c = length.toNat
  · rw [if_pos hc, hwhole _ (hnext.trans hc)]
  · rw [if_neg hc, hwhole _ (List.length_replicate ..)]

end StreamBT

namespace StreamSerial
variable (fw : Firmware) (found : Nat → Nat) (fd : Int)

theorem putAll_link (fuel : Nat) (bytes : List UInt8) (t : SerialTic) :
    TicSerial.putAll (stream (serialTic fw found) fd fuel) bytes t = bytes.foldl (SerialTic.receive fw) t := by
  induction bytes generalizing t with
  | nil => rfl
  | cons byte bytes ih => exact ih (t.receive fw byte)

/-- The read loop counts every byte twice. -/
theorem readLoop_link {n fuel readC numZeros : Nat} (hn : n < 64) (buffer : List UInt8) {t : SerialTic}
    (hle : readC ≤ 2 * n) (htaken : t.taken ≤ t.sent.length) (hfuel : 5 * (n - readC) ≤ fuel + numZeros) :
    ∃ c r buffer', readLoop (serialTic fw found) fd n fuel readC numZeros buffer t =
        some (readC + 2 * c, buffer', t.delivered c r) ∧
      readC + 2 * c ≤ 2 * n ∧ t.taken + c ≤ t.sent.length := by
  induction fuel generalizing readC numZeros buffer t with
  | zero =>
    have hend : ¬ (readC < n ∧ numZeros < 5) := by omega
    exact ⟨0, 0, buffer, by rw [readLoop, if_neg hend]; rfl, by omega, by omega⟩
  | succ fuel ih =>
    rw [readLoop]
    by_cases hgo : readC < n ∧ numZeros < 5
    · rw [if_pos hgo]
      obtain ⟨chunk, c, hread, -, hlenc, hcn, hcs, -⟩ := read_serialTic fw found fd (n - readC) htaken
      have htaken' : (t.delivered c 1).taken ≤ (t.delivered c 1).sent.length := hcs
      simp only [hread, hlenc]
      -- both additions stay far below 2^64
      have hmod : (readC + c) % 2 ^ 64 = readC + c := Nat.mod_eq_of_lt (by omega)
      have hmod' : (readC + c + c) % 2 ^ 64 = readC + c + c := Nat.mod_eq_of_lt (by omega)
      rw [hmod, hmod']
      by_cases hpos : 0 < c
      · rw [if_pos hpos]
        have hfuel' : 5 * (n - (readC + c + c)) ≤ fuel + 0 := by omega
        obtain ⟨c', r', buffer', hrun, hle', hsent'⟩ := ih _ (by omega) htaken' hfuel'
        have hsum : t.taken + c + c' ≤ t.sent.length := hsent'
        refine ⟨c + c', 1 + r', buffer', ?_, by omega, by omega⟩
        have hcount : readC + c + c + 2 * c' = readC + 2 * (c + c') := by omega
        rw [hrun, hcount]
        simp only [SerialTic.delivered, Nat.add_assoc]
      · have hzero : c = 0 := by omega
        subst hzero
        rw [if_neg hpos]
        have hfuel' : 5 * (n - (readC + 0)) ≤ fuel + (numZeros + 1) := by omega
        obtain ⟨c', r', buffer', hrun, hle', hsent'⟩ := ih _ (by omega) htaken' hfuel'
        refine ⟨c', 1 + r', buffer', ?_, by omega, hsent'⟩
        rw [hrun]
        simp only [SerialTic.delivered, Nat.add_zero, Nat.add_assoc]
    · rw [if_neg hgo]
      exact ⟨0, 0, buffer, rfl, by omega, by omega⟩

/-- A segment: it comes without an error exactly when half of the bytes asked for came. -/
theorem getSegment_link {cmd : TicCommand} (hcmd : cmd.kind = .segment) (offset length : UInt8) {fuel : Nat}
    (hfuel : 5 * (length.toNat % 64) ≤ fuel) (buffer : List UInt8) (lastError : UInt8) (product : TicProduct)
    {t : SerialTic} (htaken : t.taken ≤ t.sent.length) :
    ∃ c r buffer', TicSerial.getSegment (stream (serialTic fw found) fd fuel) 255 cmd offset length buffer
        ⟨lastError, product, t⟩ =
      some (buffer', ⟨if 2 * c = length.toNat % 64 then 0 else 50, product,
        (t.requested fw cmd offset length).delivered c r⟩) ∧
      t.taken + c ≤ t.sent.length + length.toNat % 64 := by
  have hmask : (length &&& 0x3F).toNat = length.toNat % 64 := toNat_low6 length
  have hsent := t.length_sent_requested fw cmd offset length
  have htaken' : (t.requested fw cmd offset length).taken ≤ (t.requested fw cmd offset length).sent.length := by
    rw [hsent]
    exact Nat.le_add_right_of_le htaken
  have hlen : length.toNat % 64 < 64 := Nat.mod_lt _ (by decide)
  obtain ⟨c, r, buffer', hread, hle, htot⟩ := readLoop_link fw found fd hlen buffer (Nat.zero_le _) htaken'
    (show 5 * (length.toNat % 64 - 0) ≤ fuel + 0 by omega)
  rw [Nat.zero_add] at hread hle
  rw [hsent] at htot
  have hcount : UInt8.ofNat (2 * c) = length &&& 0x3F ↔ 2 * c = length.toNat % 64 := by
    rw [← UInt8.toNat_inj, UInt8.toNat_ofNat', hmask]
    omega
  have hget : TicSerial.getSegment (stream (serialTic fw found) fd fuel) 255 cmd offset length buffer
      ⟨lastError, product, t⟩ =
      some (if 2 * c = length.toNat % 64 then buffer'
          else List.replicate (length.toNat % 64) 0 ++ buffer'.drop (length.toNat % 64),
        ⟨if 2 * c = length.toNat % 64 then 0 else 50, product, (t.requested fw cmd offset length).delivered c r⟩) := by
    rw [TicSerial.getSegment_eq, putAll_link, t.receive_request fw hcmd, hmask]
    simp only [stream, readBytes, hread, Option.map_some, ne_eq, hcount]
    by_cases hc : 2 * c = length.toNat % 64
    · simp only [hc, not_true_eq_false, if_false, if_true]
    · simp only [hc, not_false_eq_true, if_true, if_false]
  exact ⟨c, r, _, hget, htot⟩

end StreamSerial

end TicFocuserNG
