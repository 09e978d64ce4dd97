import Mathlib.Algebra.BigOperators.Fin
import Mathlib.Data.List.GetD
import UsbIo16.IdealBoards

/-!
# Agreement of the two pin readers

The library decodes a report in two places: one branch for the level of a
single pin, two loops for the descriptions of all pins. Given the same
transfer they succeed together and agree, and the descriptions keep every bit
of the four bytes they are made from.
-/

namespace UsbIo16.PinReaders

open ByteBuffer Hiddata IdealBoards IoInterface

/-- The number whose bit `k` is the entry of pin `k`. -/
def packed (row : Pin → BitVec 32) : ℕ := ∑ k,(row k).toNat*2^k.val

/-- Two bytes of a report as an unsigned number, the upper one first. -/
def unsignedAt (report : List Byte) (i : ℕ) : ℕ :=
  (report.getD i 0#8).toNat*256+(report.getD (i+1) 0#8).toNat

/-- Two report reads with the same error code, length and bytes. -/
structure SameOutcome {W : Type} (r s : ReportReply W) : Prop where
  err : r.err=s.err
  len : r.len=s.len
  buffer : r.buffer=s.buffer

section Words

/-- The bits of a number below a power of two add up to its remainder. -/
theorem sum_bits (n m : ℕ) : ∑ k : Fin m,(n/2^k.val%2)*2^k.val=n%2^m := by
  induction m with
  | zero => rw [Fin.sum_univ_zero,pow_zero,Nat.mod_one]
  | succ m ih =>
    have hcast : ∑ k : Fin m,(n/2^k.castSucc.val%2)*2^k.castSucc.val=n%2^m := ih
    rw [Fin.sum_univ_castSucc,hcast,Fin.val_last,Nat.mod_pow_succ,Nat.mul_comm]

/-- A bit of a word as a number. -/
theorem bit_getLsbD (x : BitVec 16) (k : ℕ) : (bit (x.getLsbD k)).toNat=x.toNat/2^k%2 := by
  rw [BitVec.getLsbD,Nat.testBit_eq_decide_div_mod_eq]
  rcases Nat.mod_two_eq_zero_or_one (x.toNat/2^k) with h|h <;> rw [h] <;> rfl

/-- The bits of a word packed again are the word. -/
theorem packed_bits (x : BitVec 16) : packed (fun k => bit (x.getLsbD k.val))=x.toNat := by
  have hlt : x.toNat<2^16 := x.isLt
  rw [packed,Finset.sum_congr rfl fun k _ => by rw [bit_getLsbD]]
  exact (sum_bits x.toNat 16).trans (Nat.mod_eq_of_lt hlt)

/-- A word of a report as a number. -/
theorem wordAt_toNat (raw : List Byte) (i : ℕ) : (wordAt raw i).toNat=unsignedAt raw i := by
  have hlt : (raw.getD (i+1) 0#8).toNat<2^8 := (raw.getD (i+1) 0#8).isLt
  rw [wordAt,BitVec.toNat_append,←Nat.shiftLeft_add_eq_or_of_lt hlt,Nat.shiftLeft_eq]
  rfl

/-- A bit is zero or one. -/
theorem bit_zero_or_one (v : Bool) : bit v=0 ∨ bit v=1 := by
  cases v with
  | false => exact Or.inl rfl
  | true => exact Or.inr rfl

end Words

section Readers

variable {W : Type} {hid : HidLayer W} {heap : Heap} {hHandle : Ptr} {p : UsbIoInternal} {w v : W}

/-- The report request behind both readers. -/
abbrev request (hid : HidLayer W) (p : UsbIoInternal) (w : W) : ReportReply W :=
  hid.usbhidGetReport p.usbh 0 (List.replicate 10 0#8) (8+1) w

/-- Status and bytes of a read depend on the outcome of the request only. -/
theorem d16ReadRep_sameOutcome (h : SameOutcome (request hid p w) (request hid p v))
    (raw : Option (List Byte)) :
    (d16ReadRep hid p.usbh 0 raw w).ret=(d16ReadRep hid p.usbh 0 raw v).ret ∧
      (d16ReadRep hid p.usbh 0 raw w).raw_data=(d16ReadRep hid p.usbh 0 raw v).raw_data := by
  obtain ⟨herr,hlen,hbuf⟩ := h
  by_cases he : (request hid p w).err=0
  · by_cases hb : (request hid p w).len=9 ∧ (request hid p w).buffer.getD 0 0#8=0#8
    · have he' := herr ▸ he
      have hl' := hlen ▸ hb.1
      have h0' := hbuf ▸ hb.2
      rw [d16ReadRep_ok rfl he hb.1 hb.2,d16ReadRep_ok rfl he' hl' h0']
      exact ⟨rfl,congrArg (fun b => raw.map fun raw => writeAt raw 0 (b.take 9)) hbuf⟩
    · have he' := herr ▸ he
      have hb' : ¬((request hid p v).len=9 ∧ (request hid p v).buffer.getD 0 0#8=0#8) := by
        rwa [←hlen,←hbuf]
      rw [d16ReadRep_bad rfl he hb,d16ReadRep_bad rfl he' hb']
      exact ⟨rfl,rfl⟩
  · have he' : (request hid p v).err≠0 := herr ▸ he
    rw [d16ReadRep_err rfl he,d16ReadRep_err rfl he']
    exact ⟨rfl,rfl⟩

/-- An array of zeros into which the first bytes of a buffer are copied holds
those bytes, and zeros where the buffer has none. -/
theorem getD_copied (buffer : List Byte) {n i : ℕ} (hi : i<n) :
    (writeAt (List.replicate n 0#8) 0 (buffer.take n)).getD i 0#8=buffer.getD i 0#8 := by
  have hl : (buffer.take n).length=min n buffer.length := List.length_take
  rw [writeAt_zero]
  by_cases hb : i<buffer.length
  · rw [List.getD_append _ _ _ _ (by omega),List.getD_eq_getElem?_getD,List.getD_eq_getElem?_getD,
      List.getElem?_take_of_lt hi]
  · rw [List.getD_append_right _ _ _ _ (by omega),List.getD_eq_default _ _ (not_lt.mp hb),
      List.drop_replicate,List.getD_replicate _ (by omega)]

/-- What a successful read stores are the first nine bytes of the report. -/
theorem d16ReadRep_getD (hr : (d16ReadRep hid p.usbh 0 (some (List.replicate 9 0#8)) w).ret=0)
    {i : ℕ} (hi : i<9) :
    ((d16ReadRep hid p.usbh 0 (some (List.replicate 9 0#8)) w).raw_data.getD []).getD i 0#8=
      (request hid p w).buffer.getD i 0#8 := by
  by_cases he : (request hid p w).err=0
  · by_cases hb : (request hid p w).len=9 ∧ (request hid p w).buffer.getD 0 0#8=0#8
    · rw [d16ReadRep_ok rfl he hb.1 hb.2,Option.map_some,Option.getD_some]
      exact getD_copied _ hi
    · rw [d16ReadRep_bad rfl he hb] at hr
      exact nomatch hr
  · rw [d16ReadRep_err rfl he] at hr
    exact nomatch hr

/-- The two pin readers on one live handle, given the same outcome of their
report read: they succeed together, and then the level of the single-pin call
is the value of that pin in the array, and the array describes every pin and
holds every bit of the bytes 5 to 8 of the report. -/
theorem pinReaders_agree (hlive : LiveHandle heap hHandle p)
    (hsame : SameOutcome (request hid p w) (request hid p v)) {pinIndex : BitVec 32}
    (hp : pinIndex.toNat<USB_IO16_MAX_PIN_NUM) (old : BitVec 32) (olds : PinInfos) :
    ∃ one all,usbIoReadInputPinValue hid heap hHandle pinIndex (some old) w=some one ∧
      usbIoGetAllPinInfo hid heap hHandle (some olds) v=some all ∧
      (one.ret=0 ↔ all.ret=0) ∧
      (all.ret=0 → ∃ info,all.info=some info ∧
        one.level=some (info ⟨pinIndex.toNat,hp⟩).pinValue ∧
        (∀ k,(info k).pinIndex=BitVec.ofNat 32 k.val ∧
          ((info k).pinMode=0 ∨ (info k).pinMode=1) ∧
          ((info k).pinValue=0 ∨ (info k).pinValue=1)) ∧
        packed (fun k => (info k).pinValue)=unsignedAt (request hid p v).buffer 7 ∧
        packed (fun k => (info k).pinMode)=unsignedAt (request hid p v).buffer 5) := by
  obtain ⟨hret,hraw⟩ := d16ReadRep_sameOutcome hsame (some (List.replicate 9 0#8))
  by_cases hr : (d16ReadRep hid p.usbh 0 (some (List.replicate 9 0#8)) v).ret=0
  · refine ⟨_,_,usbIoReadInputPinValue_ok hlive hp old rfl (hret.trans hr),
      usbIoGetAllPinInfo_ok hlive olds rfl hr,iff_of_true rfl rfl,fun _ => ⟨_,rfl,?_⟩⟩
    have hword : ∀ i,i+1<9 →
        wordAt ((d16ReadRep hid p.usbh 0 (some (List.replicate 9 0#8)) v).raw_data.getD []) i=
          wordAt (request hid p v).buffer i := fun i hi => by
      rw [wordAt,wordAt,d16ReadRep_getD hr (by omega),d16ReadRep_getD hr hi]
    rw [hraw,levelIn_eq _ hp,decodePins_eq,hword 7 (by decide),hword 5 (by decide)]
    refine ⟨rfl,fun k => ⟨rfl,bit_zero_or_one _,bit_zero_or_one _⟩,?_,?_⟩
    · exact (packed_bits _).trans (wordAt_toNat _ _)
    · exact (packed_bits _).trans (wordAt_toNat _ _)
  · have hr' : (d16ReadRep hid p.usbh 0 (some (List.replicate 9 0#8)) w).ret≠0 := hret ▸ hr
    have hne : (-3 : ℤ)≠0 := by decide
    exact ⟨_,_,usbIoReadInputPinValue_fail hlive hp old rfl hr',usbIoGetAllPinInfo_fail hlive olds rfl hr,
      iff_of_false hne hne,fun h => absurd h hne⟩

end Readers

section OneBoard

open LibusbBackend PinCalls

/-- A system whose reports describe a board with ID "ABCD", mode bits 0xA50F
and value bits 0x813C; it counts the transfers. -/
def mixedEnv : LibusbEnv ℕ where
  canOpen _ _ := true
  stringDescriptor _ _ n := (none,n)
  controlOut _ _ data n := (data.length,n+1)
  controlIn _ _ _ n := (some [0x41#8,0x42#8,0x43#8,0x44#8,0xA5#8,0x0F#8,0x81#8,0x3C#8],n+1)

/-- The board of its own after `n` transfers. -/
def boardAfter (n : ℕ) : LibusbWorld ℕ where
  busses := oneBoardWorld.busses
  device := oneBoardWorld.device
  rounds := oneBoardWorld.rounds
  ledger := oneBoardWorld.ledger
  env := n

/-- The readers on a board of its own, at two moments with the same report:
both succeed, pin 15 is a high output, and the array holds the
bits of the report. -/
theorem pinReaders_agree_oneBoard :
    let hid := libusbHid mixedEnv ⟨true,fun _ => 0⟩
    ∃ one all info,
      usbIoReadInputPinValue hid oneBoardHeap 1 15#32 (some 7#32) (boardAfter 0)=some one ∧
      usbIoGetAllPinInfo hid oneBoardHeap 1 (some fun _ => ⟨9#32,9#32,9#32⟩) (boardAfter 5)=some all ∧
      one.ret=0 ∧ all.ret=0 ∧ all.info=some info ∧
      one.level=some (info ⟨15,by decide⟩).pinValue ∧
      info ⟨15,by decide⟩=⟨15#32,1#32,1#32⟩ ∧ info ⟨6,by decide⟩=⟨6#32,0#32,0#32⟩ ∧
      (∀ k,(info k).pinIndex=BitVec.ofNat 32 k.val) ∧
      packed (fun k => (info k).pinValue)=0x813C ∧ packed (fun k => (info k).pinMode)=0xA50F := by
  intro hid
  have hlive : LiveHandle oneBoardHeap 1 oneBoardNode := ⟨by decide,rfl⟩
  have hsame : SameOutcome (request hid oneBoardNode (boardAfter 0)) (request hid oneBoardNode (boardAfter 5)) :=
    ⟨rfl,rfl,rfl⟩
  have hp : (15#32).toNat<USB_IO16_MAX_PIN_NUM := by decide
  obtain ⟨one,all,hone,hall,hagree,hinfo⟩ :=
    pinReaders_agree hlive hsame hp 7#32 fun _ => ⟨9#32,9#32,9#32⟩
  have hcomputed : (usbIoGetAllPinInfo hid oneBoardHeap 1 (some fun _ => ⟨9#32,9#32,9#32⟩) (boardAfter 5)).map
      (fun r => (r.ret,r.info.map fun i => (i ⟨15,by decide⟩,i ⟨6,by decide⟩)))=
        some (0,some (⟨15#32,1#32,1#32⟩,⟨6#32,0#32,0#32⟩)) := by decide +kernel
  rw [hall] at hcomputed
  obtain ⟨hret,hpins⟩ := Prod.mk.inj (Option.some.inj hcomputed)
  obtain ⟨info,hsome,hlevel,hentries,hvalues,hmodes⟩ := hinfo hret
  rw [hsome] at hpins
  obtain ⟨h15,h6⟩ := Prod.mk.inj (Option.some.inj hpins)
  have hvalueBits : unsignedAt (request hid oneBoardNode (boardAfter 5)).buffer 7=0x813C := by decide +kernel
  have hmodeBits : unsignedAt (request hid oneBoardNode (boardAfter 5)).buffer 5=0xA50F := by decide +kernel
  exact ⟨one,all,info,hone,hall,hagree.mpr hret,hret,hsome,hlevel,h15,h6,fun k => (hentries k).1,
    hvalues.trans hvalueBits,hmodes.trans hmodeBits⟩

end OneBoard

end UsbIo16.PinReaders
