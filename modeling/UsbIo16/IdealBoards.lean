import UsbIo16.PinCalls
import UsbIo16.ReportAddressing

/-!
# Ideal boards on the wire

What a board does with the reports it receives and what it reports itself,
as the library expects it of a faultless one, and a USB system of such
boards in which any transfer may fail. The two ways between a board and a
caller are followed here: from a report written to the change on the board,
and from a report read to the pin descriptions decoded from it.
-/

namespace UsbIo16.IdealBoards

open ByteBuffer Hiddata IoInterface LibusbBackend ReportAddressing

section Board

/-- A pin of a board. -/
abbrev Pin := Fin USB_IO16_MAX_PIN_NUM

/-- What can be set on a board: mode, pull-up and output latch of each pin,
and the LED. -/
@[ext] structure Pins where
  /-- Whether the pin is an output. -/
  mode : Pin → Bool
  /-- Whether its pull-up is on. -/
  pullUp : Pin → Bool
  /-- The level it drives as an output. -/
  latch : Pin → Bool
  /-- Whether the LED is on. -/
  led : Bool

/-- A board: what can be set, and the id stored in it. -/
structure Board extends Pins where
  /-- The bytes of the id. -/
  ident : List Byte
  /-- There are four. -/
  identLength : ident.length=USB_IO16_ID_STR_LEN

/-- Change one place of a row of pins; a place behind the last pin is none. -/
def setAt (row : Pin → Bool) (n : ℕ) (v : Bool) : Pin → Bool := fun k => if k.val=n then v else row k

/-- What a board does with the eight bytes of a report it receives. -/
def Pins.command (b : Pins) (p : List Byte) : Pins :=
  if p.getD 0 0#8=0xFF#8 then
    {b with
      mode := setAt b.mode (p.getD 1 0#8).toNat (decide (p.getD 2 0#8≠0#8))
      pullUp := setAt b.pullUp (p.getD 1 0#8).toNat (decide (p.getD 3 0#8≠0#8))}
  else if p.getD 0 0#8=0xFD#8 then
    {b with latch := setAt b.latch (p.getD 1 0#8).toNat (decide (p.getD 2 0#8≠0#8))}
  else if p.getD 0 0#8=0xF8#8 then {b with led := decide (p.getD 1 0#8≠0#8)}
  else b

/-- The level of a pin: what it drives, or what is applied to it. -/
def Pins.level (b : Pins) (input : Pin → Bool) (k : Pin) : Bool :=
  if b.mode k=true then b.latch k else input k

/-- A bit as an `int`. -/
def bit (v : Bool) : BitVec 32 := if v=true then 1#32 else 0#32

/-- The pin descriptions of a board. -/
def Pins.infos (b : Pins) (input : Pin → Bool) : PinInfos := fun k =>
  ⟨BitVec.ofNat 32 k,if b.mode k=true then OUTPUT_MODE else INPUT_MODE,bit (b.level input k)⟩

/-- Eight bits in a byte, the first one lowest. -/
def byteOf (row : Fin 8 → Bool) : Byte := (BitVec.ofBoolListLE ((List.finRange 8).map row)).setWidth 8

/-- Pins 0 to 7 of a row. -/
def low (row : Pin → Bool) : Fin 8 → Bool := fun j => row (Fin.castLE (by decide) j)

/-- Pins 8 to 15 of a row. -/
def high (row : Pin → Bool) : Fin 8 → Bool := fun j => row (Fin.natAdd 8 j)

/-- The eight bytes a board reports. -/
def Board.report (b : Board) (input : Pin → Bool) : List Byte :=
  b.ident++[byteOf (high b.mode),byteOf (low b.mode),byteOf (high (b.level input)),byteOf (low (b.level input))]

/-- How a transfer fails: an OUT transfer does not take the eight bytes of a
report, and an IN transfer is an error or comes short of them. -/
structure Failure where
  /-- Result of an OUT transfer. -/
  sent : ℤ
  /-- It does not count the whole report. -/
  notSent : sent≠8
  /-- Result of an IN transfer. -/
  received : Option (List Byte)
  /-- It is not a whole report. -/
  short : ∀ data,received=some data → data.length<8

/-- Boards behind their USB handles. -/
structure Bench where
  /-- The board behind each handle. -/
  boards : Ptr → Board
  /-- Number of report transfers so far. -/
  transfers : ℕ

/-- A board carries out a report; this takes one transfer. -/
def Bench.obey (e : Bench) (handle : Ptr) (p : List Byte) : Bench where
  boards := Function.update e.boards handle {e.boards handle with toPins := (e.boards handle).command p}
  transfers := e.transfers+1

/-- A USB system of boards, which tell their names as any card does. The n-th
transfer fails as `fails` says, and finds the levels `input` applied to the
pins. -/
def boardEnv (fails : ℕ → Option Failure) (input : ℕ → Ptr → Pin → Bool) : LibusbEnv Bench where
  canOpen _ _ := true
  stringDescriptor handle index s := ((cardEnv.stringDescriptor handle index ()).1,s)
  controlOut handle setup data s :=
    match fails s.transfers with
    | some f => (f.sent,{s with transfers := s.transfers+1})
    | none =>
      if isFeature 0x20#32 0x09#32 setup=true ∧ numberIn setup=0 ∧ data.length=8 then
        (data.length,s.obey handle data)
      else (data.length,{s with transfers := s.transfers+1})
  controlIn handle setup _ s :=
    match fails s.transfers with
    | some f => (f.received,{s with transfers := s.transfers+1})
    | none =>
      if isFeature 0xA0#32 0x01#32 setup=true ∧ numberIn setup=0 then
        (some ((s.boards handle).report (input s.transfers handle)),{s with transfers := s.transfers+1})
      else (none,{s with transfers := s.transfers+1})

/-- A report of a board is eight bytes long. -/
theorem report_length (b : Board) (input : Pin → Bool) : (b.report input).length=8 := by
  rw [Board.report,List.length_append,b.identLength]
  rfl

end Board

section Transfers

variable {fails : ℕ → Option Failure} (input : ℕ → Ptr → Pin → Bool) (target : Target) (u : Ptr)
  {w : LibusbWorld Bench}

/-- The world after a transfer that left the bench in this state. -/
abbrev after (w : LibusbWorld Bench) (u : Ptr) (e : Bench) : LibusbWorld Bench :=
  {w with ledger := w.ledger.use (usbDevHandle w u),env := e}

/-- The bench after a transfer that changed no board. -/
abbrev passed (e : Bench) : Bench := {e with transfers := e.transfers+1}

/-- The requests of the library name report zero. -/
theorem setSetup_zero (signed : Bool) :
    isFeature 0x20#32 0x09#32 (setSetup signed 0#8)=true ∧ numberIn (setSetup signed 0#8)=0 := by
  cases signed <;> exact ⟨rfl,rfl⟩

theorem getSetup_zero : isFeature 0xA0#32 0x01#32 (getSetup 0)=true ∧ numberIn (getSetup 0)=0 := ⟨rfl,rfl⟩

/-- A write whose transfer fails is an error and changes no board. -/
theorem write_fail {f : Failure} (hf : fails w.env.transfers=some f) {payload : List Byte} (h8 : payload.length=8) :
    d16WriteRep (libusbHid (boardEnv fails input) target) u 0 (0#8::payload) w=
      ⟨-1,after w u (passed w.env)⟩ := by
  have hout : (boardEnv fails input).controlOut (usbDevHandle w u) (setSetup target.plainCharSigned (charOf 0))
      payload w.env=(f.sent,passed w.env) := by simp only [boardEnv,hf]
  have hset : (libusbHid (boardEnv fails input) target).usbhidSetReport u ((0#8::payload).set 0 (charOf 0)) (8+1) w=
      ⟨ USBHID_ERR_IO,after w u (passed w.env)⟩ := by
    have heq : usbhidSetReport (boardEnv fails input) target.plainCharSigned u (charOf 0::payload)
        (payload.length+1) w=_ := usbhidSetReport_eq target.plainCharSigned (charOf 0) payload
    have hsent : (f.sent,passed w.env).1≠((8 : ℕ) : ℤ) := f.notSent
    rw [hout,h8,if_pos hsent] at heq
    exact heq
  have hne : USBHID_ERR_IO≠0 := by decide
  exact d16WriteRep_err hset hne

/-- A write whose transfer does not fail is carried out by the board. -/
theorem write_ok (hf : fails w.env.transfers=none) {payload : List Byte} (h8 : payload.length=8) :
    d16WriteRep (libusbHid (boardEnv fails input) target) u 0 (0#8::payload) w=
      ⟨0,after w u (w.env.obey (usbDevHandle w u) payload)⟩ := by
  obtain ⟨hfeature,hnumber⟩ := setSetup_zero target.plainCharSigned
  have hout : (boardEnv fails input).controlOut (usbDevHandle w u) (setSetup target.plainCharSigned (charOf 0))
      payload w.env=((payload.length : ℤ),w.env.obey (usbDevHandle w u) payload) := by
    simp only [boardEnv,hf]
    exact if_pos ⟨hfeature,hnumber,h8⟩
  have hset : (libusbHid (boardEnv fails input) target).usbhidSetReport u ((0#8::payload).set 0 (charOf 0)) (8+1) w=
      ⟨0,after w u (w.env.obey (usbDevHandle w u) payload)⟩ := by
    have heq : usbhidSetReport (boardEnv fails input) target.plainCharSigned u (charOf 0::payload)
        (payload.length+1) w=_ := usbhidSetReport_eq target.plainCharSigned (charOf 0) payload
    rw [hout,if_neg (not_not.mpr rfl),h8] at heq
    exact heq
  exact d16WriteRep_ok hset rfl

/-- A read whose transfer fails is an error and changes no board. -/
theorem read_fail {f : Failure} (hf : fails w.env.transfers=some f) (raw : Option (List Byte)) :
    (d16ReadRep (libusbHid (boardEnv fails input) target) u 0 raw w).ret≠0 ∧
      (d16ReadRep (libusbHid (boardEnv fails input) target) u 0 raw w).world=after w u (passed w.env) := by
  have hin : (boardEnv fails input).controlIn (usbDevHandle w u) (getSetup 0) 8 w.env=
      (f.received,passed w.env) := by simp only [boardEnv,hf]
  cases hr : f.received with
  | none =>
    rw [hr] at hin
    have hget : usbhidGetReport (boardEnv fails input) u 0 (List.replicate 10 0#8) (8+1) w=_ :=
      usbhidGetReport_fail (congrArg Prod.fst hin)
    have hne : USBHID_ERR_IO≠0 := by decide
    have herr : (-1 : ℤ)≠0 := by decide
    rw [d16ReadRep_err hget hne]
    exact ⟨herr,congrArg (fun e => after w u e) (congrArg Prod.snd hin)⟩
  | some data =>
    rw [hr] at hin
    have hget : usbhidGetReport (boardEnv fails input) u 0 (List.replicate 10 0#8) (8+1) w=_ :=
      usbhidGetReport_data (congrArg Prod.fst hin)
    have hshort := f.short data hr
    have hbad : ¬((((data.take 8).length : ℤ)+1=9) ∧
        ((writeAt (List.replicate 10 0#8) 1 (data.take 8)).set 0 (charOf 0)).getD 0 0#8=0#8) := by
      rw [List.length_take]
      omega
    have herr : (-2 : ℤ)≠0 := by decide
    rw [d16ReadRep_bad hget rfl hbad]
    exact ⟨herr,congrArg (fun e => after w u e) (congrArg Prod.snd hin)⟩

/-- A transfer that does not fail brings the board's report behind the report id. -/
theorem get_ok (hf : fails w.env.transfers=none) :
    (libusbHid (boardEnv fails input) target).usbhidGetReport u 0 (List.replicate 10 0#8) (8+1) w=
      ⟨0,0#8::((w.env.boards (usbDevHandle w u)).report (input w.env.transfers (usbDevHandle w u))++[0#8]),9,
        after w u (passed w.env)⟩ := by
  generalize hrep : (w.env.boards (usbDevHandle w u)).report (input w.env.transfers (usbDevHandle w u))=rep
  have hlen : rep.length=8 := by
    rw [←hrep]
    exact report_length _ _
  have hin : (boardEnv fails input).controlIn (usbDevHandle w u) (getSetup 0) 8 w.env=
      (some rep,passed w.env) := by
    simp only [boardEnv,hf,hrep]
    exact if_pos getSetup_zero
  have hget : usbhidGetReport (boardEnv fails input) u 0 (List.replicate 10 0#8) (8+1) w=_ :=
    usbhidGetReport_data (congrArg Prod.fst hin)
  have htake : rep.take ((8+1-1 : ℤ)).toNat=rep := List.take_of_length_le (by rw [hlen]; rfl)
  have hbuf : (writeAt (List.replicate 10 0#8) 1 rep).set 0 (charOf 0)=0#8::(rep++[0#8]) := by
    have hrest : List.replicate 10 0#8=0#8::List.replicate 9 0#8 := rfl
    rw [hrest,writeAt_cons_succ,List.set_cons_zero,writeAt_zero,hlen]
    rfl
  have h9 : ((rep.length : ℤ)+1)=9 := by
    rw [hlen]
    rfl
  have hsnd : ((boardEnv fails input).controlIn (usbDevHandle w u) (getSetup 0) (8+1-1 : ℤ).toNat w.env).2=
      passed w.env := congrArg Prod.snd hin
  rw [htake,hbuf,hsnd,h9] at hget
  exact hget

/-- A read whose transfer does not fail writes it into the caller's array. -/
theorem read_into (hf : fails w.env.transfers=none) (raw : Option (List Byte)) :
    d16ReadRep (libusbHid (boardEnv fails input) target) u 0 raw w=
      ⟨0,raw.map fun raw => writeAt raw 0
          (0#8::(w.env.boards (usbDevHandle w u)).report (input w.env.transfers (usbDevHandle w u))),
        after w u (passed w.env)⟩ := by
  rw [d16ReadRep_ok (get_ok input target u hf) rfl rfl rfl,List.take_succ_cons,List.take_left' (report_length _ _)]

/-- An array of nine bytes then is that report. -/
theorem read_ok (hf : fails w.env.transfers=none) :
    d16ReadRep (libusbHid (boardEnv fails input) target) u 0 (some (List.replicate 9 0#8)) w=
      ⟨0,some (0#8::(w.env.boards (usbDevHandle w u)).report (input w.env.transfers (usbDevHandle w u))),
        after w u (passed w.env)⟩ := by
  rw [read_into input target u hf,Option.map_some,writeAt_zero_full (by rw [List.length_cons,report_length]; rfl)]

end Transfers

section Decoding

variable {W : Type} (hid : HidLayer W)

/-- The promotion of a `char` keeps its eight bits. -/
theorem promote_getLsbD (b : Byte) {k : ℕ} (hk : k<8) : (promote hid b).getLsbD k=b.getLsbD k := by
  unfold promote charValue
  cases hid.plainCharSigned with
  | true =>
    have h := BitVec.getLsbD_signExtend b (v := 32) (i := k)
    rw [BitVec.signExtend] at h
    rw [if_pos rfl,h,if_pos hk]
    simp only [show k<32 by omega,decide_true,Bool.true_and]
  | false =>
    rw [if_neg Bool.false_ne_true,BitVec.ofInt_natCast,BitVec.getLsbD_ofNat,BitVec.testBit_toNat]
    simp only [show k<32 by omega,decide_true,Bool.true_and]

/-- Shifting and masking a `char` gets one of its bits, whatever its sign. -/
theorem bitAt_eq (b : Byte) {k : ℕ} (hk : k<8) : bitAt hid b k=bit (b.getLsbD k) := by
  have hbit : ((promote hid b).sshiftRight k).getLsbD 0=b.getLsbD k := by
    rw [BitVec.getLsbD_sshiftRight,Nat.add_zero,promote_getLsbD hid b hk]
    simp only [show ¬32≤0 by omega,show k<32 by omega,decide_false,Bool.not_false,Bool.true_and,if_true]
  rw [bitAt,BitVec.and_one_eq_setWidth_ofBool_getLsbD,hbit]
  cases b.getLsbD k <;> rfl

/-- The bits of a byte made of a row. -/
theorem byteOf_getLsbD (row : Fin 8 → Bool) (j : Fin 8) : (byteOf row).getLsbD j=row j := by
  have hj : j.val<8 := j.isLt
  rw [byteOf,BitVec.getLsbD_setWidth,BitVec.getLsbD_ofBoolListLE,decide_eq_true hj,Bool.true_and,
    List.getD_eq_getElem?_getD,List.getElem?_map,List.getElem?_eq_getElem (by rw [List.length_finRange]; exact hj)]
  simp

/-- A pin is found in the two bytes of its row, the upper one first. -/
theorem row_getLsbD (row : Pin → Bool) (k : Pin) :
    (byteOf (high row)++byteOf (low row)).getLsbD k.val=row k := by
  rw [BitVec.getLsbD_append]
  by_cases hk : k.val<8
  · rw [if_pos hk]
    exact byteOf_getLsbD (low row) ⟨k.val,hk⟩
  · have hlt : k.val<16 := k.isLt
    have hj : k.val-8<8 := by omega
    have hpin : (Fin.natAdd 8 ⟨k.val-8,hj⟩ : Pin)=k := Fin.ext (by
      simp only [Fin.natAdd_mk]
      omega)
    have hbit := byteOf_getLsbD (high row) ⟨k.val-8,hj⟩
    rw [if_neg hk]
    rwa [high,hpin] at hbit

/-- The bytes of a report as the library finds them behind the report id. -/
theorem report_getD (b : Board) (input : Pin → Bool) (i : ℕ) :
    (0#8::b.report input).getD (5+i) 0#8=
      [byteOf (high b.mode),byteOf (low b.mode),byteOf (high (b.level input)),byteOf (low (b.level input))].getD i
        0#8 := by
  have hlen : b.ident.length=4 := b.identLength
  have h5 : 5+i=4+i+1 := by omega
  rw [Board.report,h5,List.getD_cons_succ,List.getD_eq_getElem?_getD,
    List.getElem?_append_right (by rw [hlen]; omega),hlen,Nat.add_sub_cancel_left,←List.getD_eq_getElem?_getD]

/-- Filling places of an array one after the other. -/
theorem foldl_update {α β : Type} [DecidableEq α] (value : α → β) (ks : List α) (row : α → β) :
    ks.foldl (fun row k => Function.update row k (value k)) row=fun k => if k∈ks then value k else row k := by
  induction ks generalizing row with
  | nil => rfl
  | cons k ks ih =>
    rw [List.foldl_cons,ih]
    funext l
    by_cases hl : l∈ks
    · rw [if_pos hl,if_pos (List.mem_cons_of_mem k hl)]
    · rw [if_neg hl]
      by_cases hlk : l=k
      · subst hlk
        rw [Function.update_self,if_pos List.mem_cons_self]
      · rw [Function.update_of_ne hlk,if_neg]
        intro hm
        rcases List.mem_cons.mp hm with h|h
        · exact hlk h
        · exact hl h

variable {hid}

/-- Two bytes of a report as one word, the upper one first. -/
def wordAt (raw : List Byte) (i : ℕ) : BitVec 16 := raw.getD i 0#8++raw.getD (i+1) 0#8

/-- What the two decoding loops store for a pin: the loops take eight pins
each, from different bytes. -/
theorem decodePins_eq (raw : List Byte) (old : PinInfos) :
    decodePins hid raw old=fun k =>
      ⟨BitVec.ofNat 32 k,bit ((wordAt raw 5).getLsbD k.val),bit ((wordAt raw 7).getLsbD k.val)⟩ := by
  let pin : Pin → PinInfo := fun k =>
    ⟨BitVec.ofNat 32 k,bit ((wordAt raw 5).getLsbD k.val),bit ((wordAt raw 7).getLsbD k.val)⟩
  have hfill : ∀ (mode value : Byte) (i : ℕ) (k : Pin) (info : PinInfos),i<8 →
      mode.getLsbD i=(wordAt raw 5).getLsbD k.val → value.getLsbD i=(wordAt raw 7).getLsbD k.val →
      fillPin hid value mode i k info=Function.update info k (pin k) := by
    intro mode value i k info hi hm hv
    simp only [fillPin,bitAt_eq hid _ hi,hm,hv,pin]
    cases (wordAt raw 5).getLsbD k.val <;> rfl
  have htake : ∀ k∈(List.finRange USB_IO16_MAX_PIN_NUM).take 8,k.val<8 := by decide
  have hdrop : ∀ k∈(List.finRange USB_IO16_MAX_PIN_NUM).drop 8,¬k.val<8 := by decide
  have hall : ∀ k : Pin,k∉(List.finRange USB_IO16_MAX_PIN_NUM).drop 8 →
      k∈(List.finRange USB_IO16_MAX_PIN_NUM).take 8 := by decide
  have hlow : ∀ info : PinInfos,∀ k∈(List.finRange USB_IO16_MAX_PIN_NUM).take 8,
      fillPin hid (raw.getD 8 0#8) (raw.getD 6 0#8) k.val k info=Function.update info k (pin k) := by
    intro info k hk
    refine hfill _ _ _ _ _ (htake k hk) ?_ ?_ <;>
      rw [wordAt,BitVec.getLsbD_append,if_pos (htake k hk)]
  have hhigh : ∀ info : PinInfos,∀ k∈(List.finRange USB_IO16_MAX_PIN_NUM).drop 8,
      fillPin hid (raw.getD 7 0#8) (raw.getD 5 0#8) (k.val-8) k info=Function.update info k (pin k) := by
    intro info k hk
    have hlt : k.val<16 := k.isLt
    refine hfill _ _ _ _ _ (by omega) ?_ ?_ <;>
      rw [wordAt,BitVec.getLsbD_append,if_neg (hdrop k hk)]
  unfold decodePins
  dsimp only
  rw [List.foldl_ext _ _ _ hhigh,List.foldl_ext _ _ _ hlow,foldl_update,foldl_update]
  funext k
  by_cases hk : k∈(List.finRange USB_IO16_MAX_PIN_NUM).drop 8
  · exact if_pos hk
  · exact (if_neg hk).trans (if_pos (hall k hk))

/-- What the single-pin call finds for a pin. -/
theorem levelIn_eq (raw : List Byte) {pinIndex : BitVec 32} (hp : pinIndex.toNat<USB_IO16_MAX_PIN_NUM) :
    levelIn hid raw pinIndex=bit ((wordAt raw 7).getLsbD pinIndex.toNat) := by
  have h16 : pinIndex.toNat<16 := hp
  rw [levelIn,wordAt,BitVec.getLsbD_append]
  by_cases hlow : pinIndex.toNat<8
  · rw [if_pos hlow,if_pos hlow,bitAt_eq hid _ hlow]
  · rw [if_neg hlow,if_neg hlow,bitAt_eq hid _ (by omega)]

/-- The words of a board's report hold its modes and its levels. -/
theorem report_wordAt (b : Board) (input : Pin → Bool) :
    wordAt (0#8::b.report input) 5=byteOf (high b.mode)++byteOf (low b.mode) ∧
      wordAt (0#8::b.report input) 7=byteOf (high (b.level input))++byteOf (low (b.level input)) :=
  ⟨congrArg₂ (·++·) (report_getD b input 0) (report_getD b input 1),
    congrArg₂ (·++·) (report_getD b input 2) (report_getD b input 3)⟩

/-- Decoding the report of a board describes its pins. -/
theorem decodePins_report (b : Board) (input : Pin → Bool) (old : PinInfos) :
    decodePins hid (0#8::b.report input) old=b.infos input := by
  obtain ⟨hmode,hlevel⟩ := report_wordAt b input
  rw [decodePins_eq,hmode,hlevel]
  funext k
  rw [row_getLsbD,row_getLsbD]
  rfl

/-- The level of a pin in the report of a board. -/
theorem levelIn_report (b : Board) (input : Pin → Bool) {pinIndex : BitVec 32}
    (hp : pinIndex.toNat<USB_IO16_MAX_PIN_NUM) :
    levelIn hid (0#8::b.report input) pinIndex=bit (b.level input ⟨pinIndex.toNat,hp⟩) := by
  rw [levelIn_eq _ hp,(report_wordAt b input).2]
  exact congrArg bit (row_getLsbD (b.level input) ⟨pinIndex.toNat,hp⟩)

end Decoding

end UsbIo16.IdealBoards
