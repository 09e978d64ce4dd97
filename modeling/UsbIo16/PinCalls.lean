import UsbIo16.IoInterface
import UsbIo16.LibusbBackend

/-!
# The pin calls and their error law

The five pin functions of the library under one type of calls, so that runs
can be lists of calls. A HID layer can be made to log its report transfers;
against such a layer every pin call on a live handle succeeds exactly when
its arguments are good and its single transfer succeeds, and a call that
fails leaves the caller's variables alone.
-/

namespace UsbIo16.PinCalls

open ByteBuffer HandleLedger Hiddata IoInterface

/-- A call of one of the pin functions, with all arguments but the handle.
An absent pointee stands for a null pointer. -/
inductive PinCall where
  | setWorkLedMode (led_mode : BitVec 32)
  | setPinMode (pinIndex mode innerPullUp : BitVec 32)
  | writeOutputPinValue (pinIndex level : BitVec 32)
  | readInputPinValue (pinIndex : BitVec 32) (level : Option (BitVec 32))
  | getAllPinInfo (info : Option PinInfos)

/-- What a pin call leaves behind: the returned status, the caller's
output variables and the world. -/
structure PinOutcome (W : Type) where
  /-- The returned status. -/
  ret : ℤ
  /-- The caller's level variable, where the call takes one. -/
  level : Option (BitVec 32)
  /-- The caller's pin array, where the call takes one. -/
  info : Option PinInfos
  /-- The world after the call. -/
  world : W

/-- The level variable before the call. -/
def PinCall.level : PinCall → Option (BitVec 32)
  | readInputPinValue _ level => level
  | _ => none

/-- The pin array before the call. -/
def PinCall.info : PinCall → Option PinInfos
  | getAllPinInfo info => info
  | _ => none

/-- Pin index in range and output pointer not null, where the call takes them. -/
def PinCall.ArgsOk : PinCall → Prop
  | setWorkLedMode _ => True
  | setPinMode pinIndex _ _ => pinIndex.toNat<USB_IO16_MAX_PIN_NUM
  | writeOutputPinValue pinIndex _ => pinIndex.toNat<USB_IO16_MAX_PIN_NUM
  | readInputPinValue pinIndex level => pinIndex.toNat<USB_IO16_MAX_PIN_NUM ∧ level≠none
  | getAllPinInfo info => info≠none

/-- Whether the call reads a report; the others send one. -/
def PinCall.reads : PinCall → Bool
  | readInputPinValue _ _ => true
  | getAllPinInfo _ => true
  | _ => false

/-- Execute a call on a handle. -/
def PinCall.run {W : Type} (hid : HidLayer W) (heap : Heap) (hHandle : Ptr) (w : W) :
    PinCall → Option (PinOutcome W)
  | setWorkLedMode led_mode =>
    (usbIoSetWorkLedMode hid heap hHandle led_mode w).map fun r => ⟨r.err,none,none,r.world⟩
  | setPinMode pinIndex mode innerPullUp =>
    (usbIoSetPinMode hid heap hHandle pinIndex mode innerPullUp w).map
      fun r => ⟨r.err,none,none,r.world⟩
  | writeOutputPinValue pinIndex level =>
    (usbIoWriteOutputPinValue hid heap hHandle pinIndex level w).map
      fun r => ⟨r.err,none,none,r.world⟩
  | readInputPinValue pinIndex level =>
    (usbIoReadInputPinValue hid heap hHandle pinIndex level w).map
      fun r => ⟨r.ret,r.level,none,r.world⟩
  | getAllPinInfo info =>
    (usbIoGetAllPinInfo hid heap hHandle info w).map fun r => ⟨r.ret,none,r.info,r.world⟩

section Outcomes

/-- The report a call sends, where it sends one. -/
def PinCall.sent : PinCall → Option (List Byte)
  | setWorkLedMode led_mode => some (ledReport led_mode)
  | setPinMode pinIndex mode innerPullUp => some (pinModeReport pinIndex mode innerPullUp)
  | writeOutputPinValue pinIndex level => some (pinLevelReport pinIndex level)
  | readInputPinValue _ _ => none
  | getAllPinInfo _ => none

/-- A call reads a report exactly when it sends none. -/
theorem PinCall.reads_eq (c : PinCall) : c.reads=c.sent.isNone := by cases c <;> rfl

variable {W : Type} (hid : HidLayer W)

/-- The caller's level variable and pin array after a report has been decoded. -/
def PinCall.decoded (raw : List Byte) : PinCall → Option (BitVec 32)×Option PinInfos
  | readInputPinValue pinIndex level => (level.map fun _ => levelIn hid raw pinIndex,none)
  | getAllPinInfo info => (none,info.map (decodePins hid raw))
  | _ => (none,none)

/-- The read of report zero that a call makes. -/
abbrev readZero (p : UsbIoInternal) (w : W) : ReadRepReply W :=
  d16ReadRep hid p.usbh 0 (some (List.replicate 9 0#8)) w

/-- How a call on the handle of the node `p` can end. -/
inductive PinCall.Ends (p : UsbIoInternal) (w : W) (c : PinCall) : PinOutcome W → Prop
  /-- Bad arguments are rejected before any transfer. -/
  | rejected {ret : ℤ} (hbad : ¬c.ArgsOk) (hret : ret≠0) : c.Ends p w ⟨ret,c.level,c.info,w⟩
  /-- A report is sent. -/
  | sent {buf : List Byte} (hgood : c.ArgsOk) (hbuf : c.sent=some buf) :
      c.Ends p w ⟨(d16WriteRep hid p.usbh 0 buf w).err,c.level,c.info,(d16WriteRep hid p.usbh 0 buf w).world⟩
  /-- A read fails. -/
  | unread (hgood : c.ArgsOk) (hbuf : c.sent=none) (hr : (readZero hid p w).ret≠0) :
      c.Ends p w ⟨-3,c.level,c.info,(readZero hid p w).world⟩
  /-- A report is read and decoded. -/
  | read (hgood : c.ArgsOk) (hbuf : c.sent=none) (hr : (readZero hid p w).ret=0) :
      c.Ends p w ⟨0,(c.decoded hid ((readZero hid p w).raw_data.getD [])).1,
        (c.decoded hid ((readZero hid p w).raw_data.getD [])).2,(readZero hid p w).world⟩

variable {heap : Heap} {hHandle : Ptr} {p : UsbIoInternal}

/-- On a live handle every pin call returns, and it ends in one of these ways. -/
theorem PinCall.run_ends (hlive : LiveHandle heap hHandle p) (c : PinCall) (w : W) :
    ∃ r,c.run hid heap hHandle w=some r ∧ c.Ends hid p w r := by
  have hone : (-1 : ℤ)≠0 := by decide
  have htwo : (-2 : ℤ)≠0 := by decide
  have hrange : (2 : ℤ)≠0 := by decide
  cases c with
  | setWorkLedMode led_mode =>
    refine ⟨_,?_,.sent trivial rfl⟩
    rw [PinCall.run,usbIoSetWorkLedMode_live hlive]
    rfl
  | setPinMode pinIndex mode innerPullUp =>
    by_cases hp : pinIndex.toNat<USB_IO16_MAX_PIN_NUM
    · refine ⟨_,?_,.sent hp rfl⟩
      rw [PinCall.run,usbIoSetPinMode_live hlive hp]
      rfl
    · refine ⟨_,?_,.rejected hp hrange⟩
      rw [PinCall.run,usbIoSetPinMode_range hlive.nonzero hp]
      rfl
  | writeOutputPinValue pinIndex level =>
    by_cases hp : pinIndex.toNat<USB_IO16_MAX_PIN_NUM
    · refine ⟨_,?_,.sent hp rfl⟩
      rw [PinCall.run,usbIoWriteOutputPinValue_live hlive hp]
      rfl
    · refine ⟨_,?_,.rejected hp hrange⟩
      rw [PinCall.run,usbIoWriteOutputPinValue_range hlive.nonzero hp]
      rfl
  | readInputPinValue pinIndex level =>
    by_cases hp : pinIndex.toNat<USB_IO16_MAX_PIN_NUM
    · cases level with
      | none =>
        refine ⟨_,?_,.rejected (fun h => h.2 rfl) hone⟩
        rw [PinCall.run,usbIoReadInputPinValue_null hlive.nonzero hp]
        rfl
      | some old =>
        have hgood : (PinCall.readInputPinValue pinIndex (some old)).ArgsOk := ⟨hp,Option.some_ne_none old⟩
        by_cases hz : (readZero hid p w).ret=0
        · refine ⟨_,?_,.read hgood rfl hz⟩
          rw [PinCall.run,usbIoReadInputPinValue_ok hlive hp old rfl hz]
          rfl
        · refine ⟨_,?_,.unread hgood rfl hz⟩
          rw [PinCall.run,usbIoReadInputPinValue_fail hlive hp old rfl hz]
          rfl
    · refine ⟨_,?_,.rejected (fun h => hp h.1) htwo⟩
      rw [PinCall.run,usbIoReadInputPinValue_range hlive.nonzero hp]
      rfl
  | getAllPinInfo info =>
    cases info with
    | none => exact ⟨⟨-1,none,none,w⟩,rfl,.rejected (fun h => h rfl) hone⟩
    | some old =>
      have hgood : (PinCall.getAllPinInfo (some old)).ArgsOk := Option.some_ne_none old
      by_cases hz : (readZero hid p w).ret=0
      · refine ⟨_,?_,.read hgood rfl hz⟩
        rw [PinCall.run,usbIoGetAllPinInfo_ok hlive old rfl hz]
        rfl
      · refine ⟨_,?_,.unread hgood rfl hz⟩
        rw [PinCall.run,usbIoGetAllPinInfo_fail hlive old rfl hz]
        rfl

end Outcomes

section Logging

/-- One report transfer, as the library sees it. -/
structure Transfer where
  /-- The device handle used. -/
  usbh : Ptr
  /-- Whether it reads from the device. -/
  read : Bool
  /-- The error code of the HID layer. -/
  err : ℤ
  /-- The length reported, for reads. -/
  len : ℤ
  /-- The buffer sent, or the buffer after a read. -/
  buffer : List Byte

/-- A write succeeds with error code zero; a read also needs length nine
and report id zero. -/
def Transfer.Succeeded (t : Transfer) : Prop :=
  t.err=0 ∧ (t.read=true → t.len=9 ∧ t.buffer.getD 0 0#8=0#8)

variable {W : Type} (hid : HidLayer W)

/-- The same layer, keeping a list of its report transfers in order. -/
def logged : HidLayer (W×List Transfer) where
  toTarget := hid.toTarget
  usbhidEnumDevices vendor product context f w :=
    let r := hid.usbhidEnumDevices vendor product (context,w.2)
      (fun u c v =>
        let s := f u c.1 (v,c.2)
        ⟨s.answer,(s.context,s.world.2),s.world.1⟩) w.1
    ⟨r.err,r.context.1,(r.world,r.context.2)⟩
  usbhidCloseDevice u w := (hid.usbhidCloseDevice u w.1,w.2)
  usbhidGetVendorString u buf len w :=
    let r := hid.usbhidGetVendorString u buf len w.1
    ⟨r.err,r.buffer,(r.world,w.2)⟩
  usbhidGetProductString u buf len w :=
    let r := hid.usbhidGetProductString u buf len w.1
    ⟨r.err,r.buffer,(r.world,w.2)⟩
  usbhidSetReport u buf len w :=
    let r := hid.usbhidSetReport u buf len w.1
    ⟨r.err,(r.world,w.2++[⟨u,false,r.err,0,buf⟩])⟩
  usbhidGetReport u id buf len w :=
    let r := hid.usbhidGetReport u id buf len w.1
    ⟨r.err,r.buffer,r.len,(r.world,w.2++[⟨u,true,r.err,r.len,r.buffer⟩])⟩

/-- A transfer of this kind with the device of a node. -/
structure Transfer.Of (t : Transfer) (u : Ptr) (reads : Bool) : Prop where
  /-- The device. -/
  usbh : t.usbh=u
  /-- Whether it reads. -/
  read : t.read=reads

/-- A logged write makes one transfer, which sends, and succeeds exactly with it. -/
theorem d16WriteRep_logged (u : Ptr) (buffer : List Byte) (w : W) (log : List Transfer) :
    ∃ t,(d16WriteRep (logged hid) u 0 buffer (w,log)).world.2=log++[t] ∧ t.Of u false ∧
      ((d16WriteRep (logged hid) u 0 buffer (w,log)).err=0 ↔ t.Succeeded) := by
  generalize hr : hid.usbhidSetReport u (buffer.set 0 (charOf 0)) (8+1) w=r
  let t : Transfer := ⟨u,false,r.err,0,buffer.set 0 (charOf 0)⟩
  have hl : (logged hid).usbhidSetReport u (buffer.set 0 (charOf 0)) (8+1) (w,log)=
      ⟨r.err,(r.world,log++[t])⟩ := by
    subst hr
    rfl
  have ht : t.Succeeded ↔ r.err=0 := by
    simp only [t,Transfer.Succeeded,Bool.false_eq_true,false_implies,and_true]
  refine ⟨t,?_⟩
  by_cases he : r.err=0
  · rw [d16WriteRep_ok hl he]
    exact ⟨rfl,⟨rfl,rfl⟩,iff_of_true rfl (ht.mpr he)⟩
  · rw [d16WriteRep_err hl he]
    have hne : (-1 : ℤ)≠0 := by decide
    exact ⟨rfl,⟨rfl,rfl⟩,iff_of_false hne fun h => he (ht.mp h)⟩

/-- A logged read of report zero makes one transfer, which reads, and succeeds
exactly with it. -/
theorem d16ReadRep_logged (u : Ptr) (raw : Option (List Byte)) (w : W) (log : List Transfer) :
    ∃ t,(d16ReadRep (logged hid) u 0 raw (w,log)).world.2=log++[t] ∧ t.Of u true ∧
      ((d16ReadRep (logged hid) u 0 raw (w,log)).ret=0 ↔ t.Succeeded) := by
  generalize hr : hid.usbhidGetReport u 0 (List.replicate 10 0#8) (8+1) w=r
  let t : Transfer := ⟨u,true,r.err,r.len,r.buffer⟩
  have hl : (logged hid).usbhidGetReport u 0 (List.replicate 10 0#8) (8+1) (w,log)=
      ⟨r.err,r.buffer,r.len,(r.world,log++[t])⟩ := by
    subst hr
    rfl
  have ht : t.Succeeded ↔ r.err=0 ∧ r.len=9 ∧ r.buffer.getD 0 0#8=0#8 := by
    simp only [t,Transfer.Succeeded,true_implies]
  refine ⟨t,?_⟩
  by_cases he : r.err=0
  · by_cases hb : r.len=9 ∧ r.buffer.getD 0 0#8=0#8
    · rw [d16ReadRep_ok hl he hb.1 hb.2]
      exact ⟨rfl,⟨rfl,rfl⟩,iff_of_true rfl (ht.mpr ⟨he,hb⟩)⟩
    · rw [d16ReadRep_bad hl he hb]
      have hne : (-2 : ℤ)≠0 := by decide
      exact ⟨rfl,⟨rfl,rfl⟩,iff_of_false hne fun h => hb (ht.mp h).2⟩
  · rw [d16ReadRep_err hl he]
    have hne : (-1 : ℤ)≠0 := by decide
    exact ⟨rfl,⟨rfl,rfl⟩,iff_of_false hne fun h => he (ht.mp h).1⟩

variable {hid} {heap : Heap} {hHandle : Ptr} {p : UsbIoInternal}

/-- The law of one call: it returns zero exactly when its arguments are good
and it made one transfer, on the device of the node, which succeeded; this
transfer reads when the call is one that reads a report, and sends when it is
not; with bad arguments it makes no transfer; and with an error it leaves the
caller's variables as they were. -/
structure ErrorLaw (c : PinCall) (p : UsbIoInternal) (r : PinOutcome (W×List Transfer)) : Prop where
  /-- Success needs good arguments and exactly one, successful, transfer. -/
  success : r.ret=0 ↔ c.ArgsOk ∧ ∃ t,r.world.2=[t] ∧ t.Of p.usbh c.reads ∧ t.Succeeded
  /-- With good arguments there is exactly one transfer, whether it succeeds or not. -/
  single : c.ArgsOk → ∃ t,r.world.2=[t] ∧ t.Of p.usbh c.reads
  /-- An argument error issues no transfer at all. -/
  silent : ¬c.ArgsOk → r.world.2=[]
  /-- A failed call leaves the caller's variables alone. -/
  untouched : r.ret≠0 → r.level=c.level ∧ r.info=c.info

/-- A call with bad arguments that returns an error at once obeys the law. -/
theorem errorLaw_rejected {c : PinCall} {ret : ℤ} {w : W} (hbad : ¬c.ArgsOk) (hret : ret≠0) :
    ErrorLaw c p ⟨ret,c.level,c.info,(w,[])⟩ where
  success := iff_of_false hret fun h => hbad h.1
  single := fun h => absurd h hbad
  silent _ := rfl
  untouched _ := ⟨rfl,rfl⟩

/-- A call with good arguments obeys the law when its status says whether
its one transfer succeeded. -/
theorem errorLaw_transferred {c : PinCall} {r : PinOutcome (W×List Transfer)} {t : Transfer}
    (hgood : c.ArgsOk) (hlog : r.world.2=[t]) (hof : t.Of p.usbh c.reads) (hret : r.ret=0 ↔ t.Succeeded)
    (hout : r.ret≠0 → r.level=c.level ∧ r.info=c.info) : ErrorLaw c p r where
  success := by
    constructor
    · intro h
      exact ⟨hgood,t,hlog,hof,hret.mp h⟩
    · rintro ⟨-,s,hs,-,hok⟩
      have hst : s=t := by
        rw [hlog] at hs
        exact (List.cons.inj hs).1.symm
      exact hret.mpr (hst ▸ hok)
  single := fun _ => ⟨t,hlog,hof⟩
  silent := fun h => absurd hgood h
  untouched := hout

/-- On a live handle every pin call returns and obeys the error law: it
returns zero exactly when the pin index is in range, the output pointer is
not null and its one transfer succeeded, which is a read for the two functions
that read a report and a write for the others; an argument error issues no
transfer; and a failed call leaves the caller's variables alone. -/
theorem pinCall_error_law (hlive : LiveHandle heap hHandle p) (c : PinCall) (w : W) :
    ∃ r,c.run (logged hid) heap hHandle (w,[])=some r ∧ ErrorLaw c p r := by
  obtain ⟨r,hr,hends⟩ := PinCall.run_ends (logged hid) hlive c (w,[])
  refine ⟨r,hr,?_⟩
  obtain ⟨t,hw,hof,he⟩ := d16ReadRep_logged hid p.usbh (some (List.replicate 9 0#8)) w []
  have hreads : c.sent=none → c.reads=true := fun hbuf => by rw [c.reads_eq,hbuf,Option.isNone_none]
  cases hends with
  | rejected hbad hret => exact errorLaw_rejected hbad hret
  | @sent buf hgood hbuf =>
    obtain ⟨s,hsent,hsends,hok⟩ := d16WriteRep_logged hid p.usbh buf w []
    have hwrites : c.reads=false := by rw [c.reads_eq,hbuf,Option.isNone_some]
    exact errorLaw_transferred hgood hsent (hwrites ▸ hsends) hok fun _ => ⟨rfl,rfl⟩
  | unread hgood hbuf hz =>
    have hne : (-3 : ℤ)≠0 := by decide
    exact errorLaw_transferred hgood hw (hreads hbuf ▸ hof) (iff_of_false hne fun h => hz (he.mpr h))
      fun _ => ⟨rfl,rfl⟩
  | read hgood hbuf hz =>
    exact errorLaw_transferred hgood hw (hreads hbuf ▸ hof) (iff_of_true rfl (he.mp hz)) fun h => absurd rfl h

end Logging

section OneBoard

open LibusbBackend

/-- A process with one opened board at address 100, its handle still open. -/
def oneBoardWorld : LibusbWorld Unit where
  busses := [[100]]
  device _ := ⟨0x16c0,0x05df,1,2,0,1⟩
  rounds := 1
  ledger := Ledger.empty.openNext
  env := ()

/-- The heap with the node of that board. -/
def oneBoardHeap : Heap where
  cell q := if q=1 then some {zeroNode with usbh := 100,serial_number := 1} else none
  calls := 1
  fails _ := false

/-- The node of that board. -/
abbrev oneBoardNode : UsbIoInternal := {zeroNode with usbh := 100,serial_number := 1}

theorem pinCall_error_law_oneBoard :
    let hid := logged (libusbHid readyEnv ⟨true,fun _ => 0⟩)
    (∃ r,(PinCall.setPinMode 3 1 0).run hid oneBoardHeap 1 (oneBoardWorld,[])=some r ∧
      ErrorLaw (.setPinMode 3 1 0) oneBoardNode r ∧ r.ret=0 ∧ r.world.2.map Transfer.read=[false]) ∧
    ∃ r,(PinCall.readInputPinValue 3 (some 7)).run hid oneBoardHeap 1 (oneBoardWorld,[])=some r ∧
      ErrorLaw (.readInputPinValue 3 (some 7)) oneBoardNode r ∧ r.ret=0 ∧ r.level=some 0 ∧
      r.world.2.map Transfer.read=[true] := by
  intro hid
  constructor
  · obtain ⟨r,hr,hlaw⟩ : ∃ r,(PinCall.setPinMode 3 1 0).run hid oneBoardHeap 1 (oneBoardWorld,[])=some r ∧
        ErrorLaw (.setPinMode 3 1 0) oneBoardNode r :=
      pinCall_error_law ⟨by decide,rfl⟩ (.setPinMode 3 1 0) oneBoardWorld
    have hcomputed : ((PinCall.setPinMode 3 1 0).run hid oneBoardHeap 1 (oneBoardWorld,[])).map
        (fun r => (r.ret,r.world.2.map Transfer.read))=some (0,[false]) := by decide +kernel
    rw [hr] at hcomputed
    exact ⟨r,hr,hlaw,Prod.mk.inj (Option.some.inj hcomputed)⟩
  · obtain ⟨r,hr,hlaw⟩ : ∃ r,(PinCall.readInputPinValue 3 (some 7)).run hid oneBoardHeap 1 (oneBoardWorld,[])=some r ∧
        ErrorLaw (.readInputPinValue 3 (some 7)) oneBoardNode r :=
      pinCall_error_law ⟨by decide,rfl⟩ (.readInputPinValue 3 (some 7)) oneBoardWorld
    have hcomputed : ((PinCall.readInputPinValue 3 (some 7)).run hid oneBoardHeap 1 (oneBoardWorld,[])).map
        (fun r => (r.ret,r.level,r.world.2.map Transfer.read))=some (0,some 0,[true]) := by decide +kernel
    rw [hr] at hcomputed
    obtain ⟨hret,hrest⟩ := Prod.mk.inj (Option.some.inj hcomputed)
    exact ⟨r,hr,hlaw,hret,Prod.mk.inj hrest⟩

end OneBoard

end UsbIo16.PinCalls
