import UsbIo16.LibusbBackend
import UsbIo16.OsxBackend

/-!
# Report addressing

A feature report is addressed twice: on a write by the first `char` of the
buffer, on a read by an `int`. Against a device that keeps its reports by
the number in the request, what is written under a number must be read back
under it. The libusb backend masks the sign extension of the `char` away;
the OS X backend does not, and writes the upper half of the numbers elsewhere.
-/

namespace UsbIo16.ReportAddressing

open ByteBuffer HandleLedger Hiddata LibusbBackend OsxBackend

section Numbers

/-- A `char` and its byte agree modulo 256, whatever the signedness. -/
theorem charValue_emod (signed : Bool) (b : Byte) : charValue signed b%256=b.toNat := by
  have hb : b.toNat<256 := b.isLt
  have hs : b.toInt=if 2*b.toNat<256 then (b.toNat : ℤ) else b.toNat-256 :=
    BitVec.toInt_eq_toNat_cond b
  cases signed with
  | false =>
    simp only [charValue,Bool.false_eq_true,if_false]
    omega
  | true =>
    simp only [charValue,if_true,hs]
    split <;> omega

/-- The mask undoes the sign extension of a `char`. -/
theorem reportId_masked (signed : Bool) (b : Byte) :
    BitVec.ofInt 32 (charValue signed b) &&& 0xff#32=BitVec.ofInt 32 b.toNat := by
  have hb : b.toNat<256 := b.isLt
  have hm := charValue_emod signed b
  have h255 : (0xff#32).toNat=2^8-1 := rfl
  apply BitVec.eq_of_toNat_eq
  rw [BitVec.toNat_and,h255,Nat.and_two_pow_sub_one_eq_mod,BitVec.toNat_ofInt,BitVec.toNat_ofInt]
  omega

/-- The low byte of a feature request value is the report number. -/
theorem value_number (b : Byte) :
    (USB_HID_REPORT_TYPE_FEATURE <<< 8 ||| BitVec.ofInt 32 b.toNat) &&& 0xff#32=BitVec.ofInt 32 b.toNat := by
  have h : BitVec.ofInt 32 b.toNat &&& 0xff#32=BitVec.ofInt 32 b.toNat := reportId_masked false b
  have hz : 0xff#32 &&& USB_HID_REPORT_TYPE_FEATURE <<< 8=0#32 := rfl
  rw [BitVec.and_comm,BitVec.and_or_distrib_left,BitVec.and_comm _ (BitVec.ofInt 32 b.toNat),h,hz]
  exact BitVec.zero_or

/-- The byte above it is the report type. -/
theorem value_type (b : Byte) :
    (USB_HID_REPORT_TYPE_FEATURE <<< 8 ||| BitVec.ofInt 32 b.toNat) >>> 8=USB_HID_REPORT_TYPE_FEATURE := by
  have hb : b.toNat<256 := b.isLt
  have h : BitVec.ofInt 32 b.toNat >>> 8=0#32 := by
    apply BitVec.eq_of_toNat_eq
    rw [BitVec.toNat_ushiftRight,BitVec.toNat_ofInt,Nat.shiftRight_eq_div_pow,BitVec.toNat_ofNat]
    omega
  rw [BitVec.ushiftRight_or_distrib,h]
  rfl

end Numbers

/-- The feature reports a device holds, by report number. -/
abbrev Reports := ℤ → Option (List Byte)

section Devices

/-- Whether a setup packet is a feature request of this direction and kind. -/
def isFeature (requesttype request : BitVec 32) (setup : ControlSetup) : Bool :=
  decide (setup.requesttype=requesttype) && decide (setup.request=request) &&
    decide (setup.value >>> 8=USB_HID_REPORT_TYPE_FEATURE) && decide (setup.index=0#32)

/-- The report number in a setup packet. -/
def numberIn (setup : ControlSetup) : ℤ := (setup.value &&& 0xff#32).toNat

/-- A device that stores feature reports, behind libusb. -/
def libusbStore : LibusbEnv Reports where
  canOpen _ _ := true
  stringDescriptor _ _ s := (none,s)
  controlOut _ setup data s :=
    if isFeature 0x20#32 0x09#32 setup=true then
      (data.length,Function.update s (numberIn setup) (some data))
    else (-1,s)
  controlIn _ setup size s :=
    if isFeature 0xA0#32 0x01#32 setup=true then ((s (numberIn setup)).map (List.take size),s)
    else (none,s)

/-- The code of a failed IOKit call. -/
def kIOReturnError : ℤ := -536870212

/-- A device that stores feature reports, behind IOKit. -/
def osxStore : OsxEnv Reports where
  createManager s := (true,s)
  openManager s := (true,s)
  copyDevices s := ([],s)
  stringProperty _ _ s := (none,s)
  setReport _ type number data s :=
    if type=kIOHIDReportTypeFeature then (kIOReturnSuccess,Function.update s number (some data))
    else (kIOReturnError,s)
  getReport _ type number size s :=
    if type=kIOHIDReportTypeFeature then
      match s number with
      | none => ((kIOReturnError,[]),s)
      | some data => ((kIOReturnSuccess,data.take size),s)
    else ((kIOReturnError,[]),s)

/-- A write behind libusb stores the payload under the number of the byte. -/
theorem libusbStore_out (handle : Ptr) (signed : Bool) (b : Byte) (payload : List Byte) (s : Reports) :
    libusbStore.controlOut handle (setSetup signed b) payload s=
      ((payload.length : ℤ),Function.update s (b.toNat : ℤ) (some payload)) := by
  have hb : b.toNat<256 := b.isLt
  have hv : (setSetup signed b).value=USB_HID_REPORT_TYPE_FEATURE <<< 8 ||| BitVec.ofInt 32 b.toNat := by
    simp only [featureSetup,reportId_masked]
  have hf : isFeature 0x20#32 0x09#32 (setSetup signed b)=true := by
    rw [isFeature,hv,value_type,decide_eq_true rfl,Bool.and_true]
    rfl
  have hn : numberIn (setSetup signed b)=b.toNat := by
    rw [numberIn,hv,value_number,BitVec.toNat_ofInt]
    omega
  simp only [libusbStore,if_pos hf,hn]

/-- A read behind libusb returns what is stored under the number. -/
theorem libusbStore_in (handle : Ptr) (b : Byte) (size : ℕ) (s : Reports) :
    libusbStore.controlIn handle (getSetup b.toNat) size s=((s b.toNat).map (List.take size),s) := by
  have hb : b.toNat<256 := b.isLt
  have hv : (getSetup b.toNat).value=USB_HID_REPORT_TYPE_FEATURE <<< 8 ||| BitVec.ofInt 32 b.toNat := rfl
  have hf : isFeature 0xA0#32 0x01#32 (getSetup b.toNat)=true := by
    rw [isFeature,hv,value_type,decide_eq_true rfl,Bool.and_true]
    rfl
  have hn : numberIn (getSetup b.toNat)=b.toNat := by
    rw [numberIn,hv,value_number,BitVec.toNat_ofInt]
    omega
  simp only [libusbStore,if_pos hf,hn]

/-- A write behind IOKit stores the payload under the number given. -/
theorem osxStore_set (usbh : Ptr) (number : ℤ) (data : List Byte) (s : Reports) :
    osxStore.setReport usbh kIOHIDReportTypeFeature number data s=
      (kIOReturnSuccess,Function.update s number (some data)) := by
  simp only [osxStore,if_true]

/-- A read behind IOKit fails when nothing is stored under the number. -/
theorem osxStore_get_none {s : Reports} {number : ℤ} (h : s number=none) (usbh : Ptr) (size : ℕ) :
    osxStore.getReport usbh kIOHIDReportTypeFeature number size s=((kIOReturnError,[]),s) := by
  simp only [osxStore,if_true,h]

/-- A read behind IOKit returns what is stored under the number. -/
theorem osxStore_get_some {s : Reports} {number : ℤ} {data : List Byte} (h : s number=some data)
    (usbh : Ptr) (size : ℕ) :
    osxStore.getReport usbh kIOHIDReportTypeFeature number size s=
      ((kIOReturnSuccess,data.take size),s) := by
  simp only [osxStore,if_true,h]

end Devices

section RoundTrip

variable {W : Type}

/-- The world after a report was written. -/
def written (hid : HidLayer W) (usbh : Ptr) (r : Byte) (payload : List Byte) (w : W) : W :=
  (hid.usbhidSetReport usbh (r::payload) (payload.length+1) w).world

/-- The read of that report with a buffer of the same size. -/
def readBack (hid : HidLayer W) (usbh : Ptr) (r : Byte) (payload buffer : List Byte) (w : W) :
    ReportReply W :=
  hid.usbhidGetReport usbh r.toNat buffer (payload.length+1) (written hid usbh r payload w)

/-- A report is written and read back. -/
structure RoundTrips (hid : HidLayer W) (reports : W → Reports) (usbh : Ptr) (r : Byte)
    (payload old : List Byte) (w : W) : Prop where
  /-- The write succeeds. -/
  sent : (hid.usbhidSetReport usbh (r::payload) (payload.length+1) w).err=0
  /-- The read succeeds. -/
  received : (readBack hid usbh r payload old w).err=0
  /-- It gives back the same buffer. -/
  buffer : (readBack hid usbh r payload old w).buffer=r::payload
  /-- It gives back the same length. -/
  length : (readBack hid usbh r payload old w).len=payload.length+1
  /-- The write leaves the reports with other numbers alone. -/
  frame : ∀ n : ℤ,n≠r.toNat → reports (written hid usbh r payload w) n=reports w n

/-- A report number narrowed to `char` and back is the number. -/
theorem charOf_toNat (r : Byte) : charOf r.toNat=r := by
  rw [charOf,BitVec.ofInt_natCast,BitVec.ofNat_toNat,BitVec.setWidth_eq]

/-- The buffer after a read that fills it behind the report id. -/
theorem filled {old payload : List Byte} (ho : old.length=payload.length+1) (r : Byte) :
    (writeAt old 1 payload).set 0 r=r::payload := by
  cases old with
  | nil => exact absurd ho (Nat.zero_ne_add_one _)
  | cons x rest =>
    have hr : rest.length≤payload.length := by
      rw [List.length_cons] at ho
      omega
    rw [writeAt_cons_succ,List.set_cons_zero,writeAt_zero_full hr]

variable {usbh : Ptr} {r : Byte} {payload old data : List Byte} {target : Target}

section Libusb

variable {w : LibusbWorld Reports}

/-- Behind libusb the write succeeds and stores under the number of the byte. -/
theorem libusb_sent :
    (libusbHid libusbStore target).usbhidSetReport usbh (r::payload) (payload.length+1) w=
      ⟨0,{w with
        ledger := w.ledger.use (usbDevHandle w usbh)
        env := Function.update w.env (r.toNat : ℤ) (some payload)}⟩ := by
  simp only [libusbHid,LibusbBackend.usbhidSetReport_eq,libusbStore_out,ne_eq,not_true_eq_false,if_false]

/-- Behind libusb a read returns what is stored under the number. -/
theorem libusb_received (h : w.env r.toNat=some payload) :
    (libusbHid libusbStore target).usbhidGetReport usbh r.toNat old (payload.length+1) w=
      ⟨0,(writeAt old 1 payload).set 0 r,(payload.length : ℤ)+1,
        {w with ledger := w.ledger.use (usbDevHandle w usbh)}⟩ := by
  have hn : ((payload.length : ℤ)+1-1).toNat=payload.length := by omega
  have hin : (libusbStore.controlIn (usbDevHandle w usbh) (getSetup r.toNat)
      ((payload.length : ℤ)+1-1).toNat w.env).1=some payload := by
    rw [libusbStore_in,hn,h,Option.map_some,List.take_length]
  simp only [libusbHid]
  rw [LibusbBackend.usbhidGetReport_data hin,libusbStore_in,hn,List.take_length,charOf_toNat]

/-- Behind libusb every report makes the round trip. -/
theorem libusb_roundTrips (ho : old.length=payload.length+1) :
    RoundTrips (libusbHid libusbStore target) LibusbWorld.env usbh r payload old w := by
  have hw : (written (libusbHid libusbStore target) usbh r payload w).env=
      Function.update w.env (r.toNat : ℤ) (some payload) := by
    rw [written,libusb_sent]
  have hr : readBack (libusbHid libusbStore target) usbh r payload old w=_ :=
    libusb_received ((congrFun hw _).trans (Function.update_self _ _ _))
  rw [filled ho] at hr
  exact {
    sent := congrArg SendReply.err libusb_sent
    received := congrArg ReportReply.err hr
    buffer := congrArg ReportReply.buffer hr
    length := congrArg ReportReply.len hr
    frame := fun n hn => (congrFun hw n).trans (Function.update_of_ne hn _ _)}

end Libusb

section Osx

variable {w : OsxWorld Reports}

/-- Behind IOKit the write succeeds and stores under the number of the `char`. -/
theorem osx_sent (hc : target.plainCharSigned=true) :
    (osxHid osxStore target).usbhidSetReport usbh (r::payload) (payload.length+1) w=
      ⟨0,{w with
        opened := .used (w.owner usbh)::w.opened
        env := Function.update w.env r.toInt (some payload)}⟩ := by
  have hv : charValue target.plainCharSigned r=r.toInt := by
    rw [hc]
    rfl
  simp only [osxHid,OsxBackend.usbhidSetReport_eq,osxStore_set,hv,ne_eq,not_true_eq_false,if_false]

/-- The size of a buffer that holds a payload is large enough for a read. -/
theorem two_le_size (hp : payload≠[]) : (2 : ℤ)≤payload.length+1 := by
  have hl : 0<payload.length := List.length_pos_iff.mpr hp
  omega

/-- Behind IOKit a read returns what is stored under the number, cut to the size. -/
theorem osx_received (hp : payload≠[]) (h : w.env r.toNat=some data)
    (ht : (data.take payload.length).length≠0) :
    (osxHid osxStore target).usbhidGetReport usbh r.toNat old (payload.length+1) w=
      ⟨0,(writeAt old 1 (data.take payload.length)).set 0 r,((data.take payload.length).length : ℤ)+1,
        {w with opened := .used (w.owner usbh)::w.opened}⟩ := by
  have hn : ((payload.length : ℤ)+1-1).toNat=payload.length := by omega
  have hget := osxStore_get_some h usbh payload.length
  have hdata : (received osxStore w usbh r.toNat (payload.length+1)).2.take ((payload.length : ℤ)+1-1).toNat=
      data.take payload.length := by
    rw [received,hn,hget,List.take_take,min_self]
  have hok : ¬((received osxStore w usbh r.toNat (payload.length+1)).1≠kIOReturnSuccess ∨
      ((received osxStore w usbh r.toNat (payload.length+1)).2.take
        ((payload.length : ℤ)+1-1).toNat).length=0) := by
    rw [hdata,received,hn,hget,not_or,not_not]
    exact ⟨rfl,ht⟩
  simp only [osxHid]
  rw [OsxBackend.usbhidGetReport_data (two_le_size hp) hok,hdata,charOf_toNat,afterGet,hn,hget]

/-- Behind IOKit a read fails when nothing, or an empty report, is stored. -/
theorem osx_unreadable (hp : payload≠[])
    (h : ∀ data,w.env r.toNat=some data → (data.take payload.length).length=0) :
    ((osxHid osxStore target).usbhidGetReport usbh r.toNat old (payload.length+1) w).err≠0 := by
  have hn : ((payload.length : ℤ)+1-1).toNat=payload.length := by omega
  have hfail : (received osxStore w usbh r.toNat (payload.length+1)).1≠kIOReturnSuccess ∨
      ((received osxStore w usbh r.toNat (payload.length+1)).2.take
        ((payload.length : ℤ)+1-1).toNat).length=0 := by
    rw [received,hn]
    cases hd : w.env r.toNat with
    | none =>
      have he : kIOReturnError≠kIOReturnSuccess := by decide
      rw [osxStore_get_none hd]
      exact .inl he
    | some data =>
      rw [osxStore_get_some hd,List.take_take,min_self]
      exact .inr (h data hd)
  have hne : USBHID_ERR_IO_HID≠0 := by decide
  simp only [osxHid]
  rw [OsxBackend.usbhidGetReport_fail (two_le_size hp) hfail]
  exact hne

/-- Behind IOKit a read gives back the buffer of the write exactly when the
payload is what stands under the number, cut to the size. -/
theorem osx_readBack_iff (hp : payload≠[]) (ho : old.length=payload.length+1)
    {g : ReportReply (OsxWorld Reports)}
    (hg : (osxHid osxStore target).usbhidGetReport usbh r.toNat old (payload.length+1) w=g) :
    (g.err=0 ∧ g.buffer=r::payload ∧ g.len=payload.length+1) ↔
      ∃ data,w.env r.toNat=some data ∧ data.take payload.length=payload := by
  subst hg
  constructor
  · rintro ⟨herr,hbuf,hlen⟩
    by_cases h : ∀ data,w.env r.toNat=some data → (data.take payload.length).length=0
    · exact absurd herr (osx_unreadable hp h)
    · obtain ⟨data,hd,ht⟩ := not_forall₂.mp h
      rw [osx_received hp hd ht] at hbuf hlen
      have hfull : (data.take payload.length).length=payload.length := by
        have hl : ((data.take payload.length).length : ℤ)+1=payload.length+1 := hlen
        omega
      have hfill : (writeAt old 1 (data.take payload.length)).set 0 r=r::data.take payload.length :=
        filled (by omega) r
      exact ⟨data,hd,(List.cons.inj (hfill.symm.trans hbuf)).2⟩
  · rintro ⟨data,hd,ht⟩
    have hne : (data.take payload.length).length≠0 := by
      rw [ht]
      exact fun hz => hp (List.eq_nil_of_length_eq_zero hz)
    rw [osx_received hp hd hne,ht,filled ho]
    exact ⟨rfl,rfl,rfl⟩

end Osx

/-- A backend of the two with the device behind it. -/
inductive Storing where
  | libusb (world : LibusbWorld Reports)
  | osx (world : OsxWorld Reports)

/-- Whether the round trip of a report is made through it. -/
def Storing.RoundTrips (target : Target) (usbh : Ptr) (r : Byte) (payload old : List Byte) :
    Storing → Prop
  | libusb w =>
    ReportAddressing.RoundTrips (libusbHid libusbStore target) LibusbWorld.env usbh r payload old w
  | osx w => ReportAddressing.RoundTrips (osxHid osxStore target) OsxWorld.env usbh r payload old w

/-- Whether write and read meet: always behind libusb, and on OS X for the
numbers a `char` holds. For the others they only meet when the device
already held the payload under both numbers. -/
def Storing.Meets (r : Byte) (payload : List Byte) : Storing → Prop
  | libusb _ => True
  | osx w =>
    r.toNat<128 ∨
      w.env r.toInt=some payload ∧ ∃ data,w.env r.toNat=some data ∧ data.take payload.length=payload

/-- On OS X a report makes the round trip when its number fits a `char`, and
else when the device already held the payload under both numbers. -/
theorem osx_roundTrips_iff (hc : target.plainCharSigned=true) (hp : payload≠[])
    (ho : old.length=payload.length+1) (w : OsxWorld Reports) :
    RoundTrips (osxHid osxStore target) OsxWorld.env usbh r payload old w ↔
      (Storing.osx w).Meets r payload := by
  have hs : r.toInt=if 2*r.toNat<256 then (r.toNat : ℤ) else r.toNat-256 :=
    BitVec.toInt_eq_toNat_cond r
  have hw : (written (osxHid osxStore target) usbh r payload w).env=
      Function.update w.env r.toInt (some payload) := by
    rw [written,osx_sent hc]
  have hget : (osxHid osxStore target).usbhidGetReport usbh r.toNat old (payload.length+1)
      (written (osxHid osxStore target) usbh r payload w)=
        readBack (osxHid osxStore target) usbh r payload old w := rfl
  have hread := osx_readBack_iff hp ho hget
  rw [hw] at hread
  by_cases hr : r.toNat<128
  · have he : r.toInt=r.toNat := by
      rw [hs,if_pos (by omega)]
    rw [he,Function.update_self] at hread
    obtain ⟨herr,hbuf,hlen⟩ := hread.mpr ⟨payload,rfl,List.take_length⟩
    refine iff_of_true ⟨congrArg SendReply.err (osx_sent hc),herr,hbuf,hlen,?_⟩ (.inl hr)
    intro n hn
    rw [hw,he]
    exact Function.update_of_ne hn _ _
  · have he : r.toInt≠r.toNat := by
      rw [hs,if_neg (by omega)]
      omega
    rw [Function.update_of_ne he.symm] at hread
    constructor
    · intro h
      have hframe : (some payload : Option (List Byte))=w.env r.toInt := by
        have hf := h.frame r.toInt he
        rwa [hw,Function.update_self] at hf
      exact .inr ⟨hframe.symm,hread.mp ⟨h.received,h.buffer,h.length⟩⟩
    · rintro (hlt|⟨hheld,hdata⟩)
      · exact absurd hlt hr
      · obtain ⟨herr,hbuf,hlen⟩ := hread.mpr hdata
        refine ⟨congrArg SendReply.err (osx_sent hc),herr,hbuf,hlen,?_⟩
        intro n _
        rw [hw,←hheld,Function.update_eq_self]

/-- A report makes the round trip exactly when write and read meet. -/
theorem roundTrips_iff_meets (hc : target.plainCharSigned=true) (hp : payload≠[])
    (ho : old.length=payload.length+1) (b : Storing) :
    b.RoundTrips target usbh r payload old ↔ b.Meets r payload := by
  cases b with
  | libusb w => exact iff_of_true (libusb_roundTrips ho) trivial
  | osx w => exact osx_roundTrips_iff hc hp ho w

/-- A device without reports on OS X, opened through the manager 1. -/
def emptyWorld : OsxWorld Reports := ⟨1,1,Ledger.empty.openNext,[.opened 1],fun _ => 1,fun _ => none⟩

theorem roundTrips_iff_meets_report5 :
    (Storing.osx emptyWorld).RoundTrips ⟨true,fun _ => 0#8⟩ 100 5#8 [1#8] [0#8,0#8] ↔
      (Storing.osx emptyWorld).Meets 5#8 [1#8] :=
  roundTrips_iff_meets rfl (List.cons_ne_nil _ _) rfl (.osx emptyWorld)

/-- On OS X report 0x80 is written under minus 128, so it cannot be read back. -/
theorem report80_misaddressed :
    ¬(Storing.osx emptyWorld).RoundTrips ⟨true,fun _ => 0#8⟩ 100 0x80#8 [1#8] [0#8,0#8] := by
  intro h
  exact absurd h.received (by decide)

end RoundTrip

end UsbIo16.ReportAddressing
