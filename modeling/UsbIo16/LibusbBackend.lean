import Mathlib.Logic.Function.Basic
import Mathlib.Tactic.NormNum.Basic
import UsbIo16.HandleLedger
import UsbIo16.Hiddata

/-!
# The libusb 0.1 backend

The functions of `hiddata_libusb01.c`. The handle passed around is the
address of the `struct usb_device`; the open libusb handle is kept in its
`children` field. The operating system is an environment with a state of
its own, so its answers may depend on everything that happened before.
-/

namespace UsbIo16.LibusbBackend

open ByteBuffer HandleLedger Hiddata

/-- The fields of `struct usb_device` this backend reads or writes. -/
structure UsbDevice where
  idVendor : BitVec 16
  idProduct : BitVec 16
  iManufacturer : Byte
  iProduct : Byte
  num_children : Byte
  children : Ptr

/-- The arguments of `usb_control_msg` besides handle, data and timeout. -/
structure ControlSetup where
  requesttype : BitVec 32
  request : BitVec 32
  value : BitVec 32
  index : BitVec 32
  deriving DecidableEq

/-- How libusb and the devices behind it answer. `D` is their own state. -/
structure LibusbEnv (D : Type) where
  /-- Whether `usb_open` succeeds on a device struct in the n-th enumeration. -/
  canOpen : ℕ → Ptr → Bool
  /-- The string descriptor with this index, absent when it cannot be read. -/
  stringDescriptor : Ptr → Byte → D → Option CString×D
  /-- Result of an OUT transfer of these bytes: the count sent, negative on error. -/
  controlOut : Ptr → ControlSetup → List Byte → D → ℤ×D
  /-- Result of an IN transfer of at most this many bytes: the bytes received,
  absent on error. -/
  controlIn : Ptr → ControlSetup → ℕ → D → Option (List Byte)×D

/-- The process and the USB system as this backend sees them. -/
structure LibusbWorld (D : Type) where
  /-- The device structs of each bus, in list order. -/
  busses : List (List Ptr)
  /-- The struct at each address. -/
  device : Ptr → UsbDevice
  /-- Number of enumerations so far. -/
  rounds : ℕ
  /-- The handles returned by `usb_open`. -/
  ledger : Ledger
  /-- State of the environment. -/
  env : D

/-- The world after a change of one struct's `children` field. -/
def LibusbWorld.setChildren {D : Type} (w : LibusbWorld D) (dev p : Ptr) : LibusbWorld D :=
  {w with device := Function.update w.device dev {w.device dev with children := p}}

/-- The type bits of `requesttype`: class request to the device, direction OUT. -/
def USB_TYPE_CLASS : BitVec 32 := 0x20
/-- Recipient device. -/
def USB_RECIP_DEVICE : BitVec 32 := 0x00
/-- Direction OUT. -/
def USB_ENDPOINT_OUT : BitVec 32 := 0x00
/-- Direction IN. -/
def USB_ENDPOINT_IN : BitVec 32 := 0x80
/-- HID GET_REPORT. -/
def USBRQ_HID_GET_REPORT : BitVec 32 := 0x01
/-- HID SET_REPORT. -/
def USBRQ_HID_SET_REPORT : BitVec 32 := 0x09
/-- Feature reports. -/
def USB_HID_REPORT_TYPE_FEATURE : BitVec 32 := 3

section Backend

variable {D : Type} (env : LibusbEnv D)

/-- The open handle of a device struct. -/
def usbDevHandle (w : LibusbWorld D) (usbh : Ptr) : Ptr := (w.device usbh).children

/-- `usb_close`. -/
def usbClose (handle : Ptr) (w : LibusbWorld D) : LibusbWorld D :=
  {w with ledger := w.ledger.close handle}

/-- The inner loop of `usbhidEnumDevices`, over the devices of one bus. -/
def devLoop {α : Type} (vendor product : ℤ) (usbhidEnumFunc : EnumFunc α (LibusbWorld D)) :
    List Ptr → ℤ → α → LibusbWorld D → EnumReply α (LibusbWorld D)
  | [],errorCode,context,w => ⟨errorCode,context,w⟩
  | dev::rest,errorCode,context,w =>
    if ((w.device dev).idVendor.toNat : ℤ)=vendor ∧ ((w.device dev).idProduct.toNat : ℤ)=product then
      if env.canOpen w.rounds dev=false then
        devLoop vendor product usbhidEnumFunc rest USBHID_ERR_ACCESS context w
      else
        let handle := w.ledger.fresh
        let w := {w with ledger := w.ledger.openNext}
        if (w.device dev).num_children≠0#8 then
          devLoop vendor product usbhidEnumFunc rest 0 context (usbClose handle w)
        else
          let r := usbhidEnumFunc dev context (w.setChildren dev handle)
          if r.answer=0 then ⟨0,r.context,r.world⟩
          else devLoop vendor product usbhidEnumFunc rest 0 r.context r.world
    else devLoop vendor product usbhidEnumFunc rest errorCode context w

/-- The outer loop of `usbhidEnumDevices`, over the busses. The `break` of
the inner loop ends only the inner loop. -/
def busLoop {α : Type} (vendor product : ℤ) (usbhidEnumFunc : EnumFunc α (LibusbWorld D)) :
    List (List Ptr) → ℤ → α → LibusbWorld D → EnumReply α (LibusbWorld D)
  | [],errorCode,context,w => ⟨errorCode,context,w⟩
  | bus::busses,errorCode,context,w =>
    let r := devLoop env vendor product usbhidEnumFunc bus errorCode context w
    busLoop vendor product usbhidEnumFunc busses r.err r.context r.world

/-- Enumerate the devices with this vendor and product. -/
def usbhidEnumDevices {α : Type} (vendor product : ℤ) (context : α)
    (usbhidEnumFunc : EnumFunc α (LibusbWorld D)) (w : LibusbWorld D) :
    EnumReply α (LibusbWorld D) :=
  busLoop env vendor product usbhidEnumFunc w.busses USBHID_ERR_NOTFOUND context
    {w with rounds := w.rounds+1}

/-- Close the handle kept in the struct. -/
def usbhidCloseDevice (usbh : Ptr) (w : LibusbWorld D) : LibusbWorld D :=
  if usbh≠0 then (usbClose (usbDevHandle w usbh) w).setChildren usbh 0 else w

/-- `usb_get_string_simple`: a string that is too long is cut; the result
is negative on error and else the number of characters. -/
def usbhidGetStringAscii (handle : Ptr) (index : Byte) (buf : List Byte) (buflen : ℤ)
    (w : LibusbWorld D) : ℤ×List Byte×LibusbWorld D :=
  let r := env.stringDescriptor handle index w.env
  let w := {w with ledger := w.ledger.use handle,env := r.2}
  match r.1 with
  | none => (-1,buf,w)
  | some s =>
    let text := s.bytes.take (buflen-1).toNat
    (text.length,writeAt buf 0 (text++[0#8]),w)

/-- Read the vendor string. -/
def usbhidGetVendorString (usbh : Ptr) (buffer : List Byte) (len : ℤ) (w : LibusbWorld D) :
    StringReply (LibusbWorld D) :=
  let r := usbhidGetStringAscii env (usbDevHandle w usbh) (w.device usbh).iManufacturer buffer len w
  ⟨if r.1<0 then USBHID_ERR_IO else 0,r.2.1,r.2.2⟩

/-- Read the product string. -/
def usbhidGetProductString (usbh : Ptr) (buffer : List Byte) (len : ℤ) (w : LibusbWorld D) :
    StringReply (LibusbWorld D) :=
  let r := usbhidGetStringAscii env (usbDevHandle w usbh) (w.device usbh).iProduct buffer len w
  ⟨if r.1<0 then USBHID_ERR_IO else 0,r.2.1,r.2.2⟩

/-- Whether the first byte of a report buffer is a report ID for the device. -/
def usesReportIDs (_usbh : Ptr) : Bool := false

/-- Setup of a feature request for a report number. -/
def featureSetup (direction request : BitVec 32) (number : BitVec 32) : ControlSetup :=
  ⟨USB_TYPE_CLASS ||| USB_RECIP_DEVICE ||| direction,request,
    USB_HID_REPORT_TYPE_FEATURE <<< 8 ||| number,0⟩

/-- Send a feature report. The report ID is the first `char` of the buffer,
widened to `int` and masked; it is skipped in the data. -/
def usbhidSetReport (signed : Bool) (usbh : Ptr) (buffer : List Byte) (len : ℤ)
    (w : LibusbWorld D) : SendReply (LibusbWorld D) :=
  let reportId : BitVec 32 := BitVec.ofInt 32 (charValue signed (buffer.getD 0 0#8))
  let skip : ℕ := if usesReportIDs usbh=true then 0 else 1
  let len := len-skip
  let r := env.controlOut (usbDevHandle w usbh)
    (featureSetup USB_ENDPOINT_OUT USBRQ_HID_SET_REPORT (reportId &&& 0xff#32))
    ((buffer.drop skip).take len.toNat) w.env
  let w := {w with ledger := w.ledger.use (usbDevHandle w usbh),env := r.2}
  ⟨if r.1≠len then USBHID_ERR_IO else 0,w⟩

/-- Read a feature report. libusb writes no more than the size it is given;
the report ID is put in front of the data. -/
def usbhidGetReport (usbh : Ptr) (reportNumber : ℤ) (buffer : List Byte) (len : ℤ)
    (w : LibusbWorld D) : ReportReply (LibusbWorld D) :=
  let skip : ℕ := if usesReportIDs usbh=true then 0 else 1
  let maxLen := (len-skip).toNat
  let r := env.controlIn (usbDevHandle w usbh)
    (featureSetup USB_ENDPOINT_IN USBRQ_HID_GET_REPORT (BitVec.ofInt 32 reportNumber)) maxLen w.env
  let w := {w with ledger := w.ledger.use (usbDevHandle w usbh),env := r.2}
  match r.1 with
  | none => ⟨ USBHID_ERR_IO,buffer,len,w⟩
  | some data =>
    let data := data.take maxLen
    let buffer := writeAt buffer skip data
    if usesReportIDs usbh=true then ⟨0,buffer,data.length,w⟩
    else ⟨0,buffer.set 0 (charOf reportNumber),(data.length : ℤ)+1,w⟩

section ReportSpec

variable {env} {w : LibusbWorld D} {usbh : Ptr} {buffer : List Byte} {len reportNumber : ℤ}

/-- The request made to read a feature report. -/
abbrev getSetup (reportNumber : ℤ) : ControlSetup :=
  featureSetup USB_ENDPOINT_IN USBRQ_HID_GET_REPORT (BitVec.ofInt 32 reportNumber)

/-- The request made to send a feature report whose ID is the byte `b`. -/
abbrev setSetup (signed : Bool) (b : Byte) : ControlSetup :=
  featureSetup USB_ENDPOINT_OUT USBRQ_HID_SET_REPORT
    (BitVec.ofInt 32 (charValue signed b) &&& 0xff#32)

/-- A failed transfer is an error and changes neither buffer nor length. -/
theorem usbhidGetReport_fail
    (h : (env.controlIn (usbDevHandle w usbh) (getSetup reportNumber) (len-1).toNat w.env).1=none) :
    usbhidGetReport env usbh reportNumber buffer len w=
      ⟨ USBHID_ERR_IO,buffer,len,
        {w with
          ledger := w.ledger.use (usbDevHandle w usbh)
          env := (env.controlIn (usbDevHandle w usbh) (getSetup reportNumber) (len-1).toNat w.env).2}⟩ := by
  simp only [usbhidGetReport,usesReportIDs,Bool.false_eq_true,if_false,Nat.cast_one,h]

/-- The payload received stands behind the report ID and the length counts both. -/
theorem usbhidGetReport_data {data : List Byte}
    (h : (env.controlIn (usbDevHandle w usbh) (getSetup reportNumber) (len-1).toNat w.env).1=some data) :
    usbhidGetReport env usbh reportNumber buffer len w=
      ⟨0,(writeAt buffer 1 (data.take (len-1).toNat)).set 0 (charOf reportNumber),
        ((data.take (len-1).toNat).length : ℤ)+1,
        {w with
          ledger := w.ledger.use (usbDevHandle w usbh)
          env := (env.controlIn (usbDevHandle w usbh) (getSetup reportNumber) (len-1).toNat w.env).2}⟩ := by
  simp only [usbhidGetReport,usesReportIDs,Bool.false_eq_true,if_false,Nat.cast_one,h]

/-- The bytes behind the report ID are sent, and all of them must be taken. -/
theorem usbhidSetReport_eq (signed : Bool) (b : Byte) (payload : List Byte) :
    usbhidSetReport env signed usbh (b::payload) (payload.length+1) w=
      ⟨if (env.controlOut (usbDevHandle w usbh) (setSetup signed b) payload w.env).1≠payload.length then
          USBHID_ERR_IO else 0,
        {w with
          ledger := w.ledger.use (usbDevHandle w usbh)
          env := (env.controlOut (usbDevHandle w usbh) (setSetup signed b) payload w.env).2}⟩ := by
  have hl : (payload.length : ℤ)+1-1=payload.length := by omega
  have ht : payload.take (payload.length : ℤ).toNat=payload :=
    List.take_of_length_le (by omega)
  simp only [usbhidSetReport,usesReportIDs,Bool.false_eq_true,if_false,Nat.cast_one,hl,
    List.drop_one,List.tail_cons,ht,List.getD_cons_zero]

end ReportSpec

/-- The backend as a HID layer. -/
def libusbHid (target : Target) : HidLayer (LibusbWorld D) where
  toTarget := target
  usbhidEnumDevices := usbhidEnumDevices env
  usbhidCloseDevice := usbhidCloseDevice
  usbhidGetVendorString := usbhidGetVendorString env
  usbhidGetProductString := usbhidGetProductString env
  usbhidSetReport := usbhidSetReport env target.plainCharSigned
  usbhidGetReport := usbhidGetReport env

end Backend

/-- A USB system in which every transfer succeeds: OUT data is taken whole
and an IN transfer returns zero bytes. -/
def readyEnv : LibusbEnv Unit where
  canOpen _ _ := true
  stringDescriptor _ _ s := (none,s)
  controlOut _ _ data s := (data.length,s)
  controlIn _ _ size s := (some (List.replicate size 0#8),s)

/-- A USB system in which every device answers as a card does: both names,
and a report zero that begins with the id `ABCD`. -/
def cardEnv : LibusbEnv Unit where
  canOpen _ _ := true
  stringDescriptor _ index s :=
    (if index=1#8 then some ⟨ascii "www.dcttech.com",by decide⟩
      else if index=2#8 then some ⟨ascii "USBIO",by decide⟩ else none,s)
  controlOut _ _ data s := (data.length,s)
  controlIn _ _ _ s := (some [0x41#8,0x42#8,0x43#8,0x44#8,0#8,0#8,0#8,0#8],s)

/-- One card at address 100, before the first enumeration. -/
def cardWorld : LibusbWorld Unit where
  busses := [[100]]
  device _ := ⟨0x16c0,0x05df,1,2,0,0⟩
  rounds := 0
  ledger := Ledger.empty
  env := ()

/-- Two such cards; an id of its own tells which handle belongs to which. -/
def twoCardEnv : LibusbEnv Unit :=
  {cardEnv with controlIn := fun handle _ _ s =>
    (some (ascii (if handle=1 then "ABCD" else "WXYZ")++List.replicate 4 0#8),s)}

/-- Two cards at addresses 100 and 200, and a device of another make between
them that has an array of children with nothing in it. -/
def twoCardWorld : LibusbWorld Unit where
  busses := [[100],[150,200]]
  device dev := if dev=150 then ⟨0x1d6b,0x0002,3,2,0,7000⟩ else ⟨0x16c0,0x05df,1,2,0,0⟩
  rounds := 0
  ledger := Ledger.empty
  env := ()

end UsbIo16.LibusbBackend
