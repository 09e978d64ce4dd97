import Mathlib.Logic.Function.Basic
import UsbIo16.HandleLedger
import UsbIo16.Hiddata

/-!
# The Windows backend

The functions of `hiddata_mswin.c`. A device handle is the `HANDLE`
returned by `CreateFileW`. The set of HID interfaces and the outcome of
every call on them are what the environment says for each enumeration.
-/

namespace UsbIo16.MswinBackend

open ByteBuffer HandleLedger Hiddata

/-- `INVALID_HANDLE_VALUE`. -/
def INVALID_HANDLE_VALUE : Ptr := -1

/-- What the system answers for one HID interface during an enumeration. -/
structure HidInterface where
  /-- Path of the interface, which `CreateFileW` opens. -/
  DevicePath : String
  /-- Size reported by the first detail query; zero when it fails. -/
  size : ℕ
  /-- Whether `malloc` of that size succeeds. -/
  allocated : Bool
  /-- Whether the second detail query succeeds. -/
  detail : Bool
  /-- Whether `CreateFileW` opens the path. -/
  canOpen : Bool
  /-- Vendor and product stored by `HidD_GetAttributes`, absent when it fails. -/
  attributes : Option (BitVec 16×BitVec 16)
  deriving DecidableEq

/-- What the system answers to one enumeration. -/
structure ClassDevs where
  /-- What the uninitialised vendor and product of the attribute struct hold. -/
  stale : BitVec 16×BitVec 16
  /-- The interfaces in index order. -/
  interfaces : List HidInterface

/-- How Windows and the devices behind it answer. `D` is their own state. -/
structure MswinEnv (D : Type) where
  /-- `SetupDiGetClassDevsW` and the queries on its result, absent on failure. -/
  classDevs : D → Option ClassDevs×D
  /-- `HidD_GetManufacturerString`: the string, absent on failure. -/
  manufacturer : Ptr → D → Option (List (BitVec 16))×D
  /-- `HidD_GetProductString`: the string, absent on failure. -/
  product : Ptr → D → Option (List (BitVec 16))×D
  /-- `HidD_SetFeature` with this buffer. -/
  setFeature : Ptr → List Byte → D → Bool×D
  /-- `HidD_GetFeature` for this report ID and buffer size: the payload
  received, absent on failure. -/
  getFeature : Ptr → Byte → ℕ → D → Option (List Byte)×D

/-- The process and the system as this backend sees them. -/
structure MswinWorld (D : Type) where
  /-- The handles returned by `CreateFileW`. -/
  ledger : Ledger
  /-- The path each handle was opened on. -/
  path : Ptr → String
  /-- State of the environment. -/
  env : D

/-- Put two bytes per unit, low byte first. -/
def utf16le (units : List (BitVec 16)) : List Byte :=
  units.flatMap fun u : BitVec 16 => [u.setWidth 8,(u >>> 8).setWidth 8]

/-- The unit at byte offset `2*i`, low byte first. -/
def unitAt (buf : List Byte) (i : ℕ) : BitVec 16 :=
  (buf.getD (2*i+1) 0#8).setWidth 16 <<< 8 ||| (buf.getD (2*i) 0#8).setWidth 16

/-- The loop of `usbstring_to_ascii` from unit `i` on, with this many units
left. Source and destination are the same array. -/
def asciiLoop : ℕ → ℕ → List Byte → List Byte
  | 0,_,buf => buf
  | left+1,i,buf =>
    let h := unitAt buf i
    let buf := buf.set i (if h.toNat<0xFF then h.setWidth 8 else 0x3F#8)
    if h=0#16 then buf else asciiLoop left (i+1) buf

/-- Convert a UTF-16 string to single bytes in place. -/
def usbstringToAscii (buf : List Byte) (size : ℤ) : List Byte := asciiLoop (size/2).toNat 0 buf

/-- `CreateFileW`: the next handle, or the invalid one. -/
def createFile {D : Type} (iface : HidInterface) (w : MswinWorld D) : Ptr×MswinWorld D :=
  if iface.canOpen=true then
    (w.ledger.fresh,
      {w with ledger := w.ledger.openNext,path := Function.update w.path w.ledger.fresh iface.DevicePath})
  else (INVALID_HANDLE_VALUE,w)

/-- `CloseHandle`. -/
def closeHandle {D : Type} (handle : Ptr) (w : MswinWorld D) : MswinWorld D :=
  {w with ledger := w.ledger.close handle}

section Backend

variable {D : Type} (env : MswinEnv D)

/-- The deferred close at the top of the enumeration loop. -/
def closePending (handle : Ptr) (w : MswinWorld D) : MswinWorld D :=
  if handle≠INVALID_HANDLE_VALUE then closeHandle handle w else w

/-- The loop of `usbhidEnumDevices`. `handle`, the attribute struct and the
error code live across its rounds. -/
def interfaceLoop {α : Type} (vendor product : ℤ) (usbhidEnumFunc : EnumFunc α (MswinWorld D)) :
    List HidInterface → Ptr → BitVec 16×BitVec 16 → ℤ → α → MswinWorld D →
      EnumReply α (MswinWorld D)
  | [],handle,_,errorCode,context,w => ⟨errorCode,context,closePending handle w⟩
  | iface::rest,handle,deviceAttributes,errorCode,context,w =>
    let w := closePending handle w
    let skip := interfaceLoop vendor product usbhidEnumFunc rest INVALID_HANDLE_VALUE
      deviceAttributes errorCode context w
    if iface.size=0 then skip
    else if iface.allocated=false then skip
    else if iface.detail=false then skip
    else
      let handle := (createFile iface w).1
      let w := (createFile iface w).2
      if handle=INVALID_HANDLE_VALUE then
        interfaceLoop vendor product usbhidEnumFunc rest handle deviceAttributes errorCode context w
      else
        let deviceAttributes := iface.attributes.getD deviceAttributes
        if (deviceAttributes.1.toNat : ℤ)≠vendor ∨ (deviceAttributes.2.toNat : ℤ)≠product then
          interfaceLoop vendor product usbhidEnumFunc rest handle deviceAttributes errorCode context w
        else
          let r := usbhidEnumFunc handle context w
          if r.answer=0 then ⟨0,r.context,r.world⟩
          else
            interfaceLoop vendor product usbhidEnumFunc rest INVALID_HANDLE_VALUE deviceAttributes 0
              r.context r.world

/-- Enumerate HID USB devices. -/
def usbhidEnumDevices {α : Type} (vendor product : ℤ) (context : α)
    (usbhidEnumFunc : EnumFunc α (MswinWorld D)) (w : MswinWorld D) :
    EnumReply α (MswinWorld D) :=
  let r := env.classDevs w.env
  let w := {w with env := r.2}
  match r.1 with
  | none => ⟨USBHID_ERR_NOTFOUND,context,w⟩
  | some devs =>
    interfaceLoop vendor product usbhidEnumFunc devs.interfaces INVALID_HANDLE_VALUE devs.stale
      USBHID_ERR_NOTFOUND context w

/-- Close a handle. -/
def usbhidCloseDevice (usbh : Ptr) (w : MswinWorld D) : MswinWorld D := closeHandle usbh w

/-- Read a string with one of the two system calls and narrow it in place.
The system call fails when the terminated string does not fit. -/
def getString (query : Ptr → D → Option (List (BitVec 16))×D) (usbh : Ptr) (buffer : List Byte)
    (len : ℤ) (w : MswinWorld D) : StringReply (MswinWorld D) :=
  let r := query usbh w.env
  let w := {w with ledger := w.ledger.use usbh,env := r.2}
  match r.1 with
  | none => ⟨USBHID_ERR_IO_HID,buffer,w⟩
  | some units =>
    if len<2*((units.length : ℤ)+1) then ⟨USBHID_ERR_IO_HID,buffer,w⟩
    else ⟨0,usbstringToAscii (writeAt buffer 0 (utf16le (units++[0#16]))) len,w⟩

/-- Read the vendor string. -/
def usbhidGetVendorString (usbh : Ptr) (buffer : List Byte) (len : ℤ) (w : MswinWorld D) :
    StringReply (MswinWorld D) := getString env.manufacturer usbh buffer len w

/-- Read the product string. -/
def usbhidGetProductString (usbh : Ptr) (buffer : List Byte) (len : ℤ) (w : MswinWorld D) :
    StringReply (MswinWorld D) := getString env.product usbh buffer len w

/-- Send a feature report; the buffer goes to the system as it is. -/
def usbhidSetReport (usbh : Ptr) (buffer : List Byte) (len : ℤ) (w : MswinWorld D) :
    SendReply (MswinWorld D) :=
  let r := env.setFeature usbh (buffer.take len.toNat) w.env
  ⟨if r.1=false then USBHID_ERR_IO_HID else 0,{w with ledger := w.ledger.use usbh,env := r.2}⟩

/-- Read a feature report. The system call only tells success or failure;
the length variable is not written. -/
def usbhidGetReport (usbh : Ptr) (reportNumber : ℤ) (buffer : List Byte) (len : ℤ)
    (w : MswinWorld D) : ReportReply (MswinWorld D) :=
  let buffer := buffer.set 0 (charOf reportNumber)
  let r := env.getFeature usbh (charOf reportNumber) len.toNat w.env
  let w := {w with ledger := w.ledger.use usbh,env := r.2}
  match r.1 with
  | none => ⟨USBHID_ERR_IO_HID,buffer,len,w⟩
  | some data => ⟨0,writeAt buffer 1 (data.take (len.toNat-1)),len,w⟩

/-- The backend as a HID layer. -/
def mswinHid (target : Target) : HidLayer (MswinWorld D) where
  toTarget := target
  usbhidEnumDevices := usbhidEnumDevices env
  usbhidCloseDevice := usbhidCloseDevice
  usbhidGetVendorString := usbhidGetVendorString env
  usbhidGetProductString := usbhidGetProductString env
  usbhidSetReport := usbhidSetReport env
  usbhidGetReport := usbhidGetReport env

end Backend

end UsbIo16.MswinBackend
