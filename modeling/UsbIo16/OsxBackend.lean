import Mathlib.Logic.Function.Basic
import Mathlib.Tactic.NormNum.Basic
import UsbIo16.HandleLedger
import UsbIo16.Hiddata

/-!
# The OS X backend

The functions of `hiddata_osx.c`. A device handle is the reference of an
IOKit device; the HID manager it came from is kept in two process globals,
the manager and a count of the handles that keep it open.
-/

namespace UsbIo16.OsxBackend

open ByteBuffer HandleLedger Hiddata

/-- What IOKit tells about one entry of the device set. -/
structure OsxDevice where
  /-- The device reference; NULL for a device that is gone. -/
  ref : Ptr
  /-- Transport property, absent when not a readable string. -/
  transport : Option (List Char)
  /-- Vendor property, absent when not a number. -/
  vendorID : Option ℤ
  /-- Product property, absent when not a number. -/
  productID : Option ℤ
  /-- A reference is an address of an object, never the all-ones word. -/
  isAddress : ref≠-1
  deriving DecidableEq

/-- The string properties the library asks for. -/
inductive StringKey where
  | manufacturer
  | product
  deriving DecidableEq

/-- How IOKit and the devices behind it answer. `D` is their own state. -/
structure OsxEnv (D : Type) where
  /-- Whether `IOHIDManagerCreate` returns a manager. -/
  createManager : D → Bool×D
  /-- Whether `IOHIDManagerOpen` succeeds. -/
  openManager : D → Bool×D
  /-- The values of the copied device set. -/
  copyDevices : D → List OsxDevice×D
  /-- A string property of a device, absent when it has none. -/
  stringProperty : Ptr → StringKey → D → Option (List Char)×D
  /-- `IOHIDDeviceSetReport` for a report type and id: the IOReturn code. -/
  setReport : Ptr → ℕ → ℤ → List Byte → D → ℤ×D
  /-- `IOHIDDeviceGetReport` for a report type, id and buffer size: the
  IOReturn code and the bytes received. -/
  getReport : Ptr → ℕ → ℤ → ℕ → D → (ℤ×List Byte)×D

/-- The process and the HID system as this backend sees them. -/
structure OsxWorld (D : Type) where
  /-- The manager kept open. -/
  g_hidmgr : Ptr
  /-- Number of references on it. -/
  g_hidmgr_open_count : ℤ
  /-- The managers created and released. -/
  managers : Ledger
  /-- The managers opened and closed, and the transfers made under them; newest first. -/
  opened : List (HandleEvent Ptr)
  /-- The manager whose device set a device reference was last copied from. -/
  owner : Ptr → Ptr
  /-- State of the environment. -/
  env : D

/-- `kIOReturnSuccess`. -/
def kIOReturnSuccess : ℤ := 0
/-- `kIOHIDReportTypeFeature`. -/
def kIOHIDReportTypeFeature : ℕ := 2

/-- UTF-8 bytes of a character. -/
def utf8 (c : Char) : List Byte := (String.utf8EncodeChar c).map UInt8.toBitVec

/-- Number of UTF-16 units of a character. -/
def utf16Units (c : Char) : ℕ := if c.toNat<0x10000 then 1 else 2

/-- `CFStringGetBytes` to UTF-8 with room for so many bytes: the number of
UTF-16 characters converted and the bytes of as many whole characters as fit. -/
def cfStringGetBytes : List Char → ℕ → ℕ×List Byte
  | [],_ => (0,[])
  | c::cs,room =>
    if (utf8 c).length≤room then
      let r := cfStringGetBytes cs (room-(utf8 c).length)
      (utf16Units c+r.1,utf8 c++r.2)
    else (0,[])

/-- Read a string property into the buffer: the return value and the buffer. -/
def getStringPropertyUtf8 (str : Option (List Char)) (buf : List Byte) (len : ℤ) : ℤ×List Byte :=
  let buf := buf.set 0 0#8
  if len<2 then (0,buf)
  else
    match str with
    | none => (USBHID_ERR_BAD_ARG,buf)
    | some [] => (0,buf)
    | some (c::cs) =>
      let r := cfStringGetBytes (c::cs) (len-1).toNat
      (r.1,writeAt buf 0 (r.2++[0#8]))

/-- A number property, minus one when absent. -/
def getIntProperty (ref : Option ℤ) : ℤ := ref.getD (-1)

/-- Lower case of an ASCII letter. -/
def tolower (b : Byte) : Byte :=
  if 0x41≤b.toNat ∧ b.toNat≤0x5A then b+0x20#8 else b

/-- Comparison of two strings without regard to the case of ASCII letters. -/
def strcasecmp (a b : List Byte) : ℤ := strcmp (a.map tolower) (b.map tolower)

section Backend

variable {D : Type} (env : OsxEnv D)

/-- Drop a reference on the manager; the last one closes and releases it. -/
def hidmgrDeref (w : OsxWorld D) : OsxWorld D :=
  if w.g_hidmgr≠0 then
    let w := {w with g_hidmgr_open_count := w.g_hidmgr_open_count-1}
    if w.g_hidmgr_open_count≤0 then
      {w with
        opened := .closed w.g_hidmgr::w.opened
        managers := w.managers.close w.g_hidmgr
        g_hidmgr := 0}
    else w
  else w

/-- The first half of `usbhidEnumDevices`: create and open a manager and
copy its devices. On success the manager is put into the globals. -/
def managerDevices (w : OsxWorld D) : Except ℤ (List OsxDevice)×OsxWorld D :=
  let created := env.createManager w.env
  let w := {w with env := created.2}
  if created.1=false then (.error USBHID_ERR_IO_HID,w)
  else
    let mgr := w.managers.fresh
    let w := {w with managers := w.managers.openNext}
    let ir := env.openManager w.env
    let w := {w with env := ir.2}
    if ir.1=false then (.error USBHID_ERR_IO_HID,w)
    else
      let w := {w with opened := .opened mgr::w.opened}
      let device_set := env.copyDevices w.env
      let w := {w with env := device_set.2}
      if device_set.1.length=0 then (.error USBHID_ERR_NOTFOUND,w)
      else
        (.ok device_set.1,
          {w with
            g_hidmgr := mgr
            g_hidmgr_open_count := 1
            owner := fun u => if u∈device_set.1.map OsxDevice.ref then mgr else w.owner u})

/-- The tests of the device loop: present, on USB, this vendor and product. -/
def offered (target : Target) (vendor product : ℤ) (dev : OsxDevice) : Bool :=
  let buf := (getStringPropertyUtf8 dev.transport ((List.range 32).map target.indeterminate) 32).2
  decide (dev.ref≠0) && decide (strcasecmp buf (ascii "USB")=0) &&
    decide (BitVec.ofInt 16 (getIntProperty dev.vendorID)=BitVec.ofInt 16 vendor) &&
    decide (BitVec.ofInt 16 (getIntProperty dev.productID)=BitVec.ofInt 16 product)

/-- Hand a device to the callback: it counts as a reference on the manager. -/
def addRef (w : OsxWorld D) : OsxWorld D :=
  {w with g_hidmgr_open_count := w.g_hidmgr_open_count+1}

/-- The device loop of `usbhidEnumDevices`. -/
def deviceLoop {α : Type} (target : Target) (vendor product : ℤ)
    (usbhidEnumFunc : EnumFunc α (OsxWorld D)) :
    List OsxDevice → α → OsxWorld D → α×OsxWorld D
  | [],context,w => (context,w)
  | dev::rest,context,w =>
    if offered target vendor product dev=false then
      deviceLoop target vendor product usbhidEnumFunc rest context w
    else
      let r := usbhidEnumFunc dev.ref context (addRef w)
      if r.answer=0 then (r.context,r.world)
      else deviceLoop target vendor product usbhidEnumFunc rest r.context r.world

/-- Enumerate devices. -/
def usbhidEnumDevices {α : Type} (target : Target) (vendor product : ℤ) (context : α)
    (usbhidEnumFunc : EnumFunc α (OsxWorld D)) (w : OsxWorld D) : EnumReply α (OsxWorld D) :=
  let m := managerDevices env w
  match m.1 with
  | .error e => ⟨e,context,m.2⟩
  | .ok devices =>
    let r := deviceLoop target vendor product usbhidEnumFunc devices context m.2
    ⟨0,r.1,hidmgrDeref r.2⟩

/-- Close a handle: drop its reference on the manager. -/
def usbhidCloseDevice (usbh : Ptr) (w : OsxWorld D) : OsxWorld D :=
  if usbh≠0 then hidmgrDeref w else w

/-- The common part of the two string queries. -/
def getString (key : StringKey) (usbh : Ptr) (buffer : List Byte) (len : ℤ) (w : OsxWorld D) :
    StringReply (OsxWorld D) :=
  let str := env.stringProperty usbh key w.env
  let len2 := getStringPropertyUtf8 str.1 buffer len
  ⟨if len2.1<0 then USBHID_ERR_IO_HID else 0,len2.2,{w with env := str.2}⟩

/-- Read the vendor string. -/
def usbhidGetVendorString (usbh : Ptr) (buffer : List Byte) (len : ℤ) (w : OsxWorld D) :
    StringReply (OsxWorld D) := getString env .manufacturer usbh buffer len w

/-- Read the product string. -/
def usbhidGetProductString (usbh : Ptr) (buffer : List Byte) (len : ℤ) (w : OsxWorld D) :
    StringReply (OsxWorld D) := getString env .product usbh buffer len w

/-- Whether the device expects the report ID in the first byte of the data. -/
def usesReportIDs (_usbh : Ptr) : Bool := false

/-- Send a feature report. The report number is the first `char` of the
buffer, widened without a mask; it is skipped in the data. -/
def usbhidSetReport (signed : Bool) (usbh : Ptr) (buffer : List Byte) (len : ℤ)
    (w : OsxWorld D) : SendReply (OsxWorld D) :=
  let reportNumber : ℤ := charValue signed (buffer.getD 0 0#8)
  let skip : ℕ := if usesReportIDs usbh=true then 0 else 1
  let len := len-skip
  let res := env.setReport usbh kIOHIDReportTypeFeature reportNumber
    ((buffer.drop skip).take len.toNat) w.env
  let w := {w with opened := .used (w.owner usbh)::w.opened,env := res.2}
  ⟨if res.1≠kIOReturnSuccess then USBHID_ERR_IO_HID else 0,w⟩

/-- Read a feature report. IOKit writes no more than the size it is given;
the report ID is put in front of the data. -/
def usbhidGetReport (usbh : Ptr) (reportNumber : ℤ) (buffer : List Byte) (len : ℤ)
    (w : OsxWorld D) : ReportReply (OsxWorld D) :=
  if len<2 then ⟨USBHID_ERR_BAD_ARG,buffer,len,w⟩
  else
    let skip : ℕ := if usesReportIDs usbh=true then 0 else 1
    let maxLen := (len-skip).toNat
    let res := env.getReport usbh kIOHIDReportTypeFeature reportNumber maxLen w.env
    let w := {w with opened := .used (w.owner usbh)::w.opened,env := res.2}
    let data := res.1.2.take maxLen
    let buffer := writeAt buffer skip data
    if res.1.1≠kIOReturnSuccess ∨ data.length=0 then ⟨USBHID_ERR_IO_HID,buffer,len,w⟩
    else if usesReportIDs usbh=true then ⟨0,buffer,data.length,w⟩
    else ⟨0,buffer.set 0 (charOf reportNumber),(data.length : ℤ)+1,w⟩

section ReportSpec

variable {env} {w : OsxWorld D} {usbh : Ptr} {buffer : List Byte} {len reportNumber : ℤ}

/-- The IOReturn code and the bytes of the request to read a feature report. -/
abbrev received (env : OsxEnv D) (w : OsxWorld D) (usbh : Ptr) (reportNumber len : ℤ) : ℤ×List Byte :=
  (env.getReport usbh kIOHIDReportTypeFeature reportNumber (len-1).toNat w.env).1

/-- The world after a request to read a feature report. -/
abbrev afterGet (env : OsxEnv D) (w : OsxWorld D) (usbh : Ptr) (reportNumber len : ℤ) : OsxWorld D :=
  {w with
    opened := .used (w.owner usbh)::w.opened
    env := (env.getReport usbh kIOHIDReportTypeFeature reportNumber (len-1).toNat w.env).2}

/-- A transfer that fails or brings no byte is an error; the length stays. -/
theorem usbhidGetReport_fail (hl : 2≤len)
    (h : (received env w usbh reportNumber len).1≠kIOReturnSuccess ∨
      ((received env w usbh reportNumber len).2.take (len-1).toNat).length=0) :
    usbhidGetReport env usbh reportNumber buffer len w=
      ⟨USBHID_ERR_IO_HID,
        writeAt buffer 1 ((received env w usbh reportNumber len).2.take (len-1).toNat),len,
        afterGet env w usbh reportNumber len⟩ := by
  simp only [usbhidGetReport,usesReportIDs,Bool.false_eq_true,if_false,Nat.cast_one,
    if_neg (not_lt.mpr hl),if_pos h]

/-- The payload received stands behind the report ID and the length counts both. -/
theorem usbhidGetReport_data (hl : 2≤len)
    (h : ¬((received env w usbh reportNumber len).1≠kIOReturnSuccess ∨
      ((received env w usbh reportNumber len).2.take (len-1).toNat).length=0)) :
    usbhidGetReport env usbh reportNumber buffer len w=
      ⟨0,(writeAt buffer 1
            ((received env w usbh reportNumber len).2.take (len-1).toNat)).set 0 (charOf reportNumber),
        (((received env w usbh reportNumber len).2.take (len-1).toNat).length : ℤ)+1,
        afterGet env w usbh reportNumber len⟩ := by
  simp only [usbhidGetReport,usesReportIDs,Bool.false_eq_true,if_false,Nat.cast_one,
    if_neg (not_lt.mpr hl),if_neg h]

/-- The bytes behind the report ID are sent under the ID as a plain `char`. -/
theorem usbhidSetReport_eq (signed : Bool) (b : Byte) (payload : List Byte) :
    usbhidSetReport env signed usbh (b::payload) (payload.length+1) w=
      ⟨if (env.setReport usbh kIOHIDReportTypeFeature (charValue signed b) payload w.env).1≠
          kIOReturnSuccess then USBHID_ERR_IO_HID else 0,
        {w with
          opened := .used (w.owner usbh)::w.opened
          env := (env.setReport usbh kIOHIDReportTypeFeature (charValue signed b) payload w.env).2}⟩ := by
  have hl : (payload.length : ℤ)+1-1=payload.length := by omega
  have ht : payload.take (payload.length : ℤ).toNat=payload :=
    List.take_of_length_le (by omega)
  simp only [usbhidSetReport,usesReportIDs,Bool.false_eq_true,if_false,Nat.cast_one,hl,
    List.drop_one,List.tail_cons,ht,List.getD_cons_zero]

end ReportSpec

section ManagerSpec

variable (w : OsxWorld D)

/-- How the first half of an enumeration can end: three times with an error,
and once with the devices and the manager in the globals. -/
inductive ManagerEnds : Except ℤ (List OsxDevice)×OsxWorld D → Prop
  /-- No manager is created. -/
  | uncreated (hcreate : (env.createManager w.env).1=false) :
      ManagerEnds (.error USBHID_ERR_IO_HID,{w with env := (env.createManager w.env).2})
  /-- The manager cannot be opened; it is not released. -/
  | refused {e : D} (hcreate : (env.createManager w.env).1=true)
      (hopen : (env.openManager (env.createManager w.env).2).1=false) :
      ManagerEnds (.error USBHID_ERR_IO_HID,{w with managers := w.managers.openNext,env := e})
  /-- It has no devices; it is neither closed nor released. -/
  | empty {e : D} (hcreate : (env.createManager w.env).1=true)
      (hopen : (env.openManager (env.createManager w.env).2).1=true)
      (hset : (env.copyDevices (env.openManager (env.createManager w.env).2).2).1=[]) :
      ManagerEnds (.error USBHID_ERR_NOTFOUND,{w with
        managers := w.managers.openNext
        opened := .opened w.managers.fresh::w.opened
        env := e})
  /-- It is put into the globals with one reference. -/
  | ready {devices : List OsxDevice} {e : D} (hcreate : (env.createManager w.env).1=true)
      (hopen : (env.openManager (env.createManager w.env).2).1=true)
      (hset : (env.copyDevices (env.openManager (env.createManager w.env).2).2).1=devices)
      (hsome : devices≠[]) :
      ManagerEnds (.ok devices,{w with
        managers := w.managers.openNext
        opened := .opened w.managers.fresh::w.opened
        g_hidmgr := w.managers.fresh
        g_hidmgr_open_count := 1
        owner := fun u => if u∈devices.map OsxDevice.ref then w.managers.fresh else w.owner u
        env := e})

/-- The first half of an enumeration ends in one of these ways. -/
theorem managerDevices_ends : ManagerEnds env w (managerDevices env w) := by
  unfold managerDevices
  dsimp only
  cases hcreate : (env.createManager w.env).1 with
  | false =>
    rw [if_pos rfl]
    exact .uncreated hcreate
  | true =>
    rw [if_neg Bool.true_eq_false.mp]
    cases hopen : (env.openManager (env.createManager w.env).2).1 with
    | false =>
      rw [if_pos rfl]
      exact .refused hcreate hopen
    | true =>
      rw [if_neg Bool.true_eq_false.mp]
      by_cases hset : (env.copyDevices (env.openManager (env.createManager w.env).2).2).1=[]
      · rw [if_pos (List.length_eq_zero_iff.mpr hset)]
        exact .empty hcreate hopen hset
      · rw [if_neg fun h0 => hset (List.length_eq_zero_iff.mp h0)]
        exact .ready hcreate hopen rfl hset

end ManagerSpec

/-- The backend as a HID layer. -/
def osxHid (target : Target) : HidLayer (OsxWorld D) where
  toTarget := target
  usbhidEnumDevices := usbhidEnumDevices env target
  usbhidCloseDevice := usbhidCloseDevice
  usbhidGetVendorString := usbhidGetVendorString env
  usbhidGetProductString := usbhidGetProductString env
  usbhidSetReport := usbhidSetReport env target.plainCharSigned
  usbhidGetReport := usbhidGetReport env

end Backend

end UsbIo16.OsxBackend
