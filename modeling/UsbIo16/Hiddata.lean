import UsbIo16.ByteBuffer

/-!
# The HID abstraction layer

The interface of `hiddata.h`: error codes, opaque device handles and the
six entry points every backend provides. A backend acts on a world of its
own; a call returns the reply and the world after it. The library above is
written against this interface only, so each of its results can be read at
any backend.
-/

namespace UsbIo16.Hiddata

open ByteBuffer

/-- Machine addresses and opaque handles: zero is NULL, minus one is the
all-ones word that marks an invalid handle. -/
abbrev Ptr := ℤ

/-- Access or permissions error. -/
def USBHID_ERR_ACCESS : ℤ := 1
/-- I/O error. -/
def USBHID_ERR_IO : ℤ := 2
/-- Device not found. -/
def USBHID_ERR_NOTFOUND : ℤ := 3
/-- Invalid parameter. -/
def USBHID_ERR_BAD_ARG : ℤ := 20
/-- I/O error at the HID layer. -/
def USBHID_ERR_IO_HID : ℤ := 25

/-- What a string query leaves behind: error code, the caller's buffer and the world. -/
structure StringReply (W : Type) where
  /-- Zero on success. -/
  err : ℤ
  /-- The caller's buffer after the call. -/
  buffer : List Byte
  /-- The world after the call. -/
  world : W

/-- What `usbhidGetReport` leaves behind. -/
structure ReportReply (W : Type) where
  /-- Zero on success. -/
  err : ℤ
  /-- The caller's buffer after the call. -/
  buffer : List Byte
  /-- The caller's length variable after the call. -/
  len : ℤ
  /-- The world after the call. -/
  world : W

/-- What `usbhidSetReport` leaves behind; the caller's buffer is only read. -/
structure SendReply (W : Type) where
  /-- Zero on success. -/
  err : ℤ
  /-- The world after the call. -/
  world : W

/-- What an enumeration callback leaves behind: its answer, the context
it was given and the world it acted on. -/
structure CallbackReply (α W : Type) where
  /-- Zero asks the enumeration to stop. -/
  answer : ℤ
  /-- The object behind the context pointer, after the call. -/
  context : α
  /-- The world after the call. -/
  world : W

/-- What an enumeration leaves behind. -/
structure EnumReply (α W : Type) where
  /-- Zero on success. -/
  err : ℤ
  /-- The object behind the context pointer, after all calls. -/
  context : α
  /-- The world after the enumeration. -/
  world : W

/-- A callback of `usbhidEnumDevices`: it gets a handle and the context. -/
abbrev EnumFunc (α W : Type) := Ptr → α → W → CallbackReply α W

/-- What the C implementation leaves to the target platform. -/
structure Target where
  /-- Whether plain `char` is signed. -/
  plainCharSigned : Bool
  /-- What the cells of an uninitialised automatic array hold. -/
  indeterminate : ℕ → Byte

/-- The entry points of `hiddata.h` over a backend's world, with the
target the library is compiled for. -/
structure HidLayer (W : Type) extends Target where
  /-- Enumerate the devices with this vendor and product, handing each to the callback. -/
  usbhidEnumDevices : {α : Type} → ℤ → ℤ → α → EnumFunc α W → W → EnumReply α W
  /-- Close a handle passed to the callback. -/
  usbhidCloseDevice : Ptr → W → W
  /-- Read the vendor string into a buffer of the given length. -/
  usbhidGetVendorString : Ptr → List Byte → ℤ → W → StringReply W
  /-- Read the product string into a buffer of the given length. -/
  usbhidGetProductString : Ptr → List Byte → ℤ → W → StringReply W
  /-- Send a feature report, its ID in the first byte of the buffer. -/
  usbhidSetReport : Ptr → List Byte → ℤ → W → SendReply W
  /-- Read the feature report with this ID into a buffer of the given length. -/
  usbhidGetReport : Ptr → ℤ → List Byte → ℤ → W → ReportReply W

section Clients

variable {W : Type} (hid : HidLayer W)

/-- One use of an open handle: a string query or a report transfer. -/
inductive HandleUse (u : Ptr) : W → W → Prop
  | vendor (buf : List Byte) (len : ℤ) (w : W) :
      HandleUse u w (hid.usbhidGetVendorString u buf len w).world
  | product (buf : List Byte) (len : ℤ) (w : W) :
      HandleUse u w (hid.usbhidGetProductString u buf len w).world
  | send (buf : List Byte) (len : ℤ) (w : W) : HandleUse u w (hid.usbhidSetReport u buf len w).world
  | receive (id : ℤ) (buf : List Byte) (len : ℤ) (w : W) :
      HandleUse u w (hid.usbhidGetReport u id buf len w).world

/-- One step of a client that holds handles: `hiddata.h` lets the owner of a
handle probe the device and close it. -/
inductive ClientStep : W → W → Prop
  | close (u : Ptr) (w : W) : ClientStep w (hid.usbhidCloseDevice u w)
  | use (u : Ptr) {w v : W} (h : HandleUse hid u w v) : ClientStep w v

end Clients

end UsbIo16.Hiddata
