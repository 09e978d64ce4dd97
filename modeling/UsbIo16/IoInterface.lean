import Mathlib.Data.List.FinRange
import Mathlib.Logic.Function.Basic
import UsbIo16.Hiddata

/-!
# The I/O card library

The functions of `usb_io_interface.c` over an arbitrary HID layer: report
transfer, the enumeration callback that builds the device list, the list
operations and the pin functions. Device nodes live in a heap of their
own; a pointer that leads to no node makes a pin function undefined, which
the result type shows as the absence of a result.
-/

namespace UsbIo16.IoInterface

open ByteBuffer Hiddata

/-- Vendor id of the obdev shared pair. -/
def USB_CFG_VENDOR_ID : ℤ := 0x16c0
/-- Product id of the obdev shared pair. -/
def USB_CFG_DEVICE_ID : ℤ := 0x05DF
/-- The real vendor of the card. -/
def USB_IO16_VENDOR_NAME : List Byte := ascii "www.dcttech.com"
/-- The real product name of the card. -/
def USB_IO16_NAME : List Byte := ascii "USBIO"
/-- Length of the unique id in the devices. -/
def USB_IO16_ID_STR_LEN : ℕ := 4
/-- Number of pins of a card. -/
def USB_IO16_MAX_PIN_NUM : ℕ := 16

/-- `enum pin_mode`. -/
def INPUT_MODE : BitVec 32 := 0
/-- `enum pin_mode`. -/
def OUTPUT_MODE : BitVec 32 := 1

/-- What is known of one pin, as returned to the caller. -/
@[ext] structure PinInfo where
  pinIndex : BitVec 32
  pinMode : BitVec 32
  pinValue : BitVec 32
  deriving DecidableEq

/-- A node of the device list: the public part, then the private part.
`serial_number` holds the address of the node whose `idstr` it points to. -/
structure UsbIoInternal where
  serial_number : Ptr
  device_path : List Byte
  next : Ptr
  resv_p : ℤ
  usbh : Ptr
  type : ℤ
  idstr : List Byte

/-- The context of the enumeration callback. -/
structure Enumctx where
  head : Ptr
  tail : Ptr
  numdevs : ℤ
  status : ℤ

/-- The path returned for every device. -/
def g_dummyPath : List Byte := ascii "NOTHING"

/-- The node heap. The n-th `calloc` fails when `fails n` says so, and
otherwise returns an address that was never returned before. -/
structure Heap where
  /-- The nodes now allocated. -/
  cell : Ptr → Option UsbIoInternal
  /-- Number of `calloc` calls so far. -/
  calls : ℕ
  /-- Which calls fail. -/
  fails : ℕ → Bool

/-- A heap before any call. -/
def Heap.empty (fails : ℕ → Bool) : Heap := ⟨fun _ => none,0,fails⟩

/-- A node of zero bytes. -/
def zeroNode : UsbIoInternal := ⟨0,[],0,0,0,0,List.replicate (USB_IO16_ID_STR_LEN+1) 0#8⟩

/-- `calloc(1, sizeof(struct usb_io_internal_s))`. -/
def Heap.calloc (heap : Heap) : Ptr×Heap :=
  if heap.fails heap.calls=true then (0,{heap with calls := heap.calls+1})
  else
    let q : Ptr := (heap.calls : ℤ)+1
    (q,{heap with cell := Function.update heap.cell q (some zeroNode),calls := heap.calls+1})

/-- Store a node at an allocated address. -/
def Heap.store (heap : Heap) (q : Ptr) (n : UsbIoInternal) : Heap :=
  {heap with cell := Function.update heap.cell q (some n)}

/-- `p->urdi.next = q`. Where `p` leads to no node nothing is stored; the
list invariant shows that this does not happen. -/
def Heap.setNext (heap : Heap) (p q : Ptr) : Heap :=
  match heap.cell p with
  | none => heap
  | some n => heap.store p {n with next := q}

/-- `free(p)`; undefined unless `p` was allocated and not freed. -/
def Heap.free (heap : Heap) (p : Ptr) : Option Heap :=
  match heap.cell p with
  | none => none
  | some _ => some {heap with cell := Function.update heap.cell p none}

section Transfers

variable {W : Type} (hid : HidLayer W)

/-- Outcome of `d16_read_rep`: status, the caller's array and the world. -/
structure ReadRepReply (W : Type) where
  ret : ℤ
  raw_data : Option (List Byte)
  world : W

/-- Read HID report. -/
def d16ReadRep (dev : Ptr) (reportnum : ℤ) (raw_data : Option (List Byte)) (w : W) :
    ReadRepReply W :=
  let r := hid.usbhidGetReport dev reportnum (List.replicate 10 0#8) (8+1) w
  if r.err≠0 then ⟨-1,raw_data,r.world⟩
  else if r.len≠9 ∨ charValue hid.plainCharSigned (r.buffer.getD 0 0#8)≠reportnum then
    ⟨-2,raw_data,r.world⟩
  else ⟨0,raw_data.map fun raw => writeAt raw 0 (r.buffer.take r.len.toNat),r.world⟩

/-- Write HID report. The report number goes into the first byte of the
caller's buffer. -/
def d16WriteRep (dev : Ptr) (reportnum : ℤ) (buffer : List Byte) (w : W) : SendReply W :=
  let r := hid.usbhidSetReport dev (buffer.set 0 (charOf reportnum)) (8+1) w
  if r.err≠0 then ⟨-1,r.world⟩ else ⟨r.err,r.world⟩

section Spec

variable {hid} {dev : Ptr} {w : W} {r : ReportReply W}

/-- A transfer error makes the read fail and leaves the caller's array alone. -/
theorem d16ReadRep_err (hr : hid.usbhidGetReport dev 0 (List.replicate 10 0#8) (8+1) w=r)
    (he : r.err≠0) (raw_data : Option (List Byte)) :
    d16ReadRep hid dev 0 raw_data w=⟨-1,raw_data,r.world⟩ := by
  subst hr
  exact if_pos he

/-- A wrong length or report id makes the read fail and leaves the caller's
array alone. -/
theorem d16ReadRep_bad (hr : hid.usbhidGetReport dev 0 (List.replicate 10 0#8) (8+1) w=r)
    (he : r.err=0) (hb : ¬(r.len=9 ∧ r.buffer.getD 0 0#8=0#8)) (raw_data : Option (List Byte)) :
    d16ReadRep hid dev 0 raw_data w=⟨-2,raw_data,r.world⟩ := by
  subst hr
  have hc : (hid.usbhidGetReport dev 0 (List.replicate 10 0#8) (8+1) w).len≠9 ∨
      charValue hid.plainCharSigned
        ((hid.usbhidGetReport dev 0 (List.replicate 10 0#8) (8+1) w).buffer.getD 0 0#8)≠0 := by
    rw [ne_eq,ne_eq,charValue_eq_zero,←not_and_or]
    exact hb
  rw [d16ReadRep]
  exact (if_neg (not_not.mpr he)).trans (if_pos hc)

/-- A read of nine bytes with report id zero stores them in the caller's array. -/
theorem d16ReadRep_ok (hr : hid.usbhidGetReport dev 0 (List.replicate 10 0#8) (8+1) w=r)
    (he : r.err=0) (h9 : r.len=9) (h0 : r.buffer.getD 0 0#8=0#8) (raw_data : Option (List Byte)) :
    d16ReadRep hid dev 0 raw_data w=
      ⟨0,raw_data.map fun raw => writeAt raw 0 (r.buffer.take 9),r.world⟩ := by
  subst hr
  have hc : ¬((hid.usbhidGetReport dev 0 (List.replicate 10 0#8) (8+1) w).len≠9 ∨
      charValue hid.plainCharSigned
        ((hid.usbhidGetReport dev 0 (List.replicate 10 0#8) (8+1) w).buffer.getD 0 0#8)≠0) := by
    rw [ne_eq,ne_eq,charValue_eq_zero,←not_and_or,not_not]
    exact ⟨h9,h0⟩
  have hn : (hid.usbhidGetReport dev 0 (List.replicate 10 0#8) (8+1) w).len.toNat=9 := by
    rw [h9]
    rfl
  rw [d16ReadRep]
  refine ((if_neg (not_not.mpr he)).trans (if_neg hc)).trans ?_
  simp only [hn]

/-- A read passes its world through the HID layer once. -/
theorem d16ReadRep_world (raw_data : Option (List Byte)) :
    (d16ReadRep hid dev 0 raw_data w).world=
      (hid.usbhidGetReport dev 0 (List.replicate 10 0#8) (8+1) w).world := by
  by_cases he : (hid.usbhidGetReport dev 0 (List.replicate 10 0#8) (8+1) w).err=0
  · by_cases hb : (hid.usbhidGetReport dev 0 (List.replicate 10 0#8) (8+1) w).len=9 ∧
        (hid.usbhidGetReport dev 0 (List.replicate 10 0#8) (8+1) w).buffer.getD 0 0#8=0#8
    · rw [d16ReadRep_ok rfl he hb.1 hb.2]
    · rw [d16ReadRep_bad rfl he hb]
  · rw [d16ReadRep_err rfl he]

variable {buffer : List Byte} {s : SendReply W}

/-- A transfer error makes the write fail. -/
theorem d16WriteRep_err (hr : hid.usbhidSetReport dev (buffer.set 0 (charOf 0)) (8+1) w=s)
    (he : s.err≠0) : d16WriteRep hid dev 0 buffer w=⟨-1,s.world⟩ := by
  subst hr
  exact if_pos he

/-- Without a transfer error the write succeeds. -/
theorem d16WriteRep_ok (hr : hid.usbhidSetReport dev (buffer.set 0 (charOf 0)) (8+1) w=s)
    (he : s.err=0) : d16WriteRep hid dev 0 buffer w=⟨0,s.world⟩ := by
  subst hr
  rw [d16WriteRep]
  refine (if_neg (not_not.mpr he)).trans ?_
  simp only [he]

/-- A write passes its world through the HID layer once. -/
theorem d16WriteRep_world :
    (d16WriteRep hid dev 0 buffer w).world=
      (hid.usbhidSetReport dev (buffer.set 0 (charOf 0)) (8+1) w).world := by
  by_cases he : (hid.usbhidSetReport dev (buffer.set 0 (charOf 0)) (8+1) w).err=0
  · rw [d16WriteRep_ok rfl he]
  · rw [d16WriteRep_err rfl he]

end Spec

/-- The id test of `enumfunc`: the bytes after the report id are printable ASCII. -/
def goodId (buffer : List Byte) : Bool :=
  (List.range' 1 USB_IO16_ID_STR_LEN).all fun i =>
    let x := (buffer.getD i 0#8).toNat
    !(decide (x≤0x20) || decide (0x7F≤x))

/-- Enum function for building list of devices. -/
def enumfunc (usbh : Ptr) (context : Enumctx×Heap) (w : W) : CallbackReply (Enumctx×Heap) W :=
  let ectx := context.1
  -- label `next`: close the device and continue the search
  let next := fun (heap : Heap) (w : W) =>
    (⟨1,(ectx,heap),hid.usbhidCloseDevice usbh w⟩ : CallbackReply (Enumctx×Heap) W)
  let buffer := (List.range 256).map hid.indeterminate
  let v := hid.usbhidGetVendorString usbh buffer 256 w
  if v.err≠0 then next context.2 v.world
  else if strcmp v.buffer USB_IO16_VENDOR_NAME≠0 then next context.2 v.world
  else
    let p := hid.usbhidGetProductString usbh v.buffer 256 v.world
    if p.err≠0 then next context.2 p.world
    else if strcmp p.buffer USB_IO16_NAME≠0 then next context.2 p.world
    else
      let r := d16ReadRep hid usbh 0 (some p.buffer) p.world
      let id := r.raw_data.getD []
      if r.ret<0 then next context.2 r.world
      else if goodId id=false then next context.2 r.world
      else
        let q := context.2.calloc.1
        let heap := context.2.calloc.2
        if q=0 then next heap r.world
        else
          let heap := heap.store q
            {zeroNode with
              usbh := usbh
              idstr := writeAt zeroNode.idstr 0 ((id.drop 1).take USB_IO16_ID_STR_LEN)
              type := 16
              serial_number := q
              device_path := g_dummyPath}
          if ectx.head=0 then
            ⟨1,({ectx with head := q,tail := q,numdevs := ectx.numdevs+1},heap),r.world⟩
          else
            ⟨1,({ectx with tail := q,numdevs := ectx.numdevs+1},heap.setNext ectx.tail q),r.world⟩

end Transfers

section Lists

variable {W : Type} (hid : HidLayer W)

/-- Enumerate the devices: the head of the new list, the heap and the world. -/
def usbIoGetDeviceList (heap : Heap) (w : W) : Ptr×Heap×W :=
  let r := hid.usbhidEnumDevices USB_CFG_VENDOR_ID USB_CFG_DEVICE_ID
    (⟨0,0,0,0⟩,heap) (enumfunc hid) w
  (r.context.1.head,r.context.2,r.world)

/-- The loop of `usb_io_free_device_list`, for at most `fuel` nodes. The
result is missing when the loop reads or frees a node that is not
allocated, or when nodes are left after the fuel. -/
def freeLoop : ℕ → Ptr → Heap → W → Option (Heap×W)
  | 0,p,heap,w => if p=0 then some (heap,w) else none
  | fuel+1,p,heap,w =>
    if p=0 then some (heap,w)
    else
      (heap.cell p).bind fun n =>
        let q := n.next
        let w := if n.usbh≠0 ∧ n.usbh≠-1 then hid.usbhidCloseDevice n.usbh w else w
        (heap.free p).bind fun heap => freeLoop fuel q heap w

/-- Free an enumeration linked list. Every round frees a node, so there are
never more rounds than nodes were allocated. -/
def usbIoFreeDeviceList (dilist : Ptr) (heap : Heap) (w : W) : Option (Heap×W) :=
  freeLoop hid heap.calls dilist heap w

/-- Open a device. The handle is the address of the node. -/
def usbIoOpenDevice (device_info : Ptr) (heap : Heap) : Option Ptr :=
  if device_info=0 then some 0
  else
    (heap.cell device_info).map fun p =>
      if p.usbh=0 ∨ p.usbh=-1 then 0 else device_info

/-- The search loop of `usb_io_device_open_with_serial_number`, for at most
`fuel` nodes. -/
def serialLoop (serial_number : List Byte) : ℕ → Ptr → Heap → Option Ptr
  | 0,tmp,_ => if tmp=0 then some 0 else none
  | fuel+1,tmp,heap =>
    if tmp=0 then some 0
    else
      (heap.cell tmp).bind fun n =>
        (heap.cell n.serial_number).bind fun s =>
          if strcmp s.idstr serial_number≠0 then serialLoop serial_number fuel n.next heap
          else usbIoOpenDevice tmp heap

/-- Open device by serial number. -/
def usbIoDeviceOpenWithSerialNumber (dev_list : Ptr) (serial_number : Option (List Byte))
    (heap : Heap) : Option Ptr :=
  match serial_number with
  | none => some 0
  | some s => if dev_list=0 then some 0 else serialLoop s heap.calls dev_list heap

/-- Close a device: nothing happens, all detected devices stay open. -/
def usbIoCloseDevice (_hHandle : Ptr) (heap : Heap) (w : W) : Heap×W := (heap,w)

end Lists

section Pins

variable {W : Type} (hid : HidLayer W)

/-- `!!x` as a `char`. -/
def flag (x : BitVec 32) : Byte := if x=0#32 then 0#8 else 1#8

/-- Set the work LED. The handle is used without a check. -/
def usbIoSetWorkLedMode (heap : Heap) (hHandle : Ptr) (led_mode : BitVec 32) (w : W) :
    Option (SendReply W) :=
  let buf := (List.replicate 9 0#8).set 1 0xF8#8
  let buf := if led_mode≠0#32 then buf.set 2 1#8 else buf
  (heap.cell hHandle).map fun p => d16WriteRep hid p.usbh 0 buf w

/-- Set mode and pull-up of a pin. -/
def usbIoSetPinMode (heap : Heap) (hHandle : Ptr) (pinIndex mode innerPullUp : BitVec 32) (w : W) :
    Option (SendReply W) :=
  if hHandle=0 then some ⟨1,w⟩
  else if USB_IO16_MAX_PIN_NUM≤pinIndex.toNat then some ⟨2,w⟩
  else
    let buf := List.replicate 9 0#8
    let buf := buf.set 1 0xFF#8
    let buf := buf.set 2 (pinIndex.setWidth 8)
    let buf := buf.set 3 (flag mode)
    let buf := buf.set 4 (flag innerPullUp)
    (heap.cell hHandle).map fun p => d16WriteRep hid p.usbh 0 buf w

/-- Set the output level of a pin. -/
def usbIoWriteOutputPinValue (heap : Heap) (hHandle : Ptr) (pinIndex level : BitVec 32) (w : W) :
    Option (SendReply W) :=
  if hHandle=0 then some ⟨1,w⟩
  else if USB_IO16_MAX_PIN_NUM≤pinIndex.toNat then some ⟨2,w⟩
  else
    let buf := List.replicate 9 0#8
    let buf := buf.set 1 0xFD#8
    let buf := buf.set 2 (pinIndex.setWidth 8)
    let buf := buf.set 3 (flag level)
    (heap.cell hHandle).map fun p => d16WriteRep hid p.usbh 0 buf w

/-- A plain `char` promoted to `int`. -/
def promote (b : Byte) : BitVec 32 := BitVec.ofInt 32 (charValue hid.plainCharSigned b)

/-- `(b >> k) & 1` on a plain `char`; the shift of a negative value keeps its sign. -/
def bitAt (b : Byte) (k : ℕ) : BitVec 32 := (promote hid b).sshiftRight k &&& 1#32

/-- Outcome of `usb_io_read_input_pin_value`; `level` is the caller's
variable, absent for a null pointer. -/
structure LevelReply (W : Type) where
  ret : ℤ
  level : Option (BitVec 32)
  world : W

/-- Read the level of a pin. -/
def usbIoReadInputPinValue (heap : Heap) (hHandle : Ptr) (pinIndex : BitVec 32)
    (level : Option (BitVec 32)) (w : W) : Option (LevelReply W) :=
  if hHandle=0 then some ⟨-1,level,w⟩
  else if USB_IO16_MAX_PIN_NUM≤pinIndex.toNat then some ⟨-2,level,w⟩
  else
    match level with
    | none => some ⟨-1,none,w⟩
    | some old =>
      (heap.cell hHandle).map fun p =>
        let r := d16ReadRep hid p.usbh 0 (some (List.replicate 9 0#8)) w
        let buf := r.raw_data.getD []
        if r.ret≠0 then ⟨-3,some old,r.world⟩
        else
          -- pin state: buf[8] pins 0-7, buf[7] pins 8-15
          let val := if pinIndex.toNat<8 then bitAt hid (buf.getD 8 0#8) pinIndex.toNat
            else bitAt hid (buf.getD 7 0#8) (pinIndex.toNat-8)
          ⟨0,some val,r.world⟩

/-- The caller's array of pin descriptions. -/
abbrev PinInfos := Fin USB_IO16_MAX_PIN_NUM → PinInfo

/-- Outcome of `usb_io_get_all_pin_info`; `info` is the caller's array,
absent for a null pointer. -/
structure PinInfoReply (W : Type) where
  ret : ℤ
  info : Option PinInfos
  world : W

/-- One round of the decoding loops: pin `k` from bit `i` of the two bytes. -/
def fillPin (value mode : Byte) (i : ℕ) (k : Fin USB_IO16_MAX_PIN_NUM) (info : PinInfos) : PinInfos :=
  Function.update info k
    ⟨BitVec.ofNat 32 k,if bitAt hid mode i≠0#32 then OUTPUT_MODE else INPUT_MODE,bitAt hid value i⟩

/-- Read mode and level of all pins. The handle is used without a check. -/
def usbIoGetAllPinInfo (heap : Heap) (hHandle : Ptr) (info : Option PinInfos) (w : W) :
    Option (PinInfoReply W) :=
  match info with
  | none => some ⟨-1,none,w⟩
  | some old =>
    (heap.cell hHandle).map fun p =>
      let r := d16ReadRep hid p.usbh 0 (some (List.replicate 9 0#8)) w
      let buf := r.raw_data.getD []
      if r.ret≠0 then ⟨-3,some old,r.world⟩
      else
        let pins := List.finRange USB_IO16_MAX_PIN_NUM
        -- k = 0..7: state in buf[8], mode in buf[6]
        let info := (pins.take 8).foldl
          (fun info k => fillPin hid (buf.getD 8 0#8) (buf.getD 6 0#8) k.val k info) old
        -- k = 8..15: state in buf[7], mode in buf[5]
        let info := (pins.drop 8).foldl
          (fun info k => fillPin hid (buf.getD 7 0#8) (buf.getD 5 0#8) (k.val-8) k info) info
        ⟨0,some info,r.world⟩

/-- The handle of a node that is allocated. -/
structure LiveHandle (heap : Heap) (hHandle : Ptr) (p : UsbIoInternal) : Prop where
  /-- The handle is not the failure value. -/
  nonzero : hHandle≠0
  /-- It leads to the node. -/
  cell : heap.cell hHandle=some p

/-- The report sent to switch the LED. -/
def ledReport (led_mode : BitVec 32) : List Byte :=
  [0#8,0xF8#8,flag led_mode,0#8,0#8,0#8,0#8,0#8,0#8]

/-- The report sent to set mode and pull-up of a pin. -/
def pinModeReport (pinIndex mode innerPullUp : BitVec 32) : List Byte :=
  [0#8,0xFF#8,pinIndex.setWidth 8,flag mode,flag innerPullUp,0#8,0#8,0#8,0#8]

/-- The report sent to set the level of a pin. -/
def pinLevelReport (pinIndex level : BitVec 32) : List Byte :=
  [0#8,0xFD#8,pinIndex.setWidth 8,flag level,0#8,0#8,0#8,0#8,0#8]

variable {hid} {heap : Heap} {hHandle : Ptr} {p : UsbIoInternal}

/-- On a live handle the LED call writes its report. -/
theorem usbIoSetWorkLedMode_live (hlive : LiveHandle heap hHandle p) (led_mode : BitVec 32) (w : W) :
    usbIoSetWorkLedMode hid heap hHandle led_mode w=
      some (d16WriteRep hid p.usbh 0 (ledReport led_mode) w) := by
  have hb : (if led_mode≠0#32 then ((List.replicate 9 0#8).set 1 0xF8#8).set 2 1#8
      else (List.replicate 9 0#8).set 1 0xF8#8)=ledReport led_mode := by
    by_cases hm : led_mode=0#32
    · simp only [hm,ledReport,flag]
      rfl
    · simp only [ledReport,flag,if_pos hm,if_neg hm]
      rfl
  simp only [usbIoSetWorkLedMode,hb,hlive.cell,Option.map_some]

/-- A pin out of range is rejected before anything is sent. -/
theorem usbIoSetPinMode_range (hh : hHandle≠0) {pinIndex : BitVec 32}
    (hp : ¬pinIndex.toNat<USB_IO16_MAX_PIN_NUM) (mode innerPullUp : BitVec 32) (w : W) :
    usbIoSetPinMode hid heap hHandle pinIndex mode innerPullUp w=some ⟨2,w⟩ := by
  simp only [usbIoSetPinMode,if_neg hh,if_pos (not_lt.mp hp)]

/-- On a live handle and a pin in range the mode call writes its report. -/
theorem usbIoSetPinMode_live (hlive : LiveHandle heap hHandle p) {pinIndex : BitVec 32}
    (hp : pinIndex.toNat<USB_IO16_MAX_PIN_NUM) (mode innerPullUp : BitVec 32) (w : W) :
    usbIoSetPinMode hid heap hHandle pinIndex mode innerPullUp w=
      some (d16WriteRep hid p.usbh 0 (pinModeReport pinIndex mode innerPullUp) w) := by
  simp only [usbIoSetPinMode,if_neg hlive.nonzero,if_neg (not_le.mpr hp),hlive.cell,Option.map_some]
  rfl

/-- A pin out of range is rejected before anything is sent. -/
theorem usbIoWriteOutputPinValue_range (hh : hHandle≠0) {pinIndex : BitVec 32}
    (hp : ¬pinIndex.toNat<USB_IO16_MAX_PIN_NUM) (level : BitVec 32) (w : W) :
    usbIoWriteOutputPinValue hid heap hHandle pinIndex level w=some ⟨2,w⟩ := by
  simp only [usbIoWriteOutputPinValue,if_neg hh,if_pos (not_lt.mp hp)]

/-- On a live handle and a pin in range the level call writes its report. -/
theorem usbIoWriteOutputPinValue_live (hlive : LiveHandle heap hHandle p) {pinIndex : BitVec 32}
    (hp : pinIndex.toNat<USB_IO16_MAX_PIN_NUM) (level : BitVec 32) (w : W) :
    usbIoWriteOutputPinValue hid heap hHandle pinIndex level w=
      some (d16WriteRep hid p.usbh 0 (pinLevelReport pinIndex level) w) := by
  simp only [usbIoWriteOutputPinValue,if_neg hlive.nonzero,if_neg (not_le.mpr hp),hlive.cell,
    Option.map_some]
  rfl

variable {r : ReadRepReply W} {w : W}

/-- The level of a pin in a report: pins 0-7 in the last byte, pins 8-15 in
the byte before. -/
def levelIn (hid : HidLayer W) (buf : List Byte) (pinIndex : BitVec 32) : BitVec 32 :=
  if pinIndex.toNat<8 then bitAt hid (buf.getD 8 0#8) pinIndex.toNat
  else bitAt hid (buf.getD 7 0#8) (pinIndex.toNat-8)

/-- A pin out of range is rejected before anything is read. -/
theorem usbIoReadInputPinValue_range (hh : hHandle≠0) {pinIndex : BitVec 32}
    (hp : ¬pinIndex.toNat<USB_IO16_MAX_PIN_NUM) (level : Option (BitVec 32)) :
    usbIoReadInputPinValue hid heap hHandle pinIndex level w=some ⟨-2,level,w⟩ := by
  simp only [usbIoReadInputPinValue,if_neg hh,if_pos (not_lt.mp hp)]

/-- A null level pointer is rejected before anything is read. -/
theorem usbIoReadInputPinValue_null (hh : hHandle≠0) {pinIndex : BitVec 32}
    (hp : pinIndex.toNat<USB_IO16_MAX_PIN_NUM) :
    usbIoReadInputPinValue hid heap hHandle pinIndex none w=some ⟨-1,none,w⟩ := by
  simp only [usbIoReadInputPinValue,if_neg hh,if_neg (not_le.mpr hp)]

/-- A failed read leaves the level variable alone. -/
theorem usbIoReadInputPinValue_fail (hlive : LiveHandle heap hHandle p) {pinIndex : BitVec 32}
    (hp : pinIndex.toNat<USB_IO16_MAX_PIN_NUM) (old : BitVec 32)
    (hr : d16ReadRep hid p.usbh 0 (some (List.replicate 9 0#8)) w=r) (he : r.ret≠0) :
    usbIoReadInputPinValue hid heap hHandle pinIndex (some old) w=some ⟨-3,some old,r.world⟩ := by
  simp only [usbIoReadInputPinValue,if_neg hlive.nonzero,if_neg (not_le.mpr hp),hlive.cell,
    Option.map_some,hr,if_pos he]

/-- A successful read stores the level found in the report. -/
theorem usbIoReadInputPinValue_ok (hlive : LiveHandle heap hHandle p) {pinIndex : BitVec 32}
    (hp : pinIndex.toNat<USB_IO16_MAX_PIN_NUM) (old : BitVec 32)
    (hr : d16ReadRep hid p.usbh 0 (some (List.replicate 9 0#8)) w=r) (he : r.ret=0) :
    usbIoReadInputPinValue hid heap hHandle pinIndex (some old) w=
      some ⟨0,some (levelIn hid (r.raw_data.getD []) pinIndex),r.world⟩ := by
  simp only [usbIoReadInputPinValue,if_neg hlive.nonzero,if_neg (not_le.mpr hp),hlive.cell,
    Option.map_some,hr,if_neg (not_not.mpr he)]
  rfl

/-- The array after both decoding loops over a report. -/
def decodePins (hid : HidLayer W) (buf : List Byte) (old : PinInfos) : PinInfos :=
  let pins := List.finRange USB_IO16_MAX_PIN_NUM
  (pins.drop 8).foldl (fun info k => fillPin hid (buf.getD 7 0#8) (buf.getD 5 0#8) (k.val-8) k info)
    ((pins.take 8).foldl (fun info k => fillPin hid (buf.getD 8 0#8) (buf.getD 6 0#8) k.val k info) old)

/-- A failed read leaves the pin array alone. -/
theorem usbIoGetAllPinInfo_fail (hlive : LiveHandle heap hHandle p) (old : PinInfos)
    (hr : d16ReadRep hid p.usbh 0 (some (List.replicate 9 0#8)) w=r) (he : r.ret≠0) :
    usbIoGetAllPinInfo hid heap hHandle (some old) w=some ⟨-3,some old,r.world⟩ := by
  simp only [usbIoGetAllPinInfo,hlive.cell,Option.map_some,hr,if_pos he]

/-- A successful read decodes the report into the pin array. -/
theorem usbIoGetAllPinInfo_ok (hlive : LiveHandle heap hHandle p) (old : PinInfos)
    (hr : d16ReadRep hid p.usbh 0 (some (List.replicate 9 0#8)) w=r) (he : r.ret=0) :
    usbIoGetAllPinInfo hid heap hHandle (some old) w=
      some ⟨0,some (decodePins hid (r.raw_data.getD []) old),r.world⟩ := by
  simp only [usbIoGetAllPinInfo,hlive.cell,Option.map_some,hr,if_neg (not_not.mpr he)]
  rfl

end Pins

end UsbIo16.IoInterface
