import UsbIo16.ListSessions

/-!
# Calls on the result of a failed open

Opening a device gives a node of the list, or NULL when it fails. A client
that goes on without looking hands NULL to the next call. Most calls look at
their handle first and refuse it with an error; the LED call never does, and
the call for all pins only looks at its array. These two read the node of
the handle at once, and with NULL the program does not survive them.
-/

namespace UsbIo16.NullHandles

open ByteBuffer Hiddata IoInterface DeviceList DeviceVisits PinCalls Backends ListSessions

section Calls

/-- A call that takes a handle, with all its other arguments. -/
inductive HandleCall where
  | pin (c : PinCall)
  | closeDevice

/-- What such a call leaves behind. -/
structure HandleOutcome (W : Type) where
  /-- The returned status, for calls that return one. -/
  status : Option ℤ
  /-- The caller's level variable, where the call takes one. -/
  level : Option (BitVec 32)
  /-- The caller's pin array, where the call takes one. -/
  info : Option PinInfos
  /-- The world after the call. -/
  world : W

/-- The level variable before the call. -/
def HandleCall.level : HandleCall → Option (BitVec 32)
  | pin c => c.level
  | closeDevice => none

/-- The pin array before the call. -/
def HandleCall.info : HandleCall → Option PinInfos
  | pin c => c.info
  | closeDevice => none

/-- Execute a call on a handle. -/
def HandleCall.run {W : Type} (hid : HidLayer W) (heap : Heap) (hHandle : Ptr) (w : W) :
    HandleCall → Option (HandleOutcome W)
  | pin c => (c.run hid heap hHandle w).map fun r => ⟨some r.ret,r.level,r.info,r.world⟩
  | closeDevice => some ⟨none,none,none,(usbIoCloseDevice hHandle heap w).2⟩

/-- The calls that do not read the node of a handle that is NULL: the LED
call does, and the call for all pins does when its array is not NULL. -/
def HandleCall.Guarded : HandleCall → Prop
  | pin (.setWorkLedMode _) => False
  | pin (.getAllPinInfo info) => info=none
  | _ => True

/-- An error is returned, if anything is, and nothing else has happened. -/
structure Refused {W : Type} (op : HandleCall) (w : W) (r : HandleOutcome W) : Prop where
  /-- The status is not zero. -/
  status : ∀ ret,r.status=some ret → ret≠0
  /-- The world is as it was. -/
  world : r.world=w
  /-- So is the caller's level variable, … -/
  level : r.level=op.level
  /-- … and the pin array. -/
  info : r.info=op.info

/-- The call survives this handle, and refuses it without a transfer if it is NULL. -/
def HandleCall.NullSafe {W : Type} (op : HandleCall) (hid : HidLayer W) (heap : Heap) (hHandle : Ptr)
    (w : W) : Prop :=
  ∃ r,op.run (logged hid) heap hHandle (w,[])=some r ∧ (hHandle=0 → Refused op (w,[]) r)

variable {W : Type} {hid : HidLayer W} {heap : Heap} {hHandle : Ptr} {w : W} {op : HandleCall}

/-- A pin call that looks at its handle refuses NULL. -/
theorem pinCall_refused {c : PinCall} (hg : (HandleCall.pin c).Guarded) :
    ∃ ret,ret≠0 ∧ c.run hid heap 0 w=some ⟨ret,c.level,c.info,w⟩ := by
  have hone : (1 : ℤ)≠0 := by decide
  have hneg : (-1 : ℤ)≠0 := by decide
  cases c with
  | setWorkLedMode led_mode => exact absurd hg id
  | setPinMode pinIndex mode innerPullUp => exact ⟨1,hone,rfl⟩
  | writeOutputPinValue pinIndex level => exact ⟨1,hone,rfl⟩
  | readInputPinValue pinIndex level => exact ⟨-1,hneg,rfl⟩
  | getAllPinInfo info =>
    obtain rfl : info=none := hg
    exact ⟨-1,hneg,rfl⟩

/-- Every call that looks at its handle refuses NULL. -/
theorem run_refused (hg : op.Guarded) : ∃ r,op.run hid heap 0 w=some r ∧ Refused op w r := by
  cases op with
  | pin c =>
    obtain ⟨ret,hne,hrun⟩ := pinCall_refused hg
    refine ⟨⟨some ret,c.level,c.info,w⟩,?_,?_,rfl,rfl,rfl⟩
    · rw [HandleCall.run,hrun,Option.map_some]
    · intro ret' hret
      obtain rfl := Option.some.inj hret
      exact hne
  | closeDevice => exact ⟨⟨none,none,none,w⟩,rfl,fun ret hret => (nomatch hret),rfl,rfl,rfl⟩

/-- The others read the node at NULL. -/
theorem run_null (hnull : heap.cell 0=none) (hg : ¬op.Guarded) : op.run hid heap 0 w=none := by
  cases op with
  | closeDevice => exact absurd trivial hg
  | pin c =>
    cases c with
    | setWorkLedMode led_mode => simp only [HandleCall.run,PinCall.run,usbIoSetWorkLedMode,hnull,Option.map_none]
    | getAllPinInfo info =>
      cases info with
      | none => exact absurd rfl hg
      | some old => simp only [HandleCall.run,PinCall.run,usbIoGetAllPinInfo,hnull,Option.map_none]
    | _ => exact absurd trivial hg

/-- On a live handle every call returns. -/
theorem run_live {p : UsbIoInternal} (hlive : LiveHandle heap hHandle p) (op : HandleCall) :
    ∃ r,op.run hid heap hHandle w=some r := by
  cases op with
  | pin c =>
    obtain ⟨r,hr,-⟩ := PinCall.run_ends hid hlive c w
    exact ⟨_,by rw [HandleCall.run,hr,Option.map_some]⟩
  | closeDevice => exact ⟨_,rfl⟩

/-- On the result of an open, a call is safe exactly when the open succeeded
or the call looks at its handle. -/
theorem nullSafe_iff_guarded (hnull : heap.cell 0=none) (hopen : hHandle=0 ∨ ∃ p,LiveHandle heap hHandle p) :
    op.NullSafe hid heap hHandle w ↔ hHandle≠0 ∨ op.Guarded := by
  by_cases hh : hHandle=0
  · subst hh
    constructor
    · rintro ⟨r,hr,-⟩
      by_contra hbad
      rw [run_null hnull (not_or.mp hbad).2] at hr
      exact nomatch hr
    · intro hor
      obtain ⟨r,hr,hrefused⟩ := run_refused (hor.resolve_left fun h0 => h0 rfl)
      exact ⟨r,hr,fun _ => hrefused⟩
  · obtain ⟨p,hlive⟩ := hopen.resolve_left hh
    obtain ⟨r,hr⟩ := run_live hlive op
    exact iff_of_true ⟨r,hr,fun h0 => absurd h0 hh⟩ (.inl hh)

end Calls

section Opens

/-- A way to open a device of a list. -/
inductive Opening where
  | device (device_info : Ptr)
  | withSerialNumber (serial_number : Option (List Byte))

/-- Open a device of the list with this head. -/
def Opening.run (head : Ptr) (heap : Heap) : Opening → Option Ptr
  | device device_info => usbIoOpenDevice device_info heap
  | withSerialNumber serial_number => usbIoDeviceOpenWithSerialNumber head serial_number heap

/-- A pointer that a client finds in the list: a node, or the NULL at its end. -/
def Opening.On (nodes : List Ptr) : Opening → Prop
  | device device_info => device_info=0 ∨ device_info∈nodes
  | withSerialNumber _ => True

/-- Opening a device of a list gives a node or NULL. -/
theorem opening_run {heap : Heap} {head : Ptr} (hok : ListOk heap ⟨head,[]⟩) {o : Opening}
    (ho : o.On (nodesOf heap head)) : ∃ h,o.run head heap=some h ∧ (h=0 ∨ h∈nodesOf heap head) := by
  cases o with
  | device a =>
    rcases ho with rfl|ha
    · exact ⟨0,rfl,.inl rfl⟩
    · obtain ⟨n,hlive,-⟩ := hok.live ha
      obtain ⟨h,hopen,hh⟩ := usbIoOpenDevice_live hlive
      refine ⟨h,hopen,?_⟩
      by_cases h0 : h=0
      · exact .inl h0
      · exact .inr ((hh h0) ▸ ha)
  | withSerialNumber serial_number =>
    obtain ⟨h,hopen,hh⟩ := hok.openWithSerial serial_number
    exact ⟨h,hopen,or_iff_not_imp_left.mpr hh⟩

/-- Whichever backend runs, the list returned is in order, and NULL is still
no node. -/
theorem getDeviceList_listOk (b : Running) (target : Target) (before : Heap)
    (hbeyond : ∀ a : ℤ,(before.calls : ℤ)<a → before.cell a=none) (hnull : before.cell 0=none) :
    ListOk (usbIoGetDeviceList (b.hid target) before b.world).2.1
        ⟨(usbIoGetDeviceList (b.hid target) before b.world).1,[]⟩ ∧
      (usbIoGetDeviceList (b.hid target) before b.world).2.1.cell 0=none := by
  have hkeeps : ∀ u c w,(∃ S,Ownership.Keeping before c S) →
      ∃ S,Ownership.Keeping before (enumfunc (b.hid target) u c w).context S := by
    rintro u c w ⟨S,hS⟩
    obtain ⟨T,hT,-⟩ := Ownership.enumfunc_abides before u c w S hS
    exact ⟨T,hT⟩
  obtain ⟨S,nodes,kept,hlist,-⟩ := enumDevices_keepsContext b target hkeeps
    ⟨0,[],[],BuiltList.start before hbeyond,rfl⟩
  refine ⟨(listOk_of_built hlist).2,?_⟩
  exact (hlist.frame 0 (Int.natCast_nonneg _)).trans hnull

/-- For every backend, every list it returns, every open on that list and
every call on the result: the open gives a node or NULL, and the call is
safe if and only if the open succeeded or the call looks at its handle. -/
theorem failedOpen_safe_iff (b : Running) (target : Target) (before : Heap)
    (hbeyond : ∀ a : ℤ,(before.calls : ℤ)<a → before.cell a=none) (hnull : before.cell 0=none) (o : Opening)
    (ho : o.On (nodesOf (usbIoGetDeviceList (b.hid target) before b.world).2.1
      (usbIoGetDeviceList (b.hid target) before b.world).1)) :
    let r := usbIoGetDeviceList (b.hid target) before b.world
    ∃ h,o.run r.1 r.2.1=some h ∧ (h=0 ∨ h∈nodesOf r.2.1 r.1) ∧
      ∀ (op : HandleCall) (w : b.World),op.NullSafe (b.hid target) r.2.1 h w ↔ h≠0 ∨ op.Guarded := by
  intro r
  obtain ⟨hok,hcell⟩ := getDeviceList_listOk b target before hbeyond hnull
  obtain ⟨h,hopen,hh⟩ := opening_run hok ho
  refine ⟨h,hopen,hh,fun op w => nullSafe_iff_guarded hcell (hh.imp_right fun hmem => ?_)⟩
  obtain ⟨n,hlive,-⟩ := hok.live hmem
  exact ⟨n,hlive⟩

end Opens

section NoBoard

open LibusbBackend

/-- A system that answers, with no device attached. -/
abbrev noBoard : Running := .libusb readyEnv {cardWorld with busses := []}

/-- Two cards attached. -/
abbrev twoCards : Running := .libusb twoCardEnv twoCardWorld

/-- A target with signed characters. -/
abbrev signedTarget : Target := ⟨true,fun _ => 0#8⟩

/-- On the list of a system with two cards, opening the second by its id, and
opening one that is not there. -/
theorem failedOpen_safe_iff_twoCards :
    let r := usbIoGetDeviceList (twoCards.hid signedTarget) (Heap.empty fun _ => false) twoCards.world
    (usbIoDeviceOpenWithSerialNumber r.1 (some (ascii "WXYZ")) r.2.1=some 2 ∧
        ∀ (op : HandleCall) (w : twoCards.World),op.NullSafe (twoCards.hid signedTarget) r.2.1 2 w) ∧
      usbIoDeviceOpenWithSerialNumber r.1 (some (ascii "EFGH")) r.2.1=some 0 ∧
        ∀ (op : HandleCall) (w : twoCards.World),
          op.NullSafe (twoCards.hid signedTarget) r.2.1 0 w ↔ op.Guarded := by
  intro r
  have hsecond : usbIoDeviceOpenWithSerialNumber r.1 (some (ascii "WXYZ")) r.2.1=some 2 := by decide +kernel
  have hnone : usbIoDeviceOpenWithSerialNumber r.1 (some (ascii "EFGH")) r.2.1=some 0 := by decide +kernel
  obtain ⟨h,hopen,-,hsafe⟩ := failedOpen_safe_iff twoCards signedTarget (Heap.empty fun _ => false)
    (fun _ _ => rfl) rfl (.withSerialNumber (some (ascii "WXYZ"))) trivial
  obtain rfl : (2 : Ptr)=h := Option.some.inj (hsecond.symm.trans hopen)
  obtain ⟨h,hopen,-,hsafe'⟩ := failedOpen_safe_iff twoCards signedTarget (Heap.empty fun _ => false)
    (fun _ _ => rfl) rfl (.withSerialNumber (some (ascii "EFGH"))) trivial
  obtain rfl : (0 : Ptr)=h := Option.some.inj (hnone.symm.trans hopen)
  have htwo : (2 : Ptr)≠0 := by decide
  exact ⟨⟨hsecond,fun op w => (hsafe op w).mpr (.inl htwo)⟩,hnone,
    fun op w => (hsafe' op w).trans (or_iff_right fun h0 => h0 rfl)⟩

/-- Without a board the list is empty and the open fails; the LED call and
the call for all pins do not survive its result. -/
theorem failedOpen_unsafe :
    let r := usbIoGetDeviceList (noBoard.hid signedTarget) (Heap.empty fun _ => false) noBoard.world
    (Opening.withSerialNumber (some (ascii "ABCD"++[0#8]))).run r.1 r.2.1=some 0 ∧
      ¬(HandleCall.pin (.setWorkLedMode 1#32)).NullSafe (noBoard.hid signedTarget) r.2.1 0 r.2.2 ∧
      ¬(HandleCall.pin (.getAllPinInfo (some fun _ => ⟨0,0,0⟩))).NullSafe (noBoard.hid signedTarget)
        r.2.1 0 r.2.2 := by
  refine ⟨rfl,?_,?_⟩
  · rintro ⟨r,hr,-⟩
    exact nomatch hr
  · rintro ⟨r,hr,-⟩
    exact nomatch hr

end NoBoard

end UsbIo16.NullHandles
