import Mathlib.Data.Multiset.Basic
import Mathlib.Logic.Relation
import UsbIo16.Backends
import UsbIo16.Traversal

/-!
# The enumeration loops as traversals

The loops of the three backends make one visit to each device struct,
interface or set entry. The visits are named here, with one lemma for each
thing a visit can do, and the loops are shown to be traversals of them: a
single one on Windows and OS X, nested ones over busses and devices on
libusb. What a callback may do to the world in between is fixed too.
-/

namespace UsbIo16.DeviceVisits

open ByteBuffer HandleLedger Hiddata LibusbBackend MswinBackend OsxBackend Traversal

section Clients

variable {W α : Type}

/-- A callback that acts on the world as a client of the layer does. -/
def IsClient (hid : HidLayer W) (usbhidEnumFunc : EnumFunc α W) : Prop :=
  ∀ u c w,Relation.ReflTransGen (ClientStep hid) w (usbhidEnumFunc u c w).world

/-- What every operation of a client preserves, such a callback preserves. -/
theorem IsClient.keeps {hid : HidLayer W} {usbhidEnumFunc : EnumFunc α W}
    (hf : IsClient hid usbhidEnumFunc) {P : W → Prop} (hP : ∀ w v,ClientStep hid w v → P w → P v)
    {u : Ptr} {c : α} {w : W} (h : P w) : P (usbhidEnumFunc u c w).world := by
  refine Relation.ReflTransGen.trans_induction_on (motive := fun {w v} _ => P w → P v) (hf u c w)
    (fun _ => id) (fun hstep => hP _ _ hstep) (fun _ _ hwv hvx hw => hvx (hwv hw)) h

/-- One step of the owner of the handles `S`: one of them is closed, or used. -/
inductive OwnerStep (hid : HidLayer W) : W×Multiset Ptr → W×Multiset Ptr → Prop
  | close {w : W} {S : Multiset Ptr} {u : Ptr} (hu : u∈S) :
      OwnerStep hid (w,S) (hid.usbhidCloseDevice u w,S.erase u)
  | use {w v : W} {S : Multiset Ptr} {u : Ptr} (hu : u∈S) (h : HandleUse hid u w v) :
      OwnerStep hid (w,S) (v,S)

/-- A callback that closes and uses only handles it owns: the one it is
given, and those it kept before, which its context accounts for by `J`. -/
def Abides (hid : HidLayer W) (J : α → Multiset Ptr → Prop) (usbhidEnumFunc : EnumFunc α W) : Prop :=
  ∀ u c w S,J c S → ∃ T,J (usbhidEnumFunc u c w).context T ∧
    Relation.ReflTransGen (OwnerStep hid) (w,u::ₘS) ((usbhidEnumFunc u c w).world,T)

end Clients

section Libusb

variable {D α : Type} {env : LibusbEnv D} {vendor product : ℤ}
  {usbhidEnumFunc : EnumFunc α (LibusbWorld D)} {dev : Ptr} {s : EnumReply α (LibusbWorld D)}

/-- Whether the struct carries this vendor and product. -/
abbrev Matches (vendor product : ℤ) (w : LibusbWorld D) (dev : Ptr) : Prop :=
  ((w.device dev).idVendor.toNat : ℤ)=vendor ∧ ((w.device dev).idProduct.toNat : ℤ)=product

/-- The world after `usb_open`. -/
def opened (w : LibusbWorld D) : LibusbWorld D := {w with ledger := w.ledger.openNext}

/-- The world in which the callback gets a device: opened, with the handle in the struct. -/
def offer (dev : Ptr) (w : LibusbWorld D) : LibusbWorld D := (opened w).setChildren dev w.ledger.fresh

/-- One round of the inner loop: the error code, the context and the world
are its state. -/
def libusbVisit (env : LibusbEnv D) (vendor product : ℤ) (usbhidEnumFunc : EnumFunc α (LibusbWorld D))
    (dev : Ptr) (s : EnumReply α (LibusbWorld D)) : Bool×EnumReply α (LibusbWorld D) :=
  if Matches vendor product s.world dev then
    if env.canOpen s.world.rounds dev=false then (false,{s with err := USBHID_ERR_ACCESS})
    else if (s.world.device dev).num_children≠0#8 then
      (false,⟨0,s.context,usbClose s.world.ledger.fresh (opened s.world)⟩)
    else
      let r := usbhidEnumFunc dev s.context (offer dev s.world)
      (decide (r.answer=0),⟨0,r.context,r.world⟩)
  else (false,s)

/-- A device with another vendor or product is passed. -/
theorem libusbVisit_foreign (hm : ¬Matches vendor product s.world dev) :
    libusbVisit env vendor product usbhidEnumFunc dev s=(false,s) := if_neg hm

/-- A device that cannot be opened leaves an error code. -/
theorem libusbVisit_denied (hm : Matches vendor product s.world dev)
    (ho : env.canOpen s.world.rounds dev=false) :
    libusbVisit env vendor product usbhidEnumFunc dev s=(false,{s with err := USBHID_ERR_ACCESS}) := by
  rw [libusbVisit,if_pos hm,if_pos ho]

/-- A device with children is opened and closed. -/
theorem libusbVisit_hub (hm : Matches vendor product s.world dev)
    (ho : env.canOpen s.world.rounds dev=true) (hn : (s.world.device dev).num_children≠0#8) :
    libusbVisit env vendor product usbhidEnumFunc dev s=
      (false,⟨0,s.context,usbClose s.world.ledger.fresh (opened s.world)⟩) := by
  rw [libusbVisit,if_pos hm,if_neg (by rw [ho]; exact Bool.true_eq_false.mp),if_pos hn]

/-- A leaf device is handed to the callback, whose answer decides. -/
theorem libusbVisit_leaf (hm : Matches vendor product s.world dev)
    (ho : env.canOpen s.world.rounds dev=true) (hn : (s.world.device dev).num_children=0#8)
    {r : CallbackReply α (LibusbWorld D)} (hr : usbhidEnumFunc dev s.context (offer dev s.world)=r) :
    libusbVisit env vendor product usbhidEnumFunc dev s=
      (decide (r.answer=0),⟨0,r.context,r.world⟩) := by
  rw [libusbVisit,if_pos hm,if_neg (by rw [ho]; exact Bool.true_eq_false.mp),if_neg (not_not.mpr hn),hr]

/-- What a round of the inner loop can come to: the device is another one, it
cannot be opened, it has children, or it is handed to the callback. -/
inductive LibusbVisitEnds (env : LibusbEnv D) (vendor product : ℤ) (usbhidEnumFunc : EnumFunc α (LibusbWorld D))
    (dev : Ptr) (s : EnumReply α (LibusbWorld D)) : Bool×EnumReply α (LibusbWorld D) → Prop
  | foreign (hm : ¬Matches vendor product s.world dev) :
      LibusbVisitEnds env vendor product usbhidEnumFunc dev s (false,s)
  | denied (hm : Matches vendor product s.world dev) (ho : env.canOpen s.world.rounds dev=false) :
      LibusbVisitEnds env vendor product usbhidEnumFunc dev s (false,{s with err := USBHID_ERR_ACCESS})
  | hub (hm : Matches vendor product s.world dev) (ho : env.canOpen s.world.rounds dev=true)
      (hn : (s.world.device dev).num_children≠0#8) :
      LibusbVisitEnds env vendor product usbhidEnumFunc dev s
        (false,⟨0,s.context,usbClose s.world.ledger.fresh (opened s.world)⟩)
  | leaf (hm : Matches vendor product s.world dev) (ho : env.canOpen s.world.rounds dev=true)
      (hn : (s.world.device dev).num_children=0#8) :
      LibusbVisitEnds env vendor product usbhidEnumFunc dev s
        (decide ((usbhidEnumFunc dev s.context (offer dev s.world)).answer=0),
          ⟨0,(usbhidEnumFunc dev s.context (offer dev s.world)).context,
            (usbhidEnumFunc dev s.context (offer dev s.world)).world⟩)

/-- A round comes to one of these. -/
theorem libusbVisit_ends (env : LibusbEnv D) (vendor product : ℤ) (usbhidEnumFunc : EnumFunc α (LibusbWorld D))
    (dev : Ptr) (s : EnumReply α (LibusbWorld D)) :
    LibusbVisitEnds env vendor product usbhidEnumFunc dev s
      (libusbVisit env vendor product usbhidEnumFunc dev s) := by
  by_cases hm : Matches vendor product s.world dev
  · cases ho : env.canOpen s.world.rounds dev with
    | false =>
      rw [libusbVisit_denied hm ho]
      exact .denied hm ho
    | true =>
      by_cases hn : (s.world.device dev).num_children=0#8
      · rw [libusbVisit_leaf hm ho hn rfl]
        exact .leaf hm ho hn
      · rw [libusbVisit_hub hm ho hn]
        exact .hub hm ho hn
  · rw [libusbVisit_foreign hm]
    exact .foreign hm

/-- The inner loop is a traversal of the devices of a bus. -/
theorem devLoop_eq_visitAll (bus : List Ptr) (errorCode : ℤ) (context : α) (w : LibusbWorld D) :
    devLoop env vendor product usbhidEnumFunc bus errorCode context w=
      (visitAll (libusbVisit env vendor product usbhidEnumFunc) bus ⟨errorCode,context,w⟩).2 := by
  induction bus generalizing errorCode context w with
  | nil => rfl
  | cons dev rest ih =>
    by_cases hm : Matches vendor product w dev
    · cases ho : env.canOpen w.rounds dev with
      | false =>
        have hv : libusbVisit env vendor product usbhidEnumFunc dev ⟨errorCode,context,w⟩=_ :=
          libusbVisit_denied hm ho
        rw [visitAll_cons_go (congrArg Prod.fst hv),hv,devLoop,if_pos hm,if_pos ho,ih]
      | true =>
        by_cases hn : (w.device dev).num_children=0#8
        · generalize hr : usbhidEnumFunc dev context (offer dev w)=r
          have hr' : usbhidEnumFunc dev context
              (LibusbWorld.setChildren {w with ledger := w.ledger.openNext} dev w.ledger.fresh)=r := hr
          have hv : libusbVisit env vendor product usbhidEnumFunc dev ⟨errorCode,context,w⟩=_ :=
            libusbVisit_leaf hm ho hn hr
          by_cases ha : r.answer=0
          · rw [visitAll_cons_stop ((congrArg Prod.fst hv).trans (decide_eq_true ha)),hv]
            simp only [devLoop,if_pos hm,ho,Bool.true_eq_false,if_false,hn,ne_eq,not_true_eq_false,hr',
              if_pos ha]
          · rw [visitAll_cons_go ((congrArg Prod.fst hv).trans (decide_eq_false ha)),hv,←ih]
            simp only [devLoop,if_pos hm,ho,Bool.true_eq_false,if_false,hn,ne_eq,not_true_eq_false,hr',
              if_neg ha]
        · have hv : libusbVisit env vendor product usbhidEnumFunc dev ⟨errorCode,context,w⟩=_ :=
            libusbVisit_hub hm ho hn
          rw [visitAll_cons_go (congrArg Prod.fst hv),hv,←ih]
          simp only [devLoop,if_pos hm,ho,Bool.true_eq_false,if_false,ne_eq,hn,not_false_eq_true,if_true,
            opened]
    · have hv : libusbVisit env vendor product usbhidEnumFunc dev ⟨errorCode,context,w⟩=_ :=
        libusbVisit_foreign hm
      rw [visitAll_cons_go (congrArg Prod.fst hv),hv,devLoop,if_neg hm,ih]

/-- The outer loop is a traversal of the busses. -/
theorem busLoop_eq_visitGroups (busses : List (List Ptr)) (errorCode : ℤ) (context : α)
    (w : LibusbWorld D) :
    busLoop env vendor product usbhidEnumFunc busses errorCode context w=
      visitGroups (libusbVisit env vendor product usbhidEnumFunc) busses ⟨errorCode,context,w⟩ := by
  induction busses generalizing errorCode context w with
  | nil => rfl
  | cons bus busses ih => rw [busLoop,ih,devLoop_eq_visitAll,visitGroups]

/-- An enumeration of a world starts a new round. -/
def nextRound (w : LibusbWorld D) : LibusbWorld D := {w with rounds := w.rounds+1}

/-- The enumeration behind libusb is a traversal of the busses. -/
theorem libusb_enumDevices_eq (context : α) (w : LibusbWorld D) :
    LibusbBackend.usbhidEnumDevices env vendor product context usbhidEnumFunc w=
      visitGroups (libusbVisit env vendor product usbhidEnumFunc) w.busses
        ⟨USBHID_ERR_NOTFOUND,context,nextRound w⟩ := busLoop_eq_visitGroups _ _ _ _

/-- What enumerations read of the attached devices is the same in two worlds. -/
structure SameDevices (w v : LibusbWorld D) : Prop where
  /-- The busses. -/
  busses : v.busses=w.busses
  /-- The round, which decides what can be opened. -/
  rounds : v.rounds=w.rounds
  /-- Vendor, product and number of children of every struct. -/
  device : ∀ p,(v.device p).idVendor=(w.device p).idVendor ∧
    (v.device p).idProduct=(w.device p).idProduct ∧ (v.device p).num_children=(w.device p).num_children

/-- A change of ledger and environment only changes no attached device. -/
theorem SameDevices.of_eq {w v : LibusbWorld D} (hb : v.busses=w.busses) (hr : v.rounds=w.rounds)
    (hd : v.device=w.device) : SameDevices w v := ⟨hb,hr,fun _ => by rw [hd]; exact ⟨rfl,rfl,rfl⟩⟩

theorem SameDevices.refl (w : LibusbWorld D) : SameDevices w w := .of_eq rfl rfl rfl

theorem SameDevices.trans {w v x : LibusbWorld D} (h : SameDevices w v) (k : SameDevices v x) :
    SameDevices w x where
  busses := k.busses.trans h.busses
  rounds := k.rounds.trans h.rounds
  device p := by
    obtain ⟨hv,hp,hn⟩ := h.device p
    obtain ⟨kv,kp,kn⟩ := k.device p
    exact ⟨kv.trans hv,kp.trans hp,kn.trans hn⟩

/-- The same devices match. -/
theorem SameDevices.matches_iff {w v : LibusbWorld D} (h : SameDevices w v) :
    Matches vendor product v dev ↔ Matches vendor product w dev := by
  obtain ⟨hv,hp,-⟩ := h.device dev
  rw [Matches,Matches,hv,hp]

/-- A change of the `children` field changes no attached device. -/
theorem sameDevices_setChildren (w : LibusbWorld D) (dev p : Ptr) :
    SameDevices w (w.setChildren dev p) where
  busses := rfl
  rounds := rfl
  device q := by
    by_cases hq : q=dev
    · subst hq
      simp only [LibusbWorld.setChildren,Function.update_self,and_self]
    · simp only [LibusbWorld.setChildren,Function.update_of_ne hq,and_self]

/-- A use of a handle behind libusb uses the open handle in the struct, and
changes nothing else but the environment. -/
theorem libusb_use {target : Target} {u : Ptr} {w v : LibusbWorld D}
    (h : HandleUse (libusbHid env target) u w v) :
    ∃ e,v={w with ledger := w.ledger.use (usbDevHandle w u),env := e} := by
  cases h with
  | vendor buf len =>
    simp only [libusbHid,LibusbBackend.usbhidGetVendorString,usbhidGetStringAscii]
    split <;> exact ⟨_,rfl⟩
  | product buf len =>
    simp only [libusbHid,LibusbBackend.usbhidGetProductString,usbhidGetStringAscii]
    split <;> exact ⟨_,rfl⟩
  | send buf len => exact ⟨_,rfl⟩
  | receive id buf len =>
    simp only [libusbHid,LibusbBackend.usbhidGetReport,LibusbBackend.usesReportIDs,Bool.false_eq_true,
      if_false]
    split <;> exact ⟨_,rfl⟩

/-- A client of the libusb backend changes no attached device and opens none. -/
theorem libusb_client {target : Target} {w v : LibusbWorld D}
    (h : ClientStep (libusbHid env target) w v) :
    SameDevices w v ∧ v.ledger.issued=w.ledger.issued := by
  cases h with
  | close u =>
    by_cases hu : u=0
    · have he : (libusbHid env target).usbhidCloseDevice u w=w := if_neg (not_not.mpr hu)
      rw [he]
      exact ⟨.refl w,rfl⟩
    · have he : (libusbHid env target).usbhidCloseDevice u w=
          (usbClose (usbDevHandle w u) w).setChildren u 0 := if_pos hu
      rw [he]
      have hc : SameDevices w (usbClose (usbDevHandle w u) w) := .of_eq rfl rfl rfl
      exact ⟨hc.trans (sameDevices_setChildren _ u 0),rfl⟩
  | use u h =>
    obtain ⟨e,rfl⟩ := libusb_use h
    exact ⟨.of_eq rfl rfl rfl,rfl⟩

/-- A visit changes no attached device. -/
theorem sameDevices_visit {target : Target} (hf : IsClient (libusbHid env target) usbhidEnumFunc) :
    SameDevices s.world (libusbVisit env vendor product usbhidEnumFunc dev s).2.world := by
  have hends := libusbVisit_ends env vendor product usbhidEnumFunc dev s
  generalize libusbVisit env vendor product usbhidEnumFunc dev s=r at hends ⊢
  cases hends with
  | foreign hm => exact .refl s.world
  | denied hm ho => exact .refl s.world
  | hub hm ho hn => exact .of_eq rfl rfl rfl
  | leaf hm ho hn =>
    have hopen : SameDevices s.world (opened s.world) := .of_eq rfl rfl rfl
    have hoffer : SameDevices s.world (offer dev s.world) := hopen.trans (sameDevices_setChildren _ dev _)
    exact hf.keeps (fun w v hstep h => h.trans (libusb_client hstep).1) hoffer

/-- The call of a client opens nothing. -/
theorem libusb_client_issued {target : Target} (hf : IsClient (libusbHid env target) usbhidEnumFunc)
    (c : α) (w : LibusbWorld D) :
    (usbhidEnumFunc dev c (offer dev w)).world.ledger.issued=w.ledger.issued+1 :=
  hf.keeps (P := fun v => v.ledger.issued=w.ledger.issued+1)
    (fun _ _ hstep h => (libusb_client hstep).2.trans h) rfl

end Libusb

section Mswin

variable {D α : Type} {env : MswinEnv D} {vendor product : ℤ}
  {usbhidEnumFunc : EnumFunc α (MswinWorld D)} {iface : HidInterface}

/-- What lives across the rounds of the Windows loop: the handle to be
closed at the next round, the attribute struct, error code, context and world. -/
structure MswinRound (α D : Type) where
  handle : Ptr
  deviceAttributes : BitVec 16×BitVec 16
  errorCode : ℤ
  context : α
  world : MswinWorld D

/-- Whether the queries before `CreateFileW` succeed. -/
abbrev Described (iface : HidInterface) : Prop :=
  iface.size≠0 ∧ iface.allocated=true ∧ iface.detail=true

/-- One round of the Windows loop. -/
def mswinVisit (vendor product : ℤ) (usbhidEnumFunc : EnumFunc α (MswinWorld D)) (iface : HidInterface)
    (s : MswinRound α D) : Bool×MswinRound α D :=
  let w := closePending s.handle s.world
  if iface.size=0 then (false,{s with handle := INVALID_HANDLE_VALUE,world := w})
  else if iface.allocated=false then (false,{s with handle := INVALID_HANDLE_VALUE,world := w})
  else if iface.detail=false then (false,{s with handle := INVALID_HANDLE_VALUE,world := w})
  else
    let handle := (createFile iface w).1
    let w := (createFile iface w).2
    if handle=INVALID_HANDLE_VALUE then (false,{s with handle := handle,world := w})
    else
      let deviceAttributes := iface.attributes.getD s.deviceAttributes
      if (deviceAttributes.1.toNat : ℤ)≠vendor ∨ (deviceAttributes.2.toNat : ℤ)≠product then
        (false,{s with handle := handle,deviceAttributes := deviceAttributes,world := w})
      else
        let r := usbhidEnumFunc handle s.context w
        (decide (r.answer=0),⟨INVALID_HANDLE_VALUE,deviceAttributes,0,r.context,r.world⟩)

variable {s : MswinRound α D}

/-- The world of the callback on Windows: the pending handle closed and the
interface opened. -/
def openedInterface (iface : HidInterface) (s : MswinRound α D) : MswinWorld D :=
  let w := closePending s.handle s.world
  {w with ledger := w.ledger.openNext,path := Function.update w.path w.ledger.fresh iface.DevicePath}

/-- The handle the callback gets on Windows. -/
def handleFor (s : MswinRound α D) : Ptr := (closePending s.handle s.world).ledger.fresh

/-- A handle given out is not the invalid one. -/
theorem handleFor_ne (s : MswinRound α D) : handleFor s≠INVALID_HANDLE_VALUE := by
  have hp : 1≤handleFor s := (closePending s.handle s.world).ledger.fresh_pos
  intro h
  rw [h] at hp
  exact absurd hp (by decide)

/-- The attributes the tests look at: those of the interface, or what the
struct held before when they cannot be read. -/
def attributesSeen (iface : HidInterface) (s : MswinRound α D) : BitVec 16×BitVec 16 :=
  iface.attributes.getD s.deviceAttributes

/-- Whether they are the ones looked for. -/
abbrev Wanted (vendor product : ℤ) (attributes : BitVec 16×BitVec 16) : Prop :=
  (attributes.1.toNat : ℤ)=vendor ∧ (attributes.2.toNat : ℤ)=product

/-- An interface that cannot be described or opened is passed. -/
theorem mswinVisit_closed (h : ¬(Described iface ∧ iface.canOpen=true)) :
    mswinVisit vendor product usbhidEnumFunc iface s=
      (false,{s with handle := INVALID_HANDLE_VALUE,world := closePending s.handle s.world}) := by
  unfold mswinVisit
  by_cases hs : iface.size=0
  · rw [if_pos hs]
  · cases ha : iface.allocated with
    | false => rw [if_neg hs,if_pos rfl]
    | true =>
      cases hd : iface.detail with
      | false => rw [if_neg hs,if_neg Bool.true_eq_false.mp,if_pos rfl]
      | true =>
        have ho : ¬iface.canOpen=true := fun ho => h ⟨⟨hs,ha,hd⟩,ho⟩
        simp only [if_neg hs,Bool.true_eq_false,if_false,createFile,if_neg ho,if_true]

/-- An interface that is opened is looked at. -/
theorem mswinVisit_open (h : Described iface) (ho : iface.canOpen=true) :
    mswinVisit vendor product usbhidEnumFunc iface s=
      if ((attributesSeen iface s).1.toNat : ℤ)≠vendor ∨ ((attributesSeen iface s).2.toNat : ℤ)≠product then
        (false,{s with
          handle := handleFor s
          deviceAttributes := attributesSeen iface s
          world := openedInterface iface s})
      else
        let r := usbhidEnumFunc (handleFor s) s.context (openedInterface iface s)
        (decide (r.answer=0),⟨INVALID_HANDLE_VALUE,attributesSeen iface s,0,r.context,r.world⟩) := by
  have hc : createFile iface (closePending s.handle s.world)=(handleFor s,openedInterface iface s) :=
    if_pos ho
  unfold mswinVisit
  simp only [if_neg h.1,h.2.1,h.2.2,Bool.true_eq_false,if_false,hc,if_neg (handleFor_ne s)]
  rfl

/-- An opened interface with other attributes stays open until the next round. -/
theorem mswinVisit_foreign (h : Described iface) (ho : iface.canOpen=true)
    (hw : ¬Wanted vendor product (attributesSeen iface s)) :
    mswinVisit vendor product usbhidEnumFunc iface s=
      (false,{s with
        handle := handleFor s
        deviceAttributes := attributesSeen iface s
        world := openedInterface iface s}) := by
  rw [mswinVisit_open h ho,if_pos (not_and_or.mp hw)]

/-- An opened interface with the attributes looked for is handed to the
callback, whose answer decides. -/
theorem mswinVisit_wanted (h : Described iface) (ho : iface.canOpen=true)
    (hw : Wanted vendor product (attributesSeen iface s)) {r : CallbackReply α (MswinWorld D)}
    (hr : usbhidEnumFunc (handleFor s) s.context (openedInterface iface s)=r) :
    mswinVisit vendor product usbhidEnumFunc iface s=
      (decide (r.answer=0),⟨INVALID_HANDLE_VALUE,attributesSeen iface s,0,r.context,r.world⟩) := by
  rw [mswinVisit_open h ho,if_neg fun hor => (not_and_or.mpr hor) hw,hr]

/-- The loop passes an interface that cannot be described or opened. -/
theorem interfaceLoop_closed (h : ¬(Described iface ∧ iface.canOpen=true)) (rest : List HidInterface) :
    interfaceLoop vendor product usbhidEnumFunc (iface::rest) s.handle s.deviceAttributes s.errorCode
        s.context s.world=
      interfaceLoop vendor product usbhidEnumFunc rest INVALID_HANDLE_VALUE s.deviceAttributes
        s.errorCode s.context (closePending s.handle s.world) := by
  rw [interfaceLoop]
  by_cases hs : iface.size=0
  · rw [if_pos hs]
  · cases ha : iface.allocated with
    | false => rw [if_neg hs,if_pos rfl]
    | true =>
      cases hd : iface.detail with
      | false => rw [if_neg hs,if_neg Bool.true_eq_false.mp,if_pos rfl]
      | true =>
        have ho : ¬iface.canOpen=true := fun ho => h ⟨⟨hs,ha,hd⟩,ho⟩
        simp only [if_neg hs,Bool.true_eq_false,if_false,createFile,if_neg ho,if_true]

/-- The loop looks at an interface that is opened. -/
theorem interfaceLoop_open (h : Described iface) (ho : iface.canOpen=true) (rest : List HidInterface) :
    interfaceLoop vendor product usbhidEnumFunc (iface::rest) s.handle s.deviceAttributes s.errorCode
        s.context s.world=
      if ((attributesSeen iface s).1.toNat : ℤ)≠vendor ∨ ((attributesSeen iface s).2.toNat : ℤ)≠product then
        interfaceLoop vendor product usbhidEnumFunc rest (handleFor s) (attributesSeen iface s)
          s.errorCode s.context (openedInterface iface s)
      else
        let r := usbhidEnumFunc (handleFor s) s.context (openedInterface iface s)
        if r.answer=0 then ⟨0,r.context,r.world⟩
        else
          interfaceLoop vendor product usbhidEnumFunc rest INVALID_HANDLE_VALUE (attributesSeen iface s)
            0 r.context r.world := by
  have hc : createFile iface (closePending s.handle s.world)=(handleFor s,openedInterface iface s) :=
    if_pos ho
  rw [interfaceLoop]
  simp only [if_neg h.1,h.2.1,h.2.2,Bool.true_eq_false,if_false,hc,if_neg (handleFor_ne s)]
  rfl

/-- The loop is a traversal of the interfaces, with the pending handle
closed at its end. -/
theorem interfaceLoop_eq_visitAll (interfaces : List HidInterface) (s : MswinRound α D) :
    interfaceLoop vendor product usbhidEnumFunc interfaces s.handle s.deviceAttributes s.errorCode
        s.context s.world=
      ⟨(visitAll (mswinVisit vendor product usbhidEnumFunc) interfaces s).2.errorCode,
        (visitAll (mswinVisit vendor product usbhidEnumFunc) interfaces s).2.context,
        closePending (visitAll (mswinVisit vendor product usbhidEnumFunc) interfaces s).2.handle
          (visitAll (mswinVisit vendor product usbhidEnumFunc) interfaces s).2.world⟩ := by
  induction interfaces generalizing s with
  | nil => rfl
  | cons iface rest ih =>
    by_cases hopen : Described iface ∧ iface.canOpen=true
    · by_cases hw : Wanted vendor product (attributesSeen iface s)
      · generalize hr : usbhidEnumFunc (handleFor s) s.context (openedInterface iface s)=r
        have hv := mswinVisit_wanted hopen.1 hopen.2 hw hr
        rw [interfaceLoop_open hopen.1 hopen.2,if_neg fun hor => (not_and_or.mpr hor) hw,hr]
        by_cases ha : r.answer=0
        · rw [visitAll_cons_stop ((congrArg Prod.fst hv).trans (decide_eq_true ha)),hv]
          exact if_pos ha
        · rw [visitAll_cons_go ((congrArg Prod.fst hv).trans (decide_eq_false ha)),hv,←ih]
          exact if_neg ha
      · have hv : mswinVisit vendor product usbhidEnumFunc iface s=_ :=
          mswinVisit_foreign hopen.1 hopen.2 hw
        rw [visitAll_cons_go (congrArg Prod.fst hv),hv,←ih,interfaceLoop_open hopen.1 hopen.2,
          if_pos (not_and_or.mp hw)]
    · have hv : mswinVisit vendor product usbhidEnumFunc iface s=_ := mswinVisit_closed hopen
      rw [visitAll_cons_go (congrArg Prod.fst hv),hv,←ih,interfaceLoop_closed hopen]

/-- The Windows loop starts without a handle. -/
def firstRound (stale : BitVec 16×BitVec 16) (context : α) (w : MswinWorld D) : MswinRound α D :=
  ⟨INVALID_HANDLE_VALUE,stale,USBHID_ERR_NOTFOUND,context,w⟩

/-- The Windows enumeration fails when there is no device information. -/
theorem mswin_enumDevices_none {w : MswinWorld D} (h : (env.classDevs w.env).1=none) (context : α) :
    MswinBackend.usbhidEnumDevices env vendor product context usbhidEnumFunc w=
      ⟨ USBHID_ERR_NOTFOUND,context,{w with env := (env.classDevs w.env).2}⟩ := by
  simp only [MswinBackend.usbhidEnumDevices,h]

/-- Otherwise it is a traversal of the interfaces. -/
theorem mswin_enumDevices_some {w : MswinWorld D} {devs : ClassDevs} (h : (env.classDevs w.env).1=some devs)
    (context : α) {t : MswinRound α D}
    (ht : (visitAll (mswinVisit vendor product usbhidEnumFunc) devs.interfaces
      (firstRound devs.stale context {w with env := (env.classDevs w.env).2})).2=t) :
    MswinBackend.usbhidEnumDevices env vendor product context usbhidEnumFunc w=
      ⟨t.errorCode,t.context,closePending t.handle t.world⟩ := by
  subst ht
  simp only [MswinBackend.usbhidEnumDevices,h]
  exact interfaceLoop_eq_visitAll _ (firstRound _ _ _)

/-- A use of a handle on Windows uses that handle, and changes nothing else
but the environment. -/
theorem mswin_use {target : Target} {u : Ptr} {w v : MswinWorld D}
    (h : HandleUse (mswinHid env target) u w v) : ∃ e,v={w with ledger := w.ledger.use u,env := e} := by
  have hstring : ∀ (query : Ptr → D → Option (List (BitVec 16))×D) (buf : List Byte) (len : ℤ),
      ∃ e,(MswinBackend.getString query u buf len w).world={w with ledger := w.ledger.use u,env := e} := by
    intro query buf len
    simp only [MswinBackend.getString]
    cases (query u w.env).1 with
    | none => exact ⟨_,rfl⟩
    | some units =>
      dsimp only
      split <;> exact ⟨_,rfl⟩
  cases h with
  | vendor buf len => exact hstring env.manufacturer buf len
  | product buf len => exact hstring env.product buf len
  | send buf len => exact ⟨_,rfl⟩
  | receive id buf len =>
    simp only [mswinHid,MswinBackend.usbhidGetReport]
    split <;> exact ⟨_,rfl⟩

end Mswin

section Osx

variable {D α : Type} {env : OsxEnv D} {target : Target} {vendor product : ℤ}
  {usbhidEnumFunc : EnumFunc α (OsxWorld D)} {dev : OsxDevice} {s : α×OsxWorld D}

/-- One round of the OS X loop. -/
def osxVisit (target : Target) (vendor product : ℤ) (usbhidEnumFunc : EnumFunc α (OsxWorld D))
    (dev : OsxDevice) (s : α×OsxWorld D) : Bool×α×OsxWorld D :=
  if offered target vendor product dev=false then (false,s)
  else
    let r := usbhidEnumFunc dev.ref s.1 (addRef s.2)
    (decide (r.answer=0),r.context,r.world)

/-- A device that fails a test is passed. -/
theorem osxVisit_foreign (h : offered target vendor product dev=false) :
    osxVisit target vendor product usbhidEnumFunc dev s=(false,s) := if_pos h

/-- Any other device is handed to the callback, whose answer decides. -/
theorem osxVisit_offered (h : offered target vendor product dev=true)
    {r : CallbackReply α (OsxWorld D)} (hr : usbhidEnumFunc dev.ref s.1 (addRef s.2)=r) :
    osxVisit target vendor product usbhidEnumFunc dev s=(decide (r.answer=0),r.context,r.world) := by
  rw [osxVisit,if_neg (by rw [h]; exact Bool.true_eq_false.mp),hr]

/-- The loop is a traversal of the device set. -/
theorem deviceLoop_eq_visitAll (devices : List OsxDevice) (context : α) (w : OsxWorld D) :
    deviceLoop target vendor product usbhidEnumFunc devices context w=
      (visitAll (osxVisit target vendor product usbhidEnumFunc) devices (context,w)).2 := by
  induction devices generalizing context w with
  | nil => rfl
  | cons dev rest ih =>
    cases h : offered target vendor product dev with
    | false =>
      have hv : osxVisit target vendor product usbhidEnumFunc dev (context,w)=_ := osxVisit_foreign h
      rw [visitAll_cons_go (congrArg Prod.fst hv),hv,deviceLoop,if_pos h,ih]
    | true =>
      generalize hr : usbhidEnumFunc dev.ref context (addRef w)=r
      have hv := osxVisit_offered (s := (context,w)) h hr
      by_cases ha : r.answer=0
      · rw [visitAll_cons_stop ((congrArg Prod.fst hv).trans (decide_eq_true ha)),hv]
        simp only [deviceLoop,h,Bool.true_eq_false,if_false,hr,if_pos ha]
      · rw [visitAll_cons_go ((congrArg Prod.fst hv).trans (decide_eq_false ha)),hv,←ih]
        simp only [deviceLoop,h,Bool.true_eq_false,if_false,hr,if_neg ha]

/-- Without a manager or devices the OS X enumeration fails. -/
theorem osx_enumDevices_error {w : OsxWorld D} {e : ℤ} (h : (managerDevices env w).1=.error e) (context : α) :
    OsxBackend.usbhidEnumDevices env target vendor product context usbhidEnumFunc w=
      ⟨e,context,(managerDevices env w).2⟩ := by
  simp only [OsxBackend.usbhidEnumDevices,h]

/-- Otherwise it is a traversal of the device set, and succeeds. -/
theorem osx_enumDevices_ok {w : OsxWorld D} {devices : List OsxDevice}
    (h : (managerDevices env w).1=.ok devices) (context : α) {t : α×OsxWorld D}
    (ht : (visitAll (osxVisit target vendor product usbhidEnumFunc) devices
      (context,(managerDevices env w).2)).2=t) :
    OsxBackend.usbhidEnumDevices env target vendor product context usbhidEnumFunc w=
      ⟨0,t.1,hidmgrDeref t.2⟩ := by
  subst ht
  simp only [OsxBackend.usbhidEnumDevices,h,deviceLoop_eq_visitAll]

/-- Dropping a reference on the manager creates none. -/
theorem hidmgrDeref_issued (w : OsxWorld D) : (hidmgrDeref w).managers.issued=w.managers.issued := by
  unfold hidmgrDeref
  dsimp only
  split
  · split <;> rfl
  · rfl

/-- A use of a handle on OS X is at most a transfer under the manager of the
handle; nothing else changes but the environment. -/
theorem osx_use {u : Ptr} {w v : OsxWorld D} (h : HandleUse (osxHid env target) u w v) :
    ∃ e,v={w with env := e} ∨ v={w with opened := .used (w.owner u)::w.opened,env := e} := by
  cases h with
  | vendor buf len => exact ⟨_,.inl rfl⟩
  | product buf len => exact ⟨_,.inl rfl⟩
  | send buf len => exact ⟨_,.inr rfl⟩
  | receive id buf len =>
    simp only [osxHid,OsxBackend.usbhidGetReport,OsxBackend.usesReportIDs,Bool.false_eq_true,if_false]
    split
    · exact ⟨w.env,.inl rfl⟩
    · split <;> exact ⟨_,.inr rfl⟩

end Osx

section Contexts

open Backends

variable {α : Type} {J : α → Prop} {vendor product : ℤ} {c : α}

/-- What the callback keeps of its context, the libusb enumeration keeps. -/
theorem libusb_keepsContext {D : Type} {env : LibusbEnv D} {usbhidEnumFunc : EnumFunc α (LibusbWorld D)}
    (hf : ∀ u c w,J c → J (usbhidEnumFunc u c w).context) (h : J c) (w : LibusbWorld D) :
    J (LibusbBackend.usbhidEnumDevices env vendor product c usbhidEnumFunc w).context := by
  have hvisit : Keeps (libusbVisit env vendor product usbhidEnumFunc) (fun s => J s.context) w.busses.flatten := by
    intro dev _ s hs
    have hends := libusbVisit_ends env vendor product usbhidEnumFunc dev s
    generalize libusbVisit env vendor product usbhidEnumFunc dev s=r at hends ⊢
    cases hends with
    | foreign hm => exact hs
    | denied hm ho => exact hs
    | hub hm ho hn => exact hs
    | leaf hm ho hn => exact hf _ _ _ hs
  rw [libusb_enumDevices_eq]
  exact visitGroups_keeps hvisit h

/-- The Windows enumeration keeps it. -/
theorem mswin_keepsContext {D : Type} {env : MswinEnv D} {usbhidEnumFunc : EnumFunc α (MswinWorld D)}
    (hf : ∀ u c w,J c → J (usbhidEnumFunc u c w).context) (h : J c) (w : MswinWorld D) :
    J (MswinBackend.usbhidEnumDevices env vendor product c usbhidEnumFunc w).context := by
  cases hdevs : (env.classDevs w.env).1 with
  | none =>
    rw [mswin_enumDevices_none hdevs]
    exact h
  | some devs =>
    have hvisit : Keeps (mswinVisit vendor product usbhidEnumFunc) (fun s => J s.context) devs.interfaces := by
      intro iface _ s hs
      by_cases hopen : Described iface ∧ iface.canOpen=true
      · by_cases hw : Wanted vendor product (attributesSeen iface s)
        · rw [mswinVisit_wanted hopen.1 hopen.2 hw rfl]
          exact hf _ _ _ hs
        · rw [mswinVisit_foreign hopen.1 hopen.2 hw]
          exact hs
      · rw [mswinVisit_closed hopen]
        exact hs
    rw [mswin_enumDevices_some hdevs c rfl]
    exact visitAll_keeps hvisit h

/-- The OS X enumeration keeps it. -/
theorem osx_keepsContext {D : Type} {env : OsxEnv D} {usbhidEnumFunc : EnumFunc α (OsxWorld D)}
    (hf : ∀ u c w,J c → J (usbhidEnumFunc u c w).context) (h : J c) (target : Target) (w : OsxWorld D) :
    J (OsxBackend.usbhidEnumDevices env target vendor product c usbhidEnumFunc w).context := by
  cases hm : (managerDevices env w).1 with
  | error e =>
    rw [osx_enumDevices_error hm]
    exact h
  | ok devices =>
    have hvisit : Keeps (osxVisit target vendor product usbhidEnumFunc) (fun s => J s.1) devices := by
      intro dev _ s hs
      cases hoffered : offered target vendor product dev with
      | false =>
        rw [osxVisit_foreign hoffered]
        exact hs
      | true =>
        rw [osxVisit_offered hoffered rfl]
        exact hf _ _ _ hs
    rw [osx_enumDevices_ok hm c rfl]
    exact visitAll_keeps hvisit h

/-- So does whichever backend runs: nothing but the callback touches the context. -/
theorem enumDevices_keepsContext (b : Running) (target : Target) {usbhidEnumFunc : EnumFunc α b.World}
    (hf : ∀ u c w,J c → J (usbhidEnumFunc u c w).context) (h : J c) :
    J ((b.hid target).usbhidEnumDevices vendor product c usbhidEnumFunc b.world).context := by
  cases b with
  | libusb env w => exact libusb_keepsContext hf h w
  | mswin env w => exact mswin_keepsContext hf h w
  | osx env w => exact osx_keepsContext hf h target w

end Contexts

end UsbIo16.DeviceVisits
