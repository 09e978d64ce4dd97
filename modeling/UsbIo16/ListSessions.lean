import Mathlib.Data.Int.Interval
import Mathlib.Data.List.Perm.Basic
import UsbIo16.Ownership

/-!
# Sessions over device lists

A client of the library holds any number of device lists at a time and may
do with them, in any order, everything the interface offers. The state of a
session is the node heap, the world of the backend and the lists; an action
that the program may not survive has no result. The accounts of a session,
which tie the nodes of all lists to the handles that are out, are kept by
every action at any backend.
-/

namespace UsbIo16.ListSessions

open Hiddata IoInterface NodeChain DeviceList DeviceVisits PinCalls Ownership

section Machine

/-- A list the client has. -/
structure OpenList where
  /-- What `usb_io_get_device_list` returned. -/
  head : Ptr
  /-- The handles opened on it that were not NULL, newest first. -/
  handles : List Ptr

/-- A client and the library. -/
structure Session (W : Type) where
  /-- The nodes of all lists. -/
  heap : Heap
  /-- The world of the backend. -/
  world : W
  /-- The lists not yet freed, in the order they were returned. -/
  lists : List OpenList

/-- What a client may do: lists are named by their position, nodes by their
position in the list, and handles by their position among those opened on it. -/
inductive Action where
  | getDeviceList
  | freeDeviceList (i : ℕ)
  | openDevice (i k : ℕ)
  | openWithSerialNumber (i : ℕ) (serial_number : Option (List ByteBuffer.Byte))
  | closeDevice (i j : ℕ)
  | pinCall (i j : ℕ) (c : PinCall)

/-- The nodes of a list, as a client finds them by following the links. -/
def nodesOf (heap : Heap) (head : Ptr) : List ℤ :=
  (walk UsbIoInternal.next 0 heap.cell heap.calls head).getD []

variable {W : Type}

/-- The nodes of all lists. -/
def Session.nodes (s : Session W) : List Ptr := (s.lists.map OpenList.head).flatMap (nodesOf s.heap)

/-- The device handles in them. -/
def Session.usbhs (s : Session W) : List Ptr := s.nodes.map (usbhOf s.heap)

/-- Do something with the i-th list; without such a list there is nothing to do. -/
def Session.withList (s : Session W) (i : ℕ) (f : OpenList → Option (Session W)) : Option (Session W) :=
  match s.lists[i]? with
  | none => some s
  | some l => f l

/-- Keep a handle opened on the i-th list unless it is NULL. -/
def Session.keepHandle (s : Session W) (i : ℕ) (l : OpenList) (h : Ptr) : Session W :=
  if h=0 then s else {s with lists := s.lists.set i {l with handles := h::l.handles}}

/-- Execute an action. -/
def Action.run (hid : HidLayer W) (s : Session W) : Action → Option (Session W)
  | getDeviceList =>
    let r := usbIoGetDeviceList hid s.heap s.world
    some ⟨r.2.1,r.2.2,s.lists++[⟨r.1,[]⟩]⟩
  | freeDeviceList i =>
    s.withList i fun l =>
      (usbIoFreeDeviceList hid l.head s.heap s.world).map fun r => ⟨r.1,r.2,s.lists.eraseIdx i⟩
  | openDevice i k =>
    s.withList i fun l =>
      (walk UsbIoInternal.next 0 s.heap.cell s.heap.calls l.head).bind fun nodes =>
        match nodes[k]? with
        | none => some s
        | some a => (usbIoOpenDevice a s.heap).map (s.keepHandle i l)
  | openWithSerialNumber i serial_number =>
    s.withList i fun l =>
      (usbIoDeviceOpenWithSerialNumber l.head serial_number s.heap).map (s.keepHandle i l)
  | closeDevice i j =>
    s.withList i fun l =>
      match l.handles[j]? with
      | none => some s
      | some h =>
        let r := usbIoCloseDevice h s.heap s.world
        some ⟨r.1,r.2,s.lists⟩
  | pinCall i j c =>
    s.withList i fun l =>
      match l.handles[j]? with
      | none => some s
      | some h => (c.run hid s.heap h s.world).map fun r => {s with world := r.world}

/-- One step of a session in which lists are requested only in states that `R` allows. -/
def Step (hid : HidLayer W) (R : Session W → Prop) (s t : Session W) : Prop :=
  ∃ a : Action,(a=.getDeviceList → R s) ∧ a.run hid s=some t

/-- Actions one after the other. -/
def runAll (hid : HidLayer W) (s : Session W) (actions : List Action) : Option (Session W) :=
  actions.foldlM (Action.run hid) s

/-- They are a session in which lists are requested at any time. -/
theorem steps_of_runAll {hid : HidLayer W} {s t : Session W} {actions : List Action}
    (h : runAll hid s actions=some t) : Relation.ReflTransGen (Step hid fun _ => True) s t := by
  induction actions generalizing s with
  | nil =>
    cases h
    exact .refl
  | cons a actions ih =>
    rw [runAll,List.foldlM_cons] at h
    obtain ⟨v,hv,hrest⟩ := Option.bind_eq_some_iff.mp h
    exact .head ⟨a,fun _ => trivial,hv⟩ (ih hrest)

end Machine

section Lists

variable {heap heap' : Heap} {l : OpenList} {head : Ptr} {nodes : List ℤ}

/-- A list of the client is in order: it is linked, its nodes are at
addresses that were given out and carry their own ids, and the handles
opened on it are its nodes. -/
structure ListOk (heap : Heap) (l : OpenList) : Prop where
  /-- The nodes are linked up to NULL. -/
  linked : Chain UsbIoInternal.next 0 heap.cell l.head (nodesOf heap l.head)
  /-- Their addresses were given out. -/
  placed : ∀ a∈nodesOf heap l.head,0<a ∧ a≤(heap.calls : ℤ)
  /-- The serial number of each is its own id. -/
  serial : ∀ a∈nodesOf heap l.head,∀ n,heap.cell a=some n → n.serial_number=a
  /-- Handles are nodes. -/
  handles : ∀ h∈l.handles,h∈nodesOf heap l.head

/-- Different addresses that were given out are no more than the calls. -/
theorem length_le_calls (hnd : nodes.Nodup) (hp : ∀ a∈nodes,0<a ∧ a≤(heap.calls : ℤ)) :
    nodes.length≤heap.calls := by
  have hsub : nodes.toFinset⊆Finset.Icc 1 (heap.calls : ℤ) := by
    intro a ha
    have hb := hp a (List.mem_toFinset.mp ha)
    rw [Finset.mem_Icc]
    omega
  have hcard := Finset.card_le_card hsub
  rw [List.toFinset_card_of_nodup hnd,Int.card_Icc] at hcard
  omega

/-- The nodes of a chain are the nodes a client finds. -/
theorem nodesOf_eq (hchain : Chain UsbIoInternal.next 0 heap.cell head nodes)
    (hp : ∀ a∈nodes,0<a ∧ a≤(heap.calls : ℤ)) : nodesOf heap head=nodes := by
  rw [nodesOf,hchain.walk_eq (length_le_calls hchain.nodup hp),Option.getD_some]

/-- A client that follows the links gets to the end. -/
theorem ListOk.walk_eq (h : ListOk heap l) :
    walk UsbIoInternal.next 0 heap.cell heap.calls l.head=some (nodesOf heap l.head) :=
  h.linked.walk_eq (length_le_calls h.linked.nodup h.placed)

/-- A node of a list is a live handle. -/
theorem ListOk.live (h : ListOk heap l) {a : Ptr} (ha : a∈nodesOf heap l.head) :
    ∃ n,LiveHandle heap a n ∧ n.usbh=usbhOf heap a ∧ n.serial_number=a := by
  obtain ⟨hne,n,hn⟩ := h.linked.mem ha
  refine ⟨n,⟨hne,hn⟩,?_,h.serial a ha n hn⟩
  rw [usbhOf,hn,Option.map_some,Option.getD_some]

/-- The node made for a device holds its handle and points to its own id. -/
theorem nodeFor_spec {a : ℤ} {k : Kept} (h : NodeFor heap a k) :
    usbhOf heap a=k.usbh ∧ ∀ n,heap.cell a=some n → n.serial_number=a := by
  obtain ⟨b,hb⟩ := h
  refine ⟨by rw [usbhOf,hb]; rfl,fun n hn => ?_⟩
  obtain rfl := Option.some.inj (hb.symm.trans hn)
  rfl

/-- The nodes made for some devices hold their handles in order. -/
theorem nodesFor_usbhs {kept : List Kept} (h : List.Forall₂ (NodeFor heap) nodes kept) :
    nodes.map (usbhOf heap)=kept.map Kept.usbh := by
  induction h with
  | nil => rfl
  | cons hk _ ih => rw [List.map_cons,List.map_cons,(nodeFor_spec hk).1,ih]

/-- Each of them points to its own id. -/
theorem nodesFor_serial {kept : List Kept} (h : List.Forall₂ (NodeFor heap) nodes kept) :
    ∀ a∈nodes,∀ n,heap.cell a=some n → n.serial_number=a := by
  induction h with
  | nil => exact fun a ha => absurd ha List.not_mem_nil
  | cons hk _ ih =>
    intro a ha
    rcases List.mem_cons.mp ha with rfl|ha
    · exact (nodeFor_spec hk).2
    · exact ih a ha

/-- A list only depends on its own nodes. -/
theorem ListOk.moved (h : ListOk heap l) (hcell : ∀ a∈nodesOf heap l.head,heap'.cell a=heap.cell a)
    (hcalls : heap.calls≤heap'.calls) :
    nodesOf heap' l.head=nodesOf heap l.head ∧ ListOk heap' l := by
  have hplaced : ∀ a∈nodesOf heap l.head,0<a ∧ a≤(heap'.calls : ℤ) := by
    intro a ha
    have hb := h.placed a ha
    omega
  have hlinked := h.linked.congr hcell
  have hnodes : nodesOf heap' l.head=nodesOf heap l.head := nodesOf_eq hlinked hplaced
  refine ⟨hnodes,?_,?_,?_,?_⟩
  · rw [hnodes]
    exact hlinked
  · rw [hnodes]
    exact hplaced
  · rw [hnodes]
    intro a ha n hn
    exact h.serial a ha n ((hcell a ha).symm.trans hn)
  · rw [hnodes]
    exact h.handles

/-- A list just built is in order, with the nodes built. -/
theorem listOk_of_built {before : Heap} {c : Enumctx×Heap} {kept : List Kept} (h : BuiltList before c nodes kept) :
    nodesOf c.2 c.1.head=nodes ∧ ListOk c.2 ⟨c.1.head,[]⟩ := by
  have hnodes : nodesOf c.2 c.1.head=nodes := nodesOf_eq h.chain h.placed
  have hserial := nodesFor_serial h.contents
  exact ⟨hnodes,hnodes ▸ h.chain,hnodes ▸ h.placed,hnodes ▸ hserial,fun q hq => absurd hq List.not_mem_nil⟩

/-- Opening a node gives its address or NULL. -/
theorem usbIoOpenDevice_live {heap : Heap} {a : Ptr} {n : UsbIoInternal} (hlive : LiveHandle heap a n) :
    ∃ h,usbIoOpenDevice a heap=some h ∧ (h≠0 → h=a) := by
  unfold usbIoOpenDevice
  rw [if_neg hlive.nonzero,hlive.cell,Option.map_some]
  by_cases hu : n.usbh=0 ∨ n.usbh=-1
  · exact ⟨0,by rw [if_pos hu],fun h0 => absurd rfl h0⟩
  · exact ⟨a,by rw [if_neg hu],fun _ => rfl⟩

/-- The search for a serial number ends at a node or with NULL. -/
theorem serialLoop_linked {heap : Heap} (serial_number : List ByteBuffer.Byte) {p : Ptr} {nodes : List ℤ} {fuel : ℕ}
    (hchain : Chain UsbIoInternal.next 0 heap.cell p nodes) (hfuel : nodes.length≤fuel)
    (hserial : ∀ a∈nodes,∀ n,heap.cell a=some n → n.serial_number=a) :
    ∃ h,serialLoop serial_number fuel p heap=some h ∧ (h≠0 → h∈nodes) := by
  induction nodes generalizing p fuel with
  | nil =>
    have hp : p=0 := hchain
    refine ⟨0,?_,fun h0 => absurd rfl h0⟩
    cases fuel <;> rw [serialLoop,if_pos hp]
  | cons a rest ih =>
    obtain ⟨rfl,ha,n,hn,htail⟩ := hchain
    cases fuel with
    | zero => exact absurd hfuel (by simp)
    | succ fuel =>
      have hown := hserial p List.mem_cons_self n hn
      rw [serialLoop,if_neg ha,hn,Option.bind_some,hown,hn,Option.bind_some]
      by_cases hc : ByteBuffer.strcmp n.idstr serial_number≠0
      · rw [if_pos hc]
        obtain ⟨h,hloop,hh⟩ := ih htail (by simpa only [List.length_cons,Nat.add_le_add_iff_right] using hfuel)
          fun b hb => hserial b (List.mem_cons_of_mem p hb)
        exact ⟨h,hloop,fun h0 => List.mem_cons_of_mem p (hh h0)⟩
      · rw [if_neg hc]
        obtain ⟨h,hopen,hh⟩ := usbIoOpenDevice_live ⟨ha,hn⟩
        exact ⟨h,hopen,fun h0 => (hh h0) ▸ List.mem_cons_self⟩

/-- Opening by serial number gives a node of the list or NULL. -/
theorem ListOk.openWithSerial (h : ListOk heap l) (serial_number : Option (List ByteBuffer.Byte)) :
    ∃ p,usbIoDeviceOpenWithSerialNumber l.head serial_number heap=some p ∧ (p≠0 → p∈nodesOf heap l.head) := by
  unfold usbIoDeviceOpenWithSerialNumber
  cases serial_number with
  | none => exact ⟨0,rfl,fun h0 => absurd rfl h0⟩
  | some sn =>
    by_cases hhead : l.head=0
    · exact ⟨0,if_pos hhead,fun h0 => absurd rfl h0⟩
    · simp only [if_neg hhead]
      exact serialLoop_linked sn h.linked (length_le_calls h.linked.nodup h.placed) h.serial

end Lists

section Accounts

variable {W : Type} {hid : HidLayer W}

/-- The accounts of a session: every list is in order, no node is in two
lists or twice in one, and the handles in the nodes are exactly those that
are out. -/
structure Accounts (C : Custody hid) (s : Session W) : Prop where
  /-- The lists are in order. -/
  lists : ∀ l∈s.lists,ListOk s.heap l
  /-- No two places in lists share a node. -/
  separate : s.nodes.Nodup
  /-- No address beyond the calls made is in use. -/
  beyond : ∀ a : ℤ,(s.heap.calls : ℤ)<a → s.heap.cell a=none
  /-- The handles in the nodes are the ones that are out. -/
  owned : C.Owned (s.usbhs : Multiset Ptr) s.world

variable {C : Custody hid} {s : Session W} {l : OpenList}

/-- Before the first list. -/
theorem accounts_start {heap : Heap} {w : W} (hb : ∀ a : ℤ,(heap.calls : ℤ)<a → heap.cell a=none)
    (ho : C.Owned 0 w) : Accounts C ⟨heap,w,[]⟩ where
  lists _ hl := absurd hl List.not_mem_nil
  separate := List.nodup_nil
  beyond := hb
  owned := ho

/-- The nodes of lists whose nodes have stayed the same. -/
theorem flatMap_nodesOf {lists : List OpenList} {heap heap' : Heap}
    (h : ∀ l∈lists,nodesOf heap' l.head=nodesOf heap l.head) :
    (lists.map OpenList.head).flatMap (nodesOf heap')=(lists.map OpenList.head).flatMap (nodesOf heap) := by
  refine List.flatMap_congr fun head hhead => ?_
  obtain ⟨l,hl,rfl⟩ := List.mem_map.mp hhead
  exact h l hl

/-- A node of a list is a node of the session. -/
theorem mem_nodes {heap : Heap} {lists : List OpenList} (hl : l∈lists) {a : ℤ} (ha : a∈nodesOf heap l.head) :
    a∈(lists.map OpenList.head).flatMap (nodesOf heap) :=
  List.mem_flatMap.mpr ⟨l.head,List.mem_map_of_mem hl,ha⟩

/-- Every node of the session was given out by the heap. -/
theorem Accounts.placed (h : Accounts C s) {a : ℤ} (ha : a∈s.nodes) : 0<a ∧ a≤(s.heap.calls : ℤ) := by
  obtain ⟨head,hhead,hmem⟩ := List.mem_flatMap.mp ha
  obtain ⟨l,hl,rfl⟩ := List.mem_map.mp hhead
  exact (h.lists l hl).placed a hmem

/-- A step of the owners of the handles keeps the accounts. -/
theorem Accounts.owner (h : Accounts C s) {v : W}
    (hrun : OwnerRun hid (s.world,(s.usbhs : Multiset Ptr)) (v,(s.usbhs : Multiset Ptr))) :
    Accounts C {s with world := v} := ⟨h.lists,h.separate,h.beyond,C.run hrun h.owned⟩

/-- Opening a handle on a node changes nothing else. -/
theorem Accounts.keepHandle (h : Accounts C s) {i : ℕ} (hl : s.lists[i]?=some l) {p : Ptr}
    (hp : p≠0 → p∈nodesOf s.heap l.head) : Accounts C (s.keepHandle i l p) := by
  unfold Session.keepHandle
  by_cases h0 : p=0
  · rw [if_pos h0]
    exact h
  · rw [if_neg h0]
    obtain ⟨hi,hget⟩ := List.getElem?_eq_some_iff.mp hl
    have hmem : l∈s.lists := List.mem_of_getElem? hl
    have hheads : (s.lists.set i {l with handles := p::l.handles}).map OpenList.head=s.lists.map OpenList.head := by
      rw [List.map_set]
      subst hget
      have hi' : i<(s.lists.map OpenList.head).length := by
        rw [List.length_map]
        exact hi
      have hself := List.set_getElem_self hi'
      rw [List.getElem_map] at hself
      exact hself
    have hnodes : Session.nodes {s with lists := s.lists.set i {l with handles := p::l.handles}}=s.nodes :=
      congrArg (fun heads => List.flatMap (nodesOf s.heap) heads) hheads
    refine ⟨?_,?_,h.beyond,?_⟩
    · intro l' hl'
      rcases List.mem_or_eq_of_mem_set hl' with hl'|rfl
      · exact h.lists l' hl'
      · have hok := h.lists l hmem
        refine ⟨hok.linked,hok.placed,hok.serial,?_⟩
        intro q hq
        rcases List.mem_cons.mp hq with rfl|hq
        · exact hp h0
        · exact hok.handles q hq
    · rw [hnodes]
      exact h.separate
    · rw [Session.usbhs,hnodes]
      exact h.owned

/-- A new list holds the devices the callback kept, behind all nodes before. -/
theorem Accounts.get (h : Accounts C s) (hready : C.Ready (s.usbhs : Multiset Ptr) s.world) :
    ∃ t,Action.getDeviceList.run hid s=some t ∧ Accounts C t := by
  obtain ⟨T,⟨nodes,kept,hlist,rfl⟩,howned⟩ := C.enumerate h.owned hready (enumfunc_abides s.heap)
    (⟨[],[],BuiltList.start s.heap h.beyond,rfl⟩ : Keeping s.heap (⟨0,0,0,0⟩,s.heap) 0)
  let r := hid.usbhidEnumDevices USB_CFG_VENDOR_ID USB_CFG_DEVICE_ID (⟨0,0,0,0⟩,s.heap) (enumfunc hid) s.world
  refine ⟨⟨r.context.2,r.world,s.lists++[⟨r.context.1.head,[]⟩]⟩,rfl,?_⟩
  obtain ⟨hnodes,hok⟩ : nodesOf r.context.2 r.context.1.head=nodes ∧ ListOk r.context.2 ⟨r.context.1.head,[]⟩ :=
    listOk_of_built hlist
  have husbhs := nodesFor_usbhs hlist.contents
  have hold : ∀ l∈s.lists,nodesOf r.context.2 l.head=nodesOf s.heap l.head ∧ ListOk r.context.2 l := by
    intro l hl
    refine (h.lists l hl).moved (fun a ha => hlist.frame a ?_) hlist.calls
    exact ((h.lists l hl).placed a ha).2
  have hall : Session.nodes ⟨r.context.2,r.world,s.lists++[⟨r.context.1.head,[]⟩]⟩=s.nodes++nodes := by
    rw [Session.nodes,List.map_append,List.flatMap_append,flatMap_nodesOf fun l hl => (hold l hl).1]
    simp only [List.map_cons,List.map_nil,List.flatMap_singleton,hnodes]
    rfl
  have hkeepUsbh : s.nodes.map (usbhOf r.context.2)=s.usbhs := by
    refine List.map_congr_left fun a ha => ?_
    rw [usbhOf,hlist.frame a (h.placed ha).2]
    rfl
  refine ⟨?_,?_,hlist.beyond,?_⟩
  · intro l hl
    rcases List.mem_append.mp hl with hl|hl
    · exact (hold l hl).2
    · obtain rfl := List.mem_singleton.mp hl
      exact hok
  · rw [hall]
    refine List.nodup_append.mpr ⟨h.separate,hlist.chain.nodup,?_⟩
    intro a ha b hb hab
    have hlo := (h.placed ha).2
    have hhi := (hlist.fresh b hb).1
    subst hab
    omega
  · rw [Session.usbhs,hall,List.map_append,hkeepUsbh,husbhs,←Multiset.coe_add]
    exact howned

/-- Freeing a list returns: its nodes are freed, the handles in them are
closed in this order, and the other lists are as they were. -/
theorem Accounts.free (h : Accounts C s) {i : ℕ} (hl : s.lists[i]?=some l) :
    ∃ t,(Action.freeDeviceList i).run hid s=some t ∧ Accounts C t ∧
      Freed s.heap t.heap (nodesOf s.heap l.head) ∧ t.lists=s.lists.eraseIdx i ∧
      t.world=closeAll hid ((nodesOf s.heap l.head).map (usbhOf s.heap)) s.world ∧
      OwnerRun hid (s.world,(s.usbhs : Multiset Ptr)) (t.world,(t.usbhs : Multiset Ptr)) := by
  obtain ⟨hi,hget⟩ := List.getElem?_eq_some_iff.mp hl
  have hmem : l∈s.lists := List.mem_of_getElem? hl
  have hok := h.lists l hmem
  let rest := ((s.lists.eraseIdx i).map OpenList.head).flatMap (nodesOf s.heap)
  have hperm : List.Perm (nodesOf s.heap l.head++rest) s.nodes := by
    have hp := List.getElem_cons_eraseIdx_perm hi
    rw [hget] at hp
    exact (hp.map OpenList.head).flatMap_right (nodesOf s.heap)
  have hnd := List.nodup_append.mp (hperm.nodup_iff.mpr h.separate)
  have husbhs : (s.usbhs : Multiset Ptr)=((rest.map (usbhOf s.heap) : List Ptr) : Multiset Ptr)+
      (((nodesOf s.heap l.head).map (usbhOf s.heap) : List Ptr) : Multiset Ptr) := by
    rw [Session.usbhs,←Multiset.coe_eq_coe.mpr (hperm.map (usbhOf s.heap)),List.map_append,
      ←Multiset.coe_add,Multiset.add_comm]
  have hvalid : ∀ a∈nodesOf s.heap l.head,usbhOf s.heap a≠0 ∧ usbhOf s.heap a≠-1 := by
    intro a ha
    exact C.valid h.owned (Multiset.mem_coe.mpr (List.mem_map_of_mem (mem_nodes hmem ha)))
  obtain ⟨heap',hloop,hfreed⟩ := freeLoop_run hid s.world hok.linked
    (length_le_calls hok.linked.nodup hok.placed) hvalid
  have hrun : OwnerRun hid _ _ := ownerRun_closeAll ((rest.map (usbhOf s.heap) : List Ptr) : Multiset Ptr)
    ((nodesOf s.heap l.head).map (usbhOf s.heap)) s.world
  rw [←husbhs] at hrun
  generalize closeAll hid ((nodesOf s.heap l.head).map (usbhOf s.heap)) s.world=v at hloop hrun ⊢
  have hrestcell : ∀ a∈rest,heap'.cell a=s.heap.cell a :=
    fun a ha => hfreed.others a fun hm => hnd.2.2 a hm a ha rfl
  have hkept : ∀ l'∈s.lists.eraseIdx i,nodesOf heap' l'.head=nodesOf s.heap l'.head ∧ ListOk heap' l' := by
    intro l' hl'
    refine (h.lists l' (List.mem_of_mem_eraseIdx hl')).moved (fun a ha => ?_) hfreed.calls.ge
    exact hrestcell a (mem_nodes hl' ha)
  have hnodes : Session.nodes ⟨heap',v,s.lists.eraseIdx i⟩=rest := flatMap_nodesOf fun l' hl' => (hkept l' hl').1
  have hrestUsbh : rest.map (usbhOf heap')=rest.map (usbhOf s.heap) := by
    refine List.map_congr_left fun a ha => ?_
    rw [usbhOf,hrestcell a ha]
    rfl
  have husbhs' : Session.usbhs ⟨heap',v,s.lists.eraseIdx i⟩=rest.map (usbhOf s.heap) := by
    rw [Session.usbhs,hnodes,hrestUsbh]
  rw [←husbhs'] at hrun
  refine ⟨⟨heap',v,s.lists.eraseIdx i⟩,?_,⟨fun l' hl' => (hkept l' hl').2,?_,?_,C.run hrun h.owned⟩,
    hfreed,rfl,rfl,hrun⟩
  · simp only [Action.run,Session.withList,hl,usbIoFreeDeviceList,hloop,Option.map_some]
  · rw [hnodes]
    exact hnd.2.1
  · intro a ha
    rw [hfreed.calls] at ha
    have hnone := h.beyond a ha
    by_cases hm : a∈nodesOf s.heap l.head
    · exact hfreed.gone a hm
    · rw [hfreed.others a hm]
      exact hnone

/-- What keeps the accounts for any list keeps them for the i-th. -/
theorem Accounts.withList (h : Accounts C s) {i : ℕ} {f : OpenList → Option (Session W)}
    (hf : ∀ l,s.lists[i]?=some l → ∃ t,f l=some t ∧ Accounts C t) : ∃ t,s.withList i f=some t ∧ Accounts C t := by
  unfold Session.withList
  cases hl : s.lists[i]? with
  | none => exact ⟨s,rfl,h⟩
  | some l => exact hf l hl

/-- A pin call on a handle of a list returns and keeps the accounts. -/
theorem Accounts.pinCall (h : Accounts C s) (hl : l∈s.lists) {p : Ptr} (hp : p∈l.handles) (c : PinCall) :
    ∃ r,c.run hid s.heap p s.world=some r ∧ Accounts C {s with world := r.world} := by
  have hnode := (h.lists l hl).handles p hp
  obtain ⟨n,hlive,hn,-⟩ := (h.lists l hl).live hnode
  obtain ⟨r,hr,huse⟩ := pinCall_use hid hlive c s.world
  refine ⟨r,hr,h.owner ?_⟩
  rcases huse with he|huse
  · rw [he]
  · rw [hn] at huse
    exact .single (.use (Multiset.mem_coe.mpr (List.mem_map_of_mem (mem_nodes hl hnode))) huse)

/-- Every action is survived and keeps the accounts, if lists are requested
only when the backend is ready for it. -/
theorem Accounts.run (h : Accounts C s) (a : Action)
    (hready : a=.getDeviceList → C.Ready (s.usbhs : Multiset Ptr) s.world) :
    ∃ t,a.run hid s=some t ∧ Accounts C t := by
  cases a with
  | getDeviceList => exact h.get (hready rfl)
  | freeDeviceList i =>
    refine h.withList fun l hl => ?_
    obtain ⟨t,hrun,ht,-⟩ := h.free hl
    simp only [Action.run,Session.withList,hl] at hrun
    exact ⟨t,hrun,ht⟩
  | openDevice i k =>
    refine h.withList fun l hl => ?_
    have hok := h.lists l (List.mem_of_getElem? hl)
    rw [hok.walk_eq,Option.bind_some]
    cases hk : (nodesOf s.heap l.head)[k]? with
    | none => exact ⟨s,rfl,h⟩
    | some a =>
      have ha := List.mem_of_getElem? hk
      obtain ⟨n,hlive,-⟩ := hok.live ha
      obtain ⟨p,hopen,hp⟩ := usbIoOpenDevice_live hlive
      dsimp only
      rw [hopen,Option.map_some]
      exact ⟨_,rfl,h.keepHandle hl fun h0 => (hp h0) ▸ ha⟩
  | openWithSerialNumber i serial_number =>
    refine h.withList fun l hl => ?_
    obtain ⟨p,hp,hmem⟩ := (h.lists l (List.mem_of_getElem? hl)).openWithSerial serial_number
    rw [hp,Option.map_some]
    exact ⟨_,rfl,h.keepHandle hl hmem⟩
  | closeDevice i j =>
    refine h.withList fun l hl => ?_
    cases hj : l.handles[j]? with
    | none => exact ⟨s,rfl,h⟩
    | some p => exact ⟨s,rfl,h⟩
  | pinCall i j c =>
    refine h.withList fun l hl => ?_
    cases hj : l.handles[j]? with
    | none => exact ⟨s,rfl,h⟩
    | some p =>
      obtain ⟨r,hr,hacc⟩ := h.pinCall (List.mem_of_getElem? hl) (List.mem_of_getElem? hj) c
      dsimp only
      rw [hr,Option.map_some]
      exact ⟨_,rfl,hacc⟩

/-- Whole sessions keep the accounts. -/
theorem Accounts.session {R : Session W → Prop} {t : Session W} (h : Accounts C s)
    (hR : ∀ s,Accounts C s → R s → C.Ready (s.usbhs : Multiset Ptr) s.world)
    (hrun : Relation.ReflTransGen (Step hid R) s t) : Accounts C t := by
  induction hrun with
  | refl => exact h
  | tail _ hstep ih =>
    obtain ⟨a,hallowed,ha⟩ := hstep
    obtain ⟨t',ht',hacc⟩ := ih.run a fun hget => hR _ ih (hallowed hget)
    obtain rfl := Option.some.inj (ht'.symm.trans ha)
    exact hacc

end Accounts

end UsbIo16.ListSessions
