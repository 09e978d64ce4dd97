import UsbIo16.CallPrograms
import UsbIo16.ListedDevices
import UsbIo16.PinArray
import UsbIo16.SerialNumbers

/-!
# A client and its list

A client of the library that has at most one list at a time, as all programs
that come with it do. What holds while it has the list is put together in
one invariant, over any custody of the handles; there is one lemma for each
function such a client calls, and any program of pin calls on one of its
devices is survived. A client that has no list holds the empty one.
-/

namespace UsbIo16.HeldList

open ByteBuffer Hiddata IoInterface NodeChain DeviceList DeviceVisits PinCalls Ownership ListSessions
open ListedDevices CallPrograms PinArray

section Machine

/-- Pin calls on one handle, as a machine for programs that make them. -/
def pinMachine {W : Type} (hid : HidLayer W) (heap : Heap) (hHandle : Ptr) (c : PinCall) (w : W) :
    Option (Answer×W) :=
  (c.run hid heap hHandle w).map fun r => (told r,r.world)

end Machine

section Holding

variable {W : Type} {hid : HidLayer W}

/-- The session of a client with one list. -/
abbrev held (heap : Heap) (w : W) (head : Ptr) : Session W := ⟨heap,w,[⟨head,[]⟩]⟩

/-- What holds while a client has the list with this head. -/
structure Holding (C : Custody hid) (heap : Heap) (w : W) (head : Ptr) : Prop where
  /-- The nodes are in order, and hold the handles that are out. -/
  accounts : Accounts C (held heap w head)
  /-- Each node is as listed for a device. -/
  listed : ∀ a∈nodesOf heap head,∀ n,heap.cell a=some n → Listed a n
  /-- No other node is allocated. -/
  tidy : ∀ a : ℤ,heap.cell a≠none → a∈nodesOf heap head

variable {C : Custody hid} {heap : Heap} {w : W} {head a : Ptr}

/-- The empty list has no nodes. -/
theorem nodesOf_null (heap : Heap) : nodesOf heap 0=[] := by
  rw [nodesOf]
  cases heap.calls <;> rw [walk,if_pos rfl] <;> rfl

/-- The nodes of the session are those of the list. -/
theorem held_nodes (heap : Heap) (w : W) (head : Ptr) : (held heap w head).nodes=nodesOf heap head :=
  List.append_nil (nodesOf heap head)

/-- Holding the empty list is having none. -/
theorem accounts_null : Accounts C (held heap w 0) ↔ Accounts C ⟨heap,w,[]⟩ := by
  have hnodes : (held heap w 0).nodes=Session.nodes ⟨heap,w,[]⟩ := by
    rw [held_nodes,nodesOf_null]
    rfl
  have husbhs : (held heap w 0).usbhs=Session.usbhs ⟨heap,w,[]⟩ := congrArg (List.map (usbhOf heap)) hnodes
  constructor
  · intro h
    exact ⟨fun l hl => absurd hl List.not_mem_nil,hnodes ▸ h.separate,h.beyond,husbhs ▸ h.owned⟩
  · intro h
    refine ⟨fun l hl => ?_,hnodes.symm ▸ h.separate,h.beyond,husbhs.symm ▸ h.owned⟩
    obtain rfl := List.mem_singleton.mp hl
    have hnil := nodesOf_null heap
    refine ⟨?_,?_,?_,fun p hp => absurd hp List.not_mem_nil⟩
    · rw [hnil]
      rfl
    · rw [hnil]
      exact fun a ha => absurd ha List.not_mem_nil
    · rw [hnil]
      exact fun a ha => absurd ha List.not_mem_nil

/-- Without a list nothing is allocated. -/
theorem Holding.empty (h : Holding C heap w 0) (a : ℤ) : heap.cell a=none := by
  by_contra hne
  have hm := h.tidy a hne
  rw [nodesOf_null] at hm
  exact absurd hm List.not_mem_nil

/-- Without a list no handle is out. -/
theorem Holding.noneOut (h : Holding C heap w 0) : C.Owned 0 w := by
  have howned := h.accounts.owned
  have husbhs : (held heap w 0).usbhs=[] := by
    rw [Session.usbhs,held_nodes,nodesOf_null]
    rfl
  rw [husbhs] at howned
  exact howned

/-- So it is when the program starts. -/
theorem holding_start (fails : ℕ → Bool) (ho : C.Owned 0 w) : Holding C (Heap.empty fails) w 0 where
  accounts := accounts_null.mpr (accounts_start (fun _ _ => rfl) ho)
  listed a ha := by
    rw [nodesOf_null] at ha
    exact absurd ha List.not_mem_nil
  tidy _ hne := absurd rfl hne

/-- The list is in order. -/
theorem Holding.listOk (h : Holding C heap w head) : ListOk heap ⟨head,[]⟩ :=
  h.accounts.lists _ (List.mem_singleton.mpr rfl)

/-- Its nodes are linked up to NULL. -/
theorem Holding.linked (h : Holding C heap w head) :
    Chain UsbIoInternal.next 0 heap.cell head (nodesOf heap head) := h.listOk.linked

/-- They are no more than the nodes ever allocated. -/
theorem Holding.length_le (h : Holding C heap w head) : (nodesOf heap head).length≤heap.calls :=
  length_le_calls h.linked.nodup h.listOk.placed

/-- There is no node exactly when the head is NULL. -/
theorem Holding.nil_iff (h : Holding C heap w head) : nodesOf heap head=[] ↔ head=0 := h.linked.nil_iff

/-- A head that is not NULL is a node. -/
theorem Holding.head_mem (h : Holding C heap w head) (h0 : head≠0) : head∈nodesOf heap head := by
  have hlinked := h.linked
  cases hn : nodesOf heap head with
  | nil => exact absurd (hlinked.nil_iff.mp hn) h0
  | cons a rest =>
    rw [hn] at hlinked
    obtain ⟨rfl,-⟩ := hlinked
    exact List.mem_cons_self

/-- A node of the list is allocated, and as listed. -/
theorem Holding.node (h : Holding C heap w head) (ha : a∈nodesOf heap head) :
    ∃ n,LiveHandle heap a n ∧ n.usbh=usbhOf heap a ∧ Listed a n := by
  obtain ⟨n,hlive,husbh,-⟩ := h.listOk.live ha
  exact ⟨n,hlive,husbh,h.listed a ha n hlive.cell⟩

/-- The handle in a node is out, and proper. -/
theorem Holding.usbh (h : Holding C heap w head) (ha : a∈nodesOf heap head) :
    usbhOf heap a∈((held heap w head).usbhs : Multiset Ptr) ∧ usbhOf heap a≠0 ∧ usbhOf heap a≠-1 := by
  have hmem : usbhOf heap a∈((held heap w head).usbhs : Multiset Ptr) := by
    rw [Session.usbhs,held_nodes]
    exact Multiset.mem_coe.mpr (List.mem_map_of_mem ha)
  exact ⟨hmem,C.valid h.accounts.owned hmem⟩

/-- Opening a node of the list never fails. -/
theorem Holding.openDevice (h : Holding C heap w head) (ha : a∈nodesOf heap head) :
    usbIoOpenDevice a heap=some a := by
  obtain ⟨n,hlive,husbh,-⟩ := h.node ha
  obtain ⟨-,hvalid⟩ := h.usbh ha
  rw [←husbh] at hvalid
  rw [usbIoOpenDevice,if_neg hlive.nonzero,hlive.cell,Option.map_some,if_neg (not_or.mpr hvalid)]

/-- Walking the list reads the ids of its nodes. -/
theorem Holding.serials (h : Holding C heap w head) :
    ListedDevices.serials heap heap.calls head=some ((nodesOf heap head).map (idOf heap)) :=
  serials_linked h.linked h.length_le h.listed

/-- The id of a node. -/
theorem Holding.text (h : Holding C heap w head) (ha : a∈nodesOf heap head) :
    serialText heap a=some (idOf heap a) ∧ textAt heap a=some (idOf heap a) ∧ Printable (idOf heap a) := by
  obtain ⟨n,hlive,-,hl⟩ := h.node ha
  obtain ⟨htext,-,hprintable⟩ := hl.text hlive.cell
  exact ⟨serialText_listed hlive.cell hl,htext,hprintable⟩

/-- A lookup among values computed from the keys is a search. -/
theorem lookup_zip_map {α β : Type} [BEq β] [LawfulBEq β] [DecidableEq β] (f : α → β) (b : β) (as : List α) :
    ((as.map f).zip as).lookup b=as.find? fun a => decide (f a=b) := by
  induction as with
  | nil => rfl
  | cons a as ih =>
    rw [List.map_cons,List.zip_cons_cons,List.find?_cons]
    by_cases hb : f a=b
    · subst hb
      rw [List.lookup_cons_self,decide_eq_true rfl]
    · have hne : b≠f a := fun he => hb he.symm
      rw [SerialNumbers.lookup_cons_ne hne,ih,decide_eq_false hb]

/-- Opening by serial number gives the first node with that id, or NULL. -/
theorem Holding.openWithSerial (h : Holding C heap w head) (serial_number : List Byte) :
    usbIoDeviceOpenWithSerialNumber head (some serial_number) heap=
      some (((nodesOf heap head).find? fun a => decide (idOf heap a=cstr serial_number)).getD 0) := by
  let kept : Ptr → Kept := fun a => ⟨usbhOf heap a,idOf heap a⟩
  have hnodes : List.Forall₂ (SerialNumbers.Openable heap) (nodesOf heap head) ((nodesOf heap head).map kept) := by
    rw [List.forall₂_map_right_iff,List.forall₂_same]
    intro a ha
    obtain ⟨n,hlive,husbh,hl⟩ := h.node ha
    obtain ⟨htext,-⟩ := hl.text hlive.cell
    rw [textAt,hlive.cell,Option.map_some] at htext
    exact ⟨⟨n,hlive.cell,hl.own,Option.some.inj htext,husbh⟩,(h.usbh ha).2⟩
  have hlookup := SerialNumbers.openWithSerialNumber_lookup serial_number h.linked h.length_le hnodes
  have hmap : ((nodesOf heap head).map kept).map Kept.id=(nodesOf heap head).map (idOf heap) := by
    rw [List.map_map]
    rfl
  rw [hmap,lookup_zip_map] at hlookup
  exact hlookup

/-- Where the first node with an id is found. -/
theorem Holding.find (h : Holding C heap w head) (id : List Byte) :
    (∃ a∈nodesOf heap head,(nodesOf heap head).find? (fun a => decide (idOf heap a=id))=some a ∧
        idOf heap a=id ∧ a≠0) ∨
      (nodesOf heap head).find? (fun a => decide (idOf heap a=id))=none ∧
        id∉(nodesOf heap head).map (idOf heap) := by
  cases hf : (nodesOf heap head).find? fun a => decide (idOf heap a=id) with
  | none =>
    refine .inr ⟨rfl,fun hm => ?_⟩
    obtain ⟨a,ha,hid⟩ := List.mem_map.mp hm
    have hno := List.find?_eq_none.mp hf a ha
    exact hno (decide_eq_true hid)
  | some a =>
    have ha := List.mem_of_find?_eq_some hf
    have hid := List.find?_some hf
    obtain ⟨n,hlive,-⟩ := h.node ha
    exact .inl ⟨a,ha,rfl,of_decide_eq_true hid,hlive.nonzero⟩

/-- A step of the owners of the handles keeps what holds. -/
theorem Holding.moved (h : Holding C heap w head) {v : W}
    (hrun : OwnerRun hid (w,((held heap w head).usbhs : Multiset Ptr)) (v,((held heap w head).usbhs : Multiset Ptr))) :
    Holding C heap v head := ⟨h.accounts.owner hrun,h.listed,h.tidy⟩

/-- A use of a device of the list keeps it. -/
theorem Holding.use (h : Holding C heap w head) (ha : a∈nodesOf heap head) {v : W}
    (huse : Relation.ReflTransGen (HandleUse hid (usbhOf heap a)) w v) : Holding C heap v head :=
  h.moved (ownerRun_uses huse (h.usbh ha).1)

/-- A pin call on a device of the list returns; it makes at most one
transfer, on this device, and keeps what holds. -/
theorem Holding.pinCall (h : Holding C heap w head) (ha : a∈nodesOf heap head) (c : PinCall) :
    ∃ r,c.run hid heap a w=some r ∧ Holding C heap r.world head ∧
      (r.world=w ∨ HandleUse hid (usbhOf heap a) w r.world) := by
  obtain ⟨n,hlive,husbh,-⟩ := h.node ha
  obtain ⟨r,hr,huse⟩ := pinCall_use hid hlive c w
  rw [husbh] at huse
  refine ⟨r,hr,?_,huse⟩
  rcases huse with he|huse
  · rw [he]
    exact h
  · exact h.use ha (.single huse)

/-- Any program of pin calls on a device of the list returns, uses no other
device, and keeps what holds. -/
theorem Holding.program {R : Type} (h : Holding C heap w head) (ha : a∈nodesOf heap head)
    (p : Prog PinCall Answer R) :
    ∃ r v,p.exec (pinMachine hid heap a) w=some (r,v) ∧ Holding C heap v head ∧
      Relation.ReflTransGen (HandleUse hid (usbhOf heap a)) w v := by
  let Inv : W → Prop := fun v => Holding C heap v head ∧ Relation.ReflTransGen (HandleUse hid (usbhOf heap a)) w v
  have hstep : ∀ c v,True → Inv v → ∃ x u,pinMachine hid heap a c v=some (x,u) ∧ Inv u := by
    rintro c v - ⟨hv,hrun⟩
    obtain ⟨r,hr,hnext,huse⟩ := hv.pinCall ha c
    refine ⟨told r,r.world,by rw [pinMachine,hr,Option.map_some],hnext,?_⟩
    rcases huse with he|huse
    · rw [he]
      exact hrun
    · exact hrun.tail huse
  obtain ⟨r,v,hexec,hv,hrun⟩ := Prog.exec_keeps hstep p.calls_any (s := w) ⟨h,.refl⟩
  exact ⟨r,v,hexec,hv,hrun⟩

/-- A client without a list may request one when the backend is ready; it
then has the list. -/
theorem Holding.get (h : Holding C heap w 0) (hready : C.Ready 0 w) :
    Holding C (usbIoGetDeviceList hid heap w).2.1 (usbIoGetDeviceList hid heap w).2.2
      (usbIoGetDeviceList hid heap w).1 := by
  have hacc := accounts_null.mp h.accounts
  obtain ⟨t,ht,hget⟩ := hacc.get hready
  obtain rfl := Option.some.inj ht
  -- what the callback makes is followed along the same enumeration once more
  let J : Enumctx×Heap → Multiset Ptr → Prop := fun c S =>
    Keeping heap c S ∧ ∃ nodes kept,Made heap c nodes kept
  have habides : Abides hid J (enumfunc hid) := by
    rintro u c w S ⟨hk,nodes,kept,hmade⟩
    obtain ⟨T,hT,hrun⟩ := enumfunc_abides heap u c w S hk
    exact ⟨T,⟨hT,hmade.enumfunc u w⟩,hrun⟩
  have hbeyond : ∀ a : ℤ,(heap.calls : ℤ)<a → heap.cell a=none := fun a _ => h.empty a
  obtain ⟨T,⟨-,nodes,kept,hmade⟩,-⟩ := C.enumerate h.noneOut hready habides
    (c := (⟨0,0,0,0⟩,heap)) ⟨⟨[],[],BuiltList.start heap hbeyond,rfl⟩,[],[],Made.start hbeyond⟩
  have hnodes := (listOk_of_built hmade.toBuiltList).1
  refine ⟨hget,?_,?_⟩
  · intro a ha
    exact hmade.listed a (hnodes ▸ ha)
  · intro a hne
    refine hnodes.symm ▸ hmade.tidy a ?_ hne
    -- an older address is in use only if it was before
    by_contra hold
    have hframe := hmade.frame a (not_lt.mp hold)
    exact hne (hframe.trans (h.empty a))

/-- Freeing the list returns; the client then has none, the nodes are gone
and their handles closed, each once and in the order of the list. -/
theorem Holding.free (h : Holding C heap w head) :
    ∃ heap' w',usbIoFreeDeviceList hid head heap w=some (heap',w') ∧ Holding C heap' w' 0 ∧
      Freed heap heap' (nodesOf heap head) ∧ w'=closeAll hid ((nodesOf heap head).map (usbhOf heap)) w := by
  obtain ⟨t,ht,hacc,hfreed,hlists,hclosed,-⟩ := h.accounts.free (i := 0) rfl
  have hnone : t.lists=[] := hlists
  obtain ⟨heap',w',lists⟩ := t
  dsimp only at hnone
  subst hnone
  simp only [Action.run,Session.withList,List.getElem?_cons_zero] at ht
  obtain ⟨r,hr,he⟩ := Option.map_eq_some_iff.mp ht
  obtain ⟨rfl,rfl⟩ : r.1=heap' ∧ r.2=w' := by
    injection he with h1 h2
    exact ⟨h1,h2⟩
  refine ⟨r.1,r.2,hr,⟨accounts_null.mpr hacc,?_,?_⟩,hfreed,hclosed⟩
  · rw [nodesOf_null]
    exact fun a ha => absurd ha List.not_mem_nil
  · intro a hne
    by_cases hm : a∈nodesOf heap head
    · exact absurd (hfreed.gone a hm) hne
    · rw [hfreed.others a hm] at hne
      exact absurd (h.tidy a hne) hm

end Holding

end UsbIo16.HeldList
