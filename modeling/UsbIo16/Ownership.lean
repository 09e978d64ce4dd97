import Mathlib.Data.Multiset.AddSub
import UsbIo16.DeviceList
import UsbIo16.DeviceVisits
import UsbIo16.PinCalls

/-!
# Handles and their owners

Every function of the library that gets a handle, or a node that holds one,
is found to be a run of its owner: it uses handles it owns and closes them
at most once. What a backend has to guarantee in return is put together in
one structure, so that the results about device lists hold at any of them.
-/

namespace UsbIo16.Ownership

open ByteBuffer Hiddata IoInterface NodeChain DeviceList DeviceVisits PinCalls

variable {W : Type} {hid : HidLayer W}

section Runs

variable {w v : W} {S T R : Multiset Ptr} {u : Ptr}

/-- Any number of steps of the owner of some handles. -/
abbrev OwnerRun (hid : HidLayer W) : W×Multiset Ptr → W×Multiset Ptr → Prop :=
  Relation.ReflTransGen (OwnerStep hid)

/-- An owner never has more handles after a step. -/
theorem ownerStep_le {x y : W×Multiset Ptr} (h : OwnerStep hid x y) : y.2≤x.2 := by
  cases h with
  | close hu => exact Multiset.erase_le _ _
  | use hu huse => exact le_rfl

theorem ownerRun_le {x y : W×Multiset Ptr} (h : OwnerRun hid x y) : y.2≤x.2 := by
  induction h with
  | refl => exact le_rfl
  | tail _ hstep ih => exact (ownerStep_le hstep).trans ih

/-- Handles of other owners do not matter. -/
theorem ownerStep_frame {x y : W×Multiset Ptr} (R : Multiset Ptr) (h : OwnerStep hid x y) :
    OwnerStep hid (x.1,R+x.2) (y.1,R+y.2) := by
  cases h with
  | @close w S u hu =>
    have he : R+S.erase u=(R+S).erase u := (Multiset.erase_add_right_pos R hu).symm
    dsimp only
    rw [he]
    exact .close (Multiset.mem_add.mpr (.inr hu))
  | use hu huse => exact .use (Multiset.mem_add.mpr (.inr hu)) huse

theorem ownerRun_frame {x y : W×Multiset Ptr} (R : Multiset Ptr) (h : OwnerRun hid x y) :
    OwnerRun hid (x.1,R+x.2) (y.1,R+y.2) := by
  induction h with
  | refl => exact .refl
  | tail _ hstep ih => exact ih.tail (ownerStep_frame R hstep)

/-- Closing the handle that was added last. -/
theorem ownerStep_closeHead (u : Ptr) (S : Multiset Ptr) (w : W) :
    OwnerStep hid (w,u::ₘS) (hid.usbhidCloseDevice u w,S) := by
  have hstep : OwnerStep hid (w,u::ₘS) (hid.usbhidCloseDevice u w,(u::ₘS).erase u) :=
    .close (Multiset.mem_cons_self u S)
  rw [Multiset.erase_cons_head] at hstep
  exact hstep

/-- Close some handles, one after the other. -/
def closeAll (hid : HidLayer W) (handles : List Ptr) (w : W) : W :=
  handles.foldl (fun w u => hid.usbhidCloseDevice u w) w

/-- Closing all handles that are owned besides those in `R`. -/
theorem ownerRun_closeAll (R : Multiset Ptr) (handles : List Ptr) (w : W) :
    OwnerRun hid (w,R+(handles : Multiset Ptr)) (closeAll hid handles w,R) := by
  induction handles generalizing w with
  | nil => rw [Multiset.coe_nil,Multiset.add_zero,closeAll,List.foldl_nil]
  | cons u rest ih =>
    have hclose : OwnerStep hid _ _ := ownerStep_frame R (ownerStep_closeHead u (rest : Multiset Ptr) w)
    rw [←Multiset.cons_coe,closeAll,List.foldl_cons]
    exact .head hclose (ih (hid.usbhidCloseDevice u w))

/-- Uses of one handle are a run of its owner. -/
theorem ownerRun_uses (h : Relation.ReflTransGen (HandleUse hid u) w v) (hu : u∈S) :
    OwnerRun hid (w,S) (v,S) := by
  induction h with
  | refl => exact .refl
  | tail _ huse ih => exact ih.tail (.use hu huse)

end Runs

section Callback

variable {w : W} {usbh : Ptr}

/-- The probe of a device only uses its handle. -/
theorem probe_uses (usbh : Ptr) (w : W) :
    Relation.ReflTransGen (HandleUse hid usbh) w (probe hid usbh w).2 := by
  have hvendor : ∀ {v},hid.usbhidGetVendorString usbh ((List.range 256).map hid.indeterminate) 256 w=v →
      Relation.ReflTransGen (HandleUse hid usbh) w v.world := by
    rintro v rfl
    exact .single (.vendor _ _ _)
  have hproduct : ∀ {v p : StringReply W},hid.usbhidGetProductString usbh v.buffer 256 v.world=p →
      HandleUse hid usbh v.world p.world := by
    rintro v p rfl
    exact .product _ _ _
  have hreport : ∀ {p : StringReply W} {r},d16ReadRep hid usbh 0 (some p.buffer) p.world=r →
      HandleUse hid usbh p.world r.world := by
    rintro p r rfl
    rw [d16ReadRep_world]
    exact .receive _ _ _ _
  have hends := probe_ends hid usbh w
  generalize probe hid usbh w=x at hends ⊢
  cases hends with
  | vendor hv _ => exact hvendor hv
  | product hv _ hp _ => exact (hvendor hv).tail (hproduct hp)
  | report hv _ hp _ hr _ => exact ((hvendor hv).tail (hproduct hp)).tail (hreport hr)
  | passed hv _ hp _ hr _ _ => exact ((hvendor hv).tail (hproduct hp)).tail (hreport hr)

/-- The handles the callback kept: those in the nodes of the list so far. -/
def Keeping (before : Heap) (c : Enumctx×Heap) (S : Multiset Ptr) : Prop :=
  ∃ nodes kept,BuiltList before c nodes kept ∧ S=((kept.map Kept.usbh : List Ptr) : Multiset Ptr)

/-- The callback uses the handle it is given, and then closes it or keeps
it in a node. -/
theorem enumfunc_abides (before : Heap) : Abides hid (Keeping before) (enumfunc hid) := by
  rintro u c w S ⟨nodes,kept,hlist,rfl⟩
  have huses : Relation.ReflTransGen (HandleUse hid u) w (probe hid u w).2 := probe_uses u w
  have hprobe := ownerRun_uses huses (Multiset.mem_cons_self u ((kept.map Kept.usbh : List Ptr) : Multiset Ptr))
  cases hp : probe hid u w with
  | mk id v =>
    rw [hp] at hprobe
    cases id with
    | none =>
      rw [enumfunc_reject hp]
      exact ⟨_,⟨nodes,kept,hlist,rfl⟩,hprobe.tail (ownerStep_closeHead u _ _)⟩
    | some id =>
      cases hf : c.2.fails c.2.calls with
      | true =>
        rw [enumfunc_nomem hp hf]
        exact ⟨_,⟨nodes,kept,hlist.nomem hf,rfl⟩,hprobe.tail (ownerStep_closeHead u _ _)⟩
      | false =>
        rw [enumfunc_keep hp hf]
        refine ⟨_,⟨_,_,hlist.keep hf u id,?_⟩,hprobe⟩
        rw [List.map_append,←Multiset.coe_add,Multiset.add_comm]
        rfl

end Callback

section Pins

variable (hid) {heap : Heap} {hHandle : Ptr} {p : UsbIoInternal}

/-- On a live handle every pin call returns, and uses the device of the node
at most once. -/
theorem pinCall_use (hlive : LiveHandle heap hHandle p) (c : PinCall) (w : W) :
    ∃ r,c.run hid heap hHandle w=some r ∧ (r.world=w ∨ HandleUse hid p.usbh w r.world) := by
  obtain ⟨r,hr,hends⟩ := PinCall.run_ends hid hlive c w
  have hread : HandleUse hid p.usbh w (readZero hid p w).world := by
    rw [readZero,d16ReadRep_world]
    exact .receive _ _ _ _
  refine ⟨r,hr,?_⟩
  cases hends with
  | rejected hbad hret => exact .inl rfl
  | sent hgood hbuf =>
    rw [d16WriteRep_world]
    exact .inr (.send _ _ _)
  | unread hgood hbuf hz => exact .inr hread
  | read hgood hbuf hz => exact .inr hread

end Pins

section Freeing

variable (hid)

/-- The nodes are gone from the heap and nothing else has changed. -/
structure Freed (heap heap' : Heap) (nodes : List Ptr) : Prop where
  /-- None of them is allocated any more. -/
  gone : ∀ a∈nodes,heap'.cell a=none
  /-- The other nodes are untouched. -/
  others : ∀ a∉nodes,heap'.cell a=heap.cell a
  /-- Freeing allocates nothing. -/
  calls : heap'.calls=heap.calls
  /-- The pattern of failing calls stays the same. -/
  fails : heap'.fails=heap.fails

/-- The handle stored in the node at an address. -/
def usbhOf (heap : Heap) (a : Ptr) : Ptr := ((heap.cell a).map UsbIoInternal.usbh).getD 0

/-- The free loop on a linked list returns after one round a node; it frees
every node and closes the handles in them, in this order, and does nothing
else. The induction is on the nodes. -/
theorem freeLoop_run {heap : Heap} {p : Ptr} {nodes : List Ptr} {fuel : ℕ} (w : W)
    (hchain : Chain UsbIoInternal.next 0 heap.cell p nodes) (hfuel : nodes.length≤fuel)
    (hvalid : ∀ a∈nodes,usbhOf heap a≠0 ∧ usbhOf heap a≠-1) :
    ∃ heap',freeLoop hid fuel p heap w=some (heap',closeAll hid (nodes.map (usbhOf heap)) w) ∧
      Freed heap heap' nodes := by
  induction nodes generalizing heap p fuel w with
  | nil =>
    have hp : p=0 := hchain
    refine ⟨heap,?_,⟨fun _ ha => absurd ha List.not_mem_nil,fun _ _ => rfl,rfl,rfl⟩⟩
    cases fuel <;> rw [freeLoop,if_pos hp] <;> rfl
  | cons a rest ih =>
    have hnd := hchain.nodup
    obtain ⟨rfl,ha,n,hn,htail⟩ := hchain
    cases fuel with
    | zero => exact absurd hfuel (by simp)
    | succ fuel =>
      have hnotin : p∉rest := (List.nodup_cons.mp hnd).1
      have husbh : usbhOf heap p=n.usbh := by rw [usbhOf,hn,Option.map_some,Option.getD_some]
      have hcond := hvalid p List.mem_cons_self
      rw [husbh] at hcond
      let heap1 : Heap := {heap with cell := Function.update heap.cell p none}
      have hfree : heap.free p=some heap1 := by rw [Heap.free,hn]
      have hother : ∀ b,b≠p → heap1.cell b=heap.cell b := fun b hb => Function.update_of_ne hb _ _
      have hsame : ∀ b∈rest,usbhOf heap1 b=usbhOf heap b := by
        intro b hb
        have hne : b≠p := fun he => hnotin (he ▸ hb)
        rw [usbhOf,hother b hne]
        rfl
      have hchain1 : Chain UsbIoInternal.next 0 heap1.cell n.next rest := htail.update_other hnotin none
      have hfuel1 : rest.length≤fuel := Nat.le_of_succ_le_succ hfuel
      obtain ⟨heap',hloop,hfreed⟩ := ih (hid.usbhidCloseDevice n.usbh w) hchain1 hfuel1
        (fun b hb => by rw [hsame b hb]; exact hvalid b (List.mem_cons_of_mem p hb))
      refine ⟨heap',?_,?_⟩
      · have hmap : rest.map (usbhOf heap1)=rest.map (usbhOf heap) := List.map_congr_left hsame
        rw [freeLoop,if_neg ha,hn,Option.bind_some]
        dsimp only
        rw [if_pos hcond,hfree,Option.bind_some,hloop,hmap,List.map_cons,husbh]
        rfl
      · refine ⟨?_,?_,hfreed.calls,hfreed.fails⟩
        · intro b hb
          rcases List.mem_cons.mp hb with rfl|hb
          · rw [hfreed.others b hnotin]
            exact Function.update_self _ _ _
          · exact hfreed.gone b hb
        · intro b hb
          have hne : b≠p := fun he => hb (he ▸ List.mem_cons_self)
          rw [hfreed.others b fun hm => hb (List.mem_cons_of_mem p hm),hother b hne]

end Freeing

/-- What a backend guarantees to the owners of its handles: it knows which
handles are out, each of them is proper, owners may use and close them, and
an enumeration that is ready to start adds those its callback keeps. -/
structure Custody (hid : HidLayer W) where
  /-- These handles are out and not yet closed, and nothing else is open. -/
  Owned : Multiset Ptr → W → Prop
  /-- A handle that is out is neither NULL nor invalid. -/
  valid : ∀ {S w u},Owned S w → u∈S → u≠0 ∧ u≠-1
  /-- Its owner may use and close it. -/
  step : ∀ {S T w v},Owned S w → OwnerStep hid (w,S) (v,T) → Owned T v
  /-- An enumeration may start while these handles are out. -/
  Ready : Multiset Ptr → W → Prop
  /-- When it looks for cards, it then gives out the handles its callback keeps. -/
  enumerate : ∀ {α : Type} {J : α → Multiset Ptr → Prop} {usbhidEnumFunc : EnumFunc α W} {S w c},
    Owned S w → Ready S w → Abides hid J usbhidEnumFunc → J c 0 →
      ∃ T,J (hid.usbhidEnumDevices USB_CFG_VENDOR_ID USB_CFG_DEVICE_ID c usbhidEnumFunc w).context T ∧
        Owned (S+T) (hid.usbhidEnumDevices USB_CFG_VENDOR_ID USB_CFG_DEVICE_ID c usbhidEnumFunc w).world

/-- A whole run of the owners is fine. -/
theorem Custody.run (C : Custody hid) {x y : W×Multiset Ptr} (h : OwnerRun hid x y)
    (ho : C.Owned x.2 x.1) : C.Owned y.2 y.1 := by
  induction h with
  | refl => exact ho
  | tail _ hstep ih => exact C.step ih hstep

end UsbIo16.Ownership
