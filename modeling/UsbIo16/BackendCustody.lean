import UsbIo16.ManagerCount
import UsbIo16.Ownership

/-!
# What the backends know about their handles

Each backend keeps track of the handles it gave out in its own way: libusb
in a field of the device struct, Windows in the handle itself, OS X only in
the count of users of its manager. For each of them the state in which
exactly some handles are out is described here, and shown to be kept by the
owners of the handles and extended by an enumeration.
-/

namespace UsbIo16.BackendCustody

open HandleLedger Hiddata IoInterface LibusbBackend MswinBackend OsxBackend Traversal DeviceVisits Ownership

section Libusb

variable {D : Type} {env : LibusbEnv D} {target : Target} {w₀ w v : LibusbWorld D} {n : ℕ} {S T : Multiset Ptr}
  {u dev : Ptr}

/-- Attached devices as libusb lists them: every struct is on one bus, at an
address. -/
structure Attached (w₀ : LibusbWorld D) : Prop where
  /-- No struct is listed twice. -/
  distinct : w₀.busses.flatten.Nodup
  /-- The structs are at addresses. -/
  address : ∀ dev∈w₀.busses.flatten,dev≠0 ∧ dev≠-1

/-- The one card of a small system is attached. -/
theorem cardWorld_attached : Attached cardWorld := ⟨by decide,by decide⟩

/-- Nothing is open on it. -/
theorem cardWorld_clean : cardWorld.ledger.live=some ∅ := rfl

/-- A struct in which an enumeration for cards stores a handle: it has the
vendor and product of the card, and no child devices. -/
structure LeafCard (w₀ : LibusbWorld D) (dev : Ptr) : Prop where
  /-- It is on a bus. -/
  listed : dev∈w₀.busses.flatten
  /-- It has the vendor and product. -/
  ids : Matches USB_CFG_VENDOR_ID USB_CFG_DEVICE_ID w₀ dev
  /-- It has no children. -/
  leaf : (w₀.device dev).num_children=0#8

/-- The structs of cards without children have no array of them, so that
their `children` field can hold a handle. -/
def Childless (w₀ : LibusbWorld D) : Prop := ∀ dev,LeafCard w₀ dev → usbDevHandle w₀ dev=0

/-- Two cards are attached. -/
theorem twoCardWorld_attached : Attached twoCardWorld := ⟨by decide,by decide⟩

/-- They have no array of children. -/
theorem twoCardWorld_childless : Childless twoCardWorld := by
  intro dev hcard
  have hids := hcard.ids.1
  have hvendor : ((0x1d6b : BitVec 16).toNat : ℤ)≠USB_CFG_VENDOR_ID := by decide
  simp only [twoCardWorld] at hids
  simp only [usbDevHandle,twoCardWorld]
  by_cases hdev : dev=150
  · rw [if_pos hdev] at hids
    exact absurd hids hvendor
  · rw [if_neg hdev]

/-- With the attached devices of `w₀` and after `n` enumerations, exactly
the devices `S` are open, each with its handle in its struct; in all other
structs the `children` field is as it was, or cleared where a handle was stored. -/
structure LibusbOwned (w₀ : LibusbWorld D) (n : ℕ) (S : Multiset Ptr) (w : LibusbWorld D) : Prop where
  /-- The devices stay attached. -/
  busses : w.busses=w₀.busses
  /-- Number of enumerations. -/
  rounds : w.rounds=n
  /-- Only `children` fields are ever written. -/
  struct : ∀ p,w.device p={w₀.device p with children := usbDevHandle w p}
  /-- Only cards without children are open. -/
  leaf : ∀ u∈S,LeafCard w₀ u
  /-- Devices that are not open are at rest. -/
  atRest : ∀ p,p∉S → usbDevHandle w p=usbDevHandle w₀ p ∨ LeafCard w₀ p ∧ usbDevHandle w p=0
  /-- The open handles are those in the structs of the open devices. -/
  ledger : ∃ live,w.ledger.live=some live ∧ Stored (usbDevHandle w) S live

/-- The struct that is written, and the others. -/
theorem usbDevHandle_setChildren_self (w : LibusbWorld D) (dev p : Ptr) :
    usbDevHandle (w.setChildren dev p) dev=p := by
  simp only [usbDevHandle,LibusbWorld.setChildren,Function.update_self]

theorem usbDevHandle_setChildren_ne (w : LibusbWorld D) {dev q : Ptr} (hq : q≠dev) (p : Ptr) :
    usbDevHandle (w.setChildren dev p) q=usbDevHandle w q := by
  simp only [usbDevHandle,LibusbWorld.setChildren,Function.update_of_ne hq]

/-- Writing a `children` field changes no other field. -/
theorem struct_setChildren (h : ∀ p,w.device p={w₀.device p with children := usbDevHandle w p}) (dev p : Ptr) :
    ∀ q,(w.setChildren dev p).device q={w₀.device q with children := usbDevHandle (w.setChildren dev p) q} := by
  intro q
  by_cases hq : q=dev
  · subst hq
    rw [usbDevHandle_setChildren_self]
    have hself : (w.setChildren q p).device q={w.device q with children := p} := Function.update_self _ _ _
    rw [hself,h q]
  · rw [usbDevHandle_setChildren_ne w hq]
    have hother : (w.setChildren dev p).device q=w.device q := Function.update_of_ne hq _ _
    rw [hother]
    exact h q

/-- Nothing is open in a world whose ledger has nothing open. -/
theorem libusbOwned_start (h : w₀.ledger.live=some ∅) : LibusbOwned w₀ w₀.rounds 0 w₀ where
  busses := rfl
  rounds := rfl
  struct _ := rfl
  leaf _ hu := absurd hu (Multiset.notMem_zero _)
  atRest _ _ := .inl rfl
  ledger := ⟨∅,h,stored_zero _⟩

/-- A new enumeration starts. -/
theorem LibusbOwned.newRound (h : LibusbOwned w₀ n S w) : LibusbOwned w₀ (n+1) S (nextRound w) :=
  ⟨h.busses,congrArg (·+1) h.rounds,h.struct,h.leaf,h.atRest,h.ledger⟩

/-- A device with children is opened and closed. -/
theorem LibusbOwned.hub (h : LibusbOwned w₀ n S w) : LibusbOwned w₀ n S (usbClose w.ledger.fresh (opened w)) := by
  obtain ⟨live,hlive,hstored⟩ := h.ledger
  refine ⟨h.busses,h.rounds,h.struct,h.leaf,h.atRest,live,?_,hstored⟩
  have hclose := Ledger.live_close (Ledger.live_openNext hlive) (Finset.mem_insert_self _ _)
  rw [Finset.erase_insert (Ledger.fresh_not_live hlive)] at hclose
  exact hclose

/-- A card is opened for the callback. -/
theorem LibusbOwned.offered (h : LibusbOwned w₀ n S w) (hdev : LeafCard w₀ dev) (hnew : dev∉S) :
    LibusbOwned w₀ n (dev::ₘS) (offer dev w) := by
  obtain ⟨live,hlive,hstored⟩ := h.ledger
  have hother : ∀ q,q≠dev → usbDevHandle (offer dev w) q=usbDevHandle w q :=
    fun q hq => usbDevHandle_setChildren_ne (opened w) hq _
  refine ⟨h.busses,h.rounds,?_,?_,?_,_,Ledger.live_openNext hlive,?_⟩
  · exact struct_setChildren (w := opened w) h.struct dev _
  · intro u hu
    rcases Multiset.mem_cons.mp hu with rfl|hu
    · exact hdev
    · exact h.leaf u hu
  · intro p hp
    have hne : p≠dev := fun he => hp (he ▸ Multiset.mem_cons_self dev S)
    rw [hother p hne]
    exact h.atRest p fun hm => hp (Multiset.mem_cons_of_mem hm)
  · refine hstored.add hnew (Ledger.fresh_not_live hlive) (usbDevHandle_setChildren_self _ _ _) ?_
    intro l hl
    exact hother l fun he => hnew (he ▸ hl)

/-- The owner of an open device closes it. -/
theorem LibusbOwned.close (hw₀ : Attached w₀) (h : LibusbOwned w₀ n S w) (hu : u∈S) :
    LibusbOwned w₀ n (S.erase u) (LibusbBackend.usbhidCloseDevice u w) := by
  obtain ⟨live,hlive,hstored⟩ := h.ledger
  have hleaf := h.leaf u hu
  have hclose : LibusbBackend.usbhidCloseDevice u w=(usbClose (usbDevHandle w u) w).setChildren u 0 :=
    if_pos (hw₀.address u hleaf.listed).1
  have hother : ∀ q,q≠u → usbDevHandle ((usbClose (usbDevHandle w u) w).setChildren u 0) q=usbDevHandle w q :=
    fun q hq => usbDevHandle_setChildren_ne _ hq 0
  rw [hclose]
  refine ⟨h.busses,h.rounds,?_,?_,?_,_,Ledger.live_close hlive (hstored.mem hu),?_⟩
  · exact struct_setChildren (w := usbClose (usbDevHandle w u) w) h.struct u 0
  · exact fun q hq => h.leaf q (Multiset.mem_of_mem_erase hq)
  · intro p hp
    by_cases hpu : p=u
    · subst hpu
      exact .inr ⟨hleaf,usbDevHandle_setChildren_self _ _ _⟩
    · rw [hother p hpu]
      exact h.atRest p fun hm => hp ((Multiset.mem_erase_of_ne hpu).mpr hm)
  · exact hstored.remove hu fun l _ hl => hother l hl

/-- The owner of open devices makes a step. -/
theorem LibusbOwned.step (hw₀ : Attached w₀) (h : LibusbOwned w₀ n S w)
    (hstep : OwnerStep (libusbHid env target) (w,S) (v,T)) : LibusbOwned w₀ n T v := by
  cases hstep with
  | close hu => exact h.close hw₀ hu
  | use hu huse =>
    obtain ⟨e,rfl⟩ := libusb_use huse
    obtain ⟨live,hlive,hstored⟩ := h.ledger
    exact ⟨h.busses,h.rounds,h.struct,h.leaf,h.atRest,live,Ledger.live_use hlive (hstored.mem hu),hstored⟩

/-- So does a whole run of steps. -/
theorem LibusbOwned.run (hw₀ : Attached w₀) {x y : LibusbWorld D×Multiset Ptr} (h : LibusbOwned w₀ n x.2 x.1)
    (hrun : OwnerRun (libusbHid env target) x y) : LibusbOwned w₀ n y.2 y.1 := by
  induction hrun with
  | refl => exact h
  | tail _ hstep ih => exact ih.step hw₀ hstep

section Enumeration

variable {α : Type} {J : α → Multiset Ptr → Prop} {usbhidEnumFunc : EnumFunc α (LibusbWorld D)}

/-- The state of an enumeration that has these devices still before it,
while the devices `S` were open before: the callback keeps some devices more,
none of them is still to come, and of those in `S` none can be opened again. -/
def Visiting (env : LibusbEnv D) (w₀ : LibusbWorld D) (n : ℕ) (S : Multiset Ptr) (J : α → Multiset Ptr → Prop)
    (rest : List Ptr) (s : EnumReply α (LibusbWorld D)) : Prop :=
  (rest.Nodup ∧ ∀ dev∈rest,dev∈w₀.busses.flatten ∧ (dev∈S → env.canOpen n dev=false)) ∧
    ∃ T,J s.context T ∧ LibusbOwned w₀ n (S+T) s.world ∧ ∀ dev∈rest,dev∉T

/-- Passing over a device. -/
theorem Visiting.skip {rest : List Ptr} {s : EnumReply α (LibusbWorld D)}
    (h : Visiting env w₀ n S J (dev::rest) s) : Visiting env w₀ n S J rest s := by
  obtain ⟨⟨hnd,hrest⟩,T,hJ,howned,hT⟩ := h
  exact ⟨⟨(List.nodup_cons.mp hnd).2,fun d hd => hrest d (List.mem_cons_of_mem dev hd)⟩,
    T,hJ,howned,fun d hd => hT d (List.mem_cons_of_mem dev hd)⟩

/-- Visiting a device. The cases are those of the loop. -/
theorem Visiting.visit (hw₀ : Attached w₀) (hf : Abides (libusbHid env target) J usbhidEnumFunc) {rest : List Ptr}
    {s : EnumReply α (LibusbWorld D)} (h : Visiting env w₀ n S J (dev::rest) s) :
    Visiting env w₀ n S J rest (libusbVisit env USB_CFG_VENDOR_ID USB_CFG_DEVICE_ID usbhidEnumFunc dev s).2 := by
  have hskip := h.skip
  obtain ⟨⟨hnd,hrest⟩,T,hJ,howned,hT⟩ := h
  have hends := libusbVisit_ends env USB_CFG_VENDOR_ID USB_CFG_DEVICE_ID usbhidEnumFunc dev s
  generalize libusbVisit env USB_CFG_VENDOR_ID USB_CFG_DEVICE_ID usbhidEnumFunc dev s=r at hends ⊢
  cases hends with
  | foreign hm => exact hskip
  | denied hm ho => exact hskip
  | hub hm ho hn => exact ⟨hskip.1,T,hJ,howned.hub,fun d hd => hT d (List.mem_cons_of_mem dev hd)⟩
  | leaf hm ho hn =>
    obtain ⟨hbus,hheld⟩ := hrest dev List.mem_cons_self
    have hS : dev∉S := by
      intro hS
      rw [howned.rounds,hheld hS] at ho
      cases ho
    have hnew : dev∉S+T := by
      intro hmem
      rcases Multiset.mem_add.mp hmem with hmem|hmem
      · exact hS hmem
      · exact hT dev List.mem_cons_self hmem
    have hleaf : LeafCard w₀ dev := by
      rw [Matches,howned.struct dev] at hm
      rw [howned.struct dev] at hn
      exact ⟨hbus,hm,hn⟩
    have hoffer := howned.offered hleaf hnew
    obtain ⟨T',hJ',hrun⟩ := hf dev s.context (offer dev s.world) T hJ
    have hle := ownerRun_le hrun
    have hrun' := ownerRun_frame S hrun
    rw [←Multiset.add_cons] at hoffer
    refine ⟨hskip.1,T',hJ',hoffer.run hw₀ hrun',?_⟩
    intro d hd hdT
    rcases Multiset.mem_cons.mp (Multiset.mem_of_le hle hdT) with rfl|hdT
    · exact (List.nodup_cons.mp hnd).1 hd
    · exact hT d (List.mem_cons_of_mem dev hd) hdT

/-- An enumeration for cards that cannot open any of the open devices again
adds the devices its callback keeps. -/
theorem LibusbOwned.enumerate (hw₀ : Attached w₀) (hf : Abides (libusbHid env target) J usbhidEnumFunc)
    (h : LibusbOwned w₀ n S w) (hready : ∀ u∈S,env.canOpen (n+1) u=false) {c : α} (hJ : J c 0) :
    let r := LibusbBackend.usbhidEnumDevices env USB_CFG_VENDOR_ID USB_CFG_DEVICE_ID c usbhidEnumFunc w
    ∃ T,J r.context T ∧ LibusbOwned w₀ (n+1) (S+T) r.world := by
  dsimp only
  rw [libusb_enumDevices_eq]
  have hstart : Visiting env w₀ (n+1) S J w.busses.flatten ⟨USBHID_ERR_NOTFOUND,c,nextRound w⟩ := by
    rw [h.busses]
    refine ⟨⟨hw₀.distinct,fun dev hdev => ⟨hdev,hready dev⟩⟩,0,hJ,?_,fun dev _ => Multiset.notMem_zero dev⟩
    rw [Multiset.add_zero]
    exact h.newRound
  have hend : Visiting env w₀ (n+1) S J []
      (visitGroups (libusbVisit env USB_CFG_VENDOR_ID USB_CFG_DEVICE_ID usbhidEnumFunc) w.busses _) :=
    visitGroups_rest (fun _ _ _ hv => hv.visit hw₀ hf) (fun _ _ _ hv => hv.skip) hstart
  obtain ⟨-,T,hJT,howned,-⟩ := hend
  exact ⟨T,hJT,howned⟩

end Enumeration

/-- The custody of the libusb backend. -/
def libusbCustody (env : LibusbEnv D) (target : Target) (hw₀ : Attached w₀) : Custody (libusbHid env target) where
  Owned S w := ∃ n,LibusbOwned w₀ n S w
  valid := fun ⟨_,h⟩ hu => hw₀.address _ (h.leaf _ hu).listed
  step := fun ⟨n,h⟩ hstep => ⟨n,h.step hw₀ hstep⟩
  Ready S w := ∀ u∈S,env.canOpen (w.rounds+1) u=false
  enumerate := fun ⟨n,h⟩ hready hf hJ => by
    rw [h.rounds] at hready
    obtain ⟨T,hT,howned⟩ := h.enumerate hw₀ hf hready hJ
    exact ⟨T,hT,n+1,howned⟩

end Libusb

section Mswin

variable {D : Type} {env : MswinEnv D} {target : Target} {w v : MswinWorld D} {S T : Multiset Ptr} {u : Ptr}

/-- Exactly these handles are open. -/
def MswinOwned (S : Multiset Ptr) (w : MswinWorld D) : Prop :=
  ∃ live,w.ledger.live=some live ∧ Stored (fun u : Ptr => u) S live

/-- Nothing is open in a world whose ledger has nothing open. -/
theorem mswinOwned_start (h : w.ledger.live=some ∅) : MswinOwned 0 w := ⟨∅,h,stored_zero _⟩

/-- An open handle is neither NULL nor the invalid one. -/
theorem MswinOwned.valid (h : MswinOwned S w) (hu : u∈S) : u≠0 ∧ u≠-1 := by
  obtain ⟨live,hlive,hstored⟩ := h
  have hpos := Ledger.pos_of_live hlive (hstored.mem hu)
  refine ⟨?_,?_⟩
  · rintro rfl
    exact absurd hpos (by decide)
  · rintro rfl
    exact absurd hpos (by decide)

/-- An open handle is closed. -/
theorem MswinOwned.close (h : MswinOwned S w) (hu : u∈S) : MswinOwned (S.erase u) (closeHandle u w) := by
  obtain ⟨live,hlive,hstored⟩ := h
  exact ⟨_,Ledger.live_close hlive (hstored.mem hu),hstored.remove hu fun _ _ _ => rfl⟩

/-- The owner of open handles makes a step. -/
theorem MswinOwned.step (h : MswinOwned S w) (hstep : OwnerStep (mswinHid env target) (w,S) (v,T)) :
    MswinOwned T v := by
  cases hstep with
  | close hu => exact h.close hu
  | use hu huse =>
    obtain ⟨e,rfl⟩ := mswin_use huse
    obtain ⟨live,hlive,hstored⟩ := h
    exact ⟨live,Ledger.live_use hlive (hstored.mem hu),hstored⟩

/-- So does a whole run of steps. -/
theorem MswinOwned.run {x y : MswinWorld D×Multiset Ptr} (h : MswinOwned x.2 x.1)
    (hrun : OwnerRun (mswinHid env target) x y) : MswinOwned y.2 y.1 := by
  induction hrun with
  | refl => exact h
  | tail _ hstep ih => exact ih.step hstep

/-- The handle the loop still has to close. -/
def pending (handle : Ptr) : Multiset Ptr := if handle=INVALID_HANDLE_VALUE then 0 else {handle}

/-- It is closed at the top of the loop. -/
theorem MswinOwned.closePending {handle : Ptr} (h : MswinOwned (S+pending handle) w) :
    MswinOwned S (closePending handle w) := by
  unfold pending at h
  unfold MswinBackend.closePending
  by_cases hi : handle=INVALID_HANDLE_VALUE
  · rw [if_pos hi,Multiset.add_zero] at h
    rw [if_neg (not_not.mpr hi)]
    exact h
  · rw [if_neg hi] at h
    rw [if_pos hi]
    have hmem : handle∈({handle} : Multiset Ptr) := Multiset.mem_singleton_self handle
    have hclose := h.close (Multiset.mem_add.mpr (.inr hmem))
    rw [Multiset.erase_add_right_pos S hmem,Multiset.erase_singleton,Multiset.add_zero] at hclose
    exact hclose

section Enumeration

variable {α : Type} {vendor product : ℤ} {J : α → Multiset Ptr → Prop}
  {usbhidEnumFunc : EnumFunc α (MswinWorld D)} {iface : HidInterface} {s : MswinRound α D}

/-- An interface is opened, after the pending handle was closed. -/
theorem MswinOwned.openedInterface (h : MswinOwned (S+pending s.handle) s.world) (iface : HidInterface) :
    MswinOwned (handleFor s::ₘS) (openedInterface iface s) := by
  obtain ⟨live,hlive,hstored⟩ := h.closePending
  have hfresh : (MswinBackend.closePending s.handle s.world).ledger.fresh∉live := Ledger.fresh_not_live hlive
  refine ⟨_,Ledger.live_openNext hlive,hstored.add ?_ hfresh rfl fun _ _ => rfl⟩
  exact fun hm => hfresh (hstored.mem hm)

/-- Every round of the loop keeps the account of the handles: those that
were open before, those the callback keeps, and the pending one. -/
theorem mswinVisit_keeps (vendor product : ℤ) (S : Multiset Ptr) (hf : Abides (mswinHid env target) J usbhidEnumFunc)
    (ifaces : List HidInterface) :
    Keeps (mswinVisit vendor product usbhidEnumFunc)
      (fun s => ∃ T,J s.context T ∧ MswinOwned (S+T+pending s.handle) s.world) ifaces := by
  rintro iface - s ⟨T,hJ,howned⟩
  have hnone : pending INVALID_HANDLE_VALUE=0 := if_pos rfl
  by_cases hopen : Described iface ∧ iface.canOpen=true
  · have hone : pending (handleFor s)={handleFor s} := if_neg (handleFor_ne s)
    have hopened := howned.openedInterface iface
    by_cases hw : Wanted vendor product (attributesSeen iface s)
    · obtain ⟨T',hJ',hrun⟩ := hf (handleFor s) s.context (openedInterface iface s) T hJ
      rw [←Multiset.add_cons] at hopened
      rw [mswinVisit_wanted hopen.1 hopen.2 hw rfl]
      refine ⟨T',hJ',?_⟩
      dsimp only
      rw [hnone,Multiset.add_zero]
      exact hopened.run (ownerRun_frame S hrun)
    · rw [mswinVisit_foreign hopen.1 hopen.2 hw]
      refine ⟨T,hJ,?_⟩
      dsimp only
      rw [hone,Multiset.add_comm,Multiset.singleton_add]
      exact hopened
  · rw [mswinVisit_closed hopen]
    refine ⟨T,hJ,?_⟩
    dsimp only
    rw [hnone,Multiset.add_zero]
    exact howned.closePending

/-- An enumeration adds the handles its callback keeps. -/
theorem MswinOwned.enumerate (vendor product : ℤ) (hf : Abides (mswinHid env target) J usbhidEnumFunc) (h : MswinOwned S w) {c : α}
    (hJ : J c 0) :
    ∃ T,J (MswinBackend.usbhidEnumDevices env vendor product c usbhidEnumFunc w).context T ∧
      MswinOwned (S+T) (MswinBackend.usbhidEnumDevices env vendor product c usbhidEnumFunc w).world := by
  cases hdevs : (env.classDevs w.env).1 with
  | none =>
    rw [mswin_enumDevices_none hdevs]
    refine ⟨0,hJ,?_⟩
    rw [Multiset.add_zero]
    exact h
  | some devs =>
    have hstart : ∃ T,J (firstRound devs.stale c {w with env := (env.classDevs w.env).2}).context T ∧
        MswinOwned (S+T+pending INVALID_HANDLE_VALUE) {w with env := (env.classDevs w.env).2} := by
      refine ⟨0,hJ,?_⟩
      have hnone : pending INVALID_HANDLE_VALUE=0 := if_pos rfl
      rw [hnone,Multiset.add_zero,Multiset.add_zero]
      exact h
    obtain ⟨T,hT,howned⟩ := visitAll_keeps (mswinVisit_keeps vendor product S hf devs.interfaces) hstart
    rw [mswin_enumDevices_some hdevs c rfl]
    exact ⟨T,hT,howned.closePending⟩

end Enumeration

/-- The custody of the Windows backend. -/
def mswinCustody (env : MswinEnv D) (target : Target) : Custody (mswinHid env target) where
  Owned := MswinOwned
  valid h hu := h.valid hu
  step h hstep := h.step hstep
  Ready _ _ := True
  enumerate h _ hf hJ := h.enumerate USB_CFG_VENDOR_ID USB_CFG_DEVICE_ID hf hJ

end Mswin

section Osx

open ManagerCount

variable {D : Type} {env : OsxEnv D} {target : Target} {w : OsxWorld D} {L : Finset Ptr} {S : Multiset Ptr}

/-- A manager that is created but cannot be opened is neither used nor
released. -/
theorem Users.created (h : Users L 0 S w) (e : D) :
    Users (insert w.managers.fresh L) 0 S {w with managers := w.managers.openNext,env := e} where
  counts := by
    have hnot := Ledger.fresh_not_live h.counts.managers
    refine ⟨h.counts.count,h.counts.manager,?_,h.counts.opened,?_,?_⟩
    · rw [Ledger.live_openNext h.counts.managers,Finset.union_insert]
    · intro hm
      rcases Finset.mem_insert.mp hm with he|hm
      · have hne : w.g_hidmgr≠0 := by
          intro h0
          have hp := w.managers.fresh_pos
          rw [←he,h0] at hp
          exact absurd hp (by decide)
        have huse : inUse w.g_hidmgr={w.g_hidmgr} := if_neg hne
        refine hnot (Finset.mem_union_left L ?_)
        rw [huse,←he]
        exact Finset.mem_singleton_self _
      · exact h.counts.other hm
    · exact fun g hg => List.mem_cons_of_mem _ (h.counts.known g hg)
  held := h.held

/-- When an enumeration may start: if a manager can be created and opened,
it has devices, and no handle is out. -/
def OsxReady (env : OsxEnv D) (S : Multiset Ptr) (w : OsxWorld D) : Prop :=
  (env.createManager w.env).1=true → (env.openManager (env.createManager w.env).2).1=true →
    (env.copyDevices (env.openManager (env.createManager w.env).2).2).1≠[] ∧ S=0

/-- Then either the enumeration fails before it touches the globals, or it
gets to its loop with no handle out. -/
theorem managerDevices_ready (hready : OsxReady env S w) :
    (∃ err e,managerDevices env w=(.error err,{w with env := e})) ∨
      (∃ err e,managerDevices env w=(.error err,{w with managers := w.managers.openNext,env := e})) ∨
      ∃ devices,(managerDevices env w).1=.ok devices ∧ S=0 := by
  have hends := managerDevices_ends env w
  generalize managerDevices env w=r at hends ⊢
  cases hends with
  | uncreated hcreate => exact .inl ⟨_,_,rfl⟩
  | refused hcreate hopen => exact .inr (.inl ⟨_,_,rfl⟩)
  | empty hcreate hopen hset => exact absurd hset (hready hcreate hopen).1
  | ready hcreate hopen hset hsome => exact .inr (.inr ⟨_,rfl,(hready hcreate hopen).2⟩)

/-- An enumeration that is ready to start adds the handles its callback keeps. -/
theorem Users.enumerate {α : Type} (vendor product : ℤ) {J : α → Multiset Ptr → Prop}
    {usbhidEnumFunc : EnumFunc α (OsxWorld D)} (hf : Abides (osxHid env target) J usbhidEnumFunc)
    (h : Users L 0 S w) (hready : OsxReady env S w) {c : α} (hJ : J c 0) :
    ∃ T,J (OsxBackend.usbhidEnumDevices env target vendor product c usbhidEnumFunc w).context T ∧
      ∃ L',Users L' 0 (S+T) (OsxBackend.usbhidEnumDevices env target vendor product c usbhidEnumFunc w).world := by
  rcases managerDevices_ready hready with ⟨err,e,hm⟩|⟨err,e,hm⟩|⟨devices,hok,rfl⟩
  · rw [osx_enumDevices_error (congrArg Prod.fst hm),hm]
    refine ⟨0,hJ,L,?_⟩
    rw [Multiset.add_zero]
    exact ⟨h.counts.query e,h.held⟩
  · rw [osx_enumDevices_error (congrArg Prod.fst hm),hm]
    refine ⟨0,hJ,insert w.managers.fresh L,?_⟩
    rw [Multiset.add_zero]
    exact Users.created h e
  · obtain ⟨husers,hpending⟩ := h.enter hok
    have hinv : SessionInv L ⟨(managerDevices env w).2,.looping devices,0⟩ := ⟨husers,hpending⟩
    obtain ⟨T,hT,hrun⟩ : ∃ T,J _ T ∧ Relation.ReflTransGen (Step env target vendor product) _ _ :=
      loop_run hf devices c (managerDevices env w).2 hJ
    rw [osx_enumDevices_ok hok c rfl]
    refine ⟨T,hT,L,?_⟩
    rw [Multiset.zero_add]
    exact (hinv.run hrun).users.leave

/-- The custody of the OS X backend. -/
def osxCustody (env : OsxEnv D) (target : Target) : Custody (osxHid env target) where
  Owned S w := ∃ L,Users L 0 S w
  valid := fun ⟨_,h⟩ hu => ⟨(h.held _ hu).1,(h.held _ hu).2.1⟩
  step := fun ⟨L,h⟩ hstep => ⟨L,h.owner hstep⟩
  Ready := OsxReady env
  enumerate := fun ⟨_,h⟩ hready hf hJ => Users.enumerate USB_CFG_VENDOR_ID USB_CFG_DEVICE_ID hf h hready hJ

end Osx

end UsbIo16.BackendCustody
