import UsbIo16.SingleList

/-!
# Several lists at a time

Behind libusb and OS X the lists a client has are not independent: libusb
keeps one handle in the struct of a device, and OS X one manager in a
global, and the next enumeration overwrites them. The sessions in which this
does not happen are singled out here by a condition on each request for a
list, and all their states are shown to be in order.
-/

namespace UsbIo16.LiveLists

open HandleLedger Hiddata IoInterface LibusbBackend OsxBackend Ownership ListSessions BackendCustody
open ManagerCount (inUse users_pos users_start oneDeviceEnv)

section Laws

/-- What the events of a run owe to the owners of some resources (newest
event first): what is used or closed was open, NULL is never closed, and the
resources still needed are open. -/
structure Respected (log : List (HandleEvent Ptr)) (needed : List Ptr) : Prop where
  /-- Every transfer goes through a resource that was opened and not closed. -/
  transfers : ∀ late h past,log=late++.used h::past → .opened h∈past ∧ .closed h∉past
  /-- Every close is of a resource that was opened and not closed, and not of NULL. -/
  closes : ∀ late h past,log=late++.closed h::past → h≠0 ∧ .opened h∈past ∧ .closed h∉past
  /-- The resources needed are opened and not closed. -/
  open_ : ∀ h∈needed,.opened h∈log ∧ .closed h∉log

/-- Lists are independent in a state of a session: the nodes of all live
lists have what they need, and without a list everything was closed once. -/
structure Independent {W : Type} (log : List (HandleEvent Ptr)) (needed : List Ptr) (s : Session W) : Prop where
  /-- The live lists have what they need. -/
  respected : Respected log needed
  /-- Once all lists are freed, everything opened has been closed exactly once. -/
  allClosed : s.lists=[] → ∀ h,.opened h∈log → log.count (.closed h)=1

variable {log : List (HandleEvent Ptr)} {live : Finset Ptr} {needed : List Ptr}

/-- A run that respects its ledger respects the owners of what is open. -/
theorem respected_of_live (hl : openHandles log=some live) (hpos : ∀ h,.opened h∈log → h≠0)
    (hn : ∀ h∈needed,h∈live) : Respected log needed where
  transfers late h past he := by
    rw [he] at hl
    exact open_of_event hl (.inl rfl)
  closes late h past he := by
    have hopen : .opened h∈past ∧ .closed h∉past := by
      rw [he] at hl
      exact open_of_event hl (.inr rfl)
    refine ⟨hpos h ?_,hopen⟩
    rw [he]
    exact List.mem_append_right late (List.mem_cons_of_mem _ hopen.1)
  open_ h hh := open_of_live hl (hn h hh)

end Laws

section Libusb

variable {D : Type} {env : LibusbEnv D} {target : Target} {w₀ : LibusbWorld D} {hw₀ : Attached w₀}
  {s : Session (LibusbWorld D)}

/-- Lists behind libusb: a node needs the handle in the struct of its device. -/
def LibusbIndependent (s : Session (LibusbWorld D)) : Prop :=
  Independent s.world.ledger.log (s.usbhs.map (usbDevHandle s.world)) s

/-- A list may be requested behind libusb when no device of a live list can
be opened once more. -/
def LibusbReady (env : LibusbEnv D) (s : Session (LibusbWorld D)) : Prop :=
  ∀ u∈s.usbhs,env.canOpen (s.world.rounds+1) u=false

/-- The accounts make the lists independent. -/
theorem libusb_independent (h : Accounts (libusbCustody env target hw₀) s) : LibusbIndependent s := by
  obtain ⟨n,howned⟩ := h.owned
  obtain ⟨live,hlive,hstored⟩ := howned.ledger
  have hpos : ∀ g,.opened g∈s.world.ledger.log → g≠0 := by
    intro g hg h0
    have hb := (s.world.ledger.bounded g hg).1
    rw [h0] at hb
    exact absurd hb (by decide)
  refine ⟨respected_of_live hlive hpos ?_,?_⟩
  · intro g hg
    obtain ⟨u,hu,rfl⟩ := List.mem_map.mp hg
    exact hstored.mem (Multiset.mem_coe.mpr hu)
  · intro hnone g hg
    rw [SingleList.usbhs_of_noList hnone] at hstored
    obtain rfl := hstored.empty
    exact closed_once hlive hg

end Libusb

section Osx

variable {D : Type} {env : OsxEnv D} {target : Target} {s : Session (OsxWorld D)}

/-- Lists on OS X: a node needs the manager its device came from. -/
def OsxIndependent (s : Session (OsxWorld D)) : Prop :=
  Independent s.world.opened (s.usbhs.map s.world.owner) s

/-- A list may be requested on OS X when, if a manager can be created and
opened, it has devices, and no live list has a node. -/
def OsxListReady (env : OsxEnv D) (s : Session (OsxWorld D)) : Prop :=
  OsxReady env (s.usbhs : Multiset Ptr) s.world

/-- The accounts make the lists independent. -/
theorem osx_independent (h : Accounts (osxCustody env target) s) : OsxIndependent s := by
  obtain ⟨L,husers⟩ := h.owned
  have hopen := husers.counts.opened
  have hpos : ∀ g,.opened g∈s.world.opened → g≠0 := by
    intro g hg h0
    have hb := (s.world.managers.bounded g (husers.counts.known g hg)).1
    rw [h0] at hb
    exact absurd hb (by decide)
  refine ⟨respected_of_live hopen hpos ?_,?_⟩
  · intro g hg
    obtain ⟨u,hu,rfl⟩ := List.mem_map.mp hg
    have hmem : u∈(s.usbhs : Multiset Ptr) := Multiset.mem_coe.mpr hu
    rw [husers.counts.inUse_eq (users_pos hmem),(husers.held u hmem).2.2]
    exact Finset.mem_singleton_self _
  · intro hnone g hg
    have hcounts := husers.counts
    rw [SingleList.usbhs_of_noList hnone] at hcounts
    have hnothing : inUse s.world.g_hidmgr=∅ := if_pos hcounts.no_manager
    rw [hnothing] at hopen
    exact closed_once hopen hg

end Osx

/-- A process at its start, with libusb or on OS X. -/
inductive Process : Type 1 where
  | libusb {D : Type} (env : LibusbEnv D) (world : LibusbWorld D) (attached : Attached world)
      (clean : world.ledger.live=some ∅)
  | osx {D : Type} (env : OsxEnv D) (owner : Ptr → Ptr) (e : D)

/-- The worlds of its backend. -/
def Process.World : Process → Type
  | @libusb D _ _ _ _ => LibusbWorld D
  | @osx D _ _ _ => OsxWorld D

/-- The world it starts in; on OS X no manager was ever created. -/
def Process.world : (b : Process) → b.World
  | libusb _ world _ _ => world
  | osx _ owner e => ⟨0,0,Ledger.empty,[],owner,e⟩

/-- Its HID layer. -/
def Process.hid (target : Target) : (b : Process) → HidLayer b.World
  | libusb env _ _ _ => libusbHid env target
  | osx env _ _ => osxHid env target

/-- Whether its lists are independent in a state. -/
def Process.Independent : (b : Process) → Session b.World → Prop
  | libusb _ _ _ _ => LibusbIndependent
  | osx _ _ _ => OsxIndependent

/-- Whether a list may be requested in a state. -/
def Process.Ready : (b : Process) → Session b.World → Prop
  | libusb env _ _ _ => LibusbReady env
  | osx env _ _ => OsxListReady env

/-- The session before the first list. -/
def Process.start (b : Process) (fails : ℕ → Bool) : Session b.World := ⟨Heap.empty fails,b.world,[]⟩

/-- In every session whose requests for lists are all made when they may be,
every state is one in which the lists are independent, and every action
allowed in it returns. -/
theorem live_lists_independent (b : Process) (target : Target) (fails : ℕ → Bool) {s : Session b.World}
    (hrun : Relation.ReflTransGen (Step (b.hid target) b.Ready) (b.start fails) s) :
    b.Independent s ∧ ∀ a : Action,(a=.getDeviceList → b.Ready s) → ∃ t,a.run (b.hid target) s=some t := by
  have hheap : ∀ a : ℤ,((Heap.empty fails).calls : ℤ)<a → (Heap.empty fails).cell a=none := fun _ _ => rfl
  cases b with
  | libusb env world attached clean =>
    have hstart : Accounts (libusbCustody env target attached) ⟨Heap.empty fails,world,[]⟩ :=
      accounts_start hheap ⟨_,libusbOwned_start clean⟩
    have hacc := hstart.session (fun s _ hready u hu => hready u (Multiset.mem_coe.mp hu)) hrun
    refine ⟨libusb_independent hacc,fun a hready => ?_⟩
    obtain ⟨t,ht,-⟩ := hacc.run a fun hget u hu => hready hget u (Multiset.mem_coe.mp hu)
    exact ⟨t,ht⟩
  | osx env owner e =>
    have hstart : Accounts (osxCustody env target) ⟨Heap.empty fails,⟨0,0,Ledger.empty,[],owner,e⟩,[]⟩ :=
      accounts_start hheap ⟨∅,users_start owner e⟩
    have hacc := hstart.session (fun s _ hready => hready) hrun
    refine ⟨osx_independent hacc,fun a hready => ?_⟩
    obtain ⟨t,ht,-⟩ := hacc.run a hready
    exact ⟨t,ht⟩

section OneCard

/-- The target the witnesses are compiled for. -/
def signedTarget : Target := ⟨true,fun _ => 0#8⟩

/-- A libusb process with one card attached. -/
def oneCard : Process := .libusb cardEnv cardWorld cardWorld_attached cardWorld_clean

/-- The same on a system that opens a device for one enumeration only. -/
def exclusiveCard : Process :=
  .libusb {cardEnv with canOpen := fun n _ => decide (n=1)} cardWorld cardWorld_attached cardWorld_clean

theorem live_lists_independent_exclusiveCard :
    ∃ s t,Action.run (exclusiveCard.hid signedTarget) (exclusiveCard.start fun _ => false) .getDeviceList=some s ∧
      Action.run (exclusiveCard.hid signedTarget) s .getDeviceList=some t ∧ s.nodes=[1] ∧
        exclusiveCard.Independent t := by
  have hstart := live_lists_independent exclusiveCard signedTarget (fun _ => false) .refl
  have hready : exclusiveCard.Ready (exclusiveCard.start fun _ => false) := fun _ hu => absurd hu List.not_mem_nil
  obtain ⟨s,hs⟩ := hstart.2 .getDeviceList fun _ => hready
  have hcomputed : (Action.run (exclusiveCard.hid signedTarget) (exclusiveCard.start fun _ => false)
      .getDeviceList).map (fun s : Session (LibusbWorld Unit) => (s.nodes,s.world.rounds))=some ([1],1) := by
    decide +kernel
  rw [hs] at hcomputed
  obtain ⟨hnodes,hrounds⟩ := Prod.mk.inj (Option.some.inj hcomputed)
  have hready' : exclusiveCard.Ready s := by
    intro u _
    have hdenied : decide (s.world.rounds+1=1)=false := by
      rw [hrounds]
      rfl
    exact hdenied
  have hrun : Relation.ReflTransGen (Step (exclusiveCard.hid signedTarget) exclusiveCard.Ready)
      (exclusiveCard.start fun _ => false) s := .single ⟨.getDeviceList,fun _ => hready,hs⟩
  obtain ⟨t,ht⟩ := (live_lists_independent exclusiveCard signedTarget (fun _ => false) hrun).2
    .getDeviceList fun _ => hready'
  exact ⟨s,t,hs,ht,hnodes,
    (live_lists_independent exclusiveCard signedTarget (fun _ => false)
      (hrun.tail ⟨_,fun _ => hready',ht⟩)).1⟩

/-- The same card on OS X. -/
def oneCardOsx : Process := .osx oneDeviceEnv id ()

/-- Two lists of one card, of which the first is freed: behind libusb a
transfer on the second goes through a NULL handle, and on OS X under a
manager that is closed. -/
theorem second_list_loses_handle :
    (∃ t,Relation.ReflTransGen (Step (oneCard.hid signedTarget) fun _ => True) (oneCard.start fun _ => false) t ∧
      ¬oneCard.Independent t) ∧
    ∃ t,Relation.ReflTransGen (Step (oneCardOsx.hid signedTarget) fun _ => True)
      (oneCardOsx.start fun _ => false) t ∧ ¬oneCardOsx.Independent t := by
  let actions : List Action :=
    [.getDeviceList,.getDeviceList,.freeDeviceList 0,.openDevice 0 0,.pinCall 0 0 (.setWorkLedMode 1)]
  constructor
  · have hcomputed : (runAll (oneCard.hid signedTarget) (oneCard.start fun _ => false) actions).map
        (fun s : Session (LibusbWorld Unit) => s.world.ledger.log)=
          some [.used 0,.closed 2,.used 2,.used 2,.used 2,.opened 2,.used 1,.used 1,.used 1,.opened 1] := by
      decide +kernel
    obtain ⟨t,hrun,hlog⟩ := Option.map_eq_some_iff.mp hcomputed
    refine ⟨t,steps_of_runAll hrun,fun h => ?_⟩
    have hopen := (h.respected.transfers [] 0 _ hlog).1
    exact absurd hopen (by decide)
  · have hcomputed : (runAll (oneCardOsx.hid signedTarget) (oneCardOsx.start fun _ => false) actions).map
        (fun s : Session (OsxWorld Unit) => s.world.opened)=
          some [.used 2,.closed 2,.used 2,.opened 2,.used 1,.opened 1] := by
      decide +kernel
    obtain ⟨t,hrun,hlog⟩ := Option.map_eq_some_iff.mp hcomputed
    refine ⟨t,steps_of_runAll hrun,fun h => ?_⟩
    have hopen := (h.respected.transfers [] 2 _ hlog).2
    exact hopen List.mem_cons_self

end OneCard

end UsbIo16.LiveLists
