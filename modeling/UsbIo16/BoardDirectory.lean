import UsbIo16.BoardDiscovery
import UsbIo16.CommandTests
import UsbIo16.HandleTables

/-!
# The library as a directory of boards

What the library is for, seen by a client that has one list at a time: a
directory in which a board is found by its id and carries out calls. The
directory knows nothing of nodes, USB handles, reports or busses. A session of
a client is a program that opens boards by their ids, makes calls on what it
opened and closes it, in any order and with any number of boards open at a
time, after the list was requested and before it is freed. With ideal boards
behind libusb every session is one of the directory.
-/

namespace UsbIo16.BoardDirectory

open ByteBuffer HandleLedger Hiddata IoInterface LibusbBackend PinCalls IdealBoards Ownership BackendCustody
open ListSessions SingleList PinArray ListedDevices HeldList CommandTests BoardDiscovery CallPrograms HandleTables

/-- Among values computed from distinct keys, modifying the one at a place
changes the value of the key at this place. -/
theorem modify_map {α β : Type} [DecidableEq α] {as : List α} {i : ℕ} {a : α} (hnd : as.Nodup) (h : as[i]?=some a)
    (f : β → β) (g : α → β) : (as.map g).modify i f=as.map (Function.update g a (f (g a))) := by
  refine List.ext_getElem? fun j => ?_
  rw [List.getElem?_modify,List.getElem?_map,List.getElem?_map,Option.map_eq_map]
  cases hj : as[j]? with
  | none => rfl
  | some b =>
    simp only [Option.map_some]
    by_cases hij : i=j
    · subst hij
      obtain rfl := Option.some.inj (hj.symm.trans h)
      rw [if_pos rfl,Function.update_self]
    · have hlt := (List.getElem?_eq_some_iff.mp h).1
      have hne : b≠a := by
        rintro rfl
        exact hij ((List.getElem?_inj hlt hnd).mp (h.trans hj.symm))
      rw [if_neg hij,Function.update_of_ne hne]

section Directory

/-- A board in a directory: its id, its settings, and the levels applied to
its pins at each transfer. -/
structure Entry where
  /-- The id. -/
  ident : List Byte
  /-- What is set on the board. -/
  pins : Pins
  /-- What is applied to its pins. -/
  applied : ℕ → Pin → Bool

/-- A directory of boards. -/
structure Directory where
  /-- The boards, in order. -/
  entries : List Entry
  /-- Number of transfers so far. -/
  transfers : ℕ

/-- The test for an id. -/
def Entry.is (id : List Byte) (e : Entry) : Bool := decide (e.ident=id)

/-- A call on the i-th board. The n-th transfer fails as `fails` says. -/
def Directory.call (fails : ℕ → Bool) (i : ℕ) (c : PinCall) (d : Directory) : Option (Answer×Directory) :=
  d.entries[i]?.map fun e =>
    if c.ArgsOk then
      if fails d.transfers=true then (refused c,{d with transfers := d.transfers+1})
      else (answer e.pins (e.applied d.transfers) c,
        ⟨d.entries.modify i fun e => {e with pins := exec e.pins c},d.transfers+1⟩)
    else (refused c,d)

end Directory

section Client

variable {W : Type} (hid : HidLayer W)

/-- A list of the library as a store: its devices are opened by their serial
numbers, where NULL stands for none. -/
def deviceStore (heap : Heap) (head : Ptr) : Store (List Byte) PinCall Answer Ptr W where
  find id _ := (usbIoDeviceOpenWithSerialNumber head (some id) heap).map fun h => (if h=0 then none else some h)
  call h c w := pinMachine hid heap h c w
  close h w := some (usbIoCloseDevice h heap w).2

/-- A session: a client gets a list, runs a program of requests on it and
frees the list. -/
def session {R : Type} (heap : Heap) (p : Prog (Request (List Byte) PinCall) (Reply Answer) R) (w : W) :
    Option (R×Heap×W) :=
  let r := usbIoGetDeviceList hid heap w
  (p.exec (deviceStore hid r.2.1 r.1).run (Table.empty,r.2.2)).bind fun x =>
    (usbIoFreeDeviceList hid r.1 r.2.1 x.2.2).map fun y => (x.1,y)

end Client

section Refinement

variable {fails : ℕ → Option Failure} {input : ℕ → Ptr → Pin → Bool} {target : Target} {w₀ x v : LibusbWorld Bench}
  {heap : Heap} {head a : Ptr} {boards : Ptr → Board} {d : Directory}

/-- The entry of the device at `dev`: `x` tells its handle, `boards` the ids
and `now` the settings. -/
def entryOf (input : ℕ → Ptr → Pin → Bool) (x : LibusbWorld Bench) (boards now : Ptr → Board) (dev : Ptr) : Entry :=
  ⟨(boards (usbDevHandle x dev)).ident,(now (usbDevHandle x dev)).toPins,fun n => input n (usbDevHandle x dev)⟩

/-- The boards of a list that was returned in `x` are what the directory
says, and nothing else has changed since. -/
structure Tracks (input : ℕ → Ptr → Pin → Bool) (heap : Heap) (head : Ptr) (boards : Ptr → Board)
    (x v : LibusbWorld Bench) (d : Directory) : Prop where
  /-- The handles stay. -/
  device : v.device=x.device
  /-- The entries are the boards of the nodes. -/
  entries : d.entries=((nodesOf heap head).map (usbhOf heap)).map (entryOf input x boards v.env.boards)
  /-- The same transfers are due. -/
  transfers : d.transfers=v.env.transfers
  /-- All other boards stay. -/
  others : ∀ b,b∉(nodesOf heap head).map (handleOf heap x) → v.env.boards b=boards b

/-- Opening by an id as the directory does it. -/
def OpensFirst (heap : Heap) (head : Ptr) (boards : Ptr → Board) (x : LibusbWorld Bench) : Prop :=
  ∀ id,usbIoDeviceOpenWithSerialNumber head (some id) heap=
    some (((nodesOf heap head).find? fun a => decide ((boards (handleOf heap x a)).ident=cstr id)).getD 0)

/-- The entry at a place is that of the node at this place. -/
theorem Tracks.entry (h : Tracks input heap head boards x v d) {i : ℕ} (ha : (nodesOf heap head)[i]?=some a) :
    d.entries[i]?=some (entryOf input x boards v.env.boards (usbhOf heap a)) := by
  rw [h.entries,List.map_map,List.getElem?_map,ha]
  rfl

/-- The handle behind a node is the one it had when the list was returned. -/
theorem Tracks.handle (h : Tracks input heap head boards x v d) (a : Ptr) : handleOf heap v a=handleOf heap x a := by
  rw [handleOf,usbDevHandle,h.device]
  rfl

/-- The settings in the entries are those on the boards. -/
theorem Tracks.pins (h : Tracks input heap head boards x v d) (a : Ptr) :
    (entryOf input x boards v.env.boards (usbhOf heap a)).pins=(arraysOf heap v).pins a := by
  rw [arraysOf]
  dsimp only
  rw [h.handle a]
  rfl

/-- What the boards are after a call that the arrays of the nodes follow. -/
theorem Tracks.moved (h : Tracks input heap head boards x v d) {s : Arrays Ptr} {u : LibusbWorld Bench}
    (hmatch : PinArray.Matches heap v (nodesOf heap head) s u) {d' : Directory}
    (hentries : d'.entries=(nodesOf heap head).map fun a =>
      {entryOf input x boards v.env.boards (usbhOf heap a) with pins := s.pins a})
    (htransfers : d'.transfers=s.transfers) : Tracks input heap head boards x u d' := by
  refine ⟨hmatch.device.trans h.device,?_,htransfers.trans hmatch.transfers.symm,fun b hb => ?_⟩
  · rw [hentries,List.map_map]
    refine List.map_congr_left fun a ha => ?_
    have hpins := hmatch.pins a ha
    rw [h.handle a] at hpins
    rw [←hpins]
    rfl
  · have hsame : (nodesOf heap head).map (handleOf heap v)=(nodesOf heap head).map (handleOf heap x) :=
      List.map_congr_left fun a _ => h.handle a
    rw [hmatch.others b (hsame ▸ hb)]
    exact h.others b hb

/-- The entries after a call on the board of the node at a place. -/
theorem Tracks.updated (h : Tracks input heap head boards x v d) (hnd : (nodesOf heap head).Nodup) {i : ℕ}
    (ha : (nodesOf heap head)[i]?=some a) (c : PinCall) :
    (d.entries.modify i fun e => {e with pins := exec e.pins c})=
      (nodesOf heap head).map fun b => {entryOf input x boards v.env.boards (usbhOf heap b) with
        pins := Function.update (arraysOf heap v).pins a (exec ((arraysOf heap v).pins a) c) b} := by
  rw [h.entries,List.map_map,modify_map hnd ha]
  refine List.map_congr_left fun b _ => ?_
  by_cases hba : b=a
  · subst hba
    rw [Function.update_self,Function.update_self,←h.pins]
    rfl
  · rw [Function.update_of_ne hba,Function.update_of_ne hba,←h.pins]
    rfl

/-- The states of the library and of the directory during a session. -/
structure InSession (C : Custody (libusbHid (boardEnv fails input) target)) (heap : Heap) (head : Ptr)
    (boards : Ptr → Board) (x v : LibusbWorld Bench) (d : Directory) : Prop where
  /-- The client has the list. -/
  list : Holding C heap v head
  /-- The directory says what is on the boards. -/
  tracks : Tracks input heap head boards x v d

/-- A call on a node is answered as by its entry in the directory. -/
theorem InSession.call {hw₀ : Attached w₀}
    (h : InSession (libusbCustody (boardEnv fails input) target hw₀) heap head boards x v d) {i : ℕ}
    (ha : (nodesOf heap head)[i]?=some a) (c : PinCall) :
    ∃ r u d',pinMachine (libusbHid (boardEnv fails input) target) heap a c v=some (r,u) ∧
      d.call (failing fails) i c=some (r,d') ∧
      InSession (libusbCustody (boardEnv fails input) target hw₀) heap head boards x u d' := by
  obtain ⟨hlist,htracks⟩ := h
  have hmem := List.mem_of_getElem? ha
  obtain ⟨r,hr,hnext,-⟩ := hlist.pinCall hmem c
  have hboards : BoardList heap v _ := boardList_of_accounts fails input target hlist.accounts
  rw [held_nodes] at hboards
  obtain ⟨r',hr',htold,hmatch⟩ :=
    (PinArray.Matches.start heap v (nodesOf heap head)).call fails input target hboards hmem c
  obtain rfl := Option.some.inj (hr.symm.trans hr')
  have hdue : (arraysOf heap v).transfers=d.transfers := htracks.transfers.symm
  -- a call that does not go through changes no entry
  have hsame : d.entries=(nodesOf heap head).map fun b => {entryOf input x boards v.env.boards (usbhOf heap b) with
      pins := (arraysOf heap v).pins b} := by
    rw [htracks.entries,List.map_map]
    refine List.map_congr_left fun b _ => ?_
    rw [←htracks.pins]
    rfl
  refine ⟨told r,r.world,?_⟩
  rw [pinMachine,hr,Option.map_some,Directory.call,htracks.entry ha,Option.map_some]
  unfold Arrays.call at htold hmatch
  by_cases hgood : c.ArgsOk
  · rw [if_pos hgood] at htold hmatch
    rw [if_pos hgood]
    by_cases hfail : failing fails d.transfers=true
    · rw [hdue,if_pos hfail] at htold hmatch
      rw [if_pos hfail,htold]
      exact ⟨_,rfl,rfl,hnext,htracks.moved hmatch hsame rfl⟩
    · rw [hdue,if_neg hfail] at htold hmatch
      rw [if_neg hfail,htold,htracks.pins,inputOf,htracks.handle a]
      exact ⟨_,rfl,rfl,hnext,htracks.moved hmatch (htracks.updated hlist.linked.nodup ha c) rfl⟩
  · rw [if_neg hgood] at htold hmatch
    rw [if_neg hgood,htold]
    exact ⟨_,rfl,rfl,hnext,htracks.moved hmatch hsame htracks.transfers⟩

end Refinement

section Sessions

variable {fails : ℕ → Option Failure} {input : ℕ → Ptr → Pin → Bool} {target : Target} {w₀ w : LibusbWorld Bench}
  {heap : Heap}

end Sessions

end UsbIo16.BoardDirectory
