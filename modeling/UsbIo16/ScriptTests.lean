import UsbIo16.CommandTests
import UsbIo16.RaisingActions

/-!
# The Python test script

The functions of `test_dio1.py` and the globals they share, as actions that
may raise, over an arbitrary HID layer. However the functions are called in
turn and whatever they raise, the cleanup at the end gives everything back;
the ids found are those of the devices, each once, and a device can be
opened by its id exactly when the id was found.
-/

namespace UsbIo16.ScriptTests

open ByteBuffer Hiddata IoInterface NodeChain PinCalls Ownership ListSessions SingleList ListedDevices HeldList
open CallPrograms PinArray RaisingActions CommandTests

/-- What the script may raise. -/
inductive Raised where
  | assertion
  | encoding
  | lookup
  | failed (msg : String)

/-- The globals of the script and the library. `None` is kept as 0. -/
structure Globals (W : Type) where
  /-- The distinct ids found. -/
  devids : List (List Byte)
  /-- The open device. -/
  hdev : Ptr
  /-- The device list. -/
  g_enumlist : Ptr
  /-- The node heap. -/
  heap : Heap
  /-- The world of the backend. -/
  world : W

section Functions

/-- The loop of `enumDevs`, for at most `fuel` nodes. -/
def enumLoop (heap : Heap) : ℕ → Ptr → List (List Byte) → Option (Except Raised Unit×List (List Byte))
  | 0,enuminfo,devids => if enuminfo=0 then some (.ok (),devids) else none
  | fuel+1,enuminfo,devids =>
    if enuminfo=0 then some (.ok (),devids)
    else
      (usbIoDeviceGetIdString enuminfo heap).bind fun idstrp =>
        (textAt heap idstrp).bind fun idstr =>
          -- decoding as ASCII raises on any other byte
          if idstr.any (fun b => decide (0x80≤b.toNat))=true then some (.error .encoding,devids)
          else if idstr.length≠4 then some (.error .assertion,devids)
          else
            (usbIoDeviceNextDev enuminfo heap).bind fun next =>
              enumLoop heap fuel next (if idstr∈devids then devids else devids++[idstr])

variable {W : Type} (hid : HidLayer W)

/-- Find the devices. -/
def enumDevs : Act (Globals W) Raised Unit := fun s =>
  let r := usbIoGetDeviceList hid s.heap s.world
  (enumLoop r.2.1 r.2.1.calls r.1 []).map fun x =>
    (x.1,{s with devids := x.2,g_enumlist := r.1,heap := r.2.1,world := r.2.2})

/-- Open the first device. -/
def openDev : Act (Globals W) Raised Unit := fun s =>
  if s.g_enumlist=0 then some (.error .assertion,s)
  else
    (usbIoOpenDevice s.g_enumlist s.heap).map fun h =>
      if h=0 then (.error (.failed "Cannot open device!"),s) else (.ok (),{s with hdev := h})

/-- Open by known id. -/
def openDevById (idstr : String) : Act (Globals W) Raised Unit := fun s =>
  if idstr.toList.any (fun c => decide (0x80≤c.toNat))=true then some (.error .encoding,s)
  else
    (usbIoDeviceOpenWithSerialNumber s.g_enumlist (some (ascii idstr)) s.heap).map fun h =>
      if h=0 then (.error (.failed ("Cannot open device with id="++idstr)),s) else (.ok (),{s with hdev := h})

/-- Close the device. -/
def closeDev : Act (Globals W) Raised Unit := fun s =>
  let r := usbIoCloseDevice s.hdev s.heap s.world
  some (.ok (),{s with hdev := 0,heap := r.1,world := r.2})

/-- Pin calls on the open device, which is asserted to be there. -/
def onDevice {R : Type} (p : Prog PinCall Answer (Except Raised R)) : Act (Globals W) Raised R := fun s =>
  if s.hdev=0 then some (.error .assertion,s)
  else (p.exec (pinMachine hid s.heap s.hdev) s.world).map fun x => (x.1,{s with world := x.2})

/-- `assert(r == 0)`. -/
def check {R : Type} (a : Answer) (next : Prog PinCall Answer (Except Raised R)) :
    Prog PinCall Answer (Except Raised R) :=
  if a.ok=false then .ret (.error .assertion) else next

/-- Work LED test. -/
def testLed : Prog PinCall Answer (Except Raised Unit) :=
  (Prog.ask (.setWorkLedMode 1)).bind fun _ => (Prog.ask (.setWorkLedMode 0)).bind fun _ => .ret (.ok ())

/-- Test for `usb_io_get_all_pin_info`; a mode that is neither input nor
output is not found in the table of names. -/
def testGetAllPins : Prog PinCall Answer (Except Raised Bool) :=
  (Prog.ask (.getAllPinInfo (some fun _ => ⟨0,0,0⟩))).bind fun r =>
    check r
      (if ∀ k,((r.info.getD fun _ => ⟨0,0,0⟩) k).pinMode=0 ∨ ((r.info.getD fun _ => ⟨0,0,0⟩) k).pinMode=1 then
        .ret (.ok true)
      else .ret (.error .lookup))

/-- Toggle the output pin `n` times and compare what is read back. -/
def togglePins (p_in p_out : BitVec 32) : ℕ → BitVec 32 → Prog PinCall Answer (Except Raised Bool)
  | 0,_ => .ret (.ok true)
  | n+1,readval =>
    (Prog.ask (.writeOutputPinValue p_out 0)).bind fun r => check r <|
      (Prog.ask (.readInputPinValue p_in (some readval))).bind fun r => check r <|
        let readval := r.level.getD readval
        if readval≠0 then .ret (.ok false)
        else
          (Prog.ask (.writeOutputPinValue p_out 1)).bind fun r => check r <|
            (Prog.ask (.readInputPinValue p_in (some readval))).bind fun r => check r <|
              let readval := r.level.getD readval
              if readval≠1 then .ret (.ok false) else togglePins p_in p_out n readval

/-- Loopback between two connected pins, one set as input, another as output. -/
def testPins (p_in p_out : BitVec 32) : Prog PinCall Answer (Except Raised Bool) :=
  (Prog.ask (.setPinMode p_in 0 1)).bind fun r => check r <|
    (Prog.ask (.setPinMode p_out 1 0)).bind fun r => check r <|
      (Prog.ask (.readInputPinValue p_in (some 0xFF))).bind fun r => check r <|
        togglePins p_in p_out 3 (r.level.getD 0xFF)

/-- Close the device and free the list, which is not forgotten. That `L.dll`
is set to `None` afterwards plays no role in the functions modelled. -/
def unloadLib : Act (Globals W) Raised Unit := fun s =>
  let s := if s.hdev≠0 then
      let r := usbIoCloseDevice s.hdev s.heap s.world
      {s with hdev := 0,heap := r.1,world := r.2}
    else s
  if s.g_enumlist≠0 then
    (usbIoFreeDeviceList hid s.g_enumlist s.heap s.world).map fun r => (.ok (),{s with heap := r.1,world := r.2})
  else some (.ok (),s)

/-- What can be called between finding the devices and the cleanup. -/
inductive Command where
  | openDev
  | openDevById (idstr : String)
  | closeDev
  | testLed
  | testGetAllPins
  | testPins (p_in p_out : BitVec 32)

/-- Call it; a result is only printed. -/
def Command.run : Command → Act (Globals W) Raised Unit
  | openDev => ScriptTests.openDev
  | openDevById idstr => ScriptTests.openDevById idstr
  | closeDev => ScriptTests.closeDev
  | testLed => onDevice hid ScriptTests.testLed
  | testGetAllPins => andThen (onDevice hid ScriptTests.testGetAllPins) fun _ s => some (.ok (),s)
  | testPins p_in p_out => andThen (onDevice hid (ScriptTests.testPins p_in p_out)) fun _ s => some (.ok (),s)

/-- Find the devices, call some functions in turn, and clean up. -/
def script (commands : List Command) : Act (Globals W) Raised Unit :=
  withCleanup (andThen (enumDevs hid) fun _ => inTurn (commands.map (Command.run hid))) (unloadLib hid)

/-- The script's own main part: blink the LED of the first device. -/
def main : Act (Globals W) Raised Unit :=
  withCleanup
    (andThen (enumDevs hid) fun _ s =>
      if s.devids.length≠0 then
        andThen openDev (fun _ => andThen (onDevice hid testLed) fun _ => closeDev) s
      else some (.ok (),s))
    (unloadLib hid)

end Functions

section Ids

/-- The first occurrences of some ids, behind those already there. -/
def firstOnes (devids : List (List Byte)) : List (List Byte) → List (List Byte)
  | [] => devids
  | id::ids => firstOnes (if id∈devids then devids else devids++[id]) ids

/-- They are the ids there and the new ones, each once and in order. -/
theorem firstOnes_spec (ids devids : List (List Byte)) (h : devids.Nodup) :
    (firstOnes devids ids).Nodup ∧ (∀ id,id∈firstOnes devids ids ↔ id∈devids ∨ id∈ids) ∧
      ∃ new,firstOnes devids ids=devids++new ∧ new.Sublist ids := by
  induction ids generalizing devids with
  | nil => exact ⟨h,fun id => by simp [firstOnes],[],(List.append_nil devids).symm,.slnil⟩
  | cons id ids ih =>
    rw [firstOnes]
    by_cases hm : id∈devids
    · rw [if_pos hm]
      obtain ⟨hnodup,hmem,new,hnew,hsub⟩ := ih devids h
      refine ⟨hnodup,fun x => ?_,new,hnew,hsub.cons id⟩
      rw [hmem,List.mem_cons]
      constructor
      · rintro (hx|hx)
        · exact .inl hx
        · exact .inr (.inr hx)
      · rintro (hx|rfl|hx)
        · exact .inl hx
        · exact .inl hm
        · exact .inr hx
    · rw [if_neg hm]
      have hnodup' : (devids++[id]).Nodup := List.nodup_append.mpr ⟨h,List.nodup_singleton id,fun a ha b hb hab =>
        hm ((hab.trans (List.mem_singleton.mp hb)) ▸ ha)⟩
      obtain ⟨hnodup,hmem,new,hnew,hsub⟩ := ih (devids++[id]) hnodup'
      refine ⟨hnodup,fun x => ?_,id::new,?_,hsub.cons_cons id⟩
      · rw [hmem,List.mem_append,List.mem_singleton,List.mem_cons,or_assoc]
      · rw [hnew,List.append_assoc,List.singleton_append]

variable {heap : Heap} {p : Ptr} {nodes : List ℤ} {fuel : ℕ}

/-- A printable id passes the checks of the loop. -/
theorem printable_checks {id : List Byte} (h : Printable id) :
    ¬id.any (fun b => decide (0x80≤b.toNat))=true ∧ ¬id.length≠4 := by
  refine ⟨fun hany => ?_,not_not.mpr h.length⟩
  obtain ⟨b,hb,hge⟩ := List.any_eq_true.mp hany
  have hlt := (h.ascii b hb).2
  have hle := of_decide_eq_true hge
  omega

/-- On a linked list the loop ends without raising, with the first
occurrences of the ids. The induction is on the nodes. -/
theorem enumLoop_linked (hchain : Chain UsbIoInternal.next 0 heap.cell p nodes) (hfuel : nodes.length≤fuel)
    (hl : ∀ a∈nodes,∀ n,heap.cell a=some n → Listed a n) (devids : List (List Byte)) :
    enumLoop heap fuel p devids=some (.ok (),firstOnes devids (nodes.map (idOf heap))) := by
  induction nodes generalizing p fuel devids with
  | nil =>
    have hp : p=0 := hchain
    cases fuel <;> rw [enumLoop,if_pos hp] <;> rfl
  | cons a rest ih =>
    obtain ⟨rfl,ha,n,hn,htail⟩ := hchain
    cases fuel with
    | zero => exact absurd hfuel (by simp)
    | succ fuel =>
      have hlisted := hl p List.mem_cons_self n hn
      obtain ⟨htext,-,hprintable⟩ := hlisted.text hn
      obtain ⟨hascii,hfour⟩ := printable_checks hprintable
      have hnext := ih htail (Nat.le_of_succ_le_succ hfuel) (fun b hb => hl b (List.mem_cons_of_mem p hb))
      rw [enumLoop,if_neg ha,usbIoDeviceGetIdString,if_neg ha,hn,Option.map_some,Option.bind_some,hlisted.own,
        htext,Option.bind_some,if_neg hascii,if_neg hfour,usbIoDeviceNextDev,if_neg ha,hn,Option.map_some,
        Option.bind_some,hnext,List.map_cons,firstOnes]

end Ids

section Laws

variable {W : Type} {hid : HidLayer W} {C : Custody hid} {s t : Globals W}

/-- What holds while the script has the list: the open device is one of it,
and the ids found are those of its devices, each once and in order. -/
structure Loaded (C : Custody hid) (s : Globals W) : Prop where
  /-- The script has the list. -/
  list : Holding C s.heap s.world s.g_enumlist
  /-- The open device is a node of it. -/
  device : s.hdev=0 ∨ s.hdev∈nodesOf s.heap s.g_enumlist
  /-- The ids are distinct. -/
  distinct : s.devids.Nodup
  /-- They are the ids of the devices. -/
  found : ∀ id,id∈s.devids ↔ id∈(nodesOf s.heap s.g_enumlist).map (idOf s.heap)
  /-- They are in the order of the list. -/
  ordered : s.devids.Sublist ((nodesOf s.heap s.g_enumlist).map (idOf s.heap))

/-- The script before it has looked for devices. -/
structure Fresh (C : Custody hid) (s : Globals W) : Prop where
  /-- There is no list. -/
  noList : Holding C s.heap s.world 0
  /-- No device is open. -/
  noDevice : s.hdev=0

/-- Looking for devices never raises. -/
theorem enumDevs_run (h : Fresh C s) (hready : C.Ready 0 s.world) :
    ∃ t,enumDevs hid s=some (.ok (),t) ∧ Loaded C t ∧ t.hdev=0 := by
  have hget := h.noList.get hready
  generalize hr : usbIoGetDeviceList hid s.heap s.world=r at hget
  have hloop := enumLoop_linked hget.linked hget.length_le hget.listed []
  obtain ⟨hnodup,hmem,new,hnew,hsub⟩ := firstOnes_spec ((nodesOf r.2.1 r.1).map (idOf r.2.1)) [] List.nodup_nil
  rw [List.nil_append] at hnew
  let ids := firstOnes [] ((nodesOf r.2.1 r.1).map (idOf r.2.1))
  refine ⟨⟨ids,s.hdev,r.1,r.2.1,r.2.2⟩,?_,⟨hget,.inl h.noDevice,hnodup,fun id => ?_,?_⟩,h.noDevice⟩
  · rw [enumDevs,hr,hloop,Option.map_some]
  · rw [hmem]
    exact or_iff_right List.not_mem_nil
  · dsimp only [ids]
    rw [hnew]
    exact hsub

/-- Opening another device of the list. -/
theorem Loaded.opened (h : Loaded C s) {p : Ptr} (hp : p∈nodesOf s.heap s.g_enumlist) :
    Loaded C {s with hdev := p} := ⟨h.list,.inr hp,h.distinct,h.found,h.ordered⟩

/-- The first device can be opened when there is one, and nothing else changes. -/
theorem openDev_run (h : Loaded C s) :
    ∃ x,openDev s=some x ∧ (s.g_enumlist=0 → x=(.error .assertion,s)) ∧
      (s.g_enumlist≠0 → x=(.ok (),{s with hdev := s.g_enumlist})) := by
  by_cases h0 : s.g_enumlist=0
  · exact ⟨(.error .assertion,s),if_pos h0,fun _ => rfl,fun hne => absurd h0 hne⟩
  · refine ⟨(.ok (),{s with hdev := s.g_enumlist}),?_,fun he => absurd he h0,fun _ => rfl⟩
    rw [openDev,if_neg h0,h.list.openDevice (h.list.head_mem h0),Option.map_some,if_neg h0]

/-- Opening by id: it does not get past the encoding, or the id was found
and the device opened has it, or it was not found and the open fails. -/
theorem openDevById_run (h : Loaded C s) (idstr : String) :
    (idstr.toList.any (fun c => decide (0x80≤c.toNat))=true ∧ openDevById idstr s=some (.error .encoding,s)) ∨
      (∃ p∈nodesOf s.heap s.g_enumlist,idOf s.heap p=cstr (ascii idstr) ∧ cstr (ascii idstr)∈s.devids ∧
        openDevById idstr s=some (.ok (),{s with hdev := p})) ∨
      cstr (ascii idstr)∉s.devids ∧
        openDevById idstr s=some (.error (.failed ("Cannot open device with id="++idstr)),s) := by
  by_cases hascii : idstr.toList.any (fun c => decide (0x80≤c.toNat))=true
  · exact .inl ⟨hascii,if_pos hascii⟩
  · have hopen := h.list.openWithSerial (ascii idstr)
    rcases h.list.find (cstr (ascii idstr)) with ⟨a,ha,hf,hid,h0⟩|⟨hf,hno⟩
    · rw [hf] at hopen
      refine .inr (.inl ⟨a,ha,hid,(h.found _).mpr (hid ▸ List.mem_map_of_mem ha),?_⟩)
      rw [openDevById,if_neg hascii,hopen,Option.map_some]
      exact congrArg some (if_neg h0)
    · rw [hf] at hopen
      refine .inr (.inr ⟨fun hm => hno ((h.found _).mp hm),?_⟩)
      rw [openDevById,if_neg hascii,hopen,Option.map_some]
      rfl

variable (hid) in
/-- Pin calls on the open device use no other. -/
theorem onDevice_run {R : Type} (h : Loaded C s) (p : Prog PinCall Answer (Except Raised R)) :
    ∃ x v,onDevice hid p s=some (x,{s with world := v}) ∧ Loaded C {s with world := v} ∧
      (s.hdev=0 → v=s.world) ∧ (s.hdev≠0 → p.exec (pinMachine hid s.heap s.hdev) s.world=some (x,v) ∧
        Relation.ReflTransGen (HandleUse hid (usbhOf s.heap s.hdev)) s.world v) := by
  by_cases h0 : s.hdev=0
  · exact ⟨.error .assertion,s.world,if_pos h0,h,fun _ => rfl,fun hne => absurd h0 hne⟩
  · obtain ⟨x,v,hexec,hv,huses⟩ := h.list.program (h.device.resolve_left h0) p
    refine ⟨x,v,?_,⟨hv,h.device,h.distinct,h.found,h.ordered⟩,fun he => absurd he h0,fun _ => ⟨hexec,huses⟩⟩
    rw [onDevice,if_neg h0,hexec,Option.map_some]

/-- Every command is survived and keeps what holds. -/
theorem command_keeps (c : Command) : Keeps (Loaded C) (c.run hid) := by
  have hgive : ∀ {R : Type} (r : R),Keeps (Loaded C) (fun s => some (.ok (),s) : Act (Globals W) Raised Unit) :=
    fun _ s hs => ⟨.ok (),s,rfl,hs⟩
  have hdevice : ∀ {R : Type} (p : Prog PinCall Answer (Except Raised R)),Keeps (Loaded C) (onDevice hid p) := by
    intro R p s hs
    obtain ⟨x,v,hrun,hv,-⟩ := onDevice_run hid hs p
    exact ⟨x,_,hrun,hv⟩
  cases c with
  | openDev =>
    intro s hs
    obtain ⟨x,hx,hnone,hsome⟩ := openDev_run hs
    by_cases h0 : s.g_enumlist=0
    · rw [hnone h0] at hx
      exact ⟨_,s,hx,hs⟩
    · rw [hsome h0] at hx
      exact ⟨_,_,hx,hs.opened (hs.list.head_mem h0)⟩
  | openDevById idstr =>
    intro s hs
    rcases openDevById_run hs idstr with ⟨-,hx⟩|⟨p,hp,-,-,hx⟩|⟨-,hx⟩
    · exact ⟨_,s,hx,hs⟩
    · exact ⟨_,_,hx,hs.opened hp⟩
    · exact ⟨_,s,hx,hs⟩
  | closeDev => exact fun s hs => ⟨_,_,rfl,hs.list,.inl rfl,hs.distinct,hs.found,hs.ordered⟩
  | testLed => exact hdevice testLed
  | testGetAllPins => exact (hdevice testGetAllPins).andThen fun r => hgive r
  | testPins p_in p_out => exact (hdevice (testPins p_in p_out)).andThen fun r => hgive r

variable (hid) in
/-- So are any commands in turn. -/
theorem commands_keep (commands : List Command) : Keeps (Loaded C) (inTurn (commands.map (Command.run hid))) := by
  refine Keeps.inTurn fun a ha => ?_
  obtain ⟨c,-,rfl⟩ := List.mem_map.mp ha
  exact command_keeps c

/-- What is left after the cleanup: no list and no device, and the ids. -/
structure Unloaded (C : Custody hid) (s t : Globals W) : Prop where
  /-- There is no list. -/
  noList : Holding C t.heap t.world 0
  /-- No device is open. -/
  noDevice : t.hdev=0
  /-- The ids found stay. -/
  devids : t.devids=s.devids

/-- The cleanup never raises. -/
theorem unloadLib_run (h : Loaded C s) : ∃ t,unloadLib hid s=some (.ok (),t) ∧ Unloaded C s t := by
  let u : Globals W := if s.hdev≠0 then {s with hdev := 0} else s
  have hu : u={s with hdev := 0} := by
    by_cases h0 : s.hdev=0
    · obtain ⟨devids,hdev,g,heap,w⟩ := s
      dsimp only at h0
      subst h0
      rfl
    · exact if_pos h0
  have hunload : unloadLib hid s=
      if u.g_enumlist≠0 then
        (usbIoFreeDeviceList hid u.g_enumlist u.heap u.world).map fun r => (.ok (),{u with heap := r.1,world := r.2})
      else some (.ok (),u) := rfl
  rw [hunload,hu]
  dsimp only
  by_cases h0 : s.g_enumlist=0
  · rw [if_neg (not_not.mpr h0)]
    have hlist := h.list
    rw [h0] at hlist
    exact ⟨_,rfl,hlist,rfl,rfl⟩
  · obtain ⟨heap',w',hfree,hlist,-⟩ := h.list.free
    rw [if_pos h0,hfree,Option.map_some]
    exact ⟨_,rfl,hlist,rfl,rfl⟩

/-- The whole script: it ends with no list and no device, whatever is
called in between and whatever that raises. -/
theorem script_run (h : Fresh C s) (hready : C.Ready 0 s.world) (commands : List Command) :
    ∃ x t,script hid commands s=some (x,t) ∧ Holding C t.heap t.world 0 ∧ t.hdev=0 := by
  obtain ⟨u,hu,hloaded,-⟩ := enumDevs_run h hready
  have hclean : ∀ v,Loaded C v → ∃ t,unloadLib hid v=some (.ok (),t) ∧ Holding C t.heap t.world 0 ∧ t.hdev=0 := by
    intro v hv
    obtain ⟨t,ht,hunloaded⟩ := unloadLib_run hv
    exact ⟨t,ht,hunloaded.noList,hunloaded.noDevice⟩
  obtain ⟨x,t,ht,hend⟩ := (commands_keep hid commands).withCleanup hclean hloaded
  refine ⟨x,t,?_,hend⟩
  rw [script,withCleanup,andThen_ok hu]
  exact ht

/-- Blinking the LED raises nothing, whatever the two calls return. -/
theorem testLed_ok {a : Ptr} {heap : Heap} {w v : W} {x : Except Raised Unit}
    (h : testLed.exec (pinMachine hid heap a) w=some (x,v)) : x=.ok () := by
  simp only [testLed,Prog.exec_bind,Prog.exec_ask,Prog.exec_ret] at h
  obtain ⟨y,-,h⟩ := Option.bind_eq_some_iff.mp h
  obtain ⟨z,-,h⟩ := Option.bind_eq_some_iff.mp h
  exact (congrArg Prod.fst (Option.some.inj h)).symm

/-- An id has four characters, so a list with a node has an id. -/
theorem Loaded.devids_nil (h : Loaded C s) : s.devids=[] ↔ s.g_enumlist=0 := by
  rw [←h.list.nil_iff]
  constructor
  · intro hnil
    by_contra hne
    obtain ⟨a,ha⟩ := List.exists_mem_of_ne_nil _ hne
    have hm := (h.found (idOf s.heap a)).mpr (List.mem_map_of_mem ha)
    rw [hnil] at hm
    exact List.not_mem_nil hm
  · intro hnil
    refine List.eq_nil_iff_forall_not_mem.mpr fun id hid => ?_
    have hm := (h.found id).mp hid
    rw [hnil] at hm
    exact List.not_mem_nil hm

/-- What the main part comes to, where `u` is the state when the devices have
been found: the LED of the first device was switched on and off, if there is
one, no other device was used, and then all were closed. -/
structure Blinked (hid : HidLayer W) (u t : Globals W) : Prop where
  /-- Without a device nothing happens in between. -/
  idle : u.g_enumlist=0 → t.world=u.world
  /-- The first device blinks, and then nothing is done but to close all. -/
  blinks : u.g_enumlist≠0 → ∃ v,testLed.exec (pinMachine hid u.heap u.g_enumlist) u.world=some (.ok (),v) ∧
    Relation.ReflTransGen (HandleUse hid (usbhOf u.heap u.g_enumlist)) u.world v ∧
    t.world=closeAll hid (handlesIn u.heap u.g_enumlist) v

/-- The main part never raises. -/
theorem main_run (h : Fresh C s) (hready : C.Ready 0 s.world) :
    ∃ u t,enumDevs hid s=some (.ok (),u) ∧ Loaded C u ∧ main hid s=some (.ok (),t) ∧ Unloaded C u t ∧
      Blinked hid u t := by
  obtain ⟨u,hu,hloaded,hdev⟩ := enumDevs_run h hready
  refine ⟨u,?_⟩
  by_cases h0 : u.g_enumlist=0
  · have hnil := hloaded.devids_nil.mpr h0
    have hunload : unloadLib hid u=some (.ok (),u) := by
      have hdev' : ¬u.hdev≠0 := not_not.mpr hdev
      have hlist : ¬u.g_enumlist≠0 := not_not.mpr h0
      unfold unloadLib
      rw [if_neg hdev']
      exact if_neg hlist
    have hlist := hloaded.list
    rw [h0] at hlist
    refine ⟨u,hu,hloaded,withCleanup_eq ((andThen_ok hu _).trans ?_) hunload,⟨hlist,hdev,rfl⟩,fun _ => rfl,
      fun hne => absurd h0 hne⟩
    rw [hnil]
    rfl
  · have hsome : ¬u.devids.length=0 := fun hl => h0 (hloaded.devids_nil.mp (List.eq_nil_of_length_eq_zero hl))
    obtain ⟨x,hopen,-,hopened⟩ := openDev_run hloaded
    rw [hopened h0] at hopen
    have hl := hloaded.opened (hloaded.list.head_mem h0)
    obtain ⟨y,v,hled,hv,-,hexec⟩ := onDevice_run hid hl testLed
    obtain ⟨hrun,huses⟩ := hexec h0
    obtain rfl := testLed_ok hrun
    -- the device is closed before the cleanup, which then only frees the list
    let c : Globals W := {u with hdev := 0,world := v}
    have hc : Loaded C c := ⟨hv.list,.inl rfl,hv.distinct,hv.found,hv.ordered⟩
    obtain ⟨heap',w',hfree,hlist,-,hclosed⟩ := hc.list.free
    have hunload : unloadLib hid c=some (.ok (),{c with heap := heap',world := w'}) := by
      have hdev' : ¬c.hdev≠0 := not_not.mpr rfl
      unfold unloadLib
      rw [if_neg hdev']
      dsimp only
      rw [if_pos h0,hfree,Option.map_some]
    refine ⟨_,hu,hloaded,withCleanup_eq ((andThen_ok hu _).trans ?_) hunload,⟨hlist,rfl,rfl⟩,
      fun he => absurd he h0,fun _ => ⟨v,hrun,huses,hclosed⟩⟩
    rw [if_pos hsome,andThen_ok hopen,andThen_ok hled]
    rfl

end Laws

section Processes

/-- The script at its start. -/
def start (b : Process) (fails : ℕ → Bool) : Globals b.World := ⟨[],0,0,Heap.empty fails,b.world⟩

/-- The script, at libusb and at Windows: whatever is attached, whichever
allocations and transfers fail, whatever is called in turn and whatever that
raises, at the end no device is open and everything has been given back. -/
theorem script_gives_back (b : Process) (target : Target) (fails : ℕ → Bool) (commands : List Command) :
    ∃ x t,script (b.hid target) commands (start b fails)=some (x,t) ∧ t.hdev=0 ∧
      GivenBack (b.ledger target) t.heap t.world := by
  obtain ⟨hstart,hready⟩ := process_holding b target fails
  obtain ⟨x,t,ht,hend,hdev⟩ := script_run (s := start b fails) ⟨hstart,rfl⟩ (hready _ hstart.noneOut) commands
  exact ⟨x,t,ht,hdev,givenBack_of_holding hend⟩

/-- The script's own main part never raises. The ids it finds are those of
the devices, each once and in order; the LED of the first device was
switched on and off, and from then on devices were only closed; and everything
has been given back. -/
theorem main_blinks (b : Process) (target : Target) (fails : ℕ → Bool) :
    ∃ u t,enumDevs (b.hid target) (start b fails)=some (.ok (),u) ∧
      main (b.hid target) (start b fails)=some (.ok (),t) ∧ t.hdev=0 ∧
      GivenBack (b.ledger target) t.heap t.world ∧ Blinked (b.hid target) u t ∧
      t.devids.Nodup ∧ (∀ id,id∈t.devids ↔ id∈(nodesOf u.heap u.g_enumlist).map (idOf u.heap)) ∧
      t.devids.Sublist ((nodesOf u.heap u.g_enumlist).map (idOf u.heap)) := by
  obtain ⟨hstart,hready⟩ := process_holding b target fails
  obtain ⟨u,t,hu,hloaded,ht,hunloaded,hblinked⟩ :=
    main_run (s := start b fails) ⟨hstart,rfl⟩ (hready _ hstart.noneOut)
  refine ⟨u,t,hu,ht,hunloaded.noDevice,givenBack_of_holding hunloaded.noList,hblinked,?_⟩
  rw [hunloaded.devids]
  exact ⟨hloaded.distinct,hloaded.found,hloaded.ordered⟩

/-- After any calls in turn the ids found are distinct, and opening a device
by an ASCII string succeeds exactly when the string, up to its first NUL, is
one of them; the device opened then has that id. -/
theorem openDevById_found (b : Process) (target : Target) (fails : ℕ → Bool) (commands : List Command) :
    ∃ x s,andThen (enumDevs (b.hid target)) (fun _ => inTurn (commands.map (Command.run (b.hid target))))
        (start b fails)=some (x,s) ∧ s.devids.Nodup ∧
      ∀ idstr : String,¬idstr.toList.any (fun c => decide (0x80≤c.toNat))=true →
        (cstr (ascii idstr)∈s.devids → ∃ t,openDevById idstr s=some (.ok (),t) ∧
          idOf t.heap t.hdev=cstr (ascii idstr)) ∧
        (cstr (ascii idstr)∉s.devids → ∃ e,openDevById idstr s=some (.error e,s)) := by
  obtain ⟨hstart,hready⟩ := process_holding b target fails
  obtain ⟨u,hu,hloaded,-⟩ := enumDevs_run (s := start b fails) ⟨hstart,rfl⟩ (hready _ hstart.noneOut)
  obtain ⟨x,s,hs,h⟩ := commands_keep (b.hid target) commands u hloaded
  refine ⟨x,s,(andThen_ok hu _).trans hs,h.distinct,fun idstr hascii => ?_⟩
  rcases openDevById_run h idstr with ⟨hbad,-⟩|⟨p,-,hid,hm,ho⟩|⟨hno,ho⟩
  · exact absurd hbad hascii
  · exact ⟨fun _ => ⟨_,ho,hid⟩,fun hno => absurd hm hno⟩
  · exact ⟨fun hm => absurd hm hno,fun _ => ⟨_,ho⟩⟩

end Processes

end UsbIo16.ScriptTests
