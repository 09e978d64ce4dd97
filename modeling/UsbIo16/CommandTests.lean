import UsbIo16.HeldList
import UsbIo16.SingleList

/-!
# The command line test program

The tests of `usb_io_cmd_test.cpp` over an arbitrary HID layer: the test that
prints all ids, the wrapper that runs a test on the first device, the tests
themselves as programs of pin calls, and the loop of the original vendor's
test. A test may do what it likes with the device and may end with an
exception; the wrapper gives back all it took. The loop gives back what it
took in every round but the last.
-/

namespace UsbIo16.CommandTests

open ByteBuffer HandleLedger Hiddata IoInterface PinCalls DeviceVisits Ownership ListSessions
open SingleList ListedDevices HeldList CallPrograms PinArray

/-- `enum pin_level`. -/
def LOW_LVL : BitVec 32 := 0
/-- `enum pin_level`. -/
def HIGH_LVL : BitVec 32 := 1
/-- `enum input_pin_mode`. -/
def NO_INNER_PULL_UP : BitVec 32 := 0
/-- `enum input_pin_mode`. -/
def INNER_PULL_UP : BitVec 32 := 1
/-- `enum work_led_mode`. -/
def WORK_LED_OFF : BitVec 32 := 0
/-- `enum work_led_mode`. -/
def WORK_LED_BLINK : BitVec 32 := 1

section Programs

/-- A test on an opened device: its result, or none when it throws. -/
abbrev FTest := ℤ → Prog PinCall Answer (Option ℤ)

/-- LED test; the parameter is only the time waited in between. -/
def testLEDOnOff : FTest := fun _ =>
  (Prog.ask (.setWorkLedMode WORK_LED_BLINK)).bind fun a =>
    if a.ok=false then .ret (some 2)
    else
      (Prog.ask (.setWorkLedMode WORK_LED_OFF)).bind fun a =>
        if a.ok=false then .ret (some 2) else .ret (some 0)

/-- Read a pin into the variable `inp`, which keeps its value when the read fails. -/
def readInp (pin_IN inp : BitVec 32) : Prog PinCall Answer (BitVec 32) :=
  (Prog.ask (.readInputPinValue pin_IN (some inp))).bind fun a => .ret (a.level.getD inp)

/-- Toggle the output and read the input `n` times; the values printed are
those of `inp` after each read. -/
def toggles (pin_IN pin_OUT : BitVec 32) : ℕ → BitVec 32 → Prog PinCall Answer (List (BitVec 32))
  | 0,_ => .ret []
  | n+1,inp =>
    (Prog.ask (.writeOutputPinValue pin_OUT LOW_LVL)).bind fun _ =>
      (readInp pin_IN inp).bind fun low =>
        (Prog.ask (.writeOutputPinValue pin_OUT HIGH_LVL)).bind fun _ =>
          (readInp pin_IN low).bind fun high =>
            (toggles pin_IN pin_OUT n high).bind fun rest => .ret (low::high::rest)

/-- The I/O pin loopback test and the values it prints. -/
def ioLoopbk (pin_IN pin_OUT : BitVec 32) : Prog PinCall Answer (List (BitVec 32)) :=
  (Prog.ask (.setPinMode pin_IN INPUT_MODE INNER_PULL_UP)).bind fun _ =>
    (Prog.ask (.setPinMode pin_OUT OUTPUT_MODE NO_INNER_PULL_UP)).bind fun _ =>
      (readInp pin_IN (BitVec.allOnes 32)).bind fun inp =>
        (toggles pin_IN pin_OUT 3 inp).bind fun rest => .ret (inp::rest)

/-- I/O pin loopback test on the pins given by the two lowest hexadecimal
digits of the parameter. Zero is returned whatever was read. -/
def testIOLoopbk : FTest := fun param =>
  (ioLoopbk (BitVec.ofInt 32 (param%16)) (BitVec.ofInt 32 (param/16%16))).bind fun _ => .ret (some 0)

/-- The array of pins before a read, filled with 0xEE. -/
def filled : PinInfos := fun _ => ⟨0xEEEEEEEE#32,0xEEEEEEEE#32,0xEEEEEEEE#32⟩

/-- Read all pins and print them. -/
def readPins : Prog PinCall Answer PinInfos :=
  (Prog.ask (.getAllPinInfo (some filled))).bind fun a => .ret (a.info.getD filled)

/-- The settings made between the two reads. -/
def statusSettings : List PinCall :=
  [.setPinMode 0 INPUT_MODE NO_INNER_PULL_UP,.setPinMode 1 INPUT_MODE INNER_PULL_UP,
    .setPinMode 4 OUTPUT_MODE NO_INNER_PULL_UP,.setPinMode 5 INPUT_MODE INNER_PULL_UP,
    .setPinMode 8 INPUT_MODE INNER_PULL_UP,.setPinMode 9 INPUT_MODE NO_INNER_PULL_UP,
    .setPinMode 10 OUTPUT_MODE NO_INNER_PULL_UP,.setPinMode 12 OUTPUT_MODE NO_INNER_PULL_UP,
    .writeOutputPinValue 4 HIGH_LVL,.writeOutputPinValue 12 HIGH_LVL,.writeOutputPinValue 10 LOW_LVL]

/-- The status test and the two arrays it prints. -/
def readStatus : Prog PinCall Answer (PinInfos×PinInfos) :=
  readPins.bind fun first =>
    (Prog.each Prog.ask statusSettings).bind fun _ => readPins.bind fun second => .ret (first,second)

/-- Read status test. -/
def testReadStatus : FTest := fun _ => readStatus.bind fun _ => .ret (some 0)

/-- Make all pins outputs at one level. -/
def allPins (level : BitVec 32) : Prog PinCall Answer (List Answer) :=
  Prog.each (fun i => (Prog.ask (.setPinMode (BitVec.ofNat 32 i) OUTPUT_MODE NO_INNER_PULL_UP)).bind fun _ =>
    Prog.ask (.writeOutputPinValue (BitVec.ofNat 32 i) level)) (List.range 16)

/-- What one round of the original test does with an open device; false when
the LED could not be switched on, where the round stops. -/
def origLoopBody : Prog PinCall Answer Bool :=
  (Prog.ask (.setWorkLedMode WORK_LED_BLINK)).bind fun a =>
    if a.ok=false then .ret false
    else (allPins HIGH_LVL).bind fun _ => (allPins LOW_LVL).bind fun _ => .ret true

end Programs

section Runs

variable {W : Type} (hid : HidLayer W)

/-- What a test leaves behind: its result, the serial numbers printed, and
the state of the library. -/
structure TestRun (W : Type) where
  /-- The returned code. -/
  rc : ℤ
  /-- The serial numbers printed. -/
  printed : List (List Byte)
  /-- The node heap. -/
  heap : Heap
  /-- The world of the backend. -/
  world : W

/-- Print the serial numbers of all devices. -/
def enumTest (heap : Heap) (w : W) : Option (TestRun W) :=
  let r := usbIoGetDeviceList hid heap w
  if r.1=0 then some ⟨1,[],r.2.1,r.2.2⟩
  else
    (serials r.2.1 r.2.1.calls r.1).bind fun printed =>
      (usbIoFreeDeviceList hid r.1 r.2.1 r.2.2).map fun f => ⟨0,printed,f.1,f.2⟩

/-- Open the first device of a list, run the test on it and close it; the
code stays -1 without a test, and when the test throws. -/
def runOnDevice (ftest : Option FTest) (param : ℤ) (usb_io_list : Ptr) (heap : Heap) (w : W) : Option (ℤ×W) :=
  match ftest with
  | none => some (-1,w)
  | some ftest =>
    (usbIoOpenDevice usb_io_list heap).bind fun hnd =>
      ((ftest param).exec (pinMachine hid heap hnd) w).map fun x =>
        (x.1.getD (-1),(usbIoCloseDevice hnd heap x.2).2)

/-- Wrapper for calling a test on the first found device. -/
def oneDevTest (ftest : Option FTest) (param : ℤ) (heap : Heap) (w : W) : Option (TestRun W) :=
  let r := usbIoGetDeviceList hid heap w
  if r.1=0 then some ⟨-1,[],r.2.1,r.2.2⟩
  else
    (serialText r.2.1 r.1).bind fun serial =>
      (runOnDevice hid ftest param r.1 r.2.1 r.2.2).bind fun x =>
        (usbIoFreeDeviceList hid r.1 r.2.1 x.2).map fun f => ⟨x.1,[serial],f.1,f.2⟩

/-- What a round of the original test leaves behind. -/
structure LoopRound (W : Type) where
  /-- Whether the loop was left. -/
  exited : Bool
  /-- The node heap. -/
  heap : Heap
  /-- The world of the backend. -/
  world : W

/-- One round of the original test. It leaves the loop with the list at hand
when the LED cannot be switched on. -/
def origLoopRound (heap : Heap) (w : W) : Option (LoopRound W) :=
  let r := usbIoGetDeviceList hid heap w
  let free := fun w => (usbIoFreeDeviceList hid r.1 r.2.1 w).map fun f => (⟨false,f.1,f.2⟩ : LoopRound W)
  (serials r.2.1 r.2.1.calls r.1).bind fun _ =>
    if r.1≠0 then
      (usbIoOpenDevice r.1 r.2.1).bind fun hand =>
        if hand≠0 then
          (origLoopBody.exec (pinMachine hid r.2.1 hand) r.2.2).bind fun x =>
            if x.1=false then some ⟨true,r.2.1,x.2⟩
            else free (usbIoCloseDevice hand r.2.1 x.2).2
        else free (usbIoCloseDevice hand r.2.1 r.2.2).2
    else free r.2.2

/-- The original test, for at most `n` rounds. -/
def origLoopTest : ℕ → Heap → W → Option (LoopRound W)
  | 0,heap,w => some ⟨false,heap,w⟩
  | n+1,heap,w =>
    (origLoopRound hid heap w).bind fun r =>
      if r.exited=true then some r else origLoopTest n r.heap r.world

end Runs

section Laws

variable {W : Type} {hid : HidLayer W} {C : Custody hid} {heap : Heap} {w : W}

/-- The handles in a list, in order. -/
abbrev handlesIn (heap : Heap) (head : Ptr) : List Ptr := (nodesOf heap head).map (usbhOf heap)

/-- What a run of the enumeration test comes to, where `r` is the list it
gets: the ids of all nodes are printed, in order, and the devices are closed
without having been used. -/
structure Listed (hid : HidLayer W) (r : Ptr×Heap×W) (t : TestRun W) : Prop where
  /-- What is printed. -/
  printed : t.printed=(nodesOf r.2.1 r.1).map (idOf r.2.1)
  /-- The code tells whether there was a device. -/
  code : t.rc=if nodesOf r.2.1 r.1=[] then 1 else 0
  /-- The devices are only closed. -/
  closed : t.world=closeAll hid (handlesIn r.2.1 r.1) r.2.2

/-- The enumeration test returns and gives back what it took. -/
theorem enumTest_run (h : Holding C heap w 0) (hready : C.Ready 0 w) :
    ∃ t,enumTest hid heap w=some t ∧ Holding C t.heap t.world 0 ∧ Listed hid (usbIoGetDeviceList hid heap w) t := by
  have hget := h.get hready
  generalize hr : usbIoGetDeviceList hid heap w=r at hget ⊢
  by_cases h0 : r.1=0
  · have hempty : nodesOf r.2.1 r.1=[] := hget.nil_iff.mpr h0
    rw [h0] at hget
    refine ⟨⟨1,[],r.2.1,r.2.2⟩,?_,hget,?_,(if_pos hempty).symm,?_⟩
    · rw [enumTest,hr]
      exact if_pos h0
    · rw [hempty]
      rfl
    · rw [handlesIn,hempty]
      rfl
  · have hne : ¬nodesOf r.2.1 r.1=[] := fun he => h0 (hget.nil_iff.mp he)
    obtain ⟨heap',w',hfree,hlist,-,hclosed⟩ := hget.free
    refine ⟨⟨0,(nodesOf r.2.1 r.1).map (idOf r.2.1),heap',w'⟩,?_,hlist,rfl,(if_neg hne).symm,hclosed⟩
    rw [enumTest,hr,if_neg h0,hget.serials,Option.bind_some,hfree,Option.map_some]

/-- What a test on the first device of a list does: it returns, uses no other
device, and its result is that of the program, -1 if it throws. -/
theorem runOnDevice_run {head : Ptr} (h : Holding C heap w head) (h0 : head≠0) (ftest : Option FTest) (param : ℤ) :
    ∃ rc v,runOnDevice hid ftest param head heap w=some (rc,v) ∧ Holding C heap v head ∧
      Relation.ReflTransGen (HandleUse hid (usbhOf heap head)) w v ∧
      (ftest=none → rc=-1 ∧ v=w) ∧ ∀ f,ftest=some f →
        ∃ x,(f param).exec (pinMachine hid heap head) w=some (x,v) ∧ rc=x.getD (-1) := by
  have hmem := h.head_mem h0
  cases ftest with
  | none => exact ⟨-1,w,rfl,h,.refl,fun _ => ⟨rfl,rfl⟩,fun f hf => absurd hf.symm (Option.some_ne_none f)⟩
  | some f =>
    obtain ⟨x,v,hexec,hv,huses⟩ := h.program hmem (f param)
    refine ⟨x.getD (-1),v,?_,hv,huses,fun hf => absurd hf (Option.some_ne_none f),?_⟩
    · rw [runOnDevice,h.openDevice hmem,Option.bind_some,hexec,Option.map_some]
      rfl
    · rintro g hg
      obtain rfl := Option.some.inj hg
      exact ⟨x,hexec,rfl⟩

/-- What a run of the wrapper comes to, where `r` is the list it gets: without
a device or a test the code is -1; otherwise the test runs on the first
device, uses no other one, and decides the code. After the test nothing is
done but to close the devices. -/
structure Wrapped (hid : HidLayer W) (ftest : Option FTest) (param : ℤ) (r : Ptr×Heap×W) (t : TestRun W) : Prop where
  /-- Without a device nothing is printed, and with one its id. -/
  printed : t.printed=if r.1=0 then [] else [idOf r.2.1 r.1]
  /-- Without a device or a test the code is -1 and no device is used. -/
  untested : r.1=0 ∨ ftest=none → t.rc=-1 ∧ t.world=closeAll hid (handlesIn r.2.1 r.1) r.2.2
  /-- A test runs on the first device, and no other device is used. -/
  tested : ∀ f,ftest=some f → r.1≠0 → ∃ x v,(f param).exec (pinMachine hid r.2.1 r.1) r.2.2=some (x,v) ∧
    t.rc=x.getD (-1) ∧ Relation.ReflTransGen (HandleUse hid (usbhOf r.2.1 r.1)) r.2.2 v ∧
    t.world=closeAll hid (handlesIn r.2.1 r.1) v

/-- The wrapper returns and gives back what it took, whatever the test does. -/
theorem oneDevTest_run (h : Holding C heap w 0) (hready : C.Ready 0 w) (ftest : Option FTest) (param : ℤ) :
    ∃ t,oneDevTest hid ftest param heap w=some t ∧ Holding C t.heap t.world 0 ∧
      Wrapped hid ftest param (usbIoGetDeviceList hid heap w) t := by
  have hget := h.get hready
  generalize hr : usbIoGetDeviceList hid heap w=r at hget ⊢
  by_cases h0 : r.1=0
  · rw [h0] at hget
    refine ⟨⟨-1,[],r.2.1,r.2.2⟩,?_,hget,(if_pos h0).symm,fun _ => ⟨rfl,?_⟩,fun f _ hne => absurd h0 hne⟩
    · rw [oneDevTest,hr]
      exact if_pos h0
    · rw [handlesIn,h0,nodesOf_null]
      rfl
  · obtain ⟨rc,v,hrun,hv,huses,hnone,hsome⟩ := runOnDevice_run hget h0 ftest param
    obtain ⟨heap',w',hfree,hlist,-,hclosed⟩ := hv.free
    refine ⟨⟨rc,[idOf r.2.1 r.1],heap',w'⟩,?_,hlist,(if_neg h0).symm,?_,?_⟩
    · rw [oneDevTest,hr,if_neg h0,(hget.text (hget.head_mem h0)).1,Option.bind_some,hrun,Option.bind_some,hfree,Option.map_some]
    · rintro (he|he)
      · exact absurd he h0
      · obtain ⟨hrc,rfl⟩ := hnone he
        exact ⟨hrc,hclosed⟩
    · intro f hf _
      obtain ⟨x,hexec,hrc⟩ := hsome f hf
      exact ⟨x,v,hexec,hrc,huses,hclosed⟩

/-- A round of the original test returns. It gives back what it took, unless
it leaves the loop: then it still has a list. -/
theorem origLoopRound_run (h : Holding C heap w 0) (hready : C.Ready 0 w) :
    ∃ t,origLoopRound hid heap w=some t ∧ (t.exited=false → Holding C t.heap t.world 0) ∧
      (t.exited=true → ∃ head,head≠0 ∧ Holding C t.heap t.world head) := by
  have hget := h.get hready
  generalize hr : usbIoGetDeviceList hid heap w=r at hget
  have hserials := hget.serials
  have hfree : ∀ v,Holding C r.2.1 v r.1 → ∃ heap' w',usbIoFreeDeviceList hid r.1 r.2.1 v=some (heap',w') ∧
      Holding C heap' w' 0 := by
    intro v hv
    obtain ⟨heap',w',hf,hlist,-⟩ := hv.free
    exact ⟨heap',w',hf,hlist⟩
  by_cases h0 : r.1=0
  · obtain ⟨heap',w',hf,hlist⟩ := hfree r.2.2 hget
    refine ⟨⟨false,heap',w'⟩,?_,fun _ => hlist,fun he => absurd he Bool.false_ne_true⟩
    rw [origLoopRound,hr]
    dsimp only
    rw [hserials,Option.bind_some,if_neg (not_not.mpr h0),hf,Option.map_some]
  · have hmem := hget.head_mem h0
    obtain ⟨x,v,hexec,hv,-⟩ := hget.program hmem origLoopBody
    have hopened : origLoopRound hid heap w=
        if x=false then some ⟨true,r.2.1,v⟩
        else (usbIoFreeDeviceList hid r.1 r.2.1 v).map fun f => ⟨false,f.1,f.2⟩ := by
      rw [origLoopRound,hr]
      dsimp only
      rw [hserials,Option.bind_some,if_pos h0,hget.openDevice hmem,Option.bind_some,if_pos h0,hexec,Option.bind_some]
      rfl
    cases x with
    | false => exact ⟨⟨true,r.2.1,v⟩,hopened,fun he => absurd he.symm Bool.false_ne_true,fun _ => ⟨r.1,h0,hv⟩⟩
    | true =>
      obtain ⟨heap',w',hf,hlist⟩ := hfree v hv
      refine ⟨⟨false,heap',w'⟩,?_,fun _ => hlist,fun he => absurd he Bool.false_ne_true⟩
      rw [hopened,if_neg (fun he => Bool.false_ne_true he.symm),hf,Option.map_some]

/-- Any number of rounds of the original test. The induction is on them: a
client without a list goes into each round. -/
theorem origLoopTest_run (hready : ∀ w,C.Owned 0 w → C.Ready 0 w) (n : ℕ) (h : Holding C heap w 0) :
    ∃ t,origLoopTest hid n heap w=some t ∧ (t.exited=false → Holding C t.heap t.world 0) ∧
      (t.exited=true → ∃ head,head≠0 ∧ Holding C t.heap t.world head) := by
  induction n generalizing heap w with
  | zero => exact ⟨⟨false,heap,w⟩,rfl,fun _ => h,fun he => absurd he Bool.false_ne_true⟩
  | succ n ih =>
    obtain ⟨r,hr,hon,hexit⟩ := origLoopRound_run h (hready w h.noneOut)
    rw [origLoopTest,hr,Option.bind_some]
    cases he : r.exited with
    | true =>
      rw [if_pos rfl]
      exact ⟨r,rfl,hon,hexit⟩
    | false =>
      rw [if_neg Bool.false_ne_true]
      exact ih (hon he)

end Laws

section Processes

/-- The state in which a program should leave: no node is allocated, every
handle of the system that was opened has been closed exactly once, and the
attached devices are as they were at the start. -/
structure GivenBack {W : Type} {hid : HidLayer W} (B : LedgerCustody hid) (heap : Heap) (w : W) : Prop where
  /-- No node is allocated. -/
  freed : ∀ a,heap.cell a=none
  /-- No handle is open. -/
  noneOpen : (B.ledger w).live=some ∅
  /-- Each was closed once. -/
  closedOnce : ∀ h,.opened h∈(B.ledger w).log → (B.ledger w).log.count (.closed h)=1
  /-- The devices are as they were. -/
  atRest : B.AtRest w

/-- A client without a list has given everything back. -/
theorem givenBack_of_holding {W : Type} {hid : HidLayer W} {B : LedgerCustody hid} {heap : Heap} {w : W}
    (h : Holding B.toCustody heap w 0) : GivenBack B heap w := by
  obtain ⟨live,hlive,hstored⟩ := B.stored h.noneOut
  obtain rfl := hstored.empty
  exact ⟨h.empty,hlive,fun x hx => closed_once hlive hx,B.rest h.noneOut⟩

/-- With libusb and with Windows a process starts without a list, and may
request one whenever it has none. -/
theorem process_holding (b : Process) (target : Target) (fails : ℕ → Bool) :
    Holding (b.ledger target).toCustody (Heap.empty fails) b.world 0 ∧
      ∀ w,(b.ledger target).Owned 0 w → (b.ledger target).Ready 0 w := by
  cases b with
  | libusb env world attached childless clean =>
    exact ⟨holding_start fails ⟨_,BackendCustody.libusbOwned_start clean⟩,
      fun w _ u hu => absurd hu (Multiset.notMem_zero u)⟩
  | mswin env world clean =>
    exact ⟨holding_start fails (BackendCustody.mswinOwned_start clean),fun _ _ => trivial⟩

/-- The enumeration test of the command line program, at libusb and at
Windows: whatever is attached and whichever allocations and transfers fail,
it returns with everything given back, and has printed the ids of all nodes
in list order; the code is one without a device and else zero. -/
theorem enumTest_gives_back (b : Process) (target : Target) (fails : ℕ → Bool) :
    ∃ t,enumTest (b.hid target) (Heap.empty fails) b.world=some t ∧
      GivenBack (b.ledger target) t.heap t.world ∧
      Listed (b.hid target) (usbIoGetDeviceList (b.hid target) (Heap.empty fails) b.world) t := by
  obtain ⟨hstart,hready⟩ := process_holding b target fails
  obtain ⟨t,ht,hend,hlisted⟩ := enumTest_run hstart (hready _ hstart.noneOut)
  exact ⟨t,ht,givenBack_of_holding hend,hlisted⟩

/-- The wrapper of the command line tests, at libusb and at Windows: whatever
is attached, whichever allocations and transfers fail and whatever the test
does, exceptions included, it returns with everything given back. The code is
-1 without a device or a test, and otherwise what the test made of the first
device, the only one used once the list is there: the others are only closed. -/
theorem oneDevTest_gives_back (b : Process) (target : Target) (fails : ℕ → Bool) (ftest : Option FTest)
    (param : ℤ) :
    ∃ t,oneDevTest (b.hid target) ftest param (Heap.empty fails) b.world=some t ∧
      GivenBack (b.ledger target) t.heap t.world ∧
      Wrapped (b.hid target) ftest param (usbIoGetDeviceList (b.hid target) (Heap.empty fails) b.world) t := by
  obtain ⟨hstart,hready⟩ := process_holding b target fails
  obtain ⟨t,ht,hend,hwrapped⟩ := oneDevTest_run hstart (hready _ hstart.noneOut) ftest param
  exact ⟨t,ht,givenBack_of_holding hend,hwrapped⟩

/-- What a client that has a list has allocated and open. -/
structure KeptOpen {W : Type} {hid : HidLayer W} (B : LedgerCustody hid) (heap : Heap) (w : W) (head : Ptr) :
    Prop where
  /-- Its nodes are what is allocated. -/
  allocated : ∀ a : ℤ,heap.cell a≠none ↔ a∈nodesOf heap head
  /-- The handles never closed are those in its nodes. -/
  unclosed : ∀ h,.opened h∈(B.ledger w).log →
    ((B.ledger w).log.count (.closed h)=0 ↔ ∃ a∈nodesOf heap head,B.slot w (usbhOf heap a)=h)

/-- A client that has a list keeps its handles open, and no others. -/
theorem keptOpen_of_holding {W : Type} {hid : HidLayer W} {B : LedgerCustody hid} {heap : Heap} {w : W}
    {head : Ptr} (h : Holding B.toCustody heap w head) : KeptOpen B heap w head := by
  refine ⟨fun a => ⟨h.tidy a,fun ha => ?_⟩,fun x hx => ?_⟩
  · obtain ⟨n,hlive,-⟩ := h.node ha
    rw [hlive.cell]
    exact Option.some_ne_none n
  obtain ⟨live,hlive,hcovers,-⟩ := accounts_stored h.accounts
  have hcount := closed_count hlive hx
  rw [held_nodes] at hcovers
  by_cases hm : x∈live
  · rw [if_pos hm] at hcount
    exact iff_of_true hcount ((hcovers x).mp hm)
  · rw [if_neg hm] at hcount
    exact iff_of_false (by rw [hcount]; exact Nat.one_ne_zero) fun hk => hm ((hcovers x).mpr hk)

/-- What is left when the original test leaves its loop: a list that is not
empty. -/
structure LeftOpen {W : Type} {hid : HidLayer W} (B : LedgerCustody hid) (heap : Heap) (w : W) (head : Ptr) :
    Prop extends KeptOpen B heap w head where
  /-- The list has a node. -/
  node : head∈nodesOf heap head

/-- The loop of the original test, at libusb and at Windows: every number of
rounds is survived; as long as it goes on each round has given everything
back, and when it is left after a failure of the LED the devices of the last
list stay open. -/
theorem origLoopTest_gives_back (b : Process) (target : Target) (fails : ℕ → Bool) (n : ℕ) :
    ∃ t,origLoopTest (b.hid target) n (Heap.empty fails) b.world=some t ∧
      (t.exited=false → GivenBack (b.ledger target) t.heap t.world) ∧
      (t.exited=true → ∃ head,LeftOpen (b.ledger target) t.heap t.world head) := by
  obtain ⟨hstart,hready⟩ := process_holding b target fails
  obtain ⟨t,ht,hon,hexit⟩ := origLoopTest_run hready n hstart
  refine ⟨t,ht,fun he => givenBack_of_holding (hon he),fun he => ?_⟩
  obtain ⟨head,h0,hlist⟩ := hexit he
  exact ⟨head,keptOpen_of_holding hlist,hlist.head_mem h0⟩

end Processes

end UsbIo16.CommandTests
