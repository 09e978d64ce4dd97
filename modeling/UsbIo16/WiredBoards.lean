import UsbIo16.HeldList
import UsbIo16.PinHistory

/-!
# Boards with wires

What is applied to the pins of a board may depend on what is set on it: a
wire from an output to an input carries the level of the output, and a
pull-up is seen on a pin that nothing drives. With such boards behind libusb
every program of calls on one board does what it does on a machine that has
nothing but the pins of this board, and leaves all other boards alone.
-/

namespace UsbIo16.WiredBoards

open ByteBuffer Hiddata IoInterface LibusbBackend PinCalls IdealBoards Ownership PinArray LastWrites PinHistory
open CallPrograms HeldList

section System

/-- The levels applied to the pins of a board, which may depend on its
handle, on what is set on it, and on the number of transfers so far. -/
abbrev Wiring := ℕ → Ptr → Pins → Pin → Bool

/-- The levels applied while the boards are in this state. -/
def Wiring.now (applied : Wiring) (e : Bench) (n : ℕ) (handle : Ptr) : Pin → Bool :=
  applied n handle (e.boards handle).toPins

/-- A USB system with other IN transfers. -/
def withControlIn {D : Type} (env : LibusbEnv D)
    (controlIn : Ptr → ControlSetup → ℕ → D → Option (List Byte)×D) : LibusbEnv D := {env with controlIn := controlIn}

/-- A USB system of boards with wires. -/
def wiredEnv (fails : ℕ → Option Failure) (applied : Wiring) : LibusbEnv Bench :=
  withControlIn (boardEnv fails fun _ _ _ => false) fun handle setup wLength s =>
    (boardEnv fails (applied.now s)).controlIn handle setup wLength s

/-- A board by itself. -/
structure Lone where
  /-- What is set on it. -/
  pins : Pins
  /-- Number of transfers so far. -/
  transfers : ℕ

/-- Pin calls on a board by itself, as a machine. -/
def loneMachine (fails : ℕ → Bool) (applied : ℕ → Pins → Pin → Bool) (c : PinCall) (s : Lone) :
    Option (Answer×Lone) :=
  some (if c.ArgsOk then
    if fails s.transfers=true then (refused c,{s with transfers := s.transfers+1})
    else (answer s.pins (applied s.transfers s.pins) c,⟨exec s.pins c,s.transfers+1⟩)
  else (refused c,s))

end System

section Transfers

variable {W : Type} {hid hid' : HidLayer W} {heap : Heap} {a : Ptr} {w : W}

/-- A pin call depends on what the HID layer does with a report in the world
it is made in, and on nothing else. -/
theorem run_congr (hsign : hid.plainCharSigned=hid'.plainCharSigned)
    (hset : ∀ u buf len,hid.usbhidSetReport u buf len w=hid'.usbhidSetReport u buf len w)
    (hget : ∀ u id buf len,hid.usbhidGetReport u id buf len w=hid'.usbhidGetReport u id buf len w) (c : PinCall) :
    c.run hid heap a w=c.run hid' heap a w := by
  have hwrite : ∀ u n buf,d16WriteRep hid u n buf w=d16WriteRep hid' u n buf w := by
    intro u n buf
    simp only [d16WriteRep,hset]
  have hread : ∀ u n raw,d16ReadRep hid u n raw w=d16ReadRep hid' u n raw w := by
    intro u n raw
    simp only [d16ReadRep,hget,hsign]
  have hbit : ∀ b k,bitAt hid b k=bitAt hid' b k := by
    intro b k
    simp only [bitAt,promote,hsign]
  cases c with
  | setWorkLedMode led_mode => simp only [PinCall.run,usbIoSetWorkLedMode,hwrite]
  | setPinMode pinIndex mode innerPullUp => simp only [PinCall.run,usbIoSetPinMode,hwrite]
  | writeOutputPinValue pinIndex level => simp only [PinCall.run,usbIoWriteOutputPinValue,hwrite]
  | readInputPinValue pinIndex level => simp only [PinCall.run,usbIoReadInputPinValue,hread,hbit]
  | getAllPinInfo info => simp only [PinCall.run,usbIoGetAllPinInfo,hread,fillPin,hbit]

variable {D : Type} (env : LibusbEnv D) (target : Target) (controlIn : Ptr → ControlSetup → ℕ → D → Option (List Byte)×D)

/-- What is changed by other IN transfers, and what is not. -/
theorem withControlIn_in : (withControlIn env controlIn).controlIn=controlIn := rfl

theorem withControlIn_out : (withControlIn env controlIn).controlOut=env.controlOut := rfl

/-- The libusb layer: its `char`, and its reports. -/
theorem libusb_sign : (libusbHid env target).plainCharSigned=target.plainCharSigned := rfl

theorem libusb_setReport : (libusbHid env target).usbhidSetReport=
    LibusbBackend.usbhidSetReport env target.plainCharSigned := rfl

theorem libusb_getReport : (libusbHid env target).usbhidGetReport=LibusbBackend.usbhidGetReport env := rfl

end Transfers

section Simulation

variable (fails : ℕ → Option Failure) (applied : Wiring) (target : Target) {heap : Heap}
  {w₀ w : LibusbWorld Bench} {nodes : List Ptr} {s : Lone} {a : Ptr}

/-- A call makes at most one transfer, so the levels it finds are those
applied before it. -/
theorem wired_run (c : PinCall) (w : LibusbWorld Bench) :
    c.run (libusbHid (wiredEnv fails applied) target) heap a w=
      c.run (libusbHid (boardEnv fails (applied.now w.env)) target) heap a w := by
  have hin : ∀ handle setup n,(wiredEnv fails applied).controlIn handle setup n w.env=
      (boardEnv fails (applied.now w.env)).controlIn handle setup n w.env := by
    intro handle setup n
    rw [wiredEnv,withControlIn_in]
  have hout : (wiredEnv fails applied).controlOut=(boardEnv fails (applied.now w.env)).controlOut := by
    rw [wiredEnv,withControlIn_out]
    rfl
  refine @run_congr _ (libusbHid (wiredEnv fails applied) target)
    (libusbHid (boardEnv fails (applied.now w.env)) target) heap a w ?_ (fun u buf len => ?_) (fun u id buf len => ?_) c
  · rw [libusb_sign,libusb_sign]
  · rw [libusb_setReport,libusb_setReport]
    simp only [LibusbBackend.usbhidSetReport,hout]
  · rw [libusb_getReport,libusb_getReport]
    simp only [LibusbBackend.usbhidGetReport,hin]

/-- One board of a list is a list of boards. -/
theorem boardList_single (hlist : BoardList heap w₀ nodes) (ha : a∈nodes) : BoardList heap w₀ [a] where
  live b hb := hlist.live b (List.mem_singleton.mp hb ▸ ha)
  distinct := List.nodup_singleton _

/-- The board of this node has these pins, and behind every other handle all
is as at the start. -/
structure Alone (heap : Heap) (w₀ : LibusbWorld Bench) (a : Ptr) (w : LibusbWorld Bench) (s : Lone) : Prop where
  /-- As a list of one board, it is as its array says. -/
  arrays : Matches heap w₀ [a] ⟨Function.update (arraysOf heap w₀).pins a s.pins,s.transfers⟩ w

/-- What is on the board of a node at the start. -/
def loneOf (heap : Heap) (w₀ : LibusbWorld Bench) (a : Ptr) : Lone := ⟨(arraysOf heap w₀).pins a,w₀.env.transfers⟩

/-- So it is at the start. -/
theorem Alone.start (heap : Heap) (w₀ : LibusbWorld Bench) (a : Ptr) : Alone heap w₀ a w₀ (loneOf heap w₀ a) := by
  refine ⟨?_⟩
  rw [loneOf,Function.update_eq_self]
  exact Matches.start heap w₀ [a]

/-- What the board of the node has. -/
theorem Alone.board (h : Alone heap w₀ a w s) : (w.env.boards (handleOf heap w₀ a)).toPins=s.pins := by
  rw [h.arrays.pins a List.mem_cons_self]
  exact Function.update_self _ _ _

/-- What is behind any other handle. -/
theorem Alone.others (h : Alone heap w₀ a w s) {b : Ptr} (hb : b≠handleOf heap w₀ a) :
    w.env.boards b=w₀.env.boards b :=
  h.arrays.others b fun hmem => hb (List.mem_singleton.mp hmem)

/-- A call of the library does what it does on the board by itself. -/
theorem Alone.call (hlist : BoardList heap w₀ [a]) (h : Alone heap w₀ a w s) (c : PinCall) :
    ∃ x v t,pinMachine (libusbHid (wiredEnv fails applied) target) heap a c w=some (x,v) ∧
      loneMachine (failing fails) (fun n => applied n (handleOf heap w₀ a)) c s=some (x,t) ∧ Alone heap w₀ a v t := by
  obtain ⟨r,hr,htold,hnext⟩ :=
    Matches.call fails (applied.now w.env) target hlist h.arrays List.mem_cons_self c
  have hlevels : inputOf heap w₀ (applied.now w.env) s.transfers a=applied s.transfers (handleOf heap w₀ a) s.pins := by
    rw [inputOf,Wiring.now,h.board]
  unfold Arrays.call at htold hnext
  dsimp only at htold hnext
  rw [Function.update_self,hlevels] at htold hnext
  have hmachine : pinMachine (libusbHid (wiredEnv fails applied) target) heap a c w=some (told r,r.world) := by
    rw [pinMachine,wired_run,hr,Option.map_some]
  have hlone : ∃ t,loneMachine (failing fails) (fun n => applied n (handleOf heap w₀ a)) c s=some (told r,t) ∧
      Alone heap w₀ a r.world t := by
    unfold loneMachine
    by_cases hgood : c.ArgsOk
    · rw [if_pos hgood] at htold hnext ⊢
      by_cases hf : failing fails s.transfers=true
      · rw [if_pos hf] at htold hnext ⊢
        exact ⟨⟨s.pins,s.transfers+1⟩,by rw [htold],⟨hnext⟩⟩
      · rw [if_neg hf] at htold hnext ⊢
        rw [Function.update_idem] at hnext
        exact ⟨⟨exec s.pins c,s.transfers+1⟩,by rw [htold],⟨hnext⟩⟩
    · rw [if_neg hgood] at htold hnext ⊢
      exact ⟨s,by rw [htold],⟨hnext⟩⟩
  obtain ⟨t,ht,hv⟩ := hlone
  exact ⟨told r,r.world,t,hmachine,ht,hv⟩

/-- So does a whole program: it ends with the same result as on the board by
itself, and the board has what it then has there. -/
theorem program_alone {R : Type} (hlist : BoardList heap w₀ nodes) (ha : a∈nodes) (p : Prog PinCall Answer R) :
    ∃ r v t,p.exec (pinMachine (libusbHid (wiredEnv fails applied) target) heap a) w₀=some (r,v) ∧
      p.exec (loneMachine (failing fails) fun n => applied n (handleOf heap w₀ a)) (loneOf heap w₀ a)=some (r,t) ∧
      Alone heap w₀ a v t :=
  have hsingle : BoardList heap w₀ [a] := boardList_single hlist ha
  Prog.exec_simulates (fun c _ _ _ h => h.call fails applied target hsingle c) p.calls_any (Alone.start heap w₀ a)

end Simulation

section Calls

variable {fails : ℕ → Bool} {applied : ℕ → Pins → Pin → Bool} {b : Pins} {n : ℕ} {c : PinCall}

/-- A call whose transfer fails. -/
theorem lone_fail (hgood : c.ArgsOk) (hf : fails n=true) :
    loneMachine fails applied c ⟨b,n⟩=some (refused c,⟨b,n+1⟩) := by
  rw [loneMachine,if_pos hgood]
  exact congrArg some (if_pos hf)

/-- A call that goes through. -/
theorem lone_done (hgood : c.ArgsOk) (hf : fails n=false) :
    loneMachine fails applied c ⟨b,n⟩=some (answer b (applied n b) c,⟨exec b c,n+1⟩) := by
  have hno : ¬fails n=true := by
    rw [hf]
    exact Bool.false_ne_true
  rw [loneMachine,if_pos hgood]
  exact congrArg some (if_neg hno)

/-- A call that is not about a pin, and does not set the LED. -/
structure Spares (k : Pin) (c : PinCall) : Prop where
  /-- It does not set the mode of the pin, … -/
  mode : setsMode k c=none
  /-- … nor its pull-up, … -/
  pullUp : setsPullUp k c=none
  /-- … nor its latch, … -/
  latch : setsLatch k c=none
  /-- … nor the LED. -/
  led : setsLed c=none

/-- What is set for a pin, and the LED, are the same. -/
structure SameAt (k : Pin) (b b' : Pins) : Prop where
  /-- The mode. -/
  mode : b'.mode k=b.mode k
  /-- The pull-up. -/
  pullUp : b'.pullUp k=b.pullUp k
  /-- The output latch. -/
  latch : b'.latch k=b.latch k
  /-- The LED. -/
  led : b'.led=b.led

/-- It may stay the same for a while. -/
theorem SameAt.trans {k : Pin} {b b' b'' : Pins} (h : SameAt k b b') (h' : SameAt k b' b'') : SameAt k b b'' :=
  ⟨h'.mode.trans h.mode,h'.pullUp.trans h.pullUp,h'.latch.trans h.latch,h'.led.trans h.led⟩

/-- A program all of whose calls spare a pin leaves it as it is, and the LED,
whichever calls fail. -/
theorem program_spares {R : Type} {p : Prog PinCall Answer R} {k : Pin} (hp : p.Calls (Spares k)) (s : Lone) :
    ∃ r t,p.exec (loneMachine fails applied) s=some (r,t) ∧ SameAt k s.pins t.pins := by
  let Inv : Lone → Prop := fun t => SameAt k s.pins t.pins
  have hstep : ∀ c t,Spares k c → Inv t → ∃ x u,loneMachine fails applied c t=some (x,u) ∧ Inv u := by
    intro c t hc ht
    have hexec : SameAt k s.pins (exec t.pins c) := by
      simp only [exec_sets]
      refine ⟨?_,?_,?_,?_⟩
      · simp only [hc.mode,Option.getD_none,ht.mode]
      · simp only [hc.pullUp,Option.getD_none,ht.pullUp]
      · simp only [hc.latch,Option.getD_none,ht.latch]
      · simp only [hc.led,Option.getD_none,ht.led]
    unfold loneMachine
    split
    · split
      · exact ⟨_,_,rfl,ht⟩
      · exact ⟨_,_,rfl,hexec⟩
    · exact ⟨_,_,rfl,ht⟩
  exact Prog.exec_keeps hstep hp ⟨rfl,rfl,rfl,rfl⟩

end Calls

end UsbIo16.WiredBoards
