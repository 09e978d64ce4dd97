import UsbIo16.LastWrites
import UsbIo16.PinArray

/-!
# What a client can know of its boards

A client that remembers its calls and what they returned knows what is set
on its boards: each setting is that of the last call for it that went
through, and what it was at the start if there was none. Calls on other
boards and pins, and calls that failed, have no part in it. So whatever is
read successfully follows from the client's own history and the levels
applied to the input pins.
-/

namespace UsbIo16.PinHistory

open ByteBuffer Hiddata IoInterface LibusbBackend PinCalls IdealBoards Ownership PinArray LastWrites

section Settings

variable {I : Type} [DecidableEq I]

/-- A call on a board, and what the caller was told. -/
abbrev Entry (I : Type) := (I×PinCall)×Answer

/-- The mode that a call sets for a pin. -/
def setsMode (k : Pin) : PinCall → Option Bool
  | .setPinMode pinIndex mode _ => if k.val=pinIndex.toNat then some (isSet mode) else none
  | _ => none

/-- The pull-up that a call sets for a pin. -/
def setsPullUp (k : Pin) : PinCall → Option Bool
  | .setPinMode pinIndex _ innerPullUp => if k.val=pinIndex.toNat then some (isSet innerPullUp) else none
  | _ => none

/-- The output latch that a call sets for a pin. -/
def setsLatch (k : Pin) : PinCall → Option Bool
  | .writeOutputPinValue pinIndex level => if k.val=pinIndex.toNat then some (isSet level) else none
  | _ => none

/-- What a call sets the LED to. -/
def setsLed : PinCall → Option Bool
  | .setWorkLedMode led_mode => some (isSet led_mode)
  | _ => none

/-- What an entry of a history has set on a board: nothing unless it is a
call on this board that went through. -/
def onBoard {V : Type} (i : I) (sets : PinCall → Option V) (e : Entry I) : Option V :=
  if e.2.ok=true ∧ e.1.1=i then sets e.1.2 else none

/-- The settings of a board by a history that started from `a`. -/
def settings (i : I) (a : Pins) (log : List (Entry I)) : Pins where
  mode k := latest (onBoard i (setsMode k)) (a.mode k) log
  pullUp k := latest (onBoard i (setsPullUp k)) (a.pullUp k) log
  latch k := latest (onBoard i (setsLatch k)) (a.latch k) log
  led := latest (onBoard i setsLed) a.led log

/-- A history may be taken entry by entry. -/
theorem settings_cons (i : I) (a : Pins) (e : Entry I) (log : List (Entry I)) :
    settings i a (e::log)=settings i (settings i a [e]) log := rfl

/-- What a call does, place by place. -/
theorem exec_sets (a : Pins) (c : PinCall) :
    exec a c=⟨fun k => (setsMode k c).getD (a.mode k),fun k => (setsPullUp k c).getD (a.pullUp k),
      fun k => (setsLatch k c).getD (a.latch k),(setsLed c).getD a.led⟩ := by
  have hplace : ∀ (row : Pin → Bool) (n : ℕ) (v : Bool),
      setAt row n v=fun k => (if k.val=n then some v else none : Option Bool).getD (row k) := by
    intro row n v
    funext k
    unfold setAt
    split <;> rfl
  cases c with
  | setWorkLedMode led_mode => rfl
  | setPinMode pinIndex mode innerPullUp =>
    rw [exec,hplace,hplace]
    rfl
  | writeOutputPinValue pinIndex level =>
    rw [exec,hplace]
    rfl
  | readInputPinValue pinIndex level => rfl
  | getAllPinInfo info => rfl

/-- An entry about another board, or about a call that failed, sets nothing. -/
theorem settings_quiet {i : I} (a : Pins) {e : Entry I} (h : ¬(e.2.ok=true ∧ e.1.1=i)) : settings i a [e]=a := by
  have hnone : ∀ (V : Type) (sets : PinCall → Option V),onBoard i sets e=none := fun V sets => if_neg h
  simp only [settings,latest_cons,latest_nil,hnone,Option.getD_none]

/-- A call that went through sets what it does. -/
theorem settings_done (i : I) (a : Pins) (c : PinCall) {x : Answer} (h : x.ok=true) :
    settings i a [((i,c),x)]=exec a c := by
  have hsome : ∀ (V : Type) (sets : PinCall → Option V),onBoard i sets ((i,c),x)=sets c :=
    fun V sets => if_pos ⟨h,rfl⟩
  rw [exec_sets]
  simp only [settings,latest_cons,latest_nil,hsome]

variable (fails : ℕ → Bool) (input : ℕ → I → Pin → Bool) (s : Arrays I)

/-- What a call with proper arguments is answered when it goes through. -/
theorem answer_ok (a : Pins) (levels : Pin → Bool) {c : PinCall} (hgood : c.ArgsOk) :
    (answer a levels c).ok=true := by
  cases c with
  | readInputPinValue pinIndex level =>
    rw [answer,dif_pos hgood.1]
  | _ => rfl

/-- The two ends of a call on the arrays: it goes through, is answered from
the array of its board and changes it; or it is refused and changes none. -/
theorem call_cases (i : I) (c : PinCall) :
    ((s.call fails input i c).1.ok=true ∧ (s.call fails input i c).1=answer (s.pins i) (input s.transfers i) c ∧
        (s.call fails input i c).2.pins=Function.update s.pins i (exec (s.pins i) c)) ∨
      ((s.call fails input i c).1.ok=false ∧ (s.call fails input i c).1=refused c ∧
        (s.call fails input i c).2.pins=s.pins) := by
  unfold Arrays.call
  by_cases hgood : c.ArgsOk
  · rw [if_pos hgood]
    by_cases hf : fails s.transfers=true
    · rw [if_pos hf]
      exact .inr ⟨rfl,rfl,rfl⟩
    · rw [if_neg hf]
      exact .inl ⟨answer_ok _ _ hgood,rfl,rfl⟩
  · rw [if_neg hgood]
    exact .inr ⟨rfl,rfl,rfl⟩

/-- After a call every array is as its entry in the history says. -/
theorem call_settings (i j : I) (c : PinCall) :
    (s.call fails input i c).2.pins j=settings j (s.pins j) [((i,c),(s.call fails input i c).1)] := by
  rcases call_cases fails input s i c with ⟨hok,-,hpins⟩|⟨hno,-,hpins⟩
  · rw [hpins]
    by_cases hij : i=j
    · subst hij
      rw [Function.update_self,settings_done _ _ _ hok]
    · rw [Function.update_of_ne fun he => hij he.symm,settings_quiet _ fun h => hij h.2]
  · have hquiet : ¬((s.call fails input i c).1.ok=true ∧ i=j) := fun h => Bool.false_ne_true (hno.symm.trans h.1)
    rw [hpins,settings_quiet _ hquiet]

/-- After a run every array is as the history says. The induction is on the
calls, and the array of each board is carried along. -/
theorem run_settings (calls : List (I×PinCall)) (j : I) :
    (Arrays.run fails input calls s).2.pins j=
      settings j (s.pins j) (calls.zip (Arrays.run fails input calls s).1) := by
  induction calls generalizing s with
  | nil => rfl
  | cons x calls ih =>
    rw [Arrays.run]
    dsimp only
    rw [ih,List.zip_cons_cons,settings_cons,call_settings]

/-- There is one answer a call. -/
theorem run_length (calls : List (I×PinCall)) : (Arrays.run fails input calls s).1.length=calls.length := by
  induction calls generalizing s with
  | nil => rfl
  | cons x calls ih =>
    rw [Arrays.run]
    exact congrArg (·+1) (ih _)

end Settings

section Library

variable (fails : ℕ → Option Failure) (input : ℕ → Ptr → Pin → Bool) (target : Target) {heap : Heap}
  {w : LibusbWorld Bench} {nodes : List Ptr}

/-- The settings of the board of a node, by a history that started in `w`. -/
abbrev settingsOf (heap : Heap) (w : LibusbWorld Bench) (log : List (Entry Ptr)) (a : Ptr) : Pins :=
  settings a (w.env.boards (handleOf heap w a)).toPins log

/-- What a client knows after the history `log`, which began in `w` and led
to `v`. -/
structure Known (heap : Heap) (w : LibusbWorld Bench) (nodes : List Ptr) (log : List (Entry Ptr))
    (v : LibusbWorld Bench) : Prop where
  /-- Its boards are as the history says. -/
  boards : ∀ a∈nodes,(v.env.boards (handleOf heap w a)).toPins=settingsOf heap w log a
  /-- All others are as they were. -/
  others : ∀ h,h∉nodes.map (handleOf heap w) → v.env.boards h=w.env.boards h
  /-- A further call that succeeds is answered from the history and the levels
  applied at that time. -/
  answered : ∀ a∈nodes,∀ c,∃ r,c.run (libusbHid (boardEnv fails input) target) heap a v=some r ∧
    if r.ret=0 then told r=answer (settingsOf heap w log a) (input v.env.transfers (handleOf heap w a)) c
    else told r=refused c
  /-- So a pin that was made an output reads as the level written last, … -/
  readBack : ∀ a∈nodes,∀ (pinIndex value : BitVec 32) (hp : pinIndex.toNat<USB_IO16_MAX_PIN_NUM) (l : Bool),
    LastIs (onBoard a (setsMode ⟨pinIndex.toNat,hp⟩)) log true →
    LastIs (onBoard a (setsLatch ⟨pinIndex.toNat,hp⟩)) log l →
    ∀ r,usbIoReadInputPinValue (libusbHid (boardEnv fails input) target) heap a pinIndex (some value) v=some r →
      r.ret=0 → r.level=some (bit l)
  /-- … and one that was made an input as the level applied to it. -/
  readInput : ∀ a∈nodes,∀ (pinIndex value : BitVec 32) (hp : pinIndex.toNat<USB_IO16_MAX_PIN_NUM),
    LastIs (onBoard a (setsMode ⟨pinIndex.toNat,hp⟩)) log false →
    ∀ r,usbIoReadInputPinValue (libusbHid (boardEnv fails input) target) heap a pinIndex (some value) v=some r →
      r.ret=0 → r.level=some (bit (input v.env.transfers (handleOf heap w a) ⟨pinIndex.toNat,hp⟩))

variable {fails input target}

/-- A successful read of a pin is answered with the level of the pin. -/
theorem answered_level {v : LibusbWorld Bench} {a : Ptr} {settled : Pins} {levels : Pin → Bool}
    (h : ∀ c,∃ r,c.run (libusbHid (boardEnv fails input) target) heap a v=some r ∧
      if r.ret=0 then told r=answer settled levels c else told r=refused c)
    {pinIndex value : BitVec 32} (hp : pinIndex.toNat<USB_IO16_MAX_PIN_NUM) {r : LevelReply (LibusbWorld Bench)}
    (hr : usbIoReadInputPinValue (libusbHid (boardEnv fails input) target) heap a pinIndex (some value) v=some r)
    (hret : r.ret=0) : r.level=some (bit (settled.level levels ⟨pinIndex.toNat,hp⟩)) := by
  obtain ⟨x,hx,htold⟩ := h (.readInputPinValue pinIndex (some value))
  rw [PinCall.run,hr,Option.map_some] at hx
  obtain rfl := Option.some.inj hx
  rw [if_pos hret,answer,dif_pos hp] at htold
  exact congrArg Answer.level htold

variable (fails input target)

/-- A client knows its boards by its own calls and what they returned:
whichever transfers fail, each setting of a board is that of the last
successful call for it, and every successful read is answered from these. -/
theorem history_known (hlist : BoardList heap w nodes) (calls : List (Ptr×PinCall)) (hcalls : ∀ x∈calls,x.1∈nodes) :
    ∃ answers v,runCalls (libusbHid (boardEnv fails input) target) heap calls w=some (answers,v) ∧
      answers.length=calls.length ∧ Known fails input target heap w nodes (calls.zip answers) v := by
  obtain ⟨answers,v,hrun,hanswers,hmatch⟩ :=
    (Matches.start heap w nodes).run fails input target hlist calls hcalls
  have hpins : ∀ a,(Arrays.run (failing fails) (inputOf heap w input) calls (arraysOf heap w)).2.pins a=
      settingsOf heap w (calls.zip answers) a := by
    intro a
    rw [run_settings,←hanswers]
    rfl
  have hnext : ∀ a∈nodes,∀ c,∃ r,c.run (libusbHid (boardEnv fails input) target) heap a v=some r ∧
      if r.ret=0 then
        told r=answer (settingsOf heap w (calls.zip answers) a) (input v.env.transfers (handleOf heap w a)) c
      else told r=refused c := by
    intro a ha c
    obtain ⟨r,hr,htold,-⟩ := hmatch.call fails input target hlist ha c
    refine ⟨r,hr,?_⟩
    have hok : (told r).ok=decide (r.ret=0) := rfl
    rcases call_cases (failing fails) (inputOf heap w input) _ a c with ⟨hyes,ha,-⟩|⟨hno,ha,-⟩
    · rw [←htold,hok] at hyes
      rw [if_pos (of_decide_eq_true hyes),htold,ha,hpins,hmatch.transfers]
      rfl
    · rw [←htold,hok] at hno
      rw [if_neg (of_decide_eq_false hno),htold,ha]
  refine ⟨answers,v,hrun,?_,fun a ha => (hmatch.pins a ha).trans (hpins a),hmatch.others,hnext,?_,?_⟩
  · rw [hanswers]
    exact run_length _ _ _ _
  · intro a ha pinIndex value hp l hmode hlatch r hr hret
    have hon : (settingsOf heap w (calls.zip answers) a).mode ⟨pinIndex.toNat,hp⟩=true := hmode.latest _
    have hl : (settingsOf heap w (calls.zip answers) a).latch ⟨pinIndex.toNat,hp⟩=l := hlatch.latest _
    rw [answered_level (hnext a ha) hp hr hret,Pins.level,if_pos hon,hl]
  · intro a ha pinIndex value hp hmode r hr hret
    have hoff : ¬(settingsOf heap w (calls.zip answers) a).mode ⟨pinIndex.toNat,hp⟩=true :=
      Bool.not_eq_true _ ▸ hmode.latest _
    rw [answered_level (hnext a ha) hp hr hret,Pins.level,if_neg hoff]

theorem history_known_twoBoards :
    ∃ answers v,runCalls (libusbHid (boardEnv secondFails fun _ _ _ => false) ⟨true,fun _ => 0⟩) twoBoardHeap
        [(1,.setPinMode 3 1 0),(2,.setWorkLedMode 1),(1,.writeOutputPinValue 3 1)] twoBoardWorld=some (answers,v) ∧
      answers.length=3 ∧ Known secondFails (fun _ _ _ => false) ⟨true,fun _ => 0⟩ twoBoardHeap twoBoardWorld [1,2]
        ([(1,.setPinMode 3 1 0),(2,.setWorkLedMode 1),(1,.writeOutputPinValue 3 1)].zip answers) v :=
  history_known secondFails (fun _ _ _ => false) ⟨true,fun _ => 0⟩ twoBoards_boardList
    [(1,.setPinMode 3 1 0),(2,.setWorkLedMode 1),(1,.writeOutputPinValue 3 1)] (by decide)

end Library

end UsbIo16.PinHistory
