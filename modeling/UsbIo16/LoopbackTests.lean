import UsbIo16.ScriptTests
import UsbIo16.WiredBoards

/-!
# What the pin tests find out

Both test programs have a loopback test, which toggles an output and reads
it back at an input. It is shown what the one of the script finds out about
the wire between the pins, whichever transfers fail, and that the one of the
command line, which looks at no result, prints the expected levels just when
the other one passes. What a round of the original test leaves on a board is
followed transfer by transfer.
-/

namespace UsbIo16.LoopbackTests

open ByteBuffer Hiddata IoInterface LibusbBackend PinCalls IdealBoards Ownership PinArray LastWrites PinHistory
open CallPrograms HeldList WiredBoards CommandTests ScriptTests

section Transfers

variable {fails : ℕ → Bool} {n m : ℕ}

/-- None of these transfers fails. -/
def Clean (fails : ℕ → Bool) (n m : ℕ) : Prop := ∀ j < m,fails (n+j)=false

/-- The first one, and the rest. -/
theorem clean_succ : Clean fails n (m+1) ↔ fails n=false ∧ Clean fails (n+1) m := by
  have hnext : ∀ j,n+(j+1)=n+1+j := fun j => by omega
  constructor
  · intro h
    refine ⟨h 0 (Nat.succ_pos m),fun j hj => ?_⟩
    rw [←hnext]
    exact h (j+1) (Nat.succ_lt_succ hj)
  · rintro ⟨h0,h⟩ j hj
    cases j with
    | zero => exact h0
    | succ j =>
      rw [hnext]
      exact h j (Nat.lt_of_succ_lt_succ hj)

/-- The first four of them, and the rest. -/
theorem clean_four : Clean fails n (4*(m+1)) ↔
    fails n=false ∧ fails (n+1)=false ∧ fails (n+2)=false ∧ fails (n+3)=false ∧ Clean fails (n+4) (4*m) := by
  have hfour : 4*(m+1)=4*m+1+1+1+1 := by omega
  rw [hfour,clean_succ,clean_succ,clean_succ,clean_succ]

end Transfers

section Levels

variable (applied : ℕ → Pins → Pin → Bool) (b : Pins) (p_out : BitVec 32) (k : Pin)

/-- The board with the output at a level. -/
def driven (level : BitVec 32) : Pins := exec b (.writeOutputPinValue p_out level)

/-- The pin that the n-th transfer reads. -/
def reads (n : ℕ) : Bool := b.level (applied n b) k

/-- In each of `m` rounds from the n-th transfer on, the pin is low while the
output is low and high while it is high. -/
def RoundsPass (n m : ℕ) : Prop :=
  ∀ j < m,reads applied (driven b p_out 0) k (n+4*j+1)=false ∧ reads applied (driven b p_out 1) k (n+4*j+3)=true

/-- The values read in these rounds. -/
def roundValues (b : Pins) : ℕ → ℕ → List (BitVec 32)
  | _,0 => []
  | n,m+1 =>
    bit (reads applied (driven b p_out 0) k (n+1))::bit (reads applied (driven b p_out 1) k (n+3))::
      roundValues (driven b p_out 1) (n+4) m

variable {applied b p_out k}

/-- Only the last level counts. -/
theorem driven_driven (level level' : BitVec 32) : driven (driven b p_out level) p_out level'=driven b p_out level' := by
  have hset : ∀ (row : Pin → Bool) (i : ℕ) (x y : Bool),setAt (setAt row i x) i y=setAt row i y := by
    intro row i x y
    funext k
    unfold setAt
    split <;> rfl
  simp only [driven,exec,hset]

/-- The first round, and the rest. -/
theorem roundsPass_succ {n m : ℕ} : RoundsPass applied b p_out k n (m+1) ↔
    (reads applied (driven b p_out 0) k (n+1)=false ∧ reads applied (driven b p_out 1) k (n+3)=true) ∧
      RoundsPass applied (driven b p_out 1) p_out k (n+4) m := by
  have hlow : ∀ j,n+4*(j+1)+1=n+4+4*j+1 := fun j => by omega
  have hhigh : ∀ j,n+4*(j+1)+3=n+4+4*j+3 := fun j => by omega
  rw [RoundsPass,Nat.forall_lt_succ_left,Nat.mul_zero,Nat.add_zero,RoundsPass]
  simp only [driven_driven,hlow,hhigh]

/-- A bit as a number. -/
theorem bit_eq_zero (x : Bool) : bit x=0#32 ↔ x=false := by cases x <;> decide

theorem bit_eq_one (x : Bool) : bit x=1#32 ↔ x=true := by cases x <;> decide

/-- The rounds pass when zero and one are read in turn. -/
theorem roundValues_eq_iff (n m : ℕ) :
    roundValues applied p_out k b n m=(List.replicate m [0#32,1#32]).flatten ↔ RoundsPass applied b p_out k n m := by
  induction m generalizing b n with
  | zero => exact iff_of_true rfl fun j hj => absurd hj (Nat.not_lt_zero j)
  | succ m ih =>
    rw [roundValues,List.replicate_succ,List.flatten_cons,List.cons_append,List.cons_append,List.nil_append,
      List.cons_eq_cons,List.cons_eq_cons,ih,bit_eq_zero,bit_eq_one,roundsPass_succ,and_assoc]

end Levels

section Script

variable {fails : ℕ → Bool} {applied : ℕ → Pins → Pin → Bool} {p_in p_out : BitVec 32}

/-- A call whose result is asserted raises when its transfer fails. -/
theorem checked_run {R : Type} {c : PinCall} (hgood : c.ArgsOk) (k : Answer → Prog PinCall Answer (Except Raised R))
    (b : Pins) (n : ℕ) :
    ((Prog.ask c).bind fun r => check r (k r)).exec (loneMachine fails applied) ⟨b,n⟩=
      if fails n=true then some (.error .assertion,⟨b,n+1⟩)
      else (k (answer b (applied n b) c)).exec (loneMachine fails applied) ⟨exec b c,n+1⟩ := by
  rw [Prog.exec_bind,Prog.exec_ask]
  cases hf : fails n with
  | true =>
    rw [lone_fail hgood hf,if_pos rfl,Option.bind_some]
    exact congrArg (fun p => Prog.exec _ p _) (if_pos rfl)
  | false =>
    have hok : ¬(answer b (applied n b) c).ok=false := by
      rw [answer_ok b (applied n b) hgood]
      exact fun he => Bool.false_ne_true he.symm
    rw [lone_done hgood hf,if_neg Bool.false_ne_true,Option.bind_some]
    exact congrArg (fun p => Prog.exec _ p _) (if_neg hok)

/-- The value of a variable after a read that went through. -/
theorem answer_level (b : Pins) (levels : Pin → Bool) (hin : p_in.toNat<USB_IO16_MAX_PIN_NUM) (value : BitVec 32) :
    ((answer b levels (.readInputPinValue p_in (some value))).level.getD value)=bit (b.level levels ⟨p_in.toNat,hin⟩) := by
  rw [answer,dif_pos hin]
  rfl

/-- Half a round of the script: set the output, read the input, and go on
with the value read. -/
def writeRead (p_in p_out level readval : BitVec 32) (k : BitVec 32 → Prog PinCall Answer (Except Raised Bool)) :
    Prog PinCall Answer (Except Raised Bool) :=
  (Prog.ask (.writeOutputPinValue p_out level)).bind fun r => check r <|
    (Prog.ask (.readInputPinValue p_in (some readval))).bind fun r => check r (k (r.level.getD readval))

/-- A round is two of them. -/
theorem togglePins_succ (m : ℕ) (readval : BitVec 32) :
    togglePins p_in p_out (m+1) readval=
      writeRead p_in p_out 0 readval fun low =>
        if low≠0 then .ret (.ok false)
        else
          writeRead p_in p_out 1 low fun high =>
            if high≠1 then .ret (.ok false) else togglePins p_in p_out m high := rfl

/-- Half a round raises when one of its transfers fails. -/
theorem writeRead_run (hin : p_in.toNat<USB_IO16_MAX_PIN_NUM) (hout : p_out.toNat<USB_IO16_MAX_PIN_NUM)
    (level readval : BitVec 32) (k : BitVec 32 → Prog PinCall Answer (Except Raised Bool)) (b : Pins) (n : ℕ) :
    (writeRead p_in p_out level readval k).exec (loneMachine fails applied) ⟨b,n⟩=
      if fails n=true then some (.error .assertion,⟨b,n+1⟩)
      else if fails (n+1)=true then some (.error .assertion,⟨driven b p_out level,n+2⟩)
      else
        (k (bit (reads applied (driven b p_out level) ⟨p_in.toNat,hin⟩ (n+1)))).exec (loneMachine fails applied)
          ⟨driven b p_out level,n+2⟩ := by
  have hwrite : (PinCall.writeOutputPinValue p_out level).ArgsOk := hout
  have hread : (PinCall.readInputPinValue p_in (some readval)).ArgsOk := ⟨hin,Option.some_ne_none readval⟩
  rw [writeRead,checked_run hwrite,checked_run hread,answer_level _ _ hin]
  rfl

/-- The rounds of the script return true exactly when no transfer fails and
each level is read back. The induction is on the rounds, after any of whose
four calls the script may stop. -/
theorem togglePins_run (hin : p_in.toNat<USB_IO16_MAX_PIN_NUM) (hout : p_out.toNat<USB_IO16_MAX_PIN_NUM) (m : ℕ)
    (b : Pins) (n : ℕ) (readval : BitVec 32) :
    ∃ r t,(togglePins p_in p_out m readval).exec (loneMachine fails applied) ⟨b,n⟩=some (r,t) ∧
      (r=.ok true ↔ Clean fails n (4*m) ∧ RoundsPass applied b p_out ⟨p_in.toNat,hin⟩ n m) := by
  have hraised : (Except.error .assertion : Except Raised Bool)≠.ok true := fun he => by cases he
  have hwrong : (Except.ok false : Except Raised Bool)≠.ok true := fun he => by cases he
  have hfail : ∀ {x : Bool},x=true → ¬x=false := fun hx hf => Bool.false_ne_true (hf.symm.trans hx)
  induction m generalizing b n readval with
  | zero =>
    have hnone : ∀ {P : ℕ → Prop},∀ j<0,P j := fun j hj => absurd hj (Nat.not_lt_zero j)
    exact ⟨_,_,rfl,iff_of_true rfl ⟨hnone,hnone⟩⟩
  | succ m ih =>
    rw [togglePins_succ,writeRead_run hin hout,clean_four,roundsPass_succ]
    by_cases h0 : fails n=true
    · rw [if_pos h0]
      exact ⟨_,_,rfl,iff_of_false hraised fun h => hfail h0 h.1.1⟩
    rw [if_neg h0]
    by_cases h1 : fails (n+1)=true
    · rw [if_pos h1]
      exact ⟨_,_,rfl,iff_of_false hraised fun h => hfail h1 h.1.2.1⟩
    rw [if_neg h1]
    by_cases hlow : bit (reads applied (driven b p_out 0) ⟨p_in.toNat,hin⟩ (n+1))=0
    · rw [if_neg (not_not.mpr hlow),writeRead_run hin hout,driven_driven]
      by_cases h2 : fails (n+2)=true
      · rw [if_pos h2]
        exact ⟨_,_,rfl,iff_of_false hraised fun h => hfail h2 h.1.2.2.1⟩
      rw [if_neg h2]
      by_cases h3 : fails (n+2+1)=true
      · rw [if_pos h3]
        exact ⟨_,_,rfl,iff_of_false hraised fun h => hfail h3 h.1.2.2.2.1⟩
      rw [if_neg h3]
      by_cases hhigh : bit (reads applied (driven b p_out 1) ⟨p_in.toNat,hin⟩ (n+2+1))=1
      · rw [if_neg (not_not.mpr hhigh)]
        obtain ⟨r,t,hrun,hiff⟩ := ih (driven b p_out 1) (n+2+2) _
        refine ⟨r,t,hrun,hiff.trans ?_⟩
        have hlow' := (bit_eq_zero _).mp hlow
        have hhigh' := (bit_eq_one _).mp hhigh
        constructor
        · rintro ⟨hclean,hpass⟩
          exact ⟨⟨Bool.not_eq_true _ ▸ h0,Bool.not_eq_true _ ▸ h1,Bool.not_eq_true _ ▸ h2,Bool.not_eq_true _ ▸ h3,
            hclean⟩,⟨hlow',hhigh'⟩,hpass⟩
        · rintro ⟨⟨-,-,-,-,hclean⟩,-,hpass⟩
          exact ⟨hclean,hpass⟩
      · rw [if_pos hhigh]
        exact ⟨_,_,rfl,iff_of_false hwrong fun h => hhigh ((bit_eq_one _).mpr h.2.1.2)⟩
    · rw [if_pos hlow]
      exact ⟨_,_,rfl,iff_of_false hwrong fun h => hlow ((bit_eq_zero _).mpr h.2.1.1)⟩

/-- The board when both pins have been set up. -/
def looped (b : Pins) (p_in p_out : BitVec 32) : Pins := exec (exec b (.setPinMode p_in 0 1)) (.setPinMode p_out 1 0)

/-- The whole test of the script makes at most fifteen transfers. It returns
true exactly when none of them fails and the input follows the output. -/
theorem testPins_run (hin : p_in.toNat<USB_IO16_MAX_PIN_NUM) (hout : p_out.toNat<USB_IO16_MAX_PIN_NUM) (b : Pins)
    (n : ℕ) :
    ∃ r t,(testPins p_in p_out).exec (loneMachine fails applied) ⟨b,n⟩=some (r,t) ∧
      (r=.ok true ↔ Clean fails n 15 ∧
        RoundsPass applied (looped b p_in p_out) p_out ⟨p_in.toNat,hin⟩ (n+3) 3) := by
  have hraised : (Except.error .assertion : Except Raised Bool)≠.ok true := fun he => by cases he
  have hfail : ∀ {x : Bool},x=true → ¬x=false := fun hx hf => Bool.false_ne_true (hf.symm.trans hx)
  have hset : (PinCall.setPinMode p_in 0 1).ArgsOk := hin
  have hset' : (PinCall.setPinMode p_out 1 0).ArgsOk := hout
  have hread : (PinCall.readInputPinValue p_in (some 0xFF)).ArgsOk := ⟨hin,Option.some_ne_none _⟩
  rw [testPins,checked_run hset,clean_succ,clean_succ,clean_succ]
  by_cases h0 : fails n=true
  · rw [if_pos h0]
    exact ⟨_,_,rfl,iff_of_false hraised fun h => hfail h0 h.1.1⟩
  rw [if_neg h0,checked_run hset']
  by_cases h1 : fails (n+1)=true
  · rw [if_pos h1]
    exact ⟨_,_,rfl,iff_of_false hraised fun h => hfail h1 h.1.2.1⟩
  rw [if_neg h1,checked_run hread]
  by_cases h2 : fails (n+1+1)=true
  · rw [if_pos h2]
    exact ⟨_,_,rfl,iff_of_false hraised fun h => hfail h2 h.1.2.2.1⟩
  rw [if_neg h2]
  obtain ⟨r,t,hrun,hiff⟩ := @togglePins_run fails applied p_in p_out hin hout 3 (looped b p_in p_out) (n+3) _
  refine ⟨r,t,hrun,hiff.trans ?_⟩
  constructor
  · rintro ⟨hclean,hpass⟩
    exact ⟨⟨Bool.not_eq_true _ ▸ h0,Bool.not_eq_true _ ▸ h1,Bool.not_eq_true _ ▸ h2,hclean⟩,hpass⟩
  · rintro ⟨⟨-,-,-,hclean⟩,hpass⟩
    exact ⟨hclean,hpass⟩

end Script

section CommandLine

variable {fails : ℕ → Bool} {applied : ℕ → Pins → Pin → Bool} {p_in p_out : BitVec 32}

/-- A read of the command line test. -/
theorem readInp_run (hin : p_in.toNat<USB_IO16_MAX_PIN_NUM) (inp : BitVec 32) {b : Pins} {n : ℕ}
    (hf : fails n=false) :
    (readInp p_in inp).exec (loneMachine fails applied) ⟨b,n⟩=
      some (bit (reads applied b ⟨p_in.toNat,hin⟩ n),⟨b,n+1⟩) := by
  have hread : (PinCall.readInputPinValue p_in (some inp)).ArgsOk := ⟨hin,Option.some_ne_none inp⟩
  rw [readInp,Prog.exec_bind,Prog.exec_ask,lone_done hread hf,Option.bind_some,Prog.exec_ret,answer_level _ _ hin]
  rfl

/-- The rounds of the command line test print what is read in them. -/
theorem toggles_run (hin : p_in.toNat<USB_IO16_MAX_PIN_NUM) (hout : p_out.toNat<USB_IO16_MAX_PIN_NUM) (m : ℕ)
    {b : Pins} {n : ℕ} (inp : BitVec 32) (hclean : Clean fails n (4*m)) :
    ∃ t,(toggles p_in p_out m inp).exec (loneMachine fails applied) ⟨b,n⟩=
      some (roundValues applied p_out ⟨p_in.toNat,hin⟩ b n m,t) := by
  have hwrite : ∀ level,(PinCall.writeOutputPinValue p_out level).ArgsOk := fun _ => hout
  induction m generalizing b n inp with
  | zero => exact ⟨_,rfl⟩
  | succ m ih =>
    obtain ⟨h0,h1,h2,h3,hrest⟩ := clean_four.mp hclean
    obtain ⟨t,ht⟩ := ih (b := driven b p_out 1)
      (bit (reads applied (driven b p_out 1) ⟨p_in.toNat,hin⟩ (n+3))) hrest
    have hlow : exec b (.writeOutputPinValue p_out LOW_LVL)=driven b p_out 0 := rfl
    have hhigh : exec (driven b p_out 0) (.writeOutputPinValue p_out HIGH_LVL)=driven b p_out 1 := driven_driven 0 1
    refine ⟨t,?_⟩
    rw [toggles,Prog.exec_bind,Prog.exec_ask,lone_done (hwrite _) h0,Option.bind_some,hlow]
    dsimp only
    rw [Prog.exec_bind,readInp_run hin _ h1,Option.bind_some]
    dsimp only
    rw [Prog.exec_bind,Prog.exec_ask,lone_done (hwrite _) h2,Option.bind_some,hhigh]
    dsimp only
    rw [Prog.exec_bind,readInp_run hin _ h3,Option.bind_some]
    dsimp only
    rw [Prog.exec_bind,ht,Option.bind_some,Prog.exec_ret]
    rfl

/-- When no transfer fails the command line test prints a first level and
those of the rounds. -/
theorem ioLoopbk_run (hin : p_in.toNat<USB_IO16_MAX_PIN_NUM) (hout : p_out.toNat<USB_IO16_MAX_PIN_NUM) (b : Pins)
    (n : ℕ) (hclean : Clean fails n 15) :
    ∃ first t,(ioLoopbk p_in p_out).exec (loneMachine fails applied) ⟨b,n⟩=
      some (first::roundValues applied p_out ⟨p_in.toNat,hin⟩ (looped b p_in p_out) (n+3) 3,t) := by
  obtain ⟨h0,hclean⟩ := clean_succ.mp hclean
  obtain ⟨h1,hclean⟩ := clean_succ.mp hclean
  obtain ⟨h2,hclean⟩ := clean_succ.mp hclean
  have hset : (PinCall.setPinMode p_in INPUT_MODE INNER_PULL_UP).ArgsOk := hin
  have hset' : (PinCall.setPinMode p_out OUTPUT_MODE NO_INNER_PULL_UP).ArgsOk := hout
  have hloop : exec (exec b (.setPinMode p_in INPUT_MODE INNER_PULL_UP))
      (.setPinMode p_out OUTPUT_MODE NO_INNER_PULL_UP)=looped b p_in p_out := rfl
  obtain ⟨t,ht⟩ := @toggles_run fails applied p_in p_out hin hout 3 (looped b p_in p_out) (n+1+1+1)
    (bit (reads applied (looped b p_in p_out) ⟨p_in.toNat,hin⟩ (n+1+1))) hclean
  refine ⟨bit (reads applied (looped b p_in p_out) ⟨p_in.toNat,hin⟩ (n+1+1)),t,?_⟩
  rw [ioLoopbk,Prog.exec_bind,Prog.exec_ask,lone_done hset h0,Option.bind_some]
  dsimp only
  rw [Prog.exec_bind,Prog.exec_ask,lone_done hset' h1,Option.bind_some,hloop]
  dsimp only
  rw [Prog.exec_bind,readInp_run hin _ h2,Option.bind_some]
  dsimp only
  rw [Prog.exec_bind,ht,Option.bind_some,Prog.exec_ret]

end CommandLine

section Wires

variable {applied : ℕ → Pins → Pin → Bool} {p_in p_out : BitVec 32}

/-- A wire leads from the output to the input, when they are that. -/
def Shorted (applied : ℕ → Pins → Pin → Bool) (i o : ℕ) : Prop :=
  ∀ (n : ℕ) (b : Pins) (j k : Pin),j.val=i → k.val=o → b.mode j=false → b.mode k=true → applied n b j=b.latch k

/-- Nothing but its pull-up is on the input. -/
def Unconnected (applied : ℕ → Pins → Pin → Bool) (i : ℕ) : Prop :=
  ∀ (n : ℕ) (b : Pins) (j : Pin),j.val=i → b.mode j=false → b.pullUp j=true → applied n b j=true

/-- The two pins when they have been set up and the output is at a level. -/
theorem looped_pins (hin : p_in.toNat<USB_IO16_MAX_PIN_NUM) (hout : p_out.toNat<USB_IO16_MAX_PIN_NUM)
    (hne : p_in≠p_out) (b : Pins) (level : BitVec 32) :
    (driven (looped b p_in p_out) p_out level).mode ⟨p_in.toNat,hin⟩=false ∧
      (driven (looped b p_in p_out) p_out level).pullUp ⟨p_in.toNat,hin⟩=true ∧
      (driven (looped b p_in p_out) p_out level).mode ⟨p_out.toNat,hout⟩=true ∧
      (driven (looped b p_in p_out) p_out level).latch ⟨p_out.toNat,hout⟩=isSet level := by
  have hval : p_in.toNat≠p_out.toNat := fun he => hne (BitVec.eq_of_toNat_eq he)
  refine ⟨?_,?_,?_,if_pos rfl⟩
  · exact (if_neg hval).trans (if_pos rfl)
  · exact (if_neg hval).trans (if_pos rfl)
  · exact if_pos rfl

/-- With a wire between them the rounds pass. -/
theorem roundsPass_shorted (hin : p_in.toNat<USB_IO16_MAX_PIN_NUM) (hout : p_out.toNat<USB_IO16_MAX_PIN_NUM)
    (hne : p_in≠p_out) (hwire : Shorted applied p_in.toNat p_out.toNat) (b : Pins) (n m : ℕ) :
    RoundsPass applied (looped b p_in p_out) p_out ⟨p_in.toNat,hin⟩ n m := by
  have hlevel : ∀ level i,reads applied (driven (looped b p_in p_out) p_out level) ⟨p_in.toNat,hin⟩ i=isSet level := by
    intro level i
    obtain ⟨hmode,-,hmode',hlatch⟩ := looped_pins hin hout hne b level
    rw [reads,Pins.level,hmode,if_neg Bool.false_ne_true,hwire i _ _ ⟨p_out.toNat,hout⟩ rfl rfl hmode hmode',hlatch]
  intro j _
  rw [hlevel,hlevel]
  exact ⟨rfl,rfl⟩

/-- With nothing on the input they do not. -/
theorem not_roundsPass_unconnected (hin : p_in.toNat<USB_IO16_MAX_PIN_NUM) (hout : p_out.toNat<USB_IO16_MAX_PIN_NUM)
    (hne : p_in≠p_out) (hopen : Unconnected applied p_in.toNat) (b : Pins) (n m : ℕ) :
    ¬RoundsPass applied (looped b p_in p_out) p_out ⟨p_in.toNat,hin⟩ n (m+1) := by
  intro h
  obtain ⟨hmode,hpull,-⟩ := looped_pins hin hout hne b 0
  have hlow := (h 0 (Nat.succ_pos m)).1
  rw [reads,Pins.level,hmode,if_neg Bool.false_ne_true,hopen _ _ _ rfl hmode hpull] at hlow
  exact Bool.false_ne_true hlow.symm

/-- Nor does it matter what is on a pin that is input and output at once:
it reads back what it drives. -/
theorem roundsPass_same (hin : p_in.toNat<USB_IO16_MAX_PIN_NUM) (b : Pins) (n m : ℕ) :
    RoundsPass applied (looped b p_in p_in) p_in ⟨p_in.toNat,hin⟩ n m := by
  have hlevel : ∀ level i,reads applied (driven (looped b p_in p_in) p_in level) ⟨p_in.toNat,hin⟩ i=isSet level := by
    intro level i
    have hmode : (driven (looped b p_in p_in) p_in level).mode ⟨p_in.toNat,hin⟩=true := if_pos rfl
    rw [reads,Pins.level,if_pos hmode]
    exact if_pos rfl
  intro j _
  rw [hlevel,hlevel]
  exact ⟨rfl,rfl⟩

end Wires

section Frame

variable {k : Pin} {p_in p_out : BitVec 32}

/-- Calls about another pin spare this one, and so do all reads. -/
theorem spares_mode {pinIndex : BitVec 32} (hne : k.val≠pinIndex.toNat) (mode innerPullUp : BitVec 32) :
    Spares k (.setPinMode pinIndex mode innerPullUp) := ⟨if_neg hne,if_neg hne,rfl,rfl⟩

theorem spares_level {pinIndex : BitVec 32} (hne : k.val≠pinIndex.toNat) (level : BitVec 32) :
    Spares k (.writeOutputPinValue pinIndex level) := ⟨rfl,rfl,if_neg hne,rfl⟩

theorem spares_read (pinIndex : BitVec 32) (level : Option (BitVec 32)) :
    Spares k (.readInputPinValue pinIndex level) := ⟨rfl,rfl,rfl,rfl⟩

/-- An assertion makes no call. -/
theorem calls_check {R : Type} {P : PinCall → Prop} (r : Answer) {next : Prog PinCall Answer (Except Raised R)}
    (h : next.Calls P) : (check r next).Calls P := by
  unfold check
  split
  · trivial
  · exact h

/-- The test of the script spares all pins but its two. -/
theorem testPins_spares (hin : k.val≠p_in.toNat) (hout : k.val≠p_out.toNat) :
    (testPins p_in p_out).Calls (Spares k) := by
  have hrounds : ∀ m readval,(togglePins p_in p_out m readval).Calls (Spares k) := by
    intro m
    induction m with
    | zero => exact fun _ => trivial
    | succ m ih =>
      have hhalf : ∀ level readval (f : BitVec 32 → Prog PinCall Answer (Except Raised Bool)),
          (∀ x,(f x).Calls (Spares k)) → (writeRead p_in p_out level readval f).Calls (Spares k) := by
        intro level readval f hf
        refine (Prog.Calls.ask (spares_level hout level)).bind fun r => calls_check r ?_
        exact (Prog.Calls.ask (spares_read p_in _)).bind fun r => calls_check r (hf _)
      intro readval
      rw [togglePins_succ]
      refine hhalf _ _ _ fun low => ?_
      split
      · trivial
      · refine hhalf _ _ _ fun high => ?_
        split
        · trivial
        · exact ih high
  refine (Prog.Calls.ask (spares_mode hin 0 1)).bind fun r => calls_check r ?_
  refine (Prog.Calls.ask (spares_mode hout 1 0)).bind fun r => calls_check r ?_
  exact (Prog.Calls.ask (spares_read p_in _)).bind fun r => calls_check r (hrounds 3 _)

end Frame

section System

variable (fails : ℕ → Option Failure) (applied : Wiring) (target : Target) {heap : Heap} {w : LibusbWorld Bench}
  {nodes : List Ptr} {a : Ptr} {p_in p_out : BitVec 32}

/-- None of the next fifteen transfers fails. -/
def AllSent (fails : ℕ → Option Failure) (w : LibusbWorld Bench) : Prop := ∀ j<15,fails (w.env.transfers+j)=none

/-- What the loopback test of the script on the board of the node `a` means
when it has returned `r` and led to `v`. -/
structure LoopbackLaw (heap : Heap) (w : LibusbWorld Bench) (a : Ptr) (p_in p_out : BitVec 32)
    (r : Except Raised Bool) (v : LibusbWorld Bench) : Prop where
  /-- It is true exactly when no transfer fails and the command line test on
  the same pins prints low and high in turn. -/
  printed : ∃ values v',(ioLoopbk p_in p_out).exec (pinMachine (libusbHid (wiredEnv fails applied) target) heap a) w=
    some (values,v') ∧ (r=.ok true ↔ AllSent fails w ∧ values.tail=[0,1,0,1,0,1])
  /-- With a wire between the pins only a failing transfer can stop it, … -/
  shorted : p_in≠p_out → Shorted (fun n => applied n (handleOf heap w a)) p_in.toNat p_out.toNat →
    (r=.ok true ↔ AllSent fails w)
  /-- … as for a pin with itself, … -/
  same : p_in=p_out → (r=.ok true ↔ AllSent fails w)
  /-- … and with nothing on the input it never passes. -/
  unconnected : p_in≠p_out → Unconnected (fun n => applied n (handleOf heap w a)) p_in.toNat → r≠.ok true
  /-- All other pins of the board and its LED are as before, … -/
  spares : ∀ k : Pin,k.val≠p_in.toNat → k.val≠p_out.toNat →
    SameAt k (w.env.boards (handleOf heap w a)).toPins (v.env.boards (handleOf heap w a)).toPins
  /-- … and so is the board behind every other handle, in the list or not. -/
  others : ∀ b,b≠handleOf heap w a → v.env.boards b=w.env.boards b

/-- Transfers that do not fail. -/
theorem clean_iff (w : LibusbWorld Bench) : Clean (failing fails) w.env.transfers 15 ↔ AllSent fails w :=
  forall_congr' fun _ => imp_congr_right fun _ => Option.isSome_eq_false_iff.trans Option.isNone_iff_eq_none

/-- What the loopback test of the script finds out, on any board of a list,
on any two pins, however the pins are wired and whichever transfers fail. -/
theorem testPins_law (hlist : BoardList heap w nodes) (ha : a∈nodes) (hin : p_in.toNat<USB_IO16_MAX_PIN_NUM)
    (hout : p_out.toNat<USB_IO16_MAX_PIN_NUM) :
    ∃ r v,(testPins p_in p_out).exec (pinMachine (libusbHid (wiredEnv fails applied) target) heap a) w=some (r,v) ∧
      LoopbackLaw fails applied target heap w a p_in p_out r v := by
  obtain ⟨r,v,t,hrun,hlone,hv⟩ := program_alone fails applied target hlist ha (testPins p_in p_out)
  obtain ⟨values,v',t',hvalues,hprinted,-⟩ := program_alone fails applied target hlist ha (ioLoopbk p_in p_out)
  obtain ⟨r',u,hr',hiff⟩ := @testPins_run (failing fails) (fun n => applied n (handleOf heap w a)) p_in p_out hin hout
    ((arraysOf heap w).pins a) w.env.transfers
  obtain ⟨rfl,rfl⟩ := Prod.mk.inj (Option.some.inj (hlone.symm.trans hr'))
  rw [clean_iff] at hiff
  have hpass : ∀ {P : Prop},(AllSent fails w → (RoundsPass (fun n => applied n (handleOf heap w a))
      (looped ((arraysOf heap w).pins a) p_in p_out) p_out ⟨p_in.toNat,hin⟩ (w.env.transfers+3) 3 ↔ P)) →
      (r=.ok true ↔ AllSent fails w ∧ P) := fun h => hiff.trans (and_congr_right h)
  refine ⟨r,v,hrun,⟨values,v',hvalues,hpass fun hsent => ?_⟩,?_,?_,?_,?_,?_⟩
  · obtain ⟨first,u',hu'⟩ := @ioLoopbk_run (failing fails) (fun n => applied n (handleOf heap w a)) p_in p_out hin hout
      ((arraysOf heap w).pins a) w.env.transfers ((clean_iff fails w).mpr hsent)
    obtain ⟨rfl,-⟩ := Prod.mk.inj (Option.some.inj (hprinted.symm.trans hu'))
    exact (roundValues_eq_iff _ 3).symm
  · intro hne hwire
    exact (hpass fun _ => iff_true_intro (roundsPass_shorted hin hout hne hwire _ _ _)).trans (and_iff_left trivial)
  · rintro rfl
    exact (hpass fun _ => iff_true_intro (roundsPass_same hin _ _ _)).trans (and_iff_left trivial)
  · intro hne hopen hr
    exact not_roundsPass_unconnected hin hout hne hopen _ _ 2 (hiff.mp hr).2
  · intro k hkin hkout
    obtain ⟨r',u,hu,hsame⟩ := program_spares (testPins_spares hkin hkout) (loneOf heap w a)
    obtain ⟨-,rfl⟩ := Prod.mk.inj (Option.some.inj (hlone.symm.trans hu))
    rw [hv.board]
    exact hsame
  · exact fun b hb => hv.others hb

theorem testPins_law_twoBoards :
    ∃ r v,(testPins 2 5).exec (pinMachine (libusbHid (wiredEnv secondFails fun _ _ b _ => b.latch ⟨5,by decide⟩)
        ⟨true,fun _ => 0⟩) twoBoardHeap 1) twoBoardWorld=some (r,v) ∧
      LoopbackLaw secondFails (fun _ _ b _ => b.latch ⟨5,by decide⟩) ⟨true,fun _ => 0⟩ twoBoardHeap twoBoardWorld 1
        2 5 r v ∧
      ∀ b,b≠1 → v.env.boards b=twoBoardWorld.env.boards b := by
  obtain ⟨r,v,hrun,hlaw⟩ := @testPins_law secondFails (fun _ _ b _ => b.latch ⟨5,by decide⟩) ⟨true,fun _ => 0⟩
    twoBoardHeap twoBoardWorld [1,2] 1 2 5 twoBoards_boardList (by decide) (by decide) (by decide)
  exact ⟨r,v,hrun,hlaw,hlaw.others⟩

end System

section Round

variable {fails : ℕ → Bool} {applied : ℕ → Pins → Pin → Bool}

/-- A call either goes through or fails, and takes one transfer. -/
theorem lone_either {c : PinCall} (hgood : c.ArgsOk) (b : Pins) (n : ℕ) :
    ∃ x,loneMachine fails applied c ⟨b,n⟩=some (x,⟨if fails n=true then b else exec b c,n+1⟩) := by
  cases hf : fails n with
  | true => exact ⟨_,lone_fail hgood hf⟩
  | false => exact ⟨_,lone_done hgood hf⟩

/-- What making a pin an output at some level comes to, where the two
transfers for it are the n-th and the next. -/
structure PinSwept (fails : ℕ → Bool) (level : BitVec 32) (n : ℕ) (k : Pin) (b b' : Pins) : Prop where
  /-- Its mode. -/
  mode : b'.mode k=if fails n=true then b.mode k else true
  /-- Its pull-up. -/
  pullUp : b'.pullUp k=if fails n=true then b.pullUp k else false
  /-- Its latch. -/
  latch : b'.latch k=if fails (n+1)=true then b.latch k else isSet level

/-- It does not matter what stays the same before and after. -/
theorem PinSwept.same {level : BitVec 32} {n : ℕ} {k : Pin} {b b1 b2 b3 : Pins} (h : PinSwept fails level n k b1 b2)
    (hbefore : SameAt k b b1) (hafter : SameAt k b2 b3) : PinSwept fails level n k b b3 := by
  refine ⟨?_,?_,?_⟩
  · rw [hafter.mode,h.mode,hbefore.mode]
  · rw [hafter.pullUp,h.pullUp,hbefore.pullUp]
  · rw [hafter.latch,h.latch,hbefore.latch]

/-- One pin: it becomes an output, and the others and the LED stay. -/
theorem onePin_run (level : BitVec 32) {i : ℕ} (hi : i<USB_IO16_MAX_PIN_NUM) (b : Pins) (n : ℕ) :
    ∃ x b',((Prog.ask (.setPinMode (BitVec.ofNat 32 i) OUTPUT_MODE NO_INNER_PULL_UP)).bind fun _ =>
        Prog.ask (.writeOutputPinValue (BitVec.ofNat 32 i) level)).exec (loneMachine fails applied) ⟨b,n⟩=
      some (x,⟨b',n+2⟩) ∧ b'.led=b.led ∧
        ∀ k : Pin,(k.val≠i → SameAt k b b') ∧ (k.val=i → PinSwept fails level n k b b') := by
  have hval : (BitVec.ofNat 32 i).toNat=i := by
    have h16 : i<16 := hi
    rw [BitVec.toNat_ofNat]
    exact Nat.mod_eq_of_lt (by omega)
  have hset : (PinCall.setPinMode (BitVec.ofNat 32 i) OUTPUT_MODE NO_INNER_PULL_UP).ArgsOk := by
    rw [PinCall.ArgsOk,hval]
    exact hi
  have hwrite : (PinCall.writeOutputPinValue (BitVec.ofNat 32 i) level).ArgsOk := by
    rw [PinCall.ArgsOk,hval]
    exact hi
  obtain ⟨x,hx⟩ := @lone_either fails applied _ hset b n
  obtain ⟨y,hy⟩ := @lone_either fails applied _ hwrite
    (if fails n=true then b else exec b (.setPinMode (BitVec.ofNat 32 i) OUTPUT_MODE NO_INNER_PULL_UP)) (n+1)
  refine ⟨y,_,by rw [Prog.exec_bind,Prog.exec_ask,hx,Option.bind_some,Prog.exec_ask,hy],?_,fun k => ⟨fun hk => ?_,fun hk => ?_⟩⟩
  · split <;> split <;> rfl
  · have hno : ∀ (row : Pin → Bool) (v : Bool),setAt row i v k=row k := fun row v => if_neg hk
    refine ⟨?_,?_,?_,?_⟩ <;> split <;> split <;> simp only [exec,hval,hno]
  · have hyes : ∀ (row : Pin → Bool) (v : Bool),setAt row i v k=v := fun row v => if_pos hk
    refine ⟨?_,?_,?_⟩ <;> split <;> split <;> simp only [exec,hval,hyes] <;> rfl

/-- Some pins in turn, from the one with number `s` on. The induction is on
how many they are. -/
theorem pins_run (level : BitVec 32) (m s : ℕ) (hm : s+m≤USB_IO16_MAX_PIN_NUM) (b : Pins) (n : ℕ) :
    ∃ x b',(Prog.each (fun i => (Prog.ask (.setPinMode (BitVec.ofNat 32 i) OUTPUT_MODE NO_INNER_PULL_UP)).bind fun _ =>
        Prog.ask (.writeOutputPinValue (BitVec.ofNat 32 i) level)) (List.range' s m)).exec
          (loneMachine fails applied) ⟨b,n⟩=some (x,⟨b',n+2*m⟩) ∧ b'.led=b.led ∧
        ∀ k : Pin,(¬(s≤k.val ∧ k.val < s+m) → SameAt k b b') ∧
          (s≤k.val ∧ k.val < s+m → PinSwept fails level (n+2*(k.val-s)) k b b') := by
  induction m generalizing s b n with
  | zero => exact ⟨[],b,rfl,rfl,fun k => ⟨fun _ => ⟨rfl,rfl,rfl,rfl⟩,fun hk => by omega⟩⟩
  | succ m ih =>
    obtain ⟨x,b1,hx,hled,hpin⟩ := @onePin_run fails applied level s (by omega) b n
    obtain ⟨y,b2,hy,hled',hpins⟩ := ih (s+1) (by omega) b1 (n+2)
    have hcount : n+2+2*m=n+2*(m+1) := by omega
    rw [hcount] at hy
    refine ⟨x::y,b2,?_,hled'.trans hled,fun k => ?_⟩
    · rw [List.range'_succ,Prog.each,Prog.exec_bind,hx,Option.bind_some]
      dsimp only
      rw [Prog.exec_bind,hy,Option.bind_some,Prog.exec_ret]
    obtain ⟨hsame,hswept⟩ := hpin k
    obtain ⟨hsame',hswept'⟩ := hpins k
    refine ⟨fun hk => (hsame (by omega)).trans (hsame' (by omega)),fun hk => ?_⟩
    by_cases hks : k.val=s
    · have hfirst := (hswept hks).same ⟨rfl,rfl,rfl,rfl⟩ (hsame' (by omega))
      rwa [hks,Nat.sub_self,Nat.mul_zero,Nat.add_zero]
    · have hlater := (hswept' (by omega)).same (hsame hks) ⟨rfl,rfl,rfl,rfl⟩
      have hplace : n+2+2*(k.val-(s+1))=n+2*(k.val-s) := by omega
      rwa [hplace] at hlater

/-- All pins. -/
theorem allPins_run (level : BitVec 32) (b : Pins) (n : ℕ) :
    ∃ x b',(allPins level).exec (loneMachine fails applied) ⟨b,n⟩=some (x,⟨b',n+32⟩) ∧ b'.led=b.led ∧
      ∀ k : Pin,PinSwept fails level (n+2*k.val) k b b' := by
  obtain ⟨x,b',hx,hled,hpins⟩ := @pins_run fails applied level 16 0 le_rfl b n
  refine ⟨x,b',?_,hled,fun k => (hpins k).2 ⟨Nat.zero_le _,?_⟩⟩
  · rw [allPins,List.range_eq_range']
    exact hx
  · exact k.isLt.trans_eq (Nat.zero_add 16).symm

/-- What a round of the original test leaves on a board, where its first
transfer is the n-th. When that fails, nothing has changed. Otherwise the LED
is on, and each pin is an output without pull-up at the low level, except for
what its own transfers did not bring about. -/
structure RoundLeft (fails : ℕ → Bool) (n : ℕ) (b b' : Pins) (x : Bool) : Prop where
  /-- The test stops exactly when the LED cannot be switched on. -/
  stops : x=false ↔ fails n=true
  /-- Then the board is as it was. -/
  stopped : x=false → b'=b
  /-- Otherwise its LED is on, … -/
  led : x=true → b'.led=true
  /-- … each pin is an output unless this failed both times, … -/
  mode : x=true → ∀ k : Pin,b'.mode k=
    if fails (n+1+2*k.val)=true ∧ fails (n+33+2*k.val)=true then b.mode k else true
  /-- … its pull-up is off unless this failed both times, … -/
  pullUp : x=true → ∀ k : Pin,b'.pullUp k=
    if fails (n+1+2*k.val)=true ∧ fails (n+33+2*k.val)=true then b.pullUp k else false
  /-- … and its latch is low, unless that failed; then it is high, unless that
  failed too. -/
  latch : x=true → ∀ k : Pin,b'.latch k=
    if fails (n+34+2*k.val)=true then if fails (n+2+2*k.val)=true then b.latch k else true else false

/-- The round, transfer by transfer. -/
theorem origLoopBody_run (b : Pins) (n : ℕ) :
    ∃ x t,origLoopBody.exec (loneMachine fails applied) ⟨b,n⟩=some (x,t) ∧ RoundLeft fails n b t.pins x := by
  have hled : (PinCall.setWorkLedMode WORK_LED_BLINK).ArgsOk := trivial
  rw [origLoopBody,Prog.exec_bind,Prog.exec_ask]
  cases hf : fails n with
  | true =>
    have hno : ∀ {P : Prop},false=true → P := fun he => absurd he Bool.false_ne_true
    rw [lone_fail hled hf,Option.bind_some]
    exact ⟨false,⟨b,n+1⟩,rfl,iff_of_true rfl hf,fun _ => rfl,hno,hno,hno,hno⟩
  | false =>
    obtain ⟨y,b1,hy,hled1,hpins1⟩ := @allPins_run fails applied HIGH_LVL (exec b (.setWorkLedMode WORK_LED_BLINK)) (n+1)
    obtain ⟨z,b2,hz,hled2,hpins2⟩ := @allPins_run fails applied LOW_LVL b1 (n+1+32)
    have hstop : ¬(answer b (applied n b) (.setWorkLedMode WORK_LED_BLINK)).ok=false := fun he => Bool.false_ne_true he.symm
    have hyes : ∀ {P : Prop},true=false → P := fun he => absurd he.symm Bool.false_ne_true
    have hgo : ¬fails n=true := by
      rw [hf]
      exact Bool.false_ne_true
    rw [lone_done hled hf,Option.bind_some]
    dsimp only
    rw [if_neg hstop,Prog.exec_bind,hy,Option.bind_some]
    dsimp only
    rw [Prog.exec_bind,hz,Option.bind_some,Prog.exec_ret]
    have h33 : ∀ k : Pin,n+1+32+2*k.val=n+33+2*k.val := fun k => by omega
    have h34 : ∀ k : Pin,n+33+2*k.val+1=n+34+2*k.val := fun k => by omega
    have h2 : ∀ k : Pin,n+1+2*k.val+1=n+2+2*k.val := fun k => by omega
    refine ⟨true,_,rfl,iff_of_false (fun he => Bool.false_ne_true he.symm) hgo,hyes,fun _ => ?_,fun _ k => ?_,fun _ k => ?_,
      fun _ k => ?_⟩
    · rw [hled2,hled1]
      rfl
    · rw [(hpins2 k).mode,(hpins1 k).mode,h33]
      cases fails (n+33+2*k.val) <;> cases fails (n+1+2*k.val) <;> rfl
    · rw [(hpins2 k).pullUp,(hpins1 k).pullUp,h33]
      cases fails (n+33+2*k.val) <;> cases fails (n+1+2*k.val) <;> rfl
    · rw [(hpins2 k).latch,(hpins1 k).latch,h33,h34,h2]
      rfl

end Round

section Boards

variable (fails : ℕ → Option Failure) (applied : Wiring) (target : Target) {heap : Heap} {w : LibusbWorld Bench}
  {nodes : List Ptr} {a : Ptr}

/-- What a round of the original test does: to the board it is made on what
its transfers bring about, however the pins are wired, and nothing to the
boards behind all other handles. -/
theorem origLoopBody_law (hlist : BoardList heap w nodes) (ha : a∈nodes) :
    ∃ x v,origLoopBody.exec (pinMachine (libusbHid (wiredEnv fails applied) target) heap a) w=some (x,v) ∧
      RoundLeft (failing fails) w.env.transfers (w.env.boards (handleOf heap w a)).toPins
        (v.env.boards (handleOf heap w a)).toPins x ∧
      ∀ b,b≠handleOf heap w a → v.env.boards b=w.env.boards b := by
  obtain ⟨x,v,t,hrun,hlone,hv⟩ := program_alone fails applied target hlist ha origLoopBody
  obtain ⟨y,u,hu,hleft⟩ := @origLoopBody_run (failing fails) (fun n => applied n (handleOf heap w a))
    ((arraysOf heap w).pins a) w.env.transfers
  obtain ⟨rfl,rfl⟩ := Prod.mk.inj (Option.some.inj (hlone.symm.trans hu))
  refine ⟨x,v,hrun,?_,fun b hb => hv.others hb⟩
  rw [hv.board]
  exact hleft

theorem origLoopBody_law_twoBoards :
    ∃ x v,origLoopBody.exec (pinMachine (libusbHid (wiredEnv secondFails fun _ _ b k => b.latch k) ⟨true,fun _ => 0⟩)
        twoBoardHeap 2) twoBoardWorld=some (x,v) ∧
      RoundLeft (failing secondFails) 0 blankBoard.toPins (v.env.boards 2).toPins x ∧
      ∀ b,b≠2 → v.env.boards b=twoBoardWorld.env.boards b :=
  origLoopBody_law secondFails (fun _ _ b k => b.latch k) ⟨true,fun _ => 0⟩ twoBoards_boardList (by decide)

end Boards

end UsbIo16.LoopbackTests
